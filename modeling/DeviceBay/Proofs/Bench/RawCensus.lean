import DeviceBay.Proofs.Bay.Codes
import DeviceBay.Proofs.Bench.Presence

/-
  This file proves what a raw surface tells of the devices in
  its bay. A snapshot gives the codes of all of them, and the
  counts are those of the codes unless the type of some device
  hides behind a code that means something else. A run that
  reads its types from codes never gets there.

  Key definitions include:
    * `Step.Coded`
    * `Bench.CountsCodes`

  Main declarations:
    * `Moment.exists_code_of_type?`
    * `Bench.countsCodes_iff`
    * `Bench.History.not_disguised`
    * `Bench.raw_counts_agree_with_snapshot`
-/

namespace DeviceBay

variable {n m : Nat}

------------------------------------------------------------
-- Types that are read from codes
------------------------------------------------------------

/- A step that puts in no type but one that is read from a code. -/
def Step.Coded : Step n m → Prop
  | .slot _ _ (.presence (.install (some t))) =>
      ∃ code, DeviceType.ofCode? code = some t
  | .slot _ _ (.presence (.plugIn t)) =>
      ∃ code, DeviceType.ofCode? code = some t
  | _ => True

namespace Moment

variable {b : Fin n} {i : SlotIndex}

/- What a raw surface puts in is read from a code anyway. -/
theorem exists_code_of_type?
    {x : Moment n m}
    {t : DeviceType}
    (hCoded : x.step.Coded)
    (hType : x.type? b i = some (some t)) :
    ∃ code, DeviceType.ofCode? code = some t := by
  rcases Option.bind_eq_some_iff.mp hType with
    ⟨c, hPresence, hSays⟩
  rcases (x.presenceCall?_eq_some_iff b i c).mp hPresence with
    hSlot | ⟨s, code, _, _, hInstall⟩
  · rw [hSlot] at hCoded
    cases c with
    | install installed =>
        cases hSays
        exact hCoded
    | plugIn plugged =>
        cases hSays
        exact hCoded
    | connect => cases hSays
    | disconnect => cases hSays
  · rw [hInstall] at hSays
    exact ⟨code, Option.some.inj hSays⟩

end Moment

namespace Bench

------------------------------------------------------------
-- Counts and codes
------------------------------------------------------------

/-
  The counts that a surface gives are those of the codes: for
  each code that means a device, and for all of these.
-/
structure CountsCodes
    (bench : Bench n m)
    (s : Fin m)
    (codes : List UInt8) : Prop where
  byCode :
    ∀ code, code ≠ DeviceType.noDeviceCode →
      (bench.step
        (.surface s (.directory (.countByCode code)))).2.answer =
          .raw (.nat (codes.count code)) (bench.surface s).errno
  all :
    (bench.step (.surface s (.directory .count))).2.answer =
      .raw
        (.nat
          (codes.countP
            (fun code => code ≠ DeviceType.noDeviceCode)))
        (bench.surface s).errno

theorem answer_eq_raw_iff
    (bench : Bench n m)
    (s : Fin m)
    {c : DirectoryCall}
    {count : Nat}
    (hCount :
      c.answer (bench.bay (bench.surface s).bay) = .nat count)
    (other : Nat) :
    (bench.step (.surface s (.directory c))).2.answer =
        .raw (.nat other) (bench.surface s).errno ↔
      count = other := by
  simp only [step, stepSurface, hCount, Answer.raw.injEq,
    Value.nat.injEq, and_true]

/- The counts are off exactly if some device is disguised. -/
theorem countsCodes_iff
    (bench : Bench n m)
    (s : Fin m) :
    bench.CountsCodes s (bench.bay (bench.surface s).bay).codes ↔
      ∀ i t,
        (bench.slot (bench.surface s).bay i).connectedType =
            some t →
          ¬ t.Disguised := by
  constructor
  · intro hCounts i t hThere
    have hAll := (bench.answer_eq_raw_iff s rfl _).mp hCounts.all
    have hCode := Bay.count_eq_countP_iff.mp hAll i t hThere
    rcases DeviceType.exists_ofCode? hCode with ⟨read, hRead⟩
    have hByCode := (bench.answer_eq_raw_iff s rfl _).mp
      (hCounts.byCode t.code hCode)
    have hOnly := (Bay.countByCodeIn_eq_count_iff hRead).mp hByCode
    rw [← DeviceType.ofCode?_code_eq_some_iff,
      hOnly i t hThere rfl, ← hRead, ← hOnly i t hThere rfl]
  · intro hPlain
    have hReads :
        ∀ i t,
          (bench.slot (bench.surface s).bay i).connectedType =
              some t →
            DeviceType.ofCode? t.code = some t := by
      intro i t hThere
      exact (DeviceType.ofCode?_code_eq_some_iff t).mpr
        (hPlain i t hThere)
    constructor
    · intro code hCode
      rcases DeviceType.exists_ofCode? hCode with ⟨read, hRead⟩
      apply (bench.answer_eq_raw_iff s rfl _).mpr
      apply (Bay.countByCodeIn_eq_count_iff hRead).mpr
      intro i t hThere hSame
      have hBack := hReads i t hThere
      rw [hSame, hRead] at hBack
      exact (Option.some.inj hBack).symm
    · apply (bench.answer_eq_raw_iff s rfl _).mpr
      apply Bay.count_eq_countP_iff.mpr
      intro i t hThere
      exact DeviceType.ne_noDeviceCode_of_ofCode? (hReads i t hThere)

------------------------------------------------------------
-- Histories
------------------------------------------------------------

section Histories

variable {past : List (Moment n m)} {bench : Bench n m}

theorem mem_of_lastWrite?
    {α : Type}
    {write? : Moment n m → Option α}
    {value : α}
    (hLast : lastWrite? write? past = some value) :
    ∃ x ∈ past, write? x = some value :=
  List.mem_filterMap.mp (List.mem_of_getLast? hLast)

/- Types that were read from codes read back from them. -/
theorem History.not_disguised
    (hPast : History past bench)
    (hCoded : ∀ x ∈ past, x.step.Coded)
    {b : Fin n}
    {i : SlotIndex}
    {t : DeviceType}
    (hThere : (bench.slot b i).connectedType = some t) :
    ¬ t.Disguised := by
  have hType :=
    (((bench.slot b i).connectedType_eq_some_iff t).mp hThere).2
  rw [hPast.deviceType_eq_last_write b i] at hType
  cases hLast : lastWrite? (Moment.type? b i) past with
  | none =>
      rw [hLast] at hType
      cases hType
  | some written =>
      rw [hLast] at hType
      rcases mem_of_lastWrite? hLast with ⟨x, hMember, hWrite⟩
      have hWritten : written = some t := hType
      rw [hWritten] at hWrite
      rcases Moment.exists_code_of_type? (hCoded x hMember) hWrite
        with ⟨code, hRead⟩
      rw [← DeviceType.ofCode?_code_eq_some_iff,
        DeviceType.code_of_ofCode? hRead]
      exact hRead

/-
  Whatever a buffer held before, a raw snapshot fills it with
  one code for each slot. The raw counts are those of the codes
  in that buffer exactly if no device is there whose type has
  no name but hides behind the code of no device or of a type
  with a name. There is none in a run whose types are all read
  from codes. Of the code of no device none are ever counted.
-/
theorem raw_counts_agree_with_snapshot
    (hPast : History past bench)
    (s : Fin m) :
    let b := (bench.surface s).bay
    let codes := (bench.bay b).codes
    (∀ buffer,
      bench.step (.surface s (.directory (.status buffer))) =
        (bench,
          { answer :=
              .raw (.codedBytes 0 codes) (bench.surface s).errno })) ∧
    codes =
      (List.finRange slotCount).map
        (fun i =>
          match (bench.slot b i).connectedType with
          | none => DeviceType.noDeviceCode
          | some t => t.code) ∧
    (bench.CountsCodes s codes ↔
      ∀ i code,
        (bench.slot b i).connectedType = some (.unknown code) →
          code ≠ DeviceType.noDeviceCode ∧
            ∀ t ∈ DeviceType.named, t.code ≠ code) ∧
    ((∀ x ∈ past, x.step.Coded) → bench.CountsCodes s codes) ∧
    (bench.step
      (.surface s
        (.directory
          (.countByCode DeviceType.noDeviceCode)))).2.answer =
        .raw (.nat 0) (bench.surface s).errno := by
  intro b codes
  have hPlain := bench.countsCodes_iff s
  refine ⟨?_, ?_, ?_, ?_, rfl⟩
  · intro buffer
    simp only [step, stepSurface, DirectoryCall.answer,
      Bay.fill_toList]
    rfl
  · apply List.map_congr_left
    intro i _
    show DirectoryCall.codeOf (bench.slot b i).connectedType = _
    cases (bench.slot b i).connectedType <;> rfl
  · rw [hPlain]
    constructor
    · intro hNone i code hThere
      exact (DeviceType.not_disguised_unknown_iff code).mp
        (hNone i _ hThere)
    · intro hNone i t hThere
      rcases t.mem_named_or_unknown with hNamed | ⟨code, rfl⟩
      · exact DeviceType.not_disguised_of_mem_named hNamed
      · exact (DeviceType.not_disguised_unknown_iff code).mpr
          (hNone i code hThere)
  · intro hCoded
    apply hPlain.mpr
    intro i t hThere
    exact hPast.not_disguised hCoded hThere

end Histories

/-
  A device under a code without a name, put in by a raw surface,
  and one that is plugged in under its name.
-/
def coded
    (b : Fin n)
    (s : Fin m) : List (Step n m) :=
  [.surface s (.install 5 77),
    .slot b 5 (.presence .connect),
    .slot b 6 (.presence (.plugIn .gps))]

theorem coded_moments
    (bench : Bench n m)
    (b : Fin n)
    (s : Fin m) :
    ∀ x ∈ bench.moments (coded b s), x.step.Coded := by
  intro x hMember
  simp only [coded, moments, List.mem_cons, List.not_mem_nil,
    or_false] at hMember
  rcases hMember with rfl | rfl | rfl
  · exact trivial
  · exact trivial
  · exact ⟨20, rfl⟩

/- A type that hides behind the code of a motor makes a difference. -/
theorem raw_counts_agree_with_snapshot_coded :
    let origin : Bench 1 1 :=
      Bench.fresh (.manual ⟨7⟩) (Vector.replicate 1 {}) #v[0]
    let bench := (origin.run (coded 0 0)).1
    bench.CountsCodes 0 (bench.bay 0).codes ∧
    (bench.bay 0).codes.count 77 = 1 ∧
    ¬ counterfeit.CountsCodes 0 (counterfeit.bay 0).codes := by
  intro origin bench
  have hPast : History (origin.moments (coded 0 0)) bench :=
    (History.fresh _ _ _).run (coded 0 0)
  have hOther : History [⟨_, _⟩] counterfeit :=
    (History.fresh _ _ _).step _
  have hCounts :=
    (raw_counts_agree_with_snapshot hPast 0).2.2.2.1
      (origin.coded_moments 0 0)
  have hDisguised :=
    (raw_counts_agree_with_snapshot hOther 0).2.2.1
  have hView (view : Fin 1) : view = 0 := Subsingleton.elim view 0
  rw [hView (bench.surface 0).bay] at hCounts
  rw [hView (counterfeit.surface 0).bay] at hDisguised
  refine ⟨hCounts, by decide +kernel, ?_⟩
  intro hAgree
  have hType :
      (counterfeit.slot 0 ⟨4, by decide⟩).connectedType =
        some (.unknown 2) := by
    decide +kernel
  have hNone := hDisguised.mp hAgree ⟨4, by decide⟩ 2 hType
  exact hNone.2 .motor (by decide) rfl

end Bench

end DeviceBay
