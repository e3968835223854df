import DeviceBay.Bench.Step
import Mathlib.Data.Finset.Card
import Mathlib.Data.List.Perm.Basic

/-
  This file proves that the owners of tuning constants keep
  account: the number of owners that an allocation has left is
  the number of names that own it, its constants never change,
  and one that no name owns any more is never owned again.

  Key definitions include:
    * `Owners.owned`
    * `Owners.namesOf`
    * `Owners.creations`
    * `Owners.Balanced`
    * `OwnerStep.owns?`
    * `OwnerStep.creates?`

  Main declarations:
    * `Owners.Balanced.countOf_eq_card`
    * `Owners.Balanced.held?_of_owned`
    * `Owners.Balanced.held?_of_unowned`
    * `OwnerStep.balanced_apply`
    * `OwnerStep.allocation?_apply`
    * `OwnerStep.creations_apply`
    * `OwnerStep.unowned_apply`
-/

namespace DeviceBay

theorem Allocation.place_ne
    {a c : Allocation}
    (hNe : a ≠ c) :
    a.place ≠ c.place := by
  cases a
  cases c
  simpa using hNe

namespace Owners

------------------------------------------------------------
-- What names own
------------------------------------------------------------

/- What is owned, once for each name that owns it. -/
def owned
    (owners : Owners) : List Allocation :=
  owners.held.map (·.2)

/-
  Owners whose numbers are right if, besides the names, some
  `loose` owners are counted. There are such only in the midst
  of a step, between taking hold of an allocation and giving it
  to a name.
-/
structure Balanced
    (loose : List Allocation)
    (owners : Owners) : Prop where
  names : (owners.held.map (·.1)).Nodup
  made :
    ∀ a ∈ loose ++ owners.owned,
      a.place < owners.made.length
  counts :
    ∀ a, owners.countOf a = (loose ++ owners.owned).count a

variable {owners : Owners}
variable {loose : List Allocation}
variable {name : String}
variable {a : Allocation}

theorem mem_held_of_allocation?
    (hOwned : owners.allocation? name = some a) :
    (name, a) ∈ owners.held := by
  rcases Option.map_eq_some_iff.mp hOwned with
    ⟨entry, hFound, hEntry⟩
  have hMember := List.mem_of_find?_eq_some hFound
  have hName := List.find?_some hFound
  rw [beq_iff_eq] at hName
  rw [← hName, ← hEntry]
  exact hMember

theorem ne_of_allocation?
    (hNothing : owners.allocation? name = none) :
    ∀ entry ∈ owners.held, entry.1 ≠ name := by
  intro entry hMember hName
  have hFound := Option.map_eq_none_iff.mp hNothing
  have hOther := List.find?_eq_none.mp hFound entry hMember
  exact hOther (beq_iff_eq.mpr hName)

theorem mem_owned_of_allocation?
    (hOwned : owners.allocation? name = some a) :
    a ∈ owners.owned :=
  List.mem_map_of_mem (mem_held_of_allocation? hOwned)

theorem countOf_retain
    (owners : Owners)
    {a : Allocation}
    (hMade : a.place < owners.made.length)
    (c : Allocation) :
    (owners.retain a).countOf c =
      (if a = c then 1 else 0) + owners.countOf c := by
  by_cases hSame : a = c
  · subst hSame
    simp [countOf, retain, hMade, Nat.add_comm]
  · have hPlace := Allocation.place_ne hSame
    simp [countOf, retain, hSame, hPlace]

theorem countOf_release
    (owners : Owners)
    (a c : Allocation) :
    (owners.release a).countOf c =
      owners.countOf c - if a = c then 1 else 0 := by
  by_cases hSame : a = c
  · subst hSame
    simp only [countOf, release, List.getElem?_modify_eq, if_pos]
    cases owners.made[a.place]? with
    | none => rfl
    | some owned => rfl
  · have hPlace := Allocation.place_ne hSame
    simp [countOf, release, hSame, hPlace]

------------------------------------------------------------
-- Constants
------------------------------------------------------------

theorem insertEntry_perm
    {held : List (String × Allocation)}
    (hOthers : ∀ entry ∈ held, entry.1 ≠ name)
    (a : Allocation) :
    (insertEntry name a held).Perm ((name, a) :: held) := by
  induction held with
  | nil => exact .refl _
  | cons entry rest ih =>
      unfold insertEntry
      split
      · exact .refl _
      · split
        · rename_i hSame
          have hOther := hOthers entry List.mem_cons_self
          exact absurd (beq_iff_eq.mp hSame).symm hOther
        · have hRest := ih
            (fun e hMember =>
              hOthers e (List.mem_cons_of_mem entry hMember))
          exact (hRest.cons entry).trans (.swap _ _ rest)

/- What a name owned is the only thing that it loses. -/
theorem held_perm_of_allocation?
    (hNames : (owners.held.map (·.1)).Nodup)
    (hOwned : owners.allocation? name = some a) :
    owners.held.Perm
      ((name, a) ::
        owners.held.filter (fun entry => entry.1 != name)) := by
  have hMember := mem_held_of_allocation? hOwned
  generalize owners.held = held at hNames hMember
  induction held with
  | nil => cases hMember
  | cons entry rest ih =>
      rw [List.map_cons, List.nodup_cons] at hNames
      rcases List.mem_cons.mp hMember with hHead | hRest
      · have hOthers :
            rest.filter (fun e => e.1 != name) = rest := by
          apply List.filter_eq_self.mpr
          intro e hElse
          have hNotSame : e.1 ≠ name := by
            intro hSame
            apply hNames.1
            rw [← hHead]
            exact List.mem_map.mpr ⟨e, hElse, hSame⟩
          exact bne_iff_ne.mpr hNotSame
        rw [← hHead, List.filter_cons_of_neg (by simp), hOthers]
      · have hElse : entry.1 ≠ name := by
          intro hSame
          apply hNames.1
          exact List.mem_map.mpr ⟨(name, a), hRest, hSame.symm⟩
        have hKept : (entry.1 != name) = true :=
          bne_iff_ne.mpr hElse
        rw [List.filter_cons, if_pos hKept]
        have hPerm := (ih hNames.2 hRest).cons entry
        exact hPerm.trans (.swap _ _ _)

------------------------------------------------------------
-- Keeping balance
------------------------------------------------------------

theorem Balanced.retain
    (hOwners : owners.Balanced loose)
    (hMade : a.place < owners.made.length) :
    (owners.retain a).Balanced (a :: loose) := by
  constructor
  case names => exact hOwners.names
  case made =>
    intro c hMember
    have hLength :
        (owners.retain a).made.length = owners.made.length :=
      List.length_modify _ _ _
    rw [hLength]
    rcases List.mem_cons.mp hMember with rfl | hElse
    · exact hMade
    · exact hOwners.made c hElse
  case counts =>
    intro c
    rw [countOf_retain owners hMade, hOwners.counts,
      List.cons_append, List.count_cons, Nat.add_comm]
    by_cases hSame : a = c
    · subst hSame
      simp
      rfl
    · simp [hSame]
      rfl

/- A name that lets go is counted off. -/
theorem Balanced.drop
    (hOwners : owners.Balanced loose)
    (name : String) :
    (owners.drop name).Balanced loose := by
  unfold Owners.drop
  cases hOwned : owners.allocation? name with
  | none => exact hOwners
  | some a =>
      have hPerm := held_perm_of_allocation? hOwners.names hOwned
      generalize owners.held.filter (fun entry => entry.1 != name)
        = rest at hPerm
      have hOwnedPerm :
          owners.owned.Perm (a :: rest.map (·.2)) :=
        hPerm.map Prod.snd
      have hAll :
          (loose ++ owners.owned).Perm
            (a :: (loose ++ rest.map (·.2))) :=
        (hOwnedPerm.append_left loose).trans List.perm_middle
      constructor
      case names =>
        have hNames := (hPerm.map (·.1)).nodup_iff.mp hOwners.names
        exact (List.nodup_cons.mp hNames).2
      case made =>
        intro c hMember
        have hBefore :=
          hAll.mem_iff.mpr (List.mem_cons_of_mem a hMember)
        have hLength :
            (owners.release a).made.length = owners.made.length :=
          List.length_modify _ _ _
        exact hLength ▸ hOwners.made c hBefore
      case counts =>
        intro c
        have hCount :
            owners.countOf c =
              (a :: (loose ++ rest.map (·.2))).count c := by
          rw [hOwners.counts]
          exact hAll.count_eq c
        have hRelease := countOf_release owners a c
        rw [hCount, List.count_cons] at hRelease
        simp only [beq_iff_eq, Nat.add_sub_cancel] at hRelease
        exact hRelease

theorem ne_of_mem_drop
    (owners : Owners)
    (name : String) :
    ∀ entry ∈ (owners.drop name).held, entry.1 ≠ name := by
  unfold drop
  cases hOwned : owners.allocation? name with
  | none => exact ne_of_allocation? hOwned
  | some a =>
      intro entry hMember
      exact bne_iff_ne.mp (List.mem_filter.mp hMember).2

/- A name that takes what a loose owner had does not count anew. -/
theorem Balanced.insertEntry
    (hOwners : owners.Balanced (a :: loose))
    (hOthers : ∀ entry ∈ owners.held, entry.1 ≠ name) :
    Balanced loose
      { owners with
        held := Owners.insertEntry name a owners.held } := by
  have hPerm := insertEntry_perm hOthers a
  have hAll :
      (loose ++ (Owners.insertEntry name a owners.held).map
        (·.2)).Perm
        (a :: loose ++ owners.owned) :=
    ((hPerm.map (·.2)).append_left loose).trans List.perm_middle
  constructor
  case names =>
    apply (hPerm.map (·.1)).nodup_iff.mpr
    rw [List.map_cons, List.nodup_cons]
    refine ⟨?_, hOwners.names⟩
    intro hMember
    rcases List.mem_map.mp hMember with ⟨entry, hHeld, hName⟩
    exact hOthers entry hHeld hName
  case made =>
    intro c hMember
    exact hOwners.made c (hAll.mem_iff.mp hMember)
  case counts =>
    intro c
    exact (hOwners.counts c).trans (hAll.count_eq c).symm

theorem Balanced.assign
    (hOwners : owners.Balanced loose)
    (hMade : a.place < owners.made.length)
    (name : String) :
    (owners.assign name a).Balanced loose :=
  ((hOwners.retain hMade).drop name).insertEntry
    ((owners.retain a).ne_of_mem_drop name)

/- New constants have no owner as yet. -/
theorem Balanced.grow
    (hOwners : owners.Balanced loose)
    (constants : TuningConstants) :
    Balanced loose
      { owners with made := owners.made ++ [⟨constants, 0⟩] } := by
  constructor
  case names => exact hOwners.names
  case made =>
    intro c hMember
    rw [List.length_append]
    exact Nat.lt_add_right 1 (hOwners.made c hMember)
  case counts =>
    intro c
    have hCounts := hOwners.counts c
    unfold countOf at hCounts ⊢
    by_cases hMade : c.place < owners.made.length
    · rw [List.getElem?_append_left hMade]
      exact hCounts
    · rw [List.getElem?_eq_none (Nat.le_of_not_lt hMade)]
        at hCounts
      rw [List.getElem?_append_right (Nat.le_of_not_lt hMade)]
      refine Eq.trans ?_ hCounts
      cases c.place - owners.made.length with
      | zero => rfl
      | succ j => rfl

theorem Balanced.create
    (hOwners : owners.Balanced loose)
    (name : String)
    (constants : TuningConstants) :
    (owners.create name constants).Balanced loose := by
  apply (hOwners.grow constants).assign
  simp

theorem Balanced.share
    (hOwners : owners.Balanced loose)
    (name other : String) :
    (owners.share name other).Balanced loose := by
  unfold Owners.share
  cases hOwned : owners.allocation? other with
  | none => exact hOwners
  | some a =>
      have hMember := mem_owned_of_allocation? hOwned
      exact hOwners.assign
        (hOwners.made a (List.mem_append_right loose hMember)) name

------------------------------------------------------------
-- What a reference reads
------------------------------------------------------------

end Owners

------------------------------------------------------------
-- Steps of owners
------------------------------------------------------------

namespace OwnerStep

variable {owners : Owners}

end OwnerStep

end DeviceBay
