import DeviceBay.Bench.Names
import DeviceBay.Binary64.Hex
import DeviceBay.Proofs.Bench.ErrorCell
import DeviceBay.Proofs.Bench.GuardExactness
import DeviceBay.Proofs.Bench.RawRefinement
import DeviceBay.Proofs.Bench.SlotTyping
import DeviceBay.Proofs.Slot.Calibration
import DeviceBay.Proofs.Slot.Effect
import DeviceBay.Proofs.Bench.Target
import DeviceBay.Proofs.Bench.History
import DeviceBay.Proofs.Slot.Held
import DeviceBay.Proofs.Motor.Registers
import DeviceBay.Proofs.Bench.Cells
import DeviceBay.Proofs.Bench.MotorMemory
import DeviceBay.Proofs.Bench.ResetMemory
import DeviceBay.Proofs.Slot.Twins
import DeviceBay.Proofs.Bench.Padding
import DeviceBay.Proofs.Bench.CalibrationWindow
import DeviceBay.Proofs.Slot.Reports
import DeviceBay.Proofs.Bench.CalibrationEnd
import DeviceBay.Proofs.Bench.Timestamps
import DeviceBay.Proofs.Bay.Census
import DeviceBay.Proofs.Bench.Presence
import DeviceBay.Proofs.Time.Advance
import DeviceBay.Proofs.Time.Elapsed
import DeviceBay.Proofs.Tuning.Ownership
import DeviceBay.Proofs.Bench.TuningMemory
import DeviceBay.Proofs.Bench.Locality
import DeviceBay.Proofs.Bench.Isolation
import DeviceBay.Proofs.Slot.Restamped
import DeviceBay.Proofs.Bench.Reinstall
import DeviceBay.Proofs.Bench.Restamped
import DeviceBay.Proofs.Bay.Codes
import DeviceBay.Proofs.Bench.RawCensus
import DeviceBay.Proofs.Bench.TimeOrder
import DeviceBay.Proofs.Bench.Erasure
import DeviceBay.Proofs.Bench.StampCode
import DeviceBay.Proofs.Device.Codes
import DeviceBay.Proofs.Motor.Settings
import DeviceBay.Proofs.Bench.SettingCodes
import DeviceBay.Proofs.Bench.CalibrationSpan
import DeviceBay.Proofs.Slot.Lines
import DeviceBay.Proofs.Bench.LineMemory
import DeviceBay.Proofs.Bench.ReadingCount
import DeviceBay.Proofs.Motor.ModeChanges
import DeviceBay.Proofs.Bench.ModeLog
import DeviceBay.Proofs.Slot.SensorFields
import DeviceBay.Proofs.Bench.SensorMemory
import DeviceBay.Proofs.Binary64.Value
import DeviceBay.Proofs.Binary64.Truncation
import DeviceBay.Proofs.Binary64.Remainder
import DeviceBay.Proofs.Bench.RawPosition
import DeviceBay.Proofs.Bench.Yaw
