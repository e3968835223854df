import DeviceBay.Time.Duration
import DeviceBay.Binary64.Basic
import DeviceBay.Binary64.Decimal

/-
  This file defines the settings of a bay of devices.

  Key definitions include:
    * `Config`
    * `Config.standard`
    * `Config.eqv`
    * `Config.describe`
-/

namespace DeviceBay

/-
  A motor warmer than the temperature limit counts as too hot,
  and an inertial sensor calibrates for the calibration time.
-/
structure Config where
  temperatureLimit : Binary64 := Binary64.ofNat 40
  calibrationTime : Duration := Duration.ofParts 3 0
deriving DecidableEq

namespace Config

def standard : Config :=
  {}

/- Equality of settings, with limits compared as values. -/
def eqv
    (a b : Config) : Bool :=
  a.temperatureLimit.eqv b.temperatureLimit &&
    a.calibrationTime == b.calibrationTime

def describe
    (c : Config) : String :=
  "EmulatorConfig \x7b motor_over_temperature_threshold: " ++
    c.temperatureLimit.describe ++
    ", imu_calibration_time: " ++
    c.calibrationTime.describe ++ " \x7d"

end Config

end DeviceBay
