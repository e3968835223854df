import DeviceBay.Bench.Step

/-
  This file defines the names of the operations that take no
  arguments, as a program calls them.

  Key definitions include:
    * `DriverCheck.named`
    * `MotorQuery.named`
    * `ImuCall.named`
    * `HandleCall.named`
    * `BayCall.named`
    * `RawMotorCall.named`
    * `RawImuCall.named`
    * `RawRadioCall.named`
-/

namespace DeviceBay

------------------------------------------------------------
-- Drivers
------------------------------------------------------------

def DriverCheck.named : List (String × DriverCheck) :=
  [("port_index", .slotIndex), ("device_type", .deviceType),
    ("is_connected", .isConnected), ("timestamp", .timestamp),
    ("validate_port", .validate)]

def MotorQuery.named : List (String × MotorQuery) :=
  [("velocity", .velocity), ("actual_velocity", .actualVelocity),
    ("voltage", .voltage), ("position_target", .positionTarget),
    ("profile_velocity", .profileVelocity), ("mode", .mode),
    ("current_limit", .currentLimit),
    ("voltage_limit", .voltageLimit),
    ("position_tuning_constants", .positionTuning),
    ("velocity_tuning_constants", .velocityTuning),
    ("current", .current), ("power", .power), ("torque", .torque),
    ("efficiency", .efficiency), ("temperature", .temperature),
    ("is_over_temperature", .isOverTemperature),
    ("is_current_limited", .isCurrentLimited),
    ("is_zero_velocity", .isZeroVelocity),
    ("is_zero_position", .isZeroPosition), ("faults", .faults),
    ("flags", .flags), ("is_reversed", .isReversed),
    ("direction", .direction), ("encoder_units", .encoderUnits),
    ("brake_mode", .brakeMode), ("position", .position),
    ("raw_position", .rawPosition), ("gearset", .gearset)]

def ImuCall.named : List (String × ImuCall) :=
  [("heading", .ask .heading), ("degrees", .ask .degrees),
    ("attitude", .ask .attitude), ("raw_gyro", .ask .rawGyro),
    ("raw_accel", .ask .rawAccel),
    ("physical_orientation", .ask .orientation),
    ("quaternion", .quaternion), ("mode", .mode),
    ("reset", .reset), ("status", .status),
    ("is_calibrating", .isCalibrating)]

def OpticalQuery.named : List (String × OpticalQuery) :=
  [("color", .color), ("brightness", .brightness), ("rgb", .rgb)]

def GpsQuery.named : List (String × GpsQuery) :=
  [("offset", .offset), ("raw_position", .rawPosition)]

def RadioCall.named : List (String × RadioCall) :=
  [("unread_bytes", .unreadBytes), ("receive_free", .receiveFree),
    ("available_write_bytes", .availableWriteBytes),
    ("is_linked", .isLinked), ("flush", .flush)]

------------------------------------------------------------
-- Slots and bays
------------------------------------------------------------

def HandleCall.named : List (String × HandleCall) :=
  [("index", .index), ("device_type", .connectedType),
    ("timestamp", .timestamp), ("config", .config)]

def BayCall.named : List (String × BayCall) :=
  [("count", .count), ("status", .status), ("ports", .indices),
    ("now", .now), ("config", .config), ("debug", .describe)]

------------------------------------------------------------
-- Raw surface
------------------------------------------------------------

def RawMotorCall.named : List (String × RawMotorCall) :=
  [("motor_velocity_get", .velocityGet),
    ("motor_actual_velocity_get", .actualVelocityGet),
    ("motor_direction_get", .directionGet),
    ("motor_mode_get", .modeGet),
    ("motor_pwm_get", .pwmGet),
    ("motor_current_limit_get", .currentLimitGet),
    ("motor_voltage_limit_get", .voltageLimitGet),
    ("motor_current_get", .currentGet),
    ("motor_voltage_get", .voltageGet),
    ("motor_power_get", .powerGet),
    ("motor_torque_get", .torqueGet),
    ("motor_efficiency_get", .efficiencyGet),
    ("motor_temperature_get", .temperatureGet),
    ("motor_over_temp_flag_get", .overTemperatureGet),
    ("motor_current_limit_flag_get", .currentLimitFlagGet),
    ("motor_faults_get", .faultsGet),
    ("motor_zero_velocity_flag_get", .zeroVelocityFlagGet),
    ("motor_zero_position_flag_get", .zeroPositionFlagGet),
    ("motor_flags_get", .flagsGet),
    ("motor_reverse_flag_get", .reverseFlagGet),
    ("motor_encoder_units_get", .encoderUnitsGet),
    ("motor_brake_mode_get", .brakeModeGet),
    ("motor_position_get", .positionGet),
    ("motor_position_reset", .positionReset),
    ("motor_target_get", .targetGet),
    ("motor_gearing_get", .gearingGet)]

def RawImuCall.named : List (String × RawImuCall) :=
  [("imu_reset", .reset), ("imu_heading_get", .headingGet),
    ("imu_degrees_get", .degreesGet),
    ("imu_status_get", .statusGet), ("imu_mode_get", .modeGet)]

def RawRadioCall.named : List (String × RawRadioCall) :=
  [("radio_receive_avail", .receiveAvailable),
    ("radio_receive_free", .receiveFree),
    ("radio_link_status", .linkStatus),
    ("radio_write_free", .writeFree)]

def SurfaceCall.named : List (String × SurfaceCall) :=
  [("errno_get", .errno .get), ("errno_take", .errno .take),
    ("table_count", .bayCount), ("debug", .describe),
    ("devices_get_number", .directory .count),
    ("devices_get", .directory .deviceTypes)]

end DeviceBay
