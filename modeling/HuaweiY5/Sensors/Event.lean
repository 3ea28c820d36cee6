import Mathlib.Data.BitVec

/-!
# `Sensors.Event` — sensor numbers, sensor events and enable masks

The constants of `hwmsensor.h` and `nusensors.h` the sensor HAL is written with, the event it hands to the
framework (`sensors_event_t`), the record the kernel's sensor drivers hand over (`hwm_sensor_data`), and the
bit masks several sensors of one driver share.
-/

namespace HuaweiY5.Sensors

/-! ## Sensor types and handles -/

/-- `SENSOR_TYPE_*`. -/
abbrev typeMetaData : Int := 0
abbrev typeAccelerometer : Int := 1
abbrev typeMagneticField : Int := 2
abbrev typeOrientation : Int := 3
abbrev typeGyroscope : Int := 4
abbrev typeLight : Int := 5
abbrev typePressure : Int := 6
abbrev typeTemperature : Int := 7
abbrev typeProximity : Int := 8
abbrev typeGravity : Int := 9
abbrev typeLinearAcceleration : Int := 10
abbrev typeRotationVector : Int := 11
abbrev typeHumidity : Int := 12
abbrev typeMagneticFieldUncalibrated : Int := 14
abbrev typeGameRotationVector : Int := 15
abbrev typeGyroscopeUncalibrated : Int := 16
abbrev typeSignificantMotion : Int := 17
abbrev typeStepDetector : Int := 18
abbrev typeStepCounter : Int := 19
abbrev typeGeomagneticRotationVector : Int := 20
abbrev typeHeartRate : Int := 21
abbrev typeTiltDetector : Int := 22
abbrev typeWakeGesture : Int := 23
abbrev typeGlanceGesture : Int := 24
abbrev typePickUpGesture : Int := 25
abbrev typePedometer : Int := 35
abbrev typeInPocket : Int := 36
abbrev typeActivity : Int := 37
abbrev typePdr : Int := 38
abbrev typeFaceDown : Int := 41
abbrev typeShake : Int := 42
abbrev typeBringtosee : Int := 43
abbrev typeAnswerCall : Int := 44
abbrev typeStationary : Int := 45

/-- `ID_*`: the HAL's handle of a sensor is its type less one. -/
abbrev idAccelerometer : Int := typeAccelerometer - 1
abbrev idMagnetic : Int := typeMagneticField - 1
abbrev idOrientation : Int := typeOrientation - 1
abbrev idGyroscope : Int := typeGyroscope - 1
abbrev idLight : Int := typeLight - 1
abbrev idPressure : Int := typePressure - 1
abbrev idTemprerature : Int := typeTemperature - 1
abbrev idProximity : Int := typeProximity - 1
abbrev idGravity : Int := typeGravity - 1
abbrev idLinearAcceleration : Int := typeLinearAcceleration - 1
abbrev idRotationVector : Int := typeRotationVector - 1
abbrev idHumidity : Int := typeHumidity - 1
abbrev idMagneticUncalibrated : Int := typeMagneticFieldUncalibrated - 1
abbrev idGameRotationVector : Int := typeGameRotationVector - 1
abbrev idGyroscopeUncalibrated : Int := typeGyroscopeUncalibrated - 1
abbrev idSignificantMotion : Int := typeSignificantMotion - 1
abbrev idStepDetector : Int := typeStepDetector - 1
abbrev idStepCounter : Int := typeStepCounter - 1
abbrev idGeomagneticRotationVector : Int := typeGeomagneticRotationVector - 1
abbrev idHeartRate : Int := typeHeartRate - 1
abbrev idTiltDetector : Int := typeTiltDetector - 1
abbrev idWakeGesture : Int := typeWakeGesture - 1
abbrev idGlanceGesture : Int := typeGlanceGesture - 1
abbrev idPickUpGesture : Int := typePickUpGesture - 1
abbrev idPedometer : Int := typePedometer - 1
abbrev idInPocket : Int := typeInPocket - 1
abbrev idActivity : Int := typeActivity - 1
abbrev idPdr : Int := typePdr - 1
abbrev idFaceDown : Int := typeFaceDown - 1
abbrev idShake : Int := typeShake - 1
abbrev idBringtosee : Int := typeBringtosee - 1
abbrev idAnswerCall : Int := typeAnswerCall - 1
abbrev idStationary : Int := typeStationary - 1

abbrev idSensorMaxHandle : Int := typeStationary

/-- `ID_OFFSET`: the framework's handle of a sensor is the HAL's plus one. -/
abbrev idOffset : Int := 1

/-- `IGNORE_EVENT_TIME`, in nanoseconds. -/
def ignoreEventTime : Int := 350000000

abbrev einval : Int := 22

abbrev metaDataFlushComplete : Int := 1

/-! ## Events and records -/

/-- The float `(float)num / div`. -/
structure Reading where
  num : Int
  div : Int
  deriving DecidableEq

def Reading.ofInt (value : Int) : Reading := ⟨value, 1⟩

/-- `sensors_event_t`. -/
structure SensorsEvent where
  sensor : Int
  type : Int
  timestamp : Int
  data : List Reading
  status : Int
  stepCounter : Int
  metaWhat : Int
  metaSensor : Int
  deriving DecidableEq

/-- A pending event as a driver's constructor leaves it. -/
def SensorsEvent.pending (sensor type : Int) : SensorsEvent :=
  ⟨sensor, type, 0, List.replicate 16 (.ofInt 0), 0, 0, 0, 0⟩

structure HwmSensorData where
  sensor : Int
  values : List Int
  probability : List Int
  valueDivide : Int
  status : Int
  update : Int
  time : Int
  deriving DecidableEq

/-- `values[i]`. -/
def HwmSensorData.value (d : HwmSensorData) (i : Nat) : Int := d.values.getD i 0

/-! ## 64-bit time stamps sent as two 32-bit values -/

/-- `(timestamp & 0xFFFFFFFFLL) | ((int64_t)value << 32)`. -/
def timestampHi (timestamp value : Int) : Int := timestamp % 2 ^ 32 + value * 2 ^ 32

/-- `(timestamp & 0xFFFFFFFF00000000LL) | ((int64_t)value & 0xFFFFFFFFLL)`. -/
def timestampLo (timestamp value : Int) : Int := timestamp - timestamp % 2 ^ 32 + value % 2 ^ 32

/-! ## Masks -/

section Mask

variable {w : Nat}

variable (mask : BitVec w)

/-- `mask & (1 << i)`, as a truth value. -/
def hasBit (i : Nat) : Bool := mask.getLsbD i

/-- `mask | (1 << i)`. -/
def setBit (i : Nat) : BitVec w := mask ||| BitVec.twoPow w i

/-- `mask & ~(1 << i)`. -/
def clearBit (i : Nat) : BitVec w := mask &&& ~~~BitVec.twoPow w i

theorem hasBit_setBit {i j : Nat} (hj : j < w) : hasBit (setBit mask i) j = (hasBit mask j || decide (j = i)) := by
  simp [hasBit, setBit, hj]

theorem hasBit_clearBit {i j : Nat} (hj : j < w) :
    hasBit (clearBit mask i) j = (hasBit mask j && decide (j ≠ i)) := by
  simp [hasBit, clearBit, hj]

@[simp] theorem hasBit_zero (i : Nat) : hasBit (0 : BitVec w) i = false := by
  simp [hasBit]

end Mask

end HuaweiY5.Sensors
