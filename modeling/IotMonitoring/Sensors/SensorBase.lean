import IotMonitoring.Auth.AuthServer
import Mathlib.Data.NNRat.Defs
import Mathlib.Tactic.Common

/-!
# The messages of the sensor client

`sensor_base.py` registers a sensor and sends its measurements as text lines. Before a measurement
is formatted, its id is matched against `ID_PATTERN`. The pattern ends with `$`, which in Python
matches at the end of the string and also in front of a newline that ends the string.
-/

namespace IotMonitoring.Sensors.SensorBase

open Text Auth.AuthServer

/-- The members of `VALID_TYPES`. -/
inductive SensorType where
  | temperature
  | energy
  | vibration
deriving DecidableEq

/-- The string of a type. -/
def SensorType.name : SensorType → String
  | temperature => "temperature"
  | energy => "energy"
  | vibration => "vibration"

/-- `UNIT_MAP`. -/
def unitMap : SensorType → String
  | .temperature => "C"
  | .energy => "W"
  | .vibration => "mm/s"

/-! ## Numbers -/

/-- A value of type `float`; an `int` is formatted as the `float` it converts to. -/
inductive Number where
  | finite (negative : Bool) (magnitude : ℚ≥0)
  | infinite (negative : Bool)
  | nan

/-- A magnitude in units of `1 / scale`, rounded to nearest with ties to even. -/
def rounded (scale : ℕ) (magnitude : ℚ≥0) : ℕ :=
  let scaled := magnitude.num * scale
  let floor := scaled / magnitude.den
  let twice := 2 * (scaled % magnitude.den)
  if twice < magnitude.den then floor
  else if magnitude.den < twice then floor + 1
  else floor + floor % 2

def sign (negative : Bool) : PyString := if negative then ['-'] else []

/-- `f"{value:.4f}"`. -/
def fixed4 : Number → PyString
  | .finite negative magnitude =>
    let n := rounded 10000 magnitude
    sign negative ++ Nat.toDigits 10 (n / 10000) ++ ['.'] ++ Nat.toDigits 10 (n / 1000 % 10) ++
      Nat.toDigits 10 (n / 100 % 10) ++ Nat.toDigits 10 (n / 10 % 10) ++ Nat.toDigits 10 (n % 10)
  | .infinite negative => sign negative ++ ['i', 'n', 'f']
  | .nan => ['n', 'a', 'n']

/-- `str` of an `int`. -/
def decimal (z : ℤ) : PyString := sign (decide (z < 0)) ++ Nat.toDigits 10 z.natAbs

/-! ## Ids -/

/-- The characters of the class in `ID_PATTERN`. -/
def isIdChar (c : Char) : Bool :=
  ('A' ≤ c ∧ c ≤ 'Z') ∨ ('a' ≤ c ∧ c ≤ 'z') ∨ ('0' ≤ c ∧ c ≤ '9') ∨ c = '_' ∨ c = '-'

/-- Where `$` matches: at the end, and in front of a newline at the end. -/
def atDollar (rest : PyString) : Bool := rest = [] ∨ rest = ['\n']

/-- `ID_PATTERN.match`: one to 32 characters of the class from the front, and then `$`. -/
def idPatternMatch (sensorId : PyString) : Bool :=
  (List.range' 1 32).any fun n ↦
    n ≤ sensorId.length ∧ (sensorId.take n).all isIdChar ∧ atDollar (sensorId.drop n)

/-- The values that may be passed for a measurement: numbers, or anything else by its type. -/
inductive Value where
  | number (x : Number)
  | other (type : PyString)

/-- `_validate_measurement`, with the text of the `ValueError` it raises. -/
def validateMeasurement (sensorId : PyString) (value : Value) (unit : PyString) :
    Except PyString Unit :=
  if ¬ idPatternMatch sensorId then
    .error ("Invalid sensor_id: '".toList ++ sensorId ++ "'".toList)
  else
    match value with
    | .other type => .error ("Value must be numeric, got ".toList ++ type)
    | .number _ => if unit = [] then .error "Unit cannot be empty".toList else .ok ()

/-! ## Messages -/

/-- The message of `_register`. -/
def registerMessage (sensorId : PyString) (type : SensorType) : PyString :=
  "REGISTER_SENSOR ".toList ++ sensorId ++ " ".toList ++ type.name.toList ++ "\r\n".toList

/-- The message of `_send_measurement`. -/
def measurementMessage (sensorId : PyString) (value : Number) (unit : PyString) (timestamp : ℤ) :
    PyString :=
  "MEASUREMENT ".toList ++ sensorId ++ " ".toList ++ fixed4 value ++ " ".toList ++ unit ++
    " ".toList ++ decimal timestamp ++ "\r\n".toList

/-- `_send`: the bytes given to the socket. -/
def sendBytes (message : PyString) : Bytes := encode message

/-! ## Accepted ids -/

theorem idPatternMatch_of_valid {sensorId unit : PyString} {value : Value}
    (h : validateMeasurement sensorId value unit = .ok ()) : idPatternMatch sensorId := by
  by_contra hfail
  simp [validateMeasurement, hfail] at h

theorem idPatternMatch_iff {sensorId : PyString} :
    idPatternMatch sensorId ↔ ∃ name, name ≠ [] ∧ name.length ≤ 32 ∧ (∀ c ∈ name, isIdChar c) ∧
      (sensorId = name ∨ sensorId = name ++ ['\n']) := by
  simp only [idPatternMatch, List.any_eq_true, List.mem_range', decide_eq_true_eq, Nat.one_mul,
    List.all_eq_true, atDollar]
  constructor
  · rintro ⟨n, ⟨i, hi, rfl⟩, hle, hall, hend⟩
    have hsplit := List.take_append_drop (1 + i) sensorId
    refine ⟨sensorId.take (1 + i), ?_, ?_, hall, hend.imp (fun h ↦ ?_) fun h ↦ ?_⟩
    · intro hnil
      have hlength := congrArg List.length hnil
      rw [List.length_take_of_le hle, List.length_nil] at hlength
      omega
    · rw [List.length_take_of_le hle]
      omega
    · rw [h, List.append_nil] at hsplit
      exact hsplit.symm
    · rw [h] at hsplit
      exact hsplit.symm
  · rintro ⟨name, hne, hlength, hall, hid⟩
    have hpos : 0 < name.length := List.length_pos_iff.mpr hne
    refine ⟨name.length, ⟨name.length - 1, by omega, by omega⟩, ?_⟩
    obtain rfl | rfl := hid
    · simpa using hall
    · simpa using hall

end IotMonitoring.Sensors.SensorBase
