import IotMonitoring.Sensors.Answers
import IotMonitoring.Sensors.Values
import IotMonitoring.Server.AlertLine
import IotMonitoring.Server.SensorHistory
import IotMonitoring.Server.Thresholds
import Mathlib.Algebra.Order.AbsoluteValue.Basic

/-!
# Generated values and the alerts they trigger

The sensors draw their values from bands that are meant to lie on one side of the thresholds of the
server. The way from the draw to the alert goes through two roundings, the text of the message, the
parser, `atof` and the comparison; it is followed here on exact rationals. The normal band of the
temperature is the exception: a normal distribution has no bounds.
-/

namespace IotMonitoring.Sensors.SensorBase

open Text Machine
open Server (CDouble)
open Server.Protocol hiding isSpace
open Server.SensorManager Server.AlertEngine Server.AlertLog Server.HandleClient
open Auth.AuthServer (PyString encode)

/-! ## Drawing a value -/

/-- The functions of the module `random` and the float that is nearest to a decimal. -/
structure Random where
  random : ℚ
  uniform : ℚ → ℚ → ℚ
  gauss : ℚ → ℚ → ℚ
  nearest : ℚ≥0 → ℚ≥0
  uniform_mem : ∀ a b, a ≤ b → a ≤ uniform a b ∧ uniform a b ≤ b
  nearest_close : ∀ n : ℕ, n ≤ 1000000 →
    (n / 100 : ℚ) < nearest (n / 100) + 1 / 20000 ∧ (nearest (n / 100) : ℚ) < n / 100 + 1 / 20000

/-- `max(low, min(high, value))`. -/
def clamp (low high value : ℚ) : ℚ := max low (min high value)

/-- `round(value, 2)`. -/
def Random.round2 (rng : Random) (value : ℚ) : Number :=
  .finite (decide (value < 0)) (rng.nearest (rounded 100 |value|.toNNRat / 100))

/-- The value in `TemperatureSensor.generate_value` before it is rounded. -/
def temperatureValue (rng : Random) : ℚ :=
  clamp (-50) 150
    (if rng.random < 5 / 100 then rng.uniform 51 65
    else if rng.random < 25 / 100 then rng.uniform 31 45
    else rng.gauss 22 4)

/-- The value in `EnergySensor.generate_value` before it is rounded. -/
def energyValue (rng : Random) : ℚ :=
  clamp 0 10000 (if rng.random < 20 / 100 then rng.uniform 505 900 else rng.uniform 150 450)

/-- The value in `VibrationSensor.generate_value` before it is rounded. -/
def vibrationValue (rng : Random) : ℚ :=
  clamp 0 100
    (if rng.random < 10 / 100 then rng.uniform 11 20
    else if rng.random < 30 / 100 then rng.uniform (55 / 10) (95 / 10)
    else rng.uniform (5 / 10) (45 / 10))

def drawn (type : SensorType) (rng : Random) : ℚ :=
  match type with
  | .temperature => temperatureValue rng
  | .energy => energyValue rng
  | .vibration => vibrationValue rng

/-- `generate_value`. -/
def generateValue (type : SensorType) (rng : Random) : Number := rng.round2 (drawn type rng)

/-- A value in hundredths. -/
def hundredthsOf (value : ℚ) : ℚ :=
  (if value < 0 then -1 else 1) * ((rounded 100 |value|.toNNRat : ℚ) / 100)

/-! ## Reported levels -/

/-- The levels that the rules of `main` report for a value. -/
def reported (type : SensorType) (value : ℚ) : List AlertLevel :=
  match type with
  | .temperature =>
    (if 30 < value then [.warning] else []) ++ if 50 < value then [.critical] else []
  | .vibration => (if 5 < value then [.warning] else []) ++ if 10 < value then [.critical] else []
  | .energy => if 500 < value then [.warning] else []

/-- The levels that the branches of `generate_value` are made for. -/
def announced (type : SensorType) (rng : Random) : List AlertLevel :=
  match type with
  | .temperature =>
    if rng.random < 5 / 100 then [.warning, .critical]
    else if rng.random < 25 / 100 then [.warning]
    else reported .temperature (hundredthsOf (clamp (-50) 150 (rng.gauss 22 4)))
  | .energy => if rng.random < 20 / 100 then [.warning] else []
  | .vibration =>
    if rng.random < 10 / 100 then [.warning, .critical]
    else if rng.random < 30 / 100 then [.warning]
    else []

/-! ## Rounding of the drawn values -/

theorem clamp_mem {low high : ℚ} (h : low ≤ high) (value : ℚ) :
    low ≤ clamp low high value ∧ clamp low high value ≤ high :=
  ⟨le_max_left _ _, max_le h (min_le_left _ _)⟩

theorem clamp_of_mem {low high value : ℚ} (hlow : low ≤ value) (hhigh : value ≤ high) :
    clamp low high value = value := by
  rw [clamp, min_eq_right hhigh, max_eq_right hlow]

/-- The magnitude of a value. -/
theorem coe_toNNRat_abs (value : ℚ) : ((|value|.toNNRat : ℚ≥0) : ℚ) = |value| :=
  Rat.coe_toNNRat _ (abs_nonneg value)

/-- A value between two positive hundredths is rounded to one between them. -/
theorem hundredthsOf_mem {low high : ℕ} {value : ℚ} (hlow : (low / 100 : ℚ) ≤ value)
    (hhigh : value ≤ high / 100) :
    (low / 100 : ℚ) ≤ hundredthsOf value ∧ hundredthsOf value ≤ high / 100 := by
  have hnonneg : 0 ≤ value :=
    le_trans (div_nonneg (Nat.cast_nonneg low) (by norm_num)) hlow
  have hmagnitude : ((|value|.toNNRat : ℚ≥0) : ℚ) = value := by
    rw [coe_toNNRat_abs, abs_of_nonneg hnonneg]
  have hlow' : low ≤ rounded 100 |value|.toNNRat :=
    le_rounded_of_le (by rwa [hmagnitude])
  have hhigh' : rounded 100 |value|.toNNRat ≤ high :=
    rounded_le_of_le (by rwa [hmagnitude])
  have hlow'' : (low : ℚ) ≤ rounded 100 |value|.toNNRat := by exact_mod_cast hlow'
  have hhigh'' : (rounded 100 |value|.toNNRat : ℚ) ≤ high := by exact_mod_cast hhigh'
  rw [hundredthsOf, if_neg (not_lt.mpr hnonneg), one_mul]
  constructor <;> linarith

/-- A sample between two hundredths in the range of the sensor is rounded to a value between
them. -/
theorem hundredthsOf_uniform (rng : Random) (low high x y : ℚ) (a b : ℕ) (hx : x = a / 100)
    (hy : y = b / 100) (hxy : x ≤ y) (hlow : low ≤ x) (hhigh : y ≤ high) :
    x ≤ hundredthsOf (clamp low high (rng.uniform x y)) ∧
      hundredthsOf (clamp low high (rng.uniform x y)) ≤ y := by
  obtain ⟨hmin, hmax⟩ := rng.uniform_mem x y hxy
  rw [clamp_of_mem (hlow.trans hmin) (hmax.trans hhigh)]
  subst hx hy
  exact hundredthsOf_mem hmin hmax

/-- The levels announced are the levels reported. -/
theorem reported_drawn (type : SensorType) (rng : Random) :
    reported type (hundredthsOf (drawn type rng)) = announced type rng := by
  cases type with
  | temperature =>
    simp only [drawn, temperatureValue, announced]
    split
    · obtain ⟨hlow, -⟩ := hundredthsOf_uniform rng (-50) 150 51 65 5100 6500 (by norm_num)
        (by norm_num) (by norm_num) (by norm_num) (by norm_num)
      rw [reported, if_pos (by linarith), if_pos (by linarith)]
      rfl
    · split
      · obtain ⟨hlow, hhigh⟩ := hundredthsOf_uniform rng (-50) 150 31 45 3100 4500 (by norm_num)
          (by norm_num) (by norm_num) (by norm_num) (by norm_num)
        rw [reported, if_pos (by linarith), if_neg (by linarith)]
        rfl
      · rfl
  | energy =>
    simp only [drawn, energyValue, announced]
    split
    · obtain ⟨hlow, -⟩ := hundredthsOf_uniform rng 0 10000 505 900 50500 90000 (by norm_num)
        (by norm_num) (by norm_num) (by norm_num) (by norm_num)
      rw [reported, if_pos (by linarith)]
    · obtain ⟨-, hhigh⟩ := hundredthsOf_uniform rng 0 10000 150 450 15000 45000 (by norm_num)
        (by norm_num) (by norm_num) (by norm_num) (by norm_num)
      rw [reported, if_neg (by linarith)]
  | vibration =>
    simp only [drawn, vibrationValue, announced]
    split
    · obtain ⟨hlow, -⟩ := hundredthsOf_uniform rng 0 100 11 20 1100 2000 (by norm_num) (by norm_num)
        (by norm_num) (by norm_num) (by norm_num)
      rw [reported, if_pos (by linarith), if_pos (by linarith)]
      rfl
    · split
      · obtain ⟨hlow, hhigh⟩ := hundredthsOf_uniform rng 0 100 (55 / 10) (95 / 10) 550 950
          (by norm_num) (by norm_num) (by norm_num) (by norm_num) (by norm_num)
        rw [reported, if_pos (by linarith), if_neg (by linarith)]
        rfl
      · obtain ⟨-, hhigh⟩ := hundredthsOf_uniform rng 0 100 (5 / 10) (45 / 10) 50 450 (by norm_num)
          (by norm_num) (by norm_num) (by norm_num) (by norm_num)
        rw [reported, if_neg (by linarith), if_neg (by linarith)]
        rfl

/-- A value that is not too large arrives as the multiple of 1/100 it is rounded to. -/
theorem atof_round2 (rng : Random) {value : ℚ} (hvalue : |value| ≤ 10000) {text : CString}
    (htext : text.bytes = encode (fixed4 (rng.round2 value))) :
    Server.Rational.atof text = hundredthsOf value := by
  set n := rounded 100 |value|.toNNRat with hn
  have hle : n ≤ 1000000 := by
    apply rounded_le_of_le
    rw [coe_toNNRat_abs]
    norm_num
    exact hvalue
  obtain ⟨hlow, hhigh⟩ := rng.nearest_close n hle
  have hrounded : rounded 10000 (rng.nearest (n / 100)) = 100 * n := by
    apply rounded_of_near
    · push_cast
      linarith
    · push_cast
      linarith
  rw [atof_of_fixed4 _ _ htext, hrounded, hundredthsOf, ← hn]
  push_cast
  simp only [decide_eq_true_eq]
  congr 1
  linarith

theorem abs_drawn_le (type : SensorType) (rng : Random) : |drawn type rng| ≤ 10000 := by
  cases type with
  | temperature =>
    obtain ⟨hlow, hhigh⟩ := clamp_mem (by norm_num : (-50 : ℚ) ≤ 150) _
    exact abs_le.mpr ⟨le_trans (by norm_num) hlow, hhigh.trans (by norm_num)⟩
  | energy =>
    obtain ⟨hlow, hhigh⟩ := clamp_mem (by norm_num : (0 : ℚ) ≤ 10000) _
    exact abs_le.mpr ⟨le_trans (by norm_num) hlow, hhigh⟩
  | vibration =>
    obtain ⟨hlow, hhigh⟩ := clamp_mem (by norm_num : (0 : ℚ) ≤ 100) _
    exact abs_le.mpr ⟨le_trans (by norm_num) hlow, hhigh.trans (by norm_num)⟩

/-! ## On the server -/

/-- The record of a level. -/
def recordOf (sensorId : CString) (type : SensorType) (value : ℚ) (level : AlertLevel) : Record ℚ :=
  ⟨sensorId, .lit type.name, value, level, false⟩

/-- All rules of `main` report what lies above their threshold. -/
theorem fires_iff (ruleType sensorType : CString) (threshold : ℕ) (level : AlertLevel) (value : ℚ) :
    (⟨ruleType, CDouble.ofNat threshold, level, .lit ">"⟩ : Rule ℚ).Fires sensorType value ↔
      ruleType.cut 15 = sensorType.cut 15 ∧ (threshold : ℚ) < value := by
  have hother : ∀ text ∈ ["<", ">=", "<="], CString.lit ">" ≠ CString.lit text := by decide
  simp only [List.forall_mem_cons] at hother
  obtain ⟨hlt, hge, hle, -⟩ := hother
  simp only [Rule.Fires, Holds, hlt, hge, hle, false_and, or_false, true_and]
  exact and_congr_right fun _ ↦ decide_eq_true_iff

/-- The records of a measurement are those of the levels that are reported. -/
theorem firedRecords_startupRules (sensorId : CString) (type : SensorType) (value : ℚ) :
    firedRecords sensorId (.lit type.name) value (startupRules ℚ) =
      (reported type value).map (recordOf sensorId type value) := by
  have htemperature : (CString.lit "temperature").cut 15 = .lit "temperature" := by decide
  have henergy : (CString.lit "energy").cut 15 = .lit "energy" := by decide
  have hvibration : (CString.lit "vibration").cut 15 = .lit "vibration" := by decide
  have hte : CString.lit "temperature" ≠ .lit "energy" := by decide
  have htv : CString.lit "temperature" ≠ .lit "vibration" := by decide
  have hev : CString.lit "energy" ≠ .lit "vibration" := by decide
  simp only [firedRecords, startupRules, List.filter_cons, List.filter_nil, fires_iff,
    htemperature, henergy, hvibration]
  cases type with
  | temperature =>
    simp only [SensorType.name, reported, htemperature, hte.symm, htv.symm, false_and, true_and,
      decide_false, decide_eq_true_eq]
    by_cases hwarning : (30 : ℚ) < value <;> by_cases hcritical : (50 : ℚ) < value <;>
      simp [hwarning, hcritical, recordOf, SensorType.name]
  | energy =>
    simp only [SensorType.name, reported, henergy, hte, hev.symm, false_and, true_and,
      decide_false, decide_eq_true_eq]
    by_cases hwarning : (500 : ℚ) < value <;> simp [hwarning, recordOf, SensorType.name]
  | vibration =>
    simp only [SensorType.name, reported, hvibration, htv, hev, false_and, true_and,
      decide_false, decide_eq_true_eq]
    by_cases hwarning : (5 : ℚ) < value <;> by_cases hcritical : (10 : ℚ) < value <;>
      simp [hwarning, hcritical, recordOf, SensorType.name]

variable {κ : Type}

/-- A check makes one call for every level that is reported. -/
theorem length_checkMeasurement {now : ℤ} {s : ServerState ℚ κ}
    (hreach : (server ℚ κ).Reachable (serverInit now) s) (time : Fin maxAlerts → ℤ)
    (sensorId : CString) (type : SensorType) (value : ℚ) :
    (checkMeasurement time sensorId (.lit type.name) value s.engine).2.length =
      (reported type value).length := by
  have hcalls := calls_of_stores (stores_of_reachable hreach) time sensorId (.lit type.name) value
  rw [firedRecords_startupRules] at hcalls
  have hlength := congrArg List.length hcalls
  rwa [List.length_map, List.length_map] at hlength

/-- The message of a stored sensor leaves the value that `atof` reads in its slot, and the alerts
for this value at the end of the alert list. -/
theorem outcome_of_message {now : ℤ} {s : ServerState ℚ κ}
    (hreach : (server ℚ κ).Reachable (serverInit now) s) {name : PyString}
    (hname : VisibleText name) {type : SensorType} {value : Number} {timestamp : ℤ} {chunk : Chunk}
    (hchunk : chunk.bytes =
      sendBytes (measurementMessage name value (unitMap type).toList timestamp))
    {sensorId : CString} (hid : sensorId.bytes = encode name) {i : Fin maxSensors}
    (hfind : findSensor s.sensors sensorId = some i)
    (htype : typeAt s.sensors i = .lit type.name) (env : Env) (client : Client κ) :
    ∃ text : CString, text.bytes = encode (fixed4 value) ∧
      let read := Server.Rational.atof text
      let outcome := respond env client chunk s
      (outcome.state.sensors.get i).reading = (read, .lit (unitMap type)) ∧
      outcome.state.engine.activeAlerts.live.map record =
        (s.engine.activeAlerts.live.map record ++
          (reported type read).map (recordOf sensorId type read)).rtake maxAlerts ∧
      (outcome.broadcast = none ↔ reported type read = []) := by
  obtain ⟨text, unit, time, htext, hunit, hrespond⟩ :=
    respond_measurementMessage hname hchunk hid env client s
  have hunit' : unit.cut 15 = .lit (unitMap type) := by
    apply CString.ext
    rw [CString.bytes_cut, hunit]
    cases type <;> decide
  have hfits : sensorId.length ≤ 31 := by
    obtain ⟨-, hstr⟩ := findSensor_eq_some hfind
    exact hstr ▸ (s.sensors.get i).id.length_str_le
  have hcalls := calls_of_stores (stores_of_reachable hreach) env.alertTime sensorId
    (.lit type.name) (Server.Rational.atof text)
  rw [firedRecords_startupRules] at hcalls
  refine ⟨text, htext, ?_⟩
  rw [hrespond, measurement_of_findSensor env text unit [time] hfind, htype]
  refine ⟨?_, ?_, ?_⟩
  · obtain ⟨j, hj, heq⟩ | ⟨hnone, -⟩ :=
      addMeasurement_cases env.time sensorId (CDouble.atof text : ℚ) unit s.sensors
    · obtain rfl := Option.some.inj (hfind.symm.trans hj)
      rw [heq, Slots.get_modify_self, Sensor.reading, Sensor.store, CharField.str_strncpy, hunit']
      rfl
    · rw [hfind] at hnone
      cases hnone
  · have hwindow := window_checkLoop env.alertTime hfits (.lit type.name)
      (Server.Rational.atof text) ((List.finRange maxAlerts).take s.engine.thresholds.count)
      s.engine
    rw [← hcalls]
    exact hwindow
  · have hlength := length_checkMeasurement hreach env.alertTime sensorId type
      (Server.Rational.atof text)
    rw [← List.length_eq_zero_iff, ← hlength, ite_eq_right_iff]
    exact ⟨fun hnone ↦ Nat.eq_zero_of_not_pos fun hpos ↦
        absurd (hnone hpos) (Option.some_ne_none _),
      fun hzero hpos ↦ absurd hzero hpos.ne'⟩

/-! ## A sensor that has just been registered -/

/-- The state after the registration of `s1`. -/
def registeredState : ServerState ℚ ℕ :=
  (respond ⟨0, fun _ ↦ 0, none⟩ ⟨5, 0⟩ registerChunk (serverInit 0)).state

theorem reachable_registeredState : (server ℚ ℕ).Reachable (serverInit 0) registeredState :=
  ⟨[.request ⟨0, fun _ ↦ 0, none⟩ ⟨5, 0⟩ registerChunk], rfl⟩

theorem findSensor_registeredState :
    findSensor registeredState.sensors (.lit "s1") = some ⟨0, by decide⟩ ∧
      typeAt registeredState.sensors ⟨0, by decide⟩ = .lit SensorType.temperature.name := by
  decide +kernel

/-- Samples at the lower end of every range. -/
def lowest : Random where
  random := 0
  uniform a _ := a
  gauss mean _ := mean
  nearest q := q
  uniform_mem _ _ h := ⟨le_rfl, h⟩
  nearest_close n _ := by
    push_cast
    constructor <;> linarith

/-- A critical temperature with five decimals. -/
def degrees : ℚ≥0 := ⟨6321239 / 100000, by decide +kernel⟩

def measurementOf (value : Number) : PyString :=
  measurementMessage "s1".toList value (unitMap .temperature).toList 0

def deliveredChunk : Chunk :=
  ⟨sendBytes (measurementOf (.finite false degrees)), by decide +kernel, by decide +kernel⟩

def generatedChunk : Chunk :=
  ⟨sendBytes (measurementOf (generateValue .temperature lowest)), by decide +kernel,
    by decide +kernel⟩

/-! ## The whole way -/

/-- The value of a sensor arrives, in its slot and in the alerts, with an error of at most 1/20000.
The alerts are those of the value that has arrived, and they are broadcast when there are any. -/
theorem delivered_of_message {now : ℤ} {s : ServerState ℚ κ}
    (hreach : (server ℚ κ).Reachable (serverInit now) s) {name : PyString}
    (hname : VisibleText name) {type : SensorType} {negative : Bool} {magnitude : ℚ≥0}
    {timestamp : ℤ} {chunk : Chunk}
    (hchunk : chunk.bytes = sendBytes (measurementMessage name (.finite negative magnitude)
      (unitMap type).toList timestamp))
    {sensorId : CString} (hid : sensorId.bytes = encode name) {i : Fin maxSensors}
    (hfind : findSensor s.sensors sensorId = some i)
    (htype : typeAt s.sensors i = .lit type.name) (env : Env) (client : Client κ) :
    ∃ read : ℚ, |read - (if negative then -1 else 1) * magnitude| ≤ 1 / 20000 ∧
      let outcome := respond env client chunk s
      (outcome.state.sensors.get i).reading = (read, .lit (unitMap type)) ∧
      outcome.state.engine.activeAlerts.live.map record =
        (s.engine.activeAlerts.live.map record ++
          (reported type read).map (recordOf sensorId type read)).rtake maxAlerts ∧
      (outcome.broadcast = none ↔ reported type read = []) := by
  obtain ⟨text, htext, houtcome⟩ :=
    outcome_of_message hreach hname hchunk hid hfind htype env client
  refine ⟨Server.Rational.atof text, ?_, houtcome⟩
  rw [atof_of_fixed4 negative magnitude htext, ← mul_sub]
  have hnear := abs_rounded_sub_le magnitude
  cases negative with
  | false => simpa using hnear
  | true =>
    rw [if_pos rfl, abs_mul, abs_neg, abs_one, one_mul]
    exact hnear

theorem delivered_of_message_registered :
    (respond ⟨0, fun _ ↦ 0, none⟩ ⟨5, 0⟩ deliveredChunk registeredState).broadcast =
      some (.lit "ALERTA s1,temperature,63.21,C\r\n") ∧
    ∃ read : ℚ, |read - (if false then -1 else 1) * degrees| ≤ 1 / 20000 ∧
      let outcome := respond ⟨0, fun _ ↦ 0, none⟩ ⟨5, 0⟩ deliveredChunk registeredState
      (outcome.state.sensors.get ⟨0, by decide⟩).reading = (read, .lit (unitMap .temperature)) ∧
      outcome.state.engine.activeAlerts.live.map record =
        (registeredState.engine.activeAlerts.live.map record ++ (reported .temperature read).map
          (recordOf (.lit "s1") .temperature read)).rtake maxAlerts ∧
      (outcome.broadcast = none ↔ reported .temperature read = []) :=
  ⟨by decide +kernel, delivered_of_message reachable_registeredState
    (visibleText_of_all (by decide) (by decide)) rfl (by decide) findSensor_registeredState.1
    findSensor_registeredState.2 _ _⟩

/-- A generated value arrives as the hundredths it is rounded to, and triggers exactly the alerts
that its branch is made for. -/
theorem announced_of_generated {now : ℤ} {s : ServerState ℚ κ}
    (hreach : (server ℚ κ).Reachable (serverInit now) s) {name : PyString}
    (hname : VisibleText name) {type : SensorType} {rng : Random} {timestamp : ℤ} {chunk : Chunk}
    (hchunk : chunk.bytes = sendBytes (measurementMessage name (generateValue type rng)
      (unitMap type).toList timestamp))
    {sensorId : CString} (hid : sensorId.bytes = encode name) {i : Fin maxSensors}
    (hfind : findSensor s.sensors sensorId = some i)
    (htype : typeAt s.sensors i = .lit type.name) (env : Env) (client : Client κ) :
    let value := hundredthsOf (drawn type rng)
    let outcome := respond env client chunk s
    (outcome.state.sensors.get i).reading = (value, .lit (unitMap type)) ∧
      outcome.state.engine.activeAlerts.live.map record =
        (s.engine.activeAlerts.live.map record ++
          (announced type rng).map (recordOf sensorId type value)).rtake maxAlerts ∧
      (outcome.broadcast = none ↔ announced type rng = []) := by
  obtain ⟨text, htext, houtcome⟩ :=
    outcome_of_message hreach hname hchunk hid hfind htype env client
  rw [atof_round2 rng (abs_drawn_le type rng) htext] at houtcome
  simpa only [reported_drawn] using houtcome

theorem announced_of_generated_lowest :
    let value := hundredthsOf (drawn .temperature lowest)
    let outcome := respond ⟨0, fun _ ↦ 0, none⟩ ⟨5, 0⟩ generatedChunk registeredState
    (outcome.state.sensors.get ⟨0, by decide⟩).reading = (value, .lit (unitMap .temperature)) ∧
      outcome.state.engine.activeAlerts.live.map record =
        (registeredState.engine.activeAlerts.live.map record ++
          (announced .temperature lowest).map
            (recordOf (.lit "s1") .temperature value)).rtake maxAlerts ∧
      (outcome.broadcast = none ↔ announced .temperature lowest = []) :=
  announced_of_generated reachable_registeredState (visibleText_of_all (by decide) (by decide)) rfl
    (by decide) findSensor_registeredState.1 findSensor_registeredState.2 _ _

end IotMonitoring.Sensors.SensorBase
