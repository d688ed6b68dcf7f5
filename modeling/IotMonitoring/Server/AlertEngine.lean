import IotMonitoring.Machine.Slots
import IotMonitoring.Machine.Window
import IotMonitoring.Server.Double
import IotMonitoring.Text.Listing

/-!
# The alert engine

`alert_engine.c` keeps up to 100 thresholds and the last 100 alerts. Checking a measurement runs
over the thresholds, appends an alert for each one that fires, and discards the oldest alert when
the array is full. Which thresholds fire depends only on the measurement and the registered rules,
not on the alerts stored so far.
-/

namespace IotMonitoring.Server.AlertEngine

open Text Machine

def maxAlerts : ℕ := 100

/-- `AlertLevel`, with the value that cleared storage has. -/
inductive AlertLevel where
  | cleared
  | warning
  | critical
deriving DecidableEq

/-- `AlertThreshold_t`, without the field `sensor_id` that nothing writes or reads. -/
structure AlertThreshold (D : Type) where
  sensorType : CharField 15
  thresholdValue : D
  level : AlertLevel
  condition : CharField 7
  isActive : Bool
  createdAt : ℤ
  lastTriggered : ℤ
  message : CharField 255

/-- `ActiveAlert_t`. -/
structure ActiveAlert (D : Type) where
  sensorId : CharField 31
  sensorType : CharField 15
  value : D
  level : AlertLevel
  timestamp : ℤ
  message : CharField 255
  isResolved : Bool

abbrev ThresholdTable (D : Type) := Slots (AlertThreshold D) maxAlerts

abbrev AlertList (D : Type) := Slots (ActiveAlert D) maxAlerts

/-- The static data of the engine. -/
structure Engine (D : Type) where
  thresholds : ThresholdTable D
  activeAlerts : AlertList D

/-- The arguments of a call of `add_active_alert`. -/
structure AlertCall (D : Type) where
  sensorId : CString
  sensorType : CString
  value : D
  level : AlertLevel
  message : CString
deriving DecidableEq

variable {D : Type} [CDouble D]

/-- `alert_engine_init`. -/
def init : Engine D where
  thresholds := .empty maxAlerts
    ⟨.zero 15, CDouble.ofNat 0, .cleared, .zero 7, false, 0, 0, .zero 255⟩
  activeAlerts := .empty maxAlerts
    ⟨.zero 31, .zero 15, CDouble.ofNat 0, .cleared, 0, .zero 255, false⟩

/-- `alert_engine_register_threshold`. -/
def registerThreshold (now : ℤ) (sensorType : CString) (threshold : D) (level : AlertLevel)
    (condition message : CString) (engine : Engine D) : Engine D × ℤ :=
  if hroom : engine.thresholds.count < maxAlerts then
    if sensorType.length = 0 then (engine, -1)
    else
      let slot := engine.thresholds.next hroom
      ({ engine with
          thresholds := engine.thresholds.push hroom
            { sensorType := slot.sensorType.strncpy sensorType
              message := slot.message.strncpy message
              thresholdValue := threshold
              level := level
              condition := slot.condition.strncpy condition
              isActive := true
              createdAt := now
              lastTriggered := 0 } }, 0)
  else (engine, -1)

/-- `check_condition`. -/
def checkCondition (value threshold : D) (condition : CString) : Bool :=
  if condition = .lit ">" then CDouble.lt threshold value
  else if condition = .lit "<" then CDouble.lt value threshold
  else if condition = .lit ">=" then CDouble.le threshold value
  else if condition = .lit "<=" then CDouble.le value threshold
  else false

/-- A full array gives up its oldest alert. -/
def discardOldest (alerts : AlertList D) : { room : AlertList D // room.count < maxAlerts } :=
  if hroom : alerts.count < maxAlerts then ⟨alerts, hroom⟩
  else ⟨alerts.shift, (Nat.sub_le_sub_right alerts.count_le 1).trans_lt (by decide)⟩

/-- The alert a call writes into a slot. -/
def ActiveAlert.fill (slot : ActiveAlert D) (now : ℤ) (call : AlertCall D) : ActiveAlert D where
  sensorId := slot.sensorId.strncpy call.sensorId
  sensorType := slot.sensorType.strncpy call.sensorType
  value := call.value
  level := call.level
  timestamp := now
  message := slot.message.strncpy call.message
  isResolved := false

/-- `add_active_alert`. -/
def addActiveAlert (now : ℤ) (call : AlertCall D) (alerts : AlertList D) : AlertList D :=
  let room := discardOldest alerts
  room.val.push room.property ((room.val.next room.property).fill now call)

/-- The call that the loop body of `alert_engine_check_measurement` makes for a threshold. -/
def triggered (sensorId sensorType : CString) (value : D) (threshold : AlertThreshold D) :
    Option (AlertCall D) :=
  if threshold.isActive ∧ CString.strncmp threshold.sensorType.str sensorType 15 ∧
      checkCondition value threshold.thresholdValue threshold.condition.str then
    some
      { sensorId := sensorId
        sensorType := sensorType
        value := value
        level := threshold.level
        message := CString.snprintf 256 (sensorType ++ .lit ": " ++ CDouble.fixed2 value ++
          .lit " " ++ threshold.condition.str ++ .lit " " ++
          CDouble.fixed2 threshold.thresholdValue) }
  else none

def AlertThreshold.touch (threshold : AlertThreshold D) (now : ℤ) : AlertThreshold D :=
  { threshold with lastTriggered := now }

/-- The threshold loop, with the time of each round, and the calls of `add_active_alert` it
makes. -/
def checkLoop (now : Fin maxAlerts → ℤ) (sensorId sensorType : CString) (value : D) :
    List (Fin maxAlerts) → Engine D → Engine D × List (AlertCall D)
  | [], engine => (engine, [])
  | i :: rest, engine =>
    match triggered sensorId sensorType value (engine.thresholds.get i) with
    | none => checkLoop now sensorId sensorType value rest engine
    | some call =>
      let result := checkLoop now sensorId sensorType value rest
        { thresholds := engine.thresholds.modify i fun threshold ↦ threshold.touch (now i)
          activeAlerts := addActiveAlert (now i) call engine.activeAlerts }
      (result.1, call :: result.2)

/-- `alert_engine_check_measurement`; it returns the number of calls made. -/
def checkMeasurement (now : Fin maxAlerts → ℤ) (sensorId sensorType : CString) (value : D)
    (engine : Engine D) : Engine D × List (AlertCall D) :=
  checkLoop now sensorId sensorType value
    ((List.finRange maxAlerts).take engine.thresholds.count) engine

/-- `alert_engine_resolve_alert`. -/
def resolveAlert (sensorId : CString) (engine : Engine D) : Engine D × ℕ :=
  let result := Slots.updateWhere
    (fun alert ↦ decide (alert.sensorId.str = sensorId) && !alert.isResolved)
    (fun alert ↦ { alert with isResolved := true })
    ((List.finRange maxAlerts).take engine.activeAlerts.count) engine.activeAlerts
  ({ engine with activeAlerts := result.1 }, result.2)

/-- `%ld`. -/
def decimal (z : ℤ) : CString where
  bytes := (if z < 0 then ascii "-" else []) ++ decimalDigits z.natAbs
  noNul h := by
    rw [List.mem_append] at h
    obtain hsign | hdigit := h
    · split at hsign
      · exact absurd hsign (by decide)
      · exact List.not_mem_nil hsign
    · exact absurd (decimalDigits_isNumeral hdigit) (by decide)

/-- The line of one alert, formatted into a buffer of 512 bytes. -/
def alertRecord (alert : ActiveAlert D) : CString :=
  CString.snprintf 512 (alert.sensorId.str ++ .lit "," ++ alert.sensorType.str ++ .lit "," ++
    CDouble.fixed2 alert.value ++ .lit "," ++
    (if alert.level = .warning then .lit "WARNING" else .lit "CRITICAL") ++ .lit "," ++
    decimal alert.timestamp ++ .lit "," ++ alert.message.str ++ .lit ";")

/-- The alerts that `alert_engine_get_active_alerts` lists. -/
def unresolvedRecords (alerts : AlertList D) : List CString :=
  (alerts.live.filter fun alert ↦ !alert.isResolved && alert.sensorId.str ≠ ∅).map alertRecord

/-- `alert_engine_get_active_alerts`; `none` is the return value `-1`. -/
def getActiveAlerts (bufferSize : ℤ) (engine : Engine D) : Option CString :=
  if bufferSize ≤ 0 then none
  else some (listing bufferSize.toNat (unresolvedRecords engine.activeAlerts))

/-! ## What a check does -/

omit [CDouble D] in
@[simp]
theorem activeAlerts_registerThreshold (now : ℤ) (sensorType : CString) (threshold : D)
    (level : AlertLevel) (condition message : CString) (engine : Engine D) :
    (registerThreshold now sensorType threshold level condition message engine).1.activeAlerts =
      engine.activeAlerts := by
  unfold registerThreshold
  split
  · split <;> rfl
  · rfl

omit [CDouble D] in
theorem live_discardOldest (alerts : AlertList D) :
    (discardOldest alerts).val.live = alerts.live.rtake 99 := by
  rw [List.rtake, Slots.length_live, discardOldest]
  split
  · rename_i hroom
    rw [Nat.sub_eq_zero_of_le (Nat.lt_succ_iff.mp hroom), List.drop_zero]
  · rename_i hfull
    have hcount : alerts.count = maxAlerts := alerts.count_le.antisymm (not_lt.mp hfull)
    rw [Slots.live_shift, hcount]
    rfl

omit [CDouble D] in
/-- An appended alert takes the place of the oldest one when the array is full. -/
theorem live_addActiveAlert (now : ℤ) (call : AlertCall D) (alerts : AlertList D) :
    ∃ slot, (addActiveAlert now call alerts).live =
      (alerts.live ++ [ActiveAlert.fill slot now call]).rtake maxAlerts := by
  have hpush (slot : ActiveAlert D) :
      (alerts.live ++ [slot]).rtake maxAlerts = (discardOldest alerts).val.live ++ [slot] := by
    rw [live_discardOldest]
    exact List.rtake_concat_succ alerts.live 99 slot
  simp only [hpush]
  exact ⟨_, Slots.live_push _ _ _⟩

theorem calls_checkLoop (now : Fin maxAlerts → ℤ) (sensorId sensorType : CString) (value : D)
    (rounds : List (Fin maxAlerts)) (engine : Engine D) :
    (checkLoop now sensorId sensorType value rounds engine).2 =
      rounds.filterMap fun i ↦ triggered sensorId sensorType value (engine.thresholds.get i) := by
  induction rounds generalizing engine with
  | nil => rfl
  | cons i rest ih =>
    -- The time stamp a round writes is no part of what later rounds look at.
    have htouch (j : Fin maxAlerts) : triggered sensorId sensorType value
        ((engine.thresholds.modify i fun threshold ↦ threshold.touch (now i)).get j) =
          triggered sensorId sensorType value (engine.thresholds.get j) := by
      obtain rfl | hij := eq_or_ne j i
      · rw [Slots.get_modify_self]
        rfl
      · rw [Slots.get_modify_ne _ hij]
    cases hcall : triggered sensorId sensorType value (engine.thresholds.get i) <;>
      simp only [checkLoop, List.filterMap_cons, hcall, ih, htouch]

/-- The calls a measurement leads to are those of the registered rules that fire, in the order of
their registration. -/
theorem calls_checkMeasurement (now : Fin maxAlerts → ℤ) (sensorId sensorType : CString)
    (value : D) (engine : Engine D) :
    (checkMeasurement now sensorId sensorType value engine).2 =
      engine.thresholds.live.filterMap (triggered sensorId sensorType value) := by
  rw [checkMeasurement, calls_checkLoop, Slots.live_eq_map_get, List.filterMap_map]
  rfl

/-- What holds of the alerts in the array and of those that the calls write holds of the alerts
after the check. -/
theorem forall_live_checkLoop {P : ActiveAlert D → Prop} (now : Fin maxAlerts → ℤ)
    (sensorId sensorType : CString) (value : D) (rounds : List (Fin maxAlerts)) {engine : Engine D}
    (halerts : ∀ alert ∈ engine.activeAlerts.live, P alert)
    (hcalls : ∀ call ∈ (checkLoop now sensorId sensorType value rounds engine).2,
      ∀ slot time, P (ActiveAlert.fill slot time call)) :
    ∀ alert ∈ (checkLoop now sensorId sensorType value rounds engine).1.activeAlerts.live,
      P alert := by
  induction rounds generalizing engine with
  | nil => exact halerts
  | cons i rest ih =>
    cases hcall : triggered sensorId sensorType value (engine.thresholds.get i) with
    | none =>
      simp only [checkLoop, hcall] at hcalls ⊢
      exact ih halerts hcalls
    | some call =>
      simp only [checkLoop, hcall, List.forall_mem_cons] at hcalls ⊢
      refine ih ?_ hcalls.2
      obtain ⟨slot, hlive⟩ := live_addActiveAlert (now i) call engine.activeAlerts
      intro alert halert
      have hmem := List.mem_of_mem_drop (hlive ▸ halert)
      rw [List.mem_append, List.mem_singleton] at hmem
      obtain hold | rfl := hmem
      · exact halerts alert hold
      · exact hcalls.1 slot (now i)

theorem forall_live_checkMeasurement {P : ActiveAlert D → Prop} (now : Fin maxAlerts → ℤ)
    (sensorId sensorType : CString) (value : D) {engine : Engine D}
    (halerts : ∀ alert ∈ engine.activeAlerts.live, P alert)
    (hcalls : ∀ threshold ∈ engine.thresholds.live, ∀ call,
      triggered sensorId sensorType value threshold = some call →
        ∀ slot time, P (ActiveAlert.fill slot time call)) :
    ∀ alert ∈ (checkMeasurement now sensorId sensorType value engine).1.activeAlerts.live,
      P alert := by
  refine forall_live_checkLoop now sensorId sensorType value _ halerts fun call hcall ↦ ?_
  have hmem : call ∈ (checkMeasurement now sensorId sensorType value engine).2 := hcall
  rw [calls_checkMeasurement, List.mem_filterMap] at hmem
  obtain ⟨threshold, hthreshold, htriggered⟩ := hmem
  exact hcalls threshold hthreshold call htriggered

/-- The part of a threshold that decides whether it fires. -/
def AlertThreshold.rule (threshold : AlertThreshold D) : AlertThreshold D := threshold.touch 0

/-- The registered rules. -/
def rules (engine : Engine D) : List (AlertThreshold D) :=
  engine.thresholds.keys AlertThreshold.rule

theorem rules_checkLoop (now : Fin maxAlerts → ℤ) (sensorId sensorType : CString) (value : D)
    (rounds : List (Fin maxAlerts)) (engine : Engine D) :
    rules (checkLoop now sensorId sensorType value rounds engine).1 = rules engine := by
  induction rounds generalizing engine with
  | nil => rfl
  | cons i rest ih =>
    cases hcall : triggered sensorId sensorType value (engine.thresholds.get i) with
    | none => simpa only [checkLoop, hcall] using ih engine
    | some call =>
      simp only [checkLoop, hcall, ih]
      exact engine.thresholds.keys_modify AlertThreshold.rule i fun _ ↦ rfl

/-- Measurements do not change the rules. -/
theorem rules_checkMeasurement (now : Fin maxAlerts → ℤ) (sensorId sensorType : CString)
    (value : D) (engine : Engine D) :
    rules (checkMeasurement now sensorId sensorType value engine).1 = rules engine :=
  rules_checkLoop now sensorId sensorType value _ engine

/-- What holds of the rules of the thresholds holds of them after a check. -/
theorem forall_thresholds_checkMeasurement {Q : AlertThreshold D → Prop}
    (hrule : ∀ threshold, Q (AlertThreshold.rule threshold) ↔ Q threshold)
    (now : Fin maxAlerts → ℤ) (sensorId sensorType : CString) (value : D) {engine : Engine D}
    (h : ∀ threshold ∈ engine.thresholds.live, Q threshold) :
    ∀ threshold ∈ (checkMeasurement now sensorId sensorType value engine).1.thresholds.live,
      Q threshold := by
  have hrules (e : Engine D) : (∀ threshold ∈ e.thresholds.live, Q threshold) ↔
      ∀ rule ∈ rules e, Q rule := by
    rw [rules, Slots.keys, List.forall_mem_map]
    simp only [hrule]
  rw [hrules, rules_checkMeasurement]
  exact (hrules engine).mp h

/-- The calls depend on the rules only. -/
theorem calls_eq_filterMap_rules (now : Fin maxAlerts → ℤ) (sensorId sensorType : CString)
    (value : D) (engine : Engine D) :
    (checkMeasurement now sensorId sensorType value engine).2 =
      (rules engine).filterMap (triggered sensorId sensorType value) := by
  rw [calls_checkMeasurement, rules, Slots.keys, List.filterMap_map]
  rfl

end IotMonitoring.Server.AlertEngine
