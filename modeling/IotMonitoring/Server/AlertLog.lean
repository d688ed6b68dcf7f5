import IotMonitoring.Machine.Answering
import IotMonitoring.Server.AlertEngine
import Mathlib.Data.List.Forall2

/-!
# The alert engine as a log

Seen from outside, the engine is a list of rules and an unbounded log of alerts, of which only the
last hundred can be seen and resolved. The array with its evictions, its reused slots and its cut
fields refines this log: over every sequence of calls the return values agree, and the slots in use
are the window of the log.
-/

namespace IotMonitoring.Server.AlertLog

open Text Machine AlertEngine

variable {D : Type} [CDouble D]

/-! ## The log -/

/-- The arguments of a registration. -/
structure Rule (D : Type) where
  sensorType : CString
  threshold : D
  level : AlertLevel
  condition : CString

/-- An alert of the log. -/
structure Record (D : Type) where
  sensorId : CString
  sensorType : CString
  value : D
  level : AlertLevel
  resolved : Bool

structure Log (D : Type) where
  rules : List (Rule D)
  records : List (Record D)

/-- What a condition says of a value; a string that is none of the four comparisons never holds. -/
def Holds (condition : CString) (value threshold : D) : Prop :=
  (condition = .lit ">" ∧ CDouble.lt threshold value) ∨
  (condition = .lit "<" ∧ CDouble.lt value threshold) ∨
  (condition = .lit ">=" ∧ CDouble.le threshold value) ∨
  (condition = .lit "<=" ∧ CDouble.le value threshold)

instance (condition : CString) (value threshold : D) :
    Decidable (Holds condition value threshold) :=
  inferInstanceAs (Decidable (_ ∨ _))

/-- The types agree on their first 15 bytes and the condition holds of the value. -/
def Rule.Fires (rule : Rule D) (sensorType : CString) (value : D) : Prop :=
  rule.sensorType.cut 15 = sensorType.cut 15 ∧ Holds rule.condition value rule.threshold

instance (rule : Rule D) (sensorType : CString) (value : D) :
    Decidable (rule.Fires sensorType value) := inferInstanceAs (Decidable (_ ∧ _))

def Record.Open (record : Record D) (sensorId : CString) : Prop :=
  record.sensorId = sensorId ∧ record.resolved = false

instance (record : Record D) (sensorId : CString) : Decidable (record.Open sensorId) :=
  inferInstanceAs (Decidable (_ ∧ _))

/-- Mark an unresolved record of the sensor. -/
def Record.resolve (sensorId : CString) (record : Record D) : Record D :=
  if record.Open sensorId then { record with resolved := true } else record

/-- The records of a measurement, one for each rule that fires. -/
def firedRecords (sensorId sensorType : CString) (value : D) (rules : List (Rule D)) :
    List (Record D) :=
  (rules.filter fun rule ↦ rule.Fires sensorType value).map fun rule ↦
    ⟨sensorId, sensorType.cut 15, value, rule.level, false⟩

namespace Log

def init : Log D := ⟨[], []⟩

/-- A rule is taken in while there is room and its type is not empty. -/
def registerThreshold (rule : Rule D) (log : Log D) : Log D × ℤ :=
  if log.rules.length < maxAlerts ∧ rule.sensorType ≠ ∅ then
    ({ log with rules := log.rules ++ [rule] }, 0)
  else (log, -1)

def checkMeasurement (sensorId sensorType : CString) (value : D) (log : Log D) : Log D × ℤ :=
  let fired := firedRecords sensorId sensorType value log.rules
  ({ log with records := log.records ++ fired }, fired.length)

/-- The records that can be seen. -/
def window (log : Log D) : List (Record D) := log.records.rtake maxAlerts

def resolveAlert (sensorId : CString) (log : Log D) : Log D × ℤ :=
  ({ log with records := updateWindow maxAlerts (Record.resolve sensorId) log.records },
    log.window.countP fun record ↦ record.Open sensorId)

end Log

/-! ## Calls -/

inductive Operation (D : Type) where
  | init
  | registerThreshold (now : ℤ) (sensorType : CString) (threshold : D) (level : AlertLevel)
      (condition message : CString)
  | checkMeasurement (now : Fin maxAlerts → ℤ) (sensorId sensorType : CString) (value : D)
  | resolveAlert (sensorId : CString)

/-- The id of a measurement fits into the field of an alert. -/
def Operation.Fits : Operation D → Prop
  | checkMeasurement _ sensorId _ _ => sensorId.length ≤ 31
  | _ => True

/-- The engine with its return values. -/
def engine (D : Type) [CDouble D] : Answering (Engine D) (Operation D) ℤ where
  perform e
    | .init => (AlertEngine.init, 0)
    | .registerThreshold now sensorType threshold level condition message =>
      AlertEngine.registerThreshold now sensorType threshold level condition message e
    | .checkMeasurement now sensorId sensorType value =>
      let result := AlertEngine.checkMeasurement now sensorId sensorType value e
      (result.1, result.2.length)
    | .resolveAlert sensorId =>
      let result := AlertEngine.resolveAlert sensorId e
      (result.1, result.2)

/-- The log with the same return values. -/
def log (D : Type) [CDouble D] : Answering (Log D) (Operation D) ℤ where
  perform l
    | .init => (Log.init, 0)
    | .registerThreshold _ sensorType threshold level condition _ =>
      l.registerThreshold ⟨sensorType, threshold, level, condition⟩
    | .checkMeasurement _ sensorId sensorType value => l.checkMeasurement sensorId sensorType value
    | .resolveAlert sensorId => l.resolveAlert sensorId

/-! ## Representation -/

/-- The record that a slot stands for. -/
def record (alert : ActiveAlert D) : Record D :=
  ⟨alert.sensorId.str, alert.sensorType.str, alert.value, alert.level, alert.isResolved⟩

/-- A slot of the threshold table holds a rule in its cut fields. -/
structure Stores (threshold : AlertThreshold D) (rule : Rule D) : Prop where
  active : threshold.isActive = true
  sensorType : threshold.sensorType.str = rule.sensorType.cut 15
  thresholdValue : threshold.thresholdValue = rule.threshold
  level : threshold.level = rule.level
  condition : threshold.condition.str = rule.condition.cut 7

/-- The slots in use hold the rules and the window of the log. -/
structure Represents (e : Engine D) (l : Log D) : Prop where
  rules : List.Forall₂ Stores e.thresholds.live l.rules
  window : e.activeAlerts.live.map record = l.window

theorem checkCondition_iff {value threshold : D} {condition : CString} :
    checkCondition value threshold condition = true ↔ Holds condition value threshold := by
  rw [checkCondition, Holds]
  by_cases hgt : condition = .lit ">"
  · subst hgt
    simp [(by decide : ¬ CString.lit ">" = .lit "<"), (by decide : ¬ CString.lit ">" = .lit ">="),
      (by decide : ¬ CString.lit ">" = .lit "<=")]
  by_cases hlt : condition = .lit "<"
  · subst hlt
    simp [(by decide : ¬ CString.lit "<" = .lit ">"), (by decide : ¬ CString.lit "<" = .lit ">="),
      (by decide : ¬ CString.lit "<" = .lit "<=")]
  by_cases hge : condition = .lit ">="
  · subst hge
    simp [(by decide : ¬ CString.lit ">=" = .lit ">"), (by decide : ¬ CString.lit ">=" = .lit "<"),
      (by decide : ¬ CString.lit ">=" = .lit "<=")]
  by_cases hle : condition = .lit "<="
  · subst hle
    simp [(by decide : ¬ CString.lit "<=" = .lit ">"), (by decide : ¬ CString.lit "<=" = .lit "<"),
      (by decide : ¬ CString.lit "<=" = .lit ">=")]
  · simp [hgt, hlt, hge, hle]

/-- The field of a condition cuts no comparison and makes none. -/
theorem holds_cut {value threshold : D} {condition : CString} :
    Holds (condition.cut 7) value threshold ↔ Holds condition value threshold := by
  have hcut {text : String} (hshort : (CString.lit text).length < 7) :
      condition.cut 7 = .lit text ↔ condition = .lit text := CString.cut_eq_iff hshort
  simp only [Holds, hcut (by decide : (CString.lit ">").length < 7),
    hcut (by decide : (CString.lit "<").length < 7),
    hcut (by decide : (CString.lit ">=").length < 7),
    hcut (by decide : (CString.lit "<=").length < 7)]

/-! ## Measurements -/

/-- The record of a call of `add_active_alert`. -/
def callRecord (call : AlertCall D) : Record D :=
  ⟨call.sensorId, call.sensorType.cut 15, call.value, call.level, false⟩

/-- A stored threshold fires when its rule does. -/
theorem triggered_of_stores {threshold : AlertThreshold D} {rule : Rule D}
    (h : Stores threshold rule) (sensorId sensorType : CString) (value : D) :
    (AlertEngine.triggered sensorId sensorType value threshold).map callRecord =
      if rule.Fires sensorType value then
        some ⟨sensorId, sensorType.cut 15, value, rule.level, false⟩
      else none := by
  have hfires : (threshold.isActive ∧ CString.strncmp threshold.sensorType.str sensorType 15 ∧
      checkCondition value threshold.thresholdValue threshold.condition.str) ↔
        rule.Fires sensorType value := by
    rw [Rule.Fires, checkCondition_iff, h.active, h.sensorType, h.thresholdValue, h.condition,
      holds_cut, CString.strncmp, CString.cut_cut, decide_eq_true_eq]
    simp
  rw [AlertEngine.triggered]
  by_cases hrule : rule.Fires sensorType value
  · rw [if_pos (hfires.mpr hrule), if_pos hrule, ← h.level]
    rfl
  · rw [if_neg (mt hfires.mp hrule), if_neg hrule]
    rfl

/-- The calls a measurement leads to are the records of the rules that fire. -/
theorem calls_of_stores {e : Engine D} {rules : List (Rule D)}
    (h : List.Forall₂ Stores e.thresholds.live rules) (now : Fin maxAlerts → ℤ)
    (sensorId sensorType : CString) (value : D) :
    (AlertEngine.checkMeasurement now sensorId sensorType value e).2.map callRecord =
      firedRecords sensorId sensorType value rules := by
  rw [calls_checkMeasurement, firedRecords]
  generalize e.thresholds.live = thresholds at h
  induction h with
  | nil => rfl
  | @cons threshold rule thresholds rules hstores _ ih =>
    have hfirst := triggered_of_stores hstores sensorId sensorType value
    by_cases hrule : rule.Fires sensorType value
    · rw [if_pos hrule, Option.map_eq_some_iff] at hfirst
      obtain ⟨call, hcall, hrecord⟩ := hfirst
      rw [List.filterMap_cons_some hcall, List.map_cons, hrecord, ih,
        List.filter_cons_of_pos (by simpa using hrule), List.map_cons]
    · rw [if_neg hrule, Option.map_eq_none_iff] at hfirst
      rw [List.filterMap_cons_none hfirst, ih, List.filter_cons_of_neg (by simpa using hrule)]

omit [CDouble D] in
/-- One alert more in the array is one record more in the window. -/
theorem window_addActiveAlert (now : ℤ) {call : AlertCall D} (hfits : call.sensorId.length ≤ 31)
    (alerts : AlertList D) :
    (addActiveAlert now call alerts).live.map record =
      (alerts.live.map record ++ [callRecord call]).rtake maxAlerts := by
  obtain ⟨slot, hlive⟩ := live_addActiveAlert now call alerts
  have hrecord : record (ActiveAlert.fill slot now call) = callRecord call := by
    simp [record, ActiveAlert.fill, callRecord, CString.cut_eq_self hfits]
  rw [hlive, map_rtake, List.map_append, List.map_singleton, hrecord]

theorem sensorId_of_triggered {sensorId sensorType : CString} {value : D}
    {threshold : AlertThreshold D} {call : AlertCall D}
    (h : AlertEngine.triggered sensorId sensorType value threshold = some call) :
    call.sensorId = sensorId := by
  rw [AlertEngine.triggered, Option.ite_none_right_eq_some] at h
  exact Option.some.inj h.2 ▸ rfl

theorem window_checkLoop (now : Fin maxAlerts → ℤ) {sensorId : CString}
    (hfits : sensorId.length ≤ 31) (sensorType : CString) (value : D)
    (rounds : List (Fin maxAlerts)) (e : Engine D) :
    let result := checkLoop now sensorId sensorType value rounds e
    result.1.activeAlerts.live.map record =
      (e.activeAlerts.live.map record ++ result.2.map callRecord).rtake maxAlerts := by
  induction rounds generalizing e with
  | nil =>
    have hshort : (e.activeAlerts.live.map record).length ≤ maxAlerts := by
      simpa using e.activeAlerts.count_le
    simpa [checkLoop] using (rtake_of_length_le hshort).symm
  | cons i rest ih =>
    cases hcall : AlertEngine.triggered sensorId sensorType value (e.thresholds.get i) with
    | none => simpa only [checkLoop, hcall] using ih e
    | some call =>
      have hadd := window_addActiveAlert (now i) ((sensorId_of_triggered hcall).symm ▸ hfits)
        e.activeAlerts
      simp only [checkLoop, hcall, List.map_cons]
      rw [ih, hadd, rtake_rtake_append, List.append_assoc, List.singleton_append]

omit [CDouble D] in
/-- Which rules are stored does not depend on the times the thresholds were triggered. -/
theorem forall₂_stores_rules {e : Engine D} {rs : List (Rule D)} :
    List.Forall₂ Stores (AlertEngine.rules e) rs ↔ List.Forall₂ Stores e.thresholds.live rs := by
  have hrule {threshold : AlertThreshold D} {rule : Rule D} :
      Stores threshold.rule rule ↔ Stores threshold rule :=
    ⟨fun h ↦ ⟨h.1, h.2, h.3, h.4, h.5⟩, fun h ↦ ⟨h.1, h.2, h.3, h.4, h.5⟩⟩
  rw [AlertEngine.rules, Slots.keys, List.forall₂_map_left_iff]
  simp only [hrule]

/-- A measurement keeps the thresholds that store the rules. -/
theorem stores_checkMeasurement {e : Engine D} {rs : List (Rule D)}
    (h : List.Forall₂ Stores e.thresholds.live rs) (now : Fin maxAlerts → ℤ)
    (sensorId sensorType : CString) (value : D) :
    List.Forall₂ Stores
      (AlertEngine.checkMeasurement now sensorId sensorType value e).1.thresholds.live rs := by
  rw [← forall₂_stores_rules, rules_checkMeasurement, forall₂_stores_rules]
  exact h

theorem represents_checkMeasurement {e : Engine D} {l : Log D} (h : Represents e l)
    (now : Fin maxAlerts → ℤ) {sensorId : CString} (hfits : sensorId.length ≤ 31)
    (sensorType : CString) (value : D) :
    Represents (AlertEngine.checkMeasurement now sensorId sensorType value e).1
        (l.checkMeasurement sensorId sensorType value).1 ∧
      ((AlertEngine.checkMeasurement now sensorId sensorType value e).2.length : ℤ) =
        (l.checkMeasurement sensorId sensorType value).2 := by
  have hcalls := calls_of_stores h.rules now sensorId sensorType value
  refine ⟨⟨stores_checkMeasurement h.rules now sensorId sensorType value, ?_⟩, ?_⟩
  · have hwindow := window_checkLoop now hfits sensorType value
      ((List.finRange maxAlerts).take e.thresholds.count) e
    calc
      _ = (e.activeAlerts.live.map record ++
            (AlertEngine.checkMeasurement now sensorId sensorType value e).2.map callRecord).rtake
              maxAlerts := hwindow
      _ = (l.records ++ firedRecords sensorId sensorType value l.rules).rtake maxAlerts := by
        rw [hcalls, h.window, Log.window, rtake_rtake_append]
  · have hlength := congrArg List.length hcalls
    rw [List.length_map] at hlength
    rw [hlength]
    rfl

/-! ## Registrations and resolutions -/

theorem represents_init : Represents (AlertEngine.init : Engine D) Log.init where
  rules := by simp [AlertEngine.init, Log.init]
  window := by simp [AlertEngine.init, Log.init, Log.window]

omit [CDouble D] in
/-- A registration with room and a type stores its rule. -/
theorem stores_registerThreshold {e : Engine D} {rs : List (Rule D)}
    (h : List.Forall₂ Stores e.thresholds.live rs) (hroom : rs.length < maxAlerts)
    {sensorType : CString} (htype : sensorType.length ≠ 0) (now : ℤ) (threshold : D)
    (level : AlertLevel) (condition message : CString) :
    List.Forall₂ Stores (AlertEngine.registerThreshold now sensorType threshold level condition
        message e).1.thresholds.live (rs ++ [⟨sensorType, threshold, level, condition⟩]) ∧
      (AlertEngine.registerThreshold now sensorType threshold level condition message e).2 = 0 := by
  have hcount : e.thresholds.count < maxAlerts := by
    rwa [← Slots.length_live, h.length_eq]
  rw [AlertEngine.registerThreshold, dif_pos hcount, if_neg htype]
  refine ⟨?_, rfl⟩
  simp only [Slots.live_push]
  refine List.rel_append h (.cons ?_ .nil)
  constructor <;> simp

omit [CDouble D] in
theorem represents_registerThreshold {e : Engine D} {l : Log D} (h : Represents e l) (now : ℤ)
    (sensorType : CString) (threshold : D) (level : AlertLevel) (condition message : CString) :
    let result := AlertEngine.registerThreshold now sensorType threshold level condition message e
    let result' := l.registerThreshold ⟨sensorType, threshold, level, condition⟩
    Represents result.1 result'.1 ∧ result.2 = result'.2 := by
  have hcount : e.thresholds.count = l.rules.length := by
    rw [← Slots.length_live, h.rules.length_eq]
  have hempty : sensorType.length = 0 ↔ sensorType = ∅ := by
    rw [CString.length, List.length_eq_zero_iff, CString.ext_iff]
    rfl
  dsimp only
  by_cases hroom : e.thresholds.count < maxAlerts
  · by_cases htype : sensorType = ∅
    · rw [AlertEngine.registerThreshold, Log.registerThreshold, dif_pos hroom,
        if_pos (hempty.mpr htype), if_neg (by simp [htype])]
      exact ⟨h, rfl⟩
    · obtain ⟨hstores, hzero⟩ := stores_registerThreshold h.rules (hcount ▸ hroom)
        (mt hempty.mp htype) now threshold level condition message
      rw [Log.registerThreshold, ← hcount, if_pos ⟨hroom, htype⟩]
      refine ⟨⟨hstores, ?_⟩, hzero⟩
      rw [activeAlerts_registerThreshold]
      exact h.window
  · rw [AlertEngine.registerThreshold, Log.registerThreshold, ← hcount, dif_neg hroom,
      if_neg (fun hand ↦ hroom hand.1)]
    exact ⟨h, rfl⟩

omit [CDouble D] in
theorem represents_resolveAlert {e : Engine D} {l : Log D} (h : Represents e l)
    (sensorId : CString) :
    let result := AlertEngine.resolveAlert sensorId e
    let result' := l.resolveAlert sensorId
    Represents result.1 result'.1 ∧ (result.2 : ℤ) = result'.2 := by
  have hopen (alert : ActiveAlert D) :
      (decide (alert.sensorId.str = sensorId) && !alert.isResolved) =
        decide ((record alert).Open sensorId) := by
    rw [Bool.eq_iff_iff, decide_eq_true_iff, Record.Open]
    simp [record]
  obtain ⟨hlive, hcount⟩ := e.activeAlerts.updateWhere_live
    (fun alert ↦ decide (alert.sensorId.str = sensorId) && !alert.isResolved)
    (fun alert ↦ { alert with isResolved := true })
  refine ⟨⟨h.rules, ?_⟩, ?_⟩
  · calc
      _ = (e.activeAlerts.live.map record).map (Record.resolve sensorId) := by
        simp only [AlertEngine.resolveAlert]
        rw [hlive, List.map_map, List.map_map]
        apply List.map_congr_left
        intro alert _
        simp only [Function.comp, Record.resolve, hopen, decide_eq_true_eq]
        split <;> rfl
      _ = (l.resolveAlert sensorId).1.window := by
        rw [h.window, Log.window, Log.window, Log.resolveAlert, rtake_updateWindow]
  · simp only [AlertEngine.resolveAlert, Log.resolveAlert]
    rw [hcount, ← h.window, List.countP_map]
    simp only [hopen]
    rfl

/-! ## Refinement -/

/-- Over every sequence of calls with ids that fit, the engine represents the log and answers
alike. -/
theorem represents_run {operations : List (Operation D)}
    (hfits : ∀ operation ∈ operations, operation.Fits) :
    Represents ((engine D).run AlertEngine.init operations).1
        ((log D).run Log.init operations).1 ∧
      ((engine D).run AlertEngine.init operations).2 = ((log D).run Log.init operations).2 := by
  refine Answering.run_simulation Represents ?_ represents_init hfits
  intro e l operation h hoperation
  cases operation with
  | init => exact ⟨represents_init, rfl⟩
  | registerThreshold now sensorType threshold level condition message =>
    exact represents_registerThreshold h now sensorType threshold level condition message
  | checkMeasurement now sensorId sensorType value =>
    exact represents_checkMeasurement h now hoperation sensorType value
  | resolveAlert sensorId => exact represents_resolveAlert h sensorId

/-- Over every sequence of calls with ids that fit, the engine returns what the log returns, and
its slots in use are the last hundred records of the log. -/
theorem engine_refines_log {operations : List (Operation D)}
    (hfits : ∀ operation ∈ operations, operation.Fits) :
    let concrete := (engine D).run AlertEngine.init operations
    let abstract := (log D).run Log.init operations
    concrete.2 = abstract.2 ∧
      concrete.1.activeAlerts.live.map record = abstract.1.records.rtake maxAlerts := by
  obtain ⟨hrepresents, hanswers⟩ := represents_run hfits
  exact ⟨hanswers, hrepresents.window⟩

/-- Three thresholds and the alerts of two sensors, with a resolution between them and one of a
sensor that has none. -/
def severalAlerts : List (Operation ℚ) :=
  [.registerThreshold 0 (.lit "temperature") 30 .warning (.lit ">") (.lit "Temperature high"),
    .registerThreshold 0 (.lit "temperature") 50 .critical (.lit ">") (.lit "Temperature critical"),
    .registerThreshold 0 (.lit "energy") 500 .warning (.lit ">") (.lit "Energy high"),
    .checkMeasurement (fun _ ↦ 1) (.lit "s1") (.lit "temperature") 60,
    .checkMeasurement (fun _ ↦ 2) (.lit "s2") (.lit "energy") 600, .resolveAlert (.lit "s1"),
    .checkMeasurement (fun _ ↦ 3) (.lit "s1") (.lit "temperature") 31, .resolveAlert (.lit "s3")]

theorem engine_refines_log_several_alerts :
    ((engine ℚ).run AlertEngine.init severalAlerts).2 = [0, 0, 0, 2, 1, 2, 1, 0] ∧
      ((engine ℚ).run AlertEngine.init severalAlerts).2 =
        ((log ℚ).run Log.init severalAlerts).2 ∧
      ((engine ℚ).run AlertEngine.init severalAlerts).1.activeAlerts.live.map record =
        ((log ℚ).run Log.init severalAlerts).1.records.rtake maxAlerts := by
  refine ⟨by decide +kernel, engine_refines_log ?_⟩
  have hid : (CString.lit "s1").length ≤ 31 := by decide
  have hid' : (CString.lit "s2").length ≤ 31 := by decide
  simp only [severalAlerts, List.forall_mem_cons, List.not_mem_nil, false_implies, implies_true,
    and_true]
  exact ⟨trivial, trivial, trivial, hid, hid', trivial, hid, trivial⟩

end IotMonitoring.Server.AlertLog
