import IotMonitoring.Server.AlertLog
import IotMonitoring.Server.Effects

/-!
# The thresholds of the running server

`main` registers five thresholds before the server starts and nothing registers another one later.
So in every reachable state the slots in use hold these five rules, and a check of a measurement
evaluates the conditions of those whose type agrees with its own on the first 15 bytes.
-/

namespace IotMonitoring.Server.HandleClient

open Text Machine AlertEngine AlertLog

variable {D κ : Type} [CDouble D]

/-- The rules that `main` registers. -/
def startupRules (D : Type) [CDouble D] : List (Rule D) :=
  [⟨.lit "temperature", CDouble.ofNat 30, .warning, .lit ">"⟩,
    ⟨.lit "temperature", CDouble.ofNat 50, .critical, .lit ">"⟩,
    ⟨.lit "vibration", CDouble.ofNat 5, .warning, .lit ">"⟩,
    ⟨.lit "vibration", CDouble.ofNat 10, .critical, .lit ">"⟩,
    ⟨.lit "energy", CDouble.ofNat 500, .warning, .lit ">"⟩]

theorem stores_serverInit (now : ℤ) :
    List.Forall₂ Stores (serverInit now : ServerState D κ).engine.thresholds.live
      (startupRules D) := by
  have h0 : List.Forall₂ Stores (AlertEngine.init : Engine D).thresholds.live [] := by
    simp [AlertEngine.init]
  have hregister {e : Engine D} {rules : List (Rule D)}
      (h : List.Forall₂ Stores e.thresholds.live rules) (hroom : rules.length < maxAlerts)
      {type : String} (htype : (CString.lit type).length ≠ 0) (threshold : D) (level : AlertLevel)
      (message : CString) := (stores_registerThreshold h hroom htype now threshold level
        (.lit ">") message).1
  have h1 := hregister h0 (by simp [maxAlerts])
    (by decide : (CString.lit "temperature").length ≠ 0)
    (CDouble.ofNat 30) .warning (.lit "Temperature above normal")
  have h2 := hregister h1 (by simp [maxAlerts])
    (by decide : (CString.lit "temperature").length ≠ 0)
    (CDouble.ofNat 50) .critical (.lit "Temperature critically high")
  have h3 := hregister h2 (by simp [maxAlerts])
    (by decide : (CString.lit "vibration").length ≠ 0)
    (CDouble.ofNat 5) .warning (.lit "Vibration above normal")
  have h4 := hregister h3 (by simp [maxAlerts])
    (by decide : (CString.lit "vibration").length ≠ 0)
    (CDouble.ofNat 10) .critical (.lit "Vibration critically high")
  exact hregister h4 (by simp [maxAlerts])
    (by decide : (CString.lit "energy").length ≠ 0)
    (CDouble.ofNat 500) .warning (.lit "Energy consumption high")

/-- In every reachable state the thresholds store the rules of `main`. -/
theorem stores_of_reachable {now : ℤ} {s : ServerState D κ}
    (h : (server D κ).Reachable (serverInit now) s) :
    List.Forall₂ Stores s.engine.thresholds.live (startupRules D) := by
  rw [← forall₂_stores_rules, rules_of_reachable h, forall₂_stores_rules]
  exact stores_serverInit now

omit [CDouble D] in
theorem exists_rule_of_stores {thresholds : List (AlertThreshold D)} {rules : List (Rule D)}
    (h : List.Forall₂ Stores thresholds rules) {threshold : AlertThreshold D}
    (hmem : threshold ∈ thresholds) : ∃ rule ∈ rules, Stores threshold rule := by
  obtain ⟨i, hi, rfl⟩ := List.mem_iff_getElem.mp hmem
  have hlength : i < rules.length := h.length_eq ▸ hi
  exact ⟨_, List.getElem_mem hlength, h.get hi hlength⟩

theorem stores_of_mem_thresholds {now : ℤ} {s : ServerState D κ}
    (h : (server D κ).Reachable (serverInit now) s) {threshold : AlertThreshold D}
    (hmem : threshold ∈ s.engine.thresholds.live) :
    ∃ rule ∈ startupRules D, Stores threshold rule :=
  exists_rule_of_stores (stores_of_reachable h) hmem

/-- The thresholds whose conditions `alert_engine_check_measurement` evaluates. -/
def evaluated (sensorType : CString) (engine : Engine D) : List (AlertThreshold D) :=
  engine.thresholds.live.filter fun threshold ↦
    threshold.isActive && CString.strncmp threshold.sensorType.str sensorType 15

/-- The registered thresholds for a type, compared on 15 bytes. -/
def matching (sensorType : CString) (engine : Engine D) : List (AlertThreshold D) :=
  engine.thresholds.live.filter fun threshold ↦ threshold.sensorType.str = sensorType.cut 15

/-- A check calls `add_active_alert` for those of the evaluated thresholds whose condition holds. -/
theorem calls_eq_filterMap_evaluated (now : Fin maxAlerts → ℤ) (sensorId sensorType : CString)
    (value : D) (engine : Engine D) :
    (checkMeasurement now sensorId sensorType value engine).2 =
      (evaluated sensorType engine).filterMap (triggered sensorId sensorType value) := by
  rw [calls_checkMeasurement, evaluated]
  induction engine.thresholds.live with
  | nil => rfl
  | cons threshold rest ih =>
    by_cases hpass : threshold.isActive && CString.strncmp threshold.sensorType.str sensorType 15
    · rw [List.filter_cons_of_pos (by simpa using hpass), List.filterMap_cons,
        List.filterMap_cons, ih]
    · have hnone : triggered sensorId sensorType value threshold = none := by
        rw [triggered, if_neg]
        rintro ⟨hactive, htype, -⟩
        exact hpass (by simp [hactive, htype])
      rw [List.filter_cons_of_neg (by simpa using hpass), List.filterMap_cons_none hnone, ih]

/-- In a reachable state all thresholds are active, and their types fill at most 15 bytes. -/
theorem evaluated_eq_matching {now : ℤ} {s : ServerState D κ}
    (h : (server D κ).Reachable (serverInit now) s) (sensorType : CString) :
    evaluated sensorType s.engine = matching sensorType s.engine := by
  apply List.filter_congr
  intro threshold hmem
  obtain ⟨rule, -, hstores⟩ := stores_of_mem_thresholds h hmem
  rw [hstores.active, hstores.sensorType, CString.strncmp, CString.cut_cut, Bool.true_and]

end IotMonitoring.Server.HandleClient
