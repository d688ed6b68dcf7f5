import IotMonitoring.Operator.ParseSensors
import IotMonitoring.Server.AlertLine
import IotMonitoring.Server.Listings
import IotMonitoring.Server.Thresholds
import Mathlib.Data.List.Nodup

/-!
# Whole records in the listings

A record passes through a buffer of 128 or 512 bytes on its way into a listing, and the message of
an alert through one of 256. The rendered value is as long as the measurement makes it, so each of
these buffers can cut what is written into it, and a record that has lost its semicolon runs into
the next one. The listings of a reachable state consist of whole records, whatever the size of the
buffer they are written to, exactly when all texts keep within the buffers they are formatted into.
-/

namespace IotMonitoring.Server.HandleClient

open Text Machine Protocol SensorManager AlertEngine AlertLog Listings Operator.ParseSensors

variable {D κ : Type} [CDouble D]

/-- The text `type: value condition threshold`. -/
def messageText (sensorType : CString) (value : D) (condition : CString) (threshold : D) :
    CString :=
  sensorType ++ .lit ": " ++ CDouble.fixed2 value ++ .lit " " ++ condition ++ .lit " " ++
    CDouble.fixed2 threshold

/-- What is formatted for an alert, before it is cut. -/
def alertRecordText (alert : ActiveAlert D) : CString :=
  alert.sensorId.str ++ .lit "," ++ alert.sensorType.str ++ .lit "," ++
    CDouble.fixed2 alert.value ++ .lit "," ++
    (if alert.level = .warning then .lit "WARNING" else .lit "CRITICAL") ++ .lit "," ++
    decimal alert.timestamp ++ .lit "," ++ alert.message.str ++ .lit ";"

/-- The process where `alert_engine_resolve_alert` is called between the commands; no command calls
it. -/
def resolvingServer (D κ : Type) [CDouble D] : Labelled (ServerState D κ) (Event κ ⊕ CString) where
  step s label :=
    match label with
    | .inl event => (server D κ).step s event
    | .inr sensorId => some { s with engine := (resolveAlert sensorId s.engine).1 }

omit [CDouble D] in
/-- A resolution marks alerts and leaves the rest of them alone. -/
theorem live_resolveAlert (sensorId : CString) (engine : Engine D) :
    (resolveAlert sensorId engine).1.activeAlerts.live =
      engine.activeAlerts.live.map fun alert ↦
        if decide (alert.sensorId.str = sensorId) && !alert.isResolved then
          { alert with isResolved := true }
        else alert :=
  (engine.activeAlerts.updateWhere_live _ _).1

/-! ## The rule of an alert -/

/-- The rule that an alert of this type and level comes from. -/
structure RuleOf (alert : ActiveAlert D) (rule : Rule D) : Prop where
  mem : rule ∈ startupRules D
  sensorType : rule.sensorType = alert.sensorType.str
  level : rule.level = alert.level

/-- No two rules share type and level. -/
theorem RuleOf.unique {alert : ActiveAlert D} {rule rule' : Rule D} (h : RuleOf alert rule)
    (h' : RuleOf alert rule') : rule = rule' := by
  have hkeys : ((startupRules D).map fun rule ↦ (rule.sensorType, rule.level)).Nodup :=
    (by decide : [(CString.lit "temperature", AlertLevel.warning),
      (.lit "temperature", .critical), (.lit "vibration", .warning),
      (.lit "vibration", .critical), (.lit "energy", .warning)].Nodup)
  apply List.inj_on_of_nodup_map hkeys h.mem h'.mem
  rw [h.sensorType, h.level, h'.sensorType, h'.level]

/-- The text that the message of an alert is cut from, for a rule. -/
def messageBy (alert : ActiveAlert D) (rule : Rule D) : CString :=
  messageText alert.sensorType.str alert.value rule.condition rule.threshold

def FromRule (alert : ActiveAlert D) : Prop :=
  ∃ rule, RuleOf alert rule ∧ alert.message.str = (messageBy alert rule).cut 255

def FullMessage (alert : ActiveAlert D) : Prop :=
  ∃ rule, RuleOf alert rule ∧ alert.message.str = messageBy alert rule

theorem fullMessage_iff {alert : ActiveAlert D} (h : FromRule alert) :
    FullMessage alert ↔ ∀ rule, RuleOf alert rule → (messageBy alert rule).length ≤ 255 := by
  obtain ⟨rule, hrule, hmessage⟩ := h
  constructor
  · rintro ⟨rule', hrule', hfull⟩ rule'' hrule''
    rw [hrule''.unique hrule', ← hfull]
    exact alert.message.length_str_le
  · intro hfits
    refine ⟨rule, hrule, ?_⟩
    rw [hmessage, CString.cut_eq_self (hfits rule hrule)]

theorem length_of_mem_startupRules {rule : Rule D} (h : rule ∈ startupRules D) :
    rule.sensorType.length < 15 ∧ rule.condition.length ≤ 7 := by
  have hcondition : (CString.lit ">").length ≤ 7 := by decide
  have htemperature : (CString.lit "temperature").length < 15 := by decide
  have hvibration : (CString.lit "vibration").length < 15 := by decide
  have henergy : (CString.lit "energy").length < 15 := by decide
  simp only [startupRules, List.mem_cons, List.not_mem_nil, or_false] at h
  obtain rfl | rfl | rfl | rfl | rfl := h
  · exact ⟨htemperature, hcondition⟩
  · exact ⟨htemperature, hcondition⟩
  · exact ⟨hvibration, hcondition⟩
  · exact ⟨hvibration, hcondition⟩
  · exact ⟨henergy, hcondition⟩

/-- An alert that a threshold with a rule of `main` has triggered comes from this rule. -/
theorem fromRule_of_triggered {threshold : AlertThreshold D} {rule : Rule D}
    (hrule : rule ∈ startupRules D) (hstores : Stores threshold rule)
    {sensorId sensorType : CString} {value : D} {call : AlertCall D}
    (h : triggered sensorId sensorType value threshold = some call) (slot : ActiveAlert D)
    (time : ℤ) : FromRule (slot.fill time call) := by
  have hshort := length_of_mem_startupRules hrule
  rw [triggered, Option.ite_none_right_eq_some] at h
  obtain ⟨⟨-, htype, -⟩, heq⟩ := h
  obtain rfl := Option.some.inj heq
  obtain rfl : sensorType = rule.sensorType := by
    rw [CString.strncmp, decide_eq_true_eq, hstores.sensorType, CString.cut_cut,
      CString.cut_eq_self hshort.1.le] at htype
    exact (CString.cut_eq_iff hshort.1).mp htype.symm
  have hcut := CString.cut_eq_self hshort.1.le
  refine ⟨rule, ⟨hrule, ?_, hstores.level.symm⟩, ?_⟩
  · simp only [ActiveAlert.fill, CharField.str_strncpy, hcut]
  · simp only [ActiveAlert.fill, messageBy, messageText, CharField.str_strncpy, hcut,
      hstores.condition, hstores.thresholdValue, CString.cut_eq_self hshort.2, CString.snprintf]
    exact CString.cut_cut 255 _

/-- In every reachable state each alert comes from a rule of `main`. -/
theorem fromRule_of_reachable {now : ℤ} {s : ServerState D κ}
    (h : (resolvingServer D κ).Reachable (serverInit now) s) :
    ∀ alert ∈ s.engine.activeAlerts.live, FromRule alert := by
  have hinv : List.Forall₂ Stores s.engine.thresholds.live (startupRules D) ∧
      ∀ alert ∈ s.engine.activeAlerts.live, FromRule alert := by
    refine Labelled.inv_of_reachable (fun s ↦
      List.Forall₂ Stores s.engine.thresholds.live (startupRules D) ∧
        ∀ alert ∈ s.engine.activeAlerts.live, FromRule alert) ?_
      ⟨stores_serverInit now, by simp [serverInit, AlertEngine.init]⟩ h
    rintro s label t ⟨hstores, halerts⟩ hstep
    cases label with
    | inl event =>
      obtain hsame | ⟨time, sensorId, sensorType, value, hcheck⟩ := (calls_step hstep).2
      · rw [hsame]
        exact ⟨hstores, halerts⟩
      · rw [hcheck]
        refine ⟨stores_checkMeasurement hstores time sensorId sensorType value, ?_⟩
        apply forall_live_checkMeasurement time sensorId sensorType value halerts
        intro threshold hthreshold call hcall slot now'
        obtain ⟨rule, hrule, hstored⟩ := exists_rule_of_stores hstores hthreshold
        exact fromRule_of_triggered hrule hstored hcall slot now'
    | inr sensorId =>
      obtain rfl := Option.some.inj hstep
      refine ⟨hstores, ?_⟩
      rw [live_resolveAlert]
      intro alert halert
      obtain ⟨unmarked, hunmarked, rfl⟩ := List.mem_map.mp halert
      split
      · obtain ⟨rule, ⟨hmem, htype, hlevel⟩, hmessage⟩ := halerts unmarked hunmarked
        exact ⟨rule, ⟨hmem, htype, hlevel⟩, hmessage⟩
      · exact halerts unmarked hunmarked
  exact hinv.2

/-! ## The listings -/

/-- The listings consist of whole records, one for each entry that is listed, and the messages of
the alerts are whole. -/
structure WholeListings (s : ServerState D κ) : Prop where
  sensors (bufferSize : Int32) : 0 < bufferSize →
    SensorManager.getActiveSensors bufferSize.toInt s.sensors =
      some (CString.concat ((kept Sensor.isActive sensorRecord bufferSize.toNatClampNeg
        s.sensors.live).map recordText))
  alerts (bufferSize : Int32) : 0 < bufferSize →
    AlertEngine.getActiveAlerts bufferSize.toInt s.engine =
      some (CString.concat ((kept isListed alertRecord bufferSize.toNatClampNeg
        s.engine.activeAlerts.live).map alertRecordText))
  messages (bufferSize : Int32) : 0 < bufferSize →
    ∀ alert ∈ kept isListed alertRecord bufferSize.toNatClampNeg s.engine.activeAlerts.live,
      FullMessage alert

/-- The texts keep within the buffers they are formatted into. -/
structure FitsBuffers (s : ServerState D κ) : Prop where
  sensors : ∀ sensor ∈ s.sensors.live, sensor.isActive → (recordText sensor).length ≤ 127
  alerts : ∀ alert ∈ s.engine.activeAlerts.live, isListed alert →
    (alertRecordText alert).length ≤ 511
  messages : ∀ alert ∈ s.engine.activeAlerts.live, isListed alert →
    ∀ rule, RuleOf alert rule → (messageBy alert rule).length ≤ 255

section

variable {α : Type} {eligible : α → Bool} {full : α → CString} {most : ℕ} {entries : List α}

/-- A buffer of this size has room for the records of all entries. -/
theorem kept_of_short (hshort : entries.length * most < 100000) :
    kept eligible (fun entry ↦ (full entry).cut most) (100000 : Int32).toNatClampNeg entries =
      entries.filter eligible := by
  apply kept_eq_filter
  calc
    _ ≤ (entries.filter eligible).length * most := length_concat_cut_le_mul full most _
    _ ≤ entries.length * most := Nat.mul_le_mul_right most (List.length_filter_le _ _)
    _ < (100000 : Int32).toNatClampNeg := hshort

/-- A loop that cuts its records to a bound lists them whole into all buffers exactly when they keep
within the bound. -/
theorem whole_listing_iff (hshort : entries.length * most < 100000) :
    (∀ bufferSize : Int32, 0 < bufferSize →
      listing bufferSize.toNatClampNeg
          ((entries.filter eligible).map fun entry ↦ (full entry).cut most) =
        CString.concat ((kept eligible (fun entry ↦ (full entry).cut most)
          bufferSize.toNatClampNeg entries).map full)) ↔
      ∀ entry ∈ entries, eligible entry → (full entry).length ≤ most := by
  constructor
  · intro hwhole entry hentry heligible
    have hall := hwhole 100000 (by decide)
    rw [listing_eq_concat_kept, kept_of_short hshort, concat_map_cut_eq_iff] at hall
    exact hall entry (List.mem_filter.mpr ⟨hentry, heligible⟩)
  · intro hfits bufferSize hpos
    rw [listing_eq_concat_kept, concat_map_cut_eq_iff]
    intro entry hentry
    have hmem := (kept_sublist _ _ _).subset hentry
    rw [List.mem_filter] at hmem
    exact hfits entry hmem.1 hmem.2

end

omit [CDouble D] in
theorem short_sensors (s : ServerState D κ) : s.sensors.live.length * 127 < 100000 := by
  have hcount := s.sensors.count_le
  rw [Slots.length_live]
  simp only [maxSensors] at hcount
  omega

omit [CDouble D] in
theorem short_alerts (s : ServerState D κ) :
    s.engine.activeAlerts.live.length * 511 < 100000 := by
  have hcount := s.engine.activeAlerts.count_le
  rw [Slots.length_live]
  simp only [maxAlerts] at hcount
  omega

/-- The messages of all alerts that some buffer has room for are whole exactly when they keep within
the buffer of the message. -/
theorem full_messages_iff {s : ServerState D κ}
    (hfromRule : ∀ alert ∈ s.engine.activeAlerts.live, FromRule alert) :
    (∀ bufferSize : Int32, 0 < bufferSize →
      ∀ alert ∈ kept isListed alertRecord bufferSize.toNatClampNeg s.engine.activeAlerts.live,
        FullMessage alert) ↔
      ∀ alert ∈ s.engine.activeAlerts.live, isListed alert →
        ∀ rule, RuleOf alert rule → (messageBy alert rule).length ≤ 255 := by
  constructor
  · intro hwhole alert halert hlisted
    apply (fullMessage_iff (hfromRule alert halert)).mp
    apply hwhole 100000 (by decide)
    have hkept : kept isListed alertRecord (100000 : Int32).toNatClampNeg
        s.engine.activeAlerts.live = s.engine.activeAlerts.live.filter isListed :=
      kept_of_short (short_alerts s)
    rw [hkept, List.mem_filter]
    exact ⟨halert, hlisted⟩
  · intro hfits bufferSize hpos alert halert
    have hmem := (kept_sublist _ _ _).subset halert
    rw [List.mem_filter] at hmem
    exact (fullMessage_iff (hfromRule alert hmem.1)).mpr (hfits alert hmem.1 hmem.2)

/-- In a reachable state the listings consist of whole records exactly when every record of an
active sensor has at most 127 bytes, and every record of an unresolved alert at most 511 and its
message at most 255. -/
theorem wholeListings_iff {now : ℤ} {s : ServerState D κ}
    (h : (resolvingServer D κ).Reachable (serverInit now) s) : WholeListings s ↔ FitsBuffers s := by
  have hmessages := full_messages_iff (fromRule_of_reachable h)
  constructor
  · intro hwhole
    refine ⟨(whole_listing_iff (short_sensors s)).mp ?_, (whole_listing_iff (short_alerts s)).mp ?_,
      hmessages.mp hwhole.messages⟩
    · intro bufferSize hpos
      have hlist := hwhole.sensors bufferSize hpos
      rw [getActiveSensors_of_pos hpos] at hlist
      exact Option.some.inj hlist
    · intro bufferSize hpos
      have hlist := hwhole.alerts bufferSize hpos
      rw [getActiveAlerts_of_pos hpos] at hlist
      exact Option.some.inj hlist
  · intro hfits
    refine ⟨?_, ?_, hmessages.mpr hfits.messages⟩
    · intro bufferSize hpos
      rw [getActiveSensors_of_pos hpos]
      exact congrArg some ((whole_listing_iff (short_sensors s)).mpr hfits.sensors bufferSize hpos)
    · intro bufferSize hpos
      rw [getActiveAlerts_of_pos hpos]
      exact congrArg some ((whole_listing_iff (short_alerts s)).mpr hfits.alerts bufferSize hpos)

/-- A second sensor. -/
def vibrationChunk : Chunk := ⟨ascii "REGISTER_SENSOR s2 vibration\r\n", by decide, by decide⟩

/-- A value of 111 digits. -/
def hugeChunk : Chunk := ⟨ascii "MEASUREMENT s1 1e110 C\r\n", by decide, by decide⟩

/-- Both sensors register and the first one sends a measurement. -/
def measurementOf (chunk : Chunk) : List (Event ℕ ⊕ CString) :=
  [registerChunk, vibrationChunk, chunk].map fun chunk ↦ .inl (.request sensorEnv ⟨5, 0⟩ chunk)

theorem wholeListings_iff_sixty_degrees :
    ∃ s : ServerState ℚ ℕ,
      (resolvingServer ℚ ℕ).run (serverInit 0) (measurementOf (measurementChunk 1)) = some s ∧
        (WholeListings s ↔ FitsBuffers s) :=
  ⟨_, rfl, wholeListings_iff ⟨measurementOf (measurementChunk 1), rfl⟩⟩

/-- The value pushes the semicolon of the first record out of its buffer, so the listing of two
sensors has one record in it. -/
theorem not_wholeListings_of_huge_value :
    ∃ s : ServerState ℚ ℕ,
      (resolvingServer ℚ ℕ).run (serverInit 0) (measurementOf hugeChunk) = some s ∧
        (s.sensors.live.filter Sensor.isActive).length = 2 ∧
        (SensorManager.getActiveSensors 1024 s.sensors).map (·.bytes.count 59) = some 1 ∧
        ¬ WholeListings s := by
  have hrun : ((resolvingServer ℚ ℕ).run (serverInit 0) (measurementOf hugeChunk)).map (fun s ↦
      ((s.sensors.live.filter Sensor.isActive).length,
        (SensorManager.getActiveSensors 1024 s.sensors).map (·.bytes.count 59),
        (CString.concat ((kept Sensor.isActive sensorRecord 1024 s.sensors.live).map
          recordText)).bytes.count 59)) = some (2, some 1, 2) := by decide +kernel
  obtain ⟨s, hs, hlisted⟩ := Option.map_eq_some_iff.mp hrun
  simp only [Prod.mk.injEq] at hlisted
  obtain ⟨hactive, hmerged, hwhole⟩ := hlisted
  refine ⟨s, hs, hactive, hmerged, fun hlistings ↦ ?_⟩
  have hlist : SensorManager.getActiveSensors 1024 s.sensors = some (CString.concat
      ((kept Sensor.isActive sensorRecord 1024 s.sensors.live).map recordText)) :=
    hlistings.sensors 1024 (by decide)
  rw [hlist, Option.map_some, hwhole] at hmerged
  exact absurd hmerged (by decide)

end IotMonitoring.Server.HandleClient
