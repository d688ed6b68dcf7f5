import IotMonitoring.Server.HandleClient

/-!
# Framing of replies

Every reply is formatted with its line end into the 512 bytes of `resp_buf`. The texts come from
the source, or from arguments, which have no line ends. Only the two listings can be too long: they
are collected in 1024 bytes, and what does not fit into the reply buffer is cut away together with
the line end. Since a record is short against the list, a listing fits exactly when all records
together do.
-/

namespace IotMonitoring.Server.HandleClient

open Text Machine Protocol SensorManager AlertEngine OperatorRegistry AuthClient

variable {D κ : Type} [CDouble D]

/-! ## Stored strings -/

def SensorSafe (sensor : Sensor D) : Prop :=
  sensor.id.str.LineSafe ∧ sensor.type.str.LineSafe ∧ sensor.lastUnit.str.LineSafe

def AlertSafe (alert : ActiveAlert D) : Prop :=
  alert.sensorId.str.LineSafe ∧ alert.sensorType.str.LineSafe ∧ alert.message.str.LineSafe

/-- No string that a listing prints has a line end. -/
structure ServerState.LineSafe (s : ServerState D κ) : Prop where
  sensors : ∀ sensor ∈ s.sensors.live, SensorSafe sensor
  thresholds : ∀ threshold ∈ s.engine.thresholds.live, threshold.condition.str.LineSafe
  alerts : ∀ alert ∈ s.engine.activeAlerts.live, AlertSafe alert

theorem sensorSafe_register {table : SensorTable D} (h : ∀ sensor ∈ table.live, SensorSafe sensor)
    (now : ℤ) {sensorType sensorId : CString} (htype : sensorType.LineSafe)
    (hid : sensorId.LineSafe) :
    ∀ sensor ∈ (register now sensorType sensorId table).1.live, SensorSafe sensor := by
  obtain ⟨i, -, heq⟩ | ⟨-, hroom, heq⟩ | ⟨-, -, heq⟩ :=
    register_cases now sensorType sensorId table
  · rw [heq]
    exact Slots.forall_live_modify h i fun sensor hsensor ↦ hsensor
  · rw [heq]
    intro sensor hsensor
    rw [Slots.live_push, List.mem_append, List.mem_singleton] at hsensor
    obtain hsensor | rfl := hsensor
    · exact h sensor hsensor
    · simp only [SensorSafe, Sensor.fill, CharField.str_strncpy, CharField.str_clear]
      exact ⟨hid.cut 31, htype.cut 15, CString.lineSafe_empty⟩
  · rw [heq]
    exact h

omit [CDouble D] in
theorem sensorSafe_addMeasurement {table : SensorTable D}
    (h : ∀ sensor ∈ table.live, SensorSafe sensor) (now : ℤ) (sensorId : CString) (value : D)
    {unit : CString} (hunit : unit.LineSafe) :
    ∀ sensor ∈ (addMeasurement now sensorId value unit table).1.live, SensorSafe sensor := by
  obtain ⟨i, -, heq⟩ | ⟨-, heq⟩ := addMeasurement_cases now sensorId value unit table
  · rw [heq]
    refine Slots.forall_live_modify h i fun sensor hsensor ↦ ⟨hsensor.1, hsensor.2.1, ?_⟩
    simpa [Sensor.store] using hunit.cut 15
  · rw [heq]
    exact h

theorem isNumeral_not_lineEnd {b : UInt8} (h : isNumeral b) : isLineEnd b = false := by
  by_contra hend
  simp only [isLineEnd, Bool.not_eq_false, decide_eq_true_eq] at hend
  obtain rfl | rfl := hend
  · exact absurd h (by decide)
  · exact absurd h (by decide)

theorem lineSafe_fixed2 (value : D) : (CDouble.fixed2 value).LineSafe :=
  fun b hb ↦ isNumeral_not_lineEnd (CDouble.fixed2_numeral value b hb)

theorem lineSafe_decimal (z : ℤ) : (decimal z).LineSafe := by
  intro b hb
  apply isNumeral_not_lineEnd
  rw [decimal, List.mem_append] at hb
  obtain hb | hb := hb
  · have hminus : (ascii "-").all isNumeral := by decide
    split at hb
    · exact List.all_eq_true.mp hminus b hb
    · exact absurd hb List.not_mem_nil
  · simp [isNumeral, decimalDigits_isNumeral hb]

omit [CDouble D] in
/-- An alert inherits its strings from the measurement and the rule. -/
theorem alertSafe_fill (slot : ActiveAlert D) (time : ℤ) {call : AlertCall D}
    (hid : call.sensorId.LineSafe) (htype : call.sensorType.LineSafe)
    (hmessage : call.message.LineSafe) : AlertSafe (slot.fill time call) := by
  simp only [AlertSafe, ActiveAlert.fill, CharField.str_strncpy]
  exact ⟨hid.cut 31, htype.cut 15, hmessage.cut 255⟩

theorem lineSafe_of_triggered {sensorId sensorType : CString} {value : D}
    {threshold : AlertThreshold D} {call : AlertCall D}
    (h : triggered sensorId sensorType value threshold = some call) (htype : sensorType.LineSafe)
    (hcondition : threshold.condition.str.LineSafe) :
    call.sensorId = sensorId ∧ call.sensorType = sensorType ∧ call.message.LineSafe := by
  rw [triggered, Option.ite_none_right_eq_some] at h
  obtain ⟨-, heq⟩ := h
  obtain rfl := Option.some.inj heq
  refine ⟨rfl, rfl, CString.LineSafe.snprintf ?_ 256⟩
  exact ((((htype.append (CString.lineSafe_lit (by decide))).append (lineSafe_fixed2 value)).append
    (CString.lineSafe_lit (by decide))).append hcondition).append
      (CString.lineSafe_lit (by decide)) |>.append (lineSafe_fixed2 _)

/-! ## Reachable states -/

theorem ServerState.LineSafe.store {s : ServerState D κ} (h : s.LineSafe) (env : Env)
    {args : List CString} (hargs : ∀ arg ∈ args, arg.LineSafe) :
    (storeMeasurement env args s).LineSafe := by
  unfold storeMeasurement
  split
  · exact { h with
      sensors := sensorSafe_addMeasurement h.sensors env.time _ _ (hargs _ (by simp)) }
  · exact h

theorem ServerState.LineSafe.check {s : ServerState D κ} (h : s.LineSafe) (env : Env)
    {args : List CString} (hargs : ∀ arg ∈ args, arg.LineSafe) {pointer : Fin maxSensors}
    (hpointer : pointer < s.sensors.count) : (checkStored env args pointer s).LineSafe := by
  have hlive : s.sensors.get pointer ∈ s.sensors.live :=
    List.mem_of_getElem? (s.sensors.live_getElem? hpointer)
  have htype := (h.sensors _ hlive).2.1
  unfold checkStored
  split
  · rename_i sensorId valueText unit rest
    refine ⟨h.sensors, ?_, ?_⟩
    · exact forall_thresholds_checkMeasurement (fun _ ↦ Iff.rfl) _ _ _ _ h.thresholds
    · apply forall_live_checkMeasurement _ _ _ _ h.alerts
      intro threshold hthreshold call hcall slot time
      obtain ⟨hcallId, hcallType, hmessage⟩ :=
        lineSafe_of_triggered hcall htype (h.thresholds threshold hthreshold)
      exact alertSafe_fill slot time (hcallId ▸ hargs sensorId (by simp)) (hcallType ▸ htype)
        hmessage
  · exact h

theorem ServerState.LineSafe.registerSensor {s : ServerState D κ} (h : s.LineSafe) (env : Env)
    {args : List CString} (hargs : ∀ arg ∈ args, arg.LineSafe) :
    (HandleClient.registerSensor env args s).state.LineSafe := by
  unfold HandleClient.registerSensor
  split
  · rename_i sensorId sensorType rest
    have hsensors := sensorSafe_register h.sensors env.time (hargs sensorType (by simp))
      (hargs sensorId (by simp))
    dsimp only
    split
    · exact { h with sensors := hsensors }
    · exact { h with sensors := hsensors }
  · exact h

theorem ServerState.LineSafe.measurement {s : ServerState D κ} (h : s.LineSafe) (env : Env)
    {args : List CString} (hargs : ∀ arg ∈ args, arg.LineSafe) :
    (HandleClient.measurement env args s).state.LineSafe := by
  obtain heq | heq | ⟨pointer, hpointer, heq⟩ := state_measurement env args s
  · rwa [heq]
  · rw [heq]
    exact h.store env hargs
  · rw [heq]
    exact (h.store env hargs).check env hargs hpointer

theorem ServerState.LineSafe.dispatch {s : ServerState D κ} (h : s.LineSafe) (env : Env)
    (client : Client κ) (type : CommandType) {args : List CString}
    (hargs : ∀ arg ∈ args, arg.LineSafe) :
    (HandleClient.dispatch env client type args s).state.LineSafe := by
  cases type with
  | registerSensor => exact h.registerSensor env hargs
  | measurement => exact h.measurement env hargs
  | login =>
    simp only [HandleClient.dispatch]
    unfold login
    split
    · split
      · exact ⟨h.sensors, h.thresholds, h.alerts⟩
      · exact h
      · exact h
    · exact h
  | getSensors =>
    simp only [HandleClient.dispatch]
    unfold getSensors
    split <;> exact h
  | getAlerts =>
    simp only [HandleClient.dispatch]
    unfold getAlerts
    split <;> exact h
  | ping => exact h
  | operatorIdentify => exact h
  | getStatus => exact h
  | unknown => exact h

omit [CDouble D] in
theorem safe_registerThreshold {engine : Engine D}
    (h : ∀ threshold ∈ engine.thresholds.live, threshold.condition.str.LineSafe) (now : ℤ)
    (sensorType : CString) (value : D) (level : AlertLevel) {condition : CString}
    (hcondition : condition.LineSafe) (message : CString) :
    ∀ threshold ∈ (registerThreshold now sensorType value level condition message
      engine).1.thresholds.live, threshold.condition.str.LineSafe := by
  unfold registerThreshold
  split
  · split
    · exact h
    · intro threshold hthreshold
      rw [Slots.live_push, List.mem_append, List.mem_singleton] at hthreshold
      obtain hthreshold | rfl := hthreshold
      · exact h threshold hthreshold
      · simpa using hcondition.cut 7
  · exact h

theorem lineSafe_serverInit (now : ℤ) : (serverInit now : ServerState D κ).LineSafe := by
  have hcondition : (CString.lit ">").LineSafe := CString.lineSafe_lit (by decide)
  refine ⟨?_, ?_, ?_⟩
  · simp [serverInit, SensorManager.init]
  · unfold serverInit
    iterate 5 refine safe_registerThreshold ?_ now _ _ _ hcondition _
    simp [AlertEngine.init]
  · simp [serverInit, AlertEngine.init]

/-- In every reachable state the stored strings have no line ends. -/
theorem lineSafe_of_reachable {now : ℤ} {s : ServerState D κ}
    (h : (server D κ).Reachable (serverInit now) s) : s.LineSafe := by
  refine Labelled.inv_of_reachable ServerState.LineSafe ?_ (lineSafe_serverInit now) h
  intro u event v hu hstep
  cases event with
  | request env client chunk =>
    obtain rfl := Option.some.inj hstep
    rw [respond_eq]
    exact hu.dispatch env client _ fun arg harg ↦ chunk.lineSafe_of_mem_args harg
  | store env chunk =>
    obtain rfl := Option.some.inj hstep
    exact hu.store env fun arg harg ↦ chunk.lineSafe_of_mem_args harg
  | check env chunk pointer =>
    obtain ⟨hpointer, rfl⟩ := Option.ite_some_none_eq_some.mp hstep
    exact hu.check env (fun arg harg ↦ chunk.lineSafe_of_mem_args harg) hpointer
  | disconnect client =>
    obtain rfl := Option.some.inj hstep
    exact ⟨hu.sensors, hu.thresholds, hu.alerts⟩

/-! ## Replies -/

/-- The records that the reply to a command lists. -/
def listedRecords (type : CommandType) (s : ServerState D κ) : List CString :=
  match type with
  | .getSensors => keptRecords 1024 0 (activeRecords s.sensors)
  | .getAlerts => keptRecords 1024 0 (unresolvedRecords s.engine.activeAlerts)
  | _ => []

/-- The records a command lists are short enough, all together, for the reply. -/
def FitsReply (type : CommandType) (s : ServerState D κ) : Prop :=
  match type with
  | .getSensors => (CString.concat (activeRecords s.sensors)).length ≤ 501
  | .getAlerts => (CString.concat (unresolvedRecords s.engine.activeAlerts)).length ≤ 502
  | _ => True

theorem framed_buildLine_iff {text payload : CString} (htext : text.LineSafe)
    (hpayload : payload.bytes <:+ text.bytes) :
    Framed (buildLine text) payload ↔ text.length ≤ 509 := by
  rw [buildLine, framed_snprintf_iff htext hpayload, respBufSize]
  omega

theorem framed_ok {details : CString} (hsafe : details.LineSafe) (hshort : details.length ≤ 500) :
    Framed (protocolBuildOk (some details)) ∅ := by
  have hok : (CString.lit "OK ").length = 3 := by decide
  refine (framed_buildLine_iff ?_ List.nil_suffix).mpr ?_
  · exact (CString.lineSafe_lit (by decide)).append hsafe
  · rw [CString.length_append, hok, Option.getD_some]
    omega

theorem framed_error {code desc : String} (hcode : (CString.lit code).LineSafe)
    (hdesc : (CString.lit desc).LineSafe)
    (hshort : (CString.lit code).length + (CString.lit desc).length ≤ 500) :
    Framed (error code desc).text ∅ := by
  have herror : (CString.lit "ERROR ").length = 6 := by decide
  have hspace : (CString.lit " ").length = 1 := by decide
  refine (framed_buildLine_iff ?_ List.nil_suffix).mpr ?_
  · exact (((CString.lineSafe_lit (by decide)).append hcode).append
      (CString.lineSafe_lit (by decide))).append hdesc
  · simp only [CString.length_append, herror, hspace, Option.getD_some]
    omega

theorem framed_missingArguments : Framed missingArguments.text ∅ :=
  framed_error (CString.lineSafe_lit (by decide)) (CString.lineSafe_lit (by decide)) (by decide)

theorem framed_pong : Framed Response.pong.text ∅ := by
  have hpong : Response.pong.text.bytes = ascii "PONG" ++ [13, 10] := by decide
  have hsafe : ∀ b ∈ ascii "PONG", isLineEnd b = false :=
    CString.lineSafe_lit (by decide : (CString.lit "PONG").bytes.all (! isLineEnd ·))
  exact ⟨ascii "PONG", hpong, hsafe, List.nil_suffix, fun stream ↦
    hpong ▸ readLine_crlf hsafe stream⟩

theorem framed_registerSensor (env : Env) (args : List CString) (s : ServerState D κ) :
    Framed (registerSensor env args s).response.text ∅ := by
  unfold registerSensor
  split
  · dsimp only
    split
    · exact framed_ok (CString.lineSafe_lit (by decide)) (by decide)
    · exact framed_error (CString.lineSafe_lit (by decide)) (CString.lineSafe_lit (by decide))
        (by decide)
  · exact framed_missingArguments

theorem framed_measurement (env : Env) (args : List CString) (s : ServerState D κ) :
    Framed (measurement env args s).response.text ∅ := by
  unfold measurement
  split
  · dsimp only
    split
    · split <;> exact framed_ok (CString.lineSafe_lit (by decide)) (by decide)
    · exact framed_error (CString.lineSafe_lit (by decide)) (CString.lineSafe_lit (by decide))
        (by decide)
  · exact framed_missingArguments

omit [CDouble D] in
theorem framed_login (env : Env) (client : Client κ) (args : List CString) (s : ServerState D κ) :
    Framed (login env client args s).response.text ∅ := by
  unfold login
  split
  · split
    · rename_i role hverdict
      have hrole : role.LineSafe := lineSafe_of_accepted hverdict
      refine framed_ok (((CString.lineSafe_lit (by decide)).append hrole).snprintf 128) ?_
      exact (CString.length_cut_le _ _).trans (by decide)
    · exact framed_error (CString.lineSafe_lit (by decide)) (CString.lineSafe_lit (by decide))
        (by decide)
    · exact framed_error (CString.lineSafe_lit (by decide)) (CString.lineSafe_lit (by decide))
        (by decide)
  · exact framed_missingArguments

/-- A listing behind its keyword is framed exactly when its records together leave room. -/
theorem framed_listing_iff {keyword : CString} {records : List CString} {most bound : ℕ}
    (hkeyword : keyword.LineSafe) (hsafe : ∀ record ∈ records, record.LineSafe)
    (hmost : ∀ record ∈ records, record.length ≤ most) (hbound : bound + most < 1024)
    (hroom : keyword.length + bound = 509) :
    Framed (buildLine (keyword ++ listing 1024 records))
        (CString.concat (keptRecords 1024 0 records)) ↔
      (CString.concat records).length ≤ bound := by
  have hkept : (listing 1024 records).LineSafe := by
    rw [listing_eq_concat]
    exact CString.lineSafe_concat fun record hrecord ↦
      hsafe record (keptRecords_subset 1024 0 records hrecord)
  rw [← listing_eq_concat]
  calc
    _ ↔ (keyword ++ listing 1024 records).length ≤ 509 :=
      framed_buildLine_iff (hkeyword.append hkept) (List.suffix_append _ _)
    _ ↔ (listing 1024 records).length ≤ bound := by
      rw [CString.length_append]
      omega
    _ ↔ (CString.concat records).length ≤ bound := length_listing_le_iff hmost hbound

theorem lineSafe_sensorRecord {sensor : Sensor D} (h : SensorSafe sensor) :
    (sensorRecord sensor).LineSafe := by
  obtain ⟨hid, htype, hunit⟩ := h
  have hcomma : (CString.lit ",").LineSafe := CString.lineSafe_lit (by decide)
  have hend : (CString.lit ";").LineSafe := CString.lineSafe_lit (by decide)
  have hvalue := lineSafe_fixed2 sensor.lastValue
  exact (((((((hid.append hcomma).append htype).append hcomma).append hvalue).append
    hcomma).append hunit).append hend).snprintf 128

theorem lineSafe_alertRecord {alert : ActiveAlert D} (h : AlertSafe alert) :
    (alertRecord alert).LineSafe := by
  obtain ⟨hid, htype, hmessage⟩ := h
  have hcomma : (CString.lit ",").LineSafe := CString.lineSafe_lit (by decide)
  have hend : (CString.lit ";").LineSafe := CString.lineSafe_lit (by decide)
  have hvalue := lineSafe_fixed2 alert.value
  have hlevel : (if alert.level = .warning then CString.lit "WARNING"
      else CString.lit "CRITICAL").LineSafe := by
    split <;> exact CString.lineSafe_lit (by decide)
  exact (((((((((((hid.append hcomma).append htype).append hcomma).append hvalue).append
    hcomma).append hlevel).append hcomma).append (lineSafe_decimal alert.timestamp)).append
    hcomma).append hmessage).append hend).snprintf 512

theorem framed_getSensors_iff {s : ServerState D κ} (h : s.LineSafe) :
    Framed (getSensors s).response.text (CString.concat (listedRecords .getSensors s)) ↔
      FitsReply .getSensors s := by
  have hsafe : ∀ record ∈ activeRecords s.sensors, record.LineSafe := by
    intro record hrecord
    obtain ⟨sensor, hsensor, rfl⟩ := List.mem_map.mp hrecord
    exact lineSafe_sensorRecord (h.sensors sensor (List.mem_of_mem_filter hsensor))
  have hmost : ∀ record ∈ activeRecords s.sensors, record.length ≤ 127 := by
    intro record hrecord
    obtain ⟨sensor, -, rfl⟩ := List.mem_map.mp hrecord
    exact CString.length_cut_le 127 _
  exact framed_listing_iff (CString.lineSafe_lit (by decide)) hsafe hmost (by omega) (by decide)

theorem framed_getAlerts_iff {s : ServerState D κ} (h : s.LineSafe) :
    Framed (getAlerts s).response.text (CString.concat (listedRecords .getAlerts s)) ↔
      FitsReply .getAlerts s := by
  have hsafe : ∀ record ∈ unresolvedRecords s.engine.activeAlerts, record.LineSafe := by
    intro record hrecord
    obtain ⟨alert, halert, rfl⟩ := List.mem_map.mp hrecord
    exact lineSafe_alertRecord (h.alerts alert (List.mem_of_mem_filter halert))
  have hmost : ∀ record ∈ unresolvedRecords s.engine.activeAlerts, record.length ≤ 511 := by
    intro record hrecord
    obtain ⟨alert, -, rfl⟩ := List.mem_map.mp hrecord
    exact CString.length_cut_le 511 _
  exact framed_listing_iff (CString.lineSafe_lit (by decide)) hsafe hmost (by omega) (by decide)

/-- In a reachable state the reply to any chunk is framed, with every record that was listed,
exactly when the records the command lists fit into the reply all together. -/
theorem framed_reply_iff {now : ℤ} {s : ServerState D κ}
    (hreach : (server D κ).Reachable (serverInit now) s) (env : Env) (client : Client κ)
    (chunk : Chunk) :
    Framed (respond env client chunk s).response.text
        (CString.concat (listedRecords chunk.message.type s)) ↔
      FitsReply chunk.message.type s := by
  have hsafe := lineSafe_of_reachable hreach
  rw [respond_eq]
  cases chunk.message.type with
  | getSensors => exact framed_getSensors_iff hsafe
  | getAlerts => exact framed_getAlerts_iff hsafe
  | ping => exact iff_of_true framed_pong trivial
  | login => exact iff_of_true (framed_login env client _ s) trivial
  | registerSensor => exact iff_of_true (framed_registerSensor env _ s) trivial
  | measurement => exact iff_of_true (framed_measurement env _ s) trivial
  | operatorIdentify =>
    exact iff_of_true (framed_ok (CString.lineSafe_lit (by decide)) (by decide)) trivial
  | getStatus =>
    refine iff_of_true ((framed_buildLine_iff ?_ List.nil_suffix).mpr (by decide)) trivial
    exact (CString.lineSafe_lit (by decide)).append
      ((CString.lineSafe_lit (by decide)).snprintf 128)
  | unknown =>
    exact iff_of_true (framed_error (CString.lineSafe_lit (by decide))
      (CString.lineSafe_lit (by decide)) (by decide)) trivial

def getSensorsChunk : Chunk := ⟨ascii "GET_SENSORS\r\n", by decide, by decide⟩

/-- The registration of a temperature sensor with an id of 31 bytes that ends in a given byte. -/
def longRegistration (last : UInt8) : Chunk where
  bytes := ascii "REGISTER_SENSOR " ++ List.replicate 30 97 ++ [last] ++ ascii " temperature\r\n"
  pos := by
    simp only [List.length_append, List.length_singleton]
    omega
  lt := by
    have hcommand : (ascii "REGISTER_SENSOR ").length = 16 := by decide
    have htype : (ascii " temperature\r\n").length = 14 := by decide
    simp [hcommand, htype, maxBufferSize]

/-- Eleven such sensors register. -/
def elevenRegistrations : List (Event ℕ) :=
  (List.range 11).map fun n ↦
    .request ⟨0, fun _ ↦ 0, none⟩ ⟨5, 0⟩ (longRegistration (97 + n.toUInt8))

/-- A measurement of the first one, with a unit of one byte. -/
def firstMeasurement : Chunk :=
  ⟨ascii "MEASUREMENT aaaaaaaaaaaaaaaaaaaaaaaaaaaaaaa 0 C\r\n", by decide, by decide⟩

/-- Ten sensors, one of which has measured, fill the reply. -/
theorem framed_reply_iff_ten_sensors :
    ∃ s : ServerState ℚ ℕ, (server ℚ ℕ).run (serverInit 0)
        (elevenRegistrations.take 10 ++
          [.request ⟨0, fun _ ↦ 0, none⟩ ⟨5, 0⟩ firstMeasurement]) = some s ∧
      (CString.concat (listedRecords getSensorsChunk.message.type s)).length = 501 ∧
      (Framed (respond ⟨0, fun _ ↦ 0, none⟩ ⟨5, 0⟩ getSensorsChunk s).response.text
          (CString.concat (listedRecords getSensorsChunk.message.type s)) ↔
        FitsReply getSensorsChunk.message.type s) := by
  have hlength : ((server ℚ ℕ).run (serverInit 0) (elevenRegistrations.take 10 ++
      [.request ⟨0, fun _ ↦ 0, none⟩ ⟨5, 0⟩ firstMeasurement])).map (fun s ↦
        (CString.concat (listedRecords getSensorsChunk.message.type s)).length) = some 501 := by
    decide +kernel
  obtain ⟨s, hrun, hs⟩ := Option.map_eq_some_iff.mp hlength
  exact ⟨s, hrun, hs, framed_reply_iff ⟨_, hrun⟩ _ _ _⟩

/-- With eleven of them the reply ends in the middle of a record, without a line end. -/
theorem not_framed_of_eleven_sensors :
    ∃ s : ServerState ℚ ℕ, (server ℚ ℕ).run (serverInit 0) elevenRegistrations = some s ∧
      ¬ Framed (respond ⟨0, fun _ ↦ 0, none⟩ ⟨5, 0⟩ getSensorsChunk s).response.text
        (CString.concat (listedRecords getSensorsChunk.message.type s)) := by
  have hlast : ((server ℚ ℕ).run (serverInit 0) elevenRegistrations).map (fun s ↦
      (respond ⟨0, fun _ ↦ 0, none⟩ ⟨5, 0⟩ getSensorsChunk s).response.text.bytes.getLast?) =
        some (some 97) := by decide +kernel
  obtain ⟨s, hrun, hs⟩ := Option.map_eq_some_iff.mp hlast
  refine ⟨s, hrun, fun hframed ↦ ?_⟩
  obtain ⟨line, hmessage, -⟩ := hframed
  rw [hmessage] at hs
  simp at hs

end IotMonitoring.Server.HandleClient
