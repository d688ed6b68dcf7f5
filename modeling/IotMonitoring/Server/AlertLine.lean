import IotMonitoring.Server.ReplyFraming

/-!
# The line of a broadcast

A measurement that has triggered alerts is broadcast in one line of 256 bytes. Id and type have the
widths of their stored fields, but the rendered value grows with the measurement and the unit is the
argument as it was received, so both may push the line end out of the buffer. The line is whole
exactly when its four fields together have at most 243 bytes.
-/

namespace IotMonitoring.Server.HandleClient

open Text Machine Protocol SensorManager AlertEngine OperatorRegistry AuthClient

variable {D κ : Type} [CDouble D]

/-- The fields of the line, in front of its line end. -/
def alertText (sensorId sensorType : CString) (value : D) (unit : CString) : CString :=
  .lit "ALERTA " ++ sensorId ++ .lit "," ++ sensorType ++ .lit "," ++ CDouble.fixed2 value ++
    .lit "," ++ unit

theorem alertLine_eq (sensorId sensorType : CString) (value : D) (unit : CString) :
    alertLine sensorId sensorType value unit =
      CString.snprintf 256 (alertText sensorId sensorType value unit ++ crlf) := rfl

theorem length_alertText (sensorId sensorType : CString) (value : D) (unit : CString) :
    (alertText sensorId sensorType value unit).length =
      10 + (sensorId.length + sensorType.length + (CDouble.fixed2 value).length + unit.length) := by
  have hkeyword : (CString.lit "ALERTA ").length = 7 := by decide
  have hcomma : (CString.lit ",").length = 1 := by decide
  simp only [alertText, CString.length_append, hkeyword, hcomma]
  omega

theorem lineSafe_alertText {sensorId sensorType unit : CString} (hid : sensorId.LineSafe)
    (htype : sensorType.LineSafe) (value : D) (hunit : unit.LineSafe) :
    (alertText sensorId sensorType value unit).LineSafe := by
  have hcomma : (CString.lit ",").LineSafe := CString.lineSafe_lit (by decide)
  have hkeyword : (CString.lit "ALERTA ").LineSafe := CString.lineSafe_lit (by decide)
  exact ((((((hkeyword.append hid).append hcomma).append htype).append hcomma).append
    (lineSafe_fixed2 value)).append hcomma).append hunit

/-- The buffer holds the whole line when it has room for it. -/
theorem alertLine_eq_iff (sensorId sensorType : CString) (value : D) (unit : CString) :
    alertLine sensorId sensorType value unit =
        alertText sensorId sensorType value unit ++ crlf ↔
      sensorId.length + sensorType.length + (CDouble.fixed2 value).length + unit.length ≤ 243 := by
  have hcrlf : crlf.length = 2 := by decide
  have hwhole := length_alertText sensorId sensorType value unit
  rw [alertLine_eq, CString.snprintf]
  constructor
  · intro heq
    have hlength := congrArg CString.length heq
    rw [CString.length_cut, CString.length_append, hwhole] at hlength
    omega
  · intro hfits
    apply CString.cut_eq_self
    rw [CString.length_append, hwhole]
    omega

/-- The line has a line end when the buffer holds all of it. -/
theorem crlf_suffix_alertLine_iff {sensorId sensorType unit : CString} (hid : sensorId.LineSafe)
    (htype : sensorType.LineSafe) (value : D) (hunit : unit.LineSafe) :
    crlf.bytes <:+ (alertLine sensorId sensorType value unit).bytes ↔
      sensorId.length + sensorType.length + (CDouble.fixed2 value).length + unit.length ≤ 243 := by
  have hsafe := lineSafe_alertText hid htype value hunit
  constructor
  · intro hend
    have hlf : (10 : UInt8) ∈ (alertLine sensorId sensorType value unit).bytes :=
      hend.mem (by rw [bytes_crlf]; simp)
    rw [alertLine_eq, lineFeed_mem_snprintf_iff hsafe, length_alertText] at hlf
    omega
  · intro hfits
    rw [(alertLine_eq_iff sensorId sensorType value unit).mpr hfits]
    exact List.suffix_append _ _

/-! ## Where the fields come from -/

/-- What is broadcast: the id and the unit as they were received, the type that is stored, for a
measurement that triggers at least one alert. -/
structure Broadcasts (env : Env) (args : List CString) (s : ServerState D κ)
    (outcome : Outcome D κ) (sensorId valueText unit : CString) (pointer : Fin maxSensors)
    (line : CString) : Prop where
  args_eq : ∃ rest, args = sensorId :: valueText :: unit :: rest
  found : findSensor s.sensors sensorId = some pointer
  line_eq : line = alertLine sensorId (typeAt s.sensors pointer) (CDouble.atof valueText : D) unit
  triggered : (checkMeasurement env.alertTime sensorId (typeAt s.sensors pointer)
    (CDouble.atof valueText) s.engine).2 ≠ []
  checked : outcome.state.engine = (checkMeasurement env.alertTime sensorId
    (typeAt s.sensors pointer) (CDouble.atof valueText) s.engine).1

theorem broadcasts_of_measurement {env : Env} {args : List CString} {s : ServerState D κ}
    {line : CString} (h : (measurement env args s).broadcast = some line) :
    ∃ sensorId valueText unit pointer,
      Broadcasts env args s (measurement env args s) sensorId valueText unit pointer line := by
  match args with
  | [] | [_] | [_, _] => cases h
  | sensorId :: valueText :: unit :: rest =>
    cases hfind : findSensor s.sensors sensorId with
    | some i =>
      rw [measurement_of_findSensor env valueText unit rest hfind] at h ⊢
      obtain ⟨hpos, hline⟩ := Option.ite_none_right_eq_some.mp h
      exact ⟨sensorId, valueText, unit, i, ⟨rest, rfl⟩, hfind, (Option.some.inj hline).symm,
        List.length_pos_iff.mp hpos, rfl⟩
    | none =>
      rw [measurement_of_findSensor_eq_none env valueText unit rest hfind] at h
      cases h

/-- Nothing but a MEASUREMENT is broadcast. -/
theorem broadcasts_of_respond {env : Env} {client : Client κ} {chunk : Chunk}
    {s : ServerState D κ} {line : CString}
    (h : (respond env client chunk s).broadcast = some line) :
    chunk.message.type = .measurement ∧ ∃ sensorId valueText unit pointer,
      Broadcasts env chunk.message.argStrings s (respond env client chunk s) sensorId valueText
        unit pointer line := by
  rw [respond_eq] at h ⊢
  cases htype : chunk.message.type with
  | measurement =>
    rw [htype] at h
    exact ⟨rfl, broadcasts_of_measurement h⟩
  | registerSensor =>
    simp only [htype, dispatch, registerSensor] at h
    split at h
    · split at h <;> cases h
    · cases h
  | login =>
    simp only [htype, dispatch, login] at h
    split at h
    · split at h <;> cases h
    · cases h
  | getSensors =>
    simp only [htype, dispatch, getSensors] at h
    split at h <;> cases h
  | getAlerts =>
    simp only [htype, dispatch, getAlerts] at h
    split at h <;> cases h
  | ping => simp [htype, dispatch] at h
  | operatorIdentify => simp [htype, dispatch] at h
  | getStatus => simp [htype, dispatch, getStatus] at h
  | unknown => simp [htype, dispatch] at h

/-! ## Whole lines -/

/-- The line of a chunk in a reachable state ends with the line end when the buffer holds all of
it. -/
theorem Broadcasts.crlf_suffix_iff {now : ℤ} {env : Env} {chunk : Chunk} {s : ServerState D κ}
    {outcome : Outcome D κ} {sensorId valueText unit line : CString} {pointer : Fin maxSensors}
    (hreach : (server D κ).Reachable (serverInit now) s)
    (h : Broadcasts env chunk.message.argStrings s outcome sensorId valueText unit pointer line) :
    crlf.bytes <:+ line.bytes ↔
      sensorId.length + (typeAt s.sensors pointer).length +
        (CDouble.fixed2 (CDouble.atof valueText : D)).length + unit.length ≤ 243 := by
  obtain ⟨rest, hargs⟩ := h.args_eq
  have hlive := (findSensor_eq_some h.found).1
  have hsensor := (lineSafe_of_reachable hreach).sensors _
    (List.mem_of_getElem? (s.sensors.live_getElem? hlive))
  have hid : sensorId.LineSafe := chunk.lineSafe_of_mem_args (by simp [hargs])
  have hunit : unit.LineSafe := chunk.lineSafe_of_mem_args (by simp [hargs])
  rw [h.line_eq]
  exact crlf_suffix_alertLine_iff hid hsensor.2.1 (CDouble.atof valueText : D) hunit

/-- In a reachable state, the line that a chunk leads to is whole, and ends with the line end,
exactly when id, type, rendered value and unit together have at most 243 bytes. -/
theorem whole_broadcast_iff {now : ℤ} {s : ServerState D κ}
    (hreach : (server D κ).Reachable (serverInit now) s) {env : Env} {client : Client κ}
    {chunk : Chunk} {line : CString}
    (hbroadcast : (respond env client chunk s).broadcast = some line) :
    ∃ sensorId valueText unit pointer,
      Broadcasts env chunk.message.argStrings s (respond env client chunk s) sensorId valueText
        unit pointer line ∧
      (line = alertText sensorId (typeAt s.sensors pointer) (CDouble.atof valueText : D) unit ++
          crlf ∧ crlf.bytes <:+ line.bytes ↔
        sensorId.length + (typeAt s.sensors pointer).length +
          (CDouble.fixed2 (CDouble.atof valueText : D)).length + unit.length ≤ 243) ∧
      (crlf.bytes <:+ line.bytes ↔
        sensorId.length + (typeAt s.sensors pointer).length +
          (CDouble.fixed2 (CDouble.atof valueText : D)).length + unit.length ≤ 243) := by
  obtain ⟨-, sensorId, valueText, unit, pointer, h⟩ := broadcasts_of_respond hbroadcast
  have hend := h.crlf_suffix_iff hreach
  refine ⟨sensorId, valueText, unit, pointer, h, ?_, hend⟩
  rw [h.line_eq] at hend ⊢
  rw [alertLine_eq_iff]
  exact and_iff_left_of_imp hend.mpr

def registerChunk : Chunk := ⟨ascii "REGISTER_SENSOR s1 temperature\r\n", by decide, by decide⟩

/-- A measurement of 60 with a unit of a given number of bytes. -/
def measurementChunk (width : Fin 900) : Chunk where
  bytes := ascii "MEASUREMENT s1 60 " ++ List.replicate width 67 ++ ascii "\r\n"
  pos := by
    have hcommand : (ascii "MEASUREMENT s1 60 ").length = 18 := by decide
    simp only [List.length_append, hcommand]
    omega
  lt := by
    have hcommand : (ascii "MEASUREMENT s1 60 ").length = 18 := by decide
    have hend : (ascii "\r\n").length = 2 := by decide
    simp only [List.length_append, List.length_replicate, hcommand, hend, maxBufferSize]
    omega

def sensorEnv : Env := ⟨0, fun _ ↦ 0, none⟩

/-- The broadcast of a short unit. -/
theorem whole_broadcast_iff_short_unit :
    ∃ s : ServerState ℚ ℕ, (server ℚ ℕ).run (serverInit 0)
        [.request sensorEnv ⟨5, 0⟩ registerChunk] = some s ∧
      ∃ line, (respond sensorEnv ⟨5, 0⟩ (measurementChunk 1) s).broadcast = some line ∧
        ∃ sensorId valueText unit pointer,
          Broadcasts sensorEnv (measurementChunk 1).message.argStrings s
            (respond sensorEnv ⟨5, 0⟩ (measurementChunk 1) s) sensorId valueText unit pointer
            line ∧
          (line = alertText sensorId (typeAt s.sensors pointer) (CDouble.atof valueText : ℚ) unit ++
              crlf ∧ crlf.bytes <:+ line.bytes ↔
            sensorId.length + (typeAt s.sensors pointer).length +
              (CDouble.fixed2 (CDouble.atof valueText : ℚ)).length + unit.length ≤ 243) ∧
          (crlf.bytes <:+ line.bytes ↔
            sensorId.length + (typeAt s.sensors pointer).length +
              (CDouble.fixed2 (CDouble.atof valueText : ℚ)).length + unit.length ≤ 243) := by
  obtain ⟨s, hrun, hs⟩ : ∃ s, (server ℚ ℕ).run (serverInit 0)
      [.request sensorEnv ⟨5, 0⟩ registerChunk] = some s ∧
        (respond sensorEnv ⟨5, 0⟩ (measurementChunk 1) s).broadcast.isSome = true :=
    Option.map_eq_some_iff.mp (by decide +kernel)
  obtain ⟨line, hline⟩ := Option.isSome_iff_exists.mp hs
  exact ⟨s, hrun, line, hline, whole_broadcast_iff ⟨_, hrun⟩ hline⟩

/-- With a unit of 240 bytes the line is broadcast without its line end. -/
theorem not_whole_of_long_unit :
    ∃ s : ServerState ℚ ℕ, (server ℚ ℕ).run (serverInit 0)
        [.request sensorEnv ⟨5, 0⟩ registerChunk] = some s ∧
      ∃ line, (respond sensorEnv ⟨5, 0⟩ (measurementChunk 240) s).broadcast = some line ∧
        ¬ crlf.bytes <:+ line.bytes := by
  obtain ⟨s, hrun, hs⟩ : ∃ s, (server ℚ ℕ).run (serverInit 0)
      [.request sensorEnv ⟨5, 0⟩ registerChunk] = some s ∧
        ((respond sensorEnv ⟨5, 0⟩ (measurementChunk 240) s).broadcast.map fun line ↦
          line.bytes.getLast?) = some (some 67) :=
    Option.map_eq_some_iff.mp (by decide +kernel)
  obtain ⟨line, hline, hlast⟩ := Option.map_eq_some_iff.mp hs
  refine ⟨s, hrun, line, hline, ?_⟩
  rintro ⟨front, hfront⟩
  rw [← hfront, bytes_crlf] at hlast
  simp at hlast

end IotMonitoring.Server.HandleClient
