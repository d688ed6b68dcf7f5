import IotMonitoring.Sensors.Response
import IotMonitoring.Server.Capacity
import IotMonitoring.Server.HandleClient

/-!
# What the server answers to a sensor

The two messages of a sensor, taken apart by the parser of the server and answered from its tables,
and the answer as the sensor receives it. An id that ends with a newline passes the pattern of the
client but cuts the line, so the server misses the type. An id of 32 characters passes as well, but
the table keeps only 31 of them, so a search for it never succeeds.
-/

namespace IotMonitoring.Sensors.SensorBase

open Text
open Server (CDouble)
open Server.Protocol hiding isSpace
open Server.SensorManager Server.HandleClient
open Server.AuthClient (textOf)
open Auth.AuthServer (PyString encode encode_append encode_of_ascii isSpace)

variable {D κ : Type} [CDouble D]

/-! ## Requests -/

/-- The id as the server reads it. -/
theorem exists_idString {name : PyString} (hname : VisibleText name) :
    ∃ sensorId : CString, sensorId.bytes = encode name ∧ sensorId.length = name.length := by
  have hnul : 0 ∉ encode name := fun hmem ↦ absurd (hname.encode.2 0 hmem).1 (by decide)
  have hlength : (encode name).length = name.length := by
    rw [encode_of_ascii hname.ascii, List.length_map]
  exact ⟨⟨encode name, hnul⟩, rfl, hlength⟩

theorem message_of_decodes {chunk : Chunk} {type : CommandType} (args : List CString)
    (h : Decodes chunk.bytes type (args.map CString.bytes)) :
    chunk.message.type = type ∧ chunk.message.argStrings = args := by
  obtain ⟨msg, hparse, htype, hargs⟩ := h
  obtain rfl := Option.some.inj (chunk.protocolParse_eq.symm.trans hparse)
  have hinjective : Function.Injective CString.bytes := fun _ _ ↦ CString.ext
  exact ⟨htype, hinjective.list_map hargs⟩

/-- The arguments of a registration. -/
theorem args_registerMessage {name : PyString} (hname : VisibleText name) {type : SensorType}
    {chunk : Chunk} (hchunk : chunk.bytes = sendBytes (registerMessage name type))
    {sensorId : CString} (hid : sensorId.bytes = encode name) :
    chunk.message.type = .registerSensor ∧
      ∃ typeText, chunk.message.argStrings = [sensorId, typeText] := by
  have hwords : ∀ word ∈ [encode name, encode type.name.toList], Visible word := by
    simp only [List.forall_mem_cons]
    exact ⟨hname.encode, (visibleText_name type).encode, nofun⟩
  have hlt := chunk.lt
  rw [hchunk, sendBytes_registerMessage] at hlt
  have hdecodes : Decodes chunk.bytes .registerSensor
      [encode name, encode type.name.toList] := by
    rw [hchunk, sendBytes_registerMessage, decodes_iff_of_words rfl hwords (by decide)]
    exact ⟨hlt, rfl⟩
  obtain ⟨typeText, htypeText, -⟩ := exists_idString (visibleText_name type)
  rw [← hid, ← htypeText] at hdecodes
  obtain ⟨htype, hargs⟩ := message_of_decodes [sensorId, typeText] hdecodes
  exact ⟨htype, typeText, hargs⟩

/-- With a newline in the id the registration has lost its type. -/
theorem args_registerMessage_newline {name : PyString} (hname : VisibleText name)
    {type : SensorType} {chunk : Chunk}
    (hchunk : chunk.bytes = sendBytes (registerMessage (name ++ ['\n']) type)) :
    chunk.message.type = .registerSensor ∧
      ∃ sensorId, chunk.message.argStrings = [sensorId] := by
  obtain ⟨sensorId, hid, -⟩ := exists_idString hname
  have hword : ∀ word ∈ [encode name], Visible word := List.forall_mem_singleton.mpr hname.encode
  obtain ⟨rest, hrest⟩ := exists_newline_split (ascii "REGISTER_SENSOR") (encode name)
    [encode type.name.toList] [13, 10]
  have hencode : encode (name ++ ['\n']) = encode name ++ [10] := encode_append name ['\n']
  have hlt := chunk.lt
  rw [hchunk, sendBytes_registerMessage, hencode, hrest] at hlt
  have hdecodes : Decodes chunk.bytes .registerSensor [encode name] := by
    rw [hchunk, sendBytes_registerMessage, hencode, hrest,
      decodes_iff_of_words rfl hword (by decide)]
    exact ⟨hlt, rfl⟩
  rw [← hid] at hdecodes
  obtain ⟨htype, hargs⟩ := message_of_decodes [sensorId] hdecodes
  exact ⟨htype, sensorId, hargs⟩

/-- A registration names its id and a type. -/
theorem respond_registerMessage {name : PyString} (hname : VisibleText name) {type : SensorType}
    {chunk : Chunk} (hchunk : chunk.bytes = sendBytes (registerMessage name type))
    {sensorId : CString} (hid : sensorId.bytes = encode name) (env : Env) (client : Client κ)
    (s : ServerState D κ) :
    ∃ typeText, respond env client chunk s = registerSensor env [sensorId, typeText] s := by
  obtain ⟨htype, typeText, hargs⟩ := args_registerMessage hname hchunk hid
  refine ⟨typeText, ?_⟩
  rw [respond_eq, htype, hargs]
  rfl

theorem respond_registerMessage_newline {name : PyString} (hname : VisibleText name)
    {type : SensorType} {chunk : Chunk}
    (hchunk : chunk.bytes = sendBytes (registerMessage (name ++ ['\n']) type)) (env : Env)
    (client : Client κ) (s : ServerState D κ) :
    respond env client chunk s = ⟨s, missingArguments, none⟩ := by
  obtain ⟨htype, sensorId, hargs⟩ := args_registerMessage_newline hname hchunk
  rw [respond_eq, htype, hargs]
  rfl

/-- The arguments of a measurement. -/
theorem args_measurementMessage {name : PyString} (hname : VisibleText name) {type : SensorType}
    {value : Number} {timestamp : ℤ} {chunk : Chunk}
    (hchunk : chunk.bytes =
      sendBytes (measurementMessage name value (unitMap type).toList timestamp))
    {sensorId : CString} (hid : sensorId.bytes = encode name) :
    ∃ valueText unit time, valueText.bytes = encode (fixed4 value) ∧
      unit.bytes = encode (unitMap type).toList ∧ chunk.message.type = .measurement ∧
      chunk.message.argStrings = [sensorId, valueText, unit, time] := by
  have hwords : ∀ word ∈ [encode name, encode (fixed4 value), encode (unitMap type).toList,
      encode (decimal timestamp)], Visible word := by
    simp only [List.forall_mem_cons]
    exact ⟨hname.encode, (visibleText_fixed4 value).encode, (visibleText_unitMap type).encode,
      (visibleText_decimal timestamp).encode, nofun⟩
  have hlt := chunk.lt
  rw [hchunk, sendBytes_measurementMessage] at hlt
  have hdecodes : Decodes chunk.bytes .measurement [encode name, encode (fixed4 value),
      encode (unitMap type).toList, encode (decimal timestamp)] := by
    rw [hchunk, sendBytes_measurementMessage, decodes_iff_of_words rfl hwords (by decide)]
    exact ⟨hlt, rfl⟩
  obtain ⟨valueText, hvalue, -⟩ := exists_idString (visibleText_fixed4 value)
  obtain ⟨unit, hunit, -⟩ := exists_idString (visibleText_unitMap type)
  obtain ⟨time, htime, -⟩ := exists_idString (visibleText_decimal timestamp)
  rw [← hid, ← hvalue, ← hunit, ← htime] at hdecodes
  obtain ⟨htype, hargs⟩ := message_of_decodes [sensorId, valueText, unit, time] hdecodes
  exact ⟨valueText, unit, time, hvalue, hunit, htype, hargs⟩

/-- A measurement names its id and a value. -/
theorem respond_measurementMessage {name : PyString} (hname : VisibleText name) {type : SensorType}
    {value : Number} {timestamp : ℤ} {chunk : Chunk}
    (hchunk : chunk.bytes =
      sendBytes (measurementMessage name value (unitMap type).toList timestamp))
    {sensorId : CString} (hid : sensorId.bytes = encode name) (env : Env) (client : Client κ)
    (s : ServerState D κ) :
    ∃ valueText unit time, valueText.bytes = encode (fixed4 value) ∧
      unit.bytes = encode (unitMap type).toList ∧
      respond env client chunk s = measurement env [sensorId, valueText, unit, time] s := by
  obtain ⟨valueText, unit, time, hvalue, hunit, htype, hargs⟩ :=
    args_measurementMessage hname hchunk hid
  refine ⟨valueText, unit, time, hvalue, hunit, ?_⟩
  rw [respond_eq, htype, hargs]
  rfl

/-! ## Replies -/

def registered : PyString := "OK SENSOR_REGISTERED".toList

def tableFull : PyString := "ERROR 500 Failed to register sensor".toList

def typeMissing : PyString := "ERROR 400 Missing arguments".toList

def measurementReceived : PyString := "OK MEASUREMENT_RECEIVED".toList

def notRegistered : PyString := "ERROR 404 Sensor not registered".toList

theorem recv_of_understood {other : Char → PyString} {data : Bytes} {response : PyString}
    {parsed : Response} (h : understood other data = .ok (response, parsed)) :
    recv data = .ok response := by
  rw [understood] at h
  cases hrecv : recv data with
  | error failure => rw [hrecv] at h; cases h
  | ok text =>
    rw [hrecv] at h
    exact congrArg Except.ok (Prod.mk.inj (Except.ok.inj h)).1

theorem isGraphic_of_all {word : CString}
    (h : word.bytes.all fun b ↦ 33 ≤ b.toNat ∧ b.toNat < 127) : ∀ b ∈ word.bytes, IsGraphic b :=
  fun b hb ↦ by simpa [IsGraphic] using List.all_eq_true.mp h b hb

/-- An OK of the handler arrives as it was built. -/
theorem recv_ok {details : String} (hne : (CString.lit details).bytes ≠ [])
    (hword : (CString.lit details).bytes.all fun b ↦ 33 ≤ b.toNat ∧ b.toNat < 127)
    (hfits : (CString.lit details).length ≤ 506) :
    recv (ok details).text.bytes = .ok ("OK ".toList ++ textOf (CString.lit details)) :=
  recv_of_understood (understood_protocolBuildOk (fun _ ↦ []) hne (isGraphic_of_all hword) hfits)

/-- An ERROR of the handler arrives as it was built. -/
theorem recv_error {code desc : String} (hcode : (CString.lit code).bytes ≠ [])
    (hword : (CString.lit code).bytes.all fun b ↦ 33 ≤ b.toNat ∧ b.toNat < 127)
    (hdesc : (CString.lit desc).bytes ≠ []) (hascii : (CString.lit desc).bytes.all (· < 0x80))
    (hclean : (textOf (CString.lit desc)).head?.all (! isSpace ·) &&
      (textOf (CString.lit desc)).getLast?.all (! isSpace ·))
    (hfits : (CString.lit code).length + (CString.lit desc).length ≤ 502) :
    recv (error code desc).text.bytes =
      .ok ("ERROR ".toList ++ textOf (CString.lit code) ++ ' ' :: textOf (CString.lit desc)) :=
  recv_of_understood (understood_protocolBuildError (fun _ ↦ []) hcode (isGraphic_of_all hword)
    hdesc (List.all_iff_forall_prop.mp hascii) (cleanEdges_of_ends hclean) hfits)

theorem recv_registered : recv (ok "SENSOR_REGISTERED").text.bytes = .ok registered := by
  rw [recv_ok (by decide) (by decide) (by decide)]
  decide

theorem recv_measurementReceived :
    recv (ok "MEASUREMENT_RECEIVED").text.bytes = .ok measurementReceived := by
  rw [recv_ok (by decide) (by decide) (by decide)]
  decide

theorem recv_tableFull :
    recv (error "500" "Failed to register sensor").text.bytes = .ok tableFull := by
  rw [recv_error (by decide) (by decide) (by decide) (by decide) (by decide) (by decide)]
  decide

theorem recv_typeMissing : recv missingArguments.text.bytes = .ok typeMissing := by
  rw [missingArguments, recv_error (by decide) (by decide) (by decide) (by decide) (by decide)
    (by decide)]
  decide

theorem recv_notRegistered :
    recv (error "404" "Sensor not registered").text.bytes = .ok notRegistered := by
  rw [recv_error (by decide) (by decide) (by decide) (by decide) (by decide) (by decide)]
  decide

end IotMonitoring.Sensors.SensorBase
