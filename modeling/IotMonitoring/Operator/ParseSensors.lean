import IotMonitoring.Server.Effects
import IotMonitoring.Server.ReplyFraming
import IotMonitoring.Text.Charset
import IotMonitoring.Text.Fields

/-!
# The sensor list at the operator

The operator client splits the reply `SENSORS id,type,value,unit;...` at the semicolons and each
part at the commas, and trims what it gets. The server writes ids, types and units as they were
registered, so a list that fits into the reply is read back exactly when none of them has a
separator inside or a character at its edges that trimming removes.
-/

namespace IotMonitoring.Operator.ParseSensors

open Text Machine Server Server.Protocol Server.SensorManager Server.HandleClient

/-- A Java string. -/
abbrev JavaString := List Char

/-- `SensorData`. -/
@[ext]
structure SensorData where
  id : JavaString
  type : JavaString
  value : JavaString
  unit : JavaString
deriving DecidableEq

/-- The characters that `String.trim` removes. -/
def isTrimmed (c : Char) : Bool := c.toNat ≤ 0x20

def trim (text : JavaString) : JavaString := trimWith isTrimmed text

/-- `p.length > k ? p[k].trim() : otherwise`. -/
def fieldAt (p : List JavaString) (k : ℕ) (otherwise : JavaString) : JavaString :=
  match p[k]? with
  | some field => trim field
  | none => otherwise

/-- The body of the loop over the parts. -/
def parsePart (part : JavaString) : Option SensorData :=
  let trimmed := trim part
  if trimmed = [] then none
  else
    let p := javaSplit ',' trimmed
    some ⟨fieldAt p 0 ['?'], fieldAt p 1 ['?'], fieldAt p 2 ['?'], fieldAt p 3 []⟩

/-- `parseSensors`. -/
def parseSensors (response : JavaString) : List SensorData :=
  if "SENSORS ".toList.isPrefixOf response then
    (javaSplit ';' (response.drop 8)).filterMap parsePart
  else []

/-! ## What can be parsed -/

/-- A field without separators and without edges that trimming removes. -/
structure Plain (field : JavaString) : Prop where
  comma : ',' ∉ field
  semicolon : ';' ∉ field
  edges : CleanEdges isTrimmed field

/-- All fields are plain. -/
def SensorData.Plain (sensor : SensorData) : Prop :=
  ParseSensors.Plain sensor.id ∧ ParseSensors.Plain sensor.type ∧ ParseSensors.Plain sensor.value ∧
    ParseSensors.Plain sensor.unit

theorem trim_of_plain {field : JavaString} (h : Plain field) : trim field = field :=
  trimWith_eq_self h.edges

theorem plain_fieldAt {part : JavaString} (hpart : ';' ∉ part) (k : ℕ) {otherwise : JavaString}
    (hotherwise : Plain otherwise) :
    Plain (fieldAt (javaSplit ',' (trim part)) k otherwise) := by
  unfold fieldAt
  split
  · rename_i field hfield
    obtain ⟨hcomma, hsub⟩ := mem_javaSplit ',' (List.mem_of_getElem? hfield)
    refine ⟨fun h ↦ hcomma (mem_of_mem_trimWith h), fun h ↦ hpart ?_, cleanEdges_trimWith field⟩
    exact mem_of_mem_trimWith (hsub _ (mem_of_mem_trimWith h))
  · exact hotherwise

/-- Whatever the parser returns is plain. -/
theorem plain_of_mem_parseSensors {response : JavaString} {sensor : SensorData}
    (h : sensor ∈ parseSensors response) : sensor.Plain := by
  have hquestion : Plain ['?'] :=
    ⟨by decide, by decide, cleanEdges_of_forall (List.forall_mem_singleton.mpr rfl)⟩
  have hempty : Plain [] := ⟨by decide, by decide, cleanEdges_of_forall nofun⟩
  unfold parseSensors at h
  split at h
  · obtain ⟨part, hpart, hsensor⟩ := List.mem_filterMap.mp h
    have hsemicolon := (mem_javaSplit ';' hpart).1
    rw [parsePart, Option.ite_none_left_eq_some] at hsensor
    obtain rfl := Option.some.inj hsensor.2
    exact ⟨plain_fieldAt hsemicolon 0 hquestion, plain_fieldAt hsemicolon 1 hquestion,
      plain_fieldAt hsemicolon 2 hquestion, plain_fieldAt hsemicolon 3 hempty⟩
  · exact absurd h List.not_mem_nil

/-! ## What is parsed of plain fields -/

/-- The text of a sensor between two semicolons. -/
def recordOf (sensor : SensorData) : JavaString :=
  sensor.id ++ ',' :: (sensor.type ++ ',' :: (sensor.value ++ ',' :: sensor.unit))

theorem recordOf_ne_nil (sensor : SensorData) : recordOf sensor ≠ [] := by simp [recordOf]

theorem semicolon_notMem_recordOf {sensor : SensorData} (h : sensor.Plain) :
    ';' ∉ recordOf sensor := by
  obtain ⟨hid, htype, hvalue, hunit⟩ := h
  simp [recordOf, hid.semicolon, htype.semicolon, hvalue.semicolon, hunit.semicolon]

theorem cleanEdges_recordOf {sensor : SensorData} (h : sensor.Plain) :
    CleanEdges isTrimmed (recordOf sensor) := by
  obtain ⟨hid, htype, hvalue, hunit⟩ := h
  have hcomma : isTrimmed ',' = false := by decide
  exact hid.edges.join hcomma (htype.edges.join hcomma (hvalue.edges.join hcomma hunit.edges))

/-- An empty unit is left out by the split. -/
theorem javaSplit_recordOf {sensor : SensorData} (h : sensor.Plain) (hvalue : sensor.value ≠ []) :
    javaSplit ',' (recordOf sensor) =
      [sensor.id, sensor.type, sensor.value] ++ if sensor.unit = [] then [] else [sensor.unit] := by
  obtain ⟨hid, htype, hval, hunit⟩ := h
  have hsplit : (recordOf sensor).splitOn ',' =
      [sensor.id, sensor.type, sensor.value] ++ [sensor.unit] := by
    rw [recordOf, List.splitOn_append_cons_self_of_not_mem hid.comma,
      List.splitOn_append_cons_self_of_not_mem htype.comma,
      List.splitOn_append_cons_self_of_not_mem hval.comma, List.splitOn_eq_singleton hunit.comma]
    rfl
  have hcomma : ',' ∈ recordOf sensor := by simp [recordOf]
  have hback : [sensor.id, sensor.type, sensor.value].rdropWhile List.isEmpty =
      [sensor.id, sensor.type, sensor.value] := by
    rw [List.rdropWhile_eq_self_iff]
    simpa using hvalue
  rw [javaSplit, if_pos hcomma, hsplit, List.rdropWhile_concat, hback]
  by_cases hempty : sensor.unit = []
  · simp [hempty]
  · simp [hempty]

/-- A plain sensor is read back from its text. -/
theorem parsePart_recordOf {sensor : SensorData} (h : sensor.Plain) (hvalue : sensor.value ≠ []) :
    parsePart (recordOf sensor) = some sensor := by
  have htrim : trim (recordOf sensor) = recordOf sensor := trimWith_eq_self (cleanEdges_recordOf h)
  obtain ⟨hid, htype, hval, hunit⟩ := id h
  simp only [parsePart, htrim, if_neg (recordOf_ne_nil sensor), javaSplit_recordOf h hvalue,
    Option.some.injEq]
  by_cases hempty : sensor.unit = []
  · ext1 <;>
      simp [fieldAt, hempty, trim_of_plain hid, trim_of_plain htype, trim_of_plain hval]
  · ext1 <;>
      simp [fieldAt, hempty, trim_of_plain hid, trim_of_plain htype, trim_of_plain hval,
        trim_of_plain hunit]

/-- Plain sensors are read back from the list of their texts. -/
theorem parseSensors_of_plain {sensors : List SensorData} (h : ∀ sensor ∈ sensors, sensor.Plain)
    (hvalue : ∀ sensor ∈ sensors, sensor.value ≠ []) :
    parseSensors ("SENSORS ".toList ++ sensors.flatMap fun sensor ↦ recordOf sensor ++ [';']) =
      sensors := by
  have hfront (data : JavaString) :
      parseSensors ("SENSORS ".toList ++ data) = (javaSplit ';' data).filterMap parsePart := rfl
  rw [hfront]
  by_cases hne : sensors = []
  · rw [hne]
    rfl
  · have hmap : sensors.flatMap (fun sensor ↦ recordOf sensor ++ [';']) =
        (sensors.map recordOf).flatMap (· ++ [';']) := by
      rw [List.flatMap_map]
    have hsemicolon : ∀ record ∈ sensors.map recordOf, ';' ∉ record := by
      intro record hrecord
      obtain ⟨sensor, hsensor, rfl⟩ := List.mem_map.mp hrecord
      exact semicolon_notMem_recordOf (h sensor hsensor)
    have hfull : ∀ record ∈ sensors.map recordOf, record ≠ [] := by
      intro record hrecord
      obtain ⟨sensor, -, rfl⟩ := List.mem_map.mp hrecord
      exact recordOf_ne_nil sensor
    rw [hmap, javaSplit_terminated ';' (by simpa using hne) hsemicolon hfull, List.filterMap_map]
    have hparse : ∀ sensor ∈ sensors, (parsePart ∘ recordOf) sensor = some sensor :=
      fun sensor hsensor ↦ parsePart_recordOf (h sensor hsensor) (hvalue sensor hsensor)
    rw [List.filterMap_congr hparse, List.filterMap_some]

/-! ## The reply of the server -/

section Reply

variable {D κ : Type} [CDouble D] (charset : Charset)

/-- A sensor as the operator should see it. -/
def shown (sensor : Sensor D) : SensorData where
  id := charset.decode sensor.id.str.bytes
  type := charset.decode sensor.type.str.bytes
  value := charset.decode (CDouble.fixed2 sensor.lastValue).bytes
  unit := charset.decode sensor.lastUnit.str.bytes

/-- What is formatted for a sensor, before it is cut. -/
def recordText (sensor : Sensor D) : CString :=
  sensor.id.str ++ .lit "," ++ sensor.type.str ++ .lit "," ++ CDouble.fixed2 sensor.lastValue ++
    .lit "," ++ sensor.lastUnit.str ++ .lit ";"

theorem numeral_character {b : UInt8} (h : isNumeral b) :
    b < 128 ∧ character b ≠ ',' ∧ character b ≠ ';' ∧ isTrimmed (character b) = false := by
  obtain ⟨hlow, hhigh, hother⟩ := isNumeral_range h
  have hcode := toNat_character b
  refine ⟨UInt8.lt_iff_toNat_lt.mpr hhigh, fun hcomma ↦ ?_, fun hsemicolon ↦ ?_, ?_⟩
  · rw [hcomma] at hcode
    exact absurd (hcode ▸ hlow) (by decide)
  · rw [hsemicolon] at hcode
    exact hother hcode.symm
  · rw [isTrimmed, decide_eq_false_iff_not, hcode]
    omega

/-- A rendered value is a field of its own. -/
theorem plain_value (value : D) : Plain (charset.decode (CDouble.fixed2 value).bytes) ∧
    charset.decode (CDouble.fixed2 value).bytes ≠ [] := by
  have hnumeral := fun b hb ↦ numeral_character (CDouble.fixed2_numeral value b hb)
  rw [charset.decode_of_ascii fun b hb ↦ (hnumeral b hb).1]
  refine ⟨⟨fun h ↦ ?_, fun h ↦ ?_, cleanEdges_of_forall fun c hc ↦ ?_⟩, ?_⟩
  · obtain ⟨b, hb, hcomma⟩ := List.mem_map.mp h
    exact (hnumeral b hb).2.1 hcomma
  · obtain ⟨b, hb, hsemicolon⟩ := List.mem_map.mp h
    exact (hnumeral b hb).2.2.1 hsemicolon
  · obtain ⟨b, hb, rfl⟩ := List.mem_map.mp hc
    exact (hnumeral b hb).2.2.2
  · simpa using CDouble.fixed2_ne_nil value

theorem decode_records (sensors : List (Sensor D)) :
    charset.decode (CString.concat (sensors.map recordText)).bytes =
      (sensors.map (shown charset)).flatMap fun sensor ↦ recordOf sensor ++ [';'] := by
  have hcomma : (CString.lit ",").bytes = [44] := by decide
  have hend : (CString.lit ";").bytes = [59] := by decide
  have hcommaChar : character 44 = ',' := by decide
  have hendChar : character 59 = ';' := by decide
  induction sensors with
  | nil => exact charset.decode_nil
  | cons sensor sensors ih =>
    simp only [List.map_cons, CString.concat_cons, CString.bytes_append, recordText, hcomma, hend,
      List.append_assoc, List.cons_append, List.nil_append, List.flatMap_cons]
    rw [charset.decode_ascii _ 44 _ (by decide), charset.decode_ascii _ 44 _ (by decide),
      charset.decode_ascii _ 44 _ (by decide), charset.decode_ascii _ 59 _ (by decide), ih,
      hcommaChar, hendChar]
    simp [recordOf, shown]

/-- The reply to GET_SENSORS when nothing is cut, without its line end. -/
def sensorsLine (table : SensorTable D) : CString :=
  .lit "SENSORS " ++ CString.concat (table.live.map recordText)

theorem decode_sensorsLine (table : SensorTable D) :
    charset.decode (sensorsLine table).bytes =
      "SENSORS ".toList ++
        (table.live.map (shown charset)).flatMap fun sensor ↦ recordOf sensor ++ [';'] := by
  have hkeyword : (CString.lit "SENSORS ").bytes.map character = "SENSORS ".toList := by decide
  have hascii : (CString.lit "SENSORS ").bytes.all (· < 128) := by decide
  rw [sensorsLine, CString.bytes_append,
    charset.decode_append (by simpa using List.all_eq_true.mp hascii), hkeyword, decode_records]

/-- When no record is cut and all fit into the reply, the reply is the line of all of them. -/
theorem getSensors_eq {s : ServerState D κ}
    (hactive : ∀ sensor ∈ s.sensors.live, sensor.isActive = true)
    (hrecords : ∀ sensor ∈ s.sensors.live, (recordText sensor).length ≤ 127)
    (hreply : (sensorsLine s.sensors ++ crlf).length ≤ 511) :
    (getSensors s).response.text = sensorsLine s.sensors ++ crlf := by
  have hkeyword : (CString.lit "SENSORS ").length = 8 := by decide
  have hcrlf : crlf.length = 2 := by decide
  have hlive : s.sensors.live.filter Sensor.isActive = s.sensors.live :=
    List.filter_eq_self.mpr hactive
  have hwhole : CString.concat (s.sensors.live.map sensorRecord) =
      CString.concat (s.sensors.live.map recordText) :=
    (concat_map_cut_eq_iff recordText 127 s.sensors.live).mpr hrecords
  have hroom :
      (CString.concat ((s.sensors.live.filter Sensor.isActive).map sensorRecord)).length <
        1024 := by
    rw [hlive, hwhole]
    simp only [sensorsLine, CString.length_append, hkeyword, hcrlf] at hreply
    omega
  have hkept : listing 1024 (activeRecords s.sensors) =
      CString.concat (s.sensors.live.map recordText) := by
    rw [activeRecords, listing_eq_concat_kept, kept_eq_filter sensorRecord hroom, hlive, hwhole]
  calc
    (getSensors s).response.text
      = buildLine (.lit "SENSORS " ++ listing 1024 (activeRecords s.sensors)) := rfl
    _ = CString.snprintf respBufSize (sensorsLine s.sensors ++ crlf) := by
      rw [hkept, buildLine, sensorsLine]
    _ = sensorsLine s.sensors ++ crlf := CString.cut_eq_self hreply

theorem lineSafe_sensorsLine {s : ServerState D κ} (hsafe : s.LineSafe)
    (hrecords : ∀ sensor ∈ s.sensors.live, (recordText sensor).length ≤ 127) :
    (sensorsLine s.sensors).LineSafe := by
  refine (CString.lineSafe_lit (by decide)).append
    (CString.lineSafe_concat (List.forall_mem_map.mpr fun sensor hsensor ↦ ?_))
  have hwhole : sensorRecord sensor = recordText sensor :=
    CString.cut_eq_self (hrecords sensor hsensor)
  exact hwhole ▸ lineSafe_sensorRecord (hsafe.sensors sensor hsensor)

/-- In a reachable state with short records that fit into the reply, the operator reads the line of
a GET_SENSORS reply as the stored sensors, in their order, exactly when every id, type and unit is
plain. -/
theorem parseSensors_eq_iff_plain {now : ℤ} {s : ServerState D κ}
    (hreach : (server D κ).Reachable (serverInit now) s) (env : Env) (client : Client κ)
    {chunk : Chunk} (htype : chunk.message.type = .getSensors)
    (hrecords : ∀ sensor ∈ s.sensors.live, (recordText sensor).length ≤ 127)
    (hreply : (sensorsLine s.sensors ++ crlf).length ≤ 511) :
    ∃ line, readLine (respond env client chunk s).response.text.bytes = some (line, []) ∧
      (parseSensors (charset.decode line) = s.sensors.live.map (shown charset) ↔
        ∀ sensor ∈ s.sensors.live, Plain (charset.decode sensor.id.str.bytes) ∧
          Plain (charset.decode sensor.type.str.bytes) ∧
          Plain (charset.decode sensor.lastUnit.str.bytes)) := by
  have hactive := active_of_reachable (sensors_reachable hreach)
  have hline := lineSafe_sensorsLine (lineSafe_of_reachable hreach) hrecords
  refine ⟨(sensorsLine s.sensors).bytes, ?_, ?_⟩
  · rw [respond_eq, htype]
    simp only [dispatch]
    rw [getSensors_eq hactive hrecords hreply, CString.bytes_append, bytes_crlf]
    simpa using readLine_crlf hline []
  · rw [decode_sensorsLine]
    constructor
    · intro hread sensor hsensor
      have hplain := plain_of_mem_parseSensors (hread ▸ List.mem_map_of_mem hsensor)
      exact ⟨hplain.1, hplain.2.1, hplain.2.2.2⟩
    · intro hplain
      refine parseSensors_of_plain ?_ ?_
      · refine List.forall_mem_map.mpr fun sensor hsensor ↦ ?_
        obtain ⟨hid, htype, hunit⟩ := hplain sensor hsensor
        exact ⟨hid, htype, (plain_value charset sensor.lastValue).1, hunit⟩
      · exact List.forall_mem_map.mpr fun sensor _ ↦ (plain_value charset sensor.lastValue).2

/-- A sensor that has measured and one that has not, read as US-ASCII. -/
def twoSensors : List (Event ℕ) :=
  [longRegistration 97, longRegistration 98, firstMeasurement].map
    (.request ⟨0, fun _ ↦ 0, none⟩ ⟨5, 0⟩)

theorem parseSensors_eq_iff_plain_two_sensors :
    ∃ s : ServerState ℚ ℕ, (server ℚ ℕ).run (serverInit 0) twoSensors = some s ∧
      ∃ line, readLine (respond ⟨0, fun _ ↦ 0, none⟩ ⟨5, 0⟩ getSensorsChunk s).response.text.bytes =
          some (line, []) ∧
        (parseSensors (Charset.usAscii.decode line) = s.sensors.live.map (shown Charset.usAscii) ↔
          ∀ sensor ∈ s.sensors.live, Plain (Charset.usAscii.decode sensor.id.str.bytes) ∧
            Plain (Charset.usAscii.decode sensor.type.str.bytes) ∧
            Plain (Charset.usAscii.decode sensor.lastUnit.str.bytes)) := by
  obtain ⟨s, hrun, hs⟩ : ∃ s : ServerState ℚ ℕ,
      (server ℚ ℕ).run (serverInit 0) twoSensors = some s ∧
        (s.sensors.live.map fun sensor ↦ (recordText sensor).length,
          (sensorsLine s.sensors ++ crlf).length) = ([51, 50], 111) :=
    Option.map_eq_some_iff.mp (by decide +kernel)
  obtain ⟨hlengths, hreply⟩ := Prod.mk.inj hs
  have hrecords : ∀ sensor ∈ s.sensors.live, (recordText sensor).length ≤ 127 := by
    intro sensor hsensor
    have hlength := hlengths ▸ List.mem_map_of_mem hsensor
    simp only [List.mem_cons, List.not_mem_nil, or_false] at hlength
    omega
  exact ⟨s, hrun, parseSensors_eq_iff_plain Charset.usAscii ⟨_, hrun⟩ _ _ (by decide +kernel)
    hrecords (by omega)⟩

end Reply

end IotMonitoring.Operator.ParseSensors
