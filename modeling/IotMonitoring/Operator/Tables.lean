import IotMonitoring.Operator.Browser
import IotMonitoring.Operator.Link
import Mathlib.Data.Bool.AllAny

/-!
# From the sensor table to the page

A reply to GET_SENSORS that holds all sensors of the server's table is published as the list of
these sensors, and the page renders it: every sensor of one of the three types has a row, with its
id, value and unit escaped, and the label counts all sensors. So label and rows agree exactly when
every sensor is of one of these types.
-/

namespace IotMonitoring.Operator.Tables

open Text Machine Server Server.Protocol Server.HandleClient Server.SensorManager ParseSensors
  RenderSensors

/-- The type of a sensor is that of a table. -/
def HasTable (lower : LowerCase) (sensor : SensorData) : Prop :=
  lower.toLowerCase sensor.type = "temperature".toList ∨
    lower.toLowerCase sensor.type = "energy".toList ∨
      lower.toLowerCase sensor.type = "vibration".toList

instance (lower : LowerCase) (sensor : SensorData) :
    Decidable (HasTable lower sensor) :=
  inferInstanceAs (Decidable (_ ∨ _ ∨ _))

/-- Elements are counted by their three keys one at a time or all at once. -/
theorem length_filter_add {α β : Type*} [DecidableEq β] (key : α → β) {a b c : β} (hab : a ≠ b)
    (hac : a ≠ c) (hbc : b ≠ c) (xs : List α) :
    (xs.filter (key · = a)).length + (xs.filter (key · = b)).length +
        (xs.filter (key · = c)).length =
      (xs.filter fun x ↦ key x = a ∨ key x = b ∨ key x = c).length := by
  induction xs with
  | nil => rfl
  | cons x xs ih =>
    simp only [List.filter_cons, decide_eq_true_eq]
    by_cases ha : key x = a
    · simp only [ha, hab, hac, if_true, if_false, true_or, List.length_cons]
      omega
    · by_cases hb : key x = b
      · simp only [hb, hab.symm, hbc, if_true, if_false, true_or, or_true, List.length_cons]
        omega
      · by_cases hc : key x = c
        · simp only [hc, hac.symm, hbc.symm, if_true, if_false, or_true, List.length_cons]
          omega
        · simp only [ha, hb, hc, or_false, if_false]
          omega

/-- The three tables together have a row for every sensor with a table. -/
theorem length_ofType_add (lower : LowerCase) (sensors : List SensorData) :
    (ofType lower "temperature" sensors).length + (ofType lower "energy" sensors).length +
        (ofType lower "vibration" sensors).length =
      (sensors.filter fun sensor ↦ HasTable lower sensor).length := by
  have hte : "temperature".toList ≠ "energy".toList := by decide
  have htv : "temperature".toList ≠ "vibration".toList := by decide
  have hev : "energy".toList ≠ "vibration".toList := by decide
  exact length_filter_add (fun sensor ↦ lower.toLowerCase sensor.type) hte htv hev sensors

/-! ## The reply and the page -/

variable {D κ : Type} [CDouble D] (charset : Charset)

/-- The sensors of the table, as the operator should see them. -/
def tableOf (s : ServerState D κ) : List SensorData := s.sensors.live.map (shown charset)

/-- Records and reply are short enough, and the operator can tell the fields apart. -/
structure Readable (s : ServerState D κ) : Prop where
  records : ∀ sensor ∈ s.sensors.live, (recordText sensor).length ≤ 127
  reply : (sensorsLine s.sensors ++ crlf).length ≤ 511
  plain : ∀ sensor ∈ s.sensors.live, Plain (charset.decode sensor.id.str.bytes) ∧
    Plain (charset.decode sensor.type.str.bytes) ∧
    Plain (charset.decode sensor.lastUnit.str.bytes)

variable {charset}

/-- The line of a readable table is parsed as the table. -/
theorem Readable.parseSensors_eq {s : ServerState D κ} (h : Readable charset s) :
    parseSensors (charset.decode (sensorsLine s.sensors).bytes) = tableOf charset s := by
  rw [decode_sensorsLine]
  refine parseSensors_of_plain (List.forall_mem_map.mpr fun sensor hsensor ↦ ?_)
    (List.forall_mem_map.mpr fun sensor _ ↦ (plain_value charset sensor.lastValue).2)
  obtain ⟨hid, htype, hunit⟩ := h.plain sensor hsensor
  exact ⟨hid, htype, (plain_value charset sensor.lastValue).1, hunit⟩

/-- In a reachable state with a readable table, the reply to GET_SENSORS stands for the table. -/
theorem topic_respond {now : ℤ} {s : ServerState D κ}
    (hreach : (server D κ).Reachable (serverInit now) s) (env : Env) (client : Client κ)
    {chunk : Chunk} (htype : chunk.message.type = .getSensors) (h : Readable charset s) :
    Link.topic charset (.reply (respond env client chunk s).response.text) =
      [.sensors (tableOf charset s)] := by
  have hactive := active_of_reachable (sensors_reachable hreach)
  have hsafe := lineSafe_sensorsLine (lineSafe_of_reachable hreach) h.records
  have htext : (respond env client chunk s).response.text = sensorsLine s.sensors ++ crlf := by
    rw [respond_eq, htype]
    exact getSensors_eq hactive h.records h.reply
  have hpass : ∀ b ∈ (sensorsLine s.sensors).bytes, (! isLineEnd b) = true := fun b hb ↦ by
    simp [hsafe b hb]
  have hbytes : (sensorsLine s.sensors ++ crlf).bytes = (sensorsLine s.sensors).bytes ++ [13, 10] :=
    bytes_crlf ▸ CString.bytes_append _ _
  have hline :
      Link.line (.reply (sensorsLine s.sensors ++ crlf)) = (sensorsLine s.sensors).bytes := by
    rw [Link.line, CString.before]
    simp only [OperatorStream.Sending.text, hbytes]
    rw [List.takeWhile_append_of_pos hpass]
    simp [isLineEnd]
  have hkeyword : (CString.lit "SENSORS ").bytes.isPrefixOf (sensorsLine s.sensors ++ crlf).bytes :=
    List.isPrefixOf_iff_prefix.mpr ((List.prefix_append _ _).trans (List.prefix_append _ _))
  rw [htext, Link.topic, if_pos hkeyword, hline, h.parseSensors_eq]

/-- A list without inherited members for types is rendered. -/
theorem renderSensors_eq (lower : LowerCase) {sensors : List SensorData}
    (h : ∀ sensor ∈ sensors, lower.toLowerCase sensor.type ≠ "constructor".toList ∧
      lower.toLowerCase sensor.type ≠ "__proto__".toList) :
    renderSensors lower (some sensors) =
      some
        { temperature := renderGroup (ofType lower "temperature" sensors)
          energy := renderGroup (ofType lower "energy" sensors)
          vibration := renderGroup (ofType lower "vibration" sensors)
          sensorCount := sensors.length } := by
  have hown : ∀ sensor ∈ sensors,
      lower.toLowerCase sensor.type ∉ objectPrototype.map String.toList := by
    intro sensor hsensor
    rw [mem_objectPrototype_iff (lower.noCapital sensor.type), not_or]
    exact h sensor hsensor
  rw [renderSensors, Option.getD_some, groupAll_eq, if_pos hown]
  rfl

/-- In a reachable state with a readable table, what the reply to GET_SENSORS leads to on the page
is the table: a row for every sensor of one of the three types, under its type and in the order of
the table, and the number of all sensors, which is the number of rows exactly when every sensor is
of one of these types. -/
theorem tables_of_reply {now : ℤ} {s : ServerState D κ}
    (hreach : (server D κ).Reachable (serverInit now) s) (env : Env) (client : Client κ)
    {chunk : Chunk} (htype : chunk.message.type = .getSensors) (h : Readable charset s)
    (lower : LowerCase)
    (hnames : ∀ sensor ∈ tableOf charset s, lower.toLowerCase sensor.type ≠ "constructor".toList ∧
      lower.toLowerCase sensor.type ≠ "__proto__".toList)
    (page : Browser.Page) (time : Dashboard.JsString) :
    ∃ sensors,
      Link.topic charset (.reply (respond env client chunk s).response.text) =
        [.sensors sensors] ∧
      let tables := (Browser.handle lower page (.message time (.sensors sensors))).tables
      Shows tables.temperature (ofType lower "temperature" (tableOf charset s)) ∧
        Shows tables.energy (ofType lower "energy" (tableOf charset s)) ∧
        Shows tables.vibration (ofType lower "vibration" (tableOf charset s)) ∧
        tables.sensorCount = s.sensors.live.length ∧
        (tables.temperature.count + tables.energy.count + tables.vibration.count =
            tables.sensorCount ↔
          ∀ sensor ∈ tableOf charset s, HasTable lower sensor) := by
  refine ⟨_, topic_respond hreach env client htype h, ?_⟩
  rw [Browser.handle, renderSensors_eq lower hnames]
  refine ⟨shows_renderGroup _, shows_renderGroup _, shows_renderGroup _, ?_, ?_⟩
  · exact List.length_map ..
  · have hrows := length_ofType_add lower (tableOf charset s)
    calc
      _ ↔ ((tableOf charset s).filter fun sensor ↦ HasTable lower sensor).length =
          (tableOf charset s).length := by
        rw [← hrows]
        rfl
      _ ↔ ∀ sensor ∈ tableOf charset s, HasTable lower sensor := by
        simp [List.length_filter_eq_length_iff]

/-- Two sensors of known types, one of which has measured, and one of another type. -/
def threeSensors : List (Event ℕ) :=
  [registerChunk, ⟨ascii "REGISTER_SENSOR s2 energy\r\n", by decide, by decide⟩,
    ⟨ascii "REGISTER_SENSOR s3 humidity\r\n", by decide, by decide⟩,
    ⟨ascii "MEASUREMENT s1 60 C 0\r\n", by decide, by decide⟩].map (.request sensorEnv ⟨5, 0⟩)

def threeRows : List SensorData :=
  [⟨"s1".toList, "temperature".toList, "60.00".toList, "C".toList⟩,
    ⟨"s2".toList, "energy".toList, "0.00".toList, []⟩,
    ⟨"s3".toList, "humidity".toList, "0.00".toList, []⟩]

theorem plain_threeRows : ∀ row ∈ threeRows, Plain row.id ∧ Plain row.type ∧ Plain row.unit := by
  have hplain {text : JavaString} (h : text.all fun c ↦ c ≠ ',' ∧ c ≠ ';' ∧ isTrimmed c = false) :
      Plain text := by
    simp only [List.all_eq_true, decide_eq_true_eq] at h
    exact ⟨fun hmem ↦ (h _ hmem).1 rfl, fun hmem ↦ (h _ hmem).2.1 rfl,
      cleanEdges_of_forall fun c hc ↦ (h c hc).2.2⟩
  simp only [threeRows, List.forall_mem_cons, List.not_mem_nil, false_implies, implies_true,
    and_true]
  exact ⟨⟨hplain (by decide), hplain (by decide), hplain (by decide)⟩,
    ⟨hplain (by decide), hplain (by decide), hplain (by decide)⟩,
    hplain (by decide), hplain (by decide), hplain (by decide)⟩

theorem tables_of_reply_three_sensors :
    ∃ s : ServerState ℚ ℕ, (server ℚ ℕ).run (serverInit 0) threeSensors = some s ∧
      tableOf Charset.usAscii s = threeRows ∧
      ∃ sensors,
        Link.topic Charset.usAscii
            (.reply (respond sensorEnv ⟨6, 1⟩ getSensorsChunk s).response.text) =
          [.sensors sensors] ∧
        let tables := (Browser.handle asciiLowerCase (Browser.initialPage true)
          (.message "10:00:00".toList (.sensors sensors))).tables
        Shows tables.temperature (ofType asciiLowerCase "temperature" (tableOf Charset.usAscii s)) ∧
          Shows tables.energy (ofType asciiLowerCase "energy" (tableOf Charset.usAscii s)) ∧
          Shows tables.vibration (ofType asciiLowerCase "vibration" (tableOf Charset.usAscii s)) ∧
          tables.sensorCount = s.sensors.live.length ∧
          (tables.temperature.count + tables.energy.count + tables.vibration.count =
              tables.sensorCount ↔
            ∀ sensor ∈ tableOf Charset.usAscii s, HasTable asciiLowerCase sensor) := by
  obtain ⟨s, hrun, hs⟩ : ∃ s : ServerState ℚ ℕ,
      (server ℚ ℕ).run (serverInit 0) threeSensors = some s ∧
        (tableOf Charset.usAscii s, s.sensors.live.map fun sensor ↦ (recordText sensor).length,
          (sensorsLine s.sensors ++ crlf).length) = (threeRows, [23, 16, 18], 67) :=
    Option.map_eq_some_iff.mp (by decide +kernel)
  obtain ⟨htable, hlengths⟩ := Prod.mk.inj hs
  obtain ⟨hrecords, hreply⟩ := Prod.mk.inj hlengths
  have hreadable : Readable Charset.usAscii s := by
    refine ⟨fun sensor hsensor ↦ ?_, by omega, fun sensor hsensor ↦ ?_⟩
    · have hlength := hrecords ▸ List.mem_map_of_mem hsensor
      simp only [List.mem_cons, List.not_mem_nil, or_false] at hlength
      omega
    · have hshown : shown Charset.usAscii sensor ∈ tableOf Charset.usAscii s :=
        List.mem_map_of_mem hsensor
      exact plain_threeRows _ (htable ▸ hshown)
  refine ⟨s, hrun, htable, tables_of_reply ⟨_, hrun⟩ _ _ (by decide +kernel) hreadable
    asciiLowerCase ?_ _ _⟩
  rw [htable]
  decide

end IotMonitoring.Operator.Tables
