import IotMonitoring.Operator.Browser
import IotMonitoring.Operator.Link
import IotMonitoring.Sensors.Generators

/-!
# From a draw to the feed

A value that a sensor draws is rounded, printed with four digits, read by the server, compared with
its rules, printed again with two digits, published, and compared with the table of the page. What
the feed shows of it is given here in terms of the draw alone. The severity is worked out twice, in
the server and in the page, from different texts of the value; for drawn values the two agree,
except on high energy values, which the server has no critical rule for. A handler checks and
broadcasts in two calls, and between them other handlers may check and broadcast, so the lines need
not come in the order of the checks.
-/

namespace IotMonitoring.Operator.Alarms

open Text Machine Server.Protocol Server.SensorManager Server.AlertEngine Server.HandleClient
open Server (CDouble)
open Auth.AuthServer (PyString encode encode_of_ascii)
open Sensors.SensorBase (SensorType Random unitMap rounded fixed4 sendBytes measurementMessage
  VisibleText visibleText_unitMap visibleText_of_all toNat_toUInt8 drawn
  hundredthsOf generateValue reported announced reported_drawn)
open Browser (Page Element browser)
open Dashboard (JsString Kind addAlert isWhite partAt)
open Link (topic)

/-! ## Draws -/

/-- A value drawn by a sensor, with the timestamp of its message. The id is visible and has no
comma, as the ids that `run_sensors.py` makes. -/
structure Draw where
  name : PyString
  type : SensorType
  rng : Random
  timestamp : ℤ
  visible : VisibleText name
  noComma : ',' ∉ name

/-- A number of hundredths with two digits behind the point. -/
def decimalText (n : ℕ) : JsString :=
  Nat.toDigits 10 (n / 100) ++ '.' :: (Nat.toDigits 10 (n % 100 / 10) ++ Nat.toDigits 10 (n % 10))

namespace Draw

/-- The message for the value. -/
def message (draw : Draw) : PyString :=
  measurementMessage draw.name (generateValue draw.type draw.rng) (unitMap draw.type).toList
    draw.timestamp

/-- The id as the server reads it. -/
def sensorId (draw : Draw) : CString where
  bytes := encode draw.name
  noNul hmem := absurd (draw.visible.encode.2 0 hmem).1 (by decide)

/-- The value as the server reads it. -/
def value (draw : Draw) : ℚ := hundredthsOf (drawn draw.type draw.rng)

/-- The number of hundredths in the magnitude of the value. -/
def hundredths (draw : Draw) : ℕ := rounded 100 |drawn draw.type draw.rng|.toNNRat

/-- The type, as the page knows it. -/
def kind (draw : Draw) : Kind :=
  match draw.type with
  | .temperature => .temperature
  | .energy => .energy
  | .vibration => .vibration

/-- The draw was made to raise an alert. -/
def isLoud (draw : Draw) : Bool := announced draw.type draw.rng ≠ []

/-- The draw was made to be critical, or it is an energy above 800. -/
def isCritical (draw : Draw) : Bool :=
  .critical ∈ announced draw.type draw.rng ∨ draw.type = .energy ∧ 800 < draw.value

/-- What the line says. -/
def fields (draw : Draw) : JsString :=
  draw.name ++ ',' :: (draw.type.name.toList ++ ',' ::
    (decimalText draw.hundredths ++ ',' :: (unitMap draw.type).toList))

/-- The line for a draw, as the page receives it. -/
def line (draw : Draw) : JsString := "ALERTA ".toList ++ draw.fields

/-- The element of the feed for a draw. -/
def alarm (time : JsString) (draw : Draw) : Element where
  className := "alert-item ".toList ++
    (if draw.isCritical then "alert-critical" else "alert-warning").toList
  textContent := "[".toList ++ time ++ "] [".toList ++
    (if draw.isCritical then "CRITICAL" else "WARNING").toList ++ "] Sensor ".toList ++
    draw.name ++ " (".toList ++ draw.type.name.toList ++ ") | Valor: ".toList ++
    decimalText draw.hundredths ++ " ".toList ++ (unitMap draw.type).toList

theorem isLoud_iff {draw : Draw} :
    draw.isLoud = true ↔ announced draw.type draw.rng ≠ [] := decide_eq_true_iff

@[simp]
theorem name_kind (draw : Draw) : draw.kind.name = draw.type.name := by
  cases htype : draw.type <;> simp [kind, htype, Kind.name, SensorType.name]

end Draw

/-- The page with one more alert. -/
def withAlarm (page : Page) (element : Element) : Page :=
  { page with
    alertFeed := page.alertFeed ++ [element]
    alertCount := page.alertCount + 1
    alertBadge := page.alertCount + 1 }

/-! ## Rounded values -/

/-- A whole number of hundredths is not rounded again. -/
theorem hundredths_natCast_div (n : ℕ) : Server.Rational.hundredths (n / 100 : ℚ) = n := by
  set q : ℚ := n / 100 with hq
  have hnonneg : 0 ≤ q := div_nonneg (Nat.cast_nonneg n) (by norm_num)
  have hnum : (q.num.natAbs : ℤ) = q.num := Int.natAbs_of_nonneg (Rat.num_nonneg.mpr hnonneg)
  have hscaled : (q.num : ℚ) * 100 = n * q.den := by
    rw [← Rat.mul_den_eq_num q, hq]
    ring
  have hscaled' : q.num.natAbs * 100 = n * q.den := by
    have hint : q.num * 100 = n * q.den := by exact_mod_cast hscaled
    rw [← hnum] at hint
    exact_mod_cast hint
  simp only [Server.Rational.hundredths, hscaled', Nat.mul_mod_left, Nat.mul_zero,
    if_pos q.den_pos, Nat.mul_div_cancel n q.den_pos]

theorem fixed2_natCast_div (n : ℕ) :
    (CDouble.fixed2 (n / 100 : ℚ)).bytes.map character = decimalText n := by
  have hnonneg : ¬ (n / 100 : ℚ) < 0 :=
    not_lt.mpr (div_nonneg (Nat.cast_nonneg n) (by norm_num))
  rw [Dashboard.map_character_fixed2, hundredths_natCast_div, if_neg hnonneg, List.nil_append,
    decimalText]

/-- Up to ten thousand there are at most five digits in front of the point. -/
theorem length_decimalText_le {n : ℕ} (h : n ≤ 1000000) : (decimalText n).length ≤ 8 := by
  have hwhole : (Nat.toDigits 10 (n / 100)).length ≤ 5 := by
    rw [Nat.length_toDigits_le_iff (by decide) (by decide)]
    omega
  have htens : (Nat.toDigits 10 (n % 100 / 10)).length ≤ 1 := by
    rw [Nat.length_toDigits_le_iff (by decide) (by decide)]
    omega
  have hones : (Nat.toDigits 10 (n % 10)).length ≤ 1 := by
    rw [Nat.length_toDigits_le_iff (by decide) (by decide)]
    omega
  rw [decimalText, List.length_append, List.length_cons, List.length_append]
  omega

/-- For a whole number of hundredths, the rendered value exceeds a bound when the value does. -/
theorem exceeds_iff (bound n : ℕ) :
    (200 * bound + 1 : ℚ) / 200 < (n / 100 : ℚ) ↔ (bound : ℚ) < n / 100 := by
  have hleft : (200 * bound + 1 : ℚ) / 200 < (n / 100 : ℚ) ↔ 200 * bound + 1 < 2 * n := by
    rw [div_lt_div_iff₀ (by norm_num) (by norm_num)]
    constructor
    · intro h
      have hcast : ((200 * bound + 1 : ℕ) : ℚ) < (2 * n : ℕ) := by
        push_cast
        linarith
      exact_mod_cast hcast
    · intro h
      have hcast : ((200 * bound + 1 : ℕ) : ℚ) < (2 * n : ℕ) := by exact_mod_cast h
      push_cast at hcast
      linarith
  have hright : (bound : ℚ) < n / 100 ↔ bound * 100 < n := by
    rw [lt_div_iff₀ (by norm_num)]
    norm_cast
  rw [hleft, hright]
  omega

/-- No alert is reported below zero. -/
theorem pos_of_reported {type : SensorType} {value : ℚ} (h : reported type value ≠ []) :
    0 < value := by
  by_contra hle
  have hfalse {bound : ℚ} (hbound : 0 ≤ bound) : ¬ bound < value :=
    not_lt.mpr ((not_lt.mp hle).trans hbound)
  apply h
  cases type with
  | temperature =>
    rw [reported, if_neg (hfalse (by norm_num)), if_neg (hfalse (by norm_num)), List.append_nil]
  | energy => rw [reported, if_neg (hfalse (by norm_num))]
  | vibration =>
    rw [reported, if_neg (hfalse (by norm_num)), if_neg (hfalse (by norm_num)), List.append_nil]

namespace Draw

/-- A loud draw is the number of its hundredths. -/
theorem value_of_isLoud {draw : Draw} (h : draw.isLoud = true) :
    draw.value = draw.hundredths / 100 := by
  have hreported : reported draw.type draw.value ≠ [] := by
    rw [value, reported_drawn]
    exact isLoud_iff.mp h
  have hpos := pos_of_reported hreported
  have hmagnitude : (0 : ℚ) ≤ draw.hundredths / 100 :=
    div_nonneg (Nat.cast_nonneg _) (by norm_num)
  by_cases hnegative : drawn draw.type draw.rng < 0
  · rw [value, hundredthsOf, if_pos hnegative, ← hundredths] at hpos
    linarith
  · rw [value, hundredthsOf, if_neg hnegative, one_mul, hundredths]

theorem fixed2_of_isLoud {draw : Draw} (h : draw.isLoud = true) :
    (CDouble.fixed2 draw.value).bytes.map character = decimalText draw.hundredths := by
  rw [value_of_isLoud h]
  exact fixed2_natCast_div draw.hundredths

theorem length_fixed2_le {draw : Draw} (h : draw.isLoud = true) :
    (CDouble.fixed2 draw.value).length ≤ 8 := by
  have hle : draw.hundredths ≤ 1000000 := by
    apply Sensors.SensorBase.rounded_le_of_le
    rw [Sensors.SensorBase.coe_toNNRat_abs]
    norm_num
    exact Sensors.SensorBase.abs_drawn_le draw.type draw.rng
  have hlength := congrArg List.length (fixed2_of_isLoud h)
  rw [List.length_map] at hlength
  rw [CString.length, hlength]
  exact length_decimalText_le hle

end Draw

/-! ## The severity -/

theorem critical_mem_reported_iff (draw : Draw) (value : ℚ) :
    AlertLevel.critical ∈ reported draw.type value ↔ draw.kind.ServerCritical value := by
  have hmem {p q : Prop} [Decidable p] [Decidable q] :
      AlertLevel.critical ∈ (if p then [AlertLevel.warning] else []) ++
        (if q then [AlertLevel.critical] else []) ↔ q := by
    by_cases hp : p <;> by_cases hq : q <;> simp [hp, hq]
  rw [Draw.kind]
  cases draw.type with
  | temperature => exact hmem
  | energy => by_cases hhigh : (500 : ℚ) < value <;> simp [reported, hhigh, Kind.ServerCritical]
  | vibration => exact hmem

/-- The page and the server judge a draw alike, except for high energy. -/
theorem isCritical_iff (draw : Draw) :
    draw.isCritical = true ↔ (draw.kind.critical : ℚ) < draw.value := by
  rw [Draw.isCritical, decide_eq_true_iff, ← reported_drawn, critical_mem_reported_iff, Draw.kind,
    ← Draw.value]
  cases draw.type with
  | temperature => simp [Kind.ServerCritical, Kind.critical]
  | energy => simp [Kind.ServerCritical, Kind.critical]
  | vibration => simp [Kind.ServerCritical, Kind.critical]

/-! ## The line on the page -/

theorem toNat_of_visible {text : PyString} (h : VisibleText text) {c : Char} (hc : c ∈ text) :
    c.toNat.toUInt8.toNat = c.toNat := toNat_toUInt8 (h.ascii c hc)

/-- Visible text is decoded as it was encoded. -/
theorem decode_encode (charset : Charset) {text : PyString} (h : VisibleText text) :
    charset.decode (encode text) = text := by
  have hascii : ∀ b ∈ text.map fun c ↦ c.toNat.toUInt8, b < 128 := by
    intro b hb
    obtain ⟨c, hc, rfl⟩ := List.mem_map.mp hb
    rw [UInt8.lt_iff_toNat_lt, toNat_of_visible h hc]
    exact h.ascii c hc
  rw [encode_of_ascii h.ascii, charset.decode_of_ascii hascii, List.map_map]
  refine (List.map_congr_left fun c hc ↦ ?_).trans (List.map_id _)
  rw [Function.comp_apply, character, toNat_of_visible h hc, Char.ofNat_toNat, id]

theorem cleanEdges_of_visible {text : PyString} (h : VisibleText text) :
    CleanEdges isWhite text := by
  apply cleanEdges_of_forall
  intro c hc
  obtain ⟨hlow, hhigh⟩ := h.2 c hc
  rw [isWhite, decide_eq_false_iff_not]
  omega

theorem map_character_name (kind : Kind) :
    (CString.lit kind.name).bytes.map character = kind.name.toList := by
  cases kind <;> decide

theorem comma_not_mem_unitMap (type : SensorType) : ',' ∉ (unitMap type).toList := by
  cases type <;> decide

theorem splitOn_fields {draw : Draw} (h : draw.isLoud = true) :
    draw.fields.splitOn ',' =
      [draw.name, draw.type.name.toList, decimalText draw.hundredths,
        (unitMap draw.type).toList] := by
  have htype := (Dashboard.name_facts draw.kind).2.1
  have hvalue := (Dashboard.fixed2_facts draw.value).2.1
  rw [map_character_name, Draw.name_kind] at htype
  rw [Draw.fixed2_of_isLoud h] at hvalue
  rw [Draw.fields, List.splitOn_append_cons_self_of_not_mem draw.noComma,
    List.splitOn_append_cons_self_of_not_mem htype,
    List.splitOn_append_cons_self_of_not_mem hvalue,
    List.splitOn_eq_singleton (comma_not_mem_unitMap draw.type)]

/-- The page compares the rendered value, with the same result. -/
theorem greater_decimalText {draw : Draw} (h : draw.isLoud = true) :
    (Dashboard.parseFloat (decimalText draw.hundredths)).greater draw.kind.critical =
      draw.isCritical := by
  rw [Bool.eq_iff_iff, ← Draw.fixed2_of_isLoud h, Dashboard.greater_fixed2_iff, isCritical_iff,
    Draw.value_of_isLoud h]
  exact exceeds_iff _ _

/-- The page takes the fields of a loud draw out of its line. -/
theorem addAlert_line {draw : Draw} (h : draw.isLoud = true) :
    addAlert draw.line =
      { level := if draw.isCritical then .critical else .warning
        sensorId := draw.name
        type := draw.type.name.toList
        value := decimalText draw.hundredths
        unit := (unitMap draw.type).toList } := by
  obtain ⟨-, -, htype, warning, hentry⟩ := Dashboard.name_facts draw.kind
  have hvalue := (Dashboard.fixed2_facts draw.value).2.2
  rw [map_character_name, Draw.name_kind] at htype hentry
  rw [Draw.fixed2_of_isLoud h] at hvalue
  have hkeyword : "ALERTA ".toList.isPrefixOf draw.line = true := rfl
  have hdata : draw.line.drop 7 = draw.fields := rfl
  unfold addAlert
  simp only [hkeyword, if_true, hdata, splitOn_fields h, partAt, List.getElem?_cons_succ,
    List.getElem?_cons_zero, trimWith_eq_self (cleanEdges_of_visible draw.visible),
    trimWith_eq_self htype, trimWith_eq_self hvalue,
    trimWith_eq_self (cleanEdges_of_visible (visibleText_unitMap draw.type)), hentry,
    greater_decimalText h]

/-- The page shows the line of a loud draw as its alarm. -/
theorem alertElement_line {draw : Draw} (h : draw.isLoud = true) (time : JsString) :
    Browser.alertElement time draw.line = draw.alarm time := by
  unfold Browser.alertElement Draw.alarm
  rw [addAlert_line h]
  generalize draw.isCritical = critical
  cases critical with
  | true => simp only [if_true]
  | false => simp only [Bool.false_eq_true, if_false, reduceCtorEq]

/-! ## The line of the server -/

/-- What the server prints for a draw. -/
def Draw.text (draw : Draw) (unit : CString) : CString :=
  alertText draw.sensorId (.lit draw.type.name) draw.value unit

theorem lineSafe_of_visible {word : CString} {text : PyString} (h : VisibleText text)
    (hword : word.bytes = encode text) : word.LineSafe := by
  intro b hb
  rw [hword] at hb
  obtain ⟨hlow, -⟩ := h.encode.2 b hb
  have hthirteen : b ≠ 13 := by
    rintro rfl
    exact absurd hlow (by decide)
  have hten : b ≠ 10 := by
    rintro rfl
    exact absurd hlow (by decide)
  simp [isLineEnd, hthirteen, hten]

/-- The line of a loud draw has room in its buffer. -/
theorem alertLine_draw {draw : Draw} (h : draw.isLoud = true) (hid : draw.sensorId.length ≤ 31)
    {unit : CString} (hunit : unit.bytes = encode (unitMap draw.type).toList) :
    alertLine draw.sensorId (.lit draw.type.name) draw.value unit = draw.text unit ++ crlf := by
  have htype : (CString.lit draw.type.name).length ≤ 11 := by
    cases draw.type <;> decide
  have hvalue := Draw.length_fixed2_le h
  have hunit' : unit.length ≤ 4 := by
    rw [CString.length, hunit]
    cases draw.type <;> decide
  apply (alertLine_eq_iff _ _ _ _).mpr
  omega

/-- The line of the server arrives as the line of the page. -/
theorem topic_draw (charset : Charset) {draw : Draw} (h : draw.isLoud = true) {unit : CString}
    (hunit : unit.bytes = encode (unitMap draw.type).toList) :
    topic charset (.alert (draw.text unit ++ crlf)) = [.alert draw.line] := by
  have hsafe : (draw.text unit).LineSafe :=
    lineSafe_alertText (lineSafe_of_visible draw.visible rfl)
      (CString.lineSafe_lit (by cases draw.type <;> decide)) draw.value
      (lineSafe_of_visible (visibleText_unitMap draw.type) hunit)
  have hline : Link.line (.alert (draw.text unit ++ crlf)) = (draw.text unit).bytes :=
    Link.line_of_bytes rfl hsafe
  have hid : charset.decode draw.sensorId.bytes = draw.name := decode_encode charset draw.visible
  have hdecode := Dashboard.decode_alertText charset draw.sensorId unit draw.kind draw.value
  rw [hid, hunit, decode_encode charset (visibleText_unitMap draw.type), map_character_name,
    Draw.fixed2_of_isLoud h, Draw.name_kind] at hdecode
  rw [topic, hline]
  exact congrArg (fun text ↦ [ServerConnection.Message.alert text]) hdecode

/-! ## Broadcasts -/

variable {κ : Type}

/-- What a handler has to broadcast after a step. A MEASUREMENT that makes its updates one at a time
broadcasts after the second. -/
def broadcastOf (s : ServerState ℚ κ) : Event κ → Option CString
  | .request env client chunk => (respond env client chunk s).broadcast
  | .check env chunk pointer =>
    match chunk.message.argStrings with
    | sensorId :: valueText :: unit :: _ =>
      let sensorType := typeAt s.sensors pointer
      let value : ℚ := CDouble.atof valueText
      let checked := checkMeasurement env.alertTime sensorId sensorType value s.engine
      if checked.2.length > 0 then some (alertLine sensorId sensorType value unit) else none
    | _ => none
  | .store _ _ => none
  | .disconnect _ => none

/-- The sensor of a draw is stored under its type. -/
structure Stored (draw : Draw) (s : ServerState ℚ κ) (pointer : Fin maxSensors) : Prop where
  found : findSensor s.sensors draw.sensorId = some pointer
  typed : typeAt s.sensors pointer = .lit draw.type.name

/-- The measurements that are checked are those of draws by stored sensors. Nothing is said about
the other commands. -/
def Genuine (drawOf : Event κ → Option Draw) (s : ServerState ℚ κ) (event : Event κ) : Prop :=
  match event, drawOf event with
  | .request _ _ chunk, some draw =>
    chunk.bytes = sendBytes draw.message ∧ ∃ pointer, Stored draw s pointer
  | .request _ _ chunk, none => chunk.message.type ≠ .measurement
  | .check _ chunk pointer, some draw =>
    chunk.bytes = sendBytes draw.message ∧ Stored draw s pointer
  | .check .., none => False
  | .store .., drawn? => drawn? = none
  | .disconnect _, drawn? => drawn? = none

theorem args_message {draw : Draw} {chunk : Chunk} (h : chunk.bytes = sendBytes draw.message) :
    ∃ valueText unit time,
      valueText.bytes = encode (fixed4 (generateValue draw.type draw.rng)) ∧
      unit.bytes = encode (unitMap draw.type).toList ∧ chunk.message.type = .measurement ∧
      chunk.message.argStrings = [draw.sensorId, valueText, unit, time] :=
  Sensors.SensorBase.args_measurementMessage draw.visible h rfl

/-- The check of a draw leads to its line when it is loud. -/
theorem checked_draw {now : ℤ} {s : ServerState ℚ κ}
    (hreach : (server ℚ κ).Reachable (serverInit now) s) {draw : Draw} {pointer : Fin maxSensors}
    (hstored : Stored draw s pointer) {valueText unit : CString}
    (hvalue : valueText.bytes = encode (fixed4 (generateValue draw.type draw.rng)))
    (hunit : unit.bytes = encode (unitMap draw.type).toList) (time : Fin maxAlerts → ℤ) :
    (if (checkMeasurement time draw.sensorId (typeAt s.sensors pointer)
        (CDouble.atof valueText : ℚ) s.engine).2.length > 0 then
      some (alertLine draw.sensorId (typeAt s.sensors pointer) (CDouble.atof valueText : ℚ) unit)
    else none) = if draw.isLoud then some (draw.text unit ++ crlf) else none := by
  have hread : (CDouble.atof valueText : ℚ) = draw.value :=
    Sensors.SensorBase.atof_round2 draw.rng
      (Sensors.SensorBase.abs_drawn_le draw.type draw.rng) hvalue
  have hlength := Sensors.SensorBase.length_checkMeasurement hreach time draw.sensorId draw.type
    draw.value
  rw [Draw.value, reported_drawn, ← Draw.value] at hlength
  have hid : draw.sensorId.length ≤ 31 := by
    obtain ⟨-, hstr⟩ := findSensor_eq_some hstored.found
    exact hstr ▸ (s.sensors.get pointer).id.length_str_le
  rw [hread, hstored.typed, hlength]
  cases hloud : draw.isLoud with
  | true =>
    have hpos : (announced draw.type draw.rng).length > 0 :=
      List.length_pos_iff.mpr (Draw.isLoud_iff.mp hloud)
    rw [if_pos hpos, alertLine_draw hloud hid hunit, if_pos rfl]
  | false =>
    have hnone : announced draw.type draw.rng = [] := by
      by_contra hannounced
      rw [Draw.isLoud_iff.mpr hannounced] at hloud
      cases hloud
    rw [hnone, if_neg (by decide), if_neg (by decide)]

/-- The draw of a step, where it is loud. -/
def loudDraws (drawOf : Event κ → Option Draw) (event : Event κ) : List Draw :=
  ((drawOf event).filter Draw.isLoud).toList

/-- The message of a draw on the topic of the alerts. -/
def Draw.published (draw : Draw) : ServerConnection.Message := .alert draw.line

/-- What comes of the alert of a step. -/
def raised (charset : Charset) (s : ServerState ℚ κ) (event : Event κ) :
    List ServerConnection.Message :=
  (broadcastOf s event).toList.flatMap fun line ↦ topic charset (.alert line)

/-- A loud draw alone is published. -/
theorem topic_of_isLoud (charset : Charset) (draw : Draw) {unit : CString}
    (hunit : unit.bytes = encode (unitMap draw.type).toList) :
    ((if draw.isLoud then some (draw.text unit ++ crlf) else none).toList.flatMap fun line ↦
        topic charset (.alert line)) =
      ((some draw).filter Draw.isLoud).toList.map Draw.published := by
  cases hloud : draw.isLoud with
  | true =>
    rw [Option.filter_some, if_pos hloud, if_pos rfl]
    exact (List.append_nil _).trans (topic_draw charset hloud hunit)
  | false =>
    rw [Option.filter_some, if_neg Bool.false_ne_true, if_neg (by simp [hloud])]
    rfl

/-- What comes of a genuine step is the message of its draw. -/
theorem raised_eq (charset : Charset) {now : ℤ} {s : ServerState ℚ κ}
    (hreach : (server ℚ κ).Reachable (serverInit now) s) {drawOf : Event κ → Option Draw}
    {event : Event κ} (h : Genuine drawOf s event) :
    raised charset s event = (loudDraws drawOf event).map Draw.published := by
  cases event with
  | request env client chunk =>
    cases hdraw : drawOf (.request env client chunk) with
    | none =>
      simp only [Genuine, hdraw] at h
      have hnone : broadcastOf s (.request env client chunk) = none :=
        Option.eq_none_iff_forall_ne_some.mpr fun line hline ↦
          h (broadcasts_of_respond hline).1
      rw [raised, hnone, loudDraws, hdraw]
      rfl
    | some draw =>
      simp only [Genuine, hdraw] at h
      obtain ⟨hchunk, pointer, hstored⟩ := h
      obtain ⟨valueText, unit, time, hvalue, hunit, htype, hargs⟩ := args_message hchunk
      have hbroadcast : broadcastOf s (.request env client chunk) =
          if draw.isLoud then some (draw.text unit ++ crlf) else none := by
        rw [broadcastOf, respond_eq, htype, hargs, dispatch,
          measurement_of_findSensor env valueText unit [time] hstored.found]
        exact checked_draw hreach hstored hvalue hunit env.alertTime
      rw [raised, hbroadcast, topic_of_isLoud charset draw hunit, loudDraws, hdraw]
  | check env chunk pointer =>
    cases hdraw : drawOf (.check env chunk pointer) with
    | none => simp only [Genuine, hdraw] at h
    | some draw =>
      simp only [Genuine, hdraw] at h
      obtain ⟨valueText, unit, time, hvalue, hunit, -, hargs⟩ := args_message h.1
      have hbroadcast : broadcastOf s (.check env chunk pointer) =
          if draw.isLoud then some (draw.text unit ++ crlf) else none := by
        rw [broadcastOf, hargs]
        exact checked_draw hreach h.2 hvalue hunit env.alertTime
      rw [raised, hbroadcast, topic_of_isLoud charset draw hunit, loudDraws, hdraw]
  | store env chunk =>
    simp only [Genuine] at h
    rw [loudDraws, h]
    rfl
  | disconnect client =>
    simp only [Genuine] at h
    rw [loudDraws, h]
    rfl

/-! ## Checks and broadcasts -/

/-- The shared data, and the lines of the handlers that have checked a measurement and have not
called `broadcast_alert` yet. -/
structure State (κ : Type) where
  shared : ServerState ℚ κ
  waiting : List CString

inductive Action (κ : Type) where
  | server (event : Event κ)
  | broadcast (k : ℕ)

/-- The handlers, whose broadcasts come in any order. -/
def broadcasting (κ : Type) : Labelled (State κ) (Action κ) where
  step s action :=
    match action with
    | .server event =>
      ((server ℚ κ).step s.shared event).map fun shared ↦
        ⟨shared, s.waiting ++ (broadcastOf s.shared event).toList⟩
    | .broadcast k => s.waiting[k]?.map fun _ ↦ { s with waiting := s.waiting.eraseIdx k }

/-- The server before its first connection. -/
def init (now : ℤ) : State κ := ⟨serverInit now, []⟩

/-- What a step publishes. -/
def topics (charset : Charset) (s : State κ) : Action κ → List ServerConnection.Message
  | .server _ => []
  | .broadcast k => s.waiting[k]?.toList.flatMap fun line ↦ topic charset (.alert line)

/-- What is still to be published. -/
def State.pool (charset : Charset) (s : State κ) : List ServerConnection.Message :=
  s.waiting.flatMap fun line ↦ topic charset (.alert line)

/-- What the check of a step raises. -/
def raises (charset : Charset) (s : State κ) : Action κ → List ServerConnection.Message
  | .server event => raised charset s.shared event
  | .broadcast _ => []

/-- The checks are those of draws by stored sensors. -/
def GenuineStep (drawOf : Event κ → Option Draw) (s : State κ) : Action κ → Prop
  | .server event => Genuine drawOf s.shared event
  | .broadcast _ => True

/-- The loud draw that a step checks. -/
def loudDrawsOf (drawOf : Event κ → Option Draw) : Action κ → List Draw
  | .server event => loudDraws drawOf event
  | .broadcast _ => []

theorem pool_step (charset : Charset) {s s' : State κ} {action : Action κ}
    (hstep : (broadcasting κ).step s action = some s') :
    (s.pool charset ++ raises charset s action).Perm
      (topics charset s action ++ s'.pool charset) := by
  cases action with
  | server event =>
    obtain ⟨shared, -, rfl⟩ := Option.map_eq_some_iff.mp hstep
    rw [State.pool, State.pool, raises, raised, topics, List.nil_append, List.flatMap_append]
  | broadcast k =>
    obtain ⟨line, hline, rfl⟩ := Option.map_eq_some_iff.mp hstep
    obtain ⟨hk, rfl⟩ := List.getElem?_eq_some_iff.mp hline
    have hsplit : s.waiting.Perm (s.waiting[k] :: s.waiting.eraseIdx k) :=
      (List.getElem_cons_eraseIdx_perm hk).symm
    rw [State.pool, State.pool, raises, topics, hline, List.append_nil]
    simpa using hsplit.flatMap_right fun line ↦ topic charset (.alert line)

theorem reachable_step {now : ℤ} {s s' : State κ} {action : Action κ}
    (hreach : (server ℚ κ).Reachable (serverInit now) s.shared)
    (hstep : (broadcasting κ).step s action = some s') :
    (server ℚ κ).Reachable (serverInit now) s'.shared := by
  cases action with
  | server event =>
    obtain ⟨shared, hshared, rfl⟩ := Option.map_eq_some_iff.mp hstep
    exact hreach.step hshared
  | broadcast k =>
    obtain ⟨line, -, rfl⟩ := Option.map_eq_some_iff.mp hstep
    exact hreach

/-- In a genuine run, the loud draws are what is raised. -/
theorem outputs_raises (charset : Charset) {now : ℤ} {t : State κ} {actions : List (Action κ)}
    {drawOf : Event κ → Option Draw}
    (hmeets : (broadcasting κ).Meets (GenuineStep drawOf) (init now) actions)
    (hrun : (broadcasting κ).run (init now) actions = some t) :
    (broadcasting κ).outputs (raises charset) (init now) actions =
      (actions.flatMap (loudDrawsOf drawOf)).map Draw.published := by
  have hshows (s : State κ) (action : Action κ) (s' : State κ)
      (hreach : (server ℚ κ).Reachable (serverInit now) s.shared)
      (hgenuine : GenuineStep drawOf s action) (_ : (broadcasting κ).step s action = some s') :
      raises charset s action = (loudDrawsOf drawOf action).map Draw.published := by
    cases action with
    | server event => exact raised_eq charset hreach hgenuine
    | broadcast k => rfl
  rw [List.map_flatMap]
  exact Labelled.outputs_eq_flatMap _ _ (fun s action s' ↦ reachable_step) hshows
    (Labelled.Reachable.refl _ _) hmeets hrun

/-! ## The feed -/

/-- The page shows the lines of loud draws as their alarms, each with the time at which it comes. -/
theorem run_published (lower : RenderSensors.LowerCase) {shown : List (JsString × Draw)}
    (hloud : ∀ draw ∈ shown.map Prod.snd, draw.isLoud = true) (page : Page) :
    (browser lower).run page (shown.map fun item ↦ .message item.1 item.2.published) =
      some ((shown.map fun item ↦ item.2.alarm item.1).foldl withAlarm page) := by
  induction shown generalizing page with
  | nil => rfl
  | cons item shown ih =>
    rw [List.map_cons, List.forall_mem_cons] at hloud
    rw [List.map_cons, List.map_cons, List.foldl_cons, ← alertElement_line hloud.1]
    exact ih hloud.2 _

theorem isLoud_of_mem_flatMap {drawOf : Event κ → Option Draw} {actions : List (Action κ)}
    {draw : Draw} (h : draw ∈ actions.flatMap (loudDrawsOf drawOf)) : draw.isLoud = true := by
  obtain ⟨action, -, hdraw⟩ := List.mem_flatMap.mp h
  cases action with
  | server event => exact (Option.filter_eq_some_iff.mp (Option.mem_toList.mp hdraw)).2
  | broadcast k => cases hdraw

/-- In every run in which the measurements that are checked are those of draws by stored sensors,
the messages of the loud draws are published, each once and in some order, and nothing else, up to
those whose handlers have not broadcast yet. In whatever order any of them come to a page, it
appends the alarms of these draws to its feed. -/
theorem feed_of_run (charset : Charset) (lower : RenderSensors.LowerCase) {now : ℤ} {t : State κ}
    {actions : List (Action κ)} {drawOf : Event κ → Option Draw}
    (hmeets : (broadcasting κ).Meets (GenuineStep drawOf) (init now) actions)
    (hrun : (broadcasting κ).run (init now) actions = some t) (page : Page) :
    ((broadcasting κ).outputs (topics charset) (init now) actions ++ t.pool charset).Perm
        ((actions.flatMap (loudDrawsOf drawOf)).map Draw.published) ∧
      ∀ shown : List (JsString × Draw),
        (shown.map Prod.snd).Subperm (actions.flatMap (loudDrawsOf drawOf)) →
        (browser lower).run page (shown.map fun item ↦ .message item.1 item.2.published) =
          some ((shown.map fun item ↦ item.2.alarm item.1).foldl withAlarm page) := by
  constructor
  · rw [← outputs_raises charset hmeets hrun]
    exact (Labelled.pool_of_run (State.pool charset) (fun s action s' ↦ pool_step charset)
      hrun).symm
  · exact fun shown hpart ↦
      run_published lower (fun draw hdraw ↦ isLoud_of_mem_flatMap (hpart.subset hdraw)) page

/-! ## A critical temperature -/

def lowestDraw : Draw where
  name := "s1".toList
  type := .temperature
  rng := Sensors.SensorBase.lowest
  timestamp := 0
  visible := visibleText_of_all (by decide) (by decide)
  noComma := by decide

/-- A registration, the second half of a measurement, and a whole one, whose handler broadcasts
first. -/
def lowestActions : List (Action ℕ) :=
  [.server (.request sensorEnv ⟨4, 0⟩ registerChunk),
    .server (.check sensorEnv Sensors.SensorBase.generatedChunk ⟨0, by decide⟩),
    .server (.request sensorEnv ⟨5, 0⟩ Sensors.SensorBase.generatedChunk), .broadcast 1]

/-- The client 5 measures, and so does every check. -/
def drawOfClient : Event ℕ → Option Draw
  | .request _ client _ => if client.fd = 5 then some lowestDraw else none
  | .check .. => some lowestDraw
  | _ => none

instance (draw : Draw) (s : ServerState ℚ κ) (pointer : Fin maxSensors) :
    Decidable (Stored draw s pointer) :=
  decidable_of_iff
    (findSensor s.sensors draw.sensorId = some pointer ∧
      typeAt s.sensors pointer = .lit draw.type.name)
    ⟨fun h ↦ ⟨h.1, h.2⟩, fun h ↦ ⟨h.found, h.typed⟩⟩

instance (drawOf : Event κ → Option Draw) (s : ServerState ℚ κ) (event : Event κ) :
    Decidable (Genuine drawOf s event) := by
  unfold Genuine
  split <;> infer_instance

instance (drawOf : Event κ → Option Draw) (s : State κ) (action : Action κ) :
    Decidable (GenuineStep drawOf s action) := by
  unfold GenuineStep
  split <;> infer_instance

/-- Samples at the lower end of every range make a critical temperature. -/
theorem feed_of_run_lowest :
    lowestActions.flatMap (loudDrawsOf drawOfClient) = [lowestDraw, lowestDraw] ∧
      ∃ t, (broadcasting ℕ).run (init 0) lowestActions = some t ∧
        (((broadcasting ℕ).outputs (topics Charset.usAscii) (init 0) lowestActions ++
            t.pool Charset.usAscii).Perm
          ((lowestActions.flatMap (loudDrawsOf drawOfClient)).map Draw.published) ∧
        ∀ shown : List (JsString × Draw),
          (shown.map Prod.snd).Subperm (lowestActions.flatMap (loudDrawsOf drawOfClient)) →
          (browser RenderSensors.asciiLowerCase).run (Browser.initialPage true)
              (shown.map fun item ↦ .message item.1 item.2.published) =
            some ((shown.map fun item ↦ item.2.alarm item.1).foldl withAlarm
              (Browser.initialPage true))) ∧
        (lowestDraw.alarm "8:00".toList).textContent =
          "[8:00] [CRITICAL] Sensor s1 (temperature) | Valor: 51.00 C".toList := by
  obtain ⟨t, hrun⟩ : ∃ t, (broadcasting ℕ).run (init 0) lowestActions = some t :=
    Option.isSome_iff_exists.mp (by decide +kernel)
  have hgenuine : (broadcasting ℕ).Meets (GenuineStep drawOfClient) (init 0) lowestActions := by
    decide +kernel
  have hloud : lowestDraw.isLoud = true := by decide +kernel
  have hdraws : lowestActions.flatMap (loudDrawsOf drawOfClient) = [lowestDraw, lowestDraw] := by
    simp [lowestActions, loudDrawsOf, loudDraws, drawOfClient, Option.filter_some, hloud]
  exact ⟨hdraws, t, hrun, feed_of_run Charset.usAscii RenderSensors.asciiLowerCase
    hgenuine hrun _, by decide +kernel⟩

end IotMonitoring.Operator.Alarms
