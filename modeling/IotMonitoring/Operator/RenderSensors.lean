import IotMonitoring.Operator.ParseSensors

/-!
# The sensor tables of the dashboard

`renderSensors` sorts the sensors into the three arrays of an object literal and then writes each
array into its table. The sensor's own type, in lower case, is the key of the lookup, and a lookup
on an object literal also finds the members of `Object.prototype`. These are truthy and have no
`push`, so one sensor with the name of such a member for its type stops the whole rendering.
-/

namespace IotMonitoring.Operator.RenderSensors

open ParseSensors

/-- A JavaScript string. -/
abbrev JsString := List Char

/-- `toLowerCase`, of which no more is relied on than that it leaves no capital ASCII letter. -/
structure LowerCase where
  toLowerCase : JsString → JsString
  noCapital : ∀ text, ∀ c ∈ toLowerCase text, c.isUpper = false

/-! ## Grouping -/

/-- The object literal `groups`. -/
structure Groups where
  temperature : List SensorData
  energy : List SensorData
  vibration : List SensorData

/-- The names of the members of `Object.prototype`. -/
def objectPrototype : List String :=
  ["constructor", "__defineGetter__", "__defineSetter__", "hasOwnProperty", "__lookupGetter__",
    "__lookupSetter__", "isPrototypeOf", "propertyIsEnumerable", "toString", "valueOf",
    "__proto__", "toLocaleString"]

/-- The loop body for a lower-case type: nothing where `groups[type]` is undefined, `none` where it
is an inherited member, on which the call of `push` throws a `TypeError`. -/
def groupSensor (type : JsString) (s : SensorData) (groups : Groups) : Option Groups :=
  if type = "temperature".toList then
    some { groups with temperature := groups.temperature ++ [s] }
  else if type = "energy".toList then some { groups with energy := groups.energy ++ [s] }
  else if type = "vibration".toList then
    some { groups with vibration := groups.vibration ++ [s] }
  else if type ∈ objectPrototype.map String.toList then none
  else some groups

/-- `(sensors || []).forEach(...)`. -/
def groupAll (lower : LowerCase) : List SensorData → Groups → Option Groups
  | [], groups => some groups
  | s :: rest, groups =>
    (groupSensor (lower.toLowerCase s.type) s groups).bind (groupAll lower rest)

/-! ## Rendering -/

/-- `replace` with a global pattern of one character. -/
def replaceAll (c : Char) (replacement : String) (text : JsString) : JsString :=
  text.flatMap fun d ↦ if d = c then replacement.toList else [d]

def escHtml (str : JsString) : JsString :=
  replaceAll '"' "&quot;"
    (replaceAll '>' "&gt;" (replaceAll '<' "&lt;" (replaceAll '&' "&amp;" str)))

/-- A table: the label with its count and the rows of its body. -/
structure Table where
  count : ℕ
  innerHTML : JsString
deriving DecidableEq

/-- What `renderSensors` writes. -/
structure Page where
  temperature : Table
  energy : Table
  vibration : Table
  sensorCount : ℕ
deriving DecidableEq

/-- The row of a sensor. -/
def row (s : SensorData) : JsString :=
  "\n                <tr>\n                    <td>".toList ++ escHtml s.id ++
    "</td>\n                    <td class=\"value-cell\">".toList ++ escHtml s.value ++
    "</td>\n                    <td class=\"unit-cell\">".toList ++ escHtml s.unit ++
    "</td>\n                </tr>\n            ".toList

/-- The table of a group. -/
def renderGroup (group : List SensorData) : Table where
  count := group.length
  innerHTML :=
    if group.length = 0 then
      "<tr><td colspan=\"3\" class=\"empty-row\">Sin sensores</td></tr>".toList
    else group.flatMap row

/-- `renderSensors` and the page it leaves; no page stands for a `TypeError`, which is thrown before
anything is written. -/
def renderSensors (lower : LowerCase) (sensors : Option (List SensorData)) : Option Page :=
  (groupAll lower (sensors.getD []) ⟨[], [], []⟩).map fun groups ↦
    { temperature := renderGroup groups.temperature
      energy := renderGroup groups.energy
      vibration := renderGroup groups.vibration
      sensorCount := (sensors.getD []).length }

/-! ## What is shown -/

/-- The sensors whose type in lower case is the type of a table, in list order. -/
def ofType (lower : LowerCase) (type : String) (sensors : List SensorData) : List SensorData :=
  sensors.filter fun s ↦ lower.toLowerCase s.type = type.toList

/-- The table shows these sensors, each of them in one row, and their number. -/
def Shows (table : Table) (sensors : List SensorData) : Prop :=
  table.count = sensors.length ∧ (sensors ≠ [] → table.innerHTML = sensors.flatMap row) ∧
    (sensors = [] →
      table.innerHTML = "<tr><td colspan=\"3\" class=\"empty-row\">Sin sensores</td></tr>".toList)

/-- The rendering comes to its end, and all tables and labels are right. -/
def Renders (lower : LowerCase) (sensors : Option (List SensorData)) : Prop :=
  ∃ page, renderSensors lower sensors = some page ∧
    Shows page.temperature (ofType lower "temperature" (sensors.getD [])) ∧
    Shows page.energy (ofType lower "energy" (sensors.getD [])) ∧
    Shows page.vibration (ofType lower "vibration" (sensors.getD [])) ∧
    page.sensorCount = (sensors.getD []).length

theorem shows_renderGroup (group : List SensorData) : Shows (renderGroup group) group := by
  refine ⟨rfl, fun hne ↦ ?_, fun hnil ↦ ?_⟩
  · rw [renderGroup, if_neg (by simpa using hne)]
  · rw [renderGroup, if_pos (by simp [hnil])]

/-- Of the members of `Object.prototype` two have names without capital letters. -/
theorem mem_objectPrototype_iff {type : JsString} (hlower : ∀ c ∈ type, c.isUpper = false) :
    type ∈ objectPrototype.map String.toList ↔
      type = "constructor".toList ∨ type = "__proto__".toList := by
  have hnames : (objectPrototype.map String.toList).all (fun name ↦
      name.any Char.isUpper || decide (name = "constructor".toList ∨ name = "__proto__".toList)) =
        true := by decide
  constructor
  · intro hmem
    have hname := List.all_eq_true.mp hnames type hmem
    have hnone : type.any Char.isUpper = false := by simpa using hlower
    simpa only [hnone, Bool.false_or, decide_eq_true_eq] using hname
  · rintro (rfl | rfl) <;> decide

theorem groupSensor_eq (type : JsString) (s : SensorData) (groups : Groups) :
    groupSensor type s groups =
      if type ∈ objectPrototype.map String.toList then none
      else some
        { temperature := groups.temperature ++ if type = "temperature".toList then [s] else []
          energy := groups.energy ++ if type = "energy".toList then [s] else []
          vibration := groups.vibration ++ if type = "vibration".toList then [s] else [] } := by
  have hown : "temperature".toList ∉ objectPrototype.map String.toList ∧
      "energy".toList ∉ objectPrototype.map String.toList ∧
      "vibration".toList ∉ objectPrototype.map String.toList := by decide
  obtain ⟨htemperature, henergy, hvibration⟩ := hown
  have hte : "temperature".toList ≠ "energy".toList := by decide
  have htv : "temperature".toList ≠ "vibration".toList := by decide
  have hev : "energy".toList ≠ "vibration".toList := by decide
  unfold groupSensor
  split
  · rename_i htype
    rw [htype, if_neg htemperature, if_neg hte, if_neg htv, List.append_nil,
      List.append_nil]
  · split
    · rename_i htype
      rw [htype, if_neg henergy, if_neg hev, List.append_nil, List.append_nil]
    · split
      · rename_i htype
        rw [htype, if_neg hvibration, List.append_nil, List.append_nil]
      · rw [List.append_nil, List.append_nil, List.append_nil]

theorem ofType_cons (lower : LowerCase) (type : String) (s : SensorData) (rest : List SensorData) :
    ofType lower type (s :: rest) =
      (if lower.toLowerCase s.type = type.toList then [s] else []) ++ ofType lower type rest := by
  simp only [ofType, List.filter_cons, decide_eq_true_eq]
  split <;> rfl

/-- The loop ends unless some type is the name of an inherited member; each group has grown by the
sensors of its type. -/
theorem groupAll_eq (lower : LowerCase) (sensors : List SensorData) (groups : Groups) :
    groupAll lower sensors groups =
      if ∀ s ∈ sensors, lower.toLowerCase s.type ∉ objectPrototype.map String.toList then
        some
          { temperature := groups.temperature ++ ofType lower "temperature" sensors
            energy := groups.energy ++ ofType lower "energy" sensors
            vibration := groups.vibration ++ ofType lower "vibration" sensors }
      else none := by
  induction sensors generalizing groups with
  | nil => simp [groupAll, ofType]
  | cons s rest ih =>
    rw [groupAll, groupSensor_eq]
    by_cases hinherited : lower.toLowerCase s.type ∈ objectPrototype.map String.toList
    · rw [if_pos hinherited, Option.bind_none, if_neg]
      exact fun hall ↦ hall s List.mem_cons_self hinherited
    · rw [if_neg hinherited, Option.bind_some, ih]
      simp only [List.forall_mem_cons, hinherited, not_false_eq_true, true_and, ofType_cons,
        List.append_assoc]

/-- `renderSensors` completes with the right tables and labels exactly when no type is, in lower
case, `constructor` or `__proto__`. -/
theorem renders_iff (lower : LowerCase) (sensors : Option (List SensorData)) :
    Renders lower sensors ↔ ∀ s ∈ sensors.getD [],
      lower.toLowerCase s.type ≠ "constructor".toList ∧
        lower.toLowerCase s.type ≠ "__proto__".toList := by
  have hinherited (s : SensorData) :
      lower.toLowerCase s.type ∉ objectPrototype.map String.toList ↔
        lower.toLowerCase s.type ≠ "constructor".toList ∧
          lower.toLowerCase s.type ≠ "__proto__".toList := by
    rw [mem_objectPrototype_iff (lower.noCapital s.type), not_or]
  simp only [← hinherited]
  rw [Renders, renderSensors, groupAll_eq]
  split
  · rename_i hall
    refine iff_of_true ⟨_, rfl, ?_, ?_, ?_, rfl⟩ hall
    · exact shows_renderGroup _
    · exact shows_renderGroup _
    · exact shows_renderGroup _
  · rename_i hsome
    exact iff_of_false (by simp) hsome

/-- Lower case of ASCII text. -/
def asciiLowerCase : LowerCase where
  toLowerCase text := text.map Char.toLower
  noCapital text c hc := by
    obtain ⟨d, -, rfl⟩ := List.mem_map.mp hc
    delta Char.isUpper Char.toLower
    split <;> grind [UInt32.toNat_add, Char.toNat_val]

/-- A sensor that was registered with the type `constructor` keeps the others from being shown. -/
theorem not_renders_of_constructor :
    renderSensors asciiLowerCase (some [
        ⟨"s1".toList, "temperature".toList, "21.50".toList, "C".toList⟩,
        ⟨"s2".toList, "constructor".toList, "0.00".toList, []⟩]) = none ∧
      ¬ Renders asciiLowerCase (some [
        ⟨"s1".toList, "temperature".toList, "21.50".toList, "C".toList⟩,
        ⟨"s2".toList, "constructor".toList, "0.00".toList, []⟩]) := by
  have hthrows : renderSensors asciiLowerCase (some [
      ⟨"s1".toList, "temperature".toList, "21.50".toList, "C".toList⟩,
      ⟨"s2".toList, "constructor".toList, "0.00".toList, []⟩]) = none := by decide
  refine ⟨hthrows, ?_⟩
  rintro ⟨page, hpage, -⟩
  rw [hthrows] at hpage
  cases hpage

end IotMonitoring.Operator.RenderSensors
