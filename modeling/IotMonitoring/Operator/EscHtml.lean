import IotMonitoring.Operator.RenderSensors
import IotMonitoring.Text.Escaping

/-!
# Escaping the fields of a row

`escHtml` makes four passes over a field, the one for the ampersand first. No later pass replaces
what an earlier one has written, so the passes escape the field character by character, and a
reader who knows the four entities gets it back. The rows of a table therefore have the same tags
whatever ids, values and units the sensors have, and what they show can be told from them.

A JavaScript string is a sequence of UTF-16 code units, and the patterns in `escHtml` match single
ones. A sequence with half of a surrogate pair in it is no text; the passes are given for these as
well, and agree with those over characters where there is a text.
-/

namespace IotMonitoring.Operator.EscHtml

open Text ParseSensors RenderSensors

/-! ## Entities -/

/-- The characters that are replaced, with their entities. -/
def entities : List (Char × String) :=
  [('&', "&amp;"), ('<', "&lt;"), ('>', "&gt;"), ('"', "&quot;")]

section Letters

variable {α : Type*} (letter : Char → α)

/-- A string literal in the letters of an alphabet. -/
def spell (text : String) : List α := text.toList.map letter

def entityTable : List (α × List α) :=
  entities.map fun entry ↦ (letter entry.1, spell letter entry.2)

theorem map_fst_entityTable :
    (entityTable letter).map Prod.fst = (entities.map Prod.fst).map letter := by
  rw [entityTable, List.map_map, List.map_map]
  rfl

variable [DecidableEq α]

/-- The four entities are decoded at the same time, from left to right. -/
def decodeEntities (text : List α) : List α := readWords (entityTable letter) 0 text

/-- What stands for a single letter. -/
def escapeLetter (c : α) : List α :=
  if c = letter '&' then spell letter "&amp;"
  else if c = letter '<' then spell letter "&lt;"
  else if c = letter '>' then spell letter "&gt;"
  else if c = letter '"' then spell letter "&quot;"
  else [c]

/-- A safe and lossless encoder of the strings over an alphabet. -/
structure SafeLossless (encode : List α → List α) : Prop where
  noMarkup : ∀ s, letter '<' ∉ encode s ∧ letter '>' ∉ encode s ∧ letter '"' ∉ encode s
  entity : ∀ s front rest, encode s = front ++ letter '&' :: rest →
    ∃ entry ∈ entities, spell letter entry.2 <+: letter '&' :: rest
  lossless : ∀ s, decodeEntities letter (encode s) = s
  append : ∀ s t, encode (s ++ t) = encode s ++ encode t
  onePass : ∀ s, encode s = s.flatMap (escapeLetter letter)

theorem replacement_entityTable : replacement (entityTable letter) = escapeLetter letter := by
  funext c
  rw [entityTable, entities, List.map_cons, List.map_cons, List.map_cons, List.map_cons,
    List.map_nil, replacement_cons, replacement_cons, replacement_cons, replacement_cons]
  rfl

/-- The passes over a table of escapes make a safe and lossless encoder. -/
theorem safeLossless_passes {letter : Char → α} (E : Escapes α)
    (hmarker : E.marker = letter '&') (htable : E.table = entityTable letter) :
    SafeLossless letter (passes (entityTable letter)) := by
  have hescape (s : List α) : passes (entityTable letter) s = E.escape s := by
    rw [← htable, E.passes_eq_escape]
  have hothers : E.others.map Prod.fst = ['<', '>', '"'].map letter := by
    have htail := congrArg List.tail (map_fst_entityTable letter)
    rwa [← htable] at htail
  have hnotMem (s : List α) (c : Char) (hc : c ∈ ['<', '>', '"']) :
      letter c ∉ passes (entityTable letter) s := by
    rw [hescape]
    apply E.notMem_escape
    rw [hothers]
    exact List.mem_map_of_mem hc
  constructor
  · intro s
    refine ⟨?_, ?_, ?_⟩
    · exact hnotMem s '<' (by decide)
    · exact hnotMem s '>' (by decide)
    · exact hnotMem s '"' (by decide)
  · intro s front rest h
    rw [hescape, ← hmarker] at h
    obtain ⟨word, hword, hbegins⟩ := E.exists_word_of_escape_eq h
    rw [htable] at hword
    obtain ⟨entry, hentry, rfl⟩ := List.mem_map.mp hword
    exact ⟨entry, hentry, hmarker ▸ hbegins⟩
  · intro s
    rw [hescape, decodeEntities, ← htable]
    exact E.readWords_escape s
  · intro s t
    rw [hescape, hescape, hescape, E.escape_append]
  · intro s
    rw [hescape, Escapes.escape, htable, replacement_entityTable]

end Letters

/-! ## Characters -/

def charEscapes : Escapes Char where
  marker := '&'
  markerWord := "&amp;".toList
  others := (entityTable id).tail
  marker_notMem := by decide
  begins := by decide
  plain := plain_of_all (by decide)
  prefixFree := by decide

theorem escHtml_eq_escape (s : JsString) : escHtml s = charEscapes.escape s :=
  charEscapes.passes_eq_escape s

/-! ## Code units -/

/-- A code unit of a JavaScript string. -/
abbrev CodeUnit := UInt16

/-- The code unit of a character of the basic plane. -/
def codeUnit (c : Char) : CodeUnit := UInt16.ofNat c.toNat

/-- The code units of a character. -/
def codeUnits (c : Char) : List CodeUnit :=
  if c.toNat < 0x10000 then [codeUnit c]
  else
    [UInt16.ofNat (0xD800 + (c.toNat - 0x10000) / 0x400),
      UInt16.ofNat (0xDC00 + (c.toNat - 0x10000) % 0x400)]

def utf16 (text : JsString) : List CodeUnit := text.flatMap codeUnits

/-- `replace` with a global pattern of one character, on code units. -/
def replaceUnits (c : Char) (replacement : String) (text : List CodeUnit) : List CodeUnit :=
  text.flatMap fun d ↦ if d = codeUnit c then spell codeUnit replacement else [d]

/-- `escHtml` on code units. -/
def escHtmlUnits (str : List CodeUnit) : List CodeUnit :=
  replaceUnits '"' "&quot;"
    (replaceUnits '>' "&gt;" (replaceUnits '<' "&lt;" (replaceUnits '&' "&amp;" str)))

def unitEscapes : Escapes CodeUnit where
  marker := codeUnit '&'
  markerWord := spell codeUnit "&amp;"
  others := (entityTable codeUnit).tail
  marker_notMem := by decide
  begins := by decide
  plain := plain_of_all (by decide)
  prefixFree := by decide

/-- The code unit of an ASCII character occurs in that character only; it is no half of a surrogate
pair. -/
theorem eq_of_mem_codeUnits {c d : Char} (hd : d.toNat < 128) (h : codeUnit d ∈ codeUnits c) :
    c = d := by
  have hunit : (codeUnit d).toNat = d.toNat := UInt16.toNat_ofNat_of_lt' (lt_trans hd (by decide))
  have hc : c.toNat < 0x110000 := by
    rcases c.valid with hlow | ⟨-, hhigh⟩
    · exact lt_trans hlow (by omega)
    · exact hhigh
  rw [codeUnits] at h
  split at h
  · rename_i hplane
    have hcode := congrArg UInt16.toNat (List.mem_singleton.mp h)
    rw [hunit, codeUnit, UInt16.toNat_ofNat_of_lt' hplane] at hcode
    exact (Char.toNat_inj.mp hcode).symm
  · have hnot (n : ℕ) (hn : 0xD800 ≤ n) (hsize : n < 0x10000) :
        codeUnit d ≠ UInt16.ofNat n := by
      intro heq
      have hcode := congrArg UInt16.toNat heq
      rw [hunit, UInt16.toNat_ofNat_of_lt' hsize] at hcode
      omega
    rcases List.mem_pair.mp h with heq | heq
    · exact absurd heq (hnot _ (by omega) (by omega))
    · exact absurd heq (hnot _ (by omega) (by omega))

/-- A character outside the table is left alone, and so are its code units. -/
theorem flatMap_replacement_codeUnits (c : Char) :
    (codeUnits c).flatMap (replacement (entityTable codeUnit)) =
      (replacement (entityTable id) c).flatMap codeUnits := by
  by_cases hreserved : c ∈ entities.map Prod.fst
  · have hcases : c = '&' ∨ c = '<' ∨ c = '>' ∨ c = '"' := by simpa [entities] using hreserved
    rcases hcases with rfl | rfl | rfl | rfl
    · rfl
    · rfl
    · rfl
    · rfl
  · have hunits : ∀ u ∈ codeUnits c, u ∉ (entityTable codeUnit).map Prod.fst := by
      intro u hu hmem
      rw [map_fst_entityTable] at hmem
      obtain ⟨d, hd, rfl⟩ := List.mem_map.mp hmem
      have hascii : (entities.map Prod.fst).all fun d ↦ d.toNat < 128 := by decide
      have heq : c = d := eq_of_mem_codeUnits (by simpa using List.all_eq_true.mp hascii d hd) hu
      exact hreserved (heq ▸ hd)
    have hletter : replacement (entityTable id) c = [c] := by
      apply replacement_of_notMem
      rwa [map_fst_entityTable, List.map_id]
    rw [flatMap_replacement_of_notMem hunits, hletter, List.flatMap_singleton]

theorem safeLossless_escHtml : SafeLossless id escHtml :=
  safeLossless_passes charEscapes rfl rfl

theorem safeLossless_escHtmlUnits : SafeLossless codeUnit escHtmlUnits :=
  safeLossless_passes unitEscapes rfl rfl

/-- On text the passes over code units are those over characters. -/
theorem escHtmlUnits_utf16 (s : JsString) : escHtmlUnits (utf16 s) = utf16 (escHtml s) := by
  rw [safeLossless_escHtmlUnits.onePass, safeLossless_escHtml.onePass,
    ← replacement_entityTable, ← replacement_entityTable]
  exact flatMap_replacement_flatMap flatMap_replacement_codeUnits s

/-- `escHtml` is a safe and lossless encoder, on every sequence of code units and on text. -/
theorem escHtml_safe_and_lossless :
    SafeLossless id escHtml ∧ SafeLossless codeUnit escHtmlUnits ∧
      ∀ s, escHtmlUnits (utf16 s) = utf16 (escHtml s) :=
  ⟨safeLossless_escHtml, safeLossless_escHtmlUnits, escHtmlUnits_utf16⟩

/-! ## The rows -/

/-- The characters that make up tags and attributes. -/
def isMarkup (c : Char) : Bool := c = '<' ∨ c = '>' ∨ c = '"'

/-- What a row shows of a sensor. -/
def shown (s : SensorData) : JsString × JsString × JsString := (s.id, s.value, s.unit)

theorem filter_isMarkup_escHtml (s : JsString) : (escHtml s).filter isMarkup = [] := by
  obtain ⟨hlt, hgt, hquot⟩ := safeLossless_escHtml.noMarkup s
  rw [List.filter_eq_nil_iff]
  intro c hc hmarkup
  rcases of_decide_eq_true hmarkup with rfl | rfl | rfl
  · exact hlt hc
  · exact hgt hc
  · exact hquot hc

/-- The fields of a row stand between fixed texts, and after each of them a tag begins. -/
theorem exists_row_eq : ∃ first second third last : JsString, ∀ s,
    row s = first ++ escHtml s.id ++ '<' :: second ++ escHtml s.value ++ '<' :: third ++
      escHtml s.unit ++ '<' :: last :=
  ⟨_, _, _, _, fun _ ↦ rfl⟩

/-- No field of a sensor adds a tag to its row or ends one. -/
theorem filter_isMarkup_row (s s' : SensorData) :
    (row s).filter isMarkup = (row s').filter isMarkup := by
  obtain ⟨first, second, third, last, hrow⟩ := exists_row_eq
  rw [hrow, hrow]
  simp only [List.filter_append, filter_isMarkup_escHtml]

theorem filter_isMarkup_flatMap_row {group group' : List SensorData}
    (hlength : group.length = group'.length) :
    (group.flatMap row).filter isMarkup = (group'.flatMap row).filter isMarkup := by
  induction group generalizing group' with
  | nil => rw [List.eq_nil_of_length_eq_zero hlength.symm]
  | cons s group ih =>
    obtain ⟨s', group', rfl⟩ := List.exists_cons_of_length_eq_add_one hlength.symm
    rw [List.flatMap_cons, List.flatMap_cons, List.filter_append, List.filter_append,
      filter_isMarkup_row s s', ih (Nat.succ.inj hlength)]

/-- The markup of a table depends on the number of its sensors alone. -/
theorem filter_isMarkup_renderGroup {group group' : List SensorData}
    (hlength : group.length = group'.length) :
    (renderGroup group).innerHTML.filter isMarkup =
      (renderGroup group').innerHTML.filter isMarkup := by
  rw [renderGroup, renderGroup, hlength]
  split
  · rfl
  · exact filter_isMarkup_flatMap_row hlength

/-- A field ends where a tag begins. -/
theorem escHtml_append_inj {s s' rest rest' : JsString} :
    escHtml s ++ '<' :: rest = escHtml s' ++ '<' :: rest' ↔ s = s' ∧ rest = rest' := by
  rw [escHtml_eq_escape, escHtml_eq_escape]
  exact charEscapes.escape_append_inj List.mem_cons_self

/-- Rows are told apart by what they show, whatever follows them. -/
theorem row_append_inj {s s' : SensorData} {rest rest' : JsString} :
    row s ++ rest = row s' ++ rest' ↔ shown s = shown s' ∧ rest = rest' := by
  obtain ⟨first, second, third, last, hrow⟩ := exists_row_eq
  simp only [hrow, List.append_assoc, List.cons_append, List.append_cancel_left_eq,
    escHtml_append_inj, shown, Prod.mk.injEq, and_assoc]

theorem flatMap_row_inj {group group' : List SensorData} (hlength : group.length = group'.length) :
    group.flatMap row = group'.flatMap row ↔ group.map shown = group'.map shown := by
  induction group generalizing group' with
  | nil =>
    obtain rfl := List.eq_nil_of_length_eq_zero hlength.symm
    exact iff_of_true rfl rfl
  | cons s group ih =>
    obtain ⟨s', group', rfl⟩ := List.exists_cons_of_length_eq_add_one hlength.symm
    rw [List.flatMap_cons, List.flatMap_cons, row_append_inj, ih (Nat.succ.inj hlength),
      List.map_cons, List.map_cons, List.cons_eq_cons]

/-- Two tables are the same exactly when they show the same fields in the same order. -/
theorem renderGroup_inj {group group' : List SensorData} :
    renderGroup group = renderGroup group' ↔ group.map shown = group'.map shown := by
  constructor
  · intro h
    have hlength : group.length = group'.length := congrArg Table.count h
    by_cases hempty : group.length = 0
    · have hempty' : group'.length = 0 := hlength ▸ hempty
      rw [List.eq_nil_of_length_eq_zero hempty, List.eq_nil_of_length_eq_zero hempty']
    · have hrows := congrArg Table.innerHTML h
      rw [renderGroup, renderGroup, if_neg hempty, if_neg (hlength ▸ hempty)] at hrows
      exact (flatMap_row_inj hlength).mp hrows
  · intro h
    have hlength : group.length = group'.length := by
      simpa only [List.length_map] using congrArg List.length h
    rw [renderGroup, renderGroup, (flatMap_row_inj hlength).mpr h, hlength]

/-- The tables of the page that a sensor list leaves. -/
theorem renderSensors_eq_some {lower : LowerCase} {sensors : Option (List SensorData)} {page : Page}
    (h : renderSensors lower sensors = some page) :
    page.temperature = renderGroup (ofType lower "temperature" (sensors.getD [])) ∧
      page.energy = renderGroup (ofType lower "energy" (sensors.getD [])) ∧
      page.vibration = renderGroup (ofType lower "vibration" (sensors.getD [])) := by
  rw [renderSensors, groupAll_eq] at h
  split at h
  · obtain rfl := Option.some.inj h
    exact ⟨rfl, rfl, rfl⟩
  · cases h

/-- Sensor lists that leave the same page show the same in each of its tables. -/
theorem map_shown_of_renderSensors_eq {lower : LowerCase}
    {sensors sensors' : Option (List SensorData)} {page : Page}
    (h : renderSensors lower sensors = some page) (h' : renderSensors lower sensors' = some page)
    {type : String} (htype : type ∈ ["temperature", "energy", "vibration"]) :
    (ofType lower type (sensors.getD [])).map shown =
      (ofType lower type (sensors'.getD [])).map shown := by
  obtain ⟨htemperature, henergy, hvibration⟩ := renderSensors_eq_some h
  obtain ⟨htemperature', henergy', hvibration'⟩ := renderSensors_eq_some h'
  have hcases : type = "temperature" ∨ type = "energy" ∨ type = "vibration" := by
    simpa only [List.mem_cons, List.not_mem_nil, or_false] using htype
  apply renderGroup_inj.mp
  rcases hcases with rfl | rfl | rfl
  · exact htemperature.symm.trans htemperature'
  · exact henergy.symm.trans henergy'
  · exact hvibration.symm.trans hvibration'

end IotMonitoring.Operator.EscHtml
