import Mathlib.Data.List.Basic
import Mathlib.Tactic.Common

/-!
# Escaping reserved letters

Letters that the surroundings of a text reserve are replaced by words. Every word begins with the
same marker, which is itself reserved, and has no other reserved letter. The replacement can be
done letter by letter, or in one pass over the whole text for each reserved letter; the passes come
to the same as long as none of them replaces a letter that an earlier one has written. A reader
going from left to right recognises every word that was written and nothing else, so that the text
is not changed by being escaped and read back.
-/

namespace IotMonitoring.Text

/-! ## Tables -/

/-- Reserved letters with the words that stand for them, the marker before all others. -/
structure Escapes (α : Type*) where
  marker : α
  markerWord : List α
  others : List (α × List α)
  marker_notMem : marker ∉ others.map Prod.fst
  begins : ∀ entry ∈ (marker, markerWord) :: others, entry.2.head? = some marker
  plain : ∀ entry ∈ (marker, markerWord) :: others, ∀ c ∈ entry.2.tail,
    c ∉ marker :: others.map Prod.fst
  prefixFree : ∀ entry ∈ (marker, markerWord) :: others,
    ∀ other ∈ (marker, markerWord) :: others, entry.2 <+: other.2 → entry = other

namespace Escapes

variable {α : Type*} (E : Escapes α)

def table : List (α × List α) := (E.marker, E.markerWord) :: E.others

theorem reserved_marker : E.marker ∈ E.table.map Prod.fst := List.mem_cons_self

/-- A word is the marker and a body without reserved letters. -/
theorem exists_body {entry : α × List α} (h : entry ∈ E.table) :
    ∃ body, entry.2 = E.marker :: body ∧ ∀ c ∈ body, c ∉ E.table.map Prod.fst := by
  obtain ⟨body, hword⟩ := List.head?_eq_some_iff.mp (E.begins entry h)
  refine ⟨body, hword, fun c hc ↦ E.plain entry h c ?_⟩
  rwa [hword, List.tail_cons]

/-- The marker is the only reserved letter that a word has, and its own pass is the first. -/
theorem ordered : E.table.Pairwise fun entry later ↦ later.1 ∉ entry.2 := by
  have hnotMem : ∀ entry ∈ E.table, ∀ later ∈ E.others, later.1 ∉ entry.2 := by
    intro entry hentry later hlater hmem
    have hreserved : later.1 ∈ E.others.map Prod.fst := List.mem_map_of_mem hlater
    obtain ⟨body, hword, hbody⟩ := E.exists_body hentry
    rw [hword] at hmem
    rcases List.mem_cons.mp hmem with hmarker | hinside
    · exact E.marker_notMem (hmarker ▸ hreserved)
    · exact hbody _ hinside (List.mem_cons_of_mem _ hreserved)
  rw [table, List.pairwise_cons]
  constructor
  · exact hnotMem _ List.mem_cons_self
  · apply List.pairwise_of_forall_mem_list
    intro entry hentry
    exact hnotMem entry (List.mem_cons_of_mem _ hentry)

end Escapes

variable {α β : Type*} [DecidableEq α] [DecidableEq β]

/-- That the bodies of concrete words have no reserved letter can be evaluated. -/
theorem plain_of_all {table : List (α × List α)} {reserved : List α}
    (h : table.all fun entry ↦ entry.2.tail.all fun c ↦ c ∉ reserved) :
    ∀ entry ∈ table, ∀ c ∈ entry.2.tail, c ∉ reserved := by
  intro entry hentry c hc
  have hbody := List.all_eq_true.mp h entry hentry
  exact of_decide_eq_true (List.all_eq_true.mp hbody c hc)

/-! ## Passes -/

/-- One pass over a text: a word in the place of every occurrence of a letter. -/
def substitute (c : α) (word text : List α) : List α :=
  text.flatMap fun d ↦ if d = c then word else [d]

/-- One pass for each entry of a table, in the order of the table. -/
def passes (table : List (α × List α)) (text : List α) : List α :=
  table.foldl (fun text entry ↦ substitute entry.1 entry.2 text) text

/-- What a table has in the place of a letter. -/
def replacement (table : List (α × List α)) (c : α) : List α :=
  match table.find? fun entry ↦ entry.1 = c with
  | some entry => entry.2
  | none => [c]

theorem replacement_cases (table : List (α × List α)) (c : α) :
    (c, replacement table c) ∈ table ∨ c ∉ table.map Prod.fst ∧ replacement table c = [c] := by
  unfold replacement
  split
  · rename_i entry hfind
    have hletter : entry.1 = c := by simpa using List.find?_some hfind
    exact .inl (hletter ▸ List.mem_of_find?_eq_some hfind)
  · rename_i hfind
    refine .inr ⟨fun hmem ↦ ?_, rfl⟩
    obtain ⟨entry, hentry, hletter⟩ := List.mem_map.mp hmem
    exact List.find?_eq_none.mp hfind entry hentry (by simpa using hletter)

theorem replacement_of_notMem {table : List (α × List α)} {c : α} (h : c ∉ table.map Prod.fst) :
    replacement table c = [c] := by
  rcases replacement_cases table c with hentry | ⟨-, hletter⟩
  · exact absurd (List.mem_map_of_mem hentry) h
  · exact hletter

theorem replacement_cons (entry : α × List α) (table : List (α × List α)) (c : α) :
    replacement (entry :: table) c = if c = entry.1 then entry.2 else replacement table c := by
  unfold replacement
  by_cases hletter : c = entry.1
  · rw [List.find?_cons_of_pos (by simpa using hletter.symm), if_pos hletter]
  · rw [List.find?_cons_of_neg (by simpa using Ne.symm hletter), if_neg hletter]

/-- A word without letters of the table is left as it is. -/
theorem flatMap_replacement_of_notMem {table : List (α × List α)} {word : List α}
    (h : ∀ c ∈ word, c ∉ table.map Prod.fst) : word.flatMap (replacement table) = word := by
  have hletters : word.map (replacement table) = word.map fun c ↦ [c] := by
    apply List.map_congr_left
    intro c hc
    exact replacement_of_notMem (h c hc)
  rw [List.flatMap_def, hletters, ← List.flatMap_def, List.flatMap_singleton']

/-- The passes of a table are the replacement letter by letter when no word has a letter that a
later pass replaces. -/
theorem passes_eq_flatMap {table : List (α × List α)}
    (hordered : table.Pairwise fun entry later ↦ later.1 ∉ entry.2) (text : List α) :
    passes table text = text.flatMap (replacement table) := by
  induction table generalizing text with
  | nil => exact (List.flatMap_singleton' text).symm
  | cons entry table ih =>
    obtain ⟨hlater, hrest⟩ := List.pairwise_cons.mp hordered
    have hword : entry.2.flatMap (replacement table) = entry.2 := by
      apply flatMap_replacement_of_notMem
      intro c hc hmem
      obtain ⟨later, hmemLater, rfl⟩ := List.mem_map.mp hmem
      exact hlater later hmemLater hc
    calc
      passes (entry :: table) text = passes table (substitute entry.1 entry.2 text) := rfl
      _ = (substitute entry.1 entry.2 text).flatMap (replacement table) := ih hrest _
      _ = text.flatMap fun c ↦
          (if c = entry.1 then entry.2 else [c]).flatMap (replacement table) :=
        List.flatMap_assoc
      _ = text.flatMap (replacement (entry :: table)) := by
        congr 1
        funext c
        rw [replacement_cons]
        split
        · exact hword
        · exact List.flatMap_singleton _ _

/-- Two tables over two alphabets do the same to a text and to its transcription when they do so to
each letter. -/
theorem flatMap_replacement_flatMap {table : List (α × List α)} {table' : List (β × List β)}
    {transcribe : α → List β}
    (h : ∀ c, (transcribe c).flatMap (replacement table') =
      (replacement table c).flatMap transcribe) (text : List α) :
    (text.flatMap transcribe).flatMap (replacement table') =
      (text.flatMap (replacement table)).flatMap transcribe := by
  rw [List.flatMap_assoc, List.flatMap_assoc]
  congr 1
  funext c
  exact h c

/-! ## Reading back -/

/-- Reading from left to right: a word of the table stands for its letter, and what begins no word
for itself. The number counts the letters that still belong to the word read last. -/
def readWords (table : List (α × List α)) : ℕ → List α → List α
  | _, [] => []
  | skip + 1, _ :: rest => readWords table skip rest
  | 0, d :: rest =>
    match table.find? fun entry ↦ entry.2 <+: d :: rest with
    | some entry => entry.1 :: readWords table (entry.2.length - 1) rest
    | none => d :: readWords table 0 rest

theorem readWords_eq_drop (table : List (α × List α)) (skip : ℕ) (text : List α) :
    readWords table skip text = readWords table 0 (text.drop skip) := by
  induction text generalizing skip with
  | nil => rw [List.drop_nil, readWords, readWords]
  | cons d rest ih =>
    cases skip with
    | zero => rfl
    | succ skip => rw [readWords, ih, List.drop_succ_cons]

namespace Escapes

variable (E : Escapes α)

/-- The escaped text. -/
def escape (text : List α) : List α := text.flatMap (replacement E.table)

theorem escape_cons (c : α) (text : List α) :
    E.escape (c :: text) = replacement E.table c ++ E.escape text := List.flatMap_cons

theorem escape_append (text text' : List α) :
    E.escape (text ++ text') = E.escape text ++ E.escape text' := List.flatMap_append

theorem passes_eq_escape (text : List α) : passes E.table text = E.escape text :=
  passes_eq_flatMap E.ordered text

/-- A letter is escaped by a word, or it is not reserved and stands for itself. -/
theorem replacement_cases (c : α) :
    (∃ body, (c, E.marker :: body) ∈ E.table ∧ replacement E.table c = E.marker :: body ∧
        ∀ d ∈ body, d ∉ E.table.map Prod.fst) ∨
      c ∉ E.table.map Prod.fst ∧ replacement E.table c = [c] := by
  rcases Text.replacement_cases E.table c with hentry | hplain
  · obtain ⟨body, hword, hbody⟩ := E.exists_body hentry
    exact .inl ⟨body, hword ▸ hentry, hword, hbody⟩
  · exact .inr hplain

/-- The marker is the only reserved letter of an escaped text. -/
theorem notMem_escape {c : α} (hc : c ∈ E.others.map Prod.fst) (text : List α) :
    c ∉ E.escape text := by
  have hreserved : c ∈ E.table.map Prod.fst := List.mem_cons_of_mem _ hc
  intro hmem
  obtain ⟨d, -, hmem⟩ := List.mem_flatMap.mp hmem
  rcases E.replacement_cases d with ⟨body, -, hword, hbody⟩ | ⟨hplain, hletter⟩
  · rw [hword] at hmem
    rcases List.mem_cons.mp hmem with hmarker | hinside
    · exact E.marker_notMem (hmarker ▸ hc)
    · exact hbody c hinside hreserved
  · rw [hletter, List.mem_singleton] at hmem
    exact hplain (hmem ▸ hreserved)

/-- Wherever the marker stands in an escaped text, a word begins. -/
theorem exists_word_of_escape_eq {text front rest : List α}
    (h : E.escape text = front ++ E.marker :: rest) :
    ∃ entry ∈ E.table, entry.2 <+: E.marker :: rest := by
  induction text generalizing front with
  | nil => simp [escape] at h
  | cons c text ih =>
    rw [escape_cons] at h
    rcases List.append_eq_append_iff.mp h with ⟨between, -, htext⟩ | ⟨inside, hletter, hmarker⟩
    · exact ih htext
    rcases List.cons_eq_append_iff.mp hmarker with ⟨-, htext⟩ | ⟨inside, rfl, rfl⟩
    · exact ih (by rw [htext, List.nil_append])
    -- The marker belongs to what stands for the letter `c`.
    rcases E.replacement_cases c with ⟨body, hentry, hword, hbody⟩ | ⟨hplain, hsame⟩
    · rw [hword] at hletter
      rcases List.cons_eq_append_iff.mp hletter with ⟨-, hfirst⟩ | ⟨front, -, hlater⟩
      · refine ⟨_, hentry, ?_⟩
        rw [(List.cons.inj hfirst).2]
        exact List.prefix_append (E.marker :: body) _
      · refine absurd E.reserved_marker (hbody _ ?_)
        rw [hlater]
        exact List.mem_append_right front List.mem_cons_self
    · have hmem : E.marker ∈ [c] := by
        rw [← hsame, hletter]
        exact List.mem_append_right front List.mem_cons_self
      rw [List.mem_singleton] at hmem
      exact absurd (hmem ▸ E.reserved_marker) hplain

/-- A word is read as its letter, whatever follows it. -/
theorem readWords_word {entry : α × List α} (h : entry ∈ E.table) (rest : List α) :
    readWords E.table 0 (entry.2 ++ rest) = entry.1 :: readWords E.table 0 rest := by
  obtain ⟨body, hword, -⟩ := E.exists_body h
  have hfind : E.table.find? (fun other ↦ other.2 <+: E.marker :: (body ++ rest)) =
      some entry := by
    have hbegins : entry.2 <+: E.marker :: (body ++ rest) := by
      rw [hword]
      exact List.prefix_append (E.marker :: body) rest
    obtain ⟨other, hother⟩ : ∃ other, E.table.find?
        (fun other ↦ other.2 <+: E.marker :: (body ++ rest)) = some other := by
      rw [← Option.isSome_iff_exists, List.find?_isSome]
      exact ⟨entry, h, by simpa using hbegins⟩
    have hmem := List.mem_of_find?_eq_some hother
    have hbeginsOther : other.2 <+: E.marker :: (body ++ rest) := by
      simpa using List.find?_some hother
    rcases List.prefix_or_prefix_of_prefix hbegins hbeginsOther with hle | hle
    · rw [hother, E.prefixFree entry h other hmem hle]
    · rw [hother, E.prefixFree other hmem entry h hle]
  rw [hword, List.cons_append, readWords]
  simp only [hfind]
  rw [readWords_eq_drop, hword, List.length_cons, Nat.add_sub_cancel, List.drop_left]

/-- A letter that is not reserved begins no word. -/
theorem readWords_plain {c : α} (h : c ∉ E.table.map Prod.fst) (rest : List α) :
    readWords E.table 0 (c :: rest) = c :: readWords E.table 0 rest := by
  have hfind : E.table.find? (fun entry ↦ entry.2 <+: c :: rest) = none := by
    rw [List.find?_eq_none]
    intro entry hentry hbegins
    obtain ⟨body, hword, -⟩ := E.exists_body hentry
    rw [decide_eq_true_eq, hword, List.cons_prefix_cons] at hbegins
    exact h (hbegins.1 ▸ E.reserved_marker)
  rw [readWords]
  simp only [hfind]

/-- An escaped text is read back as it was. -/
theorem readWords_escape (text : List α) : readWords E.table 0 (E.escape text) = text := by
  induction text with
  | nil => rfl
  | cons c text ih =>
    rw [escape_cons]
    rcases E.replacement_cases c with ⟨body, hentry, hword, -⟩ | ⟨hplain, hletter⟩
    · rw [hword, E.readWords_word hentry, ih]
    · rw [hletter, List.singleton_append, E.readWords_plain hplain, ih]

theorem escape_injective : Function.Injective E.escape :=
  Function.LeftInverse.injective E.readWords_escape

/-- An escaped text ends where a reserved letter other than the marker follows. -/
theorem escape_append_inj {c : α} (hc : c ∈ E.others.map Prod.fst)
    {text text' rest rest' : List α} :
    E.escape text ++ c :: rest = E.escape text' ++ c :: rest' ↔ text = text' ∧ rest = rest' := by
  have hcut (text rest : List α) :
      (E.escape text ++ c :: rest).takeWhile (· ≠ c) = E.escape text := by
    have hpass : ∀ d ∈ E.escape text, decide (d ≠ c) = true := by
      intro d hd
      apply decide_eq_true
      rintro rfl
      exact E.notMem_escape hc text hd
    rw [List.takeWhile_append_of_pos hpass, List.takeWhile_cons_of_neg (by simp), List.append_nil]
  constructor
  · intro h
    have hescaped := congrArg (List.takeWhile (· ≠ c)) h
    rw [hcut, hcut] at hescaped
    obtain rfl := E.escape_injective hescaped
    exact ⟨rfl, (List.cons.inj (List.append_cancel_left h)).2⟩
  · rintro ⟨rfl, rfl⟩
    rfl

end Escapes

end IotMonitoring.Text
