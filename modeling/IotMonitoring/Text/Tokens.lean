import IotMonitoring.Text.CString

/-!
# Words of a text and the in-place tokenizer

The words of a text are its maximal runs without a delimiter. `strtok` finds them one call at a
time: it writes a NUL over the delimiter behind the token and remembers the position after it. The
results below say that a sequence of calls on one buffer returns the words in order, and that each
token still reads as its word after all later calls.
-/

namespace IotMonitoring.Text

section Words

variable (delim : UInt8 → Bool)

/-- Maximal runs of bytes that are no delimiters. -/
def words (text : Bytes) : List Bytes := (text.splitOnP delim).filter (· ≠ [])

variable {delim}

theorem words_nil : words delim [] = [] := rfl

theorem words_cons_of_delim {b : UInt8} (hb : delim b) (text : Bytes) :
    words delim (b :: text) = words delim text := by
  simp [words, List.splitOnP_cons_eq_if_modifyHead, hb]

/-- Leading delimiters do not matter. -/
theorem words_append_of_delim {skip : Bytes} (hskip : ∀ b ∈ skip, delim b) (text : Bytes) :
    words delim (skip ++ text) = words delim text := by
  induction skip with
  | nil => rfl
  | cons b skip ih =>
    rw [List.cons_append, words_cons_of_delim (hskip b List.mem_cons_self),
      ih fun c hc ↦ hskip c (List.mem_cons_of_mem b hc)]

/-- Words consist of the bytes that are no delimiters. -/
theorem flatten_words (text : Bytes) : (words delim text).flatten = text.filter (! delim ·) := by
  have hsplit : (text.splitOnP delim).flatten = text.filter (! delim ·) := by
    induction text with
    | nil => rfl
    | cons b text ih =>
      rw [List.splitOnP_cons_eq_if_modifyHead]
      by_cases hb : delim b
      · simp [hb, ih]
      · obtain ⟨run, rest, hsplit⟩ := List.exists_cons_of_ne_nil (List.splitOnP_ne_nil delim text)
        simp [hb, ← ih, hsplit]
  rw [words, ← hsplit]
  exact List.flatten_filter_ne_nil

theorem words_eq_nil_iff {text : Bytes} : words delim text = [] ↔ ∀ b ∈ text, delim b := by
  constructor
  · intro h
    have hflat : (words delim text).flatten = text.filter (! delim ·) := flatten_words text
    rw [h, List.flatten_nil, eq_comm, List.filter_eq_nil_iff] at hflat
    simpa using hflat
  · intro h
    simpa [words_nil] using words_append_of_delim h []

/-- A run that is ended by a delimiter is the first word. -/
theorem words_run_cons {word : Bytes} (hne : word ≠ []) (hword : ∀ b ∈ word, delim b = false)
    {d : UInt8} (hd : delim d) (rest : Bytes) :
    words delim (word ++ d :: rest) = word :: words delim rest := by
  simp [words, List.splitOnP_append_cons_of_forall_mem hword d hd, hne]

/-- A run that ends the text is the only word. -/
theorem words_run {word : Bytes} (hne : word ≠ []) (hword : ∀ b ∈ word, delim b = false) :
    words delim word = [word] := by
  simp [words, List.splitOnP_eq_singleton hword, hne]

/-- Words with one delimiter between them are the words of the joined text. -/
theorem words_intercalate {d : UInt8} (hd : delim d) {parts : List Bytes}
    (hparts : ∀ part ∈ parts, part ≠ [] ∧ ∀ b ∈ part, delim b = false) :
    words delim ([d].intercalate parts) = parts := by
  induction parts with
  | nil => rfl
  | cons part rest ih =>
    rw [List.forall_mem_cons] at hparts
    obtain ⟨⟨hne, hpart⟩, hrest⟩ := hparts
    cases rest with
    | nil => simpa using words_run hne hpart
    | cons next rest =>
      rw [List.intercalate_cons_cons, List.append_assoc, List.singleton_append,
        words_run_cons hne hpart hd, ih hrest]

/-- A text is all delimiters, or starts with delimiters and a word that is the whole rest or is
followed by a delimiter. -/
theorem text_cases (delim : UInt8 → Bool) (text : Bytes) :
    (∀ b ∈ text, delim b) ∨ ∃ skip word tail, text = skip ++ word ++ tail ∧
      (∀ b ∈ skip, delim b) ∧ word ≠ [] ∧ (∀ b ∈ word, delim b = false) ∧
      (tail = [] ∨ ∃ d rest, tail = d :: rest ∧ delim d) := by
  have hskip : ∀ b ∈ text.takeWhile delim, delim b := fun b hb ↦ List.mem_takeWhile_imp hb
  cases hrest : text.dropWhile delim with
  | nil =>
    left
    have htext : text.takeWhile delim = text := by
      have happend : text.takeWhile delim ++ text.dropWhile delim = text :=
        List.takeWhile_append_dropWhile
      rwa [hrest, List.append_nil] at happend
    exact htext ▸ hskip
  | cons b rest =>
    right
    have hb : delim b = false := by
      have hhead := List.head?_dropWhile_not delim text
      simpa [hrest] using hhead
    refine ⟨text.takeWhile delim, (b :: rest).takeWhile (! delim ·),
      (b :: rest).dropWhile (! delim ·), ?_, hskip, ?_, ?_, ?_⟩
    · rw [List.append_assoc, List.takeWhile_append_dropWhile, ← hrest,
        List.takeWhile_append_dropWhile]
    · simp [hb]
    · intro c hc
      simpa using List.mem_takeWhile_imp hc
    · cases htail : (b :: rest).dropWhile (! delim ·) with
      | nil => exact .inl rfl
      | cons d tail =>
        have hhead := List.head?_dropWhile_not (! delim ·) (b :: rest)
        rw [htail] at hhead
        exact .inr ⟨d, tail, rfl, by simpa using hhead⟩

/-- Skipped delimiters and a word, in front of any text. -/
theorem takeWhile_of_split {skip run : Bytes} (hskip : ∀ b ∈ skip, delim b) (hne : run ≠ [])
    (hrun : ∀ b ∈ run, delim b = false) (tail : Bytes) :
    (skip ++ (run ++ tail)).takeWhile delim = skip ∧
      (skip ++ (run ++ tail)).dropWhile delim = run ++ tail := by
  obtain ⟨b, run, rfl⟩ := List.exists_cons_of_ne_nil hne
  have hb : ¬ delim b := by simp [hrun b List.mem_cons_self]
  constructor
  · rw [List.takeWhile_append_of_pos hskip, List.cons_append, List.takeWhile_cons_of_neg hb,
      List.append_nil]
  · rw [List.dropWhile_append_of_pos hskip, List.cons_append, List.dropWhile_cons_of_neg hb]

/-- A text up to the end of its first word. -/
def leadingWord (delim : UInt8 → Bool) (text : Bytes) : Bytes :=
  text.takeWhile delim ++ (text.dropWhile delim).takeWhile (! delim ·)

/-- Delimiters followed by other bytes. -/
def IsLeadingWord (delim : UInt8 → Bool) (text : Bytes) : Prop :=
  ∃ skip run, text = skip ++ run ∧ (∀ b ∈ skip, delim b) ∧ ∀ b ∈ run, delim b = false

theorem isLeadingWord_leadingWord (text : Bytes) :
    leadingWord delim text <+: text ∧ IsLeadingWord delim (leadingWord delim text) := by
  refine ⟨?_, text.takeWhile delim, (text.dropWhile delim).takeWhile (! delim ·), rfl,
    fun b hb ↦ List.mem_takeWhile_imp hb, fun b hb ↦ by simpa using List.mem_takeWhile_imp hb⟩
  have hrest : (text.dropWhile delim).takeWhile (! delim ·) <+: text.dropWhile delim :=
    List.takeWhile_prefix _
  have hwhole := (List.prefix_append_right_inj (text.takeWhile delim)).mpr hrest
  rwa [List.takeWhile_append_dropWhile] at hwhole

/-- There is no longer one. -/
theorem IsLeadingWord.le {text part : Bytes} (hpart : part <+: text)
    (h : IsLeadingWord delim part) : part <+: leadingWord delim text := by
  obtain ⟨skip, run, rfl, hskip, hrun⟩ := h
  obtain ⟨tail, rfl⟩ := hpart
  rw [List.append_assoc]
  by_cases hne : run = []
  · subst hne
    rw [List.append_nil, leadingWord, List.nil_append, List.takeWhile_append_of_pos hskip,
      List.append_assoc]
    exact List.prefix_append _ _
  · obtain ⟨htake, hdrop⟩ := takeWhile_of_split hskip hne hrun tail
    rw [leadingWord, htake, hdrop, List.takeWhile_append_of_pos (by simpa using hrun),
      ← List.append_assoc]
    exact List.prefix_append _ _

theorem leadingWord_of_words_nil {text : Bytes} (h : words delim text = []) :
    leadingWord delim text = text := by
  rw [words_eq_nil_iff] at h
  rw [leadingWord, List.takeWhile_eq_self_iff.mpr h, List.dropWhile_eq_nil_iff.mpr h,
    List.takeWhile_nil, List.append_nil]

theorem leadingWord_of_split {skip run tail : Bytes} (hskip : ∀ b ∈ skip, delim b)
    (hne : run ≠ []) (hrun : ∀ b ∈ run, delim b = false)
    (htail : tail = [] ∨ ∃ d rest, tail = d :: rest ∧ delim d) :
    leadingWord delim (skip ++ run ++ tail) = skip ++ run := by
  obtain ⟨htake, hdrop⟩ := takeWhile_of_split hskip hne hrun tail
  rw [List.append_assoc, leadingWord, htake, hdrop,
    List.takeWhile_append_of_pos (by simpa using hrun)]
  obtain rfl | ⟨d, tail, rfl, hd⟩ := htail <;> simp [*]

theorem ne_nil_of_mem_words {text word : Bytes} (h : word ∈ words delim text) : word ≠ [] := by
  simpa using List.of_mem_filter h

/-- A word has bytes of the text only, and no delimiter. -/
theorem mem_text_of_mem_words {text word : Bytes} (h : word ∈ words delim text) :
    ∀ b ∈ word, b ∈ text ∧ delim b = false := by
  intro b hb
  have hflat := List.mem_flatten_of_mem h hb
  rw [flatten_words, List.mem_filter] at hflat
  simpa using hflat

end Words

/-- What one call leaves behind: the start of the token, the buffer and the saved position. -/
structure Strtok where
  token : Option ℕ
  buffer : Bytes
  save : ℕ

/-- One `strtok` call that searches the buffer from a position. -/
def strtok (delim : UInt8 → Bool) (buffer : Bytes) (position : ℕ) : Strtok :=
  let text := (buffer.drop position).takeWhile (· != 0)
  let start := position + (text.takeWhile delim).length
  let token := (text.dropWhile delim).takeWhile (! delim ·)
  let stop := start + token.length
  if token = [] then ⟨none, buffer, start⟩
  else if stop = position + text.length then ⟨some start, buffer, stop⟩
  else ⟨some start, buffer.set stop 0, stop + 1⟩

/-- The string at a position of a buffer. -/
def readAt (buffer : Bytes) (position : ℕ) : CString := CString.read (buffer.drop position)

@[simp]
theorem length_buffer_strtok (delim : UInt8 → Bool) (buffer : Bytes) (position : ℕ) :
    (strtok delim buffer position).buffer.length = buffer.length := by
  simp only [strtok]
  split
  · rfl
  · split
    · rfl
    · rw [List.length_set]

/-- A call writes nothing but a NUL, so what is terminated stays terminated. -/
theorem strtok_nul {buffer : Bytes} {i : ℕ} (h : buffer[i]? = some 0) (delim : UInt8 → Bool)
    (position : ℕ) : (strtok delim buffer position).buffer[i]? = some 0 := by
  simp only [strtok]
  split
  · exact h
  · split
    · exact h
    · rw [List.getElem?_set]
      split
      · rename_i hi
        rw [hi, if_pos (List.getElem?_eq_some_iff.mp h).1]
      · exact h

/-- A string that starts in front of a NUL of the buffer ends there or before. -/
theorem readAt_ends {buffer : Bytes} {position last : ℕ} (hle : position ≤ last)
    (hnul : buffer[last]? = some 0) :
    position + (readAt buffer position).length ≤ last ∧
      buffer[position + (readAt buffer position).length]? = some 0 := by
  obtain ⟨offset, rfl⟩ := Nat.exists_eq_add_of_le hle
  rw [← List.getElem?_drop] at hnul ⊢
  rw [readAt, Nat.add_le_add_iff_left]
  generalize buffer.drop position = rest at hnul
  induction rest generalizing offset with
  | nil => simp at hnul
  | cons b rest ih =>
    by_cases hb : b = 0
    · simp [CString.read, CString.length, hb]
    · cases offset with
      | zero => exact absurd (by simpa using hnul) hb
      | succ offset =>
        have hrest := ih offset (by simp) (by simpa using hnul)
        simpa [CString.read, CString.length, hb] using hrest

/-- A write behind the NUL of a string does not change it. -/
theorem read_set {bytes : Bytes} {i : ℕ} (h : (CString.read bytes).length < i) (b : UInt8) :
    CString.read (bytes.set i b) = CString.read bytes := by
  induction bytes generalizing i with
  | nil => rfl
  | cons a bytes ih =>
    obtain _ | i := i
    · exact absurd h (Nat.not_lt_zero _)
    · by_cases ha : a = 0
      · simp [CString.read, ha]
      · have hrest : (CString.read bytes).length < i := by
          simpa [CString.read, CString.length, ha] using h
        simpa [CString.read, ha] using ih hrest

/-- A call writes behind its position only, so a string that ends there stays as it is. -/
theorem readAt_strtok {buffer : Bytes} {start position : ℕ}
    (h : start + (readAt buffer start).length ≤ position) (delim : UInt8 → Bool) :
    readAt (strtok delim buffer position).buffer start = readAt buffer start := by
  simp only [strtok]
  split
  · rfl
  · rename_i hne
    split
    · rfl
    · have hpos := List.length_pos_iff.mpr hne
      rw [readAt, List.drop_set, if_neg (by omega)]
      apply read_set
      rw [← readAt]
      omega

/-- A string that starts inside another one ends with it. -/
theorem length_readAt_add {buffer : Bytes} {start skipped : ℕ}
    (h : skipped ≤ (readAt buffer start).length) :
    skipped + (readAt buffer (start + skipped)).length = (readAt buffer start).length := by
  rw [readAt, readAt, ← List.drop_drop] at *
  generalize buffer.drop start = rest at h
  induction skipped generalizing rest with
  | zero => simp
  | succ skipped ih =>
    cases rest with
    | nil => simp [CString.read, CString.length] at h
    | cons b rest =>
      by_cases hb : b = 0
      · simp [CString.read, CString.length, hb] at h
      · have hlength : (CString.read (b :: rest)).length = (CString.read rest).length + 1 := by
          simp [CString.read, CString.length, hb]
        rw [hlength] at h ⊢
        have hrest := ih rest (Nat.le_of_succ_le_succ h)
        rw [List.drop_succ_cons]
        omega

/-- The string of a token ends in front of the saved position. -/
theorem token_strtok {delim : UInt8 → Bool} {buffer : Bytes} {position token : ℕ}
    (h : (strtok delim buffer position).token = some token) :
    token + (readAt (strtok delim buffer position).buffer token).length ≤
      (strtok delim buffer position).save := by
  have hlength : (readAt buffer position).length =
      ((buffer.drop position).takeWhile (· != 0)).length := rfl
  simp only [strtok] at h ⊢
  generalize htext : (buffer.drop position).takeWhile (· != 0) = text at *
  have hsplit : (text.takeWhile delim).length + (text.dropWhile delim).length = text.length := by
    rw [← List.length_append, List.takeWhile_append_dropWhile]
  have htoken := (List.takeWhile_prefix (! delim ·) (l := text.dropWhile delim)).length_le
  split at h
  · cases h
  · rename_i hne
    rw [if_neg hne]
    split at h
    · rename_i hend
      obtain rfl := Option.some.inj h
      rw [if_pos hend]
      have hskipped : (text.takeWhile delim).length ≤ (readAt buffer position).length := by omega
      have hread := length_readAt_add hskipped
      dsimp only
      omega
    · rename_i hend
      obtain rfl := Option.some.inj h
      rw [if_neg hend]
      have hroom := (List.takeWhile_prefix (· != 0) (l := buffer.drop position)).length_le
      rw [htext, List.length_drop] at hroom
      refine le_trans (readAt_ends (Nat.le_add_right _ _) ?_).1 (Nat.le_succ _)
      exact List.getElem?_set_self (by omega)

theorem le_save_strtok (delim : UInt8 → Bool) (buffer : Bytes) (position : ℕ) :
    position ≤ (strtok delim buffer position).save := by
  simp only [strtok]
  split
  · exact Nat.le_add_right _ _
  · split <;> dsimp only <;> omega

section Buffer

variable {delim : UInt8 → Bool} {text : Bytes} (before after : Bytes)

theorem takeWhile_text (htext : 0 ∉ text) :
    ((before ++ text ++ 0 :: after).drop before.length).takeWhile (· != 0) = text := by
  rw [List.append_assoc, List.drop_left]
  exact CString.read_append_nul htext after

/-- On a text without words the call finds nothing and stops at the end of the text. -/
theorem strtok_of_words_nil (htext : 0 ∉ text) (hwords : words delim text = []) :
    strtok delim (before ++ text ++ 0 :: after) before.length =
      ⟨none, before ++ text ++ 0 :: after, (before ++ text).length⟩ := by
  rw [words_eq_nil_iff] at hwords
  have htake : text.takeWhile delim = text := List.takeWhile_eq_self_iff.mpr hwords
  have hdrop : text.dropWhile delim = [] := List.dropWhile_eq_nil_iff.mpr hwords
  simp only [strtok, takeWhile_text before after htext, htake, hdrop, List.takeWhile_nil, if_true,
    List.length_append]

/-- One call on a text that is split into the delimiters it skips, the word and the rest. -/
theorem strtok_of_split {skip run tail : Bytes} (htext : 0 ∉ skip ++ run ++ tail)
    (hskip : ∀ b ∈ skip, delim b) (hne : run ≠ []) (hrun : ∀ b ∈ run, delim b = false)
    (htail : tail = [] ∨ ∃ d rest, tail = d :: rest ∧ delim d) :
    strtok delim (before ++ (skip ++ run ++ tail) ++ 0 :: after) before.length =
      if tail = [] then
        ⟨some (before.length + skip.length), before ++ (skip ++ run ++ tail) ++ 0 :: after,
          before.length + skip.length + run.length⟩
      else
        ⟨some (before.length + skip.length),
          (before ++ (skip ++ run ++ tail) ++ 0 :: after).set
            (before.length + skip.length + run.length) 0,
          before.length + skip.length + run.length + 1⟩ := by
  obtain ⟨hskipTake, hskipDrop⟩ := takeWhile_of_split hskip hne hrun tail
  have hrunTake : (run ++ tail).takeWhile (! delim ·) = run := by
    rw [List.takeWhile_append_of_pos (by simpa using hrun)]
    obtain rfl | ⟨d, tail, rfl, hd⟩ := htail <;> simp [*]
  simp only [strtok, takeWhile_text before after htext]
  rw [List.append_assoc skip, hskipTake, hskipDrop, hrunTake, if_neg hne]
  by_cases htail : tail = []
  · simp [htail, Nat.add_assoc]
  · have hlength : tail.length ≠ 0 := by simpa using htail
    rw [if_neg (by simp; omega), if_neg htail]

/-- On a text with words the call returns the first one and leaves a text with the others. The
bytes up to the saved position are the skipped delimiters, the word and, unless the word ends the
text, the NUL written behind it. -/
theorem strtok_of_words_cons (htext : 0 ∉ text) {word : Bytes} {others : List Bytes}
    (hwords : words delim text = word :: others) :
    ∃ skip sep rest, leadingWord delim text = skip ++ word ∧ words delim rest = others ∧
      0 ∉ rest ∧ 0 ∉ word ∧ (sep = [0] ∨ sep = [] ∧ rest = []) ∧
      strtok delim (before ++ text ++ 0 :: after) before.length =
        ⟨some (before.length + skip.length),
          before ++ (skip ++ word ++ sep) ++ rest ++ 0 :: after,
          (before ++ (skip ++ word ++ sep)).length⟩ := by
  obtain hall | ⟨skip, run, tail, rfl, hskip, hne, hrun, htail⟩ := text_cases delim text
  · simp [words_eq_nil_iff.mpr hall] at hwords
  have hrunNul : 0 ∉ run := fun h ↦ htext (by simp [h])
  have hcall := strtok_of_split before after htext hskip hne hrun htail
  rw [List.append_assoc, words_append_of_delim hskip] at hwords
  obtain rfl | ⟨d, tail, rfl, hd⟩ := htail
  · rw [List.append_nil, words_run hne hrun, List.cons.injEq] at hwords
    obtain ⟨rfl, rfl⟩ := hwords
    refine ⟨skip, [], [], leadingWord_of_split hskip hne hrun (.inl rfl), rfl, List.not_mem_nil,
      hrunNul, .inr ⟨rfl, rfl⟩, ?_⟩
    rw [hcall, if_pos rfl]
    simp [Nat.add_assoc]
  · rw [words_run_cons hne hrun hd, List.cons.injEq] at hwords
    obtain ⟨rfl, rfl⟩ := hwords
    have htailNul : 0 ∉ tail := fun h ↦ htext (by simp [h])
    refine ⟨skip, [0], tail, leadingWord_of_split hskip hne hrun (.inr ⟨d, tail, rfl, hd⟩), rfl,
      htailNul, hrunNul, .inl rfl, ?_⟩
    have hset : (before ++ (skip ++ run ++ d :: tail) ++ 0 :: after).set
        (before.length + skip.length + run.length) 0 =
          before ++ (skip ++ run ++ [0]) ++ tail ++ 0 :: after := by
      have hsplit : before ++ (skip ++ run ++ d :: tail) ++ 0 :: after =
          (before ++ skip ++ run) ++ d :: (tail ++ 0 :: after) := by simp
      have hlength : before.length + skip.length + run.length =
          (before ++ skip ++ run).length := by simp [Nat.add_assoc]
      rw [hsplit, hlength, List.set_append_right _ _ le_rfl]
      simp
    rw [hcall, if_neg (by simp), hset]
    simp [Nat.add_assoc]

/-- A token reads as its word as long as a NUL follows it. -/
theorem readAt_word {skip word sep tail : Bytes} (hword : 0 ∉ word)
    (hnul : (sep ++ tail).head? = some 0) :
    (readAt (before ++ (skip ++ word ++ sep) ++ tail) (before.length + skip.length)).bytes =
      word := by
  have hsplit : before ++ (skip ++ word ++ sep) ++ tail =
      (before ++ skip) ++ (word ++ 0 :: (sep ++ tail).tail) := by
    rw [← List.eq_cons_of_mem_head? hnul]
    simp
  rw [readAt, hsplit, ← List.length_append, List.drop_left]
  exact CString.read_append_nul hword _

end Buffer

end IotMonitoring.Text
