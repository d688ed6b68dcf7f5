import IotMonitoring.Sensors.Decoding
import IotMonitoring.Server.AuthClient
import IotMonitoring.Text.Lines
import Mathlib.Data.Bool.AllAny

/-!
# How a sensor reads the replies

`_recv` takes what one call of `recv` returns for a whole reply, decodes it and strips it, and
`_parse_response` splits it into at most three parts. For the replies that the server builds with
`protocol_build_ok` and `protocol_build_error` this is the inverse: the sensor gets back the
details, or the code and the description, as long as the reply has not been cut.
-/

namespace IotMonitoring.Sensors.SensorBase

open Text
open Server.Protocol hiding isSpace
open Server.AuthClient (textOf)
open Auth.AuthServer (PyString decode strip isSpace charOf decode_ascii toNat_charOf)

/-! ## Reading -/

/-- The exceptions of the client, as `run` tells them apart. -/
inductive Failure where
  | network
  | value
deriving DecidableEq

/-- `_recv`, for the bytes that the socket returns. -/
def recv (data : Bytes) : Except Failure PyString :=
  if data = [] then .error .network
  else
    match decode data with
    | some text => .ok (strip text)
    | none => .error .value

/-- `text.split(None, maxsplit)`: runs of white space separate, and what is left after the last
split is one part. -/
def splitSpace : ℕ → PyString → List PyString
  | maxSplit, text =>
    match text.dropWhile isSpace with
    | [] => []
    | c :: rest =>
      match maxSplit with
      | 0 => [c :: rest]
      | maxSplit + 1 => (c :: rest).takeWhile (! isSpace ·) ::
          splitSpace maxSplit ((c :: rest).dropWhile (! isSpace ·))

/-- `str.upper`; `other` gives the upper case of the characters beyond ASCII. -/
def upper (other : Char → PyString) (text : PyString) : PyString :=
  text.flatMap fun c ↦ if c.toNat < 128 then [c.toUpper] else other c

/-- The dictionary that `_parse_response` returns. -/
structure Response where
  status : PyString
  code : Option PyString
  detail : PyString
deriving DecidableEq

/-- `_parse_response`. -/
def parseResponse (other : Char → PyString) (response : PyString) : Response :=
  match splitSpace 2 response with
  | [] => ⟨"UNKNOWN".toList, none, response⟩
  | first :: parts =>
    let status := upper other first
    if status = "OK".toList then ⟨"OK".toList, none, parts.head?.getD []⟩
    else if status = "ERROR".toList then
      ⟨"ERROR".toList, some (parts.head?.getD "500".toList),
        (parts.drop 1).head?.getD "Unknown error".toList⟩
    else ⟨status, none, response⟩

/-- `response.startswith("OK")`. -/
def startsOk (response : PyString) : Bool := "OK".toList.isPrefixOf response

/-! ## Splitting -/

/-- A word that a space follows is split off. -/
theorem splitSpace_succ {word : PyString} (hne : word ≠ []) (hword : ∀ c ∈ word, isSpace c = false)
    (maxSplit : ℕ) (rest : PyString) :
    splitSpace (maxSplit + 1) (word ++ ' ' :: rest) =
      word :: splitSpace maxSplit (' ' :: rest) := by
  obtain ⟨c, others, rfl⟩ := List.exists_cons_of_ne_nil hne
  have hpass : ∀ a ∈ c :: others, (! isSpace a) = true := fun a ha ↦ by simp [hword a ha]
  have hspace : (! isSpace ' ') = false := by decide
  have hdrop : (c :: others ++ ' ' :: rest).dropWhile isSpace = c :: (others ++ ' ' :: rest) := by
    rw [List.cons_append, List.dropWhile_cons_of_neg (by simp [hword c List.mem_cons_self])]
  rw [splitSpace, hdrop]
  simp only
  rw [← List.cons_append, List.takeWhile_append_of_pos hpass, List.dropWhile_append_of_pos hpass]
  simp [hspace]

/-- White space in front does not matter. -/
theorem splitSpace_space (maxSplit : ℕ) (text : PyString) :
    splitSpace maxSplit (' ' :: text) = splitSpace maxSplit text := by
  cases maxSplit with
  | zero => rw [splitSpace, splitSpace, List.dropWhile_cons_of_pos (by decide)]
  | succ maxSplit => rw [splitSpace, splitSpace, List.dropWhile_cons_of_pos (by decide)]

/-- A word at the end is the last part. -/
theorem splitSpace_word {word : PyString} (hne : word ≠ [])
    (hword : ∀ c ∈ word, isSpace c = false) (maxSplit : ℕ) :
    splitSpace maxSplit (' ' :: word) = [word] := by
  obtain ⟨c, others, rfl⟩ := List.exists_cons_of_ne_nil hne
  have hpass : ∀ a ∈ c :: others, (! isSpace a) = true := fun a ha ↦ by simp [hword a ha]
  have hdrop : (' ' :: c :: others).dropWhile isSpace = c :: others := by
    rw [List.dropWhile_cons_of_pos (by decide),
      List.dropWhile_cons_of_neg (by simp [hword c List.mem_cons_self])]
  have hwhole : (c :: others).takeWhile (! isSpace ·) = c :: others :=
    List.takeWhile_eq_self_iff.mpr hpass
  have hnothing : (c :: others).dropWhile (! isSpace ·) = [] :=
    List.dropWhile_eq_nil_iff.mpr hpass
  rw [splitSpace, hdrop]
  cases maxSplit with
  | zero => rfl
  | succ maxSplit =>
    have hend : splitSpace maxSplit [] = [] := by rw [splitSpace.eq_def]; rfl
    simp only [hwhole, hnothing, hend]

/-- After the last split the rest is one part. -/
theorem splitSpace_zero {text : PyString} (hne : text ≠ [])
    (hfirst : ∀ c, text.head? = some c → isSpace c = false) :
    splitSpace 0 (' ' :: text) = [text] := by
  obtain ⟨c, others, rfl⟩ := List.exists_cons_of_ne_nil hne
  rw [splitSpace, List.dropWhile_cons_of_pos (by decide),
    List.dropWhile_cons_of_neg (by simp [hfirst c rfl])]

/-! ## The replies of the server -/

/-- Bytes of ASCII characters that are no white space. -/
def IsGraphic (b : UInt8) : Prop := 33 ≤ b.toNat ∧ b.toNat < 127

theorem not_isSpace_of_isGraphic {b : UInt8} (h : IsGraphic b) : isSpace (charOf b) = false := by
  have hcode : (charOf b).toNat = b.toNat := by
    apply toNat_charOf
    rw [UInt8.lt_iff_toNat_lt]
    exact h.2.trans (by decide)
  obtain ⟨hlow, hhigh⟩ := h
  simp only [isSpace, hcode, decide_eq_false_iff_not]
  omega

/-- A reply that has not been cut is received without its line end. -/
theorem recv_buildLine {text : CString} (hne : text.bytes ≠ [])
    (hascii : ∀ b ∈ text.bytes, b < 0x80) (hclean : CleanEdges isSpace (textOf text))
    (hfits : text.length ≤ 509) :
    recv (buildLine text).bytes = .ok (textOf text) := by
  have hwhole : (buildLine text).bytes = text.bytes ++ [13, 10] := by
    have hlength : (text ++ crlf).length ≤ respBufSize - 1 := by
      have hend : crlf.length = 2 := by decide
      rw [CString.length_append, hend, respBufSize]
      omega
    rw [buildLine, CString.snprintf, CString.cut_eq_self hlength, CString.bytes_append, bytes_crlf]
  have hdecode : decode (text.bytes ++ [13, 10]) = some (textOf text ++ ['\r', '\n']) := by
    rw [decode_ascii]
    · rw [List.map_append]
      rfl
    · exact List.forall_mem_append.mpr ⟨hascii, List.all_iff_forall_prop.mp (by decide)⟩
  have htext : textOf text ≠ [] := by simpa [textOf] using hne
  have hstrip : strip (textOf text ++ ['\r', '\n']) = textOf text :=
    trimWith_append htext hclean (List.all_iff_forall_prop.mp (by decide))
  rw [recv, if_neg (by simp [hwhole]), hwhole, hdecode]
  simp only [hstrip]

/-- What a sensor makes of the bytes it receives. -/
def understood (other : Char → PyString) (data : Bytes) : Except Failure (PyString × Response) :=
  (recv data).map fun response ↦ (response, parseResponse other response)

theorem forall_textOf {word : CString} {P : Char → Prop} (h : ∀ b ∈ word.bytes, P (charOf b)) :
    ∀ c ∈ textOf word, P c := List.forall_mem_map.mpr h

theorem ascii_of_isGraphic {word : CString} (h : ∀ b ∈ word.bytes, IsGraphic b) :
    ∀ b ∈ word.bytes, b < 0x80 := by
  intro b hb
  rw [UInt8.lt_iff_toNat_lt]
  exact (h b hb).2.trans (by decide)

/-- The details of an OK, when they are one word. -/
theorem understood_protocolBuildOk (other : Char → PyString) {details : CString}
    (hne : details.bytes ≠ []) (hword : ∀ b ∈ details.bytes, IsGraphic b)
    (hfits : details.length ≤ 506) :
    understood other (protocolBuildOk (some details)).bytes =
      .ok ("OK ".toList ++ textOf details, ⟨"OK".toList, none, textOf details⟩) := by
  have hdetails : textOf details ≠ [] := by simpa [textOf] using hne
  have hspace : ∀ c ∈ textOf details, isSpace c = false :=
    forall_textOf fun b hb ↦ not_isSpace_of_isGraphic (hword b hb)
  have hstatus : ∀ c ∈ ['O', 'K'], isSpace c = false := List.all_iff_forall_prop.mp (by decide)
  have htext : textOf (CString.lit "OK " ++ details) = ['O', 'K'] ++ ' ' :: textOf details := by
    simp only [textOf, CString.bytes_append, List.map_append]
    rfl
  have hrecv : recv (protocolBuildOk (some details)).bytes =
      .ok (textOf (CString.lit "OK " ++ details)) := by
    refine recv_buildLine ?_ ?_ ?_ ?_
    · simp [CString.bytes_append, hne]
    · exact List.forall_mem_append.mpr
        ⟨List.all_iff_forall_prop.mp (by decide), ascii_of_isGraphic hword⟩
    · rw [Option.getD_some, htext]
      have hedges := CleanEdges.around (by decide : ['O', 'K'] ≠ []) hdetails
        (cleanEdges_of_forall hstatus) (cleanEdges_of_forall hspace) [' ']
      simpa using hedges
    · have hlit : (CString.lit "OK ").length = 3 := by decide
      rw [CString.length_append, hlit, Option.getD_some]
      omega
  have hparts :
      splitSpace 2 (['O', 'K'] ++ ' ' :: textOf details) = [['O', 'K'], textOf details] := by
    rw [splitSpace_succ (by decide) hstatus, splitSpace_word hdetails hspace]
  rw [understood, hrecv, htext]
  simp only [Except.map, parseResponse, hparts]
  rfl

/-- The code and the description of an ERROR, when the code is one word and the description has
clean edges. -/
theorem understood_protocolBuildError (other : Char → PyString) {code desc : CString}
    (hcode : code.bytes ≠ []) (hword : ∀ b ∈ code.bytes, IsGraphic b) (hdesc : desc.bytes ≠ [])
    (hascii : ∀ b ∈ desc.bytes, b < 0x80) (hclean : CleanEdges isSpace (textOf desc))
    (hfits : code.length + desc.length ≤ 502) :
    understood other (protocolBuildError (some code) (some desc)).bytes =
      .ok ("ERROR ".toList ++ textOf code ++ ' ' :: textOf desc,
        ⟨"ERROR".toList, some (textOf code), textOf desc⟩) := by
  have hcode' : textOf code ≠ [] := by simpa [textOf] using hcode
  have hdesc' : textOf desc ≠ [] := by simpa [textOf] using hdesc
  have hspace : ∀ c ∈ textOf code, isSpace c = false :=
    forall_textOf fun b hb ↦ not_isSpace_of_isGraphic (hword b hb)
  have hstatus : ∀ c ∈ ['E', 'R', 'R', 'O', 'R'], isSpace c = false :=
    List.all_iff_forall_prop.mp (by decide)
  have htext : textOf (CString.lit "ERROR " ++ code ++ CString.lit " " ++ desc) =
      ['E', 'R', 'R', 'O', 'R'] ++ ' ' :: (textOf code ++ ' ' :: textOf desc) := by
    simp only [textOf, CString.bytes_append, List.map_append, List.append_assoc]
    rfl
  have hrecv : recv (protocolBuildError (some code) (some desc)).bytes =
      .ok (textOf (CString.lit "ERROR " ++ code ++ CString.lit " " ++ desc)) := by
    refine recv_buildLine ?_ ?_ ?_ ?_
    · simp [CString.bytes_append, hcode]
    · exact List.forall_mem_append.mpr ⟨List.forall_mem_append.mpr ⟨List.forall_mem_append.mpr
        ⟨List.all_iff_forall_prop.mp (by decide), ascii_of_isGraphic hword⟩,
          List.all_iff_forall_prop.mp (by decide)⟩, hascii⟩
    · rw [Option.getD_some, Option.getD_some, htext]
      have hedges := CleanEdges.around (by decide : ['E', 'R', 'R', 'O', 'R'] ≠ []) hdesc'
        (cleanEdges_of_forall hstatus) hclean (' ' :: (textOf code ++ [' ']))
      simpa using hedges
    · have hlit : (CString.lit "ERROR ").length = 6 := by decide
      have hblank : (CString.lit " ").length = 1 := by decide
      simp only [CString.length_append, hlit, hblank, Option.getD_some]
      omega
  have hparts :
      splitSpace 2 (['E', 'R', 'R', 'O', 'R'] ++ ' ' :: (textOf code ++ ' ' :: textOf desc)) =
        [['E', 'R', 'R', 'O', 'R'], textOf code, textOf desc] := by
    have hsecond : splitSpace 1 (' ' :: (textOf code ++ ' ' :: textOf desc)) =
        [textOf code, textOf desc] := by
      rw [splitSpace_space, splitSpace_succ hcode' hspace, splitSpace_zero hdesc' hclean.1]
    rw [splitSpace_succ (by decide) hstatus, hsecond]
  rw [understood, hrecv, htext]
  simp only [Except.map, parseResponse, hparts]
  rfl

end IotMonitoring.Sensors.SensorBase
