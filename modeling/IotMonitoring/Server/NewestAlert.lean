import IotMonitoring.Server.WholeRecords

/-!
# The newest alert in the reply

The alert list gives up its oldest alert when it is full, so the newest ones are kept. The listing
starts with the oldest alert, though, and the reply ends after 511 bytes. The reply shows the alert
that was triggered last, of those that are not resolved, exactly when the records of all of them fit
into the reply in front of the NUL.
-/

namespace IotMonitoring.Server.HandleClient

open Text Machine Protocol AlertEngine AlertLog Listings

variable {D κ : Type} [CDouble D]

/-! ## The alerts ever triggered -/

/-- The alert of the log that was triggered last, of those that are not resolved. -/
def newestOpen (log : Log D) : Option (Record D) :=
  (log.records.filter fun record ↦ !record.resolved).getLast?

/-- A call with the id as the engine stores it. -/
def storedCall : Operation D → Operation D
  | .checkMeasurement now sensorId sensorType value =>
    .checkMeasurement now (sensorId.cut 31) sensorType value
  | operation => operation

omit [CDouble D] in
theorem fits_storedCall (operation : Operation D) : (storedCall operation).Fits := by
  cases operation with
  | checkMeasurement now sensorId sensorType value => exact CString.length_cut_le 31 sensorId
  | init | registerThreshold | resolveAlert => trivial

theorem triggered_cut (sensorId sensorType : CString) (value : D)
    (threshold : AlertThreshold D) :
    triggered (sensorId.cut 31) sensorType value threshold =
      (triggered sensorId sensorType value threshold).map fun call ↦
        { call with sensorId := call.sensorId.cut 31 } := by
  simp only [triggered]
  split <;> rfl

omit [CDouble D] in
theorem addActiveAlert_cut (now : ℤ) (call : AlertCall D) (alerts : AlertList D) :
    addActiveAlert now { call with sensorId := call.sensorId.cut 31 } alerts =
      addActiveAlert now call alerts := by
  simp only [addActiveAlert, ActiveAlert.fill, CharField.strncpy_cut]

theorem checkLoop_cut (now : Fin maxAlerts → ℤ) (sensorId sensorType : CString) (value : D)
    (rounds : List (Fin maxAlerts)) (e : Engine D) :
    (checkLoop now (sensorId.cut 31) sensorType value rounds e).1 =
      (checkLoop now sensorId sensorType value rounds e).1 := by
  induction rounds generalizing e with
  | nil => rfl
  | cons i rest ih =>
    cases hcall : triggered sensorId sensorType value (e.thresholds.get i) with
    | none => simp only [checkLoop, triggered_cut, hcall, Option.map_none, ih]
    | some call =>
      simp only [checkLoop, triggered_cut, hcall, Option.map_some, addActiveAlert_cut, ih]

/-- The engine cannot tell a call from the one with the id it stores. -/
theorem run_storedCall (e : Engine D) (operations : List (Operation D)) :
    ((engine D).run e (operations.map storedCall)).1 = ((engine D).run e operations).1 := by
  induction operations generalizing e with
  | nil => rfl
  | cons operation operations ih =>
    have hperform : ((engine D).perform e (storedCall operation)).1 =
        ((engine D).perform e operation).1 := by
      cases operation with
      | checkMeasurement now sensorId sensorType value =>
        exact checkLoop_cut now sensorId sensorType value _ e
      | init | registerThreshold | resolveAlert => rfl
    simp only [List.map_cons, Answering.run, hperform, ih]

omit [CDouble D] in
/-- The newest open alert of the log is the last one in the array that is not resolved. -/
theorem newestOpen_eq {e : Engine D} {l : Log D} (h : Represents e l)
    {older younger : List (ActiveAlert D)} {alert : ActiveAlert D}
    (hlive : e.activeAlerts.live = older ++ alert :: younger) (hopen : alert.isResolved = false)
    (hyounger : ∀ later ∈ younger, later.isResolved = true) :
    newestOpen l = some (record alert) := by
  have hwindow : l.records.drop (l.records.length - maxAlerts) =
      older.map record ++ record alert :: younger.map record := by
    have hmap := h.window
    rw [hlive, List.map_append, List.map_cons] at hmap
    exact hmap.symm
  have hlater : (younger.map record).filter (fun record ↦ !record.resolved) = [] := by
    rw [List.filter_eq_nil_iff]
    intro later hmem
    obtain ⟨alert', halert', rfl⟩ := List.mem_map.mp hmem
    simp [record, hyounger alert' halert']
  rw [newestOpen, ← List.take_append_drop (l.records.length - maxAlerts) l.records, hwindow,
    List.filter_append, List.filter_append, List.filter_cons_of_pos (by simp [record, hopen]),
    hlater]
  simp

/-! ## The reply -/

/-- The reply has the record of the alert in its place, whole, behind the records that are listed of
the alerts before it. -/
def ShowsBehind (older : List (ActiveAlert D)) (alert : ActiveAlert D) (reply : CString) : Prop :=
  ∃ rest, reply = .lit "ALERTS " ++ listing 1024 ((older.filter isListed).map alertRecord) ++
    alertRecordText alert ++ rest

theorem getAlerts_reply (s : ServerState D κ) :
    (getAlerts s).response.text =
      (.lit "ALERTS " ++ listing 1024 ((s.engine.activeAlerts.live.filter isListed).map
        alertRecord) ++ crlf).cut 511 := rfl

/-- Texts within the bound of the reply are listed whole. -/
theorem listing_alertRecord {alerts : List (ActiveAlert D)}
    (hle : (listing 1024 (alerts.map alertRecord)).length ≤ 504) :
    listing 1024 (alerts.map alertRecord) = CString.concat (alerts.map alertRecordText) :=
  listing_cut_eq (by omega : 504 < 511) (by omega) hle

theorem length_listing_alertRecord_le_iff {alerts : List (ActiveAlert D)} :
    (listing 1024 (alerts.map alertRecord)).length ≤ 504 ↔
      (CString.concat (alerts.map alertRecordText)).length ≤ 504 :=
  length_listing_cut_le_iff (by omega : 504 < 511) (by omega)

/-- A record without an id starts with its first comma. -/
theorem alertRecordText_head {alert : ActiveAlert D} (hid : alert.sensorId.str = ∅) :
    (alertRecordText alert).bytes.head? = some 44 := by
  have hcomma : (CString.lit ",").bytes = [44] := by decide
  simp [alertRecordText, hid, hcomma]

/-- Where the line end follows, no record without an id is shown. -/
theorem ne_of_no_id {front rest : CString} {alert : ActiveAlert D}
    (hid : alert.sensorId.str = ∅) :
    (front ++ crlf).cut 511 ≠ front ++ alertRecordText alert ++ rest := by
  intro hreply
  have hhead := alertRecordText_head hid
  have hcut := congrArg CString.length hreply
  rw [CString.length_cut, CString.length_append, CString.length_append, CString.length_append]
    at hcut
  cases htext : (alertRecordText alert).bytes with
  | nil => simp [htext] at hhead
  | cons b text =>
    obtain rfl : b = 44 := by simpa [htext] using hhead
    have hlength : (alertRecordText alert).length = text.length + 1 := by
      rw [CString.length, htext, List.length_cons]
    rw [CString.cut_append (by omega), CString.append_assoc] at hreply
    have hbytes := congrArg CString.bytes hreply
    rw [CString.bytes_append, CString.bytes_append, List.append_cancel_left_eq, CString.bytes_cut,
      bytes_crlf, CString.bytes_append, htext] at hbytes
    cases hroom : 511 - front.length with
    | zero => simp [hroom] at hbytes
    | succ room => simp [hroom] at hbytes

section

variable {s : ServerState D κ} {older younger : List (ActiveAlert D)} {alert : ActiveAlert D}

omit [CDouble D] in
theorem listed_eq (hlive : s.engine.activeAlerts.live = older ++ alert :: younger)
    (hopen : alert.isResolved = false) (hyounger : ∀ later ∈ younger, later.isResolved = true) :
    s.engine.activeAlerts.live.filter isListed =
      if alert.sensorId.str = ∅ then older.filter isListed
      else older.filter isListed ++ [alert] := by
  have hlater : younger.filter isListed = [] := by
    rw [List.filter_eq_nil_iff]
    intro later hmem
    simp [isListed, hyounger later hmem]
  rw [hlive, List.filter_append]
  split
  · rename_i hid
    rw [List.filter_cons_of_neg (by simp [isListed, hid]), hlater, List.append_nil]
  · rename_i hid
    rw [List.filter_cons_of_pos (by simp [isListed, hid, hopen]), hlater]

/-- The last unresolved alert is shown exactly when it has an id and the records of all that are
listed have together at most 504 bytes. -/
theorem showsBehind_iff (hlive : s.engine.activeAlerts.live = older ++ alert :: younger)
    (hopen : alert.isResolved = false) (hyounger : ∀ later ∈ younger, later.isResolved = true) :
    ShowsBehind older alert (getAlerts s).response.text ↔
      alert.sensorId.str ≠ ∅ ∧ (CString.concat
        ((s.engine.activeAlerts.live.filter isListed).map alertRecordText)).length ≤ 504 := by
  have hkeyword : (CString.lit "ALERTS ").length = 7 := by decide
  rw [getAlerts_reply, listed_eq hlive hopen hyounger]
  constructor
  · rintro ⟨rest, hreply⟩
    by_cases hid : alert.sensorId.str = ∅
    · rw [if_pos hid] at hreply
      exact absurd hreply (ne_of_no_id hid)
    · refine ⟨hid, ?_⟩
      have hlength := CString.length_cut_le 511 (.lit "ALERTS " ++ listing 1024
        ((if alert.sensorId.str = ∅ then older.filter isListed
          else older.filter isListed ++ [alert]).map alertRecord) ++ crlf)
      rw [hreply] at hlength
      simp only [CString.length_append, hkeyword] at hlength
      rw [if_neg hid, CString.concat_map_concat, CString.length_append,
        ← listing_alertRecord (by omega)]
      omega
  · rintro ⟨hid, htotal⟩
    rw [if_neg hid] at htotal ⊢
    have hall := listing_alertRecord (length_listing_alertRecord_le_iff.mpr htotal)
    rw [CString.concat_map_concat] at hall htotal
    rw [CString.length_append] at htotal
    have holder : listing 1024 ((older.filter isListed).map alertRecord) =
        CString.concat ((older.filter isListed).map alertRecordText) :=
      listing_alertRecord (length_listing_alertRecord_le_iff.mpr (by omega))
    refine ⟨crlf.cut (511 - (.lit "ALERTS " ++ (CString.concat
      ((older.filter isListed).map alertRecordText) ++ alertRecordText alert)).length), ?_⟩
    rw [hall, holder, CString.cut_append]
    · simp only [CString.append_assoc]
    · simp only [CString.length_append, hkeyword]
      omega

end

/-- A list with an entry of some kind has a last one. -/
theorem exists_last_of_mem {α : Type*} {p : α → Prop} {entries : List α}
    (h : ∃ entry ∈ entries, p entry) :
    ∃ front last back, entries = front ++ last :: back ∧ p last ∧ ∀ later ∈ back, ¬ p later := by
  induction entries with
  | nil => simp at h
  | cons entry entries ih =>
    by_cases hrest : ∃ entry ∈ entries, p entry
    · obtain ⟨front, last, back, rfl, hlast, hback⟩ := ih hrest
      exact ⟨entry :: front, last, back, rfl, hlast, hback⟩
    · obtain ⟨found, hfound, hp⟩ := h
      obtain rfl | hmem := List.mem_cons.mp hfound
      · exact ⟨[], found, entries, rfl, hp, fun later hlater hp' ↦ hrest ⟨later, hlater, hp'⟩⟩
      · exact absurd ⟨found, hmem, hp⟩ hrest

/-- After any sequence of calls that leaves an unresolved alert in the array, the last of them is
the one that was triggered last of all that are not resolved, and the reply to GET_ALERTS shows its
record, whole, exactly when it has an id and the records of all listed alerts have together at most
504 bytes. -/
theorem newest_shown_iff (operations : List (Operation D)) {s : ServerState D κ}
    (hengine : s.engine = ((engine D).run AlertEngine.init operations).1)
    (hstored : ∃ alert ∈ s.engine.activeAlerts.live, alert.isResolved = false) (env : Env)
    (client : Client κ) {chunk : Chunk} (htype : chunk.message.type = .getAlerts) :
    ∃ older alert younger, s.engine.activeAlerts.live = older ++ alert :: younger ∧
      alert.isResolved = false ∧ (∀ later ∈ younger, later.isResolved = true) ∧
      newestOpen ((log D).run Log.init (operations.map storedCall)).1 = some (record alert) ∧
      (ShowsBehind older alert (respond env client chunk s).response.text ↔
        alert.sensorId.str ≠ ∅ ∧ (CString.concat
          ((s.engine.activeAlerts.live.filter isListed).map alertRecordText)).length ≤ 504) := by
  obtain ⟨older, alert, younger, hlive, hopen, hyounger⟩ := exists_last_of_mem hstored
  simp only [Bool.not_eq_false] at hyounger
  have hrepresents : Represents s.engine ((log D).run Log.init (operations.map storedCall)).1 := by
    rw [hengine, ← run_storedCall]
    refine (represents_run fun operation hoperation ↦ ?_).1
    obtain ⟨called, -, rfl⟩ := List.mem_map.mp hoperation
    exact fits_storedCall called
  refine ⟨older, alert, younger, hlive, hopen, hyounger,
    newestOpen_eq hrepresents hlive hopen hyounger, ?_⟩
  rw [respond_eq, htype]
  exact showsBehind_iff hlive hopen hyounger

def getAlertsChunk : Chunk := ⟨ascii "GET_ALERTS\r\n", by decide, by decide⟩

theorem newest_shown_iff_several_alerts :
    ∃ s : ServerState ℚ ℕ, s.engine = ((engine ℚ).run AlertEngine.init severalAlerts).1 ∧
      ∃ older alert younger, s.engine.activeAlerts.live = older ++ alert :: younger ∧
        alert.isResolved = false ∧ (∀ later ∈ younger, later.isResolved = true) ∧
        newestOpen ((log ℚ).run Log.init (severalAlerts.map storedCall)).1 =
          some (record alert) ∧
        (ShowsBehind older alert (respond sensorEnv ⟨5, 0⟩ getAlertsChunk s).response.text ↔
          alert.sensorId.str ≠ ∅ ∧ (CString.concat
            ((s.engine.activeAlerts.live.filter isListed).map alertRecordText)).length ≤ 504) := by
  have hstored : (((engine ℚ).run AlertEngine.init severalAlerts).1.activeAlerts.live.any fun
      alert ↦ !alert.isResolved) = true := by decide +kernel
  obtain ⟨engine, hengine⟩ :
      ∃ e, e = ((AlertLog.engine ℚ).run AlertEngine.init severalAlerts).1 := ⟨_, rfl⟩
  rw [← hengine] at hstored
  obtain ⟨alert, hmem, hopen⟩ := List.any_eq_true.mp hstored
  exact ⟨{ serverInit 0 with engine := engine }, hengine, newest_shown_iff severalAlerts hengine
    ⟨alert, hmem, by simpa using hopen⟩ sensorEnv ⟨5, 0⟩ (by decide +kernel)⟩

/-- A measurement between 60 and 69 degrees. -/
def degreesChunk (unitDigit : Fin 10) : Chunk where
  bytes := ascii "MEASUREMENT s1 6" ++ [48 + unitDigit.val.toUInt8] ++ ascii " C\r\n"
  pos := by
    simp only [List.length_append, List.length_singleton]
    omega
  lt := by
    have hcommand : (ascii "MEASUREMENT s1 6").length = 16 := by decide
    have hunit : (ascii " C\r\n").length = 4 := by decide
    simp [hcommand, hunit, maxBufferSize]

/-- After five measurements of one sensor the critical alert of the last one is nowhere in the
reply. -/
theorem newest_not_shown_of_five_measurements :
    ∃ s : ServerState ℚ ℕ, (server ℚ ℕ).run (serverInit 0)
        ([registerChunk, degreesChunk 1, degreesChunk 2, degreesChunk 3, degreesChunk 4,
          degreesChunk 5].map fun chunk ↦ .request sensorEnv ⟨5, 0⟩ chunk) = some s ∧
      ∃ older alert, s.engine.activeAlerts.live = older ++ [alert] ∧ alert.isResolved = false ∧
        ¬ (alertRecordText alert).bytes <:+:
          (respond sensorEnv ⟨5, 0⟩ getAlertsChunk s).response.text.bytes := by
  have hlast : ((server ℚ ℕ).run (serverInit 0)
      ([registerChunk, degreesChunk 1, degreesChunk 2, degreesChunk 3, degreesChunk 4,
        degreesChunk 5].map fun chunk ↦ .request sensorEnv ⟨5, 0⟩ chunk)).map (fun s ↦
      s.engine.activeAlerts.live.getLast?.map fun alert ↦ (alert.isResolved,
        decide ((alertRecordText alert).bytes <:+:
          (respond sensorEnv ⟨5, 0⟩ getAlertsChunk s).response.text.bytes))) =
            some (some (false, false)) := by decide +kernel
  obtain ⟨s, hrun, hs⟩ := Option.map_eq_some_iff.mp hlast
  obtain ⟨alert, halert, hfacts⟩ := Option.map_eq_some_iff.mp hs
  obtain ⟨older, hlive⟩ := List.getLast?_eq_some_iff.mp halert
  simp only [Prod.mk.injEq, decide_eq_false_iff_not] at hfacts
  exact ⟨s, hrun, older, alert, hlive, hfacts.1, hfacts.2⟩

end IotMonitoring.Server.HandleClient
