import IotMonitoring.Machine.Slots

/-!
# The operator registry

`server.c` remembers in two arrays of 100 entries which connections receive alerts, each with its
descriptor and the mutex that guards writing to it. Registration appends an entry, removal blanks
the first entry of a descriptor, and the fill count never goes down. A mutex is named by the
connection context it lies in.
-/

namespace IotMonitoring.Server.OperatorRegistry

open Machine

def maxOperators : ℕ := 100

/-- An index of `operator_clients` and `operator_write_mutexes`. -/
structure Operator (κ : Type*) where
  client : ℤ
  writeMutex : Option κ
deriving DecidableEq

abbrev Registry (κ : Type*) := Slots (Operator κ) maxOperators

variable {κ : Type*}

/-- The static storage. -/
def init : Registry κ := .empty maxOperators ⟨0, none⟩

/-- What removal leaves in an entry. -/
def Operator.removed : Operator κ := ⟨-1, none⟩

/-- `register_operator`. -/
def registerOperator (clientFd : ℤ) (writeMutex : κ) (registry : Registry κ) : Registry κ :=
  if hroom : registry.count < maxOperators then registry.push hroom ⟨clientFd, some writeMutex⟩
  else registry

/-- `remove_operator`. -/
def removeOperator (clientFd : ℤ) (registry : Registry κ) : Registry κ :=
  match registry.find fun operator ↦ operator.client = clientFd with
  | some i => registry.modify i fun _ ↦ Operator.removed
  | none => registry

/-- The descriptors `broadcast_alert` sends to, each with the mutex it locks meanwhile. -/
def broadcastTargets (registry : Registry κ) : List (ℤ × κ) :=
  registry.live.filterMap fun operator ↦
    if 0 < operator.client then operator.writeMutex.map (operator.client, ·) else none

theorem live_registerOperator (clientFd : ℤ) (writeMutex : κ) (registry : Registry κ) :
    (registerOperator clientFd writeMutex registry).live =
      if registry.count < maxOperators then registry.live ++ [⟨clientFd, some writeMutex⟩]
      else registry.live := by
  rw [registerOperator]
  split <;> simp [*]

/-- Removal keeps the entries of other descriptors. -/
theorem mem_removeOperator {clientFd : ℤ} {registry : Registry κ} {operator : Operator κ}
    (hmem : operator ∈ registry.live) (hother : operator.client ≠ clientFd) :
    operator ∈ (removeOperator clientFd registry).live := by
  rw [removeOperator]
  split
  · rename_i i hfind
    exact Slots.mem_modify_of_find hfind hmem (by simpa using hother) _
  · exact hmem

/-- No descriptor is listed twice. -/
def Distinct (registry : Registry κ) : Prop :=
  registry.live.Pairwise fun first second ↦ first.client = second.client → first.client = -1

/-- Where no descriptor is listed twice, removal blanks every entry of the descriptor. -/
theorem live_removeOperator {clientFd : ℤ} {registry : Registry κ} (hdistinct : Distinct registry)
    (hfd : clientFd ≠ -1) :
    (removeOperator clientFd registry).live =
      registry.live.map fun operator ↦
        if operator.client = clientFd then Operator.removed else operator := by
  rw [removeOperator]
  cases hfind : registry.find fun operator ↦ operator.client = clientFd with
  | some i =>
    have honly : registry.live.Pairwise fun first second ↦
        decide (first.client = clientFd) → decide (second.client = clientFd) = false := by
      refine hdistinct.imp fun {first second} hsame hfirst ↦ ?_
      rw [decide_eq_true_eq] at hfirst
      rw [decide_eq_false_iff_not]
      exact fun hsecond ↦ hfd (hfirst ▸ hsame (hfirst.trans hsecond.symm))
    simp [Slots.live_modify_of_find hfind honly]
  | none =>
    rw [Slots.find_eq_none_iff] at hfind
    refine ((List.map_congr_left fun operator hmem ↦ ?_).trans registry.live.map_id).symm
    have hother : operator.client ≠ clientFd := by simpa using hfind operator hmem
    rw [if_neg hother, id]

theorem mem_broadcastTargets {registry : Registry κ} {target : ℤ × κ} :
    target ∈ broadcastTargets registry ↔
      0 < target.1 ∧ ⟨target.1, some target.2⟩ ∈ registry.live := by
  rw [broadcastTargets, List.mem_filterMap]
  constructor
  · rintro ⟨operator, hmem, htarget⟩
    split at htarget
    · rename_i hpos
      obtain ⟨writeMutex, hmutex, rfl⟩ := Option.map_eq_some_iff.mp htarget
      exact ⟨hpos, hmutex ▸ hmem⟩
    · cases htarget
  · rintro ⟨hpos, hmem⟩
    exact ⟨_, hmem, by simp [hpos]⟩

/-- Without doubled descriptors an alert is sent to each of its targets once. -/
theorem nodup_broadcastTargets {registry : Registry κ} (hdistinct : Distinct registry) :
    ((broadcastTargets registry).map Prod.fst).Nodup := by
  rw [List.Nodup, List.pairwise_map, broadcastTargets, List.pairwise_filterMap]
  refine hdistinct.imp fun {first second} hsame target htarget target' htarget' ↦ ?_
  split at htarget
  · rename_i hpos
    split at htarget'
    · obtain ⟨_, -, rfl⟩ := Option.map_eq_some_iff.mp htarget
      obtain ⟨_, -, rfl⟩ := Option.map_eq_some_iff.mp htarget'
      intro heq
      rw [hsame heq] at hpos
      omega
    · cases htarget'
  · cases htarget

end IotMonitoring.Server.OperatorRegistry
