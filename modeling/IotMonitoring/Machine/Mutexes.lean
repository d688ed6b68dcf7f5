import IotMonitoring.Machine.Labelled
import Mathlib.Logic.Function.Basic
import Mathlib.Logic.Relation
import Mathlib.Order.Basic

/-!
# Threads and mutexes

Every thread performs a list of operations on mutexes; locking one that is held blocks, also when it
is the thread itself that holds it. Where every list takes mutexes in the order of a rank, the
mutexes that the threads on a path of the waits-for relation wait for rise in rank, so the relation
has no cycle.
-/

namespace IotMonitoring.Machine.Mutexes

inductive Operation (μ : Type*) where
  | lock (mutex : μ)
  | unlock (mutex : μ)
deriving DecidableEq

/-- Who holds each mutex, and what the threads have still to do. -/
structure State (ι μ : Type*) where
  owner : μ → Option ι
  rest : ι → List (Operation μ)

variable {ι μ : Type*}

/-- All mutexes are free. -/
def start (program : ι → List (Operation μ)) : State ι μ := ⟨fun _ ↦ none, program⟩

/-- The thread named by the label performs its next operation. -/
def threads (ι μ : Type*) [DecidableEq ι] [DecidableEq μ] : Labelled (State ι μ) ι where
  step s i :=
    match s.rest i with
    | .lock mutex :: rest =>
      if s.owner mutex = none then
        some ⟨Function.update s.owner mutex (some i), Function.update s.rest i rest⟩
      else none
    | .unlock mutex :: rest =>
      if s.owner mutex = some i then
        some ⟨Function.update s.owner mutex none, Function.update s.rest i rest⟩
      else none
    | [] => none

/-- The first thread is about to lock a mutex that the second one holds. -/
def WaitsFor (s : State ι μ) (i j : ι) : Prop :=
  ∃ mutex rest, s.rest i = .lock mutex :: rest ∧ s.owner mutex = some j

/-! ## Operations in the order of a rank -/

/-- The operations between taking a mutex and giving it back. -/
def critical (mutex : μ) (body : List (Operation μ)) : List (Operation μ) :=
  .lock mutex :: body ++ [.unlock mutex]

section Ranked

variable {ρ : Type*} [Preorder ρ] (rank : μ → ρ)

/-- From a thread that holds the given mutexes, the innermost first, the operations lock only above
all that are held, unlock what is innermost, and leave nothing locked. -/
def Ordered : List μ → List (Operation μ) → Prop
  | held, [] => held = []
  | held, .lock mutex :: rest => (∀ other ∈ held, rank other < rank mutex) ∧
    Ordered (mutex :: held) rest
  | held, .unlock mutex :: rest => held.head? = some mutex ∧ Ordered held.tail rest

/-- The operations may be performed with the given mutexes held and leave them held. -/
def Fits (held : List μ) (operations : List (Operation μ)) : Prop :=
  ∀ rest, Ordered rank held rest → Ordered rank held (operations ++ rest)

variable {rank} {held : List μ}

theorem Fits.nil : Fits rank held [] := fun _ h ↦ h

theorem Fits.append {operations more : List (Operation μ)} (h : Fits rank held operations)
    (hmore : Fits rank held more) : Fits rank held (operations ++ more) := by
  intro rest hrest
  rw [List.append_assoc]
  exact h _ (hmore rest hrest)

theorem Fits.flatMap {α : Type*} {items : List α} {operations : α → List (Operation μ)}
    (h : ∀ item ∈ items, Fits rank held (operations item)) :
    Fits rank held (items.flatMap operations) := by
  induction items with
  | nil => exact .nil
  | cons item items ih =>
    rw [List.forall_mem_cons] at h
    rw [List.flatMap_cons]
    exact h.1.append (ih h.2)

theorem Fits.critical {mutex : μ} {body : List (Operation μ)}
    (habove : ∀ other ∈ held, rank other < rank mutex) (hbody : Fits rank (mutex :: held) body) :
    Fits rank held (critical mutex body) := by
  intro rest hrest
  rw [Mutexes.critical, List.cons_append, List.cons_append, List.append_assoc]
  exact ⟨habove, hbody _ ⟨rfl, hrest⟩⟩

theorem Fits.ordered {operations : List (Operation μ)} (h : Fits rank [] operations) :
    Ordered rank [] operations := by
  have hall := h [] rfl
  rwa [List.append_nil] at hall

/-! ## Runs -/

variable (rank)

/-- Every thread holds a list of mutexes from which its further operations are ordered. -/
def Disciplined (s : State ι μ) : Prop :=
  ∃ held : ι → List μ, (∀ i, Ordered rank (held i) (s.rest i)) ∧
    (∀ i, (held i).Nodup) ∧ ∀ i mutex, mutex ∈ held i ↔ s.owner mutex = some i

variable {rank}

theorem disciplined_start {program : ι → List (Operation μ)}
    (h : ∀ i, Ordered rank [] (program i)) : Disciplined rank (start program) :=
  ⟨fun _ ↦ [], h, fun _ ↦ List.nodup_nil, fun _ _ ↦ by simp [start]⟩

variable [DecidableEq ι] [DecidableEq μ]

theorem threads_step_cases {s s' : State ι μ} {i : ι} (hstep : (threads ι μ).step s i = some s') :
    (∃ mutex rest, s.rest i = .lock mutex :: rest ∧ s.owner mutex = none ∧
      s' = ⟨Function.update s.owner mutex (some i), Function.update s.rest i rest⟩) ∨
    (∃ mutex rest, s.rest i = .unlock mutex :: rest ∧ s.owner mutex = some i ∧
      s' = ⟨Function.update s.owner mutex none, Function.update s.rest i rest⟩) := by
  simp only [threads] at hstep
  split at hstep
  · rename_i mutex rest hrest
    obtain ⟨hfree, heq⟩ := Option.ite_none_right_eq_some.mp hstep
    exact .inl ⟨mutex, rest, hrest, hfree, (Option.some.inj heq).symm⟩
  · rename_i mutex rest hrest
    obtain ⟨hheld, heq⟩ := Option.ite_none_right_eq_some.mp hstep
    exact .inr ⟨mutex, rest, hrest, hheld, (Option.some.inj heq).symm⟩
  · cases hstep

theorem disciplined_step (s : State ι μ) (i : ι) (s' : State ι μ) (h : Disciplined rank s)
    (hstep : (threads ι μ).step s i = some s') : Disciplined rank s' := by
  obtain ⟨held, hordered, hnodup, howner⟩ := h
  obtain ⟨mutex, rest, hrest, hfree, rfl⟩ | ⟨mutex, rest, hrest, hheld, rfl⟩ :=
    threads_step_cases hstep
  · have hi := hordered i
    rw [hrest] at hi
    have hnew (j : ι) : mutex ∉ held j := fun hmem ↦ by simp [(howner j mutex).mp hmem] at hfree
    refine ⟨Function.update held i (mutex :: held i), fun j ↦ ?_, fun j ↦ ?_, fun j other ↦ ?_⟩
    · obtain rfl | hij := eq_or_ne j i
      · simpa using hi.2
      · simpa [hij] using hordered j
    · obtain rfl | hij := eq_or_ne j i
      · simpa using ⟨hnew j, hnodup j⟩
      · simpa [hij] using hnodup j
    · obtain rfl | hother := eq_or_ne other mutex
      · obtain rfl | hij := eq_or_ne j i
        · simp
        · simp [hij, hij.symm, hnew j]
      · obtain rfl | hij := eq_or_ne j i
        · simp [hother, howner]
        · simp [hij, hother, howner]
  · have hi := hordered i
    rw [hrest] at hi
    obtain ⟨hhead, htail⟩ := hi
    obtain ⟨inner, hinner⟩ := List.head?_eq_some_iff.mp hhead
    have hnodup' := hnodup i
    rw [hinner, List.nodup_cons] at hnodup'
    refine ⟨Function.update held i (held i).tail, fun j ↦ ?_, fun j ↦ ?_, fun j other ↦ ?_⟩
    · obtain rfl | hij := eq_or_ne j i
      · simpa using htail
      · simpa [hij] using hordered j
    · obtain rfl | hij := eq_or_ne j i
      · simpa [hinner] using hnodup'.2
      · simpa [hij] using hnodup j
    · have howner' := howner j other
      obtain rfl | hother := eq_or_ne other mutex
      · obtain rfl | hij := eq_or_ne j i
        · simpa [hinner] using hnodup'.1
        · have hne : other ∉ held j := fun hmem ↦
            hij (by simpa [hheld, eq_comm] using howner'.mp hmem)
          simp [hij, hne]
      · obtain rfl | hij := eq_or_ne j i
        · rw [hinner, List.mem_cons] at howner'
          simpa [hinner, hother] using howner'
        · simpa [hij, hother] using howner'

omit [DecidableEq ι] [DecidableEq μ] in
/-- Along a path of the waits-for relation the awaited mutexes rise in rank. -/
theorem rank_lt_of_waits {s : State ι μ} (h : Disciplined rank s) {i j : ι}
    (hpath : Relation.TransGen (WaitsFor s) i j) {mutex mutex' : μ}
    {rest rest' : List (Operation μ)} (hi : s.rest i = .lock mutex :: rest)
    (hj : s.rest j = .lock mutex' :: rest') : rank mutex < rank mutex' := by
  obtain ⟨held, hordered, -, howner⟩ := h
  have hedge {i j : ι} {mutex mutex' : μ} {rest rest' : List (Operation μ)}
      (hwaits : WaitsFor s i j) (hi : s.rest i = .lock mutex :: rest)
      (hj : s.rest j = .lock mutex' :: rest') : rank mutex < rank mutex' := by
    obtain ⟨awaited, _, hi', hheld⟩ := hwaits
    obtain ⟨rfl, -⟩ := List.cons.inj (hi.symm.trans hi') |>.imp_left Operation.lock.inj
    have hnext := hordered j
    rw [hj] at hnext
    exact hnext.1 mutex ((howner j mutex).mpr hheld)
  induction hpath generalizing mutex' rest' with
  | single hwaits => exact hedge hwaits hi hj
  | tail _ hwaits ih =>
    obtain ⟨awaited, after, hmiddle, -⟩ := id hwaits
    exact (ih hmiddle).trans (hedge hwaits hmiddle hj)

/-- The deadlock rule: when every program is ordered, no thread ever waits for itself, directly or
through others. -/
theorem not_waits_cycle {program : ι → List (Operation μ)}
    (hprogram : ∀ i, Ordered rank [] (program i)) {s : State ι μ}
    (hreach : (threads ι μ).Reachable (start program) s) (i : ι) :
    ¬ Relation.TransGen (WaitsFor s) i i := by
  intro hcycle
  have hdisciplined : Disciplined rank s := Labelled.inv_of_reachable (Disciplined rank)
    disciplined_step (disciplined_start hprogram) hreach
  obtain ⟨j, ⟨mutex, rest, hrest, -⟩, -⟩ := Relation.TransGen.head'_iff.mp hcycle
  exact lt_irrefl _ (rank_lt_of_waits hdisciplined hcycle hrest hrest)

end Ranked

end IotMonitoring.Machine.Mutexes
