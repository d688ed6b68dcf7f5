import Mathlib.Data.List.Basic

/-!
# Components that answer

A component performs operations: each one leads to a new state and an answer. Two components over
the same operations are compared by a relation between their states. When every allowed operation
keeps the relation and is answered alike, a whole sequence of them is.
-/

namespace IotMonitoring.Machine

/-- What an operation leaves behind and what it returns. -/
structure Answering (σ ι ο : Type*) where
  perform : σ → ι → σ × ο

namespace Answering

variable {σ τ ι ο : Type*}

/-- The state after a sequence of operations, and the answers in order. -/
def run (m : Answering σ ι ο) : σ → List ι → σ × List ο
  | s, [] => (s, [])
  | s, i :: is =>
    let performed := m.perform s i
    let rest := m.run performed.1 is
    (rest.1, performed.2 :: rest.2)

/-- The simulation rule: related states answer every sequence of allowed operations alike and stay
related. -/
theorem run_simulation {m : Answering σ ι ο} {m' : Answering τ ι ο} (rel : σ → τ → Prop)
    {allowed : ι → Prop}
    (hperform : ∀ s t i, rel s t → allowed i →
      rel (m.perform s i).1 (m'.perform t i).1 ∧ (m.perform s i).2 = (m'.perform t i).2)
    {s : σ} {t : τ} {is : List ι} (hrel : rel s t) (hallowed : ∀ i ∈ is, allowed i) :
    rel (m.run s is).1 (m'.run t is).1 ∧ (m.run s is).2 = (m'.run t is).2 := by
  induction is generalizing s t with
  | nil => exact ⟨hrel, rfl⟩
  | cons i is ih =>
    rw [List.forall_mem_cons] at hallowed
    obtain ⟨hrel', hanswer⟩ := hperform s t i hrel hallowed.1
    obtain ⟨hrest, hanswers⟩ := ih hrel' hallowed.2
    exact ⟨hrest, congrArg₂ List.cons hanswer hanswers⟩

end Answering

end IotMonitoring.Machine
