import Mathlib.Data.List.Basic
import Mathlib.Data.List.Forall2
import Mathlib.Data.List.Perm.Basic

/-!
# Labelled machines and their schedules

A machine gives, for every state and label, the state the labelled step leads to, or nothing where
the step is not enabled. A schedule is a list of labels, and every interleaving of several parties
is one schedule over labels that name the party. Guards restrict the steps a schedule may take.
The rules below carry an invariant or a relation along schedules, characterize the schedules whose
every state has a property or whose last state is not spoiled for good, and lead to a goal along a
variant.
-/

namespace IotMonitoring.Machine

/-- A deterministic step function over labels; a label tells which party moves and how. -/
structure Labelled (σ ℓ : Type*) where
  step : σ → ℓ → Option σ

namespace Labelled

variable {σ ℓ : Type*} (m : Labelled σ ℓ)

/-- The state a schedule leads to when all its steps are enabled in turn. -/
def run : σ → List ℓ → Option σ
  | s, [] => some s
  | s, l :: ls => (m.step s l).bind fun s' ↦ run s' ls

/-- Every enabled step of the schedule is taken in a state that the guard allows. -/
def Meets (guard : σ → ℓ → Prop) : σ → List ℓ → Prop
  | _, [] => True
  | s, l :: ls =>
    match m.step s l with
    | none => True
    | some s' => guard s l ∧ Meets guard s' ls

/-- The property holds in the first state and in every state the schedule passes through. -/
def Always (property : σ → Prop) : σ → List ℓ → Prop
  | s, [] => property s
  | s, l :: ls => property s ∧
    match m.step s l with
    | none => True
    | some s' => Always property s' ls

/-- What the steps of the schedule show, in order. -/
def outputs {ο : Type*} (shows : σ → ℓ → List ο) : σ → List ℓ → List ο
  | _, [] => []
  | s, l :: ls =>
    match m.step s l with
    | none => []
    | some s' => shows s l ++ outputs shows s' ls

/-- States some schedule leads to. -/
def Reachable (init s : σ) : Prop := ∃ ls, m.run init ls = some s

instance decidableMeets (guard : σ → ℓ → Prop) [∀ s l, Decidable (guard s l)] :
    ∀ s ls, Decidable (m.Meets guard s ls)
  | _, [] => instDecidableTrue
  | s, l :: ls =>
    match hstep : m.step s l with
    | none => decidable_of_iff True (by simp [Meets, hstep])
    | some s' =>
      haveI := decidableMeets guard s' ls
      decidable_of_iff (guard s l ∧ m.Meets guard s' ls) (by simp [Meets, hstep])

@[simp]
theorem run_nil (s : σ) : m.run s [] = some s := rfl

theorem run_cons_eq_some {s t : σ} {l : ℓ} {ls : List ℓ} :
    m.run s (l :: ls) = some t ↔ ∃ s', m.step s l = some s' ∧ m.run s' ls = some t := by
  simp only [run, Option.bind_eq_some_iff]

theorem run_append (s : σ) (ls ls' : List ℓ) :
    m.run s (ls ++ ls') = (m.run s ls).bind fun t ↦ m.run t ls' := by
  induction ls generalizing s with
  | nil => rfl
  | cons l ls ih =>
    simp only [List.cons_append, run, Option.bind_assoc]
    exact congrArg _ (funext fun s' ↦ ih s')

theorem Reachable.refl (init : σ) : m.Reachable init init := ⟨[], rfl⟩

variable {m}

theorem Reachable.step {init s t : σ} {l : ℓ} (h : m.Reachable init s)
    (hstep : m.step s l = some t) : m.Reachable init t := by
  obtain ⟨ls, hrun⟩ := h
  refine ⟨ls ++ [l], ?_⟩
  rw [run_append, hrun]
  exact m.run_cons_eq_some.mpr ⟨t, hstep, rfl⟩

/-- A schedule that meets a guard meets every weaker one. -/
theorem Meets.imp {guard weaker : σ → ℓ → Prop} (himp : ∀ s l, guard s l → weaker s l) {s : σ}
    {ls : List ℓ} (h : m.Meets guard s ls) : m.Meets weaker s ls := by
  induction ls generalizing s with
  | nil => exact trivial
  | cons l ls ih =>
    cases hstep : m.step s l with
    | none => simp [Meets, hstep]
    | some s' =>
      simp only [Meets, hstep] at h ⊢
      exact ⟨himp s l h.1, ih h.2⟩

/-- The invariant rule for guarded schedules. -/
theorem inv_of_run (inv : σ → Prop) {guard : σ → ℓ → Prop}
    (hkeep : ∀ s l s', inv s → guard s l → m.step s l = some s' → inv s')
    {s t : σ} {ls : List ℓ} (hs : inv s) (hmeets : m.Meets guard s ls)
    (hrun : m.run s ls = some t) : inv t := by
  induction ls generalizing s with
  | nil =>
    simp only [run_nil, Option.some.injEq] at hrun
    exact hrun ▸ hs
  | cons l ls ih =>
    obtain ⟨s', hstep, hrest⟩ := m.run_cons_eq_some.mp hrun
    simp only [Meets, hstep] at hmeets
    obtain ⟨hguard, hmeets'⟩ := hmeets
    exact ih (hkeep s l s' hs hguard hstep) hmeets' hrest

/-- The invariant rule when every step keeps the invariant. -/
theorem inv_of_reachable (inv : σ → Prop)
    (hkeep : ∀ s l s', inv s → m.step s l = some s' → inv s')
    {init t : σ} (hinit : inv init) (h : m.Reachable init t) : inv t := by
  obtain ⟨ls, hrun⟩ := h
  induction ls generalizing init with
  | nil =>
    simp only [run_nil, Option.some.injEq] at hrun
    exact hrun ▸ hinit
  | cons l ls ih =>
    obtain ⟨s', hstep, hrest⟩ := m.run_cons_eq_some.mp hrun
    exact ih (hkeep init l s' hinit hstep) hrest

/-- The invariant rule for a state and all that the schedule has shown on the way to it. -/
theorem inv_of_outputs {ο : Type*} {shows : σ → ℓ → List ο} (inv : List ο → σ → Prop)
    (hkeep : ∀ shown s l s', inv shown s → m.step s l = some s' → inv (shown ++ shows s l) s')
    {shown : List ο} {s t : σ} {ls : List ℓ} (hs : inv shown s) (hrun : m.run s ls = some t) :
    inv (shown ++ m.outputs shows s ls) t := by
  induction ls generalizing shown s with
  | nil =>
    simp only [run_nil, Option.some.injEq] at hrun
    rw [outputs, List.append_nil]
    exact hrun ▸ hs
  | cons l ls ih =>
    obtain ⟨s', hstep, hrest⟩ := m.run_cons_eq_some.mp hrun
    simp only [outputs, hstep]
    rw [← List.append_assoc]
    exact ih (hkeep shown s l s' hs hstep) hrest

/-- The same rule for guarded schedules. -/
theorem inv_of_meets_outputs {ο : Type*} {shows : σ → ℓ → List ο} {guard : σ → ℓ → Prop}
    (inv : List ο → σ → Prop)
    (hkeep : ∀ shown s l s', inv shown s → guard s l → m.step s l = some s' →
      inv (shown ++ shows s l) s')
    {shown : List ο} {s t : σ} {ls : List ℓ} (hs : inv shown s) (hmeets : m.Meets guard s ls)
    (hrun : m.run s ls = some t) : inv (shown ++ m.outputs shows s ls) t := by
  induction ls generalizing shown s with
  | nil =>
    simp only [run_nil, Option.some.injEq] at hrun
    rw [outputs, List.append_nil]
    exact hrun ▸ hs
  | cons l ls ih =>
    obtain ⟨s', hstep, hrest⟩ := m.run_cons_eq_some.mp hrun
    simp only [Meets, hstep] at hmeets
    simp only [outputs, hstep]
    rw [← List.append_assoc]
    exact ih (hkeep shown s l s' hs hmeets.1 hstep) hmeets.2 hrest

/-- When what every guarded step shows to two sides is related, all that it shows to them is, for a
relation that goes along appending. -/
theorem rel_of_outputs {ο π : Type*} {shows : σ → ℓ → List ο} {shows' : σ → ℓ → List π}
    {guard : σ → ℓ → Prop} (rel : List ο → List π → Prop) (hnil : rel [] [])
    (happend : ∀ front front' rest rest', rel front front' → rel rest rest' →
      rel (front ++ rest) (front' ++ rest'))
    (hstep : ∀ s l s', guard s l → m.step s l = some s' → rel (shows s l) (shows' s l)) {s : σ}
    {ls : List ℓ} (hmeets : m.Meets guard s ls) :
    rel (m.outputs shows s ls) (m.outputs shows' s ls) := by
  induction ls generalizing s with
  | nil => exact hnil
  | cons l ls ih =>
    cases hl : m.step s l with
    | none => simpa only [outputs, hl] using hnil
    | some s' =>
      simp only [Meets, hl] at hmeets
      simp only [outputs, hl]
      exact happend _ _ _ _ (hstep s l s' hmeets.1 hl) (ih hmeets.2)

/-- What guarded steps show, when it depends on their labels alone. -/
theorem outputs_eq_flatMap {ο : Type*} {shows : σ → ℓ → List ο} {guard : σ → ℓ → Prop}
    (inv : σ → Prop) (f : ℓ → List ο) (hkeep : ∀ s l s', inv s → m.step s l = some s' → inv s')
    (hshows : ∀ s l s', inv s → guard s l → m.step s l = some s' → shows s l = f l)
    {s t : σ} {ls : List ℓ} (hs : inv s) (hmeets : m.Meets guard s ls)
    (hrun : m.run s ls = some t) : m.outputs shows s ls = ls.flatMap f := by
  induction ls generalizing s with
  | nil => rfl
  | cons l ls ih =>
    obtain ⟨s', hstep, hrest⟩ := m.run_cons_eq_some.mp hrun
    simp only [Meets, hstep] at hmeets
    simp only [outputs, hstep, List.flatMap_cons]
    rw [hshows s l s' hs hmeets.1 hstep, ih (hkeep s l s' hs hstep) hmeets.2 hrest]

/-- What every step relates, a whole schedule relates. -/
theorem rel_of_run (rel : σ → σ → Prop) (hrefl : ∀ s, rel s s)
    (htrans : ∀ s t u, rel s t → rel t u → rel s u)
    (hrel : ∀ s l s', m.step s l = some s' → rel s s')
    {s t : σ} {ls : List ℓ} (hrun : m.run s ls = some t) : rel s t :=
  inv_of_reachable (rel s) (fun u l u' hu hstep ↦ htrans s u u' hu (hrel u l u' hstep))
    (hrefl s) ⟨ls, hrun⟩

/-- When the guard keeps an invariant that gives the property, and a step into a state with the
property must have met the guard, the schedules that keep the property are the guarded ones. -/
theorem always_iff_meets {inv property : σ → Prop} {guard : σ → ℓ → Prop}
    (hproperty : ∀ s, inv s → property s)
    (hkeep : ∀ s l s', inv s → guard s l → m.step s l = some s' → inv s')
    (hforced : ∀ s l s', inv s → m.step s l = some s' → property s' → guard s l)
    {s : σ} (hs : inv s) (ls : List ℓ) : m.Always property s ls ↔ m.Meets guard s ls := by
  induction ls generalizing s with
  | nil => simp [Always, Meets, hproperty s hs]
  | cons l ls ih =>
    cases hstep : m.step s l with
    | none => simp [Always, Meets, hstep, hproperty s hs]
    | some s' =>
      simp only [Always, Meets, hstep, hproperty s hs, true_and]
      constructor
      · intro hrest
        have hproperty' : property s' := by
          cases ls with
          | nil => exact hrest
          | cons => exact hrest.1
        have hguard := hforced s l s' hs hstep hproperty'
        exact ⟨hguard, (ih (hkeep s l s' hs hguard hstep)).mp hrest⟩
      · rintro ⟨hguard, hrest⟩
        exact (ih (hkeep s l s' hs hguard hstep)).mpr hrest

/-- A property of every state of a schedule holds in the state it leads to. -/
theorem Always.of_run {property : σ → Prop} {s t : σ} {ls : List ℓ}
    (h : m.Always property s ls) (hrun : m.run s ls = some t) : property t := by
  induction ls generalizing s with
  | nil =>
    simp only [run_nil, Option.some.injEq] at hrun
    exact hrun ▸ h
  | cons l ls ih =>
    obtain ⟨s', hstep, hrest⟩ := m.run_cons_eq_some.mp hrun
    simp only [Always, hstep] at h
    exact ih h.2 hrest

/-- When an unguarded step leads to a state that is bad for good, a schedule either meets the guard
or ends in a bad state. -/
theorem meets_or_of_run {inv bad : σ → Prop} {guard : σ → ℓ → Prop}
    (hkeep : ∀ s l s', inv s → guard s l → m.step s l = some s' → inv s')
    (hbreak : ∀ s l s', inv s → ¬ guard s l → m.step s l = some s' → bad s')
    (hstable : ∀ s l s', bad s → m.step s l = some s' → bad s')
    {s t : σ} {ls : List ℓ} (hs : inv s) (hrun : m.run s ls = some t) :
    m.Meets guard s ls ∨ bad t := by
  induction ls generalizing s with
  | nil => exact .inl trivial
  | cons l ls ih =>
    obtain ⟨s', hstep, hrest⟩ := m.run_cons_eq_some.mp hrun
    by_cases hguard : guard s l
    · refine (ih (hkeep s l s' hs hguard hstep) hrest).imp_left fun hmeets ↦ ?_
      simpa only [Meets, hstep] using ⟨hguard, hmeets⟩
    · exact .inr (inv_of_reachable bad hstable (hbreak s l s' hs hguard hstep) ⟨ls, hrest⟩)

/-- When every state of an invariant has the goal or an allowed step that keeps the invariant and
lowers the variant, allowed steps lead to the goal. -/
theorem exists_run_of_variant {inv goal : σ → Prop} {allowed : ℓ → Prop} (variant : σ → ℕ)
    (hprogress : ∀ s, inv s → goal s ∨
      ∃ l s', allowed l ∧ m.step s l = some s' ∧ inv s' ∧ variant s' < variant s)
    {s : σ} (hs : inv s) : ∃ ls t, (∀ l ∈ ls, allowed l) ∧ m.run s ls = some t ∧ goal t := by
  induction hvariant : variant s using Nat.strongRecOn generalizing s with
  | ind n ih =>
    obtain hgoal | ⟨l, s', hallowed, hstep, hs', hlt⟩ := hprogress s hs
    · exact ⟨[], s, by simp, rfl, hgoal⟩
    · obtain ⟨ls, t, hall, hrun, hgoal⟩ := ih (variant s') (hvariant ▸ hlt) hs' rfl
      refine ⟨l :: ls, t, ?_, m.run_cons_eq_some.mpr ⟨s', hstep, hrun⟩, hgoal⟩
      exact List.forall_mem_cons.mpr ⟨hallowed, hall⟩

/-! ## Comparing schedules and outputs -/

variable (m)

/-- Labels that no guarded step tells apart lead to the same state. -/
theorem run_eq_of_forall₂ {alike : ℓ → ℓ → Prop} {guard : σ → ℓ → Prop}
    (hstep : ∀ s l l', alike l l' → (∀ t, m.step s l = some t → guard s l) →
      (∀ t, m.step s l' = some t → guard s l') → m.step s l = m.step s l')
    {s : σ} {ls ls' : List ℓ} (h : List.Forall₂ alike ls ls') (hmeets : m.Meets guard s ls)
    (hmeets' : m.Meets guard s ls') : m.run s ls = m.run s ls' := by
  induction h generalizing s with
  | nil => rfl
  | @cons l l' ls ls' hlabel _ ih =>
    have hguard {k : ℓ} {ks : List ℓ} (hk : m.Meets guard s (k :: ks)) :
        ∀ t, m.step s k = some t → guard s k := by
      intro t ht
      simp only [Meets, ht] at hk
      exact hk.1
    have hsame := hstep s l l' hlabel (hguard hmeets) (hguard hmeets')
    cases ht : m.step s l with
    | none => rw [run, run, ← hsame, ht, Option.bind_none, Option.bind_none]
    | some t =>
      rw [run, run, ← hsame, ht, Option.bind_some, Option.bind_some]
      simp only [Meets, ht] at hmeets
      simp only [Meets, ← hsame, ht] at hmeets'
      exact ih hmeets.2 hmeets'.2

/-- Selecting from all that is shown is showing the selection. -/
theorem outputs_filterMap {ο π : Type*} (shows : σ → ℓ → List ο) (f : ο → Option π) (s : σ)
    (ls : List ℓ) :
    (m.outputs shows s ls).filterMap f = m.outputs (fun s l ↦ (shows s l).filterMap f) s ls := by
  induction ls generalizing s with
  | nil => rfl
  | cons l ls ih =>
    cases hstep : m.step s l with
    | none => simp [outputs, hstep]
    | some s' => simp [outputs, hstep, ih]

open scoped List in
/-- What is shown by two parties together, up to the order. -/
theorem outputs_append_perm {ο : Type*} (shows shows' : σ → ℓ → List ο) (s : σ) (ls : List ℓ) :
    (m.outputs (fun s l ↦ shows s l ++ shows' s l) s ls).Perm
      (m.outputs shows s ls ++ m.outputs shows' s ls) := by
  induction ls generalizing s with
  | nil => exact .nil
  | cons l ls ih =>
    cases hstep : m.step s l with
    | none => simp [outputs, hstep]
    | some s' =>
      simp only [outputs, hstep]
      calc
        shows s l ++ shows' s l ++ m.outputs (fun s l ↦ shows s l ++ shows' s l) s' ls
        _ ~ shows s l ++ shows' s l ++ (m.outputs shows s' ls ++ m.outputs shows' s' ls) :=
          (ih s').append_left _
        _ = shows s l ++ (shows' s l ++ m.outputs shows s' ls ++ m.outputs shows' s' ls) := by
          simp only [List.append_assoc]
        _ ~ shows s l ++ (m.outputs shows s' ls ++ shows' s l ++ m.outputs shows' s' ls) :=
          (List.perm_append_comm.append_right _).append_left _
        _ = shows s l ++ m.outputs shows s' ls ++ (shows' s l ++ m.outputs shows' s' ls) := by
          simp only [List.append_assoc]

variable {m}

/-- What goes through a queue, in every step, goes through it in order along the whole schedule. -/
theorem queue_of_run {ο : Type*} {enters leaves : σ → ℓ → List ο} (queue : σ → List ο)
    (hstep : ∀ s l s', m.step s l = some s' → queue s ++ enters s l = leaves s l ++ queue s')
    {s t : σ} {ls : List ℓ} (hrun : m.run s ls = some t) :
    queue s ++ m.outputs enters s ls = m.outputs leaves s ls ++ queue t := by
  induction ls generalizing s with
  | nil =>
    simp only [run_nil, Option.some.injEq] at hrun
    simp [outputs, hrun]
  | cons l ls ih =>
    obtain ⟨s', hl, hrest⟩ := m.run_cons_eq_some.mp hrun
    simp only [outputs, hl]
    rw [← List.append_assoc, hstep s l s' hl, List.append_assoc, ih hrest, List.append_assoc]

open scoped List in
/-- What goes through a pool, in every step, goes through it along the whole schedule, in any
order. -/
theorem pool_of_run {ο : Type*} {enters leaves : σ → ℓ → List ο} (pool : σ → List ο)
    (hstep : ∀ s l s', m.step s l = some s' →
      (pool s ++ enters s l).Perm (leaves s l ++ pool s'))
    {s t : σ} {ls : List ℓ} (hrun : m.run s ls = some t) :
    (pool s ++ m.outputs enters s ls).Perm (m.outputs leaves s ls ++ pool t) := by
  induction ls generalizing s with
  | nil =>
    simp only [run_nil, Option.some.injEq] at hrun
    simp [outputs, hrun]
  | cons l ls ih =>
    obtain ⟨s', hl, hrest⟩ := m.run_cons_eq_some.mp hrun
    simp only [outputs, hl]
    calc
      pool s ++ (enters s l ++ m.outputs enters s' ls)
      _ = pool s ++ enters s l ++ m.outputs enters s' ls := (List.append_assoc _ _ _).symm
      _ ~ leaves s l ++ pool s' ++ m.outputs enters s' ls := (hstep s l s' hl).append_right _
      _ = leaves s l ++ (pool s' ++ m.outputs enters s' ls) := List.append_assoc _ _ _
      _ ~ leaves s l ++ (m.outputs leaves s' ls ++ pool t) := (ih hrest).append_left _
      _ = leaves s l ++ m.outputs leaves s' ls ++ pool t := (List.append_assoc _ _ _).symm

end Labelled

end IotMonitoring.Machine
