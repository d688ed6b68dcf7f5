import IotMonitoring.Machine.Labelled
import Mathlib.Algebra.BigOperators.Group.Multiset.Basic
import Mathlib.Tactic.Abel
import Mathlib.Tactic.Common

/-!
# Resources and their owners

Several holders take resources into use, give them back, and pass them on to holders they start. A
holder works through one script after the other. The rest of the world hands out only what nobody
holds at the moment, and a resource that has been given back may be handed out again, to anybody.
A release of something the holder does not own is therefore a fault even if somebody else owns it.

When every script, run alone, gives up only what its holder owns, and ends with what its holder had
at the start or with nothing, then no interleaving of any number of holders has a fault, and what
is held is at every moment what the holders own together.
-/

namespace IotMonitoring.Machine

/-- What a script does with resources. -/
inductive Use (ρ τ : Type) where
  | acquire (resource : ρ)
  | release (resource : ρ)
  | spawn (role : τ) (given : Multiset ρ)

/-- A party with its role, what it owns, and what it has still to do. -/
structure Holder (ρ τ : Type) where
  role : τ
  owned : Multiset ρ
  script : List (Use ρ τ)

/-- What is held, whether something was given up by a holder that did not own it, and the
holders. -/
structure World (ρ τ : Type) where
  held : Multiset ρ
  faulty : Bool
  holders : List (Holder ρ τ)

/-- An idle holder starts an activity, or a holder makes the next step of its script. -/
inductive Move (ℓ : Type) where
  | start (holder : ℕ) (activity : ℓ)
  | run (holder : ℕ)

variable {ρ τ ℓ : Type} [DecidableEq ρ]

/-- One step of a script, for the holder at a position. -/
def World.use (w : World ρ τ) (i : ℕ) (holder : Holder ρ τ) (rest : List (Use ρ τ)) :
    Use ρ τ → Option (World ρ τ)
  | .acquire resource =>
    if resource ∈ w.held then none
    else some
      { w with
        held := resource ::ₘ w.held
        holders := w.holders.set i ⟨holder.role, resource ::ₘ holder.owned, rest⟩ }
  | .release resource => some
      { held := w.held.erase resource
        faulty := w.faulty || resource ∉ holder.owned
        holders := w.holders.set i ⟨holder.role, holder.owned.erase resource, rest⟩ }
  | .spawn role given => some
      { w with
        faulty := w.faulty || ¬ given ≤ holder.owned
        holders := w.holders.set i ⟨holder.role, holder.owned - given, rest⟩ ++
          [⟨role, given, []⟩] }

/-- Holders that start scripts when they are idle and own what their role has. -/
def ownership (base : τ → Multiset ρ) (scriptOf : τ → ℓ → Option (List (Use ρ τ))) :
    Labelled (World ρ τ) (Move ℓ) where
  step w move :=
    match move with
    | .start i activity =>
      match w.holders[i]? with
      | some ⟨role, owned, []⟩ =>
        if owned = base role then
          (scriptOf role activity).map fun script ↦
            { w with holders := w.holders.set i ⟨role, owned, script⟩ }
        else none
      | _ => none
    | .run i =>
      match w.holders[i]? with
      | some ⟨role, owned, use :: rest⟩ => w.use i ⟨role, owned, use :: rest⟩ rest use
      | _ => none

/-- What a script leaves to a holder, when it gives up only what is owned and passes on what the
new role has. -/
def settle (base : τ → Multiset ρ) : List (Use ρ τ) → Multiset ρ → Option (Multiset ρ)
  | [], owned => some owned
  | .acquire resource :: rest, owned => settle base rest (resource ::ₘ owned)
  | .release resource :: rest, owned =>
    if resource ∈ owned then settle base rest (owned.erase resource) else none
  | .spawn role given :: rest, owned =>
    if given ≤ owned ∧ given = base role then settle base rest (owned - given) else none

/-- The script ends with what the role has, or with nothing. -/
def Settles (base : τ → Multiset ρ) (role : τ) (script : List (Use ρ τ)) (owned : Multiset ρ) :
    Prop :=
  settle base script owned = some (base role) ∨ settle base script owned = some 0

/-- What the holders own together. -/
def owned (holders : List (Holder ρ τ)) : Multiset ρ := (holders.map Holder.owned).sum

/-- No fault so far, everything that is held is owned by exactly one holder, and all scripts go on
like this. -/
structure World.Sound (base : τ → Multiset ρ) (w : World ρ τ) : Prop where
  faultless : w.faulty = false
  held : w.held = Machine.owned w.holders
  nodup : w.held.Nodup
  settles : ∀ holder ∈ w.holders, Settles base holder.role holder.script holder.owned

variable {base : τ → Multiset ρ}

omit [DecidableEq ρ] in
/-- Changing one holder changes what it contributes. -/
theorem owned_set {holders : List (Holder ρ τ)} {i : ℕ} {holder : Holder ρ τ}
    (h : holders[i]? = some holder) (holder' : Holder ρ τ) :
    owned (holders.set i holder') + holder.owned = owned holders + holder'.owned := by
  induction holders generalizing i with
  | nil => simp at h
  | cons head rest ih =>
    cases i with
    | zero =>
      obtain rfl := Option.some.inj (h.symm.trans (List.getElem?_cons_zero ..)).symm
      simp only [owned, List.set_cons_zero, List.map_cons, List.sum_cons]
      abel
    | succ i =>
      have hrest := ih h
      simp only [owned, List.set_cons_succ, List.map_cons, List.sum_cons] at hrest ⊢
      rw [add_assoc, hrest, add_assoc]

omit [DecidableEq ρ] in
theorem forall_set {P : Holder ρ τ → Prop} {holders : List (Holder ρ τ)}
    (h : ∀ holder ∈ holders, P holder) (i : ℕ) {holder' : Holder ρ τ} (h' : P holder') :
    ∀ holder ∈ holders.set i holder', P holder := by
  intro holder hmem
  obtain hmem | rfl := List.mem_or_eq_of_mem_set hmem
  · exact h holder hmem
  · exact h'

omit [DecidableEq ρ] in
theorem owned_le {holders : List (Holder ρ τ)} {holder : Holder ρ τ} (h : holder ∈ holders) :
    holder.owned ≤ owned holders := by
  obtain ⟨front, back, rfl⟩ := List.append_of_mem h
  simp only [owned, List.map_append, List.map_cons, List.sum_append, List.sum_cons]
  exact (Multiset.le_add_right _ _).trans (Multiset.le_add_left _ _)

/-- Each step of a script that settles keeps the world sound. -/
theorem World.Sound.use {w w' : World ρ τ} (h : w.Sound base) {i : ℕ} {role : τ}
    {mine : Multiset ρ} {use : Use ρ τ} {rest : List (Use ρ τ)}
    (hi : w.holders[i]? = some ⟨role, mine, use :: rest⟩)
    (hstep : w.use i ⟨role, mine, use :: rest⟩ rest use = some w') : w'.Sound base := by
  have hmem := List.mem_of_getElem? hi
  have hsettles := h.settles _ hmem
  cases use with
  | acquire resource =>
    obtain ⟨hfresh, heq⟩ := Option.ite_none_left_eq_some.mp hstep
    obtain rfl := Option.some.inj heq
    refine ⟨h.faultless, ?_, Multiset.nodup_cons.mpr ⟨hfresh, h.nodup⟩,
      forall_set h.settles i hsettles⟩
    have hsum := owned_set hi ⟨role, resource ::ₘ mine, rest⟩
    rw [← h.held, Multiset.add_cons, ← Multiset.cons_add] at hsum
    exact (add_right_cancel hsum).symm
  | release resource =>
    obtain rfl := Option.some.inj hstep
    have hmine : resource ∈ mine := by
      by_contra hother
      simp [Settles, settle, hother] at hsettles
    simp only [Settles, settle, if_pos hmine] at hsettles
    refine ⟨by simp [h.faultless, hmine], ?_, h.nodup.erase resource,
      forall_set h.settles i hsettles⟩
    have hsum := owned_set hi ⟨role, mine.erase resource, rest⟩
    have hheld : resource ∈ w.held :=
      Multiset.mem_of_le (h.held ▸ owned_le hmem) hmine
    rw [← h.held, ← Multiset.cons_erase hheld, Multiset.cons_add, ← Multiset.add_cons,
      Multiset.cons_erase hmine] at hsum
    exact (add_right_cancel hsum).symm
  | spawn role' given =>
    obtain rfl := Option.some.inj hstep
    have hgiven : given ≤ mine ∧ given = base role' := by
      by_contra hother
      simp [Settles, settle, hother] at hsettles
    simp only [Settles, settle, if_pos hgiven] at hsettles
    refine ⟨by simp [h.faultless, hgiven.1], ?_, h.nodup, ?_⟩
    · have hsum := owned_set hi ⟨role, mine - given, rest⟩
      have hsplit : mine - given + given = mine := Multiset.sub_add_cancel hgiven.1
      have happend : owned (w.holders.set i ⟨role, mine - given, rest⟩ ++ [⟨role', given, []⟩]) =
          owned (w.holders.set i ⟨role, mine - given, rest⟩) + given := by
        simp [owned]
      rw [happend]
      apply add_right_cancel (b := mine - given)
      rw [h.held, ← hsum, add_assoc, add_comm given, hsplit]
    · refine List.forall_mem_append.mpr ⟨forall_set h.settles i hsettles, ?_⟩
      exact List.forall_mem_singleton.mpr (.inl (congrArg some hgiven.2))

/-- When nobody has anything left to do, what is held is what the roles of the holders have that own
something. -/
theorem World.Sound.held_of_idle {w : World ρ τ} (h : w.Sound base)
    (hidle : ∀ holder ∈ w.holders, holder.script = []) :
    w.held = (((w.holders.filter fun holder ↦ holder.owned ≠ 0).map Holder.role).map base).sum := by
  have hholders (holders : List (Holder ρ τ))
      (hall : ∀ holder ∈ holders, holder.owned = base holder.role ∨ holder.owned = 0) :
      owned holders =
        (((holders.filter fun holder ↦ holder.owned ≠ 0).map Holder.role).map base).sum := by
    induction holders with
    | nil => rfl
    | cons holder rest ih =>
      rw [List.forall_mem_cons] at hall
      have hrest := ih hall.2
      by_cases hnothing : holder.owned = 0
      · rw [List.filter_cons_of_neg (by simpa using hnothing), ← hrest]
        simp [owned, hnothing]
      · rw [List.filter_cons_of_pos (by simpa using hnothing), List.map_cons, List.map_cons,
          List.sum_cons, ← hrest, ← hall.1.resolve_right hnothing]
        rfl
  rw [h.held]
  apply hholders
  intro holder hmem
  have hsettles := h.settles holder hmem
  rw [Settles, hidle holder hmem] at hsettles
  exact hsettles.imp Option.some.inj Option.some.inj

/-- The ownership rule: scripts that settle, run by any number of holders in any order, never give
up what is not theirs, and lose nothing. -/
theorem sound_of_reachable {scriptOf : τ → ℓ → Option (List (Use ρ τ))}
    (hscripts : ∀ role activity script, scriptOf role activity = some script →
      Settles base role script (base role))
    {w w' : World ρ τ} (h : w.Sound base) (hreach : (ownership base scriptOf).Reachable w w') :
    w'.Sound base := by
  refine Labelled.inv_of_reachable (World.Sound base) (fun u move v hu hstep ↦ ?_) h hreach
  cases move with
  | start i activity =>
    simp only [ownership] at hstep
    split at hstep
    · rename_i role mine hi
      split at hstep
      · rename_i hbase
        obtain ⟨script, hscript, rfl⟩ := Option.map_eq_some_iff.mp hstep
        refine ⟨hu.faultless, ?_, hu.nodup, forall_set hu.settles i ?_⟩
        · have hsum := owned_set hi ⟨role, mine, script⟩
          exact hu.held.trans (add_right_cancel hsum).symm
        · exact hbase ▸ hscripts role activity script hscript
      · cases hstep
    · cases hstep
  | run i =>
    simp only [ownership] at hstep
    split at hstep
    · rename_i role mine use rest hi
      exact hu.use hi hstep
    · cases hstep

end IotMonitoring.Machine
