import Mathlib.Data.List.TakeWhile
import Mathlib.Order.Basic
import Mathlib.Tactic.Common

/-!
# Arrays with a fill count

A fixed array of `n` slots together with the number of slots in use, as C programs keep tables and
registries. The slots below the count are the live ones; what lies at or above it is left over from
earlier use and stays readable by the operation that fills the next slot. Every operation is
described by its effect on the list of live slots.
-/

namespace IotMonitoring.Machine

/-- An array of `n` slots of which the first `count` are in use. -/
structure Slots (α : Type*) (n : ℕ) where
  items : List α
  count : ℕ
  length_eq : items.length = n
  count_le : count ≤ n

namespace Slots

variable {α : Type*} {n : ℕ}

/-- The slots in use, in index order. -/
def live (s : Slots α n) : List α := s.items.take s.count

/-- Zeroed storage with no slot in use. -/
def empty (n : ℕ) (a : α) : Slots α n where
  items := List.replicate n a
  count := 0
  length_eq := List.length_replicate
  count_le := Nat.zero_le n

@[simp]
theorem length_live (s : Slots α n) : s.live.length = s.count := by
  simp [live, s.length_eq, s.count_le]

/-- The first live slot that passes the test of a search loop. -/
def find (s : Slots α n) (p : α → Bool) : Option (Fin n) :=
  (s.live.findFinIdx? p).map (Fin.castLE (s.length_live.trans_le s.count_le))

def get (s : Slots α n) (i : Fin n) : α := s.items.get (i.cast s.length_eq.symm)

/-- What the slot at the fill count still holds. -/
def next (s : Slots α n) (h : s.count < n) : α :=
  s.items.get ⟨s.count, by rw [s.length_eq]; exact h⟩

/-- Overwrite the slot at the fill count and take it into use. -/
def push (s : Slots α n) (h : s.count < n) (a : α) : Slots α n where
  items := s.items.set s.count a
  count := s.count + 1
  length_eq := by rw [List.length_set, s.length_eq]
  count_le := h

/-- Update one slot in place. -/
def modify (s : Slots α n) (i : Fin n) (f : α → α) : Slots α n where
  items := s.items.modify i f
  count := s.count
  length_eq := by rw [List.length_modify, s.length_eq]
  count_le := s.count_le

/-- Forget every live slot without touching the array. -/
def reset (s : Slots α n) : Slots α n where
  items := s.items
  count := 0
  length_eq := s.length_eq
  count_le := Nat.zero_le n

/-- Move every slot one place down; the last slot keeps its old content and falls out of use. -/
def shift (s : Slots α n) : Slots α n where
  items := s.items.drop 1 ++ s.items.drop (n - 1)
  count := s.count - 1
  length_eq := by
    simp only [List.length_append, List.length_drop, s.length_eq]
    omega
  count_le := (Nat.sub_le _ _).trans s.count_le

@[simp]
theorem live_empty (a : α) : (empty n a).live = [] := by simp [live, empty]

@[simp]
theorem count_modify (s : Slots α n) (i : Fin n) (f : α → α) : (s.modify i f).count = s.count := rfl

/-- Taking a slot into use appends to the live slots. -/
@[simp]
theorem live_push (s : Slots α n) (h : s.count < n) (a : α) :
    (s.push h a).live = s.live ++ [a] := by
  have hlength : s.count < s.items.length := by rw [s.length_eq]; exact h
  simp only [live, push]
  rw [List.take_add_one, List.getElem?_set_self hlength, List.take_set_of_le le_rfl]
  rfl

/-- Updating a slot updates the live slots at the same index. -/
@[simp]
theorem live_modify (s : Slots α n) (i : Fin n) (f : α → α) :
    (s.modify i f).live = s.live.modify i f := by
  apply List.ext_getElem?
  intro j
  simp only [live, modify, List.getElem?_take, List.getElem?_modify]
  split <;> simp

/-- A live slot is found at its own index among the live slots. -/
theorem live_getElem? (s : Slots α n) {i : Fin n} (h : i < s.count) :
    s.live[i.val]? = some (s.get i) := by
  have hlt : i.val < s.items.length := s.length_eq.symm ▸ i.isLt
  rw [live, List.getElem?_take_of_lt h, List.getElem?_eq_getElem hlt]
  rfl

/-- Moving all slots down drops the first live slot. -/
@[simp]
theorem live_shift (s : Slots α n) : s.shift.live = s.live.drop 1 := by
  have hle : s.count - 1 ≤ (s.items.drop 1).length := by
    rw [List.length_drop, s.length_eq]
    exact Nat.sub_le_sub_right s.count_le 1
  calc
    s.shift.live = (s.items.drop 1).take (s.count - 1) := List.take_append_of_le_length hle
    _ = s.live.drop 1 := by rw [live, List.drop_take]

/-- The live slots, read one index after the other. -/
theorem live_eq_map_get (s : Slots α n) :
    s.live = ((List.finRange n).take s.count).map s.get := by
  have hitems : s.items = (List.finRange n).map s.get := by
    apply List.ext_getElem
    · rw [List.length_map, List.length_finRange, s.length_eq]
    · intro i hi _
      rw [List.getElem_map, List.getElem_finRange]
      rfl
  rw [List.map_take, ← hitems]
  rfl

/-- Taking a slot into use leaves the others as they are. -/
theorem get_push_ne (s : Slots α n) (h : s.count < n) (a : α) {i : Fin n} (hi : i.val ≠ s.count) :
    (s.push h a).get i = s.get i := List.getElem_set_ne hi.symm _

theorem get_push (s : Slots α n) (h : s.count < n) (a : α) {i : Fin n} (hlive : i < s.count) :
    (s.push h a).get i = s.get i := s.get_push_ne h a hlive.ne

theorem get_push_self (s : Slots α n) (h : s.count < n) (a : α) :
    (s.push h a).get ⟨s.count, h⟩ = a := List.getElem_set_self _

theorem get_modify_self (s : Slots α n) (i : Fin n) (f : α → α) :
    (s.modify i f).get i = f (s.get i) :=
  (List.getElem_modify f i.val s.items i.val _).trans (if_pos rfl)

theorem get_modify_ne (s : Slots α n) {i j : Fin n} (h : i ≠ j) (f : α → α) :
    (s.modify j f).get i = s.get i := by
  have hne : j.val ≠ i.val := fun hval ↦ h (Fin.ext hval.symm)
  exact (List.getElem_modify f j.val s.items i.val _).trans (if_neg hne)

/-- What an update keeps of the slot it is applied to, it keeps of every slot. -/
theorem get_modify_of_eq {γ : Type*} (s : Slots α n) (i j : Fin n) {f : α → α} {part : α → γ}
    (hf : ∀ a, part (f a) = part a) : part ((s.modify i f).get j) = part (s.get j) := by
  obtain rfl | hij := eq_or_ne j i
  · rw [get_modify_self, hf]
  · rw [get_modify_ne s hij]

theorem find_eq_some_iff {s : Slots α n} {p : α → Bool} {i : Fin n} :
    s.find p = some i ↔ s.live.findIdx? p = some i.val := by
  rw [find, List.findIdx?_eq_map_findFinIdx?_val, Option.map_eq_some_iff, Option.map_eq_some_iff]
  apply exists_congr
  intro j
  rw [Fin.ext_iff, Fin.val_castLE]

/-- A search fails when no live slot passes. -/
theorem find_eq_none_iff {s : Slots α n} {p : α → Bool} :
    s.find p = none ↔ ∀ a ∈ s.live, p a = false := by
  rw [find, Option.map_eq_none_iff, List.findFinIdx?_eq_none_iff]
  simp

/-- A search that succeeds stops at a live slot that passes. -/
theorem find_eq_some {s : Slots α n} {p : α → Bool} {i : Fin n} (h : s.find p = some i) :
    i < s.count ∧ p (s.get i) := by
  obtain ⟨hlt, hpass, -⟩ := List.findIdx?_eq_some_iff_getElem.mp (find_eq_some_iff.mp h)
  have hcount : i < s.count := s.length_live ▸ hlt
  have hslot := s.live_getElem? hcount
  rw [List.getElem?_eq_getElem hlt, Option.some.injEq] at hslot
  exact ⟨hcount, hslot ▸ hpass⟩

/-- A search finds a slot exactly when it is the first live one that passes. -/
theorem find_eq_some_iff_first {s : Slots α n} {p : α → Bool} {i : Fin n} :
    s.find p = some i ↔ i < s.count ∧ p (s.get i) ∧ ∀ j < i, p (s.get j) = false := by
  have hslot (j : Fin n) (hj : j < s.count) (hlt : j.val < s.live.length) :
      s.live[j.val] = s.get j := by
    have hget := s.live_getElem? hj
    rwa [List.getElem?_eq_getElem hlt, Option.some.injEq] at hget
  rw [find_eq_some_iff, List.findIdx?_eq_some_iff_getElem]
  constructor
  · rintro ⟨hlt, hpass, hfirst⟩
    have hlive : i < s.count := s.length_live ▸ hlt
    rw [hslot i hlive hlt] at hpass
    refine ⟨hlive, hpass, fun j hj ↦ ?_⟩
    have hother := hfirst j hj
    rwa [hslot j (Nat.lt_trans hj hlive), Bool.not_eq_true] at hother
  · rintro ⟨hlive, hpass, hfirst⟩
    have hlt : i.val < s.live.length := s.length_live.symm ▸ hlive
    refine ⟨hlt, by rwa [hslot i hlive hlt], fun j hj ↦ ?_⟩
    have hjlt : j < s.live.length := hj.trans hlt
    have hearlier : s.live[j] = s.get ⟨j, hj.trans i.isLt⟩ :=
      hslot ⟨j, hj.trans i.isLt⟩ (hj.trans hlive) hjlt
    rw [hearlier, Bool.not_eq_true]
    exact hfirst ⟨j, hj.trans i.isLt⟩ hj

/-- What holds of all live slots and survives an update holds of all of them after it. -/
theorem forall_live_modify {s : Slots α n} {P : α → Prop} (h : ∀ a ∈ s.live, P a) (i : Fin n)
    {f : α → α} (hf : ∀ a, P a → P (f a)) : ∀ a ∈ (s.modify i f).live, P a := by
  intro a ha
  obtain ⟨j, hj⟩ := List.mem_iff_getElem?.mp ha
  rw [live_modify, List.getElem?_modify] at hj
  obtain ⟨b, hslot, hab⟩ := Option.map_eq_some_iff.mp hj
  have hb := h b (List.mem_of_getElem? hslot)
  split at hab
  · exact hab ▸ hf b hb
  · exact hab ▸ hb

/-- Updating the slot a search has found keeps the slots that do not pass. -/
theorem mem_modify_of_find {s : Slots α n} {p : α → Bool} {i : Fin n} (hfind : s.find p = some i)
    {a : α} (hmem : a ∈ s.live) (hpass : p a = false) (f : α → α) : a ∈ (s.modify i f).live := by
  obtain ⟨j, hj, rfl⟩ := List.mem_iff_getElem.mp hmem
  have hij : i.val ≠ j := by
    rintro rfl
    obtain ⟨_, hfound, -⟩ := List.findIdx?_eq_some_iff_getElem.mp (find_eq_some_iff.mp hfind)
    simp [hfound] at hpass
  rw [live_modify]
  exact List.mem_iff_getElem?.mpr ⟨j, by simp [hij]⟩

/-- Updating the only slot that passes a search is a change of every slot that passes. -/
theorem live_modify_of_find {s : Slots α n} {p : α → Bool} {i : Fin n} (hfind : s.find p = some i)
    (honly : s.live.Pairwise fun a b ↦ p a → p b = false) (f : α → α) :
    (s.modify i f).live = s.live.map fun a ↦ if p a then f a else a := by
  rw [live_modify]
  rw [find_eq_some_iff] at hfind
  generalize s.live = l at hfind honly
  generalize i.val = k at hfind
  induction l generalizing k with
  | nil => simp at hfind
  | cons a l ih =>
    rw [List.pairwise_cons] at honly
    by_cases hpass : p a
    · obtain rfl : 0 = k := by simpa [List.findIdx?_cons, hpass] using hfind
      have hrest : l.map (fun b ↦ if p b then f b else b) = l := by
        refine (List.map_congr_left fun b hb ↦ ?_).trans l.map_id
        simp [honly.1 b hb hpass]
      simp [hpass, hrest]
    · obtain ⟨j, hj, rfl⟩ : ∃ j, l.findIdx? p = some j ∧ j + 1 = k := by
        simpa [List.findIdx?_cons, hpass] using hfind
      simp [hpass, ih honly.2 j hj]

/-! ## Loops

A loop over the live slots that looks at each of them, updates those that pass a test and counts
them. -/

section Loops

variable (p : α → Bool) (f : α → α)

/-- The rounds of such a loop over the given indices. -/
def updateWhere : List (Fin n) → Slots α n → Slots α n × ℕ
  | [], s => (s, 0)
  | i :: rest, s =>
    if p (s.get i) then
      let result := updateWhere rest (s.modify i f)
      (result.1, result.2 + 1)
    else updateWhere rest s

theorem count_updateWhere (rounds : List (Fin n)) (s : Slots α n) :
    (updateWhere p f rounds s).1.count = s.count := by
  induction rounds generalizing s with
  | nil => rfl
  | cons i rest ih =>
    rw [updateWhere]
    split
    · exact ih (s.modify i f)
    · exact ih s

/-- A round updates its own slot and leaves the slots of the other rounds alone. -/
theorem updateWhere_eq {rounds : List (Fin n)} (hnodup : rounds.Nodup) (s : Slots α n) :
    (∀ i ∈ rounds, (updateWhere p f rounds s).1.get i =
      if p (s.get i) then f (s.get i) else s.get i) ∧
    (∀ i ∉ rounds, (updateWhere p f rounds s).1.get i = s.get i) ∧
    (updateWhere p f rounds s).2 = rounds.countP fun i ↦ p (s.get i) := by
  induction rounds generalizing s with
  | nil => exact ⟨fun i hi ↦ absurd hi List.not_mem_nil, fun _ _ ↦ rfl, rfl⟩
  | cons i rest ih =>
    obtain ⟨hi, hrest⟩ := List.nodup_cons.mp hnodup
    rw [updateWhere]
    by_cases hpass : p (s.get i)
    · obtain ⟨hround, hother, hcount⟩ := ih hrest (s.modify i f)
      have hkept : ∀ j, j ≠ i → (s.modify i f).get j = s.get j := fun j hij ↦
        s.get_modify_ne hij f
      have hne : ∀ j ∈ rest, j ≠ i := fun j hj hij ↦ hi (hij ▸ hj)
      rw [if_pos hpass]
      refine ⟨fun j hj ↦ ?_, fun j hj ↦ ?_, ?_⟩
      · obtain rfl | hj := List.mem_cons.mp hj
        · rw [if_pos hpass, hother j hi, s.get_modify_self]
        · rw [hround j hj, hkept j (hne j hj)]
      · rw [List.mem_cons, not_or] at hj
        rw [hother j hj.2, hkept j hj.1]
      · dsimp only
        rw [hcount, List.countP_cons, if_pos hpass]
        congr 1
        apply List.countP_congr
        intro j hj
        rw [hkept j (hne j hj)]
    · obtain ⟨hround, hother, hcount⟩ := ih hrest s
      rw [if_neg hpass, List.countP_cons, if_neg hpass]
      refine ⟨fun j hj ↦ ?_, fun j hj ↦ hother j (List.not_mem_of_not_mem_cons hj), hcount⟩
      obtain rfl | hj := List.mem_cons.mp hj
      · rw [if_neg hpass, hother j hi]
      · exact hround j hj

/-- The loop over all live slots updates and counts those that pass. -/
theorem updateWhere_live (s : Slots α n) :
    let result := updateWhere p f ((List.finRange n).take s.count) s
    result.1.live = s.live.map (fun a ↦ if p a then f a else a) ∧
      result.2 = s.live.countP p := by
  have hnodup : ((List.finRange n).take s.count).Nodup :=
    (List.nodup_finRange n).sublist (List.take_sublist _ _)
  obtain ⟨hround, -, hcount⟩ := updateWhere_eq p f hnodup s
  constructor
  · rw [live_eq_map_get, count_updateWhere, s.live_eq_map_get, List.map_map]
    exact List.map_congr_left fun i hi ↦ hround i hi
  · rw [hcount, s.live_eq_map_get, List.countP_map]
    rfl

end Loops

/-! ## Keys

What a search looks at is a key of each slot. As long as the keys of the live slots only grow at
the end, a search that has succeeded keeps its answer and the slot keeps its key. -/

section Keys

variable {β : Type*} (key : α → β)

def keys (s : Slots α n) : List β := s.live.map key

@[simp]
theorem keys_push (s : Slots α n) (h : s.count < n) (a : α) :
    (s.push h a).keys key = s.keys key ++ [key a] := by simp [keys]

/-- An update of a slot is an update of its key when it acts on the key alone. -/
theorem keys_modify_of_comm (s : Slots α n) (i : Fin n) {f : α → α} {g : β → β}
    (hfg : ∀ a, key (f a) = g (key a)) :
    (s.modify i f).keys key = (s.keys key).modify i g := by
  apply List.ext_getElem?
  intro j
  simp only [keys, live_modify, List.getElem?_map, List.getElem?_modify]
  cases s.live[j]? with
  | none => rfl
  | some a =>
    simp only [Option.map_some]
    split <;> simp [hfg]

/-- An update that leaves the key alone leaves all keys alone. -/
theorem keys_modify (s : Slots α n) (i : Fin n) {f : α → α} (hf : ∀ a, key (f a) = key a) :
    (s.modify i f).keys key = s.keys key := by
  have hid : ∀ a, key (f a) = id (key a) := hf
  rw [keys_modify_of_comm key s i hid, List.modify_id]

theorem length_keys (s : Slots α n) : (s.keys key).length = s.count := by simp [keys]

theorem keys_getElem? (s : Slots α n) {i : Fin n} (hlive : i < s.count) :
    (s.keys key)[i.val]? = some (key (s.get i)) := by
  rw [keys, List.getElem?_map, s.live_getElem? hlive, Option.map_some]

/-- What holds of all pairs of keys holds of the slots in use. -/
theorem rel_of_pairwise {r : β → β → Prop} {s : Slots α n} (h : (s.keys key).Pairwise r)
    {i j : Fin n} (hij : i < j) (hlive : j < s.count) : r (key (s.get i)) (key (s.get j)) := by
  have hj : j.val < (s.keys key).length := by rwa [length_keys]
  have hi : i.val < (s.keys key).length := Nat.lt_trans hij hj
  have hpair := List.pairwise_iff_getElem.mp h i.val j.val hi hj hij
  have hfirst := keys_getElem? key s (Nat.lt_trans hij hlive)
  have hsecond := keys_getElem? key s hlive
  rw [List.getElem?_eq_getElem hi, Option.some.injEq] at hfirst
  rw [List.getElem?_eq_getElem hj, Option.some.injEq] at hsecond
  rwa [hfirst, hsecond] at hpair

/-- A search for a key looks at the keys only. -/
theorem map_find_eq (s : Slots α n) (q : β → Bool) :
    (s.find fun a ↦ q (key a)).map Fin.val = (s.keys key).findIdx? q := by
  rw [find, Option.map_map, keys, List.findIdx?_map, List.findIdx?_eq_map_findFinIdx?_val]
  rfl

variable {key}

theorem find_of_grow {s t : Slots α n} (h : s.keys key <+: t.keys key) {q : β → Bool}
    {i : Fin n} (hfind : s.find (fun a ↦ q (key a)) = some i) :
    t.find (fun a ↦ q (key a)) = some i := by
  have hindex := map_find_eq key s q
  rw [hfind, Option.map_some, eq_comm] at hindex
  have hgrown := h.findIdx?_eq_some hindex
  rw [← map_find_eq, Option.map_eq_some_iff] at hgrown
  obtain ⟨j, hj, hval⟩ := hgrown
  exact hj.trans (congrArg some (Fin.ext hval))

theorem key_get_of_grow {s t : Slots α n} (h : s.keys key <+: t.keys key) {i : Fin n}
    (hlive : i < s.count) : key (t.get i) = key (s.get i) := by
  have hlength : i < (s.keys key).length := by rwa [length_keys]
  have hcount : i < t.count := by
    rw [← length_keys key]
    exact hlength.trans_le h.length_le
  have hshared : (t.keys key)[i.val]? = (s.keys key)[i.val]? := by
    rw [List.prefix_iff_getElem?.mp h i.val hlength, List.getElem?_eq_getElem hlength]
  rw [keys_getElem? key s hlive, keys_getElem? key t hcount] at hshared
  exact Option.some.inj hshared

end Keys

end Slots

end IotMonitoring.Machine
