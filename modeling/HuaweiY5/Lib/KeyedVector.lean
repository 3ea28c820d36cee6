import Mathlib.Tactic.Common

/-!
# `Lib.KeyedVector` — a vector of values sorted by their keys

The container holds each key once, in ascending order. A value is found by its key or by its index; adding a key that
is there replaces its value.
-/

set_option linter.unusedSectionVars false

variable {κ ν : Type}

/-- Each key is below those behind it. -/
def KeyedVector.Ascending [LT κ] (items : List (κ × ν)) : Prop := items.Pairwise fun x y => x.1 < y.1

/-- Values by their keys, in the order of the keys. -/
structure KeyedVector (κ ν : Type) [LT κ] where
  items : List (κ × ν)
  ascending : KeyedVector.Ascending items

namespace KeyedVector

open List Option

/-! ## Lists of entries -/

section Lookup

variable [DecidableEq κ]

/-- The value of the first entry with the key. -/
def find (k : κ) : List (κ × ν) → Option ν
  | [] => none
  | x :: xs => if x.1 = k then some x.2 else find k xs

/-- The entries with other keys. -/
def erase (k : κ) (items : List (κ × ν)) : List (κ × ν) := items.filter fun x => decide (x.1 ≠ k)

/-- The entries, with `f` applied to the value of the key. -/
def update (k : κ) (f : ν → ν) (items : List (κ × ν)) : List (κ × ν) :=
  items.map fun x => if x.1 = k then (x.1, f x.2) else x

theorem mem_of_find {k : κ} {v : ν} {items : List (κ × ν)} (h : find k items = some v) : (k, v) ∈ items := by
  induction items with
  | nil => cases h
  | cons x xs ih =>
    rw [find] at h
    split at h
    · rename_i hk
      rw [← some.inj h, ← hk]
      exact mem_cons_self
    · exact mem_cons_of_mem _ (ih h)

theorem find_erase (k k' : κ) (items : List (κ × ν)) :
    find k' (erase k items) = if k' = k then none else find k' items := by
  induction items with
  | nil =>
    show none = if k' = k then none else none
    rw [ite_self]
  | cons x xs ih =>
    unfold erase at ih ⊢
    rw [filter_cons]
    by_cases hx : x.1 = k
    · rw [if_neg (by simp [hx]), ih, find]
      by_cases hk : k' = k
      · rw [if_pos hk, if_pos hk]
      · rw [if_neg hk, if_neg hk, if_neg fun h => hk (h.symm.trans hx)]
    · rw [if_pos (by simp [hx]), find, find, ih]
      by_cases hk : k' = k
      · rw [if_pos hk, if_pos hk, if_neg fun h => hx (h.trans hk)]
      · rw [if_neg hk, if_neg hk]

theorem find_update (k : κ) (f : ν → ν) (k' : κ) (items : List (κ × ν)) :
    find k' (update k f items) = if k' = k then (find k' items).map f else find k' items := by
  induction items with
  | nil =>
    show none = if k' = k then none else none
    rw [ite_self]
  | cons x xs ih =>
    unfold update at ih ⊢
    rw [map_cons]
    by_cases hx : x.1 = k
    · rw [if_pos hx, find, find, ih]
      by_cases hk : x.1 = k'
      · rw [if_pos hk, if_pos hk, if_pos (hk.symm.trans hx)]
        rfl
      · rw [if_neg hk, if_neg hk]
    · rw [if_neg hx, find, find, ih]
      by_cases hk : x.1 = k'
      · rw [if_pos hk, if_pos hk, if_neg fun h => hx (hk.trans h)]
      · rw [if_neg hk, if_neg hk]

end Lookup

/-! ## Ascending keys -/

section Keys

variable [LT κ]

/-- The entry in its place; it takes the place of an entry with the same key. -/
def insert [DecidableLT κ] (k : κ) (v : ν) : List (κ × ν) → List (κ × ν)
  | [] => [(k, v)]
  | x :: xs => if k < x.1 then (k, v) :: x :: xs else if x.1 < k then x :: insert k v xs else (k, v) :: xs

variable {items : List (κ × ν)} {x : κ × ν}

theorem mem_insert [DecidableLT κ] {k : κ} {v : ν} {y : κ × ν} (h : y ∈ insert k v items) : y = (k, v) ∨ y ∈ items := by
  induction items with
  | nil => exact .inl (mem_singleton.mp h)
  | cons x xs ih =>
    rw [insert] at h
    split at h
    · exact mem_cons.mp h
    · split at h
      · rcases mem_cons.mp h with rfl | htail
        · exact .inr mem_cons_self
        · rcases ih htail with heq | hmem
          · exact .inl heq
          · exact .inr (mem_cons_of_mem _ hmem)
      · rcases mem_cons.mp h with heq | htail
        · exact .inl heq
        · exact .inr (mem_cons_of_mem _ htail)

theorem ascending_erase [DecidableEq κ] (k : κ) (h : Ascending items) : Ascending (erase k items) :=
  List.Pairwise.filter _ h

theorem ascending_update [DecidableEq κ] (k : κ) (f : ν → ν) (h : Ascending items) : Ascending (update k f items) := by
  have hkey : ∀ x : κ × ν, (if x.1 = k then (x.1, f x.2) else x).1 = x.1 := by
    intro x
    split <;> rfl
  apply pairwise_map.mpr
  refine h.imp fun hlt => ?_
  rw [hkey, hkey]
  exact hlt

variable [Std.Irrefl fun a b : κ => a < b]

theorem nodup_keys (h : Ascending items) : (items.map Prod.fst).Nodup := by
  apply pairwise_map.mpr
  apply h.imp
  intro x y hlt heq
  exact Std.lt_irrefl (heq ▸ hlt)

/-- In ascending entries each one is found by its key. -/
theorem find_of_mem [DecidableEq κ] {k : κ} {v : ν} (hasc : Ascending items)
    (h : (k, v) ∈ items) : find k items = some v := by
  induction items with
  | nil => cases h
  | cons x xs ih =>
    obtain ⟨hx, hxs⟩ := pairwise_cons.mp hasc
    rcases mem_cons.mp h with rfl | htail
    · rw [find, if_pos rfl]
    · -- the keys behind `x` are above its own
      have hne : x.1 ≠ k := by
        intro heq
        exact Std.lt_irrefl (heq ▸ hx (k, v) htail)
      rw [find, if_neg hne]
      exact ih hxs htail

theorem ne_of_mem_take {i : Nat} {y : κ × ν} (hasc : Ascending items)
    (hx : items[i]? = some x) (hy : y ∈ items.take i) : y.1 ≠ x.1 := by
  have hmem : x ∈ items.drop i := mem_of_getElem? (i := 0) (by rw [getElem?_drop]; exact hx)
  intro heq
  rw [← take_append_drop i items] at hasc
  exact Std.lt_irrefl (heq ▸ (pairwise_append.mp hasc).2.2 y hy x hmem)

/-- A key has one index. -/
theorem index_unique {i j : Nat} {y : κ × ν} (hasc : Ascending items)
    (hx : items[i]? = some x) (hy : items[j]? = some y) (heq : x.1 = y.1) : i = j := by
  rcases Nat.lt_trichotomy i j with hlt | heq' | hgt
  · exact absurd heq (ne_of_mem_take hasc hy (mem_of_getElem? (i := i) (by rw [getElem?_take_of_lt hlt]; exact hx)))
  · exact heq'
  · exact absurd heq.symm
      (ne_of_mem_take hasc hx (mem_of_getElem? (i := j) (by rw [getElem?_take_of_lt hgt]; exact hy)))

variable [DecidableEq κ] {i : Nat}

theorem getElem?_update (f : ν → ν) (hasc : Ascending items) (hx : items[i]? = some x) (j : Nat) :
    (update x.1 f items)[j]? = if i = j then some (x.1, f x.2) else items[j]? := by
  rw [update, getElem?_map]
  rcases hy : items[j]? with _ | y
  · rw [map_none, if_neg]
    rintro rfl
    cases hx.symm.trans hy
  · rw [map_some]
    by_cases hij : i = j
    · subst hij
      obtain rfl : x = y := some.inj (hx.symm.trans hy)
      rw [if_pos rfl, if_pos rfl]
    · rw [if_neg hij, if_neg fun heq => hij (index_unique hasc hx hy heq.symm)]

theorem take_update (f : ν → ν) (hasc : Ascending items)
    (hx : items[i]? = some x) : (update x.1 f items).take i = items.take i := by
  rw [update, ← map_take]
  conv_rhs => rw [← List.map_id (items.take i)]
  apply map_congr_left
  intro y hy
  rw [if_neg (ne_of_mem_take hasc hx hy)]
  rfl

/-- Erasing the key at an index takes out that one entry. -/
theorem erase_eq (hasc : Ascending items) (hx : items[i]? = some x) :
    erase x.1 items = items.take i ++ items.drop (i + 1) := by
  obtain ⟨hi, hget⟩ := List.getElem?_eq_some_iff.mp hx
  have hsplit : items = items.take i ++ x :: items.drop (i + 1) := by
    rw [← hget, ← drop_eq_getElem_cons hi, take_append_drop]
  have hfront : ∀ y ∈ items.take i, decide (y.1 ≠ x.1) = true := fun y hy => decide_eq_true (ne_of_mem_take hasc hx hy)
  have hback : ∀ y ∈ items.drop (i + 1), decide (y.1 ≠ x.1) = true := by
    rw [hsplit] at hasc
    exact fun y hy => decide_eq_true fun heq => Std.lt_irrefl (heq ▸ (pairwise_cons.mp (pairwise_append.mp hasc).2.1).1 y hy)
  conv_lhs => rw [erase, hsplit, filter_append, filter_cons_of_neg (by simp), filter_eq_self.mpr hfront,
    filter_eq_self.mpr hback]

theorem take_erase (hasc : Ascending items) (hx : items[i]? = some x) :
    (erase x.1 items).take i = items.take i := by
  rw [erase_eq hasc hx]
  exact take_left' (length_take_of_le (Nat.le_of_lt (List.getElem?_eq_some_iff.mp hx).1))

end Keys

section Order

variable [LT κ] [DecidableEq κ] [DecidableLT κ] [Std.Irrefl fun a b : κ => a < b]
  [Trans (fun a b : κ => a < b) (fun a b : κ => a < b) (fun a b : κ => a < b)] [Std.Trichotomous fun a b : κ => a < b]

variable {items : List (κ × ν)}

/-- The entry is put where the order asks for it. -/
theorem ascending_insert (k : κ) (v : ν) (h : Ascending items) : Ascending (insert k v items) := by
  induction items with
  | nil => exact pairwise_singleton _ _
  | cons x xs ih =>
    obtain ⟨hx, hxs⟩ := pairwise_cons.mp h
    rw [insert]
    split
    · rename_i hlt
      apply pairwise_cons.mpr
      refine ⟨fun y hy => ?_, h⟩
      rcases mem_cons.mp hy with rfl | htail
      · exact hlt
      · exact Std.lt_trans hlt (hx y htail)
    · rename_i hnlt
      split
      · rename_i hgt
        apply pairwise_cons.mpr
        refine ⟨fun y hy => ?_, ih hxs⟩
        rcases mem_insert hy with rfl | hmem
        · exact hgt
        · exact hx y hmem
      · rename_i hngt
        have heq : k = x.1 := Std.Trichotomous.trichotomous k x.1 hnlt hngt
        apply pairwise_cons.mpr
        refine ⟨fun y hy => ?_, hxs⟩
        rw [heq]
        exact hx y hy

/-- A lookup finds the entry put in, and else what it found before. -/
theorem find_insert (k : κ) (v : ν) (h : Ascending items) (k' : κ) :
    find k' (insert k v items) = if k' = k then some v else find k' items := by
  induction items with
  | nil =>
    rw [insert, find, find]
    by_cases hk : k' = k
    · rw [if_pos hk.symm, if_pos hk]
    · rw [if_neg fun h => hk h.symm, if_neg hk]
      rfl
  | cons x xs ih =>
    obtain ⟨hx, hxs⟩ := pairwise_cons.mp h
    rw [insert]
    split
    · by_cases hk : k' = k
      · rw [find, if_pos hk.symm, if_pos hk]
      · rw [find, if_neg fun h => hk h.symm, if_neg hk]
    · rename_i hnlt
      split
      · rename_i hgt
        have hxk : x.1 ≠ k := fun heq => Std.lt_irrefl (heq ▸ hgt)
        rw [find, find, ih hxs]
        by_cases hk : k' = k
        · rw [if_pos hk, if_pos hk, if_neg fun h => hxk (h.trans hk)]
        · rw [if_neg hk, if_neg hk]
      · rename_i hngt
        have heq : k = x.1 := Std.Trichotomous.trichotomous k x.1 hnlt hngt
        rw [find, find, heq]
        by_cases hk : k' = x.1
        · rw [if_pos hk.symm, if_pos hk]
        · rw [if_neg fun h => hk h.symm, if_neg hk, if_neg fun h => hk h.symm]

end Order

/-! ## The container -/

/-- A container is its entries. -/
theorem eq_of_items [LT κ] {m m' : KeyedVector κ ν} (h : m.items = m'.items) : m = m' := by
  cases m
  cases m'
  cases h
  rfl

instance instDecidableEq [LT κ] [DecidableEq κ] [DecidableEq ν] : DecidableEq (KeyedVector κ ν) := fun a b =>
  if h : a.items = b.items then isTrue (eq_of_items h) else isFalse fun heq => h (congrArg KeyedVector.items heq)

/-- No entries. -/
def empty [LT κ] : KeyedVector κ ν := ⟨[], .nil⟩

/-- How many entries there are. -/
def size [LT κ] (m : KeyedVector κ ν) : Nat := m.items.length

variable [LT κ] [DecidableEq κ]

variable (m : KeyedVector κ ν)

/-- The value of a key, if the key is there. -/
def valueFor (k : κ) : Option ν := find k m.items

/-- Without the key. -/
def removeItem (k : κ) : KeyedVector κ ν := ⟨erase k m.items, ascending_erase k m.ascending⟩

/-- The value of the key changed in place; nothing, if the key is not there. -/
def modify (k : κ) (f : ν → ν) : KeyedVector κ ν := ⟨update k f m.items, ascending_update k f m.ascending⟩

section Values

variable (m : KeyedVector κ ν) (k k' : κ) (f : ν → ν)

@[simp] theorem valueFor_empty : (empty : KeyedVector κ ν).valueFor k = none := rfl

@[simp] theorem valueFor_removeItem : (m.removeItem k).valueFor k' = if k' = k then none else m.valueFor k' :=
  find_erase k k' m.items

@[simp] theorem valueFor_modify :
    (m.modify k f).valueFor k' = if k' = k then (m.valueFor k').map f else m.valueFor k' :=
  find_update k f k' m.items

@[simp] theorem size_modify : (m.modify k f).size = m.size := length_map _

theorem modify_modify (hf : ∀ v, f (f v) = f v) : (m.modify k f).modify k f = m.modify k f := by
  apply eq_of_items
  show update k f (update k f m.items) = update k f m.items
  rw [update, update, List.map_map]
  apply map_congr_left
  intro x _
  by_cases hx : x.1 = k
  · simp [hx, hf]
  · simp [hx]

theorem removeItem_modify : (m.modify k f).removeItem k = m.removeItem k := by
  apply eq_of_items
  show erase k (update k f m.items) = erase k m.items
  induction m.items with
  | nil => rfl
  | cons x xs ih =>
    unfold erase update at ih ⊢
    rw [map_cons, filter_cons, ih]
    by_cases hx : x.1 = k <;> simp [hx]

end Values

variable [DecidableLT κ] [Std.Irrefl fun a b : κ => a < b]
  [Trans (fun a b : κ => a < b) (fun a b : κ => a < b) (fun a b : κ => a < b)] [Std.Trichotomous fun a b : κ => a < b]

/-- A value under its key, instead of the one there was. -/
def add (m : KeyedVector κ ν) (k : κ) (v : ν) : KeyedVector κ ν := ⟨insert k v m.items, ascending_insert k v m.ascending⟩

variable {m : KeyedVector κ ν} {k : κ} {v : ν}

@[simp] theorem valueFor_add (m : KeyedVector κ ν) (k : κ) (v : ν) (k' : κ) :
    (m.add k v).valueFor k' = if k' = k then some v else m.valueFor k' :=
  find_insert k v m.ascending k'

theorem mem_items_iff : (k, v) ∈ m.items ↔ m.valueFor k = some v := ⟨find_of_mem m.ascending, mem_of_find⟩

theorem size_le_removeItem (m : KeyedVector κ ν) (k : κ) : m.size ≤ (m.removeItem k).size + 1 := by
  obtain ⟨items, hasc⟩ := m
  show items.length ≤ (erase k items).length + 1
  induction items with
  | nil => exact Nat.zero_le _
  | cons x xs ih =>
    obtain ⟨hx, hxs⟩ := pairwise_cons.mp hasc
    unfold erase at ih ⊢
    rw [filter_cons]
    by_cases hk : x.1 = k
    · -- the keys behind it are other ones
      have hrest : xs.filter (fun y => decide (y.1 ≠ k)) = xs := by
        apply filter_eq_self.mpr
        intro y hy
        exact decide_eq_true fun heq => Std.lt_irrefl ((hk.trans heq.symm) ▸ hx y hy)
      apply Nat.le_of_eq
      rw [if_neg (by simp [hk]), hrest, length_cons]
    · rw [if_pos (by simp [hk])]
      exact Nat.succ_le_succ (ih hxs)

/-! ## Equal vectors -/

section Equal

variable {m' : KeyedVector κ ν} {k' : κ} {f g : ν → ν}

theorem ext_valueFor (h : ∀ k, m.valueFor k = m'.valueFor k) : m = m' := by
  have hnodup : ∀ m : KeyedVector κ ν, m.items.Nodup := by
    intro m
    apply m.ascending.imp
    intro x y hlt heq
    exact Std.lt_irrefl (heq ▸ hlt)
  have hperm : m.items.Perm m'.items := by
    apply (perm_ext_iff_of_nodup (hnodup m) (hnodup m')).mpr
    rintro ⟨k, v⟩
    rw [mem_items_iff, mem_items_iff, h k]
  apply eq_of_items
  apply hperm.eq_of_pairwise _ m.ascending m'.ascending
  -- no two keys are below each other
  intro x y _ _ hxy hyx
  exact absurd (Std.lt_trans hxy hyx) Std.lt_irrefl

theorem modify_congr (h : ∀ v, m.valueFor k = some v → f v = g v) : m.modify k f = m.modify k g := by
  apply ext_valueFor
  intro k'
  rw [valueFor_modify, valueFor_modify]
  split
  · rename_i heq
    rw [heq]
    exact Option.map_congr h
  · rfl

theorem modify_self (h : ∀ v, m.valueFor k = some v → f v = v) : m.modify k f = m := by
  apply ext_valueFor
  intro k'
  rw [valueFor_modify]
  split
  · rename_i heq
    rw [heq, Option.map_congr h, Option.map_id']
  · rfl

theorem modify_of_none (h : m.valueFor k = none) : m.modify k f = m :=
  modify_self fun _ hv => absurd (hv.symm.trans h) (some_ne_none _)

theorem modify_comp : (m.modify k f).modify k g = m.modify k (g ∘ f) := by
  apply ext_valueFor
  intro k'
  simp only [valueFor_modify]
  split
  · rw [Option.map_map]
  · rfl

theorem modify_comm (h : k ≠ k') : (m.modify k f).modify k' g = (m.modify k' g).modify k f := by
  apply ext_valueFor
  intro k''
  simp only [valueFor_modify]
  by_cases hk : k'' = k
  · have hk' : k'' ≠ k' := fun heq => h (hk.symm.trans heq)
    rw [if_pos hk, if_pos hk, if_neg hk', if_neg hk']
  · rw [if_neg hk, if_neg hk]

theorem removeItem_comm (h : k ≠ k') : (m.modify k f).removeItem k' = (m.removeItem k').modify k f := by
  apply ext_valueFor
  intro k''
  simp only [valueFor_modify, valueFor_removeItem]
  by_cases hk : k'' = k
  · have hk' : k'' ≠ k' := fun heq => h (hk.symm.trans heq)
    rw [if_pos hk, if_pos hk, if_neg hk', if_neg hk']
  · rw [if_neg hk, if_neg hk]

theorem add_comm_modify (h : k ≠ k') : (m.modify k f).add k' v = (m.add k' v).modify k f := by
  apply ext_valueFor
  intro k''
  simp only [valueFor_modify, valueFor_add]
  by_cases hk : k'' = k
  · have hk' : k'' ≠ k' := fun heq => h (hk.symm.trans heq)
    rw [if_pos hk, if_pos hk, if_neg hk', if_neg hk']
  · rw [if_neg hk, if_neg hk]

end Equal

end KeyedVector
