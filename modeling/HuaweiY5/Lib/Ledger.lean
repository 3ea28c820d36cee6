import HuaweiY5.Lib.Transducer

/-!
# `Lib.Ledger` — what is accumulated and what is taken out

An accumulator is filled by requests and emptied by flushes, each of which takes everything gathered since
the previous one. Its history is a list of `Item`s; the **window** is what has been added since the last
flush. A ledger is `Exact` when every flush took precisely its window, folded with the accumulator's
operation. From exactness alone: nothing is lost (`Exact.conserved`), and what a flush took can be traced to
the additions before it (`mem_window`).
-/

namespace Ledger

open List

/-- One event of an accumulator's history; `κ` says who flushed it. -/
inductive Item (κ α : Type)
  | add (a : α)
  | flush (k : κ) (a : α)
deriving DecidableEq

variable {κ α : Type}

/-- One item more: an addition enters the window, a flush empties it. -/
def Item.push (w : List α) : Item κ α → List α
  | .add a => w ++ [a]
  | .flush _ _ => []

variable (items : List (Item κ α))

def window : List α := items.foldl Item.push []

def added : List α := items.filterMap fun | .add a => some a | .flush _ _ => none

def flushed : List α := items.filterMap fun | .add _ => none | .flush _ a => some a

@[simp] theorem window_nil : window ([] : List (Item κ α)) = [] := rfl

@[simp] theorem window_snoc_add (a : α) : window (items ++ [Item.add a]) = window items ++ [a] := by
  simp [window, Item.push]

@[simp] theorem window_snoc_flush (k : κ) (a : α) : window (items ++ [Item.flush k a]) = [] := by
  simp [window, Item.push]

theorem mem_window {items : List (Item κ α)} {a : α} :
    a ∈ window items ↔ ∃ l r, items = l ++ Item.add a :: r ∧ ∀ k b, Item.flush k b ∉ r := by
  induction items using List.reverseRecOn with
  | nil => simp
  | append_singleton items it ih =>
    simp only [snoc_eq_append_cons]
    cases it with
    | flush k b =>
      refine ⟨fun h => absurd h (by simp), ?_⟩
      rintro ⟨l, r, ⟨-, -, h⟩ | ⟨r', rfl, -⟩, hr⟩
      · cases h
      · exact absurd (by simp) (hr k b)
    | add b =>
      rw [window_snoc_add, mem_append, mem_singleton, ih]
      constructor
      · rintro (⟨l, r, rfl, hr⟩ | rfl)
        · exact ⟨l, r ++ [Item.add b], .inr ⟨r, rfl, rfl⟩, fun k c hc => hr k c (by simpa using hc)⟩
        · exact ⟨items, [], .inl ⟨rfl, rfl, rfl⟩, by simp⟩
      · rintro ⟨l, r, ⟨rfl, rfl, h⟩ | ⟨r', rfl, rfl⟩, hr⟩
        · injection h with h
          exact .inr h.symm
        · exact .inl ⟨l, r', rfl, fun k c hc => hr k c (mem_append_left _ hc)⟩

/-! ## Exact ledgers -/

section Exact

variable (op : α → α → α) (e : α)

def total (l : List α) : α := l.foldr op e

@[simp] theorem total_nil : total op e [] = e := rfl

@[simp] theorem total_cons (a : α) (l : List α) : total op e (a :: l) = op a (total op e l) := rfl

def Exact (items : List (Item κ α)) : Prop := ∀ l k a r, items = l ++ .flush k a :: r → a = total op e (window l)

theorem exact_nil : Exact op e ([] : List (Item κ α)) := by
  intro l k a r h; simp at h

variable {op e}

variable {items : List (Item κ α)}

theorem Exact.snoc_add (h : Exact op e items) (b : α) : Exact op e (items ++ [Item.add b]) := by
  intro l k a r heq
  rcases snoc_eq_append_cons.mp heq with ⟨-, -, hit⟩ | ⟨r', -, hl⟩
  · cases hit
  · exact h l k a r' hl

theorem Exact.snoc_flush (h : Exact op e items) (k : κ) :
    Exact op e (items ++ [Item.flush k (total op e (window items))]) := by
  intro l k' a r heq
  rcases snoc_eq_append_cons.mp heq with ⟨-, rfl, hit⟩ | ⟨r', -, hl⟩
  · injection hit with _ ha
    exact ha.symm
  · exact h l k' a r' hl

variable [hassoc : Std.Associative op] [hid : Std.LawfulIdentity op e]

theorem total_append (l l' : List α) : total op e (l ++ l') = op (total op e l) (total op e l') := by
  induction l with
  | nil => exact (hid.left_id _).symm
  | cons a l ih => rw [cons_append, total_cons, ih, total_cons, hassoc.assoc]

theorem total_snoc (l : List α) (a : α) : total op e (l ++ [a]) = op (total op e l) a := by
  rw [total_append, total_cons, total_nil, hid.right_id]

/-- **Conservation**: what was flushed and what is still in the window is what was added. -/
theorem Exact.conserved (h : Exact op e items) :
    op (total op e (flushed items)) (total op e (window items)) = total op e (added items) := by
  induction items using List.reverseRecOn with
  | nil => exact hid.left_id _
  | append_singleton items it ih =>
    have hpre : Exact op e items := fun l k a r heq => h l k a (r ++ [it]) (by rw [heq]; simp)
    cases it with
    | add a =>
      have hf : flushed (items ++ [Item.add a]) = flushed items := by simp [flushed]
      have ha : added (items ++ [Item.add a]) = added items ++ [a] := by simp [added]
      rw [hf, ha, window_snoc_add, total_snoc, total_snoc, ← ih hpre, hassoc.assoc]
    | flush k a =>
      have hf : flushed (items ++ [Item.flush k a]) = flushed items ++ [a] := by simp [flushed]
      have ha : added (items ++ [Item.flush k a]) = added items := by simp [added]
      have hw : a = total op e (window items) := h items k a [] rfl
      rw [hf, ha, window_snoc_flush, total_snoc, hw, ih hpre, total_nil, hid.right_id]

end Exact

/-! ## Machine words under OR -/

theorem getLsbD_total_or {w : Nat} {l : List (BitVec w)} {i : Nat} :
    (total (· ||| ·) 0 l).getLsbD i = true ↔ ∃ a ∈ l, a.getLsbD i = true := by
  induction l with
  | nil => simp
  | cons a l ih => rw [total_cons, BitVec.getLsbD_or, Bool.or_eq_true, ih]; simp

end Ledger
