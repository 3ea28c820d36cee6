import Mathlib.Data.List.Basic

/-!
# `Lib.Framing` — a machine fed one symbol at a time, and streams cut at a delimiter

A machine that handles a stream symbol by symbol is `feed`; a stream of frames, each ended by a delimiter, is cut
by `frames` into the complete ones and by `rest` into what comes after the last delimiter. `frames_induction` is
the induction by which a statement about symbols becomes one about frames.
-/

namespace Framing

open List

/-! ## Feeding a machine -/

section Feed

variable {σ α ω : Type}

/-- The state after a list of symbols, and what was emitted on the way. -/
def feed (step : σ → α → σ × List ω) : σ → List α → σ × List ω
  | s, [] => (s, [])
  | s, a :: as => ((feed step (step s a).1 as).1, (step s a).2 ++ (feed step (step s a).1 as).2)

variable {step : σ → α → σ × List ω}

@[simp] theorem feed_nil (s : σ) : feed step s [] = (s, []) := rfl

theorem feed_cons (s : σ) (a : α) (as : List α) :
    feed step s (a :: as) = ((feed step (step s a).1 as).1, (step s a).2 ++ (feed step (step s a).1 as).2) := rfl

@[simp] theorem feed_singleton (s : σ) (a : α) : feed step s [a] = step s a := by
  simp [feed_cons]

theorem feed_append (s : σ) (as bs : List α) :
    feed step s (as ++ bs) =
      ((feed step (feed step s as).1 bs).1, (feed step s as).2 ++ (feed step (feed step s as).1 bs).2) := by
  induction as generalizing s with
  | nil => simp
  | cons a as ih => rw [cons_append, feed_cons, feed_cons, ih]; simp

/-- **The invariant rule.** What every symbol keeps is kept by a list of them, and what every symbol emits under
    the invariant is emitted only so. -/
theorem feed_invariant {I : σ → Prop} {O : ω → Prop} {A : α → Prop}
    (hstep : ∀ s a, I s → A a → I (step s a).1 ∧ ∀ o ∈ (step s a).2, O o) {s : σ} (hs : I s) {as : List α}
    (has : ∀ a ∈ as, A a) : I (feed step s as).1 ∧ ∀ o ∈ (feed step s as).2, O o := by
  induction as generalizing s with
  | nil => exact ⟨hs, by simp⟩
  | cons a as ih =>
    obtain ⟨hI, hO⟩ := hstep s a hs (has a (by simp))
    obtain ⟨hI', hO'⟩ := ih hI (fun b hb => has b (by simp [hb]))
    refine ⟨hI', ?_⟩
    intro o ho
    rcases mem_append.mp ho with h | h
    · exact hO o h
    · exact hO' o h

/-- **The lockstep rule.** Two states that one symbol keeps alike and that answer it with the same are alike after a
    list of symbols and have emitted the same. -/
theorem feed_lockstep {R : σ → σ → Prop}
    (hstep : ∀ s s' a, R s s' → R (step s a).1 (step s' a).1 ∧ (step s a).2 = (step s' a).2) {s s' : σ}
    (h : R s s') (as : List α) :
    R (feed step s as).1 (feed step s' as).1 ∧ (feed step s as).2 = (feed step s' as).2 := by
  induction as generalizing s s' with
  | nil => exact ⟨h, rfl⟩
  | cons a as ih =>
    obtain ⟨hR, hout⟩ := hstep s s' a h
    obtain ⟨hR', hout'⟩ := ih hR
    refine ⟨hR', ?_⟩
    rw [feed_cons, feed_cons, hout, hout']

end Feed

/-! ## Streams of delimited frames -/

section Frames

variable {α : Type} [DecidableEq α] (d : α)

/-- The complete frames of a stream and what comes after the last delimiter. -/
def cut : List α → List (List α) × List α
  | [] => ([], [])
  | a :: as =>
    if a = d then ([a] :: (cut as).1, (cut as).2)
    else
      match (cut as).1 with
      | [] => ([], a :: (cut as).2)
      | f :: fs => ((a :: f) :: fs, (cut as).2)

/-- The frames of a stream, each with the delimiter that ends it. -/
def frames (as : List α) : List (List α) := (cut d as).1

def rest (as : List α) : List α := (cut d as).2

variable {d}

theorem cut_open {as : List α} (h : d ∉ as) : cut d as = ([], as) := by
  induction as with
  | nil => rfl
  | cons a as ih =>
    have ha : a ≠ d := fun heq => h (by simp [heq])
    simp [cut, ha, ih (fun hmem => h (mem_cons_of_mem _ hmem))]

theorem cut_frame {body : List α} (as : List α) (h : d ∉ body) :
    cut d (body ++ d :: as) = ((body ++ [d]) :: (cut d as).1, (cut d as).2) := by
  induction body with
  | nil => simp [cut]
  | cons b body ih =>
    have hb : b ≠ d := fun heq => h (by simp [heq])
    simp [cut, hb, ih (fun hmem => h (mem_cons_of_mem _ hmem))]

theorem frames_open {as : List α} (h : d ∉ as) : frames d as = [] := by
  rw [frames, cut_open h]

theorem rest_open {as : List α} (h : d ∉ as) : rest d as = as := by
  rw [rest, cut_open h]

theorem frames_frame {body : List α} (as : List α) (h : d ∉ body) :
    frames d (body ++ d :: as) = (body ++ [d]) :: frames d as := by
  rw [frames, cut_frame as h, frames]

theorem rest_frame {body : List α} (as : List α) (h : d ∉ body) : rest d (body ++ d :: as) = rest d as := by
  rw [rest, cut_frame as h, rest]

/-- **Induction over the frames of a stream.** -/
theorem frames_induction {P : List α → Prop} (hopen : ∀ as, d ∉ as → P as)
    (hframe : ∀ body as, d ∉ body → P as → P (body ++ d :: as)) (as : List α) : P as := by
  induction hn : as.length using Nat.strongRecOn generalizing as with
  | ind n ih =>
    by_cases hd : d ∈ as
    · obtain ⟨body, tail, hsplit, hbody⟩ := eq_append_cons_of_mem hd
      rw [hsplit]
      refine hframe body tail hbody (ih tail.length ?_ tail rfl)
      rw [← hn, hsplit]
      simp only [length_append, length_cons]
      omega
    · exact hopen as hd

theorem flatten_frames (as : List α) : (frames d as).flatten ++ rest d as = as := by
  induction as using frames_induction (d := d) with
  | hopen as h => simp [frames_open h, rest_open h]
  | hframe body as h ih => rw [frames_frame as h, rest_frame as h]; simp [ih]

theorem exists_body {as f : List α} (hf : f ∈ frames d as) : ∃ body, d ∉ body ∧ f = body ++ [d] := by
  induction as using frames_induction (d := d) with
  | hopen as h => simp [frames_open h] at hf
  | hframe body as h ih =>
    rw [frames_frame as h] at hf
    rcases mem_cons.mp hf with rfl | hf
    · exact ⟨body, h, rfl⟩
    · exact ih hf

theorem frames_closed (as : List α) :
    ∃ body, d ∉ body ∧ rest d as = body ∧ frames d (as ++ [d]) = frames d as ++ [body ++ [d]] ∧
      rest d (as ++ [d]) = [] := by
  induction as using frames_induction (d := d) with
  | hopen as h =>
    refine ⟨as, h, rest_open h, ?_, ?_⟩
    · rw [frames_open h]; simpa [frames_open] using frames_frame [] h
    · simpa [rest_open] using rest_frame [] h
  | hframe body as h ih =>
    obtain ⟨last, hlast, hrest, hframes, hnone⟩ := ih
    refine ⟨last, hlast, by rw [rest_frame as h, hrest], ?_, ?_⟩
    · rw [append_assoc, cons_append, frames_frame _ h, frames_frame _ h, hframes]; rfl
    · rw [append_assoc, cons_append, rest_frame _ h, hnone]

end Frames

end Framing
