import Mathlib.Tactic.Common

/-!
# `Lib.Interleave` — two threads that share one memory

The code of a thread is a `Prog`: a tree of atomic accesses to a shared memory `W`. A read chooses how to go
on, a write changes the memory; nothing else is atomic. `exec` runs a thread alone, `Par` runs two threads
with their accesses interleaved in any order.
-/

namespace Interleave

/-- A thread's code: each constructor but the first is one atomic access to the shared memory. -/
inductive Prog (W : Type)
  | ret
  | read (k : W → Prog W)
  | write (f : W → W) (k : Prog W)

namespace Prog

variable {W : Type}

/-- `p`, then `q`. -/
def andThen : Prog W → Prog W → Prog W
  | ret, q => q
  | read k, q => read fun w => (k w).andThen q
  | write f k, q => write f (k.andThen q)

def seq : List (Prog W) → Prog W
  | [] => ret
  | p :: ps => p.andThen (seq ps)

def act (f : W → W) : Prog W := write f ret

def test (b : W → Bool) (p q : Prog W) : Prog W := read fun w => if b w then p else q

def exec : Prog W → W → W
  | ret, w => w
  | read k, w => (k w).exec w
  | write f k, w => k.exec (f w)

@[simp] theorem exec_ret (w : W) : (ret : Prog W).exec w = w := rfl
@[simp] theorem exec_read (k : W → Prog W) (w : W) : (read k).exec w = (k w).exec w := rfl
@[simp] theorem exec_act (f : W → W) (w : W) : (act f).exec w = f w := rfl

@[simp] theorem exec_test (b : W → Bool) (p q : Prog W) (w : W) :
    (test b p q).exec w = if b w then p.exec w else q.exec w := by
  simp only [test, exec]; split <;> rfl

@[simp] theorem exec_andThen (p q : Prog W) (w : W) : (p.andThen q).exec w = q.exec (p.exec w) := by
  induction p generalizing w with
  | ret => rfl
  | read k ih => exact ih w w
  | write f k ih => exact ih (f w)

@[simp] theorem exec_seq_nil (w : W) : (seq []).exec w = w := rfl

@[simp] theorem exec_seq_cons (p : Prog W) (ps : List (Prog W)) (w : W) :
    (seq (p :: ps)).exec w = (seq ps).exec (p.exec w) := exec_andThen p (seq ps) w

end Prog

open Prog

variable {W : Type}

/-! ## Interleavings -/

inductive Step : Prog W → W → Prog W → W → Prop
  | read {k : W → Prog W} {w : W} : Step (.read k) w (k w) w
  | write {f : W → W} {k : Prog W} {w : W} : Step (.write f k) w k (f w)

inductive Steps : Prog W → W → Prog W → W → Prop
  | refl {p : Prog W} {w : W} : Steps p w p w
  | head {p p' p'' : Prog W} {w w' w'' : W} : Step p w p' w' → Steps p' w' p'' w'' → Steps p w p'' w''

/-- **Two threads, interleaved**: from memory `w` they can end in the last argument. -/
inductive Par : Prog W → Prog W → W → W → Prop
  | done {w : W} : Par .ret .ret w w
  | left {p p' q : Prog W} {w w' w'' : W} : Step p w p' w' → Par p' q w' w'' → Par p q w w''
  | right {p q q' : Prog W} {w w' w'' : W} : Step q w q' w' → Par p q' w' w'' → Par p q w w''

theorem Par.lefts {p p' q : Prog W} {w w' w'' : W} (h : Steps p w p' w') (hp : Par p' q w' w'') : Par p q w w'' := by
  induction h with
  | refl => exact hp
  | head hs _ ih => exact .left hs (ih hp)

theorem Par.rights {p q q' : Prog W} {w w' w'' : W} (h : Steps q w q' w') (hp : Par p q' w' w'') : Par p q w w'' := by
  induction h with
  | refl => exact hp
  | head hs _ ih => exact .right hs (ih hp)

theorem steps_exec (p : Prog W) (w : W) : Steps p w .ret (p.exec w) := by
  induction p generalizing w with
  | ret => exact .refl
  | read k ih => exact .head .read (ih w w)
  | write f k ih => exact .head .write (ih (f w))

theorem par_serial (p q : Prog W) (w : W) : Par p q w (q.exec (p.exec w)) :=
  .lefts (steps_exec p w) (.rights (steps_exec q _) .done)

theorem Steps.andThen {p p' : Prog W} {w w' : W} (h : Steps p w p' w') (q : Prog W) :
    Steps (p.andThen q) w (p'.andThen q) w' := by
  induction h with
  | refl => exact .refl
  | head hs _ ih =>
    cases hs with
    | read => exact .head .read ih
    | write => exact .head .write ih

theorem Par.symm {p q : Prog W} {w w' : W} (h : Par p q w w') : Par q p w w' := by
  induction h with
  | done => exact .done
  | left hs _ ih => exact .right hs ih
  | right hs _ ih => exact .left hs ih

/-! ## Rely and guarantee -/

/-- Under interference within `R`, the thread's writes are within `G` and it ends in `Q`. -/
def Safe (R G : W → W → Prop) (Q : W → Prop) : Prog W → W → Prop
  | .ret, w => ∀ w', R w w' → Q w'
  | .read k, w => ∀ w', R w w' → Safe R G Q (k w') w'
  | .write f k, w => ∀ w', R w w' → G w' (f w') ∧ Safe R G Q k (f w')

section Rules

variable {R G : W → W → Prop} {Q M : W → Prop} {p q : Prog W} {w w' : W}

theorem Safe.stable (htrans : ∀ a b c, R a b → R b c → R a c) (h : Safe R G Q p w) (hw : R w w') :
    Safe R G Q p w' := by
  cases p with
  | ret | read k | write f k => exact fun w'' h'' => h w'' (htrans _ _ _ hw h'')

theorem Safe.step (hrefl : ∀ a, R a a) {p' : Prog W} (h : Safe R G Q p w) (hs : Step p w p' w') :
    (w' = w ∨ G w w') ∧ Safe R G Q p' w' := by
  cases hs with
  | read => exact ⟨.inl rfl, h w (hrefl w)⟩
  | write => exact ⟨.inr (h w (hrefl w)).1, (h w (hrefl w)).2⟩

/-- **Parallel composition.** Each thread's guarantee is within the other's rely. -/
theorem Par.sound {R₁ G₁ R₂ G₂ : W → W → Prop} {Q₁ Q₂ : W → Prop} (hr₁ : ∀ a, R₁ a a) (hr₂ : ∀ a, R₂ a a)
    (ht₁ : ∀ a b c, R₁ a b → R₁ b c → R₁ a c) (ht₂ : ∀ a b c, R₂ a b → R₂ b c → R₂ a c)
    (h₁₂ : ∀ a b, G₁ a b → R₂ a b) (h₂₁ : ∀ a b, G₂ a b → R₁ a b) (hp : Safe R₁ G₁ Q₁ p w)
    (hq : Safe R₂ G₂ Q₂ q w) (h : Par p q w w') : Q₁ w' ∧ Q₂ w' := by
  induction h with
  | done => exact ⟨hp _ (hr₁ _), hq _ (hr₂ _)⟩
  | left hs _ ih =>
    obtain ⟨hw, hp'⟩ := hp.step hr₁ hs
    refine ih hp' ?_
    rcases hw with rfl | hg
    · exact hq
    · exact hq.stable ht₂ (h₁₂ _ _ hg)
  | right hs _ ih =>
    obtain ⟨hw, hq'⟩ := hq.step hr₂ hs
    refine ih ?_ hq'
    rcases hw with rfl | hg
    · exact hp
    · exact hp.stable ht₁ (h₂₁ _ _ hg)

theorem Safe.andThen (hrefl : ∀ a, R a a) (h : Safe R G M p w) (hq : ∀ w, M w → Safe R G Q q w) :
    Safe R G Q (p.andThen q) w := by
  induction p generalizing w with
  | ret => exact hq w (h w (hrefl w))
  | read k ih => exact fun w' hw => ih w' (h w' hw)
  | write f k ih => exact fun w' hw => ⟨(h w' hw).1, ih (h w' hw).2⟩

theorem Safe.mono {Q' : W → Prop} (h : Safe R G Q p w) (hQ : ∀ w, Q w → Q' w) : Safe R G Q' p w := by
  induction p generalizing w with
  | ret => exact fun w' hw => hQ w' (h w' hw)
  | read k ih => exact fun w' hw => ih w' (h w' hw)
  | write f k ih => exact fun w' hw => ⟨(h w' hw).1, ih (h w' hw).2⟩

theorem Safe.ret (hQ : ∀ a b, R a b → Q a → Q b) (hw : Q w) : Safe R G Q .ret w := fun w' hr => hQ w w' hr hw

theorem Safe.read (hM : ∀ a b, R a b → M a → M b) {k : W → Prog W} (hk : ∀ w, M w → Safe R G Q (k w) w)
    (hw : M w) : Safe R G Q (.read k) w :=
  fun w' hr => hk w' (hM w w' hr hw)

theorem Safe.test (hM : ∀ a b, R a b → M a → M b) {b : W → Bool} (hp : ∀ w, M w → Safe R G Q p w)
    (hq : ∀ w, M w → Safe R G Q q w) (hw : M w) : Safe R G Q (.test b p q) w := by
  refine Safe.read hM (fun w hw => ?_) hw
  split
  · exact hp w hw
  · exact hq w hw

theorem Safe.act (hM : ∀ a b, R a b → M a → M b) (hQ : ∀ a b, R a b → Q a → Q b) {f : W → W}
    (hf : ∀ w, M w → G w (f w) ∧ Q (f w)) (hw : M w) : Safe R G Q (.act f) w := by
  intro w' hr
  obtain ⟨hg, hq⟩ := hf w' (hM w w' hr hw)
  exact ⟨hg, fun w'' hr' => hQ _ w'' hr' hq⟩

end Rules

/-! ## Threads that keep an invariant -/

/-- Every write of the thread keeps `I` and is within `G`, on every path it can take while `I` holds. -/
def Keeps (I : W → Prop) (G : W → W → Prop) : Prog W → Prop
  | .ret => True
  | .read k => ∀ w, I w → Keeps I G (k w)
  | .write f k => (∀ w, I w → I (f w) ∧ G w (f w)) ∧ Keeps I G k

section Keeps

variable {I : W → Prop} {G R : W → W → Prop} {p q : Prog W} {w w' : W}

theorem Keeps.andThen (hp : Keeps I G p) (hq : Keeps I G q) : Keeps I G (p.andThen q) := by
  induction p with
  | ret => exact hq
  | read k ih => exact fun w hw => ih w (hp w hw)
  | write f k ih => exact ⟨hp.1, ih hp.2⟩

theorem Keeps.seq {ps : List (Prog W)} (h : ∀ p ∈ ps, Keeps I G p) : Keeps I G (.seq ps) := by
  induction ps with
  | nil => trivial
  | cons p ps ih =>
    exact (h p List.mem_cons_self).andThen (ih fun q hq => h q (List.mem_cons_of_mem _ hq))

theorem Keeps.mono {I' : W → Prop} {G' : W → W → Prop} (h : Keeps I G p) (hI : ∀ w, I' w → I w)
    (hG : ∀ a b, I' a → I b → G a b → I' b ∧ G' a b) : Keeps I' G' p := by
  induction p with
  | ret => trivial
  | read k ih => exact fun w hw => ih w (h w (hI w hw))
  | write f k ih =>
    refine ⟨fun w hw => ?_, ih h.2⟩
    obtain ⟨hI', hg⟩ := h.1 w (hI w hw)
    exact hG w (f w) hw hI' hg

theorem Keeps.act {f : W → W} (h : ∀ w, I w → I (f w) ∧ G w (f w)) : Keeps I G (.act f) := ⟨h, trivial⟩

theorem Keeps.test {b : W → Bool} (hp : Keeps I G p) (hq : Keeps I G q) : Keeps I G (.test b p q) := by
  intro w _
  dsimp only
  split
  · exact hp
  · exact hq

/-- **The invariant rule**: if the other thread keeps `I` too, the thread is safe and ends in `I`. -/
theorem Keeps.safe (hR : ∀ a b, R a b → I a → I b) (h : Keeps I G p) (hw : I w) : Safe R G I p w := by
  induction p generalizing w with
  | ret => exact fun w' hr => hR _ _ hr hw
  | read k ih => exact fun w' hr => ih w' (h w' (hR _ _ hr hw)) (hR _ _ hr hw)
  | write f k ih =>
    intro w' hr
    obtain ⟨hI, hG⟩ := h.1 w' (hR _ _ hr hw)
    exact ⟨hG, ih h.2 hI⟩

theorem Keeps.exec (hrefl : ∀ a, G a a) (htrans : ∀ a b c, G a b → G b c → G a c) (h : Keeps I G p)
    (hw : I w) : I (p.exec w) ∧ G w (p.exec w) := by
  induction p generalizing w with
  | ret => exact ⟨hw, hrefl w⟩
  | read k ih => exact ih w (h w hw) hw
  | write f k ih =>
    obtain ⟨hI, hG⟩ := h.1 w hw
    obtain ⟨hI', hG'⟩ := ih h.2 hI
    exact ⟨hI', htrans _ _ _ hG hG'⟩

/-- **One thread moves, the other keeps.** The keeper's writes `G` do not disturb the mover, the mover's
    writes do not break the invariant the keeper works under. -/
theorem Par.mover {Q : W → Prop} (hrefl : ∀ a, G a a) (htrans : ∀ a b c, G a b → G b c → G a c)
    (hp : Safe G (fun a b => I a → I b) Q p w) (hq : Keeps I G q) (hI : I w) (h : Par p q w w') : Q w' :=
  (Par.sound hrefl (fun _ => id) htrans (fun _ _ _ hab hbc ha => hbc (hab ha)) (fun _ _ => id)
    (fun _ _ => id) hp (hq.safe (fun _ _ => id) hI) h).1

theorem Par.invariant {G' : W → W → Prop} (hp : Keeps I G p) (hq : Keeps I G' q) (hI : I w)
    (h : Par p q w w') : I w' := by
  have himp : ∀ {G p}, Keeps I G p → Keeps I (fun a b => I a → I b) p := fun h =>
    h.mono (fun _ => id) fun a b _ hb _ => ⟨hb, fun _ => hb⟩
  have hsafe : Safe (fun a b => I a → I b) (fun a b => I a → I b) I p w := (himp hp).safe (fun _ _ => id) hI
  exact Par.mover (fun _ => id) (fun _ _ _ hab hbc ha => hbc (hab ha)) hsafe (himp hq) hI h

end Keeps

end Interleave
