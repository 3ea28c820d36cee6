import Mathlib.Tactic.Common

/-!
# `Lib.Critical` — two threads and one lock

A thread is a program of single accesses of the shared memory. Some of them stand in sections that hold the lock, the
others interleave with everything. An access can have a guard: it goes wrong in a memory where the guard fails.
-/

namespace Critical

open Option

variable {W : Type}

/-- The accesses of a section: each changes the memory, and what follows depends on what it found. -/
inductive Body (W : Type)
  | done
  | access (f : W → W) (k : W → Body W)

/-- A program: accesses without the lock, each with its guard, and sections. -/
inductive Prog (W : Type)
  | done
  | access (ok : W → Bool) (f : W → W) (k : W → Prog W)
  | locked (b : Body W) (k : Prog W)

def Body.exec : Body W → W → W
  | .done, w => w
  | .access f k, w => (k w).exec (f w)

def Prog.exec : Prog W → W → W
  | .done, w => w
  | .access _ f k, w => (k w).exec (f w)
  | .locked b k, w => k.exec (b.exec w)

def Body.unlocked (ok : W → Bool) (rest : Prog W) : Body W → Prog W
  | .done => rest
  | .access f k => .access ok f fun w => (k w).unlocked ok rest

inductive Thread (W : Type)
  | outside (p : Prog W)
  | inside (b : Body W) (k : Prog W)

def Thread.away : Thread W → Bool
  | .outside _ => true
  | .inside _ _ => false

/-- One step of a thread, if it can make one; `free` says that nobody else has the lock. -/
def Thread.step (free : Bool) (w : W) : Thread W → Option (Thread W × W)
  | .outside .done => none
  | .outside (.access ok f k) => if ok w then some (.outside (k w), f w) else none
  | .outside (.locked b k) => if free then some (.inside b k, w) else none
  | .inside .done k => some (.outside k, w)
  | .inside (.access f k') k => some (.inside (k' w) k, f w)

inductive Turn
  | left
  | right
  deriving DecidableEq

structure Config (W : Type) where
  left : Thread W
  right : Thread W
  mem : W

def Config.step (c : Config W) : Turn → Option (Config W)
  | .left => (c.left.step c.right.away c.mem).map fun r => ⟨r.1, c.right, r.2⟩
  | .right => (c.right.step c.left.away c.mem).map fun r => ⟨c.left, r.1, r.2⟩

def Config.run : List Turn → Config W → Option (Config W)
  | [], c => some c
  | t :: ts, c => (c.step t).bind (Config.run ts)

def beside (A : Prog W) (body : Body W) (w : W) : Config W := ⟨.outside A, .outside (.locked body .done), w⟩

def Thread.Wrong (w : W) : Thread W → Prop
  | .outside (.access ok _ _) => ok w = false
  | _ => False

instance Thread.instDecidableWrong (w : W) : (t : Thread W) → Decidable (t.Wrong w)
  | .outside (.access ok _ _) => inferInstanceAs (Decidable (ok w = false))
  | .outside .done | .outside (.locked _ _) | .inside _ _ => isFalse id

def Config.Wrong (c : Config W) : Prop := c.left.Wrong c.mem ∨ c.right.Wrong c.mem

instance Config.instDecidableWrong (c : Config W) : Decidable c.Wrong :=
  inferInstanceAs (Decidable (c.left.Wrong c.mem ∨ c.right.Wrong c.mem))

def Config.Finished (c : Config W) : Prop := c.left = .outside .done ∧ c.right = .outside .done

/-! ## One program on its own -/

/-- What is left of a program, and the memory, at a point where it does not have the lock. -/
inductive Reaches : Prog W → W → Prog W → W → Prop
  | refl (p : Prog W) (w : W) : Reaches p w p w
  | access {ok : W → Bool} {f : W → W} {k : W → Prog W} {w w' : W} {p' : Prog W} :
      Reaches (k w) (f w) p' w' → Reaches (.access ok f k) w p' w'
  | locked {b : Body W} {k : Prog W} {w w' : W} {p' : Prog W} :
      Reaches k (b.exec w) p' w' → Reaches (.locked b k) w p' w'

/-- No access goes wrong when the program runs on its own. -/
def Safe (p : Prog W) (w : W) : Prop := ∀ ok f k w', Reaches p w (.access ok f k) w' → ok w' = true

namespace Reaches

variable {p q r : Prog W} {w w' w'' : W}

theorem trans (h : Reaches p w q w') (h' : Reaches q w' r w'') : Reaches p w r w'' := by
  induction h with
  | refl => exact h'
  | access _ ih => exact .access (ih h')
  | locked _ ih => exact .locked (ih h')

theorem exec_eq (h : Reaches p w q w') : q.exec w' = p.exec w := by
  induction h with
  | refl => rfl
  | access _ ih | locked _ ih => exact ih

theorem of_done (h : Reaches .done w q w') : q = .done ∧ w' = w := by
  cases h
  exact ⟨rfl, rfl⟩

end Reaches

theorem Safe.of_reaches {p q : Prog W} {w w' : W} (h : Safe p w) (hr : Reaches p w q w') : Safe q w' :=
  fun ok f k w'' hr' => h ok f k w'' (hr.trans hr')

theorem safe_done (w : W) : Safe .done w := by
  intro ok f k w' h
  exact absurd h.of_done.1 (by simp)

theorem reaches_exec (p : Prog W) (w : W) : Reaches p w .done (p.exec w) := by
  induction p generalizing w with
  | done => exact .refl _ _
  | access ok f k ih => exact .access (ih w (f w))
  | locked b k ih => exact .locked (ih (b.exec w))

theorem Safe.access {ok : W → Bool} {f : W → W} {k : W → Prog W} {w : W} (hok : ok w = true) (h : Safe (k w) (f w)) :
    Safe (.access ok f k) w := by
  intro ok' f' k' w' hr
  cases hr with
  | refl => exact hok
  | access hr => exact h ok' f' k' w' hr

theorem Safe.locked {b : Body W} {k : Prog W} {w : W} (h : Safe k (b.exec w)) : Safe (.locked b k) w := by
  intro ok f k' w' hr
  cases hr with
  | locked hr => exact h ok f k' w' hr

theorem exec_unlocked (ok : W → Bool) (rest : Prog W) (b : Body W) (w : W) :
    (b.unlocked ok rest).exec w = rest.exec (b.exec w) := by
  induction b generalizing w with
  | done => rfl
  | access f k ih => exact ih w (f w)

/-! ## Properties of all accesses -/

/-- Every access of a section, as long as the memory is as `I` says. -/
def Body.Each (I : W → Prop) (Q : (W → W) → (W → Body W) → Prop) : Body W → Prop
  | .done => True
  | .access f k => Q f k ∧ ∀ w, I w → (k w).Each I Q

/-- Every access without the lock, and every section with what follows it. -/
def Prog.Each (I : W → Prop) (P : (W → Bool) → (W → W) → (W → Prog W) → Prop) (R : Body W → Prog W → Prop) :
    Prog W → Prop
  | .done => True
  | .access ok f k => P ok f k ∧ ∀ w, I w → (k w).Each I P R
  | .locked b k => R b k ∧ k.Each I P R

variable {P : (W → Bool) → (W → W) → (W → Prog W) → Prop} {R : Body W → Prog W → Prop}
  {Q Q' : (W → W) → (W → Body W) → Prop}

variable {I : W → Prop}

theorem Body.Each.mono (hQ : ∀ {f k}, Q f k → Q' f k) {b : Body W} (hb : b.Each (fun _ => True) Q) : b.Each I Q' := by
  induction b with
  | done => trivial
  | access f k ih => exact ⟨hQ hb.1, fun w _ => ih w (hb.2 w trivial)⟩

theorem Body.Each.branch {c : W → Prop} [∀ w, Decidable (c w)] {b b' : Body W}
    (h : Q (fun w => w) fun w => if c w then b else b') (hb : b.Each I Q) (hb' : b'.Each I Q) :
    Body.Each I Q (.access (fun w => w) fun w => if c w then b else b') := by
  refine ⟨h, fun w _ => ?_⟩
  dsimp only
  split_ifs
  · exact hb
  · exact hb'

theorem each_unlocked {ok : W → Bool} {rest : Prog W}
    (h : ∀ {f k}, Q f k → P ok f fun w => (k w).unlocked ok rest) (hrest : rest.Each I P R) {b : Body W}
    (hb : b.Each I Q) : (b.unlocked ok rest).Each I P R := by
  induction b with
  | done => exact hrest
  | access f k ih => exact ⟨h hb.1, fun w hw => ih w (hb.2 w hw)⟩

theorem Reaches.keeps {J : W → Prop} {I : W → Prop} (hI : ∀ w, I w) (hP : ∀ {ok f k w}, P ok f k → J w → J (f w))
    (hR : ∀ {b k w}, R b k → J w → J (b.exec w)) {p q : Prog W} {w w' : W} (hr : Reaches p w q w') (hp : p.Each I P R)
    (hw : J w) : J w' := by
  induction hr with
  | refl => exact hw
  | access _ ih => exact ih (hp.2 _ (hI _)) (hP hp.1 hw)
  | locked _ ih => exact ih hp.2 (hR hp.1 hw)

theorem Reaches.each (hI : ∀ w, I w) {p q : Prog W} {w w' : W} (hr : Reaches p w q w')
    (hp : p.Each I P R) : q.Each I P R := by
  induction hr with
  | refl => exact hp
  | access _ ih => exact ih (hp.2 _ (hI _))
  | locked _ ih => exact ih hp.2

/-- **Independence.** What the program does without the lock commutes with every access of the section while `I`
    holds, and both keep `I`. -/
structure Independent (I : W → Prop) (P : (W → Bool) → (W → W) → (W → Prog W) → Prop) (R : Body W → Prog W → Prop)
    (Q : (W → W) → (W → Body W) → Prop) (A : Prog W) (body : Body W) (w₀ : W) : Prop where
  start : I w₀
  outside : A.Each I P R
  inside : body.Each I Q
  keepL : ∀ {ok f k w}, P ok f k → I w → I (f w)
  keepR : ∀ {g h w}, Q g h → I w → I (g w)
  keepS : ∀ {b k}, R b k → k = .done ∨ ∀ w, I w → I (b.exec w)
  comm : ∀ {ok f k g h w}, P ok f k → Q g h → I w →
    ok (g w) = ok w ∧ f (g w) = g (f w) ∧ k (g w) = k w ∧ h (f w) = h w

section Independent

variable {I : W → Prop} {P : (W → Bool) → (W → W) → (W → Prog W) → Prop} {R : Body W → Prog W → Prop}
  {Q : (W → W) → (W → Body W) → Prop} {A : Prog W} {body : Body W} {w₀ : W}

theorem Independent.access {ok : W → Bool} {f : W → W} {k : W → Prog W}
    (h : Independent I P R Q (.access ok f k) body w₀) : Independent I P R Q (k w₀) body (f w₀) :=
  { h with
    start := h.keepL h.outside.1 h.start
    outside := h.outside.2 w₀ h.start }

theorem Independent.locked {b : Body W} {k : Prog W} (h : Independent I P R Q (.locked b k) body w₀) :
    k = .done ∨ Independent I P R Q k body (b.exec w₀) := by
  rcases h.keepS h.outside.1 with hdone | hkeep
  · exact .inl hdone
  · exact .inr { h with start := hkeep w₀ h.start, outside := h.outside.2 }

theorem Independent.after (h : Independent I P R Q A body w₀) : Independent I P R Q A body (body.exec w₀) := by
  have hkeep : ∀ {b : Body W} {w : W}, b.Each I Q → I w → I (b.exec w) := by
    intro b
    induction b with
    | done => exact fun _ hw => hw
    | access g k ih => exact fun hb hw => ih _ (hb.2 _ hw) (h.keepR hb.1 hw)
  exact { h with start := hkeep h.inside h.start }

theorem Independent.of_reaches {p : Prog W} {w : W} (h : Independent I P R Q A body w₀) (hr : Reaches A w₀ p w) :
    p = .done ∨ Independent I P R Q p body w := by
  induction hr with
  | refl => exact .inr h
  | access _ ih => exact ih h.access
  | locked hr ih =>
    rcases h.locked with rfl | hk
    · exact .inl hr.of_done.1
    · exact ih hk

theorem exec_comm (keepR : ∀ {g h w}, Q g h → I w → I (g w))
    (comm : ∀ {ok f k g h w}, P ok f k → Q g h → I w → ok (g w) = ok w ∧ f (g w) = g (f w) ∧ k (g w) = k w ∧ h (f w) = h w)
    {ok : W → Bool} {f : W → W} {k : W → Prog W} (hP : P ok f k) {b : Body W} (hb : b.Each I Q) {w : W} (hw : I w) :
    ok (b.exec w) = ok w ∧ b.exec (f w) = f (b.exec w) ∧ k (b.exec w) = k w := by
  induction b generalizing w with
  | done => exact ⟨rfl, rfl, rfl⟩
  | access g h ih =>
    obtain ⟨hok, hmem, hnext, hsame⟩ := comm hP hb.1 hw
    obtain ⟨hok', hmem', hnext'⟩ := ih w (hb.2 w hw) (keepR hb.1 hw)
    refine ⟨hok'.trans hok, ?_, hnext'.trans hnext⟩
    show (h (f w)).exec (g (f w)) = f ((h w).exec (g w))
    rw [hsame, ← hmem, hmem']

/-! ## Runs of both -/

/-- A thread stands at a point of the program `A` run from `w₀`; within a section, its accesses so far count as made
    together with those to come. -/
def At (A : Prog W) (w₀ : W) (w : W) : Thread W → Prop
  | .outside p => Reaches A w₀ p w
  | .inside b k => ∃ b₀ w₁, Reaches A w₀ (.locked b₀ k) w₁ ∧ b.exec w = b₀.exec w₁

theorem At.step {A : Prog W} {w₀ w w' : W} {t t' : Thread W} {free : Bool} (h : At A w₀ w t)
    (hstep : t.step free w = some (t', w')) : At A w₀ w' t' := by
  cases t with
  | outside p =>
    cases p with
    | done => cases hstep
    | access ok f k =>
      rw [Thread.step] at hstep
      split at hstep
      · obtain ⟨rfl, rfl⟩ := Prod.mk.inj (some.inj hstep)
        exact Reaches.trans h (.access (.refl _ _))
      · cases hstep
    | locked b k =>
      rw [Thread.step] at hstep
      split at hstep
      · obtain ⟨rfl, rfl⟩ := Prod.mk.inj (some.inj hstep)
        exact ⟨b, w, h, rfl⟩
      · cases hstep
  | inside b k =>
    obtain ⟨b₀, w₁, hr, hexec⟩ := h
    cases b with
    | done =>
      obtain ⟨rfl, rfl⟩ := Prod.mk.inj (some.inj hstep)
      apply hr.trans
      apply Reaches.locked
      rw [← hexec]
      exact .refl _ _
    | access f k' =>
      obtain ⟨rfl, rfl⟩ := Prod.mk.inj (some.inj hstep)
      exact ⟨b₀, w₁, hr, hexec⟩

/-- Where a run of the program beside the section stands. -/
inductive Phase (I : W → Prop) (P : (W → Bool) → (W → W) → (W → Prog W) → Prop) (R : Body W → Prog W → Prop)
    (Q : (W → W) → (W → Body W) → Prop) (A : Prog W) (body : Body W) (w₀ : W) : Config W → Prop
  | before {t : Thread W} {w : W} (here : At A w₀ w t) : Phase I P R Q A body w₀ ⟨t, .outside (.locked body .done), w⟩
  | during {p A₁ : Prog W} {b : Body W} {w w₁ : W} (point : Reaches A w₀ A₁ w₁)
      (here : Reaches A₁ (body.exec w₁) p (b.exec w)) (free : p = .done ∨ Independent I P R Q p b w) :
      Phase I P R Q A body w₀ ⟨.outside p, .inside b .done, w⟩
  | after {t : Thread W} {A₁ : Prog W} {w w₁ : W} (point : Reaches A w₀ A₁ w₁) (here : At A₁ (body.exec w₁) w t) :
      Phase I P R Q A body w₀ ⟨t, .outside .done, w⟩

theorem Phase.step (h : Independent I P R Q A body w₀) {c c' : Config W} {turn : Turn}
    (hc : Phase I P R Q A body w₀ c) (hstep : c.step turn = some c') : Phase I P R Q A body w₀ c' := by
  cases turn with
  | left =>
    obtain ⟨⟨t', w'⟩, hthread, rfl⟩ := map_eq_some_iff.mp hstep
    cases hc with
    | before here => exact .before (here.step hthread)
    | after point here => exact .after point (here.step hthread)
    | @during p A₁ b w w₁ point here free =>
      cases p with
      | done | locked => cases hthread
      | access ok f k =>
        rcases free with hdone | hfree
        · exact absurd hdone (by simp)
        · change (if ok w then some (Thread.outside (k w), f w) else none) = some (t', w') at hthread
          split at hthread
          · obtain ⟨rfl, rfl⟩ := Prod.mk.inj (some.inj hthread)
            -- the access could have been made when the section was over
            obtain ⟨-, hmem, hnext⟩ := exec_comm hfree.keepR hfree.comm hfree.outside.1 hfree.inside hfree.start
            refine .during point ?_ (.inr hfree.access)
            rw [hmem, ← hnext]
            exact here.trans (.access (.refl _ _))
          · cases hthread
  | right =>
    obtain ⟨⟨t', w'⟩, hthread, rfl⟩ := map_eq_some_iff.mp hstep
    cases hc with
    | @before t w here =>
      cases t with
      | inside => cases hthread
      | outside p =>
        obtain ⟨rfl, rfl⟩ := Prod.mk.inj (some.inj hthread)
        exact .during here (.refl _ _) (h.of_reaches here)
    | after => cases hthread
    | @during p A₁ b w w₁ point here free =>
      cases b with
      | done =>
        obtain ⟨rfl, rfl⟩ := Prod.mk.inj (some.inj hthread)
        exact .after point here
      | access g k =>
        obtain ⟨rfl, rfl⟩ := Prod.mk.inj (some.inj hthread)
        refine .during point here (free.imp_right fun hfree => ?_)
        exact { hfree with
          start := hfree.keepR hfree.inside.1 hfree.start
          inside := hfree.inside.2 w hfree.start }

/-- **The section takes effect at one point.** Every run of the program beside it is in one of the three phases. -/
theorem Independent.phase (h : Independent I P R Q A body w₀) {ts : List Turn} {c : Config W}
    (hrun : (beside A body w₀).run ts = some c) : Phase I P R Q A body w₀ c := by
  have hstart : Phase I P R Q A body w₀ (beside A body w₀) := .before (Reaches.refl _ _)
  revert hrun hstart
  generalize beside A body w₀ = c₀
  intro hrun hc
  induction ts generalizing c₀ with
  | nil => exact some.inj hrun ▸ hc
  | cons t ts ih =>
    obtain ⟨c₁, hstep, hrest⟩ := bind_eq_some_iff.mp hrun
    exact ih c₁ hrest (hc.step h hstep)

/-- From every point of the program the section can be moved to the front, or what is left goes right and it can be
    moved to the end. -/
def Movable (A : Prog W) (body : Body W) (w₀ : W) : Prop :=
  ∀ A₁ w₁, Reaches A w₀ A₁ w₁ →
    Reaches A (body.exec w₀) A₁ (body.exec w₁) ∨
      Safe A₁ (body.exec w₁) ∧ A₁.exec (body.exec w₁) = body.exec (A.exec w₀)

theorem Movable.safe (hmove : Movable A body w₀) (hfront : Safe A (body.exec w₀)) {A₁ : Prog W} {w₁ : W}
    (hr : Reaches A w₀ A₁ w₁) : Safe A₁ (body.exec w₁) := by
  rcases hmove A₁ w₁ hr with hreplay | ⟨hsafe, -⟩
  · exact hfront.of_reaches hreplay
  · exact hsafe

theorem At.not_wrong {w : W} {t : Thread W} (hsafe : Safe A w₀) (h : At A w₀ w t) : ¬t.Wrong w := by
  intro hwrong
  match t, h, hwrong with
  | .outside (.access ok f k), hr, hfalse => exact absurd ((hsafe ok f k w hr).symm.trans hfalse) (by decide)

/-- **Two threads, one order.** If the section can be moved, no access goes wrong in any run, and both leave the memory
    as one after the other would. -/
theorem Independent.serial (h : Independent I P R Q A body w₀) (hmove : Movable A body w₀) (hsafe : Safe A w₀)
    (hfront : Safe A (body.exec w₀)) {ts : List Turn} {c : Config W} (hrun : (beside A body w₀).run ts = some c) :
    ¬c.Wrong ∧ (c.Finished → c.mem = A.exec (body.exec w₀) ∨ c.mem = body.exec (A.exec w₀)) := by
  cases h.phase hrun with
  | before here =>
    refine ⟨?_, fun hfin => absurd hfin.2 (by simp)⟩
    rintro (hwrong | hwrong)
    · exact here.not_wrong hsafe hwrong
    · exact hwrong
  | @during p A₁ b w w₁ point here free =>
    refine ⟨?_, fun hfin => absurd hfin.2 (by simp)⟩
    rintro (hwrong | hwrong)
    · rcases free with rfl | hfree
      · exact hwrong
      · cases p with
        | done | locked => exact hwrong
        | access ok f k =>
          obtain ⟨hok, -, -⟩ := exec_comm hfree.keepR hfree.comm hfree.outside.1 hfree.inside hfree.start
          have hright := hmove.safe hfront point ok f k _ here
          exact absurd ((hok.symm.trans hright).symm.trans hwrong) (by decide)
    · exact hwrong
  | @after t A₁ w w₁ point here =>
    refine ⟨?_, fun hfin => ?_⟩
    · rintro (hwrong | hwrong)
      · exact here.not_wrong (hmove.safe hfront point) hwrong
      · exact hwrong
    · obtain rfl : t = .outside .done := hfin.1
      have hend : w = A₁.exec (body.exec w₁) := Reaches.exec_eq here
      rcases hmove A₁ w₁ point with hreplay | ⟨-, hlast⟩
      · exact .inl (hend.trans hreplay.exec_eq)
      · exact .inr (hend.trans hlast)

/-- **A program that takes the lock last.** A section that is independent of it can be moved. -/
theorem Independent.movable (h : Independent I P R Q A body w₀) (hlast : ∀ {b k}, R b k → k = .done) :
    Movable A body w₀ := by
  intro A₁ w₁ hr
  induction hr with
  | refl => exact .inl (.refl _ _)
  | @access ok f k w w' p' hr ih =>
    obtain ⟨-, hmem, hnext⟩ := exec_comm h.keepR h.comm h.outside.1 h.inside h.start
    rcases ih h.access with hreplay | hend
    · left
      apply Reaches.access
      rw [hnext, ← hmem]
      exact hreplay
    · exact .inr hend
  | @locked b k w w' p' hr ih =>
    obtain rfl := hlast h.outside.1
    obtain ⟨rfl, rfl⟩ := hr.of_done
    exact .inr ⟨safe_done _, rfl⟩

theorem Independent.safe (h : Independent I P R Q A body w₀) (hok : ∀ {ok f k w}, P ok f k → I w → ok w = true) :
    Safe A w₀ := by
  intro ok f k w hr
  rcases h.of_reaches hr with hdone | hrest
  · exact absurd hdone (by simp)
  · exact hok hrest.outside.1 hrest.start

end Independent

end Critical
