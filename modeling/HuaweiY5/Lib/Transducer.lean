import Mathlib.Data.List.Induction

/-!
# `Lib.Transducer` — runs of an event-driven machine that sends messages

A component that handles one event at a time is a **transducer**: a state, a guard saying which events
its environment may deliver, and a total step that returns the next state and the messages sent while
the event was handled. A `Run` is a finite history from the initial state; every entry keeps the state
the event found, so a history can be read back without replaying it.
-/

/-! ## Histories as lists -/

theorem List.snoc_eq_append_cons {β : Type} {items l r : List β} {it x : β} :
    items ++ [it] = l ++ x :: r ↔ (r = [] ∧ items = l ∧ it = x) ∨ ∃ r', r = r' ++ [it] ∧ items = l ++ x :: r' := by
  constructor
  · intro heq
    rcases List.eq_nil_or_concat r with rfl | ⟨r', y, rfl⟩
    · obtain ⟨hl, hit⟩ := List.append_inj' heq rfl
      exact .inl ⟨rfl, hl, by simpa using hit⟩
    · rw [List.concat_eq_append, ← List.cons_append, ← List.append_assoc] at heq
      obtain ⟨hl, hit⟩ := List.append_inj' heq rfl
      obtain rfl : it = y := by simpa using hit
      exact .inr ⟨r', List.concat_eq_append, hl⟩
  · rintro (⟨rfl, rfl, rfl⟩ | ⟨r', rfl, rfl⟩)
    · rfl
    · simp

theorem List.forall_split_snoc {β : Type} {Q : List β → β → Prop} {items : List β} {it : β} :
    (∀ l x r, items ++ [it] = l ++ x :: r → Q l x) ↔ (∀ l x r, items = l ++ x :: r → Q l x) ∧ Q items it := by
  constructor
  · intro h
    exact ⟨fun l x r heq => h l x (r ++ [it]) (by rw [heq]; simp), h items it [] rfl⟩
  · rintro ⟨hold, hnew⟩ l x r heq
    rcases List.snoc_eq_append_cons.mp heq with ⟨-, rfl, rfl⟩ | ⟨r', -, hl⟩
    · exact hnew
    · exact hold l x r' hl

/-! ## Machines and their runs -/

/-- A machine handling one event at a time. -/
structure Transducer (σ ε ω : Type) where
  init : σ
  enabled : σ → ε → Prop
  step : σ → ε → σ × List ω

namespace Transducer

/-- One handled event: the state that received it and the messages sent for it. -/
structure Entry (σ ε ω : Type) where
  pre : σ
  event : ε
  out : List ω

variable {σ ε ω : Type} (M : Transducer σ ε ω)

variable (s : σ) (e : ε)

def next : σ := (M.step s e).1

def out : List ω := (M.step s e).2

def entry : Entry σ ε ω := ⟨s, e, M.out s e⟩

@[simp] theorem entry_pre : (M.entry s e).pre = s := rfl
@[simp] theorem entry_event : (M.entry s e).event = e := rfl
@[simp] theorem entry_out : (M.entry s e).out = M.out s e := rfl

/-- The finite histories of the machine, with the state each leads to. -/
inductive Run : List (Entry σ ε ω) → σ → Prop
  | nil : Run [] M.init
  | snoc {tr : List (Entry σ ε ω)} {s : σ} {e : ε} :
      Run tr s → M.enabled s e → Run (tr ++ [M.entry s e]) (M.next s e)

def outs (tr : List (Entry σ ε ω)) : List ω := tr.flatMap Entry.out

@[simp] theorem outs_nil : outs ([] : List (Entry σ ε ω)) = [] := rfl

@[simp] theorem outs_append (tr tr' : List (Entry σ ε ω)) : outs (tr ++ tr') = outs tr ++ outs tr' :=
  List.flatMap_append

@[simp] theorem outs_singleton (x : Entry σ ε ω) : outs [x] = x.out := by simp [outs]

variable {M}

/-! ## From one step to a run -/

variable {I : σ → Prop}

/-- **The invariant rule.** What holds initially and survives every enabled step holds after every run. -/
theorem Run.invariant (h0 : I M.init)
    (hstep : ∀ s e, I s → M.enabled s e → I (M.next s e)) {tr : List (Entry σ ε ω)} {s : σ}
    (h : M.Run tr s) : I s := by
  induction h with
  | nil => exact h0
  | snoc _ hen ih => exact hstep _ _ ih hen

/-- **The invariant rule under a condition.** `I` may read the history, and a step has to keep it only if it
    meets `C`: it holds after every run whose steps all do. -/
theorem Run.invariant_along {I : List (Entry σ ε ω) → σ → Prop} {C : Entry σ ε ω → Prop} (h0 : I [] M.init)
    (hstep : ∀ tr s e, I tr s → M.enabled s e → C (M.entry s e) → I (tr ++ [M.entry s e]) (M.next s e))
    {tr : List (Entry σ ε ω)} {s : σ} (h : M.Run tr s) (hC : ∀ x ∈ tr, C x) : I tr s := by
  induction h with
  | nil => exact h0
  | @snoc tr s e _ hen ih =>
    have hbefore : I tr s := ih (fun x hx => hC x (List.mem_append_left _ hx))
    exact hstep tr s e hbefore hen (hC _ (List.mem_append_right _ (List.mem_singleton_self _)))

theorem Run.outputs_along {C O : Entry σ ε ω → Prop} (h0 : I M.init)
    (hstep : ∀ s e, I s → M.enabled s e → C (M.entry s e) → I (M.next s e) ∧ O (M.entry s e))
    {tr : List (Entry σ ε ω)} {s : σ} (h : M.Run tr s) (hC : ∀ x ∈ tr, C x) : I s ∧ ∀ x ∈ tr, O x := by
  refine h.invariant_along (I := fun tr s => I s ∧ ∀ x ∈ tr, O x) (C := C) ⟨h0, ?_⟩ ?_ hC
  · exact fun x hx => absurd hx List.not_mem_nil
  · rintro tr s e ⟨hI, hO⟩ hen hc
    obtain ⟨hI', hlast⟩ := hstep s e hI hen hc
    refine ⟨hI', fun x hx => ?_⟩
    rcases List.mem_append.mp hx with hold | hnew
    · exact hO x hold
    · rw [List.mem_singleton.mp hnew]
      exact hlast

/-- **A property of every step.** If, as long as `I` holds, a step has the property `O` exactly when it meets `C`, and
    a step that meets `C` keeps `I`, then all steps of a run have the property exactly when all meet the condition. -/
theorem Run.outputs_iff {C O : Entry σ ε ω → Prop} (h0 : I M.init)
    (hiff : ∀ s e, I s → M.enabled s e → (O (M.entry s e) ↔ C (M.entry s e)))
    (hstep : ∀ s e, I s → M.enabled s e → C (M.entry s e) → I (M.next s e))
    {tr : List (Entry σ ε ω)} {s : σ} (h : M.Run tr s) : (∀ x ∈ tr, O x) ↔ ∀ x ∈ tr, C x := by
  induction h with
  | nil => exact ⟨fun _ x hx => absurd hx List.not_mem_nil, fun _ x hx => absurd hx List.not_mem_nil⟩
  | @snoc tr s e hrun hen ih =>
    rw [List.forall_mem_append, List.forall_mem_append, ih]
    refine and_congr_right fun hbefore => ?_
    have hI : I s := hrun.invariant_along (I := fun _ s => I s) h0 (fun _ s e hI hen hC => hstep s e hI hen hC) hbefore
    rw [List.forall_mem_singleton, List.forall_mem_singleton]
    exact hiff s e hI hen

theorem Run.before {tr tr' : List (Entry σ ε ω)} {s : σ} (h : M.Run (tr ++ tr') s) : ∃ s', M.Run tr s' := by
  induction tr' using List.reverseRecOn generalizing s with
  | nil => exact ⟨s, by simpa using h⟩
  | append_singleton l x ih =>
    rw [← List.append_assoc] at h
    generalize htr : tr ++ l ++ [x] = t at h
    cases h with
    | nil => simp at htr
    | snoc hrun _ =>
      obtain ⟨hl, -⟩ := List.append_inj' htr rfl
      exact ih (hl ▸ hrun)

theorem Run.last {tr : List (Entry σ ε ω)} {x : Entry σ ε ω} {s : σ} (h : M.Run (tr ++ [x]) s) :
    M.Run tr x.pre ∧ M.enabled x.pre x.event ∧ x = M.entry x.pre x.event ∧ s = M.next x.pre x.event := by
  generalize htr : tr ++ [x] = t at h
  cases h with
  | nil => simp at htr
  | snoc hrun hen =>
    obtain ⟨hl, hx⟩ := List.append_inj' htr rfl
    injection hx with hx
    subst hl; subst hx
    exact ⟨hrun, hen, rfl, rfl⟩

theorem Run.split {tr l r : List (Entry σ ε ω)} {x : Entry σ ε ω} {s : σ} (h : M.Run tr s) (htr : tr = l ++ x :: r) :
    M.Run l x.pre ∧ M.enabled x.pre x.event ∧ x.out = M.out x.pre x.event := by
  have hcut : tr = (l ++ [x]) ++ r := by rw [htr, List.append_assoc]; rfl
  obtain ⟨s', hs'⟩ := (hcut ▸ h).before
  obtain ⟨hrun, hen, hent, -⟩ := hs'.last
  exact ⟨hrun, hen, by rw [hent]; rfl⟩

theorem Run.mem {tr : List (Entry σ ε ω)} {s : σ} (h : M.Run tr s) {x : Entry σ ε ω} (hx : x ∈ tr) :
    (∃ tr', M.Run tr' x.pre) ∧ M.enabled x.pre x.event ∧ x.out = M.out x.pre x.event := by
  obtain ⟨l, r, htr⟩ := List.append_of_mem hx
  obtain ⟨hrun, hen, hout⟩ := h.split htr
  exact ⟨⟨l, hrun⟩, hen, hout⟩

theorem Run.of_nil {s : σ} (h : M.Run [] s) : s = M.init := by
  generalize htr : ([] : List (Entry σ ε ω)) = t at h
  cases h with
  | nil => rfl
  | snoc _ _ => simp at htr

/-- **A property along a run.** `P` and the condition `C` may read the history so far. If `P` holds at the
    start, and a step out of a history where it holds keeps it exactly when the step meets `C`, then it
    holds after every prefix of the run exactly when all the run's steps meet `C`. -/
theorem Run.forall_prefix_iff_history {P : List (Entry σ ε ω) → σ → Prop}
    {C : List (Entry σ ε ω) → σ → ε → Prop} (h0 : P [] M.init)
    (hstep : ∀ tr s e, M.Run tr s → M.enabled s e → P tr s → (P (tr ++ [M.entry s e]) (M.next s e) ↔ C tr s e))
    {tr : List (Entry σ ε ω)} {s : σ} (h : M.Run tr s) :
    (∀ tr' s', M.Run tr' s' → tr' <+: tr → P tr' s') ↔
      ∀ (l : List (Entry σ ε ω)) (x : Entry σ ε ω) (r : List (Entry σ ε ω)),
        tr = l ++ x :: r → C l x.pre x.event := by
  induction h with
  | nil =>
    refine ⟨fun _ l x r heq => absurd heq (by simp), fun _ tr' s' hrun hpre => ?_⟩
    obtain rfl : tr' = [] := List.prefix_nil.mp hpre
    rw [hrun.of_nil]; exact h0
  | @snoc tr s e hrun hen ih =>
    constructor
    · intro hall l x r heq
      rcases List.snoc_eq_append_cons.mp heq with ⟨-, rfl, rfl⟩ | ⟨r', -, hl⟩
      · have hP : P tr s := hall tr s hrun (List.prefix_append _ _)
        exact (hstep tr s e hrun hen hP).mp (hall _ _ (hrun.snoc hen) (List.prefix_refl _))
      · exact ih.mp (fun tr' s' hr hp => hall tr' s' hr (hp.trans (List.prefix_append _ _))) l x r' hl
    · intro hC tr' s' hr hp
      have hprev : ∀ (l : List (Entry σ ε ω)) (x : Entry σ ε ω) (r : List (Entry σ ε ω)),
          tr = l ++ x :: r → C l x.pre x.event :=
        fun l x r heq => hC l x (r ++ [M.entry s e]) (by rw [heq]; simp)
      rcases List.prefix_concat_iff.mp (by simpa using hp) with heq | hp'
      · subst heq
        obtain ⟨-, -, hent, rfl⟩ := hr.last
        have hP : P tr s := ih.mpr hprev tr s hrun (List.prefix_refl _)
        exact (hstep tr s e hrun hen hP).mpr (hC tr (M.entry s e) [] rfl)
      · exact ih.mpr hprev tr' s' hr hp'

theorem Run.forall_prefix_iff {P : List (Entry σ ε ω) → σ → Prop} {C : σ → ε → Prop}
    (h0 : P [] M.init)
    (hstep : ∀ tr s e, M.Run tr s → M.enabled s e → P tr s → (P (tr ++ [M.entry s e]) (M.next s e) ↔ C s e))
    {tr : List (Entry σ ε ω)} {s : σ} (h : M.Run tr s) :
    (∀ tr' s', M.Run tr' s' → tr' <+: tr → P tr' s') ↔ ∀ x ∈ tr, C x.pre x.event := by
  rw [h.forall_prefix_iff_history (C := fun _ => C) h0 hstep]
  constructor
  · intro hC x hx
    obtain ⟨l, r, heq⟩ := List.append_of_mem hx
    exact hC l x r heq
  · intro hC l x r heq
    exact hC x (heq ▸ List.mem_append_right _ (List.mem_cons_self))

/-! ## Executing a list of events -/

/-- The history and state after a list of events, delivered whether enabled or not. -/
def exec (M : Transducer σ ε ω) : List ε → List (Entry σ ε ω) × σ :=
  List.foldl (fun p e => (p.1 ++ [M.entry p.2 e], M.next p.2 e)) ([], M.init)

/-- Every event of the list is enabled when its turn comes. -/
def Admissible (M : Transducer σ ε ω) (s : σ) : List ε → Prop
  | [] => True
  | e :: es => M.enabled s e ∧ M.Admissible (M.next s e) es

instance instDecidableAdmissible (M : Transducer σ ε ω) [∀ s e, Decidable (M.enabled s e)] :
    (s : σ) → (es : List ε) → Decidable (M.Admissible s es)
  | _, [] => isTrue trivial
  | s, e :: es => @instDecidableAnd _ _ _ (instDecidableAdmissible M (M.next s e) es)

theorem Admissible.of_forall (h : ∀ s e, M.enabled s e) (s : σ) (es : List ε) : M.Admissible s es := by
  induction es generalizing s with
  | nil => trivial
  | cons e es ih => exact ⟨h s e, ih _⟩

theorem run_exec (M : Transducer σ ε ω) {es : List ε} (h : M.Admissible M.init es) :
    M.Run (M.exec es).1 (M.exec es).2 := by
  suffices hgen : ∀ (es : List ε) (tr : List (Entry σ ε ω)) (s : σ), M.Run tr s → M.Admissible s es →
      M.Run (es.foldl (fun p e => (p.1 ++ [M.entry p.2 e], M.next p.2 e)) (tr, s)).1
        (es.foldl (fun p e => (p.1 ++ [M.entry p.2 e], M.next p.2 e)) (tr, s)).2 from
    hgen es [] M.init .nil h
  intro es
  induction es with
  | nil => intro tr s hrun _; exact hrun
  | cons e es ih => intro tr s hrun had; exact ih _ _ (hrun.snoc had.1) had.2

/-- Every event of the list meets `C` when its turn comes. -/
def Along (M : Transducer σ ε ω) (C : σ → ε → Prop) (s : σ) : List ε → Prop
  | [] => True
  | e :: es => C s e ∧ M.Along C (M.next s e) es

instance instDecidableAlong (M : Transducer σ ε ω) (C : σ → ε → Prop) [∀ s e, Decidable (C s e)] :
    (s : σ) → (es : List ε) → Decidable (M.Along C s es)
  | _, [] => isTrue trivial
  | s, e :: es => @instDecidableAnd _ _ _ (instDecidableAlong M C (M.next s e) es)

theorem exec_along (M : Transducer σ ε ω) {C : σ → ε → Prop} {es : List ε} (h : M.Along C M.init es) :
    ∀ x ∈ (M.exec es).1, C x.pre x.event := by
  suffices hgen : ∀ (es : List ε) (tr : List (Entry σ ε ω)) (s : σ), (∀ x ∈ tr, C x.pre x.event) → M.Along C s es →
      ∀ x ∈ (es.foldl (fun p e => (p.1 ++ [M.entry p.2 e], M.next p.2 e)) (tr, s)).1, C x.pre x.event from
    hgen es [] M.init (fun x hx => absurd hx List.not_mem_nil) h
  intro es
  induction es with
  | nil => intro tr s hbefore _; exact hbefore
  | cons e es ih =>
    intro tr s hbefore halong
    refine ih _ _ (fun x hx => ?_) halong.2
    rcases List.mem_append.mp hx with hold | hnew
    · exact hbefore x hold
    · rw [List.mem_singleton.mp hnew]
      exact halong.1

end Transducer
