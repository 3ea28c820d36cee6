import HuaweiY5.Fm.Tuner

/-!
# `Fm.Configuration` — the configuration the client sees and the one in force

`tuner_get_configuration` answers with the last configuration waiting in the list or, without one, with the one
applied. `CMD_CONFIG` is never discarded and is applied in the order it was queued, so the answer is the configuration
set last, unless its command could not be allocated: the call then returns 0 all the same. `tuner_tune` looks at the
configuration applied instead, which may be an older one.
-/

namespace HuaweiY5.Fm.Tuner

open List
open Transducer (Entry)

variable {config : BandConfig} {list rest : List Node} {commands : List Command} {serial : Nat} {t : Tuner}
  {move : TunerMove}

/-! ## The last configuration -/

@[simp] theorem lastConfig_cons (n : Node) : lastConfig config (n :: rest) = lastConfig (configAfter config n.command) rest :=
  rfl

@[simp] theorem lastConfig_append : lastConfig config (list ++ rest) = lastConfig (lastConfig config list) rest :=
  foldl_append

theorem lastConfig_numbered (h : ∀ c ∈ commands, configAfter config c = config) :
    lastConfig config (numbered serial commands) = config := by
  induction commands generalizing serial with
  | nil => rfl
  | cons c cs ih =>
    rw [numbered, lastConfig_cons, h c mem_cons_self]
    exact ih (fun x hx => h x (mem_cons_of_mem _ hx))

/-- The configuration of a call that completes with it, whatever becomes of its command. -/
def setBy : TunerMove → Option BandConfig
  | .openTuner c _ | .setConfiguration (some c) _ _ => some c
  | _ => none

/-- The `CMD_CONFIG` of the call is allocated. -/
def ConfigAllocated : TunerMove → Prop
  | .openTuner _ memory => memory = true
  | .setConfiguration (some _) _ memory₂ => memory₂ = true
  | _ => True

instance instDecidableConfigAllocated : DecidablePred ConfigAllocated
  | .openTuner _ memory | .setConfiguration (some _) _ memory => inferInstanceAs (Decidable (memory = true))
  | .setConfiguration none _ _ | .getConfiguration _ | .step _ _ | .seek _ _ | .tune _ _ | .cancel _ | .rds _ _ | .wake
  | .process _ | .callbackReturns => isTrue trivial

theorem srcConfig_call (hmove : IsCall move) (hmem : ConfigAllocated move) :
    (t.step move).1.srcConfig = (setBy move).getD t.srcConfig := by
  have hsent : Sends (called t move) t (t.step move) := step_sends hmove
  have hsrc : (t.step move).1.srcConfig = lastConfig t.srcConfig (numbered t.serial (called t move)) := by
    unfold srcConfig
    rw [hsent.list, hsent.config, lastConfig_append]
  rw [hsrc]
  have hsame : (∀ c ∈ called t move, configAfter t.srcConfig c = t.srcConfig) →
      lastConfig t.srcConfig (numbered t.serial (called t move)) = t.srcConfig := lastConfig_numbered
  cases move with
  | openTuner config memory =>
    obtain rfl : memory = true := hmem
    rfl
  | getConfiguration dest => rfl
  | setConfiguration config memory₁ memory₂ =>
    cases config with
    | none => rfl
    | some config =>
      obtain rfl : memory₂ = true := hmem
      cases memory₁ <;> rfl
  | step up memory | seek up memory | tune channel memory | cancel memory | rds metadata memory =>
    exact hsame fun c hc => by rw [eq_of_mem_sent hc]; rfl
  | wake | process a | callbackReturns => exact hmove.elim

theorem configAfter_cancellable {c : Command} (h : c.cancellable = true) : configAfter config c = config := by
  cases c with
  | config c => cases h
  | exit | step | seek | tune | cancel | checkRds | showRds => rfl

theorem srcConfig_process {a : Answers} (hitem : AtItem t.thread) : (process a t).1.srcConfig = t.srcConfig := by
  rcases process_eq (a := a) hitem with ⟨hnone, -⟩ | ⟨gotCancel, n, rest, -, hlist, heq⟩
  · rw [hnone]
  · have hbefore : t.srcConfig = lastConfig (configAfter t.config n.command) rest := by
      unfold srcConfig
      rw [hlist, lastConfig_cons]
    rw [heq, hbefore]
    rcases processNode_cases a gotCancel n rest t with ⟨-, hcan, hdiscard⟩ | ⟨-, hex⟩
    · rw [hdiscard, configAfter_cancellable hcan]
      unfold srcConfig
      rw [advance_list, advance_config]
    · unfold srcConfig
      rw [hex.list, hex.config, lastConfig_append]
      apply lastConfig_numbered
      intro c hc
      rw [eq_of_mem_sent hc]
      rfl

theorem srcConfig_turns {t' : Tuner} (h : Turns t t') : t'.srcConfig = t.srcConfig := by
  unfold srcConfig
  rw [h.list, h.config]

theorem srcConfig_step (hen : machine.enabled t move) (hmem : ConfigAllocated move) :
    (machine.next t move).srcConfig = (setBy move).getD t.srcConfig := by
  cases move with
  | wake => exact srcConfig_turns (wake_turns t)
  | callbackReturns => exact srcConfig_turns (callbackReturns_turns t)
  | process a => exact srcConfig_process hen
  | openTuner | setConfiguration | getConfiguration | step | seek | tune | cancel | rds =>
    exact srcConfig_call trivial hmem

/-! ## Every answer is the configuration set last -/

/-- The configurations of the calls of `open_tuner` and `set_configuration` that completed, in order. -/
def configured (tr : List (Entry Tuner TunerMove Effect)) : List BandConfig := tr.filterMap fun x => setBy x.event

theorem configured_snoc (tr : List (Entry Tuner TunerMove Effect)) (x : Entry Tuner TunerMove Effect) :
    configured (tr ++ [x]) = configured tr ++ (setBy x.event).toList := by
  cases hset : setBy x.event with
  | none | some c => simp [configured, hset]

theorem send_opened (command : Command) (memory : Bool) (t : Tuner) : (send command memory t).1.opened = t.opened := by
  cases memory <;> rfl

theorem execute_opened (a : Answers) (t : Tuner) (command : Command) : (execute a t command).1.opened = t.opened := by
  have htune : ∀ channel, (afterTune a channel t).1.opened = t.opened := by
    intro channel
    unfold afterTune
    dsimp only
    split
    · exact send_opened ..
    · rfl
  cases command with
  | step up | seek up | tune channel => exact htune _
  | exit | config | cancel | checkRds | showRds => rfl

theorem process_opened (a : Answers) (t : Tuner) : (process a t).1.opened = t.opened := by
  unfold process
  split
  · unfold processNode
    dsimp only
    split
    · exact advance_opened ..
    · split
      · rfl
      · split
        · exact execute_opened ..
        · rw [advance_opened]
          exact execute_opened ..
  · rfl

theorem step_opened (h : (machine.next t move).opened = true) : t.opened = true ∨ setBy move ≠ none := by
  have hkeep : (machine.next t move).opened = t.opened → t.opened = true ∨ setBy move ≠ none := fun heq => .inl (heq ▸ h)
  cases move with
  | openTuner config memory => exact .inr (Option.some_ne_none config)
  | setConfiguration config memory₁ memory₂ =>
    cases config with
    | none => exact .inl h
    | some config =>
      apply hkeep
      show (send (.config config) memory₂ (send .cancel memory₁ t).1).1.opened = t.opened
      rw [send_opened, send_opened]
  | getConfiguration dest => cases dest <;> exact .inl h
  | step up memory | seek up memory | cancel memory => exact hkeep (send_opened ..)
  | tune channel memory =>
    apply hkeep
    show (tune channel memory t).1.opened = t.opened
    unfold tune
    split
    · rfl
    · exact send_opened ..
  | rds metadata memory =>
    cases metadata with
    | true => exact hkeep (send_opened ..)
    | false => exact .inl h
  | wake => exact hkeep (wake_turns t).opened
  | process a => exact hkeep (process_opened ..)
  | callbackReturns => exact hkeep (callbackReturns_turns t).opened

/-- The client sees the configuration set last, and an open tuner has been given one. -/
structure Register (tr : List (Entry Tuner TunerMove Effect)) (t : Tuner) : Prop where
  seen : t.srcConfig = (configured tr).getLastD .zero
  opened : t.opened = true → configured tr ≠ []

theorem run_register {tr : List (Entry Tuner TunerMove Effect)} (hrun : machine.Run tr t)
    (hmem : ∀ x ∈ tr, ConfigAllocated x.event) : Register tr t := by
  refine hrun.invariant_along (I := Register) (C := fun x => ConfigAllocated x.event) ?_ ?_ hmem
  · exact ⟨rfl, fun h => absurd h Bool.false_ne_true⟩
  · intro tr t move h hen hmove
    have hsnoc : configured (tr ++ [machine.entry t move]) = configured tr ++ (setBy move).toList := configured_snoc ..
    constructor
    · rw [srcConfig_step hen hmove, hsnoc, h.seen]
      cases setBy move with
      | none | some c => simp
    · intro hopened
      rw [hsnoc]
      rcases step_opened hopened with hold | hset
      · exact append_ne_nil_of_left_ne_nil (h.opened hold) _
      · obtain ⟨c, hc⟩ := Option.ne_none_iff_exists'.mp hset
        rw [hc]
        exact append_ne_nil_of_right_ne_nil _ (cons_ne_nil _ _)

/-- **The configuration is linearizable** as long as no `CMD_CONFIG` fails to be allocated. In every run, whatever the
    callback thread has applied by then, a `get_configuration` returns the configuration of the last `set_configuration`
    that completed before it, or that of `open_tuner`. -/
theorem configuration_linearizable {tr : List (Entry Tuner TunerMove Effect)} (hrun : machine.Run tr t)
    (l : List (Entry Tuner TunerMove Effect)) (x : Entry Tuner TunerMove Effect)
    (r : List (Entry Tuner TunerMove Effect)) (htr : tr = l ++ x :: r)
    (hmem : ∀ y ∈ l, ConfigAllocated y.event) (hget : x.event = .getConfiguration true) :
    ∃ c, (configured l).getLast? = some c ∧ x.out = [.configuration c, .returned 0] := by
  obtain ⟨hbefore, hen, hout⟩ := hrun.split htr
  have hreg : Register l x.pre := run_register hbefore hmem
  rw [hget] at hen hout
  have hne : configured l ≠ [] := hreg.opened hen.1
  refine ⟨(configured l).getLast hne, getLast?_eq_some_getLast hne, ?_⟩
  have hseen : x.pre.srcConfig = (configured l).getLast hne := by
    rw [hreg.seen, getLastD_eq_getLast?, getLast?_eq_some_getLast hne]
    rfl
  rw [hout, ← hseen]
  rfl

/-- A configuration set and not applied yet is the one returned. -/
theorem configuration_linearizable_pending :
    let moves : List TunerMove := [.openTuner worldBand true, .wake, .process plainAnswers, .callbackReturns,
      .setConfiguration (some usBand) true true, .getConfiguration true]
    machine.Admissible machine.init moves ∧
      ∃ c, (configured (machine.exec (moves.take 5)).1).getLast? = some c ∧
        machine.out (machine.exec (moves.take 5)).2 (.getConfiguration true) = [.configuration c, .returned 0] := by
  intro moves
  have hrun : machine.Run (machine.exec moves).1 (machine.exec moves).2 := machine.run_exec (by decide)
  exact ⟨by decide, configuration_linearizable hrun (machine.exec (moves.take 5)).1
    (machine.entry (machine.exec (moves.take 5)).2 (.getConfiguration true)) [] rfl (by decide) rfl⟩

/-- A `set_configuration` without memory for its `CMD_CONFIG`, and the question for the configuration after it. -/
def forgottenSet : List TunerMove := [.openTuner worldBand true, .setConfiguration (some usBand) true false]

/-- The call returns 0, and the older configuration is returned after it. -/
theorem configuration_forgotten :
    machine.Admissible machine.init (forgottenSet ++ [.getConfiguration true]) ∧
      .returned 0 ∈ machine.out (machine.exec (forgottenSet.take 1)).2 (.setConfiguration (some usBand) true false) ∧
      (configured (machine.exec forgottenSet).1).getLast? = some usBand ∧
      machine.out (machine.exec forgottenSet).2 (.getConfiguration true) = [.configuration worldBand, .returned 0] := by
  decide

/-! ## Tunes within the limits -/

def SameLimits (a b : BandConfig) : Prop := a.lowerLimit = b.lowerLimit ∧ a.upperLimit = b.upperLimit
  deriving Decidable

theorem SameLimits.within {a b : BandConfig} (h : SameLimits a b) (channel : UInt32) :
    a.Within channel ↔ b.Within channel := by
  unfold BandConfig.Within
  rw [h.1, h.2]

/-- **The range law.** A tune is accepted exactly when its channel is within the limits the client sees, and executed
    only with its channel within the limits in force. -/
structure RangeLaw (x : Entry Tuner TunerMove Effect) : Prop where
  accepted : ∀ channel memory, x.event = .tune channel memory → (.returned 0 ∈ x.out ↔ x.pre.srcConfig.Within channel)
  executed : ∀ n channel, .executed n ∈ x.out → n.command = .tune channel → x.pre.config.Within channel

/-- Every configuration in the list has the limits of the one applied. -/
def Settled (t : Tuner) : Prop := ∀ n ∈ t.commandList, SameLimits (configAfter t.config n.command) t.config

def SettledTune (t : Tuner) : TunerMove → Prop
  | .tune _ _ => Settled t
  | _ => True

instance instDecidableSettledTune (t : Tuner) : (move : TunerMove) → Decidable (SettledTune t move)
  | .tune _ _ => inferInstanceAs (Decidable (∀ n ∈ t.commandList, _))
  | .openTuner _ _ | .setConfiguration _ _ _ | .getConfiguration _ | .step _ _ | .seek _ _ | .cancel _ | .rds _ _
  | .wake | .process _ | .callbackReturns => isTrue trivial

theorem sameLimits_lastConfig {base : BandConfig} (hconfig : SameLimits config base)
    (h : ∀ n ∈ list, SameLimits (configAfter base n.command) base) : SameLimits (lastConfig config list) base := by
  induction list generalizing config with
  | nil => exact hconfig
  | cons n rest ih =>
    rw [lastConfig_cons]
    refine ih ?_ (fun m hm => h m (mem_cons_of_mem _ hm))
    have hn : SameLimits (configAfter base n.command) base := h n mem_cons_self
    cases hc : n.command with
    | config c => rw [hc] at hn; exact hn
    | exit | step | seek | tune | cancel | checkRds | showRds => exact hconfig

theorem Settled.srcConfig (h : Settled t) : SameLimits t.srcConfig t.config := sameLimits_lastConfig ⟨rfl, rfl⟩ h

/-- Every tune in the list is within the configuration it will find in force. -/
def InRange : BandConfig → List Node → Prop
  | _, [] => True
  | config, n :: rest =>
    (∀ channel, n.command = .tune channel → config.Within channel) ∧ InRange (configAfter config n.command) rest

theorem inRange_append : InRange config (list ++ rest) ↔ InRange config list ∧ InRange (lastConfig config list) rest := by
  induction list generalizing config with
  | nil => exact ⟨fun h => ⟨trivial, h⟩, fun h => h.2⟩
  | cons n list ih =>
    rw [lastConfig_cons]
    show _ ∧ InRange _ (list ++ rest) ↔ (_ ∧ InRange _ list) ∧ _
    rw [ih, and_assoc]

theorem inRange_numbered (h : ∀ c ∈ commands, ∀ channel, c ≠ .tune channel) :
    InRange config (numbered serial commands) := by
  induction commands generalizing config serial with
  | nil => trivial
  | cons c cs ih =>
    refine ⟨fun channel heq => absurd heq (h c mem_cons_self channel), ?_⟩
    exact ih (fun x hx => h x (mem_cons_of_mem _ hx))

theorem inRange_called (hmove : IsCall move) (hset : SettledTune t move) :
    InRange t.srcConfig (numbered t.serial (called t move)) := by
  have hother : (∀ c ∈ called t move, ∀ channel, c ≠ .tune channel) →
      InRange t.srcConfig (numbered t.serial (called t move)) := inRange_numbered
  cases move with
  | tune channel memory =>
    show InRange t.srcConfig
      (numbered t.serial (if t.config.Within channel ∧ memory = true then [.tune channel] else []))
    split
    · rename_i hin
      refine ⟨fun channel' heq => ?_, trivial⟩
      injection heq with heq
      rw [← heq]
      exact ((Settled.srcConfig hset).within channel).mpr hin.1
    · trivial
  | setConfiguration config memory₁ memory₂ =>
    cases config with
    | none => trivial
    | some config =>
      refine hother fun c hc _ => ?_
      rcases mem_append.mp hc with h | h
      · rw [eq_of_mem_sent h]; exact Command.noConfusion
      · rw [eq_of_mem_sent h]; exact Command.noConfusion
  | getConfiguration dest => trivial
  | openTuner config memory | step up memory | seek up memory | cancel memory | rds metadata memory =>
    exact hother fun c hc _ => by rw [eq_of_mem_sent hc]; exact Command.noConfusion
  | wake | process a | callbackReturns => exact hmove.elim

theorem inRange_process {a : Answers} (h : InRange t.config t.commandList) (hitem : AtItem t.thread) :
    InRange (process a t).1.config (process a t).1.commandList ∧
      ∀ n channel, .executed n ∈ (process a t).2 → n.command = .tune channel → t.config.Within channel := by
  rcases process_eq (a := a) hitem with ⟨hnone, -⟩ | ⟨gotCancel, n, rest, -, hlist, heq⟩
  · rw [hnone]
    exact ⟨h, fun n channel hn => absurd hn not_mem_nil⟩
  · rw [hlist] at h
    obtain ⟨hfirst, hrest⟩ := h
    rw [heq]
    rcases processNode_cases a gotCancel n rest t with ⟨-, hcan, hdiscard⟩ | ⟨-, hex⟩
    · rw [hdiscard, advance_list, advance_config]
      refine ⟨?_, fun m channel hm => absurd (mem_singleton.mp hm) Effect.noConfusion⟩
      rw [configAfter_cancellable hcan] at hrest
      exact hrest
    · constructor
      · rw [hex.list, hex.config]
        refine inRange_append.mpr ⟨hrest, inRange_numbered fun c hc channel => ?_⟩
        rw [eq_of_mem_sent hc]
        exact Command.noConfusion
      · intro m channel hm hc
        rw [hex.out] at hm
        rcases mem_cons.mp hm with hm | hm
        · injection hm with hm
          exact hfirst channel (hm ▸ hc)
        · obtain ⟨m', -, heq'⟩ := mem_map.mp hm
          cases heq'

theorem tune_accepted (channel : UInt32) (memory : Bool) :
    .returned 0 ∈ (t.step (.tune channel memory)).2 ↔ t.config.Within channel := by
  show .returned 0 ∈ (tune channel memory t).2 ↔ _
  unfold tune
  by_cases hout : channel < t.config.lowerLimit ∨ channel > t.config.upperLimit
  · rw [if_pos hout]
    refine ⟨fun h => ?_, fun h => absurd hout h⟩
    have hstatus : Effect.returned 0 = .returned einval := mem_singleton.mp h
    exact absurd hstatus (by decide)
  · rw [if_neg hout]
    exact ⟨fun _ => hout, fun _ => mem_append_right _ (mem_singleton_self _)⟩

theorem inRange_step (h : InRange t.config t.commandList) (hen : machine.enabled t move) (hset : SettledTune t move) :
    InRange (machine.next t move).config (machine.next t move).commandList ∧ RangeLaw (machine.entry t move) := by
  have hturn : ∀ t', Turns t t' → InRange t'.config t'.commandList := by
    intro t' hturns
    rw [hturns.list, hturns.config]
    exact h
  have hnoTune : (∀ channel memory, move ≠ .tune channel memory) → ∀ channel memory,
      (machine.entry t move).event = .tune channel memory →
        (.returned 0 ∈ (machine.entry t move).out ↔ t.srcConfig.Within channel) :=
    fun hne channel memory heq => absurd heq (hne channel memory)
  have hcall : IsCall move → InRange (machine.next t move).config (machine.next t move).commandList ∧
      RangeLaw (machine.entry t move) := by
    intro hmove
    have hsent : Sends (called t move) t (t.step move) := step_sends hmove
    refine ⟨?_, ?_, ?_⟩
    · show InRange (t.step move).1.config (t.step move).1.commandList
      rw [hsent.list, hsent.config]
      exact inRange_append.mpr ⟨h, inRange_called hmove hset⟩
    · intro channel memory hevent
      obtain rfl : move = .tune channel memory := hevent
      exact (tune_accepted channel memory).trans ((Settled.srcConfig hset).within channel).symm
    · intro n channel hn
      rcases hsent.mem_out hn with ⟨m, heq⟩ | hreply
      · cases heq
      · exact hreply.elim
  cases move with
  | wake =>
    exact ⟨hturn _ (wake_turns t), hnoTune fun _ _ => TunerMove.noConfusion, fun n channel hn => absurd hn not_mem_nil⟩
  | callbackReturns =>
    exact ⟨hturn _ (callbackReturns_turns t), hnoTune fun _ _ => TunerMove.noConfusion,
      fun n channel hn => absurd hn not_mem_nil⟩
  | process a =>
    obtain ⟨hlist, hexecuted⟩ := inRange_process (a := a) h hen
    exact ⟨hlist, hnoTune fun _ _ => TunerMove.noConfusion, hexecuted⟩
  | openTuner | setConfiguration | getConfiguration | step | seek | tune | cancel | rds => exact hcall trivial

/-- **Tunes and limits.** In every run whose tunes come when no other limits wait in the list, a tune is accepted
    exactly when its channel is within the limits the client sees, and executed within the limits in force. -/
theorem tune_range {tr : List (Entry Tuner TunerMove Effect)} (hrun : machine.Run tr t)
    (hsettled : ∀ x ∈ tr, SettledTune x.pre x.event) : ∀ x ∈ tr, RangeLaw x := by
  have hboth : InRange t.config t.commandList ∧ ∀ x ∈ tr, RangeLaw x := by
    refine hrun.outputs_along (I := fun t => InRange t.config t.commandList)
      (C := fun x => SettledTune x.pre x.event) ?_ ?_ hsettled
    · trivial
    · intro t move h hen hset
      exact inRange_step h hen hset
  exact hboth.2

/-- A tune after the configuration is applied, and one that has to wait. -/
theorem tune_range_applied :
    let moves : List TunerMove := [.openTuner worldBand true, .wake, .process plainAnswers, .callbackReturns,
      .setConfiguration (some worldBand) true true, .tune 98000 true, .tune 87000 true, .wake, .process plainAnswers,
      .process plainAnswers]
    machine.Admissible machine.init moves ∧ ∀ x ∈ (machine.exec moves).1, RangeLaw x := by
  exact ⟨by decide, tune_range (machine.run_exec (by decide)) (machine.exec_along (by decide))⟩

/-- A tune while the first configuration is not applied yet. -/
def earlyTune : List TunerMove := [.openTuner worldBand true, .tune 98000 true]

/-- The tune is refused, although `get_configuration` would return limits that allow it. -/
theorem tune_refused_in_range :
    machine.Admissible machine.init earlyTune ∧ ¬∀ x ∈ (machine.exec earlyTune).1, RangeLaw x := by
  refine ⟨by decide, fun h => ?_⟩
  have hlaw : RangeLaw (machine.entry (machine.exec [.openTuner worldBand true]).2 (.tune 98000 true)) :=
    h _ (mem_cons_of_mem _ (mem_singleton_self _))
  have hrefused : Effect.returned 0 ∈ machine.out (machine.exec [.openTuner worldBand true]).2 (.tune 98000 true) :=
    (hlaw.accepted 98000 true rfl).mpr (by decide)
  exact absurd hrefused (by decide)

end HuaweiY5.Fm.Tuner
