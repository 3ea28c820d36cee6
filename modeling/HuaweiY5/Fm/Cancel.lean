import HuaweiY5.Fm.Tuner

/-!
# `Fm.Cancel` — what a cancel discards

The list is a queue: commands are executed in the order they were queued, whatever the threads do (`Fifo`). So a
command queued before a cancel is executed before it and never discarded; what the cancel discards are commands
behind it that the same pass comes to. Nothing is discarded as long as no such command is queued while a cancel is
pending or the pass has one in mind.
-/

namespace HuaweiY5.Fm.Tuner

open List
open Transducer (Entry outs)

def executed? : Effect → Option Node
  | .executed n => some n
  | _ => none

def executedOf (out : List Effect) : List Node := out.filterMap executed?

@[simp] theorem executedOf_append (a b : List Effect) : executedOf (a ++ b) = executedOf a ++ executedOf b :=
  filterMap_append

/-- **The law of the cancel.** A command is discarded only if a cancel was queued after it; no command that a cancel
    discards and that was queued before the cancel is executed after it; and every command queued is executed,
    discarded or still in the list. -/
structure CancelLaw (out : List Effect) (list : List Node) : Prop where
  discarded : ∀ n, .discarded n ∈ out → ∃ d, .queued d ∈ out ∧ d.command = .cancel ∧ n.serial < d.serial
  executed : (executedOf out).Pairwise fun d n =>
    d.command = .cancel → n.command.cancellable = true → d.serial < n.serial
  kept : ∀ n, .queued n ∈ out → .executed n ∈ out ∨ .discarded n ∈ out ∨ n ∈ list

/-! ## The order of the commands -/

/-- Serial numbers grow along the list and along the commands executed, which all come before those in the list; and
    no command is lost. -/
structure Fifo (out : List Effect) (list : List Node) (serial : Nat) : Prop where
  ordered : list.Pairwise fun m n => m.serial < n.serial
  bound : ∀ n ∈ list, n.serial < serial
  executed : (executedOf out).Pairwise fun m n => m.serial < n.serial
  before : ∀ m ∈ executedOf out, m.serial < serial ∧ ∀ n ∈ list, m.serial < n.serial
  kept : ∀ n, .queued n ∈ out → .executed n ∈ out ∨ .discarded n ∈ out ∨ n ∈ list

variable {out : List Effect} {list rest : List Node} {serial : Nat} {n : Node}

variable {commands : List Command} {t : Tuner} {move : TunerMove}

theorem numbered_serial (h : n ∈ numbered serial commands) :
    serial ≤ n.serial ∧ n.serial < serial + commands.length := by
  induction commands generalizing serial with
  | nil => cases h
  | cons c cs ih =>
    rcases mem_cons.mp h with rfl | htail
    · exact ⟨Nat.le_refl _, by simp⟩
    · obtain ⟨hlow, hhigh⟩ := ih htail
      rw [length_cons]
      omega

theorem numbered_pairwise (serial : Nat) (commands : List Command) :
    (numbered serial commands).Pairwise fun m n => m.serial < n.serial := by
  induction commands generalizing serial with
  | nil => exact List.Pairwise.nil
  | cons c cs ih =>
    refine List.Pairwise.cons (fun n hn => ?_) (ih (serial + 1))
    exact (numbered_serial hn).1

theorem executedOf_queued (nodes : List Node) : executedOf (nodes.map .queued) = [] := by
  induction nodes with
  | nil => rfl
  | cons n ns ih => exact ih

theorem executedOf_replies {replies : List Effect} (h : ∀ e ∈ replies, IsReply e) : executedOf replies = [] := by
  refine filterMap_eq_nil_iff.mpr (fun e he => ?_)
  have hreply : IsReply e := h e he
  cases e with
  | executed n => exact hreply.elim
  | queued | discarded | configuration | returned => rfl

theorem Fifo.queue (h : Fifo out list serial) (commands : List Command) {replies : List Effect}
    (hreplies : ∀ e ∈ replies, IsReply e) :
    Fifo (out ++ ((numbered serial commands).map .queued ++ replies)) (list ++ numbered serial commands)
      (serial + commands.length) := by
  have hexecuted : executedOf (out ++ ((numbered serial commands).map .queued ++ replies)) = executedOf out := by
    rw [executedOf_append, executedOf_append, executedOf_queued, executedOf_replies hreplies, append_nil, append_nil]
  refine ⟨?_, ?_, by rw [hexecuted]; exact h.executed, ?_, ?_⟩
  · refine pairwise_append.mpr ⟨h.ordered, numbered_pairwise _ _, fun m hm n hn => ?_⟩
    exact Nat.lt_of_lt_of_le (h.bound m hm) (numbered_serial hn).1
  · intro n hn
    rcases mem_append.mp hn with hold | hnew
    · exact Nat.lt_of_lt_of_le (h.bound n hold) (Nat.le_add_right _ _)
    · exact (numbered_serial hnew).2
  · intro m hm
    rw [hexecuted] at hm
    obtain ⟨hserial, hlist⟩ := h.before m hm
    refine ⟨Nat.lt_of_lt_of_le hserial (Nat.le_add_right _ _), fun n hn => ?_⟩
    rcases mem_append.mp hn with hold | hnew
    · exact hlist n hold
    · exact Nat.lt_of_lt_of_le hserial (numbered_serial hnew).1
  · intro n hn
    have hkept := h.kept n
    have hreply : .queued n ∉ replies := hreplies _
    grind

theorem Fifo.execute (h : Fifo out (n :: rest) serial) : Fifo (out ++ [Effect.executed n]) rest serial := by
  have hexecuted : executedOf (out ++ [Effect.executed n]) = executedOf out ++ [n] := executedOf_append _ _
  obtain ⟨hfirst, hrest⟩ := pairwise_cons.mp h.ordered
  refine ⟨hrest, fun m hm => h.bound m (mem_cons_of_mem _ hm), ?_, ?_, ?_⟩
  · rw [hexecuted]
    refine pairwise_append.mpr ⟨h.executed, pairwise_singleton _ _, fun m hm m' hm' => ?_⟩
    rw [mem_singleton.mp hm']
    exact (h.before m hm).2 n mem_cons_self
  · intro m hm
    rw [hexecuted] at hm
    rcases mem_append.mp hm with hold | hnew
    · obtain ⟨hserial, hlist⟩ := h.before m hold
      exact ⟨hserial, fun m' hm' => hlist m' (mem_cons_of_mem _ hm')⟩
    · rw [mem_singleton.mp hnew]
      exact ⟨h.bound n mem_cons_self, hfirst⟩
  · intro m hm
    have hkept := h.kept m
    grind

theorem Fifo.discard (h : Fifo out (n :: rest) serial) : Fifo (out ++ [Effect.discarded n]) rest serial := by
  have hexecuted : executedOf (out ++ [Effect.discarded n]) = executedOf out := by
    rw [executedOf_append]
    exact append_nil _
  refine ⟨(pairwise_cons.mp h.ordered).2, fun m hm => h.bound m (mem_cons_of_mem _ hm),
    by rw [hexecuted]; exact h.executed, fun m hm => ?_, fun m hm => ?_⟩
  · rw [hexecuted] at hm
    obtain ⟨hserial, hlist⟩ := h.before m hm
    exact ⟨hserial, fun m' hm' => hlist m' (mem_cons_of_mem _ hm')⟩
  · have hkept := h.kept m
    grind

theorem Fifo.step (h : Fifo out t.commandList t.serial) (hen : machine.enabled t move) :
    Fifo (out ++ machine.out t move) (machine.next t move).commandList (machine.next t move).serial := by
  have hturn : ∀ t', Turns t t' → Fifo (out ++ []) t'.commandList t'.serial := by
    intro t' hturns
    rw [append_nil, hturns.list, hturns.serial]
    exact h
  have hcall : IsCall move →
      Fifo (out ++ machine.out t move) (machine.next t move).commandList (machine.next t move).serial := by
    intro hmove
    obtain ⟨hlist, hserial, -, -, replies, hout, hreplies⟩ := step_sends (t := t) hmove
    show Fifo (out ++ (t.step move).2) (t.step move).1.commandList (t.step move).1.serial
    rw [hlist, hserial, hout]
    exact h.queue _ hreplies
  cases move with
  | wake => exact hturn _ (wake_turns t)
  | callbackReturns => exact hturn _ (callbackReturns_turns t)
  | process a =>
    show Fifo (out ++ (process a t).2) (process a t).1.commandList (process a t).1.serial
    rcases process_eq (a := a) hen with ⟨hnone, -⟩ | ⟨gotCancel, n, rest, -, hlist, heq⟩
    · rw [hnone, append_nil]
      exact h
    · rw [heq]
      rw [hlist] at h
      rcases processNode_cases a gotCancel n rest t with ⟨-, -, hdiscard⟩ | ⟨-, hex⟩
      · rw [hdiscard, advance_list, advance_serial]
        exact h.discard
      · rw [hex.list, hex.serial, hex.out]
        have hnone : ∀ e ∈ ([] : List Effect), IsReply e := fun e he => absurd he not_mem_nil
        have hqueue := h.execute.queue (follows a n.command) hnone
        rw [append_nil, append_assoc] at hqueue
        exact hqueue
  | openTuner | setConfiguration | getConfiguration | step | seek | tune | cancel | rds => exact hcall trivial

/-! ## Commands queued when no cancel is about -/

/-- No cancel is in the list, and the pass has none in mind for the commands it will come to. -/
def NoCancel (t : Tuner) : Prop := (∀ n ∈ t.commandList, n.command ≠ .cancel) ∧ ¬Cancelling t.thread
  deriving Decidable

/-- A command that a cancel would discard is queued. -/
def Exposed : Effect → Prop
  | .queued n => n.command.cancellable = true
  | _ => False

instance instDecidableExposed : DecidablePred Exposed
  | .queued n => inferInstanceAs (Decidable (n.command.cancellable = true))
  | .executed _ | .discarded _ | .configuration _ | .returned _ => isFalse id

/-- Whoever queues a command that a cancel would discard (a caller, the RDS thread, or the callback thread when it has
    tuned the chip) does so when no cancel is about. -/
def Unhurried (t : Tuner) (move : TunerMove) : Prop := ∀ e ∈ (t.step move).2, Exposed e → NoCancel t

instance instDecidableUnhurried (t : Tuner) (move : TunerMove) : Decidable (Unhurried t move) :=
  inferInstanceAs (Decidable (∀ e ∈ _, _))

/-- Behind a cancel, and where the pass has one in mind, there is no command to discard. -/
structure Spared (t : Tuner) : Prop where
  behind : t.commandList.Pairwise fun d n => d.command = .cancel → n.command.cancellable = false
  ahead : Cancelling t.thread → ∀ n ∈ t.commandList, n.command.cancellable = false

theorem numbered_command (h : n ∈ numbered serial commands) : n.command ∈ commands := by
  induction commands generalizing serial with
  | nil => cases h
  | cons c cs ih =>
    rcases mem_cons.mp h with rfl | htail
    · exact mem_cons_self
    · exact mem_cons_of_mem _ (ih htail)

theorem numbered_behind (h : ∀ c ∈ commands, c.cancellable = false) :
    (numbered serial commands).Pairwise fun d n => d.command = .cancel → n.command.cancellable = false :=
  pairwise_of_forall_mem_list fun _ _ _ hn _ => h _ (numbered_command hn)

theorem behind_append (h : list.Pairwise fun d n => d.command = .cancel → n.command.cancellable = false)
    (hnew : (∀ c ∈ commands, c.cancellable = false) ∨ ((∀ n ∈ list, n.command ≠ .cancel) ∧ ∀ c ∈ commands, c ≠ .cancel)) :
    (list ++ numbered serial commands).Pairwise fun d n => d.command = .cancel → n.command.cancellable = false := by
  rcases hnew with hsafe | ⟨hnone, hnew⟩
  · refine pairwise_append.mpr ⟨h, numbered_behind hsafe, fun m _ n hn _ => ?_⟩
    exact hsafe _ (numbered_command hn)
  · refine pairwise_append.mpr ⟨h, ?_, fun m hm n _ hcancel => absurd hcancel (hnone m hm)⟩
    exact pairwise_of_forall_mem_list fun m hm _ _ hcancel => absurd hcancel (hnew _ (numbered_command hm))

theorem mem_numbered (serial : Nat) {c : Command} (h : c ∈ commands) : ∃ n ∈ numbered serial commands, n.command = c := by
  induction commands generalizing serial with
  | nil => cases h
  | cons c' cs ih =>
    rcases mem_cons.mp h with rfl | htail
    · exact ⟨_, mem_cons_self, rfl⟩
    · obtain ⟨n, hn, hc⟩ := ih (serial + 1) htail
      exact ⟨n, mem_cons_of_mem _ hn, hc⟩

/-- A call queues either no command a cancel would discard, or no cancel. -/
theorem called_cases (hmove : IsCall move) :
    (∀ c ∈ called t move, c.cancellable = false) ∨ ∀ c ∈ called t move, c ≠ .cancel := by
  cases move with
  | setConfiguration config memory₁ memory₂ =>
    cases config with
    | none => exact .inl fun c hc => absurd hc not_mem_nil
    | some config =>
      refine .inl fun c hc => ?_
      rcases mem_append.mp hc with h | h
      · rw [eq_of_mem_sent h]; rfl
      · rw [eq_of_mem_sent h]; rfl
  | getConfiguration dest => exact .inl fun c hc => absurd hc not_mem_nil
  | openTuner config memory | cancel memory => exact .inl fun c hc => by rw [eq_of_mem_sent hc]; rfl
  | step up memory | seek up memory | tune channel memory | rds metadata memory =>
    exact .inr fun c hc => by rw [eq_of_mem_sent hc]; exact Command.noConfusion
  | wake | process a | callbackReturns => exact hmove.elim

theorem called_spared (hu : Unhurried t move) (hmove : IsCall move) :
    (∀ c ∈ called t move, c.cancellable = false) ∨ (NoCancel t ∧ ∀ c ∈ called t move, c ≠ .cancel) := by
  by_cases hsome : ∃ c ∈ called t move, c.cancellable = true
  · obtain ⟨c, hc, hcan⟩ := hsome
    obtain ⟨replies, hout, -⟩ := (step_sends (t := t) hmove).out
    obtain ⟨n, hn, rfl⟩ := mem_numbered t.serial hc
    have hqueued : Effect.queued n ∈ (t.step move).2 := by
      rw [hout]
      exact mem_append_left _ (mem_map_of_mem hn)
    refine (called_cases hmove).imp_right fun hnone => ⟨hu _ hqueued hcan, hnone⟩
  · exact .inl fun c hc => Bool.eq_false_iff.mpr fun hcan => hsome ⟨c, hc, hcan⟩

theorem cancellable_of_retunes {c : Command} (h : c.retunes = true) : c.cancellable = true := by
  cases c with
  | step | seek | tune => rfl
  | exit | config | cancel | checkRds | showRds => cases h

theorem follows_eq_nil {a : Answers} {c : Command} (h : c.cancellable = false) : follows a c = [] := by
  have hnot : c.retunes = false := by
    by_contra hre
    have hyes : c.retunes = true := by simpa using hre
    rw [cancellable_of_retunes hyes] at h
    exact Bool.noConfusion h
  simp [follows, hnot]

theorem Spared.call (h : Spared t) (hu : Unhurried t move) (hmove : IsCall move) : Spared (t.step move).1 := by
  have hsent : Sends (called t move) t (t.step move) := step_sends hmove
  have hcalled := called_spared hu hmove
  constructor
  · rw [hsent.list]
    exact behind_append h.behind (hcalled.imp_right fun hnone => ⟨hnone.1.1, hnone.2⟩)
  · intro hcancelling n hn
    rw [hsent.thread] at hcancelling
    rw [hsent.list] at hn
    rcases mem_append.mp hn with hold | hnew
    · exact h.ahead hcancelling n hold
    · rcases hcalled with hsafe | ⟨hnone, -⟩
      · exact hsafe _ (numbered_command hnew)
      · exact absurd hcancelling hnone.2

theorem Spared.process {a : Answers} (h : Spared t) (hu : Unhurried t (.process a)) (hitem : AtItem t.thread) :
    Spared (process a t).1 ∧ ∀ n, .discarded n ∉ (process a t).2 := by
  rcases process_eq (a := a) hitem with ⟨hnone, -⟩ | ⟨gotCancel, n, rest, hthread, hlist, heq⟩
  · rw [hnone]
    exact ⟨h, fun n hn => absurd hn not_mem_nil⟩
  · have hbehind := h.behind
    rw [hlist] at hbehind
    obtain ⟨hfirst, hrest⟩ := pairwise_cons.mp hbehind
    -- with a cancel in mind the pass comes to no command it would discard
    have hmind : gotCancel = true → ∀ m ∈ n :: rest, m.command.cancellable = false := by
      rintro rfl m hm
      exact h.ahead (by rw [hthread]; trivial) m (by rw [hlist]; exact hm)
    rcases processNode_cases a gotCancel n rest t with ⟨hgot, hcan, -⟩ | ⟨-, hex⟩
    · rw [hmind hgot n mem_cons_self] at hcan
      cases hcan
    · rw [heq]
      refine ⟨⟨?_, ?_⟩, ?_⟩
      · rw [hex.list]
        by_cases hre : .checkRds ∈ follows a n.command
        · obtain ⟨m, hm, hc⟩ := mem_numbered t.serial hre
          have hqueued : Effect.queued m ∈ (Tuner.process a t).2 := by
            rw [heq, hex.out]
            exact mem_cons_of_mem _ (mem_map_of_mem hm)
          have hnone : ∀ m ∈ t.commandList, m.command ≠ .cancel :=
            (hu _ hqueued (show m.command.cancellable = true by rw [hc]; rfl)).1
          refine behind_append hrest (.inr ⟨fun m hm => hnone m (by rw [hlist]; exact mem_cons_of_mem _ hm), ?_⟩)
          intro c hc
          rw [eq_of_mem_sent hc]
          exact Command.noConfusion
        · exact behind_append hrest (.inl fun c hc => absurd (eq_of_mem_sent hc ▸ hc) hre)
      · intro hcancelling m hm
        have hfollows : follows a n.command = [] := by
          rcases hex.cancelling hcancelling with hgot | hcancel
          · exact follows_eq_nil (hmind hgot n mem_cons_self)
          · rw [hcancel]; rfl
        rw [hex.list, hfollows, numbered, append_nil] at hm
        rcases hex.cancelling hcancelling with hgot | hcancel
        · exact hmind hgot m (mem_cons_of_mem _ hm)
        · exact hfirst m hm hcancel
      · intro m hm
        rw [hex.out] at hm
        rcases mem_cons.mp hm with hm | hm
        · cases hm
        · obtain ⟨m', -, heq'⟩ := mem_map.mp hm
          cases heq'

theorem Spared.step (h : Spared t) (hen : machine.enabled t move) (hu : Unhurried t move) :
    Spared (machine.next t move) ∧ ∀ n, .discarded n ∉ machine.out t move := by
  have hturn : ∀ t', Turns t t' → Spared t' := by
    intro t' hturns
    exact ⟨by rw [hturns.list]; exact h.behind, fun hc => by rw [hturns.list]; exact h.ahead (hturns.cancelling hc)⟩
  have hcall : IsCall move → Spared (machine.next t move) ∧ ∀ n, .discarded n ∉ machine.out t move := by
    intro hmove
    refine ⟨h.call hu hmove, fun n hn => ?_⟩
    rcases (step_sends hmove).mem_out hn with ⟨m, heq⟩ | hreply
    · cases heq
    · exact hreply.elim
  cases move with
  | wake => exact ⟨hturn _ (wake_turns t), fun n hn => absurd hn not_mem_nil⟩
  | callbackReturns => exact ⟨hturn _ (callbackReturns_turns t), fun n hn => absurd hn not_mem_nil⟩
  | process a => exact h.process hu hen
  | openTuner | setConfiguration | getConfiguration | step | seek | tune | cancel | rds => exact hcall trivial

/-! ## Whole runs -/

theorem run_fifo {tr : List (Entry Tuner TunerMove Effect)} (hrun : machine.Run tr t) :
    Fifo (outs tr) t.commandList t.serial := by
  refine hrun.invariant_along (I := fun tr t => Fifo (outs tr) t.commandList t.serial) (C := fun _ => True)
    ?_ ?_ (fun _ _ => trivial)
  · exact ⟨.nil, fun n hn => absurd hn not_mem_nil, .nil, fun n hn => absurd hn not_mem_nil,
      fun n hn => absurd hn not_mem_nil⟩
  · intro tr t move h hen _
    rw [Transducer.outs_append, Transducer.outs_singleton]
    exact h.step hen

/-- **The law of the cancel holds in unhurried runs.** If every step, scan, tune and RDS command is queued when no
    cancel is in the list and the pass under way has none in mind, a command is discarded only for a cancel queued after
    it, no such command is executed behind a cancel it preceded, and every one is executed or still in the list. -/
theorem cancel_law {tr : List (Entry Tuner TunerMove Effect)} {t : Tuner} (hrun : machine.Run tr t)
    (hunhurried : ∀ x ∈ tr, Unhurried x.pre x.event) : CancelLaw (outs tr) t.commandList := by
  have hfifo : Fifo (outs tr) t.commandList t.serial := run_fifo hrun
  have hspared : Spared t ∧ ∀ x ∈ tr, ∀ n, .discarded n ∉ x.out := by
    refine hrun.outputs_along (I := Spared) (C := fun x => Unhurried x.pre x.event)
      (O := fun x => ∀ n, .discarded n ∉ x.out) ?_ ?_ hunhurried
    · exact ⟨.nil, False.elim⟩
    · intro t move h hen hu
      exact h.step hen hu
  refine ⟨fun n hn => ?_, ?_, hfifo.kept⟩
  · obtain ⟨x, hx, hmem⟩ := mem_flatMap.mp hn
    exact absurd hmem (hspared.2 x hx n)
  · exact hfifo.executed.imp fun hlt _ _ => hlt

/-- A tune that waits for the configuration to be applied, and a cancel behind it. -/
theorem cancel_law_tune :
    let moves : List TunerMove := [.openTuner worldBand true, .wake, .process plainAnswers, .callbackReturns, .tune 98000 true,
      .wake, .process plainAnswers, .cancel true, .callbackReturns, .process plainAnswers, .process plainAnswers]
    machine.Admissible machine.init moves ∧
      CancelLaw (outs (machine.exec moves).1) (machine.exec moves).2.commandList := by
  exact ⟨by decide, cancel_law (machine.run_exec (by decide)) (machine.exec_along (by decide))⟩

/-- A `set_configuration`, a tune issued after it, and the pass that comes to both. -/
def hurriedRun : List TunerMove :=
  [.openTuner worldBand true, .wake, .process plainAnswers, .callbackReturns, .setConfiguration (some worldBand) true true,
    .tune 98000 true, .wake, .process plainAnswers, .process plainAnswers, .callbackReturns, .process plainAnswers]

/-- The tune is discarded with the cancel that came before it. -/
theorem cancel_discards_later :
    machine.Admissible machine.init hurriedRun ∧
      ¬CancelLaw (outs (machine.exec hurriedRun).1) (machine.exec hurriedRun).2.commandList := by
  refine ⟨by decide, fun h => ?_⟩
  obtain ⟨d, hqueued, -, hlater⟩ := h.discarded ⟨3, .tune 98000⟩ (by decide)
  -- the tune is the last command queued
  have hlast : (outs (machine.exec hurriedRun).1).all (fun e =>
      match e with
      | .queued d => decide (d.serial ≤ 3)
      | _ => true) = true := by decide
  have hd : d.serial ≤ 3 := of_decide_eq_true (all_eq_true.mp hlast _ hqueued)
  exact absurd hlater (Nat.not_lt.mpr hd)

end HuaweiY5.Fm.Tuner
