import HuaweiY5.Mnld.PingPangInv

/-!
# `Mnld.PingPangLog` — nothing is lost between the two buffers but what is discarded

One producer that calls `gps_dbg_log_pingpang_copy` again and again, and the log thread that calls
`gps_dbg_log_pingpang_write`, statement by statement and in any order.
-/

namespace HuaweiY5.Mnld.DbgLog

open List
open Transducer (Entry Run outs outs_append outs_singleton)

/-! ## One producer and one writer -/

structure Race where
  body : PingPang
  producer : ProducerPc
  writer : WriterPc

/-- A step: a call of `gps_dbg_log_pingpang_copy` or of `gps_dbg_log_pingpang_write`, or a statement of the
    call under way. -/
inductive RaceMove
  | copy (m : Msg)
  | producer
  | write
  | writer
  deriving DecidableEq

namespace Race

def step (s : Race) : RaceMove → Race × List Effect
  | .copy m => ({ s with producer := .own .buffer1 m }, [])
  | .producer =>
    let r := producerStep s.body s.producer
    ({ s with body := r.1, producer := r.2.1 }, r.2.2)
  | .write => ({ s with writer := .own .buffer1 }, [])
  | .writer =>
    let r := writerStep s.body s.writer
    ({ s with body := r.1, writer := r.2 }, [])

/-- A thread takes a call when it is in none, and a statement when it is in one. -/
def Enabled (s : Race) : RaceMove → Prop
  | .copy m => s.producer = .idle ∧ m.length ≤ pingpangBufferSize - 2
  | .producer => s.producer ≠ .idle
  | .write => s.writer = .idle
  | .writer => s.writer ≠ .idle

def machine : Transducer Race RaceMove Effect where
  init := ⟨.init, .idle, .idle⟩
  enabled := Enabled
  step := step

def offered (tr : List (Entry Race RaceMove Effect)) : List Msg :=
  tr.filterMap fun x =>
    match x.event with
    | .copy m => some m
    | _ => none

end Race

/-- The call under way is one of `gps_dbg_log_pingpang_copy`. -/
def InCopy : ProducerPc → Prop
  | .debuglog _ | .nextWrite _ => False
  | _ => True

def inHand : ProducerPc → List Msg
  | .own _ m | .others _ m | .room _ m | .writable _ m | .lenth _ m | .turn _ m | .take _ m | .hand _ m | .release m
  | .wipe _ m | .restart _ m | .loose _ m | .copy m => [m]
  | _ => []

theorem producerStatement_inHand {k : Kept} {p : PingPang} {w : WriterPc} {pc : ProducerPc} (h : ProducerOk k p w pc)
    (hpc : InCopy pc) :
    copied (producerStatement p pc).2.2 ++ inHand (producerStatement p pc).2.1 = inHand pc ∧
      InCopy (producerStatement p pc).2.1 := by
  cases pc <;> simp only [producerStatement]
  case debuglog | nextWrite => exact hpc.elim
  case own y m =>
    obtain ⟨-, x, n, hf, hy⟩ := h
    by_cases hyx : y = x
    · rw [hyx, if_pos hf.own]
      exact ⟨rfl, trivial⟩
    · rw [if_neg (mt (writing_iff hf.own hf.other y).mp hyx)]
      cases y with
      | buffer1 => exact ⟨rfl, trivial⟩
      | buffer2 => exact absurd (hy rfl).symm hyx
  case others x m =>
    obtain ⟨-, n, hf⟩ := h
    rw [if_pos hf.other]
    exact ⟨rfl, trivial⟩
  case room | writable | copy => split <;> exact ⟨rfl, trivial⟩
  all_goals exact ⟨rfl, trivial⟩

theorem producerStatement_numLoose (p : PingPang) (pc : ProducerPc) :
    (producerStatement p pc).1.numLoose = p.numLoose + (producerStatement p pc).2.2.count .loosed := by
  cases pc with
  | copy m => simp [producerStatement]
  | _ => rfl

namespace Race

/-- **The buffers and the log after every history.** -/
structure Logged (tr : List (Entry Race RaceMove Effect)) (s : Race) : Prop where
  inv : Inv (keptOf (outs tr)) s.body s.producer s.writer
  inCopy : InCopy s.producer
  offered : copied (outs tr) ++ inHand s.producer = offered tr
  numLoose : s.body.numLoose = (outs tr).count .loosed

variable {tr : List (Entry Race RaceMove Effect)}

theorem Logged.quiet {s s' : Race} {x : Entry Race RaceMove Effect} (h : Logged tr s) (hout : x.out = [])
    (hcalls : Race.offered [x] = []) (hproducer : s'.producer = s.producer)
    (hloose : s'.body.numLoose = s.body.numLoose)
    (hinv : Inv (keptOf (outs tr)) s'.body s.producer s'.writer) : Logged (tr ++ [x]) s' := by
  have houts : outs (tr ++ [x]) = outs tr := by
    rw [outs_append, outs_singleton, hout, append_nil]
  have hoffered : Race.offered (tr ++ [x]) = Race.offered tr := by
    rw [Race.offered, filterMap_append]
    exact (congrArg (Race.offered tr ++ ·) hcalls).trans (append_nil _)
  exact ⟨by rw [houts, hproducer]; exact hinv, by rw [hproducer]; exact h.inCopy,
    by rw [houts, hoffered, hproducer]; exact h.offered, by rw [houts, hloose]; exact h.numLoose⟩

theorem Logged.step {s : Race} {move : RaceMove} (h : Logged tr s) (hen : machine.enabled s move) :
    Logged (tr ++ [machine.entry s move]) (machine.next s move) := by
  have houts : outs (tr ++ [machine.entry s move]) = outs tr ++ (s.step move).2 := by
    rw [outs_append, outs_singleton]
    rfl
  have hoffered : Race.offered (tr ++ [machine.entry s move]) = Race.offered tr ++ Race.offered [machine.entry s move] :=
    filterMap_append
  cases move with
  | copy m =>
    obtain ⟨hidle, hfits⟩ : s.producer = .idle ∧ m.length ≤ pingpangBufferSize - 2 := hen
    obtain ⟨x, n, hf⟩ : ∃ x n, Filling _ s.body s.writer x n := by
      have hproducer := h.inv.producer
      rw [hidle] at hproducer
      exact hproducer
    have houts' : outs (tr ++ [machine.entry s (.copy m)]) = outs tr := by
      rw [houts]
      exact append_nil _
    refine ⟨⟨h.inv.pointers, h.inv.live, h.inv.writer, hfits, x, n, ?_, Side.noConfusion⟩, trivial, ?_, ?_⟩
    · rw [houts']
      exact hf
    · rw [houts', hoffered, ← h.offered, hidle, append_assoc]
      rfl
    · rw [houts']
      exact h.numLoose
  | producer =>
    have hstep : producerStep s.body s.producer = producerStatement s.body s.producer :=
      producerStep_eq h.inv.pointers _
    obtain ⟨hhand, hin⟩ := producerStatement_inHand h.inv.producer h.inCopy
    refine ⟨?_, ?_, ?_, ?_⟩
    · rw [houts, keptOf_append]
      exact h.inv.produce
    · show InCopy (producerStep s.body s.producer).2.1
      rw [hstep]
      exact hin
    · rw [houts, hoffered, ← h.offered, copied_append, append_assoc]
      show copied (outs tr) ++ (copied (producerStep s.body s.producer).2.2 ++
        inHand (producerStep s.body s.producer).2.1) = copied (outs tr) ++ inHand s.producer ++ []
      rw [hstep, hhand, append_nil]
    · rw [houts, count_append, ← h.numLoose]
      show (producerStep s.body s.producer).1.numLoose = s.body.numLoose + (producerStep s.body s.producer).2.2.count .loosed
      rw [hstep]
      exact producerStatement_numLoose _ _
  | write =>
    have hidle : s.writer = .idle := hen
    have hinv := h.inv
    rw [hidle] at hinv
    exact h.quiet rfl rfl rfl rfl hinv.call
  | writer =>
    exact h.quiet rfl rfl rfl (writerStep_moves h.inv.writer).numLoose h.inv.write

theorem run_logged {s : Race} (hrun : machine.Run tr s) : Logged tr s := by
  refine hrun.invariant_along (I := Logged) (C := fun _ => True) ?_ ?_ (fun _ _ => trivial)
  · exact ⟨inv_init, trivial, rfl, rfl⟩
  · intro tr s move h hen _
    exact h.step hen

/-- **The ping-pong buffer keeps the log.** However the statements of the two threads come, a `READABLE`
    buffer is not empty and not both are `READABLE`. Between two copy calls exactly one buffer is `WRITING`,
    `next_write` is in it, and the file, followed by what the other buffer has still to write and by what is in
    the `WRITING` one, is the concatenation of all messages but those discarded: `num_loose` counts the
    discards, each drops the messages in the `WRITING` buffer and nothing else. -/
theorem pingpang_log {tr : List (Entry Race RaceMove Effect)} {s : Race} (hrun : machine.Run tr s) :
    ¬(s.body.state .buffer1 = .readable ∧ s.body.state .buffer2 = .readable) ∧
      (∀ x, s.body.state x = .readable → s.body.lenthToWrite x ≠ 0) ∧
      (s.producer = .idle →
        (∃ x n, s.body.state x = .writing ∧ s.body.state x.other ≠ .writing ∧ s.body.nextWrite = some ⟨x, n⟩ ∧
          n ≤ endOffset ∧
          s.body.file ++ unwritten s.body s.writer x.other ++ content (s.body.memory x) n =
            (keptOf (outs tr)).messages.flatten) ∧
        copied (outs tr) = offered tr) ∧
      (keptOf (outs tr)).messages.Sublist (copied (outs tr)) ∧
      s.body.numLoose = (outs tr).count .loosed := by
  have h : Logged tr s := run_logged hrun
  refine ⟨?_, h.inv.writer.lenth, ?_, keptOf_sublist _, h.numLoose⟩
  · rintro ⟨h₁, h₂⟩
    obtain ⟨x, hx⟩ := h.inv.producer.writing
    cases x with
    | buffer1 => exact BufferState.noConfusion (h₁.symm.trans hx)
    | buffer2 => exact BufferState.noConfusion (h₂.symm.trans hx)
  · intro hidle
    have hproducer := h.inv.producer
    have hoffered := h.offered
    rw [hidle] at hproducer hoffered
    obtain ⟨x, n, hf⟩ := hproducer
    refine ⟨⟨x, n, hf.own, hf.other, hf.next, hf.inside, ?_⟩, by rw [← hoffered]; exact (append_nil _).symm⟩
    rw [hf.handed, hf.held]
    exact flatten_append.symm

/-- A state the two threads reach, with what their statements did to the log. -/
def Reached (M : Transducer Race RaceMove Effect) (effects : List Effect) (s : Race) : Prop :=
  ∃ tr, M.Run tr s ∧ outs tr = effects

theorem Reached.to {M : Transducer Race RaceMove Effect} {effects out : List Effect} {s s' : Race}
    (h : Reached M effects s) (move : RaceMove) (hen : M.enabled s move) (hstep : M.step s move = (s', out)) :
    Reached M (effects ++ out) s' := by
  obtain ⟨tr, hrun, houts⟩ := h
  have hrun' := hrun.snoc hen
  rw [show M.next s move = s' from congrArg Prod.fst hstep] at hrun'
  refine ⟨_, hrun', ?_⟩
  rw [outs_append, outs_singleton, houts]
  exact congrArg (effects ++ ·) (congrArg Prod.snd hstep)

open ProducerPc (noConfusion)

theorem step_room_full {p : PingPang} {x : Side} {m : Msg} {w : WriterPc} (h : p.exceeds x m.length = true) :
    Race.step ⟨p, .room x m, w⟩ .producer = (⟨p, .writable x m, w⟩, []) := by
  show ((⟨_, if p.exceeds x m.length then _ else _, _⟩ : Race), _) = _
  rw [if_pos h]
  rfl

/-- The buffers after a message that is copied to the first of them. -/
def filledBy (m : Msg) : PingPang := { PingPang.init.copyTo m with nextWrite := some ⟨.buffer1, m.length⟩ }

theorem reached_filled {m : Msg} (hm : m.length = endOffset) :
    Reached machine [.copied (.buffer .buffer1) m] ⟨filledBy m, .idle, .idle⟩ := by
  have hfits : ¬PingPang.init.exceeds .buffer1 m.length = true := fun h =>
    absurd (of_decide_eq_true h).2 (by rw [hm]; decide)
  have hstart : Reached machine [] machine.init := ⟨[], .nil, rfl⟩
  have hroom : Reached machine [] ⟨.init, .room .buffer1 m, .idle⟩ :=
    ((hstart.to (.copy m) ⟨rfl, Nat.le_of_eq hm⟩ rfl).to .producer noConfusion rfl).to .producer
      noConfusion rfl
  have hcopy : Reached machine [] ⟨.init, .copy m, .idle⟩ := by
    refine hroom.to .producer noConfusion ?_
    show ((⟨_, if PingPang.init.exceeds .buffer1 m.length then _ else _, _⟩ : Race), _) = _
    rw [if_neg hfits]
    rfl
  refine (hcopy.to .producer noConfusion rfl).to .producer noConfusion ?_
  rw [filledBy, ← Nat.zero_add m.length]
  rfl

/-- The buffers when the full one is handed over and the next message is not yet copied. -/
def handedBy (m : Msg) : PingPang :=
  { (((filledBy m).setLenth .buffer1 m.length).setState .buffer2 .writing).setState .buffer1 .readable with
    nextWrite := some ⟨.buffer2, 0⟩
    writeCondition := true }

theorem reached_handed {m : Msg} (hm : m.length = endOffset) :
    Reached machine [.copied (.buffer .buffer1) m, .handed] ⟨handedBy m, .copy [8], .others .buffer1⟩ := by
  have hover : (filledBy m).exceeds .buffer1 1 = true := decide_eq_true ⟨rfl, by rw [hm]; decide⟩
  have hroom : Reached machine [.copied (.buffer .buffer1) m] ⟨filledBy m, .room .buffer1 [8], .own .buffer1⟩ :=
    ((((reached_filled hm).to .write rfl rfl).to (.copy [8]) ⟨rfl, by decide⟩ rfl).to .producer
      noConfusion rfl).to .producer noConfusion rfl
  have hwritable := hroom.to .producer noConfusion (step_room_full hover)
  have htake := ((hwritable.to .producer noConfusion rfl).to .producer noConfusion rfl).to
    .producer noConfusion rfl
  have hcopy := ((htake.to .producer noConfusion rfl).to .producer noConfusion rfl).to
    .producer noConfusion rfl
  exact hcopy.to .writer WriterPc.noConfusion rfl

/-- A message fills a buffer and the next one finds it full: it is handed over while the log thread looks at the
    states, and the log thread writes it while the message is copied to the other buffer. -/
theorem pingpang_log_message :
    ∃ tr s, machine.Run tr s ∧ s.producer = .idle ∧ s.writer = .wipe .buffer1 ∧
      s.body.file ++ unwritten s.body s.writer .buffer1 ++ content (s.body.memory .buffer2) 1 =
        replicate endOffset 7 ++ [8] ∧
      s.body.numLoose = 0 := by
  have hm : (replicate endOffset (7 : UInt8)).length = endOffset := length_replicate
  generalize replicate endOffset (7 : UInt8) = m at hm ⊢
  have hlenth := (reached_handed hm).to .writer WriterPc.noConfusion rfl
  have htake : Reached machine [.copied (.buffer .buffer1) m, .handed] ⟨handedBy m, .copy [8], .take .buffer1⟩ := by
    refine hlenth.to .writer WriterPc.noConfusion ?_
    show ((⟨_, _, if m.length ≠ 0 then _ else _⟩ : Race), _) = _
    rw [if_pos (by rw [hm]; decide)]
    rfl
  have hcopied := ((htake.to .writer WriterPc.noConfusion rfl).to .producer noConfusion rfl).to .writer
    WriterPc.noConfusion rfl
  obtain ⟨tr, hrun, houts⟩ := hcopied.to .producer noConfusion rfl
  obtain ⟨-, -, hlog, -, hloose⟩ := pingpang_log hrun
  obtain ⟨⟨x, n, -, -, hnext, -, hfile⟩, -⟩ := hlog rfl
  obtain ⟨rfl, rfl⟩ : Side.buffer2 = x ∧ 1 = n := by simpa using Option.some.inj hnext
  rw [houts] at hfile hloose
  exact ⟨tr, _, hrun, rfl, rfl, hfile, hloose⟩

/-! ## Messages of any length -/

/-- The same threads with messages of any length. -/
def anyLength : Transducer Race RaceMove Effect where
  init := machine.init
  enabled := fun s move => match move with
    | .copy _ => s.producer = .idle
    | move => Enabled s move
  step := step

instance instDecidableAnyLength (s : Race) : (move : RaceMove) → Decidable (anyLength.enabled s move)
  | .copy _ | .write => inferInstanceAs (Decidable (_ = _))
  | .producer | .writer => inferInstanceAs (Decidable (_ ≠ _))

/-- The condition on a step: a message that is copied ends in front of the last two bytes of an empty buffer. -/
def Short : RaceMove → Prop
  | .copy m => m.length ≤ endOffset
  | _ => True

instance instDecidableShort : (move : RaceMove) → Decidable (Short move)
  | .copy _ => inferInstanceAs (Decidable (_ ≤ _))
  | .producer | .write | .writer => isTrue trivial

/-- A message about to be copied ends in its buffer, and a buffer that is `READABLE` is not empty. -/
structure Contained (s : Race) : Prop where
  inside : ∀ m a, s.producer = .copy m → s.body.nextWrite = some a → a.offset + m.length ≤ pingpangBufferSize
  drained : ∀ x, s.body.state x = .readable → s.body.lenthToWrite x ≠ 0

theorem run_of_short {s : Race} (h : anyLength.Run tr s) (hshort : ∀ x ∈ tr, Short x.event) : machine.Run tr s := by
  induction h with
  | nil => exact .nil
  | @snoc tr s move hrun hen ih =>
    refine Run.snoc (M := machine) (ih fun x hx => hshort x (mem_append_left _ hx)) ?_
    cases move with
    | copy m => exact ⟨hen, hshort _ (mem_append_right _ (mem_singleton_self _))⟩
    | producer | write | writer => exact hen

/-- **Messages that fit.** In every run whose messages are short each is copied into its buffer, and no buffer becomes
    `READABLE` without anything to write. -/
theorem short_messages_contained {s : Race} (h : anyLength.Run tr s) (hshort : ∀ x ∈ tr, Short x.event) : Contained s := by
  have hlogged : Logged tr s := run_logged (run_of_short h hshort)
  refine ⟨fun m a hcopy hnext => ?_, hlogged.inv.writer.lenth⟩
  have hproducer := hlogged.inv.producer
  rw [hcopy] at hproducer
  obtain ⟨x, n, hf, hroom⟩ := hproducer
  obtain rfl : a = ⟨x, n⟩ := Option.some.inj (hnext.symm.trans hf.next)
  exact Nat.le_trans hroom (Nat.sub_le _ _)

theorem short_messages_contained_seven : Contained (anyLength.exec [.copy [7], .producer, .producer, .producer]).2 :=
  short_messages_contained (anyLength.run_exec (by decide))
    (anyLength.exec_along (C := fun _ => Short) (by decide))

/-- A long message as the first: the empty buffer is handed over, and the message goes to the other one. -/
theorem long_first {m : Msg} (h : endOffset < m.length) :
    ∃ tr s, anyLength.Run tr s ∧ s.producer = .copy m ∧ s.body.nextWrite = some ⟨.buffer2, 0⟩ ∧
      s.body.state .buffer1 = .readable ∧ s.body.lenthToWrite .buffer1 = 0 := by
  have hexceeds : PingPang.init.exceeds .buffer1 m.length = true := decide_eq_true ⟨rfl, by omega⟩
  have hstart : Reached anyLength [] machine.init := ⟨[], .nil, rfl⟩
  have hroom : Reached anyLength [] ⟨.init, .room .buffer1 m, .idle⟩ :=
    ((hstart.to (.copy m) rfl rfl).to .producer noConfusion rfl).to .producer noConfusion rfl
  -- From here to the copy no statement looks at the length of the message.
  have hswitched := (((hroom.to .producer noConfusion (step_room_full hexceeds)).to .producer noConfusion rfl).to
    .producer noConfusion rfl).to .producer noConfusion rfl
  obtain ⟨tr, hrun, -⟩ := ((hswitched.to .producer noConfusion rfl).to .producer noConfusion rfl).to
    .producer noConfusion rfl
  exact ⟨tr, _, hrun, rfl, rfl, rfl, rfl⟩

/-- A message one byte too long for the empty buffer leaves it `READABLE` and empty; one longer than a buffer is copied
    beyond its end. -/
theorem long_messages_not_contained :
    (∃ tr s, anyLength.Run tr s ∧ s.producer = .copy (replicate 20479 0) ∧ ¬Contained s) ∧
      ∃ tr s, anyLength.Run tr s ∧ s.producer = .copy (replicate 20481 0) ∧
        ∃ a, s.body.nextWrite = some a ∧ pingpangBufferSize < a.offset + (replicate 20481 (0 : UInt8)).length := by
  obtain ⟨tr, s, hrun, hcopy, -, hreadable, hempty⟩ := long_first (m := replicate 20479 0)
    (by rw [length_replicate]; decide)
  obtain ⟨tr', s', hrun', hcopy', hnext, -⟩ := long_first (m := replicate 20481 0) (by rw [length_replicate]; decide)
  refine ⟨⟨tr, s, hrun, hcopy, fun h => h.drained .buffer1 hreadable hempty⟩, tr', s', hrun', hcopy', _, hnext, ?_⟩
  rw [length_replicate]
  decide

end Race

end HuaweiY5.Mnld.DbgLog
