import HuaweiY5.Fm.Tuner

/-!
# `Fm.Program` — `program.channel` against the tunes the driver accepted

The callback thread executes a step, a seek or a tune under the tuner's lock, each with one `FMR_tune` at its end. A step
writes `program.channel` after the driver has accepted the tune; a tune writes it before it asks the driver, and a seek
has it written by `FMR_seek`, which puts the start frequency there (cut to the band) and the channel it finds, before the
driver is tuned to it. A seek that is stopped tunes the driver back to `fmr_data.cur_freq` on its way out.
-/

namespace HuaweiY5.Fm

/-- The tuner, `fmr_data.cur_freq`, and the channel of the last tune the driver accepted. -/
structure Program where
  tuner : Tuner
  curFreq : UInt16
  accepted : Option UInt32

/-- How `FMR_seek` ends: with a channel, without one, or stopped, with the driver's answer to the tune back. -/
inductive SeekOutcome
  | found (channel : UInt32)
  | failed
  | stopped (tuneOk : Bool)
  deriving DecidableEq

/-- A command executed, with the driver's answer to its tune. -/
inductive Executed
  | config (c : BandConfig)
  | step (up tuneOk : Bool)
  | seek (up : Bool) (outcome : SeekOutcome) (tuneOk : Bool)
  | tune (channel : UInt32) (tuneOk : Bool)
  deriving DecidableEq

namespace Program

def fmrTune (freq : UInt32) (ok : Bool) (p : Program) : Program :=
  { p with curFreq := freq.toUInt16, accepted := if ok then some freq else p.accepted }

variable (t : Tuner)

def startFreq : UInt32 := if t.config.Within t.channel then t.channel else t.config.lowerLimit

/-- What `FMR_seek` leaves in `program.channel`. -/
def soughtChannel : SeekOutcome → UInt32
  | .found channel => channel
  | _ => startFreq t

/-- The tunes inside `FMR_seek`. -/
def fmrSeek (outcome : SeekOutcome) (p : Program) : Program :=
  match outcome with
  | .stopped tuneOk => fmrTune p.curFreq.toUInt32 tuneOk p
  | _ => p

/-- The answers of the driver, as the callback thread gets them. -/
def answers : Executed → Tuner.Answers
  | .config _ => Tuner.plainAnswers
  | .step _ tuneOk => ⟨tuneOk, 0, false, true⟩
  | .seek _ outcome tuneOk => ⟨tuneOk, soughtChannel t outcome, false, true⟩
  | .tune _ tuneOk => ⟨tuneOk, 0, false, true⟩

def command : Executed → Command
  | .config c => .config c
  | .step up _ => .step up
  | .seek up _ _ => .seek up
  | .tune channel _ => .tune channel

/-- What the driver is asked while the command is executed. -/
def drive (p : Program) : Executed → Program
  | .config _ => p
  | .step up tuneOk => fmrTune (Tuner.stepFreq p.tuner.config p.tuner.channel up) tuneOk p
  | .seek _ outcome tuneOk => fmrTune (soughtChannel p.tuner outcome) tuneOk (fmrSeek outcome p)
  | .tune channel tuneOk => fmrTune channel tuneOk p

def step (p : Program) (e : Executed) : Program :=
  { drive p e with tuner := (Tuner.execute (answers p.tuner e) p.tuner (command e)).1 }

def machine (curFreq : UInt16) : Transducer Program Executed Unit where
  init := ⟨t, curFreq, none⟩
  enabled := fun _ _ => True
  step := fun p e => (step p e, [])

/-! ## The channel after a command -/

/-- The channel is that of the last tune accepted, or `channel₀` before the first. -/
def Follows (channel₀ : UInt32) (p : Program) : Prop := p.tuner.channel = p.accepted.getD channel₀
  deriving Decidable

/-- A failed tune is to the channel of before; after a seek whose last tune fails the channel is that of before, or the
    one a stopped seek tuned back to. -/
def Keeps (p : Program) : Executed → Prop
  | .config _ | .step _ _ => True
  | .seek _ outcome tuneOk =>
    tuneOk = true ∨ soughtChannel p.tuner outcome =
      if outcome = .stopped true then p.curFreq.toUInt32 else p.tuner.channel
  | .tune channel tuneOk => tuneOk = true ∨ channel = p.tuner.channel

instance instDecidableKeeps (p : Program) : (e : Executed) → Decidable (Keeps p e)
  | .config _ | .step _ _ => isTrue trivial
  | .seek _ _ _ | .tune _ _ => inferInstanceAs (Decidable (_ ∨ _))

section

variable {p : Program} {channel₀ : UInt32}

theorem channel_afterTune (a : Tuner.Answers) (channel : UInt32) (t : Tuner) :
    (Tuner.afterTune a channel t).1.channel = channel := by
  simp only [Tuner.afterTune, Tuner.send]
  split
  · split <;> rfl
  · rfl

theorem channel_step_seek (up : Bool) (outcome : SeekOutcome) (tuneOk : Bool) :
    (step p (.seek up outcome tuneOk)).tuner.channel = soughtChannel p.tuner outcome := channel_afterTune _ _ _

theorem channel_step_tune (channel : UInt32) (tuneOk : Bool) :
    (step p (.tune channel tuneOk)).tuner.channel = channel := channel_afterTune _ _ _

theorem accepted_fmrSeek (outcome : SeekOutcome) : (fmrSeek outcome p).accepted =
    if outcome = .stopped true then some p.curFreq.toUInt32 else p.accepted := by
  cases outcome with
  | found channel | failed => rfl
  | stopped tuneOk => cases tuneOk with | false => rfl | true => rfl

/-- **One command.** A program that follows the driver does so after the command exactly if the command keeps it so. -/
theorem follows_step_iff (h : Follows channel₀ p) (e : Executed) : Follows channel₀ (step p e) ↔ Keeps p e := by
  have hchannel : p.tuner.channel = p.accepted.getD channel₀ := h
  cases e with
  | config c => exact iff_of_true h trivial
  | step up tuneOk =>
    refine iff_of_true ?_ trivial
    cases tuneOk with
    | false => exact h
    | true => rfl
  | seek up outcome tuneOk =>
    rw [Follows, channel_step_seek]
    cases tuneOk with
    | true => exact iff_of_true rfl (Or.inl rfl)
    | false =>
      -- the tune fails: what the tunes inside the seek left counts
      have hacc : (step p (.seek up outcome false)).accepted = (fmrSeek outcome p).accepted := rfl
      rw [hacc, accepted_fmrSeek, Keeps]
      simp only [Bool.false_eq_true, false_or]
      by_cases hstop : outcome = .stopped true
      · rw [if_pos hstop, if_pos hstop]
        rfl
      · rw [if_neg hstop, if_neg hstop, ← hchannel]
  | tune channel tuneOk =>
    rw [Follows, channel_step_tune]
    cases tuneOk with
    | true => exact iff_of_true rfl (Or.inl rfl)
    | false =>
      have hacc : (step p (.tune channel false)).accepted = p.accepted := rfl
      rw [hacc, Keeps, ← hchannel]
      simp

end

/-- **The channel follows the driver.** In a run, the channel is that of the last tune accepted (or the first channel)
    after every command exactly if no failed command changes it: no failed tune is to another channel, and no seek whose
    tune fails has written another one. -/
theorem channel_follows_driver_iff (t : Tuner) (curFreq : UInt16)
    {tr : List (Transducer.Entry Program Executed Unit)} {p : Program} (hrun : (machine t curFreq).Run tr p) :
    (∀ tr' p', (machine t curFreq).Run tr' p' → tr' <+: tr → Follows t.channel p') ↔ ∀ x ∈ tr, Keeps x.pre x.event := by
  refine hrun.forall_prefix_iff (P := fun _ p => Follows t.channel p) (C := Keeps) ?_ ?_
  · rfl
  · intro _ p e _ _ hfollows
    exact follows_step_iff hfollows e

def tunerAt98 : Tuner := { Tuner.init with opened := true, config := worldBand, channel := 98000, tuned := true }

theorem admissible (t : Tuner) (curFreq : UInt16) (es : List Executed) :
    (machine t curFreq).Admissible (machine t curFreq).init es :=
  Transducer.Admissible.of_forall (fun _ _ => trivial) _ es

/-- A failed step, an accepted tune, a seek that finds a channel, and a failed tune to that same channel. -/
theorem channel_follows_driver_iff_kept :
    let events : List Executed :=
      [.step true false, .tune 100000 true, .seek true (.found 101500) true, .tune 101500 false]
    let r := (machine tunerAt98 980).exec events
    (machine tunerAt98 980).Run r.1 r.2 ∧
      ∀ tr' p', (machine tunerAt98 980).Run tr' p' → tr' <+: r.1 → Follows 98000 p' := by
  intro events r
  have hrun : (machine tunerAt98 980).Run r.1 r.2 :=
    (machine tunerAt98 980).run_exec (admissible tunerAt98 980 events)
  refine ⟨hrun, (channel_follows_driver_iff tunerAt98 980 hrun).mpr ?_⟩
  exact (machine tunerAt98 980).exec_along (of_decide_eq_true rfl)

/-- The driver refuses the only tune: the channel is the one refused, not the first one. -/
theorem refused_tune_kept :
    let r := (machine tunerAt98 980).exec [.tune 100000 false]
    (machine tunerAt98 980).Run r.1 r.2 ∧ r.2.accepted = none ∧ r.2.tuner.channel = 100000 ∧ ¬Follows 98000 r.2 :=
  ⟨(machine tunerAt98 980).run_exec (admissible tunerAt98 980 _), rfl, rfl, by decide⟩

end Program

end HuaweiY5.Fm
