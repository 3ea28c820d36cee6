import HuaweiY5.Lib.Transducer

/-!
# `Fm.Tuner` — the FM tuner's commands and the thread that executes them

The calls of the tuner interface queue commands (`send_command_l`), all under the tuner's lock; the callback thread
takes them from the list and executes them. It holds the lock while it does so, and drops it where it waits for a
command and where it calls the client back. A pass over the list is a `list_for_each_safe`: the next command is
looked up before the one at hand is executed, so a command queued while the last one is executed waits for the next
pass. A cancel is remembered until the pass ends.
-/

namespace HuaweiY5.Fm

open List

/-! ## Configurations and commands -/

/-- `radio_band_t`. -/
inductive BandType
  | am
  | fm
  | fmHd
  | amHd
  deriving DecidableEq

/-- `radio_hal_band_config_t`, with the FM settings. -/
structure BandConfig where
  type : BandType
  antennaConnected : Bool
  lowerLimit : UInt32
  upperLimit : UInt32
  spacings : List UInt32
  deemphasis : UInt32
  stereo : Bool
  rds : UInt32
  ta : Bool
  af : Bool
  deriving DecidableEq

/-- The configuration of a tuner fresh from `calloc`. -/
def BandConfig.zero : BandConfig := ⟨.am, false, 0, 0, [], 0, false, 0, false, false⟩

/-- The first band of `fmradio_hw_properties`. -/
def worldBand : BandConfig := ⟨.fm, false, 87500, 108000, [100, 200], 0, true, 1, false, false⟩

/-- The second band of `fmradio_hw_properties`. -/
def usBand : BandConfig := ⟨.fm, true, 87900, 107900, [100, 200], 1, true, 2, false, false⟩

/-- The channel is within the limits of the configuration. -/
def BandConfig.Within (c : BandConfig) (channel : UInt32) : Prop :=
  ¬(channel < c.lowerLimit ∨ channel > c.upperLimit)
  deriving Decidable

/-- `thread_cmd_type_t`, each with its parameter. -/
inductive Command
  | exit
  | config (c : BandConfig)
  | step (up : Bool)
  | seek (up : Bool)
  | tune (channel : UInt32)
  | cancel
  | checkRds
  | showRds
  deriving DecidableEq

def Command.cancellable : Command → Bool
  | .step _ | .seek _ | .tune _ | .checkRds | .showRds => true
  | _ => false

def Command.retunes : Command → Bool
  | .step _ | .seek _ | .tune _ => true
  | _ => false

/-- A node of the list; the serial number tells apart the commands queued one after the other. -/
structure Node where
  serial : Nat
  command : Command
  deriving DecidableEq

/-- Where the callback thread is: waiting for a command, at the first command of the list, or in the client's
    callback, with `got_cancel` and with whether the pass has a next command; or it has ended. -/
inductive Phase
  | waiting
  | item (gotCancel : Bool)
  | callback (gotCancel more : Bool)
  | exited
  deriving DecidableEq

/-- `fmradio_tuner`. -/
structure Tuner where
  opened : Bool
  config : BandConfig
  channel : UInt32
  tuned : Bool
  commandList : List Node
  serial : Nat
  thread : Phase

/-- What a step shows: a command queued, executed or discarded, the configuration given to a caller, the status a call
    returns. -/
inductive Effect
  | queued (n : Node)
  | executed (n : Node)
  | discarded (n : Node)
  | configuration (c : BandConfig)
  | returned (status : Int)
  deriving DecidableEq

namespace Tuner

def init : Tuner := ⟨false, .zero, 0, false, [], 0, .waiting⟩

/-- `send_command_l`; `memory` says whether the node is allocated. -/
def send (command : Command) (memory : Bool) (t : Tuner) : Tuner × List Effect :=
  if memory then
    ({ t with commandList := t.commandList ++ [⟨t.serial, command⟩], serial := t.serial + 1 },
      [.queued ⟨t.serial, command⟩])
  else (t, [])

/-- `-EINVAL`. -/
def einval : Int := -22

/-! ## The calls -/

variable (config : BandConfig) (a : Answers) (t : Tuner)

/-- The end of `fmr_dev_open_tuner`: the configuration is queued; the result of `send_command_l` is not looked at. -/
def openTuner (memory : Bool) (t : Tuner) : Tuner × List Effect :=
  send (.config config) memory { t with opened := true }

/-- `tuner_set_configuration`; the results of the two `send_command_l` are not looked at. -/
def setConfiguration (config : Option BandConfig) (memory₁ memory₂ : Bool) (t : Tuner) : Tuner × List Effect :=
  match config with
  | none => (t, [.returned einval])
  | some config =>
    let r₁ := send .cancel memory₁ t
    let r₂ := send (.config config) memory₂ r₁.1
    (r₂.1, r₁.2 ++ r₂.2 ++ [.returned 0])

/-- The configuration after a command: that of a `CMD_CONFIG`, else the same. -/
def configAfter : Command → BandConfig
  | .config c => c
  | _ => config

/-- The loop of `tuner_get_configuration`: the last configuration in the list, or the one given. -/
def lastConfig (list : List Node) : BandConfig :=
  list.foldl (fun srcConfig n => configAfter srcConfig n.command) config

/-- The configuration `tuner_get_configuration` finds. -/
def srcConfig : BandConfig := lastConfig t.config t.commandList

/-- `tuner_get_configuration`; `dest` says whether a destination is given. -/
def getConfiguration (dest : Bool) (t : Tuner) : Tuner × List Effect :=
  if dest then (t, [.configuration t.srcConfig, .returned 0]) else (t, [.returned einval])

/-- `tuner_step`, `tuner_seek` and `tuner_cancel`: the command is queued. -/
def queue (command : Command) (memory : Bool) (t : Tuner) : Tuner × List Effect :=
  let r := send command memory t
  (r.1, r.2 ++ [.returned 0])

/-- `tuner_tune`. -/
def tune (channel : UInt32) (memory : Bool) (t : Tuner) : Tuner × List Effect :=
  if channel < t.config.lowerLimit ∨ channel > t.config.upperLimit then (t, [.returned einval])
  else queue (.tune channel) memory t

/-- A round of `rds_thread_loop`: what it read is to be shown. -/
def rdsRound (metadata memory : Bool) (t : Tuner) : Tuner × List Effect :=
  if metadata then send .showRds memory t else (t, [])

/-! ## The callback thread -/

/-- What the driver and the memory answer while a command is executed: whether the chip is tuned, the channel a seek
    ends at, whether there is metadata, and whether a node is allocated. -/
structure Answers where
  tuneOk : Bool
  seekChannel : UInt32
  metadata : Bool
  memory : Bool
  deriving DecidableEq

def plainAnswers : Answers := ⟨true, 0, false, true⟩

/-- The frequency of a step, with the wrap around at the limits. -/
def stepFreq (channel : UInt32) (up : Bool) : UInt32 :=
  let spacing := config.spacings.headD 0
  let freq := if up then channel + spacing else channel - spacing
  let freq := if freq > config.upperLimit then config.lowerLimit else freq
  if freq < config.lowerLimit then config.upperLimit else freq

/-- The end of a command that tunes the chip: RDS is to be checked on the new channel. -/
def afterTune (channel : UInt32) (t : Tuner) : Tuner × List Effect :=
  let t := { t with channel := channel, tuned := a.tuneOk }
  if t.tuned then send .checkRds a.memory t else (t, [])

/-- Execute a command; the second component says whether there is an event for the client. -/
def execute : Command → Tuner × Bool × List Effect
  | .exit => (t, false, [])
  | .config c => ({ t with config := c }, true, [])
  | .step up =>
    let r := afterTune a (if a.tuneOk then stepFreq t.config t.channel up else t.channel) t
    (r.1, true, r.2)
  | .seek _ =>
    let r := afterTune a a.seekChannel t
    (r.1, true, r.2)
  | .tune channel =>
    let r := afterTune a channel t
    (r.1, true, r.2)
  | .cancel => (t, false, [])
  | .checkRds | .showRds => (t, a.metadata, [])

def advance (gotCancel more : Bool) (t : Tuner) : Tuner :=
  if more then { t with thread := .item gotCancel }
  else if t.commandList = [] then { t with thread := .waiting }
  else { t with thread := .item false }

/-- One command of the pass: it is removed, and discarded or executed. -/
def processNode (gotCancel : Bool) (n : Node) (rest : List Node) (t : Tuner) : Tuner × List Effect :=
  -- the next node is looked up before the command is executed
  let more := !rest.isEmpty
  let t := { t with commandList := rest }
  if gotCancel && n.command.cancellable then (advance gotCancel more t, [.discarded n])
  else if n.command = .exit then ({ t with thread := .exited }, [.executed n])
  else
    let r := execute a t n.command
    let gotCancel := gotCancel || decide (n.command = .cancel)
    if r.2.1 then ({ r.1 with thread := .callback gotCancel more }, .executed n :: r.2.2)
    else (advance gotCancel more r.1, .executed n :: r.2.2)

def process : Tuner × List Effect :=
  match t.thread, t.commandList with
  | .item gotCancel, n :: rest => processNode a gotCancel n rest t
  | _, _ => (t, [])

def callbackReturns : Tuner :=
  match t.thread with
  | .callback gotCancel more => advance gotCancel more t
  | _ => t

end Tuner

/-! ## All threads -/

/-- A step: a call, a round of the RDS thread, or the callback thread woken, executing a command or back from the
    client. -/
inductive TunerMove
  | openTuner (config : BandConfig) (memory : Bool)
  | setConfiguration (config : Option BandConfig) (memory₁ memory₂ : Bool)
  | getConfiguration (dest : Bool)
  | step (up memory : Bool)
  | seek (up memory : Bool)
  | tune (channel : UInt32) (memory : Bool)
  | cancel (memory : Bool)
  | rds (metadata memory : Bool)
  | wake
  | process (a : Tuner.Answers)
  | callbackReturns
  deriving DecidableEq

namespace Tuner

def step (t : Tuner) : TunerMove → Tuner × List Effect
  | .openTuner config memory => openTuner config memory t
  | .setConfiguration config memory₁ memory₂ => setConfiguration config memory₁ memory₂ t
  | .getConfiguration dest => getConfiguration dest t
  | .step up memory => queue (.step up) memory t
  | .seek up memory => queue (.seek up) memory t
  | .tune channel memory => tune channel memory t
  | .cancel memory => queue .cancel memory t
  | .rds metadata memory => rdsRound metadata memory t
  | .wake => (advance false false t, [])
  | .process a => process a t
  | .callbackReturns => (callbackReturns t, [])

def Unlocked : Phase → Prop
  | .waiting | .callback _ _ => True
  | _ => False

def AtItem : Phase → Prop
  | .item _ => True
  | _ => False

def InCallback : Phase → Prop
  | .callback _ _ => True
  | _ => False

variable (gotCancel more : Bool) (t : Tuner)

/-- A call of the open tuner needs the lock; the callback thread wakes where it waits. -/
def Enabled : TunerMove → Prop
  | .openTuner _ _ => t.opened = false ∧ Unlocked t.thread
  | .rds _ _ => Unlocked t.thread
  | .wake => t.thread = .waiting
  | .process _ => AtItem t.thread
  | .callbackReturns => InCallback t.thread
  | _ => t.opened = true ∧ Unlocked t.thread

instance instDecidableUnlocked : DecidablePred Unlocked
  | .waiting | .callback _ _ => isTrue trivial
  | .item _ | .exited => isFalse id

instance instDecidableAtItem : DecidablePred AtItem
  | .item _ => isTrue trivial
  | .waiting | .callback _ _ | .exited => isFalse id

instance instDecidableInCallback : DecidablePred InCallback
  | .callback _ _ => isTrue trivial
  | .waiting | .item _ | .exited => isFalse id

def machine : Transducer Tuner TunerMove Effect where
  init := init
  enabled := Enabled
  step := step

instance instDecidableMachineEnabled (t : Tuner) : (move : TunerMove) → Decidable (machine.enabled t move)
  | .rds _ _ => inferInstanceAs (Decidable (Unlocked t.thread))
  | .wake => inferInstanceAs (Decidable (t.thread = .waiting))
  | .process _ => inferInstanceAs (Decidable (AtItem t.thread))
  | .callbackReturns => inferInstanceAs (Decidable (InCallback t.thread))
  | .openTuner _ _ | .setConfiguration _ _ _ | .getConfiguration _ | .step _ _ | .seek _ _ | .tune _ _ | .cancel _ =>
    inferInstanceAs (Decidable (_ ∧ _))

/-! ## What a step does to the list

A step is a call, which queues commands and changes nothing else; a round of the pass, which takes the first command
and may queue one; or a turn of the callback thread, which leaves the list as it is. -/

def numbered (serial : Nat) : List Command → List Node
  | [] => []
  | c :: cs => ⟨serial, c⟩ :: numbered (serial + 1) cs

def IsReply : Effect → Prop
  | .configuration _ | .returned _ => True
  | _ => False

/-- The commands are queued and nothing else changes. -/
structure Sends (commands : List Command) (t : Tuner) (r : Tuner × List Effect) : Prop where
  list : r.1.commandList = t.commandList ++ numbered t.serial commands
  serial : r.1.serial = t.serial + commands.length
  config : r.1.config = t.config
  thread : r.1.thread = t.thread
  out : ∃ replies, r.2 = (numbered t.serial commands).map .queued ++ replies ∧ ∀ e ∈ replies, IsReply e

def called : TunerMove → List Command
  | .openTuner config memory => if memory then [.config config] else []
  | .setConfiguration (some config) memory₁ memory₂ =>
    (if memory₁ then [.cancel] else []) ++ (if memory₂ then [.config config] else [])
  | .step up memory => if memory then [.step up] else []
  | .seek up memory => if memory then [.seek up] else []
  | .tune channel memory => if t.config.Within channel ∧ memory = true then [.tune channel] else []
  | .cancel memory => if memory then [.cancel] else []
  | .rds metadata memory => if metadata && memory then [.showRds] else []
  | _ => []

def IsCall : TunerMove → Prop
  | .wake | .process _ | .callbackReturns => False
  | _ => True

@[simp] theorem advance_list : (advance gotCancel more t).commandList = t.commandList := by
  unfold advance; split
  · rfl
  · split <;> rfl

@[simp] theorem advance_serial : (advance gotCancel more t).serial = t.serial := by
  unfold advance; split
  · rfl
  · split <;> rfl

@[simp] theorem advance_config : (advance gotCancel more t).config = t.config := by
  unfold advance; split
  · rfl
  · split <;> rfl

@[simp] theorem advance_opened : (advance gotCancel more t).opened = t.opened := by
  unfold advance; split
  · rfl
  · split <;> rfl

theorem eq_of_mem_sent {b : Prop} [Decidable b] {command c : Command} (h : c ∈ (if b then [command] else [])) :
    c = command := by
  split at h
  · exact mem_singleton.mp h
  · cases h

variable {t : Tuner}

theorem Sends.none {replies : List Effect} (h : ∀ e ∈ replies, IsReply e) : Sends [] t (t, replies) :=
  ⟨(append_nil _).symm, rfl, rfl, rfl, replies, rfl, h⟩

theorem send_sends (command : Command) (memory : Bool) (t : Tuner) :
    Sends (if memory then [command] else []) t (send command memory t) := by
  cases memory with
  | true => exact ⟨rfl, rfl, rfl, rfl, [], rfl, fun e he => absurd he not_mem_nil⟩
  | false => exact .none (fun e he => absurd he not_mem_nil)

theorem Sends.returned {commands : List Command} {r : Tuner × List Effect} (h : Sends commands t r) (status : Int) :
    Sends commands t (r.1, r.2 ++ [Effect.returned status]) := by
  obtain ⟨hlist, hserial, hconfig, hthread, replies, hout, hreplies⟩ := h
  refine ⟨hlist, hserial, hconfig, hthread, replies ++ [Effect.returned status], ?_, fun e he => ?_⟩
  · rw [hout, append_assoc]
  · rcases mem_append.mp he with hold | hnew
    · exact hreplies e hold
    · rw [mem_singleton.mp hnew]
      trivial

theorem Sends.mem_out {commands : List Command} {r : Tuner × List Effect} (h : Sends commands t r) {e : Effect}
    (he : e ∈ r.2) : (∃ n, e = .queued n) ∨ IsReply e := by
  obtain ⟨replies, hout, hreplies⟩ := h.out
  rw [hout] at he
  rcases mem_append.mp he with hqueued | hreply
  · obtain ⟨n, -, heq⟩ := mem_map.mp hqueued
    exact .inl ⟨n, heq.symm⟩
  · exact .inr (hreplies e hreply)

theorem step_sends {move : TunerMove} (h : IsCall move) : Sends (called t move) t (t.step move) := by
  cases move with
  | openTuner config memory =>
    -- the tuner sent to differs from `t` in `opened` only
    obtain ⟨hlist, hserial, hconfig, hthread, hout⟩ := send_sends (.config config) memory { t with opened := true }
    exact ⟨hlist, hserial, hconfig, hthread, hout⟩
  | setConfiguration config memory₁ memory₂ =>
    cases config with
    | none =>
      refine .none (fun e he => ?_)
      rw [mem_singleton.mp he]
      trivial
    | some config =>
      have hsent : Sends (called t (.setConfiguration (some config) memory₁ memory₂)) t
          ((send (.config config) memory₂ (send .cancel memory₁ t).1).1,
            (send .cancel memory₁ t).2 ++ (send (.config config) memory₂ (send .cancel memory₁ t).1).2) := by
        cases memory₁ <;> cases memory₂ <;>
          refine ⟨?_, rfl, rfl, rfl, [], rfl, fun e he => absurd he not_mem_nil⟩
        · exact (append_nil _).symm
        · rfl
        · rfl
        · exact append_assoc ..
      exact hsent.returned 0
  | getConfiguration dest =>
    cases dest with
    | true =>
      refine .none (fun e he => ?_)
      rcases mem_cons.mp he with rfl | hlast
      · trivial
      · rw [mem_singleton.mp hlast]
        trivial
    | false =>
      refine .none (fun e he => ?_)
      rw [mem_singleton.mp he]
      trivial
  | step up memory | seek up memory | cancel memory => exact (send_sends _ memory t).returned 0
  | tune channel memory =>
    show Sends (if t.config.Within channel ∧ memory = true then [.tune channel] else []) t (tune channel memory t)
    unfold tune
    by_cases hout : channel < t.config.lowerLimit ∨ channel > t.config.upperLimit
    · rw [if_pos hout, if_neg (fun hin => hin.1 hout)]
      refine .none (fun e he => ?_)
      rw [mem_singleton.mp he]
      trivial
    · rw [if_neg hout]
      have hin : t.config.Within channel := hout
      simp only [hin, true_and]
      exact (send_sends _ memory t).returned 0
  | rds metadata memory =>
    cases metadata with
    | true => exact send_sends _ memory t
    | false => exact .none (fun e he => absurd he not_mem_nil)
  | wake | process a | callbackReturns => exact h.elim

def follows (a : Answers) (command : Command) : List Command :=
  if command.retunes && a.tuneOk && a.memory then [.checkRds] else []

theorem execute_sends (a : Answers) (t : Tuner) (command : Command) :
    (execute a t command).1.commandList = t.commandList ++ numbered t.serial (follows a command) ∧
      (execute a t command).1.serial = t.serial + (follows a command).length ∧
      (execute a t command).1.config = configAfter t.config command ∧
      (execute a t command).2.2 = (numbered t.serial (follows a command)).map .queued := by
  obtain ⟨tuneOk, seekChannel, metadata, memory⟩ := a
  cases command with
  | step up | seek up | tune channel =>
    cases tuneOk <;> cases memory <;> simp [execute, afterTune, send, follows, Command.retunes, numbered, configAfter]
  | exit | config | cancel | checkRds | showRds => exact ⟨(append_nil _).symm, rfl, rfl, rfl⟩

/-- The pass goes on with a cancel in mind, and will come to the commands in the list. -/
def Cancelling : Phase → Prop
  | .item true | .callback true true => True
  | _ => False

instance instDecidableCancelling : DecidablePred Cancelling
  | .item true | .callback true true => isTrue trivial
  | .item false | .callback true false | .callback false _ | .waiting | .exited => isFalse id

theorem cancelling_advance {gotCancel more : Bool} (h : Cancelling (advance gotCancel more t).thread) :
    gotCancel = true ∧ more = true := by
  unfold advance at h
  cases more with
  | true =>
    cases gotCancel with
    | true => exact ⟨rfl, rfl⟩
    | false => exact h.elim
  | false =>
    rw [if_neg Bool.false_ne_true] at h
    split at h <;> exact h.elim

/-- What a round does with a command it does not discard. -/
structure Executes (a : Answers) (gotCancel : Bool) (n : Node) (rest : List Node) (t : Tuner)
    (r : Tuner × List Effect) : Prop where
  list : r.1.commandList = rest ++ numbered t.serial (follows a n.command)
  serial : r.1.serial = t.serial + (follows a n.command).length
  config : r.1.config = configAfter t.config n.command
  out : r.2 = .executed n :: (numbered t.serial (follows a n.command)).map .queued
  cancelling : Cancelling r.1.thread → gotCancel = true ∨ n.command = .cancel

theorem processNode_cases (a : Answers) (gotCancel : Bool) (n : Node) (rest : List Node) (t : Tuner) :
    (gotCancel = true ∧ n.command.cancellable = true ∧
      processNode a gotCancel n rest t =
        (advance gotCancel (!rest.isEmpty) { t with commandList := rest }, [.discarded n])) ∨
      (¬(gotCancel = true ∧ n.command.cancellable = true) ∧
        Executes a gotCancel n rest t (processNode a gotCancel n rest t)) := by
  by_cases hdiscard : gotCancel = true ∧ n.command.cancellable = true
  · refine .inl ⟨hdiscard.1, hdiscard.2, ?_⟩
    unfold processNode
    rw [if_pos (by rw [hdiscard.1, hdiscard.2]; rfl)]
  · refine .inr ⟨hdiscard, ?_⟩
    have hgo : ¬(gotCancel && n.command.cancellable) = true := fun h => hdiscard (Bool.and_eq_true_iff.mp h)
    obtain ⟨hlist, hserial, hconfig, hout⟩ := execute_sends a { t with commandList := rest } n.command
    unfold processNode
    dsimp only
    rw [if_neg hgo]
    by_cases hexit : n.command = .exit
    · rw [if_pos hexit]
      have hnone : follows a n.command = [] := by rw [hexit]; rfl
      have hsame : configAfter t.config n.command = t.config := by rw [hexit]; rfl
      exact ⟨by rw [hnone]; exact (append_nil _).symm, by rw [hnone]; rfl, hsame.symm, by rw [hnone]; rfl, False.elim⟩
    · rw [if_neg hexit]
      have hcancel : (gotCancel || decide (n.command = .cancel)) = true → gotCancel = true ∨ n.command = .cancel := by
        intro h
        rcases Bool.or_eq_true_iff.mp h with h | h
        · exact .inl h
        · exact .inr (of_decide_eq_true h)
      split
      · refine ⟨hlist, hserial, hconfig, congrArg _ hout, fun h => hcancel ?_⟩
        cases hg : (gotCancel || decide (n.command = .cancel)) with
        | true => rfl
        | false =>
          rw [hg] at h
          exact h.elim
      · refine ⟨?_, ?_, ?_, congrArg _ hout, fun h => hcancel (cancelling_advance h).1⟩
        · rw [advance_list]; exact hlist
        · rw [advance_serial]; exact hserial
        · rw [advance_config]; exact hconfig

theorem process_eq {a : Answers} (h : AtItem t.thread) :
    process a t = (t, []) ∧ t.commandList = [] ∨
      ∃ gotCancel n rest, t.thread = .item gotCancel ∧ t.commandList = n :: rest ∧
        process a t = processNode a gotCancel n rest t := by
  cases hthread : t.thread with
  | item gotCancel =>
    cases hlist : t.commandList with
    | nil => exact .inl ⟨by unfold process; rw [hthread, hlist], rfl⟩
    | cons n rest => exact .inr ⟨gotCancel, n, rest, rfl, rfl, by unfold process; rw [hthread, hlist]⟩
  | waiting | callback gotCancel more | exited => rw [hthread] at h; exact h.elim

/-- The other steps of the callback thread leave the list, the configuration and the serial number. -/
structure Turns (t t' : Tuner) : Prop where
  list : t'.commandList = t.commandList
  serial : t'.serial = t.serial
  config : t'.config = t.config
  opened : t'.opened = t.opened
  cancelling : Cancelling t'.thread → Cancelling t.thread

theorem wake_turns (t : Tuner) : Turns t (advance false false t) :=
  ⟨advance_list .., advance_serial .., advance_config .., advance_opened ..,
    fun h => absurd (cancelling_advance h).1 Bool.false_ne_true⟩

theorem callbackReturns_turns (t : Tuner) : Turns t (callbackReturns t) := by
  unfold callbackReturns
  split
  · rename_i gotCancel more hthread
    refine ⟨advance_list .., advance_serial .., advance_config .., advance_opened .., fun h => ?_⟩
    obtain ⟨rfl, rfl⟩ := cancelling_advance h
    rw [hthread]
    trivial
  · exact ⟨rfl, rfl, rfl, rfl, id⟩

end Tuner

end HuaweiY5.Fm
