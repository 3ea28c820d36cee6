import HuaweiY5.Lib.JavaString
import HuaweiY5.Lib.Transducer

/-!
# `Ril.RadioPower` — powering the modem with airplane mode

`setRadioPower` powers the modem off when the radio is switched off in airplane mode, and on again at the first
switch-on after airplane mode was left. What it goes by is `persist.radio.airplane.mode.on`, and that is the
airplane mode of the *previous call*, whatever the call did. `modemPower_sound_iff` says for which sequences of
calls the two agree.
-/

namespace HuaweiY5.Ril

open List JavaString Transducer

/-- What the method reads and writes: the setting `AIRPLANE_MODE_ON`, whether
    `persist.radio.airplane.mode.on` is `"true"`, and `gsm.ril.eboot`. -/
structure PowerState where
  airplaneModeOn : Int
  persisted : Bool
  eboot : JString
deriving DecidableEq

/-- What a call sends. -/
inductive PowerRequest
  | modemPowerOn
  | modemPowerOff
  | superSetRadioPower (on : Bool)
deriving DecidableEq

def PowerState.isInApm (s : PowerState) : Bool := s.airplaneModeOn == 1

def setRadioPower (s : PowerState) (on : Bool) : PowerState × PowerRequest :=
  let isInApm := s.isInApm
  let wasInApm := s.persisted
  let s := { s with persisted := isInApm }
  if on && wasInApm && !isInApm then ({ s with eboot := "0".toList }, .modemPowerOn)
  else if !on && isInApm then ({ s with eboot := "1".toList }, .modemPowerOff)
  else (s, .superSetRadioPower on)

inductive PowerEvent
  | setRadioPower (on : Bool)
  | setAirplaneMode (value : Int)
deriving DecidableEq

namespace PowerState

def step (s : PowerState) : PowerEvent → PowerState × List PowerRequest
  | .setRadioPower on => ((Ril.setRadioPower s on).1, [(Ril.setRadioPower s on).2])
  | .setAirplaneMode value => ({ s with airplaneModeOn := value }, [])

/-- Calls and changes of the setting in any order, from any setting, with the persisted flag false. -/
def machine (airplaneModeOn : Int) (eboot : JString) : Transducer PowerState PowerEvent PowerRequest where
  init := ⟨airplaneModeOn, false, eboot⟩
  enabled _ _ := True
  step := step

end PowerState

/-! ## The calls of a history -/

/-- A call of `setRadioPower` and the airplane mode it found. -/
structure PowerCall where
  on : Bool
  inApm : Bool
deriving DecidableEq

/-- The call switches the radio on outside airplane mode. -/
def PowerCall.resumes (c : PowerCall) : Bool := c.on && !c.inApm

def PowerCall.suspends (c : PowerCall) : Bool := !c.on && c.inApm

open PowerCall (resumes suspends)

abbrev PowerEntry := Entry PowerState PowerEvent PowerRequest

def callOf (y : PowerEntry) : Option PowerCall :=
  match y.event with
  | .setRadioPower on => some ⟨on, y.pre.isInApm⟩
  | .setAirplaneMode _ => none

variable (tr : List PowerEntry)

def calls : List PowerCall := tr.filterMap callOf

/-- The calls since the radio was last switched on outside airplane mode. -/
def stretch (cs : List PowerCall) : List PowerCall := cs.rtakeWhile fun c => !c.resumes

/-- The last call was in airplane mode if and only if a call since the radio was last switched on outside
    airplane mode switched it off in airplane mode. -/
def Consistent (cs : List PowerCall) : Prop :=
  (∃ c ∈ cs.getLast?, c.inApm = true) ↔ ∃ c ∈ stretch cs, c.suspends = true

def PowerRequest.isModem : PowerRequest → Bool
  | .modemPowerOn | .modemPowerOff => true
  | .superSetRadioPower _ => false

def lastModem : Option PowerRequest := ((outs tr).filter (·.isModem)).getLast?

/-- What the protocol asks of a step after a history: the radio switched on outside airplane mode powers a
    modem on that was powered off last, and nothing else does. -/
def PowerSound (y : PowerEntry) : Prop :=
  (y.event = .setRadioPower true → y.pre.isInApm = false → lastModem tr = some .modemPowerOff →
      .modemPowerOn ∈ y.out) ∧
    (.modemPowerOn ∈ y.out → lastModem tr = some .modemPowerOff)

/-! ## One step -/

section Steps

variable {a : Int} {eboot : JString} {tr : List PowerEntry} {s : PowerState} {on : Bool}

open PowerState

theorem setRadioPower_snd (s : PowerState) (on : Bool) :
    (setRadioPower s on).2 =
      if resumes ⟨on, s.isInApm⟩ && s.persisted then .modemPowerOn
      else if suspends ⟨on, s.isInApm⟩ then .modemPowerOff
      else .superSetRadioPower on := by
  cases on <;> cases hapm : s.isInApm <;> cases hper : s.persisted <;>
    simp [setRadioPower, hapm, hper, resumes, suspends]

theorem setRadioPower_persisted (s : PowerState) (on : Bool) : (setRadioPower s on).1.persisted = s.isInApm := by
  simp only [setRadioPower]
  split <;> [rfl; split <;> rfl]

theorem calls_snoc (y : PowerEntry) : calls (tr ++ [y]) = calls tr ++ (callOf y).toList := by
  cases h : callOf y <;> simp [calls, h]

theorem lastModem_snoc_of_isModem {y : PowerEntry} {r : PowerRequest} (hout : y.out = [r])
    (h : r.isModem = true) : lastModem (tr ++ [y]) = some r := by
  simp [lastModem, hout, h]

theorem lastModem_snoc_of_quiet {y : PowerEntry} (h : ∀ r ∈ y.out, r.isModem = false) :
    lastModem (tr ++ [y]) = lastModem tr := by
  have hnil : y.out.filter (·.isModem) = [] := by simpa using h
  simp [lastModem, hnil]

theorem stretch_snoc (cs : List PowerCall) (c : PowerCall) :
    stretch (cs ++ [c]) = if c.resumes then [] else stretch cs ++ [c] := by
  rw [stretch, rtakeWhile_concat]
  cases c.resumes <;> rfl

theorem persisted_iff (h : (machine a eboot).Run tr s) :
    s.persisted = true ↔ ∃ c ∈ (calls tr).getLast?, c.inApm = true := by
  induction h with
  | nil => simp [machine, calls]
  | @snoc tr s e hrun _ ih =>
    cases e with
    | setAirplaneMode value =>
      show s.persisted = true ↔ _
      simpa [calls_snoc, callOf] using ih
    | setRadioPower on =>
      have hnext : ((machine a eboot).next s (.setRadioPower on)).persisted = s.isInApm :=
        setRadioPower_persisted s on
      rw [hnext, calls_snoc]
      simp [callOf]

/-- As long as the protocol was kept, the modem was powered off last exactly if the current stretch has a call
    that switched the radio off in airplane mode. -/
theorem lastModem_iff (h : (machine a eboot).Run tr s)
    (hsound : ∀ l y r, tr = l ++ y :: r → PowerSound l y) :
    lastModem tr = some .modemPowerOff ↔ ∃ c ∈ stretch (calls tr), c.suspends = true := by
  induction h with
  | nil => simp [lastModem, calls, stretch]
  | @snoc tr s e hrun _ ih =>
    obtain ⟨hold, hnew⟩ := forall_split_snoc.mp hsound
    specialize ih hold
    rw [calls_snoc]
    cases e with
    | setAirplaneMode value =>
      rw [lastModem_snoc_of_quiet (by intro r hr; cases hr), ih]
      simp [callOf]
    | setRadioPower on =>
      have hcall : callOf ((machine a eboot).entry s (.setRadioPower on)) = some ⟨on, s.isInApm⟩ := rfl
      have hout : ((machine a eboot).entry s (.setRadioPower on)).out = [(setRadioPower s on).2] := rfl
      rw [hcall, Option.toList_some, stretch_snoc]
      cases hres : resumes ⟨on, s.isInApm⟩ with
      | true =>
        -- a new stretch begins, and a modem that was off has been powered on
        have hparts : on = true ∧ s.isInApm = false := by simpa [resumes] using hres
        have hnot : suspends ⟨on, s.isInApm⟩ = false := by
          simp [suspends, hparts.1]
        have hsnd := setRadioPower_snd s on
        simp only [hres, hnot] at hsnd
        refine iff_of_false (fun hoff => ?_) (by simp)
        cases hper : s.persisted with
        | true =>
          rw [hper] at hsnd
          rw [lastModem_snoc_of_isModem hout (by rw [hsnd]; rfl), hsnd] at hoff
          cases hoff
        | false =>
          rw [hper] at hsnd
          rw [lastModem_snoc_of_quiet (by rw [hout, hsnd]; simp [PowerRequest.isModem])] at hoff
          have hon := hnew.1 (by rw [entry_event, hparts.1]) hparts.2 hoff
          rw [hout, hsnd] at hon
          simp at hon
      | false =>
        have hsnd := setRadioPower_snd s on
        simp only [hres] at hsnd
        cases hsus : suspends ⟨on, s.isInApm⟩ with
        | true =>
          rw [hsus] at hsnd
          rw [lastModem_snoc_of_isModem hout (by rw [hsnd]; rfl), hsnd]
          exact iff_of_true rfl ⟨_, mem_append_right _ (mem_singleton.mpr rfl), hsus⟩
        | false =>
          rw [hsus] at hsnd
          rw [lastModem_snoc_of_quiet (by rw [hout, hsnd]; simp [PowerRequest.isModem]), ih]
          simp [hsus]

/-- A step keeps to the protocol exactly if, when it switches the radio on outside airplane mode, the flag is
    set if and only if the modem was powered off last. -/
theorem powerSound_entry_iff (e : PowerEvent) :
    PowerSound tr ((machine a eboot).entry s e) ↔
      (e = .setRadioPower true → s.isInApm = false → (s.persisted = true ↔ lastModem tr = some .modemPowerOff)) := by
  cases e with
  | setAirplaneMode value =>
    exact iff_of_true ⟨by rintro ⟨⟩, by rintro ⟨⟩⟩ (by rintro ⟨⟩)
  | setRadioPower on =>
    have hout : ((machine a eboot).entry s (.setRadioPower on)).out = [(setRadioPower s on).2] := rfl
    rw [PowerSound, hout, setRadioPower_snd, entry_pre]
    cases on <;> cases hapm : s.isInApm <;> cases hper : s.persisted <;>
      simp [resumes, suspends]

end Steps

/-! ## Whole sequences -/

/-- **The modem power protocol.** Along every sequence of calls and changes of the setting, a modem that was
    powered off last is powered on whenever the radio is switched on outside airplane mode, and no other modem
    is — exactly if the calls before every such switch-on are consistent. -/
theorem modemPower_sound_iff (airplaneModeOn : Int) (eboot : JString) (es : List PowerEvent) :
    (∀ (l : List PowerEntry) (y : PowerEntry) (r : List PowerEntry),
        ((PowerState.machine airplaneModeOn eboot).exec es).1 = l ++ y :: r → PowerSound l y) ↔
      ∀ (l : List PowerEntry) (y : PowerEntry) (r : List PowerEntry),
        ((PowerState.machine airplaneModeOn eboot).exec es).1 = l ++ y :: r →
        y.event = .setRadioPower true → y.pre.isInApm = false → Consistent (calls l) := by
  have hrun := run_exec (PowerState.machine airplaneModeOn eboot)
    (Admissible.of_forall (fun _ _ => trivial) _ es)
  generalize ((PowerState.machine airplaneModeOn eboot).exec es).1 = tr at hrun ⊢
  generalize ((PowerState.machine airplaneModeOn eboot).exec es).2 = s at hrun
  induction hrun with
  | nil => simp
  | @snoc tr s e hrun _ ih =>
    refine forall_split_snoc.trans (Iff.trans ?_ (forall_split_snoc (Q := fun l y =>
      y.event = .setRadioPower true → y.pre.isInApm = false → Consistent (calls l))).symm)
    refine (and_congr_right fun hold => ?_).trans (and_congr_left' ih)
    rw [powerSound_entry_iff, persisted_iff hrun, lastModem_iff hrun hold]
    rfl

/-- Two ways to break it. The radio is switched off once more after airplane mode was left: the modem stays
    off. Or it was left on in airplane mode: a modem that was never powered off is powered on. -/
theorem modemPower_confused :
    outs ((PowerState.machine 1 []).exec
        [.setRadioPower false, .setAirplaneMode 0, .setRadioPower false, .setRadioPower true]).1 =
      [.modemPowerOff, .superSetRadioPower false, .superSetRadioPower true] ∧
    outs ((PowerState.machine 1 []).exec [.setRadioPower true, .setAirplaneMode 0, .setRadioPower true]).1 =
      [.superSetRadioPower true, .modemPowerOn] := by
  decide

end HuaweiY5.Ril
