import HuaweiY5.Fm.Tuner

/-!
# `Fm.OpenTuner` — opening the tuner, with every step that may fail

`fmr_dev_open_tuner` allocates the tuner, opens the device file, checks the chip against the configuration, powers the
chip up and starts the two threads. It stops where the arguments are wrong or the allocation fails. The answers to the
steps after that it only logs: the status of `FMR_open_dev` is overwritten by that of `FMR_pwr_up`, and after a failed
power up the threads are started all the same and the tuner stays in `rdev->tuner`, where the next open finds it.
-/

namespace HuaweiY5.Fm.OpenTuner

/-! ## The device -/

/-- `fmr_data.cfg_data`, as far as opening reads and writes it, and `fmr_data.cur_freq`. -/
structure CfgData where
  chip : Int
  lowBand : Int
  highBand : Int
  seekSpace : UInt32
  curFreq : UInt16
  deriving DecidableEq

/-- The device: whether `rdev->tuner` is set, `g_idx`, the open descriptors of the device file, whether the chip is
    powered, and the threads of the tuner with the list of its commands. -/
structure Device where
  tuner : Bool
  gIdx : Int
  files : List Int
  powered : Bool
  cfgData : CfgData
  callbackThread : Bool
  rdsThread : Bool
  commandList : List Command
  deriving DecidableEq

/-- What the system answers: to the allocation of the tuner, to `open`, to `FM_IOCTL_GETCHIPID` and `FM_IOCTL_POWERUP` on
    an open file, to `close`, and to the allocation of a command. -/
structure Answers where
  memory : Bool
  fd : Option Nat
  chipId : Option UInt16
  powerUp : Int
  close : Int
  commandMemory : Bool
  deriving DecidableEq

/-- The arguments, and whether the pointers for the callback and for the tuner are given. -/
structure Args where
  config : Option BandConfig
  callback : Bool
  tuner : Bool
  deriving DecidableEq

/-! ## The calls -/

/-- `-ENOSYS`. -/
def enosys : Int := -38

/-- `-EINVAL`. -/
def einval : Int := -22

/-- `-ENOMEM`. -/
def enomem : Int := -12

/-- `-ERR_INVALID_FD`. -/
def errInvalidFd : Int := -1007

variable (a : Answers)

def comOpenDev (d : Device) : Device × Int :=
  match a.fd with
  | some fd => ({ d with gIdx := fd, files := (fd : Int) :: d.files }, 0)
  | none => ({ d with gIdx := -1 }, errInvalidFd)

/-- `COM_close_dev`; the descriptor is gone whatever `close` answers. -/
def comCloseDev (fd : Int) (d : Device) : Device × Int := ({ d with files := d.files.filter (· ≠ fd) }, a.close)

/-- `FMR_get_chip_id`: the chip and the status. -/
def fmrGetChipId (fd : Int) (d : Device) : Int × Int :=
  match a.chipId with
  | some chip => if fd ∈ d.files then (chip.toNat, 0) else (-1, -1)
  | none => (-1, -1)

def fmrOpenDev (d : Device) : Device × Int :=
  let r := comOpenDev a d
  if r.2 ≠ 0 ∨ r.1.gIdx < 0 then r
  else
    let chip := fmrGetChipId a r.1.gIdx r.1
    if r.1.cfgData.chip ≠ chip.1 then comCloseDev a r.1.gIdx r.1 else (r.1, chip.2)

def comPwrUp (fd : Int) (d : Device) : Device × Int :=
  let ret := if fd ∈ d.files then a.powerUp else -1
  ({ d with powered := if ret = 0 then true else d.powered }, ret)

def fmrPwrUp (config : BandConfig) (d : Device) : Device × Int :=
  let cfg : CfgData := { d.cfgData with
    lowBand := config.lowerLimit.toInt32.toInt.tdiv 100
    highBand := config.upperLimit.toInt32.toInt.tdiv 100
    seekSpace := config.spacings.headD 0 }
  let r := comPwrUp a d.gIdx { d with cfgData := cfg }
  ({ r.1 with cfgData := { r.1.cfgData with curFreq := 980 } }, r.2)

/-- The end of `fmr_dev_open_tuner`: the threads are started and the configuration is queued. -/
def startThreads (config : BandConfig) (d : Device) : Device :=
  { d with
    callbackThread := true
    rdsThread := true
    commandList := if a.commandMemory then [.config config] else [] }

def fmrDevOpenTuner (args : Args) (a : Answers) (d : Device) : Device × Int :=
  if d.tuner then (d, enosys)
  else
    match args.config, args.callback, args.tuner with
    | some config, true, true =>
      if !a.memory then (d, enomem)
      else
        let d := { d with tuner := true }
        let r₁ := fmrOpenDev a d
        -- the status of `FMR_open_dev` is logged and overwritten
        let r₂ := fmrPwrUp a config r₁.1
        (startThreads a config r₂.1, r₂.2)
    | _, _, _ => (d, einval)

/-! ## What an open should leave -/

structure Clean (d : Device) : Prop where
  tuner : d.tuner = false
  files : d.files = []
  callbackThread : d.callbackThread = false
  rdsThread : d.rdsThread = false

structure Opened (d : Device) : Prop where
  tuner : d.tuner = true
  file : d.gIdx ∈ d.files
  powered : d.powered = true

def ChipMatches (d : Device) : Prop := ∃ chip, a.chipId = some chip ∧ (chip.toNat : Int) = d.cfgData.chip

/-- A failed open leaves a clean device, on which every later open does as it would have done without the failed one; an
    open that succeeds leaves a powered device with the chip configured. -/
structure LeavesNothing (args : Args) (a : Answers) (d : Device) : Prop where
  failed : (fmrDevOpenTuner args a d).2 ≠ 0 → Clean (fmrDevOpenTuner args a d).1 ∧
    ∀ args' a', fmrDevOpenTuner args' a' (fmrDevOpenTuner args a d).1 = fmrDevOpenTuner args' a' d
  opened : (fmrDevOpenTuner args a d).2 = 0 → Opened (fmrDevOpenTuner args a d).1 ∧ ChipMatches a d

def Args.Valid (args : Args) : Prop := args.config.isSome = true ∧ args.callback = true ∧ args.tuner = true

/-- Every step after the allocation succeeds. -/
structure Works (a : Answers) (d : Device) : Prop where
  file : a.fd.isSome = true
  chip : ChipMatches a d
  powerUp : a.powerUp = 0

section

variable {args : Args} {a : Answers} {d : Device}

theorem open_early (hd : Clean d) (h : ¬args.Valid ∨ a.memory = false) :
    ∃ ret, fmrDevOpenTuner args a d = (d, ret) ∧ ret ≠ 0 := by
  unfold fmrDevOpenTuner
  rw [hd.tuner, if_neg Bool.false_ne_true]
  split
  · next config hconfig hcallback htuner =>
      have hvalid : args.Valid := ⟨by rw [hconfig]; rfl, hcallback, htuner⟩
      rcases h with hargs | hmem
      · exact absurd hvalid hargs
      · rw [hmem]
        exact ⟨enomem, rfl, by decide⟩
  · exact ⟨einval, rfl, by decide⟩

theorem open_late (hd : Clean d) (hargs : args.Valid) (hmem : a.memory = true) :
    ∃ config, fmrDevOpenTuner args a d =
      let r := fmrPwrUp a config (fmrOpenDev a { d with tuner := true }).1
      (startThreads a config r.1, r.2) := by
  obtain ⟨hconfig, hcallback, htuner⟩ := hargs
  obtain ⟨config, hconfig⟩ := Option.isSome_iff_exists.mp hconfig
  exact ⟨config, by simp [fmrDevOpenTuner, hd.tuner, hconfig, hcallback, htuner, hmem]⟩

theorem fmrPwrUp_eq_zero_iff (config : BandConfig) :
    (fmrPwrUp a config d).2 = 0 ↔ d.gIdx ∈ d.files ∧ a.powerUp = 0 := by
  simp only [fmrPwrUp, comPwrUp]
  by_cases hfile : d.gIdx ∈ d.files <;> simp [hfile]

theorem fmrPwrUp_powered (config : BandConfig) (h : (fmrPwrUp a config d).2 = 0) :
    (fmrPwrUp a config d).1.powered = true := if_pos h

theorem fmrOpenDev_none (hfd : a.fd = none) : (fmrOpenDev a d).1 = { d with gIdx := -1 } := by
  simp [fmrOpenDev, comOpenDev, hfd]

theorem fmrOpenDev_match {fd : Nat} (hfd : a.fd = some fd) (hchip : ChipMatches a d) :
    (fmrOpenDev a d).1 = { d with gIdx := fd, files := (fd : Int) :: d.files } := by
  obtain ⟨chip, hid, hchip⟩ := hchip
  simp [fmrOpenDev, comOpenDev, hfd, fmrGetChipId, hid, hchip]

theorem fmrOpenDev_tuner : (fmrOpenDev a d).1.tuner = d.tuner := by
  cases hfd : a.fd with
  | none => rw [fmrOpenDev_none hfd]
  | some fd =>
    simp only [fmrOpenDev, comOpenDev, hfd]
    split
    · rfl
    · split <;> rfl

theorem open_late_tuner (hd : Clean d) (hargs : args.Valid) (hmem : a.memory = true) :
    (fmrDevOpenTuner args a d).1.tuner = true := by
  obtain ⟨config, heq⟩ := open_late hd hargs hmem
  rw [heq]
  show (fmrOpenDev a { d with tuner := true }).1.tuner = true
  rw [fmrOpenDev_tuner]

/-- **A failed open leaves something behind.** On a clean device an open leaves nothing behind after a failure, and an
    open, powered device with the chip configured after a success, exactly if it stops at its arguments or at the
    allocation, or if the file opens, the chip matches and the power up succeeds. -/
theorem open_leaves_nothing_iff (hd : Clean d) :
    LeavesNothing args a d ↔ ¬args.Valid ∨ a.memory = false ∨ Works a d := by
  constructor
  · intro h
    by_cases hargs : args.Valid
    · by_cases hmem : a.memory = true
      · right; right
        have htuner := open_late_tuner hd hargs hmem
        have hret : (fmrDevOpenTuner args a d).2 = 0 := by
          by_contra hne
          exact Bool.false_ne_true ((h.failed hne).1.tuner.symm.trans htuner)
        obtain ⟨config, heq⟩ := open_late hd hargs hmem
        obtain ⟨hfile, hpower⟩ := (fmrPwrUp_eq_zero_iff config).mp (congrArg Prod.snd heq ▸ hret)
        refine ⟨?_, (h.opened hret).2, hpower⟩
        -- without a file there is no descriptor to power up on
        cases hfd : a.fd with
        | none =>
          rw [fmrOpenDev_none hfd] at hfile
          exact absurd hfile (by simp [hd.files])
        | some fd => rfl
      · exact Or.inr (Or.inl (Bool.eq_false_iff.mpr hmem))
    · exact Or.inl hargs
  · intro h
    by_cases hearly : ¬args.Valid ∨ a.memory = false
    · obtain ⟨ret, heq, hret⟩ := open_early hd hearly
      refine ⟨fun _ => ?_, fun h0 => absurd ((congrArg Prod.snd heq).symm.trans h0) hret⟩
      rw [heq]
      exact ⟨hd, fun _ _ => rfl⟩
    · push Not at hearly
      obtain ⟨hargs, hmem⟩ := hearly
      have hmem : a.memory = true := by simpa using hmem
      have hworks : Works a d := (h.resolve_left (not_not.mpr hargs)).resolve_left (by simp [hmem])
      obtain ⟨fd, hfd⟩ := Option.isSome_iff_exists.mp hworks.file
      obtain ⟨config, heq⟩ := open_late hd hargs hmem
      have hopen : (fmrOpenDev a { d with tuner := true }).1 =
          { d with tuner := true, gIdx := fd, files := (fd : Int) :: d.files } := fmrOpenDev_match hfd hworks.chip
      rw [hopen] at heq
      have hret : (fmrDevOpenTuner args a d).2 = 0 := by
        rw [heq]
        exact (fmrPwrUp_eq_zero_iff config).mpr ⟨List.mem_cons_self, hworks.powerUp⟩
      refine ⟨fun hne => absurd hret hne, fun h0 => ⟨⟨open_late_tuner hd hargs hmem, ?_, ?_⟩, hworks.chip⟩⟩
      · rw [heq]
        exact List.mem_cons_self
      · rw [heq] at h0 ⊢
        exact fmrPwrUp_powered config h0

end

def fresh (chip : Int) : Device := ⟨false, 0, [], false, ⟨chip, 0, 0, 0, 0⟩, false, false, []⟩

theorem clean_fresh (chip : Int) : Clean (fresh chip) := ⟨rfl, rfl, rfl, rfl⟩

theorem open_leaves_nothing_iff_works :
    LeavesNothing ⟨some worldBand, true, true⟩ ⟨true, some 7, some 0x6627, 0, 0, true⟩ (fresh 0x6627) :=
  (open_leaves_nothing_iff (clean_fresh 0x6627)).mpr (Or.inr (Or.inr ⟨rfl, ⟨0x6627, rfl, rfl⟩, rfl⟩))

/-- The power up fails: the open fails, the tuner, its threads and the file stay, and the next open, for which
    everything works, finds the tuner and fails too. -/
theorem failed_open_blocks_next :
    let args : Args := ⟨some worldBand, true, true⟩
    let works : Answers := ⟨true, some 7, some 0x6627, 0, 0, true⟩
    let r := fmrDevOpenTuner args { works with powerUp := -1 } (fresh 0x6627)
    r.2 = -1 ∧ r.1.tuner = true ∧ r.1.files = [7] ∧ r.1.callbackThread = true ∧
      (fmrDevOpenTuner args works r.1).2 = enosys ∧ (fmrDevOpenTuner args works (fresh 0x6627)).2 = 0 := by
  decide

end HuaweiY5.Fm.OpenTuner
