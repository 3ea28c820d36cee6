import HuaweiY5.Fm.Core

/-!
# `Fm.Frequency` — what `cur_freq` says about the channel tuned

Power up and the AF and TA switches store the channel in units of 100 kHz, as the driver takes it. `FMR_tune` stores
kHz, cut to 16 bits, which no frequency of the band fits in; and a stopped seek hands `cur_freq` back to `FMR_tune`,
which takes it for kHz.
-/

namespace HuaweiY5.Fm.Core

open List Option

variable {s : FmrData}

/-! ## Seeks -/

/-- The frequencies are left as they are, and nothing is shown but what a seek returns. -/
structure Quiet (s : FmrData) (r : FmrData × List CoreEffect) : Prop where
  curFreq : r.1.curFreq = s.curFreq
  tuned : r.1.tuned = s.tuned
  out : ∀ e ∈ r.2, ∃ ret channel, e = .sought ret channel

theorem Quiet.silent {s' : FmrData} (hcur : s'.curFreq = s.curFreq) (htuned : s'.tuned = s.tuned) : Quiet s (s', []) :=
  ⟨hcur, htuned, fun _ he => absurd he not_mem_nil⟩

theorem finish_quiet (ret : Int) (channel : UInt32) (s : FmrData) : Quiet s (finish ret channel s) :=
  ⟨rfl, rfl, fun _ he => ⟨ret, channel, mem_singleton.mp he⟩⟩

theorem seekMore_quiet (p : SeekParm) (i : Nat) (freq : UInt32) (best : Found) (s : FmrData) :
    Quiet s (seekMore p i freq best s) := by
  unfold seekMore
  split
  · split
    · exact .silent rfl rfl
    · exact finish_quiet ..
  · exact finish_quiet ..

theorem seekNext_quiet (p : SeekParm) (rest : List UInt32) (s : FmrData) : Quiet s (seekNext p rest s) := by
  cases rest with
  | nil => exact finish_quiet ..
  | cons freq rest => exact .silent rfl rfl

theorem fmrSeek_quiet (config : BandConfig) (startFreq dir : UInt32) (s : FmrData) :
    Quiet s (fmrSeek config startFreq dir s) := by
  unfold fmrSeek
  dsimp only
  split
  · exact ⟨rfl, rfl, fun _ he => ⟨_, _, mem_singleton.mp he⟩⟩
  · have hnext := seekNext_quiet
      ⟨dir, config.spacings.headD 0, config.lowerLimit, config.upperLimit,
        if config.Within startFreq then startFreq else config.lowerLimit⟩
      (channels ⟨dir, config.spacings.headD 0, config.lowerLimit, config.upperLimit,
        if config.Within startFreq then startFreq else config.lowerLimit⟩
        (if config.Within startFreq then startFreq else config.lowerLimit)
        ((config.upperLimit - config.lowerLimit) / config.spacings.headD 0 + 1)) { s with scanStop := false }
    exact ⟨hnext.curFreq, hnext.tuned, hnext.out⟩

theorem check_quiet (a : CheckAnswers) (hgo : s.scanStop = false) : Quiet s (check a s) := by
  have hcheck : ∀ freq, (seekTuneCheck a freq s).1 = s ∧ (seekTuneCheck a freq s).2.2 = [] := by
    intro freq
    unfold seekTuneCheck
    rw [if_neg (by rw [hgo]; exact Bool.false_ne_true)]
    split
    · exact ⟨rfl, rfl⟩
    · split <;> exact ⟨rfl, rfl⟩
  unfold check
  split
  · exact .silent rfl rfl
  · rename_i p freq rest _
    obtain ⟨hsame, hnone⟩ := hcheck freq
    dsimp only
    rw [hsame, hnone]
    split
    · exact finish_quiet ..
    · exact seekNext_quiet ..
    · exact seekMore_quiet p 0 freq ⟨freq, a.rssi⟩ s
  · rename_i p i freq best _
    obtain ⟨hsame, hnone⟩ := hcheck freq
    dsimp only
    rw [hsame, hnone]
    split
    · exact finish_quiet ..
    · exact seekMore_quiet ..

theorem check_stopped (a : CheckAnswers) (hseek : s.seek ≠ .idle) (hstop : s.scanStop = true) :
    ∃ r, Quiet (fmrTune s.curFreq.toUInt32 a.tuneOk s).1 r ∧
      check a s = (r.1, (fmrTune s.curFreq.toUInt32 a.tuneOk s).2 ++ r.2) := by
  have hcheck : ∀ freq, seekTuneCheck a freq s =
      ((fmrTune s.curFreq.toUInt32 a.tuneOk s).1, none, (fmrTune s.curFreq.toUInt32 a.tuneOk s).2) := by
    intro freq
    unfold seekTuneCheck
    rw [if_pos hstop]
  unfold check
  cases hs : s.seek with
  | idle => exact absurd hs hseek
  | scan p freq rest | more p i freq best =>
    dsimp only
    rw [hcheck freq]
    exact ⟨_, finish_quiet _ _ _, rfl⟩

/-! ## Switches -/

/-- A switch that tuned reports the frequency it tuned to last; one that did not reports the old one, or an error. -/
inductive Reports (curFreq : UInt16) : Switch → Prop
  | error {ret : Int} {freq : UInt16} (h : ret ≠ 0) : Reports curFreq ⟨ret, freq, []⟩
  | stay : Reports curFreq ⟨0, curFreq, []⟩
  | tuned (freq : UInt16) (requests : List UInt16) : Reports curFreq ⟨0, freq, requests ++ [freq]⟩

theorem comActiveAf_reports (rds : RdsData) (pamd : Pamd) (curFreq : UInt16) :
    Reports curFreq (comActiveAf rds pamd curFreq) := by
  unfold comActiveAf
  split
  · exact .error (by decide)
  · split
    · exact .tuned _ _
    · exact .stay

theorem comActiveTa_reports (rds : RdsData) (pamd : Pamd) (curFreq : UInt16) :
    Reports curFreq (comActiveTa rds pamd curFreq).1 := by
  unfold comActiveTa
  split
  · exact .tuned _ _
  · exact .stay

theorem comDeactiveTa_reports (rds : RdsData) (curFreq backupFreq : UInt16) :
    Reports curFreq (comDeactiveTa rds curFreq backupFreq) := by
  unfold comDeactiveTa
  split
  · exact .tuned backupFreq []
  · exact .stay

theorem switched_spec {r : Switch} (h : Reports s.curFreq r) :
    switched r s = s ∨ (switched r s).tuned = some (switched r s).curFreq := by
  cases h with
  | error h => exact .inl (if_neg fun hboth => h hboth.1)
  | stay => exact .inl (if_neg fun hboth => hboth.2 rfl)
  | tuned freq requests =>
    refine .inr ?_
    unfold switched
    dsimp only
    rw [getLast?_concat]
    split
    · rfl
    · rename_i hsame
      have heq : freq = s.curFreq := by
        by_contra hne
        exact hsame ⟨rfl, hne⟩
      exact congrArg some heq

/-! ## Tracking the channel -/

/-- **`cur_freq` tracks the channel**, in units of `unit` kHz: after a successful tune it denotes the channel, a failed
    tune leaves it, a stopped seek tunes the driver to the channel tuned last, and an AF switch is given that channel
    as its original frequency. -/
structure Tracks (unit : Nat) (x : Transducer.Entry FmrData CoreMove CoreEffect) : Prop where
  tuned : ∀ freq request, .tune freq request true ∈ x.out → (step x.pre x.event).1.curFreq.toNat * unit = freq.toNat
  failed : ∀ freq request, .tune freq request false ∈ x.out → (step x.pre x.event).1.curFreq = x.pre.curFreq
  stopped : ∀ a, x.event = .check a → ∀ freq request ok c, .tune freq request ok ∈ x.out → x.pre.tuned = some c →
    request = c
  original : ∀ freq c, .original freq ∈ x.out → x.pre.tuned = some c → freq.toNat * unit = c.toNat * 100

/-- No tune succeeds, one that fails is to the frequency `cur_freq` is cut from, and a seek is stopped only with
    `cur_freq` zero or when no channel is known and the driver refuses. -/
def Kept (s : FmrData) : CoreMove → Prop
  | .tune freq ok => ok = false ∧ freq.toNat = s.curFreq.toNat + 65536
  | .check a => s.scanStop = true → s.curFreq = 0 ∨ (s.tuned = none ∧ a.tuneOk = false)
  | _ => True

instance instDecidableKept (s : FmrData) : (move : CoreMove) → Decidable (Kept s move)
  | .tune _ _ => inferInstanceAs (Decidable (_ ∧ _))
  | .check _ => inferInstanceAs (Decidable (_ → _ ∨ _))
  | .pwrUp _ | .preSearch | .seek _ _ _ | .stopScan | .activeAf _ _ | .activeTa _ _ | .deactiveTa _ => isTrue trivial

/-- `cur_freq` is the channel tuned, if it is known. -/
def Known (s : FmrData) : Prop := ∀ c, s.tuned = some c → s.curFreq = c

theorem Tracks.of_quiet {unit : Nat} {x : Transducer.Entry FmrData CoreMove CoreEffect}
    (h : ∀ e ∈ x.out, ∃ ret channel, e = .sought ret channel) : Tracks unit x := by
  have hnoTune : ∀ freq request ok, .tune freq request ok ∉ x.out := by
    intro freq request ok hmem
    obtain ⟨ret, channel, heq⟩ := h _ hmem
    cases heq
  refine ⟨fun _ _ hmem => (hnoTune _ _ _ hmem).elim, fun _ _ hmem => (hnoTune _ _ _ hmem).elim,
    fun _ _ _ _ _ _ hmem => (hnoTune _ _ _ hmem).elim, fun freq c hmem => ?_⟩
  obtain ⟨ret, channel, heq⟩ := h _ hmem
  cases heq

theorem Known.quiet {r : FmrData × List CoreEffect} (h : Known s) (hq : Quiet s r) : Known r.1 := by
  intro c hc
  rw [hq.curFreq]
  exact h c (hq.tuned ▸ hc)

theorem Known.switched {r : Switch} (h : Known s) (hr : Reports s.curFreq r) : Known (switched r s) := by
  intro c hc
  rcases switched_spec hr with hsame | htuned
  · rw [hsame] at hc ⊢
    exact h c hc
  · rw [htuned] at hc
    exact some.inj hc

theorem fmrTune_curFreq (ok : Bool) : (fmrTune s.curFreq.toUInt32 ok s).1.curFreq = s.curFreq :=
  UInt16.toUInt16_toUInt32 s.curFreq

theorem request_toNat (c : UInt16) : (c.toUInt32 / 100).toUInt16.toNat = c.toNat / 100 := by
  have hlt : c.toNat < 65536 := c.toNat_lt
  simp
  omega

variable {fakeChan : List FakeChannel}

/-- **Tunes.** No successful tune to a frequency of the band is tracked in units of 100 kHz; a failed one is if
    `cur_freq` happens to be the frequency cut to 16 bits. -/
theorem tracks_tune {freq : UInt32} {ok : Bool} (hlow : 87500 ≤ freq) (hhigh : freq ≤ 108000) :
    Tracks 100 ((machine fakeChan).entry s (.tune freq ok)) ↔ Kept s (.tune freq ok) := by
  have hlow' : 87500 ≤ freq.toNat := hlow
  have hhigh' : freq.toNat ≤ 108000 := hhigh
  have hcut : freq.toUInt16.toNat = freq.toNat - 65536 := by
    rw [UInt32.toNat_toUInt16]
    omega
  have hmem : ∀ {freq' request' ok'}, .tune freq' request' ok' ∈ ((machine fakeChan).entry s (.tune freq ok)).out →
      freq' = freq ∧ ok' = ok := by
    intro freq' request' ok' h
    injection mem_singleton.mp h with h₁ _ h₂
    exact ⟨h₁, h₂⟩
  constructor
  · intro h
    cases ok with
    | true =>
      have htuned : freq.toUInt16.toNat * 100 = freq.toNat := h.tuned freq _ (mem_singleton_self _)
      omega
    | false =>
      have hfailed : freq.toUInt16 = s.curFreq := h.failed freq _ (mem_singleton_self _)
      refine ⟨rfl, ?_⟩
      rw [← hfailed]
      omega
  · rintro ⟨rfl, hfreq⟩
    refine ⟨fun freq' request' h => absurd (hmem h).2 Bool.noConfusion, fun freq' request' _ => ?_,
      fun a h => absurd h CoreMove.noConfusion, fun freq' c h => absurd (mem_singleton.mp h) CoreEffect.noConfusion⟩
    show freq.toUInt16 = s.curFreq
    apply UInt16.toNat_inj.mp
    omega

/-- **Stopped seeks.** -/
theorem tracks_check {a : CheckAnswers} (hknown : Known s) (hseek : s.seek ≠ .idle) :
    Tracks 100 ((machine fakeChan).entry s (.check a)) ↔ Kept s (.check a) := by
  by_cases hstop : s.scanStop = true
  · obtain ⟨r, hquiet, heq⟩ := check_stopped a hseek hstop
    have hcur : (check a s).1.curFreq = s.curFreq := by
      rw [heq]
      exact hquiet.curFreq.trans (fmrTune_curFreq a.tuneOk)
    have hout : ((machine fakeChan).entry s (.check a)).out =
        .tune s.curFreq.toUInt32 (s.curFreq.toUInt32 / 100).toUInt16 a.tuneOk :: r.2 := congrArg Prod.snd heq
    have hmem : ∀ {freq request ok}, .tune freq request ok ∈ ((machine fakeChan).entry s (.check a)).out →
        freq = s.curFreq.toUInt32 ∧ request = (s.curFreq.toUInt32 / 100).toUInt16 ∧ ok = a.tuneOk := by
      intro freq request ok h
      rw [hout] at h
      rcases mem_cons.mp h with h | h
      · injection h with h₁ h₂ h₃
        exact ⟨h₁, h₂, h₃⟩
      · obtain ⟨ret, channel, h⟩ := hquiet.out _ h
        cases h
    have hhead : .tune s.curFreq.toUInt32 (s.curFreq.toUInt32 / 100).toUInt16 a.tuneOk ∈
        ((machine fakeChan).entry s (.check a)).out := by
      rw [hout]
      exact mem_cons_self
    constructor
    · intro h _
      cases htuned : s.tuned with
      | some c =>
        -- the driver would have to be given `cur_freq` itself
        have hc : s.curFreq = c := hknown c htuned
        have hrequest : (s.curFreq.toUInt32 / 100).toUInt16 = c := h.stopped a rfl _ _ _ c hhead htuned
        have hdiv : s.curFreq.toNat / 100 = s.curFreq.toNat := by
          rw [← request_toNat, hrequest, hc]
        refine .inl (UInt16.toNat_inj.mp ?_)
        show s.curFreq.toNat = 0
        omega
      | none =>
        cases hok : a.tuneOk with
        | false => exact .inr ⟨rfl, rfl⟩
        | true =>
          rw [hok] at hhead
          have hunit : (check a s).1.curFreq.toNat * 100 = s.curFreq.toUInt32.toNat := h.tuned _ _ hhead
          rw [hcur, UInt16.toNat_toUInt32] at hunit
          refine .inl (UInt16.toNat_inj.mp ?_)
          show s.curFreq.toNat = 0
          omega
    · intro h
      refine ⟨fun freq request hin => ?_, fun _ _ _ => hcur, fun a' _ freq request ok c hin hc => ?_,
        fun freq c hin => ?_⟩
      · obtain ⟨rfl, -, hok⟩ := hmem hin
        show (check a s).1.curFreq.toNat * 100 = _
        rw [hcur]
        rcases h hstop with hzero | ⟨-, hrefused⟩
        · rw [hzero]; rfl
        · exact absurd (hok.trans hrefused) Bool.noConfusion
      · obtain ⟨-, rfl, -⟩ := hmem hin
        rcases h hstop with hzero | ⟨hnone, -⟩
        · rw [← hknown c hc, hzero]; rfl
        · cases hc.symm.trans hnone
      · rw [hout] at hin
        rcases mem_cons.mp hin with hin | hin
        · cases hin
        · obtain ⟨ret, channel, hin⟩ := hquiet.out _ hin
          cases hin
  · have hgo : s.scanStop = false := by simpa using hstop
    exact ⟨fun _ h => absurd h hstop, fun _ => Tracks.of_quiet (check_quiet a hgo).out⟩

theorem tracks_step {move : CoreMove} (hknown : Known s) (hen : (machine fakeChan).enabled s move) :
    Tracks 100 ((machine fakeChan).entry s move) ↔ Kept s move := by
  have hquiet : (∀ e ∈ ((machine fakeChan).entry s move).out, ∃ ret channel, e = .sought ret channel) →
      Tracks 100 ((machine fakeChan).entry s move) := Tracks.of_quiet
  have hsilent : ∀ {x : CoreEffect}, x ∈ [] → ∃ ret channel, x = .sought ret channel := fun h => absurd h not_mem_nil
  cases move with
  | tune freq ok => exact tracks_tune hen.2.1 hen.2.2
  | check a => exact tracks_check hknown hen
  | seek config startFreq dir => exact ⟨fun _ => trivial, fun _ => hquiet (fmrSeek_quiet config startFreq dir s).out⟩
  | activeAf rds pamd =>
    refine ⟨fun _ => trivial, fun _ => ⟨?_, ?_, ?_, ?_⟩⟩
    · exact fun freq request h => absurd (mem_singleton.mp h) CoreEffect.noConfusion
    · exact fun freq request h => absurd (mem_singleton.mp h) CoreEffect.noConfusion
    · exact fun a h => absurd h CoreMove.noConfusion
    · intro freq c h hc
      injection mem_singleton.mp h with h
      rw [h, hknown c hc]
  | pwrUp ok | preSearch | stopScan | activeTa rds pamd | deactiveTa rds =>
    exact ⟨fun _ => trivial, fun _ => hquiet fun _ => hsilent⟩

theorem Known.step {move : CoreMove} (h : Known s) (hen : (machine fakeChan).enabled s move) (hkept : Kept s move) :
    Known ((machine fakeChan).next s move) := by
  cases move with
  | pwrUp ok =>
    intro c hc
    cases ok with
    | true => exact some.inj hc
    | false => cases hc
  | tune freq ok =>
    obtain ⟨rfl, hfreq⟩ := hkept
    intro c hc
    have hsame : freq.toUInt16 = s.curFreq := by
      apply UInt16.toNat_inj.mp
      rw [UInt32.toNat_toUInt16]
      have hlt : s.curFreq.toNat < 65536 := s.curFreq.toNat_lt
      omega
    show freq.toUInt16 = c
    rw [hsame]
    exact h c hc
  | preSearch | stopScan => exact h
  | seek config startFreq dir => exact h.quiet (fmrSeek_quiet config startFreq dir s)
  | check a =>
    by_cases hstop : s.scanStop = true
    · obtain ⟨r, hquiet, heq⟩ := check_stopped a hen hstop
      intro c hc
      have hcur : (check a s).1.curFreq = s.curFreq := by
        rw [heq]
        exact hquiet.curFreq.trans (fmrTune_curFreq a.tuneOk)
      have htuned : (check a s).1.tuned =
          if a.tuneOk then some (s.curFreq.toUInt32 / 100).toUInt16 else s.tuned := by
        rw [heq]
        exact hquiet.tuned
      show (check a s).1.curFreq = c
      have hc' : (check a s).1.tuned = some c := hc
      rw [htuned] at hc'
      rw [hcur]
      split at hc'
      · rename_i hok
        rcases hkept hstop with hzero | ⟨-, hrefused⟩
        · rw [hzero] at hc' ⊢
          exact some.inj hc'
        · exact absurd (hok.symm.trans hrefused) Bool.noConfusion
      · exact h c hc'
    · have hgo : s.scanStop = false := by simpa using hstop
      exact h.quiet (check_quiet a hgo)
  | activeAf rds pamd => exact h.switched (comActiveAf_reports rds pamd s.curFreq)
  | activeTa rds pamd =>
    have hbackup : Known { s with backupFreq := (comActiveTa rds pamd s.curFreq).2.getD s.backupFreq } := h
    exact hbackup.switched (comActiveTa_reports rds pamd s.curFreq)
  | deactiveTa rds => exact h.switched (comDeactiveTa_reports rds s.curFreq s.backupFreq)

/-- **Where the current frequency is tracked.** In every run `cur_freq` tracks the channel, in the driver's unit of
    100 kHz, exactly if no tune succeeds, every tune that fails is to the frequency `cur_freq` is cut from, and no seek
    is stopped but where `cur_freq` is zero or no channel is known and the driver refuses. -/
theorem tracks_iff {fakeChan : List FakeChannel} {tr : List (Transducer.Entry FmrData CoreMove CoreEffect)}
    (hrun : (machine fakeChan).Run tr s) : (∀ x ∈ tr, Tracks 100 x) ↔ ∀ x ∈ tr, Kept x.pre x.event := by
  refine hrun.outputs_iff (I := Known) (C := fun x => Kept x.pre x.event) (O := Tracks 100) ?_ ?_ ?_
  · exact fun c hc => absurd hc.symm (some_ne_none c)
  · exact fun s move h hen => tracks_step h hen
  · exact fun s move h hen hkept => h.step hen hkept

/-- Power up, a seek to its end and an AF switch are tracked. -/
theorem tracks_iff_af :
    let moves : List CoreMove := [.pwrUp true, .seek worldBand 107900 0, .check ⟨true, true, -80, 0, true⟩,
      .activeAf ⟨⟨true, false, false⟩, ⟨1, [1005]⟩, ⟨0, []⟩⟩ ⟨5, fun _ => 20⟩,
      .activeAf ⟨⟨true, false, false⟩, ⟨1, [980]⟩, ⟨0, []⟩⟩ ⟨5, fun _ => 10⟩]
    (machine []).Admissible (machine []).init moves ∧ ∀ x ∈ ((machine []).exec moves).1, Tracks 100 x := by
  exact ⟨by decide, (tracks_iff ((machine []).run_exec (by decide))).mpr ((machine []).exec_along (by decide))⟩

/-- The chip powered up, and a tune to the lower limit of the band. -/
def firstTune : List CoreMove := [.pwrUp true, .tune 87500 true]

/-- In no unit does `cur_freq` denote the channel then. -/
theorem tune_not_tracked :
    (machine []).Admissible (machine []).init firstTune ∧
      ¬∃ unit, ∀ x ∈ ((machine []).exec firstTune).1, Tracks unit x := by
  refine ⟨by decide, ?_⟩
  rintro ⟨unit, h⟩
  have htuned : 21964 * unit = 87500 :=
    (h ((machine []).entry (fmrPwrUp true (init [])) (.tune 87500 true))
      (mem_cons_of_mem _ (mem_singleton_self _))).tuned 87500 875 (mem_singleton_self _)
  omega

/-! ## Traffic announcements -/

/-- A call of a switch while traffic announcements come and go. -/
inductive SwitchCall
  | ta (rds : RdsData) (pamd : Pamd)
  | af (rds : RdsData) (pamd : Pamd)

def SwitchCall.run (s : FmrData) : SwitchCall → FmrData
  | .ta rds pamd => activeTa rds pamd s
  | .af rds pamd => (activeAf rds pamd s).1

/-- The call is for a traffic announcement that starts. -/
def SwitchCall.isTaOn : SwitchCall → Bool
  | .ta rds _ => rds.eventStatus.taOn
  | .af _ _ => false

open SwitchCall (isTaOn run)

def handle (s : FmrData) (calls : List SwitchCall) : FmrData := calls.foldl run s

def beforeFirst : List SwitchCall → List SwitchCall
  | [] => []
  | c :: cs => if c.isTaOn then [] else c :: beforeFirst cs

def beforeLast : List SwitchCall → List SwitchCall
  | [] => []
  | c :: cs => if cs.any isTaOn then c :: beforeLast cs else []

theorem switched_backupFreq (r : Switch) (s : FmrData) : (switched r s).backupFreq = s.backupFreq := by
  unfold switched
  dsimp only
  split <;> rfl

theorem run_backupFreq (c : SwitchCall) (s : FmrData) :
    (c.run s).backupFreq = if c.isTaOn then s.curFreq else s.backupFreq := by
  cases c with
  | af rds pamd => exact switched_backupFreq ..
  | ta rds pamd =>
    show (activeTa rds pamd s).backupFreq = if rds.eventStatus.taOn then s.curFreq else s.backupFreq
    unfold activeTa
    rw [switched_backupFreq]
    unfold comActiveTa
    cases rds.eventStatus.taOn <;> rfl

theorem handle_backupFreq_of_no_taOn {calls : List SwitchCall} (h : calls.any isTaOn = false) :
    (handle s calls).backupFreq = s.backupFreq := by
  induction calls generalizing s with
  | nil => rfl
  | cons c cs ih =>
    rw [any_cons, Bool.or_eq_false_iff] at h
    have hfirst : (c.run s).backupFreq = s.backupFreq := by
      rw [run_backupFreq, h.1]
      rfl
    exact (ih h.2).trans hfirst

theorem handle_backupFreq {calls : List SwitchCall} (h : calls.any isTaOn = true) :
    (handle s calls).backupFreq = (handle s (beforeLast calls)).curFreq := by
  induction calls generalizing s with
  | nil => cases h
  | cons c cs ih =>
    unfold beforeLast
    by_cases hrest : cs.any isTaOn = true
    · rw [if_pos hrest]
      exact ih hrest
    · have hnone : cs.any isTaOn = false := by simpa using hrest
      rw [any_cons, hnone, Bool.or_false] at h
      rw [if_neg hrest]
      show (handle (c.run s) cs).backupFreq = s.curFreq
      rw [handle_backupFreq_of_no_taOn hnone, run_backupFreq, if_pos h]

theorem deactiveTa_tuned {off : RdsData} (h : off.eventStatus.taOnOff = true) (s : FmrData) :
    (deactiveTa off s).tuned = some s.backupFreq := by
  unfold deactiveTa comDeactiveTa switched
  rw [if_pos h]
  dsimp only
  split <;> rfl

/-- **Back home.** After any calls with a TA-on among them, the TA-off tunes the chip to the frequency it had before the
    first TA-on exactly if `cur_freq` was that frequency when the last TA-on came. -/
theorem returns_home_iff {calls : List SwitchCall} {off : RdsData} {home : UInt16}
    (hon : calls.any isTaOn = true) (hoff : off.eventStatus.taOnOff = true)
    (hhome : (handle s (beforeFirst calls)).tuned = some home) :
    (deactiveTa off (handle s calls)).tuned = (handle s (beforeFirst calls)).tuned ↔
      (handle s (beforeLast calls)).curFreq = home := by
  rw [deactiveTa_tuned hoff, handle_backupFreq hon, hhome]
  exact some_inj

def poweredUp : FmrData := fmrPwrUp true (init [])

def announcement : SwitchCall := .ta ⟨⟨false, true, false⟩, ⟨0, []⟩, ⟨1, [1000]⟩⟩ ⟨10, fun _ => 30⟩

def announcementOff : RdsData := ⟨⟨false, false, true⟩, ⟨0, []⟩, ⟨0, []⟩⟩

/-- One announcement, and the way back. -/
theorem returns_home_once :
    (handle poweredUp [announcement]).tuned = some 1000 ∧
      ((deactiveTa announcementOff (handle poweredUp [announcement])).tuned =
          (handle poweredUp (beforeFirst [announcement])).tuned ↔
        (handle poweredUp (beforeLast [announcement])).curFreq = 980) := by
  exact ⟨by decide, returns_home_iff (by decide) (by decide) (by decide)⟩

/-- A second TA-on before the first one is over: the chip stays at the other station. -/
theorem second_announcement_stays :
    (handle poweredUp (beforeFirst [announcement, announcement])).tuned = some 980 ∧
      (deactiveTa announcementOff (handle poweredUp [announcement, announcement])).tuned = some 1000 := by
  exact ⟨by decide, by decide⟩

end HuaweiY5.Fm.Core
