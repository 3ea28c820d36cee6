import HuaweiY5.Fm.Core

/-!
# `Fm.Seek` — a seek from its call to its return

A seek with nobody to stop it, against a driver whose answers depend on the channel only. `Returns` runs the rounds of
`Core.check` to the end; `scan` and `lookAhead` say what comes out of them as functions of the list of channels.
-/

namespace HuaweiY5.Fm

open List

/-- What the driver answers for each channel, during the whole call. -/
abbrev Driver := UInt32 → CheckAnswers

/-- What a seek returns, and the channels it has probed. -/
structure Outcome where
  ret : Int
  channel : UInt32
  probed : List UInt32
  deriving DecidableEq

def Seek.probing : Seek → Option UInt32
  | idle => none
  | scan _ freq _ | more _ _ freq _ => some freq

/-- With these answers the seek comes to its end. -/
inductive Returns (driver : Driver) : FmrData × List CoreEffect → Outcome → Prop
  | done {s : FmrData} {ret : Int} {channel : UInt32} (h : s.seek = .idle) :
      Returns driver (s, [.sought ret channel]) ⟨ret, channel, []⟩
  | probe {s : FmrData} {freq channel : UInt32} {ret : Int} {probed : List UInt32} (h : s.seek.probing = some freq)
      (hnext : Returns driver (Core.check (driver freq) s) ⟨ret, channel, probed⟩) :
      Returns driver (s, []) ⟨ret, channel, freq :: probed⟩

theorem Returns.unique {driver : Driver} {r : FmrData × List CoreEffect} {o o' : Outcome} (h : Returns driver r o)
    (h' : Returns driver r o') : o = o' := by
  induction h generalizing o' with
  | done => cases h' with | done => rfl
  | probe hfreq _ ih =>
    cases h' with
    | probe hfreq' hnext =>
      obtain rfl := Option.some.inj (hfreq.symm.trans hfreq')
      obtain ⟨rfl, rfl, rfl⟩ := Outcome.mk.inj (ih hnext)
      rfl

namespace Core

section

variable (driver : Driver) (fakeChan : List FakeChannel) (p : SeekParm)

/-- `FMR_Seek_TuneCheck` finds the channel valid: the driver tunes to it and says so, and neither of the desense
    filters objects. -/
def passes (freq : UInt32) : Bool :=
  (driver freq).softMuteOk && (driver freq).valid &&
    !((driver freq).desense % 256 == 1 || severeDensense freq (driver freq).rssi fakeChan)

/-- The channels that up to `n` rounds of `FMR_Seek_More` look at. -/
def ahead : Nat → UInt32 → List UInt32
  | 0, _ => []
  | n + 1, freq =>
    match moreFreq p freq with
    | none => []
    | some next => next :: ahead n next

/-- The better one of two channels: the later one has to be valid and stronger. -/
def better (best : Found) (freq : UInt32) : Found :=
  if passes driver fakeChan freq && best.rssi < (driver freq).rssi then ⟨freq, (driver freq).rssi⟩ else best

/-- What `FMR_Seek_More` leaves. -/
def lookAhead (n : Nat) (freq : UInt32) (best : Found) : Found := (ahead p n freq).foldl (better driver fakeChan) best

/-- The loops of `FMR_seek` over the channels. -/
def scan : List UInt32 → Outcome
  | [] => ⟨-1, p.channel, []⟩
  | freq :: rest =>
    if passes driver fakeChan freq then
      ⟨0, (lookAhead driver fakeChan p 2 freq ⟨freq, (driver freq).rssi⟩).freq, freq :: ahead p 2 freq⟩
    else { scan rest with probed := freq :: (scan rest).probed }

end

variable {driver : Driver} {s : FmrData} {p : SeekParm}

/-! ## The rounds come to that -/

theorem seekTuneCheck_eq (h : s.scanStop = false) (freq : UInt32) :
    seekTuneCheck (driver freq) freq s = (s, some (passes driver s.fakeChan freq), []) := by
  rw [seekTuneCheck, if_neg (by rw [h]; decide), passes]
  cases (driver freq).softMuteOk with
  | false => rfl
  | true =>
    cases (driver freq).valid with
    | false => rfl
    | true =>
      cases ((driver freq).desense % 256 == 1 || severeDensense freq (driver freq).rssi s.fakeChan) with
      | false | true => rfl

theorem check_scan (driver : Driver) {freq : UInt32} {rest : List UInt32} (hstop : s.scanStop = false)
    (hseek : s.seek = .scan p freq rest) :
    check (driver freq) s =
      if passes driver s.fakeChan freq then seekMore p 0 freq ⟨freq, (driver freq).rssi⟩ s else seekNext p rest s := by
  rw [check, hseek]
  simp only [seekTuneCheck_eq hstop]
  cases passes driver s.fakeChan freq with
  | false | true => rfl

theorem check_more (driver : Driver) {i : Nat} {freq : UInt32} {best : Found} (hstop : s.scanStop = false)
    (hseek : s.seek = .more p i freq best) :
    check (driver freq) s = seekMore p (i + 1) freq (better driver s.fakeChan best freq) s := by
  rw [check, hseek]
  simp only [seekTuneCheck_eq hstop]
  rfl

theorem returns_seekMore (n i : Nat) (hrounds : i + n = 2) (freq : UInt32) (best : Found)
    (hstop : s.scanStop = false) :
    Returns driver (seekMore p i freq best s)
      ⟨0, (lookAhead driver s.fakeChan p n freq best).freq, ahead p n freq⟩ := by
  induction n generalizing i freq best s with
  | zero =>
    rw [seekMore, if_neg (by omega)]
    exact .done rfl
  | succ n ih =>
    rw [seekMore, if_pos (by omega)]
    unfold lookAhead ahead
    cases moreFreq p freq with
    | none => exact .done rfl
    | some next =>
      have hround := check_more driver (s := { s with seek := .more p i next best }) hstop rfl
      refine .probe (s := { s with seek := .more p i next best }) rfl ?_
      rw [hround]
      exact ih (i + 1) (by omega) next (better driver s.fakeChan best next) hstop

theorem returns_scan (rest : List UInt32) (hstop : s.scanStop = false) :
    Returns driver (seekNext p rest s) (scan driver s.fakeChan p rest) := by
  induction rest generalizing s with
  | nil => exact .done rfl
  | cons freq rest ih =>
    have hround := check_scan driver (s := { s with seek := .scan p freq rest }) hstop rfl
    rw [scan]
    by_cases hpass : passes driver s.fakeChan freq
    · rw [if_pos hpass] at hround ⊢
      refine .probe (s := { s with seek := .scan p freq rest }) rfl ?_
      rw [hround]
      exact returns_seekMore 2 0 rfl freq _ hstop
    · rw [if_neg hpass] at hround ⊢
      refine .probe (s := { s with seek := .scan p freq rest }) rfl ?_
      rw [hround]
      exact ih hstop

/-! ## The outcome from the first channel that passes -/

variable {fakeChan : List FakeChannel} {channels : List UInt32}

theorem scan_of_none (h : ∀ freq ∈ channels, ¬passes driver fakeChan freq) :
    scan driver fakeChan p channels = ⟨-1, p.channel, channels⟩ := by
  induction channels with
  | nil => rfl
  | cons freq rest ih =>
    obtain ⟨hfreq, hrest⟩ := forall_mem_cons.mp h
    rw [scan, if_neg hfreq, ih hrest]

theorem scan_append {before after : List UInt32} {freq : UInt32} (h : ∀ c ∈ before, ¬passes driver fakeChan c)
    (hpass : passes driver fakeChan freq) :
    scan driver fakeChan p (before ++ freq :: after) =
      ⟨0, (lookAhead driver fakeChan p 2 freq ⟨freq, (driver freq).rssi⟩).freq, before ++ freq :: ahead p 2 freq⟩ := by
  induction before with
  | nil => rw [nil_append, nil_append, scan, if_pos hpass]
  | cons c before ih =>
    obtain ⟨hc, hbefore⟩ := forall_mem_cons.mp h
    rw [cons_append, scan, if_neg hc, ih hbefore, cons_append]

theorem foldl_better (driver : Driver) (fakeChan : List FakeChannel) (freqs : List UInt32) (best : Found) :
    freqs.foldl (better driver fakeChan) best = best ∨
      ∃ freq ∈ freqs, freqs.foldl (better driver fakeChan) best = ⟨freq, (driver freq).rssi⟩ ∧
        passes driver fakeChan freq ∧ best.rssi < (driver freq).rssi := by
  induction freqs generalizing best with
  | nil => exact .inl rfl
  | cons freq rest ih =>
    rw [foldl_cons]
    have hbetter : better driver fakeChan best freq = best ∨
        better driver fakeChan best freq = ⟨freq, (driver freq).rssi⟩ ∧ passes driver fakeChan freq ∧
          best.rssi < (driver freq).rssi := by
      unfold better
      split
      · rename_i h
        simp only [Bool.and_eq_true, decide_eq_true_eq] at h
        exact .inr ⟨rfl, h⟩
      · exact .inl rfl
    rcases hbetter with hsame | ⟨hnew, hpass, hlt⟩
    · rw [hsame]
      refine (ih best).imp_right ?_
      rintro ⟨c, hc, hrest⟩
      exact ⟨c, mem_cons_of_mem _ hc, hrest⟩
    · rw [hnew]
      -- the channels further on had to be stronger still
      rcases ih ⟨freq, (driver freq).rssi⟩ with hkept | ⟨c, hc, hfound, hcpass, hclt⟩
      · exact .inr ⟨freq, mem_cons_self, hkept, hpass, hlt⟩
      · exact .inr ⟨c, mem_cons_of_mem _ hc, hfound, hcpass, Int.lt_trans hlt hclt⟩

end Core

end HuaweiY5.Fm
