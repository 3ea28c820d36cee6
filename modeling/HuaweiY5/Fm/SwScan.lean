import Mathlib.Data.List.Pairwise
import Mathlib.Order.Basic

/-!
# `Fm.SwScan` — the scan made of seeks

`COM_sw_scan` asks the driver to seek upwards from the last station found, and ends with the first answer that does not
lead further up. What the driver answers is arbitrary; the frequencies are of 16 bits, so that there is an end.
-/

namespace HuaweiY5.Fm

open List

/-- `FM_FREQ_MIN`. -/
def freqMin : UInt16 := 875

/-- What `FM_IOCTL_SEEK` returns and leaves in `fm_seek_parm`, and whether `g_stopscan` is set when it is tested next. -/
structure SeekAnswer where
  ret : Int
  err : UInt8
  freq : UInt16
  stopscan : Bool
  deriving DecidableEq

/-- The loop of `COM_sw_scan`, as far as `fuel` seeks; `answers k` is the answer to the `k`th one. The table holds
    `chl_cnt` entries. -/
def swScanLoop (maxNum : Int) (answers : Nat → SeekAnswer) :
    (fuel k : Nat) → UInt16 → List UInt16 → Option (List UInt16 × Int)
  | 0, _, _, _ => none
  | fuel + 1, k, startFreq, scanTbl =>
    let parm := answers k
    if parm.ret ≠ 0 then some (scanTbl, parm.ret)
    else if parm.err = 0 ∧ scanTbl.length < maxNum ∧ startFreq < parm.freq then
      if parm.stopscan then some (scanTbl ++ [parm.freq], parm.ret)
      else swScanLoop maxNum answers fuel (k + 1) parm.freq (scanTbl ++ [parm.freq])
    else some (scanTbl, parm.ret)

/-- `COM_sw_scan`: the entries it writes to the table, and what it returns. -/
def comSwScan (fuel : Nat) (maxNum : Int) (answers : Nat → SeekAnswer) : Option (List UInt16 × Int) :=
  swScanLoop maxNum answers fuel 0 freqMin []

/-- The table has room, and its entries rise from the start of the scan. -/
structure Rising (maxNum : Int) (scanTbl : List UInt16) : Prop where
  room : scanTbl.length ≤ maxNum
  rising : (freqMin :: scanTbl).Pairwise (· < ·)

theorem Rising.snoc {maxNum : Int} {scanTbl : List UInt16} {startFreq freq : UInt16} (h : Rising maxNum scanTbl)
    (hstart : ∀ f ∈ freqMin :: scanTbl, f ≤ startFreq) (hroom : scanTbl.length < maxNum) (hfreq : startFreq < freq) :
    Rising maxNum (scanTbl ++ [freq]) := by
  constructor
  · rw [length_append, length_singleton]
    omega
  · rw [← cons_append, pairwise_append]
    refine ⟨h.rising, pairwise_singleton _ _, fun f hf g hg => ?_⟩
    rw [mem_singleton.mp hg]
    exact UInt16.lt_of_le_of_lt (hstart f hf) hfreq

/-- The loop ends: every pass but the last one raises the frequency. -/
theorem swScanLoop_rising {maxNum : Int} (answers : Nat → SeekAnswer) (fuel k : Nat) {startFreq : UInt16}
    {scanTbl : List UInt16} (hfuel : 65536 ≤ fuel + startFreq.toNat)
    (hstart : ∀ f ∈ freqMin :: scanTbl, f ≤ startFreq) (h : Rising maxNum scanTbl) :
    ∃ tbl ret, swScanLoop maxNum answers fuel k startFreq scanTbl = some (tbl, ret) ∧ Rising maxNum tbl := by
  induction fuel generalizing k startFreq scanTbl with
  | zero =>
    have hlt := startFreq.toNat_lt
    omega
  | succ fuel ih =>
    unfold swScanLoop
    dsimp only
    split_ifs with hret hmore hstop
    · exact ⟨scanTbl, _, rfl, h⟩
    · exact ⟨_, _, rfl, h.snoc hstart hmore.2.1 hmore.2.2⟩
    · refine ih (k + 1) ?_ (fun f hf => ?_) (h.snoc hstart hmore.2.1 hmore.2.2)
      · have hlt := UInt16.lt_iff_toNat_lt.mp hmore.2.2
        omega
      · rw [← cons_append] at hf
        rcases mem_append.mp hf with hold | hnew
        · exact UInt16.le_of_lt (UInt16.lt_of_le_of_lt (hstart f hold) hmore.2.2)
        · rw [mem_singleton.mp hnew]
          exact UInt16.le_refl _
    · exact ⟨scanTbl, _, rfl, h⟩

/-- **The software scan.** Whatever the driver answers, the scan ends after at most `65536` seeks, has written no more
    entries than there is room for, and they are strictly increasing from its start on. -/
theorem comSwScan_rising {maxNum : Int} (hmax : 0 ≤ maxNum) (answers : Nat → SeekAnswer) {fuel : Nat}
    (hfuel : 65536 ≤ fuel) :
    ∃ tbl ret, comSwScan fuel maxNum answers = some (tbl, ret) ∧ tbl.length ≤ maxNum ∧
      (freqMin :: tbl).Pairwise (· < ·) := by
  have hinit : Rising maxNum [] := ⟨hmax, pairwise_singleton _ _⟩
  have hstart : ∀ f ∈ [freqMin], f ≤ freqMin := by
    intro f hf
    rw [mem_singleton.mp hf]
    exact UInt16.le_refl _
  obtain ⟨tbl, ret, heq, h⟩ := swScanLoop_rising answers fuel 0 (Nat.le_add_right_of_le hfuel) hstart hinit
  exact ⟨tbl, ret, heq, h.room, h.rising⟩

/-- Two stations, and then the driver wraps round to the first one. -/
theorem comSwScan_rising_two :
    let answers : Nat → SeekAnswer := fun k => ⟨0, 0, [901, 1003, 901].getD k 0, false⟩
    comSwScan (65536) 10 answers = some ([901, 1003], 0) ∧
      ∃ tbl ret, comSwScan (65536) 10 answers = some (tbl, ret) ∧ tbl.length ≤ (10 : Int) ∧
        (freqMin :: tbl).Pairwise (· < ·) :=
  ⟨by decide, comSwScan_rising (by decide) _ (Nat.le_refl _)⟩

/-- The driver answers the seeks from the `k`th on with the stations, one after the other, and then leads no further
    up. -/
def Tunes (answers : Nat → SeekAnswer) : Nat → UInt16 → List UInt16 → Prop
  | k, startFreq, [] => (answers k).ret = 0 ∧ (answers k).freq ≤ startFreq
  | k, startFreq, freq :: stations =>
    answers k = ⟨0, 0, freq, false⟩ ∧ startFreq < freq ∧ Tunes answers (k + 1) freq stations

theorem swScanLoop_tunes {maxNum : Nat} {answers : Nat → SeekAnswer} {stations scanTbl : List UInt16} {fuel k : Nat}
    {startFreq : UInt16} (hfuel : stations.length < fuel) (h : Tunes answers k startFreq stations) :
    swScanLoop maxNum answers fuel k startFreq scanTbl =
      some (scanTbl ++ stations.take (maxNum - scanTbl.length), 0) := by
  induction stations generalizing fuel k startFreq scanTbl with
  | nil =>
    obtain ⟨fuel, rfl⟩ := Nat.exists_eq_succ_of_ne_zero (Nat.ne_of_gt hfuel)
    simp [swScanLoop, h.1, UInt16.not_lt.mpr h.2]
  | cons freq stations ih =>
    obtain ⟨fuel, rfl⟩ := Nat.exists_eq_succ_of_ne_zero (Nat.ne_zero_of_lt hfuel)
    obtain ⟨hanswer, hup, hrest⟩ := h
    by_cases hroom : scanTbl.length < maxNum
    · have hmore := @ih (scanTbl ++ [freq]) _ _ _ (Nat.lt_of_succ_lt_succ hfuel) hrest
      rw [show maxNum - scanTbl.length = maxNum - (scanTbl.length + 1) + 1 by omega]
      simpa [swScanLoop, hanswer, hup, hroom] using hmore
    · simp [swScanLoop, hanswer, hroom, Nat.sub_eq_zero_of_le (Nat.le_of_not_lt hroom)]

/-- **The scan misses no station** the seeks lead to: it writes them all in order, as far as there is room. -/
theorem comSwScan_complete (maxNum : Nat) {fuel : Nat} {answers : Nat → SeekAnswer} (stations : List UInt16)
    (hfuel : stations.length < fuel) (h : Tunes answers 0 freqMin stations) :
    comSwScan fuel maxNum answers = some (stations.take maxNum, 0) :=
  swScanLoop_tunes hfuel h

theorem comSwScan_complete_one : comSwScan 3 1 (fun k => ⟨0, 0, [901, 1003].getD k 0, false⟩) = some ([901], 0) :=
  comSwScan_complete 1 [901, 1003] (by decide) ⟨rfl, by decide, rfl, by decide, rfl, by decide⟩

end HuaweiY5.Fm
