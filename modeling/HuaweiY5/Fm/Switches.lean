import HuaweiY5.Fm.Core
import Mathlib.Data.List.MinMax

/-!
# `Fm.Switches` — which frequency an AF and a TA switch end on

`COM_active_af` and `COM_active_ta` probe the frequencies of a list: they tune the driver, read its PAMD and keep the
best one seen. Here the device is threaded through: a reading is the PAMD of the frequency the driver is tuned to when
it is made, and every `ioctl` succeeds. A driver is then a function from frequencies to PAMD.
-/

namespace HuaweiY5.Fm.Switches

open List

/-! ## The device -/

/-- The radio behind the device file; `tunes` are the frequencies it has been tuned to, oldest first. -/
structure Radio where
  tuned : UInt16
  rdsOn : Bool
  tunes : List UInt16
  deriving DecidableEq

/-- `FM_IOCTL_TUNE`. -/
def Radio.tune (freq : UInt16) (d : Radio) : Radio := { d with tuned := freq, tunes := d.tunes ++ [freq] }

/-- `FM_IOCTL_RDS_ONOFF`. -/
def Radio.rdsOnOff (on : Bool) (d : Radio) : Radio := { d with rdsOn := on }

/-- A loop over alternative frequencies: `PAMD_Value`, `sw_freq` and the device. -/
structure Sweep where
  value : UInt16
  swFreq : UInt16
  radio : Radio
  readings : List (UInt16 × UInt16)
  deriving DecidableEq

variable (pamd : UInt16 → UInt16) (info : AfInfo)

/-- A round of the loops; `probe` is the frequency they tune to before they read. -/
def look (probe : (swFreq setFreq : UInt16) → UInt16) (orgFreq : UInt16) (s : Sweep) (setFreq : UInt16) : Sweep :=
  if setFreq = orgFreq then s
  else
    let radio := s.radio.tune (probe s.swFreq setFreq)
    let readings := s.readings ++ [(setFreq, radio.tuned)]
    let level := pamd radio.tuned
    if level > s.value then ⟨level, setFreq, radio, readings⟩ else ⟨s.value, s.swFreq, radio, readings⟩

def sweep (probe : (swFreq setFreq : UInt16) → UInt16) (orgFreq : UInt16)
    (entries : List UInt16) (s : Sweep) : Sweep :=
  entries.foldl (look pamd probe orgFreq) s

/-- `AF_Num` is cut to the size of the table. -/
def clampNum : AfInfo := { info with afNum := if info.afNum > 25 then 25 else info.afNum }

def entries : List UInt16 := info.af.take info.afNum.toNat

theorem entries_clampNum : entries (clampNum info) = info.listed := rfl

/-! ## The switches -/

def afPamdLBound : UInt16 := 8

def afPamdHBound : UInt16 := 12

def taPamdThreshold : UInt16 := 21

/-- What a switch leaves: its status, `*ret_freq`, the record and the device. -/
structure Switched where
  ret : Int
  retFreq : UInt16
  rds : RdsData
  radio : Radio
  readings : List (UInt16 × UInt16)
  deriving DecidableEq

/-- The frequency a switch ends on: the best one if its PAMD is above `bound`. -/
def target (bound orgFreq : UInt16) (s : Sweep) : UInt16 := if s.value > bound ∧ s.swFreq ≠ 0 then s.swFreq else orgFreq

def comActiveAf (rds : RdsData) (curFreq : UInt16) (d : Radio) : Switched :=
  if !rds.eventStatus.af then ⟨Core.errRdsNoData, 0, rds, d, []⟩
  else
    let value := pamd d.tuned
    if value < afPamdLBound then
      let rds := { rds with afData := clampNum rds.afData }
      let s := sweep pamd (fun _ setFreq => setFreq) curFreq (entries rds.afData) ⟨value, curFreq, d.rdsOnOff false, []⟩
      let freq := target afPamdHBound curFreq s
      ⟨0, freq, rds, (s.radio.tune freq).rdsOnOff true, s.readings⟩
    else ⟨0, curFreq, rds, d, []⟩

/-- `COM_active_ta`, with what it writes to `*backup_freq` and whether it sets `Switch_TP`. -/
def comActiveTa (rds : RdsData) (curFreq : UInt16) (d : Radio) : Switched × Option UInt16 × Bool :=
  if rds.eventStatus.taOn then
    let d := d.rdsOnOff false
    let value := pamd d.tuned
    let rds := { rds with afonData := clampNum rds.afonData }
    -- the loop tunes to `sw_freq`, not to `set_freq`
    let s := sweep pamd (fun swFreq _ => swFreq) curFreq (entries rds.afonData) ⟨value, curFreq, d, []⟩
    let freq := target taPamdThreshold curFreq s
    (⟨0, freq, rds, (s.radio.tune freq).rdsOnOff true, s.readings⟩, some curFreq,
      decide (s.value > taPamdThreshold ∧ s.swFreq ≠ 0))
  else (⟨0, curFreq, rds, d, []⟩, none, false)

/-! ## The rule -/

def candidates (curFreq : UInt16) : List UInt16 := info.listed.filter (· ≠ curFreq)

theorem ne_of_mem_candidates {info : AfInfo} {curFreq f : UInt16} (hf : f ∈ candidates info curFreq) : f ≠ curFreq := by
  simpa using (mem_filter.mp hf).2

def level (freq : UInt16) : Nat := (pamd freq).toNat

/-- The first of the candidates of largest PAMD, if that is above `bound`; else the current frequency. -/
def choice (bound : Nat) (curFreq : UInt16) (candidates : List UInt16) : UInt16 :=
  match candidates.argmax (level pamd) with
  | some freq => if bound < level pamd freq then freq else curFreq
  | none => curFreq

theorem choice_of_le {pamd : UInt16 → UInt16} {bound : Nat} {curFreq : UInt16} {candidates : List UInt16}
    (h : ∀ freq ∈ candidates, level pamd freq ≤ bound) : choice pamd bound curFreq candidates = curFreq := by
  unfold choice
  cases hm : candidates.argmax (level pamd) with
  | none => rfl
  | some freq => exact if_neg (Nat.not_lt.mpr (h freq (argmax_mem hm)))

theorem choice_mem_of_lt {pamd : UInt16 → UInt16} {bound : Nat} {curFreq freq : UInt16} {candidates : List UInt16}
    (hf : freq ∈ candidates) (h : bound < level pamd freq) : choice pamd bound curFreq candidates ∈ candidates := by
  unfold choice
  cases hm : candidates.argmax (level pamd) with
  | none => rw [argmax_eq_none.mp hm] at hf; exact absurd hf not_mem_nil
  | some best =>
    have hle : level pamd freq ≤ level pamd best := le_of_mem_argmax hf hm
    have hlt : bound < level pamd best := Nat.lt_of_lt_of_le h hle
    simp only [if_pos hlt]
    exact argmax_mem hm

theorem choice_eq_or_mem (bound : Nat) (curFreq : UInt16) (candidates : List UInt16) :
    choice pamd bound curFreq candidates = curFreq ∨ choice pamd bound curFreq candidates ∈ candidates := by
  by_cases h : ∀ freq ∈ candidates, level pamd freq ≤ bound
  · exact Or.inl (choice_of_le h)
  · push Not at h
    obtain ⟨freq, hf, hlt⟩ := h
    exact Or.inr (choice_mem_of_lt hf hlt)

/-! ## The loops -/

section Loops

variable (pamd : UInt16 → UInt16) (probe : UInt16 → UInt16 → UInt16) (orgFreq : UInt16)

@[simp] theorem sweep_nil (s : Sweep) : sweep pamd probe orgFreq [] s = s := rfl

@[simp] theorem sweep_cons (f : UInt16) (fs : List UInt16) (s : Sweep) :
    sweep pamd probe orgFreq (f :: fs) s = sweep pamd probe orgFreq fs (look pamd probe orgFreq s f) := rfl

theorem filter_cons_ne {f orgFreq : UInt16} (hf : f ≠ orgFreq) (fs : List UInt16) :
    (f :: fs).filter (· ≠ orgFreq) = f :: fs.filter (· ≠ orgFreq) := filter_cons_of_pos (decide_eq_true hf)

theorem look_org (s : Sweep) : look pamd probe orgFreq s orgFreq = s := if_pos rfl

theorem argmax_cons_cons (key : UInt16 → Nat) (a b : UInt16) (l : List UInt16) :
    (a :: b :: l).argmax key = if key a < key b then (b :: l).argmax key else (a :: l).argmax key := by
  simp only [List.argmax, foldl_cons, List.argAux]
  split <;> rfl

/-- **A loop that reads at the candidate.** It ends with the first of largest PAMD among the best so far and the
    candidates, and has tuned to each candidate once. -/
theorem sweep_candidate (fs : List UInt16) (s : Sweep) (hs : s.value = pamd s.swFreq) :
    let t := sweep pamd (fun _ setFreq => setFreq) orgFreq fs s
    let cs := fs.filter (· ≠ orgFreq)
    t.value = pamd t.swFreq ∧ (s.swFreq :: cs).argmax (level pamd) = some t.swFreq ∧
      t.radio.tunes = s.radio.tunes ++ cs ∧ t.readings = s.readings ++ cs.map fun f => (f, f) := by
  induction fs generalizing s with
  | nil => simp [hs]
  | cons f fs ih =>
    by_cases hf : f = orgFreq
    · subst hf
      simpa [look_org] using ih s hs
    · simp only [sweep_cons, filter_cons_ne hf, argmax_cons_cons]
      by_cases hl : pamd f > s.value
      · have hlook : look pamd (fun _ setFreq => setFreq) orgFreq s f =
            ⟨pamd f, f, s.radio.tune f, s.readings ++ [(f, f)]⟩ := by
          simp only [look, if_neg hf]
          exact if_pos hl
        have hlt : level pamd s.swFreq < level pamd f := UInt16.lt_iff_toNat_lt.mp (hs ▸ hl)
        rw [hlook, if_pos hlt]
        obtain ⟨h1, h2, h3, h4⟩ := ih ⟨pamd f, f, s.radio.tune f, s.readings ++ [(f, f)]⟩ rfl
        exact ⟨h1, h2, by simpa [Radio.tune] using h3, by simpa using h4⟩
      · have hlook : look pamd (fun _ setFreq => setFreq) orgFreq s f =
            ⟨s.value, s.swFreq, s.radio.tune f, s.readings ++ [(f, f)]⟩ := by
          simp only [look, if_neg hf]
          exact if_neg hl
        have hge : ¬level pamd s.swFreq < level pamd f := fun h => hl (hs ▸ UInt16.lt_iff_toNat_lt.mpr h)
        rw [hlook, if_neg hge]
        obtain ⟨h1, h2, h3, h4⟩ := ih ⟨s.value, s.swFreq, s.radio.tune f, s.readings ++ [(f, f)]⟩ hs
        exact ⟨h1, h2, by simpa [Radio.tune] using h3, by simpa using h4⟩

/-- **A loop that reads at the best frequency so far.** What it reads is no better than what it has, so it stays. -/
theorem sweep_best (fs : List UInt16) (s : Sweep) (hs : s.value = pamd s.swFreq) :
    let t := sweep pamd (fun swFreq _ => swFreq) orgFreq fs s
    let cs := fs.filter (· ≠ orgFreq)
    t.value = s.value ∧ t.swFreq = s.swFreq ∧ t.radio.tunes = s.radio.tunes ++ cs.map (fun _ => s.swFreq) ∧
      t.readings = s.readings ++ cs.map fun f => (f, s.swFreq) := by
  induction fs generalizing s with
  | nil => simp
  | cons f fs ih =>
    by_cases hf : f = orgFreq
    · subst hf
      simpa [look_org] using ih s hs
    · have hlook : look pamd (fun swFreq _ => swFreq) orgFreq s f =
          ⟨s.value, s.swFreq, s.radio.tune s.swFreq, s.readings ++ [(f, s.swFreq)]⟩ := by
        simp only [look, if_neg hf]
        exact if_neg (hs ▸ UInt16.lt_irrefl (pamd s.swFreq))
      simp only [sweep_cons, filter_cons_ne hf, hlook]
      obtain ⟨h1, h2, h3, h4⟩ := ih ⟨s.value, s.swFreq, s.radio.tune s.swFreq, s.readings ++ [(f, s.swFreq)]⟩ hs
      exact ⟨h1, h2, by simpa [Radio.tune] using h3, by simpa using h4⟩

end Loops

/-! ## What the switches end on -/

section Choice

variable (pamd : UInt16 → UInt16) (rds : RdsData) (curFreq : UInt16) (d : Radio)

theorem target_eq_choice {s : Sweep} {cs : List UInt16} (hnz : ∀ f ∈ cs, f ≠ 0) (hlow : pamd curFreq < afPamdLBound)
    (hv : s.value = pamd s.swFreq) (hm : (curFreq :: cs).argmax (level pamd) = some s.swFreq) :
    target afPamdHBound curFreq s = choice pamd afPamdHBound.toNat curFreq cs := by
  have hcur : level pamd curFreq < 8 := UInt16.lt_iff_toNat_lt.mp hlow
  -- a level that is not above the upper bound leaves the current frequency
  have stay : s.swFreq = curFreq → target afPamdHBound curFreq s = curFreq := by
    intro he
    unfold target
    split
    · exact he
    · rfl
  rw [argmax_cons] at hm
  unfold choice
  cases hc : cs.argmax (level pamd) with
  | none =>
    simp only [hc, Option.some.injEq] at hm
    exact stay hm.symm
  | some c =>
    simp only [hc] at hm
    by_cases hlt : level pamd curFreq < level pamd c
    · rw [if_pos hlt, Option.some.injEq] at hm
      have hsw : s.swFreq ≠ 0 := hm ▸ hnz c (argmax_mem hc)
      have hiff : s.value > afPamdHBound ∧ s.swFreq ≠ 0 ↔ afPamdHBound.toNat < level pamd c := by
        rw [hv, ← hm]
        exact ⟨fun h => UInt16.lt_iff_toNat_lt.mp h.1, fun h => ⟨UInt16.lt_iff_toNat_lt.mpr h, hm ▸ hsw⟩⟩
      simp [target, hiff, hm]
    · rw [if_neg hlt, Option.some.injEq] at hm
      have hle : ¬afPamdHBound.toNat < level pamd c := by
        intro h
        have h12 : 12 < level pamd c := h
        omega
      simp only [if_neg hle]
      exact stay hm.symm

/-- **The frequency of an AF switch.** With AF data and no empty entry: at a PAMD that is not low nothing is tuned and
    the current frequency is reported. Else the driver ends on the reported frequency with RDS on, and that is the first
    candidate of largest PAMD if this is above the upper bound, and the current frequency otherwise. Only the current
    frequency and candidates are ever tuned. -/
theorem active_af_choice (hev : rds.eventStatus.af = true) (hnz : ∀ f ∈ rds.afData.listed, f ≠ 0)
    (hd : d.tuned = curFreq) :
    let r := comActiveAf pamd rds curFreq d
    let cs := candidates rds.afData curFreq
    r.ret = 0 ∧
      (afPamdLBound ≤ pamd curFreq → r.radio = d ∧ r.retFreq = curFreq) ∧
      (pamd curFreq < afPamdLBound →
        r.retFreq = choice pamd afPamdHBound.toNat curFreq cs ∧ r.radio.tuned = r.retFreq ∧ r.radio.rdsOn = true) ∧
      ∃ ts, r.radio.tunes = d.tunes ++ ts ∧ ∀ f ∈ ts, f = curFreq ∨ f ∈ cs := by
  intro r cs
  have hnz' : ∀ f ∈ cs, f ≠ 0 := fun f hf => hnz f (mem_of_mem_filter hf)
  by_cases hlow : pamd curFreq < afPamdLBound
  · obtain ⟨hv, hm, ht, -⟩ := sweep_candidate pamd curFreq rds.afData.listed
      ⟨pamd curFreq, curFreq, d.rdsOnOff false, []⟩ rfl
    generalize hs : sweep pamd (fun _ setFreq => setFreq) curFreq rds.afData.listed
      ⟨pamd curFreq, curFreq, d.rdsOnOff false, []⟩ = s at hv hm ht
    have hr : r = ⟨0, target afPamdHBound curFreq s, { rds with afData := clampNum rds.afData },
        (s.radio.tune (target afPamdHBound curFreq s)).rdsOnOff true, s.readings⟩ := by
      simp [r, comActiveAf, hev, hd, hlow, entries_clampNum, hs]
    have htarget := target_eq_choice pamd curFreq hnz' hlow hv hm
    refine ⟨by rw [hr], fun h => absurd hlow (UInt16.not_lt.mpr h), fun _ => ⟨by rw [hr]; exact htarget, by rw [hr]; rfl,
      by rw [hr]; rfl⟩, cs ++ [target afPamdHBound curFreq s], ?_, ?_⟩
    · rw [hr]
      simp only [Radio.tune] at ht ⊢
      rw [ht, append_assoc]
      rfl
    · intro f hf
      rcases mem_append.mp hf with hf | hf
      · exact Or.inr hf
      · rw [mem_singleton.mp hf, htarget]
        exact choice_eq_or_mem pamd afPamdHBound.toNat curFreq cs
  · have hr : r = ⟨0, curFreq, rds, d, []⟩ := by
      simp [r, comActiveAf, hev, hd, hlow]
    exact ⟨by rw [hr], fun _ => by rw [hr]; exact ⟨rfl, rfl⟩, fun h => absurd h hlow, [], by rw [hr, append_nil],
      fun f hf => absurd hf not_mem_nil⟩

/-- A driver whose two alternative frequencies are equally good. -/
theorem active_af_choice_first :
    let pamd : UInt16 → UInt16 := fun f => if f = 900 then 3 else if f = 950 then 5 else 30
    let rds : RdsData := ⟨⟨true, false, false⟩, ⟨4, [900, 950, 1000, 1010]⟩, ⟨0, []⟩⟩
    (comActiveAf pamd rds 900 ⟨900, true, []⟩).retFreq = 1000 := by
  intro pamd rds
  have hnz : ∀ f ∈ rds.afData.listed, f ≠ 0 := by simp [rds, AfInfo.listed]
  have h := active_af_choice pamd rds 900 ⟨900, true, []⟩ rfl hnz rfl
  exact (h.2.2.1 (by decide)).1.trans (by decide)

/-- **The frequency of a TA switch.** It is the one the rule of the AF switch chooses among the AFON entries exactly if
    no candidate has a PAMD above the threshold and above that of the current frequency; and the PAMD compared for a
    candidate is never read at that candidate. -/
theorem active_ta_choice_iff (hev : rds.eventStatus.taOn = true) (hd : d.tuned = curFreq) :
    let r := (comActiveTa pamd rds curFreq d).1
    let cs := candidates rds.afonData curFreq
    let bound := max taPamdThreshold.toNat (level pamd curFreq)
    (r.retFreq = choice pamd bound curFreq cs ∧ r.radio.tuned = choice pamd bound curFreq cs ↔
        ∀ f ∈ cs, level pamd f ≤ bound) ∧
      (r.readings = cs.map (fun f => (f, f)) ↔ cs = []) := by
  intro r cs bound
  obtain ⟨-, hsw, -, hrd⟩ := sweep_best pamd curFreq rds.afonData.listed ⟨pamd curFreq, curFreq, d.rdsOnOff false, []⟩ rfl
  generalize hs : sweep pamd (fun swFreq _ => swFreq) curFreq rds.afonData.listed
    ⟨pamd curFreq, curFreq, d.rdsOnOff false, []⟩ = s at hsw hrd
  have htarget : target taPamdThreshold curFreq s = curFreq := by
    unfold target
    split
    · exact hsw
    · rfl
  have hr : r = ⟨0, curFreq, { rds with afonData := clampNum rds.afonData }, (s.radio.tune curFreq).rdsOnOff true,
      s.readings⟩ := by
    simp [r, comActiveTa, hev, show (d.rdsOnOff false).tuned = curFreq from hd, entries_clampNum, hs, htarget]
  have hret : r.retFreq = curFreq := by rw [hr]
  have htuned : r.radio.tuned = curFreq := by rw [hr]; rfl
  have hreadings : r.readings = cs.map fun f => (f, curFreq) := by rw [hr]; exact hrd
  refine ⟨⟨?_, ?_⟩, ?_, ?_⟩
  · -- a candidate above the bound would be chosen, and the switch stays
    rintro ⟨h, -⟩ f hf
    by_contra hlt
    have hmem : choice pamd bound curFreq cs ∈ cs := choice_mem_of_lt hf (Nat.lt_of_not_le hlt)
    exact ne_of_mem_candidates hmem (h.symm.trans hret)
  · intro h
    rw [hret, htuned, choice_of_le h]
    exact ⟨rfl, rfl⟩
  · intro h
    rw [hreadings] at h
    apply eq_nil_iff_forall_not_mem.mpr
    intro f hf
    have hpair := (map_inj_left.mp h) f hf
    exact ne_of_mem_candidates hf (Prod.mk.inj hpair).2.symm
  · intro h
    rw [hreadings, h]
    rfl

theorem active_ta_choice_iff_weak :
    let pamd : UInt16 → UInt16 := fun f => if f = 900 then 30 else 20
    let rds : RdsData := ⟨⟨false, true, false⟩, ⟨0, []⟩, ⟨2, [1000, 1010]⟩⟩
    (comActiveTa pamd rds 900 ⟨900, true, []⟩).1.retFreq = choice pamd 30 900 [1000, 1010] := by
  intro pamd rds
  have h := active_ta_choice_iff pamd rds 900 ⟨900, true, []⟩ rfl rfl
  have hcs : candidates rds.afonData 900 = [1000, 1010] := by decide
  have hlow : ∀ f ∈ candidates rds.afonData 900, level pamd f ≤ 30 := by
    rw [hcs]
    simp only [forall_mem_cons, not_mem_nil, false_implies, implies_true, and_true]
    exact ⟨by decide, by decide⟩
  exact (h.1.mpr hlow).1

/-- The only AFON entry is far better than the current frequency; the switch reads the current frequency in its place
    and stays. -/
theorem active_ta_stays :
    let pamd : UInt16 → UInt16 := fun f => if f = 900 then 10 else 40
    let rds : RdsData := ⟨⟨false, true, false⟩, ⟨0, []⟩, ⟨1, [1000]⟩⟩
    let r := (comActiveTa pamd rds 900 ⟨900, true, []⟩).1
    choice pamd (max 21 (level pamd 900)) 900 (candidates rds.afonData 900) = 1000 ∧ r.retFreq = 900 ∧
      r.radio.tuned = 900 ∧ r.readings = [(1000, 900)] := by
  decide

end Choice

/-! ## The switches of `Fm.Core`

`Fm.Core` takes the readings of a switch as they come; given those of a driver that answers by frequency, its switches
are the ones of this module. -/

section OverCore

variable (pamd : UInt16 → UInt16) (rds : RdsData) (curFreq : UInt16) (d : Radio)

theorem core_sweep_candidate (answer : Nat → UInt16) (fs : List UInt16) (i : Nat) (s : Sweep)
    (hread : ∀ k f, fs[k]? = some f → answer (i + k) = pamd f) :
    let t := sweep pamd (fun _ setFreq => setFreq) curFreq fs s
    let c := Core.sweep (fun _ setFreq => setFreq) curFreq answer i fs s.value s.swFreq
    t.radio.tunes = s.radio.tunes ++ c.1 ∧ c.2 = (t.value, t.swFreq) := by
  induction fs generalizing i s with
  | nil => exact ⟨(append_nil _).symm, rfl⟩
  | cons f fs ih =>
    have hfirst : answer i = pamd f := hread 0 f rfl
    have hrest : ∀ k g, fs[k]? = some g → answer (i + 1 + k) = pamd g := fun k g hg => by
      rw [Nat.add_assoc, Nat.add_comm 1 k]
      exact hread (k + 1) g hg
    by_cases hf : f = curFreq
    · subst hf
      simpa [look_org, Core.sweep] using ih (i + 1) s hrest
    · by_cases hl : pamd f > s.value
      · simpa [Core.sweep, look, hf, hfirst, hl, Radio.tune] using
          ih (i + 1) ⟨pamd f, f, s.radio.tune f, s.readings ++ [(f, f)]⟩ hrest
      · simpa [Core.sweep, look, hf, hfirst, hl, Radio.tune] using
          ih (i + 1) ⟨s.value, s.swFreq, s.radio.tune f, s.readings ++ [(f, f)]⟩ hrest

theorem core_sweep_best (value : UInt16) (fs : List UInt16) (i : Nat) (swFreq : UInt16) :
    Core.sweep (fun swFreq _ => swFreq) curFreq (fun _ => value) i fs value swFreq =
      ((fs.filter (· ≠ curFreq)).map (fun _ => swFreq), value, swFreq) := by
  induction fs generalizing i with
  | nil => rfl
  | cons f fs ih =>
    by_cases hf : f = curFreq
    · subst hf
      simpa [Core.sweep] using ih (i + 1)
    · simp [Core.sweep, hf, ih]

/-- The AF switch of `Fm.Core`, given the PAMD of each listed frequency. -/
theorem core_activeAf :
    let r := comActiveAf pamd rds curFreq d
    ∃ ts, r.radio.tunes = d.tunes ++ ts ∧
      Core.comActiveAf rds ⟨pamd d.tuned, fun i => pamd (rds.afData.listed.getD i 0)⟩ curFreq =
        ⟨r.ret, r.retFreq, ts⟩ := by
  intro r
  by_cases hev : rds.eventStatus.af = true
  · by_cases hlow : pamd d.tuned < afPamdLBound
    · obtain ⟨htunes, hc⟩ := core_sweep_candidate pamd curFreq (fun i => pamd (rds.afData.listed.getD i 0))
        rds.afData.listed 0 ⟨pamd d.tuned, curFreq, d.rdsOnOff false, []⟩ (fun k f hf => by simp [hf])
      have hlow' : pamd d.tuned < 8 := hlow
      simp only [r, comActiveAf, Core.comActiveAf, hev, hlow, hlow', entries_clampNum, hc, Bool.not_true,
        Bool.false_eq_true, if_false, if_true]
      exact ⟨_, by rw [← append_assoc]; exact congrArg (· ++ _) htunes, rfl⟩
    · have hlow' : ¬pamd d.tuned < 8 := hlow
      exact ⟨[], by simp [r, comActiveAf, hev, hlow], by simp [r, comActiveAf, Core.comActiveAf, hev, hlow, hlow']⟩
  · exact ⟨[], by simp [r, comActiveAf, hev], by simp [r, comActiveAf, Core.comActiveAf, hev]⟩

/-- The TA switch of `Fm.Core`, given the readings it makes: all of them at the current frequency. -/
theorem core_activeTa (hd : d.tuned = curFreq) :
    let r := comActiveTa pamd rds curFreq d
    ∃ ts, r.1.radio.tunes = d.tunes ++ ts ∧
      Core.comActiveTa rds ⟨pamd d.tuned, fun _ => pamd curFreq⟩ curFreq = (⟨r.1.ret, r.1.retFreq, ts⟩, r.2.1) := by
  intro r
  by_cases hev : rds.eventStatus.taOn = true
  · obtain ⟨hv, hsw, htunes, -⟩ :=
      sweep_best pamd curFreq rds.afonData.listed ⟨pamd curFreq, curFreq, d.rdsOnOff false, []⟩ rfl
    have hdoff : (d.rdsOnOff false).tuned = curFreq := hd
    simp only [r, comActiveTa, Core.comActiveTa, hev, hd, hdoff, entries_clampNum, core_sweep_best]
    refine ⟨_, by rw [← append_assoc]; exact congrArg (· ++ _) htunes, ?_⟩
    simp only [target, hv, hsw]
    rfl
  · exact ⟨[], by simp [r, comActiveTa, hev], by simp [r, comActiveTa, Core.comActiveTa, hev]⟩

end OverCore

end HuaweiY5.Fm.Switches
