import HuaweiY5.Nmea.Lines

/-!
# `Nmea.Satellites` — the satellite list and the space it has

A group of GSV sentences lists the satellites of one constellation. Its first sentence restarts `sv_count`, every
satellite known to the parser is stored behind the ones already in `sv_list` and counted, and the sentence with
`seq == num` adds the count to `num_svs`. Two things are not checked. `prn` and `snr` have 32 entries and are
written at `sv_count`, which may go up to 64; and a closing sentence does not restart `sv_count`, so that a second
one adds the same satellites once more, with nothing that compares `num_svs` with `GNSS_MAX_SVS`.
-/

namespace HuaweiY5.Nmea

open List

open Codec (Byte)
open Framing

variable {D : Type} (c : Libc D)

/-! ## In capacity -/

/-- An effect that stays inside the arrays, or reports no more satellites than the list has. -/
def Effect.InCapacity : Effect D → Prop
  | .setSv index => 0 ≤ index ∧ index < gnssMaxSvs
  | .setNumSvs numSvs => 0 ≤ numSvs ∧ numSvs ≤ gnssMaxSvs
  | .setPrn index _ | .setSnr index _ => 0 ≤ index ∧ index < prnSize
  | .mnl2halGpsSv numSvs svList => 0 ≤ numSvs ∧ numSvs ≤ svList.length ∧ svList.length = gnssMaxSvs
  | .mnl2halLocation _ | .mnldGpsUpdateLocation _ | .mnl2halNmea .. => True

theorem inCapacity_trimmed (e : Effect D) : e.trimmed.InCapacity ↔ e.InCapacity := by
  cases e <;> exact Iff.rfl

/-! ## The groups, from the sentences alone -/

/-- The tokens of a GSV sentence that is read to its end. -/
def gsvTokens? (line : List Byte) : Option (List Token) :=
  if Readable line ∧ sentenceId (tokenizerGet (tokenizerInit line) 0) = .gsv then some (tokenizerInit line)
  else none

/-- The satellite at a position of a GSV sentence has an id the parser stores. -/
def recognised (tzer : List Token) (idx : Nat) : Bool :=
  (constellationOf (satelliteId (svTypeOf ((tokenizerGet tzer 0).text.take 2))
    (str2int (tokenizerGet tzer (4 * (idx + 1))).text))).isSome

/-- How far a group has come: the satellites listed since its first sentence, whether it has been closed, and what
    closing sentences have added up so far. -/
structure Tally where
  count : Nat
  closed : Bool
  total : Nat
deriving DecidableEq

namespace Tally

def zero : Tally := ⟨0, false, 0⟩

variable (t : Tally)

def opened (h : GsvHeader) : Tally :=
  if h.seq = 1 then { t with count := 0, closed := false } else t

def listed (tzer : List Token) (n : Nat) : Tally :=
  { t with count := t.count + (List.range n).countP (recognised tzer) }

def close (h : GsvHeader) : Tally :=
  if h.seq = h.num then { t with closed := true, total := t.total + t.count } else t

def after (line : List Byte) : Tally :=
  match gsvTokens? line with
  | none => t
  | some tzer =>
    let h := gsvHeader tzer
    ((t.opened h).listed tzer h.svNum).close h

/-- The line keeps the group in bounds: fewer than 32 satellites before each one it lists, and if it closes a
    group that is closed already, what is added again still fits. -/
def Admits (line : List Byte) : Prop :=
  ∀ tzer ∈ gsvTokens? line,
    (∀ idx < (gsvHeader tzer).svNum, ((t.opened (gsvHeader tzer)).listed tzer idx).count < prnSize) ∧
    ((gsvHeader tzer).seq = (gsvHeader tzer).num → (t.opened (gsvHeader tzer)).closed = true →
      t.total + ((t.opened (gsvHeader tzer)).listed tzer (gsvHeader tzer).svNum).count ≤ gnssMaxSvs)

instance instDecidableAdmits (t : Tally) (line : List Byte) : Decidable (t.Admits line) :=
  inferInstanceAs (Decidable (∀ tzer ∈ gsvTokens? line, _ ∧ _))

end Tally

def WellGrouped : Tally → List (List Byte) → Prop
  | _, [] => True
  | t, l :: ls => t.Admits l ∧ WellGrouped (t.after l) ls

instance instDecidableWellGrouped : ∀ (t : Tally) (ls : List (List Byte)), Decidable (WellGrouped t ls)
  | _, [] => .isTrue trivial
  | t, l :: ls =>
    have := instDecidableWellGrouped (t.after l) ls
    inferInstanceAs (Decidable (t.Admits l ∧ WellGrouped (t.after l) ls))

/-! ## What the counts of the reader are -/

/-- The counts of the reader stay below those of the tally, and within the list. -/
structure Counted (t : Tally) (r : Content D) : Prop where
  count_nonneg : 0 ≤ r.svCount
  count_le : r.svCount ≤ t.count
  count_fit : r.svCount ≤ prnSize
  svs_nonneg : 0 ≤ r.numSvs
  svs_le : r.numSvs ≤ t.total
  svs_fit : r.numSvs ≤ gnssMaxSvs
  open_fit : t.closed = false → r.svCount + r.numSvs ≤ gnssMaxSvs
  list_length : r.svList.length = gnssMaxSvs

variable {t : Tally} {r : Content D} {line : List Byte}

theorem Counted.int32_sum (h : Counted t r) : int32 (r.svCount + r.numSvs) = r.svCount + r.numSvs := by
  have h1 := h.count_nonneg
  have h2 := h.count_fit
  have h3 := h.svs_nonneg
  have h4 := h.svs_fit
  simp only [prnSize, gnssMaxSvs] at h2 h4
  exact int32_of_bounds (by omega) (by omega)

theorem Counted.congr {r' : Content D} (h : Counted t r) (hcount : r'.svCount = r.svCount)
    (hnum : r'.numSvs = r.numSvs) (hlist : r'.svList = r.svList) : Counted t r' := by
  obtain ⟨h1, h2, h3, h4, h5, h6, h7, h8⟩ := h
  exact ⟨by rwa [hcount], by rwa [hcount], by rwa [hcount], by rwa [hnum], by rwa [hnum], by rwa [hnum],
    by rwa [hcount, hnum], by rwa [hlist]⟩

theorem length_modifyAt {α : Type} (l : List α) (i : Int) (f : α → α) : (modifyAt l i f).length = l.length := by
  unfold modifyAt
  split
  · exact length_modify ..
  · rfl

/-- What a part of the parser leaves is counted, and what it has done was in the arrays. -/
abbrev CountedIn (t : Tally) (p : Content D × List (Effect D)) : Prop := Counted t p.1 ∧ ∀ e ∈ p.2, e.InCapacity

/-! ## One satellite, one sentence -/

theorem gsvSatellite_counted (h : Counted t r) (tzer : List Token) (idx : Nat) (hroom : t.count < prnSize) :
    CountedIn { t with count := t.count + if recognised tzer idx then 1 else 0 }
      (gsvSatellite c (svTypeOf ((tokenizerGet tzer 0).text.take 2)) tzer r idx) := by
  have hpos := h.count_nonneg
  have hle := h.count_le
  simp only [gsvSatellite]
  -- the stores into `prn` and `snr` come first, at the old count
  have hstores : ∀ e ∈ [Effect.setPrn (D := D) r.svCount (str2int (tokenizerGet tzer (4 * (idx + 1))).text),
      .setSnr r.svCount (c.toInt (str2float c (tokenizerGet tzer (4 * (idx + 1) + 3)).text))], e.InCapacity := by
    intro e he
    have hin : 0 ≤ r.svCount ∧ r.svCount < prnSize := ⟨hpos, by omega⟩
    rcases (by simpa using he : e = _ ∨ e = _) with rfl | rfl <;> exact hin
  rcases updateSvStatus_cases c (satelliteId (svTypeOf ((tokenizerGet tzer 0).text.take 2))
      (str2int (tokenizerGet tzer (4 * (idx + 1))).text)) (tokenizerGet tzer (4 * (idx + 1) + 1))
      (tokenizerGet tzer (4 * (idx + 1) + 2)) (tokenizerGet tzer (4 * (idx + 1) + 3)) r with
    hnone | ⟨svid, constellation, hid, hfree, hsome⟩
  · rw [hnone]
    refine ⟨{ h with count_le := ?_ }, by simpa using hstores⟩
    show r.svCount ≤ ((t.count + _ : Nat) : Int)
    omega
  · rw [hsome]
    rw [h.int32_sum] at hfree ⊢
    have hnext : int32 (r.svCount + 1) = r.svCount + 1 := by
      simp only [prnSize] at hroom
      exact int32_of_bounds (by omega) (by omega)
    have hrec : recognised tzer idx = true := by simp [recognised, hid]
    have hnum := h.svs_nonneg
    constructor
    · rw [hnext, if_pos hrec]
      refine ⟨?_, ?_, ?_, h.svs_nonneg, h.svs_le, h.svs_fit, ?_, ?_⟩
      · show 0 ≤ r.svCount + 1; omega
      · show r.svCount + 1 ≤ ((t.count + 1 : Nat) : Int); omega
      · show r.svCount + 1 ≤ (prnSize : Int); omega
      · intro _; show r.svCount + 1 + r.numSvs ≤ (gnssMaxSvs : Int); omega
      · rw [length_modifyAt]; exact h.list_length
    · intro e he
      rcases mem_append.mp he with he | he
      · exact hstores e he
      · obtain rfl : e = _ := by simpa using he
        exact ⟨by omega, hfree⟩

theorem gsvSatellites_counted (h : Counted t r) (tzer : List Token) (n : Nat)
    (hroom : ∀ idx < n, (t.listed tzer idx).count < prnSize) :
    CountedIn (t.listed tzer n)
      (feed (gsvSatellite c (svTypeOf ((tokenizerGet tzer 0).text.take 2)) tzer) r (List.range n)) := by
  induction n with
  | zero => exact ⟨by simpa [Tally.listed] using h, by simp⟩
  | succ n ih =>
    obtain ⟨hcount, heffects⟩ := ih (fun idx hidx => hroom idx (by omega))
    obtain ⟨hcount', heffects'⟩ := gsvSatellite_counted c hcount tzer n (hroom n (by omega))
    rw [range_succ, feed_append, feed_singleton]
    refine ⟨?_, ?_⟩
    · have hlisted : t.listed tzer (n + 1) =
          { t.listed tzer n with
            count := (t.listed tzer n).count + if recognised tzer n then 1 else 0 } := by
        simp [Tally.listed, range_succ, Nat.add_assoc]
      rw [hlisted]
      exact hcount'
    · intro e he
      rcases mem_append.mp he with he | he
      · exact heffects e he
      · exact heffects' e he

theorem gsvOpen_counted (h : Counted t r) (hd : GsvHeader) : Counted (t.opened hd) (gsvOpen hd r) := by
  unfold Tally.opened gsvOpen
  split
  · have hfit := h.svs_fit
    exact { h with
      count_nonneg := Int.le_refl 0
      count_le := Int.le_refl 0
      count_fit := by simp
      open_fit := fun _ => by show 0 + r.numSvs ≤ _; omega }
  · exact h

theorem gsvClose_counted (h : Counted t r) (hd : GsvHeader)
    (hfit : hd.seq = hd.num → t.closed = true → t.total + t.count ≤ gnssMaxSvs) :
    CountedIn (t.close hd) (gsvClose hd r) := by
  unfold gsvClose Tally.close
  by_cases hclose : hd.seq = hd.num
  · have h1 := h.count_nonneg
    have h2 := h.count_le
    have h3 := h.svs_nonneg
    have h4 := h.svs_le
    have hsum : r.numSvs + r.svCount ≤ gnssMaxSvs := by
      cases hc : t.closed with
      | false => have := h.open_fit hc; omega
      | true => have := hfit hclose hc; omega
    simp only [hclose, if_true]
    split
    · rw [Int.add_comm r.numSvs, h.int32_sum]
      refine ⟨⟨h1, h2, h.count_fit, ?_, ?_, ?_, by simp, h.list_length⟩, ?_⟩
      · show 0 ≤ r.svCount + r.numSvs; omega
      · show r.svCount + r.numSvs ≤ ((t.total + t.count : Nat) : Int); omega
      · show r.svCount + r.numSvs ≤ (gnssMaxSvs : Int); omega
      · intro e he
        obtain rfl : e = _ := by simpa using he
        exact ⟨by omega, by omega⟩
    · refine ⟨⟨Int.le_refl 0, by simp, by simp, Int.le_refl 0, Int.natCast_nonneg _,
        by simp, by simp, h.list_length⟩, ?_⟩
      intro e he
      obtain rfl : e = _ := by simpa using he
      exact ⟨Int.le_refl 0, by simp⟩
  · simp only [hclose]
    exact ⟨h, by simp⟩

theorem parseGsv_counted (h : Counted t r) {tzer : List Token} (htzer : gsvTokens? line = some tzer)
    (hline : t.Admits line) :
    CountedIn (t.after line) (parseGsv c (svTypeOf ((tokenizerGet tzer 0).text.take 2)) tzer r) := by
  obtain ⟨hroom, hfit⟩ := hline tzer htzer
  obtain ⟨hcount, heffects⟩ := gsvSatellites_counted c (gsvOpen_counted h (gsvHeader tzer)) tzer _ hroom
  have htotal : ((t.opened (gsvHeader tzer)).listed tzer (gsvHeader tzer).svNum).total = t.total := by
    simp only [Tally.opened]
    split <;> rfl
  obtain ⟨hcount', heffects'⟩ := gsvClose_counted hcount (gsvHeader tzer)
    (fun hclose hclosed => by rw [htotal]; exact hfit hclose hclosed)
  refine ⟨?_, ?_⟩
  · simp only [Tally.after, htzer]
    exact hcount'
  · intro e he
    rcases mem_append.mp he with he | he
    · exact heffects e he
    · exact heffects' e he

/-! ## The other sentences -/

/-- The two counts and the list are as before. -/
structure SameSvs (r r' : Content D) : Prop where
  count : r'.svCount = r.svCount
  num : r'.numSvs = r.numSvs
  list : r'.svList = r.svList

namespace SameSvs

theorem refl (r : Content D) : SameSvs r r := ⟨rfl, rfl, rfl⟩

theorem of_sats {r r' : Content D} (h : r'.sats = r.sats) : SameSvs r r' :=
  ⟨congrArg Sats.svCount h, congrArg Sats.numSvs h, congrArg Sats.svList h⟩

theorem parseGsa (svType : SvType) (tzer : List Token) (r : Content D) : SameSvs r (parseGsa svType tzer r) := by
  unfold Nmea.parseGsa
  simp only
  split <;> exact ⟨rfl, rfl, rfl⟩

theorem dispatch {tzer : List Token} (h : sentenceId (tokenizerGet tzer 0) ≠ .gsv) (r : Content D) :
    SameSvs r (dispatch c tzer r).1 := by
  cases hid : sentenceId (tokenizerGet tzer 0) with
  | gsv => exact absurd hid h
  | gga => simp only [Nmea.dispatch, hid]; exact of_sats ((detached_parseGga c tzer).sats_eq r)
  | gsa => simp only [Nmea.dispatch, hid]; exact parseGsa _ tzer r
  | rmc => simp only [Nmea.dispatch, hid]; exact of_sats ((detached_parseRmc c tzer).sats_eq r)
  | accuracy =>
    simp only [Nmea.dispatch, hid]
    exact of_sats ((detached_accuracy c tzer).sats_eq r)
  | unknown => simp only [Nmea.dispatch, hid]; exact refl r

theorem flushLocation (endTag : Bool) (r : Content D) : SameSvs r (flushLocation endTag r).1 := by
  unfold Nmea.flushLocation
  split <;> exact ⟨rfl, rfl, rfl⟩

end SameSvs

theorem Counted.of_same {r' : Content D} (h : Counted t r) (hsame : SameSvs r r') : Counted t r' :=
  h.congr hsame.count hsame.num hsame.list

theorem flushSvs_counted (endTag : Bool) (h : Counted t r) : CountedIn t (flushSvs endTag r) := by
  unfold flushSvs
  split
  · split
    · refine ⟨⟨Int.le_refl 0, by simp, by simp, Int.le_refl 0, by simp, by simp, fun _ => by simp, h.list_length⟩, ?_⟩
      intro e he
      rcases (by simpa using he : e = _ ∨ e = _) with rfl | rfl
      · exact ⟨h.svs_nonneg, by rw [h.list_length]; exact h.svs_fit, h.list_length⟩
      · exact ⟨Int.le_refl 0, by simp⟩
    · exact ⟨h, by simp⟩
  · exact ⟨h, by simp⟩

theorem flush_counted (endTag : Bool) (h : Counted t r) : CountedIn t (flush endTag r) := by
  obtain ⟨hsvs, heffects⟩ := flushSvs_counted endTag (h.of_same (SameSvs.flushLocation endTag r))
  refine ⟨hsvs, ?_⟩
  intro e he
  rcases mem_append.mp he with he | he
  · unfold flushLocation at he
    split at he
    · rcases (by simpa using he : e = _ ∨ e = _) with rfl | rfl <;> trivial
    · simp at he
  · exact heffects e he

theorem gsvTokens?_eq_none (h : gsvTokens? line = none) (hread : Readable line) :
    sentenceId (tokenizerGet (tokenizerInit line) 0) ≠ .gsv := by
  intro hid
  simp [gsvTokens?, hread, hid] at h

theorem gsvTokens?_eq_some {tzer : List Token} (h : gsvTokens? line = some tzer) :
    Readable line ∧ sentenceId (tokenizerGet tzer 0) = .gsv ∧ tzer = tokenizerInit line := by
  unfold gsvTokens? at h
  split at h
  · rename_i hgsv
    obtain rfl : tokenizerInit line = tzer := by simpa using h
    exact ⟨hgsv.1, hgsv.2, rfl⟩
  · simp at h

/-- **One line**, read with or without the end tag. -/
theorem sentence_counted (endTag : Bool) (h : Counted t r) (hline : t.Admits line) :
    CountedIn (t.after line) (sentence c endTag r line) := by
  have hparse : CountedIn (t.after line) (parse c endTag r line) := by
    cases htzer : gsvTokens? line with
    | none =>
      have hafter : t.after line = t := by simp [Tally.after, htzer]
      rw [hafter]
      by_cases hread : Readable line
      · have hid := gsvTokens?_eq_none htzer hread
        rw [parse_readable c hread, dispatch_effects c hid, nil_append]
        exact flush_counted endTag (h.of_same (SameSvs.dispatch c hid r))
      · rw [parse_discarded c hread]
        exact ⟨h, by simp⟩
    | some tzer =>
      obtain ⟨hread, hid, rfl⟩ := gsvTokens?_eq_some htzer
      rw [parse_readable c hread, dispatch_gsv c hid]
      obtain ⟨hcount, heffects⟩ := parseGsv_counted c h htzer hline
      obtain ⟨hcount', heffects'⟩ := flush_counted endTag hcount
      refine ⟨hcount', ?_⟩
      intro e he
      rcases mem_append.mp he with he | he
      · exact heffects e he
      · exact heffects' e he
  refine ⟨hparse.1, ?_⟩
  intro e he
  rcases mem_append.mp he with he | he
  · exact hparse.2 e he
  · obtain rfl : e = _ := by simpa using he
    trivial

/-! ## A buffer -/

def tallyAfter (t : Tally) (ls : List (List Byte)) : Tally := ls.foldl Tally.after t

theorem wellGrouped_append (t : Tally) (ls ls' : List (List Byte)) :
    WellGrouped t (ls ++ ls') ↔ WellGrouped t ls ∧ WellGrouped (tallyAfter t ls) ls' := by
  induction ls generalizing t with
  | nil => simp [WellGrouped, tallyAfter]
  | cons l ls ih =>
    show t.Admits l ∧ WellGrouped (t.after l) (ls ++ ls') ↔ _
    rw [ih]
    exact and_assoc.symm

theorem sentences_counted (h : Counted t r) {ls : List (List Byte)} (hls : WellGrouped t ls) :
    CountedIn (tallyAfter t ls) (feed (sentence c false) r ls) := by
  induction ls generalizing t r with
  | nil => exact ⟨h, by simp⟩
  | cons l ls ih =>
    obtain ⟨hcount, heffects⟩ := sentence_counted c false h hls.1
    obtain ⟨hcount', heffects'⟩ := ih hcount hls.2
    refine ⟨hcount', ?_⟩
    intro e he
    rcases mem_append.mp he with he | he
    · exact heffects e he
    · exact heffects' e he

theorem contentInit_counted (usedInFix : Nat → Bool) : Counted Tally.zero (contentInit c usedInFix) := by
  refine ⟨Int.le_refl 0, Int.le_refl 0, by simp [contentInit, readerInit], Int.le_refl 0, Int.le_refl 0,
    by simp [contentInit, readerInit], fun _ => by simp [contentInit, readerInit], ?_⟩
  simp [contentInit, readerInit]

theorem forall_inCapacity_of_map {es es' : List (Effect D)} (h : es.map Effect.trimmed = es'.map Effect.trimmed)
    (hes : ∀ e ∈ es', e.InCapacity) : ∀ e ∈ es, e.InCapacity := by
  intro e he
  have hmem : e.trimmed ∈ es'.map Effect.trimmed := h ▸ mem_map_of_mem he
  obtain ⟨e', he', heq⟩ := mem_map.mp hmem
  exact (inCapacity_trimmed e).mp (heq ▸ (inCapacity_trimmed e').mpr (hes e' he'))

/-- **In every buffer whose groups stay in bounds, every store and every report is in capacity**, from any state of
    the table of used satellites. -/
theorem satellites_inCapacity (usedInFix : Nat → Bool) (buffer : List Byte)
    (hgroups : WellGrouped Tally.zero (taken true (frames newline buffer))) :
    ∀ e ∈ (process c usedInFix buffer).2, e.InCapacity := by
  by_cases hlast : buffer.getLast? = some newline
  · obtain ⟨init, rfl⟩ := getLast?_eq_some_iff.mp hlast
    obtain ⟨body, -, hrest, hframes, -⟩ := frames_closed (d := newline) init
    rw [hframes, taken_concat, ← hrest, wellGrouped_append] at hgroups
    obtain ⟨hcount, heffects⟩ := sentences_counted c (contentInit_counted c usedInFix) hgroups.1
    refine forall_inCapacity_of_map (process_closed c usedInFix init).2 ?_
    intro e he
    rcases mem_append.mp he with he | he
    · exact heffects e he
    · -- the last line, if it is taken, is the one with the end tag
      unfold closing takeLine at he
      split at he
      · rename_i htakes
        rw [if_pos htakes] at hgroups
        exact (sentence_counted c true hcount hgroups.2.1).2 e he
      · simp at he
  · obtain ⟨-, heffects⟩ := sentences_counted c (contentInit_counted c usedInFix) hgroups
    exact forall_inCapacity_of_map (process_open c usedInFix buffer hlast).2 heffects

def fiveSatellites : List Byte := "$GPGSV,2,1,5,01,,,,02,,,,03,,,,04\n$GPGSV,2,2,5,05\n".toList.map chr

/-- A group in two sentences, closed once. -/
theorem satellites_inCapacity_five :
    WellGrouped Tally.zero (taken true (frames newline fiveSatellites)) ∧
      ∀ e ∈ (process exactLibc (fun _ => false) fiveSatellites).2, e.InCapacity := by
  have hgroups : WellGrouped Tally.zero (taken true (frames newline fiveSatellites)) := by decide +kernel
  exact ⟨hgroups, satellites_inCapacity exactLibc (fun _ => false) fiveSatellites hgroups⟩

/-- The buffer of a group of four satellites whose closing sentence comes seventeen times. -/
def repeatedClose : List Byte :=
  "$GPGSV,2,1,4,01,,,,02,,,,03,,,,04\n".toList.map chr ++
    (List.replicate 17 ("$GPGSV,2,2,4\n".toList.map chr)).flatten

def Effect.reports (n : Int) : Effect D → Bool
  | .mnl2halGpsSv numSvs _ => numSvs == n
  | _ => false

/-- The satellites are added seventeen times, and the report claims 68 of them. -/
theorem satellites_overrun :
    ∃ e ∈ (process exactLibc (fun _ => false) repeatedClose).2, e.reports 68 = true ∧ ¬ e.InCapacity := by
  have hreport : ∃ e ∈ (process exactLibc (fun _ => false) repeatedClose).2, e.reports 68 = true := by
    decide +kernel
  obtain ⟨e, he, hn⟩ := hreport
  refine ⟨e, he, hn, ?_⟩
  cases e with
  | mnl2halGpsSv numSvs svList =>
    rintro ⟨-, hle, hlen⟩
    obtain rfl : numSvs = 68 := by simpa [Effect.reports] using hn
    rw [hlen] at hle
    exact absurd hle (by decide)
  | _ => simp [Effect.reports] at hn

end HuaweiY5.Nmea
