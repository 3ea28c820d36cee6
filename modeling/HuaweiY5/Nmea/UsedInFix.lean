import HuaweiY5.Nmea.Reports

/-!
# `Nmea.UsedInFix` — what one buffer leaves for the next

`mtk_mnl_nmea_parser_process` makes a reader of its own for every buffer; only `gnss_sv_used_in_fix` is static. It
is filled by GSA sentences and cleared where the satellites are reported, so a buffer that has GSA sentences and
reports no satellites leaves its marks to the buffers after it, and these report satellites as used in a fix that
they have nothing of. `svReports_independent_iff` says how much of a history the reports of a buffer can tell.
-/

namespace HuaweiY5.Nmea

open List

open Codec (Byte)
open Framing

variable {D : Type} (c : Libc D)

/-! ## Histories -/

/-- The buffers processed so far, each with the readings of the clock while it was. -/
abbrev History : Type := List ((Nat → Clock) × List Byte)

/-- What a buffer leaves of `gnss_sv_used_in_fix`. -/
def usedAfterBuffer (usedInFix : Nat → Bool) (b : (Nat → Clock) × List Byte) : Nat → Bool :=
  (process { c with clock := b.1 } usedInFix b.2).1.content.usedInFix

/-- `gnss_sv_used_in_fix` after a history. -/
def usedAfter (history : History) : Nat → Bool := history.foldl (usedAfterBuffer c) (fun _ => false)

/-- The arguments of a call of `mnl2hal_gps_sv`; the flags of the entries say which are used in the fix. -/
def Effect.svReport? : Effect D → Option (Int × List (GnssSv D))
  | .mnl2halGpsSv numSvs svList => some (numSvs, svList)
  | _ => none

/-- The calls of `mnl2hal_gps_sv` while a buffer is processed. -/
def svReports (usedInFix : Nat → Bool) (buffer : List Byte) : List (Int × List (GnssSv D)) :=
  (process c usedInFix buffer).2.filterMap Effect.svReport?

/-- An RMC sentence whose date `nmea_reader_update_date` takes. -/
def IsDated (line : List Byte) : Prop :=
  let tzer := tokenizerInit line
  let date := (tokenizerGet tzer 9).text
  Readable line ∧ sentenceId (tokenizerGet tzer 0) = .rmc ∧ (tokenizerGet tzer 2).head = chr 'A' ∧
    date.length = 6 ∧ 0 ≤ str2int (date.take 2) ∧ 0 ≤ str2int ((date.drop 2).take 2) ∧ 0 ≤ str2int (date.drop 4)
  deriving Decidable

def CarriesDate (buffer : List Byte) : Prop := ∃ line ∈ taken true (frames newline buffer), IsDated line
  deriving Decidable

/-! ## Tables that no report tells apart -/

/-- The two tables agree on every id that `nmea_reader_update_sv_status` can store. -/
def SameUsed (used used' : Nat → Bool) : Prop :=
  ∀ id : Int, constellationOf id ≠ none → used id.toNat = used' id.toNat

theorem SameUsed.refl (used : Nat → Bool) : SameUsed used used := fun _ _ => rfl

/-- The same contents but for the table, and there the same where it counts. -/
def Alike (r r' : Content D) : Prop := ∃ used', SameUsed r.usedInFix used' ∧ r' = { r with usedInFix := used' }

/-- The same, for two results of a part of the parser that has done the same. -/
abbrev AlikeIn (p p' : Content D × List (Effect D)) : Prop := Alike p.1 p'.1 ∧ p.2 = p'.2

variable {c}

variable {r r' : Content D} {used used' : Nat → Bool} {id : Nat} {constellation : SvType}

theorem Detached.alike {f : Content D → Content D} (hf : Detached f) (h : Alike r r') : Alike (f r) (f r') := by
  obtain ⟨used', hused, rfl⟩ := h
  have hsats := hf.sats_eq r
  have hset : f { r with usedInFix := used' } = (f r).withSats { r.sats with usedInFix := used' } :=
    hf r { r.sats with usedInFix := used' }
  refine ⟨used', ?_, ?_⟩
  · rw [show (f r).usedInFix = r.usedInFix from congrArg Sats.usedInFix hsats]
    exact hused
  · rw [hset, ← hsats]
    rfl

/-! ## Sentences -/

theorem Alike.locFixed (h : Alike r r') : r'.locFixed = r.locFixed := by
  obtain ⟨_, -, rfl⟩ := h
  rfl

theorem SameUsed.markUsed (h : SameUsed used used') (id : Int) : SameUsed (markUsed used id) (markUsed used' id) := by
  unfold Nmea.markUsed
  split
  · intro i hi
    show (i.toNat == id.toNat || used i.toNat) = (i.toNat == id.toNat || used' i.toNat)
    rw [h i hi]
  · exact h

theorem SameUsed.foldl_markUsed (h : SameUsed used used') (ids : List Int) :
    SameUsed (ids.foldl Nmea.markUsed used) (ids.foldl Nmea.markUsed used') := by
  induction ids generalizing used used' with
  | nil => exact h
  | cons id ids ih => exact ih (h.markUsed id)

variable (endTag : Bool) (svType : SvType) (tzer : List Token)

theorem Alike.parseGsa (h : Alike r r') : Alike (parseGsa svType tzer r) (parseGsa svType tzer r') := by
  obtain ⟨used', hused, rfl⟩ := h
  have hmode : Alike { r with fixMode := str2int (tokenizerGet tzer 2).text }
      { r with fixMode := str2int (tokenizerGet tzer 2).text, usedInFix := used' } := ⟨used', hused, rfl⟩
  unfold Nmea.parseGsa
  dsimp only
  rw [hmode.locFixed]
  split
  · exact ⟨_, hused.foldl_markUsed _, rfl⟩
  · exact hmode

theorem Alike.updateSvStatus (prn : Int) (elevation azimuth snr : Token) (h : Alike r r') :
    AlikeIn (updateSvStatus c prn elevation azimuth snr r) (updateSvStatus c prn elevation azimuth snr r') := by
  obtain ⟨used', hused, rfl⟩ := h
  unfold Nmea.updateSvStatus
  dsimp only
  split
  · exact ⟨⟨used', hused, rfl⟩, rfl⟩
  · cases hprn : constellationOf prn with
    | none => exact ⟨⟨used', hused, rfl⟩, rfl⟩
    | some sv =>
      have hsame := hused prn (by rw [hprn]; exact Option.some_ne_none _)
      rw [hsame]
      exact ⟨⟨used', hused, rfl⟩, rfl⟩

theorem Alike.gsvSatellite (idx : Nat) (h : Alike r r') :
    AlikeIn (gsvSatellite c svType tzer r idx) (gsvSatellite c svType tzer r' idx) := by
  have hcount : r'.svCount = r.svCount := by
    obtain ⟨_, -, rfl⟩ := h
    rfl
  unfold Nmea.gsvSatellite
  dsimp only
  rw [hcount]
  refine ⟨(h.updateSvStatus _ _ _ _).1, ?_⟩
  rw [(h.updateSvStatus _ _ _ _).2]

theorem Alike.gsvOpen (header : GsvHeader) (h : Alike r r') : Alike (gsvOpen header r) (gsvOpen header r') := by
  obtain ⟨used', hused, rfl⟩ := h
  unfold Nmea.gsvOpen
  split <;> exact ⟨used', hused, rfl⟩

theorem Alike.gsvClose (header : GsvHeader) (h : Alike r r') : AlikeIn (gsvClose header r) (gsvClose header r') := by
  obtain ⟨used', hused, rfl⟩ := h
  unfold Nmea.gsvClose
  split
  · split <;> exact ⟨⟨used', hused, rfl⟩, rfl⟩
  · exact ⟨⟨used', hused, rfl⟩, rfl⟩

theorem Alike.parseGsv (h : Alike r r') : AlikeIn (parseGsv c svType tzer r) (parseGsv c svType tzer r') := by
  obtain ⟨hsvs, hout⟩ := feed_lockstep (R := Alike) (fun r r' idx h => h.gsvSatellite (c := c) svType tzer idx)
    (h.gsvOpen (gsvHeader tzer)) (List.range (gsvHeader tzer).svNum)
  obtain ⟨hclose, houtClose⟩ := hsvs.gsvClose (gsvHeader tzer)
  refine ⟨hclose, ?_⟩
  unfold Nmea.parseGsv
  dsimp only
  rw [hout, houtClose]

theorem Alike.dispatch (h : Alike r r') : AlikeIn (dispatch c tzer r) (dispatch c tzer r') := by
  cases hid : sentenceId (tokenizerGet tzer 0) with
  | gsv =>
    rw [dispatch_gsv c hid, dispatch_gsv c hid]
    exact h.parseGsv _ _
  | gga =>
    simp only [Nmea.dispatch, hid]
    exact ⟨(detached_parseGga c tzer).alike h, rfl⟩
  | gsa =>
    simp only [Nmea.dispatch, hid]
    exact ⟨h.parseGsa _ _, rfl⟩
  | rmc =>
    simp only [Nmea.dispatch, hid]
    exact ⟨(detached_parseRmc c tzer).alike h, rfl⟩
  | accuracy =>
    simp only [Nmea.dispatch, hid]
    exact ⟨(detached_accuracy c tzer).alike h, rfl⟩
  | unknown =>
    simp only [Nmea.dispatch, hid]
    exact ⟨h, rfl⟩

theorem Alike.flushLocation (h : Alike r r') : AlikeIn (flushLocation endTag r) (flushLocation endTag r') := by
  have hfixed := h.locFixed
  obtain ⟨used', hused, rfl⟩ := h
  unfold Nmea.flushLocation
  rw [hfixed]
  split <;> exact ⟨⟨used', hused, rfl⟩, rfl⟩

theorem Alike.flushSvs (h : Alike r r') : AlikeIn (flushSvs endTag r) (flushSvs endTag r') := by
  obtain ⟨used', hused, rfl⟩ := h
  unfold Nmea.flushSvs
  split
  · split
    · exact ⟨⟨_, SameUsed.refl _, rfl⟩, rfl⟩
    · exact ⟨⟨used', hused, rfl⟩, rfl⟩
  · exact ⟨⟨used', hused, rfl⟩, rfl⟩

theorem Alike.flush (h : Alike r r') : AlikeIn (flush endTag r) (flush endTag r') := by
  obtain ⟨hlocation, houtLocation⟩ := h.flushLocation endTag
  obtain ⟨hsvs, houtSvs⟩ := hlocation.flushSvs endTag
  unfold Nmea.flush
  rw [houtLocation, houtSvs]
  exact ⟨hsvs, rfl⟩

theorem Alike.parse (line : List Byte) (h : Alike r r') :
    AlikeIn (parse c endTag r line) (parse c endTag r' line) := by
  by_cases hread : Readable line
  · obtain ⟨hdispatch, hout⟩ := h.dispatch (c := c) (tokenizerInit line)
    obtain ⟨hflush, houtFlush⟩ := hdispatch.flush endTag
    rw [parse_readable c hread, parse_readable c hread]
    rw [hout, houtFlush]
    exact ⟨hflush, rfl⟩
  · rw [parse_discarded c hread, parse_discarded c hread]
    exact ⟨h, rfl⟩

/-! ## Buffers -/

def AlikeReaders (r r' : NmeaReader D) : Prop := r.frame = r'.frame ∧ Alike r.content r'.content

theorem AlikeReaders.addc (b : Byte) {r r' : NmeaReader D} (h : AlikeReaders r r') :
    AlikeReaders (addc c endTag r b).1 (addc c endTag r' b).1 ∧ (addc c endTag r b).2 = (addc c endTag r' b).2 := by
  obtain ⟨hframe, hcontent⟩ := h
  unfold Nmea.addc
  rw [← hframe]
  split
  · exact ⟨⟨rfl, hcontent⟩, rfl⟩
  · split
    · exact ⟨⟨rfl, hcontent⟩, rfl⟩
    · dsimp only
      split
      · obtain ⟨hparse, hout⟩ := hcontent.parse (c := c) endTag (r.frame.push b).line
        have htime : (Nmea.parse c endTag r'.content (r.frame.push b).line).1.fix =
            (Nmea.parse c endTag r.content (r.frame.push b).line).1.fix := by
          obtain ⟨_, -, heq⟩ := hparse
          rw [heq]
        refine ⟨⟨rfl, hparse⟩, ?_⟩
        rw [hout, htime]
      · exact ⟨⟨rfl, hcontent⟩, rfl⟩

/-- **What a buffer does is the same for two tables that agree on the ids that can be stored.** -/
theorem process_sameUsed (h : SameUsed used used') (buffer : List Byte) :
    (process c used buffer).2 = (process c used' buffer).2 := by
  have hinit : AlikeReaders (readerInit c used) (readerInit c used') := ⟨rfl, used', h, rfl⟩
  unfold process
  cases buffer.getLast? with
  | none => rfl
  | some b =>
    obtain ⟨hfeed, hout⟩ := feed_lockstep (R := AlikeReaders) (fun _ _ b h => h.addc (c := c) false b) hinit
      buffer.dropLast
    dsimp only
    rw [hout, (hfeed.addc true b).2]

/-! ## The report of a buffer -/

theorem svReport?_silent {e : Effect D} (h : e.Silent) : e.svReport? = none := by
  cases e with
  | mnl2halGpsSv numSvs svList => exact absurd h.2 (by simp [Effect.isGpsSv])
  | _ => rfl

theorem filterMap_svReport?_silent {es : List (Effect D)} (h : ∀ e ∈ es, e.Silent) :
    es.filterMap Effect.svReport? = [] :=
  filterMap_eq_nil_iff.mpr (fun e he => svReport?_silent (h e he))

theorem filterMap_svReport?_trimmed (es : List (Effect D)) :
    (es.map Effect.trimmed).filterMap Effect.svReport? = es.filterMap Effect.svReport? := by
  rw [filterMap_map]
  congr 1
  funext e
  cases e <;> rfl

/-- What `mnl2hal_gps_sv` is told of a content. -/
def Content.svReport (r : Content D) : List (Int × List (GnssSv D)) :=
  if 0 < r.numSvs then [(r.numSvs, r.svList)] else []

theorem flush_svReport (r : Content D) : (flush true r).2.filterMap Effect.svReport? = r.svReport := by
  have hsvs : (flushLocation true r).1.sats = r.sats ∧ ∀ e ∈ (flushLocation true r).2, e.svReport? = none := by
    by_cases hfix : r.HasFix
    · rw [flushLocation_hasFix hfix]
      exact ⟨rfl, by simp [Effect.svReport?]⟩
    · rw [flushLocation_noFix hfix]
      exact ⟨rfl, by simp⟩
  have hnum := congrArg Sats.numSvs hsvs.1
  have hlist := congrArg Sats.svList hsvs.1
  dsimp only [Content.sats] at hnum hlist
  rw [flush, filterMap_append, filterMap_eq_nil_iff.mpr hsvs.2, nil_append, Content.svReport, ← hnum, ← hlist]
  by_cases hpos : 0 < (flushLocation true r).1.numSvs
  · rw [flushSvs_pos hpos, if_pos hpos]
    rfl
  · rw [flushSvs_nonpos hpos, if_neg hpos]
    rfl

variable (c)

variable (usedInFix : Nat → Bool) {buffer : List Byte}

/-- **The report of a buffer whose last line is parsed to its end.** -/
theorem svReports_read (h : LastLineRead (inStepAfter true (frames newline buffer)) (rest newline buffer ++ [newline])) :
    svReports c usedInFix (buffer ++ [newline]) = (held c usedInFix (buffer ++ [newline])).svReport := by
  rw [svReports, ← filterMap_svReport?_trimmed, (process_closed c usedInFix buffer).2, filterMap_svReport?_trimmed,
    filterMap_append, filterMap_svReport?_silent (silent_framed c _ _), nil_append, closing, ← held_eq,
    held_closed]
  obtain ⟨hheld, heffects⟩ := takeLine_effects c h (held c usedInFix buffer)
  rw [hheld, heffects, filterMap_append, filterMap_append, flush_svReport,
    filterMap_svReport?_silent (fun e he => silent_of_isStore (isStore_dispatch c _ _ e he))]
  simp [Effect.svReport?]

/-! ## A buffer that tells the tables apart -/

def probeHead : List Byte := "$GPRMC,000000,A,,,,,,,010116\n".toList.map chr

def digit (n : Nat) : Byte := BitVec.ofNat 8 (48 + n)

def digits (id : Nat) : List Byte := [digit (id / 100), digit (id / 10 % 10), digit (id % 10)]

def probeLine (id : Nat) : List Byte := "$GPGSV,1,1,1,".toList.map chr ++ digits id

def probe (id : Nat) : List Byte := probeHead ++ probeLine id

theorem digit_ne : ∀ n < 10, digit n ≠ newline ∧ digit n ≠ chr ',' ∧ digit n ≠ chr '\r' ∧ digit n ≠ chr '*' := by
  decide

theorem str2intLoop_digit {acc n : Nat} (hn : n < 10) (hfit : acc < 1000) (cs : List Byte) :
    str2intLoop 1 acc (digit n :: cs) = str2intLoop 1 ((acc * 10 + n : Nat) : Int) cs := by
  have hval : ∀ n < 10, (digit n).toNat = 48 + n := by decide
  have hsum : int32 ((acc : Int) * 10 + (((48 + n : Nat) : Int) - 48)) = ((acc * 10 + n : Nat) : Int) := by
    rw [int32_of_bounds (by omega) (by omega)]
    omega
  rw [str2intLoop, hval n hn, if_pos (by omega), hsum]

theorem str2int_digits (h : id < 1000) : str2int (digits id) = id := by
  have hsign : ∀ n < 10, digit n ≠ chr '-' := by decide
  have hdigit : digit (id / 100) ≠ chr '-' := hsign _ (by omega)
  have hhead : (digits id).head? ≠ some (chr '-') := fun heq => hdigit (Option.some.inj heq)
  rw [str2int, if_neg hhead, digits]
  rw [show (0 : Int) = ((0 : Nat) : Int) from rfl, str2intLoop_digit (by omega) (by omega),
    str2intLoop_digit (by omega) (by omega), str2intLoop_digit (by omega) (by omega), str2intLoop,
    int32_of_bounds (by omega) (by omega)]
  omega

theorem newline_not_mem_probeLine (h : id < 1000) : newline ∉ probeLine id := by
  have hhead : newline ∉ "$GPGSV,1,1,1,".toList.map chr := by decide
  have h2 := (digit_ne (id / 100) (by omega)).1
  have h1 := (digit_ne (id / 10 % 10) (by omega)).1
  have h0 := (digit_ne (id % 10) (by omega)).1
  intro hmem
  rcases mem_append.mp hmem with hmem | hmem
  · exact hhead hmem
  · rw [digits, mem_cons, mem_cons, mem_singleton] at hmem
    rcases hmem with heq | heq | heq
    · exact h2 heq.symm
    · exact h1 heq.symm
    · exact h0 heq.symm

theorem frames_probe (h : id < 1000) :
    frames newline (probe id) = [probeHead] ∧ rest newline (probe id) = probeLine id := by
  have hhead : newline ∉ probeHead.dropLast := by decide
  have hsplit : probe id = probeHead.dropLast ++ newline :: probeLine id := by
    rfl
  rw [hsplit, frames_frame _ hhead, rest_frame _ hhead, frames_open (newline_not_mem_probeLine h),
    rest_open (newline_not_mem_probeLine h)]
  exact ⟨by decide, rfl⟩

theorem tokenizerInit_gsv {a b d : Byte} (ha : a ≠ chr ',') (ha' : a ≠ chr '*') (hb : b ≠ chr ',') (hd : d ≠ chr ',')
    (hd' : d ≠ chr '\r') :
    tokenizerInit ("$GPGSV,1,1,1,".toList.map chr ++ [a, b, d] ++ [newline]) =
      [⟨"GPGSV".toList.map chr, chr 'G'⟩, ⟨[chr '1'], chr '1'⟩, ⟨[chr '1'], chr '1'⟩, ⟨[chr '1'], chr '1'⟩,
        ⟨[a, b, d], a⟩] := by
  have htrim : trim ("$GPGSV,1,1,1,".toList.map chr ++ [a, b, d] ++ [newline]) =
      "GPGSV,1,1,1,".toList.map chr ++ [a, b, d] := by
    simp +decide [trim, ha', hd']
  rw [tokenizerInit, htrim]
  simp +decide [tokens, ha, hb, hd, List.takeWhile, List.dropWhile, maxNmeaTokens]

theorem tokenizerInit_probeLine (h : id < 1000) :
    tokenizerInit (probeLine id ++ [newline]) =
      [⟨"GPGSV".toList.map chr, chr 'G'⟩, ⟨[chr '1'], chr '1'⟩, ⟨[chr '1'], chr '1'⟩, ⟨[chr '1'], chr '1'⟩,
        ⟨digits id, digit (id / 100)⟩] := by
  obtain ⟨-, ha, -, ha'⟩ := digit_ne (id / 100) (by omega)
  obtain ⟨-, hb, -, -⟩ := digit_ne (id / 10 % 10) (by omega)
  obtain ⟨-, hd, hd', -⟩ := digit_ne (id % 10) (by omega)
  exact tokenizerInit_gsv ha ha' hb hd hd'

theorem readable_probeLine (h : id < 1000) : Readable (probeLine id ++ [newline]) := by
  rw [Readable, tokenizerInit_probeLine h]
  exact ⟨Nat.le_of_ble_eq_true rfl, Nat.le_of_ble_eq_true rfl⟩

theorem lastLineRead_probe (h : id < 1000) :
    LastLineRead (inStepAfter true (frames newline (probe id))) (rest newline (probe id) ++ [newline]) := by
  have hstep : inStepAfter true [probeHead] = true := by decide
  have hlength : (probeLine id ++ [newline]).length ≤ nmeaMaxSize := Nat.le_of_ble_eq_true rfl
  rw [(frames_probe h).1, (frames_probe h).2, hstep]
  exact ⟨by rw [takes, Bool.true_and, decide_eq_true hlength], readable_probeLine h⟩

theorem dispatch_probeLine (h : id < 1000) {svid : Int} (hid : constellationOf id = some (svid, constellation))
    (hnum : r.numSvs = 0) :
    (dispatch c (tokenizerInit (probeLine id ++ [newline])) r).1.numSvs = 1 ∧
      (dispatch c (tokenizerInit (probeLine id ++ [newline])) r).1.svList =
        modifyAt r.svList 0 (storeSv c svid constellation (r.usedInFix id) ⟨[], 0⟩ ⟨[], 0⟩ ⟨[], 0⟩) := by
  have hint := str2int_digits h
  rw [tokenizerInit_probeLine h]
  generalize digits id = text at hint ⊢
  generalize digit (id / 100) = head
  rw [dispatch_gsv c rfl]
  have hheader : gsvHeader [⟨"GPGSV".toList.map chr, chr 'G'⟩, ⟨[chr '1'], chr '1'⟩, ⟨[chr '1'], chr '1'⟩,
      ⟨[chr '1'], chr '1'⟩, ⟨text, head⟩] = ⟨1, 1, 1⟩ := rfl
  have htalker : svTypeOf ((tokenizerGet [⟨"GPGSV".toList.map chr, chr 'G'⟩, ⟨[chr '1'], chr '1'⟩,
      ⟨[chr '1'], chr '1'⟩, ⟨[chr '1'], chr '1'⟩, ⟨text, head⟩] 0).text.take 2) = .gps := rfl
  have hsvNum : (⟨1, 1, 1⟩ : GsvHeader).svNum = 1 := by decide
  have hsat : updateSvStatus c (id : Int) ⟨[], 0⟩ ⟨[], 0⟩ ⟨[], 0⟩ { r with svCount := 0 } =
      ({ r with
        svList := modifyAt r.svList 0 (storeSv c svid constellation (r.usedInFix id) ⟨[], 0⟩ ⟨[], 0⟩ ⟨[], 0⟩)
        svCount := 1 }, [.setSv 0]) := by
    rw [updateSvStatus, hnum, hid]
    rfl
  have hopen : gsvOpen ⟨1, 1, 1⟩ r = { r with svCount := 0 } := rfl
  rw [htalker]
  unfold parseGsv
  dsimp only
  rw [hheader, hsvNum, hopen, range_one, feed_singleton]
  have hpass : (gsvSatellite c .gps [⟨"GPGSV".toList.map chr, chr 'G'⟩, ⟨[chr '1'], chr '1'⟩, ⟨[chr '1'], chr '1'⟩,
      ⟨[chr '1'], chr '1'⟩, ⟨text, head⟩] { r with svCount := 0 } 0).1 =
      { r with
        svList := modifyAt r.svList 0 (storeSv c svid constellation (r.usedInFix id) ⟨[], 0⟩ ⟨[], 0⟩ ⟨[], 0⟩)
        svCount := 1 } := by
    show (updateSvStatus c (str2int text) ⟨[], 0⟩ ⟨[], 0⟩ ⟨[], 0⟩ { r with svCount := 0 }).1 = _
    rw [hint, hsat]
  rw [hpass]
  refine ⟨?_, rfl⟩
  rw [hnum]
  rfl

theorem takeLines_probeHead (r : Content D) : (takeLines c true r [probeHead]).1.sats = r.sats := by
  have hread : LastLineRead true probeHead := by decide
  have hline : (takeLines c true r [probeHead]).1 = (takeLine c false true r probeHead).1 := by
    rfl
  rw [hline, (takeLine_effects c hread r).1]
  exact (detached_parseRmc c _).sats_eq r

theorem held_probe (h : id < 1000) {svid : Int}
    (hid : constellationOf id = some (svid, constellation)) :
    (held c usedInFix (probe id ++ [newline])).svReport =
      [(1, modifyAt (List.replicate gnssMaxSvs (zeroSv c)) 0
        (storeSv c svid constellation (usedInFix id) ⟨[], 0⟩ ⟨[], 0⟩ ⟨[], 0⟩))] := by
  have hhead : (held c usedInFix (probe id)).sats = ⟨0, 0, List.replicate gnssMaxSvs (zeroSv c), usedInFix⟩ := by
    rw [held_eq, framed, (frames_probe h).1, takeLines_probeHead]
    rfl
  rw [held_closed, (takeLine_effects c (lastLineRead_probe h) _).1, (frames_probe h).2]
  generalize held c usedInFix (probe id) = r at hhead ⊢
  have hnum : r.numSvs = 0 := congrArg Sats.numSvs hhead
  have hlist : r.svList = List.replicate gnssMaxSvs (zeroSv c) := congrArg Sats.svList hhead
  have hused : r.usedInFix = usedInFix := congrArg Sats.usedInFix hhead
  obtain ⟨hone, hsv⟩ := dispatch_probeLine c h hid hnum
  rw [Content.svReport, hone, hsv, hlist, hused]
  rfl

theorem svReports_probe (h : id < 1000) {svid : Int}
    (hid : constellationOf id = some (svid, constellation)) :
    svReports c usedInFix (probe id ++ [newline]) =
      [(1, modifyAt (List.replicate gnssMaxSvs (zeroSv c)) 0
        (storeSv c svid constellation (usedInFix id) ⟨[], 0⟩ ⟨[], 0⟩ ⟨[], 0⟩))] := by
  rw [← held_probe c usedInFix h hid]
  exact svReports_read c usedInFix (lastLineRead_probe h)

theorem carriesDate_probe (id : Nat) : CarriesDate (probe id ++ [newline]) := by
  refine ⟨probeHead, ?_, by decide⟩
  exact mem_cons_self

theorem flags_probe (svid : Int) (constellation : SvType) (used : Bool) :
    (modifyAt (List.replicate gnssMaxSvs (zeroSv c)) 0
        (storeSv c svid constellation used ⟨[], 0⟩ ⟨[], 0⟩ ⟨[], 0⟩)).head?.map GnssSv.flags =
      some (if used then 0x04 else 0x00) := by
  cases used <;> simp [modifyAt, gnssMaxSvs, storeSv, zeroSv]

theorem probe_tells (h : id < 1000) (hid : constellationOf id ≠ none)
    (hsame : svReports c used (probe id ++ [newline]) = svReports c used' (probe id ++ [newline])) :
    used id = used' id := by
  obtain ⟨⟨svid, constellation⟩, hsome⟩ := Option.ne_none_iff_exists'.mp hid
  rw [svReports_probe c used h hsome, svReports_probe c used' h hsome] at hsame
  have hlist := congrArg Prod.snd (List.cons.inj hsame).1
  have hflags := congrArg (fun l => l.head?.map GnssSv.flags) hlist
  rw [flags_probe, flags_probe] at hflags
  revert hflags
  cases used id <;> cases used' id <;> decide

/-! ## Independence -/

theorem constellationOf_bounds {id : Int} (h : constellationOf id ≠ none) : 0 < id ∧ id < 1000 := by
  unfold constellationOf at h
  split at h
  · omega
  · split at h
    · omega
    · split at h
      · omega
      · split at h
        · omega
        · exact absurd rfl h

/-- **Two histories are told apart by some buffer with its own date exactly when they leave different marks on an id
    that can be stored.** -/
theorem svReports_independent_iff (history history' : History) :
    (∀ buffer, CarriesDate buffer →
        svReports c (usedAfter c history) buffer = svReports c (usedAfter c history') buffer) ↔
      SameUsed (usedAfter c history) (usedAfter c history') := by
  constructor
  · intro hsame id hid
    obtain ⟨hpos, hlt⟩ := constellationOf_bounds hid
    obtain ⟨n, rfl⟩ := Int.eq_ofNat_of_zero_le (Int.le_of_lt hpos)
    have hn : n < 1000 := by omega
    exact probe_tells c hn hid (hsame _ (carriesDate_probe n))
  · intro hsame buffer _
    rw [svReports, svReports, process_sameUsed hsame]

/-! ## Histories that leave no mark -/

theorem flush_usedInFix (endTag : Bool) (r : Content D) :
    (flush endTag r).1.usedInFix = (if endTag ∧ 0 < r.numSvs then fun _ => false else r.usedInFix) := by
  cases endTag with
  | false => rw [flush_false, if_neg (by simp)]
  | true =>
    have hloc : (flushLocation true r).1.sats = r.sats := by
      by_cases hfix : r.HasFix
      · rw [flushLocation_hasFix hfix]; rfl
      · rw [flushLocation_noFix hfix]
    have hnum : (flushLocation true r).1.numSvs = r.numSvs := congrArg Sats.numSvs hloc
    have hused : (flushLocation true r).1.usedInFix = r.usedInFix := congrArg Sats.usedInFix hloc
    unfold flush
    by_cases hpos : 0 < r.numSvs
    · rw [flushSvs_pos (hnum ▸ hpos), if_pos ⟨rfl, hpos⟩]
    · rw [flushSvs_nonpos (hnum ▸ hpos), if_neg (fun h => hpos h.2), hused]

/-- A buffer that reports satellites clears the table. -/
theorem process_reported (h : svReports c used buffer ≠ []) :
    (process c used buffer).1.content.usedInFix = fun _ => false := by
  by_cases hlast : buffer.getLast? = some newline
  · obtain ⟨init, rfl⟩ := getLast?_eq_some_iff.mp hlast
    by_cases hread : LastLineRead (inStepAfter true (frames newline init)) (rest newline init ++ [newline])
    · rw [svReports_read c used hread, held_closed, held_eq, (takeLine_effects c hread _).1] at h
      rw [(process_closed c used init).1, closing, takeLine, if_pos hread.1, sentence, parse_readable c hread.2,
        flush_usedInFix, if_pos ⟨rfl, Decidable.of_not_not fun hnum => h (if_neg hnum)⟩]
    · refine absurd ?_ h
      rw [svReports, ← filterMap_svReport?_trimmed, (process_closed c used init).2, filterMap_svReport?_trimmed,
        filterMap_append, filterMap_svReport?_silent (silent_framed c _ _), closing,
        filterMap_svReport?_silent (takeLine_unread c hread _).2, nil_append]
  · refine absurd ?_ h
    rw [svReports, ← filterMap_svReport?_trimmed, (process_open c used buffer hlast).2, filterMap_svReport?_trimmed,
      filterMap_svReport?_silent (silent_framed c _ _)]

/-- **A history leaves no mark if its last buffer reports satellites**, so that by `process_sameUsed` no buffer tells
    two such histories apart. -/
theorem usedAfter_clean (history : History) (b : (Nat → Clock) × List Byte)
    (h : svReports { c with clock := b.1 } (usedAfter c history) b.2 ≠ []) :
    usedAfter c (history ++ [b]) = fun _ => false := by
  have hstep : usedAfter c (history ++ [b]) = usedAfterBuffer c (usedAfter c history) b := foldl_append
  rw [hstep]
  exact process_reported _ h

/-- A fix with one satellite and no satellite in view, and then a buffer that has the satellite in view. -/
def markedOnly : List Byte := "$GPGSA,A,3,05\n".toList.map chr

/-- Without that history the satellite is not used in the fix. -/
theorem svReports_dependent :
    CarriesDate (probe 5 ++ [newline]) ∧
      svReports exactLibc (usedAfter exactLibc [(exactLibc.clock, markedOnly)]) (probe 5 ++ [newline]) ≠
        svReports exactLibc (usedAfter exactLibc []) (probe 5 ++ [newline]) := by
  decide +kernel

end HuaweiY5.Nmea
