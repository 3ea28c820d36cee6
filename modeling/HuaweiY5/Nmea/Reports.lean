import HuaweiY5.Nmea.Lines

/-!
# `Nmea.Reports` — the fix and the satellites reported at the end of a buffer

What a buffer collects is reported by the last part of `nmea_reader_parse`, once `gps_nmea_end_tag` is set, that is
while the last line is parsed. But `nmea_reader_parse` returns early from a line of less than nine bytes and from
one whose id has less than five, and `nmea_reader_addc` does not call it at all for a line it passes over. With such
a line at the end of the buffer nothing is reported, and the reader with all it holds is gone:
`reports_once_iff` says that this is the only case.
-/

namespace HuaweiY5.Nmea

open List

open Codec (Byte)
open Framing

variable {D : Type} (c : Libc D)

/-! ## The reports -/

def Effect.isLocation : Effect D → Bool
  | .mnl2halLocation _ => true
  | _ => false

def Effect.isGpsSv : Effect D → Bool
  | .mnl2halGpsSv _ _ => true
  | _ => false

open Effect (isGpsSv isLocation trimmed)

/-- What the reader holds after the last sentence of a buffer: the end tag never set, so that nothing is reported
    and taken away. -/
def held (usedInFix : Nat → Bool) (buffer : List Byte) : Content D :=
  (fed c usedInFix buffer).1.content

/-- A fix to report: "2D/3D" and some of its fields set. -/
def Content.HasFix (r : Content D) : Prop := r.locFixed = true ∧ r.fix.flags ≠ 0
  deriving Decidable

/-- Each report is made once if there is something to report, and not at all otherwise. -/
def ReportsOnce (es : List (Effect D)) (r : Content D) : Prop :=
  es.countP isLocation = (if r.HasFix then 1 else 0) ∧
  es.countP isGpsSv = (if 0 < r.numSvs then 1 else 0)
  deriving Decidable

/-! ## Who reports -/

def Effect.Silent (e : Effect D) : Prop := e.isLocation = false ∧ e.isGpsSv = false

variable {es : List (Effect D)} {r : Content D}

theorem countP_silent (h : ∀ e ∈ es, e.Silent) : es.countP isLocation = 0 ∧ es.countP isGpsSv = 0 := by
  constructor
  · exact countP_eq_zero.mpr (fun e he => by simp [(h e he).1])
  · exact countP_eq_zero.mpr (fun e he => by simp [(h e he).2])

theorem countP_trimmed {es' : List (Effect D)} (h : es.map trimmed = es'.map trimmed) :
    es.countP isLocation = es'.countP isLocation ∧
      es.countP isGpsSv = es'.countP isGpsSv := by
  have hloc : (isLocation ∘ trimmed : Effect D → Bool) = isLocation := by
    funext e; cases e <;> rfl
  have hsv : (isGpsSv ∘ trimmed : Effect D → Bool) = isGpsSv := by
    funext e; cases e <;> rfl
  have hcount : ∀ p : Effect D → Bool, (es.map trimmed).countP p = (es'.map trimmed).countP p :=
    fun p => by rw [h]
  exact ⟨by simpa [hloc] using hcount isLocation, by simpa [hsv] using hcount isGpsSv⟩

theorem silent_of_isStore {e : Effect D} (h : e.isStore = true) : e.Silent := by
  cases e with
  | mnl2halLocation fix | mnl2halGpsSv numSvs svList => simp [Effect.isStore] at h
  | _ => exact ⟨rfl, rfl⟩

theorem flush_false (r : Content D) : flush false r = (r, []) := by
  simp [flush, flushLocation, flushSvs]

theorem flushLocation_hasFix (h : r.HasFix) :
    flushLocation true r =
      ({ r with fix := { r.fix with flags := 0 } }, [.mnl2halLocation r.fix, .mnldGpsUpdateLocation r.fix]) := by
  refine if_pos ?_
  rw [h.1, bne_iff_ne.mpr h.2]
  rfl

theorem flushLocation_noFix (h : ¬ r.HasFix) : flushLocation true r = (r, []) := by
  refine if_neg (fun htest => h ?_)
  rw [Bool.and_true, Bool.and_eq_true] at htest
  exact ⟨htest.1, bne_iff_ne.mp htest.2⟩

theorem flushSvs_pos (h : 0 < r.numSvs) :
    flushSvs true r =
      ({ r with svCount := 0, numSvs := 0, usedInFix := fun _ => false },
       [.mnl2halGpsSv r.numSvs r.svList, .setNumSvs 0]) := by
  have hne : (r.numSvs != 0 && true) = true := by simp only [Bool.and_true, bne_iff_ne]; omega
  rw [flushSvs, if_pos hne, if_pos h]

theorem flushSvs_nonpos (h : ¬ 0 < r.numSvs) : flushSvs true r = (r, []) := by
  unfold flushSvs
  rw [if_neg h, ite_self]

theorem flush_reportsOnce (r : Content D) : ReportsOnce (flush true r).2 r := by
  have hnum : (flushLocation true r).1.numSvs = r.numSvs := by
    by_cases hfix : r.HasFix
    · rw [flushLocation_hasFix hfix]
    · rw [flushLocation_noFix hfix]
  have hloc : (flushLocation true r).2.countP isLocation = (if r.HasFix then 1 else 0) ∧
      (flushLocation true r).2.countP isGpsSv = 0 := by
    by_cases hfix : r.HasFix
    · rw [flushLocation_hasFix hfix, if_pos hfix]
      exact ⟨rfl, rfl⟩
    · rw [flushLocation_noFix hfix, if_neg hfix]
      exact ⟨rfl, rfl⟩
  have hsv : ∀ r' : Content D, (flushSvs true r').2.countP isLocation = 0 ∧
      (flushSvs true r').2.countP isGpsSv = (if 0 < r'.numSvs then 1 else 0) := by
    intro r'
    by_cases hpos : 0 < r'.numSvs
    · rw [flushSvs_pos hpos, if_pos hpos]
      exact ⟨rfl, rfl⟩
    · rw [flushSvs_nonpos hpos, if_neg hpos]
      exact ⟨rfl, rfl⟩
  refine ⟨?_, ?_⟩
  · rw [flush, countP_append, hloc.1, (hsv _).1, Nat.add_zero]
  · rw [flush, countP_append, hloc.2, (hsv _).2, hnum, Nat.zero_add]

/-! ## A line -/

theorem silent_sentence_false (r : Content D) (line : List Byte) : ∀ e ∈ (sentence c false r line).2, e.Silent := by
  intro e he
  rcases mem_append.mp he with he | he
  · by_cases hread : Readable line
    · rw [parse_readable c hread, flush_false, append_nil] at he
      exact silent_of_isStore (isStore_dispatch c _ _ e he)
    · simp [parse_discarded c hread] at he
  · obtain rfl : e = _ := by simpa using he
    exact ⟨rfl, rfl⟩

theorem silent_framed (usedInFix : Nat → Bool) (buffer : List Byte) : ∀ e ∈ (framed c usedInFix buffer).2, e.Silent :=
  (feed_invariant (I := fun _ => True) (O := Effect.Silent) (A := fun _ => True)
    (fun r line _ _ => ⟨trivial, silent_sentence_false c r line⟩) trivial (fun _ _ => trivial)).2

/-- The last line is parsed to its end: the reader is in step there, it fits, and `nmea_reader_parse` does not
    return early. -/
def LastLineRead (inStep : Bool) (line : List Byte) : Prop :=
  takes inStep line = true ∧ Readable line
  deriving Decidable

theorem takeLine_effects {inStep : Bool} {line : List Byte} (h : LastLineRead inStep line) (r : Content D) :
    (takeLine c false inStep r line).1 = (dispatch c (tokenizerInit line) r).1 ∧
      (takeLine c true inStep r line).2 =
        (dispatch c (tokenizerInit line) r).2 ++ (flush true (dispatch c (tokenizerInit line) r).1).2 ++
          [Effect.mnl2halNmea (parse c true r line).1.fix.timestamp line line.length] := by
  obtain ⟨htakes, hread⟩ := h
  constructor
  · rw [takeLine, if_pos htakes, sentence, parse_readable c hread, flush_false]
  · rw [takeLine, if_pos htakes, sentence, parse_readable c hread]

theorem takeLine_read {inStep : Bool} {line : List Byte} (h : LastLineRead inStep line) (r : Content D) :
    ReportsOnce (takeLine c true inStep r line).2 (takeLine c false inStep r line).1 := by
  obtain ⟨hheld, heffects⟩ := takeLine_effects c h r
  have hstores := countP_silent (fun e he => silent_of_isStore (isStore_dispatch c (tokenizerInit line) r e he))
  have hflush := flush_reportsOnce (dispatch c (tokenizerInit line) r).1
  rw [hheld, heffects]
  refine ⟨?_, ?_⟩
  · rw [countP_append, countP_append, hstores.1, hflush.1]
    simp [isLocation]
  · rw [countP_append, countP_append, hstores.2, hflush.2]
    simp [isGpsSv]

theorem takeLine_unread {inStep : Bool} {line : List Byte} (h : ¬ LastLineRead inStep line) (r : Content D) :
    (takeLine c false inStep r line).1 = r ∧ ∀ e ∈ (takeLine c true inStep r line).2, e.Silent := by
  unfold takeLine
  by_cases htakes : takes inStep line = true
  · have hread : ¬ Readable line := fun hread => h ⟨htakes, hread⟩
    rw [if_pos htakes, if_pos htakes, sentence, sentence, parse_discarded c hread, parse_discarded c hread]
    refine ⟨rfl, ?_⟩
    intro e he
    obtain rfl : e = _ := by simpa using he
    exact ⟨rfl, rfl⟩
  · rw [if_neg htakes, if_neg htakes]
    exact ⟨rfl, by simp⟩

/-! ## A buffer -/

theorem reportsOnce_silent (h : ∀ e ∈ es, e.Silent) (r : Content D) :
    ReportsOnce es r ↔ ¬ r.HasFix ∧ ¬ 0 < r.numSvs := by
  unfold ReportsOnce
  rw [(countP_silent h).1, (countP_silent h).2]
  refine and_congr ?_ ?_
  · by_cases hfix : r.HasFix <;> simp
  · by_cases hpos : 0 < r.numSvs <;> simp

variable (usedInFix : Nat → Bool) (buffer : List Byte)

theorem held_eq :
    held c usedInFix buffer = (framed c usedInFix buffer).1 := by
  obtain ⟨r, hline, -, hcontent, hstate, -⟩ := feed_addc_init c usedInFix buffer
  obtain ⟨body, hbody, hrest, -, -⟩ := frames_closed (d := newline) buffer
  obtain ⟨-, hsame, -⟩ := addc_line c false r hline (rest newline buffer) (hrest ▸ hbody)
  rw [held, hstate, hsame, hcontent]

theorem held_closed :
    held c usedInFix (buffer ++ [newline]) =
      (takeLine c false (inStepAfter true (frames newline buffer)) (held c usedInFix buffer)
        (rest newline buffer ++ [newline])).1 := by
  rw [held_eq c usedInFix buffer, ← closing, ← (addc_closed c false usedInFix buffer).1, held, fed, feed_append,
    feed_singleton, fed]

theorem process_reportsOnce (r : Content D) :
    ReportsOnce (process c usedInFix (buffer ++ [newline])).2 r ↔
      ReportsOnce (takeLine c true (inStepAfter true (frames newline buffer)) (held c usedInFix buffer)
        (rest newline buffer ++ [newline])).2 r := by
  obtain ⟨hloc, hsv⟩ := countP_trimmed (process_closed c usedInFix buffer).2
  have hsilent := countP_silent (silent_framed c usedInFix buffer)
  rw [countP_append, hsilent.1, Nat.zero_add] at hloc
  rw [countP_append, hsilent.2, Nat.zero_add] at hsv
  unfold ReportsOnce
  rw [hloc, hsv, held_eq, closing]

/-- **The reports are made as they should be exactly when the last line is parsed to its end, or there is nothing
    to report when it comes.** -/
theorem reports_once_iff (usedInFix : Nat → Bool) (buffer : List Byte) :
    ReportsOnce (process c usedInFix (buffer ++ [newline])).2 (held c usedInFix (buffer ++ [newline])) ↔
      LastLineRead (inStepAfter true (frames newline buffer)) (rest newline buffer ++ [newline]) ∨
        (¬ (held c usedInFix buffer).HasFix ∧ ¬ 0 < (held c usedInFix buffer).numSvs) := by
  rw [process_reportsOnce, held_closed]
  by_cases hread : LastLineRead (inStepAfter true (frames newline buffer)) (rest newline buffer ++ [newline])
  · exact iff_of_true (takeLine_read c hread _) (.inl hread)
  · obtain ⟨hsame, hnone⟩ := takeLine_unread c hread (held c usedInFix buffer)
    rw [hsame, reportsOnce_silent hnone]
    exact ⟨.inr, fun h => h.resolve_left hread⟩

/-- A 3D fix with an altitude, and a blank line behind it. -/
def fixThenBlank : List Byte := "$GPGSA,A,3,01\n$GPGGA,000000,,,,,,,,10\n\n".toList.map chr

/-- The fix is held, and it is not reported. -/
theorem report_lost :
    (held exactLibc (fun _ => false) fixThenBlank).HasFix ∧
      ¬ ReportsOnce (process exactLibc (fun _ => false) fixThenBlank).2
          (held exactLibc (fun _ => false) fixThenBlank) := by
  decide +kernel

end HuaweiY5.Nmea
