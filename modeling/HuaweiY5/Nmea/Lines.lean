import HuaweiY5.Nmea.Reader

/-!
# `Nmea.Lines` — from bytes to sentences

`nmea_reader_addc` has a buffer for 255 bytes, a position in it and an overflow flag. One level up a buffer of text
is a list of lines, and the reader takes some of them and passes over the others: `process_closed` and
`process_open` say which, and that everything the parser does is what the sentence-level machine `sentence` does on
the lines taken.
-/

namespace HuaweiY5.Nmea

open List

open Codec (Byte)
open Framing

variable {D : Type} (c : Libc D)

/-! ## The sentence-level machine -/

variable (inStep : Bool) (endTag : Bool) (r : NmeaReader D) (usedInFix : Nat → Bool) (buffer : List Byte)

/-- What is done with a line that is taken: it is parsed, then forwarded. -/
def sentence (r : Content D) (line : List Byte) : Content D × List (Effect D) :=
  ((parse c endTag r line).1,
   (parse c endTag r line).2 ++ [.mnl2halNmea (parse c endTag r line).1.fix.timestamp line line.length])

/-- Whether the reader is in step with the lines after one more of them. -/
def stepAfter (line : List Byte) : Bool := !(inStep && line.length == nmeaMaxSize + 1)

/-- The reader takes a line when it is in step and the line fits. -/
def takes (line : List Byte) : Bool := inStep && decide (line.length ≤ nmeaMaxSize)

def taken : Bool → List (List Byte) → List (List Byte)
  | _, [] => []
  | inStep, l :: ls => (if takes inStep l then [l] else []) ++ taken (stepAfter inStep l) ls

def takeLine (endTag inStep : Bool) (r : Content D) (line : List Byte) : Content D × List (Effect D) :=
  if takes inStep line then sentence c endTag r line else (r, [])

/-- An effect without the bytes that `in` still has behind the line. -/
def Effect.trimmed : Effect D → Effect D
  | .mnl2halNmea timestamp nmea length => .mnl2halNmea timestamp (nmea.take length) length
  | e => e

open Effect (trimmed)

/-! ## One line -/

theorem feed_addc_short (hflag : r.frame.overflow = false) (body : List Byte)
    (hbody : newline ∉ body) (hfit : r.frame.line.length + body.length ≤ nmeaMaxSize) :
    feed (addc c false) r body =
      (⟨⟨r.frame.line ++ body, r.frame.stale.drop body.length, false⟩, r.content⟩, []) := by
  induction body generalizing r with
  | nil => simp [← hflag]
  | cons b body ih =>
    have hb : b ≠ newline := fun heq => hbody (by simp [heq])
    have hroom : ¬ nmeaMaxSize ≤ r.frame.line.length := by
      simp at hfit; omega
    have hstep : addc c false r b = (⟨r.frame.push b, r.content⟩, []) := by
      simp [addc, hflag, hroom, hb]
    rw [feed_cons, hstep, ih ⟨r.frame.push b, r.content⟩ hflag (fun hmem => hbody (by simp [hmem]))]
    · simp [Frame.push]
    · simp [Frame.push] at hfit ⊢; omega

theorem feed_addc_overflow (hflag : r.frame.overflow = true) (body : List Byte)
    (hbody : newline ∉ body) : feed (addc c false) r body = (r, []) := by
  induction body with
  | nil => rfl
  | cons b body ih =>
    have hb : b ≠ newline := fun heq => hbody (by simp [heq])
    have hstep : addc c false r b = (r, []) := by
      simp only [addc, hflag, if_true, bne_iff_ne.mpr hb]
      rw [← hflag]
    rw [feed_cons, hstep, ih (fun hmem => hbody (by simp [hmem]))]
    rfl

theorem addc_full (hflag : r.frame.overflow = false)
    (hfull : r.frame.line.length = nmeaMaxSize) (b : Byte) :
    addc c endTag r b = (⟨{ r.frame.rewind with overflow := true }, r.content⟩, []) := by
  simp [addc, hflag, hfull]

theorem addc_newline_overflow (hflag : r.frame.overflow = true) :
    addc c endTag r newline = (⟨{ r.frame with overflow := false }, r.content⟩, []) := by
  simp [addc, hflag]

theorem addc_newline_taken (hflag : r.frame.overflow = false)
    (hroom : r.frame.line.length < nmeaMaxSize) :
    ∃ stale, (addc c endTag r newline).1 =
        ⟨⟨[], stale, false⟩, (sentence c endTag r.content (r.frame.line ++ [newline])).1⟩ ∧
      (addc c endTag r newline).2.map trimmed =
        (sentence c endTag r.content (r.frame.line ++ [newline])).2.map trimmed := by
  have hroom' : ¬ nmeaMaxSize ≤ r.frame.line.length := by omega
  refine ⟨(r.frame.push newline).rewind.stale, ?_, ?_⟩
  · simp [addc, hflag, hroom', sentence, Frame.push, Frame.rewind]
  · simp [addc, hflag, hroom', sentence, Frame.push, trimmed, take_append]

theorem feed_addc_long (hflag : r.frame.overflow = false) (hstart : r.frame.line = [])
    (body : List Byte) (hbody : newline ∉ body) (hlong : nmeaMaxSize < body.length) :
    ∃ stale, feed (addc c false) r body = (⟨⟨[], stale, true⟩, r.content⟩, []) := by
  obtain ⟨pre, b, post, hsplit, hpre⟩ :
      ∃ (pre : List Byte) (b : Byte) (post : List Byte), body = pre ++ b :: post ∧ pre.length = nmeaMaxSize := by
    refine ⟨body.take nmeaMaxSize, body[nmeaMaxSize], body.drop (nmeaMaxSize + 1), ?_, ?_⟩
    · rw [getElem_cons_drop, take_append_drop]
    · simp; omega
  have hpre' : newline ∉ pre := fun hmem => hbody (by simp [hsplit, hmem])
  have hpost : newline ∉ post := fun hmem => hbody (by simp [hsplit, hmem])
  have hfeed := feed_addc_short c r hflag pre hpre' (by simp [hstart]; omega)
  rw [hstart] at hfeed
  refine ⟨pre ++ r.frame.stale.drop pre.length, ?_⟩
  rw [hsplit, feed_append, hfeed, feed_cons, addc_full c false _ rfl hpre, feed_addc_overflow c _ rfl post hpost]
  rfl

/-- **One line.** The bytes before the newline have no effect; with the newline the line is taken or passed over,
    and the reader is at the start of a line again. -/
theorem addc_line (hstart : r.frame.line = []) (body : List Byte)
    (hbody : newline ∉ body) :
    (feed (addc c false) r body).2 = [] ∧ (feed (addc c false) r body).1.content = r.content ∧
    ∃ frame : Frame, frame.line = [] ∧
      (!frame.overflow) = stepAfter (!r.frame.overflow) (body ++ [newline]) ∧
      (addc c endTag (feed (addc c false) r body).1 newline).1 =
        ⟨frame, (takeLine c endTag (!r.frame.overflow) r.content (body ++ [newline])).1⟩ ∧
      (addc c endTag (feed (addc c false) r body).1 newline).2.map trimmed =
        (takeLine c endTag (!r.frame.overflow) r.content (body ++ [newline])).2.map trimmed := by
  cases hflag : r.frame.overflow with
  | true =>
    rw [feed_addc_overflow c r hflag body hbody, addc_newline_overflow c endTag r hflag]
    exact ⟨rfl, rfl, { r.frame with overflow := false }, hstart, by simp [stepAfter],
      by simp [takeLine, takes], by simp [takeLine, takes]⟩
  | false =>
    by_cases hlong : nmeaMaxSize < body.length
    · -- a byte before the newline did not fit
      obtain ⟨stale, hfeed⟩ := feed_addc_long c r hflag hstart body hbody hlong
      rw [hfeed, addc_newline_overflow c endTag _ rfl]
      have htakes : takes true (body ++ [newline]) = false := by simp [takes]; omega
      refine ⟨rfl, rfl, ⟨[], stale, false⟩, rfl, ?_, ?_, ?_⟩
      · simp [stepAfter]; omega
      · simp [takeLine, htakes]
      · simp [takeLine, htakes]
    · have hfeed := feed_addc_short c r hflag body hbody (by simp [hstart]; omega)
      rw [hstart] at hfeed
      rw [hfeed]
      by_cases hfull : body.length = nmeaMaxSize
      · -- the newline is the byte that does not fit
        rw [addc_full c endTag _ rfl hfull]
        have htakes : takes true (body ++ [newline]) = false := by simp [takes]; omega
        refine ⟨rfl, rfl, ⟨[], body ++ r.frame.stale.drop body.length, true⟩, rfl, ?_, ?_, ?_⟩
        · simp [stepAfter, hfull]
        · simp [takeLine, htakes, Frame.rewind]
        · simp [takeLine, htakes]
      · -- the line fits
        obtain ⟨stale, hstate, hout⟩ := addc_newline_taken c endTag
          ⟨⟨body, r.frame.stale.drop body.length, false⟩, r.content⟩ rfl (by show body.length < _; omega)
        have htakes : takes true (body ++ [newline]) = true := by simp [takes]; omega
        refine ⟨rfl, rfl, ⟨[], stale, false⟩, rfl, ?_, ?_, ?_⟩
        · simp [stepAfter]; omega
        · simp only [Bool.not_false, takeLine, htakes]; exact hstate
        · simp only [Bool.not_false, takeLine, htakes]; exact hout

/-! ## A buffer -/

/-- Every line of the list is one: bytes other than newline, and a newline. -/
def AreLines (ls : List (List Byte)) : Prop := ∀ l ∈ ls, ∃ body, newline ∉ body ∧ l = body ++ [newline]

/-- Whether the reader is in step after a list of lines. -/
def inStepAfter (ls : List (List Byte)) : Bool := ls.foldl stepAfter inStep

/-- What is done with a list of lines, none of them the last of the buffer. -/
def takeLines (r : Content D) (ls : List (List Byte)) : Content D × List (Effect D) :=
  feed (sentence c false) r (taken inStep ls)

theorem takeLines_cons (r : Content D) (l : List Byte) (ls : List (List Byte)) :
    takeLines c inStep r (l :: ls) =
      ((takeLines c (stepAfter inStep l) (takeLine c false inStep r l).1 ls).1,
       (takeLine c false inStep r l).2 ++
        (takeLines c (stepAfter inStep l) (takeLine c false inStep r l).1 ls).2) := by
  unfold takeLines takeLine
  rw [taken]
  cases takes inStep l with
  | true => simp [feed_cons]
  | false => simp

/-- **Lines.** Fed with a list of lines, the reader does what the sentence-level machine does on those taken. -/
theorem feed_addc_lines (hstart : r.frame.line = []) (ls : List (List Byte))
    (hls : AreLines ls) :
    ∃ frame : Frame, frame.line = [] ∧ (!frame.overflow) = inStepAfter (!r.frame.overflow) ls ∧
      (feed (addc c false) r ls.flatten).1 = ⟨frame, (takeLines c (!r.frame.overflow) r.content ls).1⟩ ∧
      (feed (addc c false) r ls.flatten).2.map trimmed =
        (takeLines c (!r.frame.overflow) r.content ls).2.map trimmed := by
  induction ls generalizing r with
  | nil => exact ⟨r.frame, hstart, rfl, rfl, rfl⟩
  | cons l ls ih =>
    obtain ⟨body, hbody, rfl⟩ := hls l (by simp)
    obtain ⟨hnone, -, frame, hline, hok, hstate, hout⟩ := addc_line c false r hstart body hbody
    obtain ⟨frame', hline', hok', hstate', hout'⟩ := ih ⟨frame, _⟩ hline (fun l hl => hls l (by simp [hl]))
    refine ⟨frame', hline', ?_, ?_, ?_⟩
    · rw [hok', hok]; rfl
    · rw [flatten_cons, append_assoc, feed_append, singleton_append, feed_cons, hstate, takeLines_cons, ← hok]
      exact hstate'
    · rw [flatten_cons, append_assoc, feed_append, singleton_append, feed_cons, hstate, takeLines_cons, ← hok, hnone]
      simp only [nil_append, map_append]
      rw [hout, hout']

theorem areLines_frames : AreLines (frames newline buffer) := by
  intro l hl
  exact exists_body hl

def contentInit : Content D := (readerInit c usedInFix).content

/-- What is done with the lines of a buffer before what is behind its last newline. -/
def framed : Content D × List (Effect D) := takeLines c true (contentInit c usedInFix) (frames newline buffer)

/-- The bytes of a buffer, fed without the end tag. -/
def fed : NmeaReader D × List (Effect D) := feed (addc c false) (readerInit c usedInFix) buffer

/-- What is done with what is behind the last newline, once another one ends it. -/
def closing : Content D × List (Effect D) :=
  takeLine c endTag (inStepAfter true (frames newline buffer)) (framed c usedInFix buffer).1
    (rest newline buffer ++ [newline])

theorem feed_addc_init :
    ∃ r : NmeaReader D, r.frame.line = [] ∧ (!r.frame.overflow) = inStepAfter true (frames newline buffer) ∧
      r.content = (framed c usedInFix buffer).1 ∧
      (fed c usedInFix buffer).1 = (feed (addc c false) r (rest newline buffer)).1 ∧
      (fed c usedInFix buffer).2.map trimmed = (framed c usedInFix buffer).2.map trimmed := by
  obtain ⟨frame, hline, hok, hstate, hout⟩ :=
    feed_addc_lines c (readerInit c usedInFix) rfl (frames newline buffer) (areLines_frames buffer)
  obtain ⟨body, hbody, hrest, -, -⟩ := frames_closed (d := newline) buffer
  have hsplit : fed c usedInFix buffer =
      feed (addc c false) (readerInit c usedInFix) ((frames newline buffer).flatten ++ rest newline buffer) := by
    rw [flatten_frames, fed]
  refine ⟨⟨frame, _⟩, hline, hok, rfl, ?_, ?_⟩
  · rw [hsplit, feed_append, hstate]; rfl
  · obtain ⟨hnone, -, -⟩ := addc_line c false ⟨frame, _⟩ hline (rest newline buffer) (hrest ▸ hbody)
    rw [hsplit, feed_append, hstate, hnone, append_nil, hout]
    rfl

theorem addc_closed :
    (addc c endTag (fed c usedInFix buffer).1 newline).1.content = (closing c endTag usedInFix buffer).1 ∧
      ((fed c usedInFix buffer).2 ++ (addc c endTag (fed c usedInFix buffer).1 newline).2).map trimmed =
        ((framed c usedInFix buffer).2 ++ (closing c endTag usedInFix buffer).2).map trimmed := by
  obtain ⟨r, hline, hok, hcontent, hstate, hout⟩ := feed_addc_init c usedInFix buffer
  obtain ⟨body, hbody, hrest, -, -⟩ := frames_closed (d := newline) buffer
  obtain ⟨-, -, frame, -, -, hlast, hlastOut⟩ := addc_line c endTag r hline (rest newline buffer) (hrest ▸ hbody)
  rw [closing, hstate, ← hok, ← hcontent]
  constructor
  · rw [hlast]
  · simp only [map_append]
    rw [hout, hlastOut]

/-- **A buffer that ends with a newline**: its last line is the one that is parsed with the end tag. -/
theorem process_closed :
    (process c usedInFix (buffer ++ [newline])).1.content = (closing c true usedInFix buffer).1 ∧
      (process c usedInFix (buffer ++ [newline])).2.map trimmed =
        ((framed c usedInFix buffer).2 ++ (closing c true usedInFix buffer).2).map trimmed := by
  have hprocess : process c usedInFix (buffer ++ [newline]) =
      ((addc c true (fed c usedInFix buffer).1 newline).1,
       (fed c usedInFix buffer).2 ++ (addc c true (fed c usedInFix buffer).1 newline).2) := by
    simp [process, fed]
  rw [hprocess]
  exact addc_closed c true usedInFix buffer

theorem addc_endTag_of_ne {b : Byte} (hb : b ≠ newline) : addc c true r b = addc c false r b := by
  simp [addc, hb]

/-- **A buffer that does not end with a newline**: its lines are all parsed without the end tag. -/
theorem process_open (hlast : buffer.getLast? ≠ some newline) :
    (process c usedInFix buffer).1.content = (framed c usedInFix buffer).1 ∧
      (process c usedInFix buffer).2.map trimmed = (framed c usedInFix buffer).2.map trimmed := by
  have hprocess : process c usedInFix buffer = fed c usedInFix buffer := by
    rcases eq_nil_or_concat buffer with rfl | ⟨init, b, rfl⟩
    · rfl
    · have hb : b ≠ newline := by simpa using hlast
      simp [process, fed, addc_endTag_of_ne c _ hb, feed_append]
  obtain ⟨r, hline, hok, hcontent, hstate, hout⟩ := feed_addc_init c usedInFix buffer
  obtain ⟨body, hbody, hrest, -, -⟩ := frames_closed (d := newline) buffer
  obtain ⟨-, hkept, -⟩ := addc_line c false r hline (rest newline buffer) (hrest ▸ hbody)
  rw [hprocess, hstate, hkept, hcontent]
  exact ⟨rfl, hout⟩

/-! ## The sentences forwarded -/

def Effect.sentence? : Effect D → Option (List Byte)
  | .mnl2halNmea _ nmea length => some (nmea.take length)
  | _ => none

/-- The sentences forwarded through `mnl2hal_nmea`. -/
def forwarded (es : List (Effect D)) : List (List Byte) := es.filterMap Effect.sentence?

@[simp] theorem sentence?_trimmed (e : Effect D) : e.trimmed.sentence? = e.sentence? := by
  cases e with
  | mnl2halNmea timestamp nmea length => simp [trimmed, Effect.sentence?, take_take]
  | _ => rfl

theorem forwarded_map_trimmed (es : List (Effect D)) : forwarded (es.map trimmed) = forwarded es := by
  simp [forwarded]

theorem forwarded_append (es es' : List (Effect D)) : forwarded (es ++ es') = forwarded es ++ forwarded es' :=
  filterMap_append

theorem forwarded_eq_nil {es : List (Effect D)} (h : ∀ e ∈ es, e.sentence? = none) : forwarded es = [] := by
  simpa [forwarded] using h

theorem sentence?_of_isStore {e : Effect D} (h : e.isStore = true) : e.sentence? = none := by
  cases e with
  | mnl2halNmea timestamp nmea length => simp [Effect.isStore] at h
  | _ => rfl

theorem sentence?_flush (r : Content D) : ∀ e ∈ (flush endTag r).2, e.sentence? = none := by
  intro e he
  rcases mem_append.mp he with he | he
  · unfold flushLocation at he
    split at he
    · rcases (by simpa using he : e = _ ∨ e = _) with rfl | rfl <;> rfl
    · simp at he
  · unfold flushSvs at he
    split at he
    · split at he
      · rcases (by simpa using he : e = _ ∨ e = _) with rfl | rfl <;> rfl
      · simp at he
    · simp at he

theorem forwarded_parse (r : Content D) (s : List Byte) : forwarded (parse c endTag r s).2 = [] := by
  refine forwarded_eq_nil ?_
  intro e he
  by_cases hread : Readable s
  · rw [parse_readable c hread] at he
    rcases mem_append.mp he with he | he
    · exact sentence?_of_isStore (isStore_dispatch c _ _ e he)
    · exact sentence?_flush _ _ e he
  · simp [parse_discarded c hread] at he

theorem forwarded_takeLine (endTag inStep : Bool) (r : Content D) (l : List Byte) :
    forwarded (takeLine c endTag inStep r l).2 = if takes inStep l then [l] else [] := by
  unfold takeLine
  split
  · rw [sentence, forwarded_append, forwarded_parse]
    simp [forwarded, Effect.sentence?]
  · rfl

theorem forwarded_takeLines (r : Content D) (ls : List (List Byte)) :
    forwarded (takeLines c inStep r ls).2 = taken inStep ls := by
  induction ls generalizing inStep r with
  | nil => rfl
  | cons l ls ih => rw [takeLines_cons, forwarded_append, forwarded_takeLine, ih, taken]

theorem taken_concat (ls : List (List Byte)) (l : List Byte) :
    taken inStep (ls ++ [l]) = taken inStep ls ++ if takes (inStepAfter inStep ls) l then [l] else [] := by
  induction ls generalizing inStep with
  | nil => exact append_nil _
  | cons k ls ih =>
    rw [cons_append, taken, ih, taken, append_assoc]
    rfl

/-- **Which lines are forwarded.** -/
theorem forwarded_process : forwarded (process c usedInFix buffer).2 = taken true (frames newline buffer) := by
  by_cases hlast : buffer.getLast? = some newline
  · obtain ⟨init, rfl⟩ := getLast?_eq_some_iff.mp hlast
    obtain ⟨body, -, hrest, hframes, -⟩ := frames_closed (d := newline) init
    rw [← forwarded_map_trimmed, (process_closed c usedInFix init).2, forwarded_map_trimmed, forwarded_append,
      closing, framed, forwarded_takeLines, forwarded_takeLine, hframes, taken_concat, hrest]
  · rw [← forwarded_map_trimmed, (process_open c usedInFix buffer hlast).2, forwarded_map_trimmed, framed,
      forwarded_takeLines]

/-! ## When nothing is lost -/

/-- Every line that fits comes while the reader is in step. -/
def InStep : Bool → List (List Byte) → Prop
  | _, [] => True
  | inStep, l :: ls => (l.length ≤ nmeaMaxSize → inStep = true) ∧ InStep (stepAfter inStep l) ls

theorem taken_sublist (ls : List (List Byte)) :
    List.Sublist (taken inStep ls) (ls.filter (·.length ≤ nmeaMaxSize)) := by
  induction ls generalizing inStep with
  | nil => exact List.Sublist.slnil
  | cons l ls ih =>
    by_cases hfit : l.length ≤ nmeaMaxSize
    · cases inStep with
      | true => simpa [taken, takes, hfit] using (ih _)
      | false => simpa [taken, takes, hfit] using (ih _).cons l
    · simpa [taken, takes, hfit] using ih _

theorem taken_eq_filter_iff (ls : List (List Byte)) :
    taken inStep ls = ls.filter (·.length ≤ nmeaMaxSize) ↔ InStep inStep ls := by
  induction ls generalizing inStep with
  | nil => simp [taken, InStep]
  | cons l ls ih =>
    by_cases hfit : l.length ≤ nmeaMaxSize
    · cases inStep with
      | true => simp [taken, takes, hfit, InStep, ih]
      | false =>
        -- the line is lost, and what is taken later cannot make up for it
        have hlt : (taken (stepAfter false l) ls).length < (l :: ls.filter (·.length ≤ nmeaMaxSize)).length := by
          have := (taken_sublist (stepAfter false l) ls).length_le
          simp only [length_cons]
          omega
        constructor
        · intro heq
          rw [filter_cons_of_pos (by simpa using hfit)] at heq
          simp only [taken, takes, Bool.false_and, Bool.false_eq_true, if_false, nil_append] at heq
          rw [heq] at hlt
          exact absurd hlt (Nat.lt_irrefl _)
        · rintro ⟨hok, -⟩
          exact absurd (hok hfit) (by simp)
    · simp [taken, takes, hfit, InStep, ih]

/-- **The sentences forwarded are the lines that fit exactly when none of them comes out of step.** -/
theorem nmea_lines_iff (usedInFix : Nat → Bool) (buffer : List Byte) :
    forwarded (process c usedInFix buffer).2 = (frames newline buffer).filter (·.length ≤ nmeaMaxSize) ↔
      InStep true (frames newline buffer) := by
  rw [forwarded_process]
  exact taken_eq_filter_iff true (frames newline buffer)

/-- A line of 256 bytes takes the GGA sentence behind it away. -/
theorem nmea_line_lost :
    forwarded (process exactLibc (fun _ => false)
        (List.replicate 255 (chr 'A') ++ newline :: "$GPGGA,000000".toList.map chr ++ [newline])).2 = [] ∧
      (frames newline
        (List.replicate 255 (chr 'A') ++ newline :: "$GPGGA,000000".toList.map chr ++ [newline])).filter
          (·.length ≤ nmeaMaxSize) = ["$GPGGA,000000".toList.map chr ++ [newline]] := by
  rw [forwarded_process]
  decide +kernel

end HuaweiY5.Nmea
