import HuaweiY5.Nmea.Numbers
import HuaweiY5.Nmea.Sentences
import HuaweiY5.Nmea.UsedInFix

/-!
# `Nmea.Epoch` — buffers of GSA and GSV sentences

A buffer in the usual order has the GSA sentences first, which name the satellites used in the fix, and then for each
constellation the set of its GSV sentences, four satellites each. Here such a buffer is an `Epoch`: sentences given by
what they are written from, with all that makes them well-formed. `Epoch.expected` is the list of satellites that a
parser should make of it.
-/

namespace HuaweiY5.Nmea

open List

open Codec (Byte)
open Framing

/-! ## Sentences -/

/-- A text of digits whose number fits an `int`; without digits it is 0. -/
structure Numeral where
  text : List Byte
  digit : ∀ b ∈ text, IsDigit b
  fits : number text < 2147483648

def Numeral.value (n : Numeral) : Nat := number n.text

def HasId : SvType → Nat → Prop
  | .gps, id => 1 ≤ id ∧ id ≤ 32
  | .glonass, id => 65 ≤ id ∧ id ≤ 96
  | .bds, id => 1 ≤ id ∧ id ≤ 37
  | .galileo, id => 1 ≤ id ∧ id ≤ 36

instance instDecidableHasId : ∀ (k : SvType) (id : Nat), Decidable (HasId k id)
  | .gps, _ | .glonass, _ | .bds, _ | .galileo, _ => inferInstanceAs (Decidable (_ ∧ _))

structure Satellite where
  constellation : SvType
  id : Numeral
  elevation : Numeral
  azimuth : Numeral
  snr : List Byte
  id_mem : HasId constellation id.value
  snr_plain : ∀ b ∈ snr, Plain b
  snr_short : snr.length < 16

def Satellite.fields (sat : Satellite) : List (List Byte) :=
  [sat.id.text, sat.elevation.text, sat.azimuth.text, sat.snr]

/-- A GSA sentence: the satellites used in the fix, twelve at most, and empty fields for those that are less. -/
structure Gsa where
  constellation : SvType
  ends : Ends
  opMode : List Byte
  mode : Numeral
  ids : List Numeral
  rest : List (List Byte)
  mode_ne_nil : mode.text ≠ []
  ids_mem : ∀ id ∈ ids, HasId constellation id.value
  ids_le : ids.length ≤ 12
  opMode_plain : ∀ b ∈ opMode, Plain b
  rest_plain : ∀ f ∈ rest, ∀ b ∈ f, Plain b
  checksum_plain : ∀ h ∈ ends.checksum, Plain h.1 ∧ Plain h.2

/-- A GSV sentence: how many there are, which one it is, how many satellites are in view, and some of these. -/
structure GsvSentence where
  constellation : SvType
  ends : Ends
  num : Numeral
  seq : Numeral
  cnt : Numeral
  sats : List Satellite
  rest : List (List Byte)
  sats_of : ∀ sat ∈ sats, sat.constellation = constellation
  rest_plain : ∀ f ∈ rest, ∀ b ∈ f, Plain b
  checksum_plain : ∀ h ∈ ends.checksum, Plain h.1 ∧ Plain h.2

def satsOf (sentences : List GsvSentence) : List Satellite := sentences.flatMap GsvSentence.sats

/-- A complete set in order: every sentence says how many sentences and satellites there are and has its number, and the
    satellites fill the sentences from the first on, four each. -/
structure GsvSet where
  constellation : SvType
  sentences : List GsvSentence
  sentences_of : ∀ s ∈ sentences, s.constellation = constellation
  ne_nil : sentences ≠ []
  num_eq : ∀ s ∈ sentences, s.num.value = sentences.length
  cnt_eq : ∀ s ∈ sentences, s.cnt.value = (satsOf sentences).length
  seq_eq : ∀ pre s post, sentences = pre ++ s :: post → s.seq.value = pre.length + 1
  sats_length : ∀ pre s post, sentences = pre ++ s :: post →
    s.sats.length = min 4 ((satsOf sentences).length - 4 * pre.length)
  sats_ne_nil : ∀ s ∈ sentences.tail, s.sats ≠ []
  sats_le : (satsOf sentences).length ≤ 32

section Plain

theorem plain_of_le {b : Byte} (h : 48 ≤ b.toNat) : Plain b := by
  have hne : ∀ x : Byte, ¬48 ≤ x.toNat → b ≠ x := fun x hx heq => hx (heq ▸ h)
  exact ⟨hne _ (by decide), hne _ (by decide), hne _ (by decide), hne _ (by decide), hne _ (by decide)⟩

theorem Numeral.plain (n : Numeral) : ∀ b ∈ n.text, Plain b := fun b hb => plain_of_le (n.digit b hb).1

theorem plain_gsaId (k : SvType) : ∀ b ∈ gsaId k, Plain b := by
  have hletters : (gsaId k).all (fun b => 48 ≤ b.toNat) = true := by cases k <;> rfl
  exact fun b hb => plain_of_le (of_decide_eq_true (all_eq_true.mp hletters b hb))

theorem plain_gsvId (k : SvType) : ∀ b ∈ gsvId k, Plain b := by
  have hletters : (gsvId k).all (fun b => 48 ≤ b.toNat) = true := by cases k <;> rfl
  exact fun b hb => plain_of_le (of_decide_eq_true (all_eq_true.mp hletters b hb))

theorem Satellite.plain (sat : Satellite) : ∀ f ∈ sat.fields, ∀ b ∈ f, Plain b := by
  intro f hf
  rcases mem_cons.mp hf with rfl | hf
  · exact sat.id.plain
  · rcases mem_cons.mp hf with rfl | hf
    · exact sat.elevation.plain
    · rcases mem_pair.mp hf with rfl | rfl
      · exact sat.azimuth.plain
      · exact sat.snr_plain

end Plain

def Gsa.fields (g : Gsa) : List (List Byte) :=
  gsaId g.constellation :: g.opMode :: g.mode.text ::
    (g.ids.map Numeral.text ++ List.replicate (12 - g.ids.length) [] ++ g.rest)

theorem Gsa.plain (g : Gsa) : ∀ f ∈ g.fields, ∀ b ∈ f, Plain b := by
  intro f hf
  rcases mem_cons.mp hf with rfl | hf
  · exact plain_gsaId _
  rcases mem_cons.mp hf with rfl | hf
  · exact g.opMode_plain
  rcases mem_cons.mp hf with rfl | hf
  · exact g.mode.plain
  rcases mem_append.mp hf with hf | hf
  · rcases mem_append.mp hf with hf | hf
    · obtain ⟨id, -, rfl⟩ := mem_map.mp hf
      exact id.plain
    · rw [eq_of_mem_replicate hf]
      exact fun b hb => absurd hb not_mem_nil
  · exact g.rest_plain f hf

def Gsa.sentence (g : Gsa) : Sentence where
  ends := g.ends
  fields := g.fields
  fields_ne_nil := cons_ne_nil _ _
  fields_plain := g.plain
  checksum_plain := g.checksum_plain

def GsvSentence.fields (s : GsvSentence) : List (List Byte) :=
  gsvId s.constellation :: s.num.text :: s.seq.text :: s.cnt.text :: (s.sats.flatMap Satellite.fields ++ s.rest)

theorem GsvSentence.plain (s : GsvSentence) : ∀ f ∈ s.fields, ∀ b ∈ f, Plain b := by
  intro f hf
  rcases mem_cons.mp hf with rfl | hf
  · exact plain_gsvId _
  rcases mem_cons.mp hf with rfl | hf
  · exact s.num.plain
  rcases mem_cons.mp hf with rfl | hf
  · exact s.seq.plain
  rcases mem_cons.mp hf with rfl | hf
  · exact s.cnt.plain
  rcases mem_append.mp hf with hf | hf
  · obtain ⟨sat, -, hsat⟩ := mem_flatMap.mp hf
    exact sat.plain f hsat
  · exact s.rest_plain f hf

def GsvSentence.sentence (s : GsvSentence) : Sentence where
  ends := s.ends
  fields := s.fields
  fields_ne_nil := cons_ne_nil _ _
  fields_plain := s.plain
  checksum_plain := s.checksum_plain

/-- The sentences of a buffer: GSA sentences, then sets of GSV sentences. -/
def epochSentences (gsas : List Gsa) (sets : List GsvSet) : List Sentence :=
  gsas.map Gsa.sentence ++ sets.flatMap fun set => set.sentences.map GsvSentence.sentence

/-- A buffer of such sentences, each of which fits the reader, with no more satellites than the list has room for. -/
structure Epoch where
  gsas : List Gsa
  sets : List GsvSet
  fits : ∀ s ∈ epochSentences gsas sets, s.line.length ≤ nmeaMaxSize
  sats_le : (sets.flatMap fun set => satsOf set.sentences).length ≤ gnssMaxSvs

def Epoch.buffer (e : Epoch) : List Byte := ((epochSentences e.gsas e.sets).map Sentence.line).flatten

def Epoch.sats (e : Epoch) : List Satellite := e.sets.flatMap fun set => satsOf set.sentences

/-! ## What is to be reported -/

/-- The sentence names a satellite as used in a fix of two or three dimensions. -/
def Gsa.Names (g : Gsa) (k : SvType) (id : Nat) : Prop :=
  g.constellation = k ∧ (g.mode.value = 2 ∨ g.mode.value = 3) ∧ ∃ n ∈ g.ids, n.value = id
  deriving Decidable

def Satellite.Used (sat : Satellite) (gsas : List Gsa) : Prop := ∃ g ∈ gsas, g.Names sat.constellation sat.id.value
  deriving Decidable

def svidOf : SvType → Nat → Int
  | .glonass, id => id - 64
  | .gps, id | .bds, id | .galileo, id => id

variable {D : Type} (c : Libc D)

def Satellite.entry (sat : Satellite) (used : Bool) : GnssSv D where
  svid := svidOf sat.constellation sat.id.value
  constellation := some sat.constellation
  cN0Dbhz := c.strtod sat.snr
  elevation := c.ofInt sat.elevation.value
  azimuth := c.ofInt sat.azimuth.value
  flags := if used then 0x04 else 0

/-- **What is to be reported**: every satellite of the sets, in order, with the mark of those used in the fix. -/
def Epoch.expected (e : Epoch) : List (GnssSv D) := e.sats.map fun sat => sat.entry c (sat.Used e.gsas)

/-- The satellites passed to `mnl2hal_gps_sv`. -/
def passed (report : Int × List (GnssSv D)) : List (GnssSv D) := report.2.take report.1.toNat

def callsFor (svs : List (GnssSv D)) : List (List (GnssSv D)) := if svs = [] then [] else [svs]

/-! ## Ids -/

def offset : SvType → Nat
  | .gps | .glonass => 0
  | .bds => 200
  | .galileo => 400

variable {k : SvType}

theorem hasId_le {id : Nat} (h : HasId k id) : 1 ≤ id ∧ id ≤ 96 := by
  cases k <;> simp only [HasId] at h <;> omega

theorem slot_lt {id : Nat} (h : HasId k id) : id + offset k < 450 := by
  cases k <;> simp only [HasId, offset] at * <;> omega

theorem satelliteId_eq {id : Nat} (h : HasId k id) : satelliteId k id = (id + offset k : Nat) := by
  have hle := hasId_le h
  cases k with
  | gps | glonass => rfl
  | bds | galileo => exact int32_of_bounds (by omega) (by omega)

theorem offset_injective {k' : SvType} {id id' : Nat} (h : HasId k id) (h' : HasId k' id')
    (heq : id + offset k = id' + offset k') : k = k' ∧ id = id' := by
  cases k <;> cases k' <;> simp only [HasId, offset, true_and] at * <;> omega

/-- **The ids that are known**: all but that of the GPS satellite 32. -/
theorem constellationOf_satelliteId {id : Nat} (h : HasId k id) :
    constellationOf (satelliteId k id) = if k = .gps ∧ id = 32 then none else some (svidOf k id, k) := by
  rw [satelliteId_eq h]
  generalize hx : ((id + offset k : Nat) : Int) = x
  unfold constellationOf
  cases k with
  | gps =>
    simp only [HasId, offset, svidOf, true_and] at *
    by_cases hid : id = 32
    · rw [if_pos hid, if_neg (by omega), if_neg (by omega), if_neg (by omega), if_neg (by omega)]
    · rw [if_neg hid, if_pos (by omega), show x = id by omega]
  | glonass =>
    simp only [HasId, offset, svidOf, reduceCtorEq, false_and, if_false] at *
    rw [if_neg (by omega), if_pos (by omega), show x = id by omega]
  | bds =>
    simp only [HasId, offset, svidOf, reduceCtorEq, false_and, if_false] at *
    rw [if_neg (by omega), if_neg (by omega), if_pos (by omega), show x - 200 = id by omega]
  | galileo =>
    simp only [HasId, offset, svidOf, reduceCtorEq, false_and, if_false] at *
    rw [if_neg (by omega), if_neg (by omega), if_neg (by omega), if_pos (by omega), show x - 400 = id by omega]

def Satellite.slot (sat : Satellite) : Nat := sat.id.value + offset sat.constellation

/-! ## The tokens of a sentence -/

theorem Numeral.str2int_eq (n : Numeral) : str2int n.text = n.value := str2int_number n.digit n.fits

theorem getElem?_satFields {sats : List Satellite} (rest : List (List Byte)) {idx j : Nat} (hidx : idx < sats.length)
    (hj : j < 4) : (sats.flatMap Satellite.fields ++ rest)[4 * idx + j]? = sats[idx].fields[j]? := by
  induction sats generalizing idx with
  | nil => exact absurd hidx (Nat.not_lt_zero _)
  | cons sat sats ih =>
    have hlength : sat.fields.length = 4 := rfl
    rw [flatMap_cons, append_assoc]
    cases idx with
    | zero =>
      rw [Nat.zero_add, getElem?_append_left (by omega)]
      rfl
    | succ idx =>
      rw [getElem?_append_right (by omega), hlength, show 4 * (idx + 1) + j - 4 = 4 * idx + j by omega,
        ih (Nat.lt_of_succ_lt_succ hidx)]
      rfl

variable (s : GsvSentence)

theorem GsvSentence.token_sat {idx j : Nat} (hidx : idx < s.sats.length) (hidx' : idx < 4)
    (hj : j < 4) :
    (tokenizerGet (tokenizerInit s.sentence.line) (4 * (idx + 1) + j)).text = (s.sats[idx].fields[j]?).getD [] := by
  rw [s.sentence.token_line (show 4 * (idx + 1) + j < 24 by omega), show 4 * (idx + 1) + j = 4 * idx + j + 4 by omega]
  show ((s.sats.flatMap Satellite.fields ++ s.rest)[4 * idx + j]?).getD [] = _
  rw [getElem?_satFields s.rest hidx hj]

theorem GsvSentence.header_eq :
    gsvHeader (tokenizerInit s.sentence.line) = ⟨s.num.value, s.seq.value, s.cnt.value⟩ := by
  unfold gsvHeader
  rw [s.sentence.token_line (by decide), s.sentence.token_line (by decide), s.sentence.token_line (by decide)]
  show GsvHeader.mk (str2int s.num.text) (str2int s.seq.text) (str2int s.cnt.text) = _
  rw [s.num.str2int_eq, s.seq.str2int_eq, s.cnt.str2int_eq]

theorem Gsa.readable (g : Gsa) : Readable g.sentence.line := by
  apply Sentence.readable (s := g.sentence) rfl
  · cases g.constellation <;> decide
  · exact Or.inl g.mode_ne_nil

theorem GsvSentence.readable : Readable s.sentence.line := by
  apply Sentence.readable (s := s.sentence) rfl
  · cases s.constellation <;> decide
  · exact Or.inr (cons_ne_nil _ _)

/-! ## Reading lines -/

def readLine (r : Content D) (line : List Byte) : Content D := (dispatch c (tokenizerInit line) r).1

theorem sentenceId_eq {s : Sentence} {f : List Byte} {fs : List (List Byte)} (hs : s.fields = f :: fs) :
    (tokenizerGet (tokenizerInit s.line) 0).text = f := by
  rw [s.token_line (by decide), hs]
  rfl

theorem GsvSentence.readLine_eq (r : Content D) :
    readLine c r s.sentence.line = (parseGsv c s.constellation (tokenizerInit s.sentence.line) r).1 := by
  have hfirst := sentenceId_eq (s := s.sentence) rfl
  unfold readLine
  generalize hzero : tokenizerGet (tokenizerInit s.sentence.line) 0 = tok at hfirst
  obtain ⟨text, head⟩ := tok
  obtain rfl : text = gsvId s.constellation := hfirst
  have htalker : (gsvId s.constellation).take 2 = talker s.constellation := by
    cases s.constellation <;> rfl
  rw [dispatch_gsv c (by rw [hzero]; exact sentenceId_gsv _ _), hzero, htalker, svTypeOf_talker]

theorem Gsa.readLine_eq (g : Gsa) (r : Content D) :
    readLine c r g.sentence.line = parseGsa g.constellation (tokenizerInit g.sentence.line) r := by
  have hfirst := sentenceId_eq (s := g.sentence) rfl
  unfold readLine
  generalize hzero : tokenizerGet (tokenizerInit g.sentence.line) 0 = tok at hfirst
  obtain ⟨text, head⟩ := tok
  obtain rfl : text = gsaId g.constellation := hfirst
  have htalker : (gsaId g.constellation).take 2 = talker g.constellation := by
    cases g.constellation <;> rfl
  simp [dispatch, hzero, sentenceId_gsa, htalker, svTypeOf_talker]

end HuaweiY5.Nmea
