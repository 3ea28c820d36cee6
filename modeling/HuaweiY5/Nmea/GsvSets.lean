import HuaweiY5.Nmea.Epoch

/-!
# `Nmea.GsvSets` — the satellites reported for a buffer of GSA and GSV sentences

The parser stores the satellites of a set one behind the other (`Collected`) and with the last sentence of the set adds
their number to `num_svs`. What it reports of an `Epoch` is therefore the list of the satellites that
`nmea_reader_update_sv_status` knows, marked by the table as it is after the GSA sentences (`svReports_epoch`). That is
the list of the satellites in view unless one of them is the GPS satellite 32, whose id is not taken for one of GPS, or
the table has marks of an earlier buffer.
-/

namespace HuaweiY5.Nmea

open List

open Codec (Byte)
open Framing

variable {D : Type} (c : Libc D)

/-! ## Storing satellites -/

/-- The satellites `done` stand at the beginning of `sv_list`, behind them nothing has been written, and `num_svs` counts
    those of the sets that are closed. -/
structure Collected (used : Nat → Bool) (closed : Nat) (done : List (GnssSv D)) (r : Content D) : Prop where
  used_eq : r.usedInFix = used
  list_eq : r.svList = done ++ List.replicate (gnssMaxSvs - done.length) (zeroSv c)
  num_eq : r.numSvs = closed

/-- All the satellites stored are of sets that are closed. -/
abbrev Complete (used : Nat → Bool) (done : List (GnssSv D)) (r : Content D) : Prop := Collected c used done.length done r

/-- While a set is read, `sv_count` counts its satellites. -/
structure Collecting (used : Nat → Bool) (closed : Nat) (done : List (GnssSv D)) (r : Content D) : Prop extends
    Collected c used closed done r where
  closed_le : closed ≤ done.length
  count_eq : r.svCount + closed = done.length

variable (sat : Satellite)

/-- What `nmea_reader_update_sv_status` does with a satellite. -/
def Satellite.store (r : Content D) : Content D :=
  (updateSvStatus c (satelliteId sat.constellation sat.id.value) ⟨sat.elevation.text, 0⟩ ⟨sat.azimuth.text, 0⟩
    ⟨sat.snr, 0⟩ r).1

def Satellite.Unknown : Prop := sat.constellation = .gps ∧ sat.id.value = 32
  deriving Decidable

def Satellite.stored (used : Nat → Bool) : List (GnssSv D) :=
  if sat.Unknown then [] else [sat.entry c (used sat.slot)]

open Satellite (entry store stored)

theorem length_stored (used : Nat → Bool) : (sat.stored c used).length ≤ 1 := by
  unfold stored
  split
  · exact Nat.zero_le 1
  · exact Nat.le_refl 1

theorem length_flatMap_le {α β : Type} {f : α → List β} (hf : ∀ x, (f x).length ≤ 1) (l : List α) :
    (l.flatMap f).length ≤ l.length := by
  induction l with
  | nil => exact Nat.le_refl 0
  | cons x l ih =>
    have hx := hf x
    rw [flatMap_cons, length_append, length_cons]
    omega

theorem length_flatMap_stored (sats : List Satellite) (used : Nat → Bool) :
    (sats.flatMap (stored c · used)).length ≤ sats.length :=
  length_flatMap_le (fun sat => length_stored c sat used) sats

theorem modifyAt_replicate {α : Type} (done : List α) (n : Nat) (z : α) (f : α → α) (h : done.length < n) :
    modifyAt (done ++ List.replicate (n - done.length) z) done.length f =
      (done ++ [f z]) ++ List.replicate (n - (done ++ [f z]).length) z := by
  obtain ⟨m, hm⟩ : ∃ m, n - done.length = m + 1 := ⟨n - done.length - 1, by omega⟩
  have hrest : n - (done ++ [f z]).length = m := by
    rw [length_append, length_singleton]
    omega
  rw [hm, hrest, modifyAt, if_pos (Int.natCast_nonneg _), Int.toNat_natCast, replicate_succ]
  clear hm hrest h
  induction done with
  | nil => rfl
  | cons x done ih =>
    show x :: (done ++ z :: List.replicate m z).modify done.length f = _
    rw [ih]
    rfl

theorem storeSv_zero (used : Bool) :
    storeSv c (svidOf sat.constellation sat.id.value) sat.constellation used ⟨sat.elevation.text, 0⟩
      ⟨sat.azimuth.text, 0⟩ ⟨sat.snr, 0⟩ (zeroSv c) = sat.entry c used := by
  have hflags : (if used then (zeroSv c).flags ||| 0x04 else (zeroSv c).flags &&& 0xFB) =
      if used then 0x04 else 0 := by
    show (if used then (0 : Byte) ||| 0x04 else (0 : Byte) &&& 0xFB) = _
    cases used <;> decide
  unfold storeSv entry
  rw [str2float, if_neg (Nat.not_le.mpr sat.snr_short), sat.elevation.str2int_eq, sat.azimuth.str2int_eq, hflags]

variable {used : Nat → Bool} {closed : Nat} {done : List (GnssSv D)} {r : Content D}
  {pre post : List GsvSentence} {lines : List (List Byte)}

/-- **A satellite** that is known is stored behind the others, with the mark the table has for it. -/
theorem Satellite.store_collecting (sat : Satellite) (h : Collecting c used closed done r)
    (hroom : done.length < gnssMaxSvs) : Collecting c used closed (done ++ sat.stored c used) (sat.store c r) := by
  have hbound : gnssMaxSvs = 64 := rfl
  have hcount := h.count_eq
  have hindex : int32 (r.svCount + r.numSvs) = done.length := by
    rw [h.num_eq, hcount]
    exact int32_of_bounds (by omega) (by omega)
  have hclosed := h.closed_le
  have hnext : int32 (r.svCount + 1) = r.svCount + 1 := int32_of_bounds (by omega) (by omega)
  unfold store updateSvStatus stored
  simp only [hindex, constellationOf_satelliteId sat.id_mem, if_neg (show ¬((gnssMaxSvs : Int) ≤ done.length) by omega)]
  by_cases hunknown : sat.Unknown
  · rw [if_pos hunknown]
    simp only [show sat.constellation = .gps ∧ sat.id.value = 32 from hunknown, append_nil]
    exact h
  · rw [if_neg hunknown]
    have hknown : ¬(sat.constellation = .gps ∧ sat.id.value = 32) := hunknown
    simp only [if_neg hknown, h.used_eq, h.list_eq]
    refine ⟨⟨rfl, ?_, h.num_eq⟩, ?_, ?_⟩
    · rw [modifyAt_replicate _ _ _ _ hroom, storeSv_zero, satelliteId_eq sat.id_mem]
      rfl
    · rw [length_append]
      omega
    · show int32 (r.svCount + 1) + closed = _
      rw [length_append, length_singleton]
      omega

theorem stores_collecting (sats : List Satellite) (h : Collecting c used closed done r)
    (hroom : done.length + sats.length ≤ gnssMaxSvs) :
    Collecting c used closed (done ++ sats.flatMap (stored c · used))
      (sats.foldl (fun r sat => sat.store c r) r) := by
  induction sats generalizing done r with
  | nil =>
    rw [flatMap_nil, append_nil]
    exact h
  | cons sat sats ih =>
    have hone := length_stored c sat used
    rw [length_cons] at hroom
    rw [flatMap_cons, ← append_assoc]
    apply ih (sat.store_collecting c h (by omega))
    rw [length_append]
    omega

/-! ## A sentence of a set -/

theorem updateSvStatus_text {e a x e' a' x' : Token} (he : e.text = e'.text) (ha : a.text = a'.text)
    (hx : x.text = x'.text) (prn : Int) (r : Content D) :
    updateSvStatus c prn e a x r = updateSvStatus c prn e' a' x' r := by
  have hstore : ∀ svid k used, storeSv c svid k used e a x = storeSv c svid k used e' a' x' := by
    intro svid k used
    unfold storeSv
    rw [he, ha, hx]
  simp [updateSvStatus, hstore]

variable (s : GsvSentence) (usedInFix : Nat → Bool)

theorem GsvSentence.gsvSatellite_eq {idx : Nat} (hidx : idx < s.sats.length) (hfour : idx < 4)
    (r : Content D) :
    (gsvSatellite c s.constellation (tokenizerInit s.sentence.line) r idx).1 = s.sats[idx].store c r := by
  have htoken : ∀ j < 4, (tokenizerGet (tokenizerInit s.sentence.line) (4 * (idx + 1) + j)).text =
      (s.sats[idx].fields[j]?).getD [] := fun j hj => s.token_sat hidx hfour hj
  have hid : str2int (tokenizerGet (tokenizerInit s.sentence.line) (4 * (idx + 1))).text = s.sats[idx].id.value := by
    rw [← s.sats[idx].id.str2int_eq]
    exact congrArg str2int (htoken 0 (by decide))
  unfold gsvSatellite store
  simp only
  rw [hid, s.sats_of _ (getElem_mem hidx)]
  exact congrArg Prod.fst (updateSvStatus_text c (htoken 1 (by decide)) (htoken 2 (by decide)) (htoken 3 (by decide)) _ r)

theorem GsvSentence.feed_gsvSatellite (hfour : s.sats.length ≤ 4) (r : Content D) {n : Nat}
    (hn : n ≤ s.sats.length) :
    (feed (gsvSatellite c s.constellation (tokenizerInit s.sentence.line)) r (List.range n)).1 =
      (s.sats.take n).foldl (fun r sat => sat.store c r) r := by
  induction n with
  | zero => rfl
  | succ n ih =>
    rw [range_succ, feed_append, feed_singleton, ih (by omega), take_succ_eq_append_getElem hn,
      foldl_append, s.gsvSatellite_eq c hn (by omega)]
    rfl

/-- **A GSV sentence** whose header has as many satellites for it as it lists. -/
theorem GsvSentence.readLine_sats (hfour : s.sats.length ≤ 4)
    (hnum : GsvHeader.svNum ⟨s.num.value, s.seq.value, s.cnt.value⟩ = s.sats.length) (r : Content D) :
    readLine c r s.sentence.line =
      (gsvClose ⟨s.num.value, s.seq.value, s.cnt.value⟩
        (s.sats.foldl (fun r sat => sat.store c r) (gsvOpen ⟨s.num.value, s.seq.value, s.cnt.value⟩ r))).1 := by
  rw [s.readLine_eq, parseGsv, s.header_eq, hnum]
  rw [s.feed_gsvSatellite c hfour _ (Nat.le_refl _), take_length]

theorem GsvSet.position {set : GsvSet} {s : GsvSentence} (h : set.sentences = pre ++ s :: post) :
    4 * pre.length ≤ (satsOf set.sentences).length := by
  cases pre with
  | nil => exact Nat.zero_le _
  | cons p pre =>
    -- only the first sentence can be without satellites
    have hmem : s ∈ set.sentences.tail := by
      rw [h]
      exact mem_append_right _ mem_cons_self
    have hlength := set.sats_length _ s post h
    have hpos := length_pos_iff.mpr (set.sats_ne_nil s hmem)
    omega

theorem GsvSet.svNum_eq {set : GsvSet} {s : GsvSentence} (h : set.sentences = pre ++ s :: post) :
    GsvHeader.svNum ⟨s.num.value, s.seq.value, s.cnt.value⟩ = s.sats.length := by
  have hmem : s ∈ set.sentences := h ▸ mem_append_right _ mem_cons_self
  have hposition := set.position h
  have hle := set.sats_le
  unfold GsvHeader.svNum nmeaMaxSvInfo
  simp only
  rw [set.seq_eq pre s post h, set.cnt_eq s hmem, set.sats_length pre s post h]
  have hseq : int32 (((pre.length + 1 : Nat) : Int) - 1) = pre.length := by
    rw [int32_of_bounds (by omega) (by omega)]
    omega
  rw [hseq, int32_of_bounds (show (0 : Int) ≤ pre.length * 4 by omega) (by omega),
    int32_of_bounds (by omega) (by omega)]
  omega

/-- The state before a sentence, by the sentences of its set before it: the set has not begun, or its satellites are
    counted. -/
def Midway (used : Nat → Bool) (done : List (GnssSv D)) (pre : List GsvSentence) (r : Content D) : Prop :=
  if pre = [] then Complete c used done r
  else Collecting c used done.length (done ++ (satsOf pre).flatMap (stored c · used)) r

theorem Midway.gsvOpen (h : Midway c used done pre r) {header : GsvHeader}
    (hseq : header.seq = (pre.length + 1 : Nat)) :
    Collecting c used done.length (done ++ (satsOf pre).flatMap (stored c · used)) (gsvOpen header r) := by
  unfold Nmea.gsvOpen
  cases pre with
  | nil =>
    rw [if_pos (show header.seq = 1 from hseq)]
    have hnil : done ++ (satsOf []).flatMap (stored c · used) = done := append_nil done
    rw [hnil]
    exact ⟨⟨h.used_eq, h.list_eq, h.num_eq⟩, Nat.le_refl _, Int.zero_add _⟩
  | cons p pre =>
    rw [if_neg (by rw [hseq, length_cons]; omega)]
    exact h

theorem Collecting.gsvClose (h : Collecting c used closed done r) (hfits : done.length ≤ gnssMaxSvs)
    {header : GsvHeader} (hlast : header.seq = header.num) (hcnt : (done.length : Int) ≤ closed + header.cnt) :
    Complete c used done (gsvClose header r).1 := by
  have hbound : gnssMaxSvs = 64 := rfl
  have hcount := h.count_eq
  unfold Nmea.gsvClose
  rw [if_pos hlast, if_pos (show r.svCount ≤ header.cnt by omega)]
  refine ⟨h.used_eq, h.list_eq, ?_⟩
  show int32 (r.numSvs + r.svCount) = done.length
  rw [h.num_eq, int32_of_bounds (by omega) (by omega)]
  omega

theorem satsOf_append (l l' : List GsvSentence) : satsOf (l ++ l') = satsOf l ++ satsOf l' := flatMap_append

theorem satsOf_cons (l : List GsvSentence) : satsOf (s :: l) = s.sats ++ satsOf l := flatMap_cons

/-- **A sentence of a set** leaves the next one what it needs, and the last one closes the set. -/
theorem GsvSet.read_midway {set : GsvSet} {s : GsvSentence} (h : set.sentences = pre ++ s :: post)
    (hroom : done.length + (satsOf set.sentences).length ≤ gnssMaxSvs) (hmid : Midway c used done pre r) :
    (post ≠ [] → Midway c used done (pre ++ [s]) (readLine c r s.sentence.line)) ∧
      (post = [] →
        Complete c used (done ++ (satsOf set.sentences).flatMap (stored c · used)) (readLine c r s.sentence.line)) := by
  have hmem : s ∈ set.sentences := h ▸ mem_append_right _ mem_cons_self
  have hfour : s.sats.length ≤ 4 := by
    rw [set.sats_length pre s post h]
    exact Nat.min_le_left _ _
  have hsats : satsOf set.sentences = satsOf pre ++ (s.sats ++ satsOf post) := by rw [h, satsOf_append, satsOf_cons]
  have hseq := set.seq_eq pre s post h
  have hpre := length_flatMap_stored c (satsOf pre) used
  have hlength := congrArg List.length hsats
  rw [length_append, length_append] at hlength
  rw [s.readLine_sats c hfour (set.svNum_eq h)]
  -- the satellites of this sentence are stored behind those of the ones before
  have hopened : Collecting c used done.length (done ++ (satsOf pre).flatMap (stored c · used))
      (gsvOpen ⟨s.num.value, s.seq.value, s.cnt.value⟩ r) := hmid.gsvOpen c (congrArg Nat.cast hseq)
  have hstored := stores_collecting c s.sats hopened (by rw [length_append]; omega)
  rw [append_assoc, ← flatMap_append] at hstored
  constructor
  · intro hpost
    have hnext : pre ++ [s] ≠ [] := append_ne_nil_of_right_ne_nil pre (cons_ne_nil s [])
    have hopen : ¬((s.seq.value : Int) = s.num.value) := by
      have hpos := length_pos_iff.mpr hpost
      have hnum := set.num_eq s hmem
      rw [h, length_append, length_cons] at hnum
      omega
    rw [Midway, if_neg hnext, gsvClose, if_neg hopen, satsOf_append, satsOf_cons]
    rw [show satsOf [] = [] from rfl, append_nil]
    exact hstored
  · intro hpost
    subst hpost
    rw [hsats, show satsOf [] = [] from rfl, append_nil]
    have hall := length_flatMap_stored c (satsOf pre ++ s.sats) used
    rw [length_append] at hall
    apply hstored.gsvClose c
    · rw [length_append]
      omega
    · have hnum := set.num_eq s hmem
      rw [h, length_append, length_singleton] at hnum
      show (s.seq.value : Int) = s.num.value
      omega
    · have hcnt := set.cnt_eq s hmem
      rw [length_append]
      show _ ≤ _ + (s.cnt.value : Int)
      omega

/-- **A set** adds its satellites. -/
theorem GsvSet.read_collected (set : GsvSet) (hroom : done.length + (satsOf set.sentences).length ≤ gnssMaxSvs)
    (h : Complete c used done r) :
    Complete c used (done ++ (satsOf set.sentences).flatMap (stored c · used))
      ((set.sentences.map GsvSentence.sentence).foldl (fun r s => readLine c r s.line) r) := by
  suffices hgen : ∀ (post pre : List GsvSentence) (r : Content D), set.sentences = pre ++ post → post ≠ [] →
      Midway c used done pre r →
      Complete c used (done ++ (satsOf set.sentences).flatMap (stored c · used))
        ((post.map GsvSentence.sentence).foldl (fun r s => readLine c r s.line) r) from
    hgen set.sentences [] r rfl set.ne_nil (by rw [Midway]; exact h)
  intro post
  induction post with
  | nil => exact fun _ _ _ hne _ => absurd rfl hne
  | cons s post ih =>
    intro pre r hsplit _ hmid
    obtain ⟨hnext, hlast⟩ := set.read_midway c hsplit hroom hmid
    rw [map_cons, foldl_cons]
    by_cases hpost : post = []
    · subst hpost
      exact hlast rfl
    · exact ih (pre ++ [s]) _ (by rw [hsplit, append_assoc]; rfl) hpost (hnext hpost)

theorem sets_collected (sets : List GsvSet)
    (hroom : done.length + (sets.flatMap fun set => satsOf set.sentences).length ≤ gnssMaxSvs)
    (h : Complete c used done r) :
    Complete c used (done ++ (sets.flatMap fun set => satsOf set.sentences).flatMap (stored c · used))
      ((sets.flatMap fun set => set.sentences.map GsvSentence.sentence).foldl (fun r s => readLine c r s.line) r) := by
  induction sets generalizing done r with
  | nil =>
    rw [flatMap_nil, flatMap_nil, append_nil]
    exact h
  | cons set sets ih =>
    rw [flatMap_cons, length_append] at hroom
    have hset := set.read_collected c (by omega) h
    have hshort := length_flatMap_stored c (satsOf set.sentences) used
    have hrest := ih (by rw [length_append]; omega) hset
    rw [flatMap_cons, flatMap_append, ← append_assoc, flatMap_cons, foldl_append]
    exact hrest

/-! ## GSA sentences -/

def Gsa.mark (used : Nat → Bool) (g : Gsa) : Nat → Bool :=
  if g.mode.value = 2 ∨ g.mode.value = 3 then
    (g.ids.map fun id => satelliteId g.constellation id.value).foldl markUsed used
  else used

theorem Numeral.text_ne_nil {n : Numeral} (h : 1 ≤ n.value) : n.text ≠ [] := by
  intro hnil
  rw [Numeral.value, hnil] at h
  exact absurd h (by decide)

theorem Gsa.token_ids (g : Gsa) :
    ((List.range 12).map fun idx => (tokenizerGet (tokenizerInit g.sentence.line) (idx + 3)).text) =
      g.ids.map Numeral.text ++ List.replicate (12 - g.ids.length) [] := by
  have hle := g.ids_le
  have hlength : (g.ids.map Numeral.text ++ List.replicate (12 - g.ids.length) []).length = 12 := by
    rw [length_append, length_map, length_replicate]
    omega
  apply ext_getElem
  · rw [hlength, length_map, length_range]
  · intro i hi hi'
    rw [getElem_map, getElem_range, g.sentence.token_line (show i + 3 < 24 by omega)]
    show ((g.ids.map Numeral.text ++ List.replicate (12 - g.ids.length) [] ++ g.rest)[i]?).getD [] = _
    rw [getElem?_append_left hi', getElem?_eq_getElem hi', Option.getD_some]

theorem Gsa.gsaSatellites_eq (g : Gsa) :
    gsaSatellites g.constellation (tokenizerInit g.sentence.line) =
      g.ids.map fun id => satelliteId g.constellation id.value := by
  have htexts := g.token_ids
  have htext : ∀ l : List Token, (l.takeWhile (·.text ≠ [])).map (fun tok => satelliteId g.constellation
      (str2int tok.text)) = ((l.map Token.text).takeWhile (· ≠ [])).map fun t => satelliteId g.constellation
      (str2int t) := by
    intro l
    rw [takeWhile_map, map_map]
    rfl
  have hids : ∀ t ∈ g.ids.map Numeral.text, decide (t ≠ []) = true := by
    intro t ht
    obtain ⟨id, hid, rfl⟩ := mem_map.mp ht
    exact decide_eq_true (Numeral.text_ne_nil (hasId_le (g.ids_mem id hid)).1)
  rw [gsaSatellites, htext]
  show ((((List.range 12).map fun idx => (tokenizerGet (tokenizerInit g.sentence.line) (idx + 3)).text)).takeWhile
    (· ≠ [])).map _ = _
  rw [htexts, takeWhile_append_of_pos hids, takeWhile_replicate, if_neg (by simp), append_nil, map_map]
  apply map_congr_left
  intro id _
  show satelliteId g.constellation (str2int id.text) = _
  rw [id.str2int_eq]

/-- **A GSA sentence** changes the table only. -/
theorem Gsa.read_collected (g : Gsa) (h : Collected c used closed done r) :
    Collected c (g.mark used) closed done (readLine c r g.sentence.line) := by
  have hmode : str2int (tokenizerGet (tokenizerInit g.sentence.line) 2).text = g.mode.value := by
    rw [g.sentence.token_line (by decide)]
    exact g.mode.str2int_eq
  rw [g.readLine_eq, parseGsa]
  simp only [hmode, Content.locFixed, g.gsaSatellites_eq]
  unfold Gsa.mark
  by_cases hfixed : g.mode.value = 2 ∨ g.mode.value = 3
  · have hfixed' : ((g.mode.value : Int) == 2 || (g.mode.value : Int) == 3) = true := by
      rw [Bool.or_eq_true, beq_iff_eq, beq_iff_eq]
      omega
    rw [if_pos hfixed, if_pos hfixed']
    exact ⟨by show _ = _; rw [h.used_eq], h.list_eq, h.num_eq⟩
  · have hfixed' : ¬((g.mode.value : Int) == 2 || (g.mode.value : Int) == 3) = true := by
      rw [Bool.or_eq_true, beq_iff_eq, beq_iff_eq]
      omega
    rw [if_neg hfixed, if_neg hfixed']
    exact ⟨h.used_eq, h.list_eq, h.num_eq⟩

theorem gsas_collected (gsas : List Gsa) (h : Collected c used closed done r) :
    Collected c (gsas.foldl Gsa.mark used) closed done
      ((gsas.map Gsa.sentence).foldl (fun r s => readLine c r s.line) r) := by
  induction gsas generalizing used r with
  | nil => exact h
  | cons g gsas ih =>
    rw [foldl_cons, map_cons, foldl_cons]
    exact ih (g.read_collected c h)

/-! ## The marks -/

theorem foldl_markUsed_iff (ids : List Int) (used : Nat → Bool) (i : Nat) :
    ids.foldl markUsed used i = true ↔ used i = true ∨ ∃ id ∈ ids, (0 ≤ id ∧ id < usedInFixSize) ∧ id.toNat = i := by
  induction ids generalizing used with
  | nil => simp
  | cons id ids ih =>
    rw [foldl_cons, ih, markUsed]
    split
    · next hin =>
        simp only [Bool.or_eq_true, beq_iff_eq, exists_mem_cons_iff, hin, true_and]
        rw [or_comm (a := i = id.toNat), or_assoc, eq_comm (a := i)]
    · next hout => simp only [exists_mem_cons_iff, hout, false_and, false_or]

theorem Gsa.mark_iff (g : Gsa) (used : Nat → Bool) {k : SvType} {id : Nat} (h : HasId k id) :
    g.mark used (id + offset k) = true ↔ used (id + offset k) = true ∨ g.Names k id := by
  unfold Gsa.mark Gsa.Names
  by_cases hfixed : g.mode.value = 2 ∨ g.mode.value = 3
  · rw [if_pos hfixed, foldl_markUsed_iff]
    refine or_congr Iff.rfl ?_
    constructor
    · rintro ⟨x, hx, -, hslot⟩
      obtain ⟨n, hn, rfl⟩ := mem_map.mp hx
      rw [satelliteId_eq (g.ids_mem n hn)] at hslot
      obtain ⟨hk, hid⟩ := offset_injective (g.ids_mem n hn) h hslot
      exact ⟨hk, hfixed, n, hn, hid⟩
    · rintro ⟨hk, -, n, hn, hid⟩
      have hslot := slot_lt h
      have hsize : usedInFixSize = 450 := rfl
      refine ⟨satelliteId g.constellation n.value, mem_map_of_mem hn, ?_, ?_⟩
      · rw [satelliteId_eq (g.ids_mem n hn), hk]
        omega
      · rw [satelliteId_eq (g.ids_mem n hn), Int.toNat_natCast, hk, hid]
  · rw [if_neg hfixed]
    constructor
    · exact Or.inl
    · rintro (hused | ⟨-, hmode, -⟩)
      · exact hused
      · exact absurd hmode hfixed

/-- **The marks after the GSA sentences**: those of the table before, and those of the satellites named. -/
theorem marks_named (gsas : List Gsa) (used : Nat → Bool) {k : SvType} {id : Nat} (h : HasId k id) :
    gsas.foldl Gsa.mark used (id + offset k) = true ↔ used (id + offset k) = true ∨ ∃ g ∈ gsas, g.Names k id := by
  induction gsas generalizing used with
  | nil => simp
  | cons g gsas ih => rw [foldl_cons, ih, g.mark_iff used h, exists_mem_cons_iff, or_assoc]

/-! ## Buffers of lines -/

theorem frames_flatten (h : AreLines lines) (tail : List Byte) :
    frames newline (lines.flatten ++ tail) = lines ++ frames newline tail ∧
      rest newline (lines.flatten ++ tail) = rest newline tail := by
  induction lines with
  | nil => exact ⟨rfl, rfl⟩
  | cons l lines ih =>
    obtain ⟨body, hbody, rfl⟩ := h l mem_cons_self
    obtain ⟨hframes, hrest⟩ := ih (fun l hl => h l (mem_cons_of_mem _ hl))
    rw [flatten_cons, append_assoc, append_assoc, singleton_append, frames_frame _ hbody,
      rest_frame _ hbody, hframes, hrest]
    exact ⟨rfl, rfl⟩

theorem takeLines_readLine (hfits : ∀ l ∈ lines, l.length ≤ nmeaMaxSize) (hread : ∀ l ∈ lines, Readable l)
    (r : Content D) : inStepAfter true lines = true ∧ (takeLines c true r lines).1 = lines.foldl (readLine c) r := by
  induction lines generalizing r with
  | nil => exact ⟨rfl, rfl⟩
  | cons l lines ih =>
    have hl := hfits l mem_cons_self
    have hstep : stepAfter true l = true := by
      have hne : (l.length == nmeaMaxSize + 1) = false := beq_eq_false_iff_ne.mpr (by omega)
      rw [stepAfter, hne]
      rfl
    have htake : (takeLine c false true r l).1 = readLine c r l :=
      (takeLine_effects c ⟨by rw [takes, Bool.true_and, decide_eq_true hl], hread l mem_cons_self⟩ r).1
    obtain ⟨hin, hlines⟩ := ih (fun l hl => hfits l (mem_cons_of_mem _ hl))
      (fun l hl => hread l (mem_cons_of_mem _ hl)) (readLine c r l)
    rw [inStepAfter, foldl_cons, takeLines_cons, htake, hstep, foldl_cons]
    exact ⟨hin, hlines⟩

/-- **The report of a buffer of lines** that are all read: what they leave. -/
theorem svReports_lines (h : AreLines lines) (hfits : ∀ l ∈ lines, l.length ≤ nmeaMaxSize)
    (hread : ∀ l ∈ lines, Readable l) :
    svReports c usedInFix lines.flatten = (lines.foldl (readLine c) (contentInit c usedInFix)).svReport := by
  rcases eq_nil_or_concat lines with rfl | ⟨before, last, hsplit⟩
  · rfl
  · rw [concat_eq_append] at hsplit
    obtain ⟨body, hbody, hlast⟩ := h last (by rw [hsplit]; exact mem_append_right _ (mem_singleton_self _))
    have hmem : ∀ l ∈ before, l ∈ lines := fun l hl => by rw [hsplit]; exact mem_append_left _ hl
    obtain ⟨hframes, hrest⟩ := frames_flatten (fun l hl => h l (hmem l hl)) body
    have hflatten : lines.flatten = before.flatten ++ body ++ [newline] := by
      rw [hsplit, hlast, flatten_append, flatten_singleton, append_assoc]
    have hlastmem : last ∈ lines := by
      rw [hsplit]
      exact mem_append_right _ (mem_singleton_self _)
    rw [frames_open hbody, append_nil] at hframes
    rw [rest_open hbody] at hrest
    obtain ⟨hin, -⟩ := takeLines_readLine c (fun l hl => hfits l (hmem l hl)) (fun l hl => hread l (hmem l hl))
      (contentInit c usedInFix)
    rw [hflatten, svReports_read c usedInFix, ← hflatten, held_eq]
    · have hall := (frames_flatten h []).1
      rw [append_nil, frames_open not_mem_nil, append_nil] at hall
      rw [framed, hall, (takeLines_readLine c hfits hread _).2]
    · rw [hframes, hrest, hin, ← hlast]
      exact ⟨by rw [takes, Bool.true_and, decide_eq_true (hfits last hlastmem)], hread last hlastmem⟩

/-! ## The report of an epoch -/

theorem Epoch.lines_read (e : Epoch) :
    AreLines ((epochSentences e.gsas e.sets).map Sentence.line) ∧
      ∀ l ∈ (epochSentences e.gsas e.sets).map Sentence.line, Readable l := by
  constructor
  · intro l hl
    obtain ⟨s, -, rfl⟩ := mem_map.mp hl
    exact ⟨s.text, s.newline_not_mem_text, rfl⟩
  · intro l hl
    obtain ⟨s, hs, rfl⟩ := mem_map.mp hl
    rcases mem_append.mp hs with hgsa | hgsv
    · obtain ⟨g, -, rfl⟩ := mem_map.mp hgsa
      exact g.readable
    · obtain ⟨set, -, hset⟩ := mem_flatMap.mp hgsv
      obtain ⟨t, -, rfl⟩ := mem_map.mp hset
      exact t.readable

theorem contentInit_collected : Collected c usedInFix 0 [] (contentInit c usedInFix) := ⟨rfl, rfl, rfl⟩

theorem Complete.svReport (h : Complete c used done r) : r.svReport.map passed = callsFor done := by
  unfold Content.svReport callsFor
  rw [h.num_eq]
  cases done with
  | nil => rfl
  | cons sv done =>
    rw [if_pos (by rw [length_cons]; omega), if_neg (cons_ne_nil sv done), map_singleton, passed,
      h.list_eq, Int.toNat_natCast, take_left]

/-- **What is reported**: the satellites that are known, with the marks the table has after the GSA sentences. -/
theorem svReports_epoch (e : Epoch) :
    (svReports c usedInFix e.buffer).map passed =
      callsFor (e.sats.flatMap (stored c · (e.gsas.foldl Gsa.mark usedInFix))) := by
  obtain ⟨hlines, hread⟩ := e.lines_read
  have hfits : ∀ l ∈ (epochSentences e.gsas e.sets).map Sentence.line, l.length ≤ nmeaMaxSize := by
    intro l hl
    obtain ⟨s, hs, rfl⟩ := mem_map.mp hl
    exact e.fits s hs
  have hgsas := gsas_collected c e.gsas (contentInit_collected c usedInFix)
  have hsets := sets_collected c e.sets (by rw [length_nil, Nat.zero_add]; exact e.sats_le) hgsas
  rw [Epoch.buffer, svReports_lines c usedInFix hlines hfits hread, foldl_map, epochSentences, foldl_append]
  exact hsets.svReport c

theorem flatMap_eq_map_iff {α β : Type} {f : α → List β} {g : α → β} (hf : ∀ x, (f x).length ≤ 1) (l : List α) :
    l.flatMap f = l.map g ↔ ∀ x ∈ l, f x = [g x] := by
  induction l with
  | nil => simp
  | cons x l ih =>
    have hshort := length_flatMap_le hf l
    rw [flatMap_cons, map_cons, forall_mem_cons, ← ih]
    cases hx : f x with
    | nil =>
      refine iff_of_false ?_ (fun h => absurd h.1 (by simp))
      intro heq
      have hlength := congrArg List.length heq
      rw [nil_append, length_cons, length_map] at hlength
      omega
    | cons y ys =>
      have hys : ys = [] := by
        have hle := hf x
        rw [hx, length_cons] at hle
        exact length_eq_zero_iff.mp (by omega)
      rw [hys, singleton_append, List.cons.injEq, List.cons.injEq, and_iff_left rfl]

theorem callsFor_injective {svs svs' : List (GnssSv D)} : callsFor svs = callsFor svs' ↔ svs = svs' := by
  unfold callsFor
  by_cases h : svs = []
  · by_cases h' : svs' = []
    · simp [h']
    · simp [h]
  · by_cases h' : svs' = [] <;> simp [h, h']

theorem entry_injective {sat : Satellite} {used used' : Bool} :
    sat.entry c used = sat.entry c used' ↔ used = used' := by
  constructor
  · intro h
    have hflags := congrArg GnssSv.flags h
    cases used <;> cases used' <;> first | rfl | exact absurd hflags (by simp [entry])
  · exact congrArg _

/-- **The satellites are reported as they should be** exactly if none of them is the GPS satellite 32, and each that the
    table has marked when the buffer comes is named in one of its GSA sentences with a fix. -/
theorem gsv_report_iff (usedInFix : Nat → Bool) (e : Epoch) :
    (svReports c usedInFix e.buffer).map passed = callsFor (e.expected c) ↔
      ∀ sat ∈ e.sats, ¬sat.Unknown ∧ (usedInFix sat.slot = true → sat.Used e.gsas) := by
  rw [svReports_epoch, callsFor_injective, Epoch.expected,
    flatMap_eq_map_iff (fun sat => length_stored c sat (e.gsas.foldl Gsa.mark usedInFix))]
  refine forall₂_congr fun sat _ => ?_
  unfold stored
  by_cases hunknown : sat.Unknown
  · rw [if_pos hunknown]
    exact iff_of_false (cons_ne_nil _ _).symm (fun h => h.1 hunknown)
  · have hmarks := marks_named e.gsas usedInFix sat.id_mem
    rw [if_neg hunknown, List.cons.injEq, and_iff_left rfl, entry_injective, and_iff_right hunknown]
    show (e.gsas.foldl Gsa.mark usedInFix (sat.id.value + offset sat.constellation) = _) ↔ _
    rw [Bool.eq_iff_iff, hmarks, decide_eq_true_iff]
    exact ⟨fun h hused => h.mp (Or.inl hused), fun h => ⟨fun hor => hor.elim h id, Or.inr⟩⟩

/-! ### The GPS satellite 32 -/

theorem isDigit_digit (d : Fin 10) : IsDigit (digit d.val) := by
  have hnat : (digit d.val).toNat = 48 + d.val := by
    rw [digit, BitVec.toNat_ofNat]
    omega
  rw [IsDigit]
  omega

theorem isDigit_of_mem {ds : List (Fin 10)} {b : Byte} (h : b ∈ ds.map fun d => digit d.val) : IsDigit b := by
  obtain ⟨d, -, rfl⟩ := mem_map.mp h
  exact isDigit_digit d

def numeralOf (ds : List (Fin 10)) (h : ds.length ≤ 9) : Numeral where
  text := ds.map fun d => digit d.val
  digit := fun _ hb => isDigit_of_mem hb
  fits := by
    have hdigit : ∀ b ∈ ds.map fun d => digit d.val, IsDigit b := fun _ hb => isDigit_of_mem hb
    have hlt := numberFrom_lt hdigit 0
    have hpow : 10 ^ ds.length ≤ 10 ^ 9 := Nat.pow_le_pow_right (by decide) h
    rw [length_map] at hlt
    rw [number]
    omega

def GsvSet.single (hnum : s.num.value = 1) (hseq : s.seq.value = 1)
    (hcnt : s.cnt.value = s.sats.length) (hfour : s.sats.length ≤ 4) : GsvSet :=
  have hsats : (satsOf [s]).length = s.sats.length := by rw [satsOf, flatMap_singleton]
  have hpre : ∀ {pre post : List GsvSentence} {t : GsvSentence}, [s] = pre ++ t :: post → pre = [] ∧ t = s := by
    intro pre post t h
    cases pre with
    | nil => exact ⟨rfl, (List.cons.inj h).1.symm⟩
    | cons p pre => exact absurd (List.cons.inj h).2.symm (by simp)
  { constellation := s.constellation
    sentences := [s]
    sentences_of := fun t ht => by rw [mem_singleton.mp ht]
    ne_nil := cons_ne_nil s []
    num_eq := fun t ht => by rw [mem_singleton.mp ht, hnum]; rfl
    cnt_eq := fun t ht => by rw [mem_singleton.mp ht, hcnt, hsats]
    seq_eq := fun pre t post h => by rw [(hpre h).1, (hpre h).2, hseq]; rfl
    sats_length := fun pre t post h => by
      rw [(hpre h).1, (hpre h).2, hsats, length_nil]
      omega
    sats_ne_nil := fun t ht => absurd ht not_mem_nil
    sats_le := by omega }

def gpsSatellite (id : Numeral) (h : HasId .gps id.value) : Satellite where
  constellation := .gps
  id := id
  elevation := numeralOf [4, 5] (by decide)
  azimuth := numeralOf [1, 2, 0] (by decide)
  snr := (numeralOf [4, 0] (by decide)).text
  id_mem := h
  snr_plain := Numeral.plain _
  snr_short := by decide

def withGps32 : Epoch where
  gsas := [
    { constellation := .gps
      ends := ⟨true, none, true⟩
      opMode := [chr 'A']
      mode := numeralOf [3] (by decide)
      ids := [numeralOf [0, 5] (by decide), numeralOf [3, 2] (by decide)]
      rest := []
      mode_ne_nil := by decide
      ids_mem := by decide
      ids_le := by decide
      opMode_plain := fun b hb => by rw [mem_singleton.mp hb]; decide
      rest_plain := fun f hf => absurd hf not_mem_nil
      checksum_plain := fun h hh => absurd hh (Option.not_mem_none h) }]
  sets := [.single
    { constellation := .gps
      ends := ⟨true, none, true⟩
      num := numeralOf [1] (by decide)
      seq := numeralOf [1] (by decide)
      cnt := numeralOf [0, 2] (by decide)
      sats := [gpsSatellite (numeralOf [0, 5] (by decide)) (by decide),
        gpsSatellite (numeralOf [3, 2] (by decide)) (by decide)]
      rest := []
      sats_of := by decide
      rest_plain := fun f hf => absurd hf not_mem_nil
      checksum_plain := fun h hh => absurd hh (Option.not_mem_none h) } (by decide) (by decide) (by decide) (by decide)]
  fits := by decide
  sats_le := by decide

/-- Of the satellites 5 and 32, both in view and used in the fix, 5 alone is reported. -/
theorem gps_32_not_reported :
    withGps32.buffer = "$GPGSA,A,3,05,32,,,,,,,,,,\r\n$GPGSV,1,1,02,05,45,120,40,32,45,120,40\r\n".toList.map chr ∧
      (svReports exactLibc (fun _ => false) withGps32.buffer).map (fun p => (passed p).map GnssSv.svid) = [[5]] ∧
      (withGps32.expected exactLibc).map GnssSv.svid = [5, 32] ∧
      (svReports exactLibc (fun _ => false) withGps32.buffer).map passed ≠ callsFor (withGps32.expected exactLibc) := by
  have hreported : (svReports exactLibc (fun _ => false) withGps32.buffer).map (fun p => (passed p).map GnssSv.svid) =
      [[5]] := by
    decide +kernel
  have hexpected : (callsFor (withGps32.expected exactLibc)).map (List.map GnssSv.svid) = [[5, 32]] := by decide +kernel
  refine ⟨by decide +kernel, hreported, by decide +kernel, ?_⟩
  intro heq
  have hids := congrArg (List.map (List.map GnssSv.svid)) heq
  exact absurd (hreported.symm.trans hids) (by decide)

end HuaweiY5.Nmea
