import HuaweiY5.Nmea.Reader

/-!
# `Nmea.Tokenizer` — the tokens of a sentence as pointers into it

`nmea_tokenizer_init` works with pointers: it moves `p` and `end` inwards over the `$`, the line end and the checksum,
and then cuts the rest at its commas, one pass of a loop for each token. Here a token is the pair of offsets it stores.
One level up, the sentence without these ends is split at its commas (`fields`). The tokens are the first 24 of these
fields, except that a last field that is empty is no token: the loop ends when `p` has reached `end`.
-/

namespace HuaweiY5.Nmea

open List

open Codec (Byte)

/-! ## Pointers -/

/-- `Token`: the offsets of `p` and `end` in the sentence. -/
structure Span where
  p : Nat
  stop : Nat
  deriving DecidableEq

/-- The characters from `p` to `stop`. -/
def slice (s : List Byte) (p stop : Nat) : List Byte := (s.drop p).take (stop - p)

def Span.text (s : List Byte) (t : Span) : List Byte := slice s t.p t.stop

/-- The token of `Nmea.Reader` it stands for. -/
def Span.token (s : List Byte) (t : Span) : Token := ⟨t.text s, s[t.p]?.getD 0⟩

/-- `memchr(p, ',', end-p)`. -/
def memchr (s : List Byte) (p stop : Nat) : Option Nat := ((slice s p stop).findIdx? (· == chr ',')).map (p + ·)

/-- The loop of `nmea_tokenizer_init`; every pass moves `p` on, so that the characters left bound the passes. -/
def spanLoop (s : List Byte) (stop : Nat) : Nat → Nat → List Span
  | 0, _ => []
  | n + 1, p =>
    if p < stop then
      let q := (memchr s p stop).getD stop
      ⟨p, q⟩ :: spanLoop s stop n (if q < stop then q + 1 else q)
    else []

/-- `p` behind the initial `$`. -/
def startOf (s : List Byte) : Nat := if 0 < s.length ∧ s[0]? = some (chr '$') then 1 else 0

/-- `end` before the newline and the carriage return. -/
def beforeNewline (s : List Byte) (p stop : Nat) : Nat :=
  if p < stop ∧ s[stop - 1]? = some newline then
    if p < stop - 1 ∧ s[stop - 1 - 1]? = some (chr '\r') then stop - 1 - 1 else stop - 1
  else stop

/-- `end` before the checksum. -/
def beforeChecksum (s : List Byte) (p stop : Nat) : Nat :=
  if p + 3 ≤ stop ∧ s[stop - 3]? = some (chr '*') then stop - 3 else stop

/-- `p` and `end` when the loop starts. -/
def bounds (s : List Byte) : Nat × Nat :=
  (startOf s, beforeChecksum s (startOf s) (beforeNewline s (startOf s) s.length))

/-- `nmea_tokenizer_init`: no more tokens are stored than there is room for. -/
def tokenizerSpans (s : List Byte) : List Span :=
  (spanLoop s (bounds s).2 ((bounds s).2 - (bounds s).1) (bounds s).1).take maxNmeaTokens

/-- `nmea_tokenizer_get`; none is the `dummy`. -/
def getSpan (t : List Span) (index : Int) : Option Span :=
  if index < 0 ∨ (t.length : Int) ≤ index then none else t[index.toNat]?

/-! ## Slices -/

section Slices

variable {s : List Byte} {p q stop : Nat}

theorem length_slice (hstop : stop ≤ s.length) : (slice s p stop).length = stop - p := by
  rw [slice, length_take, length_drop]
  omega

theorem getElem?_slice {i : Nat} (hi : i < stop - p) : (slice s p stop)[i]? = s[p + i]? := by
  rw [slice, getElem?_take_of_lt hi, getElem?_drop]

theorem take_slice (h : q ≤ stop) : (slice s p stop).take (q - p) = slice s p q := by
  rw [slice, slice, take_take, Nat.min_eq_left (by omega)]

theorem drop_slice (k : Nat) : (slice s p stop).drop k = slice s (p + k) stop := by
  rw [slice, drop_take, drop_drop]
  congr 1
  omega

theorem slice_eq_nil (h : stop ≤ p) : slice s p stop = [] := by
  rw [slice, show stop - p = 0 by omega, take_zero]

theorem getElem?_slice_end {k : Nat} (hstop : stop ≤ s.length) (hk : p + k < stop) :
    (slice s p stop)[(slice s p stop).length - (k + 1)]? = s[stop - (k + 1)]? := by
  rw [length_slice hstop, getElem?_slice (by omega)]
  congr 1
  omega

theorem getLast?_slice (hstop : stop ≤ s.length) (hp : p < stop) : (slice s p stop).getLast? = s[stop - 1]? := by
  rw [getLast?_eq_getElem?]
  exact getElem?_slice_end (k := 0) hstop (by omega)

theorem dropLast_slice (hstop : stop ≤ s.length) : (slice s p stop).dropLast = slice s p (stop - 1) := by
  rw [dropLast_eq_take, length_slice hstop, show stop - p - 1 = stop - 1 - p by omega, take_slice (by omega)]

end Slices

/-! ## The ends of a sentence -/

section Ends

variable {s : List Byte} {p stop : Nat}

theorem slice_startOf (s : List Byte) :
    slice s (startOf s) s.length = if s.head? = some (chr '$') then s.tail else s := by
  cases s with
  | nil => rfl
  | cons b s =>
    by_cases hb : b = chr '$' <;> simp [startOf, slice, hb]

theorem startOf_le (s : List Byte) : startOf s ≤ s.length := by
  unfold startOf
  split <;> omega

theorem beforeNewline_bounds (h : p ≤ stop) : p ≤ beforeNewline s p stop ∧ beforeNewline s p stop ≤ stop := by
  unfold beforeNewline
  split
  · split <;> omega
  · omega

theorem slice_beforeNewline (hp : p ≤ stop) (hstop : stop ≤ s.length) : slice s p (beforeNewline s p stop) =
    if (slice s p stop).getLast? = some newline then
      if (slice s p stop).dropLast.getLast? = some (chr '\r') then (slice s p stop).dropLast.dropLast
      else (slice s p stop).dropLast
    else slice s p stop := by
  unfold beforeNewline
  by_cases hlt : p < stop
  · rw [getLast?_slice hstop hlt, dropLast_slice hstop]
    by_cases hnl : s[stop - 1]? = some newline
    · rw [if_pos ⟨hlt, hnl⟩, if_pos hnl]
      by_cases hlt' : p < stop - 1
      · rw [getLast?_slice (by omega) hlt', dropLast_slice (by omega)]
        by_cases hcr : s[stop - 1 - 1]? = some (chr '\r')
        · rw [if_pos ⟨hlt', hcr⟩, if_pos hcr]
        · rw [if_neg (fun h => hcr h.2), if_neg hcr]
      · -- nothing is left for a carriage return
        rw [if_neg (fun h => hlt' h.1), slice_eq_nil (by omega)]
        rfl
    · rw [if_neg (fun h => hnl h.2), if_neg hnl]
  · rw [if_neg (fun h => hlt h.1), slice_eq_nil (by omega)]
    rfl

theorem beforeChecksum_bounds (h : p ≤ stop) : p ≤ beforeChecksum s p stop ∧ beforeChecksum s p stop ≤ stop := by
  unfold beforeChecksum
  split <;> omega

theorem slice_beforeChecksum (hstop : stop ≤ s.length) : slice s p (beforeChecksum s p stop) =
    if 3 ≤ (slice s p stop).length ∧ (slice s p stop)[(slice s p stop).length - 3]? = some (chr '*') then
      (slice s p stop).take ((slice s p stop).length - 3)
    else slice s p stop := by
  unfold beforeChecksum
  by_cases hlen : p + 3 ≤ stop
  · rw [getElem?_slice_end (k := 2) hstop (by omega), length_slice hstop]
    by_cases hstar : s[stop - 3]? = some (chr '*')
    · rw [if_pos ⟨hlen, hstar⟩, if_pos ⟨by omega, hstar⟩, show stop - p - 3 = stop - 3 - p by omega,
        take_slice (by omega)]
    · rw [if_neg (fun h => hstar h.2), if_neg (fun h => hstar h.2)]
  · rw [if_neg (fun h => hlen h.1), if_neg (fun h => hlen (by have := h.1; rw [length_slice hstop] at this; omega))]

theorem bounds_le (s : List Byte) : (bounds s).1 ≤ (bounds s).2 ∧ (bounds s).2 ≤ s.length := by
  have hnl := beforeNewline_bounds (s := s) (startOf_le s)
  have hck := beforeChecksum_bounds (s := s) hnl.1
  exact ⟨hck.1, Nat.le_trans hck.2 hnl.2⟩

theorem slice_bounds (s : List Byte) : slice s (bounds s).1 (bounds s).2 = trim s := by
  have hnl := beforeNewline_bounds (s := s) (startOf_le s)
  unfold bounds trim
  rw [slice_beforeChecksum hnl.2, slice_beforeNewline (startOf_le s) (Nat.le_refl _), slice_startOf]

end Ends

/-! ## The loop -/

section Loop

variable {s : List Byte} {p stop : Nat}

theorem findIdx?_comma (l : List Byte) :
    (l.findIdx? (· == chr ',')).getD l.length = (l.takeWhile (· ≠ chr ',')).length := by
  induction l with
  | nil => rfl
  | cons b l ih =>
    rw [findIdx?_cons, takeWhile_cons]
    by_cases hb : b = chr ','
    · simp [hb]
    · have hne : (b == chr ',') = false := beq_eq_false_iff_ne.mpr hb
      rw [hne, if_pos (decide_eq_true hb), length_cons, length_cons, ← ih]
      cases l.findIdx? (· == chr ',') with
      | none | some i => rfl

theorem memchr_getD (hp : p ≤ stop) (hstop : stop ≤ s.length) :
    (memchr s p stop).getD stop = p + ((slice s p stop).takeWhile (· ≠ chr ',')).length := by
  rw [memchr, ← findIdx?_comma, length_slice hstop]
  cases (slice s p stop).findIdx? (· == chr ',') with
  | none => exact (Nat.add_sub_cancel' hp).symm
  | some i => rfl

theorem take_takeWhile_length (l : List Byte) (f : Byte → Bool) : l.take (l.takeWhile f).length = l.takeWhile f := by
  calc l.take (l.takeWhile f).length
      = (l.takeWhile f ++ l.dropWhile f).take (l.takeWhile f).length := by rw [takeWhile_append_dropWhile]
    _ = l.takeWhile f := take_left

theorem drop_takeWhile_length (l : List Byte) (f : Byte → Bool) : l.drop (l.takeWhile f).length = l.dropWhile f := by
  calc l.drop (l.takeWhile f).length
      = (l.takeWhile f ++ l.dropWhile f).drop (l.takeWhile f).length := by rw [takeWhile_append_dropWhile]
    _ = l.dropWhile f := drop_left

theorem slice_eq_cons (hstop : stop ≤ s.length) (hlt : p < stop) :
    slice s p stop = s[p]?.getD 0 :: slice s (p + 1) stop := by
  have hp : p < s.length := by omega
  rw [slice, slice, drop_eq_getElem_cons hp, getElem?_eq_getElem hp,
    show stop - p = stop - (p + 1) + 1 by omega, take_succ_cons]
  rfl

theorem spanLoop_eq (hstop : stop ≤ s.length) (n p : Nat) (hp : p ≤ stop) :
    (spanLoop s stop n p).map (Span.token s) = tokens n (slice s p stop) := by
  induction n generalizing p with
  | zero => rfl
  | succ n ih =>
    rw [spanLoop]
    by_cases hlt : p < stop
    · generalize hk : ((slice s p stop).takeWhile (· ≠ chr ',')).length = k
      have hq : (memchr s p stop).getD stop = p + k := by rw [memchr_getD hp hstop, hk]
      have hle : k ≤ stop - p := by
        rw [← hk, ← length_slice (p := p) hstop]
        exact (takeWhile_sublist _).length_le
      have htext : slice s p (p + k) = (slice s p stop).takeWhile (· ≠ chr ',') := by
        have hle : p + k ≤ stop := by omega
        rw [← take_slice hle, Nat.add_sub_cancel_left, ← hk, take_takeWhile_length]
      -- behind the comma, or at the end
      have hrest : slice s (if p + k < stop then p + k + 1 else p + k) stop =
          ((slice s p stop).dropWhile (· ≠ chr ',')).tail := by
        rw [← drop_takeWhile_length, hk, drop_slice]
        split
        · rw [← drop_one, drop_slice]
        · rw [slice_eq_nil (by omega)]
          rfl
      have hnext : (if p + k < stop then p + k + 1 else p + k) ≤ stop := by
        split <;> omega
      simp only [if_pos hlt, hq, map_cons]
      rw [ih _ hnext, hrest, slice_eq_cons hstop hlt, tokens, ← slice_eq_cons hstop hlt, Span.token, Span.text, htext]
    · rw [if_neg hlt, slice_eq_nil (by omega)]
      rfl

theorem spanLoop_inside (hstop : stop ≤ s.length) (n p : Nat) (hp : p ≤ stop) :
    ∀ t ∈ spanLoop s stop n p, p ≤ t.p ∧ t.p ≤ t.stop ∧ t.stop ≤ stop := by
  induction n generalizing p with
  | zero => exact fun t ht => absurd ht not_mem_nil
  | succ n ih =>
    intro t ht
    rw [spanLoop] at ht
    by_cases hlt : p < stop
    · have hq := memchr_getD hp hstop
      have hle : ((slice s p stop).takeWhile (· ≠ chr ',')).length ≤ stop - p := by
        rw [← length_slice (p := p) hstop]
        exact (takeWhile_sublist _).length_le
      rw [if_pos hlt] at ht
      generalize (memchr s p stop).getD stop = q at hq ht
      rcases mem_cons.mp ht with rfl | ht
      · exact ⟨Nat.le_refl _, by show p ≤ q; omega, by show q ≤ stop; omega⟩
      · have hrest := ih _ (by split <;> omega) t ht
        refine ⟨?_, hrest.2⟩
        split at hrest <;> omega
    · rw [if_neg hlt] at ht
      cases ht

end Loop

theorem tokenizerSpans_token (s : List Byte) : (tokenizerSpans s).map (Span.token s) = tokenizerInit s := by
  obtain ⟨hp, hstop⟩ := bounds_le s
  rw [tokenizerSpans, map_take, spanLoop_eq hstop _ _ hp, tokenizerInit, ← slice_bounds, length_slice hstop]

theorem tokenizerSpans_inside (s : List Byte) : ∀ t ∈ tokenizerSpans s, t.p ≤ t.stop ∧ t.stop ≤ s.length := by
  obtain ⟨hp, hstop⟩ := bounds_le s
  intro t ht
  have h := spanLoop_inside hstop _ _ hp t (mem_of_mem_take ht)
  exact ⟨h.2.1, Nat.le_trans h.2.2 hstop⟩

/-! ## Fields -/

variable (body : List Byte)

def fields : List (List Byte) := body.splitOn (chr ',')

/-- A field by its number, unless it is the last one and empty. -/
def field (i : Nat) : Option (List Byte) :=
  if i + 1 = (fields body).length ∧ (fields body)[i]? = some [] then none else (fields body)[i]?

def keptFields (fs : List (List Byte)) : List (List Byte) := if fs.getLast? = some [] then fs.dropLast else fs

theorem keptFields_cons (f : List Byte) {fs : List (List Byte)} (h : fs ≠ []) :
    keptFields (f :: fs) = f :: keptFields fs := by
  unfold keptFields
  cases fs with
  | nil => exact absurd rfl h
  | cons g gs =>
    rw [getLast?_cons_cons]
    split <;> rfl

theorem getElem?_keptFields (fs : List (List Byte)) (i : Nat) :
    (keptFields fs)[i]? = if i + 1 = fs.length ∧ fs[i]? = some [] then none else fs[i]? := by
  unfold keptFields
  rw [getLast?_eq_getElem?]
  by_cases hi : i + 1 = fs.length
  · have hlast : fs.length - 1 = i := by omega
    rw [hlast]
    by_cases hempty : fs[i]? = some []
    · rw [if_pos hempty, if_pos ⟨hi, hempty⟩, getElem?_eq_none]
      rw [length_dropLast]
      omega
    · rw [if_neg hempty, if_neg (fun h => hempty h.2)]
  · simp only [hi, false_and, if_false]
    split
    · rw [getElem?_dropLast]
      split
      · rfl
      · rw [getElem?_eq_none (by omega)]
    · rfl

theorem fields_ne_nil : fields body ≠ [] := splitOn_ne_nil _ _

theorem fields_of_comma {f : List Byte} (hf : chr ',' ∉ f) (rest : List Byte) :
    fields (f ++ chr ',' :: rest) = f :: fields rest := by
  apply splitOnP_append_cons_of_forall_mem
  · intro b hb
    apply beq_eq_false_iff_ne.mpr
    rintro rfl
    exact hf hb
  · exact beq_self_eq_true _

theorem fields_of_no_comma {f : List Byte} (hf : chr ',' ∉ f) : fields f = [f] := splitOn_eq_singleton hf

theorem comma_not_mem_takeWhile (l : List Byte) : chr ',' ∉ l.takeWhile (· ≠ chr ',') := by
  intro h
  have hne := mem_takeWhile_imp h
  simp at hne

/-- **The tokens are the fields**, without an empty last one. -/
theorem tokens_eq_fields (n : Nat) (body : List Byte) (hn : body.length ≤ n) :
    (tokens n body).map Token.text = keptFields (fields body) := by
  induction n generalizing body with
  | zero =>
    obtain rfl : body = [] := length_eq_zero_iff.mp (Nat.le_zero.mp hn)
    rfl
  | succ n ih =>
    cases body with
    | nil => rfl
    | cons b bs =>
      rw [tokens, map_cons]
      have hsplit := takeWhile_append_dropWhile (p := (· ≠ chr ',')) (l := b :: bs)
      have hno := comma_not_mem_takeWhile (b :: bs)
      cases hdrop : (b :: bs).dropWhile (· ≠ chr ',') with
      | nil =>
        -- the last field, and it is not empty
        rw [hdrop, append_nil] at hsplit
        rw [hsplit] at hno ⊢
        rw [fields_of_no_comma hno]
        cases n with
        | zero | succ n => rfl
      | cons sep rest =>
        have hsep : sep = chr ',' := by
          have h := head?_dropWhile_not (p := (· ≠ chr ',')) (l := b :: bs)
          rw [hdrop] at h
          simpa using h
        rw [hdrop, hsep] at hsplit
        have hlen : rest.length ≤ n := by
          have h := congrArg List.length hsplit
          simp only [length_append, length_cons] at h hn
          omega
        rw [tail_cons, ih rest hlen, ← keptFields_cons _ (fields_ne_nil rest), ← fields_of_comma hno rest, hsplit]

/-- **The tokenizer splits at the commas.** The token with a number is the field with that number, if the number is less
    than 24 and the field exists and is not an empty last one; else it is the empty dummy. Every other token lies inside
    of the sentence. -/
theorem tokenizer_refines_split (s : List Byte) (i : Int) :
    (getSpan (tokenizerSpans s) i).map (Span.text s) =
        (if 0 ≤ i ∧ i < maxNmeaTokens then field (trim s) i.toNat else none) ∧
      ∀ t, getSpan (tokenizerSpans s) i = some t → t.p ≤ t.stop ∧ t.stop ≤ s.length := by
  have htexts : (tokenizerSpans s).map (Span.text s) = (keptFields (fields (trim s))).take maxNmeaTokens := by
    rw [← tokens_eq_fields (trim s).length (trim s) (Nat.le_refl _), ← map_take]
    have h := congrArg (List.map Token.text) (tokenizerSpans_token s)
    rw [map_map] at h
    exact h
  constructor
  · have hget : (getSpan (tokenizerSpans s) i).map (Span.text s) =
        if i < 0 then none else ((tokenizerSpans s).map (Span.text s))[i.toNat]? := by
      unfold getSpan
      rw [getElem?_map]
      by_cases hneg : i < 0
      · simp [hneg]
      · split
        · next h => rw [getElem?_eq_none (by omega)]
        · rfl
    rw [hget, htexts, getElem?_take, getElem?_keptFields]
    by_cases hneg : i < 0
    · rw [if_pos hneg, if_neg (by omega)]
    · rw [if_neg hneg]
      by_cases hmax : i < maxNmeaTokens
      · rw [if_pos (show i.toNat < maxNmeaTokens by omega), if_pos (show 0 ≤ i ∧ i < maxNmeaTokens by omega)]
        rfl
      · rw [if_neg (show ¬i.toNat < maxNmeaTokens by omega), if_neg (show ¬(0 ≤ i ∧ i < maxNmeaTokens) by omega)]
  · intro t ht
    apply tokenizerSpans_inside s t
    unfold getSpan at ht
    split at ht
    · cases ht
    · exact mem_of_getElem? ht

end HuaweiY5.Nmea
