import HuaweiY5.Nmea.Tokenizer

/-!
# `Nmea.Sentences` — well-formed sentences, and what the parser reads of them

A sentence is written from its fields: they are joined by commas, `$` may stand before them, a checksum and a carriage
return behind them, and a newline ends it. Read back, the ends are cut off (`trim_line`) and the tokens are the fields
(`token_line`). Which sentence it is and of which constellation stands in the first field.
-/

namespace HuaweiY5.Nmea

open List

open Codec (Byte)

/-! ## Sentences -/

/-- A character of a field: none of those that a sentence is built with. -/
def Plain (b : Byte) : Prop := b ≠ chr ',' ∧ b ≠ chr '*' ∧ b ≠ chr '$' ∧ b ≠ chr '\r' ∧ b ≠ newline
  deriving Decidable

structure Ends where
  dollar : Bool
  checksum : Option (Byte × Byte)
  carriageReturn : Bool

def Ends.opening (e : Ends) : List Byte := if e.dollar then [chr '$'] else []

def Ends.star (e : Ends) : List Byte :=
  match e.checksum with
  | none => []
  | some (a, b) => [chr '*', a, b]

def Ends.closing (e : Ends) : List Byte := if e.carriageReturn then [chr '\r'] else []

structure Sentence where
  ends : Ends
  fields : List (List Byte)
  fields_ne_nil : fields ≠ []
  fields_plain : ∀ f ∈ fields, ∀ b ∈ f, Plain b
  checksum_plain : ∀ h ∈ ends.checksum, Plain h.1 ∧ Plain h.2

namespace Sentence

/-- The fields, with a comma between each and the next. -/
def body (s : Sentence) : List Byte := [chr ','].intercalate s.fields

def text (s : Sentence) : List Byte := s.ends.opening ++ (s.body ++ s.ends.star ++ s.ends.closing)

def line (s : Sentence) : List Byte := s.text ++ [newline]

end Sentence

/-! ## The characters of a sentence -/

theorem mem_intercalate {sep : Byte} {fs : List (List Byte)} {b : Byte} (h : b ∈ [sep].intercalate fs) :
    b = sep ∨ ∃ f ∈ fs, b ∈ f := by
  induction fs with
  | nil => cases h
  | cons f fs ih =>
    cases fs with
    | nil =>
      rw [intercalate_singleton] at h
      exact Or.inr ⟨f, mem_singleton_self f, h⟩
    | cons g gs =>
      rcases mem_append.mp h with hf | hrest
      · exact Or.inr ⟨f, mem_cons_self, hf⟩
      · rcases mem_cons.mp hrest with rfl | hlater
        · exact Or.inl rfl
        · rcases ih hlater with hsep | ⟨x, hx, hb⟩
          · exact Or.inl hsep
          · exact Or.inr ⟨x, mem_cons_of_mem f hx, hb⟩

variable {b : Byte}

variable (s : Sentence) (k : SvType)

theorem Sentence.not_mem_body (hcomma : b ≠ chr ',') (hb : ¬Plain b) : b ∉ s.body := by
  intro h
  rcases mem_intercalate h with heq | ⟨f, hf, hmem⟩
  · exact hcomma heq
  · exact hb (s.fields_plain f hf b hmem)

theorem Sentence.not_mem_star (hstar : b ≠ chr '*') (hb : ¬Plain b) : b ∉ s.ends.star := by
  unfold Ends.star
  cases hsum : s.ends.checksum with
  | none => exact not_mem_nil
  | some p =>
    have hplain := s.checksum_plain p hsum
    intro h
    rcases mem_cons.mp h with heq | h
    · exact hstar heq
    · rcases mem_pair.mp h with rfl | rfl
      · exact hb hplain.1
      · exact hb hplain.2

theorem Ends.not_mem_closing (e : Ends) (hcr : b ≠ chr '\r') : b ∉ e.closing := by
  unfold Ends.closing
  split
  · exact fun h => hcr (mem_singleton.mp h)
  · exact not_mem_nil

theorem Ends.not_mem_opening (e : Ends) (hdollar : b ≠ chr '$') : b ∉ e.opening := by
  unfold Ends.opening
  split
  · exact fun h => hdollar (mem_singleton.mp h)
  · exact not_mem_nil

theorem Sentence.not_mem_inner (hb : b = chr '$' ∨ b = newline) : b ∉ s.body ++ s.ends.star ++ s.ends.closing := by
  have hplain : ¬Plain b ∧ b ≠ chr ',' ∧ b ≠ chr '*' ∧ b ≠ chr '\r' := by
    rcases hb with rfl | rfl <;> decide
  intro h
  rcases mem_append.mp h with h | h
  · rcases mem_append.mp h with h | h
    · exact s.not_mem_body hplain.2.1 hplain.1 h
    · exact s.not_mem_star hplain.2.2.1 hplain.1 h
  · exact s.ends.not_mem_closing hplain.2.2.2 h

theorem Sentence.newline_not_mem_text : newline ∉ s.text := by
  intro h
  rcases mem_append.mp h with h | h
  · exact s.ends.not_mem_opening (by decide) h
  · exact s.not_mem_inner (Or.inr rfl) h

/-! ## The ends -/

theorem Sentence.line_opening :
    (if s.line.head? = some (chr '$') then s.line.tail else s.line) =
      s.body ++ s.ends.star ++ s.ends.closing ++ [newline] := by
  unfold Sentence.line Sentence.text Ends.opening
  cases s.ends.dollar with
  | true => simp
  | false =>
    simp only [Bool.false_eq_true, if_false, nil_append]
    rw [if_neg]
    intro hhead
    rcases mem_append.mp (mem_of_mem_head? hhead) with h | h
    · exact s.not_mem_inner (Or.inl rfl) h
    · exact absurd (mem_singleton.mp h) (by decide)

theorem Sentence.inner_closing :
    (if (s.body ++ s.ends.star ++ s.ends.closing).getLast? = some (chr '\r') then
      (s.body ++ s.ends.star ++ s.ends.closing).dropLast
    else s.body ++ s.ends.star ++ s.ends.closing) = s.body ++ s.ends.star := by
  unfold Ends.closing
  cases s.ends.carriageReturn with
  | true =>
    simp only [if_true]
    rw [getLast?_concat, if_pos rfl, dropLast_concat]
  | false =>
    simp only [Bool.false_eq_true, if_false, append_nil]
    rw [if_neg]
    intro hlast
    rcases mem_append.mp (mem_of_getLast? hlast) with h | h
    · exact s.not_mem_body (by decide) (by decide) h
    · exact s.not_mem_star (by decide) (by decide) h

theorem Sentence.inner_star :
    (if 3 ≤ (s.body ++ s.ends.star).length ∧
        (s.body ++ s.ends.star)[(s.body ++ s.ends.star).length - 3]? = some (chr '*') then
      (s.body ++ s.ends.star).take ((s.body ++ s.ends.star).length - 3)
    else s.body ++ s.ends.star) = s.body := by
  unfold Ends.star
  cases s.ends.checksum with
  | none =>
    simp only [append_nil]
    rw [if_neg]
    rintro ⟨-, hstar⟩
    exact s.not_mem_body (by decide) (by decide) (mem_of_getElem? hstar)
  | some p =>
    have hlength : (s.body ++ [chr '*', p.1, p.2]).length - 3 = s.body.length := by simp
    simp only [hlength]
    rw [if_pos ⟨by simp, by simp⟩, take_left]

/-- **The ends are cut off.** -/
theorem Sentence.trim_line : trim s.line = s.body := by
  unfold trim
  simp only [s.line_opening, getLast?_concat, dropLast_concat, if_true, s.inner_closing, s.inner_star]

/-! ## The tokens -/

theorem Sentence.fields_body : Nmea.fields s.body = s.fields := by
  apply splitOn_intercalate
  · intro f hf hcomma
    exact (s.fields_plain f hf _ hcomma).1 rfl
  · exact s.fields_ne_nil

/-- **The token of any line** is its field, or empty. -/
theorem text_tokenizerGet (line : List Byte) {i : Nat} (hi : i < maxNmeaTokens) :
    (tokenizerGet (tokenizerInit line) i).text = ((fields (trim line))[i]?).getD [] := by
  have htexts := tokens_eq_fields (trim line).length (trim line) (Nat.le_refl _)
  have hget := congrArg (·[i]?) htexts
  simp only [getElem?_map, getElem?_keptFields] at hget
  unfold tokenizerGet tokenizerInit
  rw [getElem?_take, if_pos hi]
  cases htoken : (tokens (trim line).length (trim line))[i]? with
  | none =>
    rw [htoken] at hget
    split at hget
    · next hempty =>
        rw [hempty.2]
        rfl
    · rw [← hget]
      rfl
  | some tok =>
    rw [htoken] at hget
    split at hget
    · exact absurd hget (by simp)
    · rw [← hget]
      rfl

/-- **The tokens of a sentence are its fields.** -/
theorem Sentence.token_line {i : Nat} (hi : i < maxNmeaTokens) :
    (tokenizerGet (tokenizerInit s.line) i).text = (s.fields[i]?).getD [] := by
  rw [text_tokenizerGet _ hi, s.trim_line, s.fields_body]

theorem Sentence.readable {s : Sentence} {f g h : List Byte} {fs : List (List Byte)} (hs : s.fields = f :: g :: h :: fs)
    (hf : 5 ≤ f.length) (hlong : h ≠ [] ∨ fs ≠ []) : Readable s.line := by
  constructor
  · have hbody : s.body.length ≤ s.text.length := by
      simp only [Sentence.text, length_append]
      omega
    have htail : 1 ≤ ([chr ','].intercalate (h :: fs)).length := by
      cases fs with
      | nil =>
        rw [intercalate_singleton]
        exact length_pos_iff.mpr (hlong.resolve_right (by simp))
      | cons x xs =>
        rw [intercalate_cons_cons]
        simp only [length_append, length_singleton]
        omega
    have hcount : s.body.length = f.length + 1 + (g.length + 1 + ([chr ','].intercalate (h :: fs)).length) := by
      rw [Sentence.body, hs, intercalate_cons_cons, intercalate_cons_cons]
      simp only [length_append, length_singleton]
    show 9 ≤ (s.text ++ [newline]).length
    rw [length_append, length_singleton]
    omega
  · rw [s.token_line (by decide), hs]
    exact hf

/-! ## The first field -/

def talker : SvType → List Byte
  | .gps => [chr 'G', chr 'P']
  | .glonass => [chr 'G', chr 'L']
  | .bds => [chr 'B', chr 'D']
  | .galileo => [chr 'G', chr 'A']

def gsaId : List Byte := talker k ++ [chr 'G', chr 'S', chr 'A']

def gsvId : List Byte := talker k ++ [chr 'G', chr 'S', chr 'V']

theorem svTypeOf_talker : svTypeOf (talker k) = k := by
  cases k <;> decide

theorem sentenceId_gsa (head : Byte) : sentenceId ⟨gsaId k, head⟩ = .gsa := by
  cases k <;> rfl

theorem sentenceId_gsv (head : Byte) : sentenceId ⟨gsvId k, head⟩ = .gsv := by
  cases k <;> rfl

end HuaweiY5.Nmea
