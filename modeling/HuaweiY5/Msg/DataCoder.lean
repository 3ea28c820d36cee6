import HuaweiY5.Lib.CLayout

/-!
# `Msg.DataCoder` — the field codec of the GPS sockets (`data_coder.c`)

The GPS HAL, mnld and agpsd write the fields of a message one after the other with `put_*` and read them back with
`get_*`; the two copies of `data_coder.c` are the same. Multi-byte fields are little-endian and are taken apart
and put together through the next narrower width, so a negative value is sign-extended twice on its way back.
`fields_roundtrip` says that nothing is lost.
-/

namespace HuaweiY5.Msg

open List Codec CLayout

/-! ## `put_*` -/

def putByte (input : Byte) : Put := .byte input

def putShort (input : BitVec 16) : Put :=
  .all [putByte ((input.signExtend 32 &&& 0xff).setWidth 8),
    putByte (((input.signExtend 32).sshiftRight 8 &&& 0xff).setWidth 8)]

def putInt (input : BitVec 32) : Put :=
  .all [putShort ((input &&& 0xffff).setWidth 16), putShort ((input.sshiftRight 16 &&& 0xffff).setWidth 16)]

def putLong (input : BitVec 64) : Put :=
  .all [putInt ((input &&& 0xffffffff).setWidth 32), putInt ((input.sshiftRight 32 &&& 0xffffffff).setWidth 32)]

/-- `put_float`, on the bits of the number. -/
def putFloat (input : BitVec 32) : Put := putInt input

/-- `put_double`, on the bits of the number. -/
def putDouble (input : BitVec 64) : Put := putLong input

/-- `put_string`; `none` is `NULL`. -/
def putString : Option CString → Put
  | none => putByte 0
  | some input =>
    -- strlen(input) + 1
    let len := input.chars.length + 1
    .all [putByte 1, putInt (BitVec.ofNat 32 len), .bytes input.bytes]

/-- The arguments `input` and `len` of `put_binary`: the array has the bytes that `len` says. -/
structure Binary where
  len : BitVec 32
  data : List Byte
  sized : data.length = len.toInt.toNat
deriving DecidableEq

def putBinary (input : Binary) : Put :=
  .all (putInt input.len :: if 0 < input.len.toInt then [.bytes input.data] else [])

/-! ## `get_*` -/

/-- `ret |= e` for a `short` and an `int`. -/
def orShort (ret : BitVec 16) (e : BitVec 32) : BitVec 16 := (ret.signExtend 32 ||| e).setWidth 16

def getByte : Get Byte := .byte

def getShort : Get (BitVec 16) := do
  let ret := 0#16
  let lo ← getByte
  let ret := orShort ret (lo.signExtend 32 &&& 0xff)
  let hi ← getByte
  let ret := orShort ret (hi.signExtend 32 <<< 8)
  pure ret

def getInt : Get (BitVec 32) := do
  let ret := 0#32
  let lo ← getShort
  let ret := ret ||| (lo.signExtend 32 &&& 0xffff)
  let hi ← getShort
  let ret := ret ||| (hi.signExtend 32 <<< 16)
  pure ret

def getLong : Get (BitVec 64) := do
  let ret := 0#64
  let lo ← getInt
  let ret := ret ||| (lo.signExtend 64 &&& 0xffffffff)
  let hi ← getInt
  let ret := ret ||| (hi.signExtend 64 <<< 32)
  pure ret

def getFloat : Get (BitVec 32) := getInt

def getDouble : Get (BitVec 64) := getLong

/-- `get_string`, with the string behind the pointer it returns: the pointer is taken before the length is
    added to the offset, and the string ends at its NUL. -/
def getString : Get (Option CString) := do
  let ret ← getByte
  if ret = 0 then pure none
  else do
    let len ← getInt
    let p ← Get.cstring
    Get.advance len.toInt
    pure (some p)

/-- `get_binary` into an array of `cap` bytes. -/
def getBinary (cap : Nat) : Get Binary := do
  let len ← getInt
  if h : 0 < len.toInt then
    if len.toInt ≤ cap then do
      let data ← Get.bytes len.toInt.toNat
      pure ⟨len, data.1, data.2⟩
    else Get.fail
  else pure ⟨len, [], by rw [length_nil]; omega⟩

/-! ## Every value comes back -/

theorem orShort_eq (ret : BitVec 16) (e : BitVec 32) : orShort ret e = ret ||| e.setWidth 16 := by
  rw [orShort, BitVec.setWidth_or, setWidth_signExtend (by decide) (by decide), BitVec.setWidth_eq]

theorem link_byte (x : Byte) : Link (putByte x) getByte (some x) := ⟨[x], writes_byte x, reads_byte x⟩

theorem link_short (x : BitVec 16) : Link (putShort x) getShort (some x) := by
  refine (link_byte _).cons ((link_byte _).cons (Link.nil ?_))
  have hlo : (x.signExtend 32 &&& 0xff).setWidth 8 = (x.signExtend 32).setWidth 8 := setWidth_and_mask (by decide) _
  have hhi : ((x.signExtend 32).sshiftRight 8 &&& 0xff).setWidth 8 = (x.signExtend 32).extractLsb' 8 8 :=
    setWidth_sshiftRight_and_mask (by decide) _
  have hmask : ∀ b : Byte, b.signExtend 32 &&& 0xff = b.setWidth 32 := signExtend_and_mask (by decide)
  -- the promotion to `int` does not change the two bytes
  rw [hlo, hhi, hmask, orShort_eq, orShort_eq, BitVec.zero_or, setWidth_signExtend (by decide) (by decide),
    extractLsb'_signExtend (show 8 + 8 ≤ 16 by decide) (by decide),
    BitVec.setWidth_setWidth_of_le _ (by decide)]
  exact setWidth_or_shiftLeft (n := 8) rfl (by decide) x

theorem link_int (x : BitVec 32) : Link (putInt x) getInt (some x) := by
  refine (link_short _).cons ((link_short _).cons (Link.nil ?_))
  have hlo : (x &&& 0xffff).setWidth 16 = x.setWidth 16 := setWidth_and_mask (by decide) _
  have hhi : (x.sshiftRight 16 &&& 0xffff).setWidth 16 = x.extractLsb' 16 16 :=
    setWidth_sshiftRight_and_mask (by decide) _
  have hmask : ∀ s : BitVec 16, s.signExtend 32 &&& 0xffff = s.setWidth 32 := signExtend_and_mask (by decide)
  rw [hlo, hhi, hmask, BitVec.zero_or]
  simpa only [BitVec.setWidth_eq] using setWidth_or_shiftLeft (n := 16) rfl (le_refl 32) x

theorem link_long (x : BitVec 64) : Link (putLong x) getLong (some x) := by
  refine (link_int _).cons ((link_int _).cons (Link.nil ?_))
  have hlo : (x &&& 0xffffffff).setWidth 32 = x.setWidth 32 := setWidth_and_mask (by decide) _
  have hhi : (x.sshiftRight 32 &&& 0xffffffff).setWidth 32 = x.extractLsb' 32 32 :=
    setWidth_sshiftRight_and_mask (by decide) _
  have hmask : ∀ i : BitVec 32, i.signExtend 64 &&& 0xffffffff = i.setWidth 64 := signExtend_and_mask (by decide)
  rw [hlo, hhi, hmask, BitVec.zero_or]
  simpa only [BitVec.setWidth_eq] using setWidth_or_shiftLeft (n := 32) rfl (le_refl 64) x

theorem link_float (x : BitVec 32) : Link (putFloat x) getFloat (some x) := link_int x

theorem link_double (x : BitVec 64) : Link (putDouble x) getDouble (some x) := link_long x

theorem toInt_ofNat_of_lt {n : Nat} (h : n < intEnd) : (BitVec.ofNat 32 n).toInt = n := by
  rw [BitVec.toInt_ofNat', Int.bmod_eq_of_le] <;> (simp only [intEnd] at h; omega)

theorem link_string (s : Option CString) : Link (putString s) getString (some s) := by
  cases s with
  | none => exact (link_byte 0).bind_pure rfl
  | some s =>
    refine (link_byte 1).cons ((link_int _).cons (Link.last ⟨s.bytes, writes_bytes _, ?_⟩))
    intro pre post hlen
    have hbytes : s.bytes.length = s.chars.length + 1 := by simp [CString.bytes]
    have hadvance : (BitVec.ofNat 32 (s.chars.length + 1)).toInt = s.bytes.length := by
      rw [toInt_ofNat_of_lt (by omega), hbytes]
    rw [Get.bind_apply, cstring_apply, hadvance]
    rfl

section Cons

variable {α : Type} {ps : List Put} {a : Option α}

theorem cons_int {x : BitVec 32} {f : BitVec 32 → Get α} (h : Link (.all ps) (f x) a) :
    Link (.all (putInt x :: ps)) (getInt >>= f) a :=
  (link_int x).cons h

theorem cons_string {s : Option CString} {f : Option CString → Get α} (h : Link (.all ps) (f s) a) :
    Link (.all (putString s :: ps)) (getString >>= f) a :=
  (link_string s).cons h

end Cons

/-- A binary comes back if the array it is copied to has room for it; otherwise the copy leaves the array. -/
theorem link_binary (x : Binary) (cap : Nat) :
    Link (putBinary x) (getBinary cap) (if x.data.length ≤ cap then some x else none) := by
  obtain ⟨len, data, hsized⟩ := x
  unfold putBinary getBinary
  by_cases hpos : 0 < len.toInt
  · rw [if_pos hpos]
    by_cases hcap : data.length ≤ cap
    · rw [if_pos hcap]
      refine (link_int len).cons ?_
      rw [dif_pos hpos, if_pos (by omega)]
      exact (Link.last ⟨data, writes_bytes _, reads_bytes ⟨data, hsized⟩⟩).bind_pure rfl
    · rw [if_neg hcap]
      refine (link_int len).cons (Link.last ⟨data, writes_bytes _, fun pre post _ => ?_⟩)
      rw [dif_pos hpos, if_neg (by omega)]
      rfl
  · obtain rfl : data = [] := length_eq_zero_iff.mp (by omega)
    rw [if_neg hpos]
    refine (link_int len).cons ?_
    rw [dif_neg hpos]
    exact Link.nil rfl

theorem link_binary_last {α : Type} (x : Binary) (cap : Nat) (f : Binary → α) :
    Link (.all [putBinary x]) (getBinary cap >>= fun x => pure (f x))
      (if x.data.length ≤ cap then some (f x) else none) := by
  have hlink := link_binary x cap
  by_cases hfits : x.data.length ≤ cap
  · rw [if_pos hfits] at hlink ⊢
    exact hlink.cons (Link.nil rfl)
  · rw [if_neg hfits] at hlink ⊢
    exact hlink.stuck writes_nil

/-! ## Bytes that nobody wrote -/

theorem fixed_byte : Fixed getByte 1 := .byte

theorem fixed_short : Fixed getShort 2 := fixed_byte.bind fun _ => fixed_byte.map _

theorem fixed_int : Fixed getInt 4 := fixed_short.bind fun _ => fixed_short.map _

theorem fixed_long : Fixed getLong 8 := fixed_int.bind fun _ => fixed_int.map _

def byteAt (buff : List Byte) (i : Nat) : Byte := buff.getD i 0

def wordAt (buff : List Byte) (i : Nat) : BitVec 32 :=
  (byteAt buff (i + 3) ++ byteAt buff (i + 2)) ++ (byteAt buff (i + 1) ++ byteAt buff i)

theorem reads_short (lo hi : Byte) : Reads getShort (some (hi ++ lo)) [lo, hi] := by
  have hmask : lo.signExtend 32 &&& 0xff = lo.setWidth 32 := signExtend_and_mask (by decide) lo
  have hvalue : orShort (orShort 0#16 (lo.signExtend 32 &&& 0xff)) (hi.signExtend 32 <<< 8) = hi ++ lo := by
    rw [hmask, orShort_eq, orShort_eq, BitVec.zero_or, BitVec.setWidth_setWidth_of_le _ (by decide)]
    exact append_of_halves (by decide) hi lo
  refine (reads_byte lo).bind ((reads_byte hi).bind ?_)
  rw [← hvalue]
  exact Reads.pure _

theorem reads_int (b₀ b₁ b₂ b₃ : Byte) : Reads getInt (some ((b₃ ++ b₂) ++ (b₁ ++ b₀))) [b₀, b₁, b₂, b₃] := by
  have hmask : (b₁ ++ b₀ : BitVec 16).signExtend 32 &&& 0xffff#32 = (b₁ ++ b₀ : BitVec 16).setWidth 32 :=
    signExtend_and_mask (by decide) _
  have hvalue : 0#32 ||| ((b₁ ++ b₀ : BitVec 16).signExtend 32 &&& 0xffff#32) |||
      ((b₃ ++ b₂ : BitVec 16).signExtend 32 <<< 16) = (b₃ ++ b₂) ++ (b₁ ++ b₀) := by
    have hjoin := append_of_halves (le_refl 32) (b₃ ++ b₂ : BitVec 16) (b₁ ++ b₀)
    rw [hmask, BitVec.zero_or]
    exact hjoin
  refine (reads_short b₀ b₁).bind ((reads_short b₂ b₃).bind ?_)
  rw [← hvalue]
  exact Reads.pure _

variable {buff : List Byte}

theorem drop_eq_byteAt_cons {i : Nat} (h : i < buff.length) : buff.drop i = byteAt buff i :: buff.drop (i + 1) := by
  simp [byteAt, h]

theorem getInt_apply {i : Nat} (hlen : i + 4 ≤ buff.length) (hint : i + 4 < intEnd) :
    getInt buff i = some (wordAt buff i, ((i + 4 : Nat) : Int)) := by
  have hsplit : buff.take i ++
      ([byteAt buff i, byteAt buff (i + 1), byteAt buff (i + 2), byteAt buff (i + 3)] ++ buff.drop (i + 4)) =
        buff := by
    rw [cons_append, cons_append, cons_append, cons_append, nil_append,
      ← drop_eq_byteAt_cons (by omega), ← drop_eq_byteAt_cons (by omega), ← drop_eq_byteAt_cons (by omega),
      ← drop_eq_byteAt_cons (by omega), take_append_drop]
  have hpre : (buff.take i).length = i := by rw [length_take]; omega
  have hread := reads_int (byteAt buff i) (byteAt buff (i + 1)) (byteAt buff (i + 2)) (byteAt buff (i + 3))
    (buff.take i) (buff.drop (i + 4)) (by rw [hpre]; exact hint)
  rw [hsplit, hpre] at hread
  exact hread

theorem getBinary_apply {i n cap : Nat} (hlen : (wordAt buff i).toInt = n) (hpos : 0 < n) (hcap : n ≤ cap)
    (hin : i + 4 + n ≤ buff.length) (hint : i + 4 < intEnd) :
    ∃ x, x.data = (buff.drop (i + 4)).take n ∧ getBinary cap buff i = some (x, ((i + 4 + n : Nat) : Int)) := by
  have hnat : (wordAt buff i).toInt.toNat = n := by rw [hlen, Int.toNat_natCast]
  refine ⟨⟨wordAt buff i, (buff.drop (i + 4)).take n, by
    rw [length_take, length_drop]; omega⟩, rfl, ?_⟩
  rw [getBinary, Get.bind_apply, getInt_apply (by omega) hint, Option.bind_some]
  dsimp only
  rw [dif_pos (by omega), if_pos (by omega), Get.bind_apply, Get.bytes, dif_pos (by omega)]
  simp only [hnat]
  rfl

/-! ### The same bytes, written

What `get_int` reads from four bytes, `put_int` writes as the same four bytes. -/

theorem writes_short_append (lo hi : Byte) : Writes (putShort (hi ++ lo)) [lo, hi] := by
  have hlo : ((hi ++ lo : BitVec 16).signExtend 32 &&& 0xff).setWidth 8 = lo :=
    (setWidth_and_mask (by decide) _).trans
      ((setWidth_signExtend (by decide) (by decide) _).trans (setWidth_append_right hi lo))
  have hhi : (((hi ++ lo : BitVec 16).signExtend 32).sshiftRight 8 &&& 0xff).setWidth 8 = hi :=
    (setWidth_sshiftRight_and_mask (by decide) _).trans
      ((extractLsb'_signExtend (by decide) (by decide) _).trans (BitVec.extractLsb'_append_eq_left ..))
  rw [putShort, hlo, hhi]
  exact (writes_byte lo).cons ((writes_byte hi).cons writes_nil)

theorem writes_int_append (b₀ b₁ b₂ b₃ : Byte) : Writes (putInt ((b₃ ++ b₂) ++ (b₁ ++ b₀))) [b₀, b₁, b₂, b₃] := by
  have hlo : (((b₃ ++ b₂) ++ (b₁ ++ b₀) : BitVec 32) &&& 0xffff).setWidth 16 = b₁ ++ b₀ :=
    (setWidth_and_mask (by decide) _).trans (setWidth_append_right _ _)
  have hhi : (((b₃ ++ b₂) ++ (b₁ ++ b₀) : BitVec 32).sshiftRight 16 &&& 0xffff).setWidth 16 = b₃ ++ b₂ :=
    (setWidth_sshiftRight_and_mask (by decide) _).trans (BitVec.extractLsb'_append_eq_left ..)
  rw [putInt, hlo, hhi]
  exact (writes_short_append b₀ b₁).cons ((writes_short_append b₂ b₃).cons writes_nil)

theorem writes_wordAt {i : Nat} (h : i + 4 ≤ buff.length) : Writes (putInt (wordAt buff i)) ((buff.drop i).take 4) := by
  have hbytes : (buff.drop i).take 4 =
      [byteAt buff i, byteAt buff (i + 1), byteAt buff (i + 2), byteAt buff (i + 3)] := by
    rw [drop_eq_byteAt_cons (by omega), drop_eq_byteAt_cons (by omega), drop_eq_byteAt_cons (by omega),
      drop_eq_byteAt_cons (by omega)]
    rfl
  rw [hbytes]
  exact writes_int_append ..

/-! ## Sequences of fields -/

inductive Field
  | byte (input : Byte)
  | short (input : BitVec 16)
  | int (input : BitVec 32)
  | long (input : BitVec 64)
  | float (input : BitVec 32)
  | double (input : BitVec 64)
  | string (input : Option CString)
  | binary (input : Binary)
deriving DecidableEq

/-- The reader of a field; a binary is read into an array of `cap` bytes. -/
inductive FieldType
  | byte | short | int | long | float | double | string
  | binary (cap : Nat)
deriving DecidableEq

/-- The `put_*` call of a field. -/
def Field.put : Field → Put
  | .byte input => putByte input
  | .short input => putShort input
  | .int input => putInt input
  | .long input => putLong input
  | .float input => putFloat input
  | .double input => putDouble input
  | .string input => putString input
  | .binary input => putBinary input

/-- The `get_*` call of a type. -/
def FieldType.get : FieldType → Get Field
  | .byte => do let x ← getByte; pure (.byte x)
  | .short => do let x ← getShort; pure (.short x)
  | .int => do let x ← getInt; pure (.int x)
  | .long => do let x ← getLong; pure (.long x)
  | .float => do let x ← getFloat; pure (.float x)
  | .double => do let x ← getDouble; pure (.double x)
  | .string => do let x ← getString; pure (.string x)
  | .binary cap => do let x ← getBinary cap; pure (.binary x)

/-- The reader matches the field: the same type, and room for a binary. -/
inductive Field.Matches : Field → FieldType → Prop
  | byte (x : Byte) : Matches (.byte x) .byte
  | short (x : BitVec 16) : Matches (.short x) .short
  | int (x : BitVec 32) : Matches (.int x) .int
  | long (x : BitVec 64) : Matches (.long x) .long
  | float (x : BitVec 32) : Matches (.float x) .float
  | double (x : BitVec 64) : Matches (.double x) .double
  | string (x : Option CString) : Matches (.string x) .string
  | binary {x : Binary} {cap : Nat} (h : x.data.length ≤ cap) : Matches (.binary x) (.binary cap)

def putFields (fields : List Field) : Put := .all (fields.map Field.put)

def getFields : List FieldType → Get (List Field)
  | [] => pure []
  | type :: types => do
    let field ← type.get
    let fields ← getFields types
    pure (field :: fields)

theorem link_field {field : Field} {type : FieldType} (h : field.Matches type) :
    Link field.put type.get (some field) := by
  cases h with
  | byte x => exact (link_byte x).bind_pure rfl
  | short x => exact (link_short x).bind_pure rfl
  | int x => exact (link_int x).bind_pure rfl
  | long x => exact (link_long x).bind_pure rfl
  | float x => exact (link_float x).bind_pure rfl
  | double x => exact (link_double x).bind_pure rfl
  | string x => exact (link_string x).bind_pure rfl
  | @binary x cap h =>
    have hlink := link_binary x cap
    rw [if_pos h] at hlink
    exact hlink.bind_pure rfl

theorem link_fields {fields : List Field} {types : List FieldType} (h : List.Forall₂ Field.Matches fields types) :
    Link (putFields fields) (getFields types) (some fields) := by
  induction h with
  | nil => exact Link.nil rfl
  | cons hfield _ ih =>
    refine (link_field hfield).cons ?_
    exact ih.bind_pure rfl

def Field.size : Field → Nat
  | .byte _ => 1
  | .short _ => 2
  | .int _ | .float _ => 4
  | .long _ | .double _ => 8
  | .string none => 1
  | .string (some input) => 1 + (4 + (input.chars.length + 1))
  | .binary input => 4 + input.data.length

theorem writes_short (x : BitVec 16) : ∃ bs, bs.length = 2 ∧ Writes (putShort x) bs :=
  ⟨_, rfl, (writes_byte _).cons ((writes_byte _).cons writes_nil)⟩

theorem writes_int (x : BitVec 32) : ∃ bs, bs.length = 4 ∧ Writes (putInt x) bs := by
  obtain ⟨lo, hlo, hplo⟩ := writes_short ((x &&& 0xffff).setWidth 16)
  obtain ⟨hi, hhi, hphi⟩ := writes_short ((x.sshiftRight 16 &&& 0xffff).setWidth 16)
  exact ⟨lo ++ (hi ++ []), by simp [hlo, hhi], hplo.cons (hphi.cons writes_nil)⟩

theorem writes_long (x : BitVec 64) : ∃ bs, bs.length = 8 ∧ Writes (putLong x) bs := by
  obtain ⟨lo, hlo, hplo⟩ := writes_int ((x &&& 0xffffffff).setWidth 32)
  obtain ⟨hi, hhi, hphi⟩ := writes_int ((x.sshiftRight 32 &&& 0xffffffff).setWidth 32)
  exact ⟨lo ++ (hi ++ []), by simp [hlo, hhi], hplo.cons (hphi.cons writes_nil)⟩

theorem writes_string (s : Option CString) : ∃ bs, bs.length = (Field.string s).size ∧ Writes (putString s) bs := by
  cases s with
  | none => exact ⟨[0], rfl, writes_byte 0⟩
  | some s =>
    obtain ⟨len, hlen, hplen⟩ := writes_int (BitVec.ofNat 32 (s.chars.length + 1))
    refine ⟨_, ?_, (writes_byte 1).cons (hplen.cons ((writes_bytes s.bytes).cons writes_nil))⟩
    simp [CString.bytes, Field.size]
    omega

theorem writes_binary (x : Binary) : ∃ bs, bs.length = (Field.binary x).size ∧ Writes (putBinary x) bs := by
  obtain ⟨len, hlen, hplen⟩ := writes_int x.len
  have hsized := x.sized
  unfold putBinary
  split
  · exact ⟨_, by simp [hlen, Field.size], hplen.cons ((writes_bytes x.data).cons writes_nil)⟩
  · exact ⟨_, by simp only [append_nil, Field.size]; omega, hplen.cons writes_nil⟩

theorem writes_field (field : Field) : ∃ bs, bs.length = field.size ∧ Writes field.put bs := by
  cases field with
  | byte x => exact ⟨[x], rfl, writes_byte x⟩
  | short x => exact writes_short x
  | int x | float x => exact writes_int x
  | long x | double x => exact writes_long x
  | string x => exact writes_string x
  | binary x => exact writes_binary x

theorem writes_fields (fields : List Field) :
    ∃ bs, bs.length = (fields.map Field.size).sum ∧ Writes (putFields fields) bs := by
  induction fields with
  | nil => exact ⟨[], rfl, writes_nil⟩
  | cons field fields ih =>
    obtain ⟨bs, hbs, hp⟩ := writes_field field
    obtain ⟨cs, hcs, hps⟩ := ih
    exact ⟨bs ++ cs, by simp [hbs, hcs], hp.cons hps⟩

/-- **Codec round trip.** For every sequence of fields and every start offset, into every buffer that has room
    for them behind the offset: the writes succeed, the matching reads in the same order give the same values,
    and both end at the same offset. (An offset is a C `int`, so the end is below `2³¹`.) -/
theorem fields_roundtrip {fields : List Field} {types : List FieldType}
    (hmatch : List.Forall₂ Field.Matches fields types) (buff : List Byte) (offset : Nat)
    (hroom : offset + (fields.map Field.size).sum ≤ buff.length)
    (hint : offset + (fields.map Field.size).sum < 2 ^ 31) :
    ∃ buff', putFields fields buff offset = some (buff', ((offset + (fields.map Field.size).sum : Nat) : Int)) ∧
      getFields types buff' offset = some (fields, ((offset + (fields.map Field.size).sum : Nat) : Int)) := by
  obtain ⟨bs, hlen, hp⟩ := writes_fields fields
  rw [← hlen] at hroom hint ⊢
  exact (link_fields hmatch).roundtrip hp hroom hint

/-- A negative number of each width, a string, no string and a binary, from offset 3 on. -/
theorem fields_roundtrip_negative :
    ∃ buff', putFields [.short (-2), .int (-3), .long (-4), .string (some ⟨[0x61, 0xff], by decide⟩),
        .string none, .binary ⟨1, [0x80], by decide⟩] (List.replicate 40 0) 3 = some (buff', 31) ∧
      getFields [.short, .int, .long, .string, .string, .binary 1] buff' 3 =
        some ([.short (-2), .int (-3), .long (-4), .string (some ⟨[0x61, 0xff], by decide⟩),
          .string none, .binary ⟨1, [0x80], by decide⟩], 31) :=
  fields_roundtrip (.cons (.short _) <| .cons (.int _) <| .cons (.long _) <| .cons (.string _) <|
    .cons (.string _) <| .cons (.binary (le_refl 1)) .nil) (List.replicate 40 0) 3 (by decide) (by decide)

/-! ## Structures -/

variable {l : Layout} (stack : Nat → Byte) (x : Image l)

/-- `(const char*)&x` and `sizeof(x)`. -/
def structBinary (h : l.size < intEnd) : Binary :=
  ⟨BitVec.ofNat 32 l.size, x.1, by rw [toInt_ofNat_of_lt h, Int.toNat_natCast]; exact x.2⟩

@[simp] theorem structBinary_length (h : l.size < intEnd) : (structBinary x h).data.length = l.size := x.2

/-- `put_binary(buff, &offset, (const char*)&x, sizeof(x))`. -/
def putStruct (h : l.size < intEnd) : Put := putBinary (structBinary x h)

/-- `T x; get_binary(buff, &offset, (char*)&x);` for a structure `T`, where the stack holds `stack`. -/
def getStruct (l : Layout) : Get (List Nat) := do
  let x ← getBinary l.size
  pure (l.value (overwrite stack l.size x.data))

theorem link_struct (h : l.size < intEnd) (l' : Layout)
    (hle : l.size ≤ l'.size) :
    Link (putStruct x h) (getStruct stack l') (some (l'.value (overwrite stack l'.size x.1))) := by
  have hlink := link_binary (structBinary x h) l'.size
  rw [structBinary_length, if_pos hle] at hlink
  exact hlink.bind_pure rfl

theorem link_struct_self (h : l.size < intEnd) : Link (putStruct x h) (getStruct stack l) (some (l.value x.1)) := by
  have hlink := link_struct stack x h l (le_refl _)
  rwa [overwrite_of_length_eq x.2] at hlink

/-- `struct sockaddr_storage`, which is passed on as it is. -/
def sockaddrStorage : Layout := array 128 char

/-! ## Messages with a command word -/

section Switch

variable {κ μ : Type}

/-- What a handler did: the callbacks it invoked, in order, and its return code. -/
structure Handled (μ : Type) where
  calls : List μ
  ret : Int
deriving DecidableEq

def Handled.call (m : μ) : Handled μ := ⟨[m], 0⟩

def Handled.unknown : Handled μ := ⟨[], -1⟩

/-- `switch (cmd)` over the commands of an interface. -/
def switch {α : Type} (code : κ → BitVec 32) (cmds : List κ) (case : κ → Get α) (default : α) (cmd : BitVec 32) :
    Get α :=
  match cmds.find? fun c => code c = cmd with
  | some c => case c
  | none => pure default

theorem delivers_switch {α : Type} {code : κ → BitVec 32} {cmds : List κ} {case : κ → Get α} {default : α} {c : κ}
    {ps : List Put} {a : Option α} (hfind : (cmds.find? fun c' => code c' = code c) = some c)
    (hcase : Delivers (.all ps) (case c) a) :
    Delivers (.all (putInt (code c) :: ps)) (getInt >>= switch code cmds case default) a := by
  refine Delivers.cons (link_int (code c)) ?_
  rw [switch, hfind]
  exact hcase

end Switch

theorem exists_send_fields {size : Nat} (fields : List Field) (h : (fields.map Field.size).sum ≤ size) :
    ∃ datagram, send size (putFields fields) = some datagram := by
  obtain ⟨bs, hbs, hp⟩ := writes_fields fields
  exact ⟨bs, (hp.send size).trans (if_pos (hbs.trans_le h))⟩

theorem length_le_of_send {size : Nat} {fields : List Field} {x : Binary} {datagram : List Byte}
    (h : send size (putFields fields) = some datagram) (hx : .binary x ∈ fields) : x.data.length ≤ size := by
  obtain ⟨before, after, rfl⟩ := append_of_mem hx
  obtain ⟨bs, hbs, hp⟩ := writes_fields (before ++ .binary x :: after)
  rw [map_append, map_cons, sum_append, sum_cons, Field.size] at hbs
  rw [hp.send size] at h
  split at h
  · omega
  · cases h

end HuaweiY5.Msg
