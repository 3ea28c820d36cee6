import Mathlib.Algebra.Ring.Nat
import Mathlib.Data.List.TakeWhile
import Mathlib.Tactic.Common

/-!
# `Lib.Codec` — writing into a byte buffer and reading it back, with checked indices

A `Put` writes into a buffer at an offset and advances it, a `Get` reads at an offset and advances it. Both are
checked: `none` is an access outside an array. An offset is a C `int`, and reading may move it anywhere.
-/

namespace Codec

open List Option

abbrev Byte := BitVec 8

/-! ## Writing -/

/-- A writer: from a buffer and an offset to the buffer written and the offset behind it. -/
def Put : Type := List Byte → Int → Option (List Byte × Int)

namespace Put

def seq (p q : Put) : Put := fun buff off => (p buff off).bind fun r => q r.1 r.2

def all : List Put → Put
  | [] => fun buff off => some (buff, off)
  | p :: ps => p.seq (all ps)

/-- `buff[*offset] = b; *offset += 1`. -/
def byte (b : Byte) : Put := fun buff off =>
  if 0 ≤ off ∧ off < buff.length then some (buff.set off.toNat b, off + 1) else none

/-- `memcpy(&buff[*offset], bs, n); *offset += n` for an array `bs` of `n` bytes. -/
def bytes (bs : List Byte) : Put := fun buff off =>
  if 0 ≤ off ∧ off + bs.length ≤ buff.length then
    some (buff.take off.toNat ++ (bs ++ buff.drop (off.toNat + bs.length)), off + bs.length)
  else none

end Put

/-! ## Reading -/

/-- A reader: from a buffer and an offset to a value and the offset behind it. -/
def Get (α : Type) : Type := List Byte → Int → Option (α × Int)

namespace Get

variable {α β : Type}

instance instMonad : Monad Get where
  pure a := fun _ off => some (a, off)
  bind g f := fun buff off => (g buff off).bind fun r => f r.1 buff r.2

theorem pure_apply (a : α) (buff : List Byte) (off : Int) : (pure a : Get α) buff off = some (a, off) := rfl

theorem bind_apply (g : Get α) (f : α → Get β) (buff : List Byte) (off : Int) :
    (g >>= f) buff off = (g buff off).bind fun r => f r.1 buff r.2 := rfl

def fail : Get α := fun _ _ => none

/-- `buff[*offset]; *offset += 1`. -/
def byte : Get Byte := fun buff off =>
  if 0 ≤ off then (buff[off.toNat]?).map fun b => (b, off + 1) else none

/-- `memcpy(output, &buff[*offset], n); *offset += n`. -/
def bytes (n : Nat) : Get { xs : List Byte // xs.length = n } := fun buff off =>
  if h : 0 ≤ off ∧ off + n ≤ buff.length then
    some (⟨(buff.drop off.toNat).take n, by rw [length_take, length_drop]; omega⟩, off + n)
  else none

/-- `*offset += n`. -/
def advance (n : Int) : Get Unit := fun _ off => some ((), off + n)

end Get

/-- A NUL-terminated string: its bytes before the NUL. -/
structure CString where
  chars : List Byte
  noNul : 0 ∉ chars
deriving DecidableEq

def CString.bytes (s : CString) : List Byte := s.chars ++ [0]

/-- The string that starts at `&buff[*offset]`, read up to its NUL; the offset stays. -/
def Get.cstring : Get CString := fun buff off =>
  if 0 ≤ off ∧ (0 : Byte) ∈ buff.drop off.toNat then
    some (⟨(buff.drop off.toNat).takeWhile (· != 0), fun h => by simpa using mem_takeWhile_imp h⟩, off)
  else none

/-! ## What is written and what is read -/

/-- Where a C `int` ends. -/
def intEnd : Nat := 2 ^ 31

/-- `p` writes exactly the bytes `bs` at the offset, wherever there is room for them, and fails where not. -/
structure Writes (p : Put) (bs : List Byte) : Prop where
  room : ∀ pre mid post : List Byte, mid.length = bs.length →
    p (pre ++ (mid ++ post)) pre.length = some (pre ++ (bs ++ post), ((pre.length + bs.length : Nat) : Int))
  noRoom : ∀ pre post : List Byte, post.length < bs.length → p (pre ++ post) pre.length = none

/-- On the bytes `bs`, wherever they stand, `g` returns `a` and stops behind them; `none` is that it fails. -/
def Reads {α : Type} (g : Get α) (a : Option α) (bs : List Byte) : Prop :=
  ∀ pre post : List Byte, pre.length + bs.length < intEnd →
    g (pre ++ (bs ++ post)) pre.length = a.map fun a => (a, ((pre.length + bs.length : Nat) : Int))

/-- What `p` writes, `g` reads as `a`. -/
def Link {α : Type} (p : Put) (g : Get α) (a : Option α) : Prop := ∃ bs, Writes p bs ∧ Reads g a bs

variable {α β : Type} {p q : Put} {ps : List Put} {g : Get α} {f : α → Get β} {a : α} {b : Option β}
  {bs cs : List Byte}

theorem writes_nil : Writes (.all []) [] where
  room pre mid post hlen := by
    obtain rfl : mid = [] := length_eq_zero_iff.mp hlen
    simp [Put.all]
  noRoom pre post hlen := absurd hlen (Nat.not_lt_zero _)

theorem Writes.seq (hp : Writes p bs) (hq : Writes q cs) : Writes (p.seq q) (bs ++ cs) where
  room pre mid post hlen := by
    rw [length_append] at hlen
    -- the first part of the room goes to `p`, the second to `q`
    have hsplit : pre ++ (mid ++ post) = pre ++ (mid.take bs.length ++ (mid.drop bs.length ++ post)) := by
      rw [← append_assoc (mid.take _), take_append_drop]
    have hq' := hq.room (pre ++ bs) (mid.drop bs.length) post (by rw [length_drop]; omega)
    simp only [append_assoc, length_append] at hq'
    rw [Put.seq, hsplit, hp.room pre _ _ (by rw [length_take]; omega), bind_some, hq']
    simp [Nat.add_assoc]
  noRoom pre post hlen := by
    rw [length_append] at hlen
    by_cases hshort : post.length < bs.length
    · rw [Put.seq, hp.noRoom pre post hshort, bind_none]
    · have hsplit : pre ++ post = pre ++ (post.take bs.length ++ post.drop bs.length) := by
        rw [take_append_drop]
      have hq' := hq.noRoom (pre ++ bs) (post.drop bs.length) (by rw [length_drop]; omega)
      simp only [append_assoc, length_append] at hq'
      rw [Put.seq, hsplit, hp.room pre _ _ (by rw [length_take]; omega), bind_some, hq']

theorem Writes.cons (hp : Writes p bs) (hq : Writes (.all ps) cs) : Writes (.all (p :: ps)) (bs ++ cs) := hp.seq hq

theorem Writes.length_unique (h : Writes p bs) (h' : Writes p cs) : bs.length = cs.length := by
  -- room for the shorter of the two is no room for the other
  suffices hle : ∀ {bs cs : List Byte}, Writes p bs → Writes p cs → cs.length ≤ bs.length from
    Nat.le_antisymm (hle h' h) (hle h h')
  intro bs cs h h'
  by_contra hlt
  have hroom := h.room [] (List.replicate bs.length 0) [] (by simp)
  have hnoRoom := h'.noRoom [] (List.replicate bs.length 0) (by simpa using hlt)
  rw [append_nil, hnoRoom] at hroom
  cases hroom

theorem Reads.bind (hg : Reads g (some a) bs) (hf : Reads (f a) b cs) : Reads (g >>= f) b (bs ++ cs) := by
  intro pre post hlen
  rw [length_append] at hlen
  have hf' := hf (pre ++ bs) post (by rw [length_append]; omega)
  simp only [append_assoc, length_append] at hf'
  rw [Get.bind_apply, append_assoc, hg pre _ (by omega), map_some, bind_some, hf']
  simp [Nat.add_assoc]

theorem Reads.bind_none (hg : Reads g none bs) : Reads (g >>= f) none (bs ++ cs) := by
  intro pre post hlen
  rw [length_append] at hlen
  rw [Get.bind_apply, append_assoc, hg pre _ (by omega)]
  rfl

theorem Reads.pure (a : α) : Reads (pure a) (some a) [] := by
  intro pre post _
  simp [Get.pure_apply]

namespace Link

theorem roundtrip {a : Option α} (h : Link p g a) (hsize : Writes p cs) {buff : List Byte} {off : Nat}
    (hroom : off + cs.length ≤ buff.length) (hint : off + cs.length < intEnd) :
    ∃ buff', p buff off = some (buff', ((off + cs.length : Nat) : Int)) ∧
      g buff' off = a.map fun a => (a, ((off + cs.length : Nat) : Int)) := by
  obtain ⟨bs, hp, hg⟩ := h
  have hlen := hsize.length_unique hp
  have hpre : (buff.take off).length = off := by rw [length_take]; omega
  have hbuff : buff.take off ++ ((buff.drop off).take bs.length ++ (buff.drop off).drop bs.length) = buff := by
    rw [take_append_drop, take_append_drop]
  have hwrite := hp.room (buff.take off) ((buff.drop off).take bs.length) ((buff.drop off).drop bs.length)
    (by rw [length_take, length_drop]; omega)
  have hread := hg (buff.take off) ((buff.drop off).drop bs.length) (by omega)
  rw [hbuff, hpre] at hwrite
  rw [hpre] at hread
  rw [hlen]
  exact ⟨_, hwrite, hread⟩

theorem nil {a' : α} (h : a = a') : Link (.all []) (pure a) (some a') := ⟨[], writes_nil, h ▸ Reads.pure a⟩

theorem cons (h : Link p g (some a)) (hrest : Link (.all ps) (f a) b) : Link (.all (p :: ps)) (g >>= f) b := by
  obtain ⟨bs, hp, hg⟩ := h
  obtain ⟨cs, hps, hf⟩ := hrest
  exact ⟨bs ++ cs, hp.cons hps, hg.bind hf⟩

theorem stuck (h : Link p g none) (hrest : Writes (.all ps) cs) : Link (.all (p :: ps)) (g >>= f) none := by
  obtain ⟨bs, hp, hg⟩ := h
  exact ⟨bs ++ cs, hp.cons hrest, hg.bind_none⟩

theorem bind_pure {b : β} (h : Link p g (some a)) (hf : f a = pure b) : Link p (g >>= f) (some b) := by
  obtain ⟨bs, hp, hg⟩ := h
  have hbind := hg.bind (show Reads (f a) (some b) [] from hf ▸ Reads.pure b)
  rw [append_nil] at hbind
  exact ⟨bs, hp, hbind⟩

theorem last {a : Option α} (h : Link p g a) : Link (.all [p]) g a := by
  obtain ⟨bs, hp, hg⟩ := h
  have hall := hp.cons writes_nil
  rw [append_nil] at hall
  exact ⟨bs, hall, hg⟩

end Link

/-! ## Single accesses -/

theorem writes_byte (x : Byte) : Writes (.byte x) [x] where
  room pre mid post hlen := by
    obtain ⟨m, rfl⟩ := length_eq_one_iff.mp hlen
    have hin : 0 ≤ (pre.length : Int) ∧ (pre.length : Int) < (pre ++ ([m] ++ post)).length := by
      simp only [length_append, length_singleton]
      omega
    rw [Put.byte, if_pos hin]
    simp
  noRoom pre post hlen := by
    obtain rfl : post = [] := length_eq_zero_iff.mp (by simpa using hlen)
    rw [Put.byte, if_neg (by simp)]

theorem reads_byte (x : Byte) : Reads .byte (some x) [x] := by
  intro pre post _
  rw [Get.byte]
  simp

theorem writes_bytes (xs : List Byte) : Writes (.bytes xs) xs where
  room pre mid post hlen := by
    have hin : 0 ≤ (pre.length : Int) ∧ (pre.length : Int) + xs.length ≤ (pre ++ (mid ++ post)).length := by
      simp only [length_append]
      omega
    rw [Put.bytes, if_pos hin]
    simp [← hlen]
  noRoom pre post hlen := by
    rw [Put.bytes, if_neg (by simp only [length_append]; omega)]

theorem reads_bytes {n : Nat} (xs : { xs : List Byte // xs.length = n }) : Reads (.bytes n) (some xs) xs.1 := by
  obtain ⟨xs, rfl⟩ := xs
  intro pre post _
  rw [Get.bytes, dif_pos (by simp only [length_append]; omega)]
  simp

theorem cstring_apply (s : CString) (pre post : List Byte) :
    Get.cstring (pre ++ (s.bytes ++ post)) pre.length = some (s, (pre.length : Int)) := by
  have hdrop : (pre ++ (s.bytes ++ post)).drop (pre.length : Int).toNat = s.chars ++ (0 :: post) := by
    simp [CString.bytes]
  have htake : (s.chars ++ (0 :: post)).takeWhile (· != 0) = s.chars := by
    rw [takeWhile_append_of_pos (fun c hc => by
      simp only [bne_iff_ne]
      rintro rfl
      exact s.noNul hc)]
    simp
  rw [Get.cstring]
  simp only [hdrop, htake]
  rw [if_pos ⟨by omega, by simp⟩]

/-! ## Readers of a fixed size -/

/-- `g` reads `n` bytes, whatever they are: it succeeds exactly where they are in the buffer. -/
structure Fixed (g : Get α) (n : Nat) : Prop where
  inside : ∀ (buff : List Byte) (off : Int), 0 ≤ off → off + n ≤ buff.length → ∃ a, g buff off = some (a, off + n)
  outside : ∀ (buff : List Byte) (off : Int), off < 0 ∨ buff.length < off + n → g buff off = none

namespace Fixed

variable {m n : Nat}

theorem byte : Fixed Get.byte 1 where
  inside buff off hpos hlen := by
    have hin : off.toNat < buff.length := by omega
    exact ⟨buff[off.toNat], by rw [Get.byte, if_pos hpos, getElem?_eq_getElem hin]; rfl⟩
  outside buff off hout := by
    rw [Get.byte]
    split
    · rw [getElem?_eq_none (by omega), map_none]
    · rfl

theorem bind (hg : Fixed g m) (hf : ∀ a, Fixed (f a) n) : Fixed (g >>= f) (m + n) where
  inside buff off hpos hlen := by
    obtain ⟨a, ha⟩ := hg.inside buff off hpos (by omega)
    obtain ⟨b, hb⟩ := (hf a).inside buff (off + m) (by omega) (by omega)
    refine ⟨b, ?_⟩
    rw [Get.bind_apply, ha, bind_some, hb, Int.natCast_add, Int.add_assoc]
  outside buff off hout := by
    rw [Get.bind_apply]
    by_cases hfirst : off < 0 ∨ buff.length < off + m
    · rw [hg.outside buff off hfirst, bind_none]
    · obtain ⟨a, ha⟩ := hg.inside buff off (by omega) (by omega)
      rw [ha, bind_some, (hf a).outside buff (off + m) (by omega)]

theorem map (hg : Fixed g n) (f : α → β) : Fixed (g >>= fun a => pure (f a)) n where
  inside buff off hpos hlen := by
    obtain ⟨a, ha⟩ := hg.inside buff off hpos hlen
    exact ⟨f a, by rw [Get.bind_apply, ha]; rfl⟩
  outside buff off hout := by
    rw [Get.bind_apply, hg.outside buff off hout, bind_none]

end Fixed

/-! ## A word from its halves

A word of `2n` bits is written as its two halves, each masked to `n` bits, and put together again from halves
that were sign-extended on the way: the lower half is masked once more, and the sign of the upper half is
shifted out of the word. -/

section Halves

variable {n v w : Nat}

theorem getLsbD_mask (h : n ≤ v) (i : Nat) : (BitVec.ofNat v (2 ^ n - 1)).getLsbD i = decide (i < n) := by
  rw [BitVec.getLsbD_ofNat, Nat.testBit_two_pow_sub_one]
  by_cases hi : i < n
  · simp only [hi, decide_true, Bool.and_true, decide_eq_true_eq]
    omega
  · simp [hi]

theorem setWidth_and_mask (h : n ≤ v) (x : BitVec v) :
    (x &&& BitVec.ofNat v (2 ^ n - 1)).setWidth n = x.setWidth n := by
  apply BitVec.eq_of_getLsbD_eq
  intro i hi
  simp [getLsbD_mask h, hi]

theorem setWidth_sshiftRight_and_mask (h : n + n ≤ v) (x : BitVec v) :
    (x.sshiftRight n &&& BitVec.ofNat v (2 ^ n - 1)).setWidth n = x.extractLsb' n n := by
  apply BitVec.eq_of_getLsbD_eq
  intro i hi
  have hin : ¬ v ≤ i := by omega
  have hsum : n + i < v := by omega
  simp [BitVec.getLsbD_sshiftRight, getLsbD_mask (show n ≤ v by omega), hi, hin, hsum]

theorem signExtend_and_mask (h : n ≤ v) (b : BitVec n) :
    b.signExtend v &&& BitVec.ofNat v (2 ^ n - 1) = b.setWidth v := by
  apply BitVec.eq_of_getLsbD_eq
  intro i hi
  simp only [BitVec.getLsbD_and, BitVec.getLsbD_signExtend, getLsbD_mask h, BitVec.getLsbD_setWidth]
  by_cases hin : i < n
  · simp [hin]
  · simp only [hin, decide_false, Bool.and_false, Bool.false_eq, Bool.and_eq_false_imp]
    exact fun _ => BitVec.getLsbD_of_ge _ _ (by omega)

theorem getLsbD_signExtend_of_lt {i : Nat} (hi : i < w) (hv : i < v) (x : BitVec w) :
    (x.signExtend v).getLsbD i = x.getLsbD i := by
  rw [BitVec.getLsbD_signExtend, if_pos hi, decide_eq_true hv, Bool.true_and]

theorem setWidth_signExtend (h : n ≤ w) (hv : w ≤ v) (x : BitVec w) : (x.signExtend v).setWidth n = x.setWidth n := by
  apply BitVec.eq_of_getLsbD_eq
  intro i hi
  rw [BitVec.getLsbD_setWidth, BitVec.getLsbD_setWidth, getLsbD_signExtend_of_lt (by omega) (by omega)]

theorem extractLsb'_signExtend (h : n + n ≤ w) (hv : w ≤ v) (x : BitVec w) :
    (x.signExtend v).extractLsb' n n = x.extractLsb' n n := by
  apply BitVec.eq_of_getLsbD_eq
  intro i hi
  rw [BitVec.getLsbD_extractLsb', BitVec.getLsbD_extractLsb', getLsbD_signExtend_of_lt (by omega) (by omega)]

theorem setWidth_or_shiftLeft (hw : w = n + n) (hv : w ≤ v) (x : BitVec w) :
    (x.setWidth n).setWidth w ||| ((x.extractLsb' n n).signExtend v <<< n).setWidth w = x := by
  apply BitVec.eq_of_getLsbD_eq
  intro i hi
  have hiv : i < v := by omega
  simp only [BitVec.getLsbD_or, BitVec.getLsbD_setWidth, BitVec.getLsbD_shiftLeft, BitVec.getLsbD_signExtend,
    BitVec.getLsbD_extractLsb', hi, hiv, decide_true, Bool.true_and]
  by_cases hin : i < n
  · simp [hin]
  · have hrest : i - n < n := by omega
    have hsum : n + (i - n) = i := by omega
    simp [hin, hrest, hsum, show i - n < v by omega]

theorem setWidth_append_right (hi lo : BitVec n) : (hi ++ lo).setWidth n = lo := by
  apply BitVec.eq_of_getLsbD_eq
  intro i hin
  rw [BitVec.getLsbD_setWidth, BitVec.getLsbD_append, if_pos hin, decide_eq_true hin, Bool.true_and]

theorem append_of_halves (hv : n + n ≤ v) (hi lo : BitVec n) :
    lo.setWidth (n + n) ||| (hi.signExtend v <<< n).setWidth (n + n) = hi ++ lo := by
  have hhi : (hi ++ lo).extractLsb' n n = hi := BitVec.extractLsb'_append_eq_left ..
  have hjoin := setWidth_or_shiftLeft rfl hv (hi ++ lo)
  rwa [setWidth_append_right, hhi] at hjoin

end Halves

/-! ## Datagrams -/

def send (size : Nat) (p : Put) : Option (List Byte) := (p (List.replicate size 0) 0).map fun r => r.1.take r.2.toNat

/-- What a reader makes of a datagram received into a zeroed buffer. -/
def receive (size : Nat) (g : Get α) (datagram : List Byte) : Option α :=
  (g (datagram ++ List.replicate (size - datagram.length) 0) 0).map Prod.fst

theorem Writes.send (h : Writes p bs) (size : Nat) : send size p = if bs.length ≤ size then some bs else none := by
  by_cases hfits : bs.length ≤ size
  · have hsplit : List.replicate size (0 : Byte) =
        [] ++ (List.replicate bs.length 0 ++ List.replicate (size - bs.length) 0) := by
      rw [replicate_append_replicate]
      congr 1
      omega
    have hroom := h.room [] (List.replicate bs.length 0) (List.replicate (size - bs.length) 0) (by simp)
    rw [if_pos hfits, Codec.send, hsplit]
    simp only [length_nil, Int.natCast_zero] at hroom
    rw [hroom]
    simp
  · have hnoRoom := h.noRoom [] (List.replicate size 0) (by simpa using hfits)
    simp only [length_nil, Int.natCast_zero, nil_append] at hnoRoom
    rw [if_neg hfits, Codec.send, hnoRoom]
    rfl

/-- From what `p` writes, `g` makes `a`, wherever it stops reading. -/
def Delivers (p : Put) (g : Get α) (a : Option α) : Prop :=
  ∃ bs, Writes p bs ∧ ∀ pre post : List Byte, pre.length + bs.length < intEnd →
    (g (pre ++ (bs ++ post)) pre.length).map Prod.fst = a

theorem Link.delivers {a : Option α} (h : Link p g a) : Delivers p g a := by
  obtain ⟨bs, hp, hg⟩ := h
  refine ⟨bs, hp, fun pre post hlen => ?_⟩
  rw [hg pre post hlen, Option.map_map]
  exact map_id_apply ..

namespace Delivers

theorem cons (h : Link p g (some a)) (hrest : Delivers (.all ps) (f a) b) :
    Delivers (.all (p :: ps)) (g >>= f) b := by
  obtain ⟨bs, hp, hg⟩ := h
  obtain ⟨cs, hps, hf⟩ := hrest
  refine ⟨bs ++ cs, hp.cons hps, fun pre post hlen => ?_⟩
  rw [length_append] at hlen
  have hf' := hf (pre ++ bs) post (by rw [length_append]; omega)
  simp only [append_assoc, length_append] at hf'
  rw [Get.bind_apply, append_assoc, hg pre _ (by omega), map_some, bind_some, hf']

theorem ignore (h : Writes p bs) (a : α) : Delivers p (pure a) (some a) := ⟨bs, h, fun _ _ _ => rfl⟩

/-- **Delivery.** The datagram that is sent is read as `Delivers` says. -/
theorem receive {a : Option α} (h : Delivers p g a) {size : Nat} {datagram : List Byte} (hsize : size < intEnd)
    (hsend : send size p = some datagram) : receive size g datagram = a := by
  obtain ⟨bs, hp, hg⟩ := h
  rw [hp.send size] at hsend
  split at hsend
  · rename_i hfits
    obtain rfl : bs = datagram := some.inj hsend
    have hread := hg [] (List.replicate (size - bs.length) 0) (by simp only [length_nil]; omega)
    exact hread
  · cases hsend

end Delivers

end Codec
