import HuaweiY5.Lib.CLayout
import Mathlib.Data.List.Induction
import Mathlib.Tactic.Ring

/-!
# `Wifi.DriverCmd` — commands for the Wi-Fi driver

Two branches of `wpa_driver_nl80211_driver_cmd`: the last one, which passes a command on as it is, once through a buffer
on the stack and once in a private ioctl; and the one of the receive filter, which reads six words with `strtol`.
-/

namespace HuaweiY5.Wifi.DriverCmd

open List Codec CLayout

/-! ## Commands that are passed on -/

/-- A `u32` in memory. -/
def u32 (n : Nat) : List Byte := [n, n / 2 ^ 8, n / 2 ^ 16, n / 2 ^ 24].map (BitVec.ofNat 8)

variable (cmd : CString)

/-- `params->buflen`. -/
def buflen : Nat := (8 + cmd.chars.length) % 2 ^ 32

/-- The `struct wpa_driver_test_mode_info` in front of the command. -/
def header : List Byte := u32 (102 ||| 0x01 <<< 24) ++ u32 (buflen cmd)

def strncpy (n : Nat) : List Byte := (cmd.chars ++ replicate n 0).take n

/-- `buffer[100]`. -/
def buffer : List Byte := header cmd ++ strncpy cmd (100 - 8)

/-- The bytes handed to `wpa_driver_nl80211_testmode`: `buflen` of them from `buffer` on. What lies behind it on the
    stack is `stack`. -/
def testmodeData (stack : Nat → Byte) : List Byte := (range (buflen cmd)).map fun i => (buffer cmd)[i]?.getD (stack i)

/-- `android_wifi_priv_cmd`. -/
structure PrivCmd where
  buf : List Byte
  usedLen : Int
  totalLen : Int
  deriving DecidableEq

/-- `PRIV_CMD_SIZE`. -/
def privCmdSize : Nat := 512

/-- `priv_cmd` of the ioctl; with a negative number of bytes `memcpy` leaves the buffer. -/
def privCmd : Option PrivCmd :=
  let strlen : Int := (cmd.chars.length : Int).bmod (2 ^ 32)
  let cmdLen : Int := if privCmdSize ≤ strlen then privCmdSize - 1 else strlen
  if cmdLen + 1 < 0 then none
  else
    let n := (cmdLen + 1).toNat
    some ⟨cmd.bytes.take n ++ replicate (privCmdSize - n) 0, cmdLen + 1, privCmdSize⟩

/-- The buffer begins with a part of the command and a NUL, which `used_len` counts. -/
def PrivCmd.Holds (p : PrivCmd) (cmd : CString) : Prop :=
  ∃ text, text <+: cmd.chars ∧ text ++ [0] <+: p.buf ∧ p.usedLen = text.length + 1

/-- Nothing but the command is passed on, whatever the stack holds. -/
structure Exact (cmd : CString) : Prop where
  testmode : ∀ stack, testmodeData cmd stack = header cmd ++ cmd.chars
  same : ∀ stack stack', testmodeData cmd stack = testmodeData cmd stack'
  priv : ∃ p, privCmd cmd = some p ∧ p.Holds cmd

theorem length_buffer : (buffer cmd).length = 100 := by
  simp [buffer, header, u32, strncpy]

theorem testmodeData_of_short {cmd : CString} (h : cmd.chars.length ≤ 92) (stack : Nat → Byte) :
    testmodeData cmd stack = header cmd ++ cmd.chars := by
  have hbuffer : buffer cmd = header cmd ++ cmd.chars ++ replicate (92 - cmd.chars.length) 0 := by
    rw [buffer, strncpy, take_append, take_of_length_le h, take_replicate]
    simp
  have hlen : (header cmd ++ cmd.chars).length = buflen cmd := by
    simp [header, u32, buflen]
    omega
  refine ext_getElem (by simp [testmodeData, hlen]) fun i hi hi' => ?_
  simp only [testmodeData, getElem_map, getElem_range]
  rw [hbuffer, getElem?_append_left hi', getElem?_eq_getElem hi', Option.getD_some]

theorem privCmd_of_short {cmd : CString} (h : cmd.chars.length < privCmdSize) :
    ∃ p, privCmd cmd = some p ∧ p.Holds cmd := by
  have hsize : privCmdSize = 512 := rfl
  have hlen : (cmd.chars.length : Int).bmod (2 ^ 32) = cmd.chars.length := Int.bmod_eq_of_le (by omega) (by omega)
  refine ⟨⟨cmd.bytes ++ replicate (privCmdSize - (cmd.chars.length + 1)) 0, cmd.chars.length + 1, privCmdSize⟩, ?_,
    cmd.chars, prefix_refl _, prefix_append _ _, rfl⟩
  unfold privCmd
  dsimp only
  have hn : ((cmd.chars.length : Int) + 1).toNat = cmd.chars.length + 1 := by omega
  rw [hlen, if_neg (by omega), if_neg (by omega), hn, take_of_length_le (by simp [CString.bytes])]

/-- **Commands that are passed on.** Exactly the commands of at most 92 bytes are passed on and nothing else. -/
theorem transparent_exact_iff (cmd : CString) : Exact cmd ↔ cmd.chars.length ≤ 92 := by
  constructor
  · intro h
    by_contra hlong
    -- the request is as long as the header and the command only if the length did not wrap
    have hlen := congrArg length (h.testmode fun _ => 0)
    have hbuflen : 100 < buflen cmd := by
      simp [testmodeData, header, u32] at hlen
      omega
    have hbyte := congrArg (fun l : List Byte => l[100]?) (h.same (fun _ => 0) fun _ => 1)
    have hend : (buffer cmd)[100]? = none := getElem?_eq_none (by rw [length_buffer])
    simp [testmodeData, hbuflen, hend] at hbyte
  · intro h
    refine ⟨testmodeData_of_short h, fun stack stack' => ?_, privCmd_of_short ?_⟩
    · rw [testmodeData_of_short h, testmodeData_of_short h]
    · rw [privCmdSize]
      omega

/-- The command of so many letters. -/
def letters (n : Nat) : CString := ⟨replicate n 97, by simp⟩

/-- Of a command of 93 bytes a byte of the stack is passed on; one of 512 bytes fills the private buffer without a
    NUL. -/
theorem long_commands_leak :
    testmodeData (letters 93) (fun _ => 0) ≠ testmodeData (letters 93) (fun _ => 1) ∧
      privCmd (letters 512) = some ⟨replicate 512 97, 512, 512⟩ := by
  constructor <;> decide +kernel

/-! ## The receive filter -/

def hexDigit (c : Byte) : Option Nat :=
  if 48 ≤ c.toNat ∧ c.toNat ≤ 57 then some (c.toNat - 48)
  else if 65 ≤ c.toNat ∧ c.toNat ≤ 70 then some (c.toNat - 55)
  else if 97 ≤ c.toNat ∧ c.toNat ≤ 102 then some (c.toNat - 87)
  else none

/-- The number that hexadecimal digits stand for. -/
def hexValue (s : List Byte) : Nat := s.foldl (fun v c => 16 * v + (hexDigit c).getD 0) 0

def isSpace (c : Byte) : Bool := c.toNat = 32 || (9 ≤ c.toNat && c.toNat ≤ 13)

/-- A `0x` in front of a digit is skipped. -/
def skipMark : List Byte → List Byte
  | z :: x :: d :: rest =>
    if z = 48 ∧ (x = 120 ∨ x = 88) ∧ (hexDigit d).isSome then d :: rest else z :: x :: d :: rest
  | s => s

/-- `LONG_MAX`. -/
def longMax : Abi → Int
  | .ilp32 => 2 ^ 31 - 1
  | .lp64 => 2 ^ 63 - 1

/-- `strtol` with the base 16. -/
def strtol (abi : Abi) (s : List Byte) : Int :=
  let s := s.dropWhile isSpace
  let number (s : List Byte) : Int := hexValue ((skipMark s).takeWhile fun c => (hexDigit c).isSome)
  if s.head? = some 45 then max (-longMax abi - 1) (-number s.tail)
  else if s.head? = some 43 then min (longMax abi) (number s.tail)
  else min (longMax abi) (number s)

/-- A result of `strtol` assigned to a `u32`. -/
def word (abi : Abi) (s : List Byte) : Nat := (strtol abi s % 2 ^ 32).toNat

/-- The words of `wpa_driver_rx_filter_params`. -/
structure RxFilter where
  ipv4FilterHigh : Nat
  ipv4FilterLow : Nat
  ipv6FilterHigh : Nat
  ipv6FilterLow : Nat
  snapFilterHigh : Nat
  snapFilterLow : Nat
  deriving DecidableEq

/-- The branch of the receive filter: the request that is made, if any. -/
def rxPacketFilter (abi : Abi) (cmd : List Byte) : Option RxFilter :=
  if cmd.length ≠ 71 then none
  else
    let half (pos : Nat) := word abi ((cmd.drop pos).take 8)
    some ⟨half 21, half 29, half 38, half 46, half 55, half 63⟩

/-- Sixteen hexadecimal digits. -/
structure HexWord where
  digits : List Byte
  length : digits.length = 16
  hex : ∀ c ∈ digits, (hexDigit c).isSome

namespace HexWord

def high (w : HexWord) : List Byte := w.digits.take 8

def low (w : HexWord) : List Byte := w.digits.drop 8

/-- Both halves are in the range of `long`. -/
def Fits (abi : Abi) (w : HexWord) : Prop := abi = .lp64 ∨ (hexValue w.high < 2 ^ 31 ∧ hexValue w.low < 2 ^ 31)

end HexWord

def RxFilter.Says (p : RxFilter) (a b c : HexWord) : Prop :=
  p.ipv4FilterHigh * 2 ^ 32 + p.ipv4FilterLow = hexValue a.digits ∧
    p.ipv6FilterHigh * 2 ^ 32 + p.ipv6FilterLow = hexValue b.digits ∧
    p.snapFilterHigh * 2 ^ 32 + p.snapFilterLow = hexValue c.digits

/-- `mtk_rx_packet_filter` and a blank. -/
def filterName : List Byte :=
  [109, 116, 107, 95, 114, 120, 95, 112, 97, 99, 107, 101, 116, 95, 102, 105, 108, 116, 101, 114, 32]

def filterCommand (a b c : HexWord) : List Byte := filterName ++ a.digits ++ 32 :: b.digits ++ 32 :: c.digits

theorem hexValue_snoc (s : List Byte) (c : Byte) : hexValue (s ++ [c]) = 16 * hexValue s + (hexDigit c).getD 0 :=
  foldl_append

theorem hexValue_append (s t : List Byte) : hexValue (s ++ t) = hexValue s * 16 ^ t.length + hexValue t := by
  induction t using reverseRecOn with
  | nil => simp [hexValue]
  | append_singleton t c ih =>
    rw [← append_assoc, hexValue_snoc, hexValue_snoc, ih, length_append, length_singleton]
    ring

theorem hexDigit_lt (c : Byte) : (hexDigit c).getD 0 < 16 := by
  unfold hexDigit
  split_ifs <;> simp <;> omega

theorem hexValue_lt (s : List Byte) : hexValue s < 16 ^ s.length := by
  induction s using reverseRecOn with
  | nil => simp [hexValue]
  | append_singleton s c ih =>
    have hdigit := hexDigit_lt c
    rw [hexValue_snoc, length_append, length_singleton]
    omega

theorem plain_of_hexDigit {c : Byte} (h : (hexDigit c).isSome) :
    isSpace c = false ∧ c ≠ 45 ∧ c ≠ 43 ∧ c ≠ 120 ∧ c ≠ 88 := by
  refine ⟨?_, ?_, ?_, ?_, ?_⟩
  · unfold hexDigit at h
    simp only [isSpace, Bool.or_eq_false_iff, Bool.and_eq_false_iff, decide_eq_false_iff_not]
    split_ifs at h <;> first | omega | simp at h
  all_goals
    rintro rfl
    exact absurd h (by decide)

theorem strtol_of_hex {s : List Byte} (h : ∀ c ∈ s, (hexDigit c).isSome) (abi : Abi) :
    strtol abi s = min (longMax abi) (hexValue s) := by
  have hspace : s.dropWhile isSpace = s := by
    cases s with
    | nil => rfl
    | cons c s => rw [dropWhile_cons_of_neg (by simp [(plain_of_hexDigit (h c mem_cons_self)).1])]
  have hmark : skipMark s = s := by
    unfold skipMark
    split
    · rename_i x d rest
      have hx := plain_of_hexDigit (h x (by simp))
      rw [if_neg fun hmark => hmark.2.1.elim hx.2.2.2.1 hx.2.2.2.2]
    · rfl
  have hsign : s.head? ≠ some 45 ∧ s.head? ≠ some 43 := by
    cases s with
    | nil => simp
    | cons c s => simpa using ⟨(plain_of_hexDigit (h c mem_cons_self)).2.1, (plain_of_hexDigit (h c mem_cons_self)).2.2.1⟩
  unfold strtol
  dsimp only
  rw [hspace, if_neg hsign.1, if_neg hsign.2, hmark, takeWhile_eq_self_iff.mpr h]

/-- Eight digits beyond `LONG_MAX` give `LONG_MAX`. -/
theorem word_of_hex {s : List Byte} (h : ∀ c ∈ s, (hexDigit c).isSome) (hlen : s.length = 8) (abi : Abi) :
    word abi s = if abi = .lp64 then hexValue s else min (2 ^ 31 - 1) (hexValue s) := by
  have hlt := hexValue_lt s
  rw [hlen] at hlt
  rw [word, strtol_of_hex h]
  cases abi <;> simp only [longMax, reduceCtorEq, if_true, if_false] <;> omega

theorem HexWord.words_iff (w : HexWord) (abi : Abi) :
    word abi w.high * 2 ^ 32 + word abi w.low = hexValue w.digits ↔ w.Fits abi := by
  have hhigh : w.high.length = 8 := by simp [high, w.length]
  have hlow : w.low.length = 8 := by simp [low, w.length]
  have hvalue : hexValue w.digits = hexValue w.high * 2 ^ 32 + hexValue w.low := by
    rw [← take_append_drop 8 w.digits, hexValue_append]
    simp [high, low, w.length]
  rw [word_of_hex (s := w.high) (fun c hc => w.hex c (mem_of_mem_take hc)) hhigh,
    word_of_hex (s := w.low) (fun c hc => w.hex c (mem_of_mem_drop hc)) hlow, hvalue, Fits]
  cases abi with
  | lp64 => simp
  | ilp32 =>
    simp only [reduceCtorEq, if_false, false_or]
    omega

theorem HexWord.halves (w : HexWord) (before behind : List Byte) :
    ((before ++ w.digits ++ behind).drop before.length).take 8 = w.high ∧
      ((before ++ w.digits ++ behind).drop (before.length + 8)).take 8 = w.low := by
  constructor <;> simp [high, low, take_append, drop_append, w.length]

theorem rxPacketFilter_command (abi : Abi) (a b c : HexWord) :
    rxPacketFilter abi (filterCommand a b c) =
      some ⟨word abi a.high, word abi a.low, word abi b.high, word abi b.low, word abi c.high, word abi c.low⟩ := by
  have ha := a.halves filterName (32 :: b.digits ++ 32 :: c.digits)
  have hb := b.halves (filterName ++ a.digits ++ [32]) (32 :: c.digits)
  have hc := c.halves (filterName ++ a.digits ++ 32 :: b.digits ++ [32]) []
  simp only [append_assoc, cons_append, nil_append, length_append, length_cons, length_nil, a.length, b.length,
    append_nil, show filterName.length = 21 from rfl, Nat.reduceAdd] at ha hb hc
  have hlen : (filterCommand a b c).length = 71 := by
    simp [filterCommand, a.length, b.length, c.length, filterName]
  rw [rxPacketFilter, if_neg (by rw [hlen]; decide)]
  simp only [filterCommand, append_assoc, cons_append, ha, hb, hc]

/-- **The receive filter.** The six words are those of the command exactly if the halves are in the range of `long`;
    commands of another length lead to no request. -/
theorem rxPacketFilter_iff (abi : Abi) (a b c : HexWord) :
    ((∃ p, rxPacketFilter abi (filterCommand a b c) = some p ∧ p.Says a b c) ↔ a.Fits abi ∧ b.Fits abi ∧ c.Fits abi) ∧
      ∀ cmd : List Byte, cmd.length ≠ 71 → rxPacketFilter abi cmd = none := by
  refine ⟨?_, fun cmd hcmd => if_pos hcmd⟩
  rw [rxPacketFilter_command, ← a.words_iff, ← b.words_iff, ← c.words_iff]
  constructor
  · rintro ⟨p, hp, hsays⟩
    rw [← Option.some.inj hp] at hsays
    exact hsays
  · exact fun hsays => ⟨_, rfl, hsays⟩

/-- Sixteen times the digit 8. -/
def eights : HexWord := ⟨replicate 16 56, rfl, by simp [hexDigit]⟩

/-- In a 32-bit process the words of `8888888888888888` are `7fffffff`. -/
theorem rxPacketFilter_saturates :
    rxPacketFilter .ilp32 (filterCommand eights eights eights) =
        some ⟨0x7fffffff, 0x7fffffff, 0x7fffffff, 0x7fffffff, 0x7fffffff, 0x7fffffff⟩ ∧
      hexValue eights.digits = 0x8888888888888888 := by
  constructor <;> decide +kernel

end HuaweiY5.Wifi.DriverCmd
