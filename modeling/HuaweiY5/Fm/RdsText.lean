import HuaweiY5.Fm.Tuner
import HuaweiY5.Lib.CLayout

/-!
# `Fm.RdsText` — the RDS texts in the metadata

The driver delivers an `RDSData_Struct`; `prepare_metadata` puts its program name (PS) and its radio text (RT) into the
metadata. Both are arrays without a terminator in the middle of the record, and `radio_metadata_add_text` is given a
pointer and reads up to the next NUL. The unprintable bytes of a text are replaced before, over 8 bytes of the PS and
over `TextLength` bytes of the RT, a length that comes from the air and may be more than the 64 bytes of the array.
-/

namespace HuaweiY5.Fm.RdsText

open List Option Codec CLayout

/-! ## The record -/

/-- `CT_Struct`. -/
def ct : Layout := struct [short, short, short, short, short, char, char]

/-- `RDSFlag_Struct`. -/
def rdsFlag : Layout := struct [char, char, char, char, char, char, char, char, int]

def afInfo : Layout := struct [short, array 2 (array 25 short), char, char, char]

def psInfo : Layout := struct [array 4 (array 8 char), char]

def rtInfo : Layout := struct [array 4 (array 64 char), char, char, char, char, char, short]

variable (abi : Abi)

def rdsGroupCnt : Layout := struct [sizeT abi, array 16 (sizeT abi), array 16 (sizeT abi)]

/-- The fields of `RDSData_Struct`. -/
def rdsFields : List Layout :=
  [ct, rdsFlag, short, char, char, afInfo, afInfo, char, short, char, short, psInfo, array 8 char, rtInfo, short,
    rdsGroupCnt abi]

/-- `sizeof(RDSData_Struct)`. -/
def recordSize : Nat := (struct (rdsFields abi)).size

/-- `PTY`. -/
def ptyAt : Nat := 27

/-- `PS_Data.PS[3]`. -/
def psAt : Nat := 248 + 3 * 8

/-- `RT_Data.TextData[3]`. -/
def rtAt : Nat := 290 + 3 * 64

/-- `RT_Data.TextLength`. -/
def textLengthAt : Nat := 290 + 4 * 64 + 2

/-- `event_status`. -/
def eventStatusAt : Nat := 554

theorem recordSize_ge : 688 ≤ recordSize abi := by
  cases abi with
  | ilp32 | lp64 => exact of_decide_eq_true rfl

/-- The record and the memory behind it, from the record's first byte on. -/
structure Memory (abi : Abi) where
  bytes : List Byte
  fits : recordSize abi ≤ bytes.length

variable {abi : Abi}

variable (m : Memory abi) (str len : Nat) (bytes : List Byte) (a : Answers)

def Memory.byte (i : Nat) : Byte := m.bytes.getD i 0

/-- `RT_Data.TextLength`. -/
def textLength : Nat := (m.byte textLengthAt).toNat

def eventStatus : Nat := littleEndian [m.byte eventStatusAt, m.byte (eventStatusAt + 1)]

/-- The events `prepare_metadata` looks at: `RDS_EVENT_PTY_CODE`, `RDS_EVENT_PROGRAMNAME` and
    `RDS_EVENT_LAST_RADIOTEXT`. -/
inductive Event
  | ptyCode
  | programname
  | lastRadiotext
  deriving DecidableEq

def Event.mask : Event → Nat
  | ptyCode => 0x0004
  | programname => 0x0008
  | lastRadiotext => 0x0040

def Event.isIn (e : Event) (status : Nat) : Bool := status &&& e.mask != 0

def Memory.has (e : Event) : Bool := e.isIn (eventStatus m)

/-! ## Replacing unprintable bytes -/

def isValid (c : Byte) : Bool := 0x20 ≤ c.toNat && c.toNat ≤ 0x7E

/-- A round of the loop of `COM_change_string`. -/
def replaced (c : Byte) : Byte := if isValid c == false then 0x20 else c

/-- The loop of `COM_change_string` over the bytes of the memory. -/
def changed : List Byte := (List.range len).foldl (fun bs i => bs.modify (str + i) replaced) bytes

theorem changed_succ : changed str (len + 1) bytes = (changed str len bytes).modify (str + len) replaced := by
  rw [changed, range_succ, foldl_append]
  rfl

theorem length_changed : (changed str len bytes).length = bytes.length := by
  induction len with
  | zero => rfl
  | succ len ih => rw [changed_succ, length_modify, ih]

/-- **What the loop changes.** The bytes of its range are replaced, and no other. -/
theorem getElem?_changed (i : Nat) :
    (changed str len bytes)[i]? = if str ≤ i ∧ i < str + len then bytes[i]?.map replaced else bytes[i]? := by
  induction len with
  | zero =>
    rw [if_neg (by omega)]
    rfl
  | succ len ih =>
    rw [changed_succ, getElem?_modify, ih]
    by_cases hi : str + len = i
    · subst hi
      simp
    · have hiff : str ≤ i ∧ i < str + (len + 1) ↔ str ≤ i ∧ i < str + len := by omega
      simp [hi, hiff]

theorem getElem?_changed_outside {str len : Nat} (bytes : List Byte) {i : Nat} (h : i < str ∨ str + len ≤ i) :
    (changed str len bytes)[i]? = bytes[i]? := by
  rw [getElem?_changed, if_neg (by omega)]

theorem drop_changed :
    (changed str len bytes).drop str = ((bytes.drop str).take len).map replaced ++ bytes.drop (str + len) := by
  apply ext_getElem?
  intro i
  rw [getElem?_drop, getElem?_changed, getElem?_append, length_map, length_take, length_drop]
  by_cases hi : i < min len (bytes.length - str)
  · rw [if_pos (by omega), if_pos hi, getElem?_map, getElem?_take_of_lt (by omega), getElem?_drop]
  · rw [if_neg hi, getElem?_drop]
    by_cases hlen : i < len
    · -- behind the end of the memory
      rw [if_pos (by omega), getElem?_eq_none (by omega), getElem?_eq_none (by omega)]
      rfl
    · rw [if_neg (by omega)]
      by_cases hend : str + len ≤ bytes.length
      · congr 1
        omega
      · rw [getElem?_eq_none (by omega), getElem?_eq_none (by omega)]

def comChangeString (m : Memory abi) : Memory abi := ⟨changed str len m.bytes, by rw [length_changed]; exact m.fits⟩

/-! ## The calls -/

/-- `-ERR_RDS_NO_DATA`. -/
def errRdsNoData : Int := -1013

/-- `COM_get_ps`: its status and where the text is, if it is set. -/
def comGetPs : Int × Option Nat × Memory abi :=
  if m.has .programname then (0, some psAt, comChangeString psAt 8 m) else (errRdsNoData, none, m)

def comGetRt : Int × Option Nat × Memory abi :=
  if m.has .lastRadiotext then (0, some rtAt, comChangeString rtAt (textLength m) m) else (errRdsNoData, none, m)

def comGetPty : Int × Byte := if m.has .ptyCode then (0, m.byte ptyAt) else (errRdsNoData, 0xFF)

/-- The C string at an address; there is none if the memory has no NUL behind it. -/
def textAt (str : Nat) : Option (List Byte) := (Get.cstring m.bytes (str : Int)).map fun r => r.1.chars

/-- What is put into the metadata: `RADIO_METADATA_KEY_RBDS_PTY`, `RADIO_METADATA_KEY_RDS_PS` and
    `RADIO_METADATA_KEY_TITLE`. -/
inductive Item
  | rbdsPty (pty : Byte)
  | rdsPs (text : Option (List Byte))
  | title (text : Option (List Byte))
  deriving DecidableEq

/-- What the metadata library and the driver answer. -/
structure Answers where
  allocate : Int
  read : Int
  addPty : Int
  addPs : Int
  addRt : Int
  deriving DecidableEq

/-- The metadata so far, with the status of the last call. -/
structure Building (abi : Abi) where
  ret : Int
  items : List Item
  mem : Memory abi

/-- `goto exit` after a call that failed. -/
def Building.andThen (b : Building abi) (f : Building abi → Building abi) : Building abi := if b.ret ≠ 0 then b else f b

/-- The PTY part of `prepare_metadata`. -/
def putPty (status : Nat) (b : Building abi) : Building abi :=
  if Event.ptyCode.isIn status then
    let r := comGetPty b.mem
    if r.1 ≠ 0 then { b with ret := r.1 } else ⟨a.addPty, b.items ++ [.rbdsPty r.2], b.mem⟩
  else b

def putPs (status : Nat) (b : Building abi) : Building abi :=
  if Event.programname.isIn status then
    match comGetPs b.mem with
    | (0, some str, mem) => ⟨a.addPs, b.items ++ [.rdsPs (textAt mem str)], mem⟩
    | (ret, _, mem) => ⟨ret, b.items, mem⟩
  else b

def putRt (status : Nat) (b : Building abi) : Building abi :=
  if Event.lastRadiotext.isIn status then
    match comGetRt b.mem with
    | (0, some str, mem) => ⟨a.addRt, b.items ++ [.title (textAt mem str)], mem⟩
    | (ret, _, mem) => ⟨ret, b.items, mem⟩
  else b

/-- `prepare_metadata`, on the record the driver delivers: the status and the metadata, with the record it leaves. -/
def prepareMetadata (m : Memory abi) : Int × Option (List Item) × Memory abi :=
  let status := eventStatus m
  let b : Building abi := ⟨a.allocate, [], m⟩
  let b := b.andThen fun b => { b with ret := a.read }
  let b := b.andThen (putPty a status)
  let b := b.andThen (putPs a status)
  let b := b.andThen (putRt a status)
  if b.ret ≠ 0 then (b.ret, none, b.mem) else (0, some b.items, b.mem)

/-! ## What a replacement leaves alone -/

section Frame

variable {m : Memory abi} {str len i : Nat}

theorem byte_comChangeString (h : i < str ∨ str + len ≤ i) : (comChangeString str len m).byte i = m.byte i := by
  exact congrArg (Option.getD · 0) (getElem?_changed_outside m.bytes h)

theorem has_comChangeString_ps (e : Event) : (comChangeString psAt 8 m).has e = m.has e := by
  rw [Memory.has, Memory.has, eventStatus, eventStatus, byte_comChangeString (Or.inr (by decide)),
    byte_comChangeString (Or.inr (by decide))]

theorem textLength_comChangeString_ps : textLength (comChangeString psAt 8 m) = textLength m := by
  rw [textLength, textLength, byte_comChangeString (Or.inr (by decide))]

theorem drop_comChangeString {k : Nat} (h : str + len ≤ k) :
    (comChangeString str len m).bytes.drop k = m.bytes.drop k := by
  apply ext_getElem?
  intro i
  rw [getElem?_drop, getElem?_drop]
  exact getElem?_changed_outside m.bytes (Or.inr (by omega))

end Frame

/-! ## What is read -/

theorem replaced_ne_zero (c : Byte) : replaced c ≠ 0 := by
  unfold replaced
  split
  · decide
  · next h =>
      rintro rfl
      exact h rfl

theorem textAt_eq (m : Memory abi) (str : Nat) : textAt m str =
    if (0 : Byte) ∈ m.bytes.drop str then some ((m.bytes.drop str).takeWhile (· != 0)) else none := by
  unfold textAt Get.cstring
  by_cases h : (0 : Byte) ∈ m.bytes.drop str
  · rw [if_pos h, if_pos ⟨Int.natCast_nonneg str, h⟩]
    rfl
  · rw [if_neg h, if_neg (fun hc => h hc.2)]
    rfl

section Text

variable (str len : Nat) (m : Memory abi)

def replacedBytes : List Byte := ((m.bytes.drop str).take len).map replaced

theorem zero_not_mem_replacedBytes : (0 : Byte) ∉ replacedBytes str len m := by
  intro h
  obtain ⟨c, -, hc⟩ := List.mem_map.mp h
  exact replaced_ne_zero c hc

/-- **The text read after a replacement** goes over the bytes replaced and on to the next NUL. -/
theorem textAt_comChangeString : textAt (comChangeString str len m) str =
    if (0 : Byte) ∈ m.bytes.drop (str + len) then
      some (replacedBytes str len m ++ (m.bytes.drop (str + len)).takeWhile (· != 0))
    else none := by
  have hdrop : (comChangeString str len m).bytes.drop str = replacedBytes str len m ++ m.bytes.drop (str + len) :=
    drop_changed str len m.bytes
  have hmem : (0 : Byte) ∈ replacedBytes str len m ++ m.bytes.drop (str + len) ↔ (0 : Byte) ∈ m.bytes.drop (str + len) := by
    rw [mem_append, or_iff_right (zero_not_mem_replacedBytes str len m)]
  have htake : (replacedBytes str len m ++ m.bytes.drop (str + len)).takeWhile (· != 0) =
      replacedBytes str len m ++ (m.bytes.drop (str + len)).takeWhile (· != 0) := by
    apply takeWhile_append_of_pos
    intro c hc
    simp only [bne_iff_ne]
    rintro rfl
    exact zero_not_mem_replacedBytes str len m hc
  rw [textAt_eq, hdrop, htake]
  simp only [hmem]

theorem textAt_eq_replacedBytes_iff (hend : str + len < m.bytes.length) :
    textAt (comChangeString str len m) str = some (replacedBytes str len m) ↔ m.byte (str + len) = 0 := by
  have hsplit : m.bytes.drop (str + len) = m.byte (str + len) :: m.bytes.drop (str + len + 1) := by
    rw [drop_eq_getElem_cons hend, Memory.byte, getD_eq_getElem?_getD, getElem?_eq_getElem hend]
    rfl
  rw [textAt_comChangeString, hsplit]
  by_cases h : m.byte (str + len) = 0
  · simp [h]
  · refine iff_of_false ?_ h
    rw [takeWhile_cons, if_pos (bne_iff_ne.mpr h)]
    split
    · intro heq
      have hlen := congrArg List.length (some.inj heq)
      simp at hlen
    · exact fun heq => absurd heq.symm (some_ne_none _)

theorem length_le_of_textAt {t : List Byte} (h : textAt (comChangeString str len m) str = some t) :
    (replacedBytes str len m).length ≤ t.length := by
  rw [textAt_comChangeString] at h
  split at h
  · rw [← some.inj h, length_append]
    omega
  · cases h

end Text

/-! ## The metadata -/

section Metadata

variable (a : Answers) (m : Memory abi)

structure Made : Prop where
  allocate : a.allocate = 0
  read : a.read = 0
  addPty : m.has .ptyCode = true → a.addPty = 0
  addPs : m.has .programname = true → a.addPs = 0
  addRt : m.has .lastRadiotext = true → a.addRt = 0

def afterPs : Memory abi := if m.has .programname then comChangeString psAt 8 m else m

def ptyItems : List Item := if m.has .ptyCode then [.rbdsPty (m.byte ptyAt)] else []

def psItems : List Item := if m.has .programname then [.rdsPs (textAt (comChangeString psAt 8 m) psAt)] else []

def rtItems : List Item :=
  if m.has .lastRadiotext then [.title (textAt (comChangeString rtAt (textLength m) (afterPs m)) rtAt)] else []

theorem has_afterPs (e : Event) : (afterPs m).has e = m.has e := by
  unfold afterPs
  split
  · exact has_comChangeString_ps e
  · rfl

theorem textLength_afterPs : textLength (afterPs m) = textLength m := by
  unfold afterPs
  split
  · exact textLength_comChangeString_ps
  · rfl

/-- The status of a part: that of its call, if its event is set. -/
def partRet (e : Event) (ret : Int) : Int := if m.has e then ret else 0

theorem partRet_eq_zero_iff (e : Event) (ret : Int) : partRet m e ret = 0 ↔ (m.has e = true → ret = 0) := by
  unfold partRet
  by_cases h : m.has e = true <;> simp

variable (items : List Item)

theorem putPty_eq : putPty a (eventStatus m) ⟨0, items, m⟩ =
    ⟨partRet m .ptyCode a.addPty, items ++ ptyItems m, m⟩ := by
  unfold putPty ptyItems comGetPty partRet Memory.has
  split <;> simp

theorem putPs_eq : putPs a (eventStatus m) ⟨0, items, m⟩ =
    ⟨partRet m .programname a.addPs, items ++ psItems m, afterPs m⟩ := by
  unfold putPs psItems comGetPs afterPs partRet Memory.has
  split <;> simp

theorem putRt_eq : putRt a (eventStatus m) ⟨0, items, afterPs m⟩ =
    ⟨partRet m .lastRadiotext a.addRt, items ++ rtItems m,
      if m.has .lastRadiotext then comChangeString rtAt (textLength m) (afterPs m) else afterPs m⟩ := by
  unfold putRt rtItems comGetRt partRet
  rw [has_afterPs, textLength_afterPs]
  unfold Memory.has
  split <;> simp

theorem made_iff : Made a m ↔ a.allocate = 0 ∧ a.read = 0 ∧ partRet m .ptyCode a.addPty = 0 ∧
    partRet m .programname a.addPs = 0 ∧ partRet m .lastRadiotext a.addRt = 0 := by
  simp only [partRet_eq_zero_iff]
  exact ⟨fun h => ⟨h.1, h.2, h.3, h.4, h.5⟩, fun h => ⟨h.1, h.2.1, h.2.2.1, h.2.2.2.1, h.2.2.2.2⟩⟩

theorem metadata_eq_some_iff : (prepareMetadata a m).2.1 = some items ↔
    Made a m ∧ items = ptyItems m ++ psItems m ++ rtItems m := by
  rw [made_iff]
  unfold prepareMetadata
  simp only [Building.andThen]
  by_cases h₁ : a.allocate = 0
  · by_cases h₂ : a.read = 0
    · simp only [h₁, h₂, ne_eq, not_true_eq_false, if_false, putPty_eq]
      by_cases h₃ : partRet m .ptyCode a.addPty = 0
      · simp only [h₃, not_true_eq_false, if_false, putPs_eq]
        by_cases h₄ : partRet m .programname a.addPs = 0
        · simp only [h₄, putRt_eq]
          by_cases h₅ : partRet m .lastRadiotext a.addRt = 0
          · simp only [h₅, not_true_eq_false, if_false, some.injEq, true_and]
            exact eq_comm
          · simp [h₅]
        · simp [h₄]
      · simp [h₃]
    · simp [h₁, h₂]
  · simp [h₁]

end Metadata

/-! ## The texts and the bytes of their arrays -/

section Isolation

/-- The 8 bytes of the PS, replaced where unprintable. -/
def psBytes (m : Memory abi) : List Byte := replacedBytes psAt 8 m

/-- The first `min(TextLength, 64)` bytes of the RT, replaced where unprintable. -/
def rtBytes (m : Memory abi) : List Byte := replacedBytes rtAt (min (textLength m) 64) m

/-- The texts in the metadata are the bytes of their arrays, and `COM_get_rt` changes no byte of the record outside of
    `TextData[3]`. -/
structure Isolated (a : Answers) (m : Memory abi) : Prop where
  ps : ∀ items text, (prepareMetadata a m).2.1 = some items → Item.rdsPs text ∈ items → text = some (psBytes m)
  rt : ∀ items text, (prepareMetadata a m).2.1 = some items → Item.title text ∈ items → text = some (rtBytes m)
  frame : ∀ i, i < recordSize abi → i < rtAt ∨ rtAt + 64 ≤ i → (comGetRt m).2.2.byte i = m.byte i

/-- A NUL follows the PS, and the RT is no longer than its array and is followed by a NUL; and what the replacement
    would overwrite behind the array is printable. -/
structure Terminated (a : Answers) (m : Memory abi) : Prop where
  ps : Made a m → m.has .programname = true → m.byte (psAt + 8) = 0
  rt : Made a m → m.has .lastRadiotext = true → textLength m ≤ 64 ∧ m.byte (rtAt + textLength m) = 0
  frame : m.has .lastRadiotext = true →
    ∀ i, rtAt + 64 ≤ i → i < rtAt + textLength m → i < recordSize abi → isValid (m.byte i) = true

/-- The records agree on what the metadata is to show. -/
structure Agree (m m' : Memory abi) : Prop where
  events : ∀ e : Event, m.has e = m'.has e
  pty : m.byte ptyAt = m'.byte ptyAt
  ps : psBytes m = psBytes m'
  rt : rtBytes m = rtBytes m'

variable (a : Answers) (m : Memory abi)

theorem mem_items_rdsPs (text : Option (List Byte)) : Item.rdsPs text ∈ ptyItems m ++ psItems m ++ rtItems m ↔
    m.has .programname = true ∧ text = textAt (comChangeString psAt 8 m) psAt := by
  unfold ptyItems psItems rtItems
  cases m.has .ptyCode <;> cases m.has .programname <;> cases m.has .lastRadiotext <;> simp

theorem mem_items_title (text : Option (List Byte)) : Item.title text ∈ ptyItems m ++ psItems m ++ rtItems m ↔
    m.has .lastRadiotext = true ∧ text = textAt (comChangeString rtAt (textLength m) (afterPs m)) rtAt := by
  unfold ptyItems psItems rtItems
  cases m.has .ptyCode <;> cases m.has .programname <;> cases m.has .lastRadiotext <;> simp

theorem replaced_eq_self_iff (c : Byte) : replaced c = c ↔ isValid c = true := by
  unfold replaced
  cases h : isValid c with
  | true => simp
  | false =>
    refine iff_of_false (fun hc => ?_) Bool.false_ne_true
    have hspace : isValid c = true := by
      rw [← show (0x20 : Byte) = c from hc]
      rfl
    exact Bool.false_ne_true (h.symm.trans hspace)

theorem byte_comChangeString_inside {str len i : Nat} (h : str ≤ i ∧ i < str + len) (hi : i < m.bytes.length) :
    (comChangeString str len m).byte i = replaced (m.byte i) := by
  have hget : (comChangeString str len m).bytes[i]? = m.bytes[i]?.map replaced := by
    rw [show (comChangeString str len m).bytes = changed str len m.bytes from rfl, getElem?_changed, if_pos h]
  rw [Memory.byte, Memory.byte, getD_eq_getElem?_getD, getD_eq_getElem?_getD, hget, getElem?_eq_getElem hi]
  rfl

theorem psText_iff : textAt (comChangeString psAt 8 m) psAt = some (psBytes m) ↔ m.byte (psAt + 8) = 0 := by
  apply textAt_eq_replacedBytes_iff
  have hsize := recordSize_ge abi
  have hfits := m.fits
  unfold psAt
  omega

theorem replacedBytes_afterPs (len : Nat) : replacedBytes rtAt len (afterPs m) = replacedBytes rtAt len m := by
  unfold replacedBytes afterPs
  split
  · rw [drop_comChangeString (by decide)]
  · rfl

theorem byte_afterPs {i : Nat} (h : psAt + 8 ≤ i) : (afterPs m).byte i = m.byte i := by
  unfold afterPs
  split
  · exact byte_comChangeString (Or.inr h)
  · rfl

theorem rtText_iff : textAt (comChangeString rtAt (textLength m) (afterPs m)) rtAt = some (rtBytes m) ↔
    textLength m ≤ 64 ∧ m.byte (rtAt + textLength m) = 0 := by
  have hsize := recordSize_ge abi
  have hfits := (afterPs m).fits
  by_cases hlen : textLength m ≤ 64
  · have hend : rtAt + textLength m < (afterPs m).bytes.length := by
      unfold rtAt
      omega
    rw [rtBytes, Nat.min_eq_left hlen, ← replacedBytes_afterPs, textAt_eq_replacedBytes_iff _ _ _ hend,
      byte_afterPs m (by unfold psAt rtAt; omega), and_iff_right hlen]
  · -- more bytes are replaced than the text may have
    refine iff_of_false (fun h => ?_) (fun h => hlen h.1)
    have hle := length_le_of_textAt _ _ _ h
    simp only [rtBytes, replacedBytes, length_map, length_take, length_drop] at hle
    unfold rtAt at hle
    omega

theorem frame_iff : (∀ i, i < recordSize abi → i < rtAt ∨ rtAt + 64 ≤ i → (comGetRt m).2.2.byte i = m.byte i) ↔
    (m.has .lastRadiotext = true →
      ∀ i, rtAt + 64 ≤ i → i < rtAt + textLength m → i < recordSize abi → isValid (m.byte i) = true) := by
  have hfits := m.fits
  unfold comGetRt
  cases m.has .lastRadiotext with
  | false => simp
  | true =>
    simp only [if_true, forall_const]
    constructor
    · intro h i hlo hhi hrec
      rw [← replaced_eq_self_iff, ← byte_comChangeString_inside m ⟨by omega, hhi⟩ (by omega)]
      exact h i hrec (Or.inr hlo)
    · intro h i hrec hout
      by_cases hin : rtAt ≤ i ∧ i < rtAt + textLength m
      · rw [byte_comChangeString_inside m hin (by omega), replaced_eq_self_iff]
        exact h i (by omega) hin.2 hrec
      · exact byte_comChangeString (by omega)

theorem isolated_iff : Isolated a m ↔ Terminated a m := by
  constructor
  · intro h
    refine ⟨fun hmade hps => ?_, fun hmade hrt => ?_, (frame_iff m).mp h.frame⟩
    · have hsome := (metadata_eq_some_iff a m _).mpr ⟨hmade, rfl⟩
      exact (psText_iff m).mp (h.ps _ _ hsome ((mem_items_rdsPs m _).mpr ⟨hps, rfl⟩))
    · have hsome := (metadata_eq_some_iff a m _).mpr ⟨hmade, rfl⟩
      exact (rtText_iff m).mp (h.rt _ _ hsome ((mem_items_title m _).mpr ⟨hrt, rfl⟩))
  · intro h
    refine ⟨fun items text hsome hmem => ?_, fun items text hsome hmem => ?_, (frame_iff m).mpr h.frame⟩
    · obtain ⟨hmade, rfl⟩ := (metadata_eq_some_iff a m items).mp hsome
      obtain ⟨hps, rfl⟩ := (mem_items_rdsPs m text).mp hmem
      exact (psText_iff m).mpr (h.ps hmade hps)
    · obtain ⟨hmade, rfl⟩ := (metadata_eq_some_iff a m items).mp hsome
      obtain ⟨hrt, rfl⟩ := (mem_items_title m text).mp hmem
      exact (rtText_iff m).mpr (h.rt hmade hrt)

theorem metadata_of_terminated (h : Terminated a m) (hmade : Made a m) : (prepareMetadata a m).2.1 = some
    (ptyItems m ++ (if m.has .programname then [Item.rdsPs (some (psBytes m))] else []) ++
      if m.has .lastRadiotext then [Item.title (some (rtBytes m))] else []) := by
  rw [metadata_eq_some_iff]
  refine ⟨hmade, ?_⟩
  congr 1
  · congr 1
    unfold psItems
    split
    · next hps => rw [(psText_iff m).mpr (h.ps hmade hps)]
    · rfl
  · unfold rtItems
    split
    · next hrt => rw [(rtText_iff m).mpr (h.rt hmade hrt)]
    · rfl

theorem made_of_agree {m' : Memory abi} (hagree : Agree m m') (h : Made a m) : Made a m' :=
  ⟨h.1, h.2, fun hp => h.3 (hagree.events _ ▸ hp), fun hp => h.4 (hagree.events _ ▸ hp),
    fun hp => h.5 (hagree.events _ ▸ hp)⟩

theorem Agree.symm {m m' : Memory abi} (h : Agree m m') : Agree m' m :=
  ⟨fun e => (h.events e).symm, h.pty.symm, h.ps.symm, h.rt.symm⟩

theorem metadata_of_agree {m m' : Memory abi} (h : Terminated a m) (h' : Terminated a m') (hagree : Agree m m') :
    (prepareMetadata a m).2.1 = (prepareMetadata a m').2.1 := by
  by_cases hmade : Made a m
  · rw [metadata_of_terminated a m h hmade, metadata_of_terminated a m' h' (made_of_agree a m hagree hmade), ptyItems,
      ptyItems, hagree.events, hagree.events, hagree.events, hagree.pty, hagree.ps, hagree.rt]
  · have hmade' : ¬Made a m' := fun hc => hmade (made_of_agree a m' hagree.symm hc)
    have hnone : ∀ m : Memory abi, ¬Made a m → (prepareMetadata a m).2.1 = none := by
      intro m hm
      apply eq_none_iff_forall_ne_some.mpr
      intro items hitems
      exact hm ((metadata_eq_some_iff a m items).mp hitems).1
    rw [hnone m hmade, hnone m' hmade']

end Isolation

/-- **The texts of the metadata.** They are the bytes of their arrays, and the record is changed inside of the RT only,
    exactly if the arrays happen to be followed by a NUL and the length received is no more than that of the array; and
    then records that agree on these bytes have the same metadata. -/
theorem rds_text_isolated_iff (abi : Abi) (a : Answers) (m : Memory abi) :
    (Isolated a m ↔ Terminated a m) ∧
      ∀ m' : Memory abi, Terminated a m → Terminated a m' → Agree m m' →
        (prepareMetadata a m).2.1 = (prepareMetadata a m').2.1 :=
  ⟨isolated_iff a m, fun _ h h' hagree => metadata_of_agree a h h' hagree⟩

/-- A record with a PS and an RT, zero but for the byte behind the PS and the length of the RT. -/
def sample (psAddrCnt textLen : Byte) : Memory .ilp32 where
  bytes := (((List.replicate 688 0).set (psAt + 8) psAddrCnt).set textLengthAt textLen).set eventStatusAt 0x48
  fits := by
    simp only [length_set, length_replicate]
    decide

def succeed : Answers := ⟨0, 0, 0, 0, 0⟩

/-- A record with the PS "Radio  1" and the RT "News", and a count of groups far behind them. -/
def titled (groups : Byte) : Memory .ilp32 where
  bytes := List.replicate psAt 0 ++ [0x52, 0x61, 0x64, 0x69, 0x6f, 0x20, 0x20, 0x31] ++
    List.replicate (rtAt - (psAt + 8)) 0 ++ [0x4e, 0x65, 0x77, 0x73] ++ List.replicate (textLengthAt - (rtAt + 4)) 0 ++
    [4, 0, 0, 0, 0, 0, 0x48] ++ List.replicate 45 0 ++ [groups] ++ List.replicate 87 0
  fits := by
    simp only [length_append, length_replicate, length_cons, length_nil]
    decide

theorem terminated_titled {groups : Byte} (h : groups = 1 ∨ groups = 2) : Terminated succeed (titled groups) := by
  have hlen : textLength (titled groups) = 4 := by rcases h with rfl | rfl <;> decide +kernel
  refine ⟨fun _ _ => ?_, fun _ _ => ?_, fun _ i hlo hhi _ => ?_⟩
  · rcases h with rfl | rfl <;> decide +kernel
  · rcases h with rfl | rfl <;> decide +kernel
  · omega

theorem rds_text_isolated_iff_titled :
    Isolated succeed (titled 1) ∧ (prepareMetadata succeed (titled 1)).2.1 = (prepareMetadata succeed (titled 2)).2.1 := by
  obtain ⟨hiff, hagree⟩ := rds_text_isolated_iff .ilp32 succeed (titled 1)
  have h1 : Terminated succeed (titled 1) := terminated_titled (.inl rfl)
  refine ⟨hiff.mpr h1, hagree (titled 2) h1 (terminated_titled (.inr rfl)) ⟨?_, ?_, ?_, ?_⟩⟩
  · intro e
    cases e <;> decide +kernel
  · decide +kernel
  · decide +kernel
  · decide +kernel

/-- Three groups of the PS have been counted and an RT of 200 bytes is announced: the PS text goes on into the counter,
    and the replacement overwrites the group counts behind the RT. -/
theorem rds_text_runs_on :
    let m := sample 3 200
    Made succeed m ∧
      textAt (comGetPs m).2.2 psAt = some (List.replicate 8 0x20 ++ [3]) ∧ psBytes m = List.replicate 8 0x20 ∧
      m.byte 600 = 0 ∧ (comGetRt m).2.2.byte 600 = 0x20 ∧ 600 < recordSize .ilp32 ∧ ¬Isolated succeed m := by
  intro m
  have hbefore : m.byte 600 = 0 := by decide +kernel
  have hrec : 600 < recordSize .ilp32 := by decide
  have hrt : m.has .lastRadiotext = true := by decide +kernel
  have hlen : textLength m = 200 := by decide +kernel
  have hafter : (comGetRt m).2.2.byte 600 = 0x20 := by
    simp only [comGetRt, hrt, hlen, if_true]
    rw [byte_comChangeString_inside m (by decide) (Nat.lt_of_lt_of_le hrec m.fits), hbefore]
    rfl
  have hmade : Made succeed m := ⟨rfl, rfl, fun _ => rfl, fun _ => rfl, fun _ => rfl⟩
  refine ⟨hmade, by decide +kernel, by decide +kernel, hbefore, hafter, hrec, fun h => ?_⟩
  have hsame : (comGetRt m).2.2.byte 600 = m.byte 600 := h.frame 600 hrec (Or.inr (by decide))
  rw [hafter, hbefore] at hsame
  exact absurd hsame (by decide)

end HuaweiY5.Fm.RdsText
