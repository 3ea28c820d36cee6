import HuaweiY5.Msg.DataCoder

/-!
# `Wifi.Receiver` — the messages from the Wi-Fi process to agpsd

`wifi2agps_interface.c` writes a version, a command and, for an associated access point or a scan, a whole structure
into a datagram; `wifi2agps_handler` of `agps2wifi_interface.c` reads it back and calls agpsd. The handler copies as
many bytes as the datagram says before it compares that number with the size of the structure, and then only logs
the difference.
-/

namespace HuaweiY5.Wifi

open List Option Codec CLayout Msg

namespace Interface

/-! ## The structures of `wifi2agps_interface.h` -/

/-- `WIFI2AGPS_MAX_BUFF_SIZE`. -/
def maxBuffSize : Nat := 10000

/-- `WIFI2AGPS_INTERFACE_VERSION`. -/
def interfaceVersion : BitVec 32 := 1

/-- `WIFI_AP_LIST_NUM_MAX`. -/
def apListNumMax : Nat := 32

/-- `wifi2agps_rtd`: value, units, accuracy. -/
def rtd : Layout := struct [int, int, int]

/-- `wifi2agps_location_data`: accuracy used, accuracy, value length, value. -/
def locationData : Layout := struct [char, int, char, array 128 char]

/-- `wifi2agps_reported_location`: encoding, data. -/
def reportedLocation : Layout := struct [int, locationData]

/-- `wifi2agps_ap_info`: the MAC address, then each value behind the flag that says whether it is used. -/
def apInfo : Layout :=
  struct [array 6 char,
    -- transmit power, antenna gain, signal to noise, device type, signal strength, channel frequency
    char, int, char, int, char, int, char, int, char, int, char, int,
    -- round trip delay
    char, rtd,
    -- the same four of the terminal: transmit power, antenna gain, signal to noise, signal strength
    char, int, char, int, char, int, char, int,
    char, reportedLocation]

/-- `wifi2agps_ap_info_list`. -/
def apInfoList : Layout := struct [char, array apListNumMax apInfo]

/-- `wifi2agps_cmd_type`. -/
inductive CmdType
  | enabled
  | disabled
  | associated
  | disassociated
  | scanned
deriving DecidableEq

def CmdType.code : CmdType → BitVec 32
  | enabled => 0
  | disabled => 1
  | associated => 2
  | disassociated => 3
  | scanned => 4

def CmdType.all : List CmdType := [.enabled, .disabled, .associated, .disassociated, .scanned]

def CmdType.layout : CmdType → Option Layout
  | associated => some apInfo
  | scanned => some apInfoList
  | _ => none

inductive Message
  | enabled
  | disabled
  | associated (info : Image apInfo)
  | disassociated
  | scanned (list : Image apInfoList)

def Message.type : Message → CmdType
  | enabled => .enabled
  | disabled => .disabled
  | associated _ => .associated
  | disassociated => .disassociated
  | scanned _ => .scanned

/-! ## The sender -/

/-- What `wifi2agps_enabled`, `_disabled`, `_associated`, `_disassociated` and `_scanned` put into their buffer. -/
def Message.put : Message → Put
  | enabled => .all [putInt interfaceVersion, putInt CmdType.enabled.code]
  | disabled => .all [putInt interfaceVersion, putInt CmdType.disabled.code]
  | associated info =>
    .all [putInt interfaceVersion, putInt CmdType.associated.code, putStruct info (by decide)]
  | disassociated => .all [putInt interfaceVersion, putInt CmdType.disassociated.code]
  | scanned list =>
    .all [putInt interfaceVersion, putInt CmdType.scanned.code, putStruct list (by decide)]

/-- The datagram they hand to `send2agps`. -/
def Message.send (m : Message) : Option (List Byte) := Codec.send maxBuffSize m.put

/-! ## The receiver -/

/-- What `recvfrom` can store: a part of the buffer from its start on, and not nothing. -/
structure Datagram where
  bytes : List Byte
  nonempty : 1 ≤ bytes.length
  fits : bytes.length ≤ maxBuffSize

/-- `wifi2agpsInterface`: which of the callbacks are not NULL. -/
structure Wifi2agpsInterface where
  wifiEnabled : Bool
  wifiDisabled : Bool
  wifiAssociated : Bool
  wifiDisassociated : Bool
  wifiScanned : Bool
deriving DecidableEq

variable (agps : Wifi2agpsInterface)

def Wifi2agpsInterface.callback : CmdType → Bool
  | .enabled => agps.wifiEnabled
  | .disabled => agps.wifiDisabled
  | .associated => agps.wifiAssociated
  | .disassociated => agps.wifiDisassociated
  | .scanned => agps.wifiScanned

theorem length_zeroed (l : Layout) (data : List Byte) :
    ((overwrite (fun _ => 0) l.size data).take l.size).length = l.size := by
  simp only [overwrite, length_take, length_append, length_drop, length_map, length_range]
  omega

/-- `T x; memset(&x, 0, sizeof(x)); int len = get_binary(buff, &offset, (char*)&x);` A length other than
    `sizeof(x)` is logged, and `x` is used. -/
def getZeroed (l : Layout) : Get (Image l) := do
  let x ← getBinary l.size
  pure ⟨(overwrite (fun _ => 0) l.size x.data).take l.size, length_zeroed l x.data⟩

def CmdType.get : CmdType → Get Message
  | enabled => pure .enabled
  | disabled => pure .disabled
  | associated => do let info ← getZeroed apInfo; pure (.associated info)
  | disassociated => pure .disassociated
  | scanned => do let list ← getZeroed apInfoList; pure (.scanned list)

/-- A case of the switch: nothing is read for a callback that is NULL. -/
def Wifi2agpsInterface.case (c : CmdType) : Get (Handled Message) :=
  if agps.callback c then do let m ← c.get; pure (.call m) else pure ⟨[], -1⟩

/-- `wifi2agps_handler` behind `safe_recvfrom`. -/
def Wifi2agpsInterface.handle : Get (Handled Message) := do
  -- another version is logged
  let _version ← getInt
  getInt >>= switch CmdType.code CmdType.all agps.case .unknown

/-- `wifi2agps_handler`, with what `safe_recvfrom` received; `none` is that it failed. -/
def wifi2agpsHandler : Option Datagram → Option (Handled Message)
  | none => some ⟨[], -1⟩
  | some datagram => receive maxBuffSize agps.handle datagram.bytes

namespace Datagram

variable (d : Datagram)

/-- The receive buffer: the datagram, and zeros behind it. -/
def buff : List Byte := d.bytes ++ List.replicate (maxBuffSize - d.bytes.length) 0

def type : Option CmdType := CmdType.all.find? fun c => c.code = wordAt d.buff 4

/-- A structure as a whole: the encoded length is its size, and its bytes were received. -/
structure Whole (l : Layout) (d : Datagram) : Prop where
  length : (wordAt d.buff 8).toInt = l.size
  inside : 12 + l.size ≤ d.bytes.length

/-- The datagram carries a message: from the command on, it begins as the sender of the message wrote it. -/
def Carries (m : Message) : Prop := ∃ sent, m.send = some sent ∧ sent.drop 4 <+: d.bytes.drop 4

instance instDecidableWhole (l : Layout) (d : Datagram) : Decidable (Whole l d) :=
  decidable_of_iff ((wordAt d.buff 8).toInt = l.size ∧ 12 + l.size ≤ d.bytes.length)
    ⟨fun h => ⟨h.1, h.2⟩, fun h => ⟨h.length, h.inside⟩⟩

theorem code_of_type {d : Datagram} {c : CmdType} (h : d.type = some c) : c.code = wordAt d.buff 4 := by
  have hfound := find?_some h
  exact of_decide_eq_true hfound

theorem length_buff : d.buff.length = maxBuffSize := by
  have hfits := d.fits
  rw [buff, length_append, length_replicate]
  omega

theorem drop_take_buff {i n : Nat} (h : i + n ≤ d.bytes.length) :
    (d.buff.drop i).take n = (d.bytes.drop i).take n := by
  rw [buff, drop_append_of_le_length (by omega), take_append_of_le_length (by rw [length_drop]; omega)]

end Datagram

/-- What is expected of the handler on a datagram. -/
structure AcceptsWhole (agps : Wifi2agpsInterface) (d : Datagram) : Prop where
  /-- All accesses are in bounds. -/
  inBounds : (wifi2agpsHandler agps (some d)).isSome
  /-- A callback with a structure is called for a whole structure only. -/
  whole : ∀ h, wifi2agpsHandler agps (some d) = some h → ∀ m ∈ h.calls, ∀ l, m.type.layout = some l → d.Whole l
  /-- It gets the structure that the sender encoded. -/
  exact : ∀ h, wifi2agpsHandler agps (some d) = some h → ∀ m ∈ h.calls, m.type.layout.isSome → d.Carries m

/-- A structure that a callback asks for is there as a whole. -/
def Datagram.Proper (d : Datagram) (agps : Wifi2agpsInterface) : Prop :=
  ∀ c ∈ d.type, agps.callback c → ∀ l, c.layout = some l → d.Whole l

/-! ## A whole structure -/

namespace Datagram

variable {d : Datagram} {l : Layout}

theorem Whole.getZeroed (h : d.Whole l) (hpos : 0 < l.size) :
    ∃ x : Image l, x.1 = (d.bytes.drop 12).take l.size ∧
      Interface.getZeroed l d.buff 8 = some (x, ((12 + l.size : Nat) : Int)) := by
  have hin := h.inside
  have hfits := d.fits
  have hbuff := d.length_buff
  obtain ⟨x, hx, hget⟩ := getBinary_apply (i := 8) (n := l.size) h.length hpos (le_refl _) (by omega) (by decide)
  have hlen : x.data.length = l.size := by
    rw [hx, length_take, length_drop]
    omega
  have hcopy : (overwrite (fun _ => 0) l.size x.data).take l.size = (d.bytes.drop 12).take l.size := by
    rw [overwrite_of_length_eq hlen, take_of_length_le (le_of_eq hlen), hx, d.drop_take_buff hin]
  refine ⟨⟨_, length_zeroed l x.data⟩, hcopy, ?_⟩
  show (getBinary l.size d.buff ((8 : Nat) : Int)).bind _ = _
  rw [hget]
  rfl

theorem Whole.writes (h : d.Whole l) (hpos : 0 < l.size) (hint : l.size < intEnd) {x : Image l}
    (hx : x.1 = (d.bytes.drop 12).take l.size) :
    Writes (putStruct x hint) ((d.bytes.drop 8).take 4 ++ (d.bytes.drop 12).take l.size) := by
  have hin := h.inside
  have hbuff := d.length_buff
  have hfits := d.fits
  -- the length word is `sizeof(x)`
  have hword : BitVec.ofNat 32 l.size = wordAt d.buff 8 := by
    apply BitVec.eq_of_toInt_eq
    rw [toInt_ofNat_of_lt hint, h.length]
  have hlen : Writes (putInt (BitVec.ofNat 32 l.size)) ((d.bytes.drop 8).take 4) := by
    rw [hword, ← d.drop_take_buff (by omega)]
    exact writes_wordAt (by omega)
  have hcopy : 0 < (BitVec.ofNat 32 l.size).toInt := by
    rw [toInt_ofNat_of_lt hint]
    omega
  have hall := hlen.cons ((writes_bytes x.1).cons writes_nil)
  rw [append_nil, hx] at hall
  rw [putStruct, putBinary, structBinary]
  dsimp only
  rw [if_pos hcopy, hx]
  exact hall

theorem Whole.sent (h : d.Whole l) (hpos : 0 < l.size) (hint : l.size < intEnd) {x : Image l}
    (hx : x.1 = (d.bytes.drop 12).take l.size) {code : BitVec 32} (hcode : code = wordAt d.buff 4) :
    ∃ sent, send maxBuffSize (.all [putInt interfaceVersion, putInt code, putStruct x hint]) = some sent ∧
      sent.drop 4 <+: d.bytes.drop 4 := by
  have hin := h.inside
  have hbuff := d.length_buff
  have hfits := d.fits
  obtain ⟨version, hversion, hput⟩ := writes_int interfaceVersion
  have htype : Writes (putInt code) ((d.bytes.drop 4).take 4) := by
    rw [hcode, ← d.drop_take_buff (by omega)]
    exact writes_wordAt (by omega)
  have hall := (hput.cons (htype.cons ((h.writes hpos hint hx).cons writes_nil))).send maxBuffSize
  rw [if_pos (by simp only [length_append, length_take, length_nil]; omega)] at hall
  refine ⟨_, hall, d.bytes.drop (12 + l.size), ?_⟩
  -- the pieces are consecutive
  have hjoin : ∀ i n : Nat, (d.bytes.drop i).take n ++ d.bytes.drop (i + n) = d.bytes.drop i := by
    intro i n
    rw [← drop_drop, take_append_drop]
  have htail : (d.bytes.drop 8).take 4 ++ d.bytes.drop 12 = d.bytes.drop 8 := hjoin 8 4
  rw [drop_left' hversion, append_nil, append_assoc, append_assoc, hjoin 12 l.size, htail]
  exact hjoin 4 4

end Datagram

/-! ## The cases of the switch -/

theorem CmdType.layout_size {c : CmdType} {l : Layout} (h : c.layout = some l) : 0 < l.size ∧ l.size < intEnd := by
  cases c with
  | enabled | disabled | disassociated => cases h
  | associated =>
    obtain rfl : apInfo = l := some.inj h
    decide
  | scanned =>
    obtain rfl : apInfoList = l := some.inj h
    decide

theorem CmdType.type_of_get {c : CmdType} {buff : List Byte} {off off' : Int} {m : Message}
    (h : c.get buff off = some (m, off')) : m.type = c := by
  cases c with
  | enabled | disabled | disassociated =>
    obtain ⟨rfl, -⟩ := Prod.mk.inj (some.inj h)
    rfl
  | associated | scanned =>
    rw [CmdType.get, Get.bind_apply, bind_eq_some_iff] at h
    obtain ⟨r, -, hr⟩ := h
    obtain ⟨rfl, -⟩ := Prod.mk.inj (some.inj hr)
    rfl

theorem CmdType.get_of_layout_none {c : CmdType} (h : c.layout = none) (buff : List Byte) (off : Int) :
    ∃ m, c.get buff off = some (m, off) := by
  cases c with
  | enabled | disabled | disassociated => exact ⟨_, rfl⟩
  | associated | scanned => cases h

theorem Datagram.Whole.get {d : Datagram} {c : CmdType} {l : Layout} (h : d.Whole l) (hl : c.layout = some l)
    (hcode : c.code = wordAt d.buff 4) : ∃ m off, c.get d.buff 8 = some (m, off) ∧ d.Carries m := by
  obtain ⟨hpos, hint⟩ := CmdType.layout_size hl
  obtain ⟨x, hx, hget⟩ := h.getZeroed hpos
  cases c with
  | enabled | disabled | disassociated => cases hl
  | associated =>
    obtain rfl : apInfo = l := some.inj hl
    refine ⟨.associated x, ((12 + apInfo.size : Nat) : Int), ?_, h.sent hpos hint hx hcode⟩
    rw [CmdType.get, Get.bind_apply, hget]
    rfl
  | scanned =>
    obtain rfl : apInfoList = l := some.inj hl
    refine ⟨.scanned x, ((12 + apInfoList.size : Nat) : Int), ?_, h.sent hpos hint hx hcode⟩
    rw [CmdType.get, Get.bind_apply, hget]
    rfl

/-! ## Every datagram -/

section Handler

variable (agps : Wifi2agpsInterface) (d : Datagram)

theorem wifi2agpsHandler_eq : wifi2agpsHandler agps (some d) = match d.type with
      | some c => (agps.case c d.buff 8).map Prod.fst
      | none => some .unknown := by
  have hlen := d.length_buff
  have hsize : maxBuffSize = 10000 := rfl
  have h0 : getInt d.buff 0 = some (wordAt d.buff 0, 4) := getInt_apply (i := 0) (by omega) (by decide)
  have h4 : getInt d.buff 4 = some (wordAt d.buff 4, 8) := getInt_apply (i := 4) (by omega) (by decide)
  rw [wifi2agpsHandler, receive, ← Datagram.buff, Wifi2agpsInterface.handle, Get.bind_apply, h0, bind_some,
    Get.bind_apply, h4, bind_some]
  rw [switch, ← Datagram.type]
  cases d.type with
  | none | some c => rfl

variable {agps d}

theorem handler_unknown (h : d.type = none) : wifi2agpsHandler agps (some d) = some ⟨[], -1⟩ := by
  rw [wifi2agpsHandler_eq, h]
  rfl

theorem handler_null {c : CmdType} (h : d.type = some c) (hnull : ¬agps.callback c) :
    wifi2agpsHandler agps (some d) = some ⟨[], -1⟩ := by
  rw [wifi2agpsHandler_eq, h]
  simp only [Wifi2agpsInterface.case]
  rw [if_neg hnull]
  rfl

theorem handler_call {c : CmdType} (h : d.type = some c) (hset : agps.callback c) :
    wifi2agpsHandler agps (some d) = (c.get d.buff 8).map fun r => .call r.1 := by
  rw [wifi2agpsHandler_eq, h]
  simp only [Wifi2agpsInterface.case]
  rw [if_pos hset, Get.bind_apply]
  cases c.get d.buff 8 with
  | none | some r => rfl

theorem AcceptsWhole.of_silent (h : wifi2agpsHandler agps (some d) = some ⟨[], -1⟩) : AcceptsWhole agps d where
  inBounds := by rw [h]; rfl
  whole handled hhandled m hm := by
    obtain rfl := some.inj (h.symm.trans hhandled)
    cases hm
  exact handled hhandled m hm := by
    obtain rfl := some.inj (h.symm.trans hhandled)
    cases hm

theorem AcceptsWhole.of_call {m : Message} (h : wifi2agpsHandler agps (some d) = some (.call m))
    (hwhole : ∀ l, m.type.layout = some l → d.Whole l) (hcarries : m.type.layout.isSome → d.Carries m) :
    AcceptsWhole agps d where
  inBounds := by rw [h]; rfl
  whole handled hhandled m' hm := by
    obtain rfl := some.inj (h.symm.trans hhandled)
    obtain rfl := mem_singleton.mp hm
    exact hwhole
  exact handled hhandled m' hm := by
    obtain rfl := some.inj (h.symm.trans hhandled)
    obtain rfl := mem_singleton.mp hm
    exact hcarries

theorem Datagram.Proper.acceptsWhole (h : d.Proper agps) : AcceptsWhole agps d := by
  cases htype : d.type with
  | none => exact .of_silent (handler_unknown htype)
  | some c =>
    by_cases hset : agps.callback c
    · have hhandler := handler_call htype hset
      cases hl : c.layout with
      | none =>
        obtain ⟨m, hm⟩ := CmdType.get_of_layout_none hl d.buff 8
        rw [hm] at hhandler
        have hnone : m.type.layout = none := (CmdType.type_of_get hm).symm ▸ hl
        refine .of_call hhandler (fun l hlayout => ?_) fun hsome => ?_
        · rw [hnone] at hlayout
          cases hlayout
        · rw [hnone] at hsome
          cases hsome
      | some l =>
        have hwhole := h c htype hset l hl
        have hcode : c.code = wordAt d.buff 4 := Datagram.code_of_type htype
        obtain ⟨m, off, hm, hcarries⟩ := hwhole.get hl hcode
        rw [hm] at hhandler
        refine .of_call hhandler (fun l' hlayout => ?_) fun _ => hcarries
        rw [CmdType.type_of_get hm, hl] at hlayout
        obtain rfl := some.inj hlayout
        exact hwhole
    · exact .of_silent (handler_null htype hset)

theorem AcceptsWhole.proper (h : AcceptsWhole agps d) : d.Proper agps := by
  intro c htype hset l hl
  have hhandler := handler_call htype hset
  have hin := h.inBounds
  -- the copy was in bounds, so the callback was called, and that was with a whole structure
  rw [hhandler, isSome_map, isSome_iff_exists] at hin
  obtain ⟨⟨m, off⟩, hm⟩ := hin
  rw [hm] at hhandler
  exact h.whole _ hhandler m (mem_singleton_self m) l ((CmdType.type_of_get hm).symm ▸ hl)

end Handler

/-- **Only whole messages.** For every datagram and every set of callbacks: the handler keeps inside its receive
    buffer and the structure, and calls agpsd with a structure only if the encoded length is its size and its bytes
    were received, and then with exactly the structure the sender encoded, if and only if a structure that a callback
    asks for is in the datagram as a whole. -/
theorem whole_messages_iff (agps : Wifi2agpsInterface) (d : Datagram) : AcceptsWhole agps d ↔ d.Proper agps :=
  ⟨AcceptsWhole.proper, Datagram.Proper.acceptsWhole⟩

def allCallbacks : Wifi2agpsInterface := ⟨true, true, true, true, true⟩

/-- ASSOCIATED with a length of 249, one more than the structure has. -/
def longApInfo : Datagram := ⟨[1, 0, 0, 0, 2, 0, 0, 0, 249, 0, 0, 0], by decide, by decide⟩

def emptyApInfo : Datagram := ⟨[1, 0, 0, 0, 2, 0, 0, 0, 0, 0, 0, 0], by decide, by decide⟩

/-- The first one writes behind the structure; for the second one agpsd is told of an access point that nobody sent. -/
theorem ap_info_not_whole : ¬AcceptsWhole allCallbacks longApInfo ∧ ¬AcceptsWhole allCallbacks emptyApInfo := by
  constructor
  · intro h
    have hin := h.inBounds
    cases hin
  · intro h
    have hcall := handler_call (d := emptyApInfo) (c := .associated) rfl (show allCallbacks.callback .associated from rfl)
    have hwhole := h.whole _ hcall _ (mem_singleton_self _) apInfo rfl
    exact absurd hwhole (by decide)

end Interface
end HuaweiY5.Wifi
