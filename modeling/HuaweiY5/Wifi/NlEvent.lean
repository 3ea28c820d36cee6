import HuaweiY5.Lib.CLayout

/-!
# `Wifi.NlEvent` — the driver events of the wifi2agps daemon

`process_nl_event` looks up the attributes of an nl80211 message and calls back. `nla_find` and `nla_parse_nested` give
`NULL` for an attribute that is not there, and the readers of libnl take a pointer that they follow. A payload has any
length; the readers and the copies of a fixed size take what lies behind it if it is too short.
-/

namespace HuaweiY5.Wifi

open Option Codec CLayout

/-! ## Messages -/

/-- An attribute: the length of its payload, and the memory from its payload on. -/
structure Attr where
  len : Nat
  data : Nat → Byte

namespace Attr

/-- `nla_get_u8`. -/
def getU8 (a : Attr) : Byte := a.data 0

/-- `nla_get_u16`. -/
def getU16 (a : Attr) : BitVec 16 := a.data 1 ++ a.data 0

/-- `nla_get_u32`. -/
def getU32 (a : Attr) : BitVec 32 := (a.data 3 ++ a.data 2) ++ (a.data 1 ++ a.data 0)

/-- `strncmp(nla_data(a), "wlan", 4) == 0`. -/
def isWlan (a : Attr) : Bool := decide (a.data 0 = 0x77 ∧ a.data 1 = 0x6c ∧ a.data 2 = 0x61 ∧ a.data 3 = 0x6e)

end Attr

/-- `gnlh->cmd`. -/
inductive Command
  | connect
  | roam
  | disconnect
  | testmode
  | other
  deriving DecidableEq

/-- The attributes within `NL80211_ATTR_TESTDATA`. -/
structure TestData where
  cmd : Option Attr
  data : Option Attr
  ifindex : Option Attr
  ifname : Option Attr

/-- A message: its command and the attributes that are there. -/
structure Message where
  cmd : Command
  ifindex : Option Attr
  statusCode : Option Attr
  mac : Option Attr
  testdata : Option TestData

inductive AttrName
  | statusCode
  | mtkIfindex
  | mtkCmd
  | mtkData
  deriving DecidableEq

/-! ## Lists of access points -/

/-- `struct driver_ap_info`. -/
def driverApInfo : Layout := struct [array 6 char, short, short, int]

/-- `struct driver_ap_list`. -/
def driverApList : Layout := struct [char, array 32 driverApInfo]

/-- The entry `i` of a `driver_ap_list`: where it starts. -/
def apOffset (i : Nat) : Nat := 4 + 16 * i

/-- The fields of a `driver_ap_info` that are used. -/
structure DriverApInfo where
  bssid : Vector Byte 6
  apRssi : BitVec 16
  apChannel : BitVec 16
  deriving DecidableEq

/-- The entry `i` of a `driver_ap_list` in memory. -/
def driverAp (mem : Nat → Byte) (i : Nat) : DriverApInfo :=
  ⟨Vector.ofFn fun j : Fin 6 => mem (apOffset i + j), mem (apOffset i + 7) ++ mem (apOffset i + 6),
    mem (apOffset i + 9) ++ mem (apOffset i + 8)⟩

/-- The fields of a `wifi2agps_ap_info` that are set; the others are zero. -/
structure ApInfo where
  macAddr : Vector Byte 6
  signalStrengthUsed : Byte
  signalStrength : BitVec 32
  channelFrequencyUsed : Byte
  channelFrequency : BitVec 32
  deriving DecidableEq

/-- An entry after `memset`. -/
def ApInfo.zero : ApInfo := ⟨Vector.replicate 6 0, 0, 0, 0, 0⟩

abbrev wifiApListNumMax : Nat := 32

/-- `wifi2agps_ap_info_list`. -/
structure ApInfoList where
  num : Byte
  list : Vector ApInfo wifiApListNumMax
  deriving DecidableEq

def ApInfo.ofDriver (drv : DriverApInfo) : ApInfo :=
  ⟨drv.bssid, 1, drv.apRssi.signExtend 32, 1, drv.apChannel.setWidth 32⟩

variable (signed : Bool) (stack : Nat → Byte) (ifindex : BitVec 32) (m : Message)

/-- The value of a `char`, which has a sign or not. -/
def charValue (c : Byte) : Int := if signed then c.toInt else c.toNat

/-! ## The handler -/

/-- What the handler does: it reads an attribute that is not there, copies bytes over the list of the driver, uses an
    index on both lists, or calls back. -/
inductive Effect
  | absent (name : AttrName)
  | copied (size : Nat)
  | index (i : Nat)
  | associated (ap : ApInfo)
  | disassociated
  | enabled
  | disabled
  | scanResults (list : ApInfoList)
  deriving DecidableEq

def checkIfIndex : Option Attr → Bool
  | none => false
  | some tb => decide (tb.getU32 = ifindex)

/-- The address of `assoc_ap`. -/
def assocAp : Option Attr → ApInfo
  | none => .zero
  | some addr => { ApInfo.zero with macAddr := Vector.ofFn fun j : Fin 6 => addr.data j }

def mlmeEventConnect (cmd : Command) (status addr : Option Attr) : List Effect :=
  if cmd = .connect then
    match status with
    | none => [.absent .statusCode]
    | some status => if status.getU16 ≠ 0 then [] else [.associated (assocAp addr)]
  else [.associated (assocAp addr)]

/-- `drv_ap_list` after the copy: what the payload does not reach is what was on the stack. -/
def drvApList (data : Attr) (i : Nat) : Byte := if i < data.len then data.data i else stack i

/-- `ap_list` after the loop over `n` entries. -/
def apList (drv : Nat → Byte) (n : Nat) : Vector ApInfo wifiApListNumMax :=
  (List.range n).foldl (fun list i => list.setIfInBounds i (.ofDriver (driverAp drv i)))
    (Vector.replicate wifiApListNumMax .zero)

/-- `AGPS_EVENT_WIFI_AP_INFO`. -/
def apInfoEvent : Option Attr → List Effect
  | none => [.absent .mtkData]
  | some data =>
    let drv := drvApList stack data
    let n := (charValue signed (drv 0)).toNat
    .copied data.len :: (List.range n).map .index ++ [.scanResults ⟨drv 0, apList drv n⟩]

/-- `NL80211_CMD_TESTMODE`. -/
def testmodeEvent (t : TestData) : BitVec 32 × List Effect :=
  match t.ifname with
  | none => (ifindex, [])
  | some ifname =>
    if ifname.isWlan = false then (ifindex, [])
    else
      match t.ifindex with
      | none => (ifindex, [.absent .mtkIfindex])
      | some index =>
        (index.getU8.setWidth 32,
          match t.cmd with
          | none => [.absent .mtkCmd]
          | some cmd =>
            if cmd.getU8 = 0 then [.enabled]
            else if cmd.getU8 = 1 then [.disabled]
            else if cmd.getU8 = 2 then apInfoEvent signed stack t.data
            else [])

/-- `process_nl_event`: the interface index after it, and what it did. -/
def processNlEvent : BitVec 32 × List Effect :=
  match m.cmd with
  | .connect | .roam =>
    (ifindex, if checkIfIndex ifindex m.ifindex then mlmeEventConnect m.cmd m.statusCode m.mac else [])
  | .disconnect => (ifindex, if checkIfIndex ifindex m.ifindex then [.disassociated] else [])
  | .testmode =>
    match m.testdata with
    | none => (ifindex, [])
    | some t => testmodeEvent signed stack ifindex t
  | .other => (ifindex, [])

/-! ## What it should do -/

/-- The entry `i` that the driver sent: the bytes that are used lie in the payload. -/
def Attr.entry (a : Attr) (i : Nat) : Option DriverApInfo :=
  if apOffset i + 10 ≤ a.len then some (driverAp a.data i) else none

def Message.apData : Option Attr := m.testdata.bind fun t => t.data

/-- The handler reads what is there, copies no more than the list of the driver holds, uses the 32 entries of the two
    lists only, and passes on a list with the entries that were sent. -/
def Tolerated : Effect → Prop
  | .absent _ => False
  | .copied size => size ≤ driverApList.size
  | .index i => i < wifiApListNumMax
  | .scanResults list =>
    charValue signed list.num ≤ wifiApListNumMax ∧
      ∀ i : Nat, (i : Int) < charValue signed list.num →
        ∃ drv, m.apData.bind (fun a => a.entry i) = some drv ∧ list.list[i]? = some (.ofDriver drv)
  | _ => True

/-- The payload holds the number of entries and as many entries, within the list of the driver. -/
def Fits (data : Attr) : Prop :=
  1 ≤ data.len ∧ data.len ≤ driverApList.size ∧ charValue signed (data.data 0) ≤ wifiApListNumMax ∧
    ∀ i : Nat, (i : Int) < charValue signed (data.data 0) → apOffset i + 10 ≤ data.len

/-- A proper message of the interface: it has the attributes of its command, and a list fits. -/
def Proper : Prop :=
  match m.cmd with
  | .connect => checkIfIndex ifindex m.ifindex = true → m.statusCode.isSome = true
  | .testmode =>
    ∀ t, m.testdata = some t → t.ifname.any Attr.isWlan = true →
      t.ifindex.isSome = true ∧ t.cmd.isSome = true ∧
        (t.cmd.any (fun cmd => decide (cmd.getU8 = 2)) = true → ∃ data, t.data = some data ∧ Fits signed data)
  | _ => True

/-! ## The list -/

theorem getElem?_apList (drv : Nat → Byte) {n i : Nat} (hi : i < n) (hmax : i < wifiApListNumMax) :
    (apList drv n)[i]? = some (.ofDriver (driverAp drv i)) := by
  induction n with
  | zero => exact absurd hi (Nat.not_lt_zero i)
  | succ n ih =>
    rw [apList, List.range_succ, List.foldl_append, List.foldl_cons, List.foldl_nil, Vector.getElem?_setIfInBounds]
    by_cases heq : n = i
    · rw [if_pos heq, if_pos (heq ▸ hmax), heq]
    · rw [if_neg heq]
      exact ih (Nat.lt_of_le_of_ne (Nat.le_of_lt_succ hi) (Ne.symm heq))

theorem driverAp_drvApList {stack : Nat → Byte} {data : Attr} {i : Nat} (h : apOffset i + 10 ≤ data.len) :
    driverAp (drvApList stack data) i = driverAp data.data i := by
  have hbyte : ∀ j, j < 10 → drvApList stack data (apOffset i + j) = data.data (apOffset i + j) := by
    intro j hj
    exact if_pos (Nat.lt_of_lt_of_le (Nat.add_lt_add_left hj _) h)
  unfold driverAp
  rw [hbyte 6 (by decide), hbyte 7 (by decide), hbyte 8 (by decide), hbyte 9 (by decide)]
  congr 1
  apply congrArg Vector.ofFn
  funext j
  exact hbyte j (Nat.lt_trans j.isLt (by decide))

/-- **The list of access points.** Whatever was on the stack, the event is tolerated exactly if the list fits. -/
theorem apInfoEvent_tolerated_iff {signed : Bool} {m : Message} {data : Attr} (hdata : m.apData = some data) :
    (∀ stack, ∀ e ∈ apInfoEvent signed stack (some data), Tolerated signed m e) ↔ Fits signed data := by
  constructor
  · intro h
    have hcopied : data.len ≤ driverApList.size := h (fun _ => 0) (.copied data.len) List.mem_cons_self
    have hscan : ∀ stack, Tolerated signed m (.scanResults ⟨drvApList stack data 0,
        apList (drvApList stack data) (charValue signed (drvApList stack data 0)).toNat⟩) :=
      fun stack => h stack _ (List.mem_append_right _ (List.mem_singleton_self _))
    -- an empty payload leaves the number to the stack
    have hlen : 1 ≤ data.len := by
      by_contra hzero
      have hnum : drvApList (fun _ => 33) data 0 = 33 := if_neg (by omega)
      have hle : charValue signed 33 ≤ wifiApListNumMax := by
        rw [← hnum]
        exact (hscan fun _ => 33).1
      cases signed with
      | true | false => exact absurd hle (by decide)
    have hnum : drvApList (fun _ => 0) data 0 = data.data 0 := if_pos hlen
    obtain ⟨hle, hentries⟩ := hscan fun _ => 0
    rw [hnum] at hle hentries
    refine ⟨hlen, hcopied, hle, fun i hi => ?_⟩
    obtain ⟨drv, hdrv, -⟩ := hentries i hi
    rw [hdata, bind_some, Attr.entry] at hdrv
    by_contra hshort
    rw [if_neg hshort] at hdrv
    cases hdrv
  · rintro ⟨hlen, hcopied, hle, hentries⟩ stack e he
    have hnum : drvApList stack data 0 = data.data 0 := if_pos hlen
    simp only [apInfoEvent, hnum] at he
    rcases List.mem_append.mp he with hbefore | hlast
    · rcases List.mem_cons.mp hbefore with rfl | hindex
      · exact hcopied
      · obtain ⟨i, hi, rfl⟩ := List.mem_map.mp hindex
        show i < wifiApListNumMax
        have hlt := List.mem_range.mp hi
        omega
    · rw [List.mem_singleton.mp hlast]
      refine ⟨hle, fun i (hi : (i : Int) < charValue signed (data.data 0)) => ⟨driverAp data.data i, ?_, ?_⟩⟩
      · rw [hdata, bind_some, Attr.entry, if_pos (hentries i hi)]
      · have hmax : i < wifiApListNumMax := by
          omega
        rw [getElem?_apList _ (by omega) hmax, driverAp_drvApList (hentries i hi)]

/-! ## Every event -/

theorem mlmeEventConnect_tolerated_iff {signed : Bool} {m : Message} :
    (∀ e ∈ mlmeEventConnect .connect m.statusCode m.mac, Tolerated signed m e) ↔ m.statusCode.isSome = true := by
  unfold mlmeEventConnect
  rw [if_pos rfl]
  cases m.statusCode with
  | none => simp [Tolerated]
  | some status =>
    refine iff_of_true (fun e he => ?_) rfl
    dsimp only at he
    split_ifs at he
    · cases he
    · rw [List.mem_singleton.mp he]
      trivial

theorem testmodeEvent_tolerated_iff {signed : Bool} {ifindex : BitVec 32} {m : Message} {t : TestData}
    (ht : m.testdata = some t) (hname : t.ifname.any Attr.isWlan = true) :
    (∀ stack, ∀ e ∈ (testmodeEvent signed stack ifindex t).2, Tolerated signed m e) ↔
      t.ifindex.isSome = true ∧ t.cmd.isSome = true ∧
        (t.cmd.any (fun cmd => decide (cmd.getU8 = 2)) = true → ∃ data, t.data = some data ∧ Fits signed data) := by
  have hdata : m.apData = t.data := by rw [Message.apData, ht, bind_some]
  obtain ⟨ifname, hifname, hwlan⟩ := (Option.any_eq_true _ _).mp hname
  unfold testmodeEvent
  simp only [hifname, hwlan, Bool.true_eq_false, if_false]
  rcases t.ifindex with _ | index
  · simp [Tolerated]
  · rcases t.cmd with _ | cmd
    · simp [Tolerated]
    · simp only [isSome_some, true_and, any_some, decide_eq_true_eq]
      by_cases hlist : cmd.getU8 = 2
      · -- the list
        have hevents : ∀ es : List Effect, (if cmd.getU8 = 0 then [Effect.enabled]
            else if cmd.getU8 = 1 then [.disabled] else if cmd.getU8 = 2 then es else []) = es := by
          intro es
          rw [hlist]
          rfl
        simp only [hevents]
        rw [forall_prop_of_true hlist]
        rcases hd : t.data with _ | data
        · simp [apInfoEvent, Tolerated]
        · rw [hd] at hdata
          rw [apInfoEvent_tolerated_iff hdata]
          refine ⟨fun h => ⟨data, rfl, h⟩, ?_⟩
          rintro ⟨_, heq, h⟩
          exact some.inj heq ▸ h
      · refine iff_of_true (fun stack e he => ?_) fun h => absurd h hlist
        split_ifs at he
        · rw [List.mem_singleton.mp he]
          trivial
        · rw [List.mem_singleton.mp he]
          trivial
        · cases he

/-- **Driver events.** For every message, with any attributes and payloads and whatever the stack holds, the handler
    stays within what was sent and within its lists exactly if the message is proper. -/
theorem events_tolerated_iff (signed : Bool) (ifindex : BitVec 32) (m : Message) :
    (∀ stack, ∀ e ∈ (processNlEvent signed stack ifindex m).2, Tolerated signed m e) ↔ Proper signed ifindex m := by
  unfold processNlEvent Proper
  rcases hcmd : m.cmd
  · -- connect
    rcases hcheck : checkIfIndex ifindex m.ifindex
    · exact iff_of_true (fun _ e he => absurd he List.not_mem_nil) fun h => absurd h (by decide)
    · simp only [forall_const]
      exact mlmeEventConnect_tolerated_iff
  · -- roam
    refine iff_of_true (fun _ e he => ?_) trivial
    split_ifs at he
    · rw [List.mem_singleton.mp he]
      trivial
    · cases he
  · -- disconnect
    refine iff_of_true (fun _ e he => ?_) trivial
    split_ifs at he
    · rw [List.mem_singleton.mp he]
      trivial
    · cases he
  · -- testmode
    rcases ht : m.testdata with _ | t
    · exact iff_of_true (fun _ e he => absurd he List.not_mem_nil) fun t h => absurd h.symm (some_ne_none t)
    · rcases hname : t.ifname.any Attr.isWlan
      · refine iff_of_true (fun _ e he => ?_) fun t' h hwlan => ?_
        · rcases hifname : t.ifname with _ | ifname
          · simp only [testmodeEvent, hifname] at he
            cases he
          · have hother : ifname.isWlan = false := by rwa [hifname] at hname
            simp only [testmodeEvent, hifname, hother] at he
            cases he
        · rw [← some.inj h, hname] at hwlan
          exact absurd hwlan (by decide)
      · rw [testmodeEvent_tolerated_iff ht hname]
        constructor
        · intro h t' heq _
          exact some.inj heq ▸ h
        · intro h
          exact h t rfl hname
  · exact iff_of_true (fun _ e he => absurd he List.not_mem_nil) trivial

/-- The attribute with some bytes and zeros behind them. -/
def Attr.ofBytes (len : Nat) (bytes : List Byte) : Attr := ⟨len, fun i => bytes.getD i 0⟩

/-- A list of 33 access points from `wlan0`. -/
def manyAps : Message :=
  ⟨.testmode, none, none, none,
    some ⟨some (.ofBytes 1 [2]), some (.ofBytes 516 [33]), some (.ofBytes 1 [5]),
      some (.ofBytes 6 [0x77, 0x6c, 0x61, 0x6e, 0x30, 0])⟩⟩

def noStatus : Message := ⟨.connect, some (.ofBytes 4 [5]), none, none, none⟩

/-- With 33 access points the handler writes behind both lists; without a status it follows a null pointer. -/
theorem entry_past_lists :
    (∀ signed stack, Effect.index 32 ∈ (processNlEvent signed stack 0 manyAps).2 ∧ ¬Tolerated signed manyAps (.index 32)) ∧
      ∀ signed stack, Effect.absent .statusCode ∈ (processNlEvent signed stack 5 noStatus).2 ∧
        ¬Tolerated signed noStatus (.absent .statusCode) := by
  refine ⟨fun signed stack => ⟨?_, Nat.lt_irrefl 32⟩, fun signed stack => ⟨List.mem_singleton_self _, id⟩⟩
  have hcount : (charValue signed 33).toNat = 33 := by cases signed <;> rfl
  apply List.mem_append_left
  apply List.mem_cons_of_mem
  apply List.mem_map_of_mem
  apply List.mem_range.mpr
  show 32 < (charValue signed 33).toNat
  rw [hcount]
  decide

end HuaweiY5.Wifi
