import HuaweiY5.Msg.DataCoder

/-!
# `Msg.Hal2Mnl` — the messages from the GPS HAL to mnld

The senders `hal2mnl_*` of the HAL (`hal2mnl_interface.c`) and `hal2mnl_hdlr` of mnld (`mnl2hal_interface.c`) agree on
the order and the types of the fields by hand. `Hal2Mnl` has one constructor per operation: it is a call of the
sender on one side and a call of the callback on the other. `hal2mnl_faithful_iff` says for which calls the two are
the same; the one that is left out is an NI message that is longer than the array of the handler.
-/

namespace HuaweiY5.Msg

open Codec

def halMnlBuffSize : Nat := 16 * 1024

def halMnlInterfaceVersion : BitVec 32 := 1

inductive Hal2MnlCmd
  | halReboot
  | gpsInit
  | gpsStart
  | gpsStop
  | gpsCleanup
  | gpsInjectTime
  | gpsInjectLocation
  | gpsDeleteAidingData
  | gpsSetPositionMode
  | dataConnOpen
  | dataConnOpenWithApnIpType
  | dataConnClosed
  | dataConnFailed
  | setServer
  | setRefLocation
  | setId
  | niMessage
  | niRespond
  | updateNetworkState
  | updateNetworkAvailability
  | gpsMeasurement
  | gpsNavigation
deriving DecidableEq

namespace Hal2MnlCmd

def code : Hal2MnlCmd → BitVec 32
  | halReboot => 0
  | gpsInit => 101
  | gpsStart => 102
  | gpsStop => 103
  | gpsCleanup => 104
  | gpsInjectTime => 105
  | gpsInjectLocation => 106
  | gpsDeleteAidingData => 107
  | gpsSetPositionMode => 108
  | dataConnOpen => 201
  | dataConnOpenWithApnIpType => 202
  | dataConnClosed => 203
  | dataConnFailed => 204
  | setServer => 301
  | setRefLocation => 302
  | setId => 303
  | niMessage => 401
  | niRespond => 402
  | updateNetworkState => 501
  | updateNetworkAvailability => 502
  | gpsMeasurement => 601
  | gpsNavigation => 602

/-- The cases of the `switch`. -/
def all : List Hal2MnlCmd :=
  [halReboot, gpsInit, gpsStart, gpsStop, gpsCleanup, gpsInjectTime, gpsInjectLocation, gpsDeleteAidingData,
    gpsSetPositionMode, dataConnOpen, dataConnOpenWithApnIpType, dataConnClosed, dataConnFailed, setServer,
    setRefLocation, setId, niMessage, niRespond, updateNetworkState, updateNetworkAvailability, gpsMeasurement,
    gpsNavigation]

theorem find_code (c : Hal2MnlCmd) : (all.find? fun c' => c'.code = c.code) = some c := by
  cases c <;> decide

end Hal2MnlCmd

/-- An operation of the interface with its arguments; a float and a double are their bits. -/
inductive Hal2Mnl
  | halReboot
  | gpsInit
  | gpsStart
  | gpsStop
  | gpsCleanup
  | gpsInjectTime (time timeReference : BitVec 64) (uncertainty : BitVec 32)
  | gpsInjectLocation (lat lng : BitVec 64) (acc : BitVec 32)
  | gpsDeleteAidingData (flags : BitVec 32)
  | gpsSetPositionMode (mode recurrence minInterval preferredAcc preferredTime : BitVec 32)
  | dataConnOpen (apn : Option CString)
  | dataConnOpenWithApnIpType (apn : Option CString) (ipType : BitVec 32)
  | dataConnClosed
  | dataConnFailed
  | setServer (type : BitVec 32) (hostname : Option CString) (port : BitVec 32)
  | setRefLocation (type mcc mnc lac cid : BitVec 32)
  | setId (type : BitVec 32) (setid : Option CString)
  | niMessage (msg : Binary)
  | niRespond (notifId userResponse : BitVec 32)
  | updateNetworkState (connected type roaming : BitVec 32) (extraInfo : Option CString)
  | updateNetworkAvailability (available : BitVec 32) (apn : Option CString)
  | setGpsMeasurement (enabled : Bool)
  | setGpsNavigation (enabled : Bool)
deriving DecidableEq

/-- A `bool` passed as an `int`. -/
def intOfBool (b : Bool) : BitVec 32 := if b then 1 else 0

/-- An `int` passed as a `bool`. -/
def boolOfInt (i : BitVec 32) : Bool := i != 0

@[simp] theorem boolOfInt_intOfBool (b : Bool) : boolOfInt (intOfBool b) = b := by cases b <;> rfl

namespace Hal2Mnl

def cmd : Hal2Mnl → Hal2MnlCmd
  | halReboot => .halReboot
  | gpsInit => .gpsInit
  | gpsStart => .gpsStart
  | gpsStop => .gpsStop
  | gpsCleanup => .gpsCleanup
  | gpsInjectTime .. => .gpsInjectTime
  | gpsInjectLocation .. => .gpsInjectLocation
  | gpsDeleteAidingData _ => .gpsDeleteAidingData
  | gpsSetPositionMode .. => .gpsSetPositionMode
  | dataConnOpen _ => .dataConnOpen
  | dataConnOpenWithApnIpType .. => .dataConnOpenWithApnIpType
  | dataConnClosed => .dataConnClosed
  | dataConnFailed => .dataConnFailed
  | setServer .. => .setServer
  | setRefLocation .. => .setRefLocation
  | setId .. => .setId
  | niMessage _ => .niMessage
  | niRespond .. => .niRespond
  | updateNetworkState .. => .updateNetworkState
  | updateNetworkAvailability .. => .updateNetworkAvailability
  | setGpsMeasurement _ => .gpsMeasurement
  | setGpsNavigation _ => .gpsNavigation

/-- The fields a sender writes behind the version and the command. -/
def putArgs : Hal2Mnl → List Put
  | halReboot | gpsInit | gpsStart | gpsStop | gpsCleanup | dataConnClosed | dataConnFailed => []
  | gpsInjectTime time timeReference uncertainty => [putLong time, putLong timeReference, putInt uncertainty]
  | gpsInjectLocation lat lng acc => [putDouble lat, putDouble lng, putFloat acc]
  | gpsDeleteAidingData flags => [putInt flags]
  | gpsSetPositionMode mode recurrence minInterval preferredAcc preferredTime =>
    [putInt mode, putInt recurrence, putInt minInterval, putInt preferredAcc, putInt preferredTime]
  | dataConnOpen apn => [putString apn]
  | dataConnOpenWithApnIpType apn ipType => [putString apn, putInt ipType]
  | setServer type hostname port => [putInt type, putString hostname, putInt port]
  | setRefLocation type mcc mnc lac cid => [putInt type, putInt mcc, putInt mnc, putInt lac, putInt cid]
  | setId type setid => [putInt type, putString setid]
  | niMessage msg => [putBinary msg]
  | niRespond notifId userResponse => [putInt notifId, putInt userResponse]
  | updateNetworkState connected type roaming extraInfo =>
    [putInt connected, putInt type, putInt roaming, putString extraInfo]
  | updateNetworkAvailability available apn => [putInt available, putString apn]
  | setGpsMeasurement enabled | setGpsNavigation enabled => [putInt (intOfBool enabled)]

def put (m : Hal2Mnl) : Put := .all (putInt halMnlInterfaceVersion :: putInt m.cmd.code :: m.putArgs)

end Hal2Mnl

/-- `hal2mnl_*`: the datagram handed to `safe_sendto`, if the encoding fits the buffer. -/
def hal2mnl (m : Hal2Mnl) : Option (List Byte) := send halMnlBuffSize m.put

/-- The size of `msg` in the NI_MESSAGE case. -/
def niMessageCap : Nat := 1024

/-- The cases of `hal2mnl_hdlr`. -/
def Hal2MnlCmd.hdlr : Hal2MnlCmd → Get (Handled Hal2Mnl)
  | .halReboot => pure (.call .halReboot)
  | .gpsInit => pure (.call .gpsInit)
  | .gpsStart => pure (.call .gpsStart)
  | .gpsStop => pure (.call .gpsStop)
  | .gpsCleanup => pure (.call .gpsCleanup)
  | .gpsInjectTime => do
    let time ← getLong
    let timeReference ← getLong
    let uncertainty ← getInt
    pure (.call (.gpsInjectTime time timeReference uncertainty))
  | .gpsInjectLocation => do
    let lat ← getDouble
    let lng ← getDouble
    let acc ← getFloat
    pure (.call (.gpsInjectLocation lat lng acc))
  | .gpsDeleteAidingData => do
    let flags ← getInt
    pure (.call (.gpsDeleteAidingData flags))
  | .gpsSetPositionMode => do
    let mode ← getInt
    let recurrence ← getInt
    let minInterval ← getInt
    let preferredAcc ← getInt
    let preferredTime ← getInt
    pure (.call (.gpsSetPositionMode mode recurrence minInterval preferredAcc preferredTime))
  | .dataConnOpen => do
    let apn ← getString
    pure (.call (.dataConnOpen apn))
  | .dataConnOpenWithApnIpType => do
    let apn ← getString
    let ipType ← getInt
    pure (.call (.dataConnOpenWithApnIpType apn ipType))
  | .dataConnClosed => pure (.call .dataConnClosed)
  | .dataConnFailed => pure (.call .dataConnFailed)
  | .setServer => do
    let type ← getInt
    let hostname ← getString
    let port ← getInt
    pure (.call (.setServer type hostname port))
  | .setRefLocation => do
    let type ← getInt
    let mcc ← getInt
    let mnc ← getInt
    let lac ← getInt
    let cid ← getInt
    pure (.call (.setRefLocation type mcc mnc lac cid))
  | .setId => do
    let type ← getInt
    let setid ← getString
    pure (.call (.setId type setid))
  | .niMessage => do
    let msg ← getBinary niMessageCap
    pure (.call (.niMessage msg))
  | .niRespond => do
    let notifId ← getInt
    let userResponse ← getInt
    pure (.call (.niRespond notifId userResponse))
  | .updateNetworkState => do
    let connected ← getInt
    let type ← getInt
    let roaming ← getInt
    let extraInfo ← getString
    pure (.call (.updateNetworkState connected type roaming extraInfo))
  | .updateNetworkAvailability => do
    let available ← getInt
    let apn ← getString
    pure (.call (.updateNetworkAvailability available apn))
  | .gpsMeasurement => do
    let enabled ← getInt
    pure (.call (.setGpsMeasurement (boolOfInt enabled)))
  | .gpsNavigation => do
    let enabled ← getInt
    pure (.call (.setGpsNavigation (boolOfInt enabled)))

/-- `hal2mnl_hdlr`, on the receive buffer. -/
def hal2mnlHdlr : Get (Handled Hal2Mnl) := do
  let _ver ← getInt
  let cmd ← getInt
  switch Hal2MnlCmd.code Hal2MnlCmd.all Hal2MnlCmd.hdlr .unknown cmd

/-! ## Sender and handler agree -/

/-- What mnld makes of a message; `none` is a write behind its array. -/
def Hal2Mnl.handled : Hal2Mnl → Option (Handled Hal2Mnl)
  | niMessage msg => if msg.data.length ≤ niMessageCap then some (.call (niMessage msg)) else none
  | m => some (.call m)

theorem link_hal2mnl_args (m : Hal2Mnl) : Link (.all m.putArgs) m.cmd.hdlr m.handled := by
  cases m with
  | halReboot | gpsInit | gpsStart | gpsStop | gpsCleanup | dataConnClosed | dataConnFailed =>
    exact Link.nil rfl
  | gpsInjectTime time timeReference uncertainty =>
    exact (link_long _).cons <| (link_long _).cons <| cons_int <| .nil rfl
  | gpsInjectLocation lat lng acc =>
    exact (link_double _).cons <| (link_double _).cons <| (link_float _).cons <| .nil rfl
  | gpsDeleteAidingData flags => exact cons_int <| .nil rfl
  | gpsSetPositionMode mode recurrence minInterval preferredAcc preferredTime | setRefLocation type mcc mnc lac cid =>
    exact cons_int <| cons_int <| cons_int <| cons_int <| cons_int <| .nil rfl
  | dataConnOpen apn => exact cons_string <| .nil rfl
  | dataConnOpenWithApnIpType apn ipType => exact cons_string <| cons_int <| .nil rfl
  | setServer type hostname port => exact cons_int <| cons_string <| cons_int <| .nil rfl
  | setId type setid | updateNetworkAvailability available apn => exact cons_int <| cons_string <| .nil rfl
  | niMessage msg => exact link_binary_last msg _ _
  | niRespond notifId userResponse => exact cons_int <| cons_int <| .nil rfl
  | updateNetworkState connected type roaming extraInfo =>
    exact cons_int <| cons_int <| cons_int <| cons_string <| .nil rfl
  | setGpsMeasurement enabled | setGpsNavigation enabled => exact cons_int <| .nil (by rw [boolOfInt_intOfBool])

theorem delivers_hal2mnl (m : Hal2Mnl) : Delivers m.put hal2mnlHdlr m.handled :=
  Delivers.cons (link_int _) (delivers_switch m.cmd.find_code (link_hal2mnl_args m).delivers)

/-- **The HAL's messages arrive.** For every call of a sender whose encoding fits the buffer, the handler
    stays in bounds and invokes the callback of the same operation, once and with equal arguments, if and only
    if the call is no NI message of more than 1024 bytes. -/
theorem hal2mnl_faithful_iff (m : Hal2Mnl) (datagram : List Byte) (hsend : hal2mnl m = some datagram) :
    receive halMnlBuffSize hal2mnlHdlr datagram = some ⟨[m], 0⟩ ↔
      ∀ msg, m = .niMessage msg → msg.data.length ≤ 1024 := by
  rw [(delivers_hal2mnl m).receive (by decide) hsend]
  cases m with
  | niMessage msg =>
    rw [Hal2Mnl.handled, Option.ite_none_right_eq_some]
    simp [Handled.call, niMessageCap]
  | _ => exact iff_of_true rfl nofun

theorem exists_hal2mnl_niMessage (msg : Binary) (h : 12 + msg.data.length ≤ halMnlBuffSize) :
    ∃ datagram, hal2mnl (.niMessage msg) = some datagram :=
  exists_send_fields [.int halMnlInterfaceVersion, .int Hal2MnlCmd.niMessage.code, .binary msg]
    (by simp only [List.map, List.sum_cons, List.sum_nil, Field.size]; omega)

/-- A binary of `n` zeros. -/
def zeros (n : Nat) (h : n < intEnd) : Binary :=
  ⟨BitVec.ofNat 32 n, List.replicate n 0, by rw [toInt_ofNat_of_lt h, List.length_replicate, Int.toNat_natCast]⟩

@[simp] theorem zeros_length (n : Nat) (h : n < intEnd) : (zeros n h).data.length = n := List.length_replicate

/-- An NI message of 1025 bytes is sent, and overruns the array of the handler. -/
theorem hal2mnl_niMessage_overruns :
    ∃ datagram, hal2mnl (.niMessage (zeros 1025 (by decide))) = some datagram ∧
      receive halMnlBuffSize hal2mnlHdlr datagram = none := by
  obtain ⟨datagram, hsend⟩ := exists_hal2mnl_niMessage (zeros 1025 (by decide))
    (by rw [zeros_length]; decide)
  refine ⟨datagram, hsend, ?_⟩
  rw [(delivers_hal2mnl _).receive (by decide) hsend]
  rw [Hal2Mnl.handled, zeros_length]
  exact if_neg (by decide)

/-- One of 1024 bytes arrives. -/
theorem hal2mnl_faithful_niMessage :
    ∃ datagram, hal2mnl (.niMessage (zeros 1024 (by decide))) = some datagram ∧
      receive halMnlBuffSize hal2mnlHdlr datagram = some ⟨[.niMessage (zeros 1024 (by decide))], 0⟩ := by
  obtain ⟨datagram, hsend⟩ := exists_hal2mnl_niMessage (zeros 1024 (by decide))
    (by rw [zeros_length]; decide)
  refine ⟨datagram, hsend, (hal2mnl_faithful_iff _ datagram hsend).mpr ?_⟩
  rintro _ ⟨⟩
  rw [zeros_length]

end HuaweiY5.Msg
