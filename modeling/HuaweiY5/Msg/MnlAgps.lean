import HuaweiY5.Msg.DataCoder

/-!
# `Msg.MnlAgps` — the messages between mnld and agpsd

Each direction of the interface has its senders in one file and its handler in the other: `mnl2agps_*` and
`agps2mnl_hdlr` in `mnl2agps_interface.c`, `agps2mnl_*` and `mnl2agps_hdlr` in `agps2mnl_interface.c`. The message
types of both are one enumeration. `mnlAgps_faithful_iff` says for which calls the callback of the same operation is
invoked with the same arguments: all of them, but for an NI message that is longer than the array of the handler,
and the acknowledgement of the settings, for which agpsd has neither a case nor a callback.
-/

namespace HuaweiY5.Msg

open Codec CLayout

def mnlAgpsMaxBuffSize : Nat := 8 * 1024

def mnlAgpsInterfaceVersion : BitVec 32 := 1

inductive MnlAgpsType
  -- MNL -> AGPS
  | mnlReboot
  | agpsOpenGpsDone
  | agpsCloseGpsDone
  | agpsResetGpsDone
  | gpsInit
  | gpsCleanup
  | deleteAidingData
  | gpsOpen
  | gpsClose
  | dataConnOpen
  | dataConnFailed
  | dataConnClosed
  | niMessage
  | niRespond
  | setRefLoc
  | setSetId
  | setServer
  | updateNetworkState
  | updateNetworkAvailability
  | dataConnOpenIpType
  | installCertificates
  | revokeCertificates
  | mnl2agpsPmtk
  | rawDbg
  | reaiding
  | locationSync
  | settingsAck
  -- AGPS -> MNL
  | agpsReboot
  | agpsOpenGpsReq
  | agpsCloseGpsReq
  | agpsResetGpsReq
  | agpsSessionDone
  | niNotify
  | dataConnReq
  | dataConnRelease
  | setIdReq
  | refLocReq
  | agpsLoc
  | niNotify2
  | dataConnReq2
  | agps2mnlPmtk
  | gpevt
  | settingsSync
deriving DecidableEq

namespace MnlAgpsType

def code : MnlAgpsType → BitVec 32
  | mnlReboot => 100
  | agpsOpenGpsDone => 110
  | agpsCloseGpsDone => 111
  | agpsResetGpsDone => 112
  | gpsInit => 120
  | gpsCleanup => 121
  | deleteAidingData => 122
  | gpsOpen => 123
  | gpsClose => 124
  | dataConnOpen => 125
  | dataConnFailed => 126
  | dataConnClosed => 127
  | niMessage => 128
  | niRespond => 129
  | setRefLoc => 130
  | setSetId => 131
  | setServer => 132
  | updateNetworkState => 133
  | updateNetworkAvailability => 134
  | dataConnOpenIpType => 135
  | installCertificates => 136
  | revokeCertificates => 137
  | mnl2agpsPmtk => 150
  | rawDbg => 151
  | reaiding => 152
  | locationSync => 153
  | settingsAck => 154
  | agpsReboot => 200
  | agpsOpenGpsReq => 210
  | agpsCloseGpsReq => 211
  | agpsResetGpsReq => 212
  | agpsSessionDone => 220
  | niNotify => 230
  | dataConnReq => 231
  | dataConnRelease => 232
  | setIdReq => 233
  | refLocReq => 234
  | agpsLoc => 235
  | niNotify2 => 236
  | dataConnReq2 => 237
  | agps2mnlPmtk => 250
  | gpevt => 251
  | settingsSync => 252

def all : List MnlAgpsType :=
  [mnlReboot, agpsOpenGpsDone, agpsCloseGpsDone, agpsResetGpsDone, gpsInit, gpsCleanup, deleteAidingData, gpsOpen,
    gpsClose, dataConnOpen, dataConnFailed, dataConnClosed, niMessage, niRespond, setRefLoc, setSetId, setServer,
    updateNetworkState, updateNetworkAvailability, dataConnOpenIpType, installCertificates, revokeCertificates,
    mnl2agpsPmtk, rawDbg, reaiding, locationSync, settingsAck, agpsReboot, agpsOpenGpsReq, agpsCloseGpsReq,
    agpsResetGpsReq, agpsSessionDone, niNotify, dataConnReq, dataConnRelease, setIdReq, refLocReq, agpsLoc,
    niNotify2, dataConnReq2, agps2mnlPmtk, gpevt, settingsSync]

theorem find_code (c : MnlAgpsType) : (all.find? fun c' => c'.code = c.code) = some c := by
  cases c <;> decide

end MnlAgpsType

/-! ## From mnld to agpsd -/

structure MnlAgpsGnssSettings where
  gpsSatelliteSupport : Byte
  glonassSatelliteSupport : Byte
  beidouSatelliteSupport : Byte
  galileoSatelliteSupport : Byte
deriving DecidableEq

/-- An operation with its arguments; a double is its bits. -/
inductive Mnl2Agps
  | mnlReboot
  | openGpsDone
  | closeGpsDone
  | resetGpsDone
  | gpsInit
  | gpsCleanup
  | setServer (type : BitVec 32) (hostname : Option CString) (port : BitVec 32)
  | deleteAidingData (flags : BitVec 32)
  | gpsOpen (assistReq : BitVec 32)
  | gpsClose
  | dataConnOpen (apn : Option CString)
  | dataConnOpenIpType (apn : Option CString) (ipType : BitVec 32)
  | installCertificates (index total : BitVec 32) (data : Binary)
  | revokeCertificates (data : Binary)
  | dataConnFailed
  | dataConnClosed
  | niMessage (msg : Binary)
  | niRespond (sessionId userResponse : BitVec 32)
  | setRefLoc (type mcc mnc lac cid : BitVec 32)
  | setSetId (type : BitVec 32) (setid : Option CString)
  | updateNetworkState (connected type roaming : BitVec 32) (extraInfo : Option CString)
  | updateNetworkAvailability (avaiable : BitVec 32) (apn : Option CString)
  | pmtk (pmtk : Option CString)
  | rawDbg (enabled : BitVec 32)
  | reaidingReq
  | locationSync (lat lng : BitVec 64) (acc : BitVec 32)
  | agpsSettingsAck (settings : MnlAgpsGnssSettings)
deriving DecidableEq

namespace Mnl2Agps

def type : Mnl2Agps → MnlAgpsType
  | mnlReboot => .mnlReboot
  | openGpsDone => .agpsOpenGpsDone
  | closeGpsDone => .agpsCloseGpsDone
  | resetGpsDone => .agpsResetGpsDone
  | gpsInit => .gpsInit
  | gpsCleanup => .gpsCleanup
  | setServer .. => .setServer
  | deleteAidingData _ => .deleteAidingData
  | gpsOpen _ => .gpsOpen
  | gpsClose => .gpsClose
  | dataConnOpen _ => .dataConnOpen
  | dataConnOpenIpType .. => .dataConnOpenIpType
  | installCertificates .. => .installCertificates
  | revokeCertificates _ => .revokeCertificates
  | dataConnFailed => .dataConnFailed
  | dataConnClosed => .dataConnClosed
  | niMessage _ => .niMessage
  | niRespond .. => .niRespond
  | setRefLoc .. => .setRefLoc
  | setSetId .. => .setSetId
  | updateNetworkState .. => .updateNetworkState
  | updateNetworkAvailability .. => .updateNetworkAvailability
  | pmtk _ => .mnl2agpsPmtk
  | rawDbg _ => .rawDbg
  | reaidingReq => .reaiding
  | locationSync .. => .locationSync
  | agpsSettingsAck _ => .settingsAck

/-- The fields a sender writes behind the version and the type. -/
def args : Mnl2Agps → List Field
  | mnlReboot | openGpsDone | closeGpsDone | resetGpsDone | gpsInit | gpsCleanup | gpsClose | dataConnFailed
  | dataConnClosed | reaidingReq => []
  | setServer type hostname port => [.int type, .string hostname, .int port]
  | deleteAidingData flags => [.int flags]
  | gpsOpen assistReq => [.int assistReq]
  | dataConnOpen apn => [.string apn]
  | dataConnOpenIpType apn ipType => [.string apn, .int ipType]
  | installCertificates index total data => [.int index, .int total, .binary data]
  | revokeCertificates data => [.binary data]
  | niMessage msg => [.binary msg]
  | niRespond sessionId userResponse => [.int sessionId, .int userResponse]
  | setRefLoc type mcc mnc lac cid => [.int type, .int mcc, .int mnc, .int lac, .int cid]
  | setSetId type setid => [.int type, .string setid]
  | updateNetworkState connected type roaming extraInfo =>
    [.int connected, .int type, .int roaming, .string extraInfo]
  | updateNetworkAvailability avaiable apn => [.int avaiable, .string apn]
  | pmtk text => [.string text]
  | rawDbg enabled => [.int enabled]
  | locationSync lat lng acc => [.double lat, .double lng, .int acc]
  | agpsSettingsAck settings =>
    -- a char is unsigned on ARM
    [.int (settings.gpsSatelliteSupport.setWidth 32), .int (settings.glonassSatelliteSupport.setWidth 32),
      .int (settings.beidouSatelliteSupport.setWidth 32), .int (settings.galileoSatelliteSupport.setWidth 32)]

def fields (m : Mnl2Agps) : List Field := .int mnlAgpsInterfaceVersion :: .int m.type.code :: m.args

end Mnl2Agps

/-- `mnl2agps_*`: the datagram handed to `send2agps`, if the encoding fits the buffer. -/
def mnl2agps (m : Mnl2Agps) : Option (List Byte) := send mnlAgpsMaxBuffSize (putFields m.fields)

/-- The cases of `mnl2agps_hdlr`. -/
def mnl2agpsCase : MnlAgpsType → Get (List Mnl2Agps)
  | .mnlReboot => pure [.mnlReboot]
  | .agpsOpenGpsDone => pure [.openGpsDone]
  | .agpsCloseGpsDone => pure [.closeGpsDone]
  | .agpsResetGpsDone => pure [.resetGpsDone]
  | .gpsInit => pure [.gpsInit]
  | .gpsCleanup => pure [.gpsCleanup]
  | .setServer => do
    let type ← getInt
    let hostname ← getString
    let port ← getInt
    pure [.setServer type hostname port]
  | .deleteAidingData => do
    let flags ← getInt
    pure [.deleteAidingData flags]
  | .gpsOpen => do
    let assistReq ← getInt
    pure [.gpsOpen assistReq]
  | .gpsClose => pure [.gpsClose]
  | .dataConnOpen => do
    let apn ← getString
    pure [.dataConnOpen apn]
  | .dataConnOpenIpType => do
    let apn ← getString
    let ipType ← getInt
    pure [.dataConnOpenIpType apn ipType]
  | .installCertificates => do
    let index ← getInt
    let total ← getInt
    let data ← getBinary mnlAgpsMaxBuffSize
    pure [.installCertificates index total data]
  | .revokeCertificates => do
    let data ← getBinary mnlAgpsMaxBuffSize
    pure [.revokeCertificates data]
  | .dataConnFailed => pure [.dataConnFailed]
  | .dataConnClosed => pure [.dataConnClosed]
  | .niMessage => do
    -- char msg[1024]
    let msg ← getBinary 1024
    pure [.niMessage msg]
  | .niRespond => do
    let sessionId ← getInt
    let userResponse ← getInt
    pure [.niRespond sessionId userResponse]
  | .setRefLoc => do
    let type ← getInt
    let mcc ← getInt
    let mnc ← getInt
    let lac ← getInt
    let cid ← getInt
    pure [.setRefLoc type mcc mnc lac cid]
  | .setSetId => do
    let type ← getInt
    let setid ← getString
    pure [.setSetId type setid]
  | .updateNetworkState => do
    let connected ← getInt
    let type ← getInt
    let roaming ← getInt
    let extraInfo ← getString
    pure [.updateNetworkState connected type roaming extraInfo]
  | .updateNetworkAvailability => do
    let avaiable ← getInt
    let apn ← getString
    pure [.updateNetworkAvailability avaiable apn]
  | .mnl2agpsPmtk => do
    let pmtk ← getString
    pure [.pmtk pmtk]
  | .rawDbg => do
    let enabled ← getInt
    pure [.rawDbg enabled]
  | .reaiding => pure [.reaidingReq]
  | .locationSync => do
    let lat ← getDouble
    let lng ← getDouble
    let acc ← getInt
    pure [.locationSync lat lng acc]
  -- unknown type
  | _ => pure []

/-- `mnl2agps_hdlr`, on the receive buffer. -/
def mnl2agpsHdlr : Get (List Mnl2Agps) := do
  let _version ← getInt
  let type ← getInt
  switch MnlAgpsType.code MnlAgpsType.all mnl2agpsCase [] type

/-! ## From agpsd to mnld -/

/-- `mnl_agps_agps_location`: latitude, longitude, altitude, speed, bearing, accuracy and timestamp, each of the last
    five behind a flag. -/
def mnlAgpsAgpsLocation : Layout :=
  struct [double, double, char, double, char, float, char, float, char, float, char, int64]

/-- An operation with its arguments; `Obj` is what stands for a structure. -/
inductive Agps2Mnl (Obj : Layout → Type)
  | agpsReboot
  | agpsOpenGpsReq (showGpsIcon : BitVec 32)
  | agpsCloseGpsReq
  | agpsResetGpsReq (flags : BitVec 32)
  | agpsSessionDone
  | niNotify (sessionId type : BitVec 32) (requestorId clientName : Option CString)
  | niNotify2 (sessionId type : BitVec 32) (requestorId clientName : Option CString)
      (requestorIdEncoding clientNameEncoding : BitVec 32)
  | dataConnReq (ipaddr isEmergency : BitVec 32)
  | dataConnReq2 (addr : Obj sockaddrStorage) (isEmergency : BitVec 32)
  | dataConnRelease
  | setIdReq (flags : BitVec 32)
  | refLocReq (flags : BitVec 32)
  | pmtk (pmtk : Option CString)
  | gpevt (type : BitVec 32)
  | agpsLocation (location : Obj mnlAgpsAgpsLocation)

structure MnlAgpsAgpsSettings where
  sib816Enable : Byte
  gpsSatelliteEnable : Byte
  glonassSatelliteEnable : Byte
  beidouSatelliteEnable : Byte
  galileoSatelliteEnable : Byte
  aGlonassSatelliteEnable : Byte
deriving DecidableEq

/-- A call of a callback, with the scalars of a structure. -/
inductive Agps2MnlCall
  | sent (m : Agps2Mnl fun _ => List Nat)
  | agpsSettingsSync (settings : MnlAgpsAgpsSettings)

theorem sockaddrStorage_size_lt : sockaddrStorage.size < intEnd := by decide

theorem mnlAgpsAgpsLocation_size_lt : mnlAgpsAgpsLocation.size < intEnd := by decide

namespace Agps2Mnl

def type : Agps2Mnl Image → MnlAgpsType
  | agpsReboot => .agpsReboot
  | agpsOpenGpsReq _ => .agpsOpenGpsReq
  | agpsCloseGpsReq => .agpsCloseGpsReq
  | agpsResetGpsReq _ => .agpsResetGpsReq
  | agpsSessionDone => .agpsSessionDone
  | niNotify .. => .niNotify
  | niNotify2 .. => .niNotify2
  | dataConnReq .. => .dataConnReq
  | dataConnReq2 .. => .dataConnReq2
  | dataConnRelease => .dataConnRelease
  | setIdReq _ => .setIdReq
  | refLocReq _ => .refLocReq
  | pmtk _ => .agps2mnlPmtk
  | gpevt _ => .gpevt
  | agpsLocation _ => .agpsLoc

/-- The fields a sender writes behind the version and the type. -/
def args : Agps2Mnl Image → List Field
  | agpsReboot | agpsCloseGpsReq | agpsSessionDone | dataConnRelease => []
  | agpsOpenGpsReq showGpsIcon => [.int showGpsIcon]
  | agpsResetGpsReq flags => [.int flags]
  | niNotify sessionId type requestorId clientName =>
    [.int sessionId, .int type, .string requestorId, .string clientName]
  | niNotify2 sessionId type requestorId clientName requestorIdEncoding clientNameEncoding =>
    [.int sessionId, .int type, .string requestorId, .string clientName, .int requestorIdEncoding,
      .int clientNameEncoding]
  | dataConnReq ipaddr isEmergency => [.int ipaddr, .int isEmergency]
  | dataConnReq2 addr isEmergency => [.binary (structBinary addr sockaddrStorage_size_lt), .int isEmergency]
  | setIdReq flags | refLocReq flags => [.int flags]
  | pmtk text => [.string text]
  | gpevt type => [.int type]
  | agpsLocation location => [.binary (structBinary location mnlAgpsAgpsLocation_size_lt)]

def fields (m : Agps2Mnl Image) : List Field := .int mnlAgpsInterfaceVersion :: .int m.type.code :: m.args

/-- The call of the callback of the same operation, with the arguments of the sender. -/
def call : Agps2Mnl Image → Agps2MnlCall
  | agpsReboot => .sent .agpsReboot
  | agpsOpenGpsReq showGpsIcon => .sent (.agpsOpenGpsReq showGpsIcon)
  | agpsCloseGpsReq => .sent .agpsCloseGpsReq
  | agpsResetGpsReq flags => .sent (.agpsResetGpsReq flags)
  | agpsSessionDone => .sent .agpsSessionDone
  | niNotify sessionId type requestorId clientName => .sent (.niNotify sessionId type requestorId clientName)
  | niNotify2 sessionId type requestorId clientName requestorIdEncoding clientNameEncoding =>
    .sent (.niNotify2 sessionId type requestorId clientName requestorIdEncoding clientNameEncoding)
  | dataConnReq ipaddr isEmergency => .sent (.dataConnReq ipaddr isEmergency)
  | dataConnReq2 addr isEmergency => .sent (.dataConnReq2 (sockaddrStorage.value addr.1) isEmergency)
  | dataConnRelease => .sent .dataConnRelease
  | setIdReq flags => .sent (.setIdReq flags)
  | refLocReq flags => .sent (.refLocReq flags)
  | pmtk text => .sent (.pmtk text)
  | gpevt type => .sent (.gpevt type)
  | agpsLocation location => .sent (.agpsLocation (mnlAgpsAgpsLocation.value location.1))

end Agps2Mnl

variable (stack : Nat → Byte) (m : Agps2Mnl Image)

/-- `agps2mnl_*`: the datagram handed to `send2mnl`, if the encoding fits the buffer. -/
def agps2mnl : Option (List Byte) := send mnlAgpsMaxBuffSize (putFields m.fields)

/-- The cases of `agps2mnl_hdlr`, where the stack of mnld holds `stack`. -/
def agps2mnlCase : MnlAgpsType → Get (List Agps2MnlCall)
  | .agpsReboot => pure [.sent .agpsReboot]
  | .agpsOpenGpsReq => do
    let showGpsIcon ← getInt
    pure [.sent (.agpsOpenGpsReq showGpsIcon)]
  | .agpsCloseGpsReq => pure [.sent .agpsCloseGpsReq]
  | .agpsResetGpsReq => do
    let flags ← getInt
    pure [.sent (.agpsResetGpsReq flags)]
  | .agpsSessionDone => pure [.sent .agpsSessionDone]
  | .niNotify => do
    let sessionId ← getInt
    let type ← getInt
    let requestorId ← getString
    let clientName ← getString
    pure [.sent (.niNotify sessionId type requestorId clientName)]
  | .niNotify2 => do
    let sessionId ← getInt
    let type ← getInt
    let requestorId ← getString
    let clientName ← getString
    let requestorIdEncoding ← getInt
    let clientNameEncoding ← getInt
    pure [.sent (.niNotify2 sessionId type requestorId clientName requestorIdEncoding clientNameEncoding)]
  | .dataConnReq => do
    let ipaddr ← getInt
    let isEmergency ← getInt
    pure [.sent (.dataConnReq ipaddr isEmergency)]
  | .dataConnReq2 => do
    let addr ← getStruct stack sockaddrStorage
    let isEmergency ← getInt
    pure [.sent (.dataConnReq2 addr isEmergency)]
  | .dataConnRelease => pure [.sent .dataConnRelease]
  | .setIdReq => do
    let flags ← getInt
    pure [.sent (.setIdReq flags)]
  | .refLocReq => do
    let flags ← getInt
    pure [.sent (.refLocReq flags)]
  | .agps2mnlPmtk => do
    let pmtk ← getString
    pure [.sent (.pmtk pmtk)]
  | .gpevt => do
    let type ← getInt
    pure [.sent (.gpevt type)]
  | .agpsLoc => do
    let agpsLocation ← getStruct stack mnlAgpsAgpsLocation
    pure [.sent (.agpsLocation agpsLocation)]
  | .settingsSync => do
    let sib816Enable ← getInt
    let gpsSatelliteEnable ← getInt
    let glonassSatelliteEnable ← getInt
    let beidouSatelliteEnable ← getInt
    let galileoSatelliteEnable ← getInt
    let aGlonassSatelliteEnable ← getInt
    pure [.agpsSettingsSync ⟨sib816Enable.setWidth 8, gpsSatelliteEnable.setWidth 8,
      glonassSatelliteEnable.setWidth 8, beidouSatelliteEnable.setWidth 8, galileoSatelliteEnable.setWidth 8,
      aGlonassSatelliteEnable.setWidth 8⟩]
  -- unknown type
  | _ => pure []

/-- `agps2mnl_hdlr`, on the receive buffer. -/
def agps2mnlHdlr : Get (List Agps2MnlCall) := do
  let _version ← getInt
  let type ← getInt
  switch MnlAgpsType.code MnlAgpsType.all (agps2mnlCase stack) [] type

/-! ## Senders and handlers agree -/

def Mnl2Agps.handled : Mnl2Agps → Option (List Mnl2Agps)
  | niMessage msg => if msg.data.length ≤ 1024 then some [niMessage msg] else none
  | installCertificates index total data =>
    if data.data.length ≤ mnlAgpsMaxBuffSize then some [installCertificates index total data] else none
  | revokeCertificates data =>
    if data.data.length ≤ mnlAgpsMaxBuffSize then some [revokeCertificates data] else none
  | agpsSettingsAck _ => some []
  | m => some [m]

theorem delivers_mnl2agps_args (m : Mnl2Agps) : Delivers (putFields m.args) (mnl2agpsCase m.type) m.handled := by
  cases m with
  | mnlReboot | openGpsDone | closeGpsDone | resetGpsDone | gpsInit | gpsCleanup | gpsClose | dataConnFailed
  | dataConnClosed | reaidingReq => exact Link.delivers <| .nil rfl
  | setServer type hostname port => exact Link.delivers <| cons_int <| cons_string <| cons_int <| .nil rfl
  | deleteAidingData arg | gpsOpen arg | rawDbg arg => exact Link.delivers <| cons_int <| .nil rfl
  | dataConnOpen text | pmtk text => exact Link.delivers <| cons_string <| .nil rfl
  | dataConnOpenIpType apn ipType => exact Link.delivers <| cons_string <| cons_int <| .nil rfl
  | installCertificates index total data => exact Link.delivers <| cons_int <| cons_int <| link_binary_last data _ _
  | revokeCertificates data | niMessage data => exact Link.delivers <| link_binary_last data _ _
  | niRespond sessionId userResponse => exact Link.delivers <| cons_int <| cons_int <| .nil rfl
  | setRefLoc type mcc mnc lac cid =>
    exact Link.delivers <| cons_int <| cons_int <| cons_int <| cons_int <| cons_int <| .nil rfl
  | setSetId arg text | updateNetworkAvailability arg text =>
    exact Link.delivers <| cons_int <| cons_string <| .nil rfl
  | updateNetworkState connected type roaming extraInfo =>
    exact Link.delivers <| cons_int <| cons_int <| cons_int <| cons_string <| .nil rfl
  | locationSync lat lng acc =>
    exact Link.delivers <| (link_double _).cons <| (link_double _).cons <| cons_int <| .nil rfl
  | agpsSettingsAck settings =>
    -- the default case reads none of the fields
    obtain ⟨bs, -, hbs⟩ := writes_fields (Mnl2Agps.agpsSettingsAck settings).args
    exact Delivers.ignore hbs []

theorem delivers_mnl2agps (m : Mnl2Agps) : Delivers (putFields m.fields) mnl2agpsHdlr m.handled :=
  Delivers.cons (link_int _) (delivers_switch m.type.find_code (delivers_mnl2agps_args m))

theorem link_agps2mnl_args : Link (putFields m.args) (agps2mnlCase stack m.type) (some [m.call]) := by
  cases m with
  | agpsReboot | agpsCloseGpsReq | agpsSessionDone | dataConnRelease => exact .nil rfl
  | agpsOpenGpsReq arg | agpsResetGpsReq arg | setIdReq arg | refLocReq arg | gpevt arg => exact cons_int <| .nil rfl
  | niNotify sessionId type requestorId clientName =>
    exact cons_int <| cons_int <| cons_string <| cons_string <| .nil rfl
  | niNotify2 sessionId type requestorId clientName requestorIdEncoding clientNameEncoding =>
    exact cons_int <| cons_int <| cons_string <| cons_string <| cons_int <| cons_int <| .nil rfl
  | dataConnReq ipaddr isEmergency => exact cons_int <| cons_int <| .nil rfl
  | dataConnReq2 addr isEmergency => exact (link_struct_self stack addr _).cons <| cons_int <| .nil rfl
  | pmtk text => exact cons_string <| .nil rfl
  | agpsLocation location => exact (link_struct_self stack location _).cons <| .nil rfl

theorem delivers_agps2mnl : Delivers (putFields m.fields) (agps2mnlHdlr stack) (some [m.call]) :=
  Delivers.cons (link_int _) (delivers_switch m.type.find_code (link_agps2mnl_args stack m).delivers)

theorem mnl2agps_handled_iff {m : Mnl2Agps} {datagram : List Byte} (hsend : mnl2agps m = some datagram) :
    m.handled = some [m] ↔
      (∀ msg, m = .niMessage msg → msg.data.length ≤ 1024) ∧ ∀ settings, m ≠ .agpsSettingsAck settings := by
  cases m with
  | niMessage msg => simp [Mnl2Agps.handled]
  | installCertificates _ _ data | revokeCertificates data =>
    have hfits : data.data.length ≤ mnlAgpsMaxBuffSize :=
      length_le_of_send hsend (by simp [Mnl2Agps.fields, Mnl2Agps.args])
    simp [Mnl2Agps.handled, hfits]
  | _ => simp [Mnl2Agps.handled]

/-- A call of a sender, in either direction. -/
inductive MnlAgps
  | mnl2agps (m : Mnl2Agps)
  | agps2mnl (m : Agps2Mnl Image)

namespace MnlAgps

def datagram : MnlAgps → Option (List Byte)
  | mnl2agps m => Msg.mnl2agps m
  | agps2mnl m => Msg.agps2mnl m

/-- On the datagram, the handler of the other side invokes the callback of the operation, once and with equal
    arguments, and nothing else. -/
def Arrives (stack : Nat → Byte) (bs : List Byte) : MnlAgps → Prop
  | mnl2agps m => receive mnlAgpsMaxBuffSize mnl2agpsHdlr bs = some [m]
  | agps2mnl m => receive mnlAgpsMaxBuffSize (agps2mnlHdlr stack) bs = some [m.call]

end MnlAgps

/-- **mnld and agpsd understand each other.** For every call of a sender whose encoding fits the buffer, the handler
    of the other side invokes the callback of the same operation, once and with equal arguments, if and only if the
    call is no NI message of more than 1024 bytes and no acknowledgement of the settings. -/
theorem mnlAgps_faithful_iff (m : MnlAgps) (stack : Nat → Byte) (bs : List Byte) (hsend : m.datagram = some bs) :
    m.Arrives stack bs ↔
      (∀ msg, m = .mnl2agps (.niMessage msg) → msg.data.length ≤ 1024) ∧
        ∀ settings, m ≠ .mnl2agps (.agpsSettingsAck settings) := by
  cases m with
  | mnl2agps m =>
    change mnl2agps m = some bs at hsend
    rw [MnlAgps.Arrives, (delivers_mnl2agps m).receive (by decide) hsend, mnl2agps_handled_iff hsend]
    simp
  | agps2mnl m =>
    change agps2mnl m = some bs at hsend
    rw [MnlAgps.Arrives, (delivers_agps2mnl stack m).receive (by decide) hsend]
    simp

/-- mnld's acknowledgement of the settings is sent, and dropped by agpsd as an unknown type. -/
theorem mnlAgps_settingsAck_rejected :
    ∃ bs, mnl2agps (.agpsSettingsAck ⟨1, 1, 0, 0⟩) = some bs ∧
      receive mnlAgpsMaxBuffSize mnl2agpsHdlr bs = some [] := by
  obtain ⟨bs, hsend⟩ : ∃ bs, mnl2agps (.agpsSettingsAck ⟨1, 1, 0, 0⟩) = some bs := exists_send_fields _ (by decide)
  exact ⟨bs, hsend, (delivers_mnl2agps _).receive (by decide) hsend⟩

def oneByteCertificate : Mnl2Agps := .installCertificates 0 1 ⟨1, [0x30], by decide⟩

/-- It arrives. -/
theorem mnlAgps_faithful_certificate :
    ∃ bs, mnl2agps oneByteCertificate = some bs ∧
      receive mnlAgpsMaxBuffSize mnl2agpsHdlr bs = some [oneByteCertificate] := by
  obtain ⟨bs, hsend⟩ : ∃ bs, mnl2agps oneByteCertificate = some bs :=
    exists_send_fields oneByteCertificate.fields (by decide)
  exact ⟨bs, hsend, (mnlAgps_faithful_iff (.mnl2agps oneByteCertificate) (fun _ => 0) bs hsend).mpr ⟨nofun, nofun⟩⟩

end HuaweiY5.Msg
