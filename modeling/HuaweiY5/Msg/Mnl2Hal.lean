import HuaweiY5.Msg.Hal2Mnl

/-!
# `Msg.Mnl2Hal` — the messages from mnld to the GPS HAL

The senders `mnl2hal_*` of mnld (`mnl2hal_interface.c`) copy structures of `hal_mnl_interface_common.h` into the
datagram as they are in memory, and `mnl2hal_hdlr` of the HAL (`hal2mnl_interface.c`) copies them out into its own
structures of the same name. mnld is built for 32 bits only (`LOCAL_MULTILIB := 32`), the HAL for the primary
architecture of the device, which is arm64. The structures with a `size_t` or a pointer are not the same there, and
a pointer is of no use in another process. `mnl2hal_faithful_iff` says which calls arrive, for a HAL of either kind.
-/

namespace HuaweiY5.Msg

open List Codec CLayout

/-! ## The structures of `hal_mnl_interface_common.h` -/

/-- `gps_location`: flags, lat, lng, alt, speed, bearing, accuracy, timestamp. -/
def gpsLocation : Layout := struct [int, double, double, double, float, float, float, int64]

/-- `gnss_sv`: svid, constellation, c_n0_dbhz, elevation, azimuth, flags. -/
def gnssSv : Layout := struct [short, char, float, float, float, char]

/-- `gnss_sv_info`, with `GNSS_MAX_SVS` satellites. -/
def gnssSvInfo : Layout := struct [int, array 64 gnssSv]

/-- `gps_clock`: flags, leap_second, type, time_ns, time_uncertainty_ns, full_bias_ns, bias_ns, bias_uncertainty_ns,
    drift_nsps, drift_uncertainty_nsps. -/
def gpsClock : Layout := struct [short, short, char, int64, double, int64, double, double, double, double]

/-- `gnss_clock`: flags, leap_second, time_ns, time_uncertainty_ns, full_bias_ns, bias_ns, bias_uncertainty_ns,
    drift_nsps, drift_uncertainty_nsps, hw_clock_discontinuity_count. -/
def gnssClock : Layout := struct [short, short, int64, double, int64, double, double, double, double, int]

def gpsMeasurement : Layout :=
  struct [
    -- flags, prn, time_offset_ns, state, received_gps_tow_ns, received_gps_tow_uncertainty_ns
    int, char, double, short, int64, int64,
    -- c_n0_dbhz, pseudorange_rate_mps, pseudorange_rate_uncertainty_mps
    double, double, double,
    -- accumulated_delta_range_{state, m, uncertainty_m}, pseudorange_{m, uncertainty_m}
    short, double, double, double, double,
    -- code_phase_{chips, uncertainty_chips}
    double, double,
    -- carrier_frequency_hz, carrier_cycles, carrier_phase, carrier_phase_uncertainty
    float, int64, double, double,
    -- loss_of_lock, bit_number, time_from_last_bit_ms, doppler_shift_hz, doppler_shift_uncertainty_hz
    char, int, short, double, double,
    -- multipath_indicator, snr_db, elevation_deg, its uncertainty, azimuth_deg, its uncertainty, used_in_fix
    char, double, double, double, double, double, bool]

def gnssMeasurement : Layout :=
  struct [
    -- flags, svid, constellation, time_offset_ns, state
    int, short, char, double, int,
    -- received_sv_time_in_ns, received_sv_time_uncertainty_in_ns
    int64, int64,
    -- c_n0_dbhz, pseudorange_rate_mps, pseudorange_rate_uncertainty_mps
    double, double, double,
    -- accumulated_delta_range_{state, m, uncertainty_m}
    short, double, double,
    -- carrier_frequency_hz, carrier_cycles, carrier_phase, carrier_phase_uncertainty
    float, int64, double, double,
    -- multipath_indicator, snr_db
    char, double]

variable (abi : Abi)

/-- `gps_data`: measurement_count, measurements, clock. -/
def gpsData : Layout := struct [sizeT abi, array 32 gpsMeasurement, gpsClock]

/-- `gnss_data`: measurement_count, measurements, clock. -/
def gnssData : Layout := struct [sizeT abi, array 64 gnssMeasurement, gnssClock]

/-- `gps_nav_msg`: prn, type, status, message_id, submessage_id, data_length, data. -/
def gpsNavMsg : Layout := struct [char, char, short, short, short, sizeT abi, array 40 char]

/-- `gnss_nav_msg`: size, svid, type, status, message_id, submessage_id, data_length, data. -/
def gnssNavMsg : Layout := struct [sizeT abi, short, short, short, short, short, sizeT abi, pointer abi]

def mnldAbi : Abi := .ilp32

theorem gpsData_size : (gpsData abi).size = 7752 := by cases abi <;> decide +kernel

theorem gnssData_size : (gnssData abi).size = 8784 := by cases abi <;> decide +kernel

theorem gpsNavMsg_size_le : (gpsNavMsg mnldAbi).size ≤ (gpsNavMsg abi).size := by
  cases abi <;> decide

theorem gnssNavMsg_size_le : (gnssNavMsg mnldAbi).size ≤ (gnssNavMsg abi).size := by
  cases abi <;> decide

theorem gpsData_size_lt : (gpsData mnldAbi).size < intEnd := by rw [gpsData_size]; decide

theorem gnssData_size_lt : (gnssData mnldAbi).size < intEnd := by rw [gnssData_size]; decide

/-- The field `data_length` among the scalars of a `gnss_nav_msg`. -/
def gnssNavMsgDataLength (msg : List Nat) : Nat := msg.getD 6 0

/-- The field `data` among the scalars of a `gnss_nav_msg`. -/
def gnssNavMsgData (msg : List Nat) : Nat := msg.getD 7 0

/-- A `gnss_nav_msg` of mnld, with the bytes its field `data` points to. -/
structure GnssNavMsg where
  image : Image (gnssNavMsg mnldAbi)
  data : List Byte
  sized : data.length = gnssNavMsgDataLength ((gnssNavMsg mnldAbi).value image.1)

/-! ## The interface -/

inductive Mnl2HalCmd
  | mnldReboot
  | location
  | gpsStatus
  | gpsSv
  | nmea
  | gpsCapabilities
  | gpsMeasurements
  | gpsNavigation
  | gnssMeasurements
  | gnssNavigation
  | requestWakelock
  | releaseWakelock
  | requestUtcTime
  | requestDataConn
  | releaseDataConn
  | requestNiNotify
  | requestSetId
  | requestRefLoc
deriving DecidableEq

namespace Mnl2HalCmd

def code : Mnl2HalCmd → BitVec 32
  | mnldReboot => 1
  | location => 101
  | gpsStatus => 102
  | gpsSv => 103
  | nmea => 104
  | gpsCapabilities => 105
  | gpsMeasurements => 106
  | gpsNavigation => 107
  | gnssMeasurements => 108
  | gnssNavigation => 109
  | requestWakelock => 201
  | releaseWakelock => 202
  | requestUtcTime => 301
  | requestDataConn => 302
  | releaseDataConn => 303
  | requestNiNotify => 304
  | requestSetId => 305
  | requestRefLoc => 306

/-- The cases of the `switch`. -/
def all : List Mnl2HalCmd :=
  [mnldReboot, location, gpsStatus, gpsSv, nmea, gpsCapabilities, gpsMeasurements, gpsNavigation,
    gnssMeasurements, gnssNavigation, requestWakelock, releaseWakelock, requestUtcTime, requestDataConn,
    releaseDataConn, requestNiNotify, requestSetId, requestRefLoc]

theorem find_code (c : Mnl2HalCmd) : (all.find? fun c' => c'.code = c.code) = some c := by
  cases c <;> decide

end Mnl2HalCmd

inductive Mnl2Hal
  | mnldReboot
  | location (location : Image gpsLocation)
  | gpsStatus (status : Image int)
  | gpsSv (sv : Image gnssSvInfo)
  | nmea (timestamp : BitVec 64) (nmea : Option CString) (length : BitVec 32)
  | gpsCapabilities (capabilities : Image int)
  | gpsMeasurements (data : Image (gpsData mnldAbi))
  | gpsNavigation (msg : Image (gpsNavMsg mnldAbi))
  | gnssMeasurements (data : Image (gnssData mnldAbi))
  | gnssNavigation (msg : GnssNavMsg)
  | requestWakelock
  | releaseWakelock
  | requestUtcTime
  | requestDataConn (addr : Image sockaddrStorage)
  | releaseDataConn
  | requestNiNotify (sessionId type : BitVec 32) (requestorId clientName : Option CString)
      (requestorIdEncoding clientNameEncoding : BitVec 32)
  | requestSetId (flags : BitVec 32)
  | requestRefLoc (flags : BitVec 32)

/-- A call of a callback; a structure is its scalars, and what its pointer points to. -/
inductive Mnl2HalCall
  | mnldReboot
  | location (location : List Nat)
  | gpsStatus (status : List Nat)
  | gpsSv (sv : List Nat)
  | nmea (timestamp : BitVec 64) (nmea : Option CString) (length : BitVec 32)
  | gpsCapabilities (capabilities : List Nat)
  | gpsMeasurements (data : List Nat)
  | gpsNavigation (msg : List Nat)
  | gnssMeasurements (data : List Nat)
  | gnssNavigation (msg : List Nat) (data : List Byte)
  | requestWakelock
  | releaseWakelock
  | requestUtcTime
  | requestDataConn (addr : List Nat)
  | releaseDataConn
  | requestNiNotify (sessionId type : BitVec 32) (requestorId clientName : Option CString)
      (requestorIdEncoding clientNameEncoding : BitVec 32)
  | requestSetId (flags : BitVec 32)
  | requestRefLoc (flags : BitVec 32)
deriving DecidableEq

namespace Mnl2Hal

def cmd : Mnl2Hal → Mnl2HalCmd
  | mnldReboot => .mnldReboot
  | location _ => .location
  | gpsStatus _ => .gpsStatus
  | gpsSv _ => .gpsSv
  | nmea .. => .nmea
  | gpsCapabilities _ => .gpsCapabilities
  | gpsMeasurements _ => .gpsMeasurements
  | gpsNavigation _ => .gpsNavigation
  | gnssMeasurements _ => .gnssMeasurements
  | gnssNavigation _ => .gnssNavigation
  | requestWakelock => .requestWakelock
  | releaseWakelock => .releaseWakelock
  | requestUtcTime => .requestUtcTime
  | requestDataConn _ => .requestDataConn
  | releaseDataConn => .releaseDataConn
  | requestNiNotify .. => .requestNiNotify
  | requestSetId _ => .requestSetId
  | requestRefLoc _ => .requestRefLoc

/-- The fields a sender writes behind the version and the command. -/
def putArgs : Mnl2Hal → List Put
  | mnldReboot | requestWakelock | releaseWakelock | requestUtcTime | releaseDataConn => []
  | location loc => [putStruct loc (by decide)]
  | gpsStatus status => [putStruct status (by decide)]
  | gpsSv sv => [putStruct sv (by decide)]
  | nmea timestamp text length => [putLong timestamp, putString text, putInt length]
  | gpsCapabilities capabilities => [putStruct capabilities (by decide)]
  | gpsMeasurements data => [putStruct data gpsData_size_lt]
  | gpsNavigation msg => [putStruct msg (by decide)]
  | gnssMeasurements data => [putStruct data gnssData_size_lt]
  | gnssNavigation msg => [putStruct msg.image (by decide)]
  | requestDataConn addr => [putStruct addr (by decide)]
  | requestNiNotify sessionId type requestorId clientName requestorIdEncoding clientNameEncoding =>
    [putInt sessionId, putInt type, putString requestorId, putString clientName, putInt requestorIdEncoding,
      putInt clientNameEncoding]
  | requestSetId flags | requestRefLoc flags => [putInt flags]

def put (m : Mnl2Hal) : Put := .all (putInt halMnlInterfaceVersion :: putInt m.cmd.code :: m.putArgs)

/-- The call of the callback of the same operation, with the arguments of the sender. -/
def call : Mnl2Hal → Mnl2HalCall
  | mnldReboot => .mnldReboot
  | location loc => .location (gpsLocation.value loc.1)
  | gpsStatus status => .gpsStatus (int.value status.1)
  | gpsSv sv => .gpsSv (gnssSvInfo.value sv.1)
  | nmea timestamp text length => .nmea timestamp text length
  | gpsCapabilities capabilities => .gpsCapabilities (int.value capabilities.1)
  | gpsMeasurements data => .gpsMeasurements ((gpsData mnldAbi).value data.1)
  | gpsNavigation msg => .gpsNavigation ((gpsNavMsg mnldAbi).value msg.1)
  | gnssMeasurements data => .gnssMeasurements ((gnssData mnldAbi).value data.1)
  | gnssNavigation msg => .gnssNavigation ((gnssNavMsg mnldAbi).value msg.image.1) msg.data
  | requestWakelock => .requestWakelock
  | releaseWakelock => .releaseWakelock
  | requestUtcTime => .requestUtcTime
  | requestDataConn addr => .requestDataConn (sockaddrStorage.value addr.1)
  | releaseDataConn => .releaseDataConn
  | requestNiNotify sessionId type requestorId clientName requestorIdEncoding clientNameEncoding =>
    .requestNiNotify sessionId type requestorId clientName requestorIdEncoding clientNameEncoding
  | requestSetId flags => .requestSetId flags
  | requestRefLoc flags => .requestRefLoc flags

end Mnl2Hal

/-- `mnl2hal_*`: the datagram handed to `safe_sendto`, if the encoding fits the buffer. -/
def mnl2hal (m : Mnl2Hal) : Option (List Byte) := send halMnlBuffSize m.put

/-- The process of the HAL: its data model, what its stack holds where a variable is not initialised, and its
    memory. -/
structure HalProcess where
  abi : Abi
  stack : Nat → Byte
  memory : Nat → Byte

/-- What the process finds behind the pointer of a `gnss_nav_msg`. -/
def HalProcess.gnssNavMsgBytes (hal : HalProcess) (msg : List Nat) : List Byte :=
  (List.range (gnssNavMsgDataLength msg)).map fun i => hal.memory (gnssNavMsgData msg + i)

/-- The static variables `count` and `report_time_interval`. -/
structure Throttle where
  count : Float32
  reportTimeInterval : Float32

/-- The cases of `mnl2hal_hdlr`. -/
def Mnl2HalCmd.hdlr (hal : HalProcess) (t : Throttle) : Mnl2HalCmd → Get (Handled Mnl2HalCall × Throttle)
  | .mnldReboot => pure (.call .mnldReboot, t)
  | .location =>
    if t.reportTimeInterval > t.count + 1 then pure (⟨[], 0⟩, { t with count := t.count + 1 })
    else do
      let location ← getStruct hal.stack gpsLocation
      pure (.call (.location location), { t with count := 0 })
  | .gpsStatus => do
    let status ← getStruct hal.stack int
    pure (.call (.gpsStatus status), t)
  | .gpsSv => do
    let sv ← getStruct hal.stack gnssSvInfo
    pure (.call (.gpsSv sv), t)
  | .nmea => do
    let timestamp ← getLong
    let nmea ← getString
    let length ← getInt
    pure (.call (.nmea timestamp nmea length), t)
  | .gpsCapabilities => do
    let capabilities ← getStruct hal.stack int
    pure (.call (.gpsCapabilities capabilities), t)
  | .gpsMeasurements => do
    let data ← getStruct hal.stack (gpsData hal.abi)
    pure (.call (.gpsMeasurements data), t)
  | .gpsNavigation => do
    let msg ← getStruct hal.stack (gpsNavMsg hal.abi)
    pure (.call (.gpsNavigation msg), t)
  | .gnssMeasurements => do
    let data ← getStruct hal.stack (gnssData hal.abi)
    pure (.call (.gnssMeasurements data), t)
  | .gnssNavigation => do
    let msg ← getStruct hal.stack (gnssNavMsg hal.abi)
    pure (.call (.gnssNavigation msg (hal.gnssNavMsgBytes msg)), t)
  | .requestWakelock => pure (.call .requestWakelock, t)
  | .releaseWakelock => pure (.call .releaseWakelock, t)
  | .requestUtcTime => pure (.call .requestUtcTime, t)
  | .requestDataConn => do
    let addr ← getStruct hal.stack sockaddrStorage
    pure (.call (.requestDataConn addr), t)
  | .releaseDataConn => pure (.call .releaseDataConn, t)
  | .requestNiNotify => do
    let sessionId ← getInt
    let type ← getInt
    let requestorId ← getString
    let clientName ← getString
    let requestorIdEncoding ← getInt
    let clientNameEncoding ← getInt
    pure (.call (.requestNiNotify sessionId type requestorId clientName requestorIdEncoding clientNameEncoding), t)
  | .requestSetId => do
    let flags ← getInt
    pure (.call (.requestSetId flags), t)
  | .requestRefLoc => do
    let flags ← getInt
    pure (.call (.requestRefLoc flags), t)

/-- `mnl2hal_hdlr`, on the receive buffer. -/
def mnl2halHdlr (hal : HalProcess) (t : Throttle) : Get (Handled Mnl2HalCall × Throttle) := do
  let _ver ← getInt
  let cmd ← getInt
  switch Mnl2HalCmd.code Mnl2HalCmd.all (Mnl2HalCmd.hdlr hal t) (.unknown, t) cmd

/-! ## What the handler makes of a message -/

namespace Mnl2Hal

/-- The call the HAL makes of a message: the structures that depend on the data model are read with its own. -/
def received (hal : HalProcess) : Mnl2Hal → Mnl2HalCall
  | gpsMeasurements data => .gpsMeasurements ((gpsData hal.abi).value data.1)
  | gnssMeasurements data => .gnssMeasurements ((gnssData hal.abi).value data.1)
  | gpsNavigation msg =>
    .gpsNavigation ((gpsNavMsg hal.abi).value (overwrite hal.stack (gpsNavMsg hal.abi).size msg.1))
  | gnssNavigation msg =>
    let fields := (gnssNavMsg hal.abi).value (overwrite hal.stack (gnssNavMsg hal.abi).size msg.image.1)
    .gnssNavigation fields (hal.gnssNavMsgBytes fields)
  | m => m.call

/-- What the handler does: it drops a location inside the report interval, and passes on everything else. -/
def handled (hal : HalProcess) (t : Throttle) : Mnl2Hal → Handled Mnl2HalCall × Throttle
  | location loc =>
    if t.reportTimeInterval > t.count + 1 then (⟨[], 0⟩, { t with count := t.count + 1 })
    else (.call (location loc).call, { t with count := 0 })
  | m => (.call (m.received hal), t)

end Mnl2Hal

theorem delivers_mnl2hal_args (hal : HalProcess) (t : Throttle) (m : Mnl2Hal) :
    Delivers (.all m.putArgs) (m.cmd.hdlr hal t) (some (m.handled hal t)) := by
  cases m with
  | mnldReboot | requestWakelock | releaseWakelock | requestUtcTime | releaseDataConn =>
    exact Link.delivers <| .nil rfl
  | location loc =>
    simp only [Mnl2Hal.handled, Mnl2Hal.cmd, Mnl2HalCmd.hdlr]
    split
    · -- the structure stays in the buffer
      obtain ⟨bs, -, hbs⟩ := writes_binary (structBinary loc (by decide))
      exact Delivers.ignore (hbs.cons writes_nil) _
    · exact Link.delivers <| (link_struct_self hal.stack loc _).cons <| .nil rfl
  | gpsStatus status => exact Link.delivers <| (link_struct_self hal.stack status _).cons <| .nil rfl
  | gpsSv sv => exact Link.delivers <| (link_struct_self hal.stack sv _).cons <| .nil rfl
  | nmea timestamp text length => exact Link.delivers <| (link_long _).cons <| cons_string <| cons_int <| .nil rfl
  | gpsCapabilities capabilities =>
    exact Link.delivers <| (link_struct_self hal.stack capabilities _).cons <| .nil rfl
  | gpsMeasurements data =>
    have hlink := link_struct hal.stack data gpsData_size_lt (gpsData hal.abi) (by rw [gpsData_size, gpsData_size])
    rw [overwrite_of_length_eq (by rw [data.2, gpsData_size, gpsData_size])] at hlink
    exact Link.delivers <| hlink.cons <| .nil rfl
  | gnssMeasurements data =>
    have hlink := link_struct hal.stack data gnssData_size_lt (gnssData hal.abi)
      (by rw [gnssData_size, gnssData_size])
    rw [overwrite_of_length_eq (by rw [data.2, gnssData_size, gnssData_size])] at hlink
    exact Link.delivers <| hlink.cons <| .nil rfl
  | gpsNavigation msg =>
    exact Link.delivers <| (link_struct hal.stack msg _ _ (gpsNavMsg_size_le hal.abi)).cons <| .nil rfl
  | gnssNavigation msg =>
    exact Link.delivers <| (link_struct hal.stack msg.image _ _ (gnssNavMsg_size_le hal.abi)).cons <| .nil rfl
  | requestDataConn addr => exact Link.delivers <| (link_struct_self hal.stack addr _).cons <| .nil rfl
  | requestNiNotify sessionId type requestorId clientName requestorIdEncoding clientNameEncoding =>
    exact Link.delivers <| cons_int <| cons_int <| cons_string <| cons_string <| cons_int <| cons_int <| .nil rfl
  | requestSetId flags | requestRefLoc flags => exact Link.delivers <| cons_int <| .nil rfl

theorem delivers_mnl2hal (hal : HalProcess) (t : Throttle) (m : Mnl2Hal) :
    Delivers m.put (mnl2halHdlr hal t) (some (m.handled hal t)) :=
  Delivers.cons (link_int _) (delivers_switch m.cmd.find_code (delivers_mnl2hal_args hal t m))

/-! ## Which messages arrive -/

/-- The message was passed on: the callback of the operation, once and with the arguments of the sender, or else a
    location that fell into the report interval. -/
def Mnl2Hal.PassedOn (m : Mnl2Hal) (t : Throttle) (result : Option (Handled Mnl2HalCall × Throttle)) : Prop :=
  result.map Prod.fst = some ⟨[m.call], 0⟩ ∨
    (∃ loc, m = .location loc) ∧ t.reportTimeInterval > t.count + 1 ∧ result.map Prod.fst = some ⟨[], 0⟩

theorem passedOn_handled_iff (hal : HalProcess) (t : Throttle) (m : Mnl2Hal) :
    m.PassedOn t (some (m.handled hal t)) ↔ m.received hal = m.call := by
  cases m with
  | location loc =>
    refine iff_of_true ?_ rfl
    simp only [Mnl2Hal.handled]
    split
    · rename_i hinside
      exact Or.inr ⟨⟨loc, rfl⟩, hinside, rfl⟩
    · exact Or.inl rfl
  | _ => simp [Mnl2Hal.PassedOn, Mnl2Hal.handled, Handled.call]

variable (abi : Abi) (msg : GnssNavMsg)

theorem gpsData_value_iff (bs : List Byte) :
    (gpsData abi).value bs = (gpsData mnldAbi).value bs ↔ abi = .ilp32 ∨ ∀ b ∈ (bs.drop 4).take 4, b = 0 :=
  value_sizeT_cons_iff (by decide) _ abi bs

theorem gnssData_value_iff (bs : List Byte) :
    (gnssData abi).value bs = (gnssData mnldAbi).value bs ↔ abi = .ilp32 ∨ ∀ b ∈ (bs.drop 4).take 4, b = 0 :=
  value_sizeT_cons_iff (by decide) _ abi bs

theorem gpsNavMsg_garbage (msg : Image (gpsNavMsg mnldAbi)) :
    ∃ garbage : Nat → Byte, (gpsNavMsg .lp64).value (overwrite garbage (gpsNavMsg .lp64).size msg.1) ≠
      (gpsNavMsg mnldAbi).value msg.1 := by
  have hbyte : ∃ b : Byte, littleEndian [b] ≠ (Leaf.mk 51 1).read msg.1 := by
    by_cases hzero : (Leaf.mk 51 1).read msg.1 = 0
    · exact ⟨1, by rw [hzero]; decide⟩
    · exact ⟨0, Ne.symm hzero⟩
  obtain ⟨b, hb⟩ := hbyte
  refine ⟨fun _ => b, fun heq => hb ?_⟩
  have hlast : (Leaf.mk 55 1).read (overwrite (fun _ => b) (gpsNavMsg .lp64).size msg.1) =
      (Leaf.mk 51 1).read msg.1 := read_last_eq (by decide) (by decide) heq
  rw [read_overwrite_const (by rw [msg.2]; decide) (by decide)] at hlast
  exact hlast

theorem gnssNavMsg_garbage (msg : Image (gnssNavMsg mnldAbi)) :
    ∃ garbage : Nat → Byte, (gnssNavMsg .lp64).value (overwrite garbage (gnssNavMsg .lp64).size msg.1) ≠
      (gnssNavMsg mnldAbi).value msg.1 := by
  refine ⟨fun _ => 0xff, fun heq => ?_⟩
  have hlast : (Leaf.mk 32 8).read (overwrite (fun _ => 0xff) (gnssNavMsg .lp64).size msg.1) =
      (Leaf.mk 20 4).read msg.1 := read_last_eq (by decide) (by decide) heq
  rw [read_overwrite_const (by rw [msg.2]; decide) (by decide)] at hlast
  -- no 32-bit pointer has that value
  have hlt := (Leaf.mk 20 4).read_lt msg.1
  rw [← hlast] at hlt
  exact absurd hlt (by decide)

/-- What the HAL finds behind the pointer is what mnld put there for every memory of the HAL if and only if it is
    nothing. -/
theorem gnssNavMsgBytes_iff (stack : Nat → Byte) :
    (∀ memory : Nat → Byte, HalProcess.gnssNavMsgBytes ⟨.ilp32, stack, memory⟩
      ((gnssNavMsg mnldAbi).value msg.image.1) = msg.data) ↔ msg.data = [] := by
  simp only [HalProcess.gnssNavMsgBytes, ← msg.sized]
  constructor
  · intro h
    cases hdata : msg.data with
    | nil => rfl
    | cons b bs =>
      -- a memory that is filled with another byte
      have hne : ∀ b : Byte, b + 1 ≠ b := by decide
      have hbytes := h fun _ => b + 1
      rw [hdata, length_cons, range_succ_eq_map] at hbytes
      exact absurd (cons_eq_cons.mp hbytes).1 (hne b)
  · intro h memory
    rw [h]
    rfl

/-- The argument means the same to a HAL of a data model: its structure has no `size_t`, or one that is as wide there,
    or one that stands alone in an aligned word whose upper half, padding for mnld, is zero; and what has a pointer
    points to nothing. -/
def Mnl2Hal.Portable : Mnl2Hal → Prop
  | gpsMeasurements data | gnssMeasurements data => abi = .ilp32 ∨ ∀ b ∈ (data.1.drop 4).take 4, b = 0
  | gpsNavigation _ => abi = .ilp32
  | gnssNavigation msg => abi = .ilp32 ∧ msg.data = []
  | _ => True

theorem received_gpsNavigation_iff (msg : Image (gpsNavMsg mnldAbi)) :
    (∀ hal : HalProcess, hal.abi = abi →
      (Mnl2Hal.gpsNavigation msg).received hal = (Mnl2Hal.gpsNavigation msg).call) ↔ abi = .ilp32 := by
  simp only [Mnl2Hal.received, Mnl2Hal.call, Mnl2HalCall.gpsNavigation.injEq]
  cases abi with
  | ilp32 =>
    refine iff_of_true ?_ rfl
    rintro ⟨_, stack, memory⟩ rfl
    exact congrArg _ (overwrite_of_length_eq msg.2)
  | lp64 =>
    obtain ⟨garbage, hne⟩ := gpsNavMsg_garbage msg
    exact iff_of_false (fun h => hne (h ⟨.lp64, garbage, fun _ => 0⟩ rfl)) nofun

theorem received_gnssNavigation_iff :
    (∀ hal : HalProcess, hal.abi = abi →
      (Mnl2Hal.gnssNavigation msg).received hal = (Mnl2Hal.gnssNavigation msg).call) ↔
        abi = .ilp32 ∧ msg.data = [] := by
  simp only [Mnl2Hal.received, Mnl2Hal.call, Mnl2HalCall.gnssNavigation.injEq]
  cases abi with
  | ilp32 =>
    have hfields (stack : Nat → Byte) : (gnssNavMsg .ilp32).value
        (overwrite stack (gnssNavMsg .ilp32).size msg.image.1) = (gnssNavMsg mnldAbi).value msg.image.1 :=
      congrArg _ (overwrite_of_length_eq msg.image.2)
    rw [and_iff_right rfl, ← gnssNavMsgBytes_iff msg fun _ => 0]
    constructor
    · intro h memory
      have hdata := (h ⟨.ilp32, fun _ => 0, memory⟩ rfl).2
      rwa [hfields] at hdata
    · rintro h ⟨_, stack, memory⟩ rfl
      rw [hfields]
      exact ⟨rfl, h memory⟩
  | lp64 =>
    obtain ⟨garbage, hne⟩ := gnssNavMsg_garbage msg.image
    exact iff_of_false (fun h => hne (h ⟨.lp64, garbage, fun _ => 0⟩ rfl).1) nofun

theorem received_iff (m : Mnl2Hal) :
    (∀ hal : HalProcess, hal.abi = abi → m.received hal = m.call) ↔ m.Portable abi := by
  have hinhabited (P : Abi → Prop) : (∀ hal : HalProcess, hal.abi = abi → P hal.abi) ↔ P abi :=
    ⟨fun h => h ⟨abi, fun _ => 0, fun _ => 0⟩ rfl, fun h hal heq => heq ▸ h⟩
  cases m with
  | gpsMeasurements data =>
    simp only [Mnl2Hal.received, Mnl2Hal.call, Mnl2HalCall.gpsMeasurements.injEq, gpsData_value_iff]
    exact hinhabited fun abi => abi = .ilp32 ∨ _
  | gnssMeasurements data =>
    simp only [Mnl2Hal.received, Mnl2Hal.call, Mnl2HalCall.gnssMeasurements.injEq, gnssData_value_iff]
    exact hinhabited fun abi => abi = .ilp32 ∨ _
  | gpsNavigation msg => exact received_gpsNavigation_iff abi msg
  | gnssNavigation msg => exact received_gnssNavigation_iff abi msg
  | _ => exact iff_of_true (fun _ _ => rfl) trivial

/-- **mnld's messages arrive.** Whatever the stack and the memory of a HAL of a data model hold, the handler invokes
    the callback of the same operation, once and with equal arguments, but for a location inside the report
    interval, if and only if the argument of the message is portable to that data model. -/
theorem mnl2hal_faithful_iff (abi : Abi) (t : Throttle) (m : Mnl2Hal) (datagram : List Byte)
    (hsend : mnl2hal m = some datagram) :
    (∀ hal : HalProcess, hal.abi = abi →
      m.PassedOn t (receive halMnlBuffSize (mnl2halHdlr hal t) datagram)) ↔ m.Portable abi := by
  rw [← received_iff]
  refine forall₂_congr fun hal _ => ?_
  rw [(delivers_mnl2hal hal t m).receive (by decide) hsend, passedOn_handled_iff]

theorem exists_send_struct (cmd : Mnl2HalCmd) {l : Layout} (x : Image l) (h : l.size < intEnd)
    (hfits : 12 + l.size ≤ halMnlBuffSize) :
    ∃ datagram, send halMnlBuffSize (.all [putInt halMnlInterfaceVersion, putInt cmd.code, putStruct x h]) =
      some datagram :=
  exists_send_fields [.int halMnlInterfaceVersion, .int cmd.code, .binary (structBinary x h)]
    (by simp only [List.map, sum_cons, sum_nil, Field.size, structBinary_length]; omega)

theorem exists_mnl2hal_gnssNavigation : ∃ datagram, mnl2hal (.gnssNavigation msg) = some datagram :=
  exists_send_struct .gnssNavigation msg.image _ (by decide)

theorem exists_mnl2hal_gpsMeasurements (data : Image (gpsData mnldAbi)) :
    ∃ datagram, mnl2hal (.gpsMeasurements data) = some datagram :=
  exists_send_struct .gpsMeasurements data _ (by rw [gpsData_size]; decide)

def oneByteNavMsg : GnssNavMsg where
  image := ⟨[24, 0, 0, 0, 7, 0, 1, 1, 1, 0, 2, 0, 3, 0, 0, 0, 1, 0, 0, 0, 0, 0x10, 0, 0], by decide⟩
  data := [0x8b]
  sized := by decide

/-- A navigation message of mnld with one byte of data is sent, and a HAL of either data model passes on something
    else. -/
theorem mnl2hal_gnssNavigation_garbled :
    ∃ datagram, mnl2hal (.gnssNavigation oneByteNavMsg) = some datagram ∧
      ∀ (abi : Abi) (t : Throttle), ¬(Mnl2Hal.gnssNavigation oneByteNavMsg).PassedOn t
        (receive halMnlBuffSize (mnl2halHdlr ⟨abi, fun _ => 0, fun _ => 0⟩ t) datagram) := by
  obtain ⟨datagram, hsend⟩ := exists_mnl2hal_gnssNavigation oneByteNavMsg
  refine ⟨datagram, hsend, fun abi t => ?_⟩
  rw [(delivers_mnl2hal _ t _).receive (by decide) hsend, passedOn_handled_iff]
  cases abi <;> decide

/-- One measurement of satellite 5: its count, the padding behind that, the flags and the prn; all else is zero. -/
def oneGpsData : Image (gpsData mnldAbi) :=
  ⟨[1, 0, 0, 0, 0, 0, 0, 0, 2, 0, 0, 0, 5] ++ List.replicate 7739 0, by
    rw [length_append, length_replicate, gpsData_size]; rfl⟩

/-- It arrives at a 64-bit HAL. -/
theorem mnl2hal_faithful_measurements :
    ∃ datagram, mnl2hal (.gpsMeasurements oneGpsData) = some datagram ∧
      ∀ (t : Throttle) (hal : HalProcess), hal.abi = .lp64 →
        (Mnl2Hal.gpsMeasurements oneGpsData).PassedOn t
          (receive halMnlBuffSize (mnl2halHdlr hal t) datagram) := by
  obtain ⟨datagram, hsend⟩ := exists_mnl2hal_gpsMeasurements oneGpsData
  refine ⟨datagram, hsend, fun t => (mnl2hal_faithful_iff .lp64 t _ datagram hsend).mpr (Or.inr ?_)⟩
  decide

end HuaweiY5.Msg
