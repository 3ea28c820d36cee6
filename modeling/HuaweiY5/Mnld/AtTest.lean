import HuaweiY5.Lib.Transducer
import Mathlib.Data.Nat.Sqrt

/-!
# `Mnld.AtTest` — the signal test of the AT commands

`AT%GPS=n` and `AT%GNSS=n` start a test of `n` samples: `Dev_CNr` is allocated for them, and from then on every
closing GSV sentence with the satellite under test takes a sample. The end of the test is looked for by
`nmea_parser_at_cmd_pre`, which every NMEA sentence calls and which counts only at the last one of a buffer, and
not in the first two seconds. A test that is started while another one runs keeps part of its counters.
-/

namespace HuaweiY5.Mnld.AtCmd

/-! ## The test -/

/-- `MNL_AT_TEST_STATE`. -/
inductive TestState
  | unknown
  | start
  | stop
  | inProgress
  | done
  | resultDone
  deriving DecidableEq

/-- The memory of `Dev_CNr`: how many ints it was allocated with, whether it is still allocated, its contents. -/
structure DevCnr where
  size : Nat
  live : Bool
  cells : Nat → Int

/-- `HAL_AT_TEST_T`. -/
structure HalTestData where
  testNum : Nat
  prnNum : Int
  timeDelay : Int
  deriving DecidableEq

/-- The static variables of the test. -/
structure AtTest where
  testFlag : Bool
  signalMode : Bool
  signalTestBegin : Bool
  state : TestState
  halTestData : HalTestData
  devCnr : Option DevCnr
  cn : Int
  result : List Int
  cNo : Int
  avgCNo : Int
  devCNo : Int
  completedNum : Nat
  successNum : Nat
  failureNum : Nat
  waitNum : Nat
  sigSucNum : Int
  errCode : Int
  testModeFlag : Bool
  startTime : Int
  prevSuccessNum : Nat

/-- What a step shows: a write `Dev_CNr[index]` with the number of ints allocated, the end-of-buffer check of a
    normal-mode test with the samples counted, the samples asked for and whether it ends the test, the driver
    started or stopped, or an answer to the command. -/
inductive Effect
  | write (index size : Nat)
  | checked (counted testNum : Nat) (stopped : Bool)
  | driver (on : Bool)
  | ack (text : String)
  deriving DecidableEq

def init : AtTest where
  testFlag := false
  signalMode := false
  signalTestBegin := false
  state := .unknown
  halTestData := ⟨0, 0, 0⟩
  devCnr := none
  cn := 0
  result := [1, 0, 0, 0, 0, 0, 0, 0]
  cNo := 0
  avgCNo := 0
  devCNo := 0
  completedNum := 0
  successNum := 0
  failureNum := 0
  waitNum := 0
  sigSucNum := 0
  errCode := 1
  testModeFlag := true
  startTime := 0
  prevSuccessNum := 0

/-- `free` of `Dev_CNr`, which keeps its value. -/
def DevCnr.free (b : DevCnr) : DevCnr := { b with live := false }

variable (s : AtTest) (now : Int) (command : List Char)

/-- `gpsinf_mtk_gps_test_stop`; `at_test2mnl_gps_stop` always succeeds. -/
def testStop : AtTest × List Effect :=
  ({ s with
      testModeFlag := true
      halTestData := ⟨0, 0, 0⟩
      testFlag := false
      signalMode := false
      state := .unknown
      signalTestBegin := false
      successNum := 0
      completedNum := 0
      waitNum := 0
      cNo := 0
      devCNo := 0
      errCode := 1
      devCnr := s.devCnr.map DevCnr.free }, [.driver false])

/-- What `gpsinf_mtk_gps_test_start` does first: a test of the SMS mode is stopped. -/
def testStopBefore : AtTest × List Effect :=
  if s.state ≠ .unknown ∧ s.testModeFlag then testStop s else (s, [])

/-- The ints `malloc(sizeof(int) * n)` gives room for: `size_t` has 32 bits in this process. -/
def intsAllocated (n : Nat) : Nat := 4 * n % UInt32.size / 4

/-- The data of a new test, and the memory for its samples. -/
def testPrepare (testNum : Nat) (prnNum timeDelay : Int) (s : AtTest) : AtTest :=
  { s with
    halTestData := ⟨testNum, prnNum, timeDelay⟩
    startTime := now
    avgCNo := 0
    devCnr := some ⟨intsAllocated testNum, true, fun _ => 0⟩ }

/-- `gpsinf_mtk_gps_test_start`, with the value returned; `at_test2mnl_gps_start` always succeeds and so does the
    allocation. -/
def testStart (testNum : Nat) (prnNum timeDelay : Int) (signal : Bool) (s : AtTest) : AtTest × Int × List Effect :=
  let r := testStopBefore s
  let s := testPrepare now testNum prnNum timeDelay r.1
  if testNum = 0 ∧ signal = false then (s, -1, r.2)
  else if signal then ({ s with signalMode := true, state := .inProgress }, 0, r.2 ++ [.driver true])
  else ({ s with testFlag := true, state := .inProgress }, 0, r.2 ++ [.driver true])

/-! ## The commands -/

/-- A byte of the command, with the `\0` that ends it. -/
def charAt (i : Nat) : Char := command.getD i (Char.ofNat 0)

def endsAt (i : Nat) : Prop := charAt command i = Char.ofNat 0
  deriving Decidable

/-- `isspace` in the C locale. -/
def isSpace (c : Char) : Bool := c = ' ' || (9 ≤ c.toNat && c.toNat ≤ 13)

/-- `strtoul` with base 10: the value, an `unsigned long` of 32 bits, and what follows the number. -/
def strtoul (text : List Char) : Nat × List Char :=
  let body := text.dropWhile isSpace
  let negative := body.head? = some '-'
  let digits := if body.head? = some '-' ∨ body.head? = some '+' then body.tail else body
  let number := digits.takeWhile Char.isDigit
  if number = [] then (0, text) else
    let value := number.foldl (fun n c => 10 * n + (c.toNat - 48)) 0
    let value :=
      if UInt32.size ≤ value then UInt32.size - 1
      else if negative then (UInt32.size - value) % UInt32.size
      else value
    (value, digits.dropWhile Char.isDigit)

def gpsOp : List Char := ['A', 'T', '%', 'G', 'P', 'S']

def gnssOp : List Char := ['A', 'T', '%', 'G', 'N', 'S', 'S']

/-- `at_command_parse_test_num`: the number as an `int`, or -1. -/
def parseTestNum : Int :=
  let r := strtoul (command.drop (if command.take 7 = gnssOp then 8 else 7))
  if r.1 ≠ 0 ∧ r.2 = [] then (BitVec.ofNat 32 r.1).toInt else -1

/-- `gpsinf_mtk_gps_test_inprogress`. -/
def testInProgress : TestState :=
  if s.state = .done ∨ s.state = .resultDone then .done
  else if s.state = .inProgress then .inProgress
  else .unknown

def resultText : String := ", ".intercalate (s.result.map toString)

/-- `at_command_send_cno`. -/
def sendCno (s : AtTest) : Effect :=
  if testInProgress s = .inProgress then .ack "GNSS Test In Progress" else
    let cno := if s.signalMode then s.cn else s.avgCNo
    if cno = 0 then .ack "0, NA" else
      let text := toString (cno.tdiv 10)
      .ack (if command.take 7 = gnssOp then text ++ ", NA" else text)

/-- `at_command_send_test_result`. -/
def sendTestResult : Effect :=
  let full := .ack ("[" ++ resultText s ++ "][0, 0, 0, 0, 0, 0, 0, 0]")
  match testInProgress s with
  | .inProgress => .ack "GNSS Test In Progress"
  | .done => full
  | _ =>
    if s.result.getD 0 0 ≠ 0 then full
    else if s.result.getD 5 0 ≠ 0 ∧ ¬(s.signalMode ∨ s.signalTestBegin) then full
    else .ack "[0, 0, 0, 0, 0, 0, 0, 0][0, 0, 0, 0, 0, 0, 0, 0]"

def gpsTestPrn : Int := 1

/-- A normal-mode test is started; `ok` and `failed` are the answers. -/
def startNormal (now testNum : Int) (ok failed : String) (s : AtTest) : AtTest × List Effect :=
  if testNum ≥ 0 then
    let r := testStart now testNum.toNat gpsTestPrn 2 false s
    (r.1, r.2.2 ++ [.ack (if r.2.1 = 0 then ok else failed)])
  else (s, [.ack "Invalid Test Num =0"])

/-- `at_gps_command_parser`, after `test_mode_flag = 0`. -/
def gpsCommand (s : AtTest) : AtTest × List Effect :=
  if charAt command 6 = '=' then
    if charAt command 7 = '?' ∧ endsAt command 8 then (s, [sendCno command s])
    else if (charAt command 7 = 'E' ∨ charAt command 7 = 'e') ∧ endsAt command 8 then (s, [])
    else if (charAt command 7 = 'D' ∨ charAt command 7 = 'd') ∧ endsAt command 8 then (s, [])
    else startNormal now (parseTestNum command) "GPS TEST START OK" "GPS ERROR" s
  else if charAt command 6 = '?' ∧ endsAt command 7 then
    match testInProgress s with
    | .inProgress => (s, [.ack "GPS Test In Progress"])
    | .done => (s, [.ack ("<" ++ resultText s ++ ">")])
    | _ => (s, [.ack "ERROR"])
  else if endsAt command 6 then (s, [sendCno command s])
  else (s, [.ack "GPS ERROR"])

/-- `AT%GNSS=S`: a test in the signal mode, or the running one changed to it. -/
def gnssSignal (s : AtTest) : AtTest × List Effect :=
  if s.testFlag = false then
    let r := testStart now 0 1 2 true s
    (r.1, r.2.2 ++ [.ack (if r.2.1 = 0 then "GNSS START START OK" else "GNSS START START FAIL")])
  else ({ s with signalMode := true, testFlag := false }, [.ack "GNSS START START OK"])

/-- `AT%GNSS=E`. -/
def gnssEnd : AtTest × List Effect :=
  if s.state = .unknown then (s, [.ack "GNSS Test is Not In Progress"]) else
    let r := testStop s
    (r.1, r.2 ++ [.ack "GNSS TEST END OK"])

/-- `AT%GNSS=n` resets the result and some of the counters. -/
def gnssReset : AtTest :=
  { s with
    result := [1, 0, 0, 0, 0, 0, 0, 0]
    avgCNo := 0
    successNum := 0
    completedNum := 0
    cNo := 0
    devCNo := 0
    cn := 0 }

/-- `AT%GNSS=n`. -/
def gnssStart (now testNum : Int) (s : AtTest) : AtTest × List Effect :=
  let s := gnssReset s
  if s.signalMode then
    if testNum ≤ 0 then
      if s.state ≠ .unknown then
        let r := testStop s
        (r.1, [.ack "Invalid Test Num = 0"] ++ r.2)
      else (s, [.ack "Invalid Test Num = 0"])
    else
      ({ s with signalTestBegin := true, state := .inProgress, startTime := now }, [.ack "GNSS TEST START OK"])
  else startNormal now testNum "GNSS TEST START OK" "GNSS ERROR" s

/-- `at_gnss_command_parser`, after `test_mode_flag = 0`. -/
def gnssCommand (s : AtTest) : AtTest × List Effect :=
  if charAt command 7 = '=' then
    if charAt command 8 = '?' ∧ endsAt command 9 then (s, [sendTestResult s])
    else if (charAt command 8 = 'S' ∨ charAt command 8 = 's') ∧ endsAt command 9 then gnssSignal now s
    else if (charAt command 8 = 'E' ∨ charAt command 8 = 'e') ∧ endsAt command 9 then gnssEnd s
    else gnssStart now (parseTestNum command) s
  else if charAt command 7 = '?' ∧ endsAt command 8 then (s, [sendTestResult s])
  else if endsAt command 7 then (s, [sendCno command s])
  else (s, [.ack "GNSS ERROR"])

def atCommandParser (s : AtTest) : AtTest × List Effect :=
  if command.take 6 = gpsOp then gpsCommand now command { s with testModeFlag := false }
  else if command.take 7 = gnssOp then gnssCommand now command { s with testModeFlag := false }
  else (s, [.ack "GPS ERROR"])

/-! ## The end-of-buffer check -/

def maxValidStatusWaitCount : Nat := 20

/-- `Failure_Num` after the check has looked for a new sample. -/
def failuresNow : Nat :=
  if s.successNum > 0 ∧ s.prevSuccessNum = s.successNum then s.failureNum + 1 else s.failureNum

/-- The check ends the test: the samples are complete, or none came for too long. -/
def testStopped : Bool :=
  if s.successNum > 0 then decide (s.successNum + failuresNow s = s.halTestData.testNum)
  else decide (s.waitNum + 1 = maxValidStatusWaitCount)

def checkCount : AtTest :=
  if s.successNum > 0 then
    { s with
      failureNum := failuresNow s
      completedNum := s.successNum + failuresNow s
      prevSuccessNum := s.successNum }
  else if s.waitNum + 1 = maxValidStatusWaitCount then
    { s with waitNum := s.waitNum + 1, errCode := 32, completedNum := 1, prevSuccessNum := s.successNum }
  else { s with waitNum := s.waitNum + 1, prevSuccessNum := s.successNum }

def report : AtTest :=
  { s with
    result := ((((s.result.set 0 s.errCode).set 3 s.successNum).set 4 s.completedNum).set 5 s.avgCNo).set 6 s.devCNo
    waitNum := 0
    state := .done
    errCode := 1 }

def check : AtTest × List Effect :=
  let shown : List Effect :=
    if s.testFlag then [.checked (s.successNum + failuresNow s) s.halTestData.testNum (testStopped s)] else []
  if testStopped s then
    let t := report (checkCount s)
    if t.testFlag then
      let r := testStop t
      ({ r.1 with failureNum := 0, prevSuccessNum := 0 }, shown ++ r.2)
    else (t, shown)
  else (checkCount s, shown)

/-- `nmea_parser_at_cmd_pre`, with `gps_nmea_end_tag`. -/
def nmeaParserAtCmdPre (endTag : Bool) (s : AtTest) : AtTest × List Effect :=
  if s.testFlag ∨ s.signalTestBegin then
    if now - s.startTime ≥ s.halTestData.timeDelay then
      if endTag then check s else (s, [])
    else (s, [])
  else (s, [])

/-! ## The sample -/

/-- `Dev_CNr[index] = value`. -/
def writeDevCnr (index : Nat) (value : Int) (s : AtTest) : AtTest × List Effect :=
  match s.devCnr with
  | some b =>
    ({ s with devCnr := some { b with cells := fun i => if i = index then value else b.cells i } },
      [.write index (if b.live then b.size else 0)])
  | none => (s, [.write index 0])

def deviation : Int :=
  let cells := (s.devCnr.map DevCnr.cells).getD fun _ => 0
  let dCNo := (List.range s.successNum).foldl (fun sum j => sum + (cells j - s.avgCNo) * (cells j - s.avgCNo)) 0
  (dCNo.tdiv s.successNum).toNat.sqrt

/-- The state after a signal of the satellite under test: read results in the signal mode. -/
def signalState : AtTest :=
  if s.signalMode = true ∧ s.signalTestBegin = false then { s with state := .inProgress }
  else if s.signalMode = true ∧ s.signalTestBegin = true then { s with state := .resultDone, sigSucNum := 1 }
  else s

def sample (snr : Int) (s : AtTest) : AtTest × List Effect :=
  let r := writeDevCnr s.successNum (snr * 10) { s with errCode := 0, cNo := s.cNo + snr * 10 }
  ({ r.1 with
      successNum := s.successNum + 1
      avgCNo := (s.cNo + snr * 10).tdiv (s.successNum + 1) }, r.2)

/-- The satellite under test is found with a signal strength. -/
def found (snr : Int) (s : AtTest) : AtTest × List Effect :=
  let r :=
    if snr ≠ 0 then
      let t := signalState s
      let r := if t.testFlag then sample snr t else (t, [])
      ({ r.1 with cn := snr * 10 }, r.2)
    else ({ s with sigSucNum := 0 }, [])
  (if r.1.successNum ≠ 0 then { r.1 with devCNo := deviation r.1 } else r.1, r.2)

/-- `gps_at_command_search_satellite` over the satellites' `prn` and `snr`. -/
def searchSatellite (svs : List (Int × Int)) (s : AtTest) : AtTest × List Effect :=
  match svs.find? fun sv => sv.1 == s.halTestData.prnNum with
  | some sv => found sv.2 s
  | none => (s, [])

/-- `gps_at_command_test_proc`. -/
def testProc (svs : List (Int × Int)) (s : AtTest) : AtTest × List Effect :=
  if s.state ≠ .done then
    if s.signalMode then
      if s.signalTestBegin then
        let r := searchSatellite svs s
        ({ r.1 with
            result := ((((r.1.result.set 0 0).set 3 r.1.sigSucNum).set 4 1).set 5 r.1.cn).set 6 0 }, r.2)
      else (s, [])
    else searchSatellite svs s
  else (s, [])

/-! ## Commands and sentences -/

/-- What a sentence does: every one makes the check first, told whether the buffer's last byte is read, and one that
    closes a set of GSV sentences then looks for a sample among the satellites' `prn` and `snr`. -/
inductive Move
  | command (now : Int) (text : List Char)
  | pre (now : Int) (endTag : Bool)
  | gsv (svs : List (Int × Int))
  deriving DecidableEq

def step : Move → AtTest × List Effect
  | .command now text => atCommandParser now text s
  | .pre now endTag => nmeaParserAtCmdPre now endTag s
  | .gsv svs => if s.testFlag ∨ s.signalMode then testProc svs s else (s, [])

def machine : Transducer AtTest Move Effect where
  init := init
  enabled := fun _ _ => True
  step := step

end HuaweiY5.Mnld.AtCmd
