import HuaweiY5.Mnld.EpoDownload
import HuaweiY5.Mnld.GpsCalendar

/-!
# `Mnld.Qepo` — the quarter files of `qepo.c`

A QEPO file has the satellites' orbits for a quarter of a day. `qepo_file_update_impl` requests the one for the time
of the request, `gps_time.tow`, and tries again as long as the file it gets is not for that time. What it learns from
a file of another day it keeps for the next attempt in two static variables: `pre_day` if the file begins 18 hours later
or more, so that the server is a day ahead, and `server_not_updated` if it is a day old. Only a later file that is read
and not valid changes them. A call that gives up, and one that succeeds, leaves them to the next call, whose first file
is then chosen by the time of another request.
-/

namespace HuaweiY5.Mnld.Qepo

open Codec (Byte)
open Transducer (Admissible Entry entry_out)
open Nmea (Tm)

/-! ## The downloader -/

/-- `gps_time`. Its `sys_time` is not read. -/
structure GpsTime where
  wn : Int
  tow : Int

/-- An answer of `curl_easy_download`: the `CURLcode`, and what is in the file then, if it could be opened. -/
structure Answer where
  res : Int
  written : Option (List Byte)

structure Server where
  getEpoUrl : String → String → Option String
  curlEasyDownload : String → Answer

/-- The static variables, and the file QEPOHAL.DAT. -/
structure Statics where
  preDay : Bool
  serverNotUpdated : Bool
  qepoRes : Int
  counter : Nat
  fileName : String
  mdFileName : String
  quarterFile : Option (List Byte)

/-- The static variables as they are initialised, and no file. -/
def Statics.init : Statics where
  preDay := false
  serverNotUpdated := false
  qepoRes := 0
  counter := 1
  fileName := ""
  mdFileName := ""
  quarterFile := none

/-- `gps_download_quarter_epo_file_name`; the names are the same for both values of `gps_epo_type`. -/
def gpsDownloadQuarterEpoFileName (count : Nat) (s : Statics) : Statics :=
  if 1 ≤ count ∧ count ≤ 5 then
    { s with
      fileName := "QG_R_" ++ toString count ++ ".DAT"
      mdFileName := "QG_R_" ++ toString count ++ ".MD5" }
  else s

/-- `curl_easy_download_quarter_epo`: the requests for the MD5 file and for the file itself. -/
def curlEasyDownloadQuarterEpo (sv : Server) (s : Statics) : Statics :=
  match sv.getEpoUrl s.mdFileName (requestKey noKey s.counter) with
  | none => s
  | some mdUrl =>
    let md := sv.curlEasyDownload mdUrl
    let key := if md.res = 0 then md.written.elim noKey mdKey else noKey
    let counter := if md.res = 0 then 1 else s.counter + 1
    match sv.getEpoUrl s.fileName (requestKey key counter) with
    | none => { s with counter := counter }
    | some url =>
      let answer := sv.curlEasyDownload url
      { s with
        qepoRes := answer.res
        counter := if answer.res = 0 then 1 else counter + 1
        quarterFile := answer.written <|> s.quarterFile }

/-- The `index` of `quarter_epo_download_process`, by the statics and the time of the week. -/
def quarterIndex (s : Statics) (tow : Int) : Nat :=
  let secofDay := tow.tmod 86400
  let index :=
    if 300 < secofDay ∧ secofDay ≤ 21900 then 1
    else if 21900 < secofDay ∧ secofDay ≤ 43500 then 2
    else if 43500 < secofDay ∧ secofDay ≤ 65100 then 3
    else if 65100 < secofDay ∧ secofDay ≤ 85500 then 4
    else if secofDay ≤ 300 ∨ 85500 < secofDay then
      if s.serverNotUpdated then 4 else 5
    else 1
  if s.preDay then 5 else index

def quarterEpoDownloadProcess (time : GpsTime) (sv : Server) (s : Statics) : Statics :=
  curlEasyDownloadQuarterEpo sv (gpsDownloadQuarterEpoFileName (quarterIndex s time.tow) s)

variable (mktime : Tm → Int)

/-- `is_quarter_epo_valid`, with whether it returns `EPO_DOWNLOAD_RESULT_SUCCESS`. -/
def isQuarterEpoValid (time : GpsTime) (s : Statics) : Statics × Bool :=
  match s.quarterFile.bind (dataStart mktime) with
  | none => (s, false)
  | some start =>
    let mnlTime := mktime (brokenDownInt time.wn time.tow)
    if start ≤ mnlTime ∧ mnlTime < 6 * 60 * 60 + start then (s, true)
    else
      ({ s with
        preDay := decide (18 * 60 * 60 + mnlTime ≤ start)
        serverNotUpdated := decide (24 * 60 * 60 + start ≤ mnlTime) }, false)

/-- What a round of `qepo_file_update_impl`, a download and the check of it, finds outside. -/
structure Round where
  time : GpsTime
  server : Server
  timeMeanwhile : GpsTime
  networkConnected : Bool

/-- The rounds of a call; it takes as many as it needs, at most eleven. -/
abbrev Call := Nat → Round

/-- The `while` loop, entered after the download of round `k`: the statics, whether the file is valid, and the indices
    requested on the way. -/
def retry (mktime : Tm → Int) (call : Call) : Nat → Nat → Statics → Statics × Bool × List Nat
  | tryTime, k, s =>
    match isQuarterEpoValid mktime (call k).timeMeanwhile s with
    | (s, true) => (s, true, [])
    | (s, false) =>
      match tryTime with
      | 0 => (s, false, [])
      | tryTime + 1 =>
        if (call k).networkConnected then
          let index := quarterIndex s (call (k + 1)).time.tow
          let r := retry mktime call tryTime (k + 1)
            (quarterEpoDownloadProcess (call (k + 1)).time (call (k + 1)).server s)
          (r.1, r.2.1, index :: r.2.2)
        else (s, false, [])

/-- `qepo_file_update_impl`: the statics, what it returns, and the indices of the files requested. -/
def qepoFileUpdateImpl (call : Call) (s : Statics) : Statics × Bool × List Nat :=
  let r := retry mktime call 10 0 (quarterEpoDownloadProcess (call 0).time (call 0).server s)
  -- `CURLE_RECV_ERROR`
  let after := if r.1.serverNotUpdated then { r.1 with qepoRes := 56 } else r.1
  (after, r.2.1, quarterIndex s (call 0).time.tow :: r.2.2)

/-- The calls one after the other; what is sent are the indices of the files requested. -/
def machine : Transducer Statics Call Nat where
  init := .init
  enabled := fun _ _ => True
  step := fun s call => ((qepoFileUpdateImpl mktime call s).1, (qepoFileUpdateImpl mktime call s).2.2)

/-! ## The first file -/

/-- A time within a few minutes of midnight, for which the file of the next day is requested. -/
def NearMidnight (tow : Int) : Prop := tow.tmod 86400 ≤ 300 ∨ 85500 < tow.tmod 86400
  deriving Decidable

/-- The statics do not matter for this time: `pre_day` is set only where it asks for the file that is asked for anyway,
    and `server_not_updated` only where it is not looked at. -/
def Unaffected (s : Statics) (tow : Int) : Prop :=
  (s.preDay = true → NearMidnight tow) ∧ (s.serverNotUpdated = true → NearMidnight tow → s.preDay = true)
  deriving Decidable

variable {tow : Int} {s : Statics}

theorem quarterIndex_init_eq_five : quarterIndex .init tow = 5 ↔ NearMidnight tow := by
  unfold quarterIndex NearMidnight Statics.init
  simp only [Bool.false_eq_true, if_false]
  split_ifs <;> omega

theorem quarterIndex_of_preDay (h : s.preDay = true) : quarterIndex s tow = 5 := by
  simp [quarterIndex, h]

theorem quarterIndex_of_not_nearMidnight (h : s.preDay = false) (haway : ¬NearMidnight tow) :
    quarterIndex s tow = quarterIndex .init tow := by
  unfold NearMidnight at haway
  simp [quarterIndex, Statics.init, h, if_neg haway]

theorem quarterIndex_of_nearMidnight (h : s.preDay = false) (hnear : NearMidnight tow) :
    quarterIndex s tow = if s.serverNotUpdated then 4 else 5 := by
  unfold NearMidnight at hnear
  simp only [quarterIndex, h, Bool.false_eq_true, if_false]
  rw [if_neg (by omega), if_neg (by omega), if_neg (by omega), if_neg (by omega), if_pos hnear]

/-- **The index is that of the time** exactly where the statics do not matter for it. -/
theorem quarterIndex_eq_iff : quarterIndex s tow = quarterIndex .init tow ↔ Unaffected s tow := by
  unfold Unaffected
  cases hpre : s.preDay with
  | true =>
    rw [quarterIndex_of_preDay hpre, eq_comm, quarterIndex_init_eq_five]
    simp
  | false =>
    by_cases hnear : NearMidnight tow
    · rw [quarterIndex_of_nearMidnight hpre hnear, quarterIndex_init_eq_five.mpr hnear]
      cases s.serverNotUpdated with
      | true => simp [hnear]
      | false => simp
    · simp [quarterIndex_of_not_nearMidnight hpre hnear, hnear]

variable (mktime : Tm → Int)

theorem head_out (s : Statics) (call : Call) :
    ((machine mktime).out s call).head? = some (quarterIndex s (call 0).time.tow) := rfl

/-! ## Calls after any history -/

/-- **The time alone decides** which file this call requests first: any call with the same `gps_time.tow` and nothing
    before it requests the same. -/
def TowDecides (x : Entry Statics Call Nat) : Prop :=
  ∀ call : Call, (call 0).time.tow = (x.event 0).time.tow → x.out.head? = ((machine mktime).out .init call).head?

theorem towDecides_iff {mktime : Tm → Int} {call : Call} :
    TowDecides mktime ((machine mktime).entry s call) ↔ Unaffected s (call 0).time.tow := by
  rw [← quarterIndex_eq_iff]
  constructor
  · intro h
    have hsame := h call rfl
    exact Option.some.inj hsame
  · intro h other htow
    rw [Transducer.entry_event] at htow
    rw [entry_out, head_out, head_out, htow, h]

/-- **Requests are independent** in a run exactly if at each of them the statics left by the calls before do not matter
    for its time. -/
theorem qepo_requests_independent_iff (mktime : Tm → Int) {tr : List (Entry Statics Call Nat)} {s : Statics}
    (hrun : (machine mktime).Run tr s) :
    (∀ x ∈ tr, TowDecides mktime x) ↔ ∀ x ∈ tr, Unaffected x.pre (x.event 0).time.tow := by
  apply hrun.outputs_iff (I := fun _ => True) (C := fun x => Unaffected x.pre (x.event 0).time.tow) trivial
  · intro s call _ _
    exact towDecides_iff
  · intro s call _ _ _
    trivial

/-! ## The flags a history leaves

The flags say how far the last file read that was not valid was from its time. -/

/-- `pre_day` and `server_not_updated`. -/
def Statics.flags (s : Statics) : Bool × Bool := (s.preDay, s.serverNotUpdated)

/-- A file that was read and not valid: when it begins, and the time it was checked for. -/
structure OffFile where
  start : Int
  time : Int

/-- The flags such a file leaves: it begins 18 hours later or more, or it is a day old. -/
def OffFile.flags (f : OffFile) : Bool × Bool :=
  (decide (18 * 60 * 60 + f.time ≤ f.start), decide (24 * 60 * 60 + f.start ≤ f.time))

/-- The flags after some files that were not valid. -/
def flagsAfter (before : Bool × Bool) (offs : List OffFile) : Bool × Bool := (offs.getLast?.map OffFile.flags).getD before

/-- The file of a check, if it is read and not valid. -/
def checkedOff (time : GpsTime) (s : Statics) : List OffFile :=
  match s.quarterFile.bind (dataStart mktime) with
  | none => []
  | some start =>
    let mnlTime := mktime (brokenDownInt time.wn time.tow)
    if start ≤ mnlTime ∧ mnlTime < 6 * 60 * 60 + start then [] else [⟨start, mnlTime⟩]

/-- The files of the loop that are read and not valid. -/
def retryOffs (mktime : Tm → Int) (call : Call) : Nat → Nat → Statics → List OffFile
  | tryTime, k, s =>
    checkedOff mktime (call k).timeMeanwhile s ++
      match isQuarterEpoValid mktime (call k).timeMeanwhile s with
      | (_, true) => []
      | (s, false) =>
        match tryTime with
        | 0 => []
        | tryTime + 1 =>
          if (call k).networkConnected then
            retryOffs mktime call tryTime (k + 1)
              (quarterEpoDownloadProcess (call (k + 1)).time (call (k + 1)).server s)
          else []

/-- The files of a call that are read and not valid. -/
def callOffs (x : Entry Statics Call Nat) : List OffFile :=
  retryOffs mktime x.event 10 0 (quarterEpoDownloadProcess (x.event 0).time (x.event 0).server x.pre)

theorem flagsAfter_append (before : Bool × Bool) (offs offs' : List OffFile) :
    flagsAfter before (offs ++ offs') = flagsAfter (flagsAfter before offs) offs' := by
  unfold flagsAfter
  rw [List.getLast?_append]
  cases offs'.getLast? with
  | none | some f => rfl

theorem quarterEpoDownloadProcess_flags (time : GpsTime) (sv : Server) (s : Statics) :
    (quarterEpoDownloadProcess time sv s).flags = s.flags := by
  have hname : (gpsDownloadQuarterEpoFileName (quarterIndex s time.tow) s).flags = s.flags := by
    unfold gpsDownloadQuarterEpoFileName
    split <;> rfl
  rw [← hname]
  unfold quarterEpoDownloadProcess curlEasyDownloadQuarterEpo
  split
  · rfl
  · dsimp only
    split <;> rfl

theorem isQuarterEpoValid_flags (time : GpsTime) (s : Statics) :
    (isQuarterEpoValid mktime time s).1.flags = flagsAfter s.flags (checkedOff mktime time s) := by
  unfold isQuarterEpoValid checkedOff
  cases s.quarterFile.bind (dataStart mktime) with
  | none => rfl
  | some start =>
    dsimp only
    split <;> rfl

theorem retry_flags (call : Call) (tryTime k : Nat) (s : Statics) :
    (retry mktime call tryTime k s).1.flags = flagsAfter s.flags (retryOffs mktime call tryTime k s) := by
  have hcheck := isQuarterEpoValid_flags mktime (call k).timeMeanwhile s
  unfold retry retryOffs
  generalize isQuarterEpoValid mktime (call k).timeMeanwhile s = checked at hcheck ⊢
  rcases checked with ⟨s', _ | _⟩
  · dsimp only at hcheck ⊢
    rw [flagsAfter_append, ← hcheck]
    cases tryTime with
    | zero => rfl
    | succ tryTime =>
      dsimp only
      split
      · rw [retry_flags call tryTime, quarterEpoDownloadProcess_flags]
      · rfl
  · simpa using hcheck

/-- **Which histories leave which flags**: those of the last file of all calls that was read and not valid, and none if
    there was no such file. -/
theorem flags_of_run {tr : List (Entry Statics Call Nat)} {s : Statics}
    (hrun : (machine mktime).Run tr s) : s.flags = flagsAfter (false, false) (tr.flatMap (callOffs mktime)) := by
  refine hrun.invariant_along (I := fun tr s => s.flags = flagsAfter (false, false) (tr.flatMap (callOffs mktime)))
    (C := fun _ => True) rfl ?_ (fun _ _ => trivial)
  intro tr s call h _ _
  rw [List.flatMap_append, List.flatMap_singleton, flagsAfter_append, ← h]
  have hcall := retry_flags mktime call 10 0 (quarterEpoDownloadProcess (call 0).time (call 0).server s)
  rw [quarterEpoDownloadProcess_flags] at hcall
  refine Eq.trans ?_ hcall
  -- `CURLE_RECV_ERROR` is stored in another variable
  show (if _ then _ else _ : Statics).flags = _
  split <;> rfl

/-! ### A server that is a day ahead -/

/-- `mktime` as far as January 1980 goes. -/
def januaryMktime (t : Tm) : Int := ((t.mday * 24 + t.hour) * 60 + t.min) * 60 + t.sec

/-- A file of one record, for the six hours from an hour of GPS time on. -/
def fileFrom (hours : Nat) : List Byte := BitVec.ofNat 8 hours :: List.replicate 71 0

def serving (content : List Byte) : Server where
  getEpoUrl := fun name _ => some name
  curlEasyDownload := fun _ => ⟨0, some content⟩

/-- A call at a time of week 0, which gets this file, and finds the network gone if it is not valid. -/
def callAt (tow : Int) (hours : Nat) : Call := fun _ => ⟨⟨0, tow⟩, serving (fileFrom hours), ⟨0, tow⟩, false⟩

/-- At 00:16 and at 08:20 the server has the files of the time, and the requests are independent. -/
theorem qepo_requests_independent_iff_served :
    let calls := [callAt 1000 0, callAt 30000 6]
    let h := (machine januaryMktime).exec calls
    (machine januaryMktime).Run h.1 h.2 ∧ h.1.map Entry.out = [[1], [2]] ∧ ∀ x ∈ h.1, TowDecides januaryMktime x := by
  intro calls h
  have hrun : (machine januaryMktime).Run h.1 h.2 :=
    (machine januaryMktime).run_exec (Admissible.of_forall (fun _ _ => trivial) _ _)
  refine ⟨hrun, by decide +kernel, (qepo_requests_independent_iff januaryMktime hrun).mpr ?_⟩
  exact (machine januaryMktime).exec_along (C := fun s call => Unaffected s (call 0).time.tow)
    (of_decide_eq_true (by decide +kernel))

/-- At 23:55 the server has the file of the day after the next, and the network goes. The next day at 10:00, for which a
    first call requests file 2, file 5 is requested. -/
theorem qepo_request_after_pre_day :
    let calls := [callAt 86100 48, callAt 122400 30]
    let h := (machine januaryMktime).exec calls
    (machine januaryMktime).Run h.1 h.2 ∧ h.1.map Entry.out = [[5], [5]] ∧
      (machine januaryMktime).out .init (callAt 122400 30) = [2] ∧ ¬∀ x ∈ h.1, TowDecides januaryMktime x := by
  intro calls h
  have hrun : (machine januaryMktime).Run h.1 h.2 :=
    (machine januaryMktime).run_exec (Admissible.of_forall (fun _ _ => trivial) _ _)
  have hout : h.1.map Entry.out = [[5], [5]] := by decide +kernel
  have hfirst : (machine januaryMktime).out .init (callAt 122400 30) = [2] := by decide +kernel
  refine ⟨hrun, hout, hfirst, fun hall => ?_⟩
  -- the second call asks for file 5, and the same call after no other for file 2
  have hlast := hall _ (List.mem_cons_of_mem _ (List.mem_cons_self)) (callAt 122400 30) rfl
  exact absurd hlast (by decide +kernel)

end HuaweiY5.Mnld.Qepo
