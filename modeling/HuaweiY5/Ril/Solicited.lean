import HuaweiY5.Ril.EccList
import Mathlib.Data.List.FinRange

/-!
# `Ril.Solicited` — the responses `MT6735.processSolicited` finishes itself

A solicited response carries the serial of the request it answers, an error code and a payload. The override
looks at the pending request first: five kinds it finishes itself, everything else goes to the superclass with
the parcel rewound. Both decisions read `error == 0 || p.dataAvail() > 0`, so a failed response with a payload
is treated like a good one: `solicited_sound_iff` says for which tables and parcels that loses the error, and
for which the request is popped and then never finished.
-/

namespace HuaweiY5.Ril

open JavaString

/-! ## Requests, responses and the framework -/

/-- The request codes `processSolicited` tells apart; `other` is every code it does not mention. -/
inductive RequestCode
  | emergencyDial | setEccServiceCategory | dataRegistrationState | setupDataCall | allowData | getSimStatus
  | other (request : Int)
deriving DecidableEq

def RequestCode.interested : RequestCode → Bool
  | .emergencyDial | .setEccServiceCategory | .dataRegistrationState | .setupDataCall | .allowData => true
  | .getSimStatus | .other _ => false

/-- An `android.os.Message`, by identity. -/
structure Message where
  id : Nat
deriving DecidableEq

/-- `RILRequest`: a request that waits for its response. -/
structure PendingRequest where
  mSerial : Int
  mRequest : RequestCode
  mResult : Option Message
deriving DecidableEq

/-- `DataCallResponse`, as far as it is read here. -/
structure DataCallResponse where
  status : Int
  cid : Int
deriving DecidableEq

/-- What a result message carries besides the exception. -/
inductive Ret
  | null
  | strings (response : List (Option JString))
  | dataCall (response : DataCallResponse)
deriving DecidableEq

/-- A solicited response: the two words read first, and the payload behind them. -/
structure Solicited (P : Type) where
  serial : Int
  error : Int
  payload : P

/-- The framework's readers of a payload; a `null` result is `none`. -/
structure ParcelReader (P : Type) where
  dataAvail : P → Nat
  readStringArray : P → Except Throwable (Option (List (Option JString)))
  responseSetupDataCall : P → Except Throwable (Option DataCallResponse)
  propValueMax : Nat

/-- The state of the class: the requests by serial, the context ids by slot, and the properties. -/
structure RilState where
  mRequestList : Int → Option PendingRequest
  dataCallCids : Fin 5 → Int
  props : Properties

/-- `AsyncResult.forMessage` followed by `sendToTarget`. -/
structure AsyncResult where
  message : Message
  result : Ret
  exception : Option Throwable
deriving DecidableEq

/-- How `processSolicited` ends. -/
inductive Outcome
  | returned (rr : Option PendingRequest)
  | delegated
  | thrown (thr : Throwable)
deriving DecidableEq

structure Processed where
  state : RilState
  sent : List AsyncResult
  notifiedVoiceNetworkState : Bool
  outcome : Outcome

/-! ## The code -/

/-- The first `i < 4` with `dataCallCids[i] < 0`; the array has a fifth slot that no loop reaches. -/
def firstFree (dataCallCids : Fin 5 → Int) : Option (Fin 4) :=
  (List.finRange 4).find? fun i => dataCallCids i.castSucc < 0

/-- The first free slot gets a context id that is not negative. -/
def claimCid (dataCallCids : Fin 5 → Int) (cid : Int) : Fin 5 → Int :=
  if 0 ≤ cid then
    match firstFree dataCallCids with
    | some i => Function.update dataCallCids i.castSucc cid
    | none => dataCallCids
  else dataCallCids

/-- `refreshEmergencyList`; `mEccList` is set by the constructor. -/
def refreshEmergencyList (propValueMax : Nat) (customized : List EccEntry) (props : Properties) :
    Properties × Option Throwable :=
  updateEmergencyNumbersProperty propValueMax customized props

section Parcel

variable {P : Type} (fw : ParcelReader P)

def fixupPSBearerDataRegistration (p : P) : Except Throwable Ret :=
  match fw.readStringArray p with
  | .error thr => .error thr
  | .ok none => .error .nullPointer
  | .ok (some response) =>
    match response[3]? with
    | some (some tech) =>
      match parseInt tech with
      | none => .error .numberFormat
      -- extended values >= RIL_RADIO_TECHNOLOGY_MTK (128) == HSPAP (15)
      | some n => .ok (.strings (if 128 ≤ n then response.set 3 (some "15".toList) else response))
    | _ => .ok (.strings response)

/-- `fetchCidFromDataCall`: the result, and the slots after it. -/
def fetchCidFromDataCall (dataCallCids : Fin 5 → Int) (p : P) : Except Throwable (Ret × (Fin 5 → Int)) :=
  match fw.responseSetupDataCall p with
  | .error thr => .error thr
  | .ok none => .error .nullPointer
  | .ok (some ret) => .ok (.dataCall ret, claimCid dataCallCids ret.cid)

/-- The `switch` on the request that was popped. -/
def readResponse (dataCallCids : Fin 5 → Int) (p : P) : RequestCode → Except Throwable (Ret × (Fin 5 → Int))
  | .emergencyDial | .setEccServiceCategory | .allowData => .ok (.null, dataCallCids)
  | .dataRegistrationState => (fixupPSBearerDataRegistration fw p).map fun ret => (ret, dataCallCids)
  | .setupDataCall => fetchCidFromDataCall fw dataCallCids p
  | .getSimStatus | .other _ => .error .shouldNotBeHere

/-- What the look at the pending request decides. -/
inductive PreProcessed
  | ours
  | goUp
  | caught (tr : PendingRequest) (thr : Throwable)

def preProcess (customized : List EccEntry) (s : RilState) (p : Solicited P) : Properties × PreProcessed :=
  match s.mRequestList p.serial with
  | none => (s.props, .goUp)
  | some tr =>
    if tr.mSerial = p.serial ∧ (p.error = 0 ∨ 0 < fw.dataAvail p.payload) then
      match tr.mRequest with
      | .emergencyDial | .setEccServiceCategory | .dataRegistrationState | .setupDataCall | .allowData =>
        (s.props, .ours)
      -- vendor ril refreshes the properties while generating this answer. Do our own updates afterwards
      | .getSimStatus =>
        match refreshEmergencyList fw.propValueMax customized s.props with
        | (props, some thr) => (props, .caught tr thr)
        | (props, none) => (props, .goUp)
      | .other _ => (s.props, .goUp)
    else (s.props, .goUp)

def PendingRequest.deliver (rr : PendingRequest) (ret : Ret) (exception : Option Throwable) : List AsyncResult :=
  rr.mResult.toList.map fun message => ⟨message, ret, exception⟩

def processSolicited (customized : List EccEntry) (s : RilState) (p : Solicited P) : Processed :=
  let (props, pre) := preProcess fw customized s p
  let s := { s with props := props }
  match pre with
  | .caught tr thr => ⟨s, tr.deliver .null (some thr), false, .returned (some tr)⟩
  | .goUp => ⟨s, [], false, .delegated⟩
  | .ours =>
    match s.mRequestList p.serial with
    | none => ⟨s, [], false, .returned none⟩
    | some rr =>
      -- findAndRemoveRequestFromList
      let s := { s with mRequestList := Function.update s.mRequestList p.serial none }
      if p.error = 0 ∨ 0 < fw.dataAvail p.payload then
        match readResponse fw s.dataCallCids p.payload rr.mRequest with
        | .error thr => ⟨s, [], false, .thrown thr⟩
        | .ok (ret, dataCallCids) =>
          ⟨{ s with dataCallCids := dataCallCids }, rr.deliver ret none, rr.mRequest == .allowData,
            .returned (some rr)⟩
      else ⟨s, rr.deliver .null none, false, .returned (some rr)⟩

end Parcel

/-! ## What a call does, by the pending request -/

section Cases

variable {P : Type} {fw : ParcelReader P} {customized : List EccEntry} {s : RilState} {p : Solicited P}
  {tr : PendingRequest} {max : Nat} {props : Properties}

/-- The response answers a request that the class finishes itself, with something to read in it. -/
structure Ours (fw : ParcelReader P) (s : RilState) (p : Solicited P) (tr : PendingRequest) : Prop where
  pending : s.mRequestList p.serial = some tr
  serial : tr.mSerial = p.serial
  interested : tr.mRequest.interested = true
  toRead : p.error = 0 ∨ 0 < fw.dataAvail p.payload

theorem preProcess_of_ours (h : Ours fw s p tr) : preProcess fw customized s p = (s.props, .ours) := by
  obtain ⟨hpending, hserial, hint, hread⟩ := h
  simp only [preProcess, hpending, hserial, hread]
  cases hreq : tr.mRequest with
  | getSimStatus | other _ => rw [hreq] at hint; cases hint
  | _ => rfl

theorem processSolicited_of_ours (customized : List EccEntry) (h : Ours fw s p tr) :
    processSolicited fw customized s p =
      let s' := { s with mRequestList := Function.update s.mRequestList p.serial none }
      match readResponse fw s.dataCallCids p.payload tr.mRequest with
      | .error thr => ⟨s', [], false, .thrown thr⟩
      | .ok (ret, dataCallCids) =>
        ⟨{ s' with dataCallCids := dataCallCids }, tr.deliver ret none, tr.mRequest == .allowData,
          .returned (some tr)⟩ := by
  simp [processSolicited, preProcess_of_ours h, h.pending, h.toRead]

/-- Every other response is either finished with the exception that the refresh threw, or left to the
    superclass; the pending requests stay. -/
theorem processSolicited_of_not_ours (customized : List EccEntry) (h : ∀ tr, ¬Ours fw s p tr) :
    let r := processSolicited fw customized s p
    (r.outcome = .delegated ∧ r.sent = []) ∨
      ∃ tr thr, s.mRequestList p.serial = some tr ∧ tr.mRequest = .getSimStatus ∧
        r.outcome = .returned (some tr) ∧ r.sent = tr.deliver .null (some thr) := by
  have hpre : (preProcess fw customized s p).2 = .goUp ∨ ∃ tr thr, s.mRequestList p.serial = some tr ∧
      tr.mRequest = .getSimStatus ∧ (preProcess fw customized s p).2 = .caught tr thr := by
    cases hpending : s.mRequestList p.serial with
    | none => left; simp only [preProcess, hpending]
    | some tr =>
      by_cases hguard : tr.mSerial = p.serial ∧ (p.error = 0 ∨ 0 < fw.dataAvail p.payload)
      · simp only [preProcess, hpending, hguard]
        cases hreq : tr.mRequest with
        | other _ => exact .inl rfl
        | getSimStatus =>
          rcases refreshEmergencyList fw.propValueMax customized s.props with ⟨props, _ | thr⟩
          · exact .inl rfl
          · exact .inr ⟨tr, thr, rfl, hreq, rfl⟩
        | _ => exact absurd ⟨hpending, hguard.1, by rw [hreq]; rfl, hguard.2⟩ (h tr)
      · simp [preProcess, hpending, hguard]
  rcases hpre with hup | ⟨tr, thr, hpending, hreq, hcaught⟩
  · left
    simp [processSolicited, hup]
  · refine .inr ⟨tr, thr, hpending, hreq, ?_, ?_⟩ <;> simp only [processSolicited, hcaught]

/-! ## Errors reach the requester, and every response is finished once -/

/-- The payload is one that the reader for the request takes. -/
def Readable (fw : ParcelReader P) (p : P) : RequestCode → Prop
  | .dataRegistrationState => ∃ response, fw.readStringArray p = .ok (some response) ∧
      ∀ tech, response[3]? = some (some tech) → parseInt tech ≠ none
  | .setupDataCall => ∃ response, fw.responseSetupDataCall p = .ok (some response)
  | _ => True

theorem fixupPSBearerDataRegistration_isOk {p : P} :
    (∃ ret, fixupPSBearerDataRegistration fw p = .ok ret) ↔ Readable fw p .dataRegistrationState := by
  simp only [fixupPSBearerDataRegistration, Readable]
  cases fw.readStringArray p with
  | error thr => simp
  | ok response? =>
    cases response? with
    | none => simp
    | some response =>
      simp only [Except.ok.injEq, Option.some.injEq, exists_eq_left']
      cases hthree : response[3]? with
      | none => simp
      | some tech? =>
        cases tech? with
        | none => simp
        | some tech => cases hparse : parseInt tech <;> simp [hparse]

theorem fetchCidFromDataCall_isOk {p : P} {cids : Fin 5 → Int} :
    (∃ x, fetchCidFromDataCall fw cids p = .ok x) ↔ Readable fw p .setupDataCall := by
  simp only [fetchCidFromDataCall, Readable]
  cases fw.responseSetupDataCall p with
  | error thr => simp
  | ok response? => cases response? <;> simp

theorem readResponse_isOk {p : P} (cids : Fin 5 → Int) {request : RequestCode}
    (h : request.interested = true) :
    (∃ x, readResponse fw cids p request = .ok x) ↔ Readable fw p request := by
  cases request with
  | getSimStatus | other _ => cases h
  | dataRegistrationState =>
    rw [← fixupPSBearerDataRegistration_isOk]
    simp only [readResponse]
    cases fixupPSBearerDataRegistration fw p <;> simp [Except.map]
  | setupDataCall => exact fetchCidFromDataCall_isOk
  | emergencyDial | setEccServiceCategory | allowData => simp [readResponse, Readable]

/-- No result message of a failed request is sent without an exception. -/
def ErrorReported (s : RilState) (p : Solicited P) (r : Processed) : Prop :=
  ∀ tr, s.mRequestList p.serial = some tr → p.error ≠ 0 → ∀ a ∈ r.sent, a.exception ≠ none

/-- The response is finished once: by the superclass alone, or here, with the request's message sent once. -/
def FinishedOnce (s : RilState) (p : Solicited P) (r : Processed) : Prop :=
  (r.outcome = .delegated ∧ r.sent = []) ∨
    ∃ tr, s.mRequestList p.serial = some tr ∧ r.outcome = .returned (some tr) ∧
      r.sent.map (·.message) = tr.mResult.toList

theorem deliver_messages {ret : Ret} {exception : Option Throwable} :
    (tr.deliver ret exception).map (·.message) = tr.mResult.toList := by
  simp [PendingRequest.deliver, Function.comp_def]

theorem mem_deliver {ret : Ret} {exception : Option Throwable} {a : AsyncResult}
    (h : a ∈ tr.deliver ret exception) : tr.mResult = some a.message ∧ a.exception = exception := by
  simp only [PendingRequest.deliver, List.mem_map, Option.mem_toList] at h
  obtain ⟨message, hmessage, rfl⟩ := h
  exact ⟨hmessage, rfl⟩

/-- The two properties hold of a response to a request of the class's own exactly when the payload is
    readable and nobody waits for the error that is lost. -/
theorem sound_of_ours (h : Ours fw s p tr) :
    ErrorReported s p (processSolicited fw customized s p) ∧ FinishedOnce s p (processSolicited fw customized s p) ↔
      Readable fw p.payload tr.mRequest ∧ (p.error ≠ 0 → tr.mResult = none) := by
  have hr := processSolicited_of_ours customized h
  generalize processSolicited fw customized s p = r at hr ⊢
  rw [← readResponse_isOk s.dataCallCids h.interested]
  cases hread : readResponse fw s.dataCallCids p.payload tr.mRequest with
  | error thr =>
    -- popped, and the exception leaves the method
    simp only [hread] at hr
    simp [hr, FinishedOnce]
  | ok x =>
    simp only [hread] at hr
    have hfin : FinishedOnce s p r := .inr ⟨tr, h.pending, by rw [hr], by rw [hr, deliver_messages]⟩
    have hsent : r.sent = tr.deliver x.1 none := by rw [hr]
    simp only [hfin, and_true, Except.ok.injEq, exists_eq', true_and]
    constructor
    · intro hrep herr
      cases hres : tr.mResult with
      | none => rfl
      | some message =>
        refine absurd rfl (hrep tr h.pending herr ⟨message, x.1, none⟩ ?_)
        rw [hsent]
        simp [PendingRequest.deliver, hres]
    · intro hnone _ _ herr a ha
      rw [hsent] at ha
      have hsome := (mem_deliver ha).1
      rw [hnone herr] at hsome
      cases hsome

/-- **Solicited responses.** For every table of pending requests and every response, errors reach the
    requester and the response is finished exactly once if and only if, whenever the class finishes the pending
    request itself, the payload is readable and a failed request has no message that waits for its error. -/
theorem solicited_sound_iff (fw : ParcelReader P) (customized : List EccEntry) (s : RilState)
    (p : Solicited P) :
    ErrorReported s p (processSolicited fw customized s p) ∧ FinishedOnce s p (processSolicited fw customized s p) ↔
      ∀ tr, s.mRequestList p.serial = some tr → tr.mSerial = p.serial → tr.mRequest.interested = true →
        (p.error = 0 ∨ 0 < fw.dataAvail p.payload) →
        Readable fw p.payload tr.mRequest ∧ (p.error ≠ 0 → tr.mResult = none) := by
  by_cases hours : ∃ tr, Ours fw s p tr
  · obtain ⟨tr, h⟩ := hours
    rw [sound_of_ours h]
    constructor
    · intro hgood tr' hpending _ _ _
      obtain rfl : tr = tr' := Option.some.inj (h.pending.symm.trans hpending)
      exact hgood
    · intro hall
      exact hall tr h.pending h.serial h.interested h.toRead
  · have hnot : ∀ tr, ¬Ours fw s p tr := fun tr h => hours ⟨tr, h⟩
    refine iff_of_true ?_ fun tr hp hs hi hr => absurd ⟨hp, hs, hi, hr⟩ (hnot tr)
    rcases processSolicited_of_not_ours customized hnot with
      ⟨hout, hsent⟩ | ⟨tr, thr, hpending, -, hout, hsent⟩
    · exact ⟨fun _ _ _ a ha => by simp [hsent] at ha, .inl ⟨hout, hsent⟩⟩
    · refine ⟨fun _ _ _ a ha => ?_, .inr ⟨tr, hpending, hout, by rw [hsent, deliver_messages]⟩⟩
      rw [hsent] at ha
      rw [(mem_deliver ha).2]
      exact Option.some_ne_none thr

end Cases

/-- A framework to compute with: the payload is what the readers return. -/
def plainParcel : ParcelReader (Nat × List (Option JString) × DataCallResponse) where
  dataAvail p := p.1
  readStringArray p := .ok (some p.2.1)
  responseSetupDataCall p := .ok (some p.2.2)
  propValueMax := 91

def oneRequest (mRequest : RequestCode) : RilState where
  mRequestList serial := if serial = 7 then some ⟨7, mRequest, some ⟨1⟩⟩ else none
  dataCallCids := fun _ => -1
  props := ⟨[], [], []⟩

/-- A data call that failed with code 2 is reported to its requester without an exception, and a data
    registration whose fourth string is `x` is popped and never finished. -/
theorem solicited_loses_error :
    (processSolicited plainParcel [] (oneRequest .setupDataCall) ⟨7, 2, (4, [], ⟨2, -1⟩)⟩).sent =
        [⟨⟨1⟩, .dataCall ⟨2, -1⟩, none⟩] ∧
      (processSolicited plainParcel [] (oneRequest .dataRegistrationState)
          ⟨7, 0, (4, [none, none, none, some ['x']], ⟨0, 0⟩)⟩).outcome = .thrown .numberFormat ∧
      (processSolicited plainParcel [] (oneRequest .dataRegistrationState)
          ⟨7, 0, (4, [none, none, none, some ['x']], ⟨0, 0⟩)⟩).sent = [] := by
  decide

end HuaweiY5.Ril
