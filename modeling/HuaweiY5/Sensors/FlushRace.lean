import HuaweiY5.Lib.Transducer
import HuaweiY5.Sensors.ReadEvents

/-!
# `Sensors.FlushRace` — flush calls and the scan that answers them

Without a batch driver, `flush(handle)` counts a request and raises `mHasPendingEvent`, and the poll thread's
`readEvents` scans the requests and takes the flag back at the end. The two run on different threads without
a lock. Here every statement is a step of its own, and the threads' steps come in any order.
-/

namespace HuaweiY5.Sensors

open Transducer (Entry outs run_exec)

/-! ## The statements of the two threads -/

inductive FlushPc
  | idle
  | count (handle : Int)
  | raise (handle : Int)
  | leave
  deriving DecidableEq

/-- The local variables of `readEvents`. -/
structure Scan where
  handle : Int
  count : Int
  numEventReceived : Int
  deriving DecidableEq

/-- Where the poll thread is: at the test of the loop over the handles, at that of the loop over a handle's
    requests, at one of that loop's statements, at `handle++`, at the test after the loops, at the statement
    that takes the flag back, or at the return. -/
inductive ReadPc
  | idle
  | handles (l : Scan)
  | requests (l : Scan)
  | stamp (l : Scan)
  | process (l : Scan)
  | store (l : Scan)
  | received (l : Scan)
  | slot (l : Scan)
  | answered (l : Scan)
  | next (l : Scan)
  | check (l : Scan)
  | clear (l : Scan)
  | leave (l : Scan)
  deriving DecidableEq

structure FlushRace where
  sensor : BatchSensor
  flusher : FlushPc
  poller : ReadPc

/-- A step: a call on one of the threads, or a statement of one; the clock is read by the time stamp only. -/
inductive RaceMove
  | flush (handle : Int)
  | flusher
  | readEvents (count : Int)
  | poller (now : Int)
  deriving DecidableEq

namespace FlushRace

def start (mDataDiv : Int → Int) : FlushRace := ⟨.new false mDataDiv, .idle, .idle⟩

/-- A statement of `flush`. -/
def flusherStep (b : BatchSensor) : FlushPc → BatchSensor × FlushPc
  | .idle => (b, .idle)
  | .count h => ({ b with flushSensorReq := Function.update b.flushSensorReq h (b.flushSensorReq h + 1) }, .raise h)
  | .raise _ => ({ b with mHasPendingEvent := true }, .leave)
  | .leave => (b, .idle)

/-- A statement of `readEvents`, with the event it stores. -/
def pollerStep (b : BatchSensor) (now : Int) : ReadPc → BatchSensor × ReadPc × List SensorsEvent
  | .idle => (b, .idle, [])
  | .handles l => (b, if l.handle < idSensorMaxHandle ∧ l.count ≠ 0 then .requests l else .check l, [])
  | .requests l => (b, if b.flushSensorReq l.handle > 0 ∧ l.count > 0 then .stamp l else .next l, [])
  | .stamp l => ({ b with mPendingEvent := { b.mPendingEvent with timestamp := now } }, .process l, [])
  | .process l => ({ b with mPendingEvent := BatchSensor.endFlag l.handle b.mPendingEvent }, .store l, [])
  | .store l => (b, .received l, [b.mPendingEvent])
  | .received l => (b, .slot { l with numEventReceived := l.numEventReceived + 1 }, [])
  | .slot l => (b, .answered { l with count := l.count - 1 }, [])
  | .answered l =>
    ({ b with
        flushSensorReq := Function.update b.flushSensorReq l.handle (b.flushSensorReq l.handle - 1) },
      .requests l, [])
  | .next l => (b, .handles { l with handle := l.handle + 1 }, [])
  | .check l =>
    (b, if l.handle = idSensorMaxHandle ∧ b.flushSensorReq (l.handle - 1) = 0 then .clear l else .leave l, [])
  | .clear l => ({ b with mHasPendingEvent := false }, .leave l, [])
  | .leave _ => (b, .idle, [])

def step (s : FlushRace) : RaceMove → FlushRace × List SensorsEvent
  | .flush handle => ({ s with flusher := .count handle }, [])
  | .flusher =>
    let r := flusherStep s.sensor s.flusher
    ({ s with sensor := r.1, flusher := r.2 }, [])
  | .readEvents count => ({ s with poller := .handles ⟨0, count, 0⟩ }, [])
  | .poller now =>
    let r := pollerStep s.sensor now s.poller
    ({ s with sensor := r.1, poller := r.2.1 }, r.2.2)

/-- An index of `flushSensorReq`. -/
def IsHandle (h : Int) : Prop := 0 ≤ h ∧ h < idSensorMaxHandle
  deriving Decidable

/-- A thread takes a call when it is in none, and a statement when it is in one. -/
def Enabled (s : FlushRace) : RaceMove → Prop
  | .flush handle => s.flusher = .idle ∧ IsHandle handle
  | .flusher => s.flusher ≠ .idle
  | .readEvents _ => s.poller = .idle
  | .poller _ => s.poller ≠ .idle

def machine (mDataDiv : Int → Int) : Transducer FlushRace RaceMove SensorsEvent where
  init := start mDataDiv
  enabled := Enabled
  step := step

instance instDecidableEnabled (mDataDiv : Int → Int) (s : FlushRace) :
    (move : RaceMove) → Decidable ((machine mDataDiv).enabled s move)
  | .flush handle => inferInstanceAs (Decidable (_ ∧ IsHandle handle))
  | .flusher | .poller _ => inferInstanceAs (Decidable (_ ≠ _))
  | .readEvents _ => inferInstanceAs (Decidable (_ = _))

def Quiet (s : FlushRace) : Prop := s.flusher = .idle ∧ s.poller = .idle

/-! ## The scan of `Sensors.ReadEvents`

There the scan is taken in larger steps, from one test of its loops to the next, and no flush call comes between. -/

/-- `n` statements of `readEvents`, with the events they store. -/
def statements (now : Int) : Nat → BatchSensor → ReadPc → BatchSensor × ReadPc × List SensorsEvent
  | 0, b, pc => (b, pc, [])
  | n + 1, b, pc =>
    let r := pollerStep b now pc
    let rest := statements now n r.1 r.2.1
    (rest.1, rest.2.1, r.2.2 ++ rest.2.2)

/-- The statement a call is at: the test of one of the loops, or the return. -/
inductive AtStatement (r : ReadCall) : ReadPc → Prop
  | handles {handle : Int} (h : r.stage = .scanning handle) : AtStatement r (.handles ⟨handle, r.count, r.received⟩)
  | requests {handle : Int} (h : r.stage = .answering handle) : AtStatement r (.requests ⟨handle, r.count, r.received⟩)
  | leave {handle : Int} (h : r.stage = .done r.received) : AtStatement r (.leave ⟨handle, r.count, r.received⟩)

/-- **A step of the scan is some statements of `readEvents`**, with the same driver and the same events. -/
theorem scan_simulated {r : ReadCall} {pc : ReadPc} (b : BatchSensor) (now : Int) (hat : AtStatement r pc)
    (hscan : r.stage.isScanning = true) :
    let m := ReadMove.step (.batch b) r (.scan now)
    ∃ n b' pc', statements now n b pc = (b', pc', m.stored) ∧ m.sensor = .batch b' ∧ AtStatement m.call pc' := by
  cases hat with
  | handles h =>
    rename_i handle
    simp only [ReadMove.step, h, ReadMove.scanStep]
    by_cases hmore : handle < idSensorMaxHandle ∧ r.count ≠ 0
    · rw [if_pos hmore]
      exact ⟨1, b, .requests ⟨handle, r.count, r.received⟩, by simp [statements, pollerStep, hmore, Moved.stay], rfl,
        .requests rfl⟩
    · rw [if_neg hmore]
      unfold BatchSensor.settle
      by_cases hend : handle = idSensorMaxHandle ∧ b.flushSensorReq (handle - 1) = 0
      · refine ⟨3, _, .leave ⟨handle, r.count, r.received⟩, ?_, rfl, .leave rfl⟩
        simp only [statements, pollerStep, if_neg hmore, if_pos hend]
        rfl
      · refine ⟨2, _, .leave ⟨handle, r.count, r.received⟩, ?_, rfl, .leave rfl⟩
        simp only [statements, pollerStep, if_neg hmore, if_neg hend]
        rfl
  | requests h =>
    rename_i handle
    simp only [ReadMove.step, h, ReadMove.answerStep]
    by_cases hmore : b.flushSensorReq handle > 0 ∧ r.count > 0
    · rw [if_pos hmore]
      refine ⟨7, _, .requests ⟨handle, r.count - 1, (r.received + 1 : Nat)⟩, ?_, rfl, .requests rfl⟩
      simp only [statements, pollerStep, if_pos hmore]
      rfl
    · rw [if_neg hmore]
      refine ⟨2, _, .handles ⟨handle + 1, r.count, r.received⟩, ?_, rfl, .handles rfl⟩
      simp only [statements, pollerStep, if_neg hmore]
      rfl
  | leave h =>
    rw [h] at hscan
    cases hscan

/-! ## The counters -/

def completions (h : Int) (out : List SensorsEvent) : Nat :=
  out.countP fun e => decide (e.type = typeMetaData ∧ e.metaWhat = metaDataFlushComplete ∧ e.metaSensor = h)

def calls (h : Int) (tr : List (Entry FlushRace RaceMove SensorsEvent)) : Nat :=
  tr.countP fun x => decide (x.event = .flush h)

/-- A flush call for the handle that has not counted its request yet. -/
def owed (h : Int) : FlushPc → Int
  | .count k => if k = h then 1 else 0
  | _ => 0

/-- A request of the handle that is answered and still counted. -/
def taken (h : Int) : ReadPc → Int
  | .received l | .slot l | .answered l => if l.handle = h then 1 else 0
  | _ => 0

/-- The scan's handle is an index of the requests or, between two rounds of the outer loop, one past the
    last; what it stores is the completion of that handle's flush. -/
def InScan (b : BatchSensor) : ReadPc → Prop
  | .handles l => 0 ≤ l.handle ∧ l.handle ≤ idSensorMaxHandle
  | .requests l | .stamp l | .process l => IsHandle l.handle
  | .store l =>
    IsHandle l.handle ∧ b.mPendingEvent.type = typeMetaData ∧
      b.mPendingEvent.metaWhat = metaDataFlushComplete ∧ b.mPendingEvent.metaSensor = l.handle
  | .received l | .slot l | .answered l | .next l => IsHandle l.handle
  | _ => True

variable {b : BatchSensor} {now : Int} {s : FlushRace} {move : RaceMove}

variable {pc : ReadPc} {mDataDiv : Int → Int} {tr : List (Entry FlushRace RaceMove SensorsEvent)}

theorem pollerStep_inScan (h : InScan b pc) : InScan (pollerStep b now pc).1 (pollerStep b now pc).2.1 := by
  cases pc with
  | handles l =>
    simp only [pollerStep]
    split
    · rename_i hmore
      exact ⟨h.1, hmore.1⟩
    · trivial
  | requests l =>
    simp only [pollerStep]
    split <;> exact h
  | process l =>
    refine ⟨h, rfl, rfl, ?_⟩
    obtain ⟨hlow, hhigh⟩ := h
    exact Int.emod_eq_of_lt hlow (Int.lt_trans hhigh (by decide))
  | store l => exact h.1
  | next l =>
    obtain ⟨hlow, hhigh⟩ := h
    exact ⟨by dsimp only; omega, by dsimp only; omega⟩
  | check l =>
    simp only [pollerStep]
    split <;> trivial
  | stamp l | received l | slot l | answered l => exact h
  | idle | clear l | leave l => trivial

theorem pollerStep_balance (now : Int) (hscan : InScan b pc) (h : Int) :
    (completions h (pollerStep b now pc).2.2 : Int) + (pollerStep b now pc).1.flushSensorReq h -
      taken h (pollerStep b now pc).2.1 = b.flushSensorReq h - taken h pc := by
  cases pc with
  | handles l | requests l | check l =>
    simp only [pollerStep]
    split <;> simp [completions, taken]
  | store l =>
    obtain ⟨-, htype, hwhat, hsensor⟩ := hscan
    have hone : (completions h [b.mPendingEvent] : Int) = if l.handle = h then 1 else 0 := by
      simp only [completions, List.countP_singleton, htype, hwhat, hsensor, true_and, decide_eq_true_eq]
      split <;> rfl
    simp only [pollerStep, taken]
    omega
  | answered l =>
    by_cases heq : l.handle = h
    · subst heq
      simp [pollerStep, completions, taken]
    · simp [pollerStep, completions, taken, heq, Function.update_of_ne (Ne.symm heq)]
  | idle | stamp l | process l | received l | slot l | next l | clear l | leave l =>
    simp [pollerStep, completions, taken]

theorem flusherStep_balance (b : BatchSensor) (pc : FlushPc) (h : Int) :
    (flusherStep b pc).1.flushSensorReq h + owed h (flusherStep b pc).2 = b.flushSensorReq h + owed h pc := by
  cases pc with
  | count k =>
    by_cases heq : k = h
    · subst heq
      simp [flusherStep, owed]
    · simp [flusherStep, owed, heq, Function.update_of_ne (Ne.symm heq)]
  | idle | raise k | leave => rfl

theorem flusherStep_inScan (h : InScan b pc) (flusher : FlushPc) : InScan (flusherStep b flusher).1 pc := by
  have hsame : (flusherStep b flusher).1.mPendingEvent = b.mPendingEvent := by
    cases flusher <;> rfl
  cases pc with
  | store l =>
    unfold InScan
    rw [hsame]
    exact h
  | _ => exact h

/-- **The counters in every run**: what was delivered, is counted, or is owed by a flush call under way are
    the flush calls and the request the scan has answered but still counts. -/
structure Counted (tr : List (Entry FlushRace RaceMove SensorsEvent)) (s : FlushRace) : Prop where
  ledger : ∀ h, (completions h (outs tr) : Int) + s.sensor.flushSensorReq h + owed h s.flusher =
    calls h tr + taken h s.poller
  scan : InScan s.sensor s.poller

theorem start_counted (mDataDiv : Int → Int) : Counted [] (start mDataDiv) := ⟨fun _ => rfl, trivial⟩

theorem calls_flush (h handle : Int) (tr : List (Entry FlushRace RaceMove SensorsEvent)) {s : FlushRace}
    {out : List SensorsEvent} :
    (calls h (tr ++ [⟨s, .flush handle, out⟩]) : Int) = calls h tr + owed h (.count handle) := by
  rw [owed]
  by_cases heq : handle = h <;> simp [calls]

theorem calls_other (h : Int) (tr : List (Entry FlushRace RaceMove SensorsEvent))
    {x : Entry FlushRace RaceMove SensorsEvent} (hx : ∀ handle, x.event ≠ .flush handle) :
    (calls h (tr ++ [x]) : Int) = calls h tr := by
  simp [calls, hx h]

theorem completions_append (h : Int) (out out' : List SensorsEvent) :
    completions h (out ++ out') = completions h out + completions h out' :=
  List.countP_append

theorem Counted.step (hc : Counted tr s) (hen : s.Enabled move) :
    Counted (tr ++ [(machine mDataDiv).entry s move]) (s.step move).1 := by
  have hsum : ∀ h, (completions h (outs (tr ++ [(machine mDataDiv).entry s move])) : Int) =
      completions h (outs tr) + completions h (s.step move).2 := by
    intro h
    rw [Transducer.outs_append, Transducer.outs_singleton, completions_append]
    rfl
  have hother : (∀ handle, move ≠ .flush handle) →
      ∀ h, (calls h (tr ++ [(machine mDataDiv).entry s move]) : Int) = calls h tr :=
    fun hmove h => calls_other h tr hmove
  have hledger := hc.ledger
  cases move with
  | flush handle =>
    refine ⟨fun h => ?_, hc.scan⟩
    have howes : owed h s.flusher = 0 := by rw [hen.1]; rfl
    have hcalls : (calls h (tr ++ [(machine mDataDiv).entry s (.flush handle)]) : Int) = _ := calls_flush h handle tr
    rw [hsum, hcalls]
    show _ + 0 + s.sensor.flushSensorReq h + owed h (.count handle) = _ + _ + taken h s.poller
    have := hledger h
    omega
  | flusher =>
    refine ⟨fun h => ?_, flusherStep_inScan hc.scan s.flusher⟩
    have hbalance := flusherStep_balance s.sensor s.flusher h
    rw [hsum, hother (fun _ => RaceMove.noConfusion)]
    show _ + 0 + (flusherStep s.sensor s.flusher).1.flushSensorReq h + owed h (flusherStep s.sensor s.flusher).2 =
      _ + taken h s.poller
    have := hledger h
    omega
  | readEvents count =>
    refine ⟨fun h => ?_, Int.le_refl 0, (by decide : 0 ≤ idSensorMaxHandle)⟩
    have hidle : s.poller = .idle := hen
    have htaken : taken h s.poller = 0 := by rw [hidle]; rfl
    rw [hsum, hother (fun _ => RaceMove.noConfusion)]
    show _ + 0 + s.sensor.flushSensorReq h + owed h s.flusher = _ + 0
    have := hledger h
    omega
  | poller now =>
    refine ⟨fun h => ?_, pollerStep_inScan hc.scan⟩
    have hbalance := pollerStep_balance now hc.scan h
    rw [hsum, hother (fun _ => RaceMove.noConfusion)]
    show _ + completions h (pollerStep s.sensor now s.poller).2.2 +
      (pollerStep s.sensor now s.poller).1.flushSensorReq h + owed h s.flusher =
        _ + taken h (pollerStep s.sensor now s.poller).2.1
    have := hledger h
    omega

/-! ## The flag -/

/-- The slots left to the scan: it was given no negative count, and has a slot for an event it stores. -/
def InSlots : ReadPc → Prop
  | .handles l | .requests l | .answered l | .next l | .check l => 0 ≤ l.count
  | .stamp l | .process l | .store l | .received l | .slot l => 0 < l.count
  | _ => True

/-- The scan under way has passed the handle's entry, and can still come to take the flag back: it has slots
    left, or it is at the last entry, which is looked at once more after the loops. -/
def Passed (h : Int) : ReadPc → Prop
  | .handles l | .check l => (l.count ≠ 0 ∨ l.handle = idSensorMaxHandle) ∧ h < l.handle ∧ h ≠ idStationary
  | .stamp l | .process l | .store l | .received l | .slot l => h < l.handle
  | .requests l | .answered l => (l.count ≠ 0 ∨ l.handle = idStationary) ∧ h < l.handle
  | .next l => (l.count ≠ 0 ∨ l.handle = idStationary) ∧ h ≤ l.handle ∧ h ≠ idStationary
  | .clear _ => True
  | _ => False

theorem pollerStep_inSlots (h : InSlots pc) : InSlots (pollerStep b now pc).2.1 := by
  cases pc with
  | handles l =>
    simp only [pollerStep]
    split <;> exact h
  | requests l =>
    simp only [pollerStep]
    split
    · rename_i hmore
      exact hmore.2
    · exact h
  | slot l => exact Int.sub_nonneg_of_le h
  | check l =>
    simp only [pollerStep]
    split <;> trivial
  | stamp l | process l | store l | received l | answered l | next l => exact h
  | idle | clear l | leave l => trivial

def Drained (b : BatchSensor) (pc : ReadPc) : Prop := ∀ h, IsHandle h → Passed h pc → b.flushSensorReq h ≤ 0

/-- **The scan drains what it passes.** -/
theorem pollerStep_drained (hslots : InSlots pc) (hdrained : Drained b pc) :
    Drained (pollerStep b now pc).1 (pollerStep b now pc).2.1 := by
  intro h hh hpassed
  have hold := hdrained h hh
  have hlast : idSensorMaxHandle = idStationary + 1 := rfl
  cases pc with
  | handles l =>
    by_cases hmore : l.handle < idSensorMaxHandle ∧ l.count ≠ 0
    · rw [pollerStep, if_pos hmore] at hpassed
      exact hold ⟨.inl hmore.2, hpassed.2, by have := hpassed.2; omega⟩
    · rw [pollerStep, if_neg hmore] at hpassed
      exact hold hpassed
  | requests l =>
    by_cases hmore : b.flushSensorReq l.handle > 0 ∧ l.count > 0
    · rw [pollerStep, if_pos hmore] at hpassed
      exact hold ⟨.inl (by omega), hpassed⟩
    · rw [pollerStep, if_neg hmore] at hpassed
      obtain ⟨hmay, hle, hne⟩ := hpassed
      rcases Int.lt_or_eq_of_le hle with hlt | rfl
      · exact hold ⟨hmay, hlt⟩
      · -- the entry at hand: there are slots left, so the loop has ended for want of requests
        have hcount : 0 < l.count := by
          have hnonneg : 0 ≤ l.count := hslots
          omega
        show b.flushSensorReq l.handle ≤ 0
        by_contra hwaits
        exact hmore ⟨by omega, hcount⟩
  | slot l => exact hold hpassed.2
  | answered l =>
    have hne : h ≠ l.handle := ne_of_lt hpassed.2
    show Function.update b.flushSensorReq l.handle (b.flushSensorReq l.handle - 1) h ≤ 0
    rw [Function.update_of_ne hne]
    exact hold hpassed
  | next l =>
    obtain ⟨hmay, hlt, hne⟩ := hpassed
    dsimp only at hmay hlt
    exact hold ⟨hmay.imp_right (by omega), by omega, hne⟩
  | check l =>
    by_cases hend : l.handle = idSensorMaxHandle ∧ b.flushSensorReq (l.handle - 1) = 0
    · by_cases hne : h = idStationary
      · -- the last entry is the one the test has looked at
        have hzero := hend.2
        rw [hend.1, show idSensorMaxHandle - 1 = h by omega] at hzero
        exact le_of_eq hzero
      · exact hold ⟨.inr hend.1, by have := hh.2; omega, hne⟩
    · rw [pollerStep, if_neg hend] at hpassed
      exact hpassed.elim
  | stamp l | process l | store l | received l => exact hold hpassed
  | idle | clear l | leave l => exact hpassed.elim

theorem pollerStep_req_le (b : BatchSensor) (now : Int) (pc : ReadPc) (h : Int) :
    (pollerStep b now pc).1.flushSensorReq h ≤ b.flushSensorReq h := by
  cases pc with
  | answered l =>
    show Function.update b.flushSensorReq l.handle (b.flushSensorReq l.handle - 1) h ≤ b.flushSensorReq h
    by_cases heq : h = l.handle
    · rw [heq, Function.update_self]
      omega
    · rw [Function.update_of_ne heq]
  | _ => exact Int.le_refl _

theorem pollerStep_flag (b : BatchSensor) (now : Int) (pc : ReadPc) :
    (pollerStep b now pc).1.mHasPendingEvent = b.mHasPendingEvent ∨ ∃ l, pc = .clear l := by
  cases pc with
  | clear l => exact .inr ⟨l, rfl⟩
  | _ => exact .inl rfl

/-- A flush call under way that has counted its request and not raised the flag yet. -/
def Raising (pc : FlushPc) : Prop := ∃ h, pc = .raise h

/-- The condition on a step: no `readEvents` call has a negative count, and no flush call counts a request in
    an entry the scan under way has passed. -/
def Sound (s : FlushRace) : RaceMove → Prop
  | .readEvents count => 0 ≤ count
  | .flusher =>
    match s.flusher with
    | .count h => ¬ Passed h s.poller
    | _ => True
  | _ => True

/-- A request that waits has its flag, or the flush call is about to raise it. -/
structure Flagged (s : FlushRace) : Prop where
  slots : InSlots s.poller
  drained : Drained s.sensor s.poller
  raised : ∀ h, IsHandle h → 0 < s.sensor.flushSensorReq h → s.sensor.mHasPendingEvent = true ∨ Raising s.flusher

theorem start_flagged (mDataDiv : Int → Int) : Flagged (start mDataDiv) :=
  ⟨trivial, fun _ _ hpassed => hpassed.elim, fun _ _ hpos => absurd hpos (Int.lt_irrefl 0)⟩

theorem Flagged.step (hf : Flagged s) (hen : s.Enabled move) (hsound : s.Sound move) : Flagged (s.step move).1 := by
  obtain ⟨b, flusher, poller⟩ := s
  cases move with
  | flush handle =>
    obtain rfl : flusher = .idle := hen.1
    exact ⟨hf.slots, hf.drained, fun h hh hpos => .inl ((hf.raised h hh hpos).resolve_right (by rintro ⟨k, ⟨⟩⟩))⟩
  | flusher =>
    cases flusher with
    | idle => exact absurd rfl hen
    | count k =>
      refine ⟨hf.slots, fun h hh hpassed => ?_, fun _ _ _ => .inr ⟨k, rfl⟩⟩
      have hne : h ≠ k := fun heq => hsound (heq ▸ hpassed)
      show Function.update b.flushSensorReq k (b.flushSensorReq k + 1) h ≤ 0
      rw [Function.update_of_ne hne]
      exact hf.drained h hh hpassed
    | raise k => exact ⟨hf.slots, hf.drained, fun _ _ _ => .inl rfl⟩
    | leave =>
      exact ⟨hf.slots, hf.drained, fun h hh hpos => .inl ((hf.raised h hh hpos).resolve_right (by rintro ⟨k, ⟨⟩⟩))⟩
  | readEvents count =>
    refine ⟨hsound, fun h hh hpassed => ?_, hf.raised⟩
    exact absurd hpassed.2.1 (Int.not_lt.mpr hh.1)
  | poller now =>
    refine ⟨pollerStep_inSlots hf.slots, pollerStep_drained hf.slots hf.drained, fun h hh hpos => ?_⟩
    have hbefore : 0 < b.flushSensorReq h := Int.lt_of_lt_of_le hpos (pollerStep_req_le b now poller h)
    rcases pollerStep_flag b now poller with hsame | ⟨l, rfl⟩
    · rcases hf.raised h hh hbefore with hflag | hraising
      · exact .inl (hsame.trans hflag)
      · exact .inr hraising
    · -- the flag is taken back, but by now every entry is drained
      exact absurd hbefore (Int.not_lt.mpr (hf.drained h hh trivial))

/-! ## Every run -/

/-- No flush is lost or answered twice, and one that waits has its flag. -/
structure Settled (tr : List (Entry FlushRace RaceMove SensorsEvent)) (s : FlushRace) : Prop where
  answered : ∀ h, IsHandle h → (completions h (outs tr) : Int) + s.sensor.flushSensorReq h = calls h tr
  flagged : (∃ h, IsHandle h ∧ 0 < s.sensor.flushSensorReq h) → s.sensor.mHasPendingEvent = true

theorem run_counted (hrun : (machine mDataDiv).Run tr s) : Counted tr s := by
  induction hrun with
  | nil => exact start_counted mDataDiv
  | snoc _ hen ih => exact ih.step hen

theorem run_flagged (hrun : (machine mDataDiv).Run tr s) (hsound : ∀ x ∈ tr, Sound x.pre x.event) : Flagged s := by
  refine hrun.invariant_along (I := fun _ s => Flagged s) (C := fun x => Sound x.pre x.event)
    (start_flagged mDataDiv) ?_ hsound
  intro tr s move hflagged hen hlast
  exact hflagged.step hen hlast

/-- **Every flush completes exactly once**, in every run in which no `readEvents` call has a negative count
    and no flush call counts a request in an entry the scan under way has passed: whenever neither thread is
    inside these functions, the completions delivered for a handle and the requests still counted are the
    flush calls made, and a request that waits has its flag. -/
theorem flush_settled {mDataDiv : Int → Int} {tr : List (Entry FlushRace RaceMove SensorsEvent)}
    (hrun : (machine mDataDiv).Run tr s) (hsound : ∀ x ∈ tr, Sound x.pre x.event) (hquiet : s.Quiet) :
    Settled tr s := by
  obtain ⟨hflusher, hpoller⟩ := hquiet
  constructor
  · intro h _
    have hledger := (run_counted hrun).ledger h
    rw [hflusher, hpoller] at hledger
    simpa [owed, taken] using hledger
  · rintro ⟨h, hh, hpos⟩
    rcases (run_flagged hrun hsound).raised h hh hpos with hflag | ⟨k, hk⟩
    · exact hflag
    · rw [hflusher] at hk
      cases hk

/-- **No completion is lost or made up**, in every interleaving and with no condition on it: whenever neither thread is
    inside these functions, the completions delivered for a handle and its requests still counted are its flush calls. -/
theorem flush_conserved {mDataDiv : Int → Int} {tr : List (Entry FlushRace RaceMove SensorsEvent)}
    (hrun : (machine mDataDiv).Run tr s) (hquiet : s.Quiet) (h : Int) :
    (completions h (outs tr) : Int) + s.sensor.flushSensorReq h = calls h tr := by
  have hledger := (run_counted hrun).ledger h
  rw [hquiet.1, hquiet.2] at hledger
  simpa [owed, taken] using hledger

/-! ### Runs on fixed inputs -/

instance instDecidablePassed (h : Int) : (pc : ReadPc) → Decidable (Passed h pc)
  | .handles _ | .requests _ | .answered _ | .next _ | .check _ => inferInstanceAs (Decidable (_ ∧ _))
  | .stamp _ | .process _ | .store _ | .received _ | .slot _ => inferInstanceAs (Decidable (_ < _))
  | .clear _ => isTrue trivial
  | .idle | .leave _ => isFalse id

instance instDecidableSound (s : FlushRace) (move : RaceMove) : Decidable (s.Sound move) :=
  match move, s with
  | .readEvents _, _ => inferInstanceAs (Decidable (_ ≤ _))
  | .flusher, ⟨_, .count h, poller⟩ => inferInstanceAs (Decidable ¬Passed h poller)
  | .flusher, ⟨_, .idle, _⟩ | .flusher, ⟨_, .raise _, _⟩ | .flusher, ⟨_, .leave, _⟩ | .flush _, _ | .poller _, _ =>
    isTrue trivial

/-- A flush of the accelerometer that counts its request when the scan is at this handle, and raises the flag while the
    scan answers it. -/
def answeredRun : List RaceMove :=
  [.readEvents 1, .poller 0, .flush idAccelerometer, .flusher, .poller 0, .poller 0, .flusher, .poller 0, .flusher] ++
    List.replicate 9 (.poller 0)

theorem flush_settled_accel :
    Settled ((machine fun _ => 1).exec answeredRun).1 ((machine fun _ => 1).exec answeredRun).2 := by
  have hadm : (machine fun _ => 1).Admissible (machine fun _ => 1).init answeredRun := by decide
  exact flush_settled (run_exec _ hadm) (by decide) ⟨by decide, by decide⟩

/-- A scan that finds no request, and a flush of the accelerometer just before it takes the flag back. -/
def lostRun : List RaceMove :=
  .readEvents 1 :: List.replicate 137 (.poller 0) ++
    [.flush idAccelerometer, .flusher, .flusher, .flusher, .poller 0, .poller 0]

/-- The accelerometer's flush is counted, but its flag is gone. -/
theorem flush_unsettled : ¬ ∀ tr s, (machine fun _ => 1).Run tr s → s.Quiet → Settled tr s := by
  intro hall
  have hadm : (machine fun _ => 1).Admissible (machine fun _ => 1).init lostRun := by decide +kernel
  have hquiet : ((machine fun _ => 1).exec lostRun).2.Quiet := ⟨by decide +kernel, by decide +kernel⟩
  have hwaits : IsHandle idAccelerometer ∧
      0 < ((machine fun _ => 1).exec lostRun).2.sensor.flushSensorReq idAccelerometer := by decide +kernel
  have hflag : ((machine fun _ => 1).exec lostRun).2.sensor.mHasPendingEvent = false := by decide +kernel
  have hraised := (hall _ _ (run_exec _ hadm) hquiet).flagged ⟨idAccelerometer, hwaits⟩
  rw [hflag] at hraised
  cases hraised

theorem flush_conserved_lost : (completions idAccelerometer (outs ((machine fun _ => 1).exec lostRun).1) : Int) +
    ((machine fun _ => 1).exec lostRun).2.sensor.flushSensorReq idAccelerometer =
      calls idAccelerometer ((machine fun _ => 1).exec lostRun).1 := by
  have hadm : (machine fun _ => 1).Admissible (machine fun _ => 1).init lostRun := by decide +kernel
  exact flush_conserved (run_exec _ hadm) ⟨by decide +kernel, by decide +kernel⟩ _

end FlushRace

end HuaweiY5.Sensors
