import HuaweiY5.Sensors.Event

/-!
# `Sensors.InputReader` — the ring of input events each driver reads from (InputEventReader.cpp)

A driver's input device is read into a ring of `numEvents` entries. The ring lies in a buffer of twice that
size: a read may run past `mBufferEnd`, and the part beyond it is then copied back to the start. The reader
counts the free entries only; `readEvent` reports an event whenever that count differs from the capacity,
whichever way.
-/

namespace HuaweiY5.Sensors

/-- The `type` of an input event, as far as a driver tells types apart. -/
inductive EventType
  | syn | rel | abs | other
  deriving DecidableEq

/-- `struct input_event`; `time` is in nanoseconds (`timevalToNano`). -/
structure InputEvent where
  time : Int
  type : EventType
  code : Nat
  value : Int
  deriving DecidableEq

/-- The codes of `linux/input.h` the HAL's `EVENT_TYPE_*` names stand for. -/
abbrev codeX : Nat := 0
abbrev codeY : Nat := 1
abbrev codeZ : Nat := 2
abbrev codeRx : Nat := 3
abbrev codeRy : Nat := 4
abbrev codeRz : Nat := 5
abbrev relHwheel : Nat := 6
abbrev relDial : Nat := 7
abbrev relWheel : Nat := 8
abbrev relMisc : Nat := 9
abbrev absThrottle : Nat := 6
abbrev absRudder : Nat := 7
abbrev absWheel : Nat := 8
abbrev absHat0x : Nat := 16
abbrev absHat0y : Nat := 17
abbrev absHat1x : Nat := 18
abbrev absHat1y : Nat := 19
abbrev absHat2x : Nat := 20
abbrev absHat2y : Nat := 21

/-- What `read` on the input device gives: an error, a byte count that is no whole number of events, or
    events. -/
inductive ReadReply
  | failed (errno : Nat)
  | torn
  | events (es : List InputEvent)
  deriving DecidableEq

/-- `InputEventCircularReader`. -/
structure InputEventCircularReader where
  mBuffer : Nat → InputEvent
  numEvents : Nat
  mHead : Nat
  mCurr : Nat
  mFreeSpace : Int

namespace InputEventCircularReader

def new (numEvents : Nat) : InputEventCircularReader := ⟨fun _ => ⟨0, .other, 0, 0⟩, numEvents, 0, 0, numEvents⟩

variable (r : InputEventCircularReader)

/-- The read itself: the events go to `mHead` on. -/
def place (es : List InputEvent) : Nat → InputEvent := fun i =>
  if r.mHead ≤ i then (es[i - r.mHead]?).getD (r.mBuffer i) else r.mBuffer i

/-- The events of a read are counted; what lies past the end is copied to the start. -/
def take (es : List InputEvent) : InputEventCircularReader :=
  let numEventsRead := es.length
  let mBuffer := r.place es
  let mHead := r.mHead + numEventsRead
  if mHead > r.numEvents then
    let s := mHead - r.numEvents
    { r with
      mBuffer := fun i => if i < s then mBuffer (r.numEvents + i) else mBuffer i
      mHead := s
      mFreeSpace := r.mFreeSpace - numEventsRead }
  else
    { r with mBuffer := mBuffer, mHead := mHead, mFreeSpace := r.mFreeSpace - numEventsRead }

/-- `fill`: nothing is read into a full ring. -/
def fill (reply : ReadReply) : InputEventCircularReader × Int :=
  if r.mFreeSpace ≠ 0 then
    match reply with
    | .failed errno => (r, -errno)
    | .torn => (r, -einval)
    | .events es => if es ≠ [] then (r.take es, es.length) else (r, 0)
  else
    (r, 0)

/-- The event `readEvent` points to. -/
def event : InputEvent := r.mBuffer r.mCurr

/-- `readEvent`'s result: `available ? 1 : 0`. -/
def readEvent : Bool := decide ((r.numEvents : Int) - r.mFreeSpace ≠ 0)

def next : InputEventCircularReader :=
  { r with
    mCurr := if r.mCurr + 1 ≥ r.numEvents then 0 else r.mCurr + 1
    mFreeSpace := r.mFreeSpace + 1 }

/-- The kernel's part of `read`: it hands over no more events than were asked for. -/
def Fits : ReadReply → Prop
  | .events es => (es.length : Int) ≤ r.mFreeSpace
  | _ => True

instance instDecidableFits (r : InputEventCircularReader) : (reply : ReadReply) → Decidable (r.Fits reply)
  | .failed _ | .torn => isTrue trivial
  | .events _ => inferInstanceAs (Decidable (_ ≤ _))

/-- The read a `fill` makes succeeds with whole events, or no read is made. -/
def Whole (reply : ReadReply) : Prop := r.mFreeSpace = 0 ∨ ∃ es, reply = .events es

theorem fill_nonneg {reply : ReadReply} (h : r.Whole reply) : 0 ≤ (r.fill reply).2 := by
  rcases h with hfull | ⟨es, rfl⟩
  · simp [fill, hfull]
  · unfold fill
    by_cases hfree : r.mFreeSpace ≠ 0
    · rw [if_pos hfree]
      dsimp only
      split
      · exact Int.natCast_nonneg _
      · exact Int.le_refl 0
    · rw [if_neg hfree]

end InputEventCircularReader

end HuaweiY5.Sensors
