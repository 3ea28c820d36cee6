import HuaweiY5.Lib.Transducer
import HuaweiY5.Sensors.ReadEvents

/-!
# `Sensors.Session` — one driver, with its enable, flush and `readEvents` calls

A driver is used by two threads: the framework enables and flushes its sensors, the poll thread reads their
events. `Session` is one driver with both: `enable` and `flush` calls come between any two steps of a
`readEvents` call. What a step outputs are the events it stored and the array accesses it made.
-/

namespace HuaweiY5.Sensors

namespace SensorBase

/-- `enable`, with the array accesses made. -/
def enable (env : Surroundings) (ioctls : Hwmsen.EnableReply) (handle : Int) (en : Bool) :
    SensorBase → SensorBase × List ArrayAccess
  | .batch s =>
    let r := s.enable (env.opens handle) env.elapsedRealtimeNano handle en
    (.batch r.1, r.2)
  | .hwmsen s => (.hwmsen (s.enable ioctls handle en).1, [])
  | .magnetic s => (.magnetic (s.enable env handle en).1, [])
  | .humidity s => (.humidity (s.enable env handle en).1, [])
  | .stepCounter s => (.stepCounter (s.enable (env.opens handle) handle en).1, [])
  | .gesture s => (.gesture (s.enable env handle en).1, [])
  | .single c s => (.single c (s.enable env c handle en).1, [])

/-- `flush`: only the batch driver does something, and with a driver in the kernel it asks that. -/
def flush (handle : Int) : SensorBase → SensorBase × List ArrayAccess
  | .batch s =>
    if s.mdataFd then (.batch s, []) else
      let r := s.flush handle
      (.batch r.1, r.2)
  | s => (s, [])

/-- The driver disables the sensor of an event it stores. -/
def selfDisables (e : SensorsEvent) : SensorBase → Bool
  | .stepCounter _ => decide (e.sensor = idSignificantMotion)
  | .gesture _ => true
  | .single c _ =>
    match c.syn with
    | .stamped _ oneShot => oneShot
    | _ => false
  | _ => false

/-- Whether the step counter has had a report since the last `EV_SYN`, one event later. -/
def reportedAfter (reported : Bool) : SensorBase → Bool
  | .stepCounter s =>
    let event := s.mInputReader.event
    if event.type = .syn then false else reported || (StepCounterSensor.report event).isSome
  | _ => reported

end SensorBase

structure Session where
  sensor : SensorBase
  call : Option ReadCall
  lastOn : Int → Bool
  reported : Bool

/-- What a step shows: an event stored, or an array access. -/
inductive Effect
  | stored (e : SensorsEvent)
  | access (a : ArrayAccess)
  deriving DecidableEq

/-- A step: an `enable` or a `flush` call, or a `readEvents` call and its steps. -/
inductive SessionMove
  | enable (handle : Int) (en : Bool) (env : Surroundings) (ioctls : Hwmsen.EnableReply)
  | flush (handle : Int)
  | call (count : Int)
  | read (m : ReadMove)
  | leave

def delivered (out : List Effect) : List SensorsEvent :=
  out.filterMap fun
    | .stored e => some e
    | .access _ => none

namespace Session

variable (sensor : SensorBase) (stored : List SensorsEvent)

def start : Session := ⟨sensor, none, fun _ => false, false⟩

def effects (accesses : List ArrayAccess) : List Effect := stored.map .stored ++ accesses.map .access

@[simp] theorem delivered_effects (accesses : List ArrayAccess) : delivered (effects stored accesses) = stored := by
  simp [delivered, effects]

def onAfter (lastOn : Int → Bool) : Int → Bool := fun h =>
  lastOn h && !stored.any (fun e => decide (e.sensor = h) && sensor.selfDisables e)

/-- A step of the `readEvents` call. -/
def readStep (s : Session) (call : ReadCall) (m : ReadMove) : Session × List Effect :=
  let r := m.step s.sensor call
  let reported := match m with
    | .pass _ => s.sensor.reportedAfter s.reported
    | _ => s.reported
  (⟨r.sensor, some r.call, onAfter s.sensor r.stored s.lastOn, reported⟩, effects r.stored r.accesses)

def step (s : Session) : SessionMove → Session × List Effect
  | .enable handle en env ioctls =>
    let r := s.sensor.enable env ioctls handle en
    ({ s with sensor := r.1, lastOn := Function.update s.lastOn handle en }, effects [] r.2)
  | .flush handle =>
    let r := s.sensor.flush handle
    ({ s with sensor := r.1 }, effects [] r.2)
  | .call count => ({ s with call := some (.start count) }, [])
  | .read m =>
    match s.call with
    | some call => s.readStep call m
    | none => (s, [])
  | .leave => ({ s with call := none }, [])

/-- A call starts when none is under way, takes its own steps, and returns when it has come to its end. -/
def EnabledIn : Option ReadCall → SessionMove → Prop
  | _, .enable _ _ _ _ | _, .flush _ | none, .call _ => True
  | some _, .call _ => False
  | some call, .read m => m.Enabled sensor call
  | some call, .leave => call.result sensor ≠ none
  | none, .read _ | none, .leave => False

instance instDecidableEnabledIn (sensor : SensorBase) :
    (call : Option ReadCall) → (move : SessionMove) → Decidable (EnabledIn sensor call move)
  | none, .enable _ _ _ _ | some _, .enable _ _ _ _ | none, .flush _ | some _, .flush _ | none, .call _ => isTrue trivial
  | some call, .read m => inferInstanceAs (Decidable (m.Enabled sensor call))
  | some _, .leave => inferInstanceAs (Decidable (_ ≠ _))
  | some _, .call _ | none, .read _ | none, .leave => isFalse id

def machine : Transducer Session SessionMove Effect where
  init := start sensor
  enabled := fun s move => EnabledIn s.sensor s.call move
  step := step

instance instDecidableMachineEnabled (sensor : SensorBase) (s : Session) (move : SessionMove) :
    Decidable ((machine sensor).enabled s move) :=
  instDecidableEnabledIn s.sensor s.call move

end Session

end HuaweiY5.Sensors
