/-!
# Shutdown

Shutdown begins once. The first trigger is recorded as its reason and later ones are ignored; it can also
begin without a reason. Whoever waits for it wakes as soon as it has begun and learns the reason that is
then recorded. What is still to be done afterwards is bounded by a time.
-/

namespace ApiGateway

namespace Shutdown

/-- Why a process shuts down: it was interrupted from a terminal, it was told to end, or the program asked for it.
-/
inductive Reason where
  | interrupt
  | terminate
  | requested
  deriving DecidableEq, Repr

namespace Reason

/-- The name of the reason. -/
def name : Reason → String
  | .interrupt => "Interrupt"
  | .terminate => "Terminate"
  | .requested => "Requested"

/-- The reason of a name. -/
def ofName? (name : String) : Option Reason :=
  [Reason.interrupt, .terminate, .requested].find? fun r => r.name = name

end Reason

/-- A signal to the process: from a terminal, or to end. -/
inductive Signal where
  | interrupt
  | terminate
  deriving DecidableEq, Repr

/-- The reason that a signal gives. -/
def Signal.reason : Signal → Reason
  | .interrupt => .interrupt
  | .terminate => .terminate

end Shutdown

/-- The state of a shutdown: its reason, once there was a trigger; whether it has begun; those who wait for it,
each with the reason that it woke with; and those who listen for signals, with whether they still do. -/
structure Shutdown where
  reason : Option Shutdown.Reason := none
  begun : Bool := false
  watchers : List (Option Shutdown.Reason) := []
  listeners : List Bool := []
  deriving DecidableEq, Repr, Inhabited

namespace Shutdown

/-- What happens to a shutdown: it is triggered or begins without a reason, someone begins to wait for it or to
listen for signals, or a signal comes. -/
inductive Event where
  | trigger (reason : Reason)
  | cancel
  | watch
  | listen
  | signal (signal : Signal)
  deriving DecidableEq, Repr

/-- Begins for a reason, unless there is one already. -/
def trigger (s : Shutdown) (reason : Reason) : Shutdown :=
  match s.reason with
  | some _ => s
  | none => { s with reason := some reason, begun := true }

/-- What one who waits learns, once shutdown has begun. -/
def waited? (s : Shutdown) : Option Reason :=
  if s.begun then some (s.reason.getD .requested) else none

/-- Wakes those who wait and ends the listening, once shutdown has begun. -/
def wake (s : Shutdown) : Shutdown :=
  if s.begun then
    { s with
      watchers := s.watchers.map fun w => w.orElse fun _ => s.waited?
      listeners := s.listeners.map fun _ => false }
  else s

/-- What an event does before anyone wakes. -/
def apply (s : Shutdown) : Event → Shutdown
  | .trigger reason => s.trigger reason
  | .cancel => { s with begun := true }
  | .watch => { s with watchers := s.watchers ++ [none] }
  | .listen => { s with listeners := s.listeners ++ [true] }
  | .signal signal => if s.listeners.any id then s.trigger signal.reason else s

/-- What an event does. -/
def step (s : Shutdown) (e : Event) : Shutdown :=
  (s.apply e).wake

/-- The state after the events. -/
def run (events : List Event) : Shutdown :=
  events.foldl step {}

/-- How long something that takes `length` may still run within the limit, and whether it ends; `none`
never ends. -/
def drain (limit : Nat) : Option Nat → Nat × Bool
  | none => (limit, false)
  | some length => if length ≤ limit then (length, true) else (limit, false)

end Shutdown

end ApiGateway
