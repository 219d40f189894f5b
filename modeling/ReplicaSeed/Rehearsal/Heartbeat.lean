import ReplicaSeed.ControlPlane.Heartbeat

/-!
# A rehearsed heartbeat

A control plane that takes a fixed time for each call and accepts or refuses as a script says, on a
clock that moves only while the agent waits.

## Main definitions

* `Scene`: the clock, the script and the calls so far.
* `Scene.link`: the scene as the agent sees it.
* `Scene.nobody`: no control plane at all.
-/

namespace ReplicaSeed.Rehearsal

/-- The clock, the script of the control plane and the calls so far. -/
structure Scene where
  /-- The milliseconds since the start. -/
  now : Nat := 0
  /-- When the agent is stopped, if it is. -/
  deadline : Option Nat := none
  /-- The milliseconds that a call takes. -/
  latency : Nat := 0
  /-- Whether the next registrations and pings are accepted; the last word counts for all later
  ones, and without a word all are. -/
  submits : List Bool := []
  pings : List Bool := []
  /-- The calls, with the time at which each was begun. -/
  calls : List (Nat × Announcement) := []
  deriving DecidableEq, Repr

namespace Scene

/-- Takes a word from a script. -/
def draw : List Bool → Bool × List Bool
  | [] => (true, [])
  | [last] => (last, [last])
  | word :: rest => (word, rest)

/-- Waits until a point in time, unless the agent is stopped before. -/
def waitUntil (s : Scene) (time : Nat) : Scene × Option Unit :=
  match s.deadline with
  | some stop =>
    if stop < time then ({ s with now := stop }, none)
    else ({ s with now := max s.now time }, some ())
  | none => ({ s with now := max s.now time }, some ())

/-- Makes a call. -/
def announce (a : Announcement) (s : Scene) : Scene × Option Bool :=
  let (accepted, s) : Bool × Scene :=
    match a with
    | .submit => let (word, rest) := draw s.submits; (word, { s with submits := rest })
    | .ping => let (word, rest) := draw s.pings; (word, { s with pings := rest })
  let (s, waited) := { s with calls := s.calls ++ [(s.now, a)] }.waitUntil (s.now + s.latency)
  (s, waited.map fun () => accepted)

/-- The scene as the agent sees it. -/
def link : Link Scene where
  elapsed s := .millis s.now
  now _ := .epoch
  announce := announce
  waitUntil time s := s.waitUntil (time.nanos / 1000000)

/-- The same without a control plane: every registration passes for accepted, and no ping is ever
answered. -/
def nobody : Link Scene where
  elapsed s := .millis s.now
  now _ := .epoch
  announce a s := (s, some (a == .submit))
  waitUntil time s := s.waitUntil (time.nanos / 1000000)

/-- The most ticks in a length of time. -/
def maxTicks (millis : Nat) (period : Span) : Nat := millis / (period.nanos / 1000000) + 2

/-- Runs the heartbeat and stops it after a time. -/
def runFor (link : Link Scene) (millis : Nat) (h : Heartbeat) (s : Scene) : Heartbeat × Scene :=
  let (h, s) := h.run link (maxTicks millis h.periods.poll)
    { s with deadline := some (s.now + millis) }
  (h, { s with deadline := none })

end Scene

end ReplicaSeed.Rehearsal
