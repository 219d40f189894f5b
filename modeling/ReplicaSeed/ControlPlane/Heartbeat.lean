import ReplicaSeed.Agent.Identity
import ReplicaSeed.Config.Basic
import ReplicaSeed.Text.Quoted

/-!
# Heartbeat

The agent registers with the control plane when it starts, pings it from then on, and registers anew
whenever enough time has gone by since the last attempt, so that a control plane that was restarted
learns of it again. Only a ping that is answered counts as contact. No failure stops the pings.

## Main definitions

* `Announcement`: what the agent says to the control plane.
* `Heartbeat`: the state.
* `Link`: clock and control plane, as the agent sees them.
* `Heartbeat.submit`, `Heartbeat.tick`: a registration, and one ping with what follows from it.
* `Heartbeat.run`: a registration and then a ping after each period.
-/

namespace ReplicaSeed

/-- What the agent says to the control plane. -/
inductive Announcement where
  /-- Where the agent is, and its token. -/
  | submit
  | ping
  deriving DecidableEq, Repr

/-- An announcement by an agent as text. -/
def Announcement.text (identity : Identity) : Announcement → String
  | submit =>
    "submit " ++ identity.hostname ++ " " ++ toString identity.port.toNat ++ " " ++
      identity.token.text
  | ping => "ping"

/-- The state of the heartbeat. -/
structure Heartbeat where
  identity : Identity
  periods : HeartbeatPeriods := {}
  /-- When the last registration was begun, in time since the start. -/
  lastSubmit : Option Span := none
  deriving DecidableEq

/-- The clock and the control plane, as the agent sees them. The agent may be stopped while it
waits; then there is no result. -/
structure Link (σ : Type) where
  /-- The time since the start. -/
  elapsed : σ → Span
  /-- The time of day. -/
  now : σ → Instant
  /-- Announces something; the result tells whether it was accepted. -/
  announce : Announcement → σ → σ × Option Bool
  /-- Waits until a point in time since the start. -/
  waitUntil : Span → σ → σ × Option Unit

namespace Heartbeat

variable (h : Heartbeat)

/-- A registration is begun. -/
def registering (time : Span) : Heartbeat := { h with lastSubmit := some time }

/-- A ping has ended. -/
def pinged (accepted : Bool) (now : Instant) : Heartbeat :=
  if accepted then { h with identity := h.identity.contacted now } else h

/-- It is time to register: the agent has not tried to, or the last attempt was begun long enough
ago. -/
def registrationDue (time : Span) : Bool :=
  match h.lastSubmit with
  | none => true
  | some last => h.periods.resubmit.nanos ≤ time.nanos - last.nanos

variable {σ : Type} (link : Link σ)

/-- Registers. -/
def submit (s : σ) : Heartbeat × σ × Option Bool :=
  let (s', accepted) := link.announce .submit s
  (h.registering (link.elapsed s), s', accepted)

/-- Pings, and registers if it is time to. -/
def tick (s : σ) : Heartbeat × σ × Option Unit :=
  match link.announce .ping s with
  | (s, none) => (h, s, none)
  | (s, some accepted) =>
    let h := h.pinged accepted (link.now s)
    if h.registrationDue (link.elapsed s) then
      let (h, s, accepted) := h.submit link s
      (h, s, accepted.map fun _ => ())
    else (h, s, some ())

/-- A tick that is no later than this is not late. -/
def lateness : Span := .millis 5

/-- When the next tick is due after one that was due at `due` and came at `time`: a period later,
counted from when it came if it was late. -/
def nextDue (period due time : Span) : Span :=
  if due.nanos + lateness.nanos < time.nanos then ⟨time.nanos + period.nanos⟩
  else ⟨due.nanos + period.nanos⟩

/-- Ticks after each period, the first when it is due, as long as the agent is not stopped and at
most so many times. -/
def ticks : (count : Nat) → (due : Span) → Heartbeat → σ → Heartbeat × σ
  | 0, _, h, s => (h, s)
  | count + 1, due, h, s =>
    match link.waitUntil due s with
    | (s, none) => (h, s)
    | (s, some ()) =>
      let next := nextDue h.periods.poll due (link.elapsed s)
      match h.tick link s with
      | (h, s, none) => (h, s)
      | (h, s, some ()) => ticks count next h s

/-- Registers and then ticks, first at once and then after each period, until the agent is stopped
or has ticked so many times. -/
def run (count : Nat) (s : σ) : Heartbeat × σ :=
  match h.submit link s with
  | (h, s, none) => (h, s)
  | (h, s, some _) => ticks link count (link.elapsed s) h s

/-- The text of a heartbeat in a diagnostic. -/
def diagnostic : String :=
  "Heartbeat \x7b identity: AgentIdentity \x7b hostname: " ++ Text.quoted h.identity.hostname ++
    ", port: " ++ toString h.identity.port.toNat ++ ", token: " ++ h.identity.token.diagnostic ++
    ", last_contact: RwLock \x7b data: " ++
    (match h.identity.lastContact with
      | none => "None"
      | some t => "Some(" ++ t.text ++ ")") ++
    " \x7d \x7d, config: HeartbeatConfig \x7b poll_interval: " ++ h.periods.poll.text ++
    ", resubmit_interval: " ++ h.periods.resubmit.text ++ " \x7d, .. \x7d"

end Heartbeat

end ReplicaSeed
