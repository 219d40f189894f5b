import ReplicaSeed.Operation.Record

/-!
# The feed of stage records

Every accepted change of a stage record is published. Readers follow at their own pace, but only the
latest records are kept: a reader who falls too far behind learns how many it has missed.

## Main definitions

* `Feed`: the feed.
* `Feed.since`: what a reader has not seen yet.
* `FeedItem.level`, `FeedItem.message`, `FeedItem.fields`: an item in the event log.
-/

namespace ReplicaSeed

/-- The latest records that were published. -/
structure Feed where
  /-- How many records were published so far. -/
  sent : Nat := 0
  /-- The records that are kept, from the latest on. -/
  recent : List StageRecord := []
  deriving DecidableEq, Repr

/-- What a reader finds. -/
inductive FeedItem where
  | record (r : StageRecord)
  /-- Older records that are no longer kept. -/
  | missed (count : Nat)
  deriving DecidableEq, Repr

namespace Feed

/-- How many records are kept. -/
def capacity : Nat := 256

/-- The feed after a record was published. -/
def publish (f : Feed) (r : StageRecord) : Feed := ⟨f.sent + 1, (r :: f.recent).take capacity⟩

/-- The number of the oldest record that is kept. -/
def oldest (f : Feed) : Nat := f.sent - f.recent.length

/-- What a reader finds who has seen the first `position` records. -/
def since (f : Feed) (position : Nat) : List FeedItem :=
  let missed := f.oldest - position
  let records := (f.recent.take (f.sent - position)).reverse.map .record
  if missed = 0 then records else .missed missed :: records

end Feed

/-! ## The event log -/

/-- How much attention a log line asks for. -/
inductive LogLevel where
  | info
  | warn
  deriving DecidableEq, Repr

/-- The name of a level. -/
def LogLevel.name : LogLevel → String
  | info => "INFO"
  | warn => "WARN"

namespace FeedItem

/-- A stage that failed or was stopped asks for attention, and so does a gap. -/
def level : FeedItem → LogLevel
  | record r =>
    match r.status with
    | .error | .cancelled => .warn
    | .running | .completed => .info
  | missed _ => .warn

/-- The text of the log line. -/
def message : FeedItem → String
  | record _ => "Stage event"
  | missed _ => "Stage event log fell behind"

/-- The fields of the log line that are texts. -/
def fields : FeedItem → List (String × String)
  | record r =>
    [("seed_id", r.seedId.text), ("stage", r.stage.name), ("side", r.side.name),
      ("method", r.method.name), ("status", r.status.name), ("details", r.details)]
  | missed _ => []

end FeedItem

end ReplicaSeed
