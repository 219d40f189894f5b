import ReplicaSeed.Command.Line
import ReplicaSeed.Execution.Error
import ReplicaSeed.Execution.Output
import ReplicaSeed.Text.Search

/-!
# Recorded commands

In a rehearsal no command is run. Each is recorded, and the first rule whose pattern occurs in its
line tells the reply.

## Main definitions

* `Recorder`: the rules, and the commands so far.
* `Recorder.record`: one more command, with its reply.
-/

namespace ReplicaSeed.Rehearsal

/-- The reply to a command. -/
inductive Reply where
  | output (bytes : List UInt8)
  | failure (stderr : String)
  /-- The command of a stage runs until it is cancelled; any other ends at once. -/
  | block
  deriving DecidableEq, Repr

/-- How a command ends that is not cancelled. -/
def Reply.result (line : String) : Reply → Except ExecError Output
  | output bytes => .ok { stdout := bytes }
  | failure stderr => .error (.failed line (some 1) stderr)
  | block => .ok {}

/-- A command that was to be run. -/
structure RecordedCommand where
  line : String
  elevate : Bool
  /-- It is the command of a stage, whose process is reported. -/
  tracked : Bool
  deriving DecidableEq, Repr

/-- The replies that are prepared, and the commands so far. -/
structure Recorder where
  rules : List (String × Reply) := []
  commands : List RecordedCommand := []
  deriving DecidableEq, Repr

namespace Recorder

/-- The recorder with one more rule, which counts where no earlier one does. -/
def addRule (r : Recorder) (pattern : String) (reply : Reply) : Recorder :=
  { r with rules := r.rules ++ [(pattern, reply)] }

/-- The reply to a line; no output if no rule says otherwise. -/
def replyTo (r : Recorder) (line : String) : Reply :=
  match r.rules.find? fun (pattern, _) => Text.contains pattern.toList line.toList with
  | some (_, reply) => reply
  | none => .output []

/-- Records a command. A line that is no command is not recorded. -/
def record (r : Recorder) (command : RecordedCommand) : Recorder × Except ExecError Reply :=
  match Command.CommandLine.parse command.line with
  | .error fault => (r, .error (.ofSyntaxFault fault))
  | .ok _ => ({ r with commands := r.commands ++ [command] }, .ok (r.replyTo command.line))

/-- Records a command that ends at once. -/
def run (r : Recorder) (line : String) (elevate : Bool) : Recorder × Except ExecError Output :=
  match r.record ⟨line, elevate, false⟩ with
  | (r, .error e) => (r, .error e)
  | (r, .ok reply) => (r, reply.result line)

/-- The text occurs in a recorded command. -/
def saw (r : Recorder) (text : String) : Bool :=
  r.commands.any fun c => Text.contains text.toList c.line.toList

end Recorder

end ReplicaSeed.Rehearsal
