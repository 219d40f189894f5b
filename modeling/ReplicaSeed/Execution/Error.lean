import ReplicaSeed.Command.Token
import ReplicaSeed.Execution.Errno
import ReplicaSeed.Time.Span

/-!
# Failures of commands

Why a command line was not run, or did not end well.
-/

namespace ReplicaSeed

/-- Why a command line was not run, or did not end well. A `command` is its masked text. -/
inductive ExecError where
  | invalidCommand (reason : String)
  | spawn (program cause : String)
  | io (command cause : String)
  | failed (command : String) (code : Option Int32) (stderr : String)
  | cancelled (command : String)
  | timeout (command : String) (limit : Span)
  | signal (group : Int32) (errno : Int)
  deriving DecidableEq, Repr

namespace ExecError

/-- How a process ended. -/
def exitText : Option Int32 → String
  | some code => "exit code " ++ toString code.toInt
  | none => "killed by signal"

/-- The text of a failure. -/
def message : ExecError → String
  | invalidCommand reason => "invalid command line: " ++ reason
  | spawn program cause => "failed to spawn " ++ program ++ ": " ++ cause
  | io command cause => "I/O error while running `" ++ command ++ "`: " ++ cause
  | failed command code stderr =>
    "command `" ++ command ++ "` failed (" ++ exitText code ++ "): " ++ stderr
  | cancelled command => "command `" ++ command ++ "` was cancelled"
  | timeout command limit => "command `" ++ command ++ "` timed out after " ++ limit.text
  | signal group errno =>
    "failed to signal process group " ++ toString group.toInt ++ ": " ++ Errno.text errno

/-- The command was stopped on request. -/
def isCancelled : ExecError → Bool
  | cancelled _ => true
  | _ => false

/-- The failure of a line that is no command. -/
def ofSyntaxFault (fault : Command.SyntaxFault) : ExecError := invalidCommand fault.message

end ExecError

end ReplicaSeed
