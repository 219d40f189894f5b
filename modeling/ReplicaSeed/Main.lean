import ReplicaSeed.Config.Reader
import ReplicaSeed.Config.Summary
import ReplicaSeed.Execution.FileFault
import ReplicaSeed.Http.Router

/-!
# The command line

Reads the configuration of an agent and shows what it amounts to, or why no agent can run with it.

## Main definitions

* `configPath`: the path of the configuration.
* `report`: what is shown.
-/

namespace ReplicaSeed

/-- Where the configuration is if nothing says otherwise. -/
def defaultConfigPath : String := "/etc/seed-agent.toml"

/-- The path that the words of the command line give, or else the environment. -/
def configPath (environment : Option String) : List String → Except String String
  | [] => .ok (environment.getD defaultConfigPath)
  | ["--config", path] | ["-c", path] => .ok path
  | [word] =>
    match Text.stripStart? "--config=".toList word.toList with
    | some path => .ok (String.ofList path)
    | none => .error "usage: [--config CONFIG]"
  | _ => .error "usage: [--config CONFIG]"

/-- The text of a fault of the routes. -/
def Http.RouteFault.message : Http.RouteFault → String
  | .malformed path => "common.status-endpoint is no path: " ++ path
  | .taken path => "common.status-endpoint is the path of another request: " ++ path

/-- The summary of the configuration in a file, or why no agent can run with it. -/
def report (path : String) (content : Except String (List UInt8)) : Except String String := do
  let config ← (Config.ofFile path content).mapError ConfigError.message
  let _ ← (Http.Router.ofSettings config.apiSettings).mapError Http.RouteFault.message
  return config.summary.text

end ReplicaSeed

open ReplicaSeed in
/-- Reads the configuration and prints its summary. -/
def main (args : List String) : IO UInt32 := do
  match configPath (← IO.getEnv "SEED_AGENT_CONFIG") args with
  | .error text =>
    IO.eprintln text
    return 2
  | .ok path =>
    let content ← try
        pure (.ok (← IO.FS.readBinFile path).toList)
      catch
        | .noFileOrDirectory .. => pure (.error FileFault.notFound.message)
        | e => pure (.error e.toString)
    match report path content with
    | .ok text =>
      IO.println text
      return 0
    | .error text =>
      IO.eprintln ("Error: " ++ text)
      return 1
