import ReplicaSeed.Method.SeedMethod
import ReplicaSeed.Text.Search

/-!
# Seeding by the clone plugin

The server of the target clones that of the source by itself.
-/

namespace ReplicaSeed.ClonePlugin

open Command

variable (site : Site)

/-- The name of the plugin. -/
def plugin : String := "clone"

/-- The status of a plugin that can be used, in upper or lower case. -/
def isActive (status : Option String) : Bool :=
  match status with
  | some s => s.toList.map Char.toUpper == "ACTIVE".toList
  | none => false

/-- A text as it stands between apostrophes in a statement: backslashes and apostrophes are
doubled. -/
def literal (value : String) : String :=
  String.ofList
    (Text.replaceChar '\'' ['\'', '\''] (Text.replaceChar '\\' ['\\', '\\'] value.toList))

/-- A text between apostrophes. -/
def quotedLiteral (value : String) : String := "'" ++ literal value ++ "'"

/-- Lets the server clone from `host` and `port`. -/
def cloneStatement (host : String) (port : UInt16) : String :=
  "SET GLOBAL clone_valid_donor_list = " ++ quotedLiteral (host ++ ":" ++ Site.portText port) ++
    "; CLONE INSTANCE FROM " ++ quotedLiteral site.mysql.seedUser ++ "@" ++ quotedLiteral host ++
    ":" ++ Site.portText port ++ " IDENTIFIED BY " ++ quotedLiteral site.mysql.seedPassword

/-- Gives the statement to the server on this host. -/
def cloneLine (host : String) (port : UInt16) : Template :=
  .single
    (List.flatten
      [["mysql"], site.localClientArgs, ["-e", .value (cloneStatement site host port)]])

/-- The plugin is active, as far as the server tells in time. -/
def probe : Work Bool := do
  let status ← Procedure.request (I := Interface.host)
    (HostRequest.probeDatabase (.pluginStatus plugin) site.probeTimeout)
  return isActive (Option.join status)

def prepare (_ : Side) : Work Unit := do
  if isActive (← Work.database (.pluginStatus plugin)) then Work.note "Clone plugin active"
  else .fail (.config "clone plugin is not active")

def backup (request : BackupRequest) : Work Unit :=
  match request.side with
  | .source => Work.note "Clone is pulled by the recipient"
  | .target => do
    Work.note ("Cloning from " ++ request.host ++ ":" ++ Site.portText request.port)
    site.exec (cloneLine site request.host request.port)

def restore : Work Unit := site.startService

/-- The coordinates that the last clone took over; there must be some, with a log file. -/
def coordinates : Work Coordinates := do
  match ← Work.database .cloneStatus with
  | some c => if c.isEmpty then missing else pure c
  | none => missing
where
  missing : Work Coordinates := .fail (.missingArtifact "performance_schema.clone_status")

/-- The method. -/
def method : SeedMethod Interface.host where
  kind := .clonePlugin
  engines := fun _ => .ofList [.innoDb]
  intoDatadir := true
  probe := fun _ => do return ⟨← probe site, none⟩
  prepare := prepare
  backup := backup site
  restore := restore site
  coordinates := coordinates
  cleanup := fun _ => pure ()

end ReplicaSeed.ClonePlugin
