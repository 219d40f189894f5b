import ReplicaSeed.Config.Basic
import ReplicaSeed.Method.Work
import ReplicaSeed.Text.FilePath
import ReplicaSeed.Text.Quoted

/-!
# What the methods share

The work that several seed methods do on their host: the database service, the data directory, and
the words by which clients and streams are told where to connect.

## Main definitions

* `Site.stopService`, `Site.startService`: the database service.
* `Site.clearDatadir`: an empty data directory.
* `Site.clientArgs`, `Site.streamReceiver`, `Site.streamSender`: words of commands.
-/

namespace ReplicaSeed.Site

open Command

variable (site : Site)

/-- The number of a port as a word or a part of one. -/
def portText (port : UInt16) : String := toString port.toNat

/-- Runs a command of the stage. -/
def exec (line : Line) : Work Unit := Work.exec site.execWithSudo line

/-- Runs a short command for its output. -/
def capture (line : Line) : Work Output := Work.capture site.execWithSudo line

/-- The output of a command that tells whether a tool is there; none if it does not succeed in
time. -/
def probeOutput (line : Line) : Work (Option Output) :=
  Procedure.request (I := Interface.host)
    (HostRequest.probe line site.execWithSudo site.probeTimeout)

/-- The command succeeds in time. -/
def probe (line : Line) : Work Bool := do
  return (← site.probeOutput line).isSome

/-- The command succeeds. -/
def succeeds (line : Line) : Work Bool := do
  return (← (site.capture line).attempt).isOk

/-- Stops the database service. -/
def stopService : Work Unit := do
  Work.note "Stopping database service"
  site.exec (.given site.mysql.serviceStopCommand)

/-- Starts the database service. -/
def startService : Work Unit := do
  Work.note "Starting database service"
  site.exec (.given site.mysql.serviceStartCommand)

/-- Removes a file or a directory with all it holds; there may be none. -/
def removeLine (path : String) : Template := .single ["rm", "-rf", .value path]

/-- Makes a directory, with those above it; it may be there. -/
def makeDirectoryLine (path : String) : Template := .single ["mkdir", "-p", .value path]

/-- Gives the data directory to the account that the server runs under. -/
def chownLine : Template :=
  .single ["chown", "-R", .value (site.mysql.osUser ++ ":" ++ site.mysql.osUser),
    .value site.mysql.datadir]

/-- The place where the old data directory is kept. -/
def asidePath : String := FilePath.withExtension "seed-old" site.mysql.datadir

/-- Removes a file or a directory with all it holds; there may be none. -/
def removePath (path : String) : Work Unit := site.exec (removeLine path)

/-- Makes a directory, with those above it; it may be there. -/
def makeDirectory (path : String) : Work Unit := site.exec (makeDirectoryLine path)

/-- Gives the data directory to the account that the server runs under. -/
def chownDatadir : Work Unit := site.exec site.chownLine

/-- Empties the data directory, or moves it aside and makes a new one. -/
def clearDatadir : Work Unit := do
  let datadir := site.mysql.datadir
  if site.backupOldDatadir then
    Work.note ("Moving " ++ datadir ++ " aside")
    site.removePath site.asidePath
    site.exec (Template.single ["mv", .value datadir, .value site.asidePath])
    site.makeDirectory datadir
    site.chownDatadir
  else
    Work.note ("Clearing " ++ datadir)
    site.exec (Template.single ["find", .value datadir, "-mindepth", "1", "-delete"])

/-- The words that tell a client to connect to `host` and `port` with the account for seeds. -/
def clientArgs (host : String) (port : UInt16) : List WordTemplate :=
  [.option "--host=" host, ⟨["--port=", portText port]⟩, .option "--user=" site.mysql.seedUser,
    .option "--password=" site.mysql.seedPassword]

/-- The words that tell a client to connect to the server on this host. -/
def localClientArgs : List WordTemplate := site.clientArgs site.mysql.host site.mysql.port

/-- A program that listens on the port for seeds and writes what arrives. -/
def streamReceiver : List WordTemplate :=
  ["socat", "-u", ⟨["TCP-LISTEN:", portText site.seedPort, ",reuseaddr"]⟩, "stdio"]

/-- A program that sends what it reads to the port for seeds of a peer. -/
def streamSender (peer : String) : List WordTemplate :=
  ["socat", "-u", "stdio", ⟨["TCP:", .value peer, ":", portText site.seedPort]⟩]

/-- The text of a site in a diagnostic. -/
def diagnostic : String :=
  "MethodBase \x7b exec_with_sudo: " ++ toString site.execWithSudo ++ ", backup_dir: " ++
    Text.quotedPath site.backupDir ++ ", .. \x7d"

end ReplicaSeed.Site
