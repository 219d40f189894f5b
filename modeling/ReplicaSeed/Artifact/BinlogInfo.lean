import ReplicaSeed.Artifact.Fault
import ReplicaSeed.Seed.Coordinates
import ReplicaSeed.Text.Search

/-!
# The log information of a physical backup

A backup by `xtrabackup` tells its coordinates in a file of one line: file, position and transaction
set with tabs between them; the set may go on over further lines.

## Main definitions

* `BinlogInfo.parse`: the coordinates of a file.
-/

namespace ReplicaSeed.BinlogInfo

/-- The coordinates of a file. -/
def parse (text : List Char) : Except ArtifactFault Coordinates := do
  let lines := Text.lines text
  let fields := Text.splitOn '\t' (lines.headD [])
  let file := Text.trim (fields.headD [])
  if file = [] then throw .emptyBinlogInfo
  match fields.tail with
  | [] => throw .missingPosition
  | pos :: sets =>
    let pos := Text.trim pos
    match Text.readInt64 pos with
    | .error cause => throw (.badPosition pos cause)
    | .ok n => return ⟨String.ofList file, n, normalizeGtid (sets.flatten ++ lines.tail.flatten)⟩

end ReplicaSeed.BinlogInfo
