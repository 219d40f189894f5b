import ReplicaSeed.Text.Numeral

/-!
# Unusable artifacts

Why a file that a backup left does not tell its replication coordinates.
-/

namespace ReplicaSeed

/-- Why a file does not tell its coordinates. A `line` or `value` is the text that was no help. -/
inductive ArtifactFault where
  | notText
  | headerWithoutCoordinates
  | noLogFile (line : List Char)
  | noLogPosition (line : List Char)
  | badLogPosition (line : List Char) (cause : Text.NumeralFault)
  | metadataWithoutCoordinates
  | badPosition (value : List Char) (cause : Text.NumeralFault)
  | emptyBinlogInfo
  | missingPosition
  | notJson
  | sidecarWithoutLogFile
  deriving DecidableEq, Repr

/-- The text of a fault. -/
def ArtifactFault.message : ArtifactFault → String
  | .notText => "stream did not contain valid UTF-8"
  | .headerWithoutCoordinates => "no CHANGE MASTER TO line in dump header"
  | .noLogFile line => "no log file in `" ++ String.ofList line ++ "`"
  | .noLogPosition line => "no log position in `" ++ String.ofList line ++ "`"
  | .badLogPosition line cause =>
    "bad log position in `" ++ String.ofList line ++ "`: " ++ cause.message
  | .metadataWithoutCoordinates => "no binlog coordinates in metadata file"
  | .badPosition value cause => "bad position `" ++ String.ofList value ++ "`: " ++ cause.message
  | .emptyBinlogInfo => "empty binlog info"
  | .missingPosition => "missing binlog position"
  | .notJson => "<json>"
  | .sidecarWithoutLogFile => "sidecar has no log file"

end ReplicaSeed
