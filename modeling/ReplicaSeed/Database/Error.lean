/-!
# Failures of the database

Why a statement gave no usable answer.
-/

namespace ReplicaSeed

/-- Why a statement gave no usable answer. -/
inductive DatabaseError where
  /-- What came back is no answer of a server. -/
  | protocol (text : String)
  /-- The server refused the statement. -/
  | server (code : Nat) (state text : String)
  /-- There is no row where one is needed. -/
  | noRow
  | noColumn (name : String)
  /-- The value of a column is not of the type it is read as. -/
  | badValue (column : String)
  /-- The connection is gone. -/
  | disconnected
  deriving DecidableEq, Repr

/-- The text of a failure. -/
def DatabaseError.message : DatabaseError → String
  | protocol text => "encountered unexpected or invalid data: " ++ text
  | server code state text =>
    "error returned from database: " ++ toString code ++ " (" ++ state ++ "): " ++ text
  | noRow => "no rows returned by a query that expected to return at least one row"
  | noColumn name => "no column found for name: " ++ name
  | badValue column => "error occurred while decoding column " ++ column
  | disconnected => "error communicating with database"

end ReplicaSeed
