import ReplicaSeed.Toolbox.Job

/-!
# Options of programs

The words that a program is given are options and operands, in any order; after two dashes there are
only operands. Short options may be joined in one word, and the value of an option may follow it in
the same word or be the next one.

## Main definitions

* `OptionSet`: the options of a program.
* `OptionSet.read`: the options and operands among its words.
-/

namespace ReplicaSeed.Toolbox

/-- The options of a program. -/
structure OptionSet where
  /-- Short options without a value. -/
  flags : List Char
  /-- Short options with a value. -/
  valued : List Char := []
  /-- Long names of options, each with its letter. -/
  long : List (String × Char) := []
  /-- Letters that stand only for long names with a value. -/
  longValued : List Char := []

/-- An option with its value, which is empty for a flag. -/
structure GivenOption where
  letter : Char
  value : String := ""
  deriving DecidableEq, Repr

/-- Options and operands. -/
structure GivenWords where
  options : List GivenOption := []
  operands : List String := []

namespace GivenWords

/-- The option was given. -/
def has (g : GivenWords) (letter : Char) : Bool := g.options.any (·.letter = letter)

/-- The last value of an option. -/
def value? (g : GivenWords) (letter : Char) : Option String :=
  (g.options.reverse.find? (·.letter = letter)).map (·.value)

end GivenWords

namespace OptionSet

variable (set : OptionSet)

/-- The options in one word after its dash, and whether the last one still wants its value. -/
def readCluster : List Char → Except String (List GivenOption × Option Char)
  | [] => .ok ([], none)
  | c :: cs =>
    if set.flags.contains c then
      (readCluster cs).map fun (options, open_) => (⟨c, ""⟩ :: options, open_)
    else if set.valued.contains c then
      if cs = [] then .ok ([], some c) else .ok ([⟨c, String.ofList cs⟩], none)
    else .error ("invalid option -- '" ++ String.ofList [c] ++ "'")

/-- The option of a long word, and whether it still wants its value. -/
def readLong (word : String) : Except String (List GivenOption × Option Char) :=
  let (name, value?) := match Text.splitOnce? '=' word.toList with
    | some (name, value) => (String.ofList name, some (String.ofList value))
    | none => (word, none)
  match set.long.lookup name, value? with
  | none, _ => .error ("unrecognized option '--" ++ word ++ "'")
  | some c, some value =>
    if wantsValue c then .ok ([⟨c, value⟩], none)
    else .error ("option '--" ++ name ++ "' doesn't allow an argument")
  | some c, none => if wantsValue c then .ok ([], some c) else .ok ([⟨c, ""⟩], none)
where
  wantsValue (c : Char) : Bool := set.valued.contains c || set.longValued.contains c

/-- The text for an option without its value. -/
def missingValue (letter : Char) : String :=
  "option requires an argument -- '" ++ String.ofList [letter] ++ "'"

/-- Sorts words into options and operands, while an option may want its value. -/
def readFrom (wanted : Option Char) : List String → Except String GivenWords
  | [] =>
    match wanted with
    | none => .ok {}
    | some c => .error (missingValue c)
  | w :: ws =>
    match wanted with
    | some c => (readFrom none ws).map fun g => { g with options := ⟨c, w⟩ :: g.options }
    | none =>
      let withOptions : Except String (List GivenOption × Option Char) → Except String GivenWords
        | .error e => .error e
        | .ok (options, wanted) =>
          (readFrom wanted ws).map fun g => { g with options := options ++ g.options }
      match w.toList with
      | ['-', '-'] => .ok ⟨[], ws⟩
      | '-' :: '-' :: name => withOptions (set.readLong (String.ofList name))
      | '-' :: c :: cs => withOptions (set.readCluster (c :: cs))
      | _ => (readFrom none ws).map fun g => { g with operands := w :: g.operands }

/-- The options and operands among the words of a program. -/
def read (words : List String) : Except String GivenWords := set.readFrom none words

end OptionSet

/-- Refuses the use of a program, with a hint. -/
def JobM.misuse (name text : String) (code : Nat) : JobM Unit := do
  JobM.warn (name ++ ": " ++ text)
  JobM.complain ("Try '" ++ name ++ " --help' for more information.") code

/-- A program with options: what it does with them, or its refusal. -/
def withOptions (name : String) (set : OptionSet) (code : Nat) (body : GivenWords → JobM Unit) :
    Tool := fun words =>
  match set.read words with
  | .error text => JobM.misuse name text code
  | .ok given => body given

end ReplicaSeed.Toolbox
