import Scoreboard.Command.Line
import Scoreboard.Command.Parse
import Scoreboard.Datapack.Basic
import Scoreboard.Text.Lines

namespace Scoreboard

inductive LoadError
  | notFound (path : String)
  | notAnArchive (path : String)
  | badLine (function : FunctionId) (number : Nat) (e : SyntaxError)
  | numeralTooLong
  | notText
  | isDirectory
  | noHome
  | pathTooLong
  deriving Repr, DecidableEq

/-- The message for those errors that are the datapack's own. -/
def LoadError.message? : LoadError → Option String
  | notFound path => some ("Datapack not found: " ++ path)
  | notAnArchive path => some ("Failed to read zip format: " ++ path)
  | badLine function number e =>
    some (function.toText ++ " line " ++ toString number ++ ", " ++ e.message)
  | numeralTooLong => none
  | notText => none
  | isDirectory => none
  | noHome => none
  | pathTooLong => none

/-- The commands on the lines of a function, the first of which has the given number. Blanks around
a command are ignored. -/
def commandsOfLines (id : FunctionId) : Nat → List String → Except LoadError (List Command)
  | _, [] => .ok []
  | number, line :: rest =>
    if isCommandLine line then
      match parse (Text.trimmed line) with
      | .error (.invalid e) => .error (.badLine id number e)
      | .error .numeralTooLong => .error .numeralTooLong
      | .ok c => (commandsOfLines id (number + 1) rest).map (c :: ·)
    else
      commandsOfLines id (number + 1) rest

/-- Lines count from one. -/
def Function.ofText (id : FunctionId) (text : String) : Except LoadError Function :=
  (commandsOfLines id 1 (Text.fileLines text)).map fun commands => ⟨id, commands⟩

end Scoreboard
