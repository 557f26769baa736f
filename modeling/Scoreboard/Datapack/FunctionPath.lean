import Scoreboard.Command.Basic
import Scoreboard.Text.Word

namespace Scoreboard

open Text

def afterLead? (lead s : List Char) : Option (List Char) :=
  lead.isPrefixOf? s

/-- The word that a text begins with, and what follows it. -/
def leadingWord? (s : List Char) : Option (String × List Char) :=
  match s.takeWhile isWord with
  | [] => none
  | taken => some (String.ofList taken, s.dropWhile isWord)

def afterFolder? (s : List Char) : Option (List Char) :=
  match afterLead? "/functions/".toList s with
  | some rest => some rest
  | none => afterLead? "/function/".toList s

/-- The name of the function that a file of a datapack holds, if it holds one. A line feed at the
end of the path is ignored. -/
def FunctionId.ofPath? (path : String) : Option FunctionId := do
  let (scope, rest) ← leadingWord? (← afterLead? "data/".toList path.toList)
  let (name, rest) ← leadingWord? (← afterFolder? rest)
  let rest ← afterLead? ".mcfunction".toList rest
  if rest = [] ∨ rest = ['\n'] then some ⟨name, some scope⟩ else none

end Scoreboard
