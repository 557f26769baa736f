import Scoreboard.Text.Basic

namespace Scoreboard

open Text

/-- A comment's first character that is not blank is `#`. -/
def isCommandLine (line : String) : Bool :=
  match trim line.toList with
  | [] => false
  | c :: _ => c != '#'

end Scoreboard
