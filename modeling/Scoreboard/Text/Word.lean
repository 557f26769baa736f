import Scoreboard.Text.WordRanges
import Scoreboard.Text.Basic

namespace Scoreboard.Text

def isDigit (c : Char) : Bool :=
  '0' ≤ c && c ≤ '9'

/-- A letter, a number or the underscore. Only characters beyond the ASCII range are looked up. -/
def isWord (c : Char) : Bool :=
  if c.toNat < 0x80 then c.isAlphanum || c == '_' else inRanges wordRanges c.toNat

def digitsValue (s : List Char) : Nat :=
  s.foldl (fun n c => 10 * n + (c.toNat - '0'.toNat)) 0

end Scoreboard.Text
