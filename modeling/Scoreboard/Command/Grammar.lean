import Scoreboard.Command.Reader
import Scoreboard.Command.WellFormed

namespace Scoreboard

open Text

abbrev Token : Type :=
  List Char

def plain (s : String) : Token :=
  s.toList

def quotedToken (s : String) : Token :=
  '"' :: s.toList ++ ['"']

/-- Digits with the given value, leading zeros allowed. -/
def IsDigits (n : Nat) (digits : Token) : Prop :=
  digits ≠ [] ∧ (∀ c ∈ digits, isDigit c = true) ∧ digits.length ≤ maxDigits ∧
    digitsValue digits = n

/-- The numerals of an integer that may be negative. Zero may have a minus sign. -/
def IsSigned (n : Int) (t : Token) : Prop :=
  Score.InRange n ∧ ∃ digits, IsDigits n.natAbs digits ∧
    (0 ≤ n ∧ t = digits ∨ n ≤ 0 ∧ t = '-' :: digits)

/-- The numerals of an integer that may not be negative. -/
def IsUnsigned (n : Int) (t : Token) : Prop :=
  IsAmount n ∧ IsDigits n.natAbs t

def Target.Written : Target → Token → Prop
  | player name, t => IsName name ∧ t = plain name
  | selector v, t => t = plain v.symbol
  | stray _, _ => False

def FunctionId.Written (id : FunctionId) (t : Token) : Prop :=
  id.WellFormed ∧ t = plain id.toText

def Interval.Written : Interval → Token → Prop
  | exactly score, t => IsSigned score t
  | between minimum maximum, t =>
    ∃ a b, IsSigned minimum a ∧ IsSigned maximum b ∧ t = a ++ '.' :: '.' :: b
  | atMost maximum, t => ∃ b, IsSigned maximum b ∧ t = '.' :: '.' :: b
  | atLeast minimum, t => ∃ a, IsSigned minimum a ∧ t = a ++ ['.', '.']

def Modification.Written : Modification → List Token → Prop
  | displayName name, ts => IsMessage name ∧ ts = [plain "displayname", quotedToken name]
  | renderType type, ts => ts = [plain "rendertype", plain type.word]

def ObjectivesCommand.Written : ObjectivesCommand → List Token → Prop
  | add objective criteria none, ts =>
    IsName objective ∧ ts = [plain "add", plain objective, plain criteria.word]
  | add objective criteria (some name), ts =>
    IsName objective ∧ IsMessage name ∧
      ts = [plain "add", plain objective, plain criteria.word, quotedToken name]
  | list, ts => ts = [plain "list"]
  | modify objective change, ts =>
    IsName objective ∧ ∃ rest, change.Written rest ∧ ts = plain "modify" :: plain objective :: rest
  | remove objective, ts => IsName objective ∧ ts = [plain "remove", plain objective]
  | setDisplay slot objective, ts =>
    IsName objective ∧ ts = [plain "setdisplay", plain slot.word, plain objective]

def PlayersCommand.Written : PlayersCommand → List Token → Prop
  | add target objective amount, ts =>
    IsName objective ∧ ∃ who n, target.Written who ∧ IsUnsigned amount n ∧
      ts = [plain "add", who, plain objective, n]
  | enable target objective, ts =>
    IsName objective ∧ ∃ who, target.Written who ∧ ts = [plain "enable", who, plain objective]
  | get target objective, ts =>
    IsName objective ∧ ∃ who, target.Written who ∧ ts = [plain "get", who, plain objective]
  | list none, ts => ts = [plain "list"]
  | list (some target), ts => ∃ who, target.Written who ∧ ts = [plain "list", who]
  | operation target targetObjective op source sourceObjective, ts =>
    IsName targetObjective ∧ IsName sourceObjective ∧ ∃ who whose, target.Written who ∧
      source.Written whose ∧ ts = [plain "operation", who, plain targetObjective, plain op.symbol,
        whose, plain sourceObjective]
  | remove target objective amount, ts =>
    IsName objective ∧ ∃ who n, target.Written who ∧ IsUnsigned amount n ∧
      ts = [plain "remove", who, plain objective, n]
  | reset target objective, ts =>
    IsName objective ∧ ∃ who, target.Written who ∧ ts = [plain "reset", who, plain objective]
  | set target objective score, ts =>
    IsName objective ∧ ∃ who n, target.Written who ∧ IsSigned score n ∧
      ts = [plain "set", who, plain objective, n]

def Condition.Written : Condition → List Token → Prop
  | compare target targetObjective relation source sourceObjective, ts =>
    IsName targetObjective ∧ IsName sourceObjective ∧ ∃ who whose, target.Written who ∧
      source.Written whose ∧
      ts = [who, plain targetObjective, plain relation.symbol, whose, plain sourceObjective]
  | inside target objective interval, ts =>
    IsName objective ∧ ∃ who range, target.Written who ∧ interval.Written range ∧
      ts = [who, plain objective, plain "matches", range]

def Command.Written : Command → List Token → Prop
  | objectives c, ts =>
    ∃ rest, c.Written rest ∧ ts = plain "scoreboard" :: plain "objectives" :: rest
  | players c, ts => ∃ rest, c.Written rest ∧ ts = plain "scoreboard" :: plain "players" :: rest
  | function id, ts => ∃ name, id.Written name ∧ ts = [plain "function", name]
  | execute condition run, ts => ∃ test rest, condition.Written test ∧ run.Written rest ∧
      ts = plain "execute" :: plain "if" :: plain "score" :: test ++ plain "run" :: rest
  | tellraw target message, ts =>
    IsMessage message ∧ ∃ who, target.Written who ∧ ts = [plain "tellraw", who, quotedToken message]
  | foreign _, _ => False

def spaced (ts : List Token) : List Char :=
  [' '].intercalate ts

/-- A line of text holds a command if it is the command's tokens, with blanks in front and line ends
behind. -/
def Command.IsHeldBy (c : Command) (line : String) : Prop :=
  ∃ before ts after, (∀ x ∈ before, isBlank x = true) ∧ c.Written ts ∧
    (∀ x ∈ after, isLineEnd x = true) ∧ line.toList = before ++ spaced ts ++ after

end Scoreboard
