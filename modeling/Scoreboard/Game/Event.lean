import Scoreboard.Command.Render
import Scoreboard.Text.Numeral

namespace Scoreboard

inductive Level
  | info | fail
  deriving Repr, DecidableEq

inductive Event
  | executed (kind : String)
  | reported (level : Level) (message : String)
  | said (player message : String)
  | entered (function : FunctionId)
  | left
  deriving Repr, DecidableEq

namespace Event

def entry? : Event → Option (Level × String)
  | reported level message => some (level, message)
  | _ => none

def saying? : Event → Option (String × String)
  | said player message => some (player, message)
  | _ => none

def log (events : List Event) : List (Level × String) :=
  events.filterMap entry?

def chat (events : List Event) : List (String × String) :=
  events.filterMap saying?

@[simp] theorem log_append (a b : List Event) : log (a ++ b) = log a ++ log b :=
  List.filterMap_append

@[simp] theorem chat_append (a b : List Event) : chat (a ++ b) = chat a ++ chat b :=
  List.filterMap_append

end Event

/-- What ends a command before it is done. -/
inductive Fault
  | selector (v : Selector)
  | stray (v : Stray)
  /-- A report of the given level would hold an integer that cannot be written. -/
  | unwritable (level : Level)
  deriving Repr, DecidableEq

def Fault.message : Fault → String
  | selector v => "Entity selector " ++ v.symbol ++ " is not supported; use a player name"
  | stray v => (RenderError.target v).message
  | unwritable _ =>
    "Exceeds the limit (" ++ toString Text.maxDigits ++
      " digits) for integer string conversion; " ++
      "use sys.set_int_max_str_digits() to increase the limit"

/-- Why something is not found: a fault, or a failure that is reported. -/
inductive Refusal
  | fault (f : Fault)
  | failure (message : String)
  deriving Repr, DecidableEq

/-- The player that a target stands for. -/
def Target.resolve : Target → Except Fault String
  | player name => .ok name
  | selector v => .error (.selector v)
  | stray v => .error (.stray v)

def Target.player? (t : Target) : Except Refusal String :=
  t.resolve.mapError .fault

def info (message : String) : Event :=
  .reported .info message

def bracket (s : String) : String :=
  "[" ++ s ++ "]"

end Scoreboard
