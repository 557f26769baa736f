import Scoreboard.Datapack.FunctionText
import Scoreboard.Files.Tree
import Scoreboard.Game.Session
import Scoreboard.Text.Terminal

namespace Scoreboard

inductive Channel
  | output | errors
  deriving Repr, DecidableEq

/-- A failure that the program does not handle. -/
inductive Abort
  | badLogLevel
  | numeralTooLong
  | stray
  | file (e : FileError)
  | load (e : LoadError)
  deriving Repr, DecidableEq

inductive Ending
  | exit (code : Nat)
  | misuse
  | aborted (why : Abort)
  deriving Repr, DecidableEq

structure Report where
  printed : List (Channel × String)
  ending : Ending
  deriving Repr, DecidableEq

namespace Report

/-- All that is printed to a channel. Both spellings of a line end are read as a line feed. -/
def text (channel : Channel) (r : Report) : String :=
  let all := String.join ((r.printed.filter fun p => p.1 = channel).map Prod.snd)
  String.ofList (Text.joinLineEnds all.toList)

def after (printed : List (Channel × String)) (r : Report) : Report :=
  { r with printed := printed ++ r.printed }

end Report

def outputLine (s : String) : Channel × String :=
  (.output, Text.printed s)

def errorLine (s : String) : Channel × String :=
  (.errors, Text.printed s)

/-- What an event prints, if anything. Chat shows whom it is said to. -/
def Event.shown? : Event → Option (Channel × String)
  | reported _ message => some (outputLine message)
  | said player message => some (outputLine ("<" ++ player ++ "> " ++ message))
  | _ => none

def shownEvents (events : List Event) : List (Channel × String) :=
  events.filterMap Event.shown?

/-- A mistake in a line: the line, a mark under the place, and the message. -/
def shownMistake (lead line : String) (e : SyntaxError) : List (Channel × String) := [
  errorLine (String.ofList (Text.chomp line.toList)),
  errorLine (String.ofList (List.replicate e.position ' ' ++ ['^'])),
  errorLine (lead ++ e.message)]

def lineLead (number : Nat) : String :=
  "line " ++ toString number ++ ", "

/-- What a line that was not carried out prints, and the failure that ends the program, if one
does. -/
def shownError (lead line : String) : LineError → Except Abort (List (Channel × String))
  | .parse (.invalid e) => .ok (shownMistake lead line e)
  | .parse .numeralTooLong => .error .numeralTooLong
  | .fault (.selector v) => .ok [errorLine (lead ++ (Fault.selector v).message)]
  | .fault (.stray _) => .error .stray
  | .fault (.unwritable _) => .error .numeralTooLong

end Scoreboard
