import Scoreboard.Command.Line
import Scoreboard.Command.Parse
import Scoreboard.Game.Execute

namespace Scoreboard

inductive LineError
  | parse (e : ParseError)
  | fault (f : Fault)
  deriving Repr, DecidableEq

/-- What lines of text lead to, and the commands that they held or the error that ended them. -/
structure Played (α : Type) where
  state : State
  events : List Event
  result : Except LineError α

namespace Rules

/-- Carries out a line; the command is `none` if the line holds none. -/
def runLine (rules : Rules) (line : String) (s : State) : Played (Option Command) :=
  if isCommandLine line then
    match parse line with
    | .error e => ⟨s, [], .error (.parse e)⟩
    | .ok c =>
      let o := c.run rules s
      match o.fault with
      | none => ⟨o.state, o.events, .ok (some c)⟩
      | some f => ⟨o.state, o.events, .error (.fault f)⟩
  else
    ⟨s, [], .ok none⟩

/-- Carries out lines in order, up to the first that ends in an error. -/
def runLines (rules : Rules) : List String → State → Played (List Command)
  | [], s => ⟨s, [], .ok []⟩
  | line :: rest, s =>
    let first := rules.runLine line s
    match first.result with
    | .error e => ⟨first.state, first.events, .error e⟩
    | .ok c =>
      let others := rules.runLines rest first.state
      ⟨others.state, first.events ++ others.events, others.result.map (c.toList ++ ·)⟩

end Rules

end Scoreboard
