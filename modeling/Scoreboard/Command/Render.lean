import Scoreboard.Command.Basic
import Scoreboard.Text.Quoted

namespace Scoreboard

/-- The first part of a tree that has no text. -/
inductive RenderError
  | command (kind : String)
  | target (v : Stray)
  | interval (v : Stray)
  deriving Repr, DecidableEq

def Stray.describe : Stray → String
  | nothing => "None"
  | number n => toString n
  | text s => Text.quote s

def RenderError.message : RenderError → String
  | command kind => "Cannot lower " ++ kind
  | target v => "Cannot lower target " ++ v.describe
  | interval v => "Cannot lower interval " ++ v.describe

def Target.render : Target → Except RenderError String
  | player name => .ok name
  | selector v => .ok v.symbol
  | stray v => .error (.target v)

def Interval.render : Interval → String
  | exactly score => toString score
  | between minimum maximum => toString minimum ++ ".." ++ toString maximum
  | atMost maximum => ".." ++ toString maximum
  | atLeast minimum => toString minimum ++ ".."

def renderInterval : Stray ⊕ Interval → Except RenderError String
  | .inl v => .error (.interval v)
  | .inr interval => .ok interval.render

def enclose (s : String) : String :=
  "\"" ++ s ++ "\""

def Modification.render : Modification → String
  | displayName name => "displayname " ++ enclose name
  | renderType type => "rendertype " ++ type.word

def ObjectivesCommand.render : ObjectivesCommand → String
  | add objective criteria none => "add " ++ objective ++ " " ++ criteria.word
  | add objective criteria (some name) =>
    "add " ++ objective ++ " " ++ criteria.word ++ " " ++ enclose name
  | list => "list"
  | modify objective change => "modify " ++ objective ++ " " ++ change.render
  | remove objective => "remove " ++ objective
  | setDisplay slot objective => "setdisplay " ++ slot.word ++ " " ++ objective

def PlayersCommand.render : PlayersCommand → Except RenderError String
  | add target objective score => do
    return "add " ++ (← target.render) ++ " " ++ objective ++ " " ++ toString score
  | enable target objective => do
    return "enable " ++ (← target.render) ++ " " ++ objective
  | get target objective => do
    return "get " ++ (← target.render) ++ " " ++ objective
  | list none => return "list"
  | list (some target) => do
    return "list " ++ (← target.render)
  | operation target targetObjective op source sourceObjective => do
    let left ← target.render
    let right ← source.render
    return "operation " ++ left ++ " " ++ targetObjective ++ " " ++ op.symbol ++ " " ++ right ++ " "
      ++ sourceObjective
  | remove target objective score => do
    return "remove " ++ (← target.render) ++ " " ++ objective ++ " " ++ toString score
  | reset target objective => do
    return "reset " ++ (← target.render) ++ " " ++ objective
  | set target objective score => do
    return "set " ++ (← target.render) ++ " " ++ objective ++ " " ++ toString score

def Condition.render : Condition → Except RenderError String
  | compare target targetObjective relation source sourceObjective => do
    let left ← target.render
    let right ← source.render
    return left ++ " " ++ targetObjective ++ " " ++ relation.symbol ++ " " ++ right ++ " "
      ++ sourceObjective
  | inside target objective interval => do
    return (← target.render) ++ " " ++ objective ++ " matches " ++ interval.render

def Command.render : Command → Except RenderError String
  | objectives c => return "scoreboard objectives " ++ c.render
  | players c => do
    return "scoreboard players " ++ (← c.render)
  | function id => return "function " ++ id.toText
  | execute condition run => do
    let guard ← condition.render
    return "execute if score " ++ guard ++ " run " ++ (← run.render)
  | tellraw target message => do
    return "tellraw " ++ (← target.render) ++ " " ++ enclose message
  | foreign kind => .error (.command kind)

end Scoreboard
