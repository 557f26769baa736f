import Scoreboard.Score

namespace Scoreboard

inductive Criteria
  | dummy
  deriving Repr, DecidableEq

inductive RenderType
  | hearts | integer
  deriving Repr, DecidableEq

inductive DisplaySlot
  | belowName | list | sidebar
  deriving Repr, DecidableEq

/-- The entity selectors, by their letters: nearest player, random player, all players, all
entities, and the one that runs the command. -/
inductive Selector
  | p | r | a | e | s
  deriving Repr, DecidableEq

namespace Criteria

def all : List Criteria := [dummy]

def word : Criteria → String
  | dummy => "dummy"

end Criteria

namespace RenderType

def all : List RenderType := [hearts, integer]

def word : RenderType → String
  | hearts => "hearts"
  | integer => "integer"

end RenderType

namespace DisplaySlot

def all : List DisplaySlot := [belowName, list, sidebar]

def word : DisplaySlot → String
  | belowName => "belowName"
  | list => "list"
  | sidebar => "sidebar"

end DisplaySlot

namespace Selector

def all : List Selector := [p, r, a, e, s]

def letter : Selector → String
  | p => "p"
  | r => "r"
  | a => "a"
  | e => "e"
  | s => "s"

def symbol (v : Selector) : String :=
  "@" ++ v.letter

end Selector

/-- A value that is no part of a command: nothing at all, a number, or a text. -/
inductive Stray
  | nothing
  | number (n : Int)
  | text (s : String)
  deriving Repr, DecidableEq

inductive Target
  | player (name : String)
  | selector (v : Selector)
  | stray (v : Stray)
  deriving Repr, DecidableEq

/-- The name of a function, in a scope of its own or in none. -/
structure FunctionId where
  name : String
  scope : Option String
  deriving Repr, DecidableEq

def FunctionId.toText (id : FunctionId) : String :=
  match id.scope with
  | none => id.name
  | some scope => scope ++ ":" ++ id.name

inductive Modification
  | displayName (name : String)
  | renderType (type : RenderType)
  deriving Repr, DecidableEq

inductive ObjectivesCommand
  | add (objective : String) (criteria : Criteria) (displayName : Option String)
  | list
  | modify (objective : String) (change : Modification)
  | remove (objective : String)
  | setDisplay (slot : DisplaySlot) (objective : String)
  deriving Repr, DecidableEq

inductive PlayersCommand
  | add (target : Target) (objective : String) (score : Int)
  | enable (target : Target) (objective : String)
  | get (target : Target) (objective : String)
  | list (target : Option Target)
  | operation (target : Target) (targetObjective : String) (op : Operation)
      (source : Target) (sourceObjective : String)
  | remove (target : Target) (objective : String) (score : Int)
  | reset (target : Target) (objective : String)
  | set (target : Target) (objective : String) (score : Int)
  deriving Repr, DecidableEq

/-- What must be true of the scores for a guarded command to be run. -/
inductive Condition
  | compare (target : Target) (targetObjective : String) (relation : Comparison)
      (source : Target) (sourceObjective : String)
  | inside (target : Target) (objective : String) (interval : Interval)
  deriving Repr, DecidableEq

inductive Command
  | objectives (c : ObjectivesCommand)
  | players (c : PlayersCommand)
  | function (id : FunctionId)
  | execute (condition : Condition) (run : Command)
  | tellraw (target : Target) (message : String)
  /-- An object of another kind, where a command should stand. -/
  | foreign (kind : String)
  deriving Repr, DecidableEq

namespace ObjectivesCommand

def kind : ObjectivesCommand → String
  | add .. => "ObjectivesAdd"
  | list => "ObjectivesList"
  | modify .. => "ObjectivesModify"
  | remove .. => "ObjectivesRemove"
  | setDisplay .. => "ObjectivesSetDisplay"

end ObjectivesCommand

namespace PlayersCommand

def kind : PlayersCommand → String
  | add .. => "PlayersAdd"
  | enable .. => "PlayersEnable"
  | get .. => "PlayersGet"
  | list .. => "PlayersList"
  | operation .. => "PlayersOperation"
  | remove .. => "PlayersRemove"
  | reset .. => "PlayersReset"
  | set .. => "PlayersSet"

end PlayersCommand

namespace Condition

def kind : Condition → String
  | compare .. => "SourceComparison"
  | inside .. => "RangeComparison"

end Condition

namespace Command

/-- The name of a command's kind, under which its execution is recorded. -/
def kind : Command → String
  | objectives c => c.kind
  | players c => c.kind
  | function _ => "FunctionCommand"
  | execute condition _ => condition.kind
  | tellraw .. => "Tellraw"
  | foreign kind => kind

end Command

end Scoreboard
