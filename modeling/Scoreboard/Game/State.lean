import Scoreboard.Command.Basic
import Scoreboard.Table

namespace Scoreboard

structure Objective where
  displayName : String
  renderType : RenderType
  criteria : Criteria
  scores : Table String Int
  deriving Repr, DecidableEq

structure State where
  objectives : Table String Objective
  /-- A slot whose objective was removed stays, and shows nothing. -/
  displays : Table DisplaySlot (Option String)
  players : Table String String
  deriving Repr, DecidableEq

namespace State

def empty : State :=
  ⟨.empty, .empty, .empty⟩

instance : Inhabited State :=
  ⟨empty⟩

def addPlayer (s : State) (name : String) : State :=
  { s with players := s.players.set name name }

def score? (s : State) (objective player : String) : Option Int :=
  (s.objectives.get? objective).bind fun o => o.scores.get? player

def modify (s : State) (objective : String) (f : Objective → Objective) : State :=
  match s.objectives.get? objective with
  | none => s
  | some o => { s with objectives := s.objectives.set objective (f o) }

def setScore (s : State) (objective player : String) (score : Int) : State :=
  s.modify objective fun o => { o with scores := o.scores.set player score }

def eraseScore (s : State) (objective player : String) : State :=
  s.modify objective fun o => { o with scores := o.scores.erase player }

/-- The players that are registered or have a score, each once, in order of first appearance. -/
def tracked (s : State) : List String :=
  (s.players.keys ++ s.objectives.values.flatMap fun o => o.scores.keys).eraseDups

def scoresOf (s : State) (player : String) : List (String × Int) :=
  s.objectives.values.filterMap fun o =>
    (o.scores.get? player).map fun score => (o.displayName, score)

end State

end Scoreboard
