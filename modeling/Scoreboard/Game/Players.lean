import Scoreboard.Game.Objectives
import Scoreboard.Text.Numeral

namespace Scoreboard

open Text

namespace State

/-- The player and the objective that a target and a name stand for. The target is resolved before
the objective is looked up. -/
def cell (s : State) (target : Target) (objective : String) :
    Except Refusal (String × Objective) := do
  let player ← target.player?
  let o ← s.objective objective
  return (player, o)

/-- The players and the objectives of two scores. Both targets are resolved before any objective is
looked up. -/
def cells (s : State) (target : Target) (targetObjective : String) (source : Target)
    (sourceObjective : String) : Except Refusal ((String × Objective) × String × Objective) := do
  let taker ← target.player?
  let giver ← source.player?
  let o ← s.objective targetObjective
  let o' ← s.objective sourceObjective
  return ((taker, o), (giver, o'))

/-- A player without a score counts as having zero. -/
def addScore (s : State) (target : Target) (objective : String) (amount : Int) : Outcome :=
  .given s (s.cell target objective) fun (player, o) =>
    let score := Score.wrap ((o.scores.get? player).getD 0 + amount)
    (s.setScore objective player score).inform [do
      return "Added " ++ (← numeral? amount) ++ " to " ++ bracket o.displayName ++ " for " ++
        player ++ " (now " ++ (← numeral? score) ++ ")"]

def removeScore (s : State) (target : Target) (objective : String) (amount : Int) : Outcome :=
  .given s (s.cell target objective) fun (player, o) =>
    let score := Score.wrap ((o.scores.get? player).getD 0 - amount)
    (s.setScore objective player score).inform [do
      return "Removed " ++ (← numeral? amount) ++ " from " ++ bracket o.displayName ++ " for " ++
        player ++ " (now " ++ (← numeral? score) ++ ")"]

/-- The score is stored as it is, also out of range. -/
def putScore (s : State) (target : Target) (objective : String) (score : Int) : Outcome :=
  .given s (s.cell target objective) fun (player, o) =>
    (s.setScore objective player score).inform [do
      return "Set " ++ bracket o.displayName ++ " for " ++ player ++ " to " ++ (← numeral? score)]

def getScore (s : State) (target : Target) (objective : String) : Outcome :=
  .given s (s.cell target objective) fun (player, o) =>
    match o.scores.get? player with
    | none =>
      .refused s
        (.failure ("Can't get value of " ++ objective ++ " for " ++ player ++ "; none is set"))
    | some score =>
      s.inform [do return player ++ " has " ++ (← numeral? score) ++ " " ++ bracket o.displayName]

def resetScore (s : State) (target : Target) (objective : String) : Outcome :=
  .given s (s.cell target objective) fun (player, _) =>
    (s.eraseScore objective player).inform [some ("Reset score " ++ objective ++ " for " ++ player)]

/-- Only a trigger objective can be enabled, and no objective is one. -/
def enable (s : State) (target : Target) (objective : String) : Outcome :=
  .given s (s.cell target objective) fun _ =>
    .refused s (.failure "You can only enable trigger-objectives")

def listTracked (s : State) : Outcome :=
  s.inform [some (
    if s.tracked.isEmpty then
      "There are no tracked entities"
    else
      "There are " ++ toString s.tracked.length ++ " tracked entities: " ++
        " ".intercalate (s.tracked.map bracket))]

def listed (score : String × Int) : Option String := do
  return bracket score.1 ++ ": " ++ (← numeral? score.2)

def listEach (s : State) (player : String) (scores : List (String × Int)) : Outcome :=
  if scores.isEmpty then
    s.inform [some (player ++ " has no scores")]
  else
    s.inform (some (player ++ " has " ++ toString scores.length ++ " scores:") ::
      scores.map listed)

def listScores (s : State) (target : Target) : Outcome :=
  .given s target.player? fun player => s.listEach player (s.scoresOf player)

/-- Stores the results of an operation on the scores of two players. The source's is stored first,
so that the target's stands where both are one. -/
def exchange (s : State) (taker : String) (o : Objective) (targetObjective giver
    sourceObjective : String) (new : Int × Int) : Outcome :=
  ((s.setScore sourceObjective giver new.2).setScore targetObjective taker new.1).inform [do
    return "Set " ++ bracket o.displayName ++ " for " ++ taker ++ " to " ++ (← numeral? new.1)]

def divisionByZero (s : State) : Outcome :=
  .refused s (.failure "Can't divide by zero")

def operate (s : State) (target : Target) (targetObjective : String) (op : Operation)
    (source : Target) (sourceObjective : String) : Outcome :=
  .given s (s.cells target targetObjective source sourceObjective) fun ((taker, o), giver, o') =>
    match op.apply ((o.scores.get? taker).getD 0) ((o'.scores.get? giver).getD 0) with
    | none => s.divisionByZero
    | some new => s.exchange taker o targetObjective giver sourceObjective new

end State

def PlayersCommand.perform (s : State) : PlayersCommand → Outcome
  | add target objective amount => s.addScore target objective amount
  | enable target objective => s.enable target objective
  | get target objective => s.getScore target objective
  | list none => s.listTracked
  | list (some target) => s.listScores target
  | operation target targetObjective op source sourceObjective =>
    s.operate target targetObjective op source sourceObjective
  | remove target objective amount => s.removeScore target objective amount
  | reset target objective => s.resetScore target objective
  | set target objective score => s.putScore target objective score

end Scoreboard
