import Scoreboard.Game.Players

namespace Scoreboard

/-- A condition on a score that is not set is false. -/
def Condition.test (s : State) : Condition → Except Refusal Bool
  | compare target targetObjective relation source sourceObjective => do
    let ((left, o), right, o') ← s.cells target targetObjective source sourceObjective
    match o.scores.get? left, o'.scores.get? right with
    | some m, some n => return relation.holds m n
    | _, _ => return false
  | inside target objective interval => do
    let (player, o) ← s.cell target objective
    match o.scores.get? player with
    | some n => return interval.contains n
    | none => return false

end Scoreboard
