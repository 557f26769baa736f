import Scoreboard.Command.Basic
import Scoreboard.Text.Word

namespace Scoreboard

/-- A name has at least one character, and letters, numbers and underscores only. -/
def IsName (s : String) : Prop :=
  s.toList ≠ [] ∧ ∀ c ∈ s.toList, Text.isWord c = true

/-- A message may hold any character but the one that encloses it. -/
def IsMessage (s : String) : Prop :=
  '"' ∉ s.toList

def IsAmount (n : Int) : Prop :=
  0 ≤ n ∧ n ≤ Score.greatest

def Target.WellFormed : Target → Prop
  | player name => IsName name
  | selector _ => True
  | stray _ => False

def FunctionId.WellFormed (id : FunctionId) : Prop :=
  IsName id.name ∧ ∀ scope, id.scope = some scope → IsName scope

/-- The lower bound may be the greater one. -/
def Interval.WellFormed : Interval → Prop
  | exactly score => Score.InRange score
  | between minimum maximum => Score.InRange minimum ∧ Score.InRange maximum
  | atMost maximum => Score.InRange maximum
  | atLeast minimum => Score.InRange minimum

def Modification.WellFormed : Modification → Prop
  | displayName name => IsMessage name
  | renderType _ => True

def ObjectivesCommand.WellFormed : ObjectivesCommand → Prop
  | add objective _ displayName =>
    IsName objective ∧ ∀ name, displayName = some name → IsMessage name
  | list => True
  | modify objective change => IsName objective ∧ change.WellFormed
  | remove objective => IsName objective
  | setDisplay _ objective => IsName objective

def PlayersCommand.WellFormed : PlayersCommand → Prop
  | add target objective amount => target.WellFormed ∧ IsName objective ∧ IsAmount amount
  | enable target objective => target.WellFormed ∧ IsName objective
  | get target objective => target.WellFormed ∧ IsName objective
  | list target => ∀ t, target = some t → t.WellFormed
  | operation target targetObjective _ source sourceObjective =>
    target.WellFormed ∧ IsName targetObjective ∧ source.WellFormed ∧ IsName sourceObjective
  | remove target objective amount => target.WellFormed ∧ IsName objective ∧ IsAmount amount
  | reset target objective => target.WellFormed ∧ IsName objective
  | set target objective score => target.WellFormed ∧ IsName objective ∧ Score.InRange score

def Condition.WellFormed : Condition → Prop
  | compare target targetObjective _ source sourceObjective =>
    target.WellFormed ∧ IsName targetObjective ∧ source.WellFormed ∧ IsName sourceObjective
  | inside target objective interval =>
    target.WellFormed ∧ IsName objective ∧ interval.WellFormed

def Command.WellFormed : Command → Prop
  | objectives c => c.WellFormed
  | players c => c.WellFormed
  | function id => id.WellFormed
  | execute condition run => condition.WellFormed ∧ run.WellFormed
  | tellraw target message => target.WellFormed ∧ IsMessage message
  | foreign _ => False

end Scoreboard
