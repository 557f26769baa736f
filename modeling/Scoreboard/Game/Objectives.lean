import Scoreboard.Game.Outcome

namespace Scoreboard

def unknownObjective (name : String) : String :=
  "Unknown scoreboard objective '" ++ name ++ "'"

namespace State

def objective (s : State) (name : String) : Except Refusal Objective :=
  match s.objectives.get? name with
  | some o => .ok o
  | none => .error (.failure (unknownObjective name))

def addObjective (s : State) (name : String) (criteria : Criteria) (displayName : Option String) :
    Outcome :=
  if s.objectives.contains name then
    .refused s (.failure "An objective already exists by that name")
  else
    let shown := displayName.getD name
    { s with objectives := s.objectives.set name ⟨shown, .integer, criteria, .empty⟩ }.inform
      [some ("Created new objective " ++ bracket shown)]

def listObjectives (s : State) : Outcome :=
  s.inform [some (
    if s.objectives.isEmpty then
      "There are no objectives"
    else
      "There are " ++ toString s.objectives.size ++ " objectives: " ++
        " ".intercalate (s.objectives.values.map fun o => bracket o.displayName))]

/-- A change to what is already there has no effect and is not reported. -/
def modifyObjective (s : State) (name : String) (change : Modification) : Outcome :=
  .given s (s.objective name) fun o =>
    match change with
    | .displayName shown =>
      if o.displayName = shown then
        .nothing s
      else
        (s.modify name fun o => { o with displayName := shown }).inform
          [some ("Changed objective " ++ name ++ " display name to " ++ bracket shown)]
    | .renderType type =>
      if o.renderType = type then
        .nothing s
      else
        (s.modify name fun o => { o with renderType := type }).inform
          [some ("Changed objective " ++ bracket o.displayName ++ " render type")]

/-- The slots that showed the objective show nothing from then on. -/
def removeObjective (s : State) (name : String) : Outcome :=
  .given s (s.objective name) fun o =>
    { s with
      objectives := s.objectives.erase name
      displays := s.displays.mapValues fun shown => if shown = some name then none else shown
        }.inform [some ("Removed objective " ++ bracket o.displayName)]

def setDisplay (s : State) (slot : DisplaySlot) (name : String) : Outcome :=
  .given s (s.objective name) fun o =>
    if s.displays.get? slot = some (some name) then
      .refused s
        (.failure "Nothing changed. That display slot is already showing that objective")
    else
      { s with displays := s.displays.set slot (some name) }.inform
        [some ("Set display slot " ++ slot.word ++ " to show objective " ++ o.displayName)]

end State

def ObjectivesCommand.perform (s : State) : ObjectivesCommand → Outcome
  | add objective criteria displayName => s.addObjective objective criteria displayName
  | list => s.listObjectives
  | modify objective change => s.modifyObjective objective change
  | remove objective => s.removeObjective objective
  | setDisplay slot objective => s.setDisplay slot objective

end Scoreboard
