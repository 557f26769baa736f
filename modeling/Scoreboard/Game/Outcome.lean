import Scoreboard.Game.Event
import Scoreboard.Game.State

namespace Scoreboard

/-- The state that was reached, the events on the way there, and the fault that ended the way. -/
structure Outcome where
  state : State
  events : List Event
  fault : Option Fault
  deriving Repr, DecidableEq

namespace Outcome

def nothing (s : State) : Outcome :=
  ⟨s, [], none⟩

/-- A command is given up in the state `s`; a failure is reported. -/
def refused (s : State) : Refusal → Outcome
  | .fault f => ⟨s, [], some f⟩
  | .failure message => ⟨s, [.reported .fail message], none⟩

def preceded (events : List Event) (o : Outcome) : Outcome :=
  { o with events := events ++ o.events }

/-- An outcome with events after its own, whether or not a fault ended the way. -/
def followed (o : Outcome) (events : List Event) : Outcome :=
  { o with events := o.events ++ events }

/-- Goes on from the state that was reached, unless a fault ended the way. -/
def andThen (o : Outcome) (next : State → Outcome) : Outcome :=
  match o.fault with
  | some _ => o
  | none =>
    let o' := next o.state
    ⟨o'.state, o.events ++ o'.events, o'.fault⟩

/-- Reports messages one after another in the state `s`, up to the first that cannot be written. -/
def reports (s : State) (level : Level) : List (Option String) → Outcome
  | [] => nothing s
  | none :: _ => ⟨s, [], some (.unwritable level)⟩
  | some message :: rest => (reports s level rest).preceded [.reported level message]

/-- Goes on with what was looked for in the state `s`, if it was found. -/
def given {α : Type} (s : State) (found : Except Refusal α) (next : α → Outcome) : Outcome :=
  match found with
  | .error refusal => refused s refusal
  | .ok a => next a

end Outcome

namespace State

def inform (s : State) (messages : List (Option String)) : Outcome :=
  .reports s .info messages

end State

end Scoreboard
