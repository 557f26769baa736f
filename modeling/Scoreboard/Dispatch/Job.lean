import Scoreboard.Game.Event

namespace Scoreboard

inductive Status
  | queued | running | succeeded | rejected | failed
  deriving Repr, DecidableEq

def Status.word : Status → String
  | queued => "queued"
  | running => "running"
  | succeeded => "succeeded"
  | rejected => "rejected"
  | failed => "failed"

structure Job where
  line : String
  status : Status
  output : List (Level × String)
  error : Option String
  finished : Bool
  deriving Repr, DecidableEq

/-- A job that nothing has been done about. -/
def Job.fresh (line : String) : Job :=
  ⟨line, .queued, [], none, false⟩

/-- What a dispatcher gives out while it works. Jobs are named by their numbers. -/
inductive Notice
  | started (capacity : Int)
  | stopped
  | submitted (job : Nat) (line : String) (waiting : Nat)
  | taken (job : Nat)
  | rejected (job : Nat) (error : String)
  | failed (job : Nat) (error : String)
  | succeeded (job : Nat)
  | game (event : Event)
  deriving Repr, DecidableEq

namespace Notice

def event? : Notice → Option Event
  | game event => some event
  | _ => none

def events (notices : List Notice) : List Event :=
  notices.filterMap event?

def taken? : Notice → Option Nat
  | taken job => some job
  | _ => none

end Notice

end Scoreboard
