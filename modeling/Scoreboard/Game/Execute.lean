import Scoreboard.Datapack.Basic
import Scoreboard.Game.Condition

namespace Scoreboard

/-- Carries out a command; `call` says what calling a function does. -/
def Command.runWith (call : FunctionId → State → Outcome) : Command → State → Outcome
  | objectives c, s => (c.perform s).preceded [.executed c.kind]
  | players c, s => (c.perform s).preceded [.executed c.kind]
  | function id, s => (call id s).preceded [.executed (Command.function id).kind]
  | execute condition run, s =>
    (Outcome.given s (condition.test s) fun holds =>
      if holds then run.runWith call s else .nothing s).preceded [.executed condition.kind]
  | tellraw target message, s =>
    (Outcome.given s target.player? fun player => ⟨s, [.said player message], none⟩).preceded
      [.executed (Command.tellraw target message).kind]
  | foreign kind, s => Outcome.refused s (.failure ("Unsupported command: " ++ kind))

/-- Runs commands one after another, up to the first that ends in a fault. -/
def runAll (run : Command → State → Outcome) : List Command → State → Outcome
  | [], s => Outcome.nothing s
  | c :: rest, s => (run c s).andThen (runAll run rest)

/-- What a game is played with: the functions that can be called, and how deep calls may nest. -/
structure Rules where
  datapack : Option Datapack
  maxDepth : Int
  deriving Repr, DecidableEq

def Rules.depthExceeded (rules : Rules) (id : FunctionId) : Option String := do
  return "Maximum function call depth of " ++ (← Text.numeral? rules.maxDepth) ++
    " exceeded in '" ++ id.toText ++ "'"

def Rules.withFunction (rules : Rules) (id : FunctionId) (s : State)
    (next : Function → Outcome) : Outcome :=
  match rules.datapack with
  | none => Outcome.refused s (.failure "No datapack is loaded")
  | some pack =>
    match pack.find? id with
    | none => Outcome.refused s (.failure ("Unknown function '" ++ id.toText ++ "'"))
    | some f => next f

/-- Calls a function, with as many calls as given left to nest. -/
def Rules.call (rules : Rules) : Nat → FunctionId → State → Outcome
  | 0, id, s =>
    rules.withFunction id s fun _ => .reports s .fail [rules.depthExceeded id]
  | left + 1, id, s =>
    rules.withFunction id s fun f =>
      ((runAll (Command.runWith (rules.call left)) f.commands s).preceded
        [.entered id]).followed [.left]

/-- Carries out a command that no function called. -/
def Command.run (rules : Rules) (c : Command) (s : State) : Outcome :=
  c.runWith (rules.call rules.maxDepth.toNat) s

end Scoreboard
