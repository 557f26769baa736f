import Scoreboard.Command.Basic

namespace Scoreboard

structure Function where
  id : FunctionId
  commands : List Command
  deriving Repr, DecidableEq

structure Datapack where
  name : String
  functions : List Function
  deriving Repr, DecidableEq

/-- The first function of the given name. -/
def Datapack.find? (pack : Datapack) (id : FunctionId) : Option Function :=
  pack.functions.find? fun f => f.id = id

end Scoreboard
