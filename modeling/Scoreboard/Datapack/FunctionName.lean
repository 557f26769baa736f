import Scoreboard.Command.Basic

namespace Scoreboard

def FunctionId.ofText (s : String) : FunctionId :=
  let reversed := s.toList.reverse
  let name := (reversed.takeWhile (· != ':')).reverse
  let scope := ((reversed.dropWhile (· != ':')).drop 1).reverse
  ⟨String.ofList name, if scope.isEmpty then none else some (String.ofList scope)⟩

end Scoreboard
