import Scoreboard.Dispatch.Basic

namespace Scoreboard

inductive Act
  | start
  | stop
  | submit (line : String)
  | work (worker : Nat)
  deriving Repr, DecidableEq

namespace Dispatcher

def act (d : Dispatcher) : Act → Dispatcher × List Notice
  | .start => d.start
  | .stop => d.stop
  | .submit line =>
    let (next, _, notices) := d.submit line
    (next, notices)
  | .work worker => d.work worker

def run (d : Dispatcher) : List Act → Dispatcher × List Notice
  | [] => (d, [])
  | a :: rest =>
    let first := d.act a
    let others := run first.1 rest
    (others.1, first.2 ++ others.2)

@[simp] theorem run_nil (d : Dispatcher) : d.run [] = (d, []) := rfl

theorem run_cons (d : Dispatcher) (a : Act) (rest : List Act) :
    d.run (a :: rest) = (((d.act a).1.run rest).1, (d.act a).2 ++ ((d.act a).1.run rest).2) := rfl

end Dispatcher

end Scoreboard
