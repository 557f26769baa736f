import Scoreboard.Command.Parse
import Scoreboard.Dispatch.Job
import Scoreboard.Game.Execute

namespace Scoreboard

inductive Worker
  | live
  | stopped
  /-- A job has ended the worker. -/
  | crashed
  deriving Repr, DecidableEq

structure Dispatcher where
  rules : Rules
  /-- How many jobs may wait; any number if this is not positive. -/
  capacity : Int
  memory : Nat
  jobs : List Job
  queue : List Nat
  workers : List Worker
  /-- The worker that can be stopped. -/
  current : Option Nat
  /-- The jobs that finished last, newest first. -/
  history : List Nat
  game : State
  deriving Repr, DecidableEq

namespace Dispatcher

def fresh (rules : Rules) (capacity : Int) (memory : Nat) : Dispatcher :=
  ⟨rules, capacity, memory, [], [], [], none, [], .empty⟩

/-- There is no dispatcher that remembers fewer than no jobs; without a number of its own, the
history is as long as the queue. -/
def new? (rules : Rules) (capacity : Int) (memory : Option Int) : Option Dispatcher :=
  match memory.getD capacity with
  | .ofNat n => some (fresh rules capacity n)
  | .negSucc _ => none

def isFull (d : Dispatcher) : Bool :=
  0 < d.capacity && d.capacity ≤ d.queue.length

def worker? (d : Dispatcher) : Option Worker :=
  d.current.bind fun i => d.workers[i]?

/-- Starts a worker unless the current one is live. -/
def start (d : Dispatcher) : Dispatcher × List Notice :=
  match d.worker? with
  | some .live => (d, [])
  | _ =>
    ({ d with workers := d.workers ++ [.live], current := some d.workers.length },
      [.started d.capacity])

def stopFails (d : Dispatcher) : Bool :=
  d.worker? == some .crashed

/-- Ends the current worker; jobs that wait go on waiting. Of a worker that crashed there is nothing
to report. -/
def stop (d : Dispatcher) : Dispatcher × List Notice :=
  match d.current with
  | none => (d, [])
  | some i =>
    match d.workers[i]? with
    | some .live => ({ d with workers := d.workers.set i .stopped, current := none }, [.stopped])
    | _ => ({ d with current := none }, [])

/-- Hands in a line. The number of the job is given back unless the queue is full. -/
def submit (d : Dispatcher) (line : String) : Dispatcher × Option Nat × List Notice :=
  let number := d.jobs.length
  let jobs := d.jobs ++ [.fresh line]
  if d.isFull then
    ({ d with jobs := jobs }, none, [])
  else
    let queue := d.queue ++ [number]
    ({ d with jobs := jobs, queue := queue }, some number, [.submitted number line queue.length])

inductive Verdict
  | rejected (e : SyntaxError)
  | ran (o : Outcome)
  /-- The worker ends with the job: the line cannot even be rejected, or the fault is not one that a
  job can fail by. -/
  | crash (o : Outcome)

def judge (rules : Rules) (line : String) (game : State) : Verdict :=
  match parse line with
  | .error (.invalid e) => .rejected e
  | .error .numeralTooLong => .crash (.nothing game)
  | .ok c =>
    let o := c.run rules game
    match o.fault with
    | none | some (.selector _) => .ran o
    | some (.stray _) | some (.unwritable _) => .crash o

def Verdict.record (line : String) : Verdict → Job
  | rejected e => ⟨line, .rejected, [], some e.message, true⟩
  | ran o =>
    match o.fault with
    | none => ⟨line, .succeeded, Event.log o.events, none, true⟩
    | some f => ⟨line, .failed, Event.log o.events, some f.message, true⟩
  | crash _ => ⟨line, .running, [], none, false⟩

def Verdict.notices (number : Nat) : Verdict → List Notice
  | rejected e => [.rejected number e.message]
  | ran o =>
    o.events.map .game ++
      match o.fault with
      | none => [.succeeded number]
      | some f => [.failed number f.message]
  | crash o => o.events.map .game

def Verdict.stateAfter (game : State) : Verdict → State
  | rejected _ => game
  | ran o | crash o => o.state

def afterJob (d : Dispatcher) (i number : Nat) (rest : List Nat) (job : Job) : Dispatcher :=
  let verdict := judge d.rules job.line d.game
  let record := verdict.record job.line
  { d with
    queue := rest
    jobs := d.jobs.set number record
    game := verdict.stateAfter d.game
    history := if record.finished then (number :: d.history).take d.memory else d.history
    workers := match verdict with | .crash _ => d.workers.set i .crashed | _ => d.workers }

/-- A worker takes the first job of the queue and is done with it. If it is not live or no job
waits, nothing happens. -/
def work (d : Dispatcher) (i : Nat) : Dispatcher × List Notice :=
  match d.workers[i]?, d.queue with
  | some .live, number :: rest =>
    match d.jobs[number]? with
    | none => ({ d with queue := rest, workers := d.workers.set i .crashed }, [.taken number])
    | some job =>
      (d.afterJob i number rest job,
        .taken number :: (judge d.rules job.line d.game).notices number)
  | _, _ => (d, [])

def workTimes (i : Nat) : Nat → Dispatcher → Dispatcher × List Notice
  | 0, d => (d, [])
  | n + 1, d =>
    let first := d.work i
    let others := workTimes i n first.1
    (others.1, first.2 ++ others.2)

def wouldBlock (d : Dispatcher) : Bool :=
  !d.queue.isEmpty && d.worker? != some .live

def join (d : Dispatcher) : Dispatcher × List Notice :=
  match d.current with
  | none => (d, [])
  | some i => workTimes i d.queue.length d

def job? (d : Dispatcher) (number : Nat) : Option Job :=
  d.jobs[number]?

/-- The finished jobs that are remembered, newest first: at most `limit`, or all but the last
`-limit` if that is negative. -/
def recent (d : Dispatcher) (limit : Int) : List Nat :=
  match limit with
  | .ofNat n => d.history.take n
  | .negSucc n => d.history.take (d.history.length - (n + 1))

def unknownJob (id : String) : String :=
  "Unknown command job id: " ++ id

end Dispatcher

end Scoreboard
