import Mathlib.Logic.Function.Iterate
import Scoreboard.Proofs.Game.Invariant

namespace Scoreboard

inductive Task
  | run (c : Command)
  | leave
  deriving Repr, DecidableEq

def Task.isLeave : Task → Bool
  | leave => true
  | run _ => false

structure Machine where
  state : State
  /-- The counter that the limit on calls is checked against. -/
  depth : Int
  todo : List Task
  events : List Event
  fault : Option Fault
  deriving Repr, DecidableEq

def Rules.function? (rules : Rules) (id : FunctionId) : Option Function :=
  rules.datapack.bind fun pack => pack.find? id

namespace Machine

def active (m : Machine) : Nat :=
  m.todo.countP Task.isLeave

def push (m : Machine) (tasks : List Task) : Machine :=
  { m with todo := tasks ++ m.todo }

def settle (m : Machine) (o : Outcome) : Machine :=
  { m with state := o.state, events := m.events ++ o.events, fault := o.fault }

def called (m : Machine) (id : FunctionId) : Machine :=
  { m with
    depth := m.depth + 1
    events := m.events ++ [.executed (Command.function id).kind, .entered id] }

def enter (m : Machine) (id : FunctionId) (f : Function) : Machine :=
  (m.called id).push (f.commands.map .run ++ [.leave])

def leave (m : Machine) : Machine :=
  { m with depth := m.depth - 1, events := m.events ++ [.left] }

/-- A call that cannot be entered is refused like one with no calls left to nest. -/
def refuse (rules : Rules) (m : Machine) (id : FunctionId) : Machine :=
  m.settle ((rules.call 0 id m.state).preceded [.executed (Command.function id).kind])

/-- Begins to carry out a command. What is inside a function or under a condition is left to do; all
other commands are over at once. -/
def perform (rules : Rules) (m : Machine) : Command → Machine
  | .function id =>
    match rules.function? id with
    | none => m.refuse rules id
    | some f => if m.depth < rules.maxDepth then m.enter id f else m.refuse rules id
  | .execute condition run =>
    match condition.test m.state with
    | .error refusal =>
      m.settle ((Outcome.refused m.state refusal).preceded [.executed condition.kind])
    | .ok true =>
      (m.settle ((Outcome.nothing m.state).preceded [.executed condition.kind])).push [.run run]
    | .ok false => m.settle ((Outcome.nothing m.state).preceded [.executed condition.kind])
  | c => m.settle (c.runWith (fun _ => Outcome.nothing) m.state)

/-- After a fault the commands that are left are passed over, but functions are still left. -/
def step (rules : Rules) (m : Machine) : Machine :=
  match m.todo with
  | [] => m
  | .leave :: rest => { m with todo := rest }.leave
  | .run c :: rest =>
    match m.fault with
    | none => { m with todo := rest }.perform rules c
    | some _ => { m with todo := rest }

def Reaches (rules : Rules) (m m' : Machine) : Prop :=
  ∃ n, (step rules)^[n] m = m'

variable {rules : Rules} {m m' m'' : Machine}

theorem Reaches.refl (m : Machine) : Reaches rules m m :=
  ⟨0, rfl⟩

theorem Reaches.trans (h : Reaches rules m m') (h' : Reaches rules m' m'') :
    Reaches rules m m'' := by
  obtain ⟨n, rfl⟩ := h
  obtain ⟨k, rfl⟩ := h'
  exact ⟨k + n, Function.iterate_add_apply (step rules) k n m⟩

theorem reaches_step (rules : Rules) (m : Machine) : Reaches rules m (m.step rules) :=
  ⟨1, rfl⟩

theorem iterate_step_of_rest (rules : Rules) (h : m.todo = []) (n : Nat) :
    (step rules)^[n] m = m := by
  apply Function.iterate_fixed
  simp [step, h]

/-- A machine comes to rest in one way only. -/
theorem Reaches.unique (h : Reaches rules m m') (hrest : m'.todo = [])
    (h' : Reaches rules m m'') (hrest' : m''.todo = []) : m' = m'' := by
  obtain ⟨n, rfl⟩ := h
  obtain ⟨k, rfl⟩ := h'
  have hn := iterate_step_of_rest rules hrest k
  have hk := iterate_step_of_rest rules hrest' n
  rw [← Function.iterate_add_apply] at hn hk
  rw [← hn, ← hk, Nat.add_comm]

/-- The counter counts the functions that were entered and not left, from `base` on, and is never
raised beyond the limit. -/
structure Balanced (rules : Rules) (base : Int) (m : Machine) : Prop where
  counted : m.depth = base + m.active
  bounded : m.depth ≤ max base rules.maxDepth

@[simp] theorem active_push_run (m : Machine) (c : Command) :
    (m.push [.run c]).active = m.active := by
  simp [active, push, Task.isLeave]

theorem active_enter (m : Machine) (id : FunctionId) (f : Function) :
    (m.enter id f).active = m.active + 1 := by
  have hbody : (f.commands.map Task.run).countP Task.isLeave = 0 := by
    simp [List.countP_eq_zero, Task.isLeave]
  rw [active, enter, push, called, List.countP_append, List.countP_append, hbody]
  simp [active, List.countP_cons, Task.isLeave, Nat.add_comm]

theorem Balanced.perform {base : Int} (h : m.Balanced rules base) (c : Command) :
    (m.perform rules c).Balanced rules base := by
  have hsettled : ∀ o, (m.settle o).Balanced rules base := fun _ => ⟨h.counted, h.bounded⟩
  cases c with
  | objectives c => exact hsettled _
  | players c => exact hsettled _
  | tellraw target message => exact hsettled _
  | foreign kind => exact hsettled _
  | execute condition run =>
    rw [Machine.perform]
    split
    · exact hsettled _
    · refine ⟨?_, h.bounded⟩
      rw [active_push_run]
      exact h.counted
    · exact hsettled _
  | function id =>
    rw [Machine.perform]
    split
    · exact hsettled _
    · next f hf =>
      split
      · next hlt =>
        -- only here the counter rises, and it was below the limit
        constructor
        · have hcounted := h.counted
          rw [active_enter]
          show m.depth + 1 = _
          omega
        · show m.depth + 1 ≤ _
          omega
      · exact hsettled _

theorem Balanced.step {base : Int} (h : m.Balanced rules base) :
    (m.step rules).Balanced rules base := by
  have hcounted := h.counted
  have hbounded := h.bounded
  unfold Machine.step
  split
  · exact h
  · next rest htodo =>
    have hactive : m.active = rest.countP Task.isLeave + 1 := by
      simp [active, htodo, List.countP_cons, Task.isLeave]
    constructor
    · show m.depth - 1 = base + (rest.countP Task.isLeave : Nat)
      omega
    · show m.depth - 1 ≤ _
      omega
  · next c rest htodo =>
    have hactive : m.active = { m with todo := rest }.active := by
      simp [active, htodo, Task.isLeave]
    have hrest : { m with todo := rest }.Balanced rules base := ⟨hactive ▸ hcounted, hbounded⟩
    split
    · exact hrest.perform c
    · exact hrest

theorem Balanced.iterate {base : Int} (h : m.Balanced rules base) (n : Nat) :
    ((Machine.step rules)^[n] m).Balanced rules base := by
  induction n generalizing m with
  | zero => exact h
  | succ n ih => exact ih h.step

theorem push_append (m : Machine) (first second : List Task) :
    m.push (first ++ second) = (m.push second).push first := by
  simp [push]

theorem settle_nothing (h : m.fault = none) : m.settle (Outcome.nothing m.state) = m := by
  simp [settle, Outcome.nothing, ← h]

theorem settle_settle (m : Machine) (o o' : Outcome) :
    (m.settle o).settle o' = m.settle ⟨o'.state, o.events ++ o'.events, o'.fault⟩ := by
  simp [settle]

theorem step_push_run (h : m.fault = none) (c : Command) :
    (m.push [.run c]).step rules = m.perform rules c := by
  show (match m.fault with
    | none => m.perform rules c
    | some _ => m) = _
  rw [h]

theorem step_push_run_of_fault {f : Fault} (h : m.fault = some f) (c : Command) :
    (m.push [.run c]).step rules = m := by
  show (match m.fault with
    | none => m.perform rules c
    | some _ => m) = _
  rw [h]

theorem step_push_leave (m : Machine) : (m.push [.leave]).step rules = m.leave := by
  simp [step, push]

theorem reaches_perform (rules : Rules) (h : m.fault = none) (c : Command) :
    Reaches rules (m.push [.run c]) (m.perform rules c) := by
  rw [← step_push_run h]
  exact reaches_step rules _

theorem reaches_of_fault {f : Fault} (h : m.fault = some f) (commands : List Command) :
    Reaches rules (m.push (commands.map .run)) m := by
  induction commands with
  | nil => exact .refl m
  | cons c rest ih =>
    have hstep : (m.push (.run c :: rest.map .run)).step rules = m.push (rest.map .run) :=
      step_push_run_of_fault (m := m.push (rest.map .run)) h c
    apply Reaches.trans ?_ ih
    rw [← hstep]
    exact reaches_step rules _

/-- At a given depth of calls the machine does with each call what `call` says. -/
def CallsAs (rules : Rules) (depth : Int) (call : FunctionId → State → Outcome) : Prop :=
  ∀ (m : Machine) (id : FunctionId), m.depth = depth → m.fault = none →
    Reaches rules (m.push [.run (.function id)])
      (m.settle ((call id m.state).preceded [.executed (Command.function id).kind]))

variable {depth : Int} {call : FunctionId → State → Outcome}

theorem reaches_runWith (hcall : CallsAs rules depth call) (c : Command) (hdepth : m.depth = depth)
    (hfault : m.fault = none) :
    Reaches rules (m.push [.run c]) (m.settle (c.runWith call m.state)) := by
  induction c generalizing m with
  | function id => exact hcall m id hdepth hfault
  | objectives c => exact reaches_perform rules hfault _
  | players c => exact reaches_perform rules hfault _
  | tellraw target message => exact reaches_perform rules hfault _
  | foreign kind => exact reaches_perform rules hfault _
  | execute condition run ih =>
    have hfirst := reaches_perform rules hfault (.execute condition run)
    rw [perform] at hfirst
    rw [Command.runWith]
    cases htest : condition.test m.state with
    | error refusal =>
      rw [htest] at hfirst
      exact hfirst
    | ok holds =>
      rw [htest] at hfirst
      cases holds with
      | false => exact hfirst
      | true =>
        -- the guarded command runs in the state in which the condition was tested
        apply hfirst.trans
        have hrun := ih
          (m := m.settle ((Outcome.nothing m.state).preceded [.executed condition.kind]))
          hdepth rfl
        rw [settle_settle] at hrun
        exact hrun

theorem reaches_runAll (hcall : CallsAs rules depth call) (commands : List Command)
    (hdepth : m.depth = depth) (hfault : m.fault = none) :
    Reaches rules (m.push (commands.map .run))
      (m.settle (runAll (Command.runWith call) commands m.state)) := by
  induction commands generalizing m with
  | nil =>
    rw [runAll, settle_nothing hfault]
    exact .refl m
  | cons c rest ih =>
    have hfirst : Reaches rules ((m.push (rest.map .run)).push [.run c])
        ((m.push (rest.map .run)).settle (c.runWith call m.state)) :=
      reaches_runWith hcall c hdepth hfault
    apply Reaches.trans hfirst
    show Reaches rules ((m.settle (c.runWith call m.state)).push (rest.map .run)) _
    rw [runAll, Outcome.andThen]
    cases hf : (c.runWith call m.state).fault with
    | some f => exact reaches_of_fault hf rest
    | none =>
      have hrest := ih (m := m.settle (c.runWith call m.state)) hdepth hf
      rw [settle_settle] at hrest
      exact hrest

theorem withFunction_eq (rules : Rules) (id : FunctionId) (s : State) (next : Function → Outcome) :
    rules.withFunction id s next = match rules.function? id with
      | none => rules.call 0 id s
      | some f => next f := by
  unfold Rules.call Rules.withFunction Rules.function?
  cases rules.datapack with
  | none => rfl
  | some pack => cases h : pack.find? id <;> simp [h]

/-- By induction on the calls that are left to nest: the body of a function has one less. -/
theorem callsAs_call (rules : Rules) (depth : Int) :
    CallsAs rules depth (rules.call (rules.maxDepth - depth).toNat) := by
  generalize hleft : (rules.maxDepth - depth).toNat = left
  induction left generalizing depth with
  | zero =>
    intro m id hdepth hfault
    have hfirst := reaches_perform rules hfault (.function id)
    rw [perform] at hfirst
    have hlimit : ¬ m.depth < rules.maxDepth := by omega
    simp only [if_neg hlimit] at hfirst
    split at hfirst <;> exact hfirst
  | succ left ih =>
    intro m id hdepth hfault
    have hfirst := reaches_perform rules hfault (.function id)
    have hlimit : m.depth < rules.maxDepth := by omega
    rw [perform] at hfirst
    simp only [if_pos hlimit] at hfirst
    rw [Rules.call, withFunction_eq]
    cases hf : rules.function? id with
    | none =>
      rw [hf] at hfirst
      exact hfirst
    | some f =>
      rw [hf] at hfirst
      apply hfirst.trans
      let body := runAll (Command.runWith (rules.call left)) f.commands m.state
      have hdeeper : (m.called id).depth = depth + 1 := congrArg (· + 1) hdepth
      have hbody : Reaches rules (m.enter id f) (((m.called id).settle body).push [.leave]) := by
        rw [enter, push_append]
        exact reaches_runAll (ih (depth + 1) (by omega)) f.commands hdeeper hfault
      have hleave := reaches_step rules (((m.called id).settle body).push [.leave])
      rw [step_push_leave] at hleave
      have hreturn : ((m.called id).settle body).leave = m.settle (((body.preceded
          [.entered id]).followed [.left]).preceded [.executed (Command.function id).kind]) := by
        simp [called, settle, leave, Outcome.preceded, Outcome.followed]
      rw [← hreturn]
      exact hbody.trans hleave

end Machine

/-- A game between two moves: its state, and the counter of calls as the move before has left it. -/
structure Standing where
  state : State
  depth : Int
  deriving Repr, DecidableEq

namespace Standing

def given (g : Standing) (c : Command) : Machine :=
  ⟨g.state, g.depth, [.run c], [], none⟩

/-- Moves lead from one game to another when each command is carried out by the machine, until it
rests. What ends in a fault ends its own command only. -/
inductive Plays (rules : Rules) : Standing → List Move → Standing → Prop
  | nil (g : Standing) : Plays rules g [] g
  | addPlayer {s : State} {depth : Int} {name : String} {moves : List Move} {g : Standing}
      (hrest : Plays rules ⟨s.addPlayer name, depth⟩ moves g) :
      Plays rules ⟨s, depth⟩ (.addPlayer name :: moves) g
  | execute {g g' : Standing} {c : Command} {m : Machine} {moves : List Move}
      (hreach : Machine.Reaches rules (g.given c) m) (hdone : m.todo = [])
      (hrest : Plays rules ⟨m.state, m.depth⟩ moves g') : Plays rules g (.execute c :: moves) g'

variable {rules : Rules}

theorem reaches_given (rules : Rules) (g : Standing) (c : Command) :
    let o := c.runWith (rules.call (rules.maxDepth - g.depth).toNat) g.state
    Machine.Reaches rules (g.given c) ⟨o.state, g.depth, [], o.events, o.fault⟩ :=
  Machine.reaches_runWith (m := ⟨g.state, g.depth, [], [], none⟩)
    (Machine.callsAs_call rules g.depth) c rfl rfl

theorem balanced_given (rules : Rules) (g : Standing) (c : Command) :
    (g.given c).Balanced rules g.depth :=
  ⟨(Int.add_zero g.depth).symm, Int.le_max_left g.depth rules.maxDepth⟩

theorem reaches_run (rules : Rules) (s : State) (c : Command) :
    Machine.Reaches rules (given ⟨s, 0⟩ c)
      ⟨(c.run rules s).state, 0, [], (c.run rules s).events, (c.run rules s).fault⟩ := by
  have h := reaches_given rules ⟨s, 0⟩ c
  simp only [Int.sub_zero] at h
  exact h

/-- Every command leaves the counter where it was, at zero. -/
theorem plays_foldl (rules : Rules) (moves : List Move) (s : State) :
    Plays rules ⟨s, 0⟩ moves ⟨moves.foldl (Move.apply rules) s, 0⟩ := by
  induction moves generalizing s with
  | nil => exact .nil _
  | cons move rest ih =>
    cases move with
    | addPlayer name => exact .addPlayer (ih _)
    | execute c => exact .execute (reaches_run rules s c) rfl (ih _)

theorem Plays.unique {g g₁ g₂ : Standing} {moves : List Move} (h₁ : Plays rules g moves g₁)
    (h₂ : Plays rules g moves g₂) : g₁ = g₂ := by
  induction h₁ with
  | nil g =>
    cases h₂
    rfl
  | addPlayer hrest ih =>
    cases h₂ with
    | addPlayer hrest' => exact ih hrest'
  | execute hreach hdone hrest ih =>
    cases h₂ with
    | execute hreach' hdone' hrest' =>
      have hm := hreach.unique hdone hreach' hdone'
      subst hm
      exact ih hrest'

/-- Every command comes to rest, in any game and whatever the functions call, with the counter of
calls as it was before; at every step the counter tells how many calls are under way, and these are
no more than the limit leaves. Hence moves from outside, those that end in a fault included, leave
the counter of a new game at zero, and the next command does what it does in a new game of that
state. -/
theorem commands_come_to_rest (rules : Rules) :
    (∀ (g : Standing) (c : Command),
      (∃ n, ((Machine.step rules)^[n] (g.given c)).todo = [] ∧
        ((Machine.step rules)^[n] (g.given c)).depth = g.depth) ∧
      ∀ n, ((Machine.step rules)^[n] (g.given c)).depth =
          g.depth + ((Machine.step rules)^[n] (g.given c)).active ∧
        ((Machine.step rules)^[n] (g.given c)).active ≤ (rules.maxDepth - g.depth).toNat) ∧
    ∀ (s : State) (moves : List Move), ∃ g : Standing,
      Plays rules ⟨s, 0⟩ moves g ∧ (∀ g', Plays rules ⟨s, 0⟩ moves g' → g' = g) ∧
      g.state = moves.foldl (Move.apply rules) s ∧ g.depth = 0 ∧
      ∀ c : Command, g.given c = given ⟨g.state, 0⟩ c ∧
        Machine.Reaches rules (g.given c) ⟨(c.run rules g.state).state, 0, [],
          (c.run rules g.state).events, (c.run rules g.state).fault⟩ := by
  constructor
  · intro g c
    constructor
    · obtain ⟨n, hn⟩ := reaches_given rules g c
      refine ⟨n, ?_⟩
      rw [hn]
      exact ⟨rfl, rfl⟩
    · intro n
      have hbalanced := (balanced_given rules g c).iterate n
      have hcounted := hbalanced.counted
      have hbounded := hbalanced.bounded
      refine ⟨hcounted, ?_⟩
      omega
  · intro s moves
    refine ⟨⟨moves.foldl (Move.apply rules) s, 0⟩, plays_foldl rules moves s, ?_, rfl, rfl, ?_⟩
    · intro g' h
      exact h.unique (plays_foldl rules moves s)
    · intro c
      exact ⟨rfl, reaches_run rules _ c⟩

end Standing

end Scoreboard
