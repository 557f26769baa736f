import Mathlib.Algebra.Order.Group.Unbundled.Int
import Scoreboard.Proofs.Game.Machine
import Scoreboard.Proofs.Game.Operations

namespace Scoreboard

/-- What a step without a result asked for. -/
inductive Undefined
  | quotientByZero
  | missingKey
  | firstOfNone
  deriving Repr, DecidableEq

def floorDiv (m n : Int) : Except Undefined Int :=
  if n = 0 then .error .quotientByZero else .ok (m.fdiv n)

def first {α : Type} : List α → Except Undefined α
  | [] => .error .firstOfNone
  | a :: _ => .ok a

theorem first_singleton {α : Type} (a : α) : first [a] = .ok a := rfl

def Table.fetch {κ α : Type} [DecidableEq κ] (t : Table κ α) (key : κ) : Except Undefined α :=
  match t.get? key with
  | some value => .ok value
  | none => .error .missingKey

theorem ok_bind {ε α β : Type} {x : Except ε α} {a : α} (h : x = .ok a) (f : α → Except ε β) :
    (x >>= f) = f a := by
  rw [h]
  rfl

def Outcome.attemptGiven {α : Type} (s : State) (found : Except Refusal α)
    (next : α → Except Undefined Outcome) : Except Undefined Outcome :=
  match found with
  | .error refusal => .ok (refused s refusal)
  | .ok a => next a

theorem Outcome.attemptGiven_eq {α : Type} {s : State} {found : Except Refusal α}
    {attempt : α → Except Undefined Outcome} {next : α → Outcome}
    (h : ∀ a, found = .ok a → attempt a = .ok (next a)) :
    attemptGiven s found attempt = .ok (given s found next) := by
  cases found with
  | error refusal => rfl
  | ok a => exact h a rfl

/-- Quotient rounded toward zero and remainder, from the quotient of the absolute values. -/
def Score.attemptQuotRem (dividend divisor : Int) : Except Undefined (Int × Int) := do
  let size ← floorDiv |dividend| |divisor|
  let quotient := if (dividend < 0) ≠ (divisor < 0) then -size else size
  return (quotient, dividend - divisor * quotient)

theorem Score.attemptQuotRem_eq {divisor : Int} (h : divisor ≠ 0) (dividend : Int) :
    attemptQuotRem dividend divisor = .ok (dividend.tdiv divisor, dividend.tmod divisor) := by
  have hquotient : (if (dividend < 0) ≠ (divisor < 0) then -(|dividend|.fdiv |divisor|)
      else |dividend|.fdiv |divisor|) = dividend.tdiv divisor := by
    rw [Int.fdiv_eq_tdiv_of_nonneg (abs_nonneg dividend) (abs_nonneg divisor)]
    -- the sign of the quotient of the absolute values is put right afterwards
    rcases lt_or_ge dividend 0 with hm | hm <;> rcases lt_or_ge divisor 0 with hn | hn <;>
      simp [hm, hn, abs_of_neg, abs_of_nonneg, not_lt_of_ge, Int.neg_tdiv, Int.tdiv_neg]
  rw [attemptQuotRem, floorDiv, if_neg (abs_ne_zero.2 h)]
  show Except.ok (_, _) = _
  rw [hquotient, Int.tmod_def]

def Operation.functions : Table Operation (Int → Int → Except Undefined (Int × Int)) :=
  ⟨[(.add, fun t s => .ok (Score.wrap (t + s), s)),
    (.subtract, fun t s => .ok (Score.wrap (t - s), s)),
    (.multiply, fun t s => .ok (Score.wrap (t * s), s)),
    (.divide, fun t s => (Score.attemptQuotRem t s).map fun qr => (Score.wrap qr.1, s)),
    (.remainder, fun t s => (Score.attemptQuotRem t s).map fun qr => (Score.wrap qr.2, s)),
    (.assign, fun _ s => .ok (s, s)),
    (.minimum, fun t s => .ok (min t s, s)),
    (.maximum, fun t s => .ok (max t s, s)),
    (.swap, fun t s => .ok (s, t))]⟩

def Comparison.functions : Table Comparison (Int → Int → Bool) :=
  ⟨[(.less, fun m n => m < n), (.lessEqual, fun m n => m ≤ n), (.equal, fun m n => m = n),
    (.greater, fun m n => m > n), (.greaterEqual, fun m n => m ≥ n)]⟩

theorem Comparison.fetch_functions (relation : Comparison) :
    functions.fetch relation = .ok relation.holds := by
  cases relation <;> rfl

/-- Every operation has a function, and it has a result unless a score would be divided by zero. -/
theorem Operation.fetch_functions (op : Operation) :
    ∃ f, functions.fetch op = .ok f ∧
      ∀ t s, ¬ (s = 0 ∧ op.Divides) → ∃ r, f t s = .ok r ∧ op.apply t s = some r := by
  cases op with
  | divide | remainder =>
    refine ⟨_, rfl, fun t s h => ?_⟩
    have hs : s ≠ 0 := fun hs => h ⟨hs, by decide⟩
    simp only [Score.attemptQuotRem_eq hs, apply, Score.quotRem?, if_neg hs]
    exact ⟨_, rfl, rfl⟩
  | add | subtract | multiply | assign | minimum | maximum | swap =>
    exact ⟨_, rfl, fun _ _ _ => ⟨_, rfl, rfl⟩⟩

/-- A target stands for a list of players, always of one, of which a condition asks the first. -/
def Condition.attempt (s : State) : Condition → Except Undefined (Except Refusal Bool)
  | compare target targetObjective relation source sourceObjective =>
    match s.cells target targetObjective source sourceObjective with
    | .error refusal => return .error refusal
    | .ok ((left, o), right, o') => do
      match o.scores.get? (← first [left]), o'.scores.get? (← first [right]) with
      | some m, some n =>
        let holds ← Comparison.functions.fetch relation
        return .ok (holds m n)
      | _, _ => return .ok false
  | inside target objective interval =>
    match s.cell target objective with
    | .error refusal => return .error refusal
    | .ok (player, o) => do
      match o.scores.get? (← first [player]) with
      | some n => return .ok (interval.contains n)
      | none => return .ok false

namespace State

/-- Whether the source's score is zero is asked before the operation, if it divides. -/
def attemptOperate (s : State) (target : Target) (targetObjective : String) (op : Operation)
    (source : Target) (sourceObjective : String) : Except Undefined Outcome :=
  Outcome.attemptGiven s (s.cells target targetObjective source sourceObjective)
    fun ((taker, o), giver, o') => do
      let apply ← Operation.functions.fetch op
      let t := (o.scores.get? taker).getD 0
      let u := (o'.scores.get? giver).getD 0
      if u = 0 ∧ op.Divides then
        return s.divisionByZero
      else
        return s.exchange taker o targetObjective giver sourceObjective (← apply t u)

/-- The scores are fetched from the objectives that have one for the player. -/
def attemptScoresOf (s : State) (player : String) : Except Undefined (List (String × Int)) :=
  (s.objectives.values.filter fun o => o.scores.contains player).mapM fun o => do
    return (o.displayName, ← o.scores.fetch player)

def attemptListScores (s : State) (target : Target) : Except Undefined Outcome :=
  Outcome.attemptGiven s target.player? fun player => do
    return s.listEach player (← s.attemptScoresOf player)

end State

/-- Only these two have steps that could be undefined. -/
def PlayersCommand.attempt (s : State) : PlayersCommand → Except Undefined Outcome
  | list (some target) => s.attemptListScores target
  | operation target targetObjective op source sourceObjective =>
    s.attemptOperate target targetObjective op source sourceObjective
  | c => .ok (c.perform s)

def Command.attemptWith (call : FunctionId → State → Except Undefined Outcome) :
    Command → State → Except Undefined Outcome
  | players c, s => do
    return (← c.attempt s).preceded [.executed c.kind]
  | function id, s => do
    return (← call id s).preceded [.executed (Command.function id).kind]
  | execute condition run, s => do
    let o ← Outcome.attemptGiven s (← condition.attempt s) fun holds =>
      if holds then run.attemptWith call s else .ok (.nothing s)
    return o.preceded [.executed condition.kind]
  | c, s => .ok (c.runWith (fun _ => Outcome.nothing) s)

def attemptAll (attempt : Command → State → Except Undefined Outcome) :
    List Command → State → Except Undefined Outcome
  | [], s => .ok (Outcome.nothing s)
  | c :: rest, s => do
    let o ← attempt c s
    match o.fault with
    | some _ => return o
    | none =>
      let o' ← attemptAll attempt rest o.state
      return ⟨o'.state, o.events ++ o'.events, o'.fault⟩

def Rules.attemptCall (rules : Rules) : Nat → FunctionId → State → Except Undefined Outcome
  | 0, id, s => .ok (rules.call 0 id s)
  | left + 1, id, s =>
    match rules.function? id with
    | none => .ok (rules.call 0 id s)
    | some f => do
      let o ← attemptAll (Command.attemptWith (rules.attemptCall left)) f.commands s
      return (o.preceded [.entered id]).followed [.left]

def Command.attempt (rules : Rules) (c : Command) (s : State) : Except Undefined Outcome :=
  c.attemptWith (rules.attemptCall rules.maxDepth.toNat) s

theorem Condition.attempt_eq (d : Condition) (s : State) : d.attempt s = .ok (d.test s) := by
  cases d with
  | compare target targetObjective relation source sourceObjective =>
    rw [attempt, test]
    cases s.cells target targetObjective source sourceObjective with
    | error refusal => rfl
    | ok found =>
      obtain ⟨⟨left, o⟩, right, o'⟩ := found
      simp only [first_singleton, bind, Except.bind]
      cases o.scores.get? left with
      | none => rfl
      | some m =>
        cases o'.scores.get? right with
        | none => rfl
        | some n =>
          rw [relation.fetch_functions]
          rfl
  | inside target objective interval =>
    rw [attempt, test]
    cases s.cell target objective with
    | error refusal => rfl
    | ok found =>
      obtain ⟨player, o⟩ := found
      simp only [first_singleton, bind, Except.bind]
      cases o.scores.get? player <;> rfl

namespace State

theorem attemptOperate_eq (s : State) (target : Target) (targetObjective : String) (op : Operation)
    (source : Target) (sourceObjective : String) :
    s.attemptOperate target targetObjective op source sourceObjective =
      .ok (s.operate target targetObjective op source sourceObjective) := by
  refine Outcome.attemptGiven_eq ?_
  rintro ⟨⟨taker, o⟩, giver, o'⟩ -
  obtain ⟨f, hf, hdefined⟩ := op.fetch_functions
  simp only [ok_bind hf]
  split
  · next h =>
    rw [Operation.apply_eq_none_iff.2 h.symm]
    rfl
  · next h =>
    obtain ⟨r, hr, happly⟩ := hdefined _ _ h
    rw [ok_bind hr, happly]
    rfl

theorem attemptScoresOf_eq (s : State) (player : String) :
    s.attemptScoresOf player = .ok (s.scoresOf player) := by
  rw [attemptScoresOf, scoresOf]
  induction s.objectives.values with
  | nil => rfl
  | cons o rest ih =>
    -- an objective that is passed over is one that has no score
    cases hscore : o.scores.get? player with
    | none =>
      rw [List.filter_cons_of_neg (by simp [Table.contains, hscore]), ih]
      simp [hscore]
    | some score =>
      rw [List.filter_cons_of_pos (by simp [Table.contains, hscore]), List.mapM_cons, ih]
      simp [Table.fetch, hscore]
      rfl

theorem attemptListScores_eq (s : State) (target : Target) :
    s.attemptListScores target = .ok (s.listScores target) :=
  Outcome.attemptGiven_eq fun player _ => ok_bind (s.attemptScoresOf_eq player) _

end State

theorem PlayersCommand.attempt_eq (c : PlayersCommand) (s : State) :
    c.attempt s = .ok (c.perform s) := by
  cases c with
  | list target =>
    cases target with
    | none => rfl
    | some target => exact s.attemptListScores_eq target
  | operation target targetObjective op source sourceObjective =>
    exact s.attemptOperate_eq target targetObjective op source sourceObjective
  | add | enable | get | remove | reset | set => rfl

theorem Command.attemptWith_eq {attemptCall : FunctionId → State → Except Undefined Outcome}
    {call : FunctionId → State → Outcome} (hcall : ∀ id s, attemptCall id s = .ok (call id s))
    (c : Command) (s : State) : c.attemptWith attemptCall s = .ok (c.runWith call s) := by
  induction c with
  | objectives c => rfl
  | players c =>
    rw [attemptWith, c.attempt_eq]
    rfl
  | function id =>
    rw [attemptWith, hcall]
    rfl
  | execute condition run ih =>
    rw [attemptWith, ok_bind (condition.attempt_eq s), runWith]
    refine ok_bind (Outcome.attemptGiven_eq fun holds _ => ?_) _
    cases holds with
    | false => rfl
    | true => exact ih
  | tellraw target message => rfl
  | foreign kind => rfl

theorem attemptAll_eq {attempt : Command → State → Except Undefined Outcome}
    {run : Command → State → Outcome} (h : ∀ c s, attempt c s = .ok (run c s))
    (commands : List Command) (s : State) :
    attemptAll attempt commands s = .ok (runAll run commands s) := by
  induction commands generalizing s with
  | nil => rfl
  | cons c rest ih =>
    rw [attemptAll, h, runAll, Outcome.andThen]
    show (match (run c s).fault with
      | some _ => _
      | none => _) = _
    cases (run c s).fault with
    | some f => rfl
    | none => simp only [ih]; rfl

theorem Rules.attemptCall_eq (rules : Rules) (left : Nat) (id : FunctionId) (s : State) :
    rules.attemptCall left id s = .ok (rules.call left id s) := by
  induction left generalizing id s with
  | zero => rfl
  | succ left ih =>
    have hcall : rules.call (left + 1) id s = match rules.function? id with
        | none => rules.call 0 id s
        | some f => ((runAll (Command.runWith (rules.call left)) f.commands s).preceded
            [.entered id]).followed [.left] :=
      Machine.withFunction_eq rules id s _
    rw [attemptCall, hcall]
    cases rules.function? id with
    | none => rfl
    | some f =>
      simp only
      rw [attemptAll_eq (Command.attemptWith_eq ih)]
      rfl

/-- No step is undefined, and attempts come to what runs come to. -/
theorem Command.attempt_eq (rules : Rules) (c : Command) (s : State) :
    c.attempt rules s = .ok (c.run rules s) :=
  attemptWith_eq (rules.attemptCall_eq _) c s

end Scoreboard
