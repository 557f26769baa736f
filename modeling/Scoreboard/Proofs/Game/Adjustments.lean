import Mathlib
import Scoreboard.Proofs.Game.Invariant

namespace Scoreboard

/-- A command that adds an amount, of either sign, to a player's score or takes it away. -/
inductive Adjustment
  | add (objective player : String) (amount : Int)
  | remove (objective player : String) (amount : Int)
  deriving Repr, DecidableEq

namespace Adjustment

def command : Adjustment → PlayersCommand
  | add objective player amount => .add (.player player) objective amount
  | remove objective player amount => .remove (.player player) objective amount

def cell : Adjustment → String × String
  | add objective player _ => (objective, player)
  | remove objective player _ => (objective, player)

def amount : Adjustment → Int
  | add _ _ amount | remove _ _ amount => amount

def added : Adjustment → Int
  | add _ _ amount => amount
  | remove .. => 0

def removed : Adjustment → Int
  | add .. => 0
  | remove _ _ amount => amount

def ofCell (cell : String × String) (adjustments : List Adjustment) : List Adjustment :=
  adjustments.filter fun a => a.cell = cell

theorem ofCell_cons_of_eq {cell : String × String} {a : Adjustment} (h : a.cell = cell)
    (rest : List Adjustment) : ofCell cell (a :: rest) = a :: ofCell cell rest :=
  List.filter_cons_of_pos (by simp [h])

theorem ofCell_cons_of_ne {cell : String × String} {a : Adjustment} (h : a.cell ≠ cell)
    (rest : List Adjustment) : ofCell cell (a :: rest) = ofCell cell rest :=
  List.filter_cons_of_neg (by simp [h])

end Adjustment

namespace State

def adjust (s : State) (a : Adjustment) : State :=
  s.setScore a.cell.1 a.cell.2
    (Score.wrap ((s.score? a.cell.1 a.cell.2).getD 0 + a.added - a.removed))

variable {s : State} {objective player : String}

theorem contains_setScore (s : State) (objective player : String) (score : Int) (other : String) :
    (s.setScore objective player score).objectives.contains other =
      s.objectives.contains other := by
  cases h : s.objectives.contains objective with
  | false => rw [setScore_of_not_contains h]
  | true =>
    obtain ⟨o, ho⟩ := Option.isSome_iff_exists.1 h
    rw [Table.contains, Table.contains, get?_setScore ho]
    split
    · next he => rw [he, ho, Option.isSome_some, Option.isSome_some]
    · rfl

theorem score?_adjust_of_eq (h : s.objectives.contains objective = true) {a : Adjustment}
    (ha : a.cell = (objective, player)) : (s.adjust a).score? objective player =
      some (Score.wrap ((s.score? objective player).getD 0 + a.added - a.removed)) := by
  obtain ⟨o, ho⟩ := Option.isSome_iff_exists.1 h
  rw [adjust, ha, score?_setScore ho, if_pos ⟨rfl, rfl⟩]

theorem score?_adjust_of_ne {a : Adjustment} (ha : a.cell ≠ (objective, player)) :
    (s.adjust a).score? objective player = s.score? objective player := by
  rw [adjust]
  cases h : s.objectives.contains a.cell.1 with
  | false => rw [setScore_of_not_contains h]
  | true =>
    obtain ⟨o, ho⟩ := Option.isSome_iff_exists.1 h
    rw [score?_setScore ho, if_neg fun he => ha (Prod.ext he.1.symm he.2.symm)]

theorem contains_foldl_adjust (s : State) (adjustments : List Adjustment) (objective : String) :
    (adjustments.foldl adjust s).objectives.contains objective =
      s.objectives.contains objective := by
  induction adjustments generalizing s with
  | nil => rfl
  | cons a rest ih => rw [List.foldl_cons, ih, adjust, contains_setScore]

theorem score?_foldl_adjust_of_nil {adjustments : List Adjustment}
    (hnone : Adjustment.ofCell (objective, player) adjustments = []) :
    (adjustments.foldl adjust s).score? objective player = s.score? objective player := by
  induction adjustments generalizing s with
  | nil => rfl
  | cons a rest ih =>
    by_cases ha : a.cell = (objective, player)
    · rw [Adjustment.ofCell_cons_of_eq ha] at hnone
      cases hnone
    · rw [Adjustment.ofCell_cons_of_ne ha] at hnone
      rw [List.foldl_cons, ih hnone, score?_adjust_of_ne ha]

/-- To wrap at every step is to wrap once. -/
theorem score?_foldl_adjust (h : s.objectives.contains objective = true)
    {adjustments : List Adjustment}
    (hsome : Adjustment.ofCell (objective, player) adjustments ≠ []) :
    (adjustments.foldl adjust s).score? objective player =
      some (Score.wrap ((s.score? objective player).getD 0 +
        ((Adjustment.ofCell (objective, player) adjustments).map Adjustment.added).sum -
        ((Adjustment.ofCell (objective, player) adjustments).map Adjustment.removed).sum)) := by
  induction adjustments generalizing s with
  | nil => exact absurd rfl hsome
  | cons a rest ih =>
    have hkept : (s.adjust a).objectives.contains objective = true := by
      rw [adjust, contains_setScore, h]
    rw [List.foldl_cons]
    by_cases ha : a.cell = (objective, player)
    · rw [Adjustment.ofCell_cons_of_eq ha, List.map_cons, List.map_cons, List.sum_cons,
        List.sum_cons]
      by_cases hrest : Adjustment.ofCell (objective, player) rest = []
      · rw [score?_foldl_adjust_of_nil hrest, score?_adjust_of_eq h ha, hrest]
        simp
      · rw [ih hkept hrest, score?_adjust_of_eq h ha, Option.getD_some, Score.wrap, Score.wrap,
          Score.wrap, Int.add_sub_assoc, Int.bmod_add_bmod]
        congr 2
        omega
    · rw [Adjustment.ofCell_cons_of_ne ha] at hsome ⊢
      rw [ih hkept hsome, score?_adjust_of_ne ha]

end State

/-- An adjustment is made also where it cannot be reported. -/
theorem run_adjustment (rules : Rules) (a : Adjustment) (s : State) :
    ((Command.players a.command).run rules s).state = s.adjust a ∧
      (Text.Writable a.amount → ((Command.players a.command).run rules s).fault = none) := by
  have hwrap : ∀ n, Text.Writable (Score.wrap n) := fun n => (Score.wrap_inRange n).writable
  cases a with
  | add objective player amount | remove objective player amount =>
    rw [Command.run, Command.runWith, Adjustment.command, PlayersCommand.perform]
    cases h : s.objectives.contains objective with
    | false =>
      simp only [State.addScore, State.removeScore, State.cell_of_not_contains h, Outcome.given]
      exact ⟨(State.setScore_of_not_contains h _ _).symm, fun _ => rfl⟩
    | true =>
      obtain ⟨o, ho⟩ := Option.isSome_iff_exists.1 h
      simp only [State.addScore, State.removeScore, State.cell_eq_ok_iff.2 ⟨rfl, ho⟩, Outcome.given,
        State.adjust, Adjustment.cell, Adjustment.added, Adjustment.removed, Int.sub_zero,
        Int.add_zero, State.score?_of_get? ho]
      refine ⟨Outcome.state_reports _ _ _, fun (hamount : Text.Writable amount) => ?_⟩
      rw [Text.numeral?_of_writable hamount, Text.numeral?_of_writable (hwrap _)]
      rfl

def Adjustment.commands (adjustments : List Adjustment) : List Command :=
  adjustments.map fun a => .players a.command

/-- The state after the commands of some adjustments, one by one: that one cannot be reported is no
matter to those after it. -/
def State.afterEach (rules : Rules) (s : State) (adjustments : List Adjustment) : State :=
  ((Adjustment.commands adjustments).map Move.execute).foldl (Move.apply rules) s

theorem State.afterEach_eq (rules : Rules) (s : State) (adjustments : List Adjustment) :
    s.afterEach rules adjustments = adjustments.foldl State.adjust s := by
  induction adjustments generalizing s with
  | nil => rfl
  | cons a rest ih =>
    rw [List.foldl_cons, ← ih, ← (run_adjustment rules a s).1]
    rfl

/-- If all can be reported, no adjustment keeps the others from being made. -/
theorem runAll_adjustments {rules : Rules} {adjustments : List Adjustment}
    (h : ∀ a ∈ adjustments, Text.Writable a.amount) (s : State) :
    (runAll (Command.run rules) (Adjustment.commands adjustments) s).fault = none ∧
      (runAll (Command.run rules) (Adjustment.commands adjustments) s).state =
        adjustments.foldl State.adjust s := by
  induction adjustments generalizing s with
  | nil => exact ⟨rfl, rfl⟩
  | cons a rest ih =>
    rw [List.forall_mem_cons] at h
    obtain ⟨hstate, hfault⟩ := run_adjustment rules a s
    rw [Adjustment.commands, List.map_cons, runAll, Outcome.andThen, hfault h.1, hstate,
      ← Adjustment.commands]
    exact ih h.2 (s.adjust a)

end Scoreboard
