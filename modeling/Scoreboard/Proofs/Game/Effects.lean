import Scoreboard.Game.Players
import Scoreboard.Proofs.Table

namespace Scoreboard

open Text

theorem except_bind_eq_ok_iff {ε α β : Type} {x : Except ε α} {f : α → Except ε β} {b : β} :
    (x >>= f) = .ok b ↔ ∃ a, x = .ok a ∧ f a = .ok b := by
  cases x with
  | error e => simp [bind, Except.bind]
  | ok a => simp [bind, Except.bind]

theorem except_bind_eq_error_iff {ε α β : Type} {x : Except ε α} {f : α → Except ε β} {e : ε} :
    (x >>= f) = .error e ↔ x = .error e ∨ ∃ a, x = .ok a ∧ f a = .error e := by
  cases x with
  | error e' => simp [bind, Except.bind]
  | ok a => simp [bind, Except.bind]

theorem player?_eq_ok_iff {target : Target} {name : String} :
    target.player? = .ok name ↔ target = .player name := by
  cases target with
  | player other =>
    rw [Target.player.injEq]
    exact ⟨Except.ok.inj, congrArg Except.ok⟩
  | selector v => exact ⟨nofun, nofun⟩
  | stray v => exact ⟨nofun, nofun⟩

theorem player?_eq_fault_iff {target : Target} {f : Fault} :
    target.player? = .error (.fault f) ↔ target.resolve = .error f := by
  rw [Target.player?]
  cases target.resolve with
  | ok player => constructor <;> intro h <;> cases h
  | error e => constructor <;> (intro h; cases h; rfl)

theorem resolve_ne_unwritable {target : Target} {level : Level} :
    target.resolve ≠ .error (.unwritable level) := by
  cases target <;> simp [Target.resolve]

namespace State

variable {s : State} {name objective : String} {target source : Target} {o o' : Objective}
  {f : Fault}

theorem objective_eq_ok_iff : s.objective name = .ok o ↔ s.objectives.get? name = some o := by
  unfold State.objective
  split
  · next h => simp [h]
  · next h => simp [h]

theorem objective_of_not_contains (h : s.objectives.contains name = false) :
    s.objective name = .error (.failure (unknownObjective name)) := by
  rw [Table.contains, Option.isSome_eq_false_iff, Option.isNone_iff_eq_none] at h
  rw [State.objective, h]

theorem objective_ne_fault : s.objective name ≠ .error (.fault f) := by
  unfold State.objective
  split <;> simp

theorem cell_eq_ok_iff {player : String} :
    s.cell target objective = .ok (player, o) ↔
      target = .player player ∧ s.objectives.get? objective = some o := by
  simp [cell, except_bind_eq_ok_iff, player?_eq_ok_iff, objective_eq_ok_iff, pure, Except.pure]

theorem cell_of_not_contains (h : s.objectives.contains objective = false) (player : String) :
    s.cell (.player player) objective = .error (.failure (unknownObjective objective)) := by
  rw [cell, objective_of_not_contains h]
  rfl

theorem cell_eq_fault_iff :
    s.cell target objective = .error (.fault f) ↔ target.resolve = .error f := by
  simp [cell, except_bind_eq_error_iff, player?_eq_fault_iff, objective_ne_fault, pure, Except.pure]

theorem cells_eq_ok_iff {sourceObjective taker giver : String} :
    s.cells target objective source sourceObjective = .ok ((taker, o), giver, o') ↔
      target = .player taker ∧ source = .player giver ∧ s.objectives.get? objective = some o ∧
        s.objectives.get? sourceObjective = some o' := by
  simp only [cells, except_bind_eq_ok_iff, player?_eq_ok_iff, objective_eq_ok_iff, pure,
    Except.pure, Except.ok.injEq, Prod.mk.injEq]
  constructor
  · rintro ⟨taker, rfl, giver, rfl, o, ho, o', ho', ⟨rfl, rfl⟩, rfl, rfl⟩
    exact ⟨rfl, rfl, ho, ho'⟩
  · rintro ⟨rfl, rfl, ho, ho'⟩
    exact ⟨taker, rfl, giver, rfl, o, ho, o', ho', ⟨rfl, rfl⟩, rfl, rfl⟩

theorem resolve_of_cells {sourceObjective : String}
    (h : s.cells target objective source sourceObjective = .error (.fault f)) :
    target.resolve = .error f ∨ source.resolve = .error f := by
  simp only [cells, except_bind_eq_error_iff, player?_eq_fault_iff, objective_ne_fault,
    false_or] at h
  rcases h with h | ⟨taker, -, h | ⟨giver, -, o, -, o', -, h⟩⟩
  · exact .inl h
  · exact .inr h
  · cases h

theorem score?_of_get? (h : s.objectives.get? objective = some o) (player : String) :
    s.score? objective player = o.scores.get? player := by
  rw [score?, h, Option.bind_some]

theorem score?_of_not_contains (h : s.objectives.contains objective = false) (player : String) :
    s.score? objective player = none := by
  rw [Table.contains, Option.isSome_eq_false_iff, Option.isNone_iff_eq_none] at h
  rw [score?, h, Option.bind_none]

theorem contains_of_score? {player : String} {score : Int}
    (h : s.score? objective player = some score) : s.objectives.contains objective = true := by
  cases hc : s.objectives.contains objective with
  | false =>
    rw [score?_of_not_contains hc] at h
    cases h
  | true => rfl

theorem setScore_of_not_contains (h : s.objectives.contains objective = false) (player : String)
    (score : Int) : s.setScore objective player score = s := by
  rw [Table.contains, Option.isSome_eq_false_iff, Option.isNone_iff_eq_none] at h
  rw [setScore, modify, h]

theorem get?_setScore (h : s.objectives.get? objective = some o) (player : String) (score : Int)
    (other : String) :
    (s.setScore objective player score).objectives.get? other =
      if other = objective then some { o with scores := o.scores.set player score }
      else s.objectives.get? other := by
  simp only [setScore, modify, h]
  split
  · next he => rw [he, Table.get?_set_self]
  · next he => exact Table.get?_set_of_ne s.objectives he _

/-- One score is stored in an objective that exists; every other look-up finds what it found. -/
theorem score?_setScore (h : s.objectives.get? objective = some o) (player : String) (score : Int)
    (objective' player' : String) :
    (s.setScore objective player score).score? objective' player' =
      if objective' = objective ∧ player' = player then some score
      else s.score? objective' player' := by
  rw [score?, get?_setScore h]
  by_cases ho : objective' = objective
  · rw [if_pos ho, Option.bind_some, ho, score?_of_get? h]
    by_cases hp : player' = player
    · rw [hp, if_pos ⟨rfl, rfl⟩, Table.get?_set_self]
    · rw [if_neg fun hc => hp hc.2, Table.get?_set_of_ne _ hp]
  · rw [if_neg ho, if_neg fun hc => ho hc.1, score?]

def change (s : State) (name : String) : Modification → State
  | .displayName shown => s.modify name fun o => { o with displayName := shown }
  | .renderType type => s.modify name fun o => { o with renderType := type }

def without (s : State) (name : String) : State :=
  { s with
    objectives := s.objectives.erase name
    displays := s.displays.mapValues fun shown => if shown = some name then none else shown }

@[simp] theorem objectives_without (s : State) (name : String) :
    (s.without name).objectives = s.objectives.erase name := rfl

@[simp] theorem displays_without (s : State) (name : String) :
    (s.without name).displays =
      s.displays.mapValues fun shown => if shown = some name then none else shown := rfl

/-- All scores can be written. -/
def Writable (s : State) : Prop :=
  s.objectives.All fun _ o => o.scores.All fun _ score => Text.Writable score

end State

namespace Outcome

@[simp] theorem state_refused (s : State) (refusal : Refusal) : (refused s refusal).state = s := by
  cases refusal <;> rfl

variable {s : State}

@[simp] theorem state_reports (s : State) (level : Level) (messages : List (Option String)) :
    (reports s level messages).state = s := by
  induction messages with
  | nil => rfl
  | cons message rest ih =>
    cases message with
    | none => rfl
    | some message => exact ih

theorem fault_refused_iff {refusal : Refusal} {f : Fault} :
    (refused s refusal).fault = some f ↔ refusal = .fault f := by
  cases refusal <;> simp [refused]

theorem state_given {α : Type} {found : Except Refusal α} {next : α → Outcome} {P : State → Prop}
    (hs : P s) (h : ∀ a, found = .ok a → P (next a).state) : P (given s found next).state := by
  cases found with
  | error refusal =>
    rw [given, state_refused]
    exact hs
  | ok a => exact h a rfl

theorem fault_reports (s : State) (level : Level) (messages : List (Option String)) :
    (reports s level messages).fault =
      if none ∈ messages then some (.unwritable level) else none := by
  induction messages with
  | nil => rfl
  | cons message rest ih =>
    cases message with
    | none => rfl
    | some message => simpa [reports, preceded] using ih

theorem log_reports (s : State) (level : Level) (messages : List (Option String)) :
    ∀ entry ∈ Event.log (reports s level messages).events, entry.1 = level := by
  induction messages with
  | nil => exact List.forall_mem_nil _
  | cons message rest ih =>
    cases message with
    | none => exact List.forall_mem_nil _
    | some message => exact List.forall_mem_cons.2 ⟨rfl, ih⟩

theorem chat_reports (s : State) (level : Level) (messages : List (Option String)) :
    Event.chat (reports s level messages).events = [] := by
  induction messages with
  | nil => rfl
  | cons message rest ih =>
    cases message with
    | none => rfl
    | some message => exact ih

/-- What becomes of a command that begins in the state `s`: it is given up there, or it leads to one
of some states and reports on that, as far as the report can be written. -/
inductive Effect (s : State) (leads : State → Prop) (faults : Fault → Prop) : Outcome → Prop
  | failed (message : String) : Effect s leads faults (refused s (.failure message))
  | faulted {f : Fault} (h : faults f) : Effect s leads faults (refused s (.fault f))
  | told {after : State} {messages : List (Option String)} (h : leads after)
      (hw : none ∈ messages → faults (.unwritable .info)) :
      Effect s leads faults (after.inform messages)

namespace Effect

variable {leads : State → Prop} {faults : Fault → Prop} {o : Outcome}

theorem given {α : Type} {found : Except Refusal α} {next : α → Outcome}
    (hf : ∀ f, found = .error (.fault f) → faults f)
    (h : ∀ a, found = .ok a → (next a).Effect s leads faults) :
    (Outcome.given s found next).Effect s leads faults := by
  cases found with
  | error refusal =>
    cases refusal with
    | fault f => exact .faulted (hf f rfl)
    | failure message => exact .failed message
  | ok a => exact h a rfl

theorem silent (h : leads s) : (nothing s).Effect s leads faults := by
  change Effect s leads faults (s.inform [])
  exact .told h nofun

theorem plain {after : State} (h : leads after) (message : String) :
    (after.inform [some message]).Effect s leads faults :=
  .told h (by simp)

theorem state {P : State → Prop} (h : o.Effect s leads faults) (hs : P s)
    (hlead : ∀ after, leads after → P after) : P o.state := by
  cases h with
  | failed message => exact hs
  | faulted hf => exact hs
  | told h hw =>
    rw [State.inform, state_reports]
    exact hlead _ h

theorem fault {f : Fault} (h : o.Effect s leads faults) (hf : o.fault = some f) : faults f := by
  cases h with
  | failed message => cases hf
  | faulted h => exact Option.some.inj hf ▸ h
  | told h hw =>
    rw [State.inform, fault_reports] at hf
    split at hf
    · next hmem => exact Option.some.inj hf ▸ hw hmem
    · cases hf

theorem chat (h : o.Effect s leads faults) : Event.chat o.events = [] := by
  cases h with
  | failed message => rfl
  | faulted h => rfl
  | told h hw => exact chat_reports _ _ _

end Effect

end Outcome

/-- The states that a command can lead to. -/
def ObjectivesCommand.Leads (s after : State) : ObjectivesCommand → Prop
  | add objective criteria displayName =>
    s.objectives.contains objective = false ∧ after = { s with
      objectives :=
        s.objectives.set objective ⟨displayName.getD objective, .integer, criteria, .empty⟩ }
  | list => after = s
  | modify objective change => after = s ∨ after = s.change objective change
  | remove objective => after = s.without objective
  | setDisplay slot objective =>
    s.objectives.contains objective = true ∧
      after = { s with displays := s.displays.set slot (some objective) }

/-- A command on objectives may fail, but it ends in no fault. -/
theorem objectives_effect (c : ObjectivesCommand) (s : State) :
    (c.perform s).Effect s (c.Leads s) fun _ => False := by
  have hobjective : ∀ name f, s.objective name = .error (.fault f) → False :=
    fun _ _ => State.objective_ne_fault
  cases c with
  | add objective criteria displayName =>
    rw [ObjectivesCommand.perform, State.addObjective]
    split
    · exact .failed _
    · next h => exact .plain ⟨Bool.eq_false_iff.2 h, rfl⟩ _
  | list =>
    refine .plain ?_ _
    rfl
  | modify objective change =>
    refine .given (hobjective objective) fun o ho => ?_
    cases change with
    | displayName shown | renderType type =>
      simp only
      split
      · exact .silent (.inl rfl)
      · exact .plain (.inr rfl) _
  | remove objective =>
    refine .given (hobjective objective) fun o ho => .plain ?_ _
    rfl
  | setDisplay slot objective =>
    refine .given (hobjective objective) fun o ho => ?_
    split
    · exact .failed _
    · refine .plain ⟨?_, rfl⟩ _
      rw [Table.contains, State.objective_eq_ok_iff.1 ho, Option.isSome_some]

namespace PlayersCommand

def targets : PlayersCommand → List Target
  | add target _ _ | enable target _ | get target _ | remove target _ _ | reset target _
  | set target _ _ => [target]
  | list target => target.toList
  | operation target _ _ source _ => [target, source]

def amounts : PlayersCommand → List Int
  | add _ _ amount | remove _ _ amount | set _ _ amount => [amount]
  | _ => []

/-- The states that a command can lead to. -/
def Leads (s after : State) : PlayersCommand → Prop
  | add target objective amount =>
    ∃ player o, target = .player player ∧ s.objectives.get? objective = some o ∧
      after = s.setScore objective player (Score.wrap ((o.scores.get? player).getD 0 + amount))
  | enable _ _ => False
  | get _ _ | list _ => after = s
  | operation target targetObjective op source sourceObjective =>
    ∃ taker giver o o' new, target = .player taker ∧ source = .player giver ∧
      s.objectives.get? targetObjective = some o ∧ s.objectives.get? sourceObjective = some o' ∧
      op.apply ((o.scores.get? taker).getD 0) ((o'.scores.get? giver).getD 0) = some new ∧
      after = (s.setScore sourceObjective giver new.2).setScore targetObjective taker new.1
  | remove target objective amount =>
    ∃ player o, target = .player player ∧ s.objectives.get? objective = some o ∧
      after = s.setScore objective player (Score.wrap ((o.scores.get? player).getD 0 - amount))
  | reset target objective =>
    ∃ player o, target = .player player ∧ s.objectives.get? objective = some o ∧
      after = s.eraseScore objective player
  | set target objective score =>
    ∃ player o, target = .player player ∧ s.objectives.get? objective = some o ∧
      after = s.setScore objective player score

/-- The faults that a command can end in: that of a target, and that of a report with an integer
from the command or from the scores. -/
def Faults (s : State) (c : PlayersCommand) (f : Fault) : Prop :=
  (∃ target ∈ c.targets, target.resolve = .error f) ∨
    f = .unwritable .info ∧ ((∃ n ∈ c.amounts, ¬ Writable n) ∨ ¬ s.Writable)

end PlayersCommand

theorem Score.InRange.writable {n : Int} (h : Score.InRange n) : Writable n := by
  have hdigits : (10 : Nat) ^ 10 ≤ 10 ^ maxDigits := Nat.pow_le_pow_right (by decide) (by decide)
  apply (Nat.length_toDigits_le_iff (by decide) (by decide)).2
  simp only [Score.InRange, Score.least, Score.greatest] at h
  omega

/-- The least natural number that cannot be written. -/
@[irreducible] def overlong : Int :=
  .ofNat (Nat.pow 10 maxDigits)

theorem not_writable_overlong : ¬ Writable overlong := by
  rw [Writable, overlong, Int.ofNat_eq_natCast, Int.natAbs_natCast,
    Nat.length_toDigits_le_iff (by decide) (by decide), Nat.pow_eq]
  -- by name, so that the power is not evaluated
  simp only [Nat.lt_irrefl, not_false_eq_true]

/-- The new scores of target and source are as those that were there, or in range. -/
theorem Operation.apply_keeps {R : Int → Prop} (hr : ∀ n, Score.InRange n → R n) {op : Operation}
    {t u : Int} {new : Int × Int} (ht : R t) (hu : R u) (h : op.apply t u = some new) :
    R new.1 ∧ R new.2 := by
  have hwrap : ∀ n, R (Score.wrap n) := fun n => hr _ (Score.wrap_inRange n)
  cases op with
  | add | subtract | multiply =>
    cases h
    exact ⟨hwrap _, hu⟩
  | divide | remainder =>
    obtain ⟨qr, -, rfl⟩ := Option.map_eq_some_iff.1 h
    exact ⟨hwrap _, hu⟩
  | assign =>
    cases h
    exact ⟨hu, hu⟩
  | minimum =>
    cases h
    rw [Int.min_def]
    split
    · exact ⟨ht, hu⟩
    · exact ⟨hu, hu⟩
  | maximum =>
    cases h
    rw [Int.max_def]
    split
    · exact ⟨hu, hu⟩
    · exact ⟨ht, hu⟩
  | swap =>
    cases h
    exact ⟨hu, ht⟩

theorem State.listed_eq_none_iff {score : String × Int} :
    State.listed score = none ↔ ¬ Text.Writable score.2 := by
  rw [← numeral?_eq_none_iff, State.listed]
  cases numeral? score.2 <;> simp

namespace State.Writable

variable {s : State} {objective player : String} {o : Objective}

theorem score (h : s.Writable) (ho : s.objectives.get? objective = some o) {score : Int}
    (hs : o.scores.get? player = some score) : Text.Writable score :=
  (h.of_get? ho).of_get? hs

theorem getD (h : s.Writable) (ho : s.objectives.get? objective = some o) (player : String) :
    Text.Writable ((o.scores.get? player).getD 0) := by
  cases hs : o.scores.get? player with
  | none => exact Score.InRange.writable (by decide)
  | some score => exact h.score ho hs

theorem scoresOf (h : s.Writable) {entry : String × Int} (he : entry ∈ s.scoresOf player) :
    Text.Writable entry.2 := by
  obtain ⟨o, ho, he⟩ := List.mem_filterMap.1 he
  obtain ⟨score, hs, rfl⟩ := Option.map_eq_some_iff.1 he
  obtain ⟨entry, hentry, rfl⟩ := List.mem_map.1 ho
  exact (h entry hentry).of_get? hs

end State.Writable

theorem effect_cell {c : PlayersCommand} {s : State} {target : Target} {objective : String}
    {next : String × Objective → Outcome} (htarget : target ∈ c.targets)
    (h : ∀ player o, target = .player player → s.objectives.get? objective = some o →
      (next (player, o)).Effect s (c.Leads s) (c.Faults s)) :
    (Outcome.given s (s.cell target objective) next).Effect s (c.Leads s) (c.Faults s) := by
  refine .given (fun f hf => .inl ⟨target, htarget, State.cell_eq_fault_iff.1 hf⟩) ?_
  rintro ⟨player, o⟩ hcell
  obtain ⟨hplayer, ho⟩ := State.cell_eq_ok_iff.1 hcell
  exact h player o hplayer ho

/-- What a command on scores does, and the faults that it can end in. -/
theorem players_effect (c : PlayersCommand) (s : State) :
    (c.perform s).Effect s (c.Leads s) (c.Faults s) := by
  cases c with
  | add target objective amount | remove target objective amount =>
    refine effect_cell (List.mem_singleton_self _) fun player o hplayer ho => ?_
    refine .told ⟨player, o, hplayer, ho, rfl⟩ fun hnone => .inr ⟨rfl, .inl ⟨amount, ?_, ?_⟩⟩
    · exact List.mem_singleton_self _
    · intro hamount
      simp [hamount, (Score.wrap_inRange _).writable] at hnone
  | set target objective score =>
    refine effect_cell (List.mem_singleton_self _) fun player o hplayer ho => ?_
    refine .told ⟨player, o, hplayer, ho, rfl⟩ fun hnone => .inr ⟨rfl, .inl ⟨score, ?_, ?_⟩⟩
    · exact List.mem_singleton_self _
    · intro hscore
      simp [hscore] at hnone
  | get target objective =>
    refine effect_cell (List.mem_singleton_self _) fun player o hplayer ho => ?_
    simp only
    split
    · exact .failed _
    · next score hs =>
      refine .told rfl fun hnone => .inr ⟨rfl, .inr fun hwritable => ?_⟩
      simp [hwritable.score ho hs] at hnone
  | reset target objective =>
    exact effect_cell (List.mem_singleton_self _) fun player o hplayer ho =>
      .plain ⟨player, o, hplayer, ho, rfl⟩ _
  | enable target objective =>
    exact effect_cell (List.mem_singleton_self _) fun player o hplayer ho => .failed _
  | list target =>
    cases target with
    | none =>
      refine .plain ?_ _
      rfl
    | some target =>
      refine .given (fun f hf => .inl ⟨target, ?_, player?_eq_fault_iff.1 hf⟩)
        fun player hplayer => ?_
      · exact List.mem_singleton_self _
      · rw [State.listEach]
        split
        · refine .plain ?_ _
          rfl
        · refine .told rfl fun hnone => .inr ⟨rfl, .inr fun hwritable => ?_⟩
          simp only [List.mem_cons, List.mem_map, reduceCtorEq, false_or] at hnone
          obtain ⟨entry, he, hentry⟩ := hnone
          exact State.listed_eq_none_iff.1 hentry (hwritable.scoresOf he)
  | operation target targetObjective op source sourceObjective =>
    refine .given (fun f hf => .inl ?_) ?_
    · rcases State.resolve_of_cells hf with ht | hs
      · exact ⟨target, List.mem_cons_self, ht⟩
      · exact ⟨source, List.mem_cons_of_mem _ (List.mem_singleton_self _), hs⟩
    · rintro ⟨⟨taker, o⟩, giver, o'⟩ hcells
      obtain ⟨htaker, hgiver, ho, ho'⟩ := State.cells_eq_ok_iff.1 hcells
      simp only
      split
      · exact .failed _
      · next new hnew =>
        refine .told ⟨taker, giver, o, o', new, htaker, hgiver, ho, ho', hnew, rfl⟩
          fun hnone => .inr ⟨rfl, .inr fun hwritable => ?_⟩
        have hwritten := (Operation.apply_keeps (fun _ => Score.InRange.writable)
          (hwritable.getD ho taker) (hwritable.getD ho' giver) hnew).1
        simp [hwritten] at hnone

end Scoreboard
