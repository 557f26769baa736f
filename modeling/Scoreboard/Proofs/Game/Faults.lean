import Scoreboard.Command.WellFormed
import Scoreboard.Proofs.Game.Runs

namespace Scoreboard

/-- All targets in a command, those of its conditions included. -/
def Command.targets : Command → List Target
  | players c => c.targets
  | execute condition run => condition.targets ++ run.targets
  | tellraw target _ => [target]
  | _ => []

def Command.amounts : Command → List Int
  | players c => c.amounts
  | execute _ run => run.amounts
  | _ => []

def Command.Writable (c : Command) : Prop :=
  ∀ n ∈ c.amounts, Text.Writable n

/-- The limit and all amounts in functions can be written. -/
structure Rules.Writable (rules : Rules) : Prop where
  limit : Text.Writable rules.maxDepth
  commands : rules.All Command.Writable

namespace State.Writable

variable {s after : State}

theorem empty : State.empty.Writable :=
  Table.all_empty _

theorem modify (h : s.Writable) (name : String) {f : Objective → Objective}
    (hf : ∀ o, (o.scores.All fun _ score => Text.Writable score) →
      (f o).scores.All fun _ score => Text.Writable score) : (s.modify name f).Writable := by
  unfold State.modify
  split
  · exact h
  · next o ho => exact h.set (hf o (h.of_get? ho))

theorem setScore (h : s.Writable) (objective player : String) {score : Int}
    (hscore : Text.Writable score) : (s.setScore objective player score).Writable :=
  h.modify objective fun _ ho => ho.set hscore

theorem eraseScore (h : s.Writable) (objective player : String) :
    (s.eraseScore objective player).Writable :=
  h.modify objective fun _ ho => ho.erase player

theorem objectives_leads {c : ObjectivesCommand} (h : s.Writable) (hc : c.Leads s after) :
    after.Writable := by
  cases c with
  | add objective criteria displayName =>
    obtain ⟨-, rfl⟩ := hc
    exact h.set (Table.all_empty _)
  | list => exact hc ▸ h
  | modify objective change =>
    rcases hc with rfl | rfl
    · exact h
    · cases change with
      | displayName shown | renderType type => exact h.modify objective fun _ ho => ho
  | remove objective => exact hc ▸ h.erase objective
  | setDisplay slot objective => exact hc.2 ▸ h

theorem players_leads {c : PlayersCommand} (hc : ∀ n ∈ c.amounts, Text.Writable n)
    (h : s.Writable) (hl : c.Leads s after) : after.Writable := by
  cases c with
  | add target objective amount | remove target objective amount =>
    obtain ⟨player, o, -, -, rfl⟩ := hl
    exact h.setScore objective player (Score.wrap_inRange _).writable
  | set target objective score =>
    obtain ⟨player, o, -, -, rfl⟩ := hl
    exact h.setScore objective player (hc score (List.mem_singleton_self _))
  | reset target objective =>
    obtain ⟨player, o, -, -, rfl⟩ := hl
    exact h.eraseScore objective player
  | enable target objective => exact hl.elim
  | get target objective | list target => exact hl ▸ h
  | operation target targetObjective op source sourceObjective =>
    obtain ⟨taker, giver, o, o', new, -, -, ho, ho', hnew, rfl⟩ := hl
    have hwritten := Operation.apply_keeps (fun _ => Score.InRange.writable) (h.getD ho taker)
      (h.getD ho' giver) hnew
    exact (h.setScore sourceObjective giver hwritten.2).setScore targetObjective taker hwritten.1

end State.Writable

theorem Command.Writable.keeps {c : Command} (h : c.Writable) : c.Keeps State.Writable := by
  induction c with
  | objectives c => exact fun _ _ hs => hs.objectives_leads
  | players c => exact fun _ _ hs => State.Writable.players_leads h hs
  | execute condition run ih => exact ih h
  | function | tellraw | foreign => trivial

def Command.TargetsMeet (Q : Fault → Prop) (c : Command) : Prop :=
  ∀ target ∈ c.targets, ∀ f, target.resolve = .error f → Q f

variable {P : State → Prop} {Q : Fault → Prop}

/-- Other faults than those of targets come from integers that cannot be written. -/
theorem Command.TargetsMeet.faultsIn {c : Command} (h : c.TargetsMeet Q)
    (hw : (c.Writable ∧ ∀ s, P s → s.Writable) ∨ Q (.unwritable .info)) : c.FaultsIn P Q := by
  induction c with
  | players c =>
    rintro s f hs (⟨target, ht, hr⟩ | ⟨rfl, hbad⟩)
    · exact h target ht f hr
    · rcases hw with ⟨hc, hP⟩ | hq
      · rcases hbad with ⟨n, hn, hbad⟩ | hbad
        · exact absurd (hc n hn) hbad
        · exact absurd (hP s hs) hbad
      · exact hq
  | execute condition run ih =>
    have h' := List.forall_mem_append.1 h
    exact ⟨h'.1, ih h'.2 hw⟩
  | tellraw target message => exact h target (List.mem_singleton_self _)
  | objectives | function | foreign => trivial

/-- What can be said of the faults that targets lead to can be said of the fault of a run, if all
integers can be written; else the fault may be that of a report. -/
theorem fault_of_run {rules : Rules} {c : Command} {s : State} {f : Fault}
    (hall : rules.All (Command.TargetsMeet Q)) (hc : c.TargetsMeet Q)
    (h : (c.run rules s).fault = some f) :
    Q f ∨ (∃ level, f = .unwritable level) ∧ ¬ (rules.Writable ∧ c.Writable ∧ s.Writable) := by
  by_cases hw : rules.Writable ∧ c.Writable ∧ s.Writable
  · have hcommand : ∀ d : Command, d.Writable ∧ d.TargetsMeet Q → d.Meets State.Writable Q :=
      fun d hd => ⟨hd.1.keeps, hd.2.faultsIn (.inl ⟨hd.1, fun _ hs => hs⟩)⟩
    refine .inl ((Rules.run_meets ⟨(hw.1.commands.and hall).imp hcommand, fun hlimit => ?_⟩
      (hcommand c ⟨hw.2.1, hc⟩) hw.2.2).fault f h)
    exact absurd hw.1.limit hlimit
  · have hcommand : ∀ d : Command, d.TargetsMeet Q →
        d.Meets (fun _ => True) fun f => Q f ∨ ∃ level, f = .unwritable level := by
      intro d hd
      refine ⟨.of_true d, Command.TargetsMeet.faultsIn ?_ (.inr (.inr ⟨_, rfl⟩))⟩
      exact fun target ht f hr => .inl (hd target ht f hr)
    have hrun := Rules.run_meets ⟨hall.imp hcommand, fun _ => .inr ⟨_, rfl⟩⟩ (hcommand c hc)
      (s := s) trivial
    exact (hrun.fault f h).imp_right fun hlevel => ⟨hlevel, hw⟩

/-- A report is at fault only where something has too many digits. -/
theorem not_writable_of_unwritable {rules : Rules} {c : Command} {s : State} {level : Level}
    (h : (c.run rules s).fault = some (.unwritable level)) :
    ¬ (rules.Writable ∧ c.Writable ∧ s.Writable) := by
  have htargets : ∀ d : Command, d.TargetsMeet fun f => ∀ level, f ≠ .unwritable level := by
    rintro d target - f hr level rfl
    exact resolve_ne_unwritable hr
  rcases fault_of_run (fun _ _ _ _ d _ => htargets d) (htargets c) h with hne | ⟨-, hw⟩
  · exact absurd rfl (hne level)
  · exact hw

theorem Rules.fault_call_zero (rules : Rules) (id : FunctionId) (s : State) :
    (rules.call 0 id s).fault = none ∨ (rules.call 0 id s).fault = some (.unwritable .fail) := by
  rw [call]
  rcases withFunction_cases rules id s with ⟨message, hnone⟩ | ⟨pack, f, -, -, hsome⟩
  · rw [hnone]
    exact .inl rfl
  · rw [hsome, Outcome.fault_reports]
    split
    · exact .inr rfl
    · exact .inl rfl

/-- Only the limit on nested calls is reported as a failure that may have too many digits. -/
theorem not_writable_of_unwritable_fail {rules : Rules} {c : Command} {s : State}
    (h : (c.run rules s).fault = some (.unwritable .fail)) : ¬ Text.Writable rules.maxDepth := by
  have hcommand : ∀ d : Command, d.Meets (fun _ => True) fun f =>
      f = .unwritable .fail → ¬ Text.Writable rules.maxDepth := by
    intro d
    refine ⟨.of_true d, Command.TargetsMeet.faultsIn ?_ (.inr nofun)⟩
    rintro target - f hr rfl
    exact absurd hr resolve_ne_unwritable
  have hrun := Rules.run_meets ⟨fun _ _ _ _ d _ => hcommand d, fun hlimit _ => hlimit⟩ (hcommand c)
    (s := s) trivial
  exact hrun.fault _ h rfl

/-- Every target is a player's name or a selector. -/
def Command.Addressed (c : Command) : Prop :=
  ∀ target ∈ c.targets, ∀ v, target ≠ .stray v

theorem Command.Addressed.targetsMeet {c : Command} (h : c.Addressed) :
    c.TargetsMeet fun f => ∃ v, f = .selector v := by
  intro target ht f hf
  cases target with
  | player name => cases hf
  | selector v =>
    cases hf
    exact ⟨v, rfl⟩
  | stray v => exact absurd rfl (h _ ht v)

/-- Where targets are players or selectors, the only other faults are those of reports. -/
theorem fault_of_addressed {rules : Rules} {c : Command} {s : State} {f : Fault}
    (hall : rules.All Command.Addressed) (hc : c.Addressed) (h : (c.run rules s).fault = some f) :
    (∃ v, f = .selector v) ∨
      (∃ level, f = .unwritable level) ∧ ¬ (rules.Writable ∧ c.Writable ∧ s.Writable) :=
  fault_of_run (hall.imp fun _ => Command.Addressed.targetsMeet) hc.targetsMeet h

theorem Target.WellFormed.ne_stray {target : Target} (h : target.WellFormed) (v : Stray) :
    target ≠ .stray v := by
  rintro rfl
  exact h

theorem condition_addressed {c : Condition} (h : c.WellFormed) :
    ∀ target ∈ c.targets, ∀ v, target ≠ .stray v := by
  cases c with
  | compare target targetObjective relation source sourceObjective =>
    simp only [Condition.targets, List.forall_mem_cons]
    exact ⟨h.1.ne_stray, h.2.2.1.ne_stray, by simp⟩
  | inside target objective interval =>
    simp only [Condition.targets, List.forall_mem_cons]
    exact ⟨h.1.ne_stray, by simp⟩

theorem players_addressed {c : PlayersCommand} (h : c.WellFormed) :
    ∀ target ∈ c.targets, ∀ v, target ≠ .stray v := by
  cases c with
  | list target => exact fun t ht => (h t (Option.mem_toList.1 ht)).ne_stray
  | operation target targetObjective op source sourceObjective =>
    simp only [PlayersCommand.targets, List.forall_mem_cons]
    exact ⟨h.1.ne_stray, h.2.2.1.ne_stray, by simp⟩
  | add | enable | get | remove | reset | set =>
    simp only [PlayersCommand.targets, List.forall_mem_singleton]
    exact h.1.ne_stray

theorem Command.WellFormed.addressed {c : Command} (h : c.WellFormed) : c.Addressed := by
  induction c with
  | players c => exact players_addressed h
  | execute condition run ih =>
    exact List.forall_mem_append.2 ⟨condition_addressed h.1, ih h.2⟩
  | tellraw target message => exact List.forall_mem_singleton.2 h.1.ne_stray
  | objectives c => exact List.forall_mem_nil _
  | function id => exact List.forall_mem_nil _
  | foreign kind => exact List.forall_mem_nil _

theorem IsAmount.writable {n : Int} (h : IsAmount n) : Text.Writable n :=
  Score.InRange.writable ⟨Int.le_trans (by decide) h.1, h.2⟩

theorem Command.WellFormed.writable {c : Command} (h : c.WellFormed) : c.Writable := by
  induction c with
  | players c =>
    cases c with
    | add | remove => exact List.forall_mem_singleton.2 h.2.2.writable
    | set => exact List.forall_mem_singleton.2 h.2.2.writable
    | enable | get | list | operation | reset => exact List.forall_mem_nil _
  | execute condition run ih => exact ih h.2
  | objectives | function | tellraw | foreign => exact List.forall_mem_nil _

end Scoreboard
