import Mathlib.Logic.ExistsUnique
import Scoreboard.Proofs.Game.Faults

namespace Scoreboard

open Text

/-- The command below all conditions. -/
def Command.innermost : Command → Command
  | execute _ run => run.innermost
  | c => c

inductive Outcome.Ending
  | fault | failure | success
  /-- What was done is not reported, or not all of it. -/
  | brokenOff

/-- What is true where a command that was carried out in the state `s` has ended. After a fault
nothing is left of it, after a failure only the report of the failure; but where a report breaks
off, what was done and reported before it stays. -/
def Outcome.EndsIn (s : State) (o : Outcome) : Outcome.Ending → Prop
  | .fault =>
    o.fault.isSome ∧ o.state = s ∧ Event.log o.events = [] ∧ Event.chat o.events = []
  | .failure =>
    o.fault = none ∧ o.state = s ∧ (∃ message, Event.log o.events = [(.fail, message)]) ∧
      Event.chat o.events = []
  | .success => o.fault = none ∧ ∀ entry ∈ Event.log o.events, entry.1 ≠ .fail
  | .brokenOff =>
    o.fault = some (.unwritable .info) ∧ ¬ (o.state = s ∧ Event.log o.events = []) ∧
      (∀ entry ∈ Event.log o.events, entry.1 = .info) ∧ Event.chat o.events = []

namespace Outcome

variable {s : State} {o : Outcome}

theorem not_success_of_failure (h : o.EndsIn s .failure) : ¬ o.EndsIn s .success := by
  obtain ⟨-, -, ⟨message, hlog⟩, -⟩ := h
  rintro ⟨-, hnone⟩
  rw [hlog] at hnone
  exact hnone _ (List.mem_singleton_self _) rfl

theorem not_brokenOff_of_fault (h : o.EndsIn s .fault) : ¬ o.EndsIn s .brokenOff :=
  fun hbroken => hbroken.2.1 ⟨h.2.1, h.2.2.1⟩

/-- The two endings with a fault, and the two without, exclude each other by more than the fault. -/
theorem EndsIn.unique {e e' : Ending} (h : o.EndsIn s e) (h' : o.EndsIn s e') : e = e' := by
  have hfault : ∀ {e}, o.EndsIn s e → (o.fault.isSome ↔ e = .fault ∨ e = .brokenOff) := by
    intro e he
    cases e with
    | fault => exact ⟨fun _ => .inl rfl, fun _ => he.1⟩
    | brokenOff => simp [he.1]
    | failure | success => simp [he.1]
  have hsame := (hfault h).symm.trans (hfault h')
  cases e <;> cases e' <;> first
    | rfl
    | exact absurd h' (not_success_of_failure h)
    | exact absurd h (not_success_of_failure h')
    | exact absurd h' (not_brokenOff_of_fault h)
    | exact absurd h (not_brokenOff_of_fault h')
    | simp at hsame

/-- There is an ending, which is not that of a report that breaks off unless `broken`. -/
def Ends (s : State) (broken : Prop) (o : Outcome) : Prop :=
  ∃ e, o.EndsIn s e ∧ (e = .brokenOff → broken)

theorem Ends.executed {broken : Prop} (h : o.Ends s broken) (kind : String) :
    (o.preceded [.executed kind]).Ends s broken := by
  obtain ⟨e, he, hbroken⟩ := h
  refine ⟨e, ?_, hbroken⟩
  cases e <;> exact he

theorem ends_nothing (s : State) (broken : Prop) : (nothing s).Ends s broken :=
  ⟨.success, ⟨rfl, List.forall_mem_nil _⟩, nofun⟩

theorem ends_refused (s : State) (broken : Prop) (refusal : Refusal) :
    (refused s refusal).Ends s broken := by
  cases refusal with
  | fault f => exact ⟨.fault, ⟨rfl, rfl, rfl, rfl⟩, nofun⟩
  | failure message => exact ⟨.failure, ⟨rfl, rfl, ⟨message, rfl⟩, rfl⟩, nofun⟩

theorem Effect.ends {leads : State → Prop} {faults : Fault → Prop} (h : o.Effect s leads faults) :
    o.Ends s (faults (.unwritable .info)) := by
  cases h with
  | failed message => exact ends_refused s _ _
  | faulted hf => exact ends_refused s _ _
  | @told after messages hlead hw =>
    have hlog := log_reports after .info messages
    have hfault := fault_reports after .info messages
    split at hfault
    · next hmem =>
      -- a report of which nothing was written leaves nothing, unless something was done before
      by_cases hsame : (after.inform messages).state = s ∧
        Event.log (after.inform messages).events = []
      · have hended : (after.inform messages).fault.isSome := by
          rw [State.inform, hfault]
          rfl
        exact ⟨.fault, ⟨hended, hsame.1, hsame.2, chat_reports _ _ _⟩, fun h => by cases h⟩
      · exact ⟨.brokenOff, ⟨hfault, hsame, hlog, chat_reports _ _ _⟩, fun _ => hw hmem⟩
    · refine ⟨.success, ⟨hfault, fun entry he => ?_⟩, fun h => by cases h⟩
      rw [hlog entry he]
      decide

end Outcome

theorem ends_runWith {call : FunctionId → State → Outcome} {c : Command}
    (h : ∀ id, c.innermost ≠ .function id) (s : State) :
    (c.runWith call s).Ends s (¬ (c.Writable ∧ s.Writable)) := by
  induction c with
  | objectives c =>
    obtain ⟨e, he, hbroken⟩ := (objectives_effect c s).ends
    exact Outcome.Ends.executed ⟨e, he, fun hb => (hbroken hb).elim⟩ _
  | players c =>
    obtain ⟨e, he, hbroken⟩ := (players_effect c s).ends
    refine Outcome.Ends.executed ⟨e, he, fun hb => ?_⟩ _
    rcases hbroken hb with ⟨target, -, hr⟩ | ⟨-, ⟨n, hn, hbad⟩ | hbad⟩
    · exact absurd hr resolve_ne_unwritable
    · exact fun hw => hbad (hw.1 n hn)
    · exact fun hw => hbad hw.2
  | function id => exact absurd rfl (h id)
  | execute condition run ih =>
    -- the state in which the guarded command runs is that in which the condition was tested
    refine Outcome.Ends.executed ?_ _
    cases condition.test s with
    | error refusal => exact Outcome.ends_refused s _ refusal
    | ok holds =>
      cases holds with
      | true => exact ih h
      | false => exact Outcome.ends_nothing s _
  | tellraw target message =>
    refine Outcome.Ends.executed ?_ _
    cases target.player? with
    | error refusal => exact Outcome.ends_refused s _ refusal
    | ok player => exact ⟨.success, ⟨rfl, List.forall_mem_nil _⟩, nofun⟩
  | foreign kind => exact Outcome.ends_refused s _ _

/-- A command with no call at its end, under any conditions and in any state, ends in exactly one
way: in a fault, with the game and all that was reported and said as before; in a single failure,
with the game as before and nothing said; without any failure; or in the middle of a report, and
that only if one of its amounts or of the scores has too many digits to be written. -/
theorem existsUnique_ending (rules : Rules) (c : Command) (s : State)
    (h : ∀ id, c.innermost ≠ .function id) :
    (∃! e, (c.run rules s).EndsIn s e) ∧
      ((c.run rules s).EndsIn s .brokenOff → ¬ (c.Writable ∧ s.Writable)) := by
  obtain ⟨e, he, hbroken⟩ := ends_runWith h s
  exact ⟨⟨e, he, fun _ he' => he'.unique he⟩, fun hb => hbroken (he.unique hb)⟩

/-- A game with one objective, in which two players have the given scores. -/
def twoScores (a b : Int) : State :=
  { State.empty with objectives := ⟨[("o", ⟨"o", .integer, .dummy, ⟨[("a", a), ("b", b)]⟩⟩)]⟩ }

/-- Under a condition that holds, a score is divided by one that is zero. -/
theorem existsUnique_ending_division :
    let o := (Command.execute (.inside (.player "a") "o" (.atLeast 7)) (.players (.operation
      (.player "a") "o" .divide (.player "b") "o"))).run ⟨none, 64⟩ (twoScores 7 0)
    ∀ e, o.EndsIn (twoScores 7 0) e ↔ e = .failure := by
  intro o
  obtain ⟨⟨e, he, honly⟩, -⟩ := existsUnique_ending ⟨none, 64⟩ (.execute (.inside (.player "a") "o"
    (.atLeast 7)) (.players (.operation (.player "a") "o" .divide (.player "b") "o")))
    (twoScores 7 0) nofun
  have hfailure : o.EndsIn (twoScores 7 0) .failure :=
    ⟨by decide, by decide, ⟨"Can't divide by zero", by decide⟩, by decide⟩
  have heq : e = .failure := (honly _ hfailure).symm
  intro e'
  constructor
  · intro he'
    rw [honly e' he', heq]
  · rintro rfl
    exact hfailure

theorem putScore_overlong (a b : Int) :
    (Command.players (.set (.player "a") "o" overlong)).run ⟨none, 64⟩ (twoScores a b) =
      ⟨twoScores overlong b, [.executed "PlayersSet"], some (.unwritable .info)⟩ := by
  have hreport : numeral? overlong = none := numeral?_eq_none_iff.2 not_writable_overlong
  have hrun : (Command.players (.set (.player "a") "o" overlong)).run ⟨none, 64⟩ (twoScores a b) =
      ((twoScores overlong b).inform
        [do return "Set [o] for a to " ++ (← numeral? overlong)]).preceded
        [.executed "PlayersSet"] := rfl
  rw [hrun, hreport]
  rfl

/-- A score with too many digits is stored before it is found that it cannot be reported. -/
theorem set_overlong_brokenOff :
    let o := (Command.players (.set (.player "a") "o" overlong)).run ⟨none, 64⟩ (twoScores 7 0)
    o.fault.isSome ∧ o.state.score? "o" "a" = some overlong ∧ o.state ≠ twoScores 7 0 ∧
      ∀ e, o.EndsIn (twoScores 7 0) e → e = .brokenOff := by
  intro o
  have ho : o = ⟨twoScores overlong 0, [.executed "PlayersSet"], some (.unwritable .info)⟩ :=
    putScore_overlong 7 0
  have hne : twoScores overlong 0 ≠ twoScores 7 0 := by
    intro h
    have hseven : some overlong = some 7 := congrArg (fun s => s.score? "o" "a") h
    apply not_writable_overlong
    rw [Option.some.inj hseven]
    exact Score.InRange.writable (by decide)
  rw [ho]
  refine ⟨rfl, rfl, hne, fun e he => he.unique ⟨rfl, fun h => hne h.1, ?_, rfl⟩⟩
  exact List.forall_mem_nil _

end Scoreboard
