import Scoreboard.Game.Execute
import Scoreboard.Proofs.Game.Matching

namespace Scoreboard

def State.scoreTables (s : State) : Table String (Table String Int) :=
  s.objectives.mapValues Objective.scores

/-- The same objectives in the same order, with score tables that count as the same. -/
def State.SameScores (same : Table String Int → Table String Int → Prop) (s s' : State) : Prop :=
  s.scoreTables.Related same s'.scoreTables

/-- Look-ups cannot tell tables apart that count as the same, and changes leave them the same. -/
structure ScoreCongruence (same : Table String Int → Table String Int → Prop) : Prop where
  empty : same .empty .empty
  get? {t t' : Table String Int} : same t t' → ∀ player, t.get? player = t'.get? player
  set {t t' : Table String Int} : same t t' → ∀ player score,
    same (t.set player score) (t'.set player score)
  erase {t t' : Table String Int} : same t t' → ∀ player, same (t.erase player) (t'.erase player)

theorem scoreCongruence_eq : ScoreCongruence (· = ·) where
  empty := rfl
  get? h player := by rw [h]
  set h player score := by rw [h]
  erase h player := by rw [h]

theorem scoreCongruence_sameMap : ScoreCongruence Table.SameMap where
  empty := ⟨Table.distinct_empty, Table.distinct_empty, fun _ => rfl⟩
  get? h := h.get?
  set h := h.set
  erase h := h.erase

/-- The same fault or none, the same messages to the players, and the same scores. -/
structure Outcome.Alike (same : Table String Int → Table String Int → Prop) (o o' : Outcome) :
    Prop where
  fault : o.fault = o'.fault
  chat : Event.chat o.events = Event.chat o'.events
  scores : o.state.SameScores same o'.state

namespace State

variable {same : Table String Int → Table String Int → Prop} {s s' : State} {name : String}

theorem get?_scoreTables (s : State) (name : String) :
    s.scoreTables.get? name = (s.objectives.get? name).map Objective.scores :=
  Table.get?_mapValues Objective.scores s.objectives name

theorem scoreTables_modify {f : Objective → Objective} (hf : ∀ o, (f o).scores = o.scores) :
    (s.modify name f).scoreTables = s.scoreTables := by
  unfold State.modify
  split
  · rfl
  · next o ho => exact Table.mapValues_set_of_get? ho (hf o)

theorem scoreTables_change (s : State) (name : String) (modification : Modification) :
    (s.change name modification).scoreTables = s.scoreTables := by
  cases modification with
  | displayName shown => exact scoreTables_modify fun _ => rfl
  | renderType type => exact scoreTables_modify fun _ => rfl

theorem SameScores.get? (h : s.SameScores same s') (name : String) :
    s.objectives.get? name = none ∧ s'.objectives.get? name = none ∨
      ∃ o o', s.objectives.get? name = some o ∧ s'.objectives.get? name = some o' ∧
        same o.scores o'.scores := by
  have hget := Table.Related.get? h name
  rw [get?_scoreTables, get?_scoreTables] at hget
  rcases hget with ⟨hnone, hnone'⟩ | ⟨t, t', ht, ht', hsame⟩
  · exact .inl ⟨Option.map_eq_none_iff.1 hnone, Option.map_eq_none_iff.1 hnone'⟩
  · obtain ⟨o, ho, rfl⟩ := Option.map_eq_some_iff.1 ht
    obtain ⟨o', ho', rfl⟩ := Option.map_eq_some_iff.1 ht'
    exact .inr ⟨o, o', ho, ho', hsame⟩

theorem SameScores.modify (h : s.SameScores same s') (name : String) {f : Objective → Objective}
    (hf : ∀ o o', same o.scores o'.scores → same (f o).scores (f o').scores) :
    (s.modify name f).SameScores same (s'.modify name f) := by
  unfold State.modify
  rcases h.get? name with ⟨hnone, hnone'⟩ | ⟨o, o', ho, ho', hsame⟩
  · rw [hnone, hnone']
    exact h
  · rw [ho, ho']
    show ((s.objectives.set name (f o)).mapValues _).Related same
      ((s'.objectives.set name (f o')).mapValues _)
    rw [Table.mapValues_set, Table.mapValues_set]
    exact Table.Related.set h name (hf o o' hsame)

variable (hsame : ScoreCongruence same)
include hsame

theorem SameScores.setScore (h : s.SameScores same s') (objective player : String) (score : Int) :
    (s.setScore objective player score).SameScores same (s'.setScore objective player score) :=
  h.modify objective fun _ _ ho => hsame.set ho player score

theorem SameScores.eraseScore (h : s.SameScores same s') (objective player : String) :
    (s.eraseScore objective player).SameScores same (s'.eraseScore objective player) :=
  h.modify objective fun _ _ ho => hsame.erase ho player

omit hsame

theorem SameScores.contains_eq (h : s.SameScores same s') (name : String) :
    s.objectives.contains name = s'.objectives.contains name := by
  rcases h.get? name with ⟨hnone, hnone'⟩ | ⟨o, o', ho, ho', -⟩
  · rw [Table.contains, Table.contains, hnone, hnone']
  · rw [Table.contains, Table.contains, ho, ho']
    rfl

theorem SameScores.matches (h : s.SameScores same s') :
    s.Matches (fun _ o o' => same o.scores o'.scores) s' :=
  matches_of_get? h.get?

end State

namespace Outcome

variable {same : Table String Int → Table String Int → Prop} {s s' : State} {o o' : Outcome}

theorem alike_refused (h : s.SameScores same s') (refusal : Refusal) :
    (refused s refusal).Alike same (refused s' refusal) := by
  cases refusal with
  | fault f => exact ⟨rfl, rfl, h⟩
  | failure message => exact ⟨rfl, rfl, h⟩

/-- Messages of which those that are written in the one game are written in the other. -/
theorem alike_reports {level : Level} {messages messages' : List (Option String)}
    (h : s.SameScores same s')
    (hm : List.Forall₂ (fun m m' => m = none ↔ m' = none) messages messages') :
    (reports s level messages).Alike same (reports s' level messages') := by
  induction hm with
  | nil => exact ⟨rfl, rfl, h⟩
  | @cons m m' rest rest' hm hrest ih =>
    cases m with
    | none =>
      rw [hm.1 rfl]
      exact ⟨rfl, rfl, h⟩
    | some message =>
      obtain ⟨message', rfl⟩ := Option.ne_none_iff_exists'.1 fun hnone => nomatch hm.2 hnone
      exact ⟨ih.fault, ih.chat, ih.scores⟩

theorem alike_told {message message' : Option String} (h : s.SameScores same s')
    (hm : message = none ↔ message' = none) :
    (s.inform [message]).Alike same (s'.inform [message']) :=
  alike_reports h (.cons hm .nil)

theorem Alike.preceded (h : o.Alike same o') (events : List Event) :
    (o.preceded events).Alike same (o'.preceded events) := by
  refine ⟨h.fault, ?_, h.scores⟩
  rw [Outcome.preceded, Outcome.preceded, Event.chat_append, Event.chat_append, h.chat]

theorem Alike.followed (h : o.Alike same o') (events : List Event) :
    (o.followed events).Alike same (o'.followed events) := by
  refine ⟨h.fault, ?_, h.scores⟩
  rw [Outcome.followed, Outcome.followed, Event.chat_append, Event.chat_append, h.chat]

theorem Alike.andThen (h : o.Alike same o') {next next' : State → Outcome}
    (hnext : ∀ {s s'}, s.SameScores same s' → (next s).Alike same (next' s')) :
    (o.andThen next).Alike same (o'.andThen next') := by
  unfold Outcome.andThen
  rw [← h.fault]
  split
  · exact h
  · have hrest := hnext h.scores
    refine ⟨hrest.fault, ?_, hrest.scores⟩
    rw [Event.chat_append, Event.chat_append, h.chat, hrest.chat]

end Outcome

variable {same : Table String Int → Table String Int → Prop} {s s' : State}

/-- To show an objective in another way, or in another place, is no matter of scores. -/
theorem scoreTables_perform {c : ObjectivesCommand} (s : State)
    (h : ∀ after, c.Leads s after → after.scoreTables = s.scoreTables) :
    (c.perform s).state.scoreTables = s.scoreTables :=
  (objectives_effect c s).state (P := fun after => after.scoreTables = s.scoreTables) rfl h

theorem scoreTables_modifyObjective (s : State) (name : String) (modification : Modification) :
    ((ObjectivesCommand.modify name modification).perform s).state.scoreTables = s.scoreTables := by
  refine scoreTables_perform s fun after h => ?_
  rcases h with rfl | rfl
  · rfl
  · exact s.scoreTables_change name modification

theorem scoreTables_setDisplay (s : State) (slot : DisplaySlot) (name : String) :
    ((ObjectivesCommand.setDisplay slot name).perform s).state.scoreTables = s.scoreTables := by
  refine scoreTables_perform s fun after h => ?_
  rw [h.2]
  rfl

theorem sameScores_objectives_perform (hsame : ScoreCongruence same) (h : s.SameScores same s')
    (c : ObjectivesCommand) : (c.perform s).state.SameScores same (c.perform s').state := by
  cases c with
  | add objective criteria displayName =>
    simp only [ObjectivesCommand.perform, State.addObjective, h.contains_eq objective]
    split
    · exact h
    · show ((s.objectives.set objective _).mapValues _).Related same
        ((s'.objectives.set objective _).mapValues _)
      rw [Table.mapValues_set, Table.mapValues_set]
      exact Table.Related.set h objective hsame.empty
  | list => exact h
  | modify objective modification =>
    rw [State.SameScores, scoreTables_modifyObjective, scoreTables_modifyObjective]
    exact h
  | remove objective =>
    refine (h.matches objective).given (T := fun o o' => o.state.SameScores same o'.state)
      (fun refusal => (Outcome.alike_refused h refusal).scores) fun o o' _ => ?_
    show ((s.objectives.erase objective).mapValues _).Related same
      ((s'.objectives.erase objective).mapValues _)
    rw [Table.mapValues_erase, Table.mapValues_erase]
    exact Table.Related.erase h objective
  | setDisplay slot objective =>
    rw [State.SameScores, scoreTables_setDisplay, scoreTables_setDisplay]
    exact h

/-- A command on objectives may fail in one game and not in the other, but never at a fault. -/
theorem alike_objectives_perform (hsame : ScoreCongruence same) (h : s.SameScores same s')
    (c : ObjectivesCommand) : (c.perform s).Alike same (c.perform s') := by
  have hfault : ∀ s, (c.perform s).fault = none := by
    intro s
    cases hf : (c.perform s).fault with
    | none => rfl
    | some f => exact ((objectives_effect c s).fault hf).elim
  refine ⟨(hfault s).trans (hfault s').symm, ?_, sameScores_objectives_perform hsame h c⟩
  rw [(objectives_effect c s).chat, (objectives_effect c s').chat]

theorem alike_given_cell (h : s.SameScores same s') (target : Target) (objective : String)
    {next next' : String × Objective → Outcome}
    (hnext : ∀ player o o', same o.scores o'.scores →
      (next (player, o)).Alike same (next' (player, o'))) :
    (Outcome.given s (s.cell target objective) next).Alike same
      (Outcome.given s' (s'.cell target objective) next') := by
  refine (h.matches.cell target objective).given (Outcome.alike_refused h) ?_
  rintro ⟨player, o⟩ ⟨_, o'⟩ ⟨rfl, rfl, hscores⟩
  exact hnext player o o' hscores

theorem alike_operate (hsame : ScoreCongruence same) (h : s.SameScores same s') (target : Target)
    (targetObjective : String) (op : Operation) (source : Target) (sourceObjective : String) :
    (s.operate target targetObjective op source sourceObjective).Alike same
      (s'.operate target targetObjective op source sourceObjective) := by
  refine (h.matches.cells target targetObjective source sourceObjective).given
    (Outcome.alike_refused h) ?_
  rintro ⟨⟨taker, o⟩, giver, p⟩ ⟨⟨_, o'⟩, _, p'⟩ ⟨⟨rfl, rfl, hscores⟩, rfl, rfl, hscores'⟩
  -- both scores are read before either is stored, so both games store the same two
  have hread := hsame.get? hscores taker
  have hread' := hsame.get? hscores' giver
  simp only [hread, hread']
  cases op.apply ((o'.scores.get? taker).getD 0) ((p'.scores.get? giver).getD 0) with
  | none => exact Outcome.alike_refused h _
  | some scores =>
    exact Outcome.alike_told ((h.setScore hsame sourceObjective giver scores.2).setScore hsame
      targetObjective taker scores.1) (by simp)

theorem scoresOf_alike (hsame : ScoreCongruence same) (h : s.SameScores same s') (player : String) :
    List.Forall₂ (fun score score' => score.2 = score'.2) (s.scoresOf player)
      (s'.scoresOf player) := by
  have hobjectives : List.Forall₂ (fun o o' => same o.scores o'.scores) s.objectives.values
      s'.objectives.values := by
    rw [Table.values, Table.values, List.forall₂_map_left_iff, List.forall₂_map_right_iff]
    rw [State.SameScores, Table.Related, State.scoreTables, State.scoreTables, Table.mapValues,
      Table.mapValues, List.forall₂_map_left_iff, List.forall₂_map_right_iff] at h
    exact h.imp fun _ _ he => he.2
  rw [State.scoresOf, State.scoresOf]
  generalize s.objectives.values = objectives, s'.objectives.values = objectives' at hobjectives ⊢
  induction hobjectives with
  | nil => exact .nil
  | @cons o o' rest rest' ho hrest ih =>
    simp only [List.filterMap_cons, hsame.get? ho player]
    cases o'.scores.get? player with
    | none => exact ih
    | some score => exact .cons rfl ih

theorem alike_listEach (h : s.SameScores same s') (player : String)
    {scores scores' : List (String × Int)}
    (hscores : List.Forall₂ (fun score score' => score.2 = score'.2) scores scores') :
    (s.listEach player scores).Alike same (s'.listEach player scores') := by
  have heach : List.Forall₂ (fun m m' => m = none ↔ m' = none) (scores.map State.listed)
      (scores'.map State.listed) := by
    rw [List.forall₂_map_left_iff, List.forall₂_map_right_iff]
    refine hscores.imp fun score score' heq => ?_
    rw [State.listed_eq_none_iff, State.listed_eq_none_iff, heq]
  rw [State.listEach, State.listEach]
  cases hscores with
  | nil => exact Outcome.alike_told h .rfl
  | cons hscore hrest =>
    exact Outcome.alike_reports h (.cons (by simp) heach)

theorem alike_players_perform (hsame : ScoreCongruence same) (h : s.SameScores same s')
    (c : PlayersCommand) : (c.perform s).Alike same (c.perform s') := by
  cases c with
  | add target objective amount | remove target objective amount =>
    refine alike_given_cell h target objective fun player o o' hscores => ?_
    simp only [hsame.get? hscores player]
    exact Outcome.alike_told (h.setScore hsame objective player _) (by simp)
  | set target objective amount =>
    refine alike_given_cell h target objective fun player o o' hscores => ?_
    exact Outcome.alike_told (h.setScore hsame objective player _) (by simp)
  | reset target objective =>
    refine alike_given_cell h target objective fun player o o' hscores => ?_
    exact Outcome.alike_told (h.eraseScore hsame objective player) (by simp)
  | enable target objective =>
    refine alike_given_cell h target objective fun player o o' hscores => ?_
    exact Outcome.alike_refused h _
  | get target objective =>
    refine alike_given_cell h target objective fun player o o' hscores => ?_
    simp only [hsame.get? hscores player]
    cases o'.scores.get? player with
    | none => exact Outcome.alike_refused h _
    | some score => exact Outcome.alike_told h (by simp)
  | list target =>
    cases target with
    | none => exact Outcome.alike_told h (by simp)
    | some target =>
      refine (matched_player? target).given (Outcome.alike_refused h) ?_
      rintro player _ ⟨-, rfl⟩
      exact alike_listEach h player (scoresOf_alike hsame h player)
  | operation target targetObjective op source sourceObjective =>
    exact alike_operate hsame h target targetObjective op source sourceObjective

theorem test_eq (hsame : ScoreCongruence same) (h : s.SameScores same s') (c : Condition) :
    c.test s = c.test s' := by
  cases c with
  | compare target targetObjective relation source sourceObjective =>
    refine ((h.matches.cells target targetObjective source sourceObjective).bind ?_).eq
    rintro ⟨⟨left, o⟩, right, p⟩ ⟨⟨_, o'⟩, _, p'⟩ ⟨⟨rfl, rfl, hscores⟩, rfl, rfl, hscores'⟩
    simp only [hsame.get? hscores left, hsame.get? hscores' right]
    split <;> exact .ok rfl
  | inside target objective interval =>
    refine ((h.matches.cell target objective).bind ?_).eq
    rintro ⟨player, o⟩ ⟨_, o'⟩ ⟨rfl, rfl, hscores⟩
    simp only [hsame.get? hscores player]
    split <;> exact .ok rfl

theorem alike_runWith (hsame : ScoreCongruence same) {call : FunctionId → State → Outcome}
    (hcall : ∀ id {s s'}, s.SameScores same s' → (call id s).Alike same (call id s')) (c : Command)
    (h : s.SameScores same s') : (c.runWith call s).Alike same (c.runWith call s') := by
  induction c with
  | objectives c => exact (alike_objectives_perform hsame h c).preceded _
  | players c => exact (alike_players_perform hsame h c).preceded _
  | function id => exact (hcall id h).preceded _
  | execute condition run ih =>
    rw [Command.runWith, Command.runWith, test_eq hsame h condition]
    apply Outcome.Alike.preceded
    cases condition.test s' with
    | error refusal => exact Outcome.alike_refused h refusal
    | ok holds =>
      cases holds with
      | true => exact ih
      | false => exact ⟨rfl, rfl, h⟩
  | tellraw target message =>
    apply Outcome.Alike.preceded
    cases target.player? with
    | error refusal => exact Outcome.alike_refused h refusal
    | ok player => exact ⟨rfl, rfl, h⟩
  | foreign kind => exact Outcome.alike_refused h _

theorem alike_runAll {run run' : Command → State → Outcome} {commands : List Command}
    (hrun : ∀ c {s s'}, s.SameScores same s' → (run c s).Alike same (run' c s'))
    (h : s.SameScores same s') : (runAll run commands s).Alike same (runAll run' commands s') := by
  induction commands generalizing s s' with
  | nil => exact ⟨rfl, rfl, h⟩
  | cons c rest ih => exact (hrun c h).andThen ih

theorem alike_withFunction (rules : Rules) (id : FunctionId) (h : s.SameScores same s')
    {next next' : Function → Outcome} (hnext : ∀ f, (next f).Alike same (next' f)) :
    (rules.withFunction id s next).Alike same (rules.withFunction id s' next') := by
  unfold Rules.withFunction
  split
  · exact Outcome.alike_refused h _
  · split
    · exact Outcome.alike_refused h _
    · exact hnext _

theorem alike_call (hsame : ScoreCongruence same) (rules : Rules) (left : Nat) (id : FunctionId)
    (h : s.SameScores same s') : (rules.call left id s).Alike same (rules.call left id s') := by
  induction left generalizing id s s' with
  | zero =>
    exact alike_withFunction rules id h fun _ => Outcome.alike_reports h (.cons .rfl .nil)
  | succ left ih =>
    apply alike_withFunction rules id h
    intro f
    apply Outcome.Alike.followed
    apply Outcome.Alike.preceded
    exact alike_runAll (fun c _ _ hs => alike_runWith hsame (fun id _ _ hs => ih id hs) c hs) h

theorem alike_run (hsame : ScoreCongruence same) (rules : Rules) (c : Command)
    (h : s.SameScores same s') : (c.run rules s).Alike same (c.run rules s') :=
  alike_runWith hsame (fun id _ _ hs => alike_call hsame rules _ id hs) c h

/-- The outcomes of commands that are carried out one after another, whatever becomes of each. -/
def Rules.outcomes (rules : Rules) : List Command → State → List Outcome
  | [], _ => []
  | c :: rest, s => c.run rules s :: rules.outcomes rest (c.run rules s).state

theorem alike_outcomes (hsame : ScoreCongruence same) (rules : Rules) (commands : List Command)
    (h : s.SameScores same s') :
    List.Forall₂ (Outcome.Alike same) (rules.outcomes commands s) (rules.outcomes commands s') := by
  induction commands generalizing s s' with
  | nil => exact .nil
  | cons c rest ih =>
    have hfirst := alike_run hsame rules c h
    exact .cons hfirst (ih hfirst.scores)

/-- Two games with the same objectives and the same scores go on alike, however differently they
show them and whoever is registered. Each command of a sequence ends in the same fault in both or in
none, with the same messages to the players and the same scores afterwards, and so does the sequence
as far as the first fault. Scores that come in the same order in both games still do. -/
theorem cosmetics_leave_scores_alone (rules : Rules) (commands : List Command) {s s' : State}
    (h : s.SameScores Table.SameMap s') :
    List.Forall₂ (Outcome.Alike Table.SameMap) (rules.outcomes commands s)
        (rules.outcomes commands s') ∧
      (runAll (Command.run rules) commands s).Alike Table.SameMap
        (runAll (Command.run rules) commands s') ∧
      (s.SameScores (· = ·) s' →
        List.Forall₂ (Outcome.Alike (· = ·)) (rules.outcomes commands s)
            (rules.outcomes commands s') ∧
          (runAll (Command.run rules) commands s).Alike (· = ·)
            (runAll (Command.run rules) commands s')) := by
  have hmap := scoreCongruence_sameMap
  have heq := scoreCongruence_eq
  refine ⟨alike_outcomes hmap rules commands h, ?_, fun hordered => ?_⟩
  · exact alike_runAll (fun c _ _ hs => alike_run hmap rules c hs) h
  · exact ⟨alike_outcomes heq rules commands hordered,
      alike_runAll (fun c _ _ hs => alike_run heq rules c hs) hordered⟩

def catchUp : List Command :=
  [.objectives (.setDisplay .list "o"),
    .execute (.compare (.player "a") "o" .less (.player "b") "o")
      (.players (.add (.player "a") "o" 4)),
    .tellraw (.player "b") "done", .tellraw (.selector .a) "all"]

/-- One game has the objective on display already, and the other the players in another order. -/
theorem cosmetics_leave_scores_alone_catchUp :
    (runAll (Command.run ⟨none, 64⟩) catchUp
        ⟨⟨[("o", ⟨"O", .hearts, .dummy, ⟨[("a", 1), ("b", 2)]⟩⟩)]⟩, ⟨[(.list, some "o")]⟩,
          .empty⟩).Alike Table.SameMap
      (runAll (Command.run ⟨none, 64⟩) catchUp
        ⟨⟨[("o", ⟨"o", .integer, .dummy, ⟨[("b", 2), ("a", 1)]⟩⟩)]⟩, .empty, ⟨[("c", "c")]⟩⟩) := by
  refine (cosmetics_leave_scores_alone ⟨none, 64⟩ catchUp ?_).2.1
  refine List.Forall₂.cons ⟨rfl, ?_⟩ .nil
  refine ⟨by simp [Table.Distinct, Table.keys], by simp [Table.Distinct, Table.keys], ?_⟩
  intro player
  by_cases ha : "a" = player
  · subst ha
    rfl
  · simp [Table.get?, Table.find, ha]

end Scoreboard
