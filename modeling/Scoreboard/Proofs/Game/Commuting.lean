import Scoreboard.Proofs.Game.Frames
import Scoreboard.Proofs.Game.Matching

namespace Scoreboard

/-- A command on scores that looks at no others than those it addresses. -/
def PlayersCommand.OnCells : PlayersCommand → Prop
  | list _ => False
  | _ => True

namespace Objective

def withoutScores (o : Objective) : Objective :=
  { o with scores := .empty }

/-- A change that touches nothing but what is stored for one player, and makes of it what `g` says.
-/
structure ChangesOnly (player : String) (g : List Int → List Int) (f : Objective → Objective) :
    Prop where
  withoutScores : ∀ o, (f o).withoutScores = o.withoutScores
  self : ∀ o, (f o).scores.valuesOf player = g (o.scores.valuesOf player)
  other : ∀ o other, other ≠ player → (f o).scores.valuesOf other = o.scores.valuesOf other

theorem changesOnly_set (player : String) (score : Int) :
    ChangesOnly player (score :: List.tail ·) fun o =>
      { o with scores := o.scores.set player score } where
  withoutScores _ := rfl
  self o := o.scores.valuesOf_set_self player score
  other o _ hne := o.scores.valuesOf_set_of_ne hne score

theorem changesOnly_erase (player : String) :
    ChangesOnly player List.tail fun o => { o with scores := o.scores.erase player } where
  withoutScores _ := rfl
  self o := o.scores.valuesOf_erase_self player
  other o _ hne := o.scores.valuesOf_erase_of_ne hne

end Objective

namespace State

/-- The objectives in their order, with all but their scores, what is displayed, and who is
registered. -/
def withoutScores (s : State) : State :=
  { s with objectives := s.objectives.mapValues Objective.withoutScores }

/-- All that is stored as a player's score of an objective: one score at most, where no player is
twice in a table. -/
def stored (s : State) (objective player : String) : List Int :=
  ((s.objectives.get? objective).map fun o => o.scores.valuesOf player).getD []

/-- The same game, but for scores of which `P` does not hold. -/
structure AgreesOn (P : String → String → Prop) (s t : State) : Prop where
  withoutScores : s.withoutScores = t.withoutScores
  stored : ∀ objective player, P objective player →
    s.stored objective player = t.stored objective player

variable {s t u : State} {P Q : String → String → Prop} {a player : String} {o : Objective}

theorem stored_of_get? (h : s.objectives.get? a = some o) (player : String) :
    s.stored a player = o.scores.valuesOf player := by
  rw [stored, h, Option.map_some, Option.getD_some]

theorem score?_eq_head?_stored (s : State) (objective player : String) :
    s.score? objective player = (s.stored objective player).head? := by
  cases h : s.objectives.get? objective with
  | none =>
    rw [score?, stored, h, Option.bind_none, Option.map_none, Option.getD_none, List.head?_nil]
  | some o => rw [score?_of_get? h, stored_of_get? h, Table.get?_eq_head?_valuesOf]

namespace AgreesOn

theorem refl (s : State) : s.AgreesOn P s :=
  ⟨rfl, fun _ _ _ => rfl⟩

theorem trans (h : s.AgreesOn P t) (h' : t.AgreesOn P u) : s.AgreesOn P u :=
  ⟨h.withoutScores.trans h'.withoutScores, fun objective player hp =>
    (h.stored objective player hp).trans (h'.stored objective player hp)⟩

theorem mono (h : s.AgreesOn P t)
    (hpq : ∀ objective player, Q objective player → P objective player) :
    s.AgreesOn Q t :=
  ⟨h.withoutScores, fun objective player hq => h.stored objective player (hpq objective player hq)⟩

theorem get? (h : s.AgreesOn P t) (name : String) :
    s.objectives.get? name = none ∧ t.objectives.get? name = none ∨
      ∃ o o', s.objectives.get? name = some o ∧ t.objectives.get? name = some o' ∧
        o.withoutScores = o'.withoutScores := by
  have hget : (s.objectives.get? name).map Objective.withoutScores =
      (t.objectives.get? name).map Objective.withoutScores := by
    rw [← Table.get?_mapValues, ← Table.get?_mapValues]
    exact congrArg (fun u => u.objectives.get? name) h.withoutScores
  cases hs : s.objectives.get? name with
  | none =>
    rw [hs, Option.map_none, eq_comm, Option.map_eq_none_iff] at hget
    exact .inl ⟨rfl, hget⟩
  | some o =>
    rw [hs, Option.map_some, eq_comm, Option.map_eq_some_iff] at hget
    obtain ⟨o', ho', hsame⟩ := hget
    exact .inr ⟨o, o', rfl, ho', hsame.symm⟩

end AgreesOn

theorem withoutScores_modify {f : Objective → Objective}
    (hf : ∀ o, (f o).withoutScores = o.withoutScores) (s : State) (name : String) :
    (s.modify name f).withoutScores = s.withoutScores := by
  unfold modify
  split
  · rfl
  · next o ho =>
    have hset := Table.mapValues_set_of_get? ho (hf o)
    rw [withoutScores, withoutScores, hset]

variable {f : Objective → Objective} {g : List Int → List Int}

theorem modify_of_get?_eq_none (h : s.objectives.get? a = none) : s.modify a f = s := by
  rw [modify, h]

theorem stored_modify (hf : Objective.ChangesOnly player g f) (h : s.objectives.get? a = some o)
    (objective other : String) : (s.modify a f).stored objective other =
      if objective = a ∧ other = player then g (s.stored a player)
      else s.stored objective other := by
  rw [modify, h]
  by_cases ho : objective = a
  · rw [ho, stored_of_get? (Table.get?_set_self ..), stored_of_get? h, stored_of_get? h]
    by_cases hp : other = player
    · rw [if_pos ⟨rfl, hp⟩, hp, hf.self]
    · rw [if_neg fun hc => hp hc.2, hf.other o other hp]
  · rw [if_neg fun hc => ho hc.1, stored, stored, Table.get?_set_of_ne _ ho]

theorem AgreesOn.modify (h : s.AgreesOn P t) (hf : Objective.ChangesOnly player g f) (a : String) :
    (s.modify a f).AgreesOn P (t.modify a f) := by
  rcases h.get? a with ⟨hnone, hnone'⟩ | ⟨o, o', ho, ho', -⟩
  · rw [modify_of_get?_eq_none hnone, modify_of_get?_eq_none hnone']
    exact h
  · constructor
    · rw [withoutScores_modify hf.withoutScores, withoutScores_modify hf.withoutScores,
        h.withoutScores]
    · intro objective other hp
      rw [stored_modify hf ho, stored_modify hf ho']
      split
      · next hc => rw [h.stored a player (hc.1 ▸ hc.2 ▸ hp)]
      · exact h.stored objective other hp

theorem agreesOn_modify (hf : Objective.ChangesOnly player g f) (hp : ¬ P a player) (s : State) :
    (s.modify a f).AgreesOn P s := by
  refine ⟨withoutScores_modify hf.withoutScores s a, fun objective other hother => ?_⟩
  cases ho : s.objectives.get? a with
  | none => rw [modify_of_get?_eq_none ho]
  | some o =>
    rw [stored_modify hf ho]
    apply if_neg
    rintro ⟨rfl, rfl⟩
    exact hp hother

theorem AgreesOn.setScore (h : s.AgreesOn P t) (objective player : String) (score : Int) :
    (s.setScore objective player score).AgreesOn P (t.setScore objective player score) :=
  h.modify (Objective.changesOnly_set player score) objective

theorem AgreesOn.eraseScore (h : s.AgreesOn P t) (objective player : String) :
    (s.eraseScore objective player).AgreesOn P (t.eraseScore objective player) :=
  h.modify (Objective.changesOnly_erase player) objective

theorem agreesOn_setScore {cells : List (String × Target)} (h : Addresses cells a player)
    (s : State)
    (score : Int) : (s.setScore a player score).AgreesOn
      (fun objective player => ¬ Addresses cells objective player) s :=
  agreesOn_modify (Objective.changesOnly_set player score) (not_not_intro h) s

theorem agreesOn_eraseScore {cells : List (String × Target)} (h : Addresses cells a player)
    (s : State) : (s.eraseScore a player).AgreesOn
      (fun objective player => ¬ Addresses cells objective player) s :=
  agreesOn_modify (Objective.changesOnly_erase player) (not_not_intro h) s

end State

variable {s t : State} {P : String → String → Prop}

/-- Games that agree find the same objectives, with the same scores where they agree. -/
theorem State.AgreesOn.matches (h : s.AgreesOn P t) :
    s.Matches (fun name o o' => o.displayName = o'.displayName ∧
      ∀ player, P name player → o.scores.get? player = o'.scores.get? player) t := by
  refine State.matches_of_get? fun name => ?_
  rcases h.get? name with hnone | ⟨o, o', ho, ho', hsame⟩
  · exact .inl hnone
  · have hname : o.withoutScores.displayName = o'.withoutScores.displayName := by rw [hsame]
    refine .inr ⟨o, o', ho, ho', hname, fun player hp => ?_⟩
    rw [Table.get?_eq_head?_valuesOf, Table.get?_eq_head?_valuesOf, ← State.stored_of_get? ho,
      ← State.stored_of_get? ho', h.stored name player hp]

structure Outcome.AgreesOn (P : String → String → Prop) (o o' : Outcome) : Prop where
  state : o.state.AgreesOn P o'.state
  events : o.events = o'.events
  fault : o.fault = o'.fault

namespace Outcome

theorem AgreesOn.preceded {o o' : Outcome} (h : o.AgreesOn P o') (events : List Event) :
    (o.preceded events).AgreesOn P (o'.preceded events) :=
  ⟨h.state, congrArg (events ++ ·) h.events, h.fault⟩

theorem agreesOn_refused (h : s.AgreesOn P t) (refusal : Refusal) :
    (refused s refusal).AgreesOn P (refused t refusal) := by
  cases refusal <;> exact ⟨h, rfl, rfl⟩

theorem agreesOn_inform (h : s.AgreesOn P t) (messages : List (Option String)) :
    (s.inform messages).AgreesOn P (t.inform messages) := by
  induction messages with
  | nil => exact ⟨h, rfl, rfl⟩
  | cons message rest ih =>
    cases message with
    | none => exact ⟨h, rfl, rfl⟩
    | some message => exact ih.preceded _

end Outcome

theorem agreesOn_given_cell (h : s.AgreesOn P t) {target : Target} {objective : String}
    (hp : ∀ player, Addresses [(objective, target)] objective player → P objective player)
    {next next' : String × Objective → Outcome}
    (hnext : ∀ player o o', o.displayName = o'.displayName →
      o.scores.get? player = o'.scores.get? player →
      (next (player, o)).AgreesOn P (next' (player, o'))) :
    (Outcome.given s (s.cell target objective) next).AgreesOn P
      (Outcome.given t (t.cell target objective) next') := by
  refine (h.matches.cell target objective).given (Outcome.agreesOn_refused h) ?_
  rintro ⟨player, o⟩ ⟨_, o'⟩ ⟨rfl, rfl, hname, hscores⟩
  exact hnext player o o' hname (hscores player (hp player (List.mem_singleton_self _)))

/-- What is done, and what is reported of it, depends on the scores that are addressed alone. -/
theorem agreesOn_players_perform (h : s.AgreesOn P t) {c : PlayersCommand} (hc : c.OnCells)
    (hp : ∀ objective player, Addresses c.cells objective player → P objective player) :
    (c.perform s).AgreesOn P (c.perform t) := by
  cases c with
  | list target => exact hc.elim
  | add target objective amount | remove target objective amount =>
    refine agreesOn_given_cell h (hp objective) fun player o o' hname hscore => ?_
    simp only [hname, hscore]
    exact Outcome.agreesOn_inform (h.setScore objective player _) _
  | set target objective score =>
    refine agreesOn_given_cell h (hp objective) fun player o o' hname hscore => ?_
    simp only [hname]
    exact Outcome.agreesOn_inform (h.setScore objective player score) _
  | reset target objective =>
    refine agreesOn_given_cell h (hp objective) fun player o o' hname hscore => ?_
    exact Outcome.agreesOn_inform (h.eraseScore objective player) _
  | enable target objective =>
    refine agreesOn_given_cell h (hp objective) fun player o o' hname hscore => ?_
    exact Outcome.agreesOn_refused h _
  | get target objective =>
    refine agreesOn_given_cell h (hp objective) fun player o o' hname hscore => ?_
    simp only [hname, hscore]
    cases o'.scores.get? player with
    | none => exact Outcome.agreesOn_refused h _
    | some score => exact Outcome.agreesOn_inform h _
  | operation target targetObjective op source sourceObjective =>
    refine (h.matches.cells target targetObjective source sourceObjective).given
      (Outcome.agreesOn_refused h) ?_
    rintro ⟨⟨taker, o⟩, giver, q⟩ ⟨⟨_, o'⟩, _, q'⟩
      ⟨⟨rfl, rfl, hname, hscores⟩, rfl, rfl, -, hscores'⟩
    -- both scores are addressed, and they are read before either is stored
    have htarget := hscores taker (hp targetObjective taker List.mem_cons_self)
    have hsource := hscores' giver
      (hp sourceObjective giver (List.mem_cons_of_mem _ (List.mem_singleton_self _)))
    simp only [htarget, hsource]
    cases op.apply ((o'.scores.get? taker).getD 0) ((q'.scores.get? giver).getD 0) with
    | none => exact Outcome.agreesOn_refused h _
    | some new =>
      have hshown : o.displayName = o'.displayName := hname
      simp only [State.exchange, hshown]
      exact Outcome.agreesOn_inform
        ((h.setScore sourceObjective giver new.2).setScore targetObjective taker new.1) _

theorem agreesOn_of_players_leads {c : PlayersCommand} (h : c.Leads s t) :
    t.AgreesOn (fun objective player => ¬ Addresses c.cells objective player) s := by
  cases c with
  | get target objective | list target => exact h ▸ .refl _
  | add target objective amount | remove target objective amount | set target objective amount =>
    obtain ⟨player, o, rfl, -, rfl⟩ := h
    exact State.agreesOn_setScore (List.mem_singleton_self _) s _
  | reset target objective =>
    obtain ⟨player, o, rfl, -, rfl⟩ := h
    exact State.agreesOn_eraseScore (List.mem_singleton_self _) s
  | enable target objective => exact h.elim
  | operation target targetObjective op source sourceObjective =>
    obtain ⟨taker, giver, o, o', new, rfl, rfl, -, -, -, rfl⟩ := h
    apply (State.agreesOn_setScore List.mem_cons_self _ new.1).trans
    exact State.agreesOn_setScore (List.mem_cons_of_mem _ (List.mem_singleton_self _)) s new.2

variable (rules : Rules) {c c' : PlayersCommand}

theorem agreesOn_run_players (h : s.AgreesOn P t) (hc : c.OnCells)
    (hp : ∀ objective player, Addresses c.cells objective player → P objective player) :
    ((Command.players c).run rules s).AgreesOn P ((Command.players c).run rules t) :=
  (agreesOn_players_perform h hc hp).preceded _

theorem agreesOn_of_run_players (c : PlayersCommand) (s : State) :
    ((Command.players c).run rules s).state.AgreesOn
      (fun objective player => ¬ Addresses c.cells objective player) s :=
  (players_effect c s).state (P := fun t => t.AgreesOn _ s) (.refl s)
    fun _ => agreesOn_of_players_leads

/-- A command does the same after another one that addresses other scores. -/
theorem agreesOn_run_after (hc : c.OnCells) (hdisjoint : ∀ objective player,
      Addresses c.cells objective player → ¬ Addresses c'.cells objective player) (s : State) :
    ((Command.players c).run rules ((Command.players c').run rules s).state).AgreesOn
      (Addresses c.cells) ((Command.players c).run rules s) :=
  agreesOn_run_players rules ((agreesOn_of_run_players rules c' s).mono hdisjoint) hc
    fun _ _ => id

/-- Two commands on scores that address different ones report the same in either order, and lead to
the same objectives with the same attributes, displays and players, and to the same scores. -/
theorem disjoint_commands_commute (s : State) (hc : c.OnCells) (hc' : c'.OnCells)
    (hdisjoint : ∀ objective player,
      Addresses c.cells objective player → ¬ Addresses c'.cells objective player) :
    let first := (Command.players c).run rules s
    let second := (Command.players c').run rules first.state
    let first' := (Command.players c').run rules s
    let second' := (Command.players c).run rules first'.state
    second.state.withoutScores = second'.state.withoutScores ∧
      (∀ objective player,
        second.state.score? objective player = second'.state.score? objective player) ∧
      first.events = second'.events ∧ first.fault = second'.fault ∧
      second.events = first'.events ∧ second.fault = first'.fault := by
  intro first second first' second'
  have hdisjoint' : ∀ objective player,
      Addresses c'.cells objective player → ¬ Addresses c.cells objective player :=
    fun objective player h' h => hdisjoint objective player h h'
  have hsecond : second.AgreesOn (Addresses c'.cells) first' :=
    agreesOn_run_after rules hc' hdisjoint' s
  have hsecond' : second'.AgreesOn (Addresses c.cells) first :=
    agreesOn_run_after rules hc hdisjoint s
  have hleft : first.state.AgreesOn _ s := agreesOn_of_run_players rules c s
  have hleft' : first'.state.AgreesOn _ s := agreesOn_of_run_players rules c' s
  have hkept : second.state.AgreesOn _ first.state := agreesOn_of_run_players rules c' first.state
  have hkept' : second'.state.AgreesOn _ first'.state :=
    agreesOn_of_run_players rules c first'.state
  refine ⟨?_, fun objective player => ?_, hsecond'.events.symm, hsecond'.fault.symm,
    hsecond.events, hsecond.fault⟩
  · rw [hkept.withoutScores, hleft.withoutScores, hkept'.withoutScores, hleft'.withoutScores]
  · rw [State.score?_eq_head?_stored, State.score?_eq_head?_stored]
    -- a score is as the one command makes it that addresses it, whether that comes first or second
    by_cases h : Addresses c.cells objective player
    · rw [hkept.stored objective player (hdisjoint objective player h),
        hsecond'.state.stored objective player h]
    · by_cases h' : Addresses c'.cells objective player
      · rw [hsecond.state.stored objective player h', hkept'.stored objective player h]
      · rw [hkept.stored objective player h', hleft.stored objective player h,
          hkept'.stored objective player h, hleft'.stored objective player h']

/-- Both commands store scores that were not there, in one objective, so that the order of commands
is that of the players. -/
theorem disjoint_commands_commute_swap :
    let s : State := ⟨⟨[("o", ⟨"o", .integer, .dummy, ⟨[("a", 5)]⟩⟩)]⟩, .empty, .empty⟩
    let swap : PlayersCommand := .operation (.player "a") "o" .swap (.player "b") "o"
    let add : PlayersCommand := .add (.player "c") "o" 1
    let after (c : PlayersCommand) (s : State) := ((Command.players c).run ⟨none, 64⟩ s).state
    after add (after swap s) ≠ after swap (after add s) ∧
      ∀ objective player, (after add (after swap s)).score? objective player =
        (after swap (after add s)).score? objective player := by
  intro s swap add after
  have hdisjoint : ∀ objective player,
      Addresses swap.cells objective player → ¬ Addresses add.cells objective player := by
    intro objective player h h'
    obtain ⟨rfl, rfl⟩ : objective = "o" ∧ player = "c" := by
      simpa [Addresses, add, PlayersCommand.cells] using h'
    revert h
    decide
  have h := disjoint_commands_commute ⟨none, 64⟩ s (show swap.OnCells from trivial)
    (show add.OnCells from trivial) hdisjoint
  exact ⟨by decide, h.2.1⟩

end Scoreboard
