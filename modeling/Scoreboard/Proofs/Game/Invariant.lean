import Scoreboard.Proofs.Game.Effects
import Scoreboard.Proofs.Game.Runs
import Scoreboard.Proofs.Table

namespace Scoreboard

/-- The scores of an objective: one a player, each in range. -/
structure Objective.Sound (o : Objective) : Prop where
  distinct : o.scores.Distinct
  inRange : o.scores.All fun _ score => Score.InRange score

structure State.Sound (s : State) : Prop where
  objectives_distinct : s.objectives.Distinct
  displays_distinct : s.displays.Distinct
  players_distinct : s.players.Distinct
  objectives : s.objectives.All fun _ o => o.Sound
  displays : s.displays.All fun _ shown => ∀ name, shown = some name → name ∈ s.objectives.keys
  players : s.players.All fun key name => name = key

/-- The scores that a command stores as they are lie in range. -/
def PlayersCommand.SetsInRange : PlayersCommand → Prop
  | set _ _ score => Score.InRange score
  | _ => True

def Command.SetsInRange : Command → Prop
  | players c => c.SetsInRange
  | execute _ run => run.SetsInRange
  | _ => True

theorem Objective.Sound.getD_inRange {o : Objective} (h : o.Sound) (player : String) :
    Score.InRange ((o.scores.get? player).getD 0) := by
  cases hg : o.scores.get? player with
  | none => exact (by decide : Score.InRange 0)
  | some score => exact h.inRange.of_get? hg

namespace State.Sound

variable {s : State}

theorem empty : State.empty.Sound :=
  ⟨Table.distinct_empty, Table.distinct_empty, Table.distinct_empty, Table.all_empty _,
    Table.all_empty _, Table.all_empty _⟩

theorem addPlayer (h : s.Sound) (name : String) : (s.addPlayer name).Sound :=
  { h with
    players_distinct := h.players_distinct.set name name
    players := h.players.set rfl }

theorem setObjective (h : s.Sound) (name : String) {o : Objective} (ho : o.Sound) :
    { s with objectives := s.objectives.set name o }.Sound :=
  { h with
    objectives_distinct := h.objectives_distinct.set name o
    objectives := h.objectives.set ho
    displays := h.displays.imp fun _ _ _ hshown name' he =>
      Table.mem_keys_set.2 (.inl (hshown name' he)) }

theorem modify (h : s.Sound) (name : String) {f : Objective → Objective}
    (hf : ∀ o, o.Sound → (f o).Sound) : (s.modify name f).Sound := by
  unfold State.modify
  split
  · exact h
  · next o ho => exact h.setObjective name (hf o (h.objectives.of_get? ho))

theorem setScore (h : s.Sound) (objective player : String) {score : Int}
    (hr : Score.InRange score) : (s.setScore objective player score).Sound :=
  h.modify objective fun _ ho => ⟨ho.distinct.set player score, ho.inRange.set hr⟩

theorem eraseScore (h : s.Sound) (objective player : String) :
    (s.eraseScore objective player).Sound :=
  h.modify objective fun _ ho => ⟨ho.distinct.erase player, ho.inRange.erase player⟩

theorem change (h : s.Sound) (name : String) (modification : Modification) :
    (s.change name modification).Sound := by
  cases modification with
  | displayName shown => exact h.modify name fun _ ho => ⟨ho.distinct, ho.inRange⟩
  | renderType type => exact h.modify name fun _ ho => ⟨ho.distinct, ho.inRange⟩

theorem without (h : s.Sound) (name : String) : (s.without name).Sound := by
  refine { h with
    objectives_distinct := h.objectives_distinct.erase name
    displays_distinct := h.displays_distinct.mapValues _
    objectives := h.objectives.erase name
    displays := ?_ }
  rw [displays_without, objectives_without, Table.all_mapValues_iff]
  refine h.displays.imp fun slot _ shown hshown other he => ?_
  -- a slot that still shows something shows another objective than the removed one
  split at he
  · cases he
  · next hne =>
    subst he
    have hother : other ≠ name := fun heq => hne (congrArg some heq)
    rw [Table.keys_erase]
    exact (List.mem_erase_of_ne hother).2 (hshown other rfl)

theorem setDisplay (h : s.Sound) (slot : DisplaySlot) {name : String}
    (hname : name ∈ s.objectives.keys) :
    { s with displays := s.displays.set slot (some name) }.Sound :=
  { h with
    displays_distinct := h.displays_distinct.set slot (some name)
    displays := h.displays.set fun _ he => Option.some.inj he ▸ hname }

end State.Sound

theorem sound_objectives_leads {c : ObjectivesCommand} {s after : State} (hs : s.Sound)
    (h : c.Leads s after) : after.Sound := by
  cases c with
  | add objective criteria displayName =>
    obtain ⟨-, rfl⟩ := h
    exact hs.setObjective objective ⟨Table.distinct_empty, Table.all_empty _⟩
  | list => exact h ▸ hs
  | modify objective modification =>
    rcases h with rfl | rfl
    · exact hs
    · exact hs.change objective modification
  | remove objective => exact h ▸ hs.without objective
  | setDisplay slot objective =>
    obtain ⟨hobjective, rfl⟩ := h
    obtain ⟨o, ho⟩ := Option.isSome_iff_exists.1 hobjective
    exact hs.setDisplay slot (Table.mem_keys_of_get? ho)

theorem sound_players_leads {c : PlayersCommand} {s after : State} (hc : c.SetsInRange)
    (hs : s.Sound) (h : c.Leads s after) : after.Sound := by
  cases c with
  | add target objective amount | remove target objective amount =>
    obtain ⟨player, o, -, -, rfl⟩ := h
    exact hs.setScore objective player (Score.wrap_inRange _)
  | enable target objective => exact h.elim
  | get target objective | list target => exact h ▸ hs
  | operation target targetObjective op source sourceObjective =>
    obtain ⟨taker, giver, o, o', new, -, -, ho, ho', happly, rfl⟩ := h
    -- both scores are read before either is stored
    have hread := Operation.apply_keeps (fun _ => id)
      ((hs.objectives.of_get? ho).getD_inRange taker)
      ((hs.objectives.of_get? ho').getD_inRange giver) happly
    exact (hs.setScore sourceObjective giver hread.2).setScore targetObjective taker hread.1
  | reset target objective =>
    obtain ⟨player, o, -, -, rfl⟩ := h
    exact hs.eraseScore objective player
  | set target objective score =>
    obtain ⟨player, o, -, -, rfl⟩ := h
    exact hs.setScore objective player hc

theorem Command.SetsInRange.keeps {c : Command} (h : c.SetsInRange) :
    c.Keeps State.Sound := by
  induction c with
  | objectives c => exact fun _ _ => sound_objectives_leads
  | players c => exact fun _ _ => sound_players_leads h
  | execute condition run ih => exact ih h
  | function | tellraw | foreign => trivial

theorem sound_run {rules : Rules} (hall : rules.All Command.SetsInRange) {c : Command}
    (hc : c.SetsInRange) {s : State} (hs : s.Sound) : (c.run rules s).state.Sound :=
  Rules.run_keeps (hall.imp fun _ => Command.SetsInRange.keeps) hc.keeps hs

/-- What can be done to a game from outside. -/
inductive Move
  | addPlayer (name : String)
  | execute (c : Command)

def Move.apply (rules : Rules) (s : State) : Move → State
  | addPlayer name => s.addPlayer name
  | execute c => (c.run rules s).state

def Move.SetsInRange : Move → Prop
  | addPlayer _ => True
  | execute c => c.SetsInRange

theorem sound_move {rules : Rules} (hall : rules.All Command.SetsInRange) {move : Move}
    (hm : move.SetsInRange) {s : State} (hs : s.Sound) : (move.apply rules s).Sound := by
  cases move with
  | addPlayer name => exact hs.addPlayer name
  | execute c => exact sound_run hall hm hs

theorem sound_moves {rules : Rules} (hall : rules.All Command.SetsInRange) {moves : List Move}
    (hm : ∀ move ∈ moves, move.SetsInRange) {s : State} (hs : s.Sound) :
    (moves.foldl (Move.apply rules) s).Sound := by
  induction moves generalizing s with
  | nil => exact hs
  | cons move moves ih =>
    rw [List.forall_mem_cons] at hm
    exact ih hm.2 (sound_move hall hm.1 hs)

/-- Whatever is done to a new game, in whatever order: the invariant holds afterwards, if every
score that a command or a function of the datapack sets lies in range. -/
theorem sound_after_moves (rules : Rules) (moves : List Move)
    (hall : rules.All Command.SetsInRange) (hmoves : ∀ move ∈ moves, move.SetsInRange) :
    (moves.foldl (Move.apply rules) State.empty).Sound :=
  sound_moves hall hmoves .empty

/-- The function sets the greatest score, adds to it and calls itself, up to three calls deep. -/
theorem sound_after_moves_recursive :
    ([.addPlayer "a", .execute (.objectives (.add "o" .dummy none)),
      .execute (.objectives (.setDisplay .list "o")), .execute (.function ⟨"f", none⟩),
      .execute (.tellraw (.selector .a) "done")].foldl
        (Move.apply ⟨some ⟨"pack", [⟨⟨"f", none⟩, [.players (.set (.player "a") "o" 2147483647),
          .players (.add (.player "a") "o" 1), .function ⟨"f", none⟩]⟩]⟩, 3⟩)
        State.empty).Sound := by
  refine sound_after_moves _ _ ?_ ?_
  · rintro pack ⟨⟩ f hf c hc
    obtain rfl := List.mem_singleton.1 hf
    simp only [List.mem_cons, List.not_mem_nil, or_false] at hc
    rcases hc with rfl | rfl | rfl
    · exact (by decide : Score.InRange 2147483647)
    · trivial
    · trivial
  · simp [Move.SetsInRange, Command.SetsInRange]

end Scoreboard
