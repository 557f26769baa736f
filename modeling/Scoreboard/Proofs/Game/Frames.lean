import Scoreboard.Proofs.Game.Endings
import Scoreboard.Proofs.Revisions

namespace Scoreboard

def ObjectivesCommand.named : ObjectivesCommand → List String
  | add objective _ _ | modify objective _ | remove objective | setDisplay _ objective =>
    [objective]
  | list => []

/-- The scores that a command addresses, each by its objective and its target. -/
def PlayersCommand.cells : PlayersCommand → List (String × Target)
  | add target objective _ | enable target objective | get target objective
  | remove target objective _ | reset target objective | set target objective _ =>
    [(objective, target)]
  | list _ => []
  | operation target targetObjective _ source sourceObjective =>
    [(targetObjective, target), (sourceObjective, source)]

/-- A player's score of an objective is among those that are addressed. -/
def Addresses (cells : List (String × Target)) (objective player : String) : Prop :=
  (objective, Target.player player) ∈ cells

instance (cells : List (String × Target)) (objective : String) :
    DecidablePred (Addresses cells objective) :=
  fun _ => inferInstanceAs (Decidable (_ ∈ _))

namespace Command

def cells : Command → List (String × Target)
  | players c => c.cells
  | execute _ run => run.cells
  | _ => []

/-- The objectives that a command names, those of its conditions left out. -/
def named : Command → List String
  | objectives c => c.named
  | players c => c.cells.map Prod.fst
  | execute _ run => run.named
  | _ => []

/-- The commands that only look. -/
def Reads : Command → Prop
  | objectives .list | players (.list _) | players (.get _ _) | players (.enable _ _)
  | tellraw _ _ =>
    True
  | _ => False

/-- A slot is set to show an objective, or what it shows in the state `s` is removed. -/
def Redisplays (s : State) (slot : DisplaySlot) (k : Command) : Prop :=
  (∃ name, k = .objectives (.setDisplay slot name)) ∨
    ∃ name, k = .objectives (.remove name) ∧ s.displays.get? slot = some (some name)

/-- What a command leaves of an objective that it may have changed. -/
structure KeepsObjective (k : Command) (name : String) (o o' : Objective) : Prop where
  scores : o.scores.Revised (Addresses k.cells name) o'.scores
  look : (∀ change, k ≠ .objectives (.modify name change)) → o' = { o with scores := o'.scores }

/-- What a command that was carried out in the state `s` leaves of it. -/
structure Frame (k : Command) (s s' : State) : Prop where
  players : s'.players = s.players
  objectives : s.objectives.Revised (· ∈ k.named) s'.objectives
  survivors : s.objectives.Survivors k.KeepsObjective s'.objectives
  displays : ∀ slot, s'.displays.get? slot ≠ s.displays.get? slot → k.Redisplays s slot
  reading : k.Reads → s' = s

variable {k : Command} {s s' : State}

theorem KeepsObjective.refl (k : Command) (name : String) (o : Objective) :
    k.KeepsObjective name o o :=
  ⟨.refl o.scores, fun _ => rfl⟩

theorem Frame.refl (k : Command) (s : State) : k.Frame s s :=
  ⟨rfl, .refl _, .of_subset (KeepsObjective.refl k) (List.Subset.refl _),
    fun _ h => absurd rfl h, fun _ => rfl⟩

end Command

/-- Scores were stored in an objective, for players whose targets are among the given ones. -/
structure Objective.Stored (cells : List (String × Target)) (name : String) (o o' : Objective) :
    Prop where
  scores : o.scores.Extended (Addresses cells name) o'.scores
  look : o' = { o with scores := o'.scores }

namespace Objective.Stored

variable {cells : List (String × Target)} {name : String} {a b c : Objective}

theorem refl (o : Objective) : o.Stored cells name o :=
  ⟨.refl o.scores, rfl⟩

theorem trans (h : a.Stored cells name b) (h' : b.Stored cells name c) : a.Stored cells name c := by
  refine ⟨h.scores.trans h'.scores, ?_⟩
  rw [h'.look, h.look]

end Objective.Stored

structure State.Stored (cells : List (String × Target)) (s s' : State) : Prop where
  objectives : s.objectives.Extended (· ∈ cells.map Prod.fst) s'.objectives
  survivors : s.objectives.Survivors (Objective.Stored cells) s'.objectives
  rest : s' = { s with objectives := s'.objectives }

namespace State

variable {s s' s'' : State} {cells : List (String × Target)} {name player : String}

theorem Stored.trans (h : s.Stored cells s') (h' : s'.Stored cells s'') : s.Stored cells s'' := by
  refine ⟨h.objectives.trans h'.objectives, ?_, by rw [h'.rest, h.rest]⟩
  exact h.survivors.trans (fun _ _ _ _ => Objective.Stored.trans)
    (fun _ => h.objectives.mem_keys) h'.survivors

theorem stored_setScore (h : Addresses cells name player) (s : State) (score : Int) :
    s.Stored cells (s.setScore name player score) := by
  unfold setScore modify
  split
  · exact ⟨.refl _, .of_subset (fun _ => Objective.Stored.refl) (List.Subset.refl _), rfl⟩
  · next o ho =>
    refine ⟨.set (List.mem_map_of_mem h) s.objectives _, ?_, rfl⟩
    refine .set (fun _ => Objective.Stored.refl) fun old hold => ?_
    obtain rfl : o = old := Option.some.inj (ho.symm.trans hold)
    exact ⟨.set h o.scores score, rfl⟩

theorem Stored.frame {c : PlayersCommand} (h : s.Stored c.cells s')
    (hreads : ¬ (Command.players c).Reads) : (Command.players c).Frame s s' where
  players := by rw [h.rest]
  objectives := h.objectives.revised
  survivors := h.survivors.imp fun _ _ _ ho => ⟨ho.scores.revised, fun _ => ho.look⟩
  displays := fun slot hne => absurd (by rw [h.rest]) hne
  reading := fun hr => absurd hr hreads

end State

section Effects

variable {s s' : State}

theorem frame_modify {k : Command} {name : String} {f : Objective → Objective}
    (hname : name ∈ k.named)
    (hreads : ¬ k.Reads) (hf : ∀ o, k.KeepsObjective name o (f o)) (s : State) :
    k.Frame s (s.modify name f) := by
  unfold State.modify
  split
  · exact .refl k s
  · next o ho =>
    refine ⟨rfl, (Table.Extended.set hname s.objectives _).revised, ?_, fun _ h => absurd rfl h,
      fun h => absurd h hreads⟩
    refine .set (Command.KeepsObjective.refl k) fun old hold => ?_
    obtain rfl : o = old := Option.some.inj (ho.symm.trans hold)
    exact hf o

theorem frame_change (s : State) (name : String) (modification : Modification) :
    (Command.objectives (.modify name modification)).Frame s (s.change name modification) := by
  cases modification with
  | displayName shown | renderType type =>
    refine frame_modify (k := .objectives (.modify name _)) (List.mem_singleton_self name) nofun
      ?_ s
    exact fun o => ⟨.refl o.scores, fun h => absurd rfl (h _)⟩

theorem frame_eraseScore (s : State) (name player : String) :
    (Command.players (.reset (.player player) name)).Frame s (s.eraseScore name player) := by
  have hcell : Addresses (Command.players (.reset (.player player) name)).cells name player :=
    List.mem_singleton_self _
  refine frame_modify (k := .players (.reset _ name)) (List.mem_singleton_self name) nofun ?_ s
  exact fun o => ⟨.erase hcell o.scores, fun _ => rfl⟩

theorem frame_without (s : State) (name : String) :
    (Command.objectives (.remove name)).Frame s (s.without name) where
  players := rfl
  objectives := .erase (List.mem_singleton_self name) s.objectives
  survivors := .of_subset (Command.KeepsObjective.refl _)
    (Table.drop_sublist name s.objectives.entries).subset
  displays := by
    -- a slot is cleared only if it showed the objective
    intro slot hne
    refine .inr ⟨name, rfl, ?_⟩
    rw [State.displays_without, Table.get?_mapValues] at hne
    cases hshown : s.displays.get? slot with
    | none =>
      rw [hshown] at hne
      exact absurd rfl hne
    | some shown =>
      rw [hshown, Option.map_some] at hne
      by_cases heq : shown = some name
      · rw [heq]
      · rw [if_neg heq] at hne
        exact absurd rfl hne
  reading := nofun

theorem frame_objectives_leads {c : ObjectivesCommand} (h : c.Leads s s') :
    (Command.objectives c).Frame s s' := by
  cases c with
  | add objective criteria displayName =>
    obtain ⟨hnew, rfl⟩ := h
    refine ⟨rfl, (Table.Extended.set (List.mem_singleton_self objective) s.objectives _).revised,
      ?_, fun _ h => absurd rfl h, False.elim⟩
    refine .set (Command.KeepsObjective.refl _) fun old hold => ?_
    simp [Table.contains, hold] at hnew
  | list => exact h ▸ .refl _ _
  | modify objective modification =>
    rcases h with rfl | rfl
    · exact .refl _ s'
    · exact frame_change s objective modification
  | remove objective => exact h ▸ frame_without s objective
  | setDisplay slot objective =>
    obtain ⟨-, rfl⟩ := h
    refine ⟨rfl, .refl _, .of_subset (Command.KeepsObjective.refl _) (List.Subset.refl _),
      fun other hne => .inl ⟨objective, ?_⟩, False.elim⟩
    by_cases hslot : other = slot
    · rw [hslot]
    · exact absurd (Table.get?_set_of_ne s.displays hslot _) hne

theorem frame_players_leads {c : PlayersCommand} (h : c.Leads s s') :
    (Command.players c).Frame s s' := by
  cases c with
  | add target objective amount | remove target objective amount | set target objective amount =>
    obtain ⟨player, o, rfl, -, rfl⟩ := h
    refine State.Stored.frame ?_ nofun
    exact State.stored_setScore (List.mem_singleton_self _) s _
  | enable target objective => exact h.elim
  | get target objective | list target => exact h ▸ .refl _ _
  | operation target targetObjective op source sourceObjective =>
    obtain ⟨taker, giver, o, o', new, rfl, rfl, -, -, -, rfl⟩ := h
    have hsource : s.Stored [(targetObjective, .player taker), (sourceObjective, .player giver)]
        (s.setScore sourceObjective giver new.2) :=
      State.stored_setScore (List.mem_cons_of_mem _ (List.mem_singleton_self _)) s new.2
    refine State.Stored.frame (hsource.trans ?_) nofun
    exact State.stored_setScore List.mem_cons_self _ new.1
  | reset target objective =>
    obtain ⟨player, o, rfl, -, rfl⟩ := h
    exact frame_eraseScore s objective player

end Effects

/-- Under conditions, and wherever it ends, a command that calls no function leaves what it would
leave alone. -/
theorem frame_runWith {call : FunctionId → State → Outcome} {c : Command}
    (h : ∀ id, c.innermost ≠ .function id) (s : State) :
    c.innermost.Frame s (c.runWith call s).state := by
  induction c with
  | objectives c => exact (objectives_effect c s).state (.refl _ s) fun _ => frame_objectives_leads
  | players c => exact (players_effect c s).state (.refl _ s) fun _ => frame_players_leads
  | function id => exact absurd rfl (h id)
  | execute condition run ih =>
    refine Outcome.state_given (.refl _ s) fun holds _ => ?_
    split
    · exact ih h
    · exact .refl _ s
  | tellraw target message => exact Outcome.state_given (.refl _ s) fun _ _ => .refl _ s
  | foreign kind => exact .refl _ s

def Rules.bodies (rules : Rules) : List Command :=
  (rules.datapack.map fun pack => pack.functions.flatMap Function.commands).getD []

/-- The objectives that commands in functions name. -/
def Rules.named (rules : Rules) : List String :=
  rules.bodies.flatMap Command.named

theorem Rules.all_bodies (rules : Rules) : rules.All (· ∈ rules.bodies) := by
  intro pack hpack f hf c hc
  rw [Rules.bodies, hpack]
  exact List.mem_flatMap_of_mem hf hc

/-- What calls leave of the state `s` in which the first of them is made. -/
structure Rules.Frame (rules : Rules) (s s' : State) : Prop where
  players : s'.players = s.players
  objectives : s'.objectives.untouched (· ∈ rules.named) = s.objectives.untouched (· ∈ rules.named)
  displays : ∀ slot, s'.displays.get? slot ≠ s.displays.get? slot →
    ∃ c ∈ rules.bodies, c.innermost.Redisplays s slot

theorem Command.named_innermost (c : Command) : c.innermost.named = c.named := by
  induction c with
  | execute condition run ih => exact ih
  | objectives | players | function | tellraw | foreign => rfl

namespace Rules.Frame

variable {rules : Rules} {s s' s'' : State}

theorem refl (rules : Rules) (s : State) : rules.Frame s s :=
  ⟨rfl, rfl, fun _ h => absurd rfl h⟩

/-- A command of a function comes after others: what a slot shows, these may have changed before. -/
theorem step (h : rules.Frame s s') {c : Command} (hc : c ∈ rules.bodies)
    (hstep : c.innermost.Frame s' s'') : rules.Frame s s'' where
  players := hstep.players.trans h.players
  objectives := by
    refine (Table.untouched_eq_of_imp hstep.objectives.untouched fun name hname => ?_).trans
      h.objectives
    rw [Command.named_innermost] at hname
    exact List.mem_flatMap_of_mem hc hname
  displays := by
    intro slot hne
    by_cases hslot : s'.displays.get? slot = s.displays.get? slot
    · rw [← hslot] at hne
      have hshown := hstep.displays slot hne
      rw [Command.Redisplays, hslot] at hshown
      exact ⟨c, hc, hshown⟩
    · exact h.displays slot hslot

end Rules.Frame

/-- What every command keeps that leaves what the innermost of `c` leaves, `c` keeps. -/
theorem keeps_of_frame {P : State → Prop} {c : Command}
    (h : ∀ s s', P s → c.innermost.Frame s s' → P s') : c.Keeps P := by
  induction c with
  | objectives c => exact fun s s' hs hc => h s s' hs (frame_objectives_leads hc)
  | players c => exact fun s s' hs hc => h s s' hs (frame_players_leads hc)
  | execute condition run ih => exact ih h
  | function | tellraw | foreign => trivial

theorem keeps_of_call {P : State → Prop} {c : Command} {id : FunctionId}
    (h : c.innermost = .function id) : c.Keeps P := by
  induction c with
  | execute condition run ih => exact ih h
  | objectives | players => cases h
  | function | tellraw | foreign => trivial

theorem frame_of_call {rules : Rules} {c : Command} {id : FunctionId}
    (h : c.innermost = .function id)
    (s : State) : rules.Frame s (c.run rules s).state :=
  Rules.run_keeps (rules.all_bodies.imp fun _ hc => keeps_of_frame fun _ _ hs => hs.step hc)
    (keeps_of_call h) (.refl rules s)

/-- A command that calls no function, under any conditions, leaves all that it does not name; a call
leaves all that no command of any function names. -/
theorem commands_change_only_what_they_name (rules : Rules) (c : Command) (s : State) :
    let s' := (c.run rules s).state
    ((∀ id, c.innermost ≠ .function id) → c.innermost.Frame s s') ∧
      ∀ id, c.innermost = .function id → rules.Frame s s' :=
  ⟨fun h => frame_runWith h s, fun _ h => frame_of_call h s⟩

/-- A score of an objective is reset under a condition, or a function removes the objective. The
other objective is as it was. -/
theorem commands_change_only_what_they_name_other :
    let rules : Rules := ⟨some ⟨"pack", [⟨⟨"f", none⟩, [.objectives (.remove "o")]⟩]⟩, 64⟩
    let other : String × Objective := ("p", ⟨"P", .hearts, .dummy, ⟨[("b", 1), ("a", 5)]⟩⟩)
    let s : State := ⟨⟨[("o", ⟨"o", .integer, .dummy, ⟨[("a", 2)]⟩⟩), other]⟩, .empty, .empty⟩
    let reset : Command :=
      .execute (.inside (.player "a") "o" (.atLeast 1)) (.players (.reset (.player "a") "o"))
    (reset.run rules s).state.objectives.untouched (· ∈ ["o"]) = [other] ∧
      ((Command.function ⟨"f", none⟩).run rules s).state.objectives.untouched (· ∈ ["o"]) =
        [other] := by
  intro rules other s reset
  have hreset := (commands_change_only_what_they_name rules reset s).1 nofun
  have hcall := (commands_change_only_what_they_name rules (.function ⟨"f", none⟩) s).2 _ rfl
  exact ⟨hreset.objectives.untouched, hcall.objectives⟩

end Scoreboard
