import Scoreboard.Proofs.Game.Chains
import Scoreboard.Proofs.Game.Endings

namespace Scoreboard

/-- `names` are the members of `l` in the order in which they first appear there. The order is
strict, so none is in `names` twice. -/
structure FirstAppearances (l names : List String) : Prop where
  mem_iff : ∀ name, name ∈ names ↔ name ∈ l
  order : names.Pairwise fun a b => l.idxOf a < l.idxOf b

theorem idxOf_lt_of_filter {p : String → Bool} {l : List String} {a b : String} (ha : p a = true)
    (hb : p b = true) (h : (l.filter p).idxOf a < (l.filter p).idxOf b) :
    l.idxOf a < l.idxOf b := by
  induction l with
  | nil => exact h
  | cons x rest ih =>
    cases hx : p x with
    | true =>
      rw [List.filter_cons_of_pos hx] at h
      by_cases hxa : x = a
      · by_cases hxb : x = b
        · rw [← hxa, ← hxb] at h
          exact absurd h (Nat.lt_irrefl _)
        · rw [hxa, List.idxOf_cons_self, List.idxOf_cons_ne _ (hxa ▸ hxb)]
          omega
      · by_cases hxb : x = b
        · rw [hxb, List.idxOf_cons_self] at h
          exact absurd h (Nat.not_lt_zero _)
        · rw [List.idxOf_cons_ne _ hxa, List.idxOf_cons_ne _ hxb] at h ⊢
          have hrest := ih (by omega)
          omega
    | false =>
      rw [List.filter_cons_of_neg (by simp [hx])] at h
      have hxa : x ≠ a := fun he => by simp [he, ha] at hx
      have hxb : x ≠ b := fun he => by simp [he, hb] at hx
      rw [List.idxOf_cons_ne _ hxa, List.idxOf_cons_ne _ hxb]
      have hrest := ih h
      omega

theorem firstAppearances_eraseDups (l : List String) : FirstAppearances l l.eraseDups := by
  refine ⟨fun name => List.mem_eraseDups, ?_⟩
  match l with
  | [] => exact .nil
  | a :: rest =>
    have hrest := (firstAppearances_eraseDups (rest.filter fun b => !b == a)).order
    have hkept : ∀ b ∈ (rest.filter fun b => !b == a).eraseDups, (!b == a) = true :=
      fun b hb => (List.mem_filter.1 (List.mem_eraseDups.1 hb)).2
    have hne : ∀ b ∈ (rest.filter fun b => !b == a).eraseDups, a ≠ b := by
      rintro b hb rfl
      simpa using hkept a hb
    rw [List.eraseDups_cons, List.pairwise_cons]
    constructor
    · intro b hb
      rw [List.idxOf_cons_self, List.idxOf_cons_ne _ (hne b hb)]
      exact Nat.succ_pos _
    · refine hrest.imp_of_mem fun {b c} hb hc h => ?_
      rw [List.idxOf_cons_ne _ (hne b hb), List.idxOf_cons_ne _ (hne c hc)]
      exact Nat.succ_lt_succ (idxOf_lt_of_filter (hkept b hb) (hkept c hc) h)
termination_by l.length
decreasing_by exact Nat.lt_succ_of_le (List.length_filter_le _ _)

theorem Outcome.reports_written (s : State) (level : Level) (written : List String) :
    reports s level (written.map some) = ⟨s, written.map (.reported level), none⟩ := by
  induction written with
  | nil => rfl
  | cons message rest ih => rw [List.map_cons, reports, ih]; rfl

theorem Outcome.reports_unwritten (s : State) (level : Level) (written : List String)
    (rest : List (Option String)) : reports s level (written.map some ++ none :: rest) =
      ⟨s, written.map (.reported level), some (.unwritable level)⟩ := by
  induction written with
  | nil => rfl
  | cons message others ih => rw [List.map_cons, List.cons_append, reports, ih]; rfl

namespace PlayersCommand

/-- What there is to see of a command that leaves the game as it is. -/
def Shows (c : PlayersCommand) (rules : Rules) (s : State) (entries : List (Level × String))
    (fault : Option Fault) : Prop :=
  (Command.players c).run rules s =
    ⟨s, .executed c.kind :: entries.map fun entry => .reported entry.1 entry.2, fault⟩

/-- The command leaves the game as it is, and reports these entries and nothing else. -/
def Reports (c : PlayersCommand) (rules : Rules) (s : State) (entries : List (Level × String)) :
    Prop :=
  c.Shows rules s entries none

/-- The command leaves the game as it is, and reports these entries before it comes to an integer
with too many digits. -/
def BreaksOff (c : PlayersCommand) (rules : Rules) (s : State) (entries : List (Level × String)) :
    Prop :=
  c.Shows rules s entries (some (.unwritable .info))

variable {c : PlayersCommand} {s : State}

theorem reports_of_perform (rules : Rules) (written : List String)
    (h : c.perform s = s.inform (written.map some)) :
    c.Reports rules s (written.map fun message => (.info, message)) := by
  rw [Reports, Shows, Command.run, Command.runWith, h, State.inform, Outcome.reports_written,
    List.map_map]
  rfl

theorem breaksOff_of_perform (rules : Rules) (written : List String) (rest : List (Option String))
    (h : c.perform s = s.inform (written.map some ++ none :: rest)) :
    c.BreaksOff rules s (written.map fun message => (.info, message)) := by
  rw [BreaksOff, Shows, Command.run, Command.runWith, h, State.inform, Outcome.reports_unwritten,
    List.map_map]
  rfl

end PlayersCommand

namespace Condition

/-- A command under the condition does what it does alone. -/
def Admits (d : Condition) (rules : Rules) (s : State) : Prop :=
  ∀ c : Command, (Command.execute d c).run rules s = (c.run rules s).preceded [.executed d.kind]

/-- A command under the condition is not begun, and nothing is reported. -/
def Bars (d : Condition) (rules : Rules) (s : State) : Prop :=
  ∀ c : Command, (Command.execute d c).run rules s = ⟨s, [.executed d.kind], none⟩

variable {d : Condition} {s : State}

theorem admits_of_test (h : d.test s = .ok true) (rules : Rules) : d.Admits rules s := by
  intro c
  rw [Command.run, Command.runWith, h]
  rfl

theorem bars_of_test (h : d.test s = .ok false) (rules : Rules) : d.Bars rules s := by
  intro c
  rw [Command.run, Command.runWith, h]
  rfl

end Condition

namespace State

/-- The score of a player in an objective is `score` to every command that reads just this one. -/
structure Finds (s : State) (rules : Rules) (player name : String) (o : Objective) (score : Int) :
    Prop where
  get : Text.Writable score → (PlayersCommand.get (.player player) name).Reports rules s
    [(.info, player ++ " has " ++ toString score ++ " " ++ bracket o.displayName)]
  get_overlong : ¬ Text.Writable score →
    (PlayersCommand.get (.player player) name).BreaksOff rules s []
  inside_of_mem : ∀ interval : Interval, score ∈ interval.scores →
    (Condition.inside (.player player) name interval).Admits rules s
  inside_of_not_mem : ∀ interval : Interval, score ∉ interval.scores →
    (Condition.inside (.player player) name interval).Bars rules s
  itself : (Condition.compare (.player player) name .equal (.player player) name).Admits rules s

/-- There is no score of the player in the objective to any command that reads just this one. -/
structure FindsNone (s : State) (rules : Rules) (player name : String) : Prop where
  get : (PlayersCommand.get (.player player) name).Reports rules s
    [(.fail, "Can't get value of " ++ name ++ " for " ++ player ++ "; none is set")]
  inside : ∀ interval : Interval, (Condition.inside (.player player) name interval).Bars rules s
  itself : (Condition.compare (.player player) name .equal (.player player) name).Bars rules s

/-- The objectives in which a player has a score, in their order, with names and scores. -/
def held (s : State) (player : String) : List (String × Objective × Int) :=
  s.objectives.entries.filterMap fun entry =>
    (entry.2.scores.get? player).map fun score => (entry.1, entry.2, score)

variable {s : State} {player name : String} {o : Objective} {score : Int}

theorem mem_held : (name, o, score) ∈ s.held player ↔
    (name, o) ∈ s.objectives.entries ∧ o.scores.get? player = some score := by
  rw [held, List.mem_filterMap]
  constructor
  · rintro ⟨entry, hentry, h⟩
    obtain ⟨v, hv, heq⟩ := Option.map_eq_some_iff.1 h
    cases heq
    exact ⟨hentry, hv⟩
  · rintro ⟨hentry, hscore⟩
    exact ⟨(name, o), hentry, by rw [hscore, Option.map_some]⟩

theorem held_sublist (s : State) (player : String) :
    ((s.held player).map fun h => (h.1, h.2.1)).Sublist s.objectives.entries := by
  rw [held]
  induction s.objectives.entries with
  | nil => exact .slnil
  | cons entry rest ih =>
    cases hscore : entry.2.scores.get? player with
    | none =>
      rw [List.filterMap_cons_none (by rw [hscore, Option.map_none])]
      exact ih.cons entry
    | some score =>
      rw [List.filterMap_cons_some (by rw [hscore, Option.map_some]), List.map_cons]
      exact ih.cons_cons entry

theorem scoresOf_eq_map_held (s : State) (player : String) :
    s.scoresOf player = (s.held player).map fun h => (h.2.1.displayName, h.2.2) := by
  rw [scoresOf, held, List.map_filterMap, Table.values, List.filterMap_map]
  congr 1
  funext entry
  rw [Option.map_map]
  rfl

theorem getScore_of_get? (ho : s.objectives.get? name = some o) (player : String) :
    s.getScore (.player player) name =
      match s.score? name player with
      | none => .refused s
        (.failure ("Can't get value of " ++ name ++ " for " ++ player ++ "; none is set"))
      | some score => s.inform [do
        return player ++ " has " ++ (← Text.numeral? score) ++ " " ++ bracket o.displayName] := by
  rw [getScore, cell_eq_ok_iff.2 ⟨rfl, ho⟩, score?_of_get? ho]
  rfl

theorem finds_of_get? (rules : Rules) (ho : s.objectives.get? name = some o)
    (hscore : o.scores.get? player = some score) : s.Finds rules player name o score := by
  have hread : s.score? name player = some score := by rw [score?_of_get? ho, hscore]
  have hget : (PlayersCommand.get (.player player) name).perform s = _ :=
    getScore_of_get? ho player
  rw [hread] at hget
  constructor
  · intro hwritable
    refine PlayersCommand.reports_of_perform rules [_] (hget.trans ?_)
    simp only [Text.numeral?_of_writable hwritable]
    rfl
  · intro hoverlong
    refine PlayersCommand.breaksOff_of_perform rules [] [] (hget.trans ?_)
    simp only [Text.numeral?_eq_none_iff.2 hoverlong]
    rfl
  · intro interval hmem
    apply Condition.admits_of_test
    rw [Condition.test_inside ho, hread, Option.any_some, Interval.contains_iff.2 hmem]
  · intro interval hmem
    apply Condition.bars_of_test
    rw [Condition.test_inside ho, hread, Option.any_some,
      Bool.eq_false_iff.2 (mt Interval.contains_iff.1 hmem)]
  · apply Condition.admits_of_test
    have hself : Comparison.equal.holds score score = true := Comparison.holds_iff.2 rfl
    rw [Condition.test_compare ho ho, hread, Option.any_some, Option.any_some, hself]

theorem findsNone_of_get? (rules : Rules) (ho : s.objectives.get? name = some o)
    (hscore : o.scores.get? player = none) : s.FindsNone rules player name := by
  have hread : s.score? name player = none := by rw [score?_of_get? ho, hscore]
  constructor
  · rw [PlayersCommand.Reports, PlayersCommand.Shows, Command.run, Command.runWith,
      PlayersCommand.perform, getScore_of_get? ho, hread]
    rfl
  · intro interval
    apply Condition.bars_of_test
    rw [Condition.test_inside ho, hread, Option.any_none]
  · apply Condition.bars_of_test
    rw [Condition.test_compare ho ho, hread, Option.any_none]

def scoreEntry (h : String × Objective × Int) : Level × String :=
  (.info, bracket h.2.1.displayName ++ ": " ++ toString h.2.2)

def scoreHeading (player : String) (n : Nat) : Level × String :=
  (.info, player ++ " has " ++ toString n ++ " scores:")

def scoreListing (player : String) : List (String × Objective × Int) → List (Level × String)
  | [] => [(.info, player ++ " has no scores")]
  | held => scoreHeading player held.length :: held.map scoreEntry

def trackedListing : List String → List (Level × String)
  | [] => [(.info, "There are no tracked entities")]
  | names =>
    [(.info, "There are " ++ toString names.length ++ " tracked entities: " ++
      " ".intercalate (names.map bracket))]

theorem listScores_of_held (h : s.held player ≠ []) :
    (PlayersCommand.list (some (.player player))).perform s =
      s.inform (some (scoreHeading player (s.held player).length).2 ::
        (s.held player).map fun g => listed (g.2.1.displayName, g.2.2)) := by
  have hscores : (s.scoresOf player).isEmpty = false := by
    simpa [scoresOf_eq_map_held] using h
  show s.listEach player (s.scoresOf player) = _
  rw [listEach, hscores, scoresOf_eq_map_held, List.length_map, List.map_map]
  rfl

theorem map_listed {held : List (String × Objective × Int)}
    (h : ∀ g ∈ held, Text.Writable g.2.2) :
    (held.map fun g => listed (g.2.1.displayName, g.2.2)) =
      (held.map fun g => (scoreEntry g).2).map some := by
  rw [List.map_map]
  refine List.map_congr_left fun g hg => ?_
  simp [listed, h g hg, scoreEntry]

theorem reports_list (rules : Rules) (h : ∀ g ∈ s.held player, Text.Writable g.2.2) :
    (PlayersCommand.list (some (.player player))).Reports rules s
      (scoreListing player (s.held player)) := by
  by_cases hheld : s.held player = []
  · have hscores : s.scoresOf player = [] := by rw [scoresOf_eq_map_held, hheld, List.map_nil]
    rw [hheld]
    refine PlayersCommand.reports_of_perform rules [_] ?_
    show s.listEach player (s.scoresOf player) = _
    rw [hscores]
    rfl
  · have hlisting : scoreListing player (s.held player) =
        ((scoreHeading player (s.held player).length).2 ::
          (s.held player).map fun g => (scoreEntry g).2).map fun message => (.info, message) := by
      cases hcons : s.held player with
      | nil => exact absurd hcons hheld
      | cons g rest => simp [scoreListing, scoreHeading, scoreEntry]
    rw [hlisting]
    refine PlayersCommand.reports_of_perform rules _ ?_
    rw [listScores_of_held hheld, map_listed h, List.map_cons]

/-- The scores before the first with too many digits are listed. -/
theorem breaksOff_list (rules : Rules) {before after : List (String × Objective × Int)}
    {g : String × Objective × Int} (hheld : s.held player = before ++ g :: after)
    (hbefore : ∀ g ∈ before, Text.Writable g.2.2) (hg : ¬ Text.Writable g.2.2) :
    (PlayersCommand.list (some (.player player))).BreaksOff rules s
      (scoreHeading player (s.held player).length :: before.map scoreEntry) := by
  have hlisting : scoreHeading player (s.held player).length :: before.map scoreEntry =
      ((scoreHeading player (s.held player).length).2 ::
        before.map fun g => (scoreEntry g).2).map fun message => (.info, message) := by
    simp [scoreHeading, scoreEntry]
  have hne : s.held player ≠ [] := by
    rw [hheld]
    exact List.append_ne_nil_of_right_ne_nil _ (List.cons_ne_nil _ _)
  rw [hlisting]
  refine PlayersCommand.breaksOff_of_perform rules _
    (after.map fun g => listed (g.2.1.displayName, g.2.2)) ?_
  have hmessages : ((s.held player).map fun g => listed (g.2.1.displayName, g.2.2)) =
      (before.map fun g => (scoreEntry g).2).map some ++
        none :: after.map fun g => listed (g.2.1.displayName, g.2.2) := by
    rw [hheld, List.map_append, map_listed hbefore, List.map_cons, listed_eq_none_iff.2 hg]
  rw [listScores_of_held hne, hmessages]
  rfl

theorem reports_listTracked (rules : Rules) (s : State) :
    (PlayersCommand.list none).Reports rules s (trackedListing s.tracked) := by
  have hrun : (Command.players (.list none)).run rules s =
    s.listTracked.preceded [.executed "PlayersList"] := rfl
  rw [PlayersCommand.Reports, PlayersCommand.Shows, hrun, listTracked]
  cases s.tracked <;> rfl

theorem held_ne_nil_iff : s.held player ≠ [] ↔
    ∃ o ∈ s.objectives.values, player ∈ o.scores.keys := by
  constructor
  · intro hne
    obtain ⟨⟨name, o, score⟩, h⟩ := List.exists_mem_of_ne_nil _ hne
    obtain ⟨hentry, hscore⟩ := mem_held.1 h
    exact ⟨o, List.mem_map_of_mem hentry, Table.mem_keys_of_get? hscore⟩
  · rintro ⟨o, ho, hplayer⟩
    obtain ⟨⟨name, o⟩, hentry, rfl⟩ := List.mem_map.1 ho
    cases hscore : o.scores.get? player with
    | none => exact absurd hplayer (Table.get?_eq_none_iff.1 hscore)
    | some score => exact List.ne_nil_of_mem (mem_held.2 ⟨hentry, hscore⟩)

theorem mem_tracked : player ∈ s.tracked ↔ player ∈ s.players.keys ∨ s.held player ≠ [] := by
  rw [tracked, List.mem_eraseDups, List.mem_append, List.mem_flatMap, held_ne_nil_iff]

end State

/-- All that read scores agree on which there are. The listing of a player's scores is of the
objectives, in their order, for which a command that asks for just this score, or tests it, finds
the score that is listed; for every other objective there is none to any of them. A score with too
many digits is found by the tests, but it can be told neither alone nor in the listing, which breaks
off there. The listing of players has those that are registered and those that have a score to list,
each once and in the order in which they first appear, first in the registry and then objective by
objective. -/
theorem readers_agree (rules : Rules) (s : State) (hs : s.objectives.Distinct) :
    (∀ player,
      ((s.held player).map fun h => (h.1, h.2.1)).Sublist s.objectives.entries ∧
      (∀ name o score, (name, o, score) ∈ s.held player → s.Finds rules player name o score) ∧
      (∀ name o, (name, o) ∈ s.objectives.entries →
        (∀ score, (name, o, score) ∉ s.held player) → s.FindsNone rules player name) ∧
      ((∀ h ∈ s.held player, Text.Writable h.2.2) →
        (PlayersCommand.list (some (.player player))).Reports rules s
          (State.scoreListing player (s.held player))) ∧
      ∀ before h after, s.held player = before ++ h :: after →
        (∀ g ∈ before, Text.Writable g.2.2) → ¬ Text.Writable h.2.2 →
        (PlayersCommand.list (some (.player player))).BreaksOff rules s
          (State.scoreHeading player (s.held player).length :: before.map State.scoreEntry)) ∧
    ∃ names,
      FirstAppearances
        (s.players.keys ++ s.objectives.values.flatMap fun o => o.scores.keys) names ∧
      (∀ player, player ∈ names ↔ player ∈ s.players.keys ∨ s.held player ≠ []) ∧
      (PlayersCommand.list none).Reports rules s (State.trackedListing names) := by
  constructor
  · intro player
    refine ⟨s.held_sublist player, fun name o score h => ?_, fun name o hentry hnone => ?_,
      State.reports_list rules, fun before h after => State.breaksOff_list rules⟩
    · obtain ⟨hentry, hscore⟩ := State.mem_held.1 h
      exact State.finds_of_get? rules (hs.get?_of_mem hentry) hscore
    · apply State.findsNone_of_get? rules (hs.get?_of_mem hentry)
      apply Option.eq_none_iff_forall_ne_some.2
      intro score hscore
      exact hnone score (State.mem_held.2 ⟨hentry, hscore⟩)
  · exact ⟨s.tracked, firstAppearances_eraseDups _, fun player => State.mem_tracked,
      s.reports_listTracked rules⟩

/-- A score of zero is a score. One player has it in the first of two objectives, another has scores
in both, and a third is only registered. -/
theorem readers_agree_zero :
    let first : Objective := ⟨"O", .integer, .dummy, ⟨[("b", 0), ("a", 3)]⟩⟩
    let second : Objective := ⟨"Q", .hearts, .dummy, ⟨[("a", -1)]⟩⟩
    let s : State := ⟨⟨[("o", first), ("q", second)]⟩, .empty, ⟨[("c", "c")]⟩⟩
    (PlayersCommand.list (some (.player "b"))).Reports ⟨none, 64⟩ s
        [(.info, "b has 1 scores:"), (.info, "[O]: 0")] ∧
      (Condition.inside (.player "b") "o" (.atMost 0)).Admits ⟨none, 64⟩ s ∧
      s.FindsNone ⟨none, 64⟩ "b" "q" ∧
      ∃ names, "c" ∈ names ∧
        (PlayersCommand.list none).Reports ⟨none, 64⟩ s (State.trackedListing names) := by
  intro first second s
  obtain ⟨hplayer, names, -, hmem, hlisted⟩ := readers_agree ⟨none, 64⟩ s
    (by simp [s, Table.Distinct, Table.keys])
  obtain ⟨-, hfinds, hnone, hlist, -⟩ := hplayer "b"
  have hheld : s.held "b" = [("o", first, 0)] := by decide
  have hlisting : State.scoreListing "b" [("o", first, 0)] =
      [(.info, "b has 1 scores:"), (.info, "[O]: 0")] := by decide +kernel
  rw [hheld] at hfinds hnone hlist
  rw [hlisting] at hlist
  refine ⟨hlist ?_, ?_, ?_, names, (hmem "c").2 (.inl (List.mem_singleton_self _)), hlisted⟩
  · exact List.forall_mem_singleton.2 (Score.InRange.writable (by decide))
  · apply (hfinds "o" first 0 (List.mem_singleton_self _)).inside_of_mem
    simp [Interval.scores]
  · apply hnone "q" second (List.mem_cons_of_mem _ (List.mem_singleton_self _))
    simp

/-- The listing of one score is begun and breaks off, and the score by itself is not told. -/
theorem list_overlong_breaksOff :
    (PlayersCommand.list (some (.player "a"))).BreaksOff ⟨none, 64⟩ (twoScores overlong 0)
        [(.info, "a has 1 scores:")] ∧
      (PlayersCommand.get (.player "a") "o").BreaksOff ⟨none, 64⟩ (twoScores overlong 0) [] := by
  have hheld : (twoScores overlong 0).held "a" =
      [] ++ ("o", ⟨"o", .integer, .dummy, ⟨[("a", overlong), ("b", 0)]⟩⟩, overlong) :: [] := rfl
  refine ⟨?_,
    (State.finds_of_get? ⟨none, 64⟩ (o := ⟨"o", .integer, .dummy, _⟩) rfl rfl).get_overlong
    not_writable_overlong⟩
  exact State.breaksOff_list ⟨none, 64⟩ hheld (List.forall_mem_nil _) not_writable_overlong

end Scoreboard
