import Scoreboard.Proofs.Game.Effects

namespace Scoreboard

/-- What is looked for in two games: it is refused in both for the same reason, or what is found in
the one is related to what is found in the other. -/
inductive Matched {α β : Type} (R : α → β → Prop) : Except Refusal α → Except Refusal β → Prop
  | error (refusal : Refusal) : Matched R (.error refusal) (.error refusal)
  | ok {a : α} {b : β} (h : R a b) : Matched R (.ok a) (.ok b)

namespace Matched

variable {α β γ δ : Type} {R : α → β → Prop} {S : γ → δ → Prop} {x : Except Refusal α}
  {y : Except Refusal β}

theorem bind {f : α → Except Refusal γ} {g : β → Except Refusal δ} (h : Matched R x y)
    (hfg : ∀ a b, R a b → Matched S (f a) (g b)) : Matched S (x >>= f) (y >>= g) := by
  cases h with
  | error refusal => exact .error refusal
  | ok h => exact hfg _ _ h

theorem eq {x y : Except Refusal α} (h : Matched (· = ·) x y) : x = y := by
  cases h with
  | error refusal => rfl
  | ok h => rw [h]

theorem given {T : Outcome → Outcome → Prop} {s t : State} {next : α → Outcome}
    {next' : β → Outcome}
    (h : Matched R x y)
    (hrefused : ∀ refusal, T (Outcome.refused s refusal) (Outcome.refused t refusal))
    (hnext : ∀ a b, R a b → T (next a) (next' b)) :
    T (Outcome.given s x next) (Outcome.given t y next') := by
  cases h with
  | error refusal => exact hrefused refusal
  | ok h => exact hnext _ _ h

end Matched

theorem matched_player? (target : Target) :
    Matched (fun player player' => target = .player player ∧ player = player') target.player?
      target.player? := by
  cases target with
  | player name => exact .ok ⟨rfl, rfl⟩
  | selector v => exact .error _
  | stray v => exact .error _

namespace State

variable {s t : State} {R : String → Objective → Objective → Prop}

/-- Each objective is in both games or in neither, and what it is there is related. -/
def Matches (R : String → Objective → Objective → Prop) (s t : State) : Prop :=
  ∀ name, Matched (R name) (s.objective name) (t.objective name)

theorem matches_of_get? (h : ∀ name, s.objectives.get? name = none ∧ t.objectives.get? name = none ∨
      ∃ o o', s.objectives.get? name = some o ∧ t.objectives.get? name = some o' ∧ R name o o') :
    s.Matches R t := by
  intro name
  unfold State.objective
  rcases h name with ⟨hnone, hnone'⟩ | ⟨o, o', ho, ho', hr⟩
  · rw [hnone, hnone']
    exact .error _
  · rw [ho, ho']
    exact .ok hr

theorem Matches.cell (h : s.Matches R t) (target : Target) (objective : String) :
    Matched (fun p q => target = .player p.1 ∧ p.1 = q.1 ∧ R objective p.2 q.2)
      (s.cell target objective) (t.cell target objective) := by
  refine (matched_player? target).bind fun player player' hplayer => ?_
  refine (h objective).bind fun o o' ho => ?_
  exact .ok ⟨hplayer.1, hplayer.2, ho⟩

theorem Matches.cells (h : s.Matches R t) (target : Target) (a : String) (source : Target)
    (b : String) :
    Matched (fun p q => (target = .player p.1.1 ∧ p.1.1 = q.1.1 ∧ R a p.1.2 q.1.2) ∧
        source = .player p.2.1 ∧ p.2.1 = q.2.1 ∧ R b p.2.2 q.2.2)
      (s.cells target a source b) (t.cells target a source b) := by
  refine (matched_player? target).bind fun taker taker' htaker => ?_
  refine (matched_player? source).bind fun giver giver' hgiver => ?_
  refine (h a).bind fun o o' ho => (h b).bind fun p p' hp => ?_
  exact .ok ⟨⟨htaker.1, htaker.2, ho⟩, hgiver.1, hgiver.2, hp⟩

end State

end Scoreboard
