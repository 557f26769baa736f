import Scoreboard.Command.Render
import Scoreboard.Proofs.Command.Held

namespace Scoreboard

open Text Reader Parse

theorem isDigits_toDigits {n : Nat} (h : n ≤ 2147483648) : IsDigits n (Nat.toDigits 10 n) := by
  refine ⟨Nat.toDigits_ne_nil, ?_, ?_, ?_⟩
  · intro c hc
    have hd := Nat.isDigit_of_mem_toDigits (by omega) (by omega) hc
    simpa [isDigit, Char.isDigit, Char.le_def] using hd
  · have hlen : (Nat.toDigits 10 n).length ≤ 10 :=
      (Nat.length_toDigits_le_iff (by omega) (by omega)).2 (by omega)
    simp only [maxDigits]
    omega
  · exact Nat.ofDigitChars_ten_toDigits

theorem toList_toString (n : Int) :
    (toString n).toList = withSign (decide (n < 0)) (Nat.toDigits 10 n.natAbs) := by
  rw [Int.toString_eq_repr, Int.repr_eq_if]
  by_cases hn : 0 ≤ n
  · have habs : n.natAbs = n.toNat := by omega
    have hneg : ¬(n < 0) := by omega
    simp [hn, hneg, withSign, Nat.toList_repr, habs]
  · have habs : n.natAbs = (-n).toNat := by omega
    have hneg : n < 0 := by omega
    simp [hn, hneg, withSign, Nat.toList_repr, habs]

theorem isSigned_toString {n : Int} (h : Score.InRange n) : IsSigned n (toString n).toList := by
  have hsmall : n.natAbs ≤ 2147483648 := by
    obtain ⟨hl, hu⟩ := h
    simp only [Score.least, Score.greatest] at hl hu
    omega
  refine ⟨h, Nat.toDigits 10 n.natAbs, isDigits_toDigits hsmall, ?_⟩
  rw [toList_toString]
  by_cases hn : n < 0
  · exact .inr ⟨by omega, by simp [hn, withSign]⟩
  · exact .inl ⟨by omega, by simp [hn, withSign]⟩

theorem isUnsigned_toString {n : Int} (h : IsAmount n) : IsUnsigned n (toString n).toList := by
  obtain ⟨hl, hu⟩ := h
  simp only [Score.greatest] at hu
  have hn : ¬(n < 0) := by omega
  rw [toList_toString]
  simp only [hn, decide_false, withSign, Bool.false_eq_true, if_false]
  exact ⟨⟨hl, hu⟩, isDigits_toDigits (by omega)⟩

/-- The spelling that the canonical text has in a slot. -/
def Slot.canonical : Slot → Token
  | fixed t => t
  | amount n => (toString n).toList
  | range interval => interval.render.toList

@[simp] theorem canonical_word (s : String) : (word s).canonical = plain s := rfl

@[simp] theorem canonical_fixed (t : Token) : (Slot.fixed t).canonical = t := rfl

theorem target_render {target : Target} (h : target.WellFormed) :
    target.render = .ok (String.ofList target.token) := by
  cases target with
  | player name => simp [Target.render, Target.token, plain]
  | selector v => simp [Target.render, Target.token, plain]
  | stray v => exact h.elim

theorem objectives_render (c : ObjectivesCommand) :
    c.render.toList = spaced (c.slots.map Slot.canonical) := by
  rcases c with ⟨_, _, _ | _⟩ | _ | ⟨_, _ | _⟩ | _ | _ <;>
    simp [ObjectivesCommand.render, ObjectivesCommand.slots, Modification.render,
      Modification.slots, spaced_cons, Slot.canonical, word, plain, enclose, quotedToken]

theorem players_render {c : PlayersCommand} (h : c.WellFormed) :
    c.render = .ok (String.ofList (spaced (c.slots.map Slot.canonical))) := by
  rcases c with _ | _ | _ | (_ | _) | _ | _ | _ | _ <;>
    simp_all [PlayersCommand.render, PlayersCommand.slots, PlayersCommand.WellFormed, bind,
      Except.bind, pure, Except.pure, target_render, spaced_cons, Slot.canonical, word, plain,
      Interval.render, ← String.toList_inj]

theorem condition_render {c : Condition} (h : c.WellFormed) :
    c.render = .ok (String.ofList (spaced (c.slots.map Slot.canonical))) := by
  rcases c with _ | _ <;>
    simp_all [Condition.render, Condition.slots, Condition.WellFormed, bind, Except.bind, pure,
      Except.pure, target_render, spaced_cons, Slot.canonical, word, plain, ← String.toList_inj]

theorem spaced_cons_of_ne_nil (t : Token) {ts : List Token} (h : ts ≠ []) :
    spaced (t :: ts) = t ++ ' ' :: spaced ts := by
  rw [spaced_cons, led_eq_space_spaced h]

theorem spaced_append {ts us : List Token} (ht : ts ≠ []) (hu : us ≠ []) :
    spaced (ts ++ us) = spaced ts ++ ' ' :: spaced us := by
  obtain ⟨t, ts, rfl⟩ := List.exists_cons_of_ne_nil ht
  rw [List.cons_append, spaced_cons, spaced_cons, led_append, led_eq_space_spaced hu,
    List.append_assoc]

theorem objectives_slots_ne_nil (c : ObjectivesCommand) : c.slots ≠ [] := by
  rcases c with ⟨_, _, _ | _⟩ | _ | _ | _ | _ <;> exact List.cons_ne_nil _ _

theorem players_slots_ne_nil (c : PlayersCommand) : c.slots ≠ [] := by
  rcases c with _ | _ | _ | (_ | _) | _ | _ | _ | _ <;> exact List.cons_ne_nil _ _

theorem condition_slots_ne_nil (c : Condition) : c.slots ≠ [] := by
  cases c <;> exact List.cons_ne_nil _ _

theorem slots_ne_nil {c : Command} (h : c.WellFormed) : c.slots ≠ [] := by
  cases c with
  | foreign kind => exact h.elim
  | _ => exact List.cons_ne_nil _ _

theorem render_eq_ok {c : Command} (h : c.WellFormed) :
    c.render = .ok (String.ofList (spaced (c.slots.map Slot.canonical))) := by
  induction c with
  | objectives c =>
    have hne := objectives_slots_ne_nil c
    simp [Command.render, Command.slots, spaced_cons_of_ne_nil, hne, objectives_render, plain, pure,
      Except.pure, ← String.toList_inj]
  | players c =>
    have hc := players_render h
    have hne := players_slots_ne_nil c
    simp [Command.render, Command.slots, spaced_cons_of_ne_nil, hne, hc, plain, bind, Except.bind,
      pure, Except.pure, ← String.toList_inj]
  | function id =>
    simp [Command.render, Command.slots, spaced_cons, plain, pure, Except.pure, ← String.toList_inj]
  | execute condition run ih =>
    have hc := condition_render h.1
    have hr := ih h.2
    have hne := condition_slots_ne_nil condition
    have hne' := slots_ne_nil h.2
    simp [Command.render, Command.slots, spaced_cons_of_ne_nil, spaced_append, hne, hne', hc, hr,
      plain, bind, Except.bind, pure, Except.pure, ← String.toList_inj]
  | tellraw target message =>
    have ht := target_render h.1
    simp [Command.render, Command.slots, spaced_cons, ht, plain, quotedToken, enclose, bind,
      Except.bind, pure, Except.pure, ← String.toList_inj]
  | foreign kind => exact h.elim

theorem interval_written_render {interval : Interval} (h : interval.WellFormed) :
    interval.Written interval.render.toList := by
  cases interval with
  | exactly score => exact isSigned_toString h
  | between minimum maximum =>
    refine ⟨_, _, isSigned_toString h.1, isSigned_toString h.2, ?_⟩
    simp [Interval.render]
  | atMost maximum => exact ⟨_, isSigned_toString h, by simp [Interval.render]⟩
  | atLeast minimum => exact ⟨_, isSigned_toString h, by simp [Interval.render]⟩

def Slot.WellFormed : Slot → Prop
  | fixed _ => True
  | amount n => IsAmount n
  | range interval => interval.WellFormed

theorem fits_canonical {slot : Slot} (h : slot.WellFormed) : slot.Fits slot.canonical := by
  cases slot with
  | fixed t => rfl
  | amount n => exact isUnsigned_toString h
  | range interval => exact interval_written_render h

theorem slots_wellFormed {c : Command} (h : c.WellFormed) :
    ∀ slot ∈ c.slots, slot.WellFormed := by
  induction c with
  | objectives c =>
    rcases c with ⟨_, _, _ | _⟩ | _ | ⟨_, _ | _⟩ | _ | _ <;>
      simp [Command.slots, ObjectivesCommand.slots, Modification.slots, word, Slot.WellFormed]
  | players c =>
    rcases c with _ | _ | _ | (_ | _) | _ | _ | _ | _ <;>
      simp_all [Command.slots, PlayersCommand.slots, Command.WellFormed, PlayersCommand.WellFormed,
        word, Slot.WellFormed, Interval.WellFormed]
  | function id => simp [Command.slots, word, Slot.WellFormed]
  | execute condition run ih =>
    have hr := ih h.2
    obtain ⟨hc, -⟩ := h
    rcases condition with _ | _ <;>
      simp_all [Command.slots, Condition.slots, Condition.WellFormed, word, Slot.WellFormed]
  | tellraw target message => simp [Command.slots, word, Slot.WellFormed]
  | foreign kind => exact h.elim

theorem written_canonical {c : Command} (h : c.WellFormed) :
    c.Written (c.slots.map Slot.canonical) := by
  refine written_iff.2 ⟨h, ?_⟩
  rw [List.forall₂_map_right_iff, List.forall₂_same]
  exact fun slot hs => fits_canonical (slots_wellFormed h slot hs)

theorem wellFormed_of_parse {text : String} {c : Command} (h : parse text = .ok c) :
    c.WellFormed := by
  obtain ⟨ts, hw, -⟩ := parse_eq_ok_iff.1 h
  exact (written_iff.1 hw).1

theorem parse_render {c : Command} (h : c.WellFormed) :
    parse (String.ofList (spaced (c.slots.map Slot.canonical))) = .ok c := by
  apply parse_eq_ok_iff_isHeldBy.2
  exact ⟨[], _, [], by simp, written_canonical h, by simp, by simp⟩

theorem parse_of_render {c : Command} {text : String} (h : c.WellFormed)
    (hr : c.render = .ok text) :
    parse text = .ok c := by
  rw [render_eq_ok h] at hr
  rw [← Except.ok.inj hr]
  exact parse_render h

/-- Of all trees, the well-formed ones are those that the parser gives back from their text; and it
gives no others from any text. -/
theorem parse_render_iff_wellFormed :
    (∀ c : Command, (∃ text, c.render = .ok text ∧ parse text = .ok c) ↔ c.WellFormed) ∧
      ∀ text c, parse text = .ok c → c.WellFormed := by
  refine ⟨fun c => ⟨?_, fun h => ?_⟩, fun _ _ => wellFormed_of_parse⟩
  · rintro ⟨text, -, hp⟩
    exact wellFormed_of_parse hp
  · exact ⟨_, render_eq_ok h, parse_render h⟩

end Scoreboard
