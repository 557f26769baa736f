import Mathlib.Data.List.Forall2
import Scoreboard.Proofs.Command.Lines

namespace Scoreboard

open Text Reader Parse

inductive Slot
  | fixed (t : Token)
  | amount (n : Int)
  /-- A score stands for the interval that holds nothing else. -/
  | range (interval : Interval)

def Slot.Fits : Slot → Token → Prop
  | fixed u, t => t = u
  | amount n, t => IsUnsigned n t
  | range interval, t => interval.Written t

def Target.token : Target → Token
  | player name => plain name
  | selector v => plain v.symbol
  | stray _ => []

def word (s : String) : Slot :=
  .fixed (plain s)

def Modification.slots : Modification → List Slot
  | displayName name => [word "displayname", .fixed (quotedToken name)]
  | renderType type => [word "rendertype", word type.word]

def ObjectivesCommand.slots : ObjectivesCommand → List Slot
  | add objective criteria none => [word "add", word objective, word criteria.word]
  | add objective criteria (some name) =>
    [word "add", word objective, word criteria.word, .fixed (quotedToken name)]
  | list => [word "list"]
  | modify objective change => word "modify" :: word objective :: change.slots
  | remove objective => [word "remove", word objective]
  | setDisplay slot objective => [word "setdisplay", word slot.word, word objective]

def PlayersCommand.slots : PlayersCommand → List Slot
  | add target objective amount =>
    [word "add", .fixed target.token, word objective, .amount amount]
  | enable target objective => [word "enable", .fixed target.token, word objective]
  | get target objective => [word "get", .fixed target.token, word objective]
  | list none => [word "list"]
  | list (some target) => [word "list", .fixed target.token]
  | operation target targetObjective op source sourceObjective =>
    [word "operation", .fixed target.token, word targetObjective, word op.symbol,
      .fixed source.token, word sourceObjective]
  | remove target objective amount =>
    [word "remove", .fixed target.token, word objective, .amount amount]
  | reset target objective => [word "reset", .fixed target.token, word objective]
  | set target objective score =>
    [word "set", .fixed target.token, word objective, .range (.exactly score)]

def Condition.slots : Condition → List Slot
  | compare target targetObjective relation source sourceObjective =>
    [.fixed target.token, word targetObjective, word relation.symbol, .fixed source.token,
      word sourceObjective]
  | inside target objective interval =>
    [.fixed target.token, word objective, word "matches", .range interval]

def Command.slots : Command → List Slot
  | objectives c => word "scoreboard" :: word "objectives" :: c.slots
  | players c => word "scoreboard" :: word "players" :: c.slots
  | function id => [word "function", word id.toText]
  | execute condition run =>
    word "execute" :: word "if" :: word "score" :: condition.slots ++ word "run" :: run.slots
  | tellraw target message => [word "tellraw", .fixed target.token, .fixed (quotedToken message)]
  | foreign _ => []

def Modification.quotes : Modification → List String
  | displayName name => [name]
  | renderType _ => []

def ObjectivesCommand.quotes : ObjectivesCommand → List String
  | add _ _ displayName => displayName.toList
  | modify _ change => change.quotes
  | _ => []

def Command.quotes : Command → List String
  | objectives c => c.quotes
  | execute _ run => run.quotes
  | tellraw _ message => [message]
  | _ => []

@[simp] theorem fits_word {s : String} {t : Token} : (word s).Fits t ↔ t = plain s :=
  Iff.rfl

@[simp] theorem fits_fixed {t u : Token} : (Slot.fixed u).Fits t ↔ t = u :=
  Iff.rfl

@[simp] theorem fits_amount {n : Int} {t : Token} : (Slot.amount n).Fits t ↔ IsUnsigned n t :=
  Iff.rfl

@[simp] theorem fits_range {interval : Interval} {t : Token} :
    (Slot.range interval).Fits t ↔ interval.Written t :=
  Iff.rfl

theorem target_written_iff {target : Target} {t : Token} :
    target.Written t ↔ target.WellFormed ∧ t = target.token := by
  cases target <;> simp [Target.Written, Target.WellFormed, Target.token]

theorem modification_written_iff {change : Modification} {ts : List Token} :
    change.Written ts ↔ change.WellFormed ∧ List.Forall₂ Slot.Fits change.slots ts := by
  cases change <;>
    simp [Modification.Written, Modification.WellFormed, Modification.slots,
      List.forall₂_cons_left_iff]

theorem interval_wellFormed_of_written {interval : Interval} {t : Token} (h : interval.Written t) :
    interval.WellFormed := by
  cases interval with
  | exactly score => exact h.1
  | between minimum maximum =>
    obtain ⟨a, b, ha, hb, -⟩ := h
    exact ⟨ha.1, hb.1⟩
  | atMost maximum =>
    obtain ⟨b, hb, -⟩ := h
    exact hb.1
  | atLeast minimum =>
    obtain ⟨a, ha, -⟩ := h
    exact ha.1

theorem objectives_written_iff {c : ObjectivesCommand} {ts : List Token} :
    c.Written ts ↔ c.WellFormed ∧ List.Forall₂ Slot.Fits c.slots ts := by
  rcases c with ⟨_, _, _ | _⟩ | _ | _ | _ | _ <;>
    simp [ObjectivesCommand.Written, ObjectivesCommand.WellFormed, ObjectivesCommand.slots,
      List.forall₂_cons_left_iff, modification_written_iff, and_assoc]

theorem players_written_iff {c : PlayersCommand} {ts : List Token} :
    c.Written ts ↔ c.WellFormed ∧ List.Forall₂ Slot.Fits c.slots ts := by
  rcases c with _ | _ | _ | (_ | _) | _ | _ | _ | _ <;>
    simp [PlayersCommand.Written, PlayersCommand.WellFormed, PlayersCommand.slots,
      List.forall₂_cons_left_iff, target_written_iff, and_assoc, Interval.Written]
  -- a numeral says itself that the number is in range
  all_goals grind [IsUnsigned, IsSigned]

theorem condition_written_iff {c : Condition} {ts : List Token} :
    c.Written ts ↔ c.WellFormed ∧ List.Forall₂ Slot.Fits c.slots ts := by
  rcases c with _ | _ <;>
    simp [Condition.Written, Condition.WellFormed, Condition.slots,
      List.forall₂_cons_left_iff, target_written_iff, and_assoc]
  all_goals grind [interval_wellFormed_of_written]

theorem forall₂_append_left_iff {α β : Type} {R : α → β → Prop} {xs ys : List α} {zs : List β} :
    List.Forall₂ R (xs ++ ys) zs ↔
      ∃ us vs, List.Forall₂ R xs us ∧ List.Forall₂ R ys vs ∧ zs = us ++ vs := by
  induction xs generalizing zs with
  | nil => simp
  | cons x xs ih =>
    simp only [List.cons_append, List.forall₂_cons_left_iff, ih]
    constructor
    · rintro ⟨z, _, hz, ⟨us, vs, hu, hv, rfl⟩, rfl⟩
      exact ⟨z :: us, vs, ⟨z, us, hz, hu, rfl⟩, hv, rfl⟩
    · rintro ⟨_, vs, ⟨z, us, hz, hu, rfl⟩, hv, rfl⟩
      exact ⟨z, us ++ vs, hz, ⟨us, vs, hu, hv, rfl⟩, rfl⟩

/-- A command is written with the tokens that fit its slots, if it can be written at all. -/
theorem written_iff {c : Command} {ts : List Token} :
    c.Written ts ↔ c.WellFormed ∧ List.Forall₂ Slot.Fits c.slots ts := by
  induction c generalizing ts with
  | objectives c =>
    simp [Command.Written, Command.WellFormed, Command.slots, List.forall₂_cons_left_iff,
      objectives_written_iff, and_assoc]
  | players c =>
    simp [Command.Written, Command.WellFormed, Command.slots, List.forall₂_cons_left_iff,
      players_written_iff, and_assoc]
  | function id =>
    simp [Command.Written, Command.WellFormed, Command.slots, List.forall₂_cons_left_iff,
      FunctionId.Written, and_assoc]
  | execute condition run ih =>
    simp only [Command.Written, Command.WellFormed, Command.slots, List.cons_append,
      List.forall₂_cons_left_iff, forall₂_append_left_iff, condition_written_iff, ih, fits_word]
    constructor
    · rintro ⟨test, rest, ⟨hc, htest⟩, ⟨hr, hrest⟩, rfl⟩
      exact ⟨⟨hc, hr⟩, _, _, rfl, ⟨_, _, rfl, ⟨_, _, rfl, ⟨test, _, htest,
        ⟨_, rest, rfl, hrest, rfl⟩, rfl⟩, rfl⟩, rfl⟩, rfl⟩
    · rintro ⟨⟨hc, hr⟩, _, _, rfl, ⟨_, _, rfl, ⟨_, _, rfl, ⟨test, _, htest,
        ⟨_, rest, rfl, hrest, rfl⟩, rfl⟩, rfl⟩, rfl⟩, rfl⟩
      exact ⟨test, rest, ⟨hc, htest⟩, ⟨hr, hrest⟩, rfl⟩
  | tellraw target message =>
    simp [Command.Written, Command.WellFormed, Command.slots, List.forall₂_cons_left_iff,
      target_written_iff, and_assoc, and_left_comm]
  | foreign kind => simp [Command.Written, Command.WellFormed]

end Scoreboard
