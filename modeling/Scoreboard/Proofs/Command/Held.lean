import Scoreboard.Command.Line
import Scoreboard.Proofs.Command.Slots

namespace Scoreboard

open Text Reader Parse

/-- A token that shows where it begins and where it ends. -/
def Solid (t : Token) : Prop :=
  atGap t = false ∧ atGap t.reverse = false

instance : DecidablePred Solid :=
  fun _ => inferInstanceAs (Decidable (_ ∧ _))

theorem Unbroken.reverse {t : Token} (h : Unbroken t) : Unbroken t.reverse :=
  ⟨by simpa using h.1, by simpa using h.2⟩

theorem Unbroken.solid {t : Token} (h : Unbroken t) : Solid t :=
  ⟨h.atGap, h.reverse.atGap⟩

theorem solid_quotedToken (s : String) : Solid (quotedToken s) := by
  constructor
  · rfl
  · rw [quotedToken, List.reverse_append]
    rfl

def Slot.Unbroken (slot : Slot) : Prop :=
  ∀ t, slot.Fits t → Scoreboard.Unbroken t

@[simp] theorem unbroken_fixed {t : Token} : (Slot.fixed t).Unbroken ↔ Unbroken t := by
  simp [Slot.Unbroken]

@[simp] theorem unbroken_word {s : String} : (word s).Unbroken ↔ Unbroken (plain s) :=
  unbroken_fixed

@[simp] theorem unbroken_amount (n : Int) : (Slot.amount n).Unbroken :=
  fun _ ht => unbroken_of_isUnsigned ht

@[simp] theorem unbroken_range (interval : Interval) : (Slot.range interval).Unbroken :=
  fun _ ht => unbroken_of_interval ht

theorem unbroken_token {target : Target} (h : target.WellFormed) : Unbroken target.token :=
  unbroken_of_target (target_written_iff.2 ⟨h, rfl⟩)

/-- The slot is unbroken, or holds one of these texts between quotation marks. -/
def Slot.UnbrokenBut (quotes : List String) (slot : Slot) : Prop :=
  slot.Unbroken ∨ ∃ quote ∈ quotes, slot = .fixed (quotedToken quote)

theorem unbrokenBut_word {s : String} (h : Unbroken (plain s)) (quotes : List String) :
    (word s).UnbrokenBut quotes :=
  .inl (unbroken_word.2 h)

theorem unbrokenBut_quoted {quote : String} {quotes : List String} (h : quote ∈ quotes) :
    (Slot.fixed (quotedToken quote)).UnbrokenBut quotes :=
  .inr ⟨quote, h, rfl⟩

theorem modification_slots_unbrokenBut (change : Modification) :
    ∀ slot ∈ change.slots, slot.UnbrokenBut change.quotes := by
  cases change with
  | displayName name =>
    simp only [Modification.slots, List.forall_mem_cons]
    exact ⟨unbrokenBut_word (by decide) _, unbrokenBut_quoted (List.mem_singleton_self _), by simp⟩
  | renderType type =>
    simp only [Modification.slots, List.forall_mem_cons]
    exact ⟨unbrokenBut_word (by decide) _, unbrokenBut_word (unbroken_renderType type) _, by simp⟩

theorem objectives_slots_unbrokenBut {c : ObjectivesCommand} (h : c.WellFormed) :
    ∀ slot ∈ c.slots, slot.UnbrokenBut c.quotes := by
  cases c with
  | add objective criteria displayName =>
    have hname := unbroken_of_isName h.1
    cases displayName with
    | none =>
      simp only [ObjectivesCommand.slots, List.forall_mem_cons]
      exact ⟨unbrokenBut_word (by decide) _, unbrokenBut_word hname _,
        unbrokenBut_word (unbroken_criteria criteria) _, by simp⟩
    | some name =>
      simp only [ObjectivesCommand.slots, List.forall_mem_cons]
      exact ⟨unbrokenBut_word (by decide) _, unbrokenBut_word hname _,
        unbrokenBut_word (unbroken_criteria criteria) _,
        unbrokenBut_quoted (List.mem_singleton_self _), by simp⟩
  | list =>
    exact List.forall_mem_singleton.2 (unbrokenBut_word (by decide) _)
  | modify objective change =>
    simp only [ObjectivesCommand.slots, List.forall_mem_cons]
    exact ⟨unbrokenBut_word (by decide) _, unbrokenBut_word (unbroken_of_isName h.1) _,
      modification_slots_unbrokenBut change⟩
  | remove objective =>
    simp only [ObjectivesCommand.slots, List.forall_mem_cons]
    exact ⟨unbrokenBut_word (by decide) _, unbrokenBut_word (unbroken_of_isName h) _, by simp⟩
  | setDisplay slot objective =>
    simp only [ObjectivesCommand.slots, List.forall_mem_cons]
    exact ⟨unbrokenBut_word (by decide) _, unbrokenBut_word (unbroken_slot slot) _,
      unbrokenBut_word (unbroken_of_isName h) _, by simp⟩

theorem players_slots_unbroken {c : PlayersCommand} (h : c.WellFormed) :
    ∀ slot ∈ c.slots, slot.Unbroken := by
  rcases c with _ | _ | _ | (_ | _) | _ | _ | _ | _ <;>
    simp_all [PlayersCommand.slots, PlayersCommand.WellFormed, unbroken_of_isName, unbroken_token,
      unbroken_operation] <;>
    decide

theorem condition_slots_unbroken {c : Condition} (h : c.WellFormed) :
    ∀ slot ∈ c.slots, slot.Unbroken := by
  rcases c with _ | _ <;>
    simp_all [Condition.slots, Condition.WellFormed, unbroken_of_isName, unbroken_token,
      unbroken_comparison]
  decide

theorem slots_unbrokenBut {c : Command} (h : c.WellFormed) :
    ∀ slot ∈ c.slots, slot.UnbrokenBut c.quotes := by
  induction c with
  | objectives c =>
    simp only [Command.slots, List.forall_mem_cons]
    exact ⟨unbrokenBut_word (by decide) _, unbrokenBut_word (by decide) _,
      objectives_slots_unbrokenBut h⟩
  | players c =>
    have hslots := players_slots_unbroken h
    simp only [Command.slots, List.forall_mem_cons]
    exact ⟨unbrokenBut_word (by decide) _, unbrokenBut_word (by decide) _,
      fun slot hs => .inl (hslots slot hs)⟩
  | function id =>
    have hid : Unbroken (plain id.toText) := unbroken_of_functionId ⟨h, rfl⟩
    simp only [Command.slots, List.forall_mem_cons]
    exact ⟨unbrokenBut_word (by decide) _, unbrokenBut_word hid _, by simp⟩
  | execute condition run ih =>
    have htest := condition_slots_unbroken h.1
    simp only [Command.slots, List.cons_append, List.forall_mem_cons, List.forall_mem_append]
    exact ⟨unbrokenBut_word (by decide) _, unbrokenBut_word (by decide) _,
      unbrokenBut_word (by decide) _, fun slot hs => .inl (htest slot hs),
      unbrokenBut_word (by decide) _, ih h.2⟩
  | tellraw target message =>
    simp only [Command.slots, List.forall_mem_cons]
    exact ⟨unbrokenBut_word (by decide) _, .inl (unbroken_fixed.2 (unbroken_token h.1)),
      unbrokenBut_quoted (List.mem_singleton_self _), by simp⟩
  | foreign kind => exact h.elim

theorem unbroken_or_quoted_of_fits {quotes : List String} {slots : List Slot} {ts : List Token}
    (hs : ∀ slot ∈ slots, slot.UnbrokenBut quotes) (h : List.Forall₂ Slot.Fits slots ts) :
    ∀ t ∈ ts, Unbroken t ∨ ∃ quote ∈ quotes, t = quotedToken quote := by
  induction h with
  | nil => simp
  | cons ht hts ih =>
    rw [List.forall_mem_cons] at hs ⊢
    refine ⟨?_, ih hs.2⟩
    rcases hs.1 with hslot | ⟨quote, hquote, rfl⟩
    · exact .inl (hslot _ ht)
    · exact .inr ⟨quote, hquote, ht⟩

theorem unbroken_or_quoted_of_written {c : Command} {ts : List Token} (h : c.Written ts) :
    ∀ t ∈ ts, Unbroken t ∨ ∃ quote ∈ c.quotes, t = quotedToken quote := by
  obtain ⟨hw, hfits⟩ := written_iff.1 h
  exact unbroken_or_quoted_of_fits (slots_unbrokenBut hw) hfits

theorem solid_of_written {c : Command} {ts : List Token} (h : c.Written ts) :
    ∀ t ∈ ts, Solid t := by
  intro t ht
  rcases unbroken_or_quoted_of_written h t ht with hu | ⟨quote, -, rfl⟩
  · exact hu.solid
  · exact solid_quotedToken quote

theorem atGap_led_reverse {ts : List Token} (hne : ts ≠ []) (h : ∀ t ∈ ts, Solid t) :
    atGap (led ts).reverse = false := by
  induction ts with
  | nil => exact absurd rfl hne
  | cons t ts ih =>
    -- reversed, the text begins with the last token, which is `t` only if no other follows
    rw [List.forall_mem_cons] at h
    rw [led_cons, List.reverse_cons, List.reverse_append, List.append_assoc]
    cases ts with
    | nil => exact atGap_append h.1.2 _
    | cons u us => exact atGap_append (ih (by simp) h.2) _

theorem atGap_spaced_reverse {c : Command} {ts : List Token} (h : c.Written ts) :
    atGap (spaced ts).reverse = false := by
  obtain ⟨t, us, rfl, -⟩ := beginsWith_command.head (by decide) c ts h
  have hsolid := solid_of_written h
  have hlast := atGap_led_reverse (by simp) hsolid
  rw [led_eq_space_spaced (by simp), List.reverse_cons] at hlast
  cases hrev : (spaced (t :: us)).reverse with
  | nil =>
    rw [spaced_cons, List.reverse_eq_nil_iff, List.append_eq_nil_iff] at hrev
    have ht := (hsolid t List.mem_cons_self).1
    rw [hrev.1] at ht
    cases ht
  | cons d tail =>
    rw [hrev] at hlast
    exact hlast

theorem head_of_not_atGap {p : Char → Bool} (hp : ∀ c, p c = true → isBlank c = true)
    {s : List Char} (h : atGap s = false) : ∀ c ∈ s.head?, p c = false := by
  cases s with
  | nil => simp
  | cons c s =>
    have hc : isBlank c = false := h
    simp only [List.head?_cons, Option.mem_some_iff, forall_eq']
    cases hpc : p c with
    | false => rfl
    | true => exact (hp c hpc).symm.trans hc

theorem dropTail_eq_self {p : Char → Bool} {s : List Char}
    (h : ∀ c ∈ s.reverse.head?, p c = false) : dropTail p s = s := by
  have hdrop := dropWhile_append_of_head (a := []) (by simp) h
  rw [List.nil_append] at hdrop
  rw [dropTail, hdrop, List.reverse_reverse]

theorem chomp_append {s after : List Char} (hs : atGap s.reverse = false)
    (h : ∀ x ∈ after, isLineEnd x = true) : chomp (s ++ after) = s := by
  rw [chomp, dropTail_append_of_all h]
  exact dropTail_eq_self (head_of_not_atGap (fun _ => isBlank_of_isLineEnd) hs)

theorem exists_chomp (s : List Char) :
    ∃ after, (∀ x ∈ after, isLineEnd x = true) ∧ s = chomp s ++ after := by
  refine ⟨(s.reverse.takeWhile isLineEnd).reverse, ?_, ?_⟩
  · intro x hx
    exact List.all_eq_true.1 List.all_takeWhile x (List.mem_reverse.1 hx)
  · rw [chomp, dropTail, ← List.reverse_append, List.takeWhile_append_dropWhile,
      List.reverse_reverse]

/-- The parser reads a text as a command just when the text holds that command. -/
theorem parse_eq_ok_iff_isHeldBy {text : String} {c : Command} :
    parse text = .ok c ↔ c.IsHeldBy text := by
  rw [parse_eq_ok_iff]
  constructor
  · rintro ⟨ts, hw, hs⟩
    obtain ⟨after, hafter, htext⟩ := exists_chomp text.toList
    refine ⟨(chomp text.toList).takeWhile isBlank, ts, after,
      List.all_eq_true.1 List.all_takeWhile, hw, hafter, ?_⟩
    rw [← hs, List.takeWhile_append_dropWhile]
    exact htext
  · rintro ⟨before, ts, after, hbefore, hw, hafter, htext⟩
    -- the line ends are cut off first, and stop at the phrase even if the blanks hold some as well
    have hlast : atGap (before ++ spaced ts).reverse = false := by
      rw [List.reverse_append]
      exact atGap_append (atGap_spaced_reverse hw) _
    have hfirst := head_of_not_atGap (fun _ => id) (atGap_spaced_of_written hw)
    refine ⟨ts, hw, ?_⟩
    rw [htext, chomp_append hlast hafter, dropWhile_append_of_head hbefore hfirst]

/-- What is left of a line that holds a command, without the blanks at either end. -/
theorem trim_of_isHeldBy {text : String} {c : Command} (h : c.IsHeldBy text) :
    ∃ ts, c.Written ts ∧ trim text.toList = spaced ts := by
  obtain ⟨before, ts, after, hbefore, hw, hafter, htext⟩ := h
  have hfirst := head_of_not_atGap (fun _ => id) (atGap_append (atGap_spaced_of_written hw) after)
  have hlast := head_of_not_atGap (fun _ => id) (atGap_spaced_reverse hw)
  have hblank : ∀ x ∈ after, isBlank x = true := fun x hx => isBlank_of_isLineEnd (hafter x hx)
  refine ⟨ts, hw, ?_⟩
  rw [htext, List.append_assoc, trim, dropWhile_append_of_head hbefore hfirst,
    dropTail_append_of_all hblank]
  exact dropTail_eq_self hlast

/-- No command begins as a comment does. -/
theorem isCommandLine_of_parse {text : String} {c : Command} (h : parse text = .ok c) :
    isCommandLine text = true := by
  obtain ⟨ts, hw, htrim⟩ := trim_of_isHeldBy (parse_eq_ok_iff_isHeldBy.1 h)
  obtain ⟨key, hkey, us, rfl⟩ := beginsWith_command c ts hw
  rw [isCommandLine, htrim, spaced_cons]
  simp only [List.mem_cons, List.not_mem_nil, or_false] at hkey
  rcases hkey with rfl | rfl | rfl | rfl <;> rfl

end Scoreboard
