import Scoreboard.Proofs.Command.Held

namespace Scoreboard

open Text Reader Parse

/-- How the grammar arrives at a text from a command. -/
@[ext] structure Derivation (text : String) where
  command : Command
  before : List Char
  tokens : List Token
  after : List Char
  before_blank : ∀ x ∈ before, isBlank x = true
  written : command.Written tokens
  after_lineEnd : ∀ x ∈ after, isLineEnd x = true
  text_eq : text.toList = before ++ spaced tokens ++ after

theorem isHeldBy_iff_exists_derivation {c : Command} {text : String} :
    c.IsHeldBy text ↔ ∃ d : Derivation text, d.command = c := by
  constructor
  · rintro ⟨before, ts, after, hbefore, hw, hafter, htext⟩
    exact ⟨⟨c, before, ts, after, hbefore, hw, hafter, htext⟩, rfl⟩
  · rintro ⟨d, rfl⟩
    exact ⟨d.before, d.tokens, d.after, d.before_blank, d.written, d.after_lineEnd, d.text_eq⟩

theorem append_inj_of_head {p : Char → Bool} {a b r s : List Char}
    (ha : ∀ c ∈ a, p c = true) (hb : ∀ c ∈ b, p c = true) (hr : ∀ c ∈ r.head?, p c = false)
    (hs : ∀ c ∈ s.head?, p c = false) (h : a ++ r = b ++ s) : a = b ∧ r = s := by
  have htake := congrArg (List.takeWhile p) h
  have hdrop := congrArg (List.dropWhile p) h
  rw [takeWhile_append_of_head ha hr, takeWhile_append_of_head hb hs] at htake
  rw [dropWhile_append_of_head ha hr, dropWhile_append_of_head hb hs] at hdrop
  exact ⟨htake, hdrop⟩

theorem append_inj_of_unbroken {t u : Token} {r s : List Char} (ht : Unbroken t) (hu : Unbroken u)
    (hr : atGap r = true) (hs : atGap s = true) (h : t ++ r = u ++ s) : t = u ∧ r = s := by
  have hstop : ∀ {rest : List Char}, atGap rest = true →
      ∀ c ∈ rest.head?, (!isBlank c) = false :=
    fun hrest => head_of_atGap (fun c hc => by simp [hc]) hrest
  have hword : ∀ {v : Token}, Unbroken v → ∀ c ∈ v, (!isBlank c) = true :=
    fun hv c hc => by simp [hv.2 c hc]
  exact append_inj_of_head (hword ht) (hword hu) (hstop hr) (hstop hs) h

theorem atGap_led (ts : List Token) : atGap (led ts) = true := by
  rw [← List.append_nil (led ts)]
  exact atGap_led_append ts rfl

theorem slot_append_inj {slot : Slot} {t u : Token} {r s : List Char} (ht : slot.Fits t)
    (hu : slot.Fits u) (hr : atGap r = true) (hs : atGap s = true) (h : t ++ r = u ++ s) :
    t = u ∧ r = s := by
  cases slot with
  | fixed v =>
    rw [fits_fixed] at ht hu
    subst ht hu
    exact ⟨rfl, List.append_cancel_left h⟩
  | amount n =>
    exact append_inj_of_unbroken (unbroken_of_isUnsigned ht) (unbroken_of_isUnsigned hu) hr hs h
  | range interval =>
    exact append_inj_of_unbroken (unbroken_of_interval ht) (unbroken_of_interval hu) hr hs h

/-- Phrases for the same slots are different texts. -/
theorem led_inj_of_fits {slots : List Slot} {ts us : List Token}
    (ht : List.Forall₂ Slot.Fits slots ts) (hu : List.Forall₂ Slot.Fits slots us)
    (h : led ts = led us) : ts = us := by
  induction ht generalizing us with
  | nil =>
    cases hu
    rfl
  | @cons slot t slots ts hfit hfits ih =>
    obtain ⟨u, us, hfit', hfits', rfl⟩ := List.forall₂_cons_left_iff.1 hu
    rw [led_cons, led_cons, List.cons.injEq] at h
    -- the gap in front of the next token shows where this one ends
    obtain ⟨rfl, hrest⟩ := slot_append_inj hfit hfit' (atGap_led ts) (atGap_led us) h.2
    rw [ih hfits' hrest]

theorem tokens_eq_of_spaced_eq {c : Command} {ts us : List Token} (ht : c.Written ts)
    (hu : c.Written us) (h : spaced ts = spaced us) : ts = us := by
  have hne : ∀ {vs : List Token}, c.Written vs → vs ≠ [] := by
    rintro vs hv rfl
    obtain ⟨t, us, hcons, -⟩ := beginsWith_command.head (by decide) c [] hv
    cases hcons
  apply led_inj_of_fits (written_iff.1 ht).2 (written_iff.1 hu).2
  rw [led_eq_space_spaced (hne ht), led_eq_space_spaced (hne hu), h]

theorem Derivation.parse_eq {text : String} (d : Derivation text) : parse text = .ok d.command :=
  parse_eq_ok_iff_isHeldBy.2 (isHeldBy_iff_exists_derivation.2 ⟨d, rfl⟩)

theorem Derivation.parts_eq {text : String} (d e : Derivation text) :
    d.before = e.before ∧ spaced d.tokens = spaced e.tokens ∧ d.after = e.after := by
  have hfirst : ∀ f : Derivation text, ∀ c ∈ (spaced f.tokens ++ f.after).head?,
      isBlank c = false := fun f =>
    head_of_not_atGap (fun _ => id) (atGap_append (atGap_spaced_of_written f.written) _)
  have hlast : ∀ f : Derivation text, ∀ c ∈ (spaced f.tokens).reverse.head?,
      isLineEnd c = false := fun f =>
    head_of_not_atGap (fun _ => isBlank_of_isLineEnd) (atGap_spaced_reverse f.written)
  have htext := d.text_eq.symm.trans e.text_eq
  rw [List.append_assoc, List.append_assoc] at htext
  obtain ⟨hbefore, hrest⟩ :=
    append_inj_of_head d.before_blank e.before_blank (hfirst d) (hfirst e) htext
  -- the line ends are told from the phrase in the same way, looking from behind
  have hreverse := congrArg List.reverse hrest
  rw [List.reverse_append, List.reverse_append] at hreverse
  have hend : ∀ f : Derivation text, ∀ c ∈ f.after.reverse, isLineEnd c = true :=
    fun f c hc => f.after_lineEnd c (List.mem_reverse.1 hc)
  obtain ⟨hafter, hphrase⟩ := append_inj_of_head (hend d) (hend e) (hlast d) (hlast e) hreverse
  exact ⟨hbefore, List.reverse_inj.1 hphrase, List.reverse_inj.1 hafter⟩

theorem Derivation.unique {text : String} (d e : Derivation text) : d = e := by
  obtain ⟨hbefore, hphrase, hafter⟩ := d.parts_eq e
  have hcommand : d.command = e.command :=
    Except.ok.inj (d.parse_eq.symm.trans e.parse_eq)
  have htokens := tokens_eq_of_spaced_eq d.written (hcommand ▸ e.written) hphrase
  exact Derivation.ext hcommand hbefore htokens hafter

/-- A numeral without the zeros in front, and without the sign if nothing else is left. -/
def bare (t : Token) : Token :=
  let (negative, digits) := splitSign t
  match digits.dropWhile (· == '0') with
  | [] => []
  | rest => withSign negative rest

theorem bare_withSign (negative : Bool) {digits : List Char} (hne : digits ≠ [])
    (hd : ∀ c ∈ digits, isDigit c = true) :
    bare (withSign negative digits) =
      if digitsValue digits = 0 then []
      else withSign negative (Nat.toDigits 10 (digitsValue digits)) := by
  have hsplit := splitSign_withSign negative [] hne hd
  rw [List.append_nil, List.append_nil] at hsplit
  simp only [bare, hsplit, dropWhile_zero_eq_significant hd, significant]
  by_cases h0 : digitsValue digits = 0
  · simp [h0]
  · rw [if_neg h0, if_neg h0]
    split
    · next hnil => exact absurd hnil Nat.toDigits_ne_nil
    · rfl

theorem bare_of_isSigned {n : Int} {t : Token} (h : IsSigned n t) :
    bare t = if n = 0 then [] else withSign (decide (n < 0)) (Nat.toDigits 10 n.natAbs) := by
  obtain ⟨negative, digits, rfl, hne, hd, -, rfl, -⟩ := isSigned_iff.1 h
  rw [bare_withSign negative hne hd, natAbs_signedValue]
  cases negative with
  | false =>
    have hpos : ¬((digitsValue digits : Int) < 0) := by omega
    simp [signedValue, hpos]
  | true =>
    by_cases h0 : digitsValue digits = 0
    · simp [signedValue, h0]
    · have hpos : 0 < digitsValue digits := by omega
      simp [signedValue, h0, hpos]

example : bare (plain "-007") = plain "-7" ∧ bare (plain "-0") = bare (plain "00") := by decide

theorem isSigned_of_isUnsigned {n : Int} {t : Token} (h : IsUnsigned n t) : IsSigned n t := by
  obtain ⟨⟨hl, hu⟩, hd⟩ := h
  have hr : Score.InRange n := ⟨by simp only [Score.least]; omega, hu⟩
  exact ⟨hr, t, hd, .inl ⟨hl, rfl⟩⟩

/-- Numerals that differ in zeros in front and in the sign of zero only. -/
def SameNumeral (t u : Token) : Prop :=
  (∃ n, IsSigned n t) ∧ (∃ n, IsSigned n u) ∧ bare t = bare u

theorem sameNumeral_of_isSigned {n : Int} {t u : Token} (ht : IsSigned n t) (hu : IsSigned n u) :
    SameNumeral t u :=
  ⟨⟨n, ht⟩, ⟨n, hu⟩, (bare_of_isSigned ht).trans (bare_of_isSigned hu).symm⟩

/-- Tokens that differ in the numerals in them only, and these as little. -/
inductive Alike : Token → Token → Prop
  | same (t : Token) : Alike t t
  | numeral {t u : Token} : SameNumeral t u → Alike t u
  | between {a a' b b' : Token} : SameNumeral a a' → SameNumeral b b' →
    Alike (a ++ '.' :: '.' :: b) (a' ++ '.' :: '.' :: b')
  | atMost {b b' : Token} : SameNumeral b b' → Alike ('.' :: '.' :: b) ('.' :: '.' :: b')
  | atLeast {a a' : Token} : SameNumeral a a' → Alike (a ++ ['.', '.']) (a' ++ ['.', '.'])

theorem alike_of_fits {slot : Slot} {t u : Token} (ht : slot.Fits t) (hu : slot.Fits u) :
    Alike t u := by
  rcases slot with v | n | (n | ⟨m, n⟩ | n | n)
  · rw [fits_fixed] at ht hu
    rw [ht, hu]
    exact .same v
  · exact .numeral (sameNumeral_of_isSigned (isSigned_of_isUnsigned ht) (isSigned_of_isUnsigned hu))
  · exact .numeral (sameNumeral_of_isSigned ht hu)
  · obtain ⟨a, b, ha, hb, rfl⟩ := ht
    obtain ⟨a', b', ha', hb', rfl⟩ := hu
    exact .between (sameNumeral_of_isSigned ha ha') (sameNumeral_of_isSigned hb hb')
  · obtain ⟨b, hb, rfl⟩ := ht
    obtain ⟨b', hb', rfl⟩ := hu
    exact .atMost (sameNumeral_of_isSigned hb hb')
  · obtain ⟨a, ha, rfl⟩ := ht
    obtain ⟨a', ha', rfl⟩ := hu
    exact .atLeast (sameNumeral_of_isSigned ha ha')

theorem forall₂_alike {slots : List Slot} {ts us : List Token}
    (ht : List.Forall₂ Slot.Fits slots ts) (hu : List.Forall₂ Slot.Fits slots us) :
    List.Forall₂ Alike ts us := by
  induction ht generalizing us with
  | nil =>
    cases hu
    exact .nil
  | cons hfit hfits ih =>
    obtain ⟨u, us, hfit', hfits', rfl⟩ := List.forall₂_cons_left_iff.1 hu
    exact .cons (alike_of_fits hfit hfit') (ih hfits')

theorem alike_of_written {c : Command} {ts us : List Token} (ht : c.Written ts)
    (hu : c.Written us) : List.Forall₂ Alike ts us :=
  forall₂_alike (written_iff.1 ht).2 (written_iff.1 hu).2

theorem ne_dot_of_isSigned {n : Int} {t : Token} (h : IsSigned n t) :
    ∀ c ∈ t, (c != '.') = true := by
  have hdigit : ∀ c, isDigit c = true → (c != '.') = true := by
    intro c hc
    rw [bne_iff_ne]
    rintro rfl
    exact absurd hc (by decide)
  obtain ⟨-, digits, hd, ⟨-, rfl⟩ | ⟨-, rfl⟩⟩ := h
  · exact fun c hc => hdigit c (hd.2.1 c hc)
  · rw [List.forall_mem_cons]
    exact ⟨by decide, fun c hc => hdigit c (hd.2.1 c hc)⟩

/-- The two dots of a range can be found: no numeral has a dot in it. -/
theorem bounds_eq {m m' : Int} {a a' b b' : Token} (ha : IsSigned m a) (ha' : IsSigned m' a')
    (h : a ++ '.' :: '.' :: b = a' ++ '.' :: '.' :: b') : a = a' ∧ b = b' := by
  obtain ⟨haa, hbb⟩ := append_inj_of_head (ne_dot_of_isSigned ha) (ne_dot_of_isSigned ha')
    (by simp) (by simp) h
  simp only [List.cons.injEq, true_and] at hbb
  exact ⟨haa, hbb⟩

/-- The parser accepts exactly the grammar, with the tree that the text is derived from. No text has
two derivations, not even two ways to cut a range into its bounds; and texts with the same tree have
derivations whose tokens differ in zeros in front of a number and in the sign of zero only. -/
theorem parse_exactly_derivations :
    (∀ text c, parse text = .ok c ↔ ∃ d : Derivation text, d.command = c) ∧
    (∀ text, ∀ d e : Derivation text, d = e) ∧
    (∀ m m' n n' a a' b b', IsSigned m a → IsSigned n b → IsSigned m' a' → IsSigned n' b' →
      a ++ '.' :: '.' :: b = a' ++ '.' :: '.' :: b' → a = a' ∧ b = b') ∧
    ∀ text text' c, parse text = .ok c → parse text' = .ok c →
      ∃ d : Derivation text, ∃ e : Derivation text', d.command = c ∧ e.command = c ∧
        List.Forall₂ Alike d.tokens e.tokens := by
  have hparse : ∀ text c, parse text = .ok c ↔ ∃ d : Derivation text, d.command = c :=
    fun _ _ => parse_eq_ok_iff_isHeldBy.trans isHeldBy_iff_exists_derivation
  refine ⟨hparse, fun _ => Derivation.unique, ?_, ?_⟩
  · intro m m' n n' a a' b b' ha _ ha' _ h
    exact bounds_eq ha ha' h
  · intro text text' c h h'
    obtain ⟨d, rfl⟩ := (hparse text c).1 h
    obtain ⟨e, he⟩ := (hparse text' _).1 h'
    exact ⟨d, e, rfl, he, alike_of_written d.written (he ▸ e.written)⟩

end Scoreboard
