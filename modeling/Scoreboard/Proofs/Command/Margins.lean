import Scoreboard.Proofs.Command.Positions

namespace Scoreboard

open Text Reader Parse

namespace Text

def leading (s : List Char) : List Char :=
  s.takeWhile isBlank

def trailing (s : List Char) : List Char :=
  (s.reverse.takeWhile isBlank).reverse

variable {s before core after : List Char}

theorem atGap_dropWhile (h : ∃ c ∈ s, isBlank c = false) : atGap (s.dropWhile isBlank) = false := by
  cases hs : s.dropWhile isBlank with
  | nil =>
    obtain ⟨c, hc, hsolid⟩ := h
    rw [List.dropWhile_eq_nil_iff.1 hs c hc] at hsolid
    cases hsolid
  | cons c rest => exact head_dropWhile s c (by rw [hs]; rfl)

theorem dropTail_append_trailing (s : List Char) : dropTail isBlank s ++ trailing s = s := by
  rw [dropTail, trailing, ← List.reverse_append, List.takeWhile_append_dropWhile,
    List.reverse_reverse]

/-- A text that holds more than blanks is cut where it begins and where it ends. -/
theorem exists_margins (h : ∃ c ∈ s, isBlank c = false) :
    ∃ before core after, s = before ++ core ++ after ∧ (∀ c ∈ before, isBlank c = true) ∧
      Solid core ∧ ∀ c ∈ after, isBlank c = true := by
  have hfirst := atGap_dropWhile h
  have hlast : atGap (dropTail isBlank (s.dropWhile isBlank)).reverse = false := by
    rw [dropTail, List.reverse_reverse]
    refine atGap_dropWhile ?_
    cases hs : s.dropWhile isBlank with
    | nil => simp [hs, atGap] at hfirst
    | cons c rest =>
      rw [hs] at hfirst
      exact ⟨c, by simp, hfirst⟩
  refine ⟨s.takeWhile isBlank, dropTail isBlank (s.dropWhile isBlank),
    trailing (s.dropWhile isBlank), ?_, List.all_eq_true.1 List.all_takeWhile, ⟨?_, hlast⟩, ?_⟩
  · rw [List.append_assoc, dropTail_append_trailing, List.takeWhile_append_dropWhile]
  · have hparts := dropTail_append_trailing (s.dropWhile isBlank)
    cases hcore : dropTail isBlank (s.dropWhile isBlank) with
    | nil => simp [hcore, atGap] at hlast
    | cons c rest =>
      rw [← hparts, hcore] at hfirst
      exact hfirst
  · intro c hc
    exact List.all_eq_true.1 List.all_takeWhile c (List.mem_reverse.1 hc)

theorem leading_append (hb : ∀ c ∈ before, isBlank c = true) (hc : Solid core) (after : List Char) :
    leading (before ++ core ++ after) = before := by
  rw [leading, List.append_assoc]
  exact takeWhile_append_of_head hb (head_of_not_atGap (fun _ => id) (atGap_append hc.1 _))

theorem trailing_append (before : List Char) (hc : Solid core)
    (ha : ∀ c ∈ after, isBlank c = true) :
    trailing (before ++ core ++ after) = after := by
  have hlast : atGap (core.reverse ++ before.reverse) = false := atGap_append hc.2 _
  rw [trailing, List.reverse_append, List.reverse_append,
    takeWhile_append_of_head (by simpa using ha) (head_of_not_atGap (fun _ => id) hlast),
    List.reverse_reverse]

theorem trim_append (hb : ∀ c ∈ before, isBlank c = true) (hc : Solid core)
    (ha : ∀ c ∈ after, isBlank c = true) : trim (before ++ core ++ after) = core := by
  have hfirst := head_of_not_atGap (fun _ => id) (atGap_append hc.1 after)
  rw [List.append_assoc, trim, dropWhile_append_of_head hb hfirst, dropTail_append_of_all ha]
  exact dropTail_eq_self (head_of_not_atGap (fun _ => id) hc.2)

theorem leading_trim_trailing (h : ∃ c ∈ s, isBlank c = false) :
    s = leading s ++ trim s ++ trailing s ∧ Solid (trim s) := by
  obtain ⟨before, core, after, rfl, hb, hc, ha⟩ := exists_margins h
  rw [leading_append hb hc, trim_append hb hc ha, trailing_append before hc ha]
  exact ⟨rfl, hc⟩

theorem chomp_append_of_not {s t : List Char} (h : ∃ c ∈ t, isLineEnd c = false) :
    chomp (s ++ t) = s ++ chomp t ∧ chomp t ≠ [] := by
  have hne : t.reverse.dropWhile isLineEnd ≠ [] := by
    intro hnil
    obtain ⟨c, hc, hnot⟩ := h
    rw [List.dropWhile_eq_nil_iff.1 hnil c (by simpa using hc)] at hnot
    cases hnot
  have hempty : (t.reverse.dropWhile isLineEnd).isEmpty = false := by simpa using hne
  rw [chomp, chomp, dropTail, dropTail, List.reverse_append, List.dropWhile_append, hempty]
  simpa using hne

end Text

/-- The error of a text in front of which so many characters are added as change no more than
positions. -/
def ParseError.shift (n : Nat) : ParseError → ParseError
  | invalid e => .invalid ⟨e.cause, e.position + n⟩
  | numeralTooLong => .numeralTooLong

namespace Parse

variable {before core after : List Char}

/-- A line is read from its first character that is no blank on. -/
theorem parse_of_chomp {text : String} (hb : ∀ c ∈ before, isBlank c = true)
    (hc : atGap core = false)
    (h : chomp text.toList = before ++ core) :
    parse text = (whole core).mapError (Stop.toError (before.length + core.length)) := by
  rw [parse, h, dropWhile_append_of_head hb (head_of_not_atGap (fun _ => id) hc),
    List.length_append]

theorem toError_add {stop : Stop} (h : whole core = .error stop) (n : Nat) :
    stop.toError (n + core.length) = (stop.toError core.length).shift n := by
  cases stop with
  | numeralTooLong => rfl
  | failed cause rest =>
    obtain ⟨done, hcore, -⟩ := whole_stopped h
    have hlength := congrArg List.length hcore
    rw [List.length_append] at hlength
    simp only [Stop.toError, ParseError.shift, ParseError.invalid.injEq, SyntaxError.mk.injEq,
      true_and]
    omega

theorem mapError_toError_add (core : List Char) (n : Nat) :
    (whole core).mapError (Stop.toError (n + core.length)) =
      ((whole core).mapError (Stop.toError core.length)).mapError (ParseError.shift n) := by
  cases h : whole core with
  | ok c => rfl
  | error stop => exact congrArg Except.error (toError_add h n)

theorem parse_solid (hc : Solid core) :
    parse (String.ofList core) = (whole core).mapError (Stop.toError core.length) := by
  have hchomp : chomp (String.ofList core).toList = [] ++ core := by
    rw [String.toList_ofList, List.nil_append]
    exact dropTail_eq_self (head_of_not_atGap (fun _ => isBlank_of_isLineEnd) hc.2)
  simpa using parse_of_chomp (by simp) hc.1 hchomp

theorem whole_of_parse_solid {c : Command} (hc : Solid core)
    (h : parse (String.ofList core) = .ok c) : whole core = .ok c := by
  rw [parse_solid hc] at h
  cases hw : whole core with
  | ok c' =>
    rw [hw] at h
    cases h
    rfl
  | error stop =>
    rw [hw] at h
    cases h

theorem whole_blanks {tail : List Char} {c : Command} (h : whole core = .ok c) (ht : Blanks tail) :
    ∃ rest, whole (core ++ tail) = .error (.failed .trailingWhitespace rest) := by
  have hcommand : command core = .ok (c, []) :=
    (command_eq_ok_nil_iff c core).2 (whole_eq_ok_iff.1 h)
  obtain ⟨d, tail, rfl⟩ := List.exists_cons_of_ne_nil ht.1
  rcases reliable_command.blanks hcommand ht with hok | ⟨rest, herror⟩
  · refine ⟨d :: tail, ?_⟩
    have hall : (d :: tail).all isBlank = true := List.all_eq_true.2 ht.2
    simp [whole, hok, hall]
  · exact ⟨rest, by simp [whole, herror]⟩

end Parse

section Line

variable {line : String}

/-- With nothing but line ends behind it a line is read as it is without the blanks at its ends. -/
theorem parse_eq_shift_of_lineEnds (h : ∃ c ∈ line.toList, isBlank c = false)
    (ha : ∀ c ∈ trailing line.toList, isLineEnd c = true) :
    parse line =
      (parse (trimmed line)).mapError (ParseError.shift (leading line.toList).length) := by
  obtain ⟨hline, hc⟩ := leading_trim_trailing h
  have hlast : atGap (leading line.toList ++ trim line.toList).reverse = false := by
    rw [List.reverse_append]
    exact atGap_append hc.2 _
  have hchomp : chomp line.toList = leading line.toList ++ trim line.toList :=
    (congrArg chomp hline).trans (chomp_append hlast ha)
  rw [parse_of_chomp (List.all_eq_true.1 List.all_takeWhile) hc.1 hchomp, trimmed, parse_solid hc]
  exact mapError_toError_add _ _

theorem isLineEnd_of_parse {c : Command} (h : parse line = .ok c) :
    ∀ x ∈ trailing line.toList, isLineEnd x = true := by
  obtain ⟨before, ts, after, -, hw, hafter, htext⟩ := parse_eq_ok_iff_isHeldBy.1 h
  have hsolid : Solid (spaced ts) := ⟨atGap_spaced_of_written hw, atGap_spaced_reverse hw⟩
  rw [htext, trailing_append before hsolid fun x hx => isBlank_of_isLineEnd (hafter x hx)]
  exact hafter

theorem parse_eq_trailingWhitespace {c : Command} (hc : parse (trimmed line) = .ok c)
    (hs : ∃ x ∈ line.toList, isBlank x = false)
    (h : ∃ x ∈ trailing line.toList, isLineEnd x = false) :
    ∃ position, parse line = .error (.invalid ⟨.trailingWhitespace, position⟩) := by
  obtain ⟨hline, hsolid⟩ := leading_trim_trailing hs
  obtain ⟨htail, hne⟩ := chomp_append_of_not (s := leading line.toList ++ trim line.toList) h
  have hblanks : Blanks (chomp (trailing line.toList)) := by
    refine ⟨hne, fun x hx => ?_⟩
    have hmem := (dropTail_isPrefix isLineEnd _).subset hx
    exact List.all_eq_true.1 List.all_takeWhile x (List.mem_reverse.1 hmem)
  have hchomp := (congrArg chomp hline).trans htail
  rw [List.append_assoc] at hchomp
  have hfirst := atGap_append hsolid.1 (chomp (trailing line.toList))
  rw [parse_of_chomp (List.all_eq_true.1 List.all_takeWhile) hfirst hchomp]
  obtain ⟨rest, herror⟩ := whole_blanks (whole_of_parse_solid hsolid hc) hblanks
  rw [herror]
  exact ⟨_, rfl⟩

/-- A line with the blanks at its ends and the same line without them agree on the command they
give, unless a blank stands behind it that is no line end: such a line gives none. Lines that give a
command are never passed over. -/
theorem parse_agrees_with_trimmed (h : ∃ x ∈ line.toList, isBlank x = false) :
    line.toList = leading line.toList ++ trim line.toList ++ trailing line.toList ∧
      ((∀ x ∈ trailing line.toList, isLineEnd x = true) → parse line =
        (parse (trimmed line)).mapError (ParseError.shift (leading line.toList).length)) ∧
      ((∃ x ∈ trailing line.toList, isLineEnd x = false) → (∀ c, parse line ≠ .ok c) ∧
        ∀ c, parse (trimmed line) = .ok c →
          ∃ position, parse line = .error (.invalid ⟨.trailingWhitespace, position⟩)) ∧
      ∀ c, parse line = .ok c → isCommandLine line = true := by
  refine ⟨(leading_trim_trailing h).1, parse_eq_shift_of_lineEnds h, fun htail => ⟨?_, ?_⟩,
    fun c => isCommandLine_of_parse⟩
  · rintro c hc
    obtain ⟨x, hx, hnot⟩ := htail
    rw [isLineEnd_of_parse hc x hx] at hnot
    cases hnot
  · intro c hc
    exact parse_eq_trailingWhitespace hc h htail

/-- Two blanks in front of a mistake move it, and a tab behind a command is one. -/
theorem parse_agrees_with_trimmed_tab :
    parse "\t scoreboard players lost\r\n" =
        (parse "scoreboard players lost").mapError (ParseError.shift 2) ∧
      ∃ position, parse "scoreboard players list\t\n" =
        .error (.invalid ⟨.trailingWhitespace, position⟩) := by
  constructor
  · exact (parse_agrees_with_trimmed ⟨'s', by decide, rfl⟩).2.1 (List.all_eq_true.1 (by decide))
  · exact ((parse_agrees_with_trimmed ⟨'s', by decide, rfl⟩).2.2.1 ⟨'\t', by decide, rfl⟩).2
      (.players (.list none)) (by decide +kernel)

end Line

end Scoreboard
