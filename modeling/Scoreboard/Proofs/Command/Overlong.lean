import Scoreboard.Proofs.Command.Stops

namespace Scoreboard

open Text Reader Parse

/-- A run of digits that is longer than what is read, but does not count as out of range. -/
structure IsOverlong (digits : List Char) : Prop where
  isDigit : ∀ c ∈ digits, isDigit c = true
  tooLong : maxDigits < digits.length
  significant : (digits.dropWhile (· == '0')).length ≤ maxSignificantDigits

def HoldsOverlong (s : List Char) : Prop :=
  ∃ digits, digits <:+: s ∧ IsOverlong digits

theorem HoldsOverlong.mono {s t : List Char} (h : HoldsOverlong t) (hi : t <:+: s) :
    HoldsOverlong s := by
  obtain ⟨digits, hd, ho⟩ := h
  exact ⟨digits, hd.trans hi, ho⟩

theorem blanksAt_ne_numeralTooLong (s : List Char) : blanksAt s ≠ .numeralTooLong := by
  unfold blanksAt
  split <;> nofun

theorem unexpected_ne_numeralTooLong (expected : String) (s : List Char) :
    unexpected expected s ≠ .numeralTooLong := by
  unfold unexpected
  split
  · nofun
  · split
    · exact blanksAt_ne_numeralTooLong _
    · nofun

theorem space_ne_numeralTooLong (s : List Char) : space s ≠ .error .numeralTooLong := by
  unfold space
  split
  · split
    · nofun
    · split
      · exact fun h => blanksAt_ne_numeralTooLong _ (Except.error.inj h)
      · nofun
  · exact fun h => unexpected_ne_numeralTooLong _ _ (Except.error.inj h)

theorem run_ne_numeralTooLong (p : Char → Bool) (expected : String) (s : List Char) :
    run p expected s ≠ .error .numeralTooLong := by
  unfold run
  split
  · exact fun h => unexpected_ne_numeralTooLong _ _ (Except.error.inj h)
  · nofun

theorem choose_ne_numeralTooLong {α : Type} (what : String) (options : List (String × α))
    (p : Char → Bool) (expected : String) (s : List Char) :
    choose what options (run p expected) s ≠ .error .numeralTooLong := by
  unfold choose
  split
  · next stop h =>
    rintro ⟨rfl⟩
    exact run_ne_numeralTooLong p expected s h
  · split <;> nofun

theorem commandName_ne_numeralTooLong (s : List Char) :
    commandName s ≠ .error .numeralTooLong := by
  unfold commandName
  split
  · next stop h =>
    rintro ⟨rfl⟩
    exact run_ne_numeralTooLong _ _ s h
  · split <;> nofun

theorem quotedString_ne_numeralTooLong (s : List Char) :
    quotedString s ≠ .error .numeralTooLong := by
  unfold quotedString
  split
  · split <;> nofun
  · exact fun h => unexpected_ne_numeralTooLong _ _ (Except.error.inj h)

theorem holdsOverlong_of_numeral {minimum : Int} {literal start s : List Char} {negative : Bool}
    (h : numeral minimum literal negative (s.takeWhile isDigit) start = .error .numeralTooLong) :
    HoldsOverlong s := by
  refine ⟨s.takeWhile isDigit, (List.takeWhile_prefix isDigit).isInfix, ?_⟩
  rw [numeral_eq] at h
  split at h
  · cases h
  · next hsignificant =>
    split at h
    · next hlong => exact ⟨List.all_eq_true.1 List.all_takeWhile, hlong, by omega⟩
    · split at h <;> cases h

theorem holdsOverlong_of_signedInteger {s : List Char}
    (h : signedInteger s = .error .numeralTooLong) : HoldsOverlong s := by
  simp only [signedInteger] at h
  split at h
  · exact absurd (Except.error.inj h) (unexpected_ne_numeralTooLong _ _)
  · split at h
    · cases h
    · next stop hn =>
      cases h
      exact (holdsOverlong_of_numeral hn).mono (splitSign_suffix s).isInfix

theorem holdsOverlong_of_naturalInteger {s : List Char}
    (h : naturalInteger s = .error .numeralTooLong) : HoldsOverlong s := by
  simp only [naturalInteger] at h
  split at h
  · exact absurd (Except.error.inj h) (unexpected_ne_numeralTooLong _ _)
  · split at h
    · cases h
    · next stop hn =>
      cases h
      exact holdsOverlong_of_numeral hn

theorem stopRule_overlong :
    StopRule fun s stop => stop = .numeralTooLong → HoldsOverlong s where
  of_suffix hs hrest he := (hrest he).mono hs.isInfix
  space s _ h := by
    rintro rfl
    exact absurd h (space_ne_numeralTooLong s)
  word expected s _ h := by
    rintro rfl
    exact absurd h (run_ne_numeralTooLong _ _ s)
  quotedString s _ h := by
    rintro rfl
    exact absurd h (quotedString_ne_numeralTooLong s)
  signedInteger _ _ h := by
    rintro rfl
    exact holdsOverlong_of_signedInteger h
  naturalInteger _ _ h := by
    rintro rfl
    exact holdsOverlong_of_naturalInteger h
  keyword _ _ s _ h := by
    rintro rfl
    exact absurd h (choose_ne_numeralTooLong _ _ _ _ s)
  symbol _ _ _ s _ h := by
    rintro rfl
    exact absurd h (choose_ne_numeralTooLong _ _ _ _ s)
  commandName s _ h := by
    rintro rfl
    exact absurd h (commandName_ne_numeralTooLong s)
  dots _ := nofun

theorem command_of_whole {s : List Char} (h : whole s = .error .numeralTooLong) :
    command s = .error .numeralTooLong := by
  unfold whole at h
  split at h
  · next stop hc =>
    cases h
    exact hc
  · cases h
  · split at h <;> cases h

/-- Wherever a line gives neither a command nor a syntax error, it holds a numeral that is too long.
-/
theorem holdsOverlong_of_parse {text : String} (h : parse text = .error .numeralTooLong) :
    HoldsOverlong text.toList := by
  have hwhole : whole ((chomp text.toList).dropWhile isBlank) = .error .numeralTooLong := by
    cases hw : whole ((chomp text.toList).dropWhile isBlank) with
    | ok c =>
      rw [parse, hw] at h
      cases h
    | error stop =>
      rw [parse, hw] at h
      cases stop with
      | failed cause rest => cases h
      | numeralTooLong => rfl
  have hheld := stopRule_overlong.command (command_of_whole hwhole) rfl
  exact (hheld.mono (List.dropWhile_suffix isBlank).isInfix).mono
    (dropTail_isPrefix isLineEnd text.toList).isInfix

def Reader.stop? {α : Type} : Except Stop α → Option Stop
  | .error stop => some stop
  | .ok _ => none

theorem eq_error_of_stop? {α : Type} {r : Except Stop α} {stop : Stop} (h : stop? r = some stop) :
    r = .error stop := by
  cases r with
  | error stop' => exact congrArg _ (Option.some.inj h)
  | ok a => cases h

theorem parse_ofList_of_whole {s : List Char}
    (h : whole ((chomp s).dropWhile isBlank) = .error .numeralTooLong) :
    parse (String.ofList s) = .error .numeralTooLong := by
  simp only [parse, String.toList_ofList, h]
  rfl

/-- A command with a numeral of nothing but zeros, one more than are read. -/
def overlongCommand : List Char :=
  "scoreboard players set p o ".toList ++ List.replicate 4301 '0'

theorem parse_overlongCommand : parse (String.ofList overlongCommand) = .error .numeralTooLong :=
  parse_ofList_of_whole (eq_error_of_stop? (by decide +kernel))

end Scoreboard
