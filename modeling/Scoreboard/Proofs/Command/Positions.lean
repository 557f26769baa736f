import Scoreboard.Proofs.Command.Held
import Scoreboard.Proofs.Command.Readers

namespace Scoreboard

open Text Reader Parse

/-- What a syntax error says about the line that it is found in, less the line ends behind it. Only
characters behind a command are told about with the command. -/
def SyntaxError.TellsTruth (e : SyntaxError) (s : List Char) : Prop :=
  e.position ≤ s.length ∧ e.cause.Follows (s.take e.position) ∧
    match e.cause with
    | .trailingCharacters found => plain found = s.drop e.position ∧
      (∃ c ∈ s.drop e.position, isBlank c = false) ∧
      ∃ c, parse (String.ofList (s.take e.position)) = .ok c
    | cause => cause.Describes (s.drop e.position)

namespace Parse

variable {s rest : List Char} {cause : Cause}

inductive Halt (done rest : List Char) (cause : Cause) : Prop
  | inside {more : List Char} {c : Command} : cause.Describes rest →
    command (done ++ more) = .ok (c, []) →
    (∀ before, atGap before.reverse = true → cause.Follows (before ++ done)) → Halt done rest cause
  | behind {found : String} {c : Command} : cause = .trailingCharacters found →
    plain found = rest → (∃ x ∈ rest, isBlank x = false) → command done = .ok (c, []) →
    Halt done rest cause

theorem Halt.completed {done : List Char} (h : Halt done rest cause) :
    ∃ more c, command (done ++ more) = .ok (c, []) := by
  cases h with
  | @inside more c _ hok _ => exact ⟨more, c, hok⟩
  | @behind _ c _ _ _ hdone => exact ⟨[], c, by rwa [List.append_nil]⟩

theorem Halt.follows {before done : List Char} (h : Halt done rest cause)
    (hb : ∀ x ∈ before, isBlank x = true) : cause.Follows (before ++ done) := by
  cases h with
  | inside _ _ hleft => exact hleft before (atGap_of_forall (by simpa using hb))
  | behind hcause _ _ _ =>
    rw [hcause]
    trivial

theorem whole_stopped (h : whole s = .error (.failed cause rest)) :
    ∃ done, s = done ++ rest ∧ Halt done rest cause := by
  unfold whole at h
  split at h
  · next stop hc =>
    cases h
    obtain ⟨hd, done, more, c, hs, hok, hleft⟩ := reliable_command.stopped hc
    exact ⟨done, hs, .inside hd hok hleft⟩
  · cases h
  · next c after hne hc =>
    obtain ⟨done, rfl, hdone⟩ := reliable_command.passed hc
    have hleft : after ≠ [] := by
      rintro rfl
      exact hne rfl
    split at h
    · next hall =>
      cases h
      have hblanks : Blanks rest := ⟨hleft, List.all_eq_true.1 hall⟩
      exact ⟨done, rfl, .inside hblanks (by rwa [List.append_nil]) fun _ _ => trivial⟩
    · next hall =>
      cases h
      have hsolid : ∃ x ∈ rest, isBlank x = false := by
        simpa using hall
      exact ⟨done, rfl, .behind rfl (by simp [plain]) hsolid hdone⟩

end Parse

theorem parse_of_command {before s : List Char} {c : Command} (hb : ∀ x ∈ before, isBlank x = true)
    (h : command s = .ok (c, [])) : parse (String.ofList (before ++ s)) = .ok c := by
  obtain ⟨ts, hw, rfl⟩ := (command_eq_ok_nil_iff c s).1 h
  exact parse_eq_ok_iff_isHeldBy.2 ⟨before, ts, [], hb, hw, by simp, by simp⟩

theorem whole_of_parse_eq_invalid {text : String} {e : SyntaxError}
    (h : parse text = .error (.invalid e)) :
    ∃ rest, whole ((chomp text.toList).dropWhile isBlank) = .error (.failed e.cause rest) ∧
      e.position = (chomp text.toList).length - rest.length := by
  rw [parse] at h
  cases hw : whole ((chomp text.toList).dropWhile isBlank) with
  | ok c =>
    rw [hw] at h
    cases h
  | error stop =>
    rw [hw] at h
    cases stop with
    | failed cause rest =>
      cases h
      exact ⟨rest, rfl, rfl⟩
    | numeralTooLong => cases h

/-- The position of a syntax error parts the line into the blanks and words before it and the rest.
-/
theorem exists_halt_of_parse {text : String} {e : SyntaxError}
    (h : parse text = .error (.invalid e)) :
    ∃ before done rest, (∀ x ∈ before, isBlank x = true) ∧ Halt done rest e.cause ∧
      chomp text.toList = before ++ done ++ rest ∧ (before ++ done).length = e.position := by
  obtain ⟨rest, hw, hp⟩ := whole_of_parse_eq_invalid h
  obtain ⟨done, hs, hhalt⟩ := whole_stopped hw
  have hsplit := List.takeWhile_append_dropWhile (p := isBlank) (l := chomp text.toList)
  rw [hs, ← List.append_assoc] at hsplit
  refine ⟨_, done, rest, List.all_eq_true.1 List.all_takeWhile, hhalt, hsplit.symm, ?_⟩
  have hlength := congrArg List.length hsplit
  rw [List.length_append] at hlength
  omega

/-- What a line that gives no command is told about is there: the position lies in the line, a token
that is the mistake begins at it, and each kind of mistake describes the text from there on. -/
theorem tellsTruth_of_parse {text : String} {e : SyntaxError}
    (h : parse text = .error (.invalid e)) :
    e.TellsTruth (chomp text.toList) := by
  obtain ⟨before, done, rest, hb, hhalt, hs, hp⟩ := exists_halt_of_parse h
  have hdrop : (chomp text.toList).drop e.position = rest := by rw [hs, ← hp, List.drop_left]
  have htake : (chomp text.toList).take e.position = before ++ done := by
    rw [hs, ← hp, List.take_left]
  have hlength := congrArg List.length hs
  rw [List.length_append] at hlength
  rw [SyntaxError.TellsTruth, hdrop, htake]
  refine ⟨by omega, hhalt.follows hb, ?_⟩
  cases hhalt with
  | inside hd _ _ =>
    split
    · next hcause =>
      rw [hcause] at hd
      exact hd.elim
    · exact hd
  | behind hcause hfound hsolid hdone =>
    rw [hcause]
    exact ⟨hfound, hsolid, _, parse_of_command hb hdone⟩

/-- A bound that is out of range, behind a bound that is not. -/
theorem tellsTruth_of_parse_interval :
    SyntaxError.TellsTruth ⟨.integerOutOfRange "99999999999" Score.least Score.greatest, 34⟩
      (chomp " \texecute if score a o matches 5..99999999999 run function f\r\n".toList) :=
  tellsTruth_of_parse (by decide +kernel)

/-- What stands left of the position of a syntax error is the beginning of a line that holds a
command. -/
theorem exists_completion_of_parse {text : String} {e : SyntaxError}
    (h : parse text = .error (.invalid e)) :
    ∃ more c, parse (String.ofList ((chomp text.toList).take e.position ++ more)) = .ok c := by
  obtain ⟨before, done, rest, hb, hhalt, hs, hp⟩ := exists_halt_of_parse h
  have htake : (chomp text.toList).take e.position = before ++ done := by
    rw [hs, ← hp, List.take_left]
  obtain ⟨more, c, hok⟩ := hhalt.completed
  refine ⟨more, c, ?_⟩
  rw [htake, List.append_assoc]
  exact parse_of_command hb hok

/-- A blank too many in a command that a condition guards. -/
theorem exists_completion_of_parse_guarded :
    ∃ more c, parse (String.ofList ((chomp
      "execute if score a o <= b p run scoreboard players operation a o ><  b o".toList).take 68 ++
        more)) = .ok c :=
  exists_completion_of_parse (e := ⟨.extraWhitespace "b", 68⟩) (by decide +kernel)

end Scoreboard
