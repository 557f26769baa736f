import Scoreboard.Datapack.FunctionText

namespace Scoreboard

namespace Text

theorem lines_carriage {s : List Char} (h : ∀ t, s ≠ '\n' :: t) :
    lines ('\r' :: s) = [] :: lines s := by
  rw [lines.eq_3 _ _ fun t _ ht => h t ht]
  rfl

theorem lines_cons_of_ne {c : Char} (h : c ≠ '\r') (s : List Char) :
    lines (c :: s) = if isBreak c then [] :: lines s else consHead c (lines s) :=
  lines.eq_3 _ _ fun _ hc _ => h hc

/-- A file has the same lines whether or not its line ends are read as line feeds. -/
theorem lines_unifyLineEnds (s : List Char) : lines (unifyLineEnds s) = lines s := by
  fun_induction unifyLineEnds s with
  | case1 => rfl
  | case2 s ih =>
    rw [lines_cons_of_ne (by decide), ih, lines]
    rfl
  | case3 s hs ih =>
    rw [lines_cons_of_ne (by decide), ih, lines_carriage hs]
    rfl
  | case4 c s _ hc ih =>
    rw [lines_cons_of_ne hc, lines_cons_of_ne hc, ih]

theorem fileLines_unifyLineEnds (text : String) :
    fileLines (String.ofList (unifyLineEnds text.toList)) = fileLines text := by
  rw [fileLines, String.toList_ofList, lines_unifyLineEnds]
  rfl

end Text

open Text

/-- The commands of some lines, in order. Lines without a command are passed over. -/
def LinesHold (lines : List String) (commands : List Command) : Prop :=
  (lines.filter isCommandLine).map (fun line => parse (trimmed line)) = commands.map Except.ok

/-- The first line with a command that cannot be read stands after `place` others. -/
def FirstUnreadable (lines : List String) (place : Nat) (cause : ParseError) : Prop :=
  ∃ before line after commands, lines = before ++ line :: after ∧ before.length = place ∧
    LinesHold before commands ∧ isCommandLine line = true ∧ parse (trimmed line) = .error cause

def LoadError.ofLine (id : FunctionId) (number : Nat) : ParseError → LoadError
  | .invalid e => .badLine id number e
  | .numeralTooLong => .numeralTooLong

theorem linesHold_nil : LinesHold [] [] :=
  rfl

section

variable {line : String} {rest : List String}

theorem linesHold_cons_of_parse {c : Command} (hline : isCommandLine line = true)
    (hc : parse (trimmed line) = .ok c) {commands : List Command} :
    LinesHold (line :: rest) (c :: commands) ↔ LinesHold rest commands := by
  rw [LinesHold, List.filter_cons_of_pos hline, List.map_cons, hc, List.map_cons, List.cons.injEq,
    and_iff_right rfl, LinesHold]

theorem linesHold_cons_of_not_isCommandLine (hline : isCommandLine line = false)
    {commands : List Command} : LinesHold (line :: rest) commands ↔ LinesHold rest commands := by
  rw [LinesHold, List.filter_cons_of_neg (by simp [hline]), LinesHold]

theorem FirstUnreadable.head {cause : ParseError} (hline : isCommandLine line = true)
    (hc : parse (trimmed line) = .error cause) : FirstUnreadable (line :: rest) 0 cause :=
  ⟨[], line, rest, [], rfl, rfl, linesHold_nil, hline, hc⟩

theorem FirstUnreadable.cons {place : Nat} {cause : ParseError}
    (h : FirstUnreadable rest place cause)
    (hline : isCommandLine line = true → ∃ c, parse (trimmed line) = .ok c) :
    FirstUnreadable (line :: rest) (place + 1) cause := by
  obtain ⟨before, bad, after, commands, rfl, rfl, hbefore, hbad, hcause⟩ := h
  cases hl : isCommandLine line with
  | false =>
    exact ⟨line :: before, bad, after, commands, rfl, rfl,
      (linesHold_cons_of_not_isCommandLine hl).2 hbefore, hbad, hcause⟩
  | true =>
    obtain ⟨c, hc⟩ := hline hl
    exact ⟨line :: before, bad, after, c :: commands, rfl, rfl,
      (linesHold_cons_of_parse hl hc).2 hbefore, hbad, hcause⟩

end

theorem linesHold_of_commandsOfLines {id : FunctionId} {number : Nat} {lines : List String}
    {commands : List Command} (h : commandsOfLines id number lines = .ok commands) :
    LinesHold lines commands := by
  induction lines generalizing number commands with
  | nil =>
    cases h
    exact linesHold_nil
  | cons line rest ih =>
    rw [commandsOfLines] at h
    split at h
    · next hline =>
      split at h
      · cases h
      · cases h
      · next c hc =>
        cases hothers : commandsOfLines id (number + 1) rest with
        | error e =>
          rw [hothers] at h
          cases h
        | ok others =>
          rw [hothers] at h
          cases h
          exact (linesHold_cons_of_parse hline hc).2 (ih hothers)
    · next hline =>
      exact (linesHold_cons_of_not_isCommandLine (by simpa using hline)).2 (ih h)

theorem firstUnreadable_of_commandsOfLines {id : FunctionId} {number : Nat} {lines : List String}
    {e : LoadError} (h : commandsOfLines id number lines = .error e) :
    ∃ place cause, FirstUnreadable lines place cause ∧ e = .ofLine id (number + place) cause := by
  induction lines generalizing number with
  | nil => cases h
  | cons line rest ih =>
    -- the first of the rest stands one place further on, and numbers count on with it
    have hlater : commandsOfLines id (number + 1) rest = .error e →
        (isCommandLine line = true → ∃ c, parse (trimmed line) = .ok c) →
        ∃ place cause, FirstUnreadable (line :: rest) place cause ∧
          e = .ofLine id (number + place) cause := by
      intro hrest hline
      obtain ⟨place, cause, hfirst, rfl⟩ := ih hrest
      exact ⟨place + 1, cause, hfirst.cons hline, by rw [Nat.add_right_comm, Nat.add_assoc]⟩
    rw [commandsOfLines] at h
    split at h
    · next hline =>
      split at h
      · next cause hc =>
        cases h
        exact ⟨0, .invalid cause, .head hline hc, rfl⟩
      · next hc =>
        cases h
        exact ⟨0, .numeralTooLong, .head hline hc, rfl⟩
      · next c hc =>
        cases hothers : commandsOfLines id (number + 1) rest with
        | error e' =>
          rw [hothers] at h
          cases h
          exact hlater hothers fun _ => ⟨c, hc⟩
        | ok others =>
          rw [hothers] at h
          cases h
    · next hline =>
      exact hlater h fun hl => absurd hl hline

theorem commandsOfLines_of_linesHold {lines : List String} {commands : List Command}
    (h : LinesHold lines commands) (id : FunctionId) (number : Nat) :
    commandsOfLines id number lines = .ok commands := by
  cases hc : commandsOfLines id number lines with
  | ok held =>
    have hheld : held.map Except.ok = commands.map Except.ok :=
      (linesHold_of_commandsOfLines hc).symm.trans h
    rw [(List.map_inj_right fun _ _ => Except.ok.inj).1 hheld]
  | error e =>
    -- the line that is to blame is among those that hold the commands
    obtain ⟨place, cause, ⟨before, line, after, _, rfl, -, -, hline, hcause⟩, -⟩ :=
      firstUnreadable_of_commandsOfLines hc
    have hmem : parse (Text.trimmed line) ∈ commands.map (Except.ok (ε := ParseError)) := by
      rw [← h]
      exact List.mem_map_of_mem (List.mem_filter.2 ⟨by simp, hline⟩)
    rw [hcause] at hmem
    simp at hmem

namespace Function

theorem ofText_congr_of_fileLines {text text' : String} (h : fileLines text = fileLines text')
    (id : FunctionId) : ofText id text = ofText id text' := by
  rw [ofText, ofText, h]

theorem ofText_eq_ok_iff {id : FunctionId} {text : String} {f : Function} :
    ofText id text = .ok f ↔
      f.id = id ∧ commandsOfLines id 1 (fileLines text) = .ok f.commands := by
  rcases f with ⟨id', commands'⟩
  rw [ofText]
  cases commandsOfLines id 1 (fileLines text) with
  | error e => simp [Except.map]
  | ok commands => simp [Except.map, eq_comm]

/-- A function that is read has its name and the commands of its text. -/
theorem linesHold_of_ofText {id : FunctionId} {text : String} {f : Function}
    (h : ofText id text = .ok f) : f.id = id ∧ LinesHold (fileLines text) f.commands :=
  (ofText_eq_ok_iff.1 h).imp_right linesHold_of_commandsOfLines

/-- A function that is not read is reported with the first line that cannot be, counted from one. -/
theorem firstUnreadable_of_ofText {id : FunctionId} {text : String} {e : LoadError}
    (h : ofText id text = .error e) :
    ∃ place cause, FirstUnreadable (fileLines text) place cause ∧
      e = .ofLine id (place + 1) cause := by
  rw [ofText] at h
  cases hc : commandsOfLines id 1 (fileLines text) with
  | error e' =>
    rw [hc] at h
    cases h
    obtain ⟨place, cause, hfirst, rfl⟩ := firstUnreadable_of_commandsOfLines hc
    exact ⟨place, cause, hfirst, by rw [Nat.add_comm]⟩
  | ok commands =>
    rw [hc] at h
    cases h

end Function

end Scoreboard
