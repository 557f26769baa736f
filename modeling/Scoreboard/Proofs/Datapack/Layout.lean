import Scoreboard.Proofs.Command.Margins
import Scoreboard.Proofs.Command.RoundTrip
import Scoreboard.Proofs.Datapack.FunctionText

namespace Scoreboard

open Text Reader Parse

namespace Text

def IsPadding (s : List Char) : Prop :=
  ∀ c ∈ s, isBlank c = true ∧ isBreak c = false

theorem IsPadding.isBlank {s : List Char} (h : IsPadding s) : ∀ x ∈ s, isBlank x = true :=
  fun x hx => (h x hx).1

/-- What ends a line: a character that does, or a carriage return with the line feed after it. -/
def IsLineEnding (s : List Char) : Prop :=
  s = ['\r', '\n'] ∨ ∃ c, isBreak c = true ∧ s = [c]

theorem isBlank_of_isBreak {c : Char} (h : isBreak c = true) : isBlank c = true := by
  have hpoints : ∀ n ∈ points [(0xa, 0xd), (0x1c, 0x1e), (0x85, 0x85), (0x2028, 0x2029)],
      inRanges blankRanges n = true := by decide +kernel
  exact hpoints c.toNat (mem_points_of_inRanges h)

theorem isBreak_of_not_isBlank {c : Char} (h : isBlank c = false) : isBreak c = false := by
  cases hb : isBreak c with
  | false => rfl
  | true => exact (isBlank_of_isBreak hb).symm.trans h

theorem foldr_consHead (line first : List Char) (others : List (List Char)) :
    line.foldr consHead (first :: others) = (line ++ first) :: others := by
  induction line with
  | nil => rfl
  | cons c line ih => rw [List.foldr_cons, ih, consHead, List.cons_append]

theorem foldr_consHead_nil {line : List Char} (h : line ≠ []) :
    line.foldr consHead [] = [line] := by
  obtain ⟨init, c, rfl⟩ := List.eq_nil_or_concat line |>.resolve_left h
  rw [List.concat_eq_append, List.foldr_append, List.foldr_cons, List.foldr_nil, consHead,
    foldr_consHead]

theorem lines_append {line : List Char} (h : ∀ c ∈ line, isBreak c = false) (rest : List Char) :
    lines (line ++ rest) = line.foldr consHead (lines rest) := by
  induction line with
  | nil => rfl
  | cons c line ih =>
    rw [List.forall_mem_cons] at h
    have hc : c ≠ '\r' := by
      rintro rfl
      cases h.1
    rw [List.cons_append, lines_cons_of_ne hc, h.1, if_neg nofun, ih h.2, List.foldr_cons]

/-- A carriage return that a line feed comes after ends the same line as that does. -/
theorem lines_ending {ending : List Char} (h : IsLineEnding ending) (rest : List Char) :
    ∃ others, lines (ending ++ rest) = [] :: others ∧
      (lines rest = others ∨ lines rest = [] :: others) := by
  rcases h with rfl | ⟨c, hc, rfl⟩
  · exact ⟨lines rest, rfl, .inl rfl⟩
  · by_cases hcr : c = '\r'
    · subst hcr
      by_cases hfeed : ∃ s, rest = '\n' :: s
      · obtain ⟨s, rfl⟩ := hfeed
        refine ⟨lines s, rfl, .inr ?_⟩
        rw [lines_cons_of_ne (by decide)]
        rfl
      · exact ⟨lines rest, lines_carriage fun s hs => hfeed ⟨s, hs⟩, .inl rfl⟩
    · refine ⟨lines rest, ?_, .inl rfl⟩
      rw [List.singleton_append, lines_cons_of_ne hcr, hc, if_pos rfl]

variable {line : List Char}

theorem lines_line_ending (h : ∀ c ∈ line, isBreak c = false) {ending : List Char}
    (hending : IsLineEnding ending) (rest : List Char) :
    ∃ others, lines (line ++ ending ++ rest) = line :: others ∧
      (lines rest = others ∨ lines rest = [] :: others) := by
  obtain ⟨others, hlines, hrest⟩ := lines_ending hending rest
  refine ⟨others, ?_, hrest⟩
  rw [List.append_assoc, lines_append h, hlines, foldr_consHead, List.append_nil]

theorem lines_unended (h : ∀ c ∈ line, isBreak c = false) :
    lines line = if line = [] then [] else [line] := by
  have hlines := lines_append h []
  rw [List.append_nil, lines] at hlines
  split
  · next hempty => rw [hempty, lines]
  · next hne => rw [hlines, foldr_consHead_nil hne]

end Text

/-- No text between the quotation marks of the command ends a line. -/
def Command.OnOneLine (c : Command) : Prop :=
  ∀ quote ∈ c.quotes, ∀ x ∈ quote.toList, isBreak x = false

/-- What a line without its end holds: a command in its canonical text with blanks around it, or
none, being blank or a comment. -/
inductive LineHolds : List Char → Option Command → Prop
  | command {before after : List Char} {c : Command} {text : String} (hbefore : IsPadding before)
    (hc : c.render = .ok text) (hafter : IsPadding after) :
    LineHolds (before ++ text.toList ++ after) (some c)
  | blank {line : List Char} (h : IsPadding line) : LineHolds line none
  | comment {before rest : List Char} (hbefore : IsPadding before)
    (hrest : ∀ x ∈ rest, isBreak x = false) : LineHolds (before ++ '#' :: rest) none

/-- The commands that a text holds, line by line. The last line need not be ended. -/
inductive LaysOut : List Char → List Command → Prop
  | last {line : List Char} {held : Option Command} (h : LineHolds line held) :
    LaysOut line held.toList
  | line {line ending rest : List Char} {held : Option Command} {commands : List Command}
    (h : LineHolds line held) (hending : IsLineEnding ending) (hrest : LaysOut rest commands) :
    LaysOut (line ++ ending ++ rest) (held.toList ++ commands)

section Rendered

variable {c : Command} {text : String}

theorem isBreak_of_render (h : c.WellFormed) (hline : c.OnOneLine) (hr : c.render = .ok text) :
    ∀ x ∈ text.toList, isBreak x = false := by
  rw [render_eq_ok h] at hr
  rw [← Except.ok.inj hr, String.toList_ofList]
  intro x hx
  -- such a character is the space between two tokens, or stands in one of them
  have htokens := unbroken_or_quoted_of_written (written_canonical h)
  obtain ⟨t, ht, hmem⟩ : ∃ t ∈ c.slots.map Slot.canonical, x ∈ ' ' :: t := by
    have hled : x ∈ led (c.slots.map Slot.canonical) := by
      rw [led_eq_space_spaced (by simpa using slots_ne_nil h)]
      exact List.mem_cons_of_mem _ hx
    exact List.mem_flatMap.1 hled
  rcases List.mem_cons.1 hmem with rfl | hmem
  · rfl
  · rcases htokens t ht with hu | ⟨quote, hquote, rfl⟩
    · exact isBreak_of_not_isBlank (hu.2 x hmem)
    · simp only [quotedToken, List.cons_append, List.mem_cons, List.mem_append, List.not_mem_nil,
        or_false] at hmem
      rcases hmem with rfl | hmem | rfl
      · rfl
      · exact hline quote hquote x hmem
      · rfl

theorem solid_render (h : c.WellFormed) (hr : c.render = .ok text) : Solid text.toList := by
  rw [render_eq_ok h] at hr
  rw [← Except.ok.inj hr, String.toList_ofList]
  exact ⟨atGap_spaced_of_written (written_canonical h), atGap_spaced_reverse (written_canonical h)⟩

end Rendered

theorem isCommandLine_congr {line line' : String} (h : trim line.toList = trim line'.toList) :
    isCommandLine line = isCommandLine line' := by
  rw [isCommandLine, isCommandLine, h]

namespace LineHolds

variable {line : List Char}

theorem unbroken {held : Option Command} (h : LineHolds line held)
    (hheld : ∀ c ∈ held, c.WellFormed ∧ c.OnOneLine) : ∀ x ∈ line, isBreak x = false := by
  cases h with
  | command hbefore hc hafter =>
    obtain ⟨hwf, hline⟩ := hheld _ rfl
    simp only [List.forall_mem_append]
    exact ⟨⟨fun x hx => (hbefore x hx).2, isBreak_of_render hwf hline hc⟩,
      fun x hx => (hafter x hx).2⟩
  | blank h => exact fun x hx => (h x hx).2
  | comment hbefore hrest =>
    simp only [List.forall_mem_append, List.forall_mem_cons]
    exact ⟨fun x hx => (hbefore x hx).2, rfl, hrest⟩

theorem isCommandLine_eq_false (h : LineHolds line none) :
    isCommandLine (String.ofList line) = false := by
  cases h with
  | blank h =>
    have htrim : trim line = [] := by
      rw [trim, List.dropWhile_eq_nil_iff.2 h.isBlank]
      rfl
    rw [isCommandLine, String.toList_ofList, htrim]
  | @comment before rest hbefore hrest =>
    -- what the blanks behind leave of a comment begins as the comment does
    have hdrop : (before ++ '#' :: rest).dropWhile isBlank = '#' :: rest :=
      dropWhile_append_of_head hbefore.isBlank (by simp; decide)
    rw [isCommandLine, String.toList_ofList, trim, hdrop]
    split
    · rfl
    · next c after htail =>
      have hc : c = '#' := by
        have hprefix := dropTail_isPrefix isBlank ('#' :: rest)
        rw [htail] at hprefix
        exact (List.cons_prefix_cons.1 hprefix).1
      rw [hc]
      rfl

theorem parse_trimmed {c : Command} (h : LineHolds line (some c)) (hc : c.WellFormed) :
    isCommandLine (String.ofList line) = true ∧ parse (trimmed (String.ofList line)) = .ok c := by
  cases h with
  | @command before after _ text hbefore hr hafter =>
    have hparse := parse_of_render hc hr
    have hsolid := solid_render hc hr
    have htrim : trim (before ++ text.toList ++ after) = text.toList :=
      trim_append hbefore.isBlank hsolid hafter.isBlank
    have hself : trim text.toList = text.toList := by
      simpa using trim_append (List.forall_mem_nil _) hsolid (List.forall_mem_nil _)
    constructor
    · have hline :
          isCommandLine (String.ofList (before ++ text.toList ++ after)) = isCommandLine text :=
        isCommandLine_congr (by rw [String.toList_ofList, htrim, hself])
      exact hline.trans (isCommandLine_of_parse hparse)
    · rw [trimmed, String.toList_ofList, htrim, String.ofList_toList]
      exact hparse

theorem linesHold_cons {held : Option Command} (h : LineHolds line held)
    (hheld : ∀ c ∈ held, c.WellFormed) {rest : List String} {commands : List Command}
    (hrest : LinesHold rest commands) :
    LinesHold (String.ofList line :: rest) (held.toList ++ commands) := by
  cases held with
  | none => exact (linesHold_cons_of_not_isCommandLine h.isCommandLine_eq_false).2 hrest
  | some c =>
    obtain ⟨hline, hparse⟩ := h.parse_trimmed (hheld c rfl)
    exact (linesHold_cons_of_parse hline hparse).2 hrest

end LineHolds

theorem linesHold_of_laysOut {text : List Char} {commands : List Command}
    (h : LaysOut text commands)
    (hc : ∀ c ∈ commands, c.WellFormed ∧ c.OnOneLine) :
    LinesHold ((lines text).map String.ofList) commands := by
  induction h with
  | @last line held h =>
    have hheld : ∀ c ∈ held, c.WellFormed ∧ c.OnOneLine := fun c hm => hc c (by simpa using hm)
    have hline := h.linesHold_cons (fun c hm => (hheld c hm).1) linesHold_nil
    rw [List.append_nil] at hline
    rw [lines_unended (h.unbroken hheld)]
    split
    · next hempty =>
      -- the empty line holds no command, so it may as well not be there
      cases held with
      | none => exact linesHold_nil
      | some c =>
        rw [hempty] at h
        cases (h.parse_trimmed (hheld c rfl).1).1
    · exact hline
  | @line line ending rest held commands h hending hrest ih =>
    rw [List.forall_mem_append] at hc
    have hheld : ∀ c ∈ held, c.WellFormed ∧ c.OnOneLine := fun c hm => hc.1 c (by simpa using hm)
    obtain ⟨others, hlines, hcases⟩ := lines_line_ending (h.unbroken hheld) hending rest
    have hothers : LinesHold (others.map String.ofList) commands := by
      have hrest := ih hc.2
      rcases hcases with heq | heq
      · rwa [heq] at hrest
      · rw [heq, List.map_cons] at hrest
        exact (linesHold_cons_of_not_isCommandLine rfl).1 hrest
    rw [hlines, List.map_cons]
    exact h.linesHold_cons (fun c hm => (hheld c hm).1) hothers

/-- Commands that are laid out as a text are what the function of that text consists of. -/
theorem ofText_of_laysOut (id : FunctionId) {text : String} {commands : List Command}
    (hc : ∀ c ∈ commands, c.WellFormed ∧ c.OnOneLine) (h : LaysOut text.toList commands) :
    Function.ofText id text = .ok ⟨id, commands⟩ := by
  refine Function.ofText_eq_ok_iff.2 ⟨rfl, ?_⟩
  exact commandsOfLines_of_linesHold (linesHold_of_laysOut h hc) id 1

def greeting : List Command := [
  .tellraw (.player "Ada") "# 1: hi ",
  .execute (.inside (.selector .a) "deaths" (.atMost (-5))) (.function ⟨"main", some "p"⟩)]

/-- The greeting with a comment in front, empty lines and blanks of several kinds. -/
theorem ofText_of_laysOut_greeting :
    (∀ c ∈ greeting, c.WellFormed ∧ c.OnOneLine) ∧
      Function.ofText ⟨"greeting", none⟩ ("\t#\u001f\r\n\n\rtellraw Ada \"# 1: hi \"\u00a0\r" ++
        "  execute if score @a deaths matches ..-5 run function p:main") =
          .ok ⟨⟨"greeting", none⟩, greeting⟩ := by
  have hsayRead : parse "tellraw Ada \"# 1: hi \"" = .ok greeting[0] := by decide +kernel
  have hcallRead : parse "execute if score @a deaths matches ..-5 run function p:main" =
      .ok greeting[1] := by decide +kernel
  have hmessage : "# 1: hi ".toList.all (fun x => !isBreak x) = true := by decide +kernel
  have hc : ∀ c ∈ greeting, c.WellFormed ∧ c.OnOneLine := by
    refine List.forall_mem_cons.2 ⟨⟨wellFormed_of_parse hsayRead, ?_⟩,
      List.forall_mem_singleton.2 ⟨wellFormed_of_parse hcallRead, List.forall_mem_nil _⟩⟩
    exact List.forall_mem_singleton.2 fun x hx => by simpa using List.all_eq_true.1 hmessage x hx
  have hpadding : IsPadding ['\t'] ∧ IsPadding [' ', ' '] ∧ IsPadding ['\u00a0'] := by
    simp only [IsPadding, List.forall_mem_cons, List.not_mem_nil, IsEmpty.forall_iff, implies_true,
      and_true]
    decide
  have hempty : IsPadding [] := List.forall_mem_nil _
  have hsay : greeting[0].render = .ok "tellraw Ada \"# 1: hi \"" := by decide +kernel
  have hcall : greeting[1].render =
      .ok "execute if score @a deaths matches ..-5 run function p:main" := by decide +kernel
  have hcomment : LineHolds (['\t'] ++ '#' :: ['\u001f']) none :=
    .comment hpadding.1 (List.forall_mem_singleton.2 rfl)
  have hcommands := (LaysOut.last (.command hpadding.2.1 hcall hempty)).line
    (.command hempty hsay hpadding.2.2) (.inr ⟨'\r', rfl, rfl⟩)
  have htext := LaysOut.line hcomment (.inl rfl)
    (.line (.blank hempty) (.inr ⟨'\n', rfl, rfl⟩)
      (.line (.blank hempty) (.inr ⟨'\r', rfl, rfl⟩) hcommands))
  exact ⟨hc, ofText_of_laysOut _ hc (by simpa [greeting] using htext)⟩

end Scoreboard
