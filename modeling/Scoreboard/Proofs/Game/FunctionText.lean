import Scoreboard.Game.Session
import Scoreboard.Proofs.Command.Margins
import Scoreboard.Proofs.Datapack.FunctionText
import Scoreboard.Proofs.Game.DepthLimit

namespace Scoreboard

open Text

theorem exists_solid_of_isCommandLine {line : String} (h : isCommandLine line = true) :
    ∃ x ∈ line.toList, isBlank x = false := by
  by_contra hnone
  have hall : ∀ x ∈ line.toList, isBlank x = true := by simpa using hnone
  have hdrop : line.toList.dropWhile isBlank = [] := List.dropWhile_eq_nil_iff.2 hall
  simp [isCommandLine, trim, hdrop, dropTail] at h

/-- Blanks in front of a command do not matter to those who read the line as it is. -/
theorem parse_of_parse_trimmed {line : String} {c : Command} (hline : isCommandLine line = true)
    (hend : trailing line.toList = []) (h : parse (trimmed line) = .ok c) : parse line = .ok c := by
  rw [parse_eq_shift_of_lineEnds (exists_solid_of_isCommandLine hline) (by simp [hend]), h]
  rfl

theorem commandsOfLines_of_ofText {id : FunctionId} {text : String} {f : Function}
    (h : Function.ofText id text = .ok f) :
    commandsOfLines id 1 (fileLines text) = .ok f.commands :=
  (Function.ofText_eq_ok_iff.1 h).2

namespace Event

variable (kind : String) (id : FunctionId) (events : List Event)

theorem log_called : log ([executed kind] ++ ([entered id] ++ events ++ [left])) = log events := by
  rw [log_append, log_append, log_append]
  exact List.append_nil (log events)

theorem chat_called :
    chat ([executed kind] ++ ([entered id] ++ events ++ [left])) = chat events := by
  rw [chat_append, chat_append, chat_append]
  exact List.append_nil (chat events)

end Event

/-- What a run of commands is to those who play them from lines. -/
def Outcome.played (o : Outcome) (commands : List Command) : Played (List Command) :=
  ⟨o.state, o.events,
    match o.fault with
    | none => .ok commands
    | some f => .error (.fault f)⟩

namespace Rules

variable {rules : Rules} {line : String} {c : Command}

theorem runLine_of_parse (h : parse line = .ok c) (s : State) :
    rules.runLine line s = ⟨(c.run rules s).state, (c.run rules s).events,
      match (c.run rules s).fault with
      | none => .ok (some c)
      | some f => .error (.fault f)⟩ := by
  rw [runLine, if_pos (isCommandLine_of_parse h), h]
  cases hf : (c.run rules s).fault <;> simp [hf]

theorem runLines_cons_of_parse (h : parse line = .ok c) {rest : List String}
    {commands : List Command} {s : State}
    (hrest : ∀ s, rules.runLines rest s = (runAll (Command.run rules) commands s).played commands) :
    rules.runLines (line :: rest) s =
      (runAll (Command.run rules) (c :: commands) s).played (c :: commands) := by
  rw [runLines, runLine_of_parse h, runAll, Outcome.andThen]
  cases hf : (c.run rules s).fault with
  | some f => simp [Outcome.played, hf]
  | none =>
    simp only [hrest, Outcome.played]
    cases (runAll (Command.run rules) commands (c.run rules s).state).fault <;> rfl

theorem runLines_cons_of_not_isCommandLine (h : isCommandLine line = false) (rest : List String)
    (s : State) : rules.runLines (line :: rest) s = rules.runLines rest s := by
  have hline : rules.runLine line s = ⟨s, [], .ok none⟩ := by simp [runLine, h]
  simp only [runLines, hline]
  rcases rules.runLines rest s with ⟨state, events, _ | commands⟩ <;> rfl

/-- Lines that give the commands of a function are played as those commands are run. -/
theorem runLines_eq_runAll {id : FunctionId} {number : Nat} {lines : List String}
    {commands : List Command} (h : commandsOfLines id number lines = .ok commands)
    (hend : ∀ line ∈ lines, trailing line.toList = []) (s : State) :
    rules.runLines lines s = (runAll (Command.run rules) commands s).played commands := by
  induction lines generalizing number commands s with
  | nil =>
    cases h
    rfl
  | cons line rest ih =>
    rw [List.forall_mem_cons] at hend
    rw [commandsOfLines] at h
    split at h
    · next hline =>
      split at h
      · cases h
      · cases h
      · next c hc =>
        cases hothers : commandsOfLines id (number + 1) rest with
        | error e =>
          rw [hothers] at h
          cases h
        | ok others =>
          rw [hothers] at h
          cases h
          exact runLines_cons_of_parse (parse_of_parse_trimmed hline hend.1 hc) (ih hothers hend.2)
    · next hline =>
      rw [runLines_cons_of_not_isCommandLine (by simpa using hline)]
      exact ih h hend.2 s

/-- Within the limit a call runs the commands of the function between its entry and its exit, as if
they had not been called. -/
theorem call_eq_runAll {pack : Datapack} {f : Function} {id : FunctionId} {s : State}
    (hpack : rules.datapack = some pack) (hfind : pack.find? id = some f)
    (h : (rules.call rules.maxDepth.toNat id s).WithinDepth) :
    rules.call rules.maxDepth.toNat id s =
      ((runAll (Command.run rules) f.commands s).preceded [.entered id]).followed [.left] := by
  have hwith : ∀ next, rules.withFunction id s next = next f := by
    intro next
    simp [withFunction, hpack, hfind]
  cases hlimit : rules.maxDepth.toNat with
  | zero =>
    rw [hlimit, call, hwith] at h
    exact absurd h (Outcome.not_withinDepth_depthExceeded rules id s)
  | succ left =>
    rw [hlimit, call, hwith] at h
    rw [call, hwith]
    -- commands that are not called have one more call to nest, and these never needed it
    have hcall : ∀ id s, (rules.call left id s).WithinDepth →
        rules.call rules.maxDepth.toNat id s = rules.call left id s := by
      intro id s hd
      rw [hlimit]
      exact call_eq_of_withinDepth rfl (Nat.le_succ left) hd
    have hbody : runAll (Command.run rules) f.commands s =
        runAll (Command.runWith (rules.call left)) f.commands s :=
      runAll_eq_of_withinDepth (fun _ _ => runWith_eq_of_withinDepth hcall)
        h.of_followed.of_preceded
    rw [hbody]

end Rules

end Scoreboard
