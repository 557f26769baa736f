import Scoreboard.Command.Basic
import Scoreboard.Command.Reader

namespace Scoreboard

open Text Reader

namespace Parse

def objective : Reader String :=
  word "an objective name"

def selectors : List (String × Selector) :=
  Selector.all.map fun v => (v.symbol, v)

def target : Reader Target := fun s =>
  match s with
  | '@' :: _ => (Target.selector <$> symbol "a selector" "selector" selectors) s
  | _ => (Target.player <$> word "a player name or selector") s

def addObjective : Reader ObjectivesCommand := do
  space
  let name ← objective
  space
  let criteria ← keyword "criteria" (Criteria.all.map fun c => (c.word, c))
  let displayName ← endOr quotedString
  return .add name criteria displayName

def modification : Reader Modification :=
  branch "objective property" [
    ("displayname", do space; return .displayName (← quotedString)),
    ("rendertype", do
      space
      return .renderType (← keyword "render type" (RenderType.all.map fun t => (t.word, t))))]

def modifyObjective : Reader ObjectivesCommand := do
  space
  let name ← objective
  space
  return .modify name (← modification)

def removeObjective : Reader ObjectivesCommand := do
  space
  return .remove (← objective)

def setDisplay : Reader ObjectivesCommand := do
  space
  let slot ← keyword "display slot" (DisplaySlot.all.map fun slot => (slot.word, slot))
  space
  return .setDisplay slot (← objective)

def objectivesCommand : Reader ObjectivesCommand :=
  branch "objectives subcommand" [
    ("add", addObjective),
    ("list", pure .list),
    ("modify", modifyObjective),
    ("remove", removeObjective),
    ("setdisplay", setDisplay)]

def cell : Reader (Target × String) := do
  space
  let who ← target
  space
  return (who, ← objective)

def operations : List (String × Operation) :=
  Operation.all.map fun op => (op.symbol, op)

def operation : Reader PlayersCommand := do
  let left ← cell
  space
  let op ← symbol "an operation" "operation" operations
  let right ← cell
  return .operation left.1 left.2 op right.1 right.2

def addScore : Reader PlayersCommand := do
  let place ← cell
  space
  return .add place.1 place.2 (← naturalInteger)

def removeScore : Reader PlayersCommand := do
  let place ← cell
  space
  return .remove place.1 place.2 (← naturalInteger)

def setScore : Reader PlayersCommand := do
  let place ← cell
  space
  return .set place.1 place.2 (← signedInteger)

def playersCommand : Reader PlayersCommand :=
  branch "players subcommand" [
    ("add", addScore),
    ("enable", (fun place => .enable place.1 place.2) <$> cell),
    ("get", (fun place => .get place.1 place.2) <$> cell),
    ("list", PlayersCommand.list <$> endOr target),
    ("operation", operation),
    ("remove", removeScore),
    ("reset", (fun place => .reset place.1 place.2) <$> cell),
    ("set", setScore)]

def scoreboard : Reader Command :=
  branch "scoreboard subcommand" [
    ("objectives", do space; return .objectives (← objectivesCommand)),
    ("players", do space; return .players (← playersCommand))]

/-- What follows the first part of a function's name: a colon and the second part, if any. -/
def functionTail (first : String) : Reader FunctionId := fun s =>
  match s with
  | ':' :: rest => (do return ⟨← word "a function name", some first⟩ : Reader FunctionId) rest
  | _ => .ok (⟨first, none⟩, s)

def functionId : Reader FunctionId := do
  let first ← word "a function name"
  functionTail first

def tellraw : Reader Command := do
  let who ← target
  space
  return .tellraw who (← quotedString)

def atGap : List Char → Bool
  | [] => true
  | c :: _ => isBlank c

/-- What follows an integer in an interval: two dots and the upper bound, two dots alone, or
neither. -/
def intervalTail (minimum : Int) : Reader Interval := fun s =>
  match s with
  | '.' :: '.' :: rest =>
    if atGap rest then .ok (.atLeast minimum, rest)
    else (Interval.between minimum <$> signedInteger) rest
  | _ => .ok (.exactly minimum, s)

def interval : Reader Interval := fun s =>
  match s with
  | '.' :: '.' :: rest =>
    if atGap rest then .error (.failed .invalidInterval s)
    else (Interval.atMost <$> signedInteger) rest
  | _ => (do let minimum ← signedInteger; intervalTail minimum : Reader Interval) s

def compared (left : Target × String) (relation : Comparison) : Reader Condition := do
  let right ← cell
  return .compare left.1 left.2 relation right.1 right.2

def inside (place : Target × String) : Reader Condition := do
  space
  return .inside place.1 place.2 (← interval)

/-- The tests that a condition can end in, by the symbols that begin them. -/
def tests (place : Target × String) : List (String × Reader Condition) :=
  (Comparison.all.map fun relation => (relation.symbol, compared place relation)) ++
    [("matches", inside place)]

def condition : Reader Condition := do
  keyword "execute subcommand" [("if", ())]
  space
  keyword "condition" [("score", ())]
  let place ← cell
  space
  let test ← symbol "a comparison" "comparison" (tests place)
  test

def guard : Reader Condition := do
  let c ← condition
  space
  keyword "keyword" [("run", ())]
  space
  return c

/-- The names of the commands, each with what follows it: the rest of the command, or a condition
that another command follows. -/
def commands : List (String × Reader (Command ⊕ Condition)) := [
  ("scoreboard", Sum.inl <$> scoreboard),
  ("function", (fun id => .inl (.function id)) <$> functionId),
  ("execute", Sum.inr <$> guard),
  ("tellraw", Sum.inl <$> tellraw)]

def commandName : Reader (Reader (Command ⊕ Condition)) := fun s =>
  match word "a command" s with
  | .error stop => .error stop
  | .ok (name, rest) =>
    match commands.lookup name with
    | some reader => .ok (reader, rest)
    | none => .error (.failed (.unknownCommand name) s)

/-- A command, or as much of it as comes before the command that it guards. -/
def opening : Reader (Command ⊕ Condition) := do
  let reader ← commandName
  space
  reader

theorem leavesSuffix_target : LeavesSuffix target := by
  intro s rest a h
  unfold target at h
  split at h
  · exact ((leavesSuffix_symbol _ _ _).map _) h
  · exact ((leavesSuffix_run _ _).map _) h

theorem leavesSuffix_cell : LeavesSuffix cell :=
  leavesSuffix_space.bind fun _ => leavesSuffix_target.bind fun _ =>
    leavesSuffix_space.bind fun _ => (leavesSuffix_run _ _).bind fun _ => leavesSuffix_pure _

theorem leavesSuffix_intervalTail (minimum : Int) : LeavesSuffix (intervalTail minimum) := by
  intro s rest a h
  unfold intervalTail at h
  split at h
  · next after =>
    have ht : after <:+ '.' :: '.' :: after := ⟨['.', '.'], rfl⟩
    split at h
    · cases h
      exact ht
    · exact ((leavesSuffix_signedInteger.map _) h).trans ht
  · cases h
    exact List.suffix_refl _

theorem leavesSuffix_interval : LeavesSuffix interval := by
  intro s rest a h
  unfold interval at h
  split at h
  · next after =>
    have ht : after <:+ '.' :: '.' :: after := ⟨['.', '.'], rfl⟩
    split at h
    · cases h
    · exact ((leavesSuffix_signedInteger.map _) h).trans ht
  · exact (leavesSuffix_signedInteger.bind fun _ => leavesSuffix_intervalTail _) h

theorem leavesSuffix_of_mem_tests {place : Target × String} {test : String × Reader Condition}
    (h : test ∈ tests place) : LeavesSuffix test.2 := by
  rcases List.mem_append.1 h with h | h
  · obtain ⟨relation, -, rfl⟩ := List.mem_map.1 h
    exact leavesSuffix_cell.bind fun _ => leavesSuffix_pure _
  · cases List.mem_singleton.1 h
    exact leavesSuffix_space.bind fun _ => leavesSuffix_interval.bind fun _ => leavesSuffix_pure _

theorem leavesSuffix_condition : LeavesSuffix condition := by
  refine (leavesSuffix_keyword _ _).bind fun _ => leavesSuffix_space.bind fun _ =>
    (leavesSuffix_keyword _ _).bind fun _ => leavesSuffix_cell.bind fun place =>
    leavesSuffix_space.bind fun _ => ?_
  intro s rest a h
  obtain ⟨test, mid, h₁, h₂⟩ := bind_eq_ok h
  obtain ⟨found, hr, hl⟩ := choose_eq_ok h₁
  exact (leavesSuffix_of_mem_tests (mem_of_lookup_eq_some hl) h₂).trans (leavesSuffix_run _ _ hr)

theorem leavesSuffix_guard : LeavesSuffix guard :=
  leavesSuffix_condition.bind fun _ => leavesSuffix_space.bind fun _ =>
    (leavesSuffix_keyword _ _).bind fun _ => leavesSuffix_space.bind fun _ => leavesSuffix_pure _

theorem commandName_eq_ok {s rest : List Char} {reader : Reader (Command ⊕ Condition)}
    (h : commandName s = .ok (reader, rest)) :
    ∃ name, word "a command" s = .ok (name, rest) ∧ commands.lookup name = some reader := by
  unfold commandName at h
  split at h
  · cases h
  · split at h
    · cases h
      exact ⟨_, by assumption, by assumption⟩
    · cases h

/-- The command that a condition guards is shorter than the text with the condition. -/
theorem length_lt_of_opening {s rest : List Char} {c : Condition}
    (h : opening s = .ok (.inr c, rest)) : rest.length < s.length := by
  obtain ⟨reader, mid, h₁, h₂⟩ := bind_eq_ok h
  obtain ⟨u, mid', h₂, h₃⟩ := bind_eq_ok h₂
  obtain ⟨name, hw, hl⟩ := commandName_eq_ok h₁
  obtain ⟨hs, hne, -⟩ := run_eq_ok hw
  have hmid : mid'.length ≤ mid.length := (leavesSuffix_space h₂).length_le
  have hpos : 0 < name.toList.length := List.length_pos_iff.2 hne
  have hrest : rest.length ≤ mid'.length := by
    have hm := mem_of_lookup_eq_some hl
    simp only [commands, List.mem_cons, Prod.mk.injEq, List.not_mem_nil, or_false] at hm
    rcases hm with ⟨-, rfl⟩ | ⟨-, rfl⟩ | ⟨-, rfl⟩ | ⟨-, rfl⟩
    · obtain ⟨_, _, _, hp⟩ := bind_eq_ok h₃
      cases hp
    · obtain ⟨_, _, _, hp⟩ := bind_eq_ok h₃
      cases hp
    · exact ((leavesSuffix_guard.map _) h₃).length_le
    · obtain ⟨_, _, _, hp⟩ := bind_eq_ok h₃
      cases hp
  rw [hs, List.length_append]
  omega

/-- A command at the beginning of a text, and the text after it. -/
def command (s : List Char) : Except Stop (Command × List Char) :=
  match h : opening s with
  | .error stop => .error stop
  | .ok (.inl c, rest) => .ok (c, rest)
  | .ok (.inr condition, rest) =>
    have : rest.length < s.length := length_lt_of_opening h
    match command rest with
    | .error stop => .error stop
    | .ok (c, after) => .ok (.execute condition c, after)
termination_by s.length

def whole (s : List Char) : Except Stop Command :=
  match command s with
  | .error stop => .error stop
  | .ok (c, []) => .ok c
  | .ok (_, rest) =>
    if rest.all isBlank then .error (.failed .trailingWhitespace rest)
    else .error (.failed (.trailingCharacters (String.ofList rest)) rest)

end Parse

def Stop.toError (length : Nat) : Stop → ParseError
  | failed cause rest => .invalid ⟨cause, length - rest.length⟩
  | numeralTooLong => .numeralTooLong

def parse (text : String) : Except ParseError Command :=
  let s := chomp text.toList
  (Parse.whole (s.dropWhile isBlank)).mapError (Stop.toError s.length)

end Scoreboard
