import Mathlib
import Scoreboard.Proofs.Game.Faults

namespace Scoreboard

def Interval.scores : Interval → Set Int
  | exactly score => {score}
  | between minimum maximum => Set.Icc minimum maximum
  | atMost maximum => Set.Iic maximum
  | atLeast minimum => Set.Ici minimum

theorem Interval.contains_iff {interval : Interval} {n : Int} :
    interval.contains n = true ↔ n ∈ interval.scores := by
  cases interval <;> simp [contains, scores]

def Comparison.Relates : Comparison → Int → Int → Prop
  | less, m, n => m < n
  | lessEqual, m, n => m ≤ n
  | equal, m, n => m = n
  | greater, m, n => n < m
  | greaterEqual, m, n => n ≤ m

theorem Comparison.holds_iff {relation : Comparison} {m n : Int} :
    relation.holds m n = true ↔ relation.Relates m n := by
  cases relation <;> simp [holds, Relates]

def Target.fault? (target : Target) : Option Fault :=
  match target.resolve with
  | .ok _ => none
  | .error f => some f

namespace Target

variable {target source : Target} {f : Fault}

theorem fault?_eq_none_iff : target.fault? = none ↔ ∃ player, target = .player player := by
  cases target <;> simp [fault?, resolve]

theorem player?_of_fault? (h : target.fault? = some f) : target.player? = .error (.fault f) := by
  cases target <;> simp_all [fault?, resolve, player?, Except.mapError]

end Target

namespace Condition

/-- The scores that are asked about are set, and they are as the condition says. -/
def Holds (s : State) : Condition → Prop
  | compare target targetObjective relation source sourceObjective =>
    ∃ left right m n, target = .player left ∧ source = .player right ∧
      s.score? targetObjective left = some m ∧ s.score? sourceObjective right = some n ∧
      relation.Relates m n
  | inside target objective interval =>
    ∃ player n, target = .player player ∧ s.score? objective player = some n ∧ n ∈ interval.scores

def objectives : Condition → List String
  | compare _ targetObjective _ _ sourceObjective => [targetObjective, sourceObjective]
  | inside _ objective _ => [objective]

def fault? (d : Condition) : Option Fault :=
  d.targets.findSome? Target.fault?

def unknown? (s : State) (d : Condition) : Option String :=
  d.objectives.find? fun name => !s.objectives.contains name

/-- What comes of a condition that does not hold: its fault or none, and what is logged. Targets are
resolved before objectives are looked up; a score that is not set, or not as asked, is not reported.
-/
def verdict (s : State) (d : Condition) : Option Fault × List (Level × String) :=
  match d.fault?, d.unknown? s with
  | some f, _ => (some f, [])
  | none, some name => (none, [(.fail, unknownObjective name)])
  | none, none => (none, [])

variable {s : State} {d : Condition}

theorem fault?_compare {target source : Target} {a b : String} {relation : Comparison} :
    (compare target a relation source b).fault? = target.fault?.or source.fault? := by
  cases h : target.fault? <;> cases h' : source.fault? <;> simp [fault?, targets, h, h']

theorem fault?_inside {target : Target} {a : String} {interval : Interval} :
    (inside target a interval).fault? = target.fault? := by
  simp [fault?, targets]

/-- A target that stands for no player is found before any objective is looked up. -/
theorem test_of_fault? {f : Fault} (h : d.fault? = some f) : d.test s = .error (.fault f) := by
  cases d with
  | compare target a relation source b =>
    rw [fault?_compare] at h
    rcases Option.or_eq_some_iff.1 h with htarget | ⟨hplayer, hsource⟩
    · rw [test, State.cells, Target.player?_of_fault? htarget]
      rfl
    · obtain ⟨left, rfl⟩ := Target.fault?_eq_none_iff.1 hplayer
      rw [test, State.cells, Target.player?_of_fault? hsource]
      rfl
  | inside target a interval =>
    rw [fault?_inside] at h
    rw [test, State.cell, Target.player?_of_fault? h]
    rfl

theorem test_of_unknown? {name : String} (h : d.fault? = none) (h' : d.unknown? s = some name) :
    d.test s = .error (.failure (unknownObjective name)) := by
  cases d with
  | compare target a relation source b =>
    rw [fault?_compare, Option.or_eq_none_iff] at h
    obtain ⟨left, rfl⟩ := Target.fault?_eq_none_iff.1 h.1
    obtain ⟨right, rfl⟩ := Target.fault?_eq_none_iff.1 h.2
    cases ha : s.objectives.contains a with
    | false =>
      have hname : a = name := by simpa [unknown?, objectives, ha] using h'
      rw [test, State.cells, State.objective_of_not_contains ha, hname]
      rfl
    | true =>
      obtain ⟨o, ho⟩ := Option.isSome_iff_exists.1 ha
      have hname : s.objectives.contains b = false ∧ b = name := by
        simpa [unknown?, objectives, ha] using h'
      rw [test, State.cells, State.objective_eq_ok_iff.2 ho,
        State.objective_of_not_contains hname.1, hname.2]
      rfl
  | inside target a interval =>
    rw [fault?_inside] at h
    obtain ⟨player, rfl⟩ := Target.fault?_eq_none_iff.1 h
    have hname : s.objectives.contains a = false ∧ a = name := by
      simpa [unknown?, objectives] using h'
    rw [test, State.cell, State.objective_of_not_contains hname.1, hname.2]
    rfl

theorem test_compare {a b left right : String} {o o' : Objective} {relation : Comparison}
    (ho : s.objectives.get? a = some o) (ho' : s.objectives.get? b = some o') :
    (compare (.player left) a relation (.player right) b).test s =
      .ok ((s.score? a left).any fun m => (s.score? b right).any fun n => relation.holds m n) := by
  rw [State.score?_of_get? ho, State.score?_of_get? ho']
  refine except_bind_eq_ok_iff.2 ⟨_, State.cells_eq_ok_iff.2 ⟨rfl, rfl, ho, ho'⟩, ?_⟩
  simp only
  cases o.scores.get? left with
  | none => rfl
  | some m => cases o'.scores.get? right <;> rfl

theorem test_inside {a player : String} {o : Objective} {interval : Interval}
    (ho : s.objectives.get? a = some o) : (inside (.player player) a interval).test s =
      .ok ((s.score? a player).any interval.contains) := by
  rw [State.score?_of_get? ho]
  refine except_bind_eq_ok_iff.2 ⟨_, State.cell_eq_ok_iff.2 ⟨rfl, ho⟩, ?_⟩
  simp only
  cases o.scores.get? player <;> rfl

/-- Where no target and no objective is in the way, what is asked of the scores decides. -/
theorem test_of_known (h : d.fault? = none) (h' : d.unknown? s = none) :
    ∃ holds, d.test s = .ok holds ∧ (holds = true ↔ d.Holds s) := by
  cases d with
  | compare target a relation source b =>
    rw [fault?_compare, Option.or_eq_none_iff] at h
    obtain ⟨left, rfl⟩ := Target.fault?_eq_none_iff.1 h.1
    obtain ⟨right, rfl⟩ := Target.fault?_eq_none_iff.1 h.2
    have hknown : s.objectives.contains a = true ∧ s.objectives.contains b = true := by
      simpa [unknown?, objectives] using h'
    obtain ⟨o, ho⟩ := Option.isSome_iff_exists.1 hknown.1
    obtain ⟨o', ho'⟩ := Option.isSome_iff_exists.1 hknown.2
    refine ⟨_, test_compare ho ho', ?_⟩
    simp [Holds, Option.any_eq_true, Comparison.holds_iff]
  | inside target a interval =>
    rw [fault?_inside] at h
    obtain ⟨player, rfl⟩ := Target.fault?_eq_none_iff.1 h
    have hknown : s.objectives.contains a = true := by
      simpa [unknown?, objectives] using h'
    obtain ⟨o, ho⟩ := Option.isSome_iff_exists.1 hknown
    refine ⟨_, test_inside ho, ?_⟩
    simp [Holds, Option.any_eq_true, Interval.contains_iff]

theorem Holds.fault?_eq_none (h : d.Holds s) : d.fault? = none := by
  cases d with
  | compare target a relation source b =>
    obtain ⟨left, right, m, n, rfl, rfl, -⟩ := h
    rfl
  | inside target a interval =>
    obtain ⟨player, n, rfl, -⟩ := h
    rfl

theorem Holds.unknown?_eq_none (h : d.Holds s) : d.unknown? s = none := by
  cases d with
  | compare target a relation source b =>
    obtain ⟨left, right, m, n, -, -, hm, hn, -⟩ := h
    simp [unknown?, objectives, State.contains_of_score? hm, State.contains_of_score? hn]
  | inside target a interval =>
    obtain ⟨player, n, -, hn, -⟩ := h
    simp [unknown?, objectives, State.contains_of_score? hn]

theorem Holds.test_eq (h : d.Holds s) : d.test s = .ok true := by
  obtain ⟨holds, htest, hiff⟩ := test_of_known h.fault?_eq_none h.unknown?_eq_none
  rw [htest, hiff.2 h]

end Condition

namespace Event

def kind? : Event → Option String
  | executed kind => some kind
  | _ => none

def kinds (events : List Event) : List String :=
  events.filterMap kind?

theorem kinds_append (a b : List Event) : kinds (a ++ b) = kinds a ++ kinds b :=
  List.filterMap_append

def tested (conditions : List Condition) : List Event :=
  conditions.map fun d => .executed d.kind

theorem log_tested (conditions : List Condition) : log (tested conditions) = [] := by
  simp [log, tested, List.filterMap_map, entry?]

theorem chat_tested (conditions : List Condition) : chat (tested conditions) = [] := by
  simp [chat, tested, List.filterMap_map, saying?]

theorem kinds_tested (conditions : List Condition) :
    kinds (tested conditions) = conditions.map Condition.kind := by
  rw [kinds, tested, List.filterMap_map]
  exact congrFun List.filterMap_eq_map conditions

end Event

/-- What is left of a command that the condition `d` held back in the state `s`, with the kinds of
the commands that were begun. -/
structure Outcome.HeldBack (s : State) (d : Condition) (kinds : List String) (o : Outcome) :
    Prop where
  state : o.state = s
  chat : Event.chat o.events = []
  kinds : Event.kinds o.events = kinds
  verdict : (o.fault, Event.log o.events) = d.verdict s

theorem Outcome.HeldBack.tested {s : State} {d : Condition} {kinds : List String} {o : Outcome}
    (h : o.HeldBack s d kinds) (conditions : List Condition) :
    (o.preceded (Event.tested conditions)).HeldBack s d
      (conditions.map Condition.kind ++ kinds) := by
  rw [preceded]
  refine ⟨h.state, ?_, ?_, ?_⟩
  · rw [Event.chat_append, Event.chat_tested, h.chat, List.append_nil]
  · rw [Event.kinds_append, Event.kinds_tested, h.kinds]
  · rw [Event.log_append, Event.log_tested, List.nil_append, h.verdict]

/-- A command under conditions, the first of them outermost. -/
def Command.under (c : Command) (conditions : List Condition) : Command :=
  conditions.foldr .execute c

theorem Command.under_append (c : Command) (first second : List Condition) :
    c.under (first ++ second) = (c.under second).under first :=
  List.foldr_append

theorem exists_first_not {α : Type} {P : α → Prop} {l : List α} (h : ¬ ∀ x ∈ l, P x) :
    ∃ before x after, l = before ++ x :: after ∧ (∀ y ∈ before, P y) ∧ ¬ P x := by
  classical
  cases hfind : l.find? fun x => !decide (P x) with
  | none => exact absurd (by simpa using List.find?_eq_none.1 hfind) h
  | some x =>
    obtain ⟨hx, before, after, hl, hbefore⟩ := List.find?_eq_some_iff_append.1 hfind
    exact ⟨before, x, after, hl, by simpa using hbefore, by simpa using hx⟩

variable {call : FunctionId → State → Outcome} {s : State}

/-- Conditions that hold are tested, and nothing else comes of them. -/
theorem runWith_under {conditions : List Condition} (h : ∀ d ∈ conditions, d.Holds s)
    (c : Command) :
    (c.under conditions).runWith call s =
      (c.runWith call s).preceded (Event.tested conditions) := by
  induction conditions with
  | nil => rfl
  | cons d rest ih =>
    rw [List.forall_mem_cons] at h
    show (Command.execute d (c.under rest)).runWith call s = _
    rw [Command.runWith, h.1.test_eq]
    simp only [ih h.2]
    rfl

theorem heldBack_of_not_holds {d : Condition} (h : ¬ d.Holds s) (c : Command) :
    ((Command.execute d c).runWith call s).HeldBack s d [d.kind] := by
  rw [Command.runWith]
  cases hf : d.fault? with
  | some f =>
    rw [Condition.test_of_fault? hf]
    refine ⟨rfl, rfl, rfl, ?_⟩
    rw [Condition.verdict, hf]
    rfl
  | none =>
    cases hu : d.unknown? s with
    | some name =>
      rw [Condition.test_of_unknown? hf hu]
      refine ⟨rfl, rfl, rfl, ?_⟩
      rw [Condition.verdict, hf, hu]
      rfl
    | none =>
      obtain ⟨holds, htest, hiff⟩ := Condition.test_of_known hf hu
      have hfalse : holds = false := Bool.eq_false_iff.2 fun ht => h (hiff.1 ht)
      rw [htest, hfalse]
      refine ⟨rfl, rfl, rfl, ?_⟩
      rw [Condition.verdict, hf, hu]
      rfl

theorem runWith_under_heldBack {before : List Condition} {d : Condition}
    (hbefore : ∀ e ∈ before, e.Holds s) (hd : ¬ d.Holds s) (after : List Condition) (c : Command) :
    ((c.under (before ++ d :: after)).runWith call s).HeldBack s d
      ((before ++ [d]).map Condition.kind) := by
  rw [Command.under_append, runWith_under hbefore, List.map_append]
  exact (heldBack_of_not_holds hd (c.under after)).tested before

/-- A command under any number of conditions. If all of them hold in the state in which it begins,
it does what it does without them. If not, the first that does not hold decides: it holds the
command back, and no command is begun but the tests up to that one. -/
theorem conditions_are_conjunction (rules : Rules) (conditions : List Condition) (c : Command)
    (s : State) :
    let o := (c.under conditions).run rules s
    let alone := c.run rules s
    ((∀ d ∈ conditions, d.Holds s) → o.state = alone.state ∧
      Event.log o.events = Event.log alone.events ∧
      Event.chat o.events = Event.chat alone.events ∧ o.fault = alone.fault) ∧
    ((¬ ∀ d ∈ conditions, d.Holds s) → ∃ before d after, conditions = before ++ d :: after ∧
      (∀ e ∈ before, e.Holds s) ∧ ¬ d.Holds s ∧
      o.HeldBack s d ((before ++ [d]).map Condition.kind)) := by
  intro o alone
  constructor
  · intro h
    have ho : o = alone.preceded (Event.tested conditions) := runWith_under h c
    rw [ho, Outcome.preceded, Event.log_append, Event.chat_append, Event.log_tested,
      Event.chat_tested]
    exact ⟨rfl, rfl, rfl, rfl⟩
  · intro h
    obtain ⟨before, d, after, rfl, hbefore, hd⟩ := exists_first_not h
    exact ⟨before, d, after, rfl, hbefore, hd, runWith_under_heldBack hbefore hd after c⟩

/-- One player has a score, and it is less than the other's. -/
theorem conditions_are_conjunction_behind :
    Event.chat (((Command.tellraw (.player "a") "hurry").under
        [.inside (.player "a") "o" (.atLeast 1),
          .compare (.player "a") "o" .less (.player "b") "o"]).run ⟨none, 64⟩
      ⟨⟨[("o", ⟨"o", .integer, .dummy, ⟨[("a", 2), ("b", 3)]⟩⟩)]⟩, .empty, .empty⟩).events =
      [("a", "hurry")] := by
  have h := (conditions_are_conjunction ⟨none, 64⟩ [.inside (.player "a") "o" (.atLeast 1),
    .compare (.player "a") "o" .less (.player "b") "o"] (.tellraw (.player "a") "hurry")
    ⟨⟨[("o", ⟨"o", .integer, .dummy, ⟨[("a", 2), ("b", 3)]⟩⟩)]⟩, .empty, .empty⟩).1 (by
      simp only [List.forall_mem_cons]
      refine ⟨⟨"a", 2, rfl, rfl, ?_⟩, ⟨"a", "b", 2, 3, rfl, rfl, rfl, rfl, ?_⟩, by simp⟩
      · simp [Interval.scores]
      · simp [Comparison.Relates])
  exact h.2.2.1

/-- Of two objectives that do not exist, that of the target is named. -/
example : (Condition.compare (.player "a") "x" .less (.player "b") "y").verdict State.empty =
    (none, [(.fail, "Unknown scoreboard objective 'x'")]) := by
  decide

end Scoreboard
