import Scoreboard.Proofs.Command.Lines

namespace Scoreboard

open Text Reader Parse

namespace Reader

variable {α β : Type}

/-- Wherever the reader stops, `Q` relates the text that it was given to the stop. -/
def StopsIn (Q : List Char → Stop → Prop) (p : Reader α) : Prop :=
  ∀ ⦃s : List Char⦄ ⦃stop : Stop⦄, p s = .error stop → Q s stop

/-- What has to be known of the stops at single tokens. -/
structure StopRule (Q : List Char → Stop → Prop) : Prop where
  of_suffix : ∀ {s rest : List Char} {stop : Stop}, rest <:+ s → Q rest stop → Q s stop
  space : StopsIn Q space
  word : ∀ expected, StopsIn Q (word expected)
  quotedString : StopsIn Q quotedString
  signedInteger : StopsIn Q signedInteger
  naturalInteger : StopsIn Q naturalInteger
  keyword : ∀ {α : Type} (label : String) (options : List (String × α)),
    StopsIn Q (keyword label options)
  symbol : ∀ {α : Type} (expected what : String) (options : List (String × α)),
    StopsIn Q (symbol expected what options)
  commandName : StopsIn Q commandName
  dots : ∀ {rest : List Char}, atGap rest = true →
    Q ('.' :: '.' :: rest) (.failed .invalidInterval ('.' :: '.' :: rest))

variable {Q : List Char → Stop → Prop}

theorem stopsIn_pure (a : α) : StopsIn Q (pure a : Reader α) :=
  nofun

theorem StopsIn.map {p : Reader α} (hp : StopsIn Q p) (f : α → β) : StopsIn Q (f <$> p) := by
  intro s stop h
  change (p >>= fun a => pure (f a)) s = .error stop at h
  rw [bind_apply] at h
  split at h
  · cases h
  · next stop' he =>
    cases h
    exact hp he

namespace StopRule

theorem bind (h : StopRule Q) {p : Reader α} {f : α → Reader β} (hs : LeavesSuffix p)
    (hp : StopsIn Q p) (hf : ∀ s a rest, p s = .ok (a, rest) → StopsIn Q (f a)) :
    StopsIn Q (p >>= f) := by
  intro s stop he
  rw [bind_apply] at he
  split at he
  · next a rest hok => exact h.of_suffix (hs hok) (hf s a rest hok he)
  · next stop' hstop =>
    cases he
    exact hp hstop

theorem afterSpace (h : StopRule Q) {p : Reader α} (hp : StopsIn Q p) :
    StopsIn Q (Reader.space >>= fun _ => p) :=
  h.bind leavesSuffix_space h.space fun _ _ _ _ => hp

theorem branch (h : StopRule Q) {label : String} {options : List (String × Reader α)}
    (hall : ∀ option ∈ options, StopsIn Q option.2) : StopsIn Q (branch label options) := by
  refine h.bind (leavesSuffix_keyword label options) (h.keyword label options) fun s p rest hp => ?_
  obtain ⟨found, -, hl⟩ := choose_eq_ok hp
  exact hall _ (mem_of_lookup_eq_some hl)

theorem endOr (h : StopRule Q) {p : Reader α} (hp : StopsIn Q p) : StopsIn Q (endOr p) := by
  intro s stop he
  unfold Reader.endOr at he
  split at he
  · cases he
  · exact h.afterSpace (hp.map some) he

theorem target (h : StopRule Q) : StopsIn Q target := by
  intro s stop he
  unfold Parse.target at he
  split at he
  · exact (h.symbol _ _ _).map _ he
  · exact (h.word _).map _ he

theorem cell (h : StopRule Q) : StopsIn Q cell :=
  h.afterSpace <| h.bind leavesSuffix_target h.target fun _ _ _ _ =>
    h.afterSpace <| (h.word _).map _

theorem addObjective (h : StopRule Q) : StopsIn Q addObjective :=
  h.afterSpace <| h.bind (leavesSuffix_run _ _) (h.word _) fun _ _ _ _ =>
    h.afterSpace <| h.bind (leavesSuffix_keyword _ _) (h.keyword _ _) fun _ _ _ _ =>
      (h.endOr h.quotedString).map _

theorem modification (h : StopRule Q) : StopsIn Q modification := by
  refine h.branch ?_
  simp only [List.forall_mem_cons]
  exact ⟨h.afterSpace (h.quotedString.map _), h.afterSpace ((h.keyword _ _).map _),
    List.forall_mem_nil _⟩

theorem modifyObjective (h : StopRule Q) : StopsIn Q modifyObjective :=
  h.afterSpace <| h.bind (leavesSuffix_run _ _) (h.word _) fun _ _ _ _ =>
    h.afterSpace <| h.modification.map _

theorem setDisplay (h : StopRule Q) : StopsIn Q setDisplay :=
  h.afterSpace <| h.bind (leavesSuffix_keyword _ _) (h.keyword _ _) fun _ _ _ _ =>
    h.afterSpace <| (h.word _).map _

theorem objectivesCommand (h : StopRule Q) : StopsIn Q objectivesCommand := by
  refine h.branch ?_
  simp only [List.forall_mem_cons]
  exact ⟨h.addObjective, stopsIn_pure _, h.modifyObjective, h.afterSpace ((h.word _).map _),
    h.setDisplay, List.forall_mem_nil _⟩

theorem cellThen (h : StopRule Q) {f : Target × String → Reader β}
    (hf : ∀ place, StopsIn Q (f place)) :
    StopsIn Q (Parse.cell >>= fun place => Reader.space >>= fun _ => f place) :=
  h.bind leavesSuffix_cell h.cell fun _ place _ _ => h.afterSpace (hf place)

theorem operation (h : StopRule Q) : StopsIn Q operation :=
  h.cellThen fun _ => h.bind (leavesSuffix_symbol _ _ _) (h.symbol _ _ _) fun _ _ _ _ =>
    h.cell.map _

theorem playersCommand (h : StopRule Q) : StopsIn Q playersCommand := by
  refine h.branch ?_
  simp only [List.forall_mem_cons]
  exact ⟨h.cellThen fun _ => h.naturalInteger.map _, h.cell.map _, h.cell.map _,
    (h.endOr h.target).map _, h.operation, h.cellThen fun _ => h.naturalInteger.map _,
    h.cell.map _, h.cellThen fun _ => h.signedInteger.map _, List.forall_mem_nil _⟩

theorem scoreboard (h : StopRule Q) : StopsIn Q scoreboard := by
  refine h.branch ?_
  simp only [List.forall_mem_cons]
  exact ⟨h.afterSpace (h.objectivesCommand.map _), h.afterSpace (h.playersCommand.map _),
    List.forall_mem_nil _⟩

theorem functionId (h : StopRule Q) : StopsIn Q functionId := by
  refine h.bind (leavesSuffix_run _ _) (h.word _) fun _ first _ _ s stop he => ?_
  unfold functionTail at he
  split at he
  · next rest => exact h.of_suffix (List.suffix_cons _ _) ((h.word _).map _ he)
  · cases he

theorem tellraw (h : StopRule Q) : StopsIn Q tellraw :=
  h.bind leavesSuffix_target h.target fun _ _ _ _ => h.afterSpace (h.quotedString.map _)

theorem intervalTail (h : StopRule Q) (minimum : Int) : StopsIn Q (intervalTail minimum) := by
  intro s stop he
  unfold Parse.intervalTail at he
  split at he
  · next rest =>
    split at he
    · cases he
    · exact h.of_suffix ⟨['.', '.'], rfl⟩ (h.signedInteger.map _ he)
  · cases he

theorem interval (h : StopRule Q) : StopsIn Q interval := by
  intro s stop he
  unfold Parse.interval at he
  split at he
  · next rest =>
    split at he
    · next hgap =>
      cases he
      exact h.dots hgap
    · exact h.of_suffix ⟨['.', '.'], rfl⟩ (h.signedInteger.map _ he)
  · exact h.bind leavesSuffix_signedInteger h.signedInteger
      (fun _ minimum _ _ => h.intervalTail minimum) he

theorem tests (h : StopRule Q) {place : Target × String} {test : String × Reader Condition}
    (hm : test ∈ tests place) : StopsIn Q test.2 := by
  rcases List.mem_append.1 hm with hm | hm
  · obtain ⟨relation, -, rfl⟩ := List.mem_map.1 hm
    exact h.cell.map _
  · cases List.mem_singleton.1 hm
    exact h.afterSpace (h.interval.map _)

theorem condition (h : StopRule Q) : StopsIn Q condition := by
  refine h.bind (leavesSuffix_keyword _ _) (h.keyword _ _) fun _ _ _ _ =>
    h.afterSpace <| h.bind (leavesSuffix_keyword _ _) (h.keyword _ _) fun _ _ _ _ =>
      h.cellThen fun place =>
        h.bind (leavesSuffix_symbol _ _ _) (h.symbol _ _ _) fun s test rest htest => ?_
  obtain ⟨found, -, hl⟩ := choose_eq_ok htest
  exact h.tests (mem_of_lookup_eq_some hl)

theorem guard (h : StopRule Q) : StopsIn Q guard :=
  h.bind leavesSuffix_condition h.condition fun _ _ _ _ =>
    h.afterSpace <| h.bind (leavesSuffix_keyword _ _) (h.keyword _ _) fun _ _ _ _ =>
      h.afterSpace <| stopsIn_pure _

theorem opening (h : StopRule Q) : StopsIn Q opening := by
  have hname : LeavesSuffix Parse.commandName := by
    intro s rest reader he
    obtain ⟨name, hw, -⟩ := commandName_eq_ok he
    exact leavesSuffix_run _ _ hw
  refine h.bind hname h.commandName fun s reader rest hr => h.afterSpace ?_
  obtain ⟨name, -, hl⟩ := commandName_eq_ok hr
  have hm := mem_of_lookup_eq_some hl
  simp only [commands, List.mem_cons, Prod.mk.injEq, List.not_mem_nil, or_false] at hm
  rcases hm with ⟨-, rfl⟩ | ⟨-, rfl⟩ | ⟨-, rfl⟩ | ⟨-, rfl⟩
  · exact h.scoreboard.map _
  · exact h.functionId.map _
  · exact h.guard.map _
  · exact h.tellraw.map _

theorem command (h : StopRule Q) {s : List Char} {stop : Stop} (he : command s = .error stop) :
    Q s stop := by
  fun_induction Parse.command s with
  | case1 s stop' ho =>
    cases he
    exact h.opening ho
  | case2 s c rest ho => cases he
  | case3 s condition rest ho hlt stop' hc ih =>
    cases he
    obtain ⟨test, -, -, rfl⟩ := opening_inr_eq_ok_iff.1 ho
    exact h.of_suffix ((List.suffix_cons ' ' rest).trans (List.suffix_append _ _)) (ih hc)
  | case4 s condition rest ho hlt c after hc ih => cases he

end StopRule

end Reader

end Scoreboard
