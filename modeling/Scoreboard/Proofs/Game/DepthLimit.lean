import Scoreboard.Proofs.Game.Faults

namespace Scoreboard

/-- A failure whose message begins as that of a call beyond the limit does. -/
def TellsOfDepth (entry : Level × String) : Prop :=
  entry.1 = .fail ∧ "Maximum function call depth of ".toList <+: entry.2.toList

instance : DecidablePred TellsOfDepth :=
  fun _ => inferInstanceAs (Decidable (_ ∧ _))

/-- Nothing in the log tells of the limit, and nothing was about to. -/
structure Outcome.WithinDepth (o : Outcome) : Prop where
  silent : ∀ entry ∈ Event.log o.events, ¬ TellsOfDepth entry
  written : o.fault ≠ some (.unwritable .fail)

theorem Outcome.withinDepth_iff {o : Outcome} : o.WithinDepth ↔
    (∀ entry ∈ Event.log o.events, ¬ TellsOfDepth entry) ∧ o.fault ≠ some (.unwritable .fail) :=
  ⟨fun h => ⟨h.silent, h.written⟩, fun h => ⟨h.1, h.2⟩⟩

instance : DecidablePred Outcome.WithinDepth :=
  fun _ => decidable_of_iff' _ Outcome.withinDepth_iff

theorem tellsOfDepth_of_depthExceeded {rules : Rules} {id : FunctionId} {message : String}
    (h : rules.depthExceeded id = some message) : TellsOfDepth (.fail, message) := by
  refine ⟨rfl, ?_⟩
  by_cases hlimit : Text.Writable rules.maxDepth
  · simp only [Rules.depthExceeded, Text.numeral?_of_writable hlimit] at h
    cases h
    simp only [String.toList_append, List.append_assoc]
    exact List.prefix_append _ _
  · rw [Rules.depthExceeded_eq_none_iff.2 hlimit] at h
    cases h

namespace Outcome

variable {o o' : Outcome}

theorem WithinDepth.of_subset (h : o.WithinDepth) (hs : Event.log o'.events ⊆ Event.log o.events)
    (hf : o'.fault = o.fault ∨ o'.fault = none) : o'.WithinDepth := by
  refine ⟨fun entry he => h.silent entry (hs he), ?_⟩
  rcases hf with hf | hf
  · rw [hf]
    exact h.written
  · rw [hf]
    exact nofun

theorem WithinDepth.of_preceded {events : List Event} (h : (o.preceded events).WithinDepth) :
    o.WithinDepth := by
  refine h.of_subset ?_ (.inl rfl)
  rw [preceded, Event.log_append]
  exact List.subset_append_right _ _

theorem WithinDepth.of_followed {events : List Event} (h : (o.followed events).WithinDepth) :
    o.WithinDepth := by
  refine h.of_subset ?_ (.inl rfl)
  rw [followed, Event.log_append]
  exact List.subset_append_left _ _

theorem not_withinDepth_depthExceeded (rules : Rules) (id : FunctionId) (s : State) :
    ¬ (reports s .fail [rules.depthExceeded id]).WithinDepth := by
  cases hm : rules.depthExceeded id with
  | none => exact fun h => h.written rfl
  | some message =>
    exact fun h => h.silent _ List.mem_cons_self (tellsOfDepth_of_depthExceeded hm)

theorem andThen_eq_of_withinDepth {next next' : State → Outcome}
    (ho : o.WithinDepth → o' = o) (hnext : ∀ s, (next s).WithinDepth → next' s = next s)
    (h : (o.andThen next).WithinDepth) : o'.andThen next' = o.andThen next := by
  cases hf : o.fault with
  | some f =>
    have hself : o.andThen next = o := by rw [andThen, hf]
    rw [hself] at h ⊢
    rw [ho h, andThen, hf]
  | none =>
    simp only [andThen, hf] at h
    have hfirst : o.WithinDepth := by
      refine h.of_subset ?_ (.inr hf)
      rw [Event.log_append]
      exact List.subset_append_left _ _
    have hrest : (next o.state).WithinDepth := by
      refine h.of_subset ?_ (.inl rfl)
      rw [Event.log_append]
      exact List.subset_append_right _ _
    rw [ho hfirst, andThen, andThen, hf, hnext o.state hrest]

end Outcome

/-- Only what calls do can differ under two ways of calling. -/
theorem runWith_eq_of_withinDepth {call call' : FunctionId → State → Outcome}
    (hcall : ∀ id s, (call id s).WithinDepth → call' id s = call id s) {c : Command} {s : State}
    (h : (c.runWith call s).WithinDepth) : c.runWith call' s = c.runWith call s := by
  induction c with
  | function id =>
    rw [Command.runWith] at h ⊢
    rw [Command.runWith, hcall id s h.of_preceded]
  | execute condition run ih =>
    rw [Command.runWith] at h ⊢
    rw [Command.runWith]
    replace h := h.of_preceded
    cases ht : condition.test s with
    | error refusal => rfl
    | ok holds =>
      rw [ht] at h
      cases holds with
      | false => rfl
      | true => simp only [ih h]
  | objectives c => rfl
  | players c => rfl
  | tellraw target message => rfl
  | foreign kind => rfl

theorem runAll_eq_of_withinDepth {run run' : Command → State → Outcome}
    (hrun : ∀ c s, (run c s).WithinDepth → run' c s = run c s) {commands : List Command} {s : State}
    (h : (runAll run commands s).WithinDepth) : runAll run' commands s = runAll run commands s := by
  induction commands generalizing s with
  | nil => rfl
  | cons c rest ih => exact Outcome.andThen_eq_of_withinDepth (hrun c s) (fun _ => ih) h

namespace Rules

variable {rules rules' : Rules}

theorem withFunction_eq_of_datapack (hpack : rules'.datapack = rules.datapack) (id : FunctionId)
    (s : State) (next : Function → Outcome) :
    rules'.withFunction id s next = rules.withFunction id s next := by
  rw [withFunction, withFunction, hpack]

/-- A call that has not met the limit does the same with more calls left to nest. -/
theorem call_eq_of_withinDepth (hpack : rules'.datapack = rules.datapack) {left left' : Nat}
    (hle : left ≤ left') {id : FunctionId} {s : State} (h : (rules.call left id s).WithinDepth) :
    rules'.call left' id s = rules.call left id s := by
  induction left generalizing left' id s with
  | zero =>
    rw [call] at h
    rcases withFunction_cases rules id s with ⟨message, hnone⟩ | ⟨pack, f, -, -, hsome⟩
    · cases left' <;> rw [call, call, withFunction_eq_of_datapack hpack, hnone, hnone]
    · rw [hsome] at h
      exact absurd h (Outcome.not_withinDepth_depthExceeded rules id s)
  | succ left ih =>
    cases left' with
    | zero => cases hle
    | succ left' =>
      rw [call] at h
      rw [call, call, withFunction_eq_of_datapack hpack]
      rcases withFunction_cases rules id s with ⟨message, hnone⟩ | ⟨pack, f, -, -, hsome⟩
      · rw [hnone, hnone]
      · rw [hsome] at h
        rw [hsome, hsome]
        -- the calls in the body nest one level deeper, under both limits
        have hbody : ∀ id s, (rules.call left id s).WithinDepth →
            rules'.call left' id s = rules.call left id s :=
          fun _ _ => ih (Nat.le_of_succ_le_succ hle)
        rw [runAll_eq_of_withinDepth (fun _ _ => runWith_eq_of_withinDepth hbody)
          h.of_followed.of_preceded]

end Rules

/-- A run that does not tell of the limit has not met it, unless it ended where the limit could not
be written. -/
theorem withinDepth_or_not_writable {rules : Rules} {c : Command} {s : State}
    (h : ∀ entry ∈ Event.log (c.run rules s).events, ¬ TellsOfDepth entry) :
    (c.run rules s).WithinDepth ∨
      ¬ Text.Writable rules.maxDepth ∧ (c.run rules s).fault = some (.unwritable .fail) := by
  by_cases hf : (c.run rules s).fault = some (.unwritable .fail)
  · exact .inr ⟨not_writable_of_unwritable_fail hf, hf⟩
  · exact .inl ⟨h, hf⟩

/-- A function that takes one off a score and calls itself as long as the score is positive. -/
def countdown : Datapack :=
  ⟨"pack", [⟨⟨"f", none⟩, [.players (.remove (.player "a") "o" 1),
    .execute (.inside (.player "a") "o" (.atLeast 1)) (.function ⟨"f", none⟩)]⟩]⟩

/-- A limit of one is met. -/
example : ¬ ((Command.function ⟨"f", none⟩).run ⟨some countdown, 1⟩
    ⟨⟨[("o", ⟨"o", .integer, .dummy, ⟨[("a", 2)]⟩⟩)]⟩, .empty, .empty⟩).WithinDepth := by
  decide +kernel

end Scoreboard
