import Scoreboard.Game.Execute
import Scoreboard.Proofs.Game.Effects

namespace Scoreboard

/-- Each command of each function that can be called satisfies `Q`. -/
def Rules.All (Q : Command → Prop) (rules : Rules) : Prop :=
  ∀ pack, rules.datapack = some pack → ∀ f ∈ pack.functions, ∀ c ∈ f.commands, Q c

theorem Rules.All.imp {Q R : Command → Prop} {rules : Rules} (h : rules.All Q)
    (hqr : ∀ c, Q c → R c) : rules.All R :=
  fun pack hp f hf c hc => hqr c (h pack hp f hf c hc)

theorem Rules.All.and {Q R : Command → Prop} {rules : Rules} (hq : rules.All Q) (hr : rules.All R) :
    rules.All fun c => Q c ∧ R c :=
  fun pack hp f hf c hc => ⟨hq pack hp f hf c hc, hr pack hp f hf c hc⟩

def Condition.targets : Condition → List Target
  | compare target _ _ source _ => [target, source]
  | inside target _ _ => [target]

theorem resolve_of_test {d : Condition} {s : State} {f : Fault} (h : d.test s = .error (.fault f)) :
    ∃ target ∈ d.targets, target.resolve = .error f := by
  cases d with
  | compare target targetObjective relation source sourceObjective =>
    rcases except_bind_eq_error_iff.1 h with h | ⟨⟨⟨left, o⟩, right, o'⟩, -, h⟩
    · rcases State.resolve_of_cells h with ht | hs
      · exact ⟨target, List.mem_cons_self, ht⟩
      · exact ⟨source, List.mem_cons_of_mem _ (List.mem_singleton_self _), hs⟩
    · simp only at h
      split at h <;> cases h
  | inside target objective interval =>
    rcases except_bind_eq_error_iff.1 h with h | ⟨⟨player, o⟩, -, h⟩
    · exact ⟨target, List.mem_singleton_self _, State.cell_eq_fault_iff.1 h⟩
    · simp only at h
      split at h <;> cases h

variable {P : State → Prop} {Q : Fault → Prop}

/-- Wherever the command below the conditions has an effect, `P` holds after it if it held before.
-/
def Command.Keeps (P : State → Prop) : Command → Prop
  | objectives c => ∀ ⦃s after⦄, P s → c.Leads s after → P after
  | players c => ∀ ⦃s after⦄, P s → c.Leads s after → P after
  | execute _ run => run.Keeps P
  | _ => True

theorem Command.Keeps.of_true (c : Command) : c.Keeps fun _ => True := by
  induction c with
  | execute condition run ih => exact ih
  | objectives | players | function | tellraw | foreign => simp [Keeps]

/-- Where `P` holds, a command by itself ends in no other faults than those that satisfy `Q`. -/
def Command.FaultsIn (P : State → Prop) (Q : Fault → Prop) : Command → Prop
  | players c => ∀ ⦃s f⦄, P s → c.Faults s f → Q f
  | execute condition run =>
    (∀ target ∈ condition.targets, ∀ f, target.resolve = .error f → Q f) ∧ run.FaultsIn P Q
  | tellraw target _ => ∀ f, target.resolve = .error f → Q f
  | _ => True

def Command.Meets (P : State → Prop) (Q : Fault → Prop) (c : Command) : Prop :=
  c.Keeps P ∧ c.FaultsIn P Q

/-- What there is to know of the rules: the report of the limit on nested calls may be at fault. -/
def Rules.Meets (P : State → Prop) (Q : Fault → Prop) (rules : Rules) : Prop :=
  rules.All (Command.Meets P Q) ∧ (¬ Text.Writable rules.maxDepth → Q (.unwritable .fail))

structure Outcome.Meets (P : State → Prop) (Q : Fault → Prop) (o : Outcome) : Prop where
  state : P o.state
  fault : ∀ f, o.fault = some f → Q f

namespace Outcome

theorem meets_nothing {s : State} (hs : P s) : (nothing s).Meets P Q :=
  ⟨hs, nofun⟩

theorem meets_refused {s : State} {refusal : Refusal} (hs : P s)
    (h : ∀ f, refusal = .fault f → Q f) : (refused s refusal).Meets P Q := by
  refine ⟨?_, fun f hf => h f (fault_refused_iff.1 hf)⟩
  rw [state_refused]
  exact hs

theorem meets_given {α : Type} {s : State} {found : Except Refusal α} {next : α → Outcome}
    (hs : P s)
    (hf : ∀ f, found = .error (.fault f) → Q f) (h : ∀ a, found = .ok a → (next a).Meets P Q) :
    (given s found next).Meets P Q := by
  cases found with
  | error refusal => exact meets_refused hs fun f hr => hf f (congrArg Except.error hr)
  | ok a => exact h a rfl

theorem Effect.meets {s : State} {leads : State → Prop} {faults : Fault → Prop} {o : Outcome}
    (h : o.Effect s leads faults) (hs : P s) (hlead : ∀ after, leads after → P after)
    (hfault : ∀ f, faults f → Q f) : o.Meets P Q :=
  ⟨h.state hs hlead, fun f hf => hfault f (h.fault hf)⟩

theorem Meets.preceded {o : Outcome} (h : o.Meets P Q) (events : List Event) :
    (o.preceded events).Meets P Q :=
  ⟨h.state, h.fault⟩

theorem Meets.followed {o : Outcome} (h : o.Meets P Q) (events : List Event) :
    (o.followed events).Meets P Q :=
  ⟨h.state, h.fault⟩

theorem Meets.andThen {o : Outcome} {next : State → Outcome} (ho : o.Meets P Q)
    (h : ∀ s, P s → (next s).Meets P Q) : (o.andThen next).Meets P Q := by
  unfold Outcome.andThen
  split
  · exact ho
  · have hnext := h o.state ho.state
    exact ⟨hnext.state, hnext.fault⟩

end Outcome

theorem runWith_meets {call : FunctionId → State → Outcome} {c : Command} {s : State}
    (hcall : ∀ id s, P s → (call id s).Meets P Q) (hc : c.Meets P Q) (hs : P s) :
    (c.runWith call s).Meets P Q := by
  induction c with
  | objectives c =>
    exact ((objectives_effect c s).meets hs (fun _ => hc.1 hs) nofun).preceded _
  | players c =>
    exact ((players_effect c s).meets hs (fun _ => hc.1 hs) fun _ => hc.2 hs).preceded _
  | function id => exact (hcall id s hs).preceded _
  | execute condition run ih =>
    refine Outcome.Meets.preceded (Outcome.meets_given hs (fun f hf => ?_) fun holds _ => ?_) _
    · obtain ⟨target, ht, hr⟩ := resolve_of_test hf
      exact hc.2.1 target ht f hr
    · split
      · exact ih ⟨hc.1, hc.2.2⟩
      · exact Outcome.meets_nothing hs
  | tellraw target message =>
    refine Outcome.Meets.preceded (Outcome.meets_given hs (fun f hf => ?_) fun player _ => ?_) _
    · exact hc.2 f (player?_eq_fault_iff.1 hf)
    · exact ⟨hs, nofun⟩
  | foreign kind => exact Outcome.meets_refused hs nofun

theorem runAll_meets {run : Command → State → Outcome} {commands : List Command} {s : State}
    (hrun : ∀ c ∈ commands, ∀ s, P s → (run c s).Meets P Q) (hs : P s) :
    (runAll run commands s).Meets P Q := by
  induction commands generalizing s with
  | nil => exact Outcome.meets_nothing hs
  | cons c rest ih =>
    rw [List.forall_mem_cons] at hrun
    exact (hrun.1 s hs).andThen fun _ => ih hrun.2

namespace Rules

variable {rules : Rules}

theorem withFunction_cases (rules : Rules) (id : FunctionId) (s : State) :
    (∃ message, ∀ next, rules.withFunction id s next = Outcome.refused s (.failure message)) ∨
      ∃ pack f, rules.datapack = some pack ∧ f ∈ pack.functions ∧
        ∀ next, rules.withFunction id s next = next f := by
  unfold withFunction
  split
  · exact .inl ⟨_, fun _ => rfl⟩
  · next pack hpack =>
    split
    · exact .inl ⟨_, fun _ => rfl⟩
    · next f hf => exact .inr ⟨pack, f, hpack, List.mem_of_find?_eq_some hf, fun _ => rfl⟩

theorem withFunction_meets {id : FunctionId} {s : State} {next : Function → Outcome} (hs : P s)
    (h : ∀ pack f, rules.datapack = some pack → f ∈ pack.functions → (next f).Meets P Q) :
    (rules.withFunction id s next).Meets P Q := by
  rcases withFunction_cases rules id s with ⟨message, hnone⟩ | ⟨pack, f, hpack, hf, hsome⟩
  · rw [hnone]
    exact Outcome.meets_refused hs nofun
  · rw [hsome]
    exact h pack f hpack hf

theorem depthExceeded_eq_none_iff {id : FunctionId} :
    rules.depthExceeded id = none ↔ ¬ Text.Writable rules.maxDepth := by
  by_cases h : Text.Writable rules.maxDepth
  · simp [depthExceeded, h]
  · simp [depthExceeded, Text.numeral?_eq_none_iff.2 h, h]

theorem call_meets (h : rules.Meets P Q) (left : Nat) {id : FunctionId} {s : State} (hs : P s) :
    (rules.call left id s).Meets P Q := by
  induction left generalizing id s with
  | zero =>
    refine withFunction_meets hs fun _ _ _ _ => ⟨?_, fun f hf => ?_⟩
    · rw [Outcome.state_reports]
      exact hs
    · rw [Outcome.fault_reports] at hf
      split at hf
      · next hmem =>
        obtain rfl := Option.some.inj hf
        exact h.2 (depthExceeded_eq_none_iff.1 (List.mem_singleton.1 hmem).symm)
      · cases hf
  | succ left ih =>
    -- the calls in the body of the function have one level less to nest
    refine withFunction_meets hs fun pack f hpack hf => ?_
    refine ((runAll_meets (fun c hc s hs => ?_) hs).preceded _).followed _
    exact runWith_meets (fun _ _ => ih) (h.1 pack hpack f hf c hc) hs

/-- What can be said of single commands can be said of a run, however deep its calls and conditions
nest and wherever a fault ends it. -/
theorem run_meets (h : rules.Meets P Q) {c : Command} (hc : c.Meets P Q) {s : State} (hs : P s) :
    (c.run rules s).Meets P Q :=
  runWith_meets (fun _ _ => call_meets h _) hc hs

end Rules

theorem Command.Keeps.meets {c : Command} (h : c.Keeps P) : c.Meets P fun _ => True := by
  refine ⟨h, ?_⟩
  clear h
  induction c with
  | execute condition run ih => exact ⟨fun _ _ _ _ => trivial, ih⟩
  | objectives | players | function | tellraw | foreign => simp [FaultsIn]

/-- What the simple commands keep, a run keeps. -/
theorem Rules.run_keeps {rules : Rules} (hall : rules.All (Command.Keeps P)) {c : Command}
    {s : State}
    (hc : c.Keeps P) (hs : P s) : P (c.run rules s).state :=
  (run_meets ⟨hall.imp fun _ => Command.Keeps.meets, fun _ => trivial⟩ hc.meets hs).state

end Scoreboard
