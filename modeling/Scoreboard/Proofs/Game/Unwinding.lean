import Scoreboard.Proofs.Game.Definedness
import Scoreboard.Proofs.Game.Endings
import Scoreboard.Proofs.Game.Faults

namespace Scoreboard

/-- The targets that a command resolves by itself; a command under a condition resolves its own. -/
def Command.ownTargets : Command → List Target
  | players c => c.targets
  | execute condition _ => condition.targets
  | tellraw target _ => [target]
  | _ => []

def Command.SelectorFree (c : Command) : Prop :=
  ∀ target ∈ c.targets, ∀ v, target ≠ .selector v

namespace Machine

structure SameEffects (m m' : Machine) : Prop where
  state : m'.state = m.state
  log : Event.log m'.events = Event.log m.events
  chat : Event.chat m'.events = Event.chat m.events

/-- With nothing at fault so far, a command is next of which a target is the selector `v`. -/
structure Faces (v : Selector) (m : Machine) : Prop where
  fault : m.fault = none
  next : ∃ k rest, m.todo = .run k :: rest ∧ .selector v ∈ k.ownTargets

variable {rules : Rules} {m m' m'' : Machine} {k : Command} {f : Fault} {v : Selector}

theorem SameEffects.trans (h : m.SameEffects m') (h' : m'.SameEffects m'') : m.SameEffects m'' :=
  ⟨h'.state.trans h.state, h'.log.trans h.log, h'.chat.trans h.chat⟩

theorem sameEffects_settle {o : Outcome} (hstate : o.state = m.state)
    (hlog : Event.log o.events = []) (hchat : Event.chat o.events = []) :
    m.SameEffects (m.settle o) := by
  refine ⟨hstate, ?_, ?_⟩
  · rw [settle, Event.log_append, hlog, List.append_nil]
  · rw [settle, Event.chat_append, hchat, List.append_nil]

/-- What is over at once has no effect if it ends in the fault of a selector. -/
theorem sameEffects_settle_runWith {call : FunctionId → State → Outcome}
    (hk : ∀ id, k.innermost ≠ .function id)
    (h : (k.runWith call m.state).fault = some (.selector v)) :
    m.SameEffects (m.settle (k.runWith call m.state)) := by
  obtain ⟨e, he, -⟩ : (k.runWith call m.state).Ends m.state _ := ends_runWith hk m.state
  cases e with
  | fault => exact sameEffects_settle he.2.1 he.2.2.1 he.2.2.2
  | brokenOff => cases he.1.symm.trans h
  | failure | success => cases he.1.symm.trans h

theorem eq_of_resolve {target : Target} (h : target.resolve = .error (.selector v)) :
    target = .selector v := by
  cases target <;> cases h
  rfl

/-- A command that is begun and comes to a selector has it among its own targets, and does nothing
else. -/
theorem selector_of_perform (hm : m.fault = none)
    (h : (m.perform rules k).fault = some (.selector v)) :
    .selector v ∈ k.ownTargets ∧ m.SameEffects (m.perform rules k) := by
  have hmem : ∀ {targets : List Target},
      (∃ target ∈ targets, target.resolve = .error (.selector v)) → .selector v ∈ targets := by
    rintro targets ⟨target, ht, hr⟩
    exact eq_of_resolve hr ▸ ht
  cases k with
  | objectives c => exact ((objectives_effect c m.state).fault h).elim
  | players c =>
    refine ⟨hmem ?_, sameEffects_settle_runWith nofun h⟩
    rcases (players_effect c m.state).fault h with htarget | ⟨hunwritable, -⟩
    · exact htarget
    · cases hunwritable
  | tellraw target message =>
    refine ⟨hmem ⟨target, List.mem_singleton_self _, ?_⟩, sameEffects_settle_runWith nofun h⟩
    refine player?_eq_fault_iff.1 ?_
    cases hr : target.player? with
    | ok player => simp [perform, settle, Command.runWith, Outcome.preceded, Outcome.given, hr] at h
    | error refusal =>
      simp only [perform, settle, Command.runWith, Outcome.preceded, Outcome.given, hr] at h
      rw [Outcome.fault_refused_iff.1 h]
  | foreign kind => cases h
  | execute condition run =>
    rw [perform] at h ⊢
    cases htest : condition.test m.state with
    | error refusal =>
      rw [htest] at h
      obtain rfl := Outcome.fault_refused_iff.1 h
      exact ⟨hmem (resolve_of_test htest), sameEffects_settle rfl rfl rfl⟩
    | ok holds =>
      rw [htest] at h
      cases holds <;> cases h
  | function id =>
    -- a call comes to no selector by itself, and one that is entered is not at fault yet
    have hrefuse : (m.refuse rules id).fault ≠ some (.selector v) := by
      have hcall := Rules.fault_call_zero rules id m.state
      intro hselector
      rcases hcall with hnone | hunwritable
      · cases hnone.symm.trans hselector
      · cases hunwritable.symm.trans hselector
    rw [perform] at h
    split at h
    · exact absurd h hrefuse
    · split at h
      · cases hm.symm.trans h
      · exact absurd h hrefuse

theorem selector_of_step (hm : m.fault = none) (h : (m.step rules).fault = some (.selector v)) :
    m.Faces v ∧ m.SameEffects (m.step rules) := by
  cases htodo : m.todo with
  | nil => simp [step, htodo, hm] at h
  | cons task rest =>
    cases task with
    | leave => simp [step, htodo, leave, hm] at h
    | run k =>
      have hstep : m.step rules = { m with todo := rest }.perform rules k := by
        simp [step, htodo, hm]
      rw [hstep] at h ⊢
      obtain ⟨htarget, heffects⟩ := selector_of_perform (m := { m with todo := rest }) hm h
      exact ⟨⟨hm, k, rest, htodo, htarget⟩, heffects.state, heffects.log, heffects.chat⟩

theorem step_of_fault (rules : Rules) (hm : m.fault = some f) :
    (m.step rules).fault = some f ∧ m.SameEffects (m.step rules) := by
  cases htodo : m.todo with
  | nil =>
    have hstep : m.step rules = m := by simp [step, htodo]
    rw [hstep]
    exact ⟨hm, rfl, rfl, rfl⟩
  | cons task rest =>
    cases task with
    | leave =>
      have hstep : m.step rules = { m with todo := rest }.leave := by simp [step, htodo]
      rw [hstep]
      refine ⟨hm, rfl, ?_, ?_⟩
      · simp [leave, Event.log, Event.entry?]
      · simp [leave, Event.chat, Event.saying?]
    | run c =>
      have hstep : m.step rules = { m with todo := rest } := by simp [step, htodo, hm]
      rw [hstep]
      exact ⟨hm, rfl, rfl, rfl⟩

theorem iterate_step_of_fault (rules : Rules) (hm : m.fault = some f) (n : Nat) :
    ((step rules)^[n] m).fault = some f ∧ m.SameEffects ((step rules)^[n] m) := by
  induction n generalizing m with
  | zero => exact ⟨hm, rfl, rfl, rfl⟩
  | succ n ih =>
    obtain ⟨hfault, heffects⟩ := step_of_fault rules hm
    obtain ⟨hfault', heffects'⟩ := ih hfault
    exact ⟨hfault', heffects.trans heffects'⟩

/-- Where steps have come to a fault, one of them began the command that made it. -/
theorem exists_faces (hm : m.fault = none) (n : Nat)
    (h : ((step rules)^[n] m).fault = some (.selector v)) :
    ∃ m', Reaches rules m m' ∧ m'.Faces v ∧ Reaches rules m' ((step rules)^[n] m) ∧
      m'.SameEffects ((step rules)^[n] m) := by
  induction n generalizing m with
  | zero => cases hm.symm.trans h
  | succ n ih =>
    cases hstep : (m.step rules).fault with
    | none =>
      obtain ⟨m', hreach, hrest⟩ := ih hstep h
      exact ⟨m', (reaches_step rules m).trans hreach, hrest⟩
    | some f =>
      obtain ⟨hfault, hafter⟩ := iterate_step_of_fault rules hstep n
      obtain rfl : f = .selector v := Option.some.inj (hfault.symm.trans h)
      obtain ⟨hfaces, heffects⟩ := selector_of_step hm hstep
      exact ⟨m, .refl m, hfaces, ⟨n + 1, rfl⟩, heffects.trans hafter⟩

end Machine

theorem Command.SelectorFree.targetsMeet {c : Command} (h : c.SelectorFree) (hc : c.Addressed) :
    c.TargetsMeet fun _ => False := by
  intro target ht f hf
  cases target with
  | player name => cases hf
  | selector v => exact h _ ht v rfl
  | stray v => exact hc _ ht v rfl

/-- Commands that address players or entities come to an end with every step defined. They end in no
fault, in that of a selector, or in a report with an integer that cannot be written; the last
happens only where an amount, a score or the limit on calls has too many digits, and where these do
not and no selector is named there is no fault. With a selector, a command was begun that has it
among its own targets; what was done, logged and said by then stays, and no more is. -/
theorem faults_unwind (rules : Rules) (c : Command) (s : State) (hall : rules.All Command.Addressed)
    (hc : c.Addressed) :
    let o := c.run rules s
    let written := rules.Writable ∧ c.Writable ∧ s.Writable
    c.attempt rules s = .ok o ∧
    (o.fault = none ∨ (∃ v, o.fault = some (.selector v)) ∨
      (∃ level, o.fault = some (.unwritable level)) ∧ ¬ written) ∧
    (rules.All Command.SelectorFree → c.SelectorFree →
      o.fault = none ∨ (∃ level, o.fault = some (.unwritable level)) ∧ ¬ written) ∧
    ∀ v, o.fault = some (.selector v) → ∃ m,
      Machine.Reaches rules (Standing.given ⟨s, 0⟩ c) m ∧ m.Faces v ∧
      Machine.Reaches rules m ⟨o.state, 0, [], o.events, o.fault⟩ ∧
      o.state = m.state ∧ Event.log o.events = Event.log m.events ∧
      Event.chat o.events = Event.chat m.events := by
  intro o written
  refine ⟨Command.attempt_eq rules c s, ?_, fun hfree hcfree => ?_, fun v hv => ?_⟩
  · cases hf : o.fault with
    | none => exact .inl rfl
    | some f =>
      refine .inr ((fault_of_addressed hall hc hf).imp ?_ ?_)
      · rintro ⟨v, rfl⟩
        exact ⟨v, rfl⟩
      · rintro ⟨⟨level, rfl⟩, hwritten⟩
        exact ⟨⟨level, rfl⟩, hwritten⟩
  · have hbodies : rules.All (Command.TargetsMeet fun _ => False) := fun pack hp g hg d hd =>
      (hfree pack hp g hg d hd).targetsMeet (hall pack hp g hg d hd)
    cases hf : o.fault with
    | none => exact .inl rfl
    | some f =>
      rcases fault_of_run hbodies (hcfree.targetsMeet hc) hf with hfalse | ⟨⟨level, rfl⟩, hwritten⟩
      · exact hfalse.elim
      · exact .inr ⟨⟨level, rfl⟩, hwritten⟩
  · obtain ⟨n, hn⟩ := Standing.reaches_run rules s c
    have hfault :
        ((Machine.step rules)^[n] (Standing.given ⟨s, 0⟩ c)).fault = some (.selector v) := by
      rw [hn]
      exact hv
    obtain ⟨m, hreach, hfaces, hrest, heffects⟩ := Machine.exists_faces rfl n hfault
    rw [hn] at hrest heffects
    exact ⟨m, hreach, hfaces, hrest, heffects.state, heffects.log, heffects.chat⟩

/-- A command that names no selector ends in a fault: its score has too many digits to be told. -/
theorem set_overlong_unwritable :
    let c : Command := .players (.set (.player "a") "o" overlong)
    c.Addressed ∧ c.SelectorFree ∧
      (c.run ⟨none, 64⟩ (twoScores 7 0)).fault = some (.unwritable .info) := by
  intro c
  refine ⟨List.forall_mem_singleton.2 nofun, List.forall_mem_singleton.2 nofun, ?_⟩
  exact congrArg Outcome.fault (putScore_overlong 7 0)

/-- The function creates an objective, and comes to a selector before it says anything. -/
theorem faults_unwind_function :
    let rules : Rules := ⟨some ⟨"pack", [⟨⟨"f", none⟩, [.objectives (.add "o" .dummy none),
      .players (.add (.selector .a) "o" 1), .tellraw (.player "b") "done"]⟩]⟩, 1⟩
    ∃ m, Machine.Reaches rules (Standing.given ⟨State.empty, 0⟩ (.function ⟨"f", none⟩)) m ∧
      m.Faces .a ∧ m.state.objectives.keys = ["o"] ∧ Event.chat m.events = [] := by
  intro rules
  have hall : rules.All Command.Addressed := by
    rintro pack ⟨⟩ f hf c hc
    obtain rfl := List.mem_singleton.1 hf
    simp only [List.mem_cons, List.not_mem_nil, or_false] at hc
    rcases hc with rfl | rfl | rfl <;>
      simp [Command.Addressed, Command.targets, PlayersCommand.targets]
  obtain ⟨-, -, -, h⟩ := faults_unwind rules (.function ⟨"f", none⟩) State.empty hall
    (by simp [Command.Addressed, Command.targets])
  obtain ⟨m, hreach, hfaces, -, hstate, -, hchat⟩ := h .a (by decide)
  refine ⟨m, hreach, hfaces, ?_, ?_⟩
  · rw [← hstate]
    decide
  · rw [← hchat]
    decide

end Scoreboard
