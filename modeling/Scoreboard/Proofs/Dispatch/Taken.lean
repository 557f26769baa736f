import Scoreboard.Proofs.Command.Overlong
import Scoreboard.Proofs.Command.RoundTrip
import Scoreboard.Proofs.Dispatch.Ledger
import Scoreboard.Proofs.Game.Faults

namespace Scoreboard

/-- The job has been carried out or rejected, and is on record as finished. -/
def Job.Ended (job : Job) : Prop :=
  job.finished = true ∧
    (job.status = .succeeded ∨ job.status = .rejected ∨ job.status = .failed)

/-- Nothing is on record of the job but that it was taken. -/
def Job.Abandoned (job : Job) : Prop :=
  job = { Job.fresh job.line with status := .running }

/-- What can end a worker: a line with a numeral that is too long, or a command whose run, after
lines that were run before, ends in a fault by which no job can fail. That is the fault of a target
in the datapack that is a stray value, or of an amount in it, or of the limit on nested calls, that
has too many digits to be told. -/
def EndsWorker (rules : Rules) (line : String) : Prop :=
  parse line = .error .numeralTooLong ∧ HoldsOverlong line.toList ∨
    ∃ c before f, parse line = .ok c ∧
      (c.run rules (rules.runEach before .empty).1).fault = some f ∧
      ((∃ v, f = .stray v) ∧ ¬ rules.All Command.Addressed ∨
        (∃ level, f = .unwritable level) ∧ ¬ rules.Writable)

/-- Lines by themselves bring no score into a game that cannot be written. -/
theorem Rules.Writable.runEach {rules : Rules} (hw : rules.Writable) (lines : List String)
    {s : State} (hs : s.Writable) : (rules.runEach lines s).1.Writable := by
  induction lines generalizing s with
  | nil => exact hs
  | cons line rest ih =>
    refine ih ?_
    cases hp : parse line with
    | error e =>
      rw [(Dispatcher.runLine_of_error rules s hp).1]
      exact hs
    | ok c =>
      rw [(Dispatcher.runLine_of_ok rules s hp).1]
      exact Rules.run_keeps (hw.commands.imp fun _ => Command.Writable.keeps)
        (wellFormed_of_parse hp).writable.keeps hs

namespace Dispatcher

theorem abandoned_crash (line : String) (o : Outcome) :
    ((Verdict.crash o).record line).Abandoned :=
  rfl

theorem ended_ran (line : String) (o : Outcome) : ((Verdict.ran o).record line).Ended := by
  rw [Verdict.record]
  split
  · exact ⟨rfl, .inl rfl⟩
  · exact ⟨rfl, .inr (.inr rfl)⟩

theorem endsWorker_of_fault {rules : Rules} {line : String} {c : Command} {before : List String}
    {f : Fault} (hp : parse line = .ok c)
    (hf : (c.run rules (rules.runEach before .empty).1).fault = some f)
    (hselector : ∀ v, f ≠ .selector v) : EndsWorker rules line := by
  refine .inr ⟨c, before, f, hp, hf, ?_⟩
  cases f with
  | selector v => exact absurd rfl (hselector v)
  | stray v =>
    refine .inl ⟨⟨v, rfl⟩, fun hall => ?_⟩
    rcases fault_of_addressed hall (wellFormed_of_parse hp).addressed hf with
      ⟨v, hv⟩ | ⟨⟨level, hlevel⟩, -⟩
    · cases hv
    · cases hlevel
  | unwritable level =>
    refine .inr ⟨⟨level, rfl⟩, fun hw => ?_⟩
    exact not_writable_of_unwritable hf
      ⟨hw, (wellFormed_of_parse hp).writable, hw.runEach before .empty⟩

/-- A job ends or is abandoned, whatever its line is and the lines before it were. -/
theorem ended_or_abandoned (rules : Rules) (line : String) (before : List String) :
    let job := (judge rules line (rules.runEach before .empty).1).record line
    job.Ended ∧ parse line ≠ .error .numeralTooLong ∨ job.Abandoned ∧ EndsWorker rules line := by
  rcases judge_cases rules line (rules.runEach before .empty).1 with
    ⟨e, hp, hj⟩ | ⟨hp, hj⟩ | ⟨c, hp, -, hj⟩ | ⟨c, f, hp, hf, hselector, hj⟩
  · rw [hj]
    exact .inl ⟨⟨rfl, .inr (.inl rfl)⟩, by simp [hp]⟩
  · rw [hj]
    exact .inr ⟨abandoned_crash line _, .inl ⟨hp, holdsOverlong_of_parse hp⟩⟩
  · rw [hj]
    exact .inl ⟨ended_ran line _, by simp [hp]⟩
  · rw [hj]
    exact .inr ⟨abandoned_crash line _, endsWorker_of_fault hp hf hselector⟩

variable {rules : Rules} {memory : Nat} {done waiting : List (Nat × String)}
  {notices : List Notice} {d : Dispatcher}

theorem Tracks.writable (h : Tracks rules done waiting notices d) (hw : rules.Writable) :
    d.game.Writable := by
  have hgame := hw.runEach (done.map Prod.snd) .empty
  rw [h.played] at hgame
  exact hgame

theorem Ledger.ended_or_abandoned (h : Ledger rules memory done waiting notices d) {number : Nat}
    {job : Job} (hn : number ∈ Notice.takings notices) (hjob : d.job? number = some job) :
    job.Ended ∧ parse job.line ≠ .error .numeralTooLong ∨
      job.Abandoned ∧ EndsWorker rules job.line := by
  obtain ⟨line, before, hrecord⟩ := h.exists_record hn
  obtain rfl := Option.some.inj (hjob.symm.trans hrecord)
  rw [line_record]
  exact Dispatcher.ended_or_abandoned rules line before

end Dispatcher

def Act.switch (on : Bool) : Act → Bool
  | start => true
  | stop => false
  | _ => on

/-- Whether the last start in a run comes after the last stop. -/
def Act.lastStarts (acts : List Act) : Bool :=
  acts.foldl Act.switch false

namespace Dispatcher

variable {d : Dispatcher} {notices : List Notice}

theorem worker?_start (d : Dispatcher) : d.start.1.worker? = some .live := by
  unfold start
  split
  · assumption
  · simp [worker?]

theorem current_stop (d : Dispatcher) : d.stop.1.current = none := by
  unfold stop
  split
  · assumption
  · split <;> rfl

theorem isSome_current_act (d : Dispatcher) (a : Act) :
    (d.act a).1.current.isSome = a.switch d.current.isSome := by
  cases a with
  | start =>
    obtain ⟨i, hi, -⟩ := Option.bind_eq_some_iff.1 (worker?_start d)
    exact congrArg Option.isSome hi
  | stop => exact congrArg Option.isSome (current_stop d)
  | submit line =>
    show (d.submit line).1.current.isSome = _
    rw [submit_eq]
    split <;> rfl
  | work i =>
    show (d.work i).1.current.isSome = _
    unfold work
    split
    · split <;> rfl
    · rfl

theorem isSome_current_run (d : Dispatcher) (acts : List Act) :
    (d.run acts).1.current.isSome = acts.foldl Act.switch d.current.isSome := by
  induction acts generalizing d with
  | nil => rfl
  | cons a rest ih => rw [run_cons, ih, isSome_current_act, List.foldl_cons]

/-- A dispatcher that is switched on has a live worker, unless the job taken last has ended it. -/
def Staffed (notices : List Notice) (d : Dispatcher) : Prop :=
  d.current.isSome = true → d.worker? = some .live ∨
    ∃ number job, (Notice.takings notices).getLast? = some number ∧ d.job? number = some job ∧
      job.finished = false

theorem Staffed.submit (h : Staffed notices d) (line : String) :
    Staffed (notices ++ (d.submit line).2.2) (d.submit line).1 := by
  have htakings : Notice.takings (d.submit line).2.2 = [] := by
    rw [submit_eq]
    split <;> rfl
  have hworker : (d.submit line).1.worker? = d.worker? := by
    rw [submit_eq]
    split <;> rfl
  have hcurrent : (d.submit line).1.current = d.current := by
    rw [submit_eq]
    split <;> rfl
  intro hon
  rw [hcurrent] at hon
  rw [hworker, Notice.takings_append, htakings, List.append_nil]
  rcases h hon with hlive | ⟨number, job, hlast, hjob, hunfinished⟩
  · exact .inl hlive
  · refine .inr ⟨number, job, hlast, ?_, hunfinished⟩
    rw [job?, jobs_submit, List.getElem?_append_left (List.getElem?_eq_some_iff.1 hjob).1]
    exact hjob

theorem Staffed.work (h : Staffed notices d) (ho : d.Orderly) (i : Nat) :
    Staffed (notices ++ (d.work i).2) (d.work i).1 := by
  rcases work_cases ho i with hw | ⟨number, rest, job, hlive, hqueue, hjob, hw⟩
  · rw [hw, List.append_nil]
    exact h
  · rw [hw]
    intro hon
    have hlast : (Notice.takings (notices ++
        .taken number :: (judge d.rules job.line d.game).notices number)).getLast? =
          some number := by
      rw [Notice.takings_append, ← List.singleton_append, Notice.takings_append, takings_verdict]
      exact List.getLast?_concat
    have hrecord : (d.afterJob i number rest job).job? number =
        some ((judge d.rules job.line d.game).record job.line) :=
      List.getElem?_set_self (List.getElem?_eq_some_iff.1 hjob).1
    cases hv : judge d.rules job.line d.game with
    | crash o =>
      rw [hv] at hlast hrecord
      exact .inr ⟨number, _, hlast, hrecord, rfl⟩
    | rejected e | ran o =>
      -- the worker goes on, and it is the current one because it is live
      refine .inl ?_
      rw [worker?, afterJob, hv, ho.current_of_live i hlive]
      exact hlive

theorem Staffed.act (h : Staffed notices d) (ho : d.Orderly) (a : Act) :
    Staffed (notices ++ (d.act a).2) (d.act a).1 := by
  cases a with
  | start => exact fun _ => .inl (worker?_start d)
  | stop =>
    intro hon
    rw [show (d.act .stop).1.current = none from current_stop d] at hon
    cases hon
  | submit line => exact h.submit line
  | work i => exact h.work ho i

theorem Staffed.run (h : Staffed notices d) (ho : d.Orderly) (acts : List Act) :
    Staffed (notices ++ (d.run acts).2) (d.run acts).1 := by
  induction acts generalizing notices d with
  | nil => simpa using h
  | cons a rest ih =>
    rw [run_cons, ← List.append_assoc]
    exact ih (h.act ho a) (ho.act a)

theorem staffed_fresh (rules : Rules) (capacity : Int) (memory : Nat) :
    Staffed [] (fresh rules capacity memory) := by
  intro hon
  cases hon

/-- At every point of every run each job that was taken has ended, or has been abandoned where its
line, the datapack or the limit on nested calls can end a worker. No other job is on record as
running, the history has the last of the jobs that finished, and a dispatcher that was started has a
live worker unless the job taken last was abandoned. -/
theorem taken_jobs_end_or_are_abandoned (rules : Rules) (capacity : Int) (memory : Nat)
    (acts : List Act) :
    ∃ (reached : Dispatcher) (notices : List Notice),
      (fresh rules capacity memory).run acts = (reached, notices) ∧
      (∀ number ∈ Notice.takings notices, ∃ job, reached.job? number = some job ∧
        (job.Ended ∧ parse job.line ≠ .error .numeralTooLong ∨
          job.Abandoned ∧ EndsWorker rules job.line)) ∧
      (∀ number job, reached.job? number = some job → job.status = .running →
        number ∈ Notice.takings notices ∧ job.Abandoned ∧ EndsWorker rules job.line) ∧
      reached.history =
        ((Notice.takings notices).filter reached.isFinished).reverse.take memory ∧
      (Act.lastStarts acts = true → reached.worker? = some .live ∨
        ∃ number job, (Notice.takings notices).getLast? = some number ∧
          reached.job? number = some job ∧ job.Abandoned ∧ EndsWorker rules job.line) := by
  obtain ⟨done, waiting, -, h⟩ := ledger_run rules capacity memory acts
  have hstaffed : Staffed ((fresh rules capacity memory).run acts).2
      ((fresh rules capacity memory).run acts).1 :=
    (staffed_fresh rules capacity memory).run (orderly_fresh rules capacity memory) acts
  refine ⟨_, _, rfl, ?_, ?_, ?_, ?_⟩
  · intro number hn
    obtain ⟨line, before, hjob⟩ := h.exists_record hn
    exact ⟨_, hjob, h.ended_or_abandoned hn hjob⟩
  · intro number job hjob hrunning
    have hn : number ∈ Notice.takings ((fresh rules capacity memory).run acts).2 := by
      by_contra hn
      rw [h.takings] at hn
      rw [h.untouched number job hjob hn] at hrunning
      cases hrunning
    rcases h.ended_or_abandoned hn hjob with ⟨⟨-, hended⟩, -⟩ | habandoned
    · simp [hrunning] at hended
    · exact ⟨hn, habandoned⟩
  · rw [h.history, h.takings]
  · intro hon
    have hcurrent := isSome_current_run (fresh rules capacity memory) acts
    rcases hstaffed (hcurrent.trans hon) with hlive | ⟨number, job, hlast, hjob, hunfinished⟩
    · exact .inl hlive
    · rcases h.ended_or_abandoned (List.mem_of_getLast? hlast) hjob with
        ⟨⟨hended, -⟩, -⟩ | habandoned
      · simp [hunfinished] at hended
      · exact .inr ⟨number, job, hlast, hjob, habandoned⟩

theorem run_crash (rules : Rules) (capacity : Int) (memory : Nat) {line : String} {o : Outcome}
    (h : judge rules line .empty = .crash o) :
    (fresh rules capacity memory).run [.start, .submit line, .work 0] =
      ({ fresh rules capacity memory with
          jobs := [{ Job.fresh line with status := .running }]
          workers := [.crashed]
          current := some 0
          game := o.state },
        .started capacity :: .submitted 0 line 1 :: .taken 0 :: o.events.map .game) := by
  have hfull : ¬ (0 < capacity ∧ capacity ≤ 0) := by omega
  simp [run_cons, act, fresh, start, worker?, submit, isFull, hfull, work, afterJob, h,
    Job.fresh, Verdict.record, Verdict.stateAfter, Verdict.notices]

/-- A job with a numeral of too many zeros is taken, but does not end. -/
theorem not_all_taken_jobs_end :
    ¬ ∀ (rules : Rules) (capacity : Int) (memory : Nat) (acts : List Act),
      ∀ number ∈ Notice.takings ((fresh rules capacity memory).run acts).2, ∀ job,
        ((fresh rules capacity memory).run acts).1.job? number = some job → job.Ended := by
  intro h
  obtain ⟨line, hline⟩ : ∃ line, parse line = .error .numeralTooLong := ⟨_, parse_overlongCommand⟩
  have hjudge : judge ⟨none, 64⟩ line .empty = .crash (.nothing .empty) := by simp [judge, hline]
  have hended := h ⟨none, 64⟩ 1 1 [.start, .submit line, .work 0] 0
  rw [run_crash _ _ _ hjudge] at hended
  obtain ⟨hfinished, -⟩ := hended (List.mem_singleton_self 0) _ rfl
  cases hfinished

end Dispatcher

end Scoreboard
