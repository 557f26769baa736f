import Scoreboard.Proofs.Dispatch.Outputs

namespace Scoreboard

open Dispatcher

/-- Only a job that has ended has an output, and an error if it was not carried out to its end. -/
structure Job.Consistent (job : Job) : Prop where
  pending : job.status = .queued ∨ job.status = .running →
    job.error = none ∧ job.output = [] ∧ job.finished = false
  finished_iff : job.finished = true ↔
    job.status = .succeeded ∨ job.status = .rejected ∨ job.status = .failed
  error_iff : job.error.isSome = true ↔ job.status = .rejected ∨ job.status = .failed

/-- The record tells what its line is and what became of the command on it in a given game. -/
structure Job.TellsOf (rules : Rules) (game : State) (job : Job) : Prop where
  rejected_iff : job.status = .rejected ↔ ∃ e, parse job.line = .error (.invalid e)
  failed_iff : job.status = .failed ↔
    ∃ c v, parse job.line = .ok c ∧ (c.run rules game).fault = some (.selector v)
  succeeded_iff : job.status = .succeeded ↔
    ∃ c, parse job.line = .ok c ∧ (c.run rules game).fault = none
  of_invalid {e : SyntaxError} : parse job.line = .error (.invalid e) →
    job.error = some e.message ∧ job.output = []
  of_fault {c : Command} {f : Fault} : parse job.line = .ok c →
    (c.run rules game).fault = some f → job.error = some f.message

namespace Dispatcher

theorem consistent_fresh (line : String) : (Job.fresh line).Consistent :=
  ⟨fun _ => ⟨rfl, rfl, rfl⟩, by simp [Job.fresh], by simp [Job.fresh]⟩

theorem consistent_record (line : String) (v : Verdict) : (v.record line).Consistent := by
  cases v with
  | rejected e => constructor <;> simp [Verdict.record]
  | crash o => constructor <;> simp [Verdict.record]
  | ran o =>
    rw [Verdict.record]
    split <;> constructor <;> simp

theorem tellsOf_rejected {rules : Rules} {line : String} {game : State} {e : SyntaxError}
    (h : parse line = .error (.invalid e)) :
    ((Verdict.rejected e).record line).TellsOf rules game := by
  constructor <;> simp [Verdict.record, h]

theorem tellsOf_ran {rules : Rules} {line : String} {game : State} {c : Command}
    (h : parse line = .ok c)
    (hselector : ∀ f, (c.run rules game).fault = some f → ∃ v, f = .selector v) :
    ((Verdict.ran (c.run rules game)).record line).TellsOf rules game := by
  have hfault : ∀ {c' : Command} {f : Fault}, parse line = .ok c' →
      (c'.run rules game).fault = some f → (c.run rules game).fault = some f := by
    intro c' f hc' hf
    rwa [Except.ok.inj (h.symm.trans hc')]
  rw [Verdict.record]
  cases hf : (c.run rules game).fault with
  | none =>
    refine ⟨by simp [h], by simp [h, hf], by simp [h, hf], by simp [h], fun hc' hf' => ?_⟩
    cases hf.symm.trans (hfault hc' hf')
  | some f =>
    obtain ⟨v, rfl⟩ := hselector f hf
    refine ⟨by simp [h], by simp [h, hf], by simp [h, hf], by simp [h], fun hc' hf' => ?_⟩
    cases hf.symm.trans (hfault hc' hf')
    rfl

theorem tellsOf_record {rules : Rules} {line : String} {game : State}
    (h : ((judge rules line game).record line).finished = true) :
    ((judge rules line game).record line).TellsOf rules game := by
  rcases judge_cases rules line game with
    ⟨e, hp, hj⟩ | ⟨hp, hj⟩ | ⟨c, hp, hselector, hj⟩ | ⟨c, f, hp, hf, -, hj⟩
  · rw [hj]
    exact tellsOf_rejected hp
  · rw [hj] at h
    cases h
  · rw [hj]
    exact tellsOf_ran hp hselector
  · rw [hj] at h
    cases h

variable {rules : Rules} {memory : Nat} {done waiting : List (Nat × String)}
  {notices : List Notice} {d : Dispatcher}

theorem Ledger.consistent (h : Ledger rules memory done waiting notices d) {number : Nat}
    {job : Job}
    (hjob : d.job? number = some job) : job.Consistent := by
  by_cases hn : number ∈ done.map Prod.fst
  · obtain ⟨line, game, hrecord⟩ := h.exists_record (h.takings ▸ hn)
    rw [Option.some.inj (hjob.symm.trans hrecord)]
    exact consistent_record line _
  · rw [h.untouched number job hjob hn]
    exact consistent_fresh job.line

theorem Ledger.run (h : Ledger rules memory done waiting notices d) (acts : List Act) :
    ∃ more waiting', Ledger rules memory (done ++ more) waiting' (notices ++ (d.run acts).2)
      (d.run acts).1 := by
  obtain ⟨done', waiting', hsplit, h'⟩ := (kept_ledger rules memory).run h acts
  have hlength : done.length ≤ done'.length := by
    have htakings := congrArg List.length h'.takings
    rw [Notice.takings_append, h.takings, List.length_append, List.length_map,
      List.length_map] at htakings
    omega
  -- both begin the list of all submissions that were accepted
  have hbegins : done <+: done' ++ waiting' := ⟨waiting ++ d.accepted acts, by rw [← hsplit]; simp⟩
  obtain ⟨more, rfl⟩ := List.prefix_of_prefix_length_le hbegins (List.prefix_append _ _) hlength
  exact ⟨more, waiting', h'⟩

/-- The record of a job that was done says what it did before, and the job is not taken again. -/
theorem Ledger.job?_run (h : Ledger rules memory done waiting notices d) {number : Nat}
    {line : String} (hn : (number, line) ∈ done) (acts : List Act) :
    (d.run acts).1.job? number = d.job? number ∧ number ∉ Notice.takings (d.run acts).2 := by
  obtain ⟨more, waiting', h'⟩ := h.run acts
  constructor
  · obtain ⟨before, after, rfl⟩ := List.append_of_mem hn
    rw [List.append_assoc, List.cons_append] at h'
    rw [h.record_at, h'.record_at]
  · have htakings := h'.takings
    rw [Notice.takings_append, h.takings, List.map_append, List.append_cancel_left_eq] at htakings
    have hincreasing := h'.increasing
    rw [List.append_assoc, List.map_append, List.pairwise_append] at hincreasing
    rw [htakings]
    intro hmore
    refine Nat.lt_irrefl number (hincreasing.2.2 number (List.mem_map_of_mem hn) number ?_)
    rw [List.map_append]
    exact List.mem_append_left _ hmore

/-- At every point of every run the records of all jobs are consistent. That of a finished job tells
what became of its line in the game that the jobs taken before it have led to; the job is never
taken again, and its record stays as it is, whatever is done later. -/
theorem records_are_consistent_and_final (rules : Rules) (capacity : Int) (memory : Nat)
    (acts : List Act) :
    ∃ (reached : Dispatcher) (notices : List Notice) (done : List (Nat × String)),
      (fresh rules capacity memory).run acts = (reached, notices) ∧
      Notice.takings notices = done.map Prod.fst ∧
      (rules.runEach (done.map Prod.snd) .empty).1 = reached.game ∧
      ∀ number job, reached.job? number = some job → job.Consistent ∧
        (job.finished = true →
          (∃ before after, done = before ++ (number, job.line) :: after ∧
            job.TellsOf rules (rules.runEach (before.map Prod.snd) .empty).1) ∧
          ∀ later, (reached.run later).1.job? number = some job ∧
            number ∉ Notice.takings (reached.run later).2) := by
  obtain ⟨done, waiting, -, h⟩ := ledger_run rules capacity memory acts
  refine ⟨_, _, done, rfl, h.takings, congrArg Prod.fst h.played, fun number job hjob => ?_⟩
  refine ⟨h.consistent hjob, fun hfinished => ?_⟩
  have hdone := h.mem_done hjob hfinished
  constructor
  · obtain ⟨before, after, rfl⟩ := List.append_of_mem hdone
    have hrecord := Option.some.inj (hjob.symm.trans h.record_at)
    refine ⟨before, after, rfl, ?_⟩
    have htells := tellsOf_record (by rw [← hrecord]; exact hfinished)
    rwa [← hrecord] at htells
  · intro later
    obtain ⟨hsame, hnew⟩ := h.job?_run hdone later
    exact ⟨hsame.trans hjob, hnew⟩

/-- A job that failed half-way, with another waiting behind it. -/
theorem records_are_consistent_and_final_faulty :
    let reached := ((fresh faultyRules 9 9).run
      [.start, .submit "function f", .submit "function f", .work 0]).1
    ∃ job, reached.job? 0 = some job ∧ job.status = .failed ∧ reached.queue = [1] ∧
      ∀ later, (reached.run later).1.job? 0 = some job := by
  intro reached
  have hjob : reached.job? 0 = some ⟨"function f", .failed, [(.info, "There are no objectives")],
      some (Fault.selector .a).message, true⟩ := by decide +kernel
  obtain ⟨_, _, _, hrun, -, -, hrecords⟩ := records_are_consistent_and_final faultyRules 9 9
    [.start, .submit "function f", .submit "function f", .work 0]
  rw [show reached = _ from congrArg Prod.fst hrun] at hjob ⊢
  have hfinal := ((hrecords 0 _ hjob).2 rfl).2
  refine ⟨_, hjob, rfl, ?_, fun later => (hfinal later).1⟩
  rw [← show reached = _ from congrArg Prod.fst hrun]
  decide +kernel

end Dispatcher

end Scoreboard
