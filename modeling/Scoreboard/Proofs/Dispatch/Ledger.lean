import Scoreboard.Proofs.Dispatch.Sequential

namespace Scoreboard

open Dispatcher

/-- The records of jobs with these lines, each judged where the one before has left the game. -/
def Rules.records (rules : Rules) : List String → State → List Job
  | [], _ => []
  | line :: rest, s =>
    let verdict := judge rules line s
    verdict.record line :: rules.records rest (verdict.stateAfter s)

theorem records_append (rules : Rules) (first second : List String) (s : State) :
    rules.records (first ++ second) s =
      rules.records first s ++ rules.records second (rules.runEach first s).1 := by
  induction first generalizing s with
  | nil => rfl
  | cons line rest ih =>
    have hstate := (judge_eq_runLine rules line s 0).1
    simp [Rules.records, Rules.runEach, ih, hstate]

theorem records_concat (rules : Rules) (lines : List String) (line : String) (s : State) :
    rules.records (lines ++ [line]) s =
      rules.records lines s ++ [(judge rules line (rules.runEach lines s).1).record line] :=
  records_append rules lines [line] s

theorem length_records (rules : Rules) (lines : List String) (s : State) :
    (rules.records lines s).length = lines.length := by
  induction lines generalizing s with
  | nil => rfl
  | cons line rest ih => exact congrArg (· + 1) (ih _)

namespace Dispatcher

def isFinished (d : Dispatcher) (number : Nat) : Bool :=
  (d.job? number).any Job.finished

theorem isFinished_congr {d d' : Dispatcher} {number : Nat}
    (h : d'.jobs[number]? = d.jobs[number]?) : d'.isFinished number = d.isFinished number :=
  congrArg (Option.any Job.finished) h

/-- A dispatcher with its books in order: each job that was done is on record as its line was judged
at its turn, nothing is on record of any other, and the history has the last of those that finished.
-/
structure Ledger (rules : Rules) (memory : Nat) (done waiting : List (Nat × String))
    (notices : List Notice) (d : Dispatcher) : Prop
    extends Tracks rules done waiting notices d where
  memory_eq : d.memory = memory
  records : done.map (fun entry => d.jobs[entry.1]?) =
    (rules.records (done.map Prod.snd) .empty).map some
  untouched : ∀ number job, d.jobs[number]? = some job → number ∉ done.map Prod.fst →
    job = .fresh job.line
  history : d.history = ((done.map Prod.fst).filter d.isFinished).reverse.take memory

variable {rules : Rules} {memory : Nat} {done waiting : List (Nat × String)}
  {notices : List Notice} {d : Dispatcher}

theorem ledger_fresh (rules : Rules) (capacity : Int) (memory : Nat) :
    Ledger rules memory [] [] [] (fresh rules capacity memory) where
  toTracks := tracks_fresh rules capacity memory
  memory_eq := rfl
  records := rfl
  untouched := nofun
  history := List.take_nil.symm

/-- The books stay in order where the records of the jobs that were done and the history do. -/
theorem Ledger.of_jobs (h : Ledger rules memory done waiting notices d)
    {waiting' : List (Nat × String)} {notices' : List Notice} {d' : Dispatcher}
    (ht : Tracks rules done waiting' notices' d') (hmemory : d'.memory = d.memory)
    (hhistory : d'.history = d.history)
    (hjobs : ∀ entry ∈ done, d'.jobs[entry.1]? = d.jobs[entry.1]?)
    (huntouched : ∀ number job, d'.jobs[number]? = some job → number ∉ done.map Prod.fst →
      job = .fresh job.line) : Ledger rules memory done waiting' notices' d' where
  toTracks := ht
  memory_eq := hmemory.trans h.memory_eq
  records := (List.map_congr_left hjobs).trans h.records
  untouched := huntouched
  history := by
    have hfinished : ∀ number ∈ done.map Prod.fst, d.isFinished number = d'.isFinished number := by
      intro number hn
      obtain ⟨entry, he, rfl⟩ := List.mem_map.1 hn
      exact (isFinished_congr (hjobs entry he)).symm
    rw [hhistory, h.history, List.filter_congr hfinished]

theorem Ledger.idle (h : Ledger rules memory done waiting notices d) {r : Dispatcher × List Notice}
    (ho : r.1.Orderly) (hr : d.Idle r) : Ledger rules memory done waiting (notices ++ r.2) r.1 := by
  refine h.of_jobs (h.toTracks.idle ho hr) hr.memory hr.history (fun _ _ => by rw [hr.jobs]) ?_
  rw [hr.jobs]
  exact h.untouched

theorem Ledger.submit (h : Ledger rules memory done waiting notices d) (line : String) :
    Ledger rules memory done (waiting ++ (d.acceptedBy (.submit line)).toList)
      (notices ++ (d.submit line).2.2) (d.submit line).1 := by
  refine h.of_jobs (h.toTracks.submit line) ?_ ?_ ?_ ?_
  · rw [submit_eq]
    split <;> rfl
  · rw [submit_eq]
    split <;> rfl
  · intro entry he
    have hlt : entry.1 < d.jobs.length :=
      h.number_lt (List.mem_map_of_mem (List.mem_append_left _ he))
    rw [jobs_submit]
    exact List.getElem?_append_left hlt
  · intro number job hjob hn
    rw [jobs_submit, List.getElem?_append] at hjob
    split at hjob
    · exact h.untouched number job hjob hn
    · rw [List.mem_singleton.1 (List.mem_of_getElem? hjob)]
      rfl

theorem take_cons_take {α : Type} (a : α) (l : List α) (n : Nat) :
    (a :: l.take n).take n = (a :: l).take n := by
  cases n with
  | zero => rfl
  | succ n =>
    rw [List.take_succ_cons, List.take_succ_cons, List.take_take, Nat.min_eq_left (by omega)]

theorem Ledger.afterJob {number : Nat} {job : Job} {others : List (Nat × String)}
    (h : Ledger rules memory done ((number, job.line) :: others) notices d)
    (hjob : d.jobs[number]? = some job) (i : Nat) :
    Ledger rules memory (done ++ [(number, job.line)]) others
      (notices ++ .taken number :: (judge d.rules job.line d.game).notices number)
      (d.afterJob i number (others.map Prod.fst) job) := by
  let d' := d.afterJob i number (others.map Prod.fst) job
  let record := (judge d.rules job.line d.game).record job.line
  have hlt : number < d.jobs.length := (List.getElem?_eq_some_iff.1 hjob).1
  have hrecord : d'.jobs[number]? = some record := List.getElem?_set_self hlt
  have hother : ∀ n, n ≠ number → d'.jobs[n]? = d.jobs[n]? := fun n hn =>
    List.getElem?_set_ne hn.symm
  -- the job has a greater number than all that were done before
  have hdone : ∀ entry ∈ done, entry.1 ≠ number := by
    intro entry he
    obtain ⟨-, -, hlt⟩ := h.split_increasing
    exact Nat.ne_of_lt (hlt _ (List.mem_map_of_mem he) number List.mem_cons_self)
  refine ⟨h.toTracks.afterJob hjob i, h.memory_eq, ?_, ?_, ?_⟩
  · rw [List.map_append, List.map_append, List.map_singleton, List.map_singleton, records_concat,
      h.played, List.map_append, ← h.records, ← h.rules_eq]
    exact congrArg₂ _ (List.map_congr_left fun entry he => hother _ (hdone entry he))
      (congrArg List.singleton hrecord)
  · intro n other hn hout
    rw [List.map_append, List.mem_append, not_or] at hout
    rw [hother n (by simpa using hout.2)] at hn
    exact h.untouched n other hn hout.1
  · have hfilter : (done.map Prod.fst).filter d'.isFinished =
        (done.map Prod.fst).filter d.isFinished := by
      refine List.filter_congr fun n hn => ?_
      obtain ⟨entry, he, rfl⟩ := List.mem_map.1 hn
      exact isFinished_congr (hother _ (hdone entry he))
    have hfinished : d'.isFinished number = record.finished := by
      rw [isFinished, job?, hrecord]
      rfl
    rw [List.map_append, List.filter_append, hfilter, List.map_singleton]
    show (if record.finished then (number :: d.history).take d.memory else d.history) = _
    cases hf : record.finished with
    | true =>
      rw [List.filter_singleton, hfinished, hf, cond_true, List.reverse_append,
        List.reverse_singleton, List.singleton_append, if_pos rfl, h.history, h.memory_eq,
        take_cons_take]
    | false =>
      rw [List.filter_singleton, hfinished, hf, cond_false, List.append_nil, if_neg nofun,
        h.history]

theorem kept_ledger (rules : Rules) (memory : Nat) : Kept rules (Ledger rules memory) where
  tracks h := h.toTracks
  idle h ho hr := h.idle ho hr
  submit h line := h.submit line
  afterJob h hjob i := h.afterJob hjob i

theorem ledger_run (rules : Rules) (capacity : Int) (memory : Nat) (acts : List Act) :
    ∃ done waiting, (fresh rules capacity memory).accepted acts = done ++ waiting ∧
      Ledger rules memory done waiting ((fresh rules capacity memory).run acts).2
        ((fresh rules capacity memory).run acts).1 :=
  (kept_ledger rules memory).run (ledger_fresh rules capacity memory) acts

theorem Ledger.record_at {before after : List (Nat × String)} {number : Nat} {line : String}
    (h : Ledger rules memory (before ++ (number, line) :: after) waiting notices d) :
    d.job? number = some ((judge rules line
      (rules.runEach (before.map Prod.snd) .empty).1).record line) := by
  have hrecords := h.records
  rw [List.map_append, List.map_append, List.map_cons, List.map_cons, records_append,
    List.map_append] at hrecords
  have hlength : (before.map fun entry => d.jobs[entry.1]?).length =
      ((rules.records (before.map Prod.snd) .empty).map some).length := by
    simp [length_records]
  exact (List.cons.inj (List.append_inj hrecords hlength).2).1

theorem Ledger.exists_record (h : Ledger rules memory done waiting notices d) {number : Nat}
    (hn : number ∈ Notice.takings notices) :
    ∃ line before, d.job? number =
      some ((judge rules line (rules.runEach before .empty).1).record line) := by
  rw [h.takings] at hn
  obtain ⟨⟨number, line⟩, he, rfl⟩ := List.mem_map.1 hn
  obtain ⟨before, after, rfl⟩ := List.append_of_mem he
  exact ⟨line, _, h.record_at⟩

end Dispatcher

end Scoreboard
