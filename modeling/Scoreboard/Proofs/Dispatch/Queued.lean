import Mathlib.Data.List.Sort
import Scoreboard.Proofs.Dispatch.Ledger

namespace Scoreboard.Dispatcher

def queuedJobs (d : Dispatcher) : List Nat :=
  (List.range d.jobs.length).filter fun number =>
    (d.job? number).any fun job => job.status == .queued

theorem mem_queuedJobs {d : Dispatcher} {number : Nat} :
    number ∈ d.queuedJobs ↔ ∃ job, d.job? number = some job ∧ job.status = .queued := by
  rw [queuedJobs, List.mem_filter, List.mem_range]
  constructor
  · rintro ⟨-, h⟩
    obtain ⟨job, hjob, hstatus⟩ := (Option.any_eq_true _ _).1 h
    exact ⟨job, hjob, eq_of_beq hstatus⟩
  · rintro ⟨job, hjob, hstatus⟩
    refine ⟨(List.getElem?_eq_some_iff.1 hjob).1, (Option.any_eq_true _ _).2 ⟨job, hjob, ?_⟩⟩
    rw [hstatus]
    rfl

theorem status_record_ne_queued (line : String) (v : Verdict) :
    (v.record line).status ≠ .queued := by
  intro h
  cases v with
  | rejected e => cases h
  | crash o => cases h
  | ran o =>
    rw [Verdict.record] at h
    split at h <;> cases h

variable {rules : Rules} {memory : Nat} {done waiting : List (Nat × String)}
  {notices : List Notice} {d : Dispatcher}

/-- On record as queued are the jobs that were not done. -/
theorem Ledger.mem_queuedJobs (h : Ledger rules memory done waiting notices d) {number : Nat} :
    number ∈ d.queuedJobs ↔ number < d.jobs.length ∧ number ∉ done.map Prod.fst := by
  rw [Dispatcher.mem_queuedJobs]
  constructor
  · rintro ⟨job, hjob, hstatus⟩
    refine ⟨(List.getElem?_eq_some_iff.1 hjob).1, fun hdone => ?_⟩
    obtain ⟨line, game, hrecord⟩ := h.exists_record (h.takings ▸ hdone)
    obtain rfl := Option.some.inj (hjob.symm.trans hrecord)
    exact status_record_ne_queued _ _ hstatus
  · rintro ⟨hlt, hdone⟩
    have hjob : d.job? number = some d.jobs[number] := List.getElem?_eq_getElem hlt
    refine ⟨d.jobs[number], hjob, ?_⟩
    rw [h.untouched number _ hjob hdone]
    rfl

theorem Ledger.queue_eq_filter (h : Ledger rules memory done waiting notices d) :
    d.queue = d.queuedJobs.filter (· ∈ (done ++ waiting).map Prod.fst) := by
  obtain ⟨-, hwaiting, hbefore⟩ := h.split_increasing
  have hlt : ∀ number ∈ waiting.map Prod.fst, number < d.jobs.length := by
    intro number hn
    rw [← h.queue] at hn
    exact h.orderly.queue_known number hn
  rw [h.queue]
  -- both lists are increasing, so it is enough that they have the same members
  refine hwaiting.eq_of_mem_iff ((List.pairwise_lt_range.filter _).filter _) fun number => ?_
  rw [List.mem_filter, h.mem_queuedJobs, decide_eq_true_iff, List.map_append, List.mem_append]
  constructor
  · intro hn
    exact ⟨⟨hlt number hn, fun hdone => Nat.lt_irrefl _ (hbefore number hdone number hn)⟩, .inr hn⟩
  · rintro ⟨⟨-, hdone⟩, hn⟩
    exact hn.resolve_left hdone

/-- At every point of every run the queue holds the jobs that were accepted and are on record as
queued, each once and in the order in which they were handed in. Any other job on record that was
not accepted stays as it was handed in: on record as queued, but not in the queue. To refuse a job
is to put it on record like that and changes nothing else. -/
theorem queue_eq_accepted_queuedJobs (rules : Rules) (capacity : Int) (memory : Nat)
    (acts : List Act) :
    ∃ (reached : Dispatcher) (accepted : List Nat),
      ((fresh rules capacity memory).run acts).1 = reached ∧
      ((fresh rules capacity memory).accepted acts).map Prod.fst = accepted ∧
      reached.queue = reached.queuedJobs.filter (· ∈ accepted) ∧
      reached.queue.Pairwise (· < ·) ∧
      (∀ number job, reached.job? number = some job → number ∉ accepted →
        job = .fresh job.line ∧ number ∈ reached.queuedJobs ∧ number ∉ reached.queue) ∧
      ∀ line, (reached.submit line).2.1 = none → reached.submit line =
        ({ reached with jobs := reached.jobs ++ [.fresh line] }, none, []) := by
  obtain ⟨done, waiting, haccepted, h⟩ := ledger_run rules capacity memory acts
  refine ⟨_, _, rfl, congrArg _ haccepted, h.queue_eq_filter, ?_, ?_, ?_⟩
  · rw [h.queue_eq_filter]
    exact (List.pairwise_lt_range.filter _).filter _
  · intro number job hjob hn
    rw [List.map_append, List.mem_append, not_or] at hn
    refine ⟨h.untouched number job hjob hn.1,
      h.mem_queuedJobs.2 ⟨(List.getElem?_eq_some_iff.1 hjob).1, hn.1⟩, ?_⟩
    rw [h.queue]
    exact hn.2
  · intro line hrefused
    rw [submit_eq] at hrefused ⊢
    split at hrefused
    · next hfull => rw [if_pos hfull]
    · cases hrefused

/-- A second job, handed in where only one may wait, is queued for ever. -/
theorem queue_ne_queuedJobs :
    ¬ ∀ (rules : Rules) (capacity : Int) (memory : Nat) (acts : List Act),
      ((fresh rules capacity memory).run acts).1.queue =
        ((fresh rules capacity memory).run acts).1.queuedJobs := by
  intro h
  exact absurd (h ⟨none, 64⟩ 1 1 [.submit "scoreboard objectives list",
    .submit "scoreboard players list"]) (by decide)

end Scoreboard.Dispatcher
