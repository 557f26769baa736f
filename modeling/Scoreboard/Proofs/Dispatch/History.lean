import Mathlib.Data.List.Sort
import Scoreboard.Proofs.Dispatch.Records

namespace Scoreboard.Dispatcher

/-- The jobs that are on record as finished in `d'` and are not in `d`, with their records. -/
def finishedSince (d d' : Dispatcher) : List (Nat × Job) :=
  (d'.jobs.zipIdx.filter fun entry => entry.1.finished && !d.isFinished entry.2).map Prod.swap

/-- The jobs that finish in a run, in the order in which they do so, with their records at that
point. -/
def finishedIn (d : Dispatcher) : List Act → List (Nat × Job)
  | [] => []
  | a :: rest => d.finishedSince (d.act a).1 ++ finishedIn (d.act a).1 rest

theorem isFinished_eq_true_iff {d : Dispatcher} {number : Nat} :
    d.isFinished number = true ↔ ∃ job, d.job? number = some job ∧ job.finished = true :=
  Option.any_eq_true _ _

theorem mem_finishedSince {d d' : Dispatcher} {number : Nat} {job : Job} :
    (number, job) ∈ d.finishedSince d' ↔
      d'.job? number = some job ∧ job.finished = true ∧ d.isFinished number = false := by
  rw [finishedSince, List.mem_map]
  constructor
  · rintro ⟨⟨record, index⟩, hmem, heq⟩
    cases heq
    rw [List.mem_filter, List.mem_zipIdx_iff_getElem?] at hmem
    exact ⟨hmem.1, by simpa using hmem.2⟩
  · rintro ⟨hjob, hfinished, hbefore⟩
    refine ⟨(job, number), ?_, rfl⟩
    rw [List.mem_filter, List.mem_zipIdx_iff_getElem?]
    exact ⟨hjob, by simp [hfinished, hbefore]⟩

theorem pairwise_finishedSince (d d' : Dispatcher) :
    (d.finishedSince d').Pairwise fun earlier later => earlier.1 < later.1 := by
  rw [finishedSince, List.pairwise_map]
  apply List.Pairwise.filter
  have hnumbers : (d'.jobs.zipIdx.map Prod.snd).Pairwise (· < ·) := by
    rw [List.zipIdx_map_snd]
    exact List.pairwise_lt_range'
  exact List.pairwise_map.1 hnumbers

variable {rules : Rules} {memory : Nat} {done waiting : List (Nat × String)}
  {notices : List Notice} {d : Dispatcher} {number : Nat} {job : Job}

theorem Ledger.job?_run_of_finished (h : Ledger rules memory done waiting notices d)
    (hjob : d.job? number = some job) (hfinished : job.finished = true) (acts : List Act) :
    (d.run acts).1.job? number = some job :=
  (h.job?_run (h.mem_done hjob hfinished) acts).1.trans hjob

theorem Ledger.lt_of_finishes_later (h : Ledger rules memory done waiting notices d) {other : Nat}
    (hn : d.isFinished number = true) (hother : d.isFinished other = false) {acts : List Act}
    (hlater : (d.run acts).1.isFinished other = true) : number < other := by
  obtain ⟨job, hjob, hfinished⟩ := isFinished_eq_true_iff.1 hn
  obtain ⟨job', hjob', hfinished'⟩ := isFinished_eq_true_iff.1 hlater
  have hdone := h.mem_done hjob hfinished
  obtain ⟨more, waiting', h'⟩ := h.run acts
  have hincreasing := h'.increasing
  rw [List.append_assoc, List.map_append, List.pairwise_append] at hincreasing
  apply hincreasing.2.2 number (List.mem_map_of_mem hdone) other
  rw [List.map_append, List.mem_append]
  left
  rcases List.mem_append.1 (h'.mem_done hjob' hfinished') with hbefore | hmore
  · -- it was done before, so that it would have been finished then
    have hsame := (h.job?_run hbefore acts).1
    rw [isFinished_congr hsame, hother] at hlater
    cases hlater
  · exact List.mem_map_of_mem hmore

theorem Ledger.act (h : Ledger rules memory done waiting notices d) (a : Act) :
    ∃ done' waiting', Ledger rules memory done' waiting' (notices ++ (d.act a).2) (d.act a).1 := by
  obtain ⟨done', waiting', -, h'⟩ := (kept_ledger rules memory).act h a
  exact ⟨done', waiting', h'⟩

/-- What finishes in a run is what is finished at its end and was not at its beginning, and the
records are those at the end. -/
theorem Ledger.mem_finishedIn (h : Ledger rules memory done waiting notices d) (acts : List Act) :
    (number, job) ∈ d.finishedIn acts ↔
      (d.run acts).1.job? number = some job ∧ job.finished = true ∧
        d.isFinished number = false := by
  induction acts generalizing d done waiting notices with
  | nil =>
    simp only [finishedIn, List.not_mem_nil, false_iff]
    rintro ⟨hjob, hfinished, hbefore⟩
    rw [run_nil] at hjob
    rw [isFinished_eq_true_iff.2 ⟨job, hjob, hfinished⟩] at hbefore
    cases hbefore
  | cons a rest ih =>
    obtain ⟨done', waiting', h'⟩ := h.act a
    rw [finishedIn, List.mem_append, mem_finishedSince, ih h', run_cons]
    constructor
    · rintro (⟨hjob, hfinished, hbefore⟩ | ⟨hjob, hfinished, hmiddle⟩)
      · exact ⟨h'.job?_run_of_finished hjob hfinished rest, hfinished, hbefore⟩
      · refine ⟨hjob, hfinished, Bool.eq_false_iff.2 fun hbefore => ?_⟩
        obtain ⟨record, hrecord, hdone⟩ := isFinished_eq_true_iff.1 hbefore
        have hkept : (d.act a).1.job? number = some record :=
          h.job?_run_of_finished hrecord hdone [a]
        rw [isFinished_eq_true_iff.2 ⟨record, hkept, hdone⟩] at hmiddle
        cases hmiddle
    · rintro ⟨hjob, hfinished, hbefore⟩
      by_cases hmiddle : (d.act a).1.isFinished number = true
      · obtain ⟨record, hrecord, hdone⟩ := isFinished_eq_true_iff.1 hmiddle
        have hkept := h'.job?_run_of_finished hrecord hdone rest
        obtain rfl := Option.some.inj (hkept.symm.trans hjob)
        exact .inl ⟨hrecord, hfinished, hbefore⟩
      · exact .inr ⟨hjob, hfinished, Bool.eq_false_iff.2 hmiddle⟩

/-- Jobs finish in the order in which they were handed in. -/
theorem Ledger.pairwise_finishedIn (h : Ledger rules memory done waiting notices d)
    (acts : List Act) :
    (d.finishedIn acts).Pairwise fun earlier later => earlier.1 < later.1 := by
  induction acts generalizing d done waiting notices with
  | nil => exact .nil
  | cons a rest ih =>
    obtain ⟨done', waiting', h'⟩ := h.act a
    rw [finishedIn, List.pairwise_append]
    refine ⟨pairwise_finishedSince d _, ih h', fun earlier hearlier later hlater => ?_⟩
    obtain ⟨hjob, hfinished, -⟩ := mem_finishedSince.1 hearlier
    obtain ⟨hjob', hfinished', hmiddle⟩ := (h'.mem_finishedIn rest).1 hlater
    exact h'.lt_of_finishes_later (isFinished_eq_true_iff.2 ⟨_, hjob, hfinished⟩) hmiddle
      (isFinished_eq_true_iff.2 ⟨_, hjob', hfinished'⟩)

theorem Ledger.history_eq (h : Ledger rules memory done waiting notices d)
    {finished : List (Nat × Job)}
    (hincreasing : finished.Pairwise fun earlier later => earlier.1 < later.1)
    (hmem : ∀ number job, (number, job) ∈ finished ↔
      d.job? number = some job ∧ job.finished = true) :
    d.history = (finished.reverse.take memory).map Prod.fst := by
  have hdone := h.split_increasing.1
  -- both lists are increasing, so it is enough that they have the same members
  have hnumbers : (done.map Prod.fst).filter d.isFinished = finished.map Prod.fst := by
    apply (hdone.filter _).eq_of_mem_iff (List.pairwise_map.2 hincreasing)
    intro number
    rw [List.mem_filter, isFinished_eq_true_iff]
    constructor
    · rintro ⟨-, job, hjob, hfinished⟩
      exact List.mem_map_of_mem ((hmem number job).2 ⟨hjob, hfinished⟩)
    · intro hn
      obtain ⟨⟨number, job⟩, hentry, rfl⟩ := List.mem_map.1 hn
      obtain ⟨hjob, hfinished⟩ := (hmem number job).1 hentry
      exact ⟨List.mem_map_of_mem (h.mem_done hjob hfinished), job, hjob, hfinished⟩
  rw [h.history, hnumbers, ← List.map_reverse, List.map_take]

/-- At every point of every run the history lists the jobs that finished last, with the newest
first, as many as are asked for and remembered. All jobs that have ever finished did so in the order
in which they were handed in, and what is on record of them now is what was when they finished. So
no job is listed twice, and none that waits, was given up half-way, or was refused. -/
theorem history_lists_newest_finished (rules : Rules) (capacity : Int) (memory : Nat)
    (acts : List Act) :
    ∃ (reached : Dispatcher) (finished : List (Nat × Job)),
      ((fresh rules capacity memory).run acts).1 = reached ∧
      (fresh rules capacity memory).finishedIn acts = finished ∧
      finished.Pairwise (fun earlier later => earlier.1 < later.1) ∧
      (∀ number job, (number, job) ∈ finished ↔
        reached.job? number = some job ∧ job.finished = true) ∧
      ∀ k : Nat,
        reached.recent k = (finished.reverse.take (min k memory)).map Prod.fst ∧
        (reached.recent k).Pairwise (· > ·) ∧
        ∀ number ∈ reached.recent k,
          number ∈ ((fresh rules capacity memory).accepted acts).map Prod.fst ∧
          ∃ job, reached.job? number = some job ∧ job.Ended := by
  have hfresh := ledger_fresh rules capacity memory
  obtain ⟨done, waiting, haccepted, h⟩ := ledger_run rules capacity memory acts
  have hincreasing := hfresh.pairwise_finishedIn acts
  have hmem : ∀ number job, (number, job) ∈ (fresh rules capacity memory).finishedIn acts ↔
      ((fresh rules capacity memory).run acts).1.job? number = some job ∧
        job.finished = true := by
    intro number job
    rw [hfresh.mem_finishedIn acts]
    exact and_congr_right fun _ => and_iff_left rfl
  refine ⟨_, _, rfl, rfl, hincreasing, hmem, fun k => ?_⟩
  have hrecent : ((fresh rules capacity memory).run acts).1.recent k =
      (((fresh rules capacity memory).finishedIn acts).reverse.take
        (min k memory)).map Prod.fst := by
    show List.take k _ = _
    rw [h.history_eq hincreasing hmem, ← List.map_take, List.take_take]
  refine ⟨hrecent, ?_, fun number hn => ?_⟩
  · rw [hrecent, List.pairwise_map]
    exact (List.pairwise_reverse.2 hincreasing).take
  · rw [hrecent] at hn
    obtain ⟨⟨number, job⟩, hentry, rfl⟩ := List.mem_map.1 hn
    obtain ⟨hjob, hfinished⟩ :=
      (hmem number job).1 (List.mem_reverse.1 (List.mem_of_mem_take hentry))
    have hdone := h.mem_done hjob hfinished
    refine ⟨?_, job, hjob, hfinished, (h.consistent hjob).finished_iff.1 hfinished⟩
    rw [haccepted]
    exact List.mem_map_of_mem (List.mem_append_left _ hdone)

/-- With room for one job in the queue and for one in the history: the second submission is refused,
and the worker is another one when the third is done. -/
example : ((fresh ⟨none, 64⟩ 1 1).run [.start, .submit "x", .submit "y", .work 0, .stop,
    .submit "scoreboard players list", .start, .work 1]).1.recent 5 = [2] := by
  decide +kernel

end Scoreboard.Dispatcher
