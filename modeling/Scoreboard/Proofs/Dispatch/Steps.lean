import Scoreboard.Dispatch.Run

namespace Scoreboard

namespace Notice

/-- The jobs that were taken from the queue, in order. -/
def takings (notices : List Notice) : List Nat :=
  notices.filterMap taken?

def finished? : Notice → Option Nat
  | rejected job _ => some job
  | failed job _ => some job
  | succeeded job => some job
  | _ => none

/-- The jobs that were done and are on record as finished, in the order in which they finished. -/
def finishings (notices : List Notice) : List Nat :=
  notices.filterMap finished?

@[simp] theorem takings_append (a b : List Notice) : takings (a ++ b) = takings a ++ takings b :=
  List.filterMap_append

@[simp] theorem finishings_append (a b : List Notice) :
    finishings (a ++ b) = finishings a ++ finishings b :=
  List.filterMap_append

@[simp] theorem events_append (a b : List Notice) : events (a ++ b) = events a ++ events b :=
  List.filterMap_append

@[simp] theorem takings_map_game (events : List Event) : takings (events.map game) = [] := by
  simp [takings, taken?]

@[simp] theorem events_map_game (events : List Event) :
    Notice.events (events.map game) = events := by
  induction events with
  | nil => rfl
  | cons event rest ih => exact congrArg (event :: ·) ih

end Notice

namespace Dispatcher

@[simp] theorem takings_verdict (v : Verdict) (number : Nat) :
    Notice.takings (v.notices number) = [] := by
  cases v with
  | rejected e => rfl
  | crash o => exact Notice.takings_map_game o.events
  | ran o =>
    rw [Verdict.notices, Notice.takings_append, Notice.takings_map_game]
    split <;> rfl

/-- What can become of a job, by what its line is read as and by the fault that its command ends in.
-/
theorem judge_cases (rules : Rules) (line : String) (game : State) :
    (∃ e, parse line = .error (.invalid e) ∧ judge rules line game = .rejected e) ∨
    (parse line = .error .numeralTooLong ∧ judge rules line game = .crash (.nothing game)) ∨
    (∃ c, parse line = .ok c ∧
      (∀ f, (c.run rules game).fault = some f → ∃ v, f = .selector v) ∧
      judge rules line game = .ran (c.run rules game)) ∨
    ∃ c f, parse line = .ok c ∧ (c.run rules game).fault = some f ∧ (∀ v, f ≠ .selector v) ∧
      judge rules line game = .crash (c.run rules game) := by
  unfold judge
  cases parse line with
  | error e =>
    cases e with
    | invalid e => exact .inl ⟨e, rfl, rfl⟩
    | numeralTooLong => exact .inr (.inl ⟨rfl, rfl⟩)
  | ok c =>
    simp only
    cases hf : (c.run rules game).fault with
    | none =>
      refine .inr (.inr (.inl ⟨c, rfl, fun f hf' => ?_, rfl⟩))
      cases hf.symm.trans hf'
    | some f =>
      cases f with
      | selector v =>
        refine .inr (.inr (.inl ⟨c, rfl, fun f hf' => ⟨v, ?_⟩, rfl⟩))
        exact Option.some.inj (hf'.symm.trans hf)
      | stray v => exact .inr (.inr (.inr ⟨c, _, rfl, hf, nofun, rfl⟩))
      | unwritable level => exact .inr (.inr (.inr ⟨c, _, rfl, hf, nofun, rfl⟩))

/-- At most the current worker is live, and all jobs that wait are known. -/
structure Orderly (d : Dispatcher) : Prop where
  current_of_live : ∀ i, d.workers[i]? = some .live → d.current = some i
  queue_known : ∀ number ∈ d.queue, number < d.jobs.length

/-- An act that takes no job and has nothing to do with the game. -/
structure Idle (d : Dispatcher) (r : Dispatcher × List Notice) : Prop where
  rules : r.1.rules = d.rules
  jobs : r.1.jobs = d.jobs
  queue : r.1.queue = d.queue
  game : r.1.game = d.game
  memory : r.1.memory = d.memory
  history : r.1.history = d.history
  takings : Notice.takings r.2 = []
  finishings : Notice.finishings r.2 = []
  events : Notice.events r.2 = []

variable {d : Dispatcher}

theorem Idle.refl (d : Dispatcher) : d.Idle (d, []) :=
  ⟨rfl, rfl, rfl, rfl, rfl, rfl, rfl, rfl, rfl⟩

theorem idle_start (d : Dispatcher) : d.Idle d.start := by
  unfold start
  split
  · exact .refl d
  · exact ⟨rfl, rfl, rfl, rfl, rfl, rfl, rfl, rfl, rfl⟩

theorem idle_stop (d : Dispatcher) : d.Idle d.stop := by
  unfold stop
  split
  · exact .refl d
  · split <;> exact ⟨rfl, rfl, rfl, rfl, rfl, rfl, rfl, rfl, rfl⟩

theorem Orderly.start (h : d.Orderly) : d.start.1.Orderly := by
  have hidle := idle_start d
  refine ⟨?_, by rw [hidle.queue, hidle.jobs]; exact h.queue_known⟩
  unfold Dispatcher.start
  split
  · exact h.current_of_live
  · next hlive =>
    intro i hi
    rw [List.getElem?_append] at hi
    split at hi
    · -- a live worker from before would be the current one
      have hcurrent := h.current_of_live i hi
      rw [worker?, hcurrent] at hlive
      exact absurd hi hlive
    · next hlen =>
      have hi' : i - d.workers.length = 0 := by
        obtain ⟨hlt, -⟩ := List.getElem?_eq_some_iff.1 hi
        simpa using hlt
      exact congrArg some (by omega)

theorem live_of_live_set {workers : List Worker} {w : Worker} {i j : Nat} (hw : w ≠ .live)
    (h : (workers.set j w)[i]? = some .live) : j ≠ i ∧ workers[i]? = some .live := by
  rw [List.getElem?_set] at h
  split at h
  · split at h
    · exact absurd (Option.some.inj h) hw
    · cases h
  · next hne => exact ⟨hne, h⟩

theorem Orderly.stop (h : d.Orderly) : d.stop.1.Orderly := by
  have hidle := idle_stop d
  refine ⟨?_, by rw [hidle.queue, hidle.jobs]; exact h.queue_known⟩
  unfold Dispatcher.stop
  split
  · exact h.current_of_live
  · next j hcurrent =>
    split
    · intro i hi
      obtain ⟨hne, hi⟩ := live_of_live_set (by decide) hi
      rw [h.current_of_live i hi, Option.some.injEq] at hcurrent
      exact absurd hcurrent.symm hne
    · next hdead =>
      intro i hi
      rw [h.current_of_live i hi, Option.some.injEq] at hcurrent
      subst hcurrent
      exact absurd hi hdead

theorem submit_eq (d : Dispatcher) (line : String) :
    d.submit line = if d.isFull then ({ d with jobs := d.jobs ++ [.fresh line] }, none, []) else
      ({ d with jobs := d.jobs ++ [.fresh line], queue := d.queue ++ [d.jobs.length] },
        some d.jobs.length, [.submitted d.jobs.length line (d.queue.length + 1)]) := by
  simp [submit]

theorem jobs_submit (d : Dispatcher) (line : String) :
    (d.submit line).1.jobs = d.jobs ++ [.fresh line] := by
  rw [submit_eq]
  split <;> rfl

theorem Orderly.submit (h : d.Orderly) (line : String) : (d.submit line).1.Orderly := by
  have hgrow : ∀ number ∈ d.queue, number < (d.jobs ++ [Job.fresh line]).length := by
    intro number hn
    have hlt := h.queue_known number hn
    rw [List.length_append]
    omega
  rw [submit_eq]
  split
  · exact ⟨h.current_of_live, hgrow⟩
  · refine ⟨h.current_of_live, fun number hn => ?_⟩
    rcases List.mem_append.1 hn with hn | hn
    · exact hgrow number hn
    · rw [List.mem_singleton.1 hn]
      simp

/-- A worker does nothing, or it deals with the job that has waited longest. -/
theorem work_cases (h : d.Orderly) (i : Nat) :
    d.work i = (d, []) ∨ ∃ number rest job, d.workers[i]? = some .live ∧
      d.queue = number :: rest ∧ d.jobs[number]? = some job ∧
      d.work i = (d.afterJob i number rest job,
        .taken number :: (judge d.rules job.line d.game).notices number) := by
  unfold work
  split
  · next number rest hlive hqueue =>
    have hlt : number < d.jobs.length := h.queue_known number (hqueue ▸ List.mem_cons_self)
    have hjob := List.getElem?_eq_getElem hlt
    rw [hjob]
    exact .inr ⟨number, rest, d.jobs[number], hlive, hqueue, hjob, rfl⟩
  · exact .inl rfl

theorem Orderly.afterJob (h : d.Orderly) {number : Nat} {rest : List Nat}
    (hqueue : d.queue = number :: rest) (i : Nat) (job : Job) :
    (d.afterJob i number rest job).Orderly := by
  constructor
  · intro j hj
    simp only [Dispatcher.afterJob] at hj
    split at hj
    · exact h.current_of_live j (live_of_live_set (by decide) hj).2
    · exact h.current_of_live j hj
  · intro other ho
    simp only [Dispatcher.afterJob, List.length_set]
    exact h.queue_known other (hqueue ▸ List.mem_cons_of_mem number ho)

theorem Orderly.work (h : d.Orderly) (i : Nat) : (d.work i).1.Orderly := by
  rcases work_cases h i with hw | ⟨number, rest, job, -, hqueue, -, hw⟩
  · rw [hw]
    exact h
  · rw [hw]
    exact h.afterJob hqueue i job

theorem Orderly.act (h : d.Orderly) (a : Act) : (d.act a).1.Orderly := by
  cases a with
  | start => exact h.start
  | stop => exact h.stop
  | submit line => exact h.submit line
  | work worker => exact h.work worker

theorem orderly_fresh (rules : Rules) (capacity : Int) (memory : Nat) :
    (fresh rules capacity memory).Orderly :=
  ⟨by simp [fresh], by simp [fresh]⟩

theorem Orderly.live_unique (h : d.Orderly) {i j : Nat} (hi : d.workers[i]? = some .live)
    (hj : d.workers[j]? = some .live) : i = j :=
  Option.some.inj ((h.current_of_live i hi).symm.trans (h.current_of_live j hj))

end Dispatcher

end Scoreboard
