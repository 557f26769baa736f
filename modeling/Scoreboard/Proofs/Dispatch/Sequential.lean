import Scoreboard.Game.Session
import Scoreboard.Proofs.Command.Held
import Scoreboard.Proofs.Dispatch.Steps

namespace Scoreboard

/-- Carries out each line from where the one before has left the game, whatever became of it. -/
def Rules.runEach (rules : Rules) : List String → State → State × List Event
  | [], s => (s, [])
  | line :: rest, s =>
    let first := rules.runLine line s
    let others := rules.runEach rest first.state
    (others.1, first.events ++ others.2)

theorem runEach_concat (rules : Rules) (lines : List String) (line : String) (s : State) :
    rules.runEach (lines ++ [line]) s =
      let before := rules.runEach lines s
      let last := rules.runLine line before.1
      (last.state, before.2 ++ last.events) := by
  induction lines generalizing s with
  | nil => simp [Rules.runEach]
  | cons first rest ih => simp [Rules.runEach, ih]

namespace Dispatcher

/-- The submission that an act makes, if it is accepted: the job's number and the line. -/
def acceptedBy (d : Dispatcher) : Act → Option (Nat × String)
  | .submit line => (d.submit line).2.1.map fun number => (number, line)
  | _ => none

/-- The submissions that are accepted in a run, in order. -/
def accepted (d : Dispatcher) : List Act → List (Nat × String)
  | [] => []
  | a :: rest => (d.acceptedBy a).toList ++ accepted (d.act a).1 rest

theorem runLine_of_error (rules : Rules) {line : String} (s : State) {e : ParseError}
    (h : parse line = .error e) :
    (rules.runLine line s).state = s ∧ (rules.runLine line s).events = [] := by
  unfold Rules.runLine
  rw [h]
  split <;> exact ⟨rfl, rfl⟩

theorem runLine_of_ok (rules : Rules) {line : String} (s : State) {c : Command}
    (h : parse line = .ok c) :
    (rules.runLine line s).state = (c.run rules s).state ∧
      (rules.runLine line s).events = (c.run rules s).events := by
  rw [Rules.runLine, if_pos (isCommandLine_of_parse h), h]
  simp only
  split <;> exact ⟨rfl, rfl⟩

theorem events_ran (o : Outcome) (number : Nat) :
    Notice.events ((Verdict.ran o).notices number) = o.events := by
  rw [Verdict.notices, Notice.events_append, Notice.events_map_game]
  split <;> exact List.append_nil _

/-- A line that is judged does to the game what it does when it is run. Lines without a command are
rejected where a run passes over them. -/
theorem judge_eq_runLine (rules : Rules) (line : String) (s : State) (number : Nat) :
    (judge rules line s).stateAfter s = (rules.runLine line s).state ∧
      Notice.events ((judge rules line s).notices number) = (rules.runLine line s).events := by
  rcases judge_cases rules line s with
    ⟨e, hp, hj⟩ | ⟨hp, hj⟩ | ⟨c, hp, -, hj⟩ | ⟨c, f, hp, -, -, hj⟩
  · obtain ⟨hstate, hevents⟩ := runLine_of_error rules s hp
    rw [hj, hstate, hevents]
    exact ⟨rfl, rfl⟩
  · obtain ⟨hstate, hevents⟩ := runLine_of_error rules s hp
    rw [hj, hstate, hevents]
    exact ⟨rfl, rfl⟩
  · obtain ⟨hstate, hevents⟩ := runLine_of_ok rules s hp
    rw [hj, hstate, hevents]
    exact ⟨rfl, events_ran _ number⟩
  · obtain ⟨hstate, hevents⟩ := runLine_of_ok rules s hp
    rw [hj, hstate, hevents]
    exact ⟨rfl, Notice.events_map_game _⟩

theorem line_record (line : String) (v : Verdict) : (v.record line).line = line := by
  cases v with
  | rejected e => rfl
  | crash o => rfl
  | ran o =>
    rw [Verdict.record]
    split <;> rfl

/-- A dispatcher that has done the submissions in `done`, with those in `waiting` still to do: the
notices tell of the ones, the queue holds the others, and the game is where the lines of the ones
have led it. -/
structure Tracks (rules : Rules) (done waiting : List (Nat × String)) (notices : List Notice)
    (d : Dispatcher) : Prop where
  orderly : d.Orderly
  rules_eq : d.rules = rules
  takings : Notice.takings notices = done.map Prod.fst
  queue : d.queue = waiting.map Prod.fst
  increasing : ((done ++ waiting).map Prod.fst).Pairwise (· < ·)
  lines : ∀ entry ∈ done ++ waiting, (d.jobs[entry.1]?).map Job.line = some entry.2
  played : rules.runEach (done.map Prod.snd) .empty = (d.game, Notice.events notices)

variable {rules : Rules} {done waiting : List (Nat × String)} {notices : List Notice}
  {d : Dispatcher}

theorem tracks_fresh (rules : Rules) (capacity : Int) (memory : Nat) :
    Tracks rules [] [] [] (fresh rules capacity memory) :=
  ⟨orderly_fresh rules capacity memory, rfl, rfl, rfl, by simp, by simp, rfl⟩

theorem Tracks.split_increasing (h : Tracks rules done waiting notices d) :
    (done.map Prod.fst).Pairwise (· < ·) ∧ (waiting.map Prod.fst).Pairwise (· < ·) ∧
      ∀ number ∈ done.map Prod.fst, ∀ later ∈ waiting.map Prod.fst, number < later := by
  have hincreasing := h.increasing
  rwa [List.map_append, List.pairwise_append] at hincreasing

theorem Tracks.number_lt (h : Tracks rules done waiting notices d) {number : Nat}
    (hn : number ∈ (done ++ waiting).map Prod.fst) : number < d.jobs.length := by
  obtain ⟨entry, he, rfl⟩ := List.mem_map.1 hn
  obtain ⟨job, hjob, -⟩ := Option.map_eq_some_iff.1 (h.lines entry he)
  exact (List.getElem?_eq_some_iff.1 hjob).1

theorem Tracks.idle (h : Tracks rules done waiting notices d) {r : Dispatcher × List Notice}
    (ho : r.1.Orderly) (hr : d.Idle r) : Tracks rules done waiting (notices ++ r.2) r.1 where
  orderly := ho
  rules_eq := hr.rules.trans h.rules_eq
  takings := by rw [Notice.takings_append, hr.takings, List.append_nil, h.takings]
  queue := hr.queue.trans h.queue
  increasing := h.increasing
  lines := by rw [hr.jobs]; exact h.lines
  played := by rw [h.played, hr.game, Notice.events_append, hr.events, List.append_nil]

theorem Tracks.lines_append (h : Tracks rules done waiting notices d) (job : Job) :
    ∀ entry ∈ done ++ waiting, ((d.jobs ++ [job])[entry.1]?).map Job.line = some entry.2 := by
  intro entry he
  rw [List.getElem?_append_left (h.number_lt (List.mem_map_of_mem he))]
  exact h.lines entry he

theorem Tracks.submit (h : Tracks rules done waiting notices d) (line : String) :
    Tracks rules done (waiting ++ (d.acceptedBy (.submit line)).toList)
      (notices ++ (d.submit line).2.2) (d.submit line).1 := by
  have horderly := h.orderly.submit line
  have hlines := h.lines_append (.fresh line)
  rw [submit_eq] at horderly
  rw [acceptedBy, submit_eq]
  cases hfull : d.isFull with
  | true =>
    simp only [hfull, if_true] at horderly
    simp only [if_true, Option.map_none, Option.toList_none, List.append_nil]
    exact { h with orderly := horderly, lines := hlines }
  | false =>
    simp only [hfull, Bool.false_eq_true, if_false] at horderly
    simp only [Bool.false_eq_true, if_false, Option.map_some, Option.toList_some]
    refine ⟨horderly, h.rules_eq, ?_, ?_, ?_, ?_, ?_⟩
    · rw [Notice.takings_append, h.takings]
      exact List.append_nil _
    · rw [h.queue, List.map_append]
      rfl
    · -- all numbers before are those of jobs that were there, so the new one is greater
      rw [← List.append_assoc, List.map_append, List.pairwise_append]
      refine ⟨h.increasing, by simp, fun number hn new hnew => ?_⟩
      rw [List.map_singleton, List.mem_singleton] at hnew
      exact hnew ▸ h.number_lt hn
    · rw [← List.append_assoc]
      intro entry he
      rcases List.mem_append.1 he with he | he
      · exact hlines entry he
      · rw [List.mem_singleton.1 he]
        simp [Job.fresh]
    · rw [h.played, Notice.events_append]
      exact congrArg _ (List.append_nil _).symm

theorem map_line_afterJob (d : Dispatcher) {i number : Nat} {rest : List Nat} {job : Job}
    (hjob : d.jobs[number]? = some job) :
    (d.afterJob i number rest job).jobs.map Job.line = d.jobs.map Job.line := by
  obtain ⟨hlt, rfl⟩ := List.getElem?_eq_some_iff.1 hjob
  rw [afterJob, List.map_set, line_record]
  apply List.ext_getElem? fun j => ?_
  rw [List.getElem?_set]
  split
  · next he =>
    subst he
    simp [hlt]
  · rfl

theorem Tracks.work_cases (h : Tracks rules done waiting notices d) (i : Nat) :
    d.work i = (d, []) ∨ ∃ number job others, waiting = (number, job.line) :: others ∧
      d.workers[i]? = some .live ∧ d.jobs[number]? = some job ∧
      d.work i = (d.afterJob i number (others.map Prod.fst) job,
        .taken number :: (judge d.rules job.line d.game).notices number) := by
  rcases Dispatcher.work_cases h.orderly i with hw | ⟨number, rest, job, hlive, hqueue, hjob, hw⟩
  · exact .inl hw
  · obtain ⟨⟨number, line⟩, others, rfl, rfl, rfl⟩ :=
      List.map_eq_cons_iff.1 (h.queue.symm.trans hqueue)
    have hline : job.line = line := by
      have hentry := h.lines (number, line) (by simp)
      rw [hjob] at hentry
      exact Option.some.inj hentry
    exact .inr ⟨number, job, others, by rw [hline], hlive, hjob, hw⟩

theorem Tracks.afterJob {number : Nat} {job : Job} {others : List (Nat × String)}
    (h : Tracks rules done ((number, job.line) :: others) notices d)
    (hjob : d.jobs[number]? = some job) (i : Nat) :
    Tracks rules (done ++ [(number, job.line)]) others
      (notices ++ .taken number :: (judge d.rules job.line d.game).notices number)
      (d.afterJob i number (others.map Prod.fst) job) := by
  have hsplit :
      done ++ (number, job.line) :: others = (done ++ [(number, job.line)]) ++ others := by
    simp
  obtain ⟨hgame, hevents⟩ := judge_eq_runLine d.rules job.line d.game number
  refine ⟨h.orderly.afterJob h.queue i job, h.rules_eq, ?_, rfl, ?_, ?_, ?_⟩
  · rw [Notice.takings_append, h.takings, List.map_append]
    exact congrArg (_ ++ number :: ·) (takings_verdict _ number)
  · rw [← hsplit]
    exact h.increasing
  · rw [← hsplit]
    intro other ho
    rw [← List.getElem?_map, map_line_afterJob d hjob, List.getElem?_map]
    exact h.lines other ho
  · rw [List.map_append, List.map_singleton, runEach_concat, h.played, ← h.rules_eq,
      Notice.events_append]
    exact Prod.ext hgame.symm (congrArg (Notice.events notices ++ ·) hevents.symm)

/-- What is kept by each thing that a dispatcher does: by acts that have nothing to do with jobs, by
submissions, and by the work on the job that is next. -/
structure Kept (rules : Rules)
    (P : List (Nat × String) → List (Nat × String) → List Notice → Dispatcher → Prop) : Prop where
  tracks {done waiting : List (Nat × String)} {notices : List Notice} {d : Dispatcher} :
    P done waiting notices d → Tracks rules done waiting notices d
  idle {done waiting : List (Nat × String)} {notices : List Notice} {d : Dispatcher}
    {r : Dispatcher × List Notice} : P done waiting notices d → r.1.Orderly → d.Idle r →
    P done waiting (notices ++ r.2) r.1
  submit {done waiting : List (Nat × String)} {notices : List Notice} {d : Dispatcher} :
    P done waiting notices d → ∀ line, P done (waiting ++ (d.acceptedBy (.submit line)).toList)
      (notices ++ (d.submit line).2.2) (d.submit line).1
  afterJob {done others : List (Nat × String)} {notices : List Notice} {d : Dispatcher}
    {number : Nat} {job : Job} : P done ((number, job.line) :: others) notices d →
    d.jobs[number]? = some job → ∀ i,
    P (done ++ [(number, job.line)]) others
      (notices ++ .taken number :: (judge d.rules job.line d.game).notices number)
      (d.afterJob i number (others.map Prod.fst) job)

section Kept

variable {P : List (Nat × String) → List (Nat × String) → List Notice → Dispatcher → Prop}

theorem Kept.act (hP : Kept rules P) (h : P done waiting notices d) (a : Act) :
    ∃ done' waiting', done ++ waiting ++ (d.acceptedBy a).toList = done' ++ waiting' ∧
      P done' waiting' (notices ++ (d.act a).2) (d.act a).1 := by
  have ho := (hP.tracks h).orderly
  cases a with
  | start => exact ⟨done, waiting, List.append_nil _, hP.idle h ho.start (idle_start d)⟩
  | stop => exact ⟨done, waiting, List.append_nil _, hP.idle h ho.stop (idle_stop d)⟩
  | submit line => exact ⟨done, _, List.append_assoc .., hP.submit h line⟩
  | work i =>
    rw [Dispatcher.act]
    rcases (hP.tracks h).work_cases i with hw | ⟨number, job, others, rfl, -, hjob, hw⟩
    · rw [hw, List.append_nil]
      exact ⟨done, waiting, List.append_nil _, h⟩
    · rw [hw]
      exact ⟨_, others, by simp [acceptedBy], hP.afterJob h hjob i⟩

theorem Kept.run (hP : Kept rules P) (h : P done waiting notices d) (acts : List Act) :
    ∃ done' waiting', done ++ waiting ++ d.accepted acts = done' ++ waiting' ∧
      P done' waiting' (notices ++ (d.run acts).2) (d.run acts).1 := by
  induction acts generalizing done waiting notices d with
  | nil => exact ⟨done, waiting, List.append_nil _, by simpa using h⟩
  | cons a rest ih =>
    obtain ⟨done₁, waiting₁, hsplit₁, h₁⟩ := hP.act h a
    obtain ⟨done₂, waiting₂, hsplit₂, h₂⟩ := ih h₁
    refine ⟨done₂, waiting₂, ?_, ?_⟩
    · rw [accepted, ← List.append_assoc, hsplit₁, hsplit₂]
    · rw [run_cons, ← List.append_assoc]
      exact h₂

end Kept

theorem kept_tracks (rules : Rules) : Kept rules (Tracks rules) where
  tracks h := h
  idle h ho hr := h.idle ho hr
  submit h line := h.submit line
  afterJob h hjob i := h.afterJob hjob i

/-- At every point of every run at most one worker is live, and what was accepted is what was done
and what waits, in order and each job once. The game, and all that was reported and said in it, are
as if the lines of the jobs that were done had been run one after another. -/
theorem run_is_sequential (rules : Rules) (capacity : Int) (memory : Nat) (acts : List Act) :
    ∃ (reached : Dispatcher) (notices : List Notice) (done waiting : List (Nat × String)),
      (fresh rules capacity memory).run acts = (reached, notices) ∧
      (∀ i j : Nat, reached.workers[i]? = some .live → reached.workers[j]? = some .live → i = j) ∧
      (fresh rules capacity memory).accepted acts = done ++ waiting ∧
      ((done ++ waiting).map Prod.fst).Nodup ∧
      (∀ entry ∈ done ++ waiting, (reached.job? entry.1).map Job.line = some entry.2) ∧
      Notice.takings notices = done.map Prod.fst ∧
      reached.queue = waiting.map Prod.fst ∧
      rules.runEach (done.map Prod.snd) .empty = (reached.game, Notice.events notices) ∧
      Event.chat (Notice.events notices) =
        Event.chat (rules.runEach (done.map Prod.snd) .empty).2 := by
  obtain ⟨done, waiting, haccepted, h⟩ :=
    (kept_tracks rules).run (tracks_fresh rules capacity memory) acts
  refine ⟨_, _, done, waiting, rfl, fun i j => h.orderly.live_unique, haccepted, ?_, h.lines,
    h.takings, h.queue, h.played, ?_⟩
  · exact h.increasing.imp Nat.ne_of_lt
  · rw [h.played]
    rfl

end Dispatcher

end Scoreboard
