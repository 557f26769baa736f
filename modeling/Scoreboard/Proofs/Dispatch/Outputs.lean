import Scoreboard.Proofs.Dispatch.Taken

namespace Scoreboard

open Dispatcher

structure LogBuffer where
  held : List (Level × String)
  passedOn : List (Level × String)
  outputs : List (Nat × List (Level × String))
  deriving Repr, DecidableEq

namespace LogBuffer

def empty : LogBuffer :=
  ⟨[], [], []⟩

def write (b : LogBuffer) (entries : List (Level × String)) : LogBuffer :=
  { b with held := b.held ++ entries, passedOn := b.passedOn ++ entries }

def clear (b : LogBuffer) : LogBuffer :=
  { b with held := [] }

def drain (b : LogBuffer) (job : Nat) : LogBuffer :=
  { b with held := [], outputs := b.outputs ++ [(job, b.held)] }

def hear (b : LogBuffer) : Notice → LogBuffer
  | .taken _ => b.clear
  | .game event => b.write (Event.log [event])
  | .rejected job _ => b.drain job
  | .failed job _ => b.drain job
  | .succeeded job => b.drain job
  | _ => b

def hearAll (b : LogBuffer) (notices : List Notice) : LogBuffer :=
  notices.foldl hear b

theorem hearAll_append (b : LogBuffer) (first second : List Notice) :
    b.hearAll (first ++ second) = (b.hearAll first).hearAll second :=
  List.foldl_append

theorem passedOn_hear (b : LogBuffer) (notice : Notice) :
    (b.hear notice).passedOn = b.passedOn ++ Event.log (Notice.events [notice]) := by
  cases notice with
  | game event => rfl
  | _ => exact (List.append_nil _).symm

theorem passedOn_hearAll (b : LogBuffer) (notices : List Notice) :
    (b.hearAll notices).passedOn = b.passedOn ++ Event.log (Notice.events notices) := by
  induction notices generalizing b with
  | nil => exact (List.append_nil _).symm
  | cons notice rest ih =>
    rw [← List.singleton_append, Notice.events_append, Event.log_append, ← List.append_assoc,
      ← passedOn_hear]
    exact ih (b.hear notice)

theorem hearAll_game (b : LogBuffer) (events : List Event) :
    b.hearAll (events.map .game) = b.write (Event.log events) := by
  induction events generalizing b with
  | nil => simp [hearAll, write, Event.log]
  | cons event rest ih =>
    have hlog : Event.log (event :: rest) = Event.log [event] ++ Event.log rest :=
      Event.log_append [event] rest
    show (b.write (Event.log [event])).hearAll (rest.map .game) = _
    rw [ih, hlog]
    simp [write]

theorem hearAll_eq_self (b : LogBuffer) {notices : List Notice}
    (htakings : Notice.takings notices = []) (hfinishings : Notice.finishings notices = [])
    (hevents : Notice.events notices = []) : b.hearAll notices = b := by
  induction notices with
  | nil => rfl
  | cons notice rest ih =>
    cases notice <;>
      simp_all [hearAll, hear, Notice.takings, Notice.taken?, Notice.finishings, Notice.finished?,
        Notice.events, Notice.event?]

theorem hearAll_ran (b : LogBuffer) (number : Nat) (o : Outcome) :
    b.hearAll (.taken number :: (Verdict.ran o).notices number) =
      (b.clear.write (Event.log o.events)).drain number := by
  show b.clear.hearAll ((Verdict.ran o).notices number) = _
  rw [Verdict.notices, hearAll_append, hearAll_game]
  split <;> rfl

theorem outputs_hear (b : LogBuffer) (notice : Notice) :
    (b.hear notice).outputs.map Prod.fst =
      b.outputs.map Prod.fst ++ Notice.finishings [notice] := by
  cases notice with
  | rejected job error => exact List.map_append
  | failed job error => exact List.map_append
  | succeeded job => exact List.map_append
  | _ => exact (List.append_nil _).symm

/-- Jobs get their outputs in the order in which they finish. -/
theorem outputs_hearAll (b : LogBuffer) (notices : List Notice) :
    (b.hearAll notices).outputs.map Prod.fst =
      b.outputs.map Prod.fst ++ Notice.finishings notices := by
  induction notices generalizing b with
  | nil => exact (List.append_nil _).symm
  | cons notice rest ih =>
    have hsplit : Notice.finishings (notice :: rest) =
        Notice.finishings [notice] ++ Notice.finishings rest :=
          Notice.finishings_append [notice] rest
    rw [hsplit, ← List.append_assoc, ← outputs_hear]
    exact ih (b.hear notice)

theorem hearAll_crash (b : LogBuffer) (number : Nat) (o : Outcome) :
    b.hearAll (.taken number :: (Verdict.crash o).notices number) =
      b.clear.write (Event.log o.events) :=
  hearAll_game b.clear o.events

end LogBuffer

namespace Dispatcher

def outputOf (d : Dispatcher) (number : Nat) : List (Level × String) :=
  ((d.job? number).map Job.output).getD []

/-- What the run of a line's command reports, if the line holds one. -/
def reportsOf (rules : Rules) (line : String) (game : State) : List (Level × String) :=
  match parse line with
  | .ok c => Event.log (c.run rules game).events
  | .error _ => []

theorem log_events_judge (rules : Rules) (line : String) (game : State) (number : Nat) :
    Event.log (Notice.events ((judge rules line game).notices number)) =
      reportsOf rules line game := by
  rw [(judge_eq_runLine rules line game number).2, reportsOf]
  cases hp : parse line with
  | error e => rw [(runLine_of_error rules game hp).2, Event.log, List.filterMap_nil]
  | ok c => rw [(runLine_of_ok rules game hp).2]

theorem output_record_ran (line : String) (o : Outcome) :
    ((Verdict.ran o).record line).output = Event.log o.events := by
  rw [Verdict.record]
  split <;> rfl

theorem finished_record_ran (line : String) (o : Outcome) :
    ((Verdict.ran o).record line).finished = true := by
  rw [Verdict.record]
  split <;> rfl

theorem output_eq_reportsOf {rules : Rules} {line : String} {game : State}
    (h : ((judge rules line game).record line).finished = true) :
    ((judge rules line game).record line).output = reportsOf rules line game := by
  rw [reportsOf]
  rcases judge_cases rules line game with
    ⟨e, hp, hj⟩ | ⟨hp, hj⟩ | ⟨c, hp, -, hj⟩ | ⟨c, f, hp, -, -, hj⟩
  · rw [hj, hp]
    rfl
  · rw [hj] at h
    cases h
  · rw [hj, hp]
    exact output_record_ran line _
  · rw [hj] at h
    cases h

variable {rules : Rules} {memory : Nat} {done waiting : List (Nat × String)}
  {notices : List Notice} {d : Dispatcher}

def filed (d : Dispatcher) (numbers : List Nat) : List (Nat × List (Level × String)) :=
  (numbers.filter d.isFinished).map fun number => (number, d.outputOf number)

theorem filed_congr {d d' : Dispatcher} {numbers : List Nat}
    (h : ∀ number ∈ numbers, d'.jobs[number]? = d.jobs[number]?) :
    d'.filed numbers = d.filed numbers := by
  have hfinished : numbers.filter d'.isFinished = numbers.filter d.isFinished :=
    List.filter_congr fun number hn => isFinished_congr (h number hn)
  rw [filed, filed, hfinished]
  apply List.map_congr_left
  intro number hn
  rw [outputOf, outputOf, job?, job?, h number (List.mem_of_mem_filter hn)]

theorem filed_concat (d : Dispatcher) (numbers : List Nat) {number : Nat} {record : Job}
    (h : d.job? number = some record) :
    d.filed (numbers ++ [number]) =
      d.filed numbers ++ if record.finished then [(number, record.output)] else [] := by
  have hfinished : d.isFinished number = record.finished := by simp [isFinished, h]
  have houtput : d.outputOf number = record.output := by simp [outputOf, h]
  rw [filed, filed, List.filter_append, List.map_append, List.filter_singleton, hfinished]
  cases record.finished <;> simp [houtput]

theorem outputs_hearAll_verdict (b : LogBuffer) (number : Nat) (line : String) (v : Verdict) :
    (b.hearAll (.taken number :: v.notices number)).outputs = b.outputs ++
      if (v.record line).finished then [(number, (v.record line).output)] else [] := by
  cases v with
  | rejected e => rfl
  | ran o =>
    rw [LogBuffer.hearAll_ran, finished_record_ran, output_record_ran, if_pos rfl]
    rfl
  | crash o =>
    rw [LogBuffer.hearAll_crash]
    exact (List.append_nil _).symm

/-- The output that a job adds is all that it has reported if it finishes, and none otherwise. -/
theorem flatMap_outputs_judge (b : LogBuffer) (rules : Rules) (line : String) (game : State)
    (number : Nat) :
    (b.hearAll (.taken number :: (judge rules line game).notices number)).outputs.flatMap Prod.snd =
      b.outputs.flatMap Prod.snd ++
        if ((judge rules line game).record line).finished then reportsOf rules line game
        else [] := by
  rw [outputs_hearAll_verdict _ _ line, List.flatMap_append]
  cases hf : ((judge rules line game).record line).finished with
  | true =>
    rw [← output_eq_reportsOf hf, if_pos rfl, if_pos rfl, List.flatMap_singleton]
  | false => rfl

/-- A job that does not finish has reported nothing, unless the datapack or the limit on nested
calls can end a worker. -/
theorem reportsOf_of_unfinished {rules : Rules} {line : String} {game : State}
    (hall : rules.All Command.Addressed) (hw : rules.Writable) (hgame : game.Writable)
    (h : ((judge rules line game).record line).finished = false) :
    reportsOf rules line game = [] := by
  rw [reportsOf]
  rcases judge_cases rules line game with
    ⟨e, hp, -⟩ | ⟨hp, -⟩ | ⟨c, -, -, hj⟩ | ⟨c, f, hp, hf, hselector, -⟩
  · rw [hp]
  · rw [hp]
  · rw [hj, finished_record_ran] at h
    cases h
  · have hc := wellFormed_of_parse hp
    rcases fault_of_addressed hall hc.addressed hf with ⟨v, rfl⟩ | ⟨-, hbad⟩
    · exact absurd rfl (hselector v)
    · exact absurd ⟨hw, hc.writable, hgame⟩ hbad

/-- The buffer has given every finished job the output that is on record of it, and has passed on
these outputs in order. It has passed on nothing else where neither the datapack nor the limit on
nested calls can end a worker. -/
structure Filed (rules : Rules) (memory : Nat) (done waiting : List (Nat × String))
    (notices : List Notice) (d : Dispatcher) : Prop
    extends Ledger rules memory done waiting notices d where
  outputs : (LogBuffer.empty.hearAll notices).outputs = d.filed (done.map Prod.fst)
  keptAll : ((LogBuffer.empty.hearAll notices).outputs.flatMap Prod.snd).Sublist
    (Event.log (Notice.events notices))
  noOthers : rules.All Command.Addressed → rules.Writable → Event.log (Notice.events notices) =
    (LogBuffer.empty.hearAll notices).outputs.flatMap Prod.snd

theorem filed_fresh (rules : Rules) (capacity : Int) (memory : Nat) :
    Filed rules memory [] [] [] (fresh rules capacity memory) where
  toLedger := ledger_fresh rules capacity memory
  outputs := rfl
  keptAll := List.Sublist.slnil
  noOthers _ _ := rfl

theorem Filed.of_quiet (h : Filed rules memory done waiting notices d)
    {waiting' : List (Nat × String)} {others : List Notice} {d' : Dispatcher}
    (hl : Ledger rules memory done waiting' (notices ++ others) d')
    (htakings : Notice.takings others = []) (hfinishings : Notice.finishings others = [])
    (hevents : Notice.events others = [])
    (hjobs : ∀ number ∈ done.map Prod.fst, d'.jobs[number]? = d.jobs[number]?) :
    Filed rules memory done waiting' (notices ++ others) d' := by
  have hbuffer : LogBuffer.empty.hearAll (notices ++ others) = LogBuffer.empty.hearAll notices := by
    rw [LogBuffer.hearAll_append, LogBuffer.hearAll_eq_self _ htakings hfinishings hevents]
  have hlog : Notice.events (notices ++ others) = Notice.events notices := by
    rw [Notice.events_append, hevents, List.append_nil]
  refine ⟨hl, ?_, ?_, ?_⟩
  · rw [hbuffer, h.outputs, filed_congr hjobs]
  · rw [hbuffer, hlog]
    exact h.keptAll
  · rw [hbuffer, hlog]
    exact h.noOthers

theorem Filed.submit (h : Filed rules memory done waiting notices d) (line : String) :
    Filed rules memory done (waiting ++ (d.acceptedBy (.submit line)).toList)
      (notices ++ (d.submit line).2.2) (d.submit line).1 := by
  have hquiet : Notice.takings (d.submit line).2.2 = [] ∧
      Notice.finishings (d.submit line).2.2 = [] ∧ Notice.events (d.submit line).2.2 = [] := by
    rw [submit_eq]
    split <;> exact ⟨rfl, rfl, rfl⟩
  apply h.of_quiet (h.toLedger.submit line) hquiet.1 hquiet.2.1 hquiet.2.2
  intro number hn
  rw [jobs_submit]
  apply List.getElem?_append_left
  apply h.number_lt
  rw [List.map_append]
  exact List.mem_append_left _ hn

theorem Filed.afterJob {number : Nat} {job : Job} {others : List (Nat × String)}
    (h : Filed rules memory done ((number, job.line) :: others) notices d)
    (hjob : d.jobs[number]? = some job) (i : Nat) :
    Filed rules memory (done ++ [(number, job.line)]) others
      (notices ++ .taken number :: (judge d.rules job.line d.game).notices number)
      (d.afterJob i number (others.map Prod.fst) job) := by
  let d' := d.afterJob i number (others.map Prod.fst) job
  let verdict := judge d.rules job.line d.game
  have hrecord : d'.job? number = some (verdict.record job.line) :=
    List.getElem?_set_self (List.getElem?_eq_some_iff.1 hjob).1
  have hdone : ∀ n ∈ done.map Prod.fst, d'.jobs[n]? = d.jobs[n]? := by
    intro n hn
    obtain ⟨-, -, hlt⟩ := h.split_increasing
    exact List.getElem?_set_ne (Nat.ne_of_gt (hlt n hn number List.mem_cons_self))
  have houtputs : (LogBuffer.empty.hearAll
      (notices ++ .taken number :: verdict.notices number)).outputs =
        d'.filed ((done ++ [(number, job.line)]).map Prod.fst) := by
    rw [LogBuffer.hearAll_append, outputs_hearAll_verdict _ _ job.line, h.outputs, List.map_append,
      List.map_singleton, filed_concat d' _ hrecord, filed_congr hdone]
  have hlog : Event.log (Notice.events (notices ++ .taken number :: verdict.notices number)) =
      Event.log (Notice.events notices) ++ reportsOf d.rules job.line d.game := by
    rw [Notice.events_append, Event.log_append]
    exact congrArg _ (log_events_judge d.rules job.line d.game number)
  refine ⟨h.toLedger.afterJob hjob i, houtputs, ?_, fun hall hw => ?_⟩
  · rw [hlog, LogBuffer.hearAll_append, flatMap_outputs_judge]
    refine h.keptAll.append ?_
    split
    · exact .refl _
    · exact List.nil_sublist _
  · rw [hlog, LogBuffer.hearAll_append, flatMap_outputs_judge, h.noOthers hall hw]
    split
    · rfl
    · next hf =>
      have hgame := h.writable hw
      rw [← h.rules_eq] at hall hw
      rw [reportsOf_of_unfinished hall hw hgame (Bool.eq_false_iff.2 hf)]

theorem kept_filed (rules : Rules) (memory : Nat) : Kept rules (Filed rules memory) where
  tracks h := h.toTracks
  idle h ho hr := h.of_quiet (h.toLedger.idle ho hr) hr.takings hr.finishings hr.events
    fun _ _ => by rw [hr.jobs]
  submit h line := h.submit line
  afterJob h hjob i := h.afterJob hjob i

theorem output_of_rejected {line : String} {v : Verdict}
    (h : (v.record line).status = .rejected) : (v.record line).output = [] := by
  cases v with
  | rejected e => rfl
  | crash o => rfl
  | ran o =>
    rw [Verdict.record] at h
    split at h <;> cases h

theorem Ledger.mem_done (h : Ledger rules memory done waiting notices d) {number : Nat} {job : Job}
    (hjob : d.job? number = some job) (hfinished : job.finished = true) :
    (number, job.line) ∈ done := by
  have hmem : number ∈ done.map Prod.fst := by
    by_contra hn
    rw [h.untouched number job hjob hn] at hfinished
    cases hfinished
  obtain ⟨entry, he, rfl⟩ := List.mem_map.1 hmem
  have hline := h.lines entry (List.mem_append_left _ he)
  rw [show d.jobs[entry.1]? = some job from hjob] at hline
  rw [Option.some.inj hline]
  exact he

/-- At every point of every run the output of a finished job is what the run of its line's command
reports in the game that the jobs taken before it have led to, up to the fault if it ends in one,
and nothing for a line that is rejected. One buffer for all jobs gives each of them just this, in
the order in which they finish. What it passes on is all that the commands of the jobs taken report,
and the outputs of the finished jobs one after another are part of that. They are all of it where
each target in the datapack is a player or a selector and neither an amount in it nor the limit on
nested calls has too many digits to be told. -/
theorem outputs_are_own_reports (rules : Rules) (capacity : Int) (memory : Nat) (acts : List Act) :
    ∃ (reached : Dispatcher) (notices : List Notice) (done : List (Nat × String)),
      (fresh rules capacity memory).run acts = (reached, notices) ∧
      Notice.takings notices = done.map Prod.fst ∧
      rules.runEach (done.map Prod.snd) .empty = (reached.game, Notice.events notices) ∧
      (∀ number job, reached.job? number = some job → job.finished = true →
        (∃ before after, done = before ++ (number, job.line) :: after ∧
          job.output = reportsOf rules job.line (rules.runEach (before.map Prod.snd) .empty).1) ∧
        (job.status = .rejected → job.output = [])) ∧
      Notice.finishings notices = (Notice.takings notices).filter reached.isFinished ∧
      (LogBuffer.empty.hearAll notices).outputs =
        (Notice.finishings notices).map (fun number => (number, reached.outputOf number)) ∧
      (LogBuffer.empty.hearAll notices).passedOn = Event.log (Notice.events notices) ∧
      ((Notice.finishings notices).flatMap reached.outputOf).Sublist
        (LogBuffer.empty.hearAll notices).passedOn ∧
      (rules.All Command.Addressed → rules.Writable →
        (LogBuffer.empty.hearAll notices).passedOn =
          (Notice.finishings notices).flatMap reached.outputOf) := by
  obtain ⟨done, waiting, -, h⟩ :=
    (kept_filed rules memory).run (filed_fresh rules capacity memory) acts
  rw [List.nil_append] at h
  have hpassed := LogBuffer.passedOn_hearAll .empty ((fresh rules capacity memory).run acts).2
  have hfinishings : Notice.finishings ((fresh rules capacity memory).run acts).2 =
      (done.map Prod.fst).filter ((fresh rules capacity memory).run acts).1.isFinished := by
    have hnumbers := LogBuffer.outputs_hearAll .empty ((fresh rules capacity memory).run acts).2
    rw [h.outputs, filed, List.map_map] at hnumbers
    exact (hnumbers.symm.trans (List.map_id _))
  have houtputs : (LogBuffer.empty.hearAll ((fresh rules capacity memory).run acts).2).outputs =
      (Notice.finishings ((fresh rules capacity memory).run acts).2).map fun number =>
        (number, ((fresh rules capacity memory).run acts).1.outputOf number) := by
    rw [h.outputs, filed, hfinishings]
  refine ⟨_, _, done, rfl, h.takings, h.played, ?_, ?_, houtputs, hpassed, ?_, fun hall hw => ?_⟩
  · intro number job hjob hfinished
    obtain ⟨before, after, rfl⟩ := List.append_of_mem (h.mem_done hjob hfinished)
    have hrecord := Option.some.inj (hjob.symm.trans h.toLedger.record_at)
    have houtput := output_eq_reportsOf (by rw [← hrecord]; exact hfinished)
    rw [← hrecord] at houtput
    refine ⟨⟨before, after, rfl, houtput⟩, fun hrejected => ?_⟩
    rw [hrecord] at hrejected ⊢
    exact output_of_rejected hrejected
  · rw [hfinishings, h.takings]
  · have hkept := h.keptAll
    rw [houtputs, List.flatMap_map] at hkept
    rw [hpassed]
    exact hkept
  · have hlog := h.noOthers hall hw
    rw [houtputs, List.flatMap_map] at hlog
    rw [hpassed]
    exact hlog

/-- A function that reports before it ends in a fault. -/
def faultyRules : Rules :=
  ⟨some ⟨"p", [⟨⟨"f", none⟩, [.objectives .list, .players (.add (.selector .a) "o" 1)]⟩]⟩, 64⟩

/-- The first job fails within the function, the second is rejected, and the third succeeds. -/
theorem outputs_are_own_reports_faulty :
    let ran := (fresh faultyRules 9 9).run [.start, .submit "function f", .submit "f",
      .submit "scoreboard objectives list", .work 0, .work 0, .work 0]
    faultyRules.All Command.Addressed ∧ faultyRules.Writable ∧
      Notice.finishings ran.2 = [0, 1, 2] ∧
      (LogBuffer.empty.hearAll ran.2).passedOn = [0, 1, 2].flatMap ran.1.outputOf := by
  intro ran
  have hall : faultyRules.All fun c => c.Addressed ∧ c.Writable := by
    intro pack hpack f hf c hc
    obtain rfl := Option.some.inj hpack
    cases List.mem_singleton.1 hf
    rcases List.mem_pair.1 hc with rfl | rfl
    · exact ⟨List.forall_mem_nil _, List.forall_mem_nil _⟩
    · exact ⟨List.forall_mem_singleton.2 fun v => by simp,
        List.forall_mem_singleton.2 (Score.InRange.writable (by decide))⟩
  have haddressed := hall.imp fun _ => And.left
  have hwritable : faultyRules.Writable :=
    ⟨Score.InRange.writable (by decide), hall.imp fun _ => And.right⟩
  have hfinishings : Notice.finishings ran.2 = [0, 1, 2] := by decide +kernel
  obtain ⟨reached, notices, done, hrun, -, -, -, -, -, -, -, hpassed⟩ :=
    outputs_are_own_reports faultyRules 9 9 [.start, .submit "function f", .submit "f",
      .submit "scoreboard objectives list", .work 0, .work 0, .work 0]
  have hran : ran = (reached, notices) := hrun
  refine ⟨haddressed, hwritable, hfinishings, ?_⟩
  rw [← hfinishings, hran]
  exact hpassed haddressed hwritable

/-- A function that reports before it stores a score with too many digits. -/
def overlongRules : Rules :=
  ⟨some ⟨"p", [⟨⟨"f", none⟩,
    [.objectives (.add "o" .dummy none), .players (.set (.player "a") "o" overlong)]⟩]⟩, 64⟩

theorem run_overlongRules :
    let o := (Command.function ⟨"f", none⟩).run overlongRules .empty
    o.fault = some (.unwritable .info) ∧
      Event.log o.events = [(.info, "Created new objective [o]")] := by
  have hreport : Text.numeral? overlong = none :=
    Text.numeral?_eq_none_iff.2 not_writable_overlong
  let created : State :=
    { State.empty with objectives := ⟨[("o", ⟨"o", .integer, .dummy, .empty⟩)]⟩ }
  let body := ((created.inform [some "Created new objective [o]"]).preceded
    [.executed "ObjectivesAdd"]).andThen fun s =>
      (((s.setScore "o" "a" overlong).inform
        [do return "Set [o] for a to " ++ (← Text.numeral? overlong)]).preceded
          [.executed "PlayersSet"]).andThen .nothing
  have hrun : (Command.function ⟨"f", none⟩).run overlongRules .empty =
      ((body.preceded [.entered ⟨"f", none⟩]).followed [.left]).preceded
        [.executed "FunctionCommand"] := rfl
  rw [hrun]
  simp only [body, hreport]
  exact ⟨rfl, rfl⟩

/-- What the function reports before the worker ends is passed on, but it is in no job's output. -/
theorem passedOn_ne_outputs_overlong :
    let ran := (fresh overlongRules 9 9).run [.start, .submit "function f", .work 0]
    (LogBuffer.empty.hearAll ran.2).passedOn = [(.info, "Created new objective [o]")] ∧
      (LogBuffer.empty.hearAll ran.2).passedOn ≠
        (Notice.finishings ran.2).flatMap ran.1.outputOf := by
  intro ran
  have hparse : parse "function f" = .ok (.function ⟨"f", none⟩) := by decide +kernel
  let o := (Command.function ⟨"f", none⟩).run overlongRules .empty
  have hjudge : judge overlongRules "function f" .empty = .crash o := by
    rw [judge, hparse]
    simp only [run_overlongRules.1]
    rfl
  have hran : ran = _ := run_crash overlongRules 9 9 hjudge
  have hevents : Notice.events ran.2 = o.events := by
    rw [hran]
    exact Notice.events_map_game o.events
  have hfinishings : Notice.finishings ran.2 = [] := by
    rw [hran]
    simp [Notice.finishings, Notice.finished?]
  rw [LogBuffer.passedOn_hearAll, hevents, hfinishings, run_overlongRules.2]
  exact ⟨rfl, List.cons_ne_nil _ _⟩

end Dispatcher

end Scoreboard
