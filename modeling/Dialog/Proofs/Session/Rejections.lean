import Dialog.Proofs.Session.Balance

namespace Dialog

/-!
# Rejected answers

A branching node that rejects an answer leaves a session where it is, with nothing
bound; only the step and the rejection are counted. So a session that is given its
answers without those that it would reject does the same. The two sessions go side
by side: at a rejected answer one of them makes a step while the other waits
(`Ahead.reject`), and at any other both make the same step (`Ahead.step`).
-/

/-- The line that was read, if there was one. -/
def Reading.line? : Reading → Option String
  | .line raw => some raw
  | _ => none

/-- Only a rejected answer is reported on. -/
theorem Response.exists_of_report?
    {response : Response}
    (reports : response.report?.isSome = true) :
    ∃ answer reason, response = .reject answer reason := by
  cases response with
  | reject answer reason => exact ⟨answer, reason, rfl⟩
  | stay | move | accept | fail => cases reports

namespace Answers

variable {answers other : Answers}

/-- Without an interrupt, what is read is the next of the answers. -/
theorem line?_read
    (uninterrupted : answers.interruptIn = none) :
    answers.read.1.line? = answers.unread.head? := by
  obtain ⟨unread, consumed, interruptIn⟩ := answers
  obtain rfl : interruptIn = none := uninterrupted
  cases unread <;> rfl

/-- Without an interrupt, reading takes away the line that was read and no other. -/
theorem unread_read
    (uninterrupted : answers.interruptIn = none) :
    answers.unread = answers.read.1.line?.toList ++ answers.read.2.unread := by
  obtain ⟨unread, consumed, interruptIn⟩ := answers
  obtain rfl : interruptIn = none := uninterrupted
  cases unread <;> rfl

/-- Only the next answer decides what is read. -/
theorem reading_eq_of_head
    (uninterrupted : answers.interruptIn = none)
    (otherUninterrupted : other.interruptIn = none)
    (same : other.unread.head? = answers.unread.head?) :
    other.read.1 = answers.read.1 := by
  obtain ⟨unread, consumed, interruptIn⟩ := answers
  obtain ⟨otherUnread, otherConsumed, otherInterruptIn⟩ := other
  obtain rfl : interruptIn = none := uninterrupted
  obtain rfl : otherInterruptIn = none := otherUninterrupted
  cases unread <;> cases otherUnread <;> simp_all [read]

end Answers

namespace Session

variable {script : Script} {session clean : Session} {node : Node} {rejected : Nat}

/-- The answer that a step at a session reads, if there is one. -/
def heard? (session : Session) : Option String :=
  session.upcoming.bind fun _ => session.answers.read.1.line?

/-- Whether a step at a session reads an answer that makes no choice at its branching node. -/
def rejectsAnswer (session : Session) : Bool :=
  match session.currentNode, session.heard? with
  | .ok (some ⟨.branching _ _ options _, _⟩), some raw =>
      match Choice.select options (trimLineEnd raw) with
      | .rejected _ => true
      | _ => false
  | _, _ => false

/-- The answers that steps read, without those that they reject. -/
def kept (made : List Session) : List String :=
  (made.filter fun session => !session.rejectsAnswer).filterMap heard?

/-- The answers of a session without those that its run rejects. -/
def unrejected (session : Session) : List String :=
  kept (session.stepsAt .run) ++ session.run.session.answers.unread

/-- A session that has rejected so many answers more than another, and is otherwise where it is. -/
structure Ahead (rejected : Nat) (session clean : Session) : Prop where
  script : session.script = clean.script
  current : session.current = clean.current
  attempt : session.attempt = clean.attempt
  bindings : session.bindings = clean.bindings
  steps : session.metrics.steps = clean.metrics.steps + rejected
  transitions : session.metrics.transitions = clean.metrics.transitions
  invalidInputs : session.metrics.invalidInputs = clean.metrics.invalidInputs + rejected
  visits : session.metrics.visits = clean.metrics.visits

/-! ## What a step reads and reports -/

/-- A node that is left without a prompt reads nothing. -/
theorem heard?_of_leaves
    {destination : Nat}
    (standing : session.currentNode = .ok (some node))
    (leaves : node.body.turn session.bindings session.attempt = .leaves destination) :
    session.heard? = none := by
  simp [heard?, upcoming, standing, leaves]

/-- A node that shows a prompt reads the next answer. -/
theorem heard?_of_shows
    {prompt : Prompt}
    (standing : session.currentNode = .ok (some node))
    (shows : node.body.turn session.bindings session.attempt = .shows prompt) :
    session.heard? = session.answers.read.1.line? := by
  simp [heard?, upcoming, standing, shows]

/-- A step takes away the answer that it reads, and no other. -/
theorem unread_step
    (standing : session.currentNode = .ok (some node))
    (uninterrupted : session.answers.interruptIn = none) :
    session.answers.unread = session.heard?.toList ++ session.step.session.answers.unread := by
  cases turned : node.body.turn session.bindings session.attempt with
  | leaves destination =>
      rw [heard?_of_leaves standing turned, step_of_leaves standing turned, answers_conclude]
      rfl
  | shows prompt =>
      rw [heard?_of_shows standing turned, step_of_shows standing turned, answers_conclude]
      exact Answers.unread_read uninterrupted

/-- A node reports on an answer just when a choice is to be made of it and none is. -/
theorem isSome_report?_respond
    {prompt : Prompt}
    (standing : session.currentNode = .ok (some node))
    (shows : node.body.turn session.bindings session.attempt = .shows prompt) :
    (node.body.respond session.current session.attempt session.answers.read.1).report?.isSome =
      session.rejectsAnswer := by
  obtain ⟨body, line⟩ := node
  unfold rejectsAnswer
  rw [heard?_of_shows standing shows, standing]
  cases reading : session.answers.read.1 with
  | interrupted => cases body <;> rfl
  | closed => cases body <;> rfl
  | line raw =>
      cases body with
      | question success fail name prompts =>
          simp only [Node.Body.respond, Node.Body.answerQuestion]
          split
          · split <;> rfl
          · rfl
      | branching name asked options nonempty =>
          simp only [Node.Body.respond, Node.Body.answerBranching, Reading.line?]
          cases Choice.select options (trimLineEnd raw) <;> rfl
      | terminating message => rfl

/-- A step that rejects no answer reports nothing. -/
theorem reports_step_of_kept
    (standing : session.currentNode = .ok (some node))
    (kept : session.rejectsAnswer = false) :
    reports session.step.events = [] := by
  cases turned : node.body.turn session.bindings session.attempt with
  | leaves destination =>
      rw [step_of_leaves standing turned]
      exact reports_conclude session.countStep node.kind [] (.move destination)
  | shows prompt =>
      have silent := isSome_report?_respond standing turned
      rw [kept, Option.isSome_eq_false_iff, Option.isNone_iff_eq_none] at silent
      have reported := reports_conclude (session.countStep.read prompt) node.kind [prompt]
        (node.body.respond session.current session.attempt session.answers.read.1)
      rw [silent] at reported
      rw [step_of_shows standing turned]
      exact reported

/-! ## Two sessions side by side -/

namespace Ahead

/-- Sessions side by side have both halted or neither has. -/
theorem halted (ahead : Ahead rejected session clean) : clean.halted = session.halted := by
  rw [Session.halted, Session.halted, ahead.current]

/-- Both sessions stand at the same node. -/
theorem currentNode
    (ahead : Ahead rejected session clean) :
    clean.currentNode = session.currentNode := by
  unfold Session.currentNode
  rw [ahead.script, ahead.current, ahead.halted]

/-- At a rejected answer one session makes a step, and the other waits. -/
theorem reject
    (ahead : Ahead rejected session clean)
    (standing : session.currentNode = .ok (some node))
    (rejects : session.rejectsAnswer = true) :
    session.step.fault = none ∧ Ahead (rejected + 1) session.step.session clean := by
  cases turned : node.body.turn session.bindings session.attempt with
  | leaves destination =>
      simp [rejectsAnswer, heard?_of_leaves standing turned] at rejects
  | shows prompt =>
      rw [← isSome_report?_respond standing turned] at rejects
      obtain ⟨answer, reason, response⟩ := Response.exists_of_report? rejects
      rw [step_of_shows standing turned, response]
      refine ⟨rfl, ahead.script, ahead.current, ahead.attempt, ahead.bindings, ?_,
        ahead.transitions, ?_, ahead.visits⟩
      · exact congrArg (· + 1) ahead.steps
      · exact congrArg (· + 1) ahead.invalidInputs

/-- A response is carried out in both sessions alike. -/
theorem conclude
    (ahead : Ahead rejected session clean)
    (kind : Node.Kind)
    (before : List Event)
    (response : Response) :
    (clean.conclude kind before response).events = (session.conclude kind before response).events ∧
      Ahead rejected (session.conclude kind before response).session
        (clean.conclude kind before response).session := by
  obtain ⟨taken, current, attempt, bindings, steps, transitions, invalidInputs, visits⟩ := ahead
  constructor
  · simp only [Session.conclude]
    rw [current, attempt]
    cases response <;> simp only [carryOut, current]
  · cases response with
    | stay =>
        exact ⟨taken, current, congrArg (· + 1) attempt, bindings, steps, transitions,
          invalidInputs, visits⟩
    | fail fault =>
        exact ⟨taken, current, attempt, bindings, steps, transitions, invalidInputs, visits⟩
    | reject answer reason =>
        refine ⟨taken, current, attempt, bindings, steps, transitions, ?_, visits⟩
        exact (congrArg (· + 1) invalidInputs).trans (Nat.add_right_comm _ rejected 1)
    | move destination =>
        refine ⟨taken, rfl, rfl, bindings, steps, congrArg (· + 1) transitions, invalidInputs, ?_⟩
        simp only [Session.conclude, carryOut, move, goTo, visits]
    | accept name value destination =>
        refine ⟨taken, rfl, rfl, congrArg (·.bind name value) bindings, steps,
          congrArg (· + 1) transitions, invalidInputs, ?_⟩
        simp only [Session.conclude, carryOut, move, goTo, bind, visits]

/-- Both sessions count a step alike. -/
theorem countStep
    (ahead : Ahead rejected session clean) :
    Ahead rejected session.countStep clean.countStep := by
  refine ⟨ahead.script, ahead.current, ahead.attempt, ahead.bindings, ?_, ahead.transitions,
    ahead.invalidInputs, ahead.visits⟩
  exact (congrArg (· + 1) ahead.steps).trans (Nat.add_right_comm _ rejected 1)

/-- Where both sessions read the same, they make the same step. -/
theorem step
    (ahead : Ahead rejected session clean)
    (standing : session.currentNode = .ok (some node))
    (same : session.upcoming.isSome = true → clean.answers.read.1 = session.answers.read.1) :
    clean.step.fault = session.step.fault ∧ clean.step.events = session.step.events ∧
      Ahead rejected session.step.session clean.step.session := by
  have cleanStanding : clean.currentNode = .ok (some node) := ahead.currentNode.trans standing
  have counted := ahead.countStep
  cases turned : node.body.turn session.bindings session.attempt with
  | leaves destination =>
      have cleanTurned : node.body.turn clean.bindings clean.attempt = .leaves destination := by
        rw [← ahead.bindings, ← ahead.attempt, turned]
      rw [step_of_leaves standing turned, step_of_leaves cleanStanding cleanTurned]
      exact ⟨rfl, counted.conclude node.kind [] (.move destination)⟩
  | shows prompt =>
      have cleanTurned : node.body.turn clean.bindings clean.attempt = .shows prompt := by
        rw [← ahead.bindings, ← ahead.attempt, turned]
      have asked : session.upcoming.isSome = true := by simp [upcoming, standing, turned]
      have read : Ahead rejected (session.countStep.read prompt) (clean.countStep.read prompt) :=
        ⟨counted.script, counted.current, counted.attempt, counted.bindings, counted.steps,
          counted.transitions, counted.invalidInputs, counted.visits⟩
      rw [step_of_shows standing turned, step_of_shows cleanStanding cleanTurned, same asked,
        ← ahead.current, ← ahead.attempt]
      exact ⟨rfl, read.conclude node.kind [.shown prompt] _⟩

end Ahead

/-! ## What a run reads -/

/-- A session that has halted makes no steps. -/
theorem stepsWithin_of_halted
    (halted : session.halted = true)
    (bound : Nat) :
    session.stepsWithin bound = [] := by
  cases bound <;> simp [stepsWithin, halted]

/-- A step that fails is the last one that is made. -/
theorem stepsWithin_of_failed
    {fault : SessionFault}
    (running : session.halted = false)
    (failed : session.step.fault = some fault)
    (bound : Nat) :
    session.stepsWithin (bound + 1) = [session] := by
  simp [stepsWithin, running, failed]

/-- After a step that passes come the steps of the session that it leads to. -/
theorem stepsWithin_of_passed
    (running : session.halted = false)
    (passed : session.step.fault = none)
    (bound : Nat) :
    session.stepsWithin (bound + 1) = session :: session.step.session.stepsWithin bound := by
  simp [stepsWithin, running, passed]

/-- Each answer is read at one step of a run or is left unread. -/
theorem unread_runWithin
    (plays : session.Plays script)
    (uninterrupted : session.answers.interruptIn = none)
    (bound : Nat) :
    session.answers.unread =
      (session.stepsWithin bound).filterMap heard? ++
        (session.runWithin bound).session.answers.unread := by
  induction bound generalizing session with
  | zero => cases ended : session.halted <;> simp [stepsWithin, runWithin, ended]
  | succ bound inductionHypothesis =>
      cases ended : session.halted with
      | true =>
          rw [stepsWithin_of_halted ended, runWithin_of_halted ended]
          rfl
      | false =>
          obtain ⟨_, node, _, _, _, standing⟩ := plays.standing ended
          have read := unread_step standing uninterrupted
          cases outcome : session.step.fault with
          | some fault =>
              rw [stepsWithin_of_failed ended outcome, runWithin_of_failed ended outcome]
              cases heard : session.heard? <;> simpa [heard] using read
          | none =>
              rw [inductionHypothesis plays.step (uninterrupted_step uninterrupted)] at read
              rw [stepsWithin_of_passed ended outcome, runWithin_of_passed ended outcome]
              cases heard : session.heard? <;> simpa [heard, Ran.after] using read

/-- A step that rejects its answer keeps nothing. -/
theorem kept_cons_of_rejected
    (rejects : session.rejectsAnswer = true)
    (made : List Session) :
    kept (session :: made) = kept made := by
  simp [kept, rejects]

/-- A step that rejects nothing keeps the answer that it reads, if it reads one. -/
theorem kept_cons_of_kept
    (keeps : session.rejectsAnswer = false)
    (made : List Session) :
    kept (session :: made) = session.heard?.toList ++ kept made := by
  cases heard : session.heard? <;> simp [kept, keeps, heard]

/--
A session and one that was given its answers without the rejected ones read the same, also
where nothing is left to be read.
-/
theorem reading_eq_of_kept
    {made : List Session}
    {left : List String}
    (uninterrupted : session.answers.interruptIn = none)
    (cleanUninterrupted : clean.answers.interruptIn = none)
    (unread : session.answers.unread = session.heard?.toList ++ (made.filterMap heard? ++ left))
    (cleanUnread : clean.answers.unread = session.heard?.toList ++ (kept made ++ left))
    (asks : session.upcoming.isSome = true) :
    clean.answers.read.1 = session.answers.read.1 := by
  obtain ⟨prompt, asked⟩ := Option.isSome_iff_exists.mp asks
  have heard : session.heard? = session.answers.unread.head? := by
    rw [heard?, asked, Option.bind_some, Answers.line?_read uninterrupted]
  apply Answers.reading_eq_of_head uninterrupted cleanUninterrupted
  cases all : session.answers.unread with
  | cons line rest =>
      rw [heard, all] at cleanUnread
      simp [cleanUnread]
  | nil =>
      obtain ⟨heardNone, laterNone⟩ := List.append_eq_nil_iff.mp (unread.symm.trans all)
      obtain ⟨madeNone, leftNone⟩ := List.append_eq_nil_iff.mp laterNone
      have fewer : (kept made).Sublist (made.filterMap heard?) :=
        List.filter_sublist.filterMap heard?
      rw [madeNone, List.sublist_nil] at fewer
      rw [cleanUnread, heardNone, fewer, leftNone]
      rfl

/-- Both sessions read the same line, when what they are given next is the same. -/
theorem Ahead.heard?_eq
    (ahead : Ahead rejected session clean)
    (same : session.upcoming.isSome = true → clean.answers.read.1 = session.answers.read.1) :
    clean.heard? = session.heard? := by
  have asked : clean.upcoming = session.upcoming := by
    unfold upcoming
    rw [ahead.currentNode, ahead.bindings, ahead.attempt]
  unfold heard?
  rw [asked]
  cases asks : session.upcoming with
  | none => rfl
  | some prompt => rw [Option.bind_some, Option.bind_some, same (by rw [asks]; rfl)]

/-- At an answer that is not rejected both sessions make the same step and read the same. -/
theorem Ahead.keep
    (ahead : Ahead rejected session clean)
    (standing : session.currentNode = .ok (some node))
    (uninterrupted : session.answers.interruptIn = none)
    (cleanUninterrupted : clean.answers.interruptIn = none)
    (keeps : session.rejectsAnswer = false)
    {made : List Session}
    {left : List String}
    (unread : session.step.session.answers.unread = made.filterMap heard? ++ left)
    (cleanUnread : clean.answers.unread = kept (session :: made) ++ left) :
    clean.step.fault = session.step.fault ∧
      reports clean.step.events = [] ∧
        Ahead rejected session.step.session clean.step.session ∧
          clean.step.session.answers.unread = kept made ++ left := by
  have read := unread_step standing uninterrupted
  rw [unread] at read
  rw [kept_cons_of_kept keeps, List.append_assoc] at cleanUnread
  have same := reading_eq_of_kept uninterrupted cleanUninterrupted read cleanUnread
  obtain ⟨sameFault, sameEvents, further⟩ := ahead.step standing same
  refine ⟨sameFault, ?_, further, ?_⟩
  · rw [sameEvents]
    exact reports_step_of_kept standing keeps
  · have cleanRead := unread_step (ahead.currentNode.trans standing) cleanUninterrupted
    rw [ahead.heard?_eq same, cleanUnread] at cleanRead
    exact (List.append_cancel_left cleanRead).symm

/-- What two runs leave behind, one of which has rejected so many answers more than the other. -/
structure RanAhead (rejected : Nat) (ran clean : Ran) : Prop where
  ending : clean.ending = ran.ending
  ahead : Ahead rejected ran.session clean.session
  unread : clean.session.answers.unread = ran.session.answers.unread
  reports : reports clean.events = []

/-- Events in front keep one run ahead of the other, if the clean ones report nothing. -/
theorem RanAhead.after
    {ran cleanRan : Ran}
    {events cleanEvents : List Event}
    (ranAhead : RanAhead rejected ran cleanRan)
    (silent : Dialog.reports cleanEvents = []) :
    RanAhead rejected (ran.after events) (cleanRan.after cleanEvents) := by
  refine ⟨ranAhead.ending, ranAhead.ahead, ranAhead.unread, ?_⟩
  rw [Ran.after, reports_append, silent, ranAhead.reports]
  rfl

/-- Closing both runs keeps one ahead of the other. -/
theorem RanAhead.closed
    {ran cleanRan : Ran}
    (ranAhead : RanAhead rejected ran cleanRan) :
    RanAhead rejected ran.closed cleanRan.closed := by
  refine ⟨ranAhead.ending, ranAhead.ahead, ranAhead.unread, ?_⟩
  rw [reports_closed, ranAhead.reports]

/-- Where one session has halted, both runs are over at once. -/
theorem Ahead.runWithin_of_halted
    (ahead : Ahead rejected session clean)
    (ended : session.halted = true)
    {bound : Nat}
    (unread :
      clean.answers.unread =
        kept (session.stepsWithin bound) ++ (session.runWithin bound).session.answers.unread) :
    RanAhead (rejected + (session.stepsWithin bound).countP rejectsAnswer)
      (session.runWithin bound) (clean.runWithin bound) := by
  rw [stepsWithin_of_halted ended, Session.runWithin_of_halted ended] at unread ⊢
  rw [Session.runWithin_of_halted (ahead.halted.trans ended)]
  exact ⟨rfl, ahead, unread, rfl⟩

/--
A run goes the same way over the answers without those that it rejects. The
induction is on the steps that are allowed; the other run needs no more of them.
-/
theorem Ahead.runWithin
    (ahead : Ahead rejected session clean)
    (plays : session.Plays script)
    (uninterrupted : session.answers.interruptIn = none)
    (cleanUninterrupted : clean.answers.interruptIn = none)
    {bound : Nat}
    (ends : (session.runWithin bound).ending ≠ .endless)
    (unread :
      clean.answers.unread =
        kept (session.stepsWithin bound) ++ (session.runWithin bound).session.answers.unread) :
    RanAhead (rejected + (session.stepsWithin bound).countP rejectsAnswer)
      (session.runWithin bound) (clean.runWithin bound) := by
  induction bound generalizing session clean rejected with
  | zero =>
      cases ended : session.halted with
      | true => exact ahead.runWithin_of_halted ended unread
      | false => simp [Session.runWithin, ended] at ends
  | succ bound inductionHypothesis =>
      cases ended : session.halted with
      | true => exact ahead.runWithin_of_halted ended unread
      | false =>
          obtain ⟨_, node, _, _, _, standing⟩ := plays.standing ended
          have cleanRunning : clean.halted = false := ahead.halted.trans ended
          cases rejects : session.rejectsAnswer with
          | true =>
              obtain ⟨passed, further⟩ := ahead.reject standing rejects
              rw [stepsWithin_of_passed ended passed, runWithin_of_passed ended passed,
                kept_cons_of_rejected rejects] at unread
              rw [runWithin_of_passed ended passed] at ends
              rw [stepsWithin_of_passed ended passed, runWithin_of_passed ended passed,
                List.countP_cons_of_pos rejects]
              have later := inductionHypothesis further plays.step
                (uninterrupted_step uninterrupted) cleanUninterrupted ends unread
              have cleanEnds : (clean.runWithin bound).ending ≠ .endless := by
                rwa [later.ending]
              have counted : ∀ count, rejected + (count + 1) = rejected + 1 + count := by omega
              have nothing : reports [] = [] := rfl
              rw [runWithin_of_le cleanEnds (Nat.le_succ bound), counted]
              exact later.after nothing
          | false =>
              have keeps : ¬session.rejectsAnswer = true := by simp [rejects]
              cases outcome : session.step.fault with
              | some fault =>
                  rw [stepsWithin_of_failed ended outcome, runWithin_of_failed ended outcome]
                    at unread ⊢
                  obtain ⟨sameFault, silent, further, left⟩ :=
                    ahead.keep standing uninterrupted cleanUninterrupted rejects rfl unread
                  rw [runWithin_of_failed cleanRunning (sameFault.trans outcome),
                    List.countP_cons_of_neg keeps]
                  exact ⟨rfl, further, left, silent⟩
              | none =>
                  rw [runWithin_of_passed ended outcome] at ends
                  rw [stepsWithin_of_passed ended outcome, runWithin_of_passed ended outcome]
                    at unread ⊢
                  have stillUninterrupted := uninterrupted_step uninterrupted
                  obtain ⟨sameFault, silent, further, left⟩ :=
                    ahead.keep standing uninterrupted cleanUninterrupted rejects
                      (unread_runWithin plays.step stillUninterrupted bound) unread
                  rw [runWithin_of_passed cleanRunning (sameFault.trans outcome),
                    List.countP_cons_of_neg keeps]
                  have later := inductionHypothesis further plays.step stillUninterrupted
                    (uninterrupted_step cleanUninterrupted) ends left
                  exact later.after silent

/--
What the answers that a run rejects do to it. Each answer is read at one step or
is never read, and a run over those that are left when the rejected ones are taken
out ends the same way, with fewer steps and rejections by as many as these were.
-/
structure Stutters (session clean : Session) : Prop where
  answers :
    session.answers.unread =
      (session.stepsAt .run).filterMap heard? ++ session.run.session.answers.unread
  runs : RanAhead ((session.stepsAt .run).countP rejectsAnswer) session.run clean.run

/--
A run stutters beside that of a session without the answers it rejects, unless it goes on
for ever.
-/
theorem Ahead.run
    (ahead : Ahead 0 session clean)
    (plays : session.Plays script)
    (cleanPlays : clean.Plays script)
    (uninterrupted : session.answers.interruptIn = none)
    (cleanUninterrupted : clean.answers.interruptIn = none)
    (ends : session.run.ending ≠ .endless)
    (unread : clean.answers.unread = session.unrejected) :
    Stutters session clean := by
  have made : session.stepsAt .run = session.stepsWithin (session.stepBound script) := by
    simp only [stepsAt, plays.1]
  have ran := run_of_taken plays.1
  rw [ran] at ends
  rw [unrejected, made, ran] at unread
  have within := ahead.runWithin plays uninterrupted cleanUninterrupted ends unread
  have cleanRan := run_eq_of_ends cleanPlays (within.ending ▸ ends)
  refine ⟨?_, ?_⟩
  · rw [made, ran]
    exact unread_runWithin plays uninterrupted _
  · rw [made, ran, cleanRan]
    simpa using within.closed

/-- To leave out the answers that a run rejects changes nothing but what it counts and reports. -/
theorem stutters_at_rejections
    (lines : List String)
    {script : Script}
    (playable : 0 < script.size)
    (ends : ((fresh (.ofList lines)).begin script).run.ending ≠ .endless) :
    Stutters ((fresh (.ofList lines)).begin script)
      ((fresh (.ofList ((fresh (.ofList lines)).begin script).unrejected)).begin script) := by
  have ahead (cleanLines : List String) :
      Ahead 0 ((fresh (.ofList lines)).begin script)
        ((fresh (.ofList cleanLines)).begin script) :=
    ⟨rfl, rfl, rfl, rfl, rfl, rfl, rfl, rfl⟩
  exact (ahead _).run (plays_begin _ playable) (plays_begin _ playable) rfl rfl ends rfl

/--
The choice rejects an answer each of the two times it is come to; the last line is never
read.
-/
theorem stutters_at_rejections_everyTurn :
    Stutters ((fresh (.ofList ["x", "2", "", "", "0", "1", "", "left"])).begin everyTurn)
      ((fresh (.ofList ["2", "", "", "1", "", "left"])).begin everyTurn) := by
  have ends :
      ((fresh (.ofList ["x", "2", "", "", "0", "1", "", "left"])).begin everyTurn).run.ending ≠
        .endless := by
    decide
  have left :
      ((fresh (.ofList ["x", "2", "", "", "0", "1", "", "left"])).begin everyTurn).unrejected =
        ["2", "", "", "1", "", "left"] := by
    decide
  have stutters :=
    stutters_at_rejections ["x", "2", "", "", "0", "1", "", "left"]
      (by decide : 0 < everyTurn.size) ends
  rwa [left] at stutters

end Session

end Dialog
