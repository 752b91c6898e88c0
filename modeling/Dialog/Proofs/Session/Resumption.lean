import Dialog.Proofs.Session.Endless
import Dialog.Proofs.Session.Faults
import Dialog.Proofs.Session.Unseen

namespace Dialog

/-!
# Going on after the answers ran out

A step that finds no answer has counted itself and shown its prompt, and has done
nothing else. Fed with more answers, the session stands where a session would
that had them from the start, and from there both take the same steps: answers
further back make no difference to a step, nor does the count of steps, and the
prompt that was last shown is shown again first.
-/

namespace Answers

variable {answers : Answers} {text : String}

/-- An answer that is read is read all the same when more answers stand behind it. -/
theorem read_feed
    (heard : answers.read.1 = .line text)
    (lines : List String) :
    (answers.feed lines).read = (.line text, answers.read.2.feed lines) := by
  unfold read at heard ⊢
  split at heard
  · cases heard
  · rename_i ready
    cases unread : answers.unread with
    | nil => simp [unread] at heard
    | cons line rest =>
        obtain rfl : line = text := by simpa [unread] using heard
        simp [ready, feed, unread]

/-- Reading a closed queue leaves it as it was. -/
theorem read_closed
    (uninterrupted : answers.interruptIn = none)
    (closed : answers.read.1 = .closed) :
    answers.read.2 = answers := by
  obtain ⟨unread, consumed, interruptIn⟩ := answers
  obtain rfl : interruptIn = none := uninterrupted
  cases unread with
  | nil => rfl
  | cons line rest => cases closed

/-- Reading an answer brings no interrupt. -/
theorem uninterrupted_read
    (uninterrupted : answers.interruptIn = none) :
    answers.read.2.interruptIn = none := by
  obtain ⟨unread, consumed, interruptIn⟩ := answers
  obtain rfl : interruptIn = none := uninterrupted
  cases unread <;> rfl

end Answers

namespace Session

variable {script : Script} {session first last : Session}

/-! ## Answers further back -/

/-- To be fed before a response is carried out or after it makes no difference. -/
theorem conclude_feed
    (session : Session)
    (lines : List String)
    (kind : Node.Kind)
    (before : List Event)
    (response : Response) :
    (session.feed lines).conclude kind before response =
      { session.conclude kind before response with
        session := (session.conclude kind before response).session.feed lines } := by
  cases response <;> rfl

/-- A step that goes through, and not to the end, does the same with more answers to come. -/
theorem step_feed
    (plays : session.Plays script)
    (running : session.halted = false)
    (passed : session.step.fault = none)
    (stillRunning : session.step.session.halted = false)
    (lines : List String) :
    (session.feed lines).step =
      { session.step with session := session.step.session.feed lines } := by
  obtain ⟨id, node, here, present, fits, standing⟩ := plays.standing running
  have standingFed : (session.feed lines).currentNode = .ok (some node) := standing
  cases turned : node.body.turn session.bindings session.attempt with
  | leaves destination =>
      rw [step_of_leaves standing turned, step_of_leaves standingFed turned]
      exact conclude_feed session.countStep lines node.kind [] (.move destination)
  | shows prompt =>
      rw [step_of_shows standing turned] at passed stillRunning ⊢
      rw [step_of_shows standingFed turned]
      cases reading : session.answers.read.1 with
      | interrupted =>
          rw [reading] at passed
          cases passed
      | closed =>
          rw [reading] at passed stillRunning
          cases body : node.body with
          | question | branching =>
              rw [body] at passed
              cases passed
          | terminating =>
              rw [body] at stillRunning
              cases stillRunning
      | line text =>
          have sameReading : (session.feed lines).answers.read =
              (.line text, session.answers.read.2.feed lines) :=
            Answers.read_feed reading lines
          have sameRead :
              (session.feed lines).countStep.read prompt =
                (session.countStep.read prompt).feed lines := by
            simp only [Session.read, countStep, sameReading]
            rfl
          rw [sameRead, sameReading]
          exact conclude_feed _ lines node.kind [.shown prompt] _

/-- Steps that succeed are taken all the same when more answers stand behind those read. -/
theorem Passage.feed
    {count : Nat}
    {events : List Event}
    (passage : Passage first count events last)
    (plays : first.Plays script)
    (lastRunning : last.halted = false)
    (lines : List String) :
    Passage (first.feed lines) count events (last.feed lines) := by
  induction passage with
  | here session => exact .here (session.feed lines)
  | @onward first last count events running passed rest inductionHypothesis =>
      have fed := step_feed plays running passed (rest.running lastRunning) lines
      have restFed := inductionHypothesis plays.step lastRunning
      have through : (first.feed lines).step.fault = none := by rw [fed, passed]
      have onward :
          Passage (first.feed lines) (count + 1) ((first.feed lines).step.events ++ events)
            (last.feed lines) :=
        .onward running through (by rwa [fed])
      rwa [fed] at onward

/-! ## Steps counted before -/

/-- To count one step more is not seen by later steps. -/
theorem unseen_countStep : Unseen countStep where
  script := fun _ => rfl
  current := fun _ => rfl
  attempt := fun _ => rfl
  bindings := fun _ => rfl
  responds := fun _ _ _ _ => rfl
  counted := fun _ => rfl
  read := fun _ _ => rfl
  carriedOut := fun _ response => by cases response <;> rfl

/-- What a run leaves behind when one more step was counted before it. -/
def Ran.oneStepLater (ran : Ran) : Ran :=
  { ran with session := ran.session.countStep }

/-! ## The step that was waiting -/

/-- A step that finds no answer counts itself and shows its prompt, and does nothing else. -/
theorem step_of_inputClosed
    {id : Int}
    (plays : session.Plays script)
    (running : session.halted = false)
    (uninterrupted : session.answers.interruptIn = none)
    (blamed : session.step.fault = some (.inputClosed id)) :
    ∃ prompt, session.upcoming = some prompt ∧
      session.step.session = { session.countStep with lastPrompt := some prompt } ∧
        chunks session.step.events = [prompt.render] ∧ reports session.step.events = [] := by
  obtain ⟨_, node, _, _, _, standing⟩ := plays.standing running
  obtain ⟨asks, blames⟩ := (fault_step_iff standing _).mp blamed
  obtain ⟨prompt, asked, turned⟩ := exists_turn_of_upcoming standing asks
  have closed : session.answers.read.1 = .closed := by
    generalize session.answers.read.1 = reading at blames
    cases blames
    rfl
  have response :
      node.body.respond session.current session.attempt session.answers.read.1 =
        .fail (.inputClosed id) :=
    Response.eq_fail_of_fault? ((Node.Body.fault_respond_iff _ _ _ _ _).mpr blames)
  have unread : session.answers.read.2 = session.answers :=
    Answers.read_closed uninterrupted closed
  refine ⟨prompt, asked, ?_, ?_, ?_⟩ <;> rw [step_of_shows standing turned, response]
  · simp only [conclude, carryOut, Session.read, countStep, unread]
  · rfl
  · rfl

/-- Fed with its answer, the step that was waiting does what it would have done at once. -/
theorem step_waited
    {prompt : Prompt}
    (asked : session.upcoming = some prompt)
    (shown : Option Prompt) :
    ({ session.countStep with lastPrompt := shown } : Session).step =
      { session.step with session := session.step.session.countStep } := by
  obtain ⟨node, standing, turned⟩ := upcoming_eq_some_iff.mp asked
  have standingLater :
      ({ session.countStep with lastPrompt := shown } : Session).currentNode = .ok (some node) :=
    standing
  rw [step_of_shows standing turned, step_of_shows standingLater turned]
  exact unseen_countStep.conclude (session.countStep.read prompt) node.kind _ _

/-- A session that waited for an answer runs as the one that did not, one step later. -/
theorem runWithin_waited
    {prompt : Prompt}
    (asked : session.upcoming = some prompt)
    (running : session.halted = false)
    (shown : Option Prompt)
    (bound : Nat) :
    ({ session.countStep with lastPrompt := shown } : Session).runWithin (bound + 1) =
      (session.runWithin (bound + 1)).oneStepLater := by
  have runningLater : ({ session.countStep with lastPrompt := shown } : Session).halted = false :=
    running
  exact Unseen.runWithin_of_same_step running runningLater (step_waited asked shown)
    (unseen_countStep.runWithin bound session.step.session)

/-- No step brings an interrupt. -/
theorem uninterrupted_step
    (uninterrupted : session.answers.interruptIn = none) :
    session.step.session.answers.interruptIn = none := by
  cases standing : session.currentNode with
  | error fault => simpa [step, standing] using uninterrupted
  | ok node? =>
      cases node? with
      | none => simpa [step, standing] using uninterrupted
      | some node =>
          cases turned : node.body.turn session.bindings session.attempt with
          | leaves destination =>
              rwa [step_of_leaves standing turned, answers_conclude]
          | shows prompt =>
              rw [step_of_shows standing turned, answers_conclude]
              exact Answers.uninterrupted_read uninterrupted

/-- Where no interrupt was to come, none is after some steps. -/
theorem Passage.uninterrupted
    {count : Nat}
    {events : List Event}
    (passage : Passage first count events last)
    (uninterrupted : first.answers.interruptIn = none) :
    last.answers.interruptIn = none := by
  induction passage with
  | here => exact uninterrupted
  | onward _ _ _ inductionHypothesis => exact inductionHypothesis (uninterrupted_step uninterrupted)

/-! ## The run that goes on -/

/-- A run that fails has gone along a passage to the step that fails. -/
theorem exists_passage_of_failed
    {fault : SessionFault}
    {bound : Nat}
    (failed : (session.runWithin bound).ending = .failed fault) :
    ∃ count events waiting, Passage session count events waiting ∧ waiting.halted = false ∧
      waiting.step.fault = some fault ∧
        session.runWithin bound =
          ⟨waiting.step.session, events ++ waiting.step.events, .failed fault⟩ := by
  have stops := runWithin_cases bound session
  generalize session.runWithin bound = ran at failed stops
  cases stops with
  | halted | unfinished => cases failed
  | @failed count events waiting blamed passage _ running outcome =>
      cases failed
      exact ⟨count, events, waiting, passage, running, outcome, rfl⟩

/-- What events write in two parts is what the one writes and then what the other does. -/
theorem chunks_append
    (earlier later : List Event) :
    chunks (earlier ++ later) = chunks earlier ++ chunks later :=
  List.filterMap_append ..

/-- What events report in two parts is what the one reports and then what the other does. -/
theorem reports_append
    (earlier later : List Event) :
    reports (earlier ++ later) = reports earlier ++ reports later :=
  List.filterMap_append ..

/-- The end of a run writes nothing. -/
theorem chunks_closing
    (session : Session)
    (ending : Ending) :
    chunks (session.closing ending) = [] := by
  cases ending <;> rfl

/-- To tell the end of a run adds nothing to what is written. -/
theorem chunks_closed (ran : Ran) : chunks ran.closed.events = chunks ran.events := by
  simp only [Ran.closed, chunks_append, chunks_closing, List.append_nil]

/-- To tell the end of a run adds nothing to what is reported. -/
theorem reports_closed (ran : Ran) : reports ran.closed.events = reports ran.events := by
  obtain ⟨session, events, ending⟩ := ran
  cases ending <;> simp [Ran.closed, closing, reports, Event.report?]

/-- The events of a run begin with those of its first step. -/
theorem exists_events_runWithin
    (running : session.halted = false)
    (bound : Nat) :
    ∃ rest, (session.runWithin (bound + 1)).events = session.step.events ++ rest := by
  cases outcome : session.step.fault with
  | some fault => exact ⟨[], by simp [runWithin_of_failed running outcome]⟩
  | none => exact ⟨_, by rw [runWithin_of_passed running outcome]; rfl⟩

/-- Where a run that found no answer stands among the steps of a session that has more of them. -/
structure HeldUp
    (more : List String)
    (begun : Session)
    (waited : Ran)
    (passed : List Event)
    (waiting : Session)
    (prompt : Prompt) :
    Prop where
  passage : ∃ count, Passage begun count passed waiting
  running : waiting.halted = false
  asked : waiting.upcoming = some prompt
  held : waited.session.feed more = { waiting.countStep with lastPrompt := some prompt }
  written : chunks waited.events = chunks passed ++ [prompt.render]
  reported : reports waited.events = reports passed

/-- A run that found its answers used up was held up at a node that waits for one. -/
theorem exists_heldUp
    {id : Int}
    (plays : first.Plays script)
    (uninterrupted : first.answers.interruptIn = none)
    (closed : first.run.ending = .failed (.inputClosed id))
    (more : List String) :
    ∃ passed waiting prompt, HeldUp more (first.feed more) first.run passed waiting prompt := by
  rw [run_of_taken plays.1] at closed ⊢
  obtain ⟨count, passed, waiting, passage, running, blamed, ran⟩ := exists_passage_of_failed closed
  obtain ⟨prompt, asked, counted, written, reported⟩ :=
    step_of_inputClosed (passage.plays plays) running (passage.uninterrupted uninterrupted) blamed
  refine ⟨passed, waiting.feed more, prompt, ⟨count, passage.feed plays running more⟩,
    running, asked, ?_, ?_, ?_⟩
  · rw [ran]
    exact congrArg (fun session => session.feed more) counted
  · rw [chunks_closed, ran, chunks_append, written]
  · rw [reports_closed, ran, reports_append, reported, List.append_nil]

namespace HeldUp

variable {more : List String} {begun : Session} {waited : Ran} {passed : List Event}
  {waiting : Session} {prompt : Prompt}

/-- What was held up goes on, once fed, as if it had never waited. -/
theorem runWithin_resumed
    (heldUp : HeldUp more begun waited passed waiting prompt)
    (bound : Nat) :
    (waited.session.feed more).runWithin (bound + 1) =
      (waiting.runWithin (bound + 1)).oneStepLater := by
  rw [heldUp.held]
  exact runWithin_waited heldUp.asked heldUp.running (some prompt) bound

/-- If the run that goes on never ends, neither does the single run. -/
theorem endless
    (heldUp : HeldUp more begun waited passed waiting prompt)
    (endless : (waited.session.feed more).Endless) :
    begun.Endless := by
  obtain ⟨count, passage⟩ := heldUp.passage
  rw [passage.endless_iff]
  intro bound
  by_contra ends
  have later := endless (bound + 1)
  rw [heldUp.runWithin_resumed, runWithin_of_le ends (Nat.le_succ bound)] at later
  exact ends later

/-- If it ends, both runs end with the same steps from where the first was held up. -/
theorem exists_same_end
    (heldUp : HeldUp more begun waited passed waiting prompt)
    (plays : begun.Plays script)
    (playsLater : (waited.session.feed more).Plays script)
    (ends : (waited.session.feed more).run.ending ≠ .endless) :
    ∃ (ran : Ran) (rest : List Event), (waited.session.feed more).run = ran.oneStepLater.closed ∧
      begun.run = (ran.after passed).closed ∧ ran.events = waiting.step.events ++ rest := by
  obtain ⟨count, passage⟩ := heldUp.passage
  obtain ⟨bound, enough⟩ : ∃ bound, (waited.session.feed more).stepBound script = bound + 1 :=
    Nat.exists_eq_add_one_of_ne_zero (Nat.mul_ne_zero (Nat.succ_ne_zero _) (Nat.succ_ne_zero _))
  obtain ⟨rest, step⟩ := exists_events_runWithin heldUp.running bound
  have resumed := run_of_taken playsLater.1
  rw [enough, heldUp.runWithin_resumed] at resumed
  have whole := passage.runWithin (bound + 1)
  have wholeEnds : (begun.runWithin (count + (bound + 1))).ending ≠ .endless := by
    rw [whole]
    rw [resumed] at ends
    exact ends
  refine ⟨waiting.runWithin (bound + 1), rest, resumed, ?_, step⟩
  rw [run_eq_of_ends plays wholeEnds, whole]

end HeldUp

/--
What a run that found no answer, and the run that goes on when more are fed, are to
a single run of a session that had them from the start. They leave the same
session, but for one step more that was counted, and the same reports. The prompt
of the step that was waiting has been written once more, right before the output
of that step.
-/
structure Resumes
    (more : List String)
    (begun : Session)
    (waited resumed single : Ran) :
    Prop where
  session : resumed.session = single.session.countStep
  reported : reports (waited.events ++ resumed.events) = reports single.events
  written :
    ∃ count passed waiting prompt rest, Passage begun count passed waiting ∧
      waiting.upcoming = some prompt ∧
        waited.session.feed more = { waiting.countStep with lastPrompt := some prompt } ∧
          chunks single.events = chunks passed ++ (chunks waiting.step.events ++ rest) ∧
            chunks (waited.events ++ resumed.events) =
              chunks passed ++ prompt.render :: (chunks waiting.step.events ++ rest)

/--
A run from the beginning of a script that found no answer, once it is fed, ends as a single
run with all the answers does, and loses nothing on the way. A session that is fed before
its first step is one that had all the answers from the start.
-/
theorem resumes_when_fed
    {script : Script}
    (playable : 0 < script.size)
    (lines more : List String)
    {id : Int}
    (closed : ((fresh (.ofList lines)).begin script).run.ending = .failed (.inputClosed id)) :
    (((fresh (.ofList lines)).begin script).run.session.feed more).run.ending =
        ((fresh (.ofList (lines ++ more))).begin script).run.ending ∧
      ((((fresh (.ofList lines)).begin script).run.session.feed more).run.ending ≠ .endless →
        Resumes more ((fresh (.ofList (lines ++ more))).begin script)
          ((fresh (.ofList lines)).begin script).run
          (((fresh (.ofList lines)).begin script).run.session.feed more).run
          ((fresh (.ofList (lines ++ more))).begin script).run) := by
  have plays : ((fresh (.ofList lines)).begin script).Plays script := plays_begin _ playable
  have playsAll : ((fresh (.ofList (lines ++ more))).begin script).Plays script :=
    plays_begin _ playable
  have playsFed := (plays.course (run_course _)).feed more
  obtain ⟨passed, waiting, prompt, heldUp⟩ := exists_heldUp plays rfl closed more
  have fed :
      ((fresh (.ofList lines)).begin script).feed more =
        (fresh (.ofList (lines ++ more))).begin script := rfl
  rw [fed] at heldUp
  by_cases unfinished :
      (((fresh (.ofList lines)).begin script).run.session.feed more).run.ending = .endless
  · have endless := heldUp.endless ((run_endless_iff playsFed).mp unfinished)
    exact ⟨unfinished.trans ((run_endless_iff playsAll).mpr endless).symm, absurd unfinished⟩
  · obtain ⟨ran, rest, resumed, single, events⟩ :=
      heldUp.exists_same_end playsAll playsFed unfinished
    obtain ⟨count, passage⟩ := heldUp.passage
    rw [resumed, single]
    refine ⟨rfl, fun _ => ⟨rfl, ?_, count, passed, waiting, prompt, chunks rest, passage,
      heldUp.asked, heldUp.held, ?_, ?_⟩⟩
    · rw [reports_append, heldUp.reported, reports_closed, reports_closed, ← reports_append]
      rfl
    · rw [chunks_closed, ← chunks_append, ← events, ← chunks_append]
      rfl
    · rw [chunks_append, heldUp.written, chunks_closed, ← chunks_append, ← events,
        List.append_assoc]
      rfl

/-- A name and a way, with a second try at each. -/
def nameAndWay : Script where
  nodes :=
    #[⟨.question 1 2 "NAME" ["Who?", "Please?"], none⟩,
      ⟨.branching "WAY" "Where to, $NAME?" [⟨"out", 2⟩, ⟨"back", 0⟩] (List.cons_ne_nil _ _), none⟩,
      ⟨.terminating "Bye $NAME", none⟩]
  size_le := by decide
  closed := by simp [Node.destinations, Node.Body.destinations]

/-- Fed after a blank line, the session asks for the name again and goes on to its end. -/
theorem resumes_when_fed_nameAndWay :
    Resumes ["Ada", "3", "1"]
      ((fresh (.ofList ([""] ++ ["Ada", "3", "1"]))).begin nameAndWay)
      ((fresh (.ofList [""])).begin nameAndWay).run
      (((fresh (.ofList [""])).begin nameAndWay).run.session.feed ["Ada", "3", "1"]).run
      ((fresh (.ofList ([""] ++ ["Ada", "3", "1"]))).begin nameAndWay).run :=
  (resumes_when_fed (by decide : 0 < nameAndWay.size) [""] ["Ada", "3", "1"]
    (by rfl : _ = Ending.failed (.inputClosed 0))).2 (by decide)

end Session

end Dialog
