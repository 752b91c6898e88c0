import Dialog.Proofs.Session.Resumption

namespace Dialog

/-!
# Taking up another script

A text that makes no script is refused as a whole: the session is the one that it
was, so whatever is done with it later comes out as if the text had never been
offered. A script that is taken up leaves nothing of the session before it but
the answers that are still to be read. How many were read before is counted on,
but no operation looks at that number (`perform_readBefore`), so from there on
the session does what a fresh one does with the answers that were left.
-/

namespace Answers

/-- Answers of which some more were read before. -/
def readBefore (count : Nat) (answers : Answers) : Answers :=
  { answers with consumed := answers.consumed + count }

/-- The number of answers read before does not change what is read next. -/
theorem read_readBefore
    (count : Nat)
    (answers : Answers) :
    (answers.readBefore count).read = (answers.read.1, answers.read.2.readBefore count) := by
  obtain ⟨unread, consumed, interruptIn⟩ := answers
  by_cases interrupted : interruptIn = some 0
  · simp [read, readBefore, interrupted]
  · cases unread with
    | nil => simp [read, readBefore, interrupted]
    | cons line rest => simp [read, readBefore, interrupted, Nat.add_right_comm]

end Answers

namespace Session

/-- A session that read some more answers before. -/
def readBefore (count : Nat) (session : Session) : Session :=
  { session with answers := session.answers.readBefore count }

/-- What operations of a history come to, one after the other. -/
def outcomesOf (session : Session) : List Operation → List Outcome
  | [] => []
  | operation :: rest =>
      (session.perform operation).outcome :: (session.perform operation).session.outcomesOf rest

/-- No step sees how many answers were read before. -/
theorem unseen_readBefore (count : Nat) : Unseen (readBefore count) where
  script := fun _ => rfl
  current := fun _ => rfl
  attempt := fun _ => rfl
  bindings := fun _ => rfl
  responds := fun _ _ _ _ => by simp only [readBefore, Answers.read_readBefore]
  counted := fun _ => rfl
  read := fun session _ => by
    simp only [read, readBefore, Answers.read_readBefore]
  carriedOut := fun _ response => by cases response <;> rfl

/-- A run does the same, however many answers were read before it. -/
theorem run_readBefore
    (count : Nat)
    (session : Session) :
    (session.readBefore count).run = session.run.changed (readBefore count) :=
  (unseen_readBefore count).run (fun _ => rfl) (fun _ => rfl) session

/-- No operation looks at how many answers were read before. -/
theorem perform_readBefore
    (count : Nat)
    (session : Session)
    (operation : Operation) :
    (session.readBefore count).perform operation =
      { session.perform operation with
        session := (session.perform operation).session.readBefore count } := by
  cases operation with
  | load text =>
      cases loaded : Script.load text with
      | error fault =>
          simp only [perform, load, loaded]
      | ok script =>
          simp only [perform, load, loaded]
          rfl
  | step =>
      have sameStep := (unseen_readBefore count).step session
      simp only [perform, sameStep]
  | run =>
      have sameRun := run_readBefore count session
      simp only [perform, sameRun]
      rfl
  | take | start | feed | goTo | bind => rfl

/-- A history comes out the same, however many answers were read before it. -/
theorem after_readBefore
    (count : Nat)
    (session : Session)
    (history : List Operation) :
    (session.readBefore count).after history = (session.after history).readBefore count ∧
      (session.readBefore count).eventsOf history = session.eventsOf history ∧
        (session.readBefore count).outcomesOf history = session.outcomesOf history := by
  induction history generalizing session with
  | nil => exact ⟨rfl, rfl, rfl⟩
  | cons operation rest inductionHypothesis =>
      have same := perform_readBefore count session operation
      obtain ⟨sameAfter, sameEvents, sameOutcomes⟩ :=
        inductionHypothesis (session.perform operation).session
      simp only [after, eventsOf, outcomesOf, same]
      exact ⟨sameAfter, by rw [sameEvents], by rw [sameOutcomes]⟩

/-- No operation makes answers end in an interrupt that did not before. -/
theorem uninterrupted_perform
    (session : Session)
    (operation : Operation)
    (uninterrupted : session.answers.interruptIn = none) :
    (session.perform operation).session.answers.interruptIn = none := by
  cases operation with
  | load text =>
      cases loaded : Script.load text with
      | error fault => simpa [perform, load, loaded] using uninterrupted
      | ok script => simpa [perform, load, loaded, begin, start] using uninterrupted
  | step => exact uninterrupted_step uninterrupted
  | run =>
      exact Course.keeps (fun other => other.answers.interruptIn = none)
        (fun _ => uninterrupted_step) (fun _ _ => id) session.run_course uninterrupted
  | take | start | feed | goTo | bind => exact uninterrupted

/-- A script begins alike whatever was played before, but for the answers read before. -/
theorem begin_eq_readBefore
    (session : Session)
    (uninterrupted : session.answers.interruptIn = none)
    (script : Script) :
    session.begin script =
      ((fresh (.ofList session.answers.unread)).begin script).readBefore
        session.answers.consumed := by
  simp [begin, start, fresh, readBefore, Answers.readBefore, Answers.ofList, ← uninterrupted]

/--
A script that is taken up leaves a fresh session with the answers that are still to be read,
and with the number of those read before.
-/
theorem perform_takesUp_eq_readBefore
    (session : Session)
    (uninterrupted : session.answers.interruptIn = none)
    {loading : Operation}
    (takesUp : loading.TakesUp)
    (succeeds : (session.perform loading).outcome = .done) :
    (session.perform loading).session =
      ((fresh (.ofList session.answers.unread)).perform loading).session.readBefore
        session.answers.consumed := by
  have begun := begin_eq_readBefore session uninterrupted
  cases loading with
  | load text =>
      cases loaded : Script.load text with
      | error fault => simp [perform, load, loaded, Outcome.ofLoad] at succeeds
      | ok script =>
          simp only [perform, load, loaded]
          exact begun script
  | take script => exact begun script
  | start | step | run | feed | goTo | bind => exact takesUp.elim

/--
A refused text is as good as never offered: the session stays what it was and
nothing is written or reported, now or in any later history.
-/
structure Refuses (session : Session) (text : String) (fault : LoadFault) : Prop where
  outcome : (session.perform (.load text)).outcome = .loadFailed fault
  unchanged : (session.perform (.load text)).session = session
  written : chunks (session.perform (.load text)).events = []
  reported : reports (session.perform (.load text)).events = []
  later :
    ∀ history,
      session.after (.load text :: history) = session.after history ∧
        session.outcomesOf (.load text :: history) =
          .loadFailed fault :: session.outcomesOf history ∧
        chunks (session.eventsOf (.load text :: history)) = chunks (session.eventsOf history) ∧
        reports (session.eventsOf (.load text :: history)) = reports (session.eventsOf history)

/--
A session does what a fresh one does in every later history: the same comes of each
operation, the events are the same, and what is left is the same session but for
the answers read before.
-/
structure Renews (session anew : Session) (before : Nat) : Prop where
  outcomes : ∀ history, session.outcomesOf history = anew.outcomesOf history
  events : ∀ history, session.eventsOf history = anew.eventsOf history
  left : ∀ history, session.after history = (anew.after history).readBefore before

/-- A text that makes no script is refused, with the fault that it has. -/
theorem refuses_of_load_eq_error
    (session : Session)
    {text : String}
    {fault : LoadFault}
    (faulty : Script.load text = .error fault) :
    session.Refuses text fault := by
  have refused :
      session.perform (.load text) = ⟨session, [.loadFailed fault], .loadFailed fault⟩ := by
    simp only [perform, load, faulty]
    rfl
  refine ⟨?_, ?_, ?_, ?_, ?_⟩
  · rw [refused]
  · rw [refused]
  · rw [refused]
    rfl
  · rw [refused]
    rfl
  · intro history
    simp only [after, outcomesOf, eventsOf, refused, chunks_append, reports_append]
    exact ⟨trivial, trivial, rfl, rfl⟩

/--
Whatever was done with a session, a text that makes no script leaves no trace in it,
and a script that is taken up finds no trace of what was before.
-/
theorem refuses_or_renews
    (lines : List String)
    (history : List Operation) :
    (∀ text fault, Script.load text = .error fault →
      ((fresh (.ofList lines)).after history).Refuses text fault) ∧
    ∀ loading, loading.TakesUp →
      (((fresh (.ofList lines)).after history).perform loading).outcome = .done →
        Renews (((fresh (.ofList lines)).after history).perform loading).session
          ((fresh (.ofList ((fresh (.ofList lines)).after history).answers.unread)).perform
            loading).session
          ((fresh (.ofList lines)).after history).answers.consumed := by
  constructor
  · intro text fault faulty
    exact refuses_of_load_eq_error _ faulty
  · intro loading takesUp succeeds
    have uninterrupted : ((fresh (.ofList lines)).after history).answers.interruptIn = none :=
      after_keeps (fun _ => True) (fun session => session.answers.interruptIn = none)
        (fun session operation _ => session.uninterrupted_perform operation)
        (fun _ _ => trivial) rfl
    have renewed := perform_takesUp_eq_readBefore _ uninterrupted takesUp succeeds
    rw [renewed]
    refine ⟨fun later => ?_, fun later => ?_, fun later => ?_⟩
    · exact (after_readBefore _ _ later).2.2
    · exact (after_readBefore _ _ later).2.1
    · exact (after_readBefore _ _ later).1

/-- What was done before: a name was given, and the session was sent elsewhere by hand. -/
def nameGiven : List Operation :=
  [.take nameAndWay, .step, .bind "WAY" "by hand", .goTo (-1)]

/-- A text that lacks a line is offered first, and then one that bids the player farewell. -/
theorem refuses_or_renews_nameGiven :
    ((fresh (.ofList ["Ada", "1"])).after nameGiven).Refuses "1" (.grammar ⟨1, [.integer]⟩) ∧
      Renews
        (((fresh (.ofList ["Ada", "1"])).after nameGiven).perform (.load "3\nBye $NAME")).session
        ((fresh (.ofList ((fresh (.ofList ["Ada", "1"])).after nameGiven).answers.unread)).perform
          (.load "3\nBye $NAME")).session
        ((fresh (.ofList ["Ada", "1"])).after nameGiven).answers.consumed := by
  have both := refuses_or_renews ["Ada", "1"] nameGiven
  constructor
  · exact both.1 "1" (.grammar ⟨1, [.integer]⟩) (by decide +kernel)
  · exact both.2 (.load "3\nBye $NAME") trivial (by decide +kernel)

end Session

end Dialog
