import Dialog.Proofs.Session.Passage

namespace Dialog.Session

/-!
# Changes that no step sees

A step looks at the script, the place and the bindings of a session and at what
its node makes of what it reads. A change to a session that leaves all of these
alone, and that every turn carries along, is seen by no step and by no run: both
do with the changed session what they do with the session itself, and leave it
behind with the same change.
-/

/-- A change to sessions that no step looks at and that every turn carries along. -/
structure Unseen (change : Session → Session) : Prop where
  script : ∀ session, (change session).script = session.script
  current : ∀ session, (change session).current = session.current
  attempt : ∀ session, (change session).attempt = session.attempt
  bindings : ∀ session, (change session).bindings = session.bindings
  responds :
    ∀ session id attempt body,
      Node.Body.respond id attempt body (change session).answers.read.1 =
        Node.Body.respond id attempt body session.answers.read.1
  counted : ∀ session, (change session).countStep = change session.countStep
  read : ∀ session prompt, (change session).read prompt = change (session.read prompt)
  carriedOut :
    ∀ session response,
      ((change session).carryOut response).1 = change (session.carryOut response).1

/-- What a run leaves behind with a change to its session. -/
def Ran.changed (change : Session → Session) (ran : Ran) : Ran :=
  { ran with session := change ran.session }

namespace Unseen

variable {change : Session → Session}

/-- A change that is not seen halts no session and starts none. -/
theorem halted
    (unseen : Unseen change)
    (session : Session) :
    (change session).halted = session.halted := by
  unfold Session.halted
  rw [unseen.current]

/-- A change that is not seen leaves a session at its node. -/
theorem currentNode
    (unseen : Unseen change)
    (session : Session) :
    (change session).currentNode = session.currentNode := by
  unfold Session.currentNode
  rw [unseen.script, unseen.current, unseen.halted]

/-- Which events a response makes depends on the place of a session only. -/
theorem events_carryOut
    (unseen : Unseen change)
    (session : Session)
    (response : Response) :
    ((change session).carryOut response).2 = (session.carryOut response).2 := by
  have here := unseen.current session
  cases response <;> simp only [carryOut, here]

/-- A response is carried out in the changed session as in the session itself. -/
theorem conclude
    (unseen : Unseen change)
    (session : Session)
    (kind : Node.Kind)
    (before : List Event)
    (response : Response) :
    (change session).conclude kind before response =
      { session.conclude kind before response with
        session := change (session.conclude kind before response).session } := by
  simp only [Session.conclude, unseen.carriedOut, unseen.events_carryOut, unseen.current,
    unseen.attempt]

/-- A step of the changed session is the step of the session, with the same change after it. -/
theorem step
    (unseen : Unseen change)
    (session : Session) :
    (change session).step = { session.step with session := change session.step.session } := by
  have sameNode := unseen.currentNode session
  cases standing : session.currentNode with
  | error fault =>
      rw [standing] at sameNode
      simp [Session.step, standing, sameNode]
  | ok node? =>
      rw [standing] at sameNode
      cases node? with
      | none => simp [Session.step, standing, sameNode]
      | some node =>
          cases turned : node.body.turn session.bindings session.attempt with
          | leaves destination =>
              have sameTurn :
                  node.body.turn (change session).bindings (change session).attempt =
                    .leaves destination := by
                rw [unseen.bindings, unseen.attempt, turned]
              rw [step_of_leaves standing turned, step_of_leaves sameNode sameTurn, unseen.counted]
              exact unseen.conclude session.countStep node.kind [] (.move destination)
          | shows prompt =>
              have sameTurn :
                  node.body.turn (change session).bindings (change session).attempt =
                    .shows prompt := by
                rw [unseen.bindings, unseen.attempt, turned]
              rw [step_of_shows standing turned, step_of_shows sameNode sameTurn, unseen.counted,
                unseen.read, unseen.current, unseen.attempt, unseen.responds]
              exact unseen.conclude (session.countStep.read prompt) node.kind [.shown prompt] _

/--
Where a step of one session is that of another but for an unseen change, and so is
all that may follow, so is a run that begins with it.
-/
theorem runWithin_of_same_step
    {session other : Session}
    (running : session.halted = false)
    (otherRunning : other.halted = false)
    (same : other.step = { session.step with session := change session.step.session })
    {bound : Nat}
    (after :
      (change session.step.session).runWithin bound =
        (session.step.session.runWithin bound).changed change) :
    other.runWithin (bound + 1) = (session.runWithin (bound + 1)).changed change := by
  cases outcome : session.step.fault with
  | some fault =>
      have otherOutcome : other.step.fault = some fault := by rw [same, outcome]
      rw [runWithin_of_failed running outcome, runWithin_of_failed otherRunning otherOutcome, same]
      rfl
  | none =>
      have otherOutcome : other.step.fault = none := by rw [same, outcome]
      rw [runWithin_of_passed running outcome, runWithin_of_passed otherRunning otherOutcome, same,
        after]
      rfl

/-- A run of the changed session is the run of the session, with the same change after it. -/
theorem runWithin
    (unseen : Unseen change)
    (bound : Nat)
    (session : Session) :
    (change session).runWithin bound = (session.runWithin bound).changed change := by
  induction bound generalizing session with
  | zero =>
      have same := unseen.halted session
      cases ended : session.halted <;>
        simp [Session.runWithin, same, ended, Ran.changed]
  | succ bound inductionHypothesis =>
      have same := unseen.halted session
      cases ended : session.halted with
      | true =>
          rw [runWithin_of_halted ended, runWithin_of_halted (same.trans ended)]
          rfl
      | false =>
          exact runWithin_of_same_step ended (same.trans ended) (unseen.step session)
            (inductionHypothesis session.step.session)

/--
A run does not see the change either when it leaves alone what a run is bounded and closed
by.
-/
theorem run
    (unseen : Unseen change)
    (sameUnread :
      ∀ session, (change session).answers.unread.length = session.answers.unread.length)
    (sameSteps : ∀ session, (change session).metrics.steps = session.metrics.steps)
    (session : Session) :
    (change session).run = session.run.changed change := by
  have sameScript := unseen.script session
  cases taken : session.script with
  | none => simp only [Session.run, sameScript, taken, Ran.changed]
  | some script =>
      have sameBound : (change session).stepBound script = session.stepBound script := by
        simp only [stepBound, sameUnread]
      have sameRun := unseen.runWithin (session.stepBound script) session
      have sameClosing :
          ∀ other ending, (change other).closing ending = closing other ending := by
        intro other ending
        cases ending <;> simp only [closing, sameSteps]
      simp only [Session.run, sameScript, taken, sameBound, sameRun, Ran.changed, sameClosing]

end Unseen

end Dialog.Session
