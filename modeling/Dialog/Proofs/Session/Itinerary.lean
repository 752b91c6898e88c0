import Dialog.Proofs.Session.History

namespace Dialog.Session

/-!
# The steps of a history

What a history counts, writes or binds, it does step by step, and what a step
does is told by the session that it is made at. `stepsOf` lists these sessions
for a history, a run being as many steps as it makes. `Itinerary` is the same list
as a relation, to follow one step at a time.
-/

/-- The sessions that the steps of a run within a number of steps are made at. -/
def stepsWithin : Nat → Session → List Session
  | bound, session =>
      if session.halted then []
      else
        match bound with
        | 0 => []
        | bound + 1 =>
            session ::
              match session.step.fault with
              | some _ => []
              | none => stepsWithin bound session.step.session

/-- The sessions that the steps of an operation are made at. -/
def stepsAt (session : Session) : Operation → List Session
  | .step => [session]
  | .run =>
      match session.script with
      | none => []
      | some script => session.stepsWithin (session.stepBound script)
  | _ => []

/-- The sessions that the steps of a history are made at, in order. -/
def stepsOf (session : Session) : List Operation → List Session
  | [] => []
  | operation :: rest =>
      session.stepsAt operation ++ (session.perform operation).session.stepsOf rest

/-- A session goes on, by steps made at the sessions listed and with the events on the way. -/
inductive Itinerary : Session → List Session → List Event → Session → Prop where
  | here (session : Session) : Itinerary session [] [] session
  | step {first session : Session} {made : List Session} {events : List Event} :
      Itinerary first made events session →
      Itinerary first (made ++ [session]) (events ++ session.step.events) session.step.session
  | feed {first session : Session} {made : List Session} {events : List Event}
      (lines : List String) :
      Itinerary first made events session →
      Itinerary first made events (session.feed lines)
  | close {first session : Session} {made : List Session} {events : List Event}
      (ending : Ending) :
      Itinerary first made events session →
      Itinerary first made (events ++ session.closing ending) session

namespace Itinerary

/-- The steps of an itinerary are a course of the session. -/
theorem course
    {first last : Session}
    {made : List Session}
    {events : List Event}
    (itinerary : Itinerary first made events last) :
    Course first events last := by
  induction itinerary with
  | here => exact .here _
  | step _ inductionHypothesis => exact inductionHypothesis.step
  | feed lines _ inductionHypothesis => exact inductionHypothesis.feed lines
  | close ending _ inductionHypothesis => exact inductionHypothesis.close ending

/-- One itinerary may be continued by another. -/
theorem trans
    {first middle last : Session}
    {madeEarlier madeLater : List Session}
    {earlier later : List Event}
    (begun : Itinerary first madeEarlier earlier middle)
    (continued : Itinerary middle madeLater later last) :
    Itinerary first (madeEarlier ++ madeLater) (earlier ++ later) last := by
  induction continued with
  | here => simpa using begun
  | step _ inductionHypothesis =>
      rw [← List.append_assoc, ← List.append_assoc]
      exact inductionHypothesis.step
  | feed lines _ inductionHypothesis => exact inductionHypothesis.feed lines
  | close ending _ inductionHypothesis =>
      rw [← List.append_assoc]
      exact inductionHypothesis.close ending

end Itinerary

/-- A run is an itinerary over the steps that it makes. -/
theorem runWithin_itinerary
    (bound : Nat)
    (session : Session) :
    Itinerary session (stepsWithin bound session) (runWithin bound session).events
      (runWithin bound session).session := by
  induction bound generalizing session with
  | zero =>
      unfold runWithin stepsWithin
      split <;> exact .here session
  | succ bound inductionHypothesis =>
      have stepped : Itinerary session [session] session.step.events session.step.session :=
        (Itinerary.here session).step
      unfold runWithin stepsWithin
      split
      · exact .here session
      · cases outcome : session.step.fault with
        | some fault => simpa only [outcome] using stepped
        | none =>
            simpa only [outcome, List.singleton_append] using
              stepped.trans (inductionHypothesis session.step.session)

/-- An operation that advances a session is an itinerary over the steps made in it. -/
theorem perform_itinerary
    (session : Session)
    {operation : Operation}
    (advances : operation.Advances) :
    Itinerary session (session.stepsAt operation) (session.perform operation).events
      (session.perform operation).session := by
  cases operation with
  | step => exact (Itinerary.here session).step
  | run =>
      cases taken : session.script with
      | none => simpa only [stepsAt, perform, run, taken] using Itinerary.here session
      | some script =>
          simpa only [stepsAt, perform, run, taken] using
            (runWithin_itinerary (session.stepBound script) session).close _
  | feed lines => exact (Itinerary.here session).feed lines
  | load | take | start | goTo | bind => exact advances.elim

/-- A history of such operations goes on by the steps that it makes. -/
theorem itinerary_of_advancing
    {history : List Operation}
    (advancing : ∀ operation ∈ history, operation.Advances)
    (session : Session) :
    Itinerary session (session.stepsOf history) (session.eventsOf history)
      (session.after history) := by
  induction history generalizing session with
  | nil => exact .here session
  | cons operation rest inductionHypothesis =>
      obtain ⟨firstAdvances, restAdvance⟩ := List.forall_mem_cons.mp advancing
      exact (session.perform_itinerary firstAdvances).trans (inductionHypothesis restAdvance _)

/-- An operation that advances a session is a course of it. -/
theorem perform_course
    (session : Session)
    {operation : Operation}
    (advances : operation.Advances) :
    Course session (session.perform operation).events (session.perform operation).session :=
  (session.perform_itinerary advances).course

/-- A run within some steps is a course of the session. -/
theorem runWithin_course
    (bound : Nat)
    (session : Session) :
    Course session (runWithin bound session).events (runWithin bound session).session :=
  (runWithin_itinerary bound session).course

/-- A run is a course of the session. -/
theorem run_course (session : Session) : Course session session.run.events session.run.session := by
  have advances : Operation.Advances .run := trivial
  exact session.perform_course advances

/-- A history of such operations is a course. -/
theorem course_of_advancing
    {history : List Operation}
    (advancing : ∀ operation ∈ history, operation.Advances)
    (session : Session) :
    Course session (session.eventsOf history) (session.after history) :=
  (itinerary_of_advancing advancing session).course

end Dialog.Session
