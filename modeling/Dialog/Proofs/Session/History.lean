import Dialog.Proofs.Session.Turn
import Dialog.Session.Operation

namespace Dialog.Session

/-!
# Histories of a session

A history is a list of operations performed one after the other, those that fail
included. Steps, runs and answers fed in between make the session go on in the
script that it has taken up. A run is so many steps and a closing note, so
`Course` has no case for it: what every step and every feeding keeps is kept
wherever they lead (`Course.keeps`).
-/

namespace Operation

/-- The operations of the engine; a script is taken up only with a node to start at. -/
def IsEngine : Operation → Prop
  | .load _ => True
  | .take script => 0 < script.size
  | .start => True
  | .step => True
  | .run => True
  | .feed _ => True
  | .goTo _ => False
  | .bind _ _ => False

/-- The operations that take up a script. -/
def TakesUp : Operation → Prop
  | .load _ => True
  | .take _ => True
  | _ => False

/-- The operations by which a session goes on. -/
def Advances : Operation → Prop
  | .step => True
  | .run => True
  | .feed _ => True
  | _ => False

end Operation

/-- The session that a history leaves behind. -/
def after (session : Session) : List Operation → Session
  | [] => session
  | operation :: rest => (session.perform operation).session.after rest

/-- The events of a history, in order. -/
def eventsOf (session : Session) : List Operation → List Event
  | [] => []
  | operation :: rest =>
      (session.perform operation).events ++ (session.perform operation).session.eventsOf rest

/-- What every allowed operation keeps, a history of allowed operations keeps. -/
theorem after_keeps
    (allowed : Operation → Prop)
    (kept : Session → Prop)
    (keeps :
      ∀ session operation, allowed operation → kept session →
        kept (session.perform operation).session)
    {history : List Operation}
    (allAllowed : ∀ operation ∈ history, allowed operation)
    {session : Session}
    (initially : kept session) :
    kept (session.after history) := by
  induction history generalizing session with
  | nil => exact initially
  | cons operation rest inductionHypothesis =>
      obtain ⟨firstAllowed, restAllowed⟩ := List.forall_mem_cons.mp allAllowed
      exact inductionHypothesis restAllowed (keeps session operation firstAllowed initially)

/-- A session goes on, with the events on the way. -/
inductive Course : Session → List Event → Session → Prop where
  | here (session : Session) : Course session [] session
  | step {first session : Session} {events : List Event} :
      Course first events session →
      Course first (events ++ session.step.events) session.step.session
  | feed {first session : Session} {events : List Event} (lines : List String) :
      Course first events session →
      Course first events (session.feed lines)
  | close {first session : Session} {events : List Event} (ending : Ending) :
      Course first events session →
      Course first (events ++ session.closing ending) session

namespace Course

theorem trans
    {first middle last : Session}
    {earlier later : List Event}
    (begun : Course first earlier middle)
    (continued : Course middle later last) :
    Course first (earlier ++ later) last := by
  induction continued with
  | here => simpa using begun
  | step _ inductionHypothesis =>
      rw [← List.append_assoc]
      exact inductionHypothesis.step
  | feed lines _ inductionHypothesis => exact inductionHypothesis.feed lines
  | close ending _ inductionHypothesis =>
      rw [← List.append_assoc]
      exact inductionHypothesis.close ending

/-- What every step and every feeding keeps, a course keeps. -/
theorem keeps
    (kept : Session → Prop)
    (stepKeeps : ∀ session, kept session → kept session.step.session)
    (feedKeeps : ∀ session lines, kept session → kept (session.feed lines))
    {first last : Session}
    {events : List Event}
    (course : Course first events last)
    (initially : kept first) :
    kept last := by
  induction course with
  | here => exact initially
  | step _ inductionHypothesis => exact stepKeeps _ inductionHypothesis
  | feed lines _ inductionHypothesis => exact feedKeeps _ lines inductionHypothesis
  | close _ _ inductionHypothesis => exact inductionHypothesis

end Course

end Dialog.Session
