import Dialog.Proofs.Session.Unseen
import Dialog.Proofs.Text.Lines

namespace Dialog

/-!
# Line ends of answers

An answer is the line read without its line end, so it makes no difference to a
session whether the lines that it reads still have their ends or have lost them.
A session over trimmed lines takes the same steps, and two sessions that are the
same once their lines are trimmed have the same run.
-/

/-- What is read once the line end is trimmed. -/
def Reading.trimmed : Reading → Reading
  | .line text => .line (trimLineEnd text)
  | .closed => .closed
  | .interrupted => .interrupted

/-- No node looks at the line end of what it reads. -/
theorem Node.Body.respond_trimmed
    (id : Int)
    (attempt : Nat)
    (body : Node.Body)
    (reading : Reading) :
    body.respond id attempt reading.trimmed = body.respond id attempt reading := by
  cases reading with
  | line text =>
      cases body <;> simp only [Reading.trimmed, respond, trimLineEnd_trimLineEnd]
  | closed => rfl
  | interrupted => rfl

namespace Answers

/-- The answers once the line ends of all that are unread are trimmed. -/
def trimmed (answers : Answers) : Answers :=
  { answers with unread := answers.unread.map trimLineEnd }

/-- Of trimmed answers the same line is read, trimmed. -/
theorem read_trimmed (answers : Answers) :
    answers.trimmed.read = (answers.read.1.trimmed, answers.read.2.trimmed) := by
  obtain ⟨unread, consumed, interruptIn⟩ := answers
  by_cases interrupts : interruptIn = some 0
  · simp [read, trimmed, Reading.trimmed, interrupts]
  · cases unread <;> simp [read, trimmed, Reading.trimmed, interrupts]

end Answers

namespace Session

/-- A session whose unread answers have lost their line ends. -/
def trimmed (session : Session) : Session :=
  { session with answers := session.answers.trimmed }

/-- No step sees whether the answers still have their line ends. -/
theorem unseen_trimmed : Unseen trimmed where
  script := fun _ => rfl
  current := fun _ => rfl
  attempt := fun _ => rfl
  bindings := fun _ => rfl
  responds := fun session id attempt body => by
    simp only [trimmed, Answers.read_trimmed, Node.Body.respond_trimmed]
  counted := fun _ => rfl
  read := fun session _ => by
    simp only [read, trimmed, Answers.read_trimmed]
  carriedOut := fun _ response => by cases response <;> rfl

/-- A run over trimmed answers is the run over the answers, trimmed. -/
theorem run_trimmed (session : Session) :
    session.trimmed.run = session.run.changed trimmed :=
  unseen_trimmed.run (fun _ => List.length_map ..) (fun _ => rfl) session

/-- Sessions that differ in the line ends of their answers only do the same and end the same way. -/
theorem run_eq_of_trimmed
    {session other : Session}
    (same : session.trimmed = other.trimmed) :
    session.run.events = other.run.events ∧ session.run.ending = other.run.ending := by
  have sameRun : session.run.changed trimmed = other.run.changed trimmed := by
    rw [← run_trimmed, ← run_trimmed, same]
  have sameEvents : (session.run.changed trimmed).events = (other.run.changed trimmed).events :=
    congrArg Ran.events sameRun
  have sameEnding : (session.run.changed trimmed).ending = (other.run.changed trimmed).ending :=
    congrArg Ran.ending sameRun
  exact ⟨sameEvents, sameEnding⟩

end Session

end Dialog
