import Dialog.Proofs.Script.Lookup
import Dialog.Proofs.Session.Itinerary

namespace Dialog

/-!
# The place of a session

Once a script is taken up, a session stands at its end or at one of the nodes, at
an attempt that fits the node. The destinations of a script are closed and every
move begins at the first attempt, so no operation of the engine, failing or not,
leads anywhere else. In such a place a session always knows its node, every
prompt that it shows exists, and misuse is reported only of a session that is
over.
-/

namespace Session

/-- Where a session may be in a script: at its end, or at a node at an attempt that fits it. -/
inductive Placed (script : Script) (session : Session) : Prop where
  | ended (atEnd : session.current = terminal) (first : session.attempt = 0)
  | standing
      (id : Nat)
      (node : Node)
      (here : session.current = id)
      (present : script.nodes[id]? = some node)
      (fits : node.body.Fits session.attempt)

/-- A session that stands at a node has not halted. -/
theorem halted_of_standing
    {script : Script}
    {session : Session}
    {id : Nat}
    {node : Node}
    (here : session.current = id)
    (present : script.nodes[id]? = some node) :
    session.halted = false := by
  have differs : id ≠ terminal := Script.ne_terminal_of_present present
  have apart : (id : Int) ≠ terminal := fun same => differs (Int.ofNat_inj.mp same)
  simp [halted, here, apart]

/-- A session that stands at a node knows it. -/
theorem currentNode_of_standing
    {script : Script}
    {session : Session}
    {id : Nat}
    {node : Node}
    (taken : session.script = some script)
    (here : session.current = id)
    (present : script.nodes[id]? = some node) :
    session.currentNode = .ok (some node) := by
  have named : script.node? session.current = some node := by
    rw [here, Script.node?_ofNat, present]
  simp [currentNode, taken, halted_of_standing here present, named]

/-- A session at the terminal id has no node. -/
theorem currentNode_of_ended
    {script : Script}
    {session : Session}
    (taken : session.script = some script)
    (atEnd : session.current = terminal) :
    session.currentNode = .ok none := by
  simp [currentNode, taken, halted, atEnd]

/-- A session that has halted makes no step, and says that it has finished. -/
theorem step_of_halted
    {script : Script}
    {session : Session}
    (taken : session.script = some script)
    (halted : session.halted = true) :
    session.step = ⟨session, [], some .finished⟩ := by
  have atEnd : session.current = terminal := by simpa [Session.halted] using halted
  simp [step, currentNode_of_ended taken atEnd]

/-- A destination of a node, at the first attempt, is a place of the script. -/
theorem placed_at_destination
    {script : Script}
    {id : Nat}
    {node : Node}
    (present : script.nodes[id]? = some node)
    {destination : Nat}
    (leads : destination ∈ node.destinations)
    {session : Session}
    (here : session.current = destination)
    (first : session.attempt = 0) :
    session.Placed script := by
  have member : node ∈ script.nodes := Array.mem_of_getElem? present
  rcases script.closed node member destination leads with ends | inside
  · exact .ended (here.trans (congrArg Nat.cast ends)) first
  · refine .standing destination script.nodes[destination] here ?_ ?_
    · exact Array.getElem?_eq_getElem inside
    · rw [first]
      exact Node.Body.fits_zero _

/-- Carrying out a response that suits the node leads to a place of the script. -/
theorem placed_carryOut
    {script : Script}
    (session : Session)
    {id : Nat}
    {node : Node}
    (here : session.current = id)
    (present : script.nodes[id]? = some node)
    (fits : node.body.Fits session.attempt)
    {response : Response}
    (suits : response.Suits node.body session.attempt) :
    (session.carryOut response).1.Placed script := by
  cases response with
  | stay => exact .standing id node here present suits
  | move destination => exact placed_at_destination present suits rfl rfl
  | accept name value destination => exact placed_at_destination present suits rfl rfl
  | reject answer reason => exact .standing id node here present fits
  | fail fault => exact .standing id node here present fits

/-- No response changes the script. -/
theorem carryOut_script
    (session : Session)
    (response : Response) :
    (session.carryOut response).1.script = session.script := by
  cases response <;> rfl

/-- Whether a session plays a script: it has taken it up and is somewhere in it. -/
def Plays (session : Session) (script : Script) : Prop :=
  session.script = some script ∧ session.Placed script

/-- A session that takes up a script with a node plays it. -/
theorem plays_begin
    (session : Session)
    {script : Script}
    (playable : 0 < script.size) :
    (session.begin script).Plays script := by
  refine ⟨rfl, .standing 0 script.nodes[0] rfl ?_ (Node.Body.fits_zero _)⟩
  exact Array.getElem?_eq_getElem playable

/-- Before its end, a session that plays a script stands at a node of it. -/
theorem Plays.standing
    {session : Session}
    {script : Script}
    (plays : session.Plays script)
    (running : session.halted = false) :
    ∃ (id : Nat) (node : Node), session.current = id ∧ script.nodes[id]? = some node ∧
      node.body.Fits session.attempt ∧ session.currentNode = .ok (some node) := by
  cases plays.2 with
  | ended atEnd first => simp [halted, atEnd] at running
  | standing id node here present fits =>
      exact ⟨id, node, here, present, fits, currentNode_of_standing plays.1 here present⟩

/-- The node that a session which plays a script stands at is the one at its place, and fits. -/
theorem Plays.present_of_standing
    {session : Session}
    {script : Script}
    {node : Node}
    (plays : session.Plays script)
    (standing : session.currentNode = .ok (some node)) :
    ∃ id : Nat, session.current = id ∧ script.nodes[id]? = some node ∧
      node.body.Fits session.attempt := by
  obtain ⟨taken, placed⟩ := plays
  cases placed with
  | ended atEnd first => cases (currentNode_of_ended taken atEnd).symm.trans standing
  | standing id other here present fits =>
      cases (currentNode_of_standing taken here present).symm.trans standing
      exact ⟨id, here, present, fits⟩

/-- A step goes on playing the script, even if it fails. -/
theorem Plays.step
    {session : Session}
    {script : Script}
    (plays : session.Plays script) :
    session.step.session.Plays script := by
  obtain ⟨taken, placed⟩ := plays
  cases placed with
  | ended atEnd first =>
      have nowhere : ∀ node, session.currentNode ≠ .ok (some node) := by
        intro node
        simp [currentNode_of_ended taken atEnd]
      rw [(step_not_standing nowhere).1]
      exact ⟨taken, .ended atEnd first⟩
  | standing id node here present fits =>
      obtain ⟨lastPrompt, answers, shown, response, suits, stepped⟩ :=
        step_standing (currentNode_of_standing taken here present)
      rw [stepped]
      refine ⟨(carryOut_script _ response).trans taken, ?_⟩
      exact placed_carryOut { session.countStep with lastPrompt, answers } here present fits suits

/-- A session that is fed answers goes on playing its script. -/
theorem Plays.feed
    {session : Session}
    {script : Script}
    (plays : session.Plays script)
    (lines : List String) :
    (session.feed lines).Plays script := by
  obtain ⟨taken, placed⟩ := plays
  cases placed with
  | ended atEnd first => exact ⟨taken, .ended atEnd first⟩
  | standing id node here present fits => exact ⟨taken, .standing id node here present fits⟩

/-- However a session goes on, it goes on in the script that it plays. -/
theorem Plays.course
    {session last : Session}
    {script : Script}
    {events : List Event}
    (plays : session.Plays script)
    (course : Course session events last) :
    last.Plays script :=
  Course.keeps
    (fun other => other.Plays script)
    (fun _ before => before.step)
    (fun _ lines before => before.feed lines)
    course
    plays

end Session

end Dialog
