import Dialog.Proofs.Graph.Attainable
import Dialog.Proofs.Graph.Exit
import Dialog.Proofs.Session.Place
import Dialog.Proofs.Session.Visits

namespace Dialog

/-!
# Sessions follow the graph

A step moves a session along one edge of its script's graph or leaves it where it
is, so however a session goes on, its moves make up a trail with as many edges as
it counts transitions. What is known of trails is thereby known of sessions:
where they can come to, from where they cannot halt, and how many moves they
still need.
-/

/-- Whether an event is a move. -/
def Event.isMove : Event → Bool
  | .moved _ _ => true
  | _ => false

namespace Session

variable {script : Script} {session first last : Session} {events : List Event}

/-- The moves among events. -/
def moves (events : List Event) : List Event :=
  events.filter Event.isMove

/-- The moves of events that follow on others follow on the moves of those. -/
theorem moves_append
    (earlier later : List Event) :
    moves (earlier ++ later) = moves earlier ++ moves later :=
  List.filter_append ..

/-- Closing makes no moves. -/
theorem moves_closing
    (session : Session)
    (ending : Ending) :
    moves (session.closing ending) = [] := by
  cases ending <;> rfl

/-- A response makes the moves that carrying it out makes, after what was shown. -/
theorem moves_conclude
    (session : Session)
    (kind : Node.Kind)
    (shown : List Prompt)
    (response : Response) :
    moves (session.conclude kind (shown.map Event.shown) response).events =
      moves (session.carryOut response).2 := by
  have silent : moves (shown.map Event.shown) = [] := by
    simp [moves, Event.isMove]
  cases response <;>
    simp only [conclude, carryOut, Response.fault?, moves_append, silent, List.nil_append] <;> rfl

/-- A response leads to its destination, or leaves the session where it is. -/
theorem current_conclude
    (session : Session)
    (kind : Node.Kind)
    (before : List Event)
    (response : Response) :
    (session.conclude kind before response).session.current =
      (response.destination?.map Nat.cast).getD session.current := by
  cases response <;> rfl

/-- The moves of a turn are the one that its response makes, if it makes one. -/
theorem moves_of_response
    (session : Session)
    (kind : Node.Kind)
    (shown : List Prompt)
    (response : Response) :
    moves (session.conclude kind (shown.map Event.shown) response).events =
      (response.destination?.map fun target => Event.moved session.current target).toList := by
  rw [moves_conclude]
  cases response <;> rfl

/-- A step that leaves a session where it is. -/
structure Rests (session : Session) : Prop where
  current : session.step.session.current = session.current
  transitions : session.step.session.metrics.transitions = session.metrics.transitions
  visits : session.step.session.metrics.visits = session.metrics.visits
  moves : moves session.step.events = []

/-- A step that moves a session along an edge. -/
structure Moves (script : Script) (session : Session) (source target : Nat) : Prop where
  here : session.current = source
  edge : script.Edge source target
  there : session.step.session.current = target
  transitions : session.step.session.metrics.transitions = session.metrics.transitions + 1
  visits :
    session.step.session.metrics.visits =
      if target = terminal then session.metrics.visits else session.metrics.visits.enter target
  moves : moves session.step.events = [.moved source target]

/-- A step either leaves a session where it is or moves it along an edge. -/
theorem rests_or_moves
    (plays : session.Plays script) :
    session.Rests ∨ ∃ source target, session.Moves script source target := by
  obtain ⟨taken, placed⟩ := plays
  cases placed with
  | ended atEnd first =>
      have nowhere : ∀ node, session.currentNode ≠ .ok (some node) := by
        intro node
        simp [currentNode_of_ended taken atEnd]
      obtain ⟨unchanged, silent⟩ := step_not_standing nowhere
      have unmoved : moves session.step.events = [] := by rw [silent]; rfl
      exact Or.inl ⟨by rw [unchanged], by rw [unchanged], by rw [unchanged], unmoved⟩
  | standing id node here present fits =>
      obtain ⟨lastPrompt, answers, shown, response, suits, stepped⟩ :=
        step_standing (currentNode_of_standing taken here present)
      have carried := congrArg (fun stepped => moves stepped.events) stepped
      dsimp only at carried
      rw [moves_conclude] at carried
      cases response with
      | stay | reject | fail =>
          refine Or.inl ⟨?_, ?_, ?_, carried⟩ <;> rw [stepped] <;> rfl
      | move destination | accept name value destination =>
          refine Or.inr ⟨id, destination, here, ⟨node, present, suits⟩, ?_, ?_, ?_, ?_⟩
          · rw [stepped]
            rfl
          · rw [stepped]
            rfl
          · rw [stepped]
            rfl
          · rw [carried, ← here]
            rfl

/--
What has become of a session after a course: its moves lead along a trail with as
many edges as there were transitions, and what it has come to on the way a trail
leads to.
-/
structure Travelled (script : Script) (first last : Session) (events : List Event) : Prop where
  transitions :
    last.metrics.transitions = first.metrics.transitions + (moves events).length
  moved :
    ∀ event ∈ moves events, ∃ source target : Nat,
      event = .moved source target ∧ script.Edge source target
  trail :
    ∀ source : Nat, first.current = source →
      ∃ target : Nat, last.current = target ∧
        Trail script.graph.successors source (moves events).length target
  visits :
    ∀ source : Nat, first.current = source →
      ∀ id ∈ last.metrics.visits.map Prod.fst,
        id ∈ first.metrics.visits.map Prod.fst ∨
          id < script.size ∧ ∃ length, Trail script.graph.successors source length id

/-- A session that does nothing has travelled no way. -/
theorem travelled_here
    (script : Script)
    (session : Session) :
    Travelled script session session [] := by
  refine ⟨rfl, fun _ listed => absurd listed List.not_mem_nil, ?_, fun _ _ _ => Or.inl⟩
  exact fun source here => ⟨source, here, .here⟩

/-- A step goes on along the way by an edge, or by none. -/
theorem Travelled.step
    (travelled : Travelled script first last events)
    (plays : last.Plays script) :
    Travelled script first last.step.session (events ++ last.step.events) := by
  obtain ⟨transitions, moved, trail, visits⟩ := travelled
  rcases rests_or_moves plays with rests | ⟨middle, target, moves⟩
  · have same : Session.moves (events ++ last.step.events) = Session.moves events := by
      rw [moves_append, rests.moves, List.append_nil]
    refine ⟨?_, ?_, ?_, ?_⟩
    · rw [same, rests.transitions, transitions]
    · rw [same]
      exact moved
    · rw [same, rests.current]
      exact trail
    · rw [rests.visits]
      exact visits
  · have more :
        Session.moves (events ++ last.step.events) =
          Session.moves events ++ [.moved middle target] := by
      rw [moves_append, moves.moves]
    have onward : target ∈ script.graph.successors middle :=
      (script.mem_graph_successors_iff middle target).mpr moves.edge
    have led :
        ∀ source : Nat, first.current = source →
          Trail script.graph.successors source ((Session.moves events).length + 1) target := by
      intro source here
      obtain ⟨vertex, stands, begun⟩ := trail source here
      obtain rfl : vertex = middle := Int.ofNat_inj.mp (stands.symm.trans moves.here)
      exact begun.onward onward
    refine ⟨?_, ?_, ?_, ?_⟩
    · rw [more, moves.transitions, transitions, List.length_append, Nat.add_assoc]
      rfl
    · intro event listed
      rw [more] at listed
      rcases List.mem_append.mp listed with before | now
      · exact moved event before
      · exact ⟨middle, target, List.mem_singleton.mp now, moves.edge⟩
    · intro source here
      rw [more, List.length_append]
      exact ⟨target, moves.there, led source here⟩
    · intro source here id visited
      rw [moves.visits] at visited
      split at visited
      · exact visits source here id visited
      · rename_i stays
        rcases (Visits.mem_enter_iff _ target id).mp visited with rfl | before
        · exact Or.inr ⟨moves.edge.target_cases.resolve_left stays, _, led source here⟩
        · exact visits source here id before

/-- However long a course is, its moves make a trail. -/
theorem course_travelled
    (plays : first.Plays script)
    (course : Course first events last) :
    Travelled script first last events := by
  induction course with
  | here => exact travelled_here script first
  | step begun inductionHypothesis => exact inductionHypothesis.step (plays.course begun)
  | feed lines _ inductionHypothesis =>
      obtain ⟨transitions, moved, trail, visits⟩ := inductionHypothesis
      exact ⟨transitions, moved, trail, visits⟩
  | @close last events ending _ inductionHypothesis =>
      have same : moves (events ++ last.closing ending) = moves events := by
        rw [moves_append, moves_closing, List.append_nil]
      obtain ⟨transitions, moved, trail, visits⟩ := inductionHypothesis
      exact ⟨same ▸ transitions, same ▸ moved, same ▸ trail, visits⟩

/-- What the graph of a script tells of a session that has gone on in it, with its events so far. -/
structure FollowsGraph (script : Script) (session : Session) (events : List Event) : Prop where
  counted : session.metrics.transitions = (moves events).length
  moved :
    ∀ event ∈ moves events, ∃ source target : Nat,
      event = .moved source target ∧ target ∈ script.graph.successors source ∧
        ∃ destinations, script.destinations source = .ok destinations ∧ target ∈ destinations
  visited :
    ∀ id ∈ session.metrics.visits.map Prod.fst,
      id ∈ script.graph.reachable 0 ∧ id ∉ script.graph.unreachable 0
  current :
    session.halted = false →
      ∃ id : Nat, session.current = id ∧ id ∈ script.graph.reachable 0
  trapped :
    ∀ id : Nat, session.current = id → id ∈ script.graph.trapped →
      ∀ later, (∀ operation ∈ later, Operation.Advances operation) →
        (session.after later).halted = false
  exit :
    ∀ id : Nat, session.current = id →
      ∀ later, (∀ operation ∈ later, Operation.Advances operation) →
        (session.after later).halted = true →
          session.metrics.transitions + (script.graph.shortestExit id).length ≤
            (session.after later).metrics.transitions + 1

/-- From where a session plays, a later end of it is the end of a trail. -/
theorem trail_of_halted
    (plays : session.Plays script)
    {id : Nat}
    (here : session.current = id)
    {later : List Operation}
    (advancing : ∀ operation ∈ later, operation.Advances)
    (halted : (session.after later).halted = true) :
    ∃ length,
      (session.after later).metrics.transitions = session.metrics.transitions + length ∧
        Trail script.graph.successors id length terminal := by
  have travelled := course_travelled plays (course_of_advancing advancing session)
  obtain ⟨target, there, trail⟩ := travelled.trail id here
  have atEnd : (session.after later).current = terminal := by
    simpa [Session.halted] using halted
  obtain rfl : target = terminal := Int.ofNat_inj.mp (there.symm.trans atEnd)
  exact ⟨_, travelled.transitions, trail⟩

/--
However a session goes on from the beginning of a script, it goes along the edges
of the script's graph: it comes to reachable nodes only, halts never from a
trapped one, and halts from any other no sooner than the shortest exit allows.
-/
theorem followsGraph_of_begin
    (prior : Session)
    {script : Script}
    (playable : 0 < script.size)
    {history : List Operation}
    (advancing : ∀ operation ∈ history, operation.Advances) :
    FollowsGraph script ((prior.begin script).after history)
      ((prior.begin script).eventsOf history) := by
  have begun : (prior.begin script).Plays script := prior.plays_begin playable
  have course := course_of_advancing advancing (prior.begin script)
  have plays := begun.course course
  have travelled := course_travelled begun course
  have reached :
      ∀ id, id < script.size →
        (∃ length, Trail script.graph.successors 0 length id) →
          id ∈ script.graph.reachable 0 := by
    intro id inside led
    exact (Script.mem_reachable_iff playable id).mpr ⟨inside, led⟩
  refine ⟨?_, ?_, ?_, ?_, ?_, ?_⟩
  · exact travelled.transitions.trans (Nat.zero_add _)
  · intro event listed
    obtain ⟨source, target, shape, edge⟩ := travelled.moved event listed
    obtain ⟨node, present, leads⟩ := edge
    refine ⟨source, target, shape, ?_, node.destinations,
      Script.destinations_of_present present, leads⟩
    exact (script.mem_graph_successors_iff source target).mpr ⟨node, present, leads⟩
  · intro id visited
    have reachable : id ∈ script.graph.reachable 0 := by
      rcases travelled.visits 0 rfl id visited with first | ⟨inside, led⟩
      · obtain rfl : id = 0 := by simpa [begin, start] using first
        exact reached 0 playable ⟨0, .here⟩
      · exact reached id inside led
    refine ⟨reachable, fun unreachable => ?_⟩
    exact ((Script.mem_unreachable_iff playable id).mp unreachable).2 reachable
  · intro running
    obtain ⟨target, there, trail⟩ := travelled.trail 0 rfl
    refine ⟨target, there, reached target ?_ ⟨_, trail⟩⟩
    cases plays.2 with
    | ended atEnd first => simp [Session.halted, atEnd] at running
    | standing id node here present fits =>
        obtain rfl : id = target := Int.ofNat_inj.mp (here.symm.trans there)
        exact Script.lt_size_of_present present
  · intro id here trapped later advancingLater
    by_contra halted
    obtain ⟨length, _, trail⟩ :=
      trail_of_halted plays here advancingLater (by simpa using halted)
    exact ((script.mem_trapped_iff id).mp trapped).2 ⟨length, trail⟩
  · intro id here later advancingLater halted
    obtain ⟨length, transitions, trail⟩ := trail_of_halted plays here advancingLater halted
    have bound := Script.length_shortestExit_le trail
    omega

/-- A choice between a way out and a question that never lets go. -/
def exitOrTrap : Script where
  nodes :=
    #[⟨.branching "WAY" "Where to?" [⟨"out", 1⟩, ⟨"in", 2⟩] (List.cons_ne_nil _ _), none⟩,
      ⟨.terminating "Bye $WAY", none⟩,
      ⟨.question 2 2 "NAME" ["Who?"], none⟩]
  size_le := by decide
  closed := by simp [Node.destinations, Node.Body.destinations]

/-- The session rejects an answer, goes in on the next, and is fed more while it is trapped. -/
theorem followsGraph_exitOrTrap :
    FollowsGraph exitOrTrap
      (((fresh (.ofList ["0", "2", "Ada"])).begin exitOrTrap).after
        [.step, .run, .feed ["", "Bob"], .run])
      (((fresh (.ofList ["0", "2", "Ada"])).begin exitOrTrap).eventsOf
        [.step, .run, .feed ["", "Bob"], .run]) :=
  followsGraph_of_begin (fresh (.ofList ["0", "2", "Ada"])) (by decide : 0 < exitOrTrap.size)
    (by simp [Operation.Advances])

end Session

end Dialog
