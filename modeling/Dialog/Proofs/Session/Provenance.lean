import Dialog.Proofs.Session.Accepting

namespace Dialog.Session

/-!
# Where bindings come from

What a session has bound are the answers that its steps accepted on the way, each over
those before it (`Itinerary.bindings`). An answer is accepted by the node that the
session stands at, which it has entered, so no other names are ever bound; and since
nothing takes a binding away, a name that is bound stays bound.
-/

variable {script : Script} {session begun last : Session} {made : List Session}
  {events : List Event}

/-- A session binds the answers accepted on its way over what was bound before. -/
theorem Itinerary.bindings
    (itinerary : Itinerary begun made events last) :
    last.bindings = begun.bindings.bindAll (made.filterMap accepted?) := by
  induction itinerary with
  | here => rfl
  | @step session made events _ inductionHypothesis =>
      have single : [session].filterMap accepted? = session.accepted?.toList := by
        cases accepted : session.accepted? <;> simp [accepted]
      rw [bindings_step, inductionHypothesis, List.filterMap_append, single,
        Bindings.bindAll_append]
  | feed lines _ inductionHypothesis => exact inductionHypothesis
  | close ending _ inductionHypothesis => exact inductionHypothesis

/-- Whether a node that was entered has a name. -/
def HasEntered (script : Script) (session : Session) (name : String) : Prop :=
  ∃ id ∈ session.metrics.visits.map Prod.fst,
    ∃ node, script.nodes[id]? = some node ∧ node.body.name? = some name

/-- Whether the node that a session stands at was entered, and each name that is bound is of one. -/
structure Acquainted (script : Script) (session : Session) : Prop where
  here :
    session.halted = false →
      ∃ id : Nat, session.current = id ∧ id ∈ session.metrics.visits.map Prod.fst
  bound : ∀ name, session.bindings.contains name = true → HasEntered script session name

/-- What was visited before a step was visited after it. -/
theorem mem_visits_step
    (plays : session.Plays script)
    {id : Nat}
    (visited : id ∈ session.metrics.visits.map Prod.fst) :
    id ∈ session.step.session.metrics.visits.map Prod.fst := by
  rcases rests_or_moves plays with rests | ⟨source, target, moves⟩
  · rwa [rests.visits]
  · rw [moves.visits]
    split
    · exact visited
    · exact (Visits.mem_enter_iff _ target id).mpr (Or.inr visited)

/-- A session in play stands at a node that it has visited. -/
theorem here_step
    (plays : session.Plays script)
    (here :
      session.halted = false →
        ∃ id : Nat, session.current = id ∧ id ∈ session.metrics.visits.map Prod.fst)
    (running : session.step.session.halted = false) :
    ∃ id : Nat, session.step.session.current = id ∧
      id ∈ session.step.session.metrics.visits.map Prod.fst := by
  rcases rests_or_moves plays with rests | ⟨source, target, moves⟩
  · have wasRunning : session.halted = false := by
      rw [← running, halted, halted, rests.current]
    obtain ⟨id, stands, visited⟩ := here wasRunning
    exact ⟨id, rests.current.trans stands, mem_visits_step plays visited⟩
  · have stays : target ≠ terminal := by
      rintro rfl
      simp [halted, moves.there] at running
    refine ⟨target, moves.there, ?_⟩
    rw [moves.visits, if_neg stays]
    exact (Visits.mem_enter_iff _ target target).mpr (Or.inl rfl)

/-- A node that binds a name and was entered stays entered. -/
theorem HasEntered.step
    {name : String}
    (plays : session.Plays script)
    (entered : HasEntered script session name) :
    HasEntered script session.step.session name := by
  obtain ⟨id, visited, named⟩ := entered
  exact ⟨id, mem_visits_step plays visited, named⟩

/-- One more step binds only names of nodes that were entered. -/
theorem Acquainted.step
    (acquainted : Acquainted script session)
    (plays : session.Plays script) :
    Acquainted script session.step.session := by
  refine ⟨here_step plays acquainted.here, ?_⟩
  intro name contained
  rw [bindings_step, Bindings.contains_bindAll_iff] at contained
  rcases contained with before | now
  · exact (acquainted.bound name before).step plays
  · obtain ⟨⟨_, value⟩, accepted, rfl⟩ := List.mem_map.mp now
    rw [Option.mem_toList] at accepted
    obtain ⟨node, standing, named⟩ := exists_standing_of_accepted accepted
    obtain ⟨id, stands, present, _⟩ := plays.present_of_standing standing
    obtain ⟨entered, here, visited⟩ := acquainted.here (running_of_standing standing)
    obtain rfl : entered = id := Int.ofNat_inj.mp (here.symm.trans stands)
    exact ⟨entered, mem_visits_step plays visited, node, present, named⟩

/-- A session that has just begun has bound nothing. -/
theorem acquainted_begin
    (prior : Session)
    (script : Script) :
    Acquainted script (prior.begin script) where
  here := fun _ => ⟨0, rfl, List.mem_singleton_self 0⟩
  bound := by
    intro name contained
    cases contained

/-- On any course only names of nodes that were entered are bound. -/
theorem Course.acquainted
    (course : Course begun events last)
    (plays : begun.Plays script)
    (acquainted : Acquainted script begun) :
    Acquainted script last := by
  induction course with
  | here => exact acquainted
  | step onTheWay inductionHypothesis => exact inductionHypothesis.step (plays.course onTheWay)
  | feed lines _ inductionHypothesis =>
      obtain ⟨here, bound⟩ := inductionHypothesis
      exact ⟨here, bound⟩
  | close ending _ inductionHypothesis => exact inductionHypothesis

/-- Where a history and so many steps at most of a run after it leave a session. -/
def partway (session : Session) (history : List Operation) (bound : Nat) : Session :=
  ((session.after history).runWithin bound).session

/-- The sessions that the steps on the way there are made at, in order. -/
def stepsUpTo (session : Session) (history : List Operation) (bound : Nat) : List Session :=
  session.stepsOf history ++ (session.after history).stepsWithin bound

/-- The events on the way there, in order. -/
def eventsUpTo (session : Session) (history : List Operation) (bound : Nat) : List Event :=
  session.eventsOf history ++ ((session.after history).runWithin bound).events

/-- A history that is broken off within an operation is an itinerary up to there. -/
theorem itinerary_partway
    (session : Session)
    {history : List Operation}
    (advancing : ∀ operation ∈ history, operation.Advances)
    (bound : Nat) :
    Itinerary session (session.stepsUpTo history bound) (session.eventsUpTo history bound)
      (session.partway history bound) :=
  (itinerary_of_advancing advancing session).trans (runWithin_itinerary bound _)

/--
Where the bindings of a session come from that was begun in a script and has gone on
by steps made at the sessions `made`. They are what the accepted answers bind, one
after the other from none, and which answers those are `Accepts` says. A step that
fails accepts none. A name that is bound stays bound, and is the name of a node that
the session has entered.
-/
structure Provenance (script : Script) (made : List Session) (last : Session) : Prop where
  bindings : last.bindings = .ofList (made.filterMap accepted?)
  accepted :
    ∀ session ∈ made, ∀ binding, session.accepted? = some binding ↔ session.Accepts binding
  failing : ∀ session ∈ made, session.step.fault ≠ none → session.accepted? = none
  kept :
    ∀ later, (∀ operation ∈ later, Operation.Advances operation) →
      ∀ bound name, last.bindings.contains name = true →
        (last.partway later bound).bindings.contains name = true
  entered : ∀ name, last.bindings.contains name = true → HasEntered script last name

/-- At every point of a session that was begun, what is bound are the answers accepted so far. -/
theorem binds_accepted_answers
    (prior : Session)
    {opening : Operation}
    {script : Script}
    (begins : prior.Begins opening script)
    {history : List Operation}
    (advancing : ∀ operation ∈ history, operation.Advances)
    (bound : Nat) :
    Provenance script ((prior.perform opening).session.stepsUpTo history bound)
      ((prior.perform opening).session.partway history bound) := by
  rw [begins.perform]
  have itinerary := (prior.begin script).itinerary_partway advancing bound
  have acquainted :=
    itinerary.course.acquainted (prior.plays_begin begins.playable) (acquainted_begin prior script)
  refine ⟨itinerary.bindings, fun _ _ _ => accepted?_eq_some_iff, ?_, ?_, acquainted.bound⟩
  · intro session _ failed
    by_contra accepts
    obtain ⟨binding, accepted⟩ := Option.ne_none_iff_exists'.mp accepts
    exact failed (fault_step_of_accepted accepted)
  · intro later advancingLater within name contained
    rw [(itinerary_partway _ advancingLater within).bindings, Bindings.contains_bindAll_iff]
    exact Or.inl contained

/--
A choice is rejected, then made, and made again once the question is given up; the
answers run out at the question and more are fed. The answer to it keeps its blanks
and its dollar sign.
-/
theorem binds_accepted_answers_everyTurn :
    Provenance everyTurn
        (((fresh (.ofList ["x", "2", "", "", "2"])).perform (.take everyTurn)).session.stepsUpTo
          [.step, .run, .feed [" $WAY \r\n"]] 1)
        (((fresh (.ofList ["x", "2", "", "", "2"])).perform (.take everyTurn)).session.partway
          [.step, .run, .feed [" $WAY \r\n"]] 1) ∧
      (((fresh (.ofList ["x", "2", "", "", "2"])).perform (.take everyTurn)).session.partway
          [.step, .run, .feed [" $WAY \r\n"]] 1).bindings =
        ⟨[("WAY", "in"), ("NAME", " $WAY ")]⟩ := by
  refine ⟨?_, by decide⟩
  exact binds_accepted_answers (fresh (.ofList ["x", "2", "", "", "2"]))
    (.take (by decide : 0 < everyTurn.size)) (by simp [Operation.Advances]) 1

end Dialog.Session
