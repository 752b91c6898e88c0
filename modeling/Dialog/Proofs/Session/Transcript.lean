import Dialog.Proofs.Session.Footprint
import Dialog.Proofs.Session.Provenance

namespace Dialog

/-!
# What a session has written

A step writes what describing its node gives beforehand, and a line end once it has
gone through (`Session.written`). Nothing else writes, so a sink that was empty when
a session was begun holds what its steps have written, one after the other. The
answer that a step reads comes too late for the prompt that it shows: a prompt shows
the answers accepted in earlier steps.
-/

/-- A node that is left without a prompt has none to describe. -/
theorem Node.Body.prompt_of_leaves
    {node : Node}
    {bindings : Bindings}
    {attempt destination : Nat}
    (leaves : node.body.turn bindings attempt = .leaves destination) :
    ((Showable.node node).prompt bindings attempt).toOption = none := by
  obtain ⟨body, line⟩ := node
  cases body with
  | question success fail name prompts =>
      have usedUp : ¬attempt < prompts.length := by
        intro shown
        rw [turn_question_of_lt success fail name bindings shown] at leaves
        cases leaves
      have position : position? prompts.length attempt = none := if_neg usedUp
      simp only [Showable.prompt, Showable.attempts, position]
      rfl
  | branching | terminating => cases leaves

namespace Session

variable {script : Script} {session begun last : Session} {made : List Session}
  {events : List Event} {node : Node}

/-- What describing the node that a session stands at gives, with its bindings at its attempt. -/
def described? (session : Session) : Option Prompt :=
  match session.currentNode with
  | .ok (some node) => ((Showable.node node).prompt session.bindings session.attempt).toOption
  | _ => none

/-- What a step at a session writes: its node described, and a line end if the step goes through. -/
def written (session : Session) : String :=
  (session.described?.map Prompt.render).getD "" ++
    if session.step.fault = none then "\n" else ""

/-- A session at a node describes what the node shows, if that can be shown. -/
theorem described?_standing
    (standing : session.currentNode = .ok (some node)) :
    session.described? =
      ((Showable.node node).prompt session.bindings session.attempt).toOption := by
  simp only [described?, standing]

/-! ## One step -/

/-- A response writes a line end after what was shown, unless it fails. -/
theorem chunks_conclude
    (session : Session)
    (kind : Node.Kind)
    (before : List Event)
    (response : Response) :
    chunks (session.conclude kind before response).events =
      chunks before ++ if response.fault? = none then ["\n"] else [] := by
  cases response <;>
    · simp only [conclude, carryOut, List.append_assoc, chunks_append]
      rfl

theorem join_chunks_shown (prompt? : Option Prompt) :
    String.join (chunks (prompt?.toList.map Event.shown)) =
      (prompt?.map Prompt.render).getD "" := by
  cases prompt? <;> simp [chunks, Event.written?]

/-- No response changes the last prompt. -/
theorem lastPrompt_conclude
    (session : Session)
    (kind : Node.Kind)
    (before : List Event)
    (response : Response) :
    (session.conclude kind before response).session.lastPrompt = session.lastPrompt := by
  cases response <;> rfl

/--
All that a step shows: it carries out a response with what describing its node gives
before it, or there is no node, and then nothing is described or done.
-/
theorem step_described (session : Session) :
    (∃ (before : Session) (kind : Node.Kind) (response : Response),
      before.lastPrompt = session.described?.or session.lastPrompt ∧
        session.step =
          before.conclude kind (session.described?.toList.map Event.shown) response) ∨
      (session.described? = none ∧ ∃ fault, session.step = ⟨session, [], some fault⟩) := by
  rcases session.standing_or_nowhere with ⟨node, standing⟩ | ⟨fault, nowhere, stepped⟩
  · rw [described?_standing standing]
    cases turned : node.body.turn session.bindings session.attempt with
    | leaves destination =>
        rw [Node.Body.prompt_of_leaves turned]
        exact Or.inl ⟨session.countStep, _, _, rfl, step_of_leaves standing turned⟩
    | shows prompt =>
        rw [Node.Body.prompt_of_shows turned]
        exact Or.inl ⟨session.countStep.read prompt, _, _, rfl, step_of_shows standing turned⟩
  · refine Or.inr ⟨?_, fault, stepped⟩
    cases nowhere <;> simp_all [described?, currentNode]

/-- A step writes its text, and no more. -/
theorem text_step (session : Session) :
    String.join (chunks session.step.events) = session.written := by
  rcases session.step_described with
    ⟨before, kind, response, _, stepped⟩ | ⟨undescribed, fault, stepped⟩
  · have outcome : session.step.fault = response.fault? := congrArg Stepped.fault stepped
    rw [written, outcome, stepped, chunks_conclude, String.join_append, join_chunks_shown]
    split <;> simp
  · rw [written, undescribed, stepped]
    rfl

/-- A step shows the prompt that its node is described with, if there is one. -/
theorem shownIn_step (session : Session) :
    shownIn session.step.events = session.described?.toList := by
  rcases session.step_described with
    ⟨before, kind, response, _, stepped⟩ | ⟨undescribed, fault, stepped⟩
  · rw [stepped, shownIn_conclude]
  · rw [undescribed, stepped]
    rfl

/-- The last prompt is the one described last. -/
theorem lastPrompt_step (session : Session) :
    session.step.session.lastPrompt = session.described?.or session.lastPrompt := by
  rcases session.step_described with
    ⟨before, kind, response, shown, stepped⟩ | ⟨undescribed, fault, stepped⟩
  · rw [stepped, lastPrompt_conclude, shown]
  · rw [undescribed, stepped]
    rfl

/-- A session that plays a script has nothing to describe just at a question without prompts. -/
theorem Plays.described?_eq_none_iff
    (plays : session.Plays script)
    (standing : session.currentNode = .ok (some node)) :
    session.described? = none ↔ node.body.isPromptless = true := by
  obtain ⟨_, _, _, fits⟩ := plays.present_of_standing standing
  rw [described?_standing standing]
  rcases Node.Body.turn_of_fits fits session.bindings with
    ⟨prompt, shows, described⟩ | ⟨promptless, destination, leaves⟩
  · simp [described, Except.toOption, Node.Body.isPromptless_of_shows shows]
  · simp [Node.Body.prompt_of_leaves leaves, promptless]

/-! ## Step after step -/

/-- What is written on the way is what the steps on it have written. -/
theorem Itinerary.text
    (itinerary : Itinerary begun made events last) :
    String.join (chunks events) = String.join (made.map written) := by
  induction itinerary with
  | here => rfl
  | @step session made events _ inductionHypothesis =>
      rw [chunks_append, String.join_append, inductionHypothesis, text_step, List.map_append,
        String.join_append]
      simp
  | feed lines _ inductionHypothesis => exact inductionHypothesis
  | close ending _ inductionHypothesis =>
      rw [chunks_append, chunks_closing, List.append_nil]
      exact inductionHypothesis

/-- The prompt kept last is the last one shown on the way, or else the one kept before. -/
theorem Itinerary.lastPrompt
    (itinerary : Itinerary begun made events last) :
    last.lastPrompt = (made.filterMap described?).getLast?.or begun.lastPrompt := by
  induction itinerary with
  | here => rfl
  | @step session made events _ inductionHypothesis =>
      rw [lastPrompt_step, inductionHypothesis, List.filterMap_append, List.getLast?_append]
      cases described : session.described? <;> simp [described]
  | feed lines _ inductionHypothesis => exact inductionHypothesis
  | close ending _ inductionHypothesis => exact inductionHypothesis

/-- What leads to a session that a step is made at are the steps made before. -/
theorem Itinerary.until
    (itinerary : Itinerary begun made events last)
    {earlier later : List Session}
    (split : made = earlier ++ session :: later) :
    ∃ before, Itinerary begun earlier before session := by
  induction itinerary generalizing later with
  | here => simp at split
  | @step current made events itinerary inductionHypothesis =>
      rcases later.eq_nil_or_concat with rfl | ⟨between, final, rfl⟩
      · obtain ⟨rfl, same⟩ := List.append_inj' split rfl
        cases same
        exact ⟨events, itinerary⟩
      · rw [List.concat_eq_append, ← List.cons_append, ← List.append_assoc] at split
        exact inductionHypothesis (List.append_inj' split rfl).1
  | feed lines _ inductionHypothesis => exact inductionHypothesis split
  | close ending _ inductionHypothesis => exact inductionHypothesis split

/-- Taking up a script writes nothing. -/
theorem Begins.chunks_perform
    {prior : Session}
    {opening : Operation}
    (begins : prior.Begins opening script) :
    chunks (prior.perform opening).events = [] := by
  cases begins with
  | load loaded =>
      simp [Session.perform, Session.load, loaded, chunks, List.filterMap_map, Function.comp_def,
        Event.written?]
  | take | start => rfl

/--
What stands in a sink that has taken in `events`, and what `last` keeps as the last
prompt, by the sessions `made` at which the steps so far were made. A step that finds
a node writes the node described before anything is read, unless the node is a
question without prompts, and no step shows anything else. What a prompt shows of the
bindings are the answers accepted earlier, whatever answers are still to be read.
-/
structure Transcript (made : List Session) (events : List Event) (last : Session) : Prop where
  text : String.join (chunks events) = String.join (made.map written)
  lastPrompt : last.lastPrompt = (made.filterMap described?).getLast?
  shown :
    ∀ session ∈ made, ∀ answers,
      shownIn ({ session with answers } : Session).step.events = session.described?.toList
  silent :
    ∀ session ∈ made, ∀ node, session.currentNode = .ok (some node) →
      (session.described? = none ↔ node.body.isPromptless = true)
  informed :
    ∀ earlier session later, made = earlier ++ session :: later →
      session.bindings = .ofList (earlier.filterMap accepted?)

/-- At every point of a session that was begun, what is written is what its steps describe. -/
theorem writes_descriptions
    (prior : Session)
    {opening : Operation}
    {script : Script}
    (begins : prior.Begins opening script)
    {history : List Operation}
    (advancing : ∀ operation ∈ history, operation.Advances)
    (bound : Nat) :
    Transcript ((prior.perform opening).session.stepsUpTo history bound)
      ((prior.perform opening).events ++ (prior.perform opening).session.eventsUpTo history bound)
      ((prior.perform opening).session.partway history bound) := by
  rw [begins.perform]
  have itinerary := (prior.begin script).itinerary_partway advancing bound
  have plays := prior.plays_begin begins.playable
  refine ⟨?_, ?_, ?_, ?_, ?_⟩
  · rw [chunks_append, begins.chunks_perform, List.nil_append]
    exact itinerary.text
  · rw [itinerary.lastPrompt]
    exact Option.or_none
  · intro session _ answers
    exact shownIn_step { session with answers }
  · intro session member node standing
    obtain ⟨earlier, later, split⟩ := List.append_of_mem member
    obtain ⟨before, arrives⟩ := itinerary.until split
    exact (plays.course arrives.course).described?_eq_none_iff standing
  · intro earlier session later split
    obtain ⟨before, arrives⟩ := itinerary.until split
    exact arrives.bindings

/--
A question without prompts is left with a bare line end. The choice is shown again
after it was rejected and after the answers ran out, and the step that they ran out at
ends no line. The farewell shows the answer before it.
-/
theorem writes_descriptions_everyTurn :
    Transcript
        (((fresh (.ofList ["x"])).perform (.take everyTurn)).session.stepsUpTo
          [.run, .feed ["2", "Ann\n"], .step] 2)
        (((fresh (.ofList ["x"])).perform (.take everyTurn)).events ++
          ((fresh (.ofList ["x"])).perform (.take everyTurn)).session.eventsUpTo
            [.run, .feed ["2", "Ann\n"], .step] 2)
        (((fresh (.ofList ["x"])).perform (.take everyTurn)).session.partway
          [.run, .feed ["2", "Ann\n"], .step] 2) ∧
      (((fresh (.ofList ["x"])).perform (.take everyTurn)).session.stepsUpTo
          [.run, .feed ["2", "Ann\n"], .step] 2).map written =
        ["\n", "Where to?\n1. out\n2. in\n\nEnter choice> \n",
          "Where to?\n1. out\n2. in\n\nEnter choice> ",
          "Where to?\n1. out\n2. in\n\nEnter choice> \n",
          "Who?\nEnter string> \n",
          "Bye Ann\nGoodbye (enter anything to exit)> \n"] := by
  refine ⟨?_, by decide +kernel⟩
  exact writes_descriptions (fresh (.ofList ["x"])) (.take (by decide : 0 < everyTurn.size))
    (by simp [Operation.Advances]) 2

end Session

end Dialog
