import Dialog.Proofs.Outcome
import Dialog.Proofs.Session.Place

namespace Dialog.Session

/-!
# Safety of the engine

Once a script has been taken up, any history of engine operations, failing ones
included, leaves a session in its script, at an attempt that its node has. What
follows is what a player relies on: the session always knows its node, it never
shows a prompt that does not exist, and a step blames the caller only when the
session is over.
-/

/-- What holds of a session in every state that the engine leaves behind. -/
structure Safe (session : Session) (script : Script) : Prop where
  taken : session.script = some script
  place : session.current = terminal ∨ ∃ id : Nat, id < script.size ∧ session.current = id
  atEnd : session.halted = true → session.attempt = 0
  attempt :
    ∀ node, session.currentNode = .ok (some node) → node.body.Fits session.attempt
  node : ∃ node, session.currentNode = .ok node
  shown :
    ∀ node, session.currentNode = .ok (some node) →
      (node.body.isPromptless = true ∧ ∀ prompt, Event.shown prompt ∉ session.step.events) ∨
        ∃ prompt,
          (Showable.node node).prompt session.bindings session.attempt = .ok prompt ∧
            ∀ other, Event.shown other ∈ session.step.events ↔ other = prompt
  misuse :
    (∃ fault, session.step.fault = some fault ∧ fault.className = "RuntimeFlowError") ↔
      session.halted = true

/-- Only the prompts shown before it are shown when a turn ends with a response. -/
theorem shown_mem_conclude
    (session : Session)
    (kind : Node.Kind)
    (shown : List Prompt)
    (response : Response)
    (prompt : Prompt) :
    Event.shown prompt ∈ (session.conclude kind (shown.map Event.shown) response).events ↔
      prompt ∈ shown := by
  cases response <;> simp [conclude, carryOut, Response.fault?]

/-- A step at a node shows just what describing the node gives, if it has anything to show. -/
theorem shown_of_fits
    {session : Session}
    {node : Node}
    (standing : session.currentNode = .ok (some node))
    (fits : node.body.Fits session.attempt) :
    (node.body.isPromptless = true ∧ ∀ prompt, Event.shown prompt ∉ session.step.events) ∨
      ∃ prompt,
        (Showable.node node).prompt session.bindings session.attempt = .ok prompt ∧
          ∀ other, Event.shown other ∈ session.step.events ↔ other = prompt := by
  rcases Node.Body.turn_of_fits fits session.bindings with
      ⟨prompt, shows, described⟩ | ⟨promptless, destination, leaves⟩
  · refine Or.inr ⟨prompt, described, fun other => ?_⟩
    rw [step_of_shows standing shows]
    exact (shown_mem_conclude _ _ [prompt] _ other).trans List.mem_singleton
  · refine Or.inl ⟨promptless, fun prompt shown => ?_⟩
    rw [step_of_leaves standing leaves] at shown
    exact List.not_mem_nil ((shown_mem_conclude _ _ [] _ prompt).mp shown)

theorem className_ne_of_standing
    {session : Session}
    {node : Node}
    (standing : session.currentNode = .ok (some node))
    {fault : SessionFault}
    (failed : session.step.fault = some fault) :
    fault.className ≠ "RuntimeFlowError" := by
  obtain ⟨lastPrompt, answers, shown, response, suits, stepped⟩ := step_standing standing
  rw [stepped] at failed
  change response.fault? = some fault at failed
  cases response with
  | fail reason =>
      obtain rfl : reason = fault := Option.some.inj failed
      exact suits
  | stay | move | accept | reject => cases failed

theorem Plays.safe
    {session : Session}
    {script : Script}
    (plays : session.Plays script) :
    session.Safe script := by
  obtain ⟨taken, placed⟩ := plays
  cases placed with
  | ended atEnd first =>
      have nowhere : session.currentNode = .ok none := currentNode_of_ended taken atEnd
      have halted : session.halted = true := by simp [Session.halted, atEnd]
      have blamed : session.step.fault = some .finished := by
        simp [Session.step, nowhere]
      exact
        { taken
          place := Or.inl atEnd
          atEnd := fun _ => first
          attempt := by simp [nowhere]
          node := ⟨none, nowhere⟩
          shown := by simp [nowhere]
          misuse := ⟨fun _ => halted, fun _ => ⟨.finished, blamed, rfl⟩⟩ }
  | standing id node here present fits =>
      have standing : session.currentNode = .ok (some node) :=
        currentNode_of_standing taken here present
      have running : session.halted = false := halted_of_standing here present
      have same : ∀ other, session.currentNode = .ok (some other) → other = node := by
        intro other found
        simpa [standing, eq_comm] using found
      exact
        { taken
          place := Or.inr ⟨id, Script.lt_size_of_present present, here⟩
          atEnd := by simp [running]
          attempt := fun other found => same other found ▸ fits
          node := ⟨some node, standing⟩
          shown := fun other found => by
            rw [same other found]
            exact shown_of_fits standing fits
          misuse := by
            constructor
            · rintro ⟨fault, failed, blamed⟩
              exact absurd blamed (className_ne_of_standing standing failed)
            · simp [running] }

/-- Whether a session plays a script that has a node to start at. -/
def InPlay (session : Session) : Prop :=
  ∃ script, 0 < script.size ∧ session.Plays script

/-- An engine operation that takes up a script, and succeeds, leaves a session that plays it. -/
theorem inPlay_of_takesUp
    (session : Session)
    {loading : Operation}
    (takesUp : loading.TakesUp)
    (engine : loading.IsEngine)
    (succeeds : (session.perform loading).outcome = .done) :
    (session.perform loading).session.InPlay := by
  cases loading with
  | load text =>
      cases loaded : Script.load text with
      | error fault => simp [perform, load, loaded, Outcome.ofLoad] at succeeds
      | ok script =>
          have playable : 0 < script.size := (Script.load_eq_ok_iff.mp loaded).2
          have begun : (session.perform (.load text)).session = session.begin script := by
            simp [perform, load, loaded]
          rw [begun]
          exact ⟨script, playable, session.plays_begin playable⟩
  | take script => exact ⟨script, engine, session.plays_begin engine⟩
  | start | step | run | feed | goTo | bind => exact takesUp.elim

/-- A session in play stays in play whatever the engine does with it. -/
theorem InPlay.perform
    {session : Session}
    (inPlay : session.InPlay)
    {operation : Operation}
    (engine : operation.IsEngine) :
    (session.perform operation).session.InPlay := by
  obtain ⟨script, playable, plays⟩ := inPlay
  cases operation with
  | load text =>
      cases loaded : Script.load text with
      | error fault =>
          have unchanged : (session.perform (.load text)).session = session := by
            simp [Session.perform, load, loaded]
          rw [unchanged]
          exact ⟨script, playable, plays⟩
      | ok script =>
          exact inPlay_of_takesUp session trivial engine
            (by simp [Session.perform, load, loaded, Outcome.ofLoad])
  | take other => exact inPlay_of_takesUp session trivial engine rfl
  | start =>
      have again : (session.perform .start).session = session.begin script := by
        simp [Session.perform, begin, start, plays.1]
      rw [again]
      exact ⟨script, playable, session.plays_begin playable⟩
  | step => exact ⟨script, playable, plays.course (session.perform_course trivial)⟩
  | run => exact ⟨script, playable, plays.course session.run_course⟩
  | feed lines => exact ⟨script, playable, plays.feed lines⟩
  | goTo | bind => exact engine.elim

/--
Whatever a session did before, once a script has been taken up every history of
engine operations leaves it safe, and so it is after every step of a run that it
then begins, however long that run goes on.
-/
theorem safe_after_load
    (prior : Session)
    (loading : Operation)
    (takesUp : loading.TakesUp)
    (playable : loading.IsEngine)
    (succeeds : (prior.perform loading).outcome = .done)
    {history : List Operation}
    (engine : ∀ operation ∈ history, operation.IsEngine) :
    ∃ script,
      ((prior.perform loading).session.after history).Safe script ∧
        ∀ bound, (((prior.perform loading).session.after history).runWithin bound).session.Safe
          script := by
  have begun : (prior.perform loading).session.InPlay :=
    inPlay_of_takesUp prior takesUp playable succeeds
  have kept : ((prior.perform loading).session.after history).InPlay :=
    after_keeps Operation.IsEngine InPlay
      (fun _ _ allowed before => before.perform allowed) engine begun
  obtain ⟨script, _, plays⟩ := kept
  exact ⟨script, plays.safe, fun bound => (plays.course (runWithin_course bound _)).safe⟩

/-- One question with two prompts, which leads back to itself either way. -/
def selfAsking : Script where
  nodes := #[⟨.question 0 0 "NAME" ["Who?", "Please?"], none⟩]
  size_le := by decide
  closed := by simp [Node.destinations, Node.Body.destinations]

/--
The question is taken up, answered with a blank line, and left for itself after
a second one; a text that is no script is refused in between, and the answers run
out in the end.
-/
theorem safe_after_load_selfAsking :
    ∃ script,
      (((fresh (.ofList ["", ""])).perform (.take selfAsking)).session.after
          [.step, .load "1", .step, .run, .feed ["Ada"], .step]).Safe script ∧
        ∀ bound,
          ((((fresh (.ofList ["", ""])).perform (.take selfAsking)).session.after
            [.step, .load "1", .step, .run, .feed ["Ada"], .step]).runWithin bound).session.Safe
              script :=
  safe_after_load (fresh (.ofList ["", ""])) (.take selfAsking) trivial
    (by decide : 0 < selfAsking.size) rfl (by simp [Operation.IsEngine])

end Dialog.Session
