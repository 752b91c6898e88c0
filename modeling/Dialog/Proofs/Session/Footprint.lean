import Dialog.Proofs.Session.Resumption

namespace Dialog

/-!
# What a failing step leaves behind

A session of any kind is considered here, one that was sent to an id by hand or
that has no script included. A step of it that finds no node to stand at fails
before it has done anything. A step that fails later has counted itself, has
shown the prompt of its node and has read, and the fault lies in what it read;
it changes nothing else. So the whole difference that a failing step makes is
one equation between sessions, and what was read tells the rest. A run of a
session that plays a script fails just where it comes to such a reading.
-/

namespace Answers

/-- What a read leaves, by what it gives: the answers themselves or all but the first of them. -/
inductive Leaves (answers left : Answers) : Reading → Prop where
  | interrupted :
      answers.interruptIn = some 0 →
      left = answers →
      Leaves answers left .interrupted
  | closed :
      answers.unread = [] →
      left.unread = [] →
      left.consumed = answers.consumed →
      Leaves answers left .closed
  | line {text : String} {rest : List String} :
      answers.unread = text :: rest →
      left.unread = rest →
      left.consumed = answers.consumed + 1 →
      Leaves answers left (.line text)

/-- Every read leaves the answers so. -/
theorem read_leaves (answers : Answers) :
    answers.Leaves answers.read.2 answers.read.1 := by
  by_cases interrupts : answers.interruptIn = some 0
  · simp only [read, if_pos interrupts]
    exact .interrupted interrupts rfl
  · cases unread : answers.unread with
    | nil =>
        simp only [read, if_neg interrupts, unread]
        exact .closed unread rfl rfl
    | cons text rest =>
        simp only [read, if_neg interrupts, unread]
        exact .line unread rfl rfl

/-- What a step that fails at a node has used up of the answers, by the fault that it found. -/
inductive SpentOn (id : Int) (node : Node) (answers left : Answers) : SessionFault → Prop where
  | nothing :
      node.kind ≠ .terminating →
      answers.unread = [] →
      left.unread = [] →
      left.consumed = answers.consumed →
      SpentOn id node answers left (.inputClosed id)
  | overlong {text : String} {rest : List String} :
      node.kind = .branching →
      Numeral.Overlong (trimLineEnd text) →
      answers.unread = text :: rest →
      left.unread = rest →
      left.consumed = answers.consumed + 1 →
      SpentOn id node answers left (.numeral (.overlong (trimLineEnd text).toList.length))
  | interrupted :
      answers.interruptIn = some 0 →
      left = answers →
      SpentOn id node answers left .interrupted

/-- A node that blames what is read has used up no more than the fault says. -/
theorem spentOn_of_blames
    {answers : Answers}
    {id : Int}
    {node : Node}
    {fault : SessionFault}
    (blames : node.body.Blames id answers.read.1 fault) :
    SpentOn id node answers answers.read.2 fault := by
  have leaves := answers.read_leaves
  generalize answers.read.1 = reading at blames leaves
  cases blames with
  | interrupted =>
      cases leaves with
      | interrupted interrupts same => exact .interrupted interrupts same
  | closed asks =>
      cases leaves with
      | closed unread left consumed => exact .nothing asks unread left consumed
  | overlong branching long =>
      cases leaves with
      | line unread left consumed => exact .overlong branching long unread left consumed

end Answers

namespace Node.Body

/-- What a node blames is a closed console, a numeral or an interrupt. -/
theorem Blames.sorted
    {id : Int}
    {body : Node.Body}
    {reading : Reading}
    {fault : SessionFault}
    (blames : body.Blames id reading fault) :
    fault = .inputClosed id ∨ (∃ why, fault = .numeral why) ∨ fault = .interrupted := by
  cases blames with
  | interrupted => exact Or.inr (Or.inr rfl)
  | closed => exact Or.inl rfl
  | overlong => exact Or.inr (Or.inl ⟨_, rfl⟩)

/-- At any attempt, what a node shows is what describing it there gives. -/
theorem prompt_of_shows
    {node : Node}
    {bindings : Bindings}
    {attempt : Nat}
    {prompt : Prompt}
    (shows : node.body.turn bindings attempt = .shows prompt) :
    (Showable.node node).prompt bindings attempt = .ok prompt := by
  obtain ⟨body, line⟩ := node
  cases body with
  | question success fail name prompts =>
      have shown : attempt < prompts.length := by
        by_contra usedUp
        simp [turn, Nat.le_of_not_lt usedUp] at shows
      have position : position? prompts.length attempt = some attempt := if_pos shown
      simp only [Showable.prompt, Showable.attempts, position]
      simp only [Except.bind, shows]
  | branching name asked options nonempty =>
      simp only [Showable.prompt, Showable.attempts, Except.bind, turn] at shows ⊢
      rw [Turn.shows.inj shows]
  | terminating message =>
      simp only [Showable.prompt, Showable.attempts, Except.bind, turn] at shows ⊢
      rw [Turn.shows.inj shows]

end Node.Body

namespace Session

variable {session : Session} {node : Node} {fault : SessionFault}

/-- Why a session has no node to make a step at. -/
inductive Nowhere (session : Session) : SessionFault → Prop where
  | noScript : session.script = none → Nowhere session .noScript
  | finished {script : Script} :
      session.script = some script →
      session.halted = true →
      Nowhere session .finished
  | absent {script : Script} :
      session.script = some script →
      session.halted = false →
      script.node? session.current = none →
      Nowhere session (.absent session.current)

/-- A session stands at a node, or the reason why it does not is the fault of its step. -/
theorem standing_or_nowhere (session : Session) :
    (∃ node, session.currentNode = .ok (some node)) ∨
      ∃ fault, session.Nowhere fault ∧ session.step = ⟨session, [], some fault⟩ := by
  cases taken : session.script with
  | none =>
      refine Or.inr ⟨.noScript, .noScript taken, ?_⟩
      simp only [step, currentNode, taken]
  | some script =>
      cases ended : session.halted with
      | true =>
          exact Or.inr ⟨.finished, .finished taken ended, step_of_halted taken ended⟩
      | false =>
          cases named : script.node? session.current with
          | some node =>
              refine Or.inl ⟨node, ?_⟩
              simp [currentNode, taken, ended, named]
          | none =>
              refine Or.inr ⟨_, .absent taken ended named, ?_⟩
              simp [step, currentNode, taken, ended, named]

/--
All that a step which fails leaves behind. Either it found no node, and nothing is
different at all. Or it showed what describing its node gives, and the session is
what it was but for the step counted, the prompt shown and the answers used up:
the place, the bindings and all other counts are untouched, the prompt is all that
was written, without the line that pads a step, and nothing was reported.
-/
inductive Footprint (session : Session) (fault : SessionFault) : Prop where
  | nothing
      (nowhere : session.Nowhere fault)
      (same : session.step.session = session)
      (silent : session.step.events = [])
  | shown
      (node : Node)
      (prompt : Prompt)
      (left : Answers)
      (standing : session.currentNode = .ok (some node))
      (described : (Showable.node node).prompt session.bindings session.attempt = .ok prompt)
      (same :
        session.step.session =
          { session with
            lastPrompt := some prompt
            metrics := { session.metrics with steps := session.metrics.steps + 1 }
            answers := left })
      (written : chunks session.step.events = [prompt.render])
      (reported : reports session.step.events = [])
      (spent : Answers.SpentOn session.current node session.answers left fault)

/-- A step that fails at a node has shown a prompt there and blames what it read. -/
theorem footprint_of_standing
    (standing : session.currentNode = .ok (some node))
    (failed : session.step.fault = some fault) :
    session.Footprint fault := by
  obtain ⟨asks, blames⟩ := (fault_step_iff standing fault).mp failed
  obtain ⟨prompt, _, shows⟩ := exists_turn_of_upcoming standing asks
  have response :
      node.body.respond session.current session.attempt session.answers.read.1 = .fail fault :=
    Response.eq_fail_of_fault? ((Node.Body.fault_respond_iff _ _ _ _ fault).mpr blames)
  have stepped := step_of_shows standing shows
  rw [response] at stepped
  refine .shown node prompt session.answers.read.2 standing ?_ ?_ ?_ ?_ ?_
  · exact Node.Body.prompt_of_shows shows
  · rw [stepped]
    rfl
  · rw [stepped]
    rfl
  · rw [stepped]
    rfl
  · exact Answers.spentOn_of_blames blames

/-- Whatever session a step is made in, if it fails it leaves no more behind than this. -/
theorem footprint_of_failed
    (session : Session)
    {fault : SessionFault}
    (failed : session.step.fault = some fault) :
    session.Footprint fault := by
  rcases session.standing_or_nowhere with ⟨node, standing⟩ | ⟨reason, nowhere, stepped⟩
  · exact footprint_of_standing standing failed
  · have same : reason = fault := by
      rw [stepped] at failed
      exact Option.some.inj failed
    subst same
    exact .nothing nowhere (by rw [stepped]) (by rw [stepped])

/--
A session sent by hand to the last node, counted from the end, with an answer that is too
long.
-/
def sentToLast : Session :=
  (((fresh (.ofList [overlongOnes, "1"])).begin oneChoice).bind "WAY" "by hand").goTo (-1)

/-- The node is there, and it is the answer that makes the step fail. -/
theorem footprint_of_failed_sentToLast :
    sentToLast.step.fault =
        some (.numeral (.overlong (trimLineEnd overlongOnes).toList.length)) ∧
      sentToLast.Footprint (.numeral (.overlong (trimLineEnd overlongOnes).toList.length)) := by
  have standing : ∃ node, sentToLast.currentNode = .ok (some node) ∧ node.kind = .branching :=
    ⟨_, rfl, rfl⟩
  obtain ⟨node, standing, branching⟩ := standing
  have overlong : Numeral.Overlong (trimLineEnd overlongOnes) := by
    rw [trimLineEnd_overlongOnes]
    exact overlong_overlongOnes
  have failed :
      sentToLast.step.fault =
        some (.numeral (.overlong (trimLineEnd overlongOnes).toList.length)) :=
    (fault_step_iff standing _).mpr ⟨rfl, .overlong branching overlong⟩
  exact ⟨failed, footprint_of_failed sentToLast failed⟩

/-! ## The step that a run fails at -/

/-- Whether a session that goes on comes to a node that blames what it then reads. -/
inductive ComesToBlame (session : Session) (fault : SessionFault) : Prop where
  | after
      {count : Nat}
      {events : List Event}
      {waiting : Session}
      {node : Node}
      (passage : Passage session count events waiting)
      (running : waiting.halted = false)
      (standing : waiting.currentNode = .ok (some node))
      (asks : waiting.upcoming.isSome = true)
      (blames : node.body.Blames waiting.current waiting.answers.read.1 fault)

/-- A run of a session that plays a script fails just when it comes to a node that finds a fault. -/
theorem run_failed_iff
    {script : Script}
    (plays : session.Plays script) :
    session.run.ending = .failed fault ↔ session.ComesToBlame fault := by
  constructor
  · intro failed
    rw [run_of_taken plays.1] at failed
    obtain ⟨count, events, waiting, passage, running, blamed, _⟩ := exists_passage_of_failed failed
    obtain ⟨_, node, _, _, _, standing⟩ := (passage.plays plays).standing running
    obtain ⟨asks, blames⟩ := (fault_step_iff standing fault).mp blamed
    exact .after passage running standing asks blames
  · rintro ⟨passage, running, standing, asks, blames⟩
    rename_i count events waiting node
    have blamed : waiting.step.fault = some fault :=
      (fault_step_iff standing fault).mpr ⟨asks, blames⟩
    have failed : (session.runWithin (count + 1)).ending = .failed fault := by
      rw [passage.ending_runWithin, runWithin_of_failed running blamed]
    have ends : (session.runWithin (count + 1)).ending ≠ .endless := by
      rw [failed]
      exact Ending.noConfusion
    rw [run_eq_of_ends plays ends]
    exact failed

end Session

end Dialog
