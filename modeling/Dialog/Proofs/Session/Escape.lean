import Dialog.Proofs.Session.Asking

namespace Dialog

/-!
# From where a session can end

A session moves only to where an answer leads to, and for each such destination
there are answers that take it there, whatever is to be read after them. So it can
end from a node exactly when edges of this kind lead to the terminal id. The graph
of a script has more edges, and a node that it counts among those with a way out
may have none; where every destination listed is one that an answer leads to, the
trapped nodes are just those from which no session ends.
-/

/-- A response that leads on reports nothing. -/
theorem Response.report?_of_destination?
    {response : Response}
    {destination : Nat}
    (goes : response.destination? = some destination) :
    response.report? = none := by
  cases response with
  | stay | move | accept | fail => rfl
  | reject => cases goes

namespace Session

variable {script : Script} {session last : Session} {node : Node} {id target length : Nat}
  {events : List Event}

/-! ## Where a session goes -/

/-- A step stays where it is or goes where an answer leads to. -/
theorem stays_or_attains
    (plays : session.Plays script) :
    session.step.session.current = session.current ∨
      ∃ source target : Nat, session.current = source ∧ target ∈ script.attainable source ∧
        session.step.session.current = target := by
  cases ended : session.halted with
  | true =>
      rw [step_of_halted plays.1 ended]
      exact Or.inl rfl
  | false =>
      obtain ⟨source, node, here, present, _, standing⟩ := plays.standing ended
      cases turned : node.body.turn session.bindings session.attempt with
      | leaves destination =>
          refine Or.inr ⟨source, destination, here, ?_, ?_⟩
          · rw [Script.attainable_of_present present]
            exact Node.Body.mem_attainable_of_leaves turned
          · rw [step_of_leaves standing turned]
            rfl
      | shows prompt =>
          rw [step_of_shows standing turned, current_conclude]
          cases goes : (node.body.respond session.current session.attempt
              session.answers.read.1).destination? with
          | none => exact Or.inl rfl
          | some destination =>
              refine Or.inr ⟨source, destination, here, ?_, rfl⟩
              rw [Script.attainable_of_present present]
              exact Node.Body.mem_attainable_of_respond turned goes

/-- However a session goes on, answers lead to where it comes. -/
theorem attainable_of_course
    (plays : session.Plays script)
    (here : session.current = id)
    (course : Course session events last) :
    ∃ length target : Nat, last.current = target ∧ Trail script.attainable id length target := by
  let kept (other : Session) : Prop :=
    other.Plays script ∧
      ∃ length target : Nat, other.current = target ∧ Trail script.attainable id length target
  have stepKeeps : ∀ other, kept other → kept other.step.session := by
    rintro other ⟨otherPlays, length, target, there, trail⟩
    refine ⟨otherPlays.step, ?_⟩
    rcases stays_or_attains otherPlays with stays | ⟨source, next, from_, leads, arrives⟩
    · exact ⟨length, target, stays.trans there, trail⟩
    · obtain rfl : source = target := Int.ofNat_inj.mp (from_.symm.trans there)
      exact ⟨length + 1, next, arrives, trail.onward leads⟩
  have feedKeeps : ∀ other lines, kept other → kept (other.feed lines) := by
    rintro other lines ⟨otherPlays, trail⟩
    exact ⟨otherPlays.feed lines, trail⟩
  exact (Course.keeps kept stepKeeps feedKeeps course ⟨plays, 0, id, here, .here⟩).2

/-! ## Answers that take a session there -/

/-- A session at the first attempt of an id, with these lines to read. -/
structure Awaits (script : Script) (id : Nat) (unread : List String) (session : Session) :
    Prop where
  plays : session.Plays script
  here : session.current = id
  first : session.attempt = 0
  uninterrupted : session.answers.interruptIn = none
  unread : session.answers.unread = unread

/--
Whether a session passes, with these moves and without a report, to the first attempt
of an id, where these lines are left to be read.
-/
def PassesTo
    (script : Script)
    (session : Session)
    (way : List Event)
    (target : Nat)
    (rest : List String) :
    Prop :=
  ∃ count events next, Passage session count events next ∧ Awaits script target rest next ∧
    moves events = way ∧ reports events = []

/--
Whether reading lines takes a session, with these moves, from the first attempt of one id to
another's.
-/
def LeadsTo
    (script : Script)
    (id : Nat)
    (lines : List String)
    (way : List Event)
    (target : Nat) :
    Prop :=
  ∀ session rest, Awaits script id (lines ++ rest) session →
    PassesTo script session way target rest

/-- Answers that lead somewhere are followed by answers that lead on from there. -/
theorem LeadsTo.trans
    {middle : Nat}
    {lines more : List String}
    {way onward : List Event}
    (begun : LeadsTo script id lines way middle)
    (continued : LeadsTo script middle more onward target) :
    LeadsTo script id (lines ++ more) (way ++ onward) target := by
  intro session rest awaits
  rw [List.append_assoc] at awaits
  obtain ⟨count, events, between, passage, awaitsMore, moved, silent⟩ :=
    begun session (more ++ rest) awaits
  obtain ⟨later, laterEvents, next, laterPassage, awaitsRest, laterMoved, laterSilent⟩ :=
    continued between rest awaitsMore
  refine ⟨_, _, next, passage.trans laterPassage, awaitsRest, ?_, ?_⟩
  · rw [moves_append, moved, laterMoved]
  · rw [reports_append, silent, laterSilent, List.append_nil]

/-- A node that shows a prompt takes the next answer and leaves the others. -/
theorem answers_step_of_line
    {prompt : Prompt}
    {line : String}
    {rest : List String}
    (standing : session.currentNode = .ok (some node))
    (uninterrupted : session.answers.interruptIn = none)
    (unread : session.answers.unread = line :: rest)
    (shows : node.body.turn session.bindings session.attempt = .shows prompt) :
    session.step.session.answers = ⟨rest, session.answers.consumed + 1, none⟩ := by
  rw [step_of_shows standing shows, answers_conclude]
  exact congrArg Prod.snd (Answers.read_of_unread uninterrupted unread)

/-- A step that reads a line and moves goes to where the response leads. -/
theorem passesTo_of_response
    {prompt : Prompt}
    {line : String}
    {rest : List String}
    (plays : session.Plays script)
    (here : session.current = id)
    (present : script.nodes[id]? = some node)
    (uninterrupted : session.answers.interruptIn = none)
    (unread : session.answers.unread = line :: rest)
    (shows : node.body.turn session.bindings session.attempt = .shows prompt)
    (goes :
      (node.body.respond session.current session.attempt (.line line)).destination? =
        some target) :
    PassesTo script session [.moved id target] target rest := by
  have running : session.halted = false := halted_of_standing here present
  have standing := currentNode_of_standing plays.1 here present
  have read := answers_step_of_line standing uninterrupted unread shows
  have stepped := step_of_shows standing shows
  rw [Answers.read_of_unread uninterrupted unread] at stepped
  generalize node.body.respond session.current session.attempt (.line line) = response
    at goes stepped
  have passed : session.step.fault = none := by
    rw [stepped]
    cases response with
    | stay | move | accept | reject => rfl
    | fail => cases goes
  have moved : moves session.step.events = [.moved id target] := by
    have carried := moves_of_response (session.countStep.read prompt) node.kind [prompt] response
    rw [goes] at carried
    rw [stepped, ← here]
    exact carried
  have silent : reports session.step.events = [] := by
    have reported := reports_conclude (session.countStep.read prompt) node.kind [prompt] response
    rw [Response.report?_of_destination? goes] at reported
    rw [stepped]
    exact reported
  refine ⟨1, _, session.step.session, .single running passed, ⟨plays.step, ?_, ?_, ?_, ?_⟩,
    moved, silent⟩
  · rw [stepped, current_conclude, goes]
    rfl
  · rw [stepped]
    cases response with
    | stay | reject | fail => cases goes
    | move | accept => rfl
  · rw [read]
  · rw [read]

/-- A line to which a node, at its first attempt, responds by a move leads to where that goes. -/
theorem leadsTo_of_response
    {line : String}
    (present : script.nodes[id]? = some node)
    (shows : ∀ bindings, ∃ prompt, node.body.turn bindings 0 = .shows prompt)
    (goes : ∀ place, (node.body.respond place 0 (.line line)).destination? = some target) :
    LeadsTo script id [line] [.moved id target] target := by
  rintro session rest ⟨plays, here, first, uninterrupted, unread⟩
  obtain ⟨prompt, shown⟩ := shows session.bindings
  rw [← first] at shown goes
  exact passesTo_of_response plays here present uninterrupted unread shown (goes _)

/-- A question is left for its failure when as many blank lines are read as it has prompts. -/
theorem leadsTo_failure
    {success fail : Nat}
    {name : String}
    {prompts : List String}
    {line : Option Int}
    (present : script.nodes[id]? = some ⟨.question success fail name prompts, line⟩) :
    LeadsTo script id (List.replicate prompts.length "") [.moved id fail] fail := by
  rintro session rest ⟨plays, here, first, uninterrupted, unread⟩
  have standing := currentNode_of_standing plays.1 here present
  obtain ⟨left, yields, leftUninterrupted, leftUnread⟩ :=
    Answers.exists_yields uninterrupted unread
  have blank : ∀ line ∈ List.replicate prompts.length "", IsBlankLine line := by
    intro line listed
    rw [List.eq_of_mem_replicate listed]
    exact trimLineEnd_eq_empty_iff.mp rfl
  obtain ⟨next, ⟨events, passage, _, moved, silent⟩, leaves⟩ :=
    exists_leavesFor_failure standing first yields blank List.length_replicate
  have goesOnPlaying := passage.plays plays
  refine ⟨_, events, next, passage, ⟨goesOnPlaying, leaves.current, leaves.attempt, ?_, ?_⟩, ?_,
    silent⟩
  · rw [leaves.answers]
    exact leftUninterrupted
  · rw [leaves.answers]
    exact leftUnread
  · rw [moved, here]

/--
For every destination that an answer leads to there are lines that take a session there at
once.
-/
theorem exists_leadsTo
    (leads : target ∈ script.attainable id) :
    ∃ lines, LeadsTo script id lines [.moved id target] target := by
  cases present : script.nodes[id]? with
  | none => simp [Script.attainable, present] at leads
  | some node =>
      rw [Script.attainable_of_present present] at leads
      obtain ⟨body, line⟩ := node
      cases body with
      | question success fail name prompts =>
          rcases Node.Body.mem_attainable_question_iff.mp leads with rfl | ⟨prompted, rfl⟩
          · exact ⟨_, leadsTo_failure present⟩
          · have shown : 0 < prompts.length := List.length_pos_iff.mpr prompted
            have shows :
                ∀ bindings, ∃ prompt,
                  Node.Body.turn bindings 0 (.question target fail name prompts) = .shows prompt :=
              fun bindings => ⟨_, Node.Body.turn_question_of_lt target fail name bindings shown⟩
            exact ⟨["."], leadsTo_of_response present shows fun _ => rfl⟩
      | branching name asked options nonempty =>
          obtain ⟨choice, listed, rfl⟩ := List.mem_map.mp leads
          obtain ⟨answer, selected⟩ := Choice.exists_select_of_mem_readable listed
          refine ⟨[answer], leadsTo_of_response present (fun _ => ⟨_, rfl⟩) fun place => ?_⟩
          simp [Node.Body.respond, Node.Body.answerBranching, selected, Response.destination?]
      | terminating message =>
          obtain rfl : target = terminal := List.mem_singleton.mp leads
          exact ⟨[""], leadsTo_of_response present (fun _ => ⟨_, rfl⟩) fun _ => rfl⟩

/-- No answers are needed to stay. -/
theorem leadsTo_here (script : Script) (id : Nat) : LeadsTo script id [] [] id :=
  fun session _ awaits => ⟨0, [], session, .here session, awaits, rfl, rfl⟩

/-- Along destinations that answers lead to, there are answers that go the way. -/
theorem exists_leadsTo_of_trail
    (trail : Trail script.attainable id length target) :
    ∃ lines way, LeadsTo script id lines way target := by
  induction trail with
  | here => exact ⟨[], [], leadsTo_here script id⟩
  | onward _ leads inductionHypothesis =>
      obtain ⟨lines, way, begun⟩ := inductionHypothesis
      obtain ⟨more, continued⟩ := exists_leadsTo leads
      exact ⟨_, _, begun.trans continued⟩

/-! ## Ending -/

/-- Whether some finite list of answers takes a session to its end. -/
def CanEnd (session : Session) : Prop :=
  ∃ lines, ({ session with answers := .ofList lines } : Session).run.ending = .halted

/-- A session at the first attempt of a node awaits any answers there. -/
theorem awaits_of_standing
    (inside : id < script.size)
    (taken : session.script = some script)
    (here : session.current = id)
    (first : session.attempt = 0)
    (lines : List String) :
    Awaits script id lines { session with answers := .ofList lines } := by
  refine ⟨⟨taken, .standing id script.nodes[id] here ?_ ?_⟩, here, first, rfl, rfl⟩
  · exact Array.getElem?_eq_getElem inside
  · exact first ▸ Node.Body.fits_zero _

/-- A run of a session that passes to the end on its lines halts there, by the same moves. -/
theorem run_of_passesTo
    {way : List Event}
    {rest : List String}
    (plays : session.Plays script)
    (passes : PassesTo script session way terminal rest) :
    session.run.ending = .halted ∧ Awaits script terminal rest session.run.session ∧
      moves session.run.events = way ∧ reports session.run.events = [] := by
  obtain ⟨count, events, next, passage, arrived, moved, silent⟩ := passes
  have ended : next.halted = true := by simp [halted, arrived.here]
  have ran := passage.runWithin 0
  rw [runWithin_of_halted ended] at ran
  have ends : (session.runWithin (count + 0)).ending ≠ .endless := by
    rw [ran]
    simp [Ran.after]
  rw [run_eq_of_ends plays ends, ran, reports_closed]
  refine ⟨rfl, arrived, ?_, by simpa [Ran.after] using silent⟩
  rw [Ran.closed, moves_append, moves_closing, List.append_nil]
  simpa [Ran.after] using moved

/-- A session can end from a node just when answers lead from it to the terminal id. -/
theorem canEnd_iff_trail
    (inside : id < script.size)
    (taken : session.script = some script)
    (here : session.current = id)
    (first : session.attempt = 0) :
    session.CanEnd ↔ ∃ length, Trail script.attainable id length terminal := by
  constructor
  · rintro ⟨lines, ends⟩
    have awaits := awaits_of_standing inside taken here first lines
    obtain ⟨length, target, there, trail⟩ :=
      attainable_of_course awaits.plays here (run_course _)
    rw [run_of_taken awaits.plays.1] at ends there
    have atEnd := halted_of_runWithin ends
    have arrived : (target : Int) = terminal := by
      simpa [halted, there.symm, Ran.closed] using atEnd
    obtain rfl : target = terminal := Int.ofNat_inj.mp arrived
    exact ⟨length, trail⟩
  · rintro ⟨length, trail⟩
    obtain ⟨lines, _, leadsTo⟩ := exists_leadsTo_of_trail trail
    have awaits := awaits_of_standing inside taken here first lines
    have awaitsAll : Awaits script id (lines ++ []) { session with answers := .ofList lines } := by
      rwa [List.append_nil]
    exact ⟨lines, (run_of_passesTo awaits.plays (leadsTo _ [] awaitsAll)).1⟩

/--
A trapped node is one from which no answers end a session, provided that every
destination which the script lists is one that an answer leads to. Without that
a trapped node is still left by no answers, and a session can end from any node
exactly when edges that answers lead along go from it to the terminal id.
-/
theorem trapped_iff_of_attainable
    (inside : id < script.size)
    (taken : session.script = some script)
    (here : session.current = id)
    (first : session.attempt = 0) :
    (script.IsAttainable → (id ∈ script.graph.trapped ↔ ¬session.CanEnd)) ∧
      (id ∈ script.graph.trapped → ¬session.CanEnd) ∧
        (session.CanEnd ↔ ∃ length, Trail script.attainable id length terminal) := by
  have canEnd := canEnd_iff_trail inside taken here first
  have never : id ∈ script.graph.trapped → ¬session.CanEnd := by
    intro trapped ends
    obtain ⟨length, trail⟩ := canEnd.mp ends
    refine ((script.mem_trapped_iff id).mp trapped).2 ⟨length, trail.mono fun _ _ => ?_⟩
    exact Script.mem_successors_of_attainable
  refine ⟨fun attained => ⟨never, fun stays => ?_⟩, never, canEnd⟩
  refine (script.mem_trapped_iff id).mpr ⟨inside, fun ⟨length, trail⟩ => stays ?_⟩
  exact canEnd.mpr ⟨length, trail.mono fun _ _ => attained.mem_attainable⟩

/-- A way out, and a question that lets nobody go on. -/
def wayOutOrTrap : Script where
  nodes :=
    #[⟨.branching "WAY" "Where to?" [⟨"in", 1⟩, ⟨"out", terminal⟩] (List.cons_ne_nil _ _), none⟩,
      ⟨.question 1 1 "NAME" ["Who?"], none⟩]
  size_le := by decide
  closed := by simp [Node.destinations, Node.Body.destinations]

/-- Every destination of this script is one that an answer leads to. -/
theorem wayOutOrTrap_isAttainable : wayOutOrTrap.IsAttainable := by
  unfold Script.IsAttainable
  decide

/-- The second node of this script is trapped as no session ends from there. -/
theorem trapped_iff_of_attainable_wayOutOrTrap :
    1 ∈ wayOutOrTrap.graph.trapped ↔
      ¬(((fresh (.ofList [])).begin wayOutOrTrap).goTo 1).CanEnd :=
  (trapped_iff_of_attainable (by decide : 1 < wayOutOrTrap.size) rfl rfl rfl).1
    wayOutOrTrap_isAttainable

/-- A question that is never asked, and fails to itself. -/
def neverAsked : Script where
  nodes := #[⟨.question terminal 0 "NAME" [], none⟩]
  size_le := by decide
  closed := by simp [Node.destinations, Node.Body.destinations]

/-- The question is not among the trapped nodes, although no answers end a session there. -/
theorem neverAsked_not_trapped :
    0 ∉ neverAsked.graph.trapped ∧
      ((fresh (.ofList [])).begin neverAsked).current = (0 : Nat) ∧
        ((fresh (.ofList [])).begin neverAsked).attempt = 0 ∧
          ¬((fresh (.ofList [])).begin neverAsked).CanEnd := by
  refine ⟨?_, rfl, rfl, ?_⟩
  · rw [Script.mem_trapped_iff]
    rintro ⟨_, stuck⟩
    have edge : terminal ∈ neverAsked.graph.successors 0 := by
      rw [Script.mem_graph_successors_iff]
      exact ⟨_, rfl, List.mem_cons_self⟩
    exact stuck ⟨1, Trail.here.onward edge⟩
  · rw [canEnd_iff_trail (by decide : 0 < neverAsked.size) rfl rfl rfl]
    rintro ⟨length, trail⟩
    have stays : ∀ {length target}, Trail neverAsked.attainable 0 length target → target = 0 := by
      intro length target trail
      induction trail with
      | here => rfl
      | onward _ leads inductionHypothesis =>
          subst inductionHypothesis
          exact List.mem_singleton.mp leads
    exact absurd (stays trail) (by decide)

end Session

end Dialog
