import Dialog.Proofs.Outcome
import Dialog.Proofs.Session.Journey
import Dialog.Proofs.Session.Resumption

namespace Dialog

/-!
# The balance of a session's counts

Each step that is made at a node is counted once, and comes to one of four ends: a
move, a rejection, a blank answer that leaves a question in place, or a fault. It
reads one answer unless its question has no prompts or the answers have run out.
Added up over the steps of a history (`stepsOf`), this balances what a session
counts, whatever kind of step it counts where.
-/

/-- The node that an event enters; the end of a session is no node. -/
def Event.entry? : Event → Option Nat
  | .moved _ target => if target = terminal then none else some target
  | _ => none

/-- Whether a response asks a question once more. -/
def Response.isStay : Response → Bool
  | .stay => true
  | _ => false

/-- What a response reports to the player. -/
def Response.report? : Response → Option String
  | .reject answer reason => some (reason.message answer)
  | _ => none

/-- One answer is read, unless there is none. -/
theorem Answers.consumed_read
    {answers : Answers}
    (uninterrupted : answers.interruptIn = none) :
    answers.read.2.consumed + (decide (answers.read.1 = .closed)).toNat =
      answers.consumed + 1 := by
  obtain ⟨unread, consumed, interruptIn⟩ := answers
  obtain rfl : interruptIn = none := uninterrupted
  cases unread <;> rfl

namespace Session

variable {script : Script} {session begun last : Session} {made : List Session}
  {events : List Event}

/-- The nodes that events enter, in order. -/
def entries (events : List Event) : List Nat :=
  events.filterMap Event.entry?

/-- Whether a step at a session is counted: there is a node to make it at. -/
def isCounted (session : Session) : Bool :=
  match session.currentNode with
  | .ok (some _) => true
  | _ => false

/-- Whether a step at a session fails after it was counted. -/
def failsCounted (session : Session) : Bool :=
  session.isCounted && session.step.fault.isSome

/-- Whether a step at a session reads a blank answer that leaves its question in place. -/
def staysBlank (session : Session) : Bool :=
  match session.currentNode, session.answers.read.1 with
  | .ok (some ⟨.question _ _ _ prompts, _⟩), .line raw =>
      (trimLineEnd raw).isEmpty && decide (session.attempt + 1 < prompts.length)
  | _, _ => false

/-- Whether a session stands at a question without prompts. -/
def asksNothing (session : Session) : Bool :=
  match session.currentNode with
  | .ok (some node) => node.body.isPromptless
  | _ => false

/-- Whether a step at a session shows a prompt and finds no answer to read. -/
def findsClosed (session : Session) : Bool :=
  session.upcoming.isSome && decide (session.answers.read.1 = .closed)

/-- The nodes entered in two parts are those of the one and then those of the other. -/
theorem entries_append
    (earlier later : List Event) :
    entries (earlier ++ later) = entries earlier ++ entries later :=
  List.filterMap_append ..

/-- The moves among events tell all nodes that were entered. -/
theorem entries_moves
    (events : List Event) :
    entries (moves events) = entries events := by
  unfold entries moves
  rw [List.filterMap_filter]
  apply List.filterMap_congr
  intro event _
  cases event <;> rfl

/-- The end of a run enters no node. -/
theorem entries_closing
    (session : Session)
    (ending : Ending) :
    entries (session.closing ending) = [] := by
  cases ending <;> rfl

/-- The end of a run reports nothing. -/
theorem reports_closing
    (session : Session)
    (ending : Ending) :
    reports (session.closing ending) = [] := by
  cases ending <;> rfl

/-! ## One step -/

/-- The turn of a node comes to one of its four ends. -/
theorem outcome_conclude
    (session : Session)
    (kind : Node.Kind)
    (before : List Event)
    (response : Response) :
    (session.conclude kind before response).session.metrics.transitions +
          (session.conclude kind before response).session.metrics.invalidInputs +
          response.isStay.toNat + response.fault?.isSome.toNat =
      session.metrics.transitions + session.metrics.invalidInputs + 1 := by
  cases response with
  | stay | fail => rfl
  | move | accept => exact Nat.add_right_comm _ 1 _
  | reject => rfl

/-- A turn reports what its response reports. -/
theorem reports_conclude
    (session : Session)
    (kind : Node.Kind)
    (shown : List Prompt)
    (response : Response) :
    reports (session.conclude kind (shown.map Event.shown) response).events =
      response.report?.toList := by
  have silent : reports (shown.map Event.shown) = [] := by
    simp [reports, Event.report?]
  cases response <;>
    simp only [conclude, carryOut, Response.fault?, reports_append, silent, List.nil_append] <;> rfl

/-- A step counts as many rejections as it reports. -/
theorem rejections_conclude
    (session : Session)
    (kind : Node.Kind)
    (shown : List Prompt)
    (response : Response) :
    (session.conclude kind (shown.map Event.shown) response).session.metrics.invalidInputs =
      session.metrics.invalidInputs +
        (reports (session.conclude kind (shown.map Event.shown) response).events).length := by
  rw [reports_conclude]
  cases response <;> rfl

/-- Wherever a session is, a step counts a rejection for each report. -/
theorem Plays.rejections_step
    (plays : session.Plays script) :
    session.step.session.metrics.invalidInputs =
      session.metrics.invalidInputs + (reports session.step.events).length := by
  cases ended : session.halted with
  | true =>
      rw [step_of_halted plays.1 ended]
      rfl
  | false =>
      obtain ⟨_, _, _, _, _, standing⟩ := plays.standing ended
      obtain ⟨_, _, _, _, _, stepped⟩ := step_standing standing
      rw [stepped]
      exact rejections_conclude _ _ _ _

/-- A question is asked once more just when a blank answer leaves it in place. -/
theorem isStay_respond
    {node : Node}
    (standing : session.currentNode = .ok (some node)) :
    (node.body.respond session.current session.attempt session.answers.read.1).isStay =
      session.staysBlank := by
  obtain ⟨body, line⟩ := node
  unfold staysBlank
  rw [standing]
  cases reading : session.answers.read.1 with
  | interrupted => cases body <;> rfl
  | closed => cases body <;> rfl
  | line raw =>
      cases body with
      | question success fail name prompts =>
          simp only [Node.Body.respond, Node.Body.answerQuestion]
          by_cases blank : (trimLineEnd raw).isEmpty = true
          · by_cases more : session.attempt + 1 < prompts.length <;>
              simp [blank, more, Response.isStay]
          · simp [blank, Response.isStay]
      | branching name asked options nonempty =>
          simp only [Node.Body.respond, Node.Body.answerBranching]
          cases Choice.select options (trimLineEnd raw) <;> rfl
      | terminating message => rfl

/-- What a step adds to the counts of a session. -/
structure StepBalances (session : Session) : Prop where
  steps :
    session.step.session.metrics.steps = session.metrics.steps + session.isCounted.toNat
  outcome :
    session.step.session.metrics.transitions + session.step.session.metrics.invalidInputs +
          session.staysBlank.toNat + session.failsCounted.toNat =
      session.metrics.transitions + session.metrics.invalidInputs + session.isCounted.toNat
  rejections :
    session.step.session.metrics.invalidInputs =
      session.metrics.invalidInputs + (reports session.step.events).length
  consumed :
    session.step.session.answers.consumed + session.asksNothing.toNat +
          session.findsClosed.toNat =
      session.answers.consumed + session.isCounted.toNat

/-- A step that finds the session ended changes none of the counts. -/
theorem stepBalances_of_nowhere
    (nowhere : session.currentNode = .ok none) :
    session.StepBalances := by
  have silent : session.upcoming = none := by simp [upcoming, nowhere]
  have unmade : session.step = ⟨session, [], some .finished⟩ := by simp [step, nowhere]
  refine ⟨?_, ?_, ?_, ?_⟩ <;> rw [unmade]
  · simp [isCounted, nowhere]
  · simp [isCounted, staysBlank, failsCounted, nowhere]
  · rfl
  · simp [isCounted, asksNothing, findsClosed, nowhere, silent]

/-- A step that leaves a promptless question counts one step and one move. -/
theorem stepBalances_of_leaves
    {node : Node}
    {destination : Nat}
    (standing : session.currentNode = .ok (some node))
    (promptless : node.body.isPromptless = true)
    (leaves : node.body.turn session.bindings session.attempt = .leaves destination) :
    session.StepBalances := by
  have silent : session.upcoming = none := by simp [upcoming, standing, leaves]
  have counted : session.isCounted = true := by simp [isCounted, standing]
  have unasked : session.asksNothing = true := by simp [asksNothing, standing, promptless]
  have unclosed : session.findsClosed = false := by simp [findsClosed, silent]
  have moves : session.staysBlank = false := by
    obtain ⟨body, line⟩ := node
    cases body with
    | question success fail name prompts =>
        obtain rfl : prompts = [] := List.isEmpty_iff.mp promptless
        unfold staysBlank
        rw [standing]
        split <;> simp_all
    | branching | terminating => cases promptless
  have stepped := step_of_leaves standing leaves
  have passes : session.failsCounted = false := by
    simp [failsCounted, stepped, conclude, Response.fault?]
  refine ⟨?_, ?_, ?_, ?_⟩
  · rw [stepped, steps_conclude, counted]
    rfl
  · rw [stepped, moves, passes, counted]
    exact outcome_conclude session.countStep node.kind [] (.move destination)
  · rw [stepped]
    exact rejections_conclude session.countStep node.kind [] (.move destination)
  · rw [stepped, answers_conclude, unasked, unclosed, counted]
    rfl

/-- A step that shows a prompt counts one step, and at most one answer read. -/
theorem stepBalances_of_shows
    {node : Node}
    {prompt : Prompt}
    (uninterrupted : session.answers.interruptIn = none)
    (standing : session.currentNode = .ok (some node))
    (shows : node.body.turn session.bindings session.attempt = .shows prompt) :
    session.StepBalances := by
  have asked : session.upcoming = some prompt := by simp [upcoming, standing, shows]
  have counted : session.isCounted = true := by simp [isCounted, standing]
  have asking : session.asksNothing = false := by
    simp [asksNothing, standing, Node.Body.isPromptless_of_shows shows]
  have stepped := step_of_shows standing shows
  have stays := isStay_respond standing
  have fails :
      (node.body.respond session.current session.attempt session.answers.read.1).fault?.isSome =
        session.failsCounted := by
    rw [failsCounted, counted, stepped]
    rfl
  refine ⟨?_, ?_, ?_, ?_⟩
  · rw [stepped, steps_conclude, counted]
    rfl
  · rw [stepped, ← stays, ← fails, counted]
    exact outcome_conclude (session.countStep.read prompt) node.kind [.shown prompt] _
  · rw [stepped]
    exact rejections_conclude (session.countStep.read prompt) node.kind [prompt] _
  · have closed : session.findsClosed = decide (session.answers.read.1 = .closed) := by
      simp [findsClosed, asked]
    rw [stepped, answers_conclude, asking, closed, counted]
    exact Answers.consumed_read uninterrupted

/-- Each step of a session in play balances. -/
theorem Plays.stepBalances
    (plays : session.Plays script)
    (uninterrupted : session.answers.interruptIn = none) :
    session.StepBalances := by
  obtain ⟨taken, placed⟩ := plays
  cases placed with
  | ended atEnd first => exact stepBalances_of_nowhere (currentNode_of_ended taken atEnd)
  | standing id node here present fits =>
      have standing := currentNode_of_standing taken here present
      rcases Node.Body.turn_of_fits fits session.bindings with
          ⟨prompt, shows, _⟩ | ⟨promptless, destination, leaves⟩
      · exact stepBalances_of_shows uninterrupted standing shows
      · exact stepBalances_of_leaves standing promptless leaves

/-- What a step adds to the visits of a session. -/
structure StepEnters (session : Session) : Prop where
  visits :
    ∀ entered, Visits.Counts session.metrics.visits entered →
      Visits.Counts session.step.session.metrics.visits (entered ++ entries session.step.events)
  entered :
    session.step.session.metrics.transitions + (if session.halted then 1 else 0) =
      session.metrics.transitions + (entries session.step.events).length +
        (if session.step.session.halted then 1 else 0)
  current :
    session.step.session.halted = false →
      (session.halted = false ∧ session.step.session.current = session.current) ∨
        ∃ target ∈ entries session.step.events, session.step.session.current = target

/-- A step that stays where it is enters no node. -/
theorem Rests.entries_eq
    (rests : session.Rests) :
    entries session.step.events = [] := by
  rw [← entries_moves, rests.moves]
  rfl

/-- A move enters its target, unless that is the end. -/
theorem Moves.entries_eq
    {source target : Nat}
    (moves : session.Moves script source target) :
    entries session.step.events = if target = terminal then [] else [target] := by
  rw [← entries_moves, moves.moves]
  by_cases ends : target = terminal <;> simp [entries, Event.entry?, ends]

/-- A step that stays where it is counts no visit. -/
theorem Rests.stepEnters
    (rests : session.Rests) :
    session.StepEnters := by
  have nowhere := rests.entries_eq
  have sameHalted : session.step.session.halted = session.halted := by
    rw [Session.halted, rests.current]
    rfl
  refine ⟨?_, ?_, ?_⟩
  · intro entered counts
    rw [nowhere, List.append_nil, rests.visits]
    exact counts
  · rw [nowhere, rests.transitions, sameHalted]
    rfl
  · rw [sameHalted]
    exact fun running => Or.inl ⟨running, rests.current⟩

/-- A move counts a visit to its target, unless that is the end. -/
theorem Moves.stepEnters
    {source target : Nat}
    (moves : session.Moves script source target) :
    session.StepEnters := by
  have running : session.halted = false := by
    obtain ⟨node, present, _⟩ := moves.edge
    exact halted_of_standing moves.here present
  have came := moves.entries_eq
  by_cases ends : target = terminal
  · have atEnd : session.step.session.halted = true := by
      simp [Session.halted, moves.there, ends]
    have nowhere : entries session.step.events = [] := by rw [came, if_pos ends]
    refine ⟨?_, ?_, ?_⟩
    · intro entered counts
      rw [nowhere, List.append_nil, moves.visits, if_pos ends]
      exact counts
    · rw [nowhere, moves.transitions, running, atEnd]
      rfl
    · rw [atEnd]
      intro goesOn
      cases goesOn
  · have goesOn : session.step.session.halted = false := by
      have apart : (target : Int) ≠ terminal := fun same => ends (Int.ofNat_inj.mp same)
      simp [Session.halted, moves.there, apart]
    have entry : entries session.step.events = [target] := by rw [came, if_neg ends]
    refine ⟨?_, ?_, ?_⟩
    · intro entered counts
      rw [entry, moves.visits, if_neg ends]
      exact counts.enter target
    · rw [entry, moves.transitions, running, goesOn]
      rfl
    · intro _
      exact Or.inr ⟨target, by simp [entry], moves.there⟩

/-- Each step of a session in play counts the visits that it makes. -/
theorem Plays.stepEnters
    (plays : session.Plays script) :
    session.StepEnters := by
  rcases rests_or_moves plays with rests | ⟨source, target, moves⟩
  · exact rests.stepEnters
  · exact moves.stepEnters

/--
The nodes that a session has entered: its visits count them, and each but the first took a
move.
-/
structure Entered (session : Session) (nodes : List Nat) : Prop where
  visits : Visits.Counts session.metrics.visits nodes
  total :
    nodes.length + (if session.halted then 1 else 0) = session.metrics.transitions + 1

/-- A session that has just begun has entered node 0 once. -/
theorem entered_begin
    (prior : Session)
    (script : Script) :
    (prior.begin script).Entered [0] where
  visits := Visits.counts_first 0
  total := rfl

/-- After one more step, the visits counted are those made before and those of the step. -/
theorem Entered.step
    {nodes : List Nat}
    (entered : session.Entered nodes)
    (plays : session.Plays script) :
    session.step.session.Entered (nodes ++ entries session.step.events) := by
  have enters := plays.stepEnters
  refine ⟨enters.visits nodes entered.visits, ?_⟩
  have before := entered.total
  have moved := enters.entered
  rw [List.length_append]
  omega

/-! ## A whole history -/

/--
The balance of a session that has gone on since it was begun, by steps made at the
sessions `made` and with these events. Its visits count the nodes entered so far,
of which node 0 is the first.
-/
structure Balances (begun last : Session) (made : List Session) (events : List Event) : Prop where
  visits : Visits.Counts last.metrics.visits (0 :: entries events)
  entered :
    (last.metrics.visits.map Prod.snd).sum + (if last.halted then 1 else 0) =
      last.metrics.transitions + 1
  current :
    last.halted = false →
      ∃ id : Nat, last.current = id ∧ id ∈ last.metrics.visits.map Prod.fst
  steps :
    last.metrics.steps =
      last.metrics.transitions + last.metrics.invalidInputs + made.countP staysBlank +
        made.countP failsCounted
  rejections : last.metrics.invalidInputs = (reports events).length
  consumed :
    last.answers.consumed + made.countP asksNothing + made.countP findsClosed =
      begun.answers.consumed + last.metrics.steps

/-- A session that has just begun is balanced. -/
theorem balances_begin
    (prior : Session)
    (script : Script) :
    Balances (prior.begin script) (prior.begin script) [] [] where
  visits := Visits.counts_first 0
  entered := rfl
  current := fun _ => ⟨0, rfl, List.mem_singleton_self 0⟩
  steps := rfl
  rejections := rfl
  consumed := rfl

/-- One more step keeps the balance. -/
theorem Balances.step
    (balances : Balances begun last made events)
    (plays : last.Plays script)
    (uninterrupted : last.answers.interruptIn = none) :
    Balances begun last.step.session (made ++ [last]) (events ++ last.step.events) := by
  have step := plays.stepBalances uninterrupted
  have enters := plays.stepEnters
  have soFar : last.Entered (0 :: entries events) :=
    ⟨balances.visits, by rw [← balances.visits.total]; exact balances.entered⟩
  have entered : last.step.session.Entered (0 :: entries (events ++ last.step.events)) := by
    rw [entries_append, ← List.cons_append]
    exact soFar.step plays
  have visits := entered.visits
  have countedOnce : ∀ kind : Session → Bool,
      (made ++ [last]).countP kind = made.countP kind + (kind last).toNat := by
    intro kind
    rw [List.countP_append, List.countP_singleton]
    cases kind last <;> rfl
  refine ⟨visits, ?_, ?_, ?_, ?_, ?_⟩
  · rw [visits.total]
    exact entered.total
  · intro running
    rcases enters.current running with ⟨wasRunning, same⟩ | ⟨target, entered, there⟩
    · obtain ⟨id, here, visited⟩ := balances.current wasRunning
      refine ⟨id, same.trans here, (visits.mem_ids_iff id).mpr ?_⟩
      rw [entries_append, ← List.cons_append]
      exact List.mem_append_left _ ((balances.visits.mem_ids_iff id).mp visited)
    · refine ⟨target, there, (visits.mem_ids_iff target).mpr ?_⟩
      rw [entries_append, ← List.cons_append]
      exact List.mem_append_right _ entered
  · have before := balances.steps
    have counted := step.steps
    have outcome := step.outcome
    rw [countedOnce, countedOnce]
    omega
  · rw [step.rejections, balances.rejections, reports_append, List.length_append]
  · have before := balances.consumed
    have counted := step.steps
    have read := step.consumed
    rw [countedOnce, countedOnce]
    omega

/-- To be fed keeps the balance, for nothing is counted. -/
theorem Balances.feed
    (balances : Balances begun last made events)
    (lines : List String) :
    Balances begun (last.feed lines) made events := by
  obtain ⟨visits, entered, current, steps, rejections, consumed⟩ := balances
  exact ⟨visits, entered, current, steps, rejections, consumed⟩

/-- The end of a run keeps the balance, for nothing is counted. -/
theorem Balances.close
    (balances : Balances begun last made events)
    (ending : Ending) :
    Balances begun last made (events ++ last.closing ending) := by
  obtain ⟨visits, entered, current, steps, rejections, consumed⟩ := balances
  refine ⟨?_, entered, current, steps, ?_, consumed⟩
  · rw [entries_append, entries_closing, List.append_nil]
    exact visits
  · rw [reports_append, reports_closing, List.append_nil]
    exact rejections

/-- Steps of any number keep the balance. -/
theorem Itinerary.balances
    (balanced : Balances begun begun [] [])
    (plays : begun.Plays script)
    (uninterrupted : begun.answers.interruptIn = none)
    (itinerary : Itinerary begun made events last) :
    Balances begun last made events := by
  induction itinerary with
  | here => exact balanced
  | step onTheWay inductionHypothesis =>
      have course := onTheWay.course
      have stillUninterrupted :=
        course.keeps (fun other => other.answers.interruptIn = none)
          (fun _ => uninterrupted_step) (fun _ _ => id) uninterrupted
      exact inductionHypothesis.step (plays.course course) stillUninterrupted
  | feed lines _ inductionHypothesis => exact inductionHypothesis.feed lines
  | close ending _ inductionHypothesis => exact inductionHypothesis.close ending

/-- An operation that begins a session at node 0 of a script. -/
inductive Begins (prior : Session) : Operation → Script → Prop where
  | load {text : String} {script : Script} :
      Script.load text = .ok script → Begins prior (.load text) script
  | take {script : Script} : 0 < script.size → Begins prior (.take script) script
  | start {script : Script} :
      prior.script = some script → 0 < script.size → Begins prior .start script

/-- What begins a session takes up a script with a node to start at. -/
theorem Begins.playable
    {prior : Session}
    {opening : Operation}
    (begins : prior.Begins opening script) :
    0 < script.size := by
  cases begins with
  | load loaded => exact (Script.load_eq_ok_iff.mp loaded).2
  | take playable => exact playable
  | start taken playable => exact playable

/-- What begins a session leaves it at the beginning of the script. -/
theorem Begins.perform
    {prior : Session}
    {opening : Operation}
    (begins : prior.Begins opening script) :
    (prior.perform opening).session = prior.begin script := by
  cases begins with
  | load loaded => simp only [Session.perform, Session.load, loaded]
  | take => rfl
  | start taken => simp only [Session.perform, Session.begin, Session.start, taken]

/--
However a session goes on from where it was begun, it counts each step, each
answer, each report and each entry of a node once. A run is as many steps, so its
inner points are those of a history that makes the steps one by one.
-/
theorem metrics_balance
    (prior : Session)
    (uninterrupted : prior.answers.interruptIn = none)
    {opening : Operation}
    {script : Script}
    (begins : prior.Begins opening script)
    {history : List Operation}
    (advancing : ∀ operation ∈ history, operation.Advances) :
    Balances (prior.perform opening).session ((prior.perform opening).session.after history)
      ((prior.perform opening).session.stepsOf history)
      ((prior.perform opening).session.eventsOf history) := by
  rw [begins.perform]
  exact Itinerary.balances (balances_begin prior script) (prior.plays_begin begins.playable)
    uninterrupted (itinerary_of_advancing advancing (prior.begin script))

/-- A question without prompts, a choice, a question with a second try, and a farewell. -/
def everyTurn : Script where
  nodes :=
    #[⟨.question 1 1 "NAME" [], none⟩,
      ⟨.branching "WAY" "Where to?" [⟨"out", 3⟩, ⟨"in", 2⟩] (List.cons_ne_nil _ _), none⟩,
      ⟨.question 3 1 "NAME" ["Who?", "Please?"], none⟩,
      ⟨.terminating "Bye $NAME", none⟩]
  size_le := by decide
  closed := by simp [Node.destinations, Node.Body.destinations]

/--
The session is left where the answers run out, is fed more, gives the question up,
ends with no answer left, and is then stepped once too often.
-/
theorem metrics_balance_everyTurn :
    Balances ((fresh (.ofList ["x", "2", ""])).perform (.take everyTurn)).session
      (((fresh (.ofList ["x", "2", ""])).perform (.take everyTurn)).session.after
        [.run, .feed ["", "1"], .run, .step])
      (((fresh (.ofList ["x", "2", ""])).perform (.take everyTurn)).session.stepsOf
        [.run, .feed ["", "1"], .run, .step])
      (((fresh (.ofList ["x", "2", ""])).perform (.take everyTurn)).session.eventsOf
        [.run, .feed ["", "1"], .run, .step]) :=
  metrics_balance (fresh (.ofList ["x", "2", ""])) rfl
    (.take (by decide : 0 < everyTurn.size)) (by simp [Operation.Advances])

end Session

end Dialog
