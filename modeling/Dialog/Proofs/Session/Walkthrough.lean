import Dialog.Proofs.Graph.Route
import Dialog.Proofs.Session.Escape

namespace Dialog

/-!
# Playing the shortest exit

Where every question has a prompt, an answer leads to every destination that a node
lists: as many blank lines as there are prompts make a question fail, any other line
makes it succeed, and a choice is made by its number. So every way along the edges
of a script can be played, edge by edge, by answers that are all accepted, and the
shortest exit is a walkthrough.
-/

/-- The choices that a node offers. -/
def Node.Body.choices : Node.Body → List Choice
  | .branching _ _ options _ => options
  | _ => []

/-- In a list that is no longer than a number that can be read, every choice has such a number. -/
theorem Choice.mem_readable_of_mem
    {options : List Choice}
    {choice : Choice}
    (few : (Numeral.write options.length).length ≤ Numeral.digitLimit)
    (listed : choice ∈ options) :
    choice ∈ readable options := by
  obtain ⟨index, inside, rfl⟩ := List.getElem_of_mem listed
  refine mem_readable_iff.mpr ⟨index + 1, List.getElem?_eq_getElem inside, ?_⟩
  rw [Numeral.write, Nat.length_toDigits_le_iff (by decide) (by decide)] at few ⊢
  exact Nat.lt_of_le_of_lt inside few

namespace Script

variable {script : Script} {id target : Nat} {ids : List Nat}

/--
Where every question has a prompt and every choice a number, answers lead to all
destinations.
-/
theorem isAttainable_of_prompted
    (prompted : ∀ node ∈ script.nodes, node.body.isPromptless = false)
    (few :
      ∀ node ∈ script.nodes,
        (Numeral.write node.body.choices.length).length ≤ Numeral.digitLimit) :
    script.IsAttainable := by
  intro node member destination listed
  have asks := prompted node member
  have numbered := few node member
  obtain ⟨body, line⟩ := node
  cases body with
  | question success fail name prompts =>
      have shown : prompts ≠ [] := by
        rintro rfl
        cases asks
      apply Node.Body.mem_attainable_question_iff.mpr
      rcases List.mem_cons.mp listed with rfl | fails
      · exact Or.inr ⟨shown, rfl⟩
      · exact Or.inl (List.mem_singleton.mp fails)
  | branching name asked options nonempty =>
      obtain ⟨choice, offered, rfl⟩ := List.mem_map.mp listed
      exact List.mem_map_of_mem (Choice.mem_readable_of_mem numbered offered)
  | terminating message => exact listed

theorem IsAttainable.way
    (attained : script.IsAttainable)
    (way : Way script.Edge id target ids) :
    Way (fun one other => other ∈ script.attainable one) id target ids := by
  refine way.mono fun source next edge => attained.mem_attainable ?_
  exact (script.mem_graph_successors_iff source next).mpr edge

end Script

namespace Session

variable {script : Script} {session last : Session} {id target : Nat} {ids : List Nat}
  {events : List Event}

/-- The moves that follow a way, from each of its vertices to the next. -/
def movesAlong : List Nat → List Event
  | source :: target :: rest => .moved source target :: movesAlong (target :: rest)
  | _ => []

theorem length_movesAlong (ids : List Nat) : (movesAlong ids).length = ids.length - 1 := by
  induction ids with
  | nil => rfl
  | cons source rest inductionHypothesis =>
      cases rest with
      | nil => rfl
      | cons target rest => simpa [movesAlong] using inductionHypothesis

/-- Along destinations that answers lead to, there are lines that play the whole way. -/
theorem exists_leadsTo_of_way
    (way : Way (fun one other => other ∈ script.attainable one) id target ids) :
    ∃ lines, LeadsTo script id lines (movesAlong ids) target := by
  induction ids generalizing id with
  | nil => exact absurd rfl way.ne_nil
  | cons head rest inductionHypothesis =>
      obtain ⟨rfl, onward⟩ := way.cases_cons
      rcases onward with ⟨rfl, rfl⟩ | ⟨next, leads, nextHead, restWay⟩
      · exact ⟨[], leadsTo_here script head⟩
      · obtain ⟨rest, rfl⟩ := List.head?_eq_some_iff.mp nextHead
        obtain ⟨lines, begun⟩ := exists_leadsTo leads
        obtain ⟨more, continued⟩ := inductionHypothesis restWay
        exact ⟨lines ++ more, begun.trans continued⟩

/-- However a session goes on, it counts a rejection for each report. -/
theorem Plays.rejections
    (plays : session.Plays script)
    (course : Course session events last) :
    last.metrics.invalidInputs = session.metrics.invalidInputs + (reports events).length := by
  induction course with
  | here => rfl
  | feed lines _ inductionHypothesis => exact inductionHypothesis
  | close ending _ inductionHypothesis =>
      rw [reports_append, reports_closing, List.append_nil]
      exact inductionHypothesis
  | step course inductionHypothesis =>
      rw [(plays.course course).rejections_step, inductionHypothesis, reports_append,
        List.length_append, Nat.add_assoc]

/--
Whether a run of a session goes from the first to the last of some ids, moving to
each of them in turn, and halts there: no answer is rejected, and none is left.
-/
structure WalksThrough (session : Session) (ids : List Nat) : Prop where
  ending : session.run.ending = .halted
  halted : session.run.session.halted = true
  moved : moves session.run.events = movesAlong ids
  transitions :
    session.run.session.metrics.transitions = session.metrics.transitions + (ids.length - 1)
  unreported : reports session.run.events = []
  rejections : session.run.session.metrics.invalidInputs = session.metrics.invalidInputs
  used : session.run.session.answers.unread = []

/--
Where every question has a prompt, some answers play the shortest exit from a node:
a session sent to the node follows it with them, whatever is bound. A number that is
written with more digits than can be read makes no choice, so no node may offer more
choices than such numbers count; no list that fits into a memory comes near to that.
-/
theorem walksThrough_shortestExit
    {script : Script}
    (prompted : ∀ node ∈ script.nodes, node.body.isPromptless = false)
    (few :
      ∀ node ∈ script.nodes,
        (Numeral.write node.body.choices.length).length ≤ Numeral.digitLimit)
    {id : Nat}
    (inside : id < script.size)
    (leaves : script.graph.shortestExit id ≠ []) :
    ∃ lines, ∀ session : Session, session.script = some script →
      (({ session with answers := .ofList lines } : Session).goTo id).WalksThrough
        (script.graph.shortestExit id) := by
  have walk : script.Walk id terminal := by
    simpa [Script.shortestExit_eq_nil_iff inside] using leaves
  have attained := Script.isAttainable_of_prompted prompted few
  obtain ⟨lines, leadsTo⟩ :=
    exists_leadsTo_of_way (attained.way (Script.way_shortestExit inside walk))
  refine ⟨lines, fun session taken => ?_⟩
  have awaits :
      Awaits script id (lines ++ [])
        (({ session with answers := .ofList lines } : Session).goTo id) := by
    have sameScript : (session.goTo id).script = some script := taken
    rw [List.append_nil]
    exact awaits_of_standing inside sameScript rfl rfl lines
  generalize ({ session with answers := .ofList lines } : Session).goTo id = placed at awaits ⊢
  obtain ⟨ending, arrived, moved, unreported⟩ :=
    run_of_passesTo awaits.plays (leadsTo placed [] awaits)
  have course := run_course placed
  refine ⟨ending, ?_, moved, ?_, unreported, ?_, arrived.unread⟩
  · simp [Session.halted, arrived.here]
  · rw [(course_travelled awaits.plays course).transitions, moved, length_movesAlong]
  · rw [awaits.plays.rejections course, unreported]
    rfl

theorem roundabout_walk : Script.roundabout.Walk 1 terminal := by
  have back : Script.roundabout.Edge 1 0 := ⟨_, rfl, List.mem_cons_self⟩
  have out : Script.roundabout.Edge 0 2 := ⟨_, rfl, (by decide : 2 ∈ [1, 0, 2, 2])⟩
  have ends : Script.roundabout.Edge 2 terminal := ⟨_, rfl, List.mem_cons_self⟩
  exact .step back (.step out (.step ends (.here terminal)))

/-- The question is answered, the way out is chosen by its number, and the farewell is read. -/
theorem walksThrough_shortestExit_roundabout :
    ∃ lines,
      (({ ((fresh (.ofList [])).begin Script.roundabout).bind "NAME" "Ada" with
          answers := .ofList lines } : Session).goTo 1).WalksThrough
        (Script.roundabout.graph.shortestExit 1) := by
  have inside : 1 < Script.roundabout.size := by decide
  have leaves : Script.roundabout.graph.shortestExit (1 : Nat) ≠ [] := by
    rw [Ne, Script.shortestExit_eq_nil_iff inside, not_not]
    exact roundabout_walk
  obtain ⟨lines, walks⟩ := walksThrough_shortestExit (by decide) (by decide) inside leaves
  exact ⟨lines, walks _ rfl⟩

end Session

end Dialog
