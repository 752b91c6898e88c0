import Dialog.Proofs.Graph.Acyclic
import Dialog.Proofs.Session.Balance
import Dialog.Proofs.Session.Endless
import Mathlib.Data.List.Nodup

namespace Dialog

/-!
# Sessions in a script without cycles

Each node that a session has entered leads by a trail to where it stands. To move
to one of them again would close that trail to a cycle, so where a script has no
cycle no node is entered twice, and there are no more moves than nodes. A run
ends there as well, since it goes on for ever only where failing does.
-/

namespace Session

variable {script : Script} {begun session last : Session} {nodes : List Nat}
  {events : List Event}

/--
A session that has entered nodes of its script and has left each of them behind.
`behind` is what a step keeps up, and what forbids it to enter one of them again.
-/
structure Onward (script : Script) (session : Session) (nodes : List Nat) : Prop where
  entered : session.Entered nodes
  inside : ∀ id ∈ nodes, id < script.size
  behind :
    ∀ id ∈ nodes, ∀ here : Nat, session.current = here →
      ∃ length, Trail script.graph.successors id length here
  once : nodes.Nodup

/-- A session that has just begun has entered the first node and no other. -/
theorem onward_begin
    (prior : Session)
    (playable : 0 < script.size) :
    (prior.begin script).Onward script [0] := by
  refine ⟨entered_begin prior script, ?_, ?_, List.nodup_singleton 0⟩
  · intro id listed
    obtain rfl := List.mem_singleton.mp listed
    exact playable
  · intro id listed here current
    obtain rfl := List.mem_singleton.mp listed
    obtain rfl : 0 = here := Int.ofNat_inj.mp current
    exact ⟨0, .here⟩

/-- A step that leaves the session where it is enters no node. -/
theorem Onward.rest
    (onward : session.Onward script nodes)
    (plays : session.Plays script)
    (rests : session.Rests) :
    session.step.session.Onward script (nodes ++ entries session.step.events) := by
  have entered := onward.entered.step plays
  rw [rests.entries_eq, List.append_nil] at entered ⊢
  refine ⟨entered, onward.inside, ?_, onward.once⟩
  rw [rests.current]
  exact onward.behind

/--
Without a cycle, a move enters a node for the first time, or ends the session. A target
entered before has been left behind, so the move would return to it.
-/
theorem Onward.move
    (acyclic : script.Acyclic)
    (onward : session.Onward script nodes)
    (plays : session.Plays script)
    {source target : Nat}
    (moves : session.Moves script source target) :
    session.step.session.Onward script (nodes ++ entries session.step.events) := by
  have entered := onward.entered.step plays
  have edge : target ∈ script.graph.successors source :=
    (script.mem_graph_successors_iff source target).mpr moves.edge
  have led : ∀ id ∈ nodes, ∃ length, Trail script.graph.successors id (length + 1) target := by
    intro id listed
    obtain ⟨length, trail⟩ := onward.behind id listed source moves.here
    exact ⟨length, trail.onward edge⟩
  rw [moves.entries_eq] at entered ⊢
  refine ⟨entered, ?_, ?_, ?_⟩
  · intro id listed
    rcases List.mem_append.mp listed with before | now
    · exact onward.inside id before
    · split at now
      · cases now
      · rename_i stays
        obtain rfl := List.mem_singleton.mp now
        exact moves.edge.target_cases.resolve_left stays
  · intro id listed here current
    obtain rfl : target = here := Int.ofNat_inj.mp (moves.there.symm.trans current)
    rcases List.mem_append.mp listed with before | now
    · obtain ⟨length, trail⟩ := led id before
      exact ⟨length + 1, trail⟩
    · split at now
      · cases now
      · obtain rfl := List.mem_singleton.mp now
        exact ⟨0, .here⟩
  · split
    · rw [List.append_nil]
      exact onward.once
    · refine onward.once.append (List.nodup_singleton target) ?_
      rw [List.disjoint_singleton]
      intro again
      obtain ⟨length, returns⟩ := led target again
      exact acyclic.not_returns target length returns

/-- Without a cycle, no step enters a node again. -/
theorem Onward.step
    (acyclic : script.Acyclic)
    (onward : session.Onward script nodes)
    (plays : session.Plays script) :
    session.step.session.Onward script (nodes ++ entries session.step.events) := by
  rcases rests_or_moves plays with rests | ⟨source, target, moves⟩
  · exact onward.rest plays rests
  · exact onward.move acyclic plays moves

/-- Without a cycle, no course enters a node again, however long it is. -/
theorem Onward.course
    (acyclic : script.Acyclic)
    (onward : begun.Onward script nodes)
    (plays : begun.Plays script)
    (course : Course begun events last) :
    last.Onward script (nodes ++ entries events) := by
  induction course with
  | here => simpa [entries] using onward
  | step begun inductionHypothesis =>
      rw [entries_append, ← List.append_assoc]
      exact inductionHypothesis.step acyclic (plays.course begun)
  | feed lines _ inductionHypothesis =>
      obtain ⟨⟨visits, total⟩, inside, behind, once⟩ := inductionHypothesis
      exact ⟨⟨visits, total⟩, inside, behind, once⟩
  | close ending _ inductionHypothesis =>
      rw [entries_append, entries_closing, List.append_nil]
      exact inductionHypothesis

/-- Each node takes one move to come to, but for the first, and the end takes one more. -/
theorem Onward.transitions_le
    (onward : session.Onward script nodes) :
    session.metrics.transitions ≤ script.size := by
  have ids : nodes ⊆ List.range script.size := fun id listed =>
    List.mem_range.mpr (onward.inside id listed)
  have few : nodes.length ≤ script.size := by simpa using (onward.once.subperm ids).length_le
  have total := onward.entered.total
  split at total <;> omega

/-- A node that is entered once is counted with one visit. -/
theorem Onward.visited_once
    (onward : session.Onward script nodes) :
    ∀ entry ∈ session.metrics.visits, entry.2 = 1 := by
  rintro ⟨id, count⟩ counted
  obtain ⟨listed, exact⟩ := (onward.entered.visits.exact id count).mp counted
  exact exact.trans (List.count_eq_one_of_mem onward.once listed)

/-- Failing goes on nowhere for ever, so no session steps for ever. -/
theorem not_endless_of_acyclic
    (acyclic : script.Acyclic)
    (plays : session.Plays script) :
    ¬session.Endless := by
  rw [endless_iff_comesToFailForever plays]
  rintro ⟨_, _, _, _, id, _, forever⟩
  exact acyclic.not_failsForever id forever

/-- What holds of a session that has gone on in a script without cycles, with its events so far. -/
structure GoesStraight (script : Script) (session : Session) (events : List Event) : Prop where
  transitions : session.metrics.transitions ≤ script.size
  entered : (0 :: entries events).Nodup
  visits : ∀ entry ∈ session.metrics.visits, entry.2 = 1
  stops : ∃ bound, (session.runWithin bound).ending ≠ .endless
  run : session.run.ending ≠ .endless

/--
Where the summary of a script tells of no cycle, no node is trapped, and however a
session goes on it makes no more moves than there are nodes, enters none of them
twice, and can be run to an end.
-/
theorem goesStraight_of_acyclic
    (prior : Session)
    {script : Script}
    (playable : 0 < script.size)
    (acyclic : script.graph.summary.hasCycle = false) :
    script.graph.trapped = [] ∧
      ∀ history, (∀ operation ∈ history, Operation.Advances operation) →
        GoesStraight script ((prior.begin script).after history)
          ((prior.begin script).eventsOf history) := by
  have straight : script.Acyclic := Script.hasCycle_eq_false_iff.mp acyclic
  refine ⟨straight.trapped_eq_nil, fun history advancing => ?_⟩
  have begun : (prior.begin script).Plays script := prior.plays_begin playable
  have course := course_of_advancing advancing (prior.begin script)
  have onward := (onward_begin prior playable).course straight begun course
  have plays := begun.course course
  have stops := not_endless_of_acyclic straight plays
  exact {
    transitions := onward.transitions_le
    entered := onward.once
    visits := onward.visited_once
    stops := by simpa [Endless] using stops
    run := fun unfinished => stops ((run_endless_iff plays).mp unfinished) }

/-- Two questions, one without prompts, a choice that may end at once, and a farewell. -/
def downhill : Script where
  nodes :=
    #[⟨.question 1 2 "NAME" ["Who?"], none⟩,
      ⟨.question 2 2 "TITLE" [], none⟩,
      ⟨.branching "WAY" "Where to?" [⟨"out", terminal⟩, ⟨"on", 3⟩] (List.cons_ne_nil _ _), none⟩,
      ⟨.terminating "Bye $NAME", none⟩]
  size_le := by decide
  closed := by simp [Node.destinations, Node.Body.destinations]

/-- The edges of this script make no cycle. -/
theorem downhill_acyclic : downhill.graph.summary.hasCycle = false :=
  Script.hasCycle_eq_false_iff.mpr (Script.acyclic_of_forward (by decide))

/-- The session is held up at the choice by a wrong answer, and is fed the right one. -/
theorem goesStraight_of_acyclic_downhill :
    downhill.graph.trapped = [] ∧
      GoesStraight downhill
        (((fresh (.ofList ["Ada", "3"])).begin downhill).after [.run, .feed ["2"], .step])
        (((fresh (.ofList ["Ada", "3"])).begin downhill).eventsOf
          [.run, .feed ["2"], .step]) := by
  have straight :=
    goesStraight_of_acyclic (fresh (.ofList ["Ada", "3"])) (by decide : 0 < downhill.size)
      downhill_acyclic
  exact ⟨straight.1, straight.2 [.run, .feed ["2"], .step] (by simp [Operation.Advances])⟩

end Session

end Dialog
