import Dialog.Proofs.Graph.Census
import Dialog.Proofs.Outcome

namespace Dialog

/-!
# What a script is warned of

The warnings about a script that can be played name first the nodes that no walk from
node 0 leads to, and then those that one leads to but none leads from to the end, in
increasing order of ids. The first are left out of the second, so no node is named
twice, and there is no warning just when every node lies between node 0 and the end.
An analysis words these warnings and no others, and stops at one whose line has too
many digits to be written.
-/

/-- The id of the node that a warning is about. -/
def Warning.id : Warning → Nat
  | .unreachable id _ => id
  | .trapped id _ => id

/-- The node that a warning is about. -/
def Warning.node : Warning → Node
  | .unreachable _ node => node
  | .trapped _ node => node

/-- What is told of a warning whose node can be placed. -/
def Warning.told : Warning → String
  | .unreachable id node =>
      s!"node {id}" ++ (node.line.elim "" fun line => s!" (line {line})") ++
        " is unreachable from node 0"
  | .trapped id node =>
      s!"node {id}" ++ (node.line.elim "" fun line => s!" (line {line})") ++
        " has no path to a terminating node"

/-- A warning of a node that can be placed is worded in full. -/
theorem Warning.message_of_isPlaceable
    {warning : Warning}
    (placeable : warning.node.isPlaceable = true) :
    warning.message = .ok warning.told := by
  cases warning with
  | unreachable id node | trapped id node =>
      simp only [message, node.place_of_isPlaceable placeable, Except.map, told]
      rfl

/-- A warning of a node that cannot be placed is not worded. -/
theorem Warning.message_of_not_isPlaceable
    {warning : Warning}
    (displaced : ¬warning.node.isPlaceable = true) :
    warning.message = .error .unwritable := by
  cases warning with
  | unreachable id node | trapped id node =>
      simp only [message, node.place_of_not_isPlaceable displaced, Except.map]

namespace Script

variable {script : Script} {ids : List Nat} {members : Set Nat}

/-- The nodes that no walk from node 0 leads to. -/
def unreached (script : Script) : Set Nat :=
  {id | id < script.size ∧ ¬script.Walk 0 id}

/-- Whether a list names the members of a set, each once and in increasing order. -/
structure Enumerates (ids : List Nat) (members : Set Nat) : Prop where
  increasing : ids.Pairwise (· < ·)
  exact : ∀ id, id ∈ ids ↔ id ∈ members

theorem Enumerates.nodup (enumerates : Enumerates ids members) : ids.Nodup :=
  enumerates.increasing.imp Nat.ne_of_lt

/-- The unreachable nodes are listed in order, and they alone. -/
theorem enumerates_unreachable
    (playable : 0 < script.size) :
    Enumerates (script.graph.unreachable 0) script.unreached := by
  constructor
  · have inside : script.graph.contains 0 = true := graph_contains playable
    rw [Graph.unreachable, if_pos inside]
    exact List.pairwise_lt_range.filter _
  · intro id
    have listed : id ∈ script.graph.unreachable 0 ↔
        id < script.size ∧ id ∉ script.graph.reachable 0 := mem_unreachable_iff playable id
    rw [mem_reachable_iff_reached playable] at listed
    exact listed.trans (and_congr_right fun node => not_congr (and_iff_right node))

/-- The trapped nodes that a walk leads to are listed in order, and they alone. -/
theorem enumerates_caught :
    Enumerates (script.graph.trapped.filter (spread script.graph.successors 0).has)
      script.caught where
  increasing := (List.pairwise_lt_range.filter _).filter _
  exact := mem_caught_iff

/-- Whether warnings are of one sort, one about each member of a set of nodes, in order. -/
structure WarnsOf
    (script : Script)
    (sort : Nat → Node → Warning)
    (members : Set Nat)
    (warnings : List Warning) :
    Prop where
  about : Enumerates (warnings.map Warning.id) members
  each :
    ∀ warning ∈ warnings, ∃ node,
      script.nodes[warning.id]? = some node ∧ warning = sort warning.id node

/-- Each of some nodes is warned of by its id. -/
theorem map_id_warn
    {sort : Nat → Node → Warning}
    (named : ∀ id node, (sort id node).id = id)
    (nodes : ∀ id ∈ ids, id < script.size) :
    (script.warn sort ids).map Warning.id = ids := by
  induction ids with
  | nil => rfl
  | cons id rest inductionHypothesis =>
      obtain ⟨inside, others⟩ := List.forall_mem_cons.mp nodes
      have present : script.nodes[id]? = some script.nodes[id] := Array.getElem?_eq_getElem inside
      rw [warn, List.filterMap_cons, present, Option.map_some, List.map_cons, named]
      exact congrArg (List.cons id) (inductionHypothesis others)

/-- Nodes that are listed in order are warned of one by one. -/
theorem warnsOf_warn
    {sort : Nat → Node → Warning}
    (named : ∀ id node, (sort id node).id = id)
    (enumerates : Enumerates ids members)
    (nodes : ∀ id ∈ members, id < script.size) :
    script.WarnsOf sort members (script.warn sort ids) := by
  constructor
  · rw [map_id_warn named fun id listed => nodes id ((enumerates.exact id).mp listed)]
    exact enumerates
  · intro warning member
    obtain ⟨id, _, warned⟩ := List.mem_filterMap.mp member
    obtain ⟨node, present, rfl⟩ := Option.map_eq_some_iff.mp warned
    rw [named]
    exact ⟨node, present, rfl⟩

/-- There are no warnings of a sort just when there are no nodes of it. -/
theorem WarnsOf.eq_nil_iff
    {sort : Nat → Node → Warning}
    {warnings : List Warning}
    (warnsOf : script.WarnsOf sort members warnings) :
    warnings = [] ↔ ∀ id, id ∉ members := by
  rw [← List.map_eq_nil_iff, List.eq_nil_iff_forall_not_mem]
  exact forall_congr' fun id => not_congr (warnsOf.about.exact id)

/--
What the warnings about a script are: one about each node that is not reached, in
order, and then one about each that is caught, in order. No node is warned of twice,
and none is warned of when every node is reached and leads on to the end.
-/
structure WarnsExactly (script : Script) (warnings : List Warning) : Prop where
  sorted :
    ∃ first second, warnings = first ++ second ∧
      script.WarnsOf .unreachable script.unreached first ∧
        script.WarnsOf .trapped script.caught second
  once : (warnings.map Warning.id).Nodup
  counted : warnings.length = (script.size - script.reached.ncard) + script.caught.ncard
  none_iff :
    warnings = [] ↔ ∀ id < script.size, script.Walk 0 id ∧ script.Walk id terminal

/-- Every node is reached and leads to the end when none is unreached and none is caught. -/
theorem nothing_odd_iff :
    ((∀ id, id ∉ script.unreached) ∧ ∀ id, id ∉ script.caught) ↔
      ∀ id < script.size, script.Walk 0 id ∧ script.Walk id terminal := by
  constructor
  · rintro ⟨allReached, noneCaught⟩ id inside
    have reached : script.Walk 0 id := by
      by_contra apart
      exact allReached id ⟨inside, apart⟩
    refine ⟨reached, ?_⟩
    by_contra apart
    exact noneCaught id ⟨⟨inside, reached⟩, apart⟩
  · intro between
    refine ⟨?_, ?_⟩
    · rintro id ⟨inside, apart⟩
      exact apart (between id inside).1
    · rintro id ⟨⟨inside, _⟩, apart⟩
      exact apart (between id inside).2

/-- An analysis words all warnings in order, unless a line in one of them cannot be written. -/
theorem analyze_eq
    (playable : 0 < script.size) :
    script.analyze =
      if ∀ warning ∈ script.warnings, warning.node.isPlaceable = true then
        .ok (script.warnings.map Warning.told)
      else .error (.numeral .unwritable) := by
  rw [analyze, Script.playable, if_neg (Nat.ne_of_gt playable)]
  show (script.warnings.mapM Warning.message).mapError LoadFault.numeral = _
  by_cases placeable : ∀ warning ∈ script.warnings, warning.node.isPlaceable = true
  · have worded :
        script.warnings.mapM Warning.message = .ok (script.warnings.map Warning.told) := by
      rw [Outcome.mapM_eq_ok_iff, List.forall₂_map_right_iff, List.forall₂_same]
      exact fun warning member => Warning.message_of_isPlaceable (placeable warning member)
    rw [if_pos placeable, worded]
    rfl
  · rw [if_neg placeable]
    push Not at placeable
    obtain ⟨warning, member, displaced⟩ := placeable
    have fails := Warning.message_of_not_isPlaceable displaced
    obtain ⟨first, stopped, rfl⟩ :
        ∃ first, script.warnings.mapM Warning.message = .error first ∧ first = .unwritable := by
      refine Outcome.mapM_eq_error_of member fails ?_
      intro other _ own fault
      by_cases placed : other.node.isPlaceable = true
      · cases (Warning.message_of_isPlaceable placed).symm.trans fault
      · exact Except.error.inj (fault.symm.trans (Warning.message_of_not_isPlaceable placed))
    rw [stopped]
    rfl

/-- The warnings about a script with a node to start at tell exactly what is odd about it. -/
theorem warnsExactly_warnings
    (playable : 0 < script.size) :
    script.WarnsExactly script.warnings := by
  have unreached : script.WarnsOf .unreachable script.unreached
      (script.warn .unreachable (script.graph.unreachable 0)) :=
    warnsOf_warn (fun _ _ => rfl) (enumerates_unreachable playable) fun _ member => member.1
  have caught : script.WarnsOf .trapped script.caught
      (script.warn .trapped
        (script.graph.trapped.filter (spread script.graph.successors 0).has)) :=
    warnsOf_warn (fun _ _ => rfl) enumerates_caught fun _ member => member.1.1
  refine ⟨⟨_, _, rfl, unreached, caught⟩, ?_, length_warnings playable, ?_⟩
  · rw [warnings, List.map_append]
    refine unreached.about.nodup.append caught.about.nodup ?_
    intro id first second
    exact ((unreached.about.exact id).mp first).2 ((caught.about.exact id).mp second).1.2
  · rw [warnings, List.append_eq_nil_iff, unreached.eq_nil_iff, caught.eq_nil_iff,
      nothing_odd_iff]

/--
A script with a node to start at is warned of exactly what is odd about it, in words,
unless the line of a node that is warned of has too many digits to be written.
-/
theorem warns_exactly
    (playable : 0 < script.size) :
    ∃ warnings, script.WarnsExactly warnings ∧
      script.analyze =
        if ∀ warning ∈ warnings, warning.node.isPlaceable = true then
          .ok (warnings.map Warning.told)
        else .error (.numeral .unwritable) :=
  ⟨script.warnings, warnsExactly_warnings playable, analyze_eq playable⟩

/--
A choice leads to the end or to a question that leads only to itself. The two
questions beyond it lead only to each other, and nothing leads to them or to the
farewell.
-/
def sideTrack : Script where
  nodes :=
    #[⟨.branching "WAY" "Where to?" [⟨"out", 9999⟩, ⟨"in", 1⟩] (List.cons_ne_nil _ _), none⟩,
      ⟨.question 1 1 "NAME" ["Who?"], some 5⟩,
      ⟨.question 3 3 "NAME" [], none⟩,
      ⟨.question 2 2 "NAME" [], none⟩,
      ⟨.terminating "Bye", some 12⟩]
  size_le := by decide
  closed := by simp [Node.destinations, Node.Body.destinations, terminal]

/-- Here two nodes are both unreached and without a way to the end. -/
theorem warns_exactly_sideTrack :
    ∃ warnings, sideTrack.WarnsExactly warnings ∧
      sideTrack.analyze =
        if ∀ warning ∈ warnings, warning.node.isPlaceable = true then
          .ok (warnings.map Warning.told)
        else .error (.numeral .unwritable) :=
  warns_exactly (by decide : 0 < sideTrack.size)

/-- Two farewells, of which nothing leads to the second; it stands at a line of its own. -/
def farewells (line : Int) : Script where
  nodes := #[⟨.terminating "Bye", some 1⟩, ⟨.terminating "Never", some line⟩]
  size_le := by simp [terminal]
  closed := by simp [Node.destinations, Node.Body.destinations]

theorem size_farewells (line : Int) : (farewells line).size = 2 :=
  rfl

/-- From the first farewell there is no way but to the end. -/
theorem unreached_farewells (line : Int) : 1 ∈ (farewells line).unreached := by
  refine ⟨by rw [size_farewells]; decide, ?_⟩
  intro walk
  cases walk with
  | step edge rest =>
      obtain ⟨node, present, leads⟩ := edge
      obtain rfl : (⟨.terminating "Bye", some 1⟩ : Node) = node := Option.some.inj present
      obtain rfl := List.mem_singleton.mp leads
      cases rest with
      | step beyond _ =>
          obtain ⟨_, absent, _⟩ := beyond
          cases absent

/-- An analysis tells nothing at all when the line of the second farewell cannot be written. -/
theorem analyze_farewells
    {line : Int}
    (unwritable : ¬Numeral.isWritable line = true) :
    (farewells line).analyze = .error (.numeral .unwritable) := by
  have playable : 0 < (farewells line).size := by
    rw [size_farewells]
    exact Nat.zero_lt_two
  rw [analyze_eq playable, if_neg]
  intro placeable
  have listed : 1 ∈ (farewells line).graph.unreachable 0 :=
    ((enumerates_unreachable playable).exact 1).mpr (unreached_farewells line)
  have warned :
      Warning.unreachable 1 ⟨.terminating "Never", some line⟩ ∈ (farewells line).warnings :=
    List.mem_append_left _ (List.mem_filterMap.mpr ⟨1, listed, rfl⟩)
  exact unwritable ((Node.isPlaceable_iff _).mp (placeable _ warned) line rfl)

/-- Nothing is told of a farewell that cannot be come to when its line has one digit too many. -/
theorem unplaceable_node_unwarned :
    1 ∈ (farewells (Nat.pow 10 Numeral.digitLimit : Nat)).unreached ∧
      (farewells (Nat.pow 10 Numeral.digitLimit : Nat)).analyze =
        .error (.numeral .unwritable) :=
  ⟨unreached_farewells _,
    analyze_farewells (Numeral.not_isWritable_of_le (Int.natAbs_natCast _).ge)⟩

end Script

end Dialog
