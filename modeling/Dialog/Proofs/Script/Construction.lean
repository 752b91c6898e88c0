import Dialog.Data.Writer
import Dialog.Proofs.Script.Loading
import Dialog.Proofs.Script.Lookup

namespace Dialog.Script

/-!
# Scripts from nodes

Nodes make a script unless there are too many of them or one leads to a node that is
not there. In a script that is made, every id names a node with somewhere to go, and
the terminal id names none. Otherwise the fault tells of the first node with a
destination that is not there, and of the first such destination of it
(`FirstOffender`), as long as the numbers of the line and the destination can be written.
Whether the nodes come from records or from plain data, the fault is told on with its
wording unchanged.
-/

variable {nodes : List Node} {count id destination : Nat} {node : Node} {fault : Fault}

/-- Whether a destination is the end or one of `count` nodes. -/
def Present (count destination : Nat) : Prop :=
  destination = terminal ∨ destination < count

/-- A destination is checked to be the end or the id of a node. -/
theorem isPresent_iff : isPresent count destination = true ↔ Present count destination := by
  simp [isPresent, Present]

/-- Whether a destination is the first of a node that leads to none of `count` nodes. -/
inductive FirstAbsent (count : Nat) (node : Node) (destination : Nat) : Prop where
  | after
      (before after : List Nat)
      (listed : node.destinations = before ++ destination :: after)
      (present : ∀ other ∈ before, Present count other)
      (absent : ¬Present count destination)

/-- The destination that is found missing is the first absent one. -/
theorem missingDestination_eq_some_iff :
    missingDestination count node = some destination ↔ FirstAbsent count node destination := by
  rw [missingDestination, List.find?_eq_some_iff_append]
  constructor
  · rintro ⟨absent, before, after, listed, present⟩
    refine .after before after listed ?_ ?_
    · intro other member
      exact isPresent_iff.mp (by simpa using present other member)
    · exact mt isPresent_iff.mpr (by simpa using absent)
  · rintro ⟨before, after, listed, present, absent⟩
    refine ⟨by simpa using mt isPresent_iff.mp absent, before, after, listed, ?_⟩
    intro other member
    simpa using isPresent_iff.mpr (present other member)

/-- No destination is found missing when all are present. -/
theorem missingDestination_eq_none_iff :
    missingDestination count node = none ↔
      ∀ destination ∈ node.destinations, Present count destination := by
  simp [missingDestination, isPresent_iff]

/--
Whether a node is the first of `nodes`, by its id, that leads to a node which is not
there, and a destination the first such destination of it.
-/
structure FirstOffender (nodes : List Node) (id : Nat) (node : Node) (destination : Nat) :
    Prop where
  named : nodes[id]? = some node
  earlier :
    ∀ sooner < id, ∀ other, nodes[sooner]? = some other →
      ∀ destination ∈ other.destinations, Present nodes.length destination
  first : FirstAbsent nodes.length node destination

/-- What stands before an entry of numbered items are the items with smaller numbers. -/
theorem getElem?_of_zipIdx_eq
    {before after : List (Node × Nat)}
    (split : nodes.zipIdx = before ++ (node, id) :: after) :
    nodes[id]? = some node ∧
      ∀ sooner < id, ∀ other, nodes[sooner]? = some other → (other, sooner) ∈ before := by
  have entry : ∀ place : Nat,
      (before ++ (node, id) :: after)[place]? = nodes[place]?.map fun other => (other, place) := by
    intro place
    rw [← split, List.getElem?_zipIdx, Nat.zero_add]
  have here := entry before.length
  rw [List.getElem?_append_right (Nat.le_refl _), Nat.sub_self, List.getElem?_cons_zero, eq_comm,
    Option.map_eq_some_iff] at here
  obtain ⟨_, named, same⟩ := here
  cases same
  refine ⟨named, ?_⟩
  intro sooner lower other otherNamed
  have there := entry sooner
  rw [List.getElem?_append_left lower, otherNamed] at there
  exact List.mem_of_getElem? there

/-- What is found missing is what the first offender leads to. -/
theorem exists_firstOffender
    (missing : firstMissing nodes.length nodes = some fault) :
    ∃ id node destination,
      FirstOffender nodes id node destination ∧
        fault = .missing id node destination nodes.length := by
  obtain ⟨before, ⟨node, id⟩, after, split, found, nothing⟩ :=
    List.findSome?_eq_some_iff.mp missing
  obtain ⟨named, earlier⟩ := getElem?_of_zipIdx_eq split
  obtain ⟨destination, absent, rfl⟩ := Option.map_eq_some_iff.mp found
  refine ⟨id, node, destination, ⟨named, ?_, missingDestination_eq_some_iff.mp absent⟩, rfl⟩
  intro sooner lower other otherNamed
  have nothingThere := nothing _ (earlier sooner lower other otherNamed)
  exact missingDestination_eq_none_iff.mp (Option.map_eq_none_iff.mp nothingThere)

/-- Nodes that make no script are too many, or have a first offender. -/
theorem ofNodes_eq_error
    (refused : ofNodes nodes = .error fault) :
    (terminal < nodes.length ∧ fault = .tooMany nodes.length) ∨
      (nodes.length ≤ terminal ∧ firstMissing nodes.length nodes = some fault) := by
  unfold ofNodes at refused
  split at refused
  · rename_i few
    split at refused
    · rename_i found missing
      cases refused
      exact Or.inr ⟨few, missing⟩
    · cases refused
  · rename_i many
    cases refused
    exact Or.inl ⟨Nat.lt_of_not_le many, rfl⟩

/-- Nodes make a script when they are few enough and lead to no absent node. -/
theorem exists_ofNodes_iff_present
    (nodes : List Node) :
    (∃ script, ofNodes nodes = .ok script) ↔
      nodes.length ≤ terminal ∧
        ∀ node ∈ nodes, ∀ destination ∈ node.destinations, Present nodes.length destination := by
  rw [exists_ofNodes_iff]
  refine and_congr_right fun _ => ⟨?_, ?_⟩
  · intro leads node member destination listed
    exact leads destination (List.mem_flatMap.mpr ⟨node, member, listed⟩)
  · intro leads destination member
    obtain ⟨node, nodeMember, listed⟩ := List.mem_flatMap.mp member
    exact leads node nodeMember destination listed

/-- In a script, each id names a node with somewhere to go, and only to nodes or the end. -/
theorem destinations_of_lt_size
    (script : Script)
    (inside : id < script.size) :
    id ≠ terminal ∧
      ∃ destinations, script.destinations id = .ok destinations ∧ destinations ≠ [] ∧
        ∀ destination ∈ destinations, Present script.size destination := by
  have present : script.nodes[id]? = some script.nodes[id] := Array.getElem?_eq_getElem inside
  refine ⟨ne_terminal_of_present present, _, destinations_of_present present, ?_, ?_⟩
  · exact Node.Body.destinations_ne_nil _
  · exact script.closed _ (Array.getElem_mem inside)

/-- Drafts make the script of the nodes that they describe, or have their fault. -/
theorem ofDrafts_of_nodes
    {drafts : List Draft}
    (described : drafts.mapM Draft.node = .ok nodes) :
    ofDrafts drafts = (ofNodes nodes).mapError .unusable := by
  rw [ofDrafts, described]
  rfl

/-- Data makes the script of the nodes that it lists, or has their fault. -/
theorem readScript_of_nodes
    {fields : Data.Fields}
    (listed : fields.optional [] "nodes" Data.readNodes [] = .ok nodes) :
    Data.readScript (.object fields) =
      (ofNodes nodes).mapError fun fault => [⟨.unusable fault, []⟩] := by
  simp only [Data.readScript, listed]
  generalize ofNodes nodes = made
  cases made <;> rfl

/-- What is told of a missing destination, and of a number that cannot be written instead. -/
theorem message_missing
    (id : Nat)
    (node : Node)
    (destination count : Nat) :
    (Fault.missing id node destination count).message =
      if node.isPlaceable ∧ Numeral.isWritable destination then
        s!"node {id}" ++ (node.line.elim "" fun line => s!" (line {line})") ++
          s!" refers to missing node {destination}; " ++ s!"script defines {count} node(s)"
      else Numeral.Fault.unwritable.message := by
  by_cases placeable : node.isPlaceable = true
  · have placed := node.place_of_isPlaceable placeable
    by_cases writable : Numeral.isWritable destination = true
    · rw [if_pos ⟨placeable, writable⟩]
      simp only [Fault.message, Fault.wording, placed, Numeral.spell, if_pos writable, Except.bind,
        Except.map, String.append_assoc]
      rfl
    · rw [if_neg fun told => writable told.2]
      simp only [Fault.message, Fault.wording, placed, Numeral.spell, if_neg writable, Except.bind,
        Except.map]
  · rw [if_neg fun told => placeable told.1]
    simp only [Fault.message, Fault.wording, node.place_of_not_isPlaceable placeable, Except.bind]

/--
What comes of building a script from nodes. It is told in full for nodes that are given,
but for an offender with a number that cannot be written; nodes that drafts describe and
nodes that data lists make the same script, or fail with the same wording.
-/
structure Construction (nodes : List Node) : Prop where
  accepted :
    (∃ script, ofNodes nodes = .ok script) ↔
      nodes.length ≤ terminal ∧
        ∀ node ∈ nodes, ∀ destination ∈ node.destinations,
          destination = terminal ∨ destination < nodes.length
  built :
    ∀ script, ofNodes nodes = .ok script →
      script.nodes.toList = nodes ∧ script.size ≤ terminal ∧
        ∀ id < script.size, id ≠ terminal ∧
          ∃ destinations, script.destinations id = .ok destinations ∧ destinations ≠ [] ∧
            ∀ destination ∈ destinations, destination = terminal ∨ destination < script.size
  refused :
    ∀ fault, nodes.length ≤ terminal → ofNodes nodes = .error fault →
      ∃ id node destination, FirstOffender nodes id node destination ∧
        fault.message =
          if node.isPlaceable ∧ Numeral.isWritable destination then
            s!"node {id}" ++ (node.line.elim "" fun line => s!" (line {line})") ++
              s!" refers to missing node {destination}; " ++
                s!"script defines {nodes.length} node(s)"
          else Numeral.Fault.unwritable.message
  fromDrafts :
    ∀ drafts, drafts.mapM Draft.node = .ok nodes →
      (∀ script, ofDrafts drafts = .ok script ↔ ofNodes nodes = .ok script) ∧
        ∀ fault, ofNodes nodes = .error fault →
          ∃ told : LoadFault, ofDrafts drafts = .error told ∧
            told.className = "SemanticError" ∧ told.message = fault.message
  fromData :
    ∀ fields, Data.Fields.optional fields [] "nodes" Data.readNodes [] = .ok nodes →
      (∀ script, Data.readScript (.object fields) = .ok script ↔ ofNodes nodes = .ok script) ∧
        ∀ fault, ofNodes nodes = .error fault →
          ∃ told : Data.Fault, Data.readScript (.object fields) = .error [told] ∧
            told.path = [] ∧ told.problem.message? = some ("Value error, " ++ fault.message)

/--
Only nodes that lead to one another or to the end make a script; else the first offender is
told.
-/
theorem builds_or_names_first_offender (nodes : List Node) : Construction nodes := by
  refine ⟨exists_ofNodes_iff_present nodes, ?_, ?_, ?_, ?_⟩
  · intro script made
    refine ⟨(ofNodes_eq_ok_iff.mp made).symm, script.size_le, ?_⟩
    intro id inside
    exact script.destinations_of_lt_size inside
  · intro fault few refused
    rcases ofNodes_eq_error refused with ⟨many, _⟩ | ⟨_, missing⟩
    · exact absurd few (Nat.not_le_of_lt many)
    · obtain ⟨id, node, destination, offends, rfl⟩ := exists_firstOffender missing
      exact ⟨id, node, destination, offends, message_missing id node destination nodes.length⟩
  · intro drafts described
    rw [ofDrafts_of_nodes described]
    refine ⟨fun script => Outcome.mapError_eq_ok_iff, ?_⟩
    intro fault refused
    rw [refused]
    exact ⟨.unusable fault, rfl, rfl, rfl⟩
  · intro fields listed
    rw [readScript_of_nodes listed]
    refine ⟨fun script => Outcome.mapError_eq_ok_iff, ?_⟩
    intro fault refused
    rw [refused]
    exact ⟨⟨.unusable fault, []⟩, rfl, rfl, rfl⟩

/-- A question whose failure leads back to it, and whose success to a destination of its own. -/
def leadingTo (destination : Nat) : Node :=
  ⟨.question destination 0 "NAME" [], none⟩

/-- Where the success of the question leads to no node, that is what is missing. -/
theorem ofNodes_leadingTo
    (absent : ¬Present 1 destination) :
    ofNodes [leadingTo destination] =
      .error (.missing 0 (leadingTo destination) destination 1) := by
  have missing : firstMissing 1 [leadingTo destination] =
      some (.missing 0 (leadingTo destination) destination 1) := by
    have notPresent : isPresent 1 destination = false := by
      simpa using mt isPresent_iff.mp absent
    simp [firstMissing, missingDestination, leadingTo, Node.destinations, Node.Body.destinations,
      notPresent]
  cases made : ofNodes [leadingTo destination] with
  | ok script =>
      have present := ((exists_ofNodes_iff_present _).mp ⟨script, made⟩).2
      exact absurd (present _ List.mem_cons_self destination List.mem_cons_self) absent
  | error fault =>
      rcases ofNodes_eq_error made with ⟨many, _⟩ | ⟨_, found⟩
      · exact absurd many (by simp [terminal])
      · exact congrArg Except.error (Option.some.inj (found.symm.trans missing))

/-- The lines of such a question, with a destination that has one digit too many to be read. -/
def farQuestion : List (List Char) :=
  [['1'], List.replicate (Numeral.digitLimit + 1) '9', ['0'], ['X']]

/-- This text tells the one record of a question. -/
theorem tells_farQuestion :
    Tells (textOf farQuestion) [farQuestion] := by
  apply tells_textOf
  · apply Record.Form.question
    · simp [Numeral.isNumeral]
    · rfl
    · intro prompt member
      cases member
  · intro content member
    simp only [farQuestion, List.mem_cons, List.not_mem_nil, or_false] at member
    rcases member with rfl | rfl | rfl | rfl <;> exact ⟨by simp, by simp, by simp⟩

/--
A destination that is not there is not named when it has one digit too many: what is told
of it in data is the digits, and the line of a record that has it is not read at all.
-/
theorem unwritable_destination_unnamed :
    (∃ told : Data.Fault,
        Data.readScript
            (.object
              [("nodes",
                .list [Data.ofNode (leadingTo (Nat.pow 10 Numeral.digitLimit))])]) =
          .error [told] ∧
          told.problem.message? = some ("Value error, " ++ Numeral.Fault.unwritable.message)) ∧
      Tells (textOf farQuestion) [farQuestion] ∧
        faultClass (load (textOf farQuestion)) = some "ValueError" := by
  have unwritable : ¬Numeral.isWritable (Nat.pow 10 Numeral.digitLimit : Nat) = true :=
    Numeral.not_isWritable_of_le (Int.natAbs_natCast _).ge
  have absent : ¬Present 1 (Nat.pow 10 Numeral.digitLimit) := by
    unfold Present
    decide +kernel
  refine ⟨?_, tells_farQuestion, ?_⟩
  · generalize Nat.pow 10 Numeral.digitLimit = destination at unwritable absent
    have listed : Data.Fields.optional [("nodes", .list [Data.ofNode (leadingTo destination)])] []
        "nodes" Data.readNodes [] = .ok [leadingTo destination] := rfl
    refine ⟨⟨.unusable (.missing 0 (leadingTo destination) destination 1), []⟩, ?_, ?_⟩
    · rw [readScript_of_nodes listed, ofNodes_leadingTo absent]
      rfl
    · show some ("Value error, " ++ Fault.message _) = _
      rw [message_missing, if_neg fun written => unwritable written.2]
  · refine load_of_overlong tells_farQuestion ⟨List.replicate (Numeral.digitLimit + 1) '9', ?_, ?_⟩
    · simp [farQuestion, Record.numerals, Tag.read?]
    · rw [List.length_replicate]
      exact Nat.lt_succ_self _

/--
The failure of the second node is the first that is not there, and the third node comes
later.
-/
example :
    firstMissing 3
        [⟨.question 2 9999 "NAME" [], none⟩, ⟨.question 1 3 "NAME" [], some 5⟩,
          ⟨.branching "WAY" "?" [⟨"on", 4⟩] (List.cons_ne_nil _ _), some 9⟩] =
      some (.missing 1 ⟨.question 1 3 "NAME" [], some 5⟩ 3 3) := by
  decide

end Dialog.Script
