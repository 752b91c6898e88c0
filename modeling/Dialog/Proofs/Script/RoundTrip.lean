import Dialog.Proofs.Record.Decomposition
import Dialog.Proofs.Script.Nodes

namespace Dialog

/-!
# Scripts that are written and read back

The nodes of a writable script are written as contents that are records one after
the other, each content a line of its own, so that reading finds exactly these
records again and the nodes that they describe. A text describes writable scripts
only, and so the writable scripts are all that the format can express.
-/

/-- The content of a line that is not blank makes a line that says something. -/
theorem speaks_of_isContent
    {text : String}
    (isContent : IsContent text) :
    Record.Speaks ⟨text.toList, .lineFeed⟩ := by
  obtain ⟨nonempty, noLineFeed, noReturn⟩ := isContent
  refine ⟨⟨noLineFeed, noReturn⟩, ?_⟩
  intro blank
  exact nonempty (List.isEmpty_iff.1 blank)

/-- The line of a tag says something. -/
theorem Tag.speaks
    (kind : Node.Kind) :
    Record.Speaks ⟨Tag.content kind, .lineFeed⟩ := by
  cases kind <;> exact ⟨⟨by decide, by decide⟩, by decide⟩

/-- The line of a number says something. -/
theorem Numeral.speaks_write
    (number : Nat) :
    Record.Speaks ⟨write number, .lineFeed⟩ := by
  have numeral := isNumeral_write number
  refine ⟨⟨not_mem_of_isNumeral numeral rfl, not_mem_of_isNumeral numeral rfl⟩, ?_⟩
  intro blank
  have empty : write number = [] := List.isEmpty_iff.1 blank
  rw [empty] at numeral
  cases numeral

/-- The line of a choice says something, whatever its text is. -/
theorem Choice.speaks_content
    {choice : Choice}
    (noLineFeed : '\n' ∉ choice.text.toList)
    (noReturn : '\r' ∉ choice.text.toList) :
    Record.Speaks ⟨choice.content, .lineFeed⟩ := by
  have digits := (Numeral.speaks_write choice.destination).wellFormed
  refine ⟨⟨?_, ?_⟩, ?_⟩
  · simpa [content] using ⟨noLineFeed, digits.noLineFeed⟩
  · simpa [content] using ⟨noReturn, digits.noReturn⟩
  · simp [Line.isBlank, content]

namespace Node.Body

/-- All lines that a writable node is written as say something. -/
theorem speaks_contents
    {body : Node.Body}
    (writable : body.Writable) :
    ∀ content ∈ body.contents, Record.Speaks ⟨content, .lineFeed⟩ := by
  intro content member
  cases body with
  | question success fail name prompts =>
      obtain ⟨nameIsContent, promptsAre⟩ := writable
      simp only [contents, List.mem_cons, List.mem_map] at member
      rcases member with rfl | rfl | rfl | rfl | ⟨prompt, promptMember, rfl⟩
      · exact Tag.speaks .question
      · exact Numeral.speaks_write success
      · exact Numeral.speaks_write fail
      · exact speaks_of_isContent nameIsContent
      · exact speaks_of_isContent (promptsAre prompt promptMember).1
  | branching name asked options nonempty =>
      obtain ⟨nameIsContent, askedIsContent, optionsAre⟩ := writable
      simp only [contents, List.mem_cons, List.mem_map] at member
      rcases member with rfl | rfl | rfl | ⟨option, optionMember, rfl⟩
      · exact Tag.speaks .branching
      · exact speaks_of_isContent nameIsContent
      · exact speaks_of_isContent askedIsContent
      · obtain ⟨_, noLineFeed, noReturn⟩ := optionsAre option optionMember
        exact Choice.speaks_content noLineFeed noReturn
  | terminating message =>
      simp only [contents, List.mem_cons, List.not_mem_nil, or_false] at member
      rcases member with rfl | rfl
      · exact Tag.speaks .terminating
      · exact speaks_of_isContent writable

/-- A writable node is written in one of the three forms of records. -/
theorem form_contents
    {body : Node.Body}
    (writable : body.Writable) :
    Record.Form body.contents := by
  cases body with
  | question success fail name prompts =>
      apply Record.Form.question
      · exact Numeral.isNumeral_write success
      · exact Numeral.isNumeral_write fail
      · intro content member
        obtain ⟨prompt, promptMember, rfl⟩ := List.mem_map.1 member
        exact (Tag.read?_eq_none_iff prompt.toList).1 (writable.2 prompt promptMember).2
  | branching name asked options nonempty =>
      apply Record.Form.branching
      · intro empty
        exact nonempty (List.map_eq_nil_iff.1 empty)
      · intro content member
        obtain ⟨option, optionMember, rfl⟩ := List.mem_map.1 member
        refine ⟨option.text.toList, Numeral.write option.destination, rfl, ?_, ?_⟩
        · exact (writable.2.2 option optionMember).1
        · exact Numeral.isNumeral_write option.destination
  | terminating message => exact Record.Form.terminating message.toList

end Node.Body

namespace Script

/-- The lines that a script is written as. -/
def writtenLines (script : Script) : List Line :=
  (script.bodies.flatMap Node.Body.contents).map fun content => ⟨content, .lineFeed⟩

/-- All lines that a writable script is written as say something. -/
theorem speaks_writtenLines
    {script : Script}
    (writable : script.Writable) :
    ∀ line ∈ script.writtenLines, Record.Speaks line := by
  intro line member
  obtain ⟨content, contentMember, rfl⟩ := List.mem_map.1 member
  obtain ⟨body, bodyMember, inside⟩ := List.mem_flatMap.1 contentMember
  obtain ⟨node, nodeMember, rfl⟩ := List.mem_map.1 bodyMember
  have nodeWritable := writable node (Array.mem_toList_iff.1 nodeMember)
  exact Node.Body.speaks_contents nodeWritable content inside

/-- The text of a writable script is spelled by the lines that it is written as. -/
theorem spells_writtenLines
    {script : Script}
    (writable : script.Writable) :
    Text.Spells script.writtenLines script.write.toList := by
  have wellFormed : ∀ line ∈ script.writtenLines, line.WellFormed :=
    fun line member => (speaks_writtenLines writable line member).wellFormed
  have written : script.write.toList = script.writtenLines.flatMap Line.characters := by
    simp only [write, writtenLines, bodies, String.toList_ofList, List.flatMap_map]
    rfl
  rw [written]
  exact Text.spells_flatMap wellFormed

/-- The lines that a writable script is written as are records, one for each node. -/
theorem decomposes_writtenLines
    {script : Script}
    (writable : script.Writable) :
    Record.Decomposes (script.bodies.map Node.Body.contents)
      (Record.contentsOf script.writtenLines) := by
  constructor
  · intro form member
    obtain ⟨body, bodyMember, rfl⟩ := List.mem_map.1 member
    obtain ⟨node, nodeMember, rfl⟩ := List.mem_map.1 bodyMember
    exact Node.Body.form_contents (writable node (Array.mem_toList_iff.1 nodeMember))
  · have something : ∀ content ∈ script.writtenLines.map Line.content,
        (!content.isEmpty) = true := by
      intro content member
      obtain ⟨line, lineMember, rfl⟩ := List.mem_map.1 member
      simpa [Line.isBlank] using (speaks_writtenLines writable line lineMember).unblank
    rw [Record.contentsOf, List.filter_eq_self.2 something, writtenLines, List.map_map,
      List.flatMap_def]
    exact (List.map_id' _).symm

/-- Records that say what nodes are written as describe these nodes. -/
theorem nodes_of_contents
    {records : List Record}
    {bodies : List Node.Body}
    (wellFormed : ∀ record ∈ records, record.WellFormed)
    (said : records.map Record.contents = bodies.map Node.Body.contents)
    (small : ∀ body ∈ bodies, ∀ destination ∈ body.destinations, destination ≤ terminal) :
    ∃ nodes,
      (records.map Record.draft).mapM Draft.node = .ok nodes ∧ nodes.map Node.body = bodies := by
  simp only [Outcome.mapM_eq_ok_iff, List.forall₂_map_left_iff]
  induction bodies generalizing records with
  | nil =>
      cases List.map_eq_nil_iff.1 said
      exact ⟨[], .nil, rfl⟩
  | cons body rest inductionHypothesis =>
      obtain ⟨record, others, rfl, recordSaid, othersSaid⟩ := List.map_eq_cons_iff.1 said
      obtain ⟨node, described, sameBody⟩ :=
        Record.node_of_contents (wellFormed record List.mem_cons_self) recordSaid
          (small body List.mem_cons_self)
      obtain ⟨nodes, othersDescribed, sameBodies⟩ :=
        inductionHypothesis
          (fun other member => wellFormed other (List.mem_cons_of_mem record member)) othersSaid
          (fun other member => small other (List.mem_cons_of_mem body member))
      refine ⟨node :: nodes, .cons described othersDescribed, ?_⟩
      rw [List.map_cons, sameBody, sameBodies]

/-- No destination in a script lies beyond the terminal id. -/
theorem le_terminal_of_mem_destinations
    (script : Script) :
    ∀ body ∈ script.bodies, ∀ destination ∈ body.destinations, destination ≤ terminal := by
  intro body member destination destinationMember
  obtain ⟨node, nodeMember, rfl⟩ := List.mem_map.1 member
  have nodeInside := Array.mem_toList_iff.1 nodeMember
  rcases script.closed node nodeInside destination destinationMember with ends | present
  · exact Nat.le_of_eq ends
  · exact Nat.le_of_lt (Nat.lt_of_lt_of_le present script.size_le)

/-- Whether a script is writable does not depend on where its nodes stand. -/
theorem writable_iff
    (script : Script) :
    script.Writable ↔ ∀ body ∈ script.bodies, body.Writable := by
  simp [Writable, bodies]

/-- Nodes that do what those of a script do make a script themselves. -/
theorem exists_of_bodies
    (script : Script)
    {nodes : List Node}
    (sameBodies : nodes.map Node.body = script.bodies) :
    ∃ other : Script, other.nodes.toList = nodes ∧ other.bodies = script.bodies := by
  have sameSize : nodes.length = script.nodes.size := by
    simpa [bodies] using congrArg List.length sameBodies
  have closed : ∀ node ∈ nodes.toArray, ∀ destination ∈ node.destinations,
      destination = terminal ∨ destination < nodes.toArray.size := by
    intro node member destination destinationMember
    have bodyMember : node.body ∈ script.bodies := by
      rw [← sameBodies]
      exact List.mem_map_of_mem (List.mem_toArray.1 member)
    obtain ⟨twin, twinMember, sameBody⟩ := List.mem_map.1 bodyMember
    have twinDestination : destination ∈ twin.destinations := by
      unfold Node.destinations
      rw [sameBody]
      exact destinationMember
    rw [List.size_toArray, sameSize]
    exact script.closed twin (Array.mem_toList_iff.1 twinMember) destination twinDestination
  have few : nodes.toArray.size ≤ terminal := by
    rw [List.size_toArray, sameSize]
    exact script.size_le
  exact ⟨⟨nodes.toArray, few, closed⟩, rfl, sameBodies⟩

/-- A writable script that is written reads back. -/
theorem read_write
    {script : Script}
    (writable : script.Writable) :
    (read script.write).map bodies = .ok script.bodies := by
  obtain ⟨records, accepted, said⟩ :=
    Record.readAll_of_decomposes (spells_writtenLines writable) (decomposes_writtenLines writable)
  have wellFormed := Record.wellFormed_of_readAll accepted
  obtain ⟨nodes, described, sameBodies⟩ :=
    nodes_of_contents wellFormed said script.le_terminal_of_mem_destinations
  obtain ⟨other, rfl, sameOther⟩ := script.exists_of_bodies sameBodies
  have readBack : read script.write = .ok other := read_eq_ok_iff.2 ⟨records, accepted, described⟩
  rw [readBack, ← sameOther]
  rfl

/-- Every text describes a writable script. -/
theorem writable_of_read
    {text : String}
    {script : Script}
    (described : read text = .ok script) :
    script.Writable := by
  obtain ⟨records, accepted, nodesDescribed⟩ := read_eq_ok_iff.1 described
  have wellFormed := Record.wellFormed_of_readAll accepted
  intro node member
  obtain ⟨draft, draftMember, nodeDescribed⟩ :=
    Outcome.exists_of_mem_mapM nodesDescribed node (Array.mem_toList_iff.2 member)
  obtain ⟨record, recordMember, rfl⟩ := List.mem_map.1 draftMember
  exact Record.writable_of_node (wellFormed record recordMember) nodeDescribed

/--
The writable scripts are exactly those that, written and read back, do what they did before;
and every text describes a writable one. Being writable does not depend on where the nodes
stand.
-/
theorem reads_back_iff_writable :
    (∀ script : Script,
      (read script.write).map bodies = .ok script.bodies ↔ script.Writable) ∧
    ∀ text script, read text = .ok script →
      script.Writable ∧ (read script.write).map bodies = .ok script.bodies := by
  constructor
  · intro script
    constructor
    · intro readsBack
      cases described : read script.write with
      | error fault =>
          rw [described] at readsBack
          cases readsBack
      | ok other =>
          rw [described] at readsBack
          have sameBodies : other.bodies = script.bodies := Except.ok.inj readsBack
          have writable := (writable_iff other).1 (writable_of_read described)
          rw [writable_iff, ← sameBodies]
          exact writable
    · exact read_write
  · intro text script described
    have writable := writable_of_read described
    exact ⟨writable, read_write writable⟩

/-- A script with a node of each kind. -/
def eachKind : Script where
  nodes := #[
    ⟨.question 1 2 "name" ["Who is it?"], some 2⟩,
    ⟨.branching "way" "Where to?" [⟨"", 0⟩, ⟨"out", 9999⟩] (by decide), some 7⟩,
    ⟨.terminating "Bye.", some 12⟩]
  size_le := by decide
  closed := by decide

/-- A text of `eachKind` that is not the one it is written as. -/
def eachKindText : String :=
  "\n1\n01\r\n2\nname\nWho is it?\n2\nway\nWhere to?\n:0\nout:9999\n3\nBye."

/-- This text has a node of each kind, and is not as its script is written. -/
theorem reads_back_iff_writable_eachKind :
    read eachKindText = .ok eachKind ∧ eachKind.write ≠ eachKindText ∧ eachKind.Writable ∧
      (read eachKind.write).map bodies = .ok eachKind.bodies := by
  have described : read eachKindText = .ok eachKind := by decide +kernel
  have rewritten : eachKind.write ≠ eachKindText := by decide +kernel
  exact ⟨described, rewritten, reads_back_iff_writable.2 eachKindText eachKind described⟩

end Script
end Dialog
