import Dialog.Proofs.Script.Loading
import Dialog.Proofs.Text.Sayings

namespace Dialog

/-!
# What is said arrives as it was said

`Means` tells what the contents of a record's lines make a node do: a text is taken
as it stands, a numeral for its value, and an option is cut at its only colon. A
script that is read has a node for each record of its text, in order, which does
what the lines of the record say and stands at the line of its tag (`Transcribed`).

Nothing else in the text has a part in it. Its blank lines, the kinds of its line
ends, and whether the last line has one, may change: as long as the text tells the
same records, the nodes do what they did.
-/

/-- A numeral that is read has its own value. -/
theorem Numeral.eq_value_of_read
    {digits : List Char}
    {number : Nat}
    (accepted : read digits = .ok number) :
    number = value digits := by
  unfold read at accepted
  split at accepted
  · split at accepted
    · exact (Except.ok.inj accepted).symm
    · cases accepted
  · cases accepted

namespace Record

/-- The choice that an option offers: the text before its only colon, and the value after it. -/
inductive Offers : List Char → Choice → Prop where
  | option (text digits : List Char) :
      ':' ∉ text →
      Numeral.isNumeral digits = true →
      Offers (text ++ ':' :: digits) ⟨String.ofList text, Numeral.value digits⟩

/-- What a node does whose record has lines that say these contents. -/
inductive Means : List (List Char) → Node.Body → Prop where
  | question (success fail name : List Char) (prompts : List (List Char)) :
      Means (Tag.content .question :: success :: fail :: name :: prompts)
        (.question (Numeral.value success) (Numeral.value fail) (String.ofList name)
          (prompts.map String.ofList))
  | branching
      (name asked : List Char)
      (options : List (List Char))
      (choices : List Choice)
      (nonempty : choices ≠ []) :
      List.Forall₂ Offers options choices →
      Means (Tag.content .branching :: name :: asked :: options)
        (.branching (String.ofList name) (String.ofList asked) choices nonempty)
  | terminating (message : List Char) :
      Means [Tag.content .terminating, message] (.terminating (String.ofList message))

/-- A content offers one choice at most. -/
theorem Offers.unique
    {content : List Char}
    {choice other : Choice}
    (offers : Offers content choice)
    (offersToo : Offers content other) :
    choice = other := by
  obtain ⟨text, digits, colonFree, numeral⟩ := offers
  generalize whole : text ++ ':' :: digits = content at offersToo
  obtain ⟨otherText, otherDigits, _, _⟩ := offersToo
  have digitsColonFree : ':' ∉ digits := Numeral.not_mem_of_isNumeral numeral rfl
  obtain ⟨rfl, _, rfl⟩ := (List.append_cons_inj_of_notMem colonFree digitsColonFree).1 whole
  rfl

/-- Contents mean one thing at most. -/
theorem Means.unique
    {form : List (List Char)}
    {body other : Node.Body}
    (means : Means form body)
    (meansToo : Means form other) :
    body = other := by
  cases means with
  | question =>
      cases meansToo
      rfl
  | branching name asked options choices nonempty offered =>
      cases meansToo with
      | branching _ _ _ others _ offeredToo =>
          have same : choices = others := by
            apply List.right_unique_forall₂' _ offered offeredToo
            exact fun option choice other => Offers.unique
          subst same
          rfl
  | terminating =>
      cases meansToo
      rfl

/-- A choice that is read from an option line is the one that it offers. -/
theorem offers_of_choice
    {token : Token}
    {choice : Choice}
    (plays : token.Plays .option)
    (cut : token.draftLine.choice = .ok choice) :
    Offers token.content choice := by
  obtain ⟨text, digits, said, colonFree, isNumeral⟩ := plays.fits
  rw [Token.choice_of_isNumeral said isNumeral, Outcome.mapError_eq_ok_iff,
    Outcome.map_eq_ok_iff] at cut
  obtain ⟨destination, accepted, rfl⟩ := cut
  rw [Numeral.eq_value_of_read accepted, said]
  exact .option text digits colonFree isNumeral

/-- A number that is read from an integer line is the value of its digits. -/
theorem eq_value_of_integer
    {token : Token}
    {number : Nat}
    (plays : token.Plays .integer)
    (accepted : token.draftLine.integer = .ok (number : Int)) :
    number = Numeral.value token.content := by
  rw [Token.integer_of_isNumeral plays.fits, Outcome.mapError_eq_ok_iff,
    Outcome.map_eq_ok_iff] at accepted
  obtain ⟨found, accepted, same⟩ := accepted
  rw [← Int.ofNat.inj same, Numeral.eq_value_of_read accepted]

/-- A well-formed record describes what its contents mean. -/
theorem means_of_node
    {record : Record}
    {node : Node}
    (wellFormed : record.WellFormed)
    (described : record.node = .ok node) :
    Means record.contents node.body := by
  cases record with
  | question tag success fail name prompts =>
      obtain ⟨tagPlays, successPlays, failPlays, _, _⟩ := wellFormed
      obtain ⟨successId, failId, successRead, failRead, rfl⟩ := question_of_node described
      have opens : tag.content = Tag.content .question := tagPlays.fits
      have sameSuccess := eq_value_of_integer successPlays successRead
      have sameFail := eq_value_of_integer failPlays failRead
      have samePrompts : (prompts.map Token.draftLine).map Draft.Line.content =
          (prompts.map Token.content).map String.ofList := by
        rw [List.map_map, List.map_map]
        rfl
      simp only [contents, tokens, List.map_cons, opens, sameSuccess, sameFail, samePrompts]
      exact .question success.content fail.content name.content (prompts.map Token.content)
  | branching tag name asked options =>
      obtain ⟨tagPlays, _, _, _, optionsPlay⟩ := wellFormed
      obtain ⟨choices, nonempty, cuts, rfl⟩ := branching_of_node described
      have opens : tag.content = Tag.content .branching := tagPlays.fits
      rw [Outcome.mapM_eq_ok_iff, List.forall₂_map_left_iff] at cuts
      have offered : List.Forall₂ Offers (options.map Token.content) choices := by
        rw [List.forall₂_map_left_iff]
        have played := (List.forall₂_and_left options choices).2 ⟨optionsPlay, cuts⟩
        exact played.imp fun token choice both => offers_of_choice both.1 both.2
      simp only [contents, tokens, List.map_cons, opens]
      exact .branching name.content asked.content (options.map Token.content) choices nonempty
        offered
  | terminating tag message =>
      obtain ⟨tagPlays, _⟩ := wellFormed
      obtain rfl := terminating_of_node described
      have opens : tag.content = Tag.content .terminating := tagPlays.fits
      simp only [contents, tokens, List.map_cons, List.map_nil, opens]
      exact .terminating message.content

/-- A node stands where the tag of its record stands. -/
theorem line_of_node
    {record : Record}
    {node : Node}
    (described : record.node = .ok node) :
    ∃ tag ∈ record.tokens.head?, node.line = some (tag.line : Int) := by
  cases record with
  | question =>
      obtain ⟨_, _, _, _, rfl⟩ := question_of_node described
      exact ⟨_, rfl, rfl⟩
  | branching =>
      obtain ⟨_, _, _, rfl⟩ := branching_of_node described
      exact ⟨_, rfl, rfl⟩
  | terminating =>
      obtain rfl := terminating_of_node described
      exact ⟨_, rfl, rfl⟩

/-- A node that does what the lines of its record say, and stands at the first of them. -/
structure Transcribes (chunk : List (Line × Nat)) (node : Node) : Prop where
  formed : Form (chunk.map saying)
  means : Means (chunk.map saying) node.body
  placed : ∃ tag ∈ chunk.head?, node.line = some (tag.2 : Int)

/-- The node of a record stands for the lines that hold the tokens of the record. -/
theorem transcribes_of_node
    {record : Record}
    {node : Node}
    {chunk : List (Line × Nat)}
    (wellFormed : record.WellFormed)
    (described : record.node = .ok node)
    (places : record.tokens.map standing = chunk.map standingOf)
    (linesWellFormed : ∀ line ∈ chunk, line.1.WellFormed) :
    Transcribes chunk node := by
  have said : record.contents = chunk.map saying := map_content_of_standing places linesWellFormed
  refine ⟨?_, ?_, ?_⟩
  · exact said ▸ form_of_wellFormed wellFormed
  · exact said ▸ means_of_node wellFormed described
  · obtain ⟨token, first, placed⟩ := line_of_node described
    have heads := congrArg List.head? places
    rw [List.head?_map, List.head?_map, first, Option.map_some, eq_comm,
      Option.map_eq_some_iff] at heads
    obtain ⟨tag, tagFirst, same⟩ := heads
    refine ⟨tag, tagFirst, ?_⟩
    rw [placed]
    exact congrArg (fun place : String × Nat => some (place.2 : Int)) same.symm

/--
The lines of a text fall to the nodes of its records, one after the other: the first lines
hold the tokens of the first record, and the others those of the rest.
-/
theorem exists_chunks
    {records : List Record}
    {nodes : List Node}
    {lines : List (Line × Nat)}
    (described : List.Forall₂ (fun record node => Record.node record = .ok node) records nodes)
    (wellFormed : ∀ record ∈ records, record.WellFormed)
    (places : (records.flatMap tokens).map standing = lines.map standingOf)
    (linesWellFormed : ∀ line ∈ lines, line.1.WellFormed) :
    ∃ chunks, chunks.flatten = lines ∧ List.Forall₂ Transcribes chunks nodes := by
  induction described generalizing lines with
  | nil =>
      cases List.map_eq_nil_iff.1 places.symm
      exact ⟨[], rfl, .nil⟩
  | @cons record node records nodes here _ inductionHypothesis =>
      rw [List.flatMap_cons, List.map_append, eq_comm, List.map_eq_append_iff] at places
      obtain ⟨chunk, rest, rfl, placed, restPlaces⟩ := places
      obtain ⟨chunks, rfl, transcribed⟩ := inductionHypothesis
        (fun other member => wellFormed other (List.mem_cons_of_mem record member))
        restPlaces.symm
        (fun line member => linesWellFormed line (List.mem_append_right chunk member))
      refine ⟨chunk :: chunks, rfl, .cons ?_ transcribed⟩
      exact transcribes_of_node (wellFormed record List.mem_cons_self) here placed.symm
        fun line member => linesWellFormed line (List.mem_append_left _ member)

/-- One node stands above another in their text. -/
def Above (node later : Node) : Prop :=
  ∃ place ∈ node.line, ∃ further ∈ later.line, place < further

/-- Lines are numbered upward. -/
theorem pairwise_numbered
    (first : Nat)
    (lines : List Line) :
    (numbered first lines).Pairwise fun line later => line.2 < later.2 := by
  have numbers : (lines.zipIdx first).Pairwise fun line later => line.2 < later.2 := by
    apply List.pairwise_map.1
    rw [List.zipIdx_map_snd]
    exact List.pairwise_lt_range'
  exact numbers.filter _

/-- Every node of a transcription stands at one of the lines. -/
theorem exists_line_of_mem
    {chunks : List (List (Line × Nat))}
    {nodes : List Node}
    (transcribed : List.Forall₂ Transcribes chunks nodes) :
    ∀ node ∈ nodes, ∃ line ∈ chunks.flatten, node.line = some (line.2 : Int) := by
  induction transcribed with
  | nil =>
      intro node member
      cases member
  | @cons chunk node chunks nodes here _ inductionHypothesis =>
      intro other member
      rcases List.mem_cons.1 member with rfl | later
      · obtain ⟨tag, tagFirst, placed⟩ := here.placed
        exact ⟨tag, List.mem_append_left _ (List.mem_of_mem_head? tagFirst), placed⟩
      · obtain ⟨line, lineMember, placed⟩ := inductionHypothesis other later
        exact ⟨line, List.mem_append_right chunk lineMember, placed⟩

/--
Nodes whose lines come one after the other stand one above the other. A later node stands at
some line of the later chunks, all of which are below the tag of this one.
-/
theorem pairwise_above
    {chunks : List (List (Line × Nat))}
    {nodes : List Node}
    (transcribed : List.Forall₂ Transcribes chunks nodes)
    (ordered : chunks.flatten.Pairwise fun line later => line.2 < later.2) :
    nodes.Pairwise Above := by
  induction transcribed with
  | nil => exact .nil
  | @cons chunk node chunks nodes here rest inductionHypothesis =>
      rw [List.flatten_cons, List.pairwise_append] at ordered
      obtain ⟨_, restOrdered, below⟩ := ordered
      refine .cons ?_ (inductionHypothesis restOrdered)
      intro later member
      obtain ⟨tag, tagFirst, placed⟩ := here.placed
      obtain ⟨line, lineMember, laterPlaced⟩ := exists_line_of_mem rest later member
      refine ⟨tag.2, placed, line.2, laterPlaced, ?_⟩
      exact Int.ofNat_lt.2 (below tag (List.mem_of_mem_head? tagFirst) line lineMember)

end Record

namespace Script

/--
How a script comes from its text: lines spell the text, and those that are not blank, with
their numbers in it, fall to the nodes one after the other.
-/
structure Transcribed
    (text : String)
    (script : Script)
    (lines : List Line)
    (chunks : List (List (Line × Nat))) :
    Prop where
  spelled : Text.Spells lines text.toList
  whole : chunks.flatten = Record.numbered 1 lines
  nodes : List.Forall₂ Record.Transcribes chunks script.nodes.toList
  ordered : script.nodes.toList.Pairwise Record.Above

/-- A script that is read transcribes lines of its text. -/
theorem transcribed_of_read
    {text : String}
    {script : Script}
    (described : read text = .ok script) :
    ∃ lines chunks, Transcribed text script lines chunks := by
  obtain ⟨records, accepted, nodes⟩ := read_eq_ok_iff.1 described
  obtain ⟨lines, spelled, accounts⟩ := Record.accounts_of_readAll accepted
  rw [Outcome.mapM_eq_ok_iff, List.forall₂_map_left_iff] at nodes
  have numberedWellFormed : ∀ line ∈ Record.numbered 1 lines, line.1.WellFormed :=
    fun line member => (Record.speaks_of_mem_numbered spelled.wellFormed line member).wellFormed
  obtain ⟨chunks, whole, transcribed⟩ :=
    Record.exists_chunks nodes accounts.wellFormed accounts.places numberedWellFormed
  refine ⟨lines, chunks, spelled, whole, transcribed, ?_⟩
  apply Record.pairwise_above transcribed
  rw [whole]
  exact Record.pairwise_numbered 1 lines

/-- The texts that describe scripts: their records can be told, and make one. -/
theorem exists_read_iff
    (text : String) :
    (∃ script, read text = .ok script) ↔
      ∃ forms, Tells text forms ∧ ¬Overlong forms ∧ Closes forms := by
  constructor
  · rintro ⟨script, described⟩
    obtain ⟨records, accepted, nodes⟩ := read_eq_ok_iff.1 described
    have wellFormed := Record.wellFormed_of_readAll accepted
    have short : ¬Overlong (records.map Record.contents) := by
      intro overlong
      obtain ⟨fault, stopped⟩ := nodes_of_overlong wellFormed overlong
      cases nodes.symm.trans stopped
    obtain ⟨found, foundNodes, lead⟩ := nodes_of_short wellFormed short
    cases nodes.symm.trans foundNodes
    have closes := (closes_iff lead).2 ⟨script, ofNodes_eq_ok_iff.2 rfl⟩
    exact ⟨_, (tells_iff_readAll text _).2 ⟨records, accepted, rfl⟩, short, closes⟩
  · rintro ⟨forms, tells, short, closes⟩
    obtain ⟨records, accepted, rfl⟩ := (tells_iff_readAll text forms).1 tells
    have wellFormed := Record.wellFormed_of_readAll accepted
    obtain ⟨nodes, described, lead⟩ := nodes_of_short wellFormed short
    obtain ⟨script, made⟩ := (closes_iff lead).1 closes
    cases ofNodes_eq_ok_iff.1 made
    exact ⟨script, read_eq_ok_iff.2 ⟨records, accepted, described⟩⟩

/-- The nodes of a script do what the records of its text mean. -/
theorem exists_means_of_read
    {text : String}
    {script : Script}
    (described : read text = .ok script) :
    ∃ forms, Tells text forms ∧ List.Forall₂ Record.Means forms script.bodies := by
  obtain ⟨records, accepted, nodes⟩ := read_eq_ok_iff.1 described
  have wellFormed := Record.wellFormed_of_readAll accepted
  refine ⟨_, (tells_iff_readAll text _).2 ⟨records, accepted, rfl⟩, ?_⟩
  rw [Outcome.mapM_eq_ok_iff, List.forall₂_map_left_iff] at nodes
  rw [bodies, List.forall₂_map_left_iff, List.forall₂_map_right_iff]
  have taken := (List.forall₂_and_left records script.nodes.toList).2 ⟨wellFormed, nodes⟩
  exact taken.imp fun record node ⟨recordWellFormed, here⟩ =>
    Record.means_of_node recordWellFormed here

/-- What records a text tells shows in what it says. -/
theorem tells_iff_sayings
    (text : String)
    (forms : List (List (List Char))) :
    Tells text forms ↔
      (∀ saying ∈ Text.sayings text.toList, '\r' ∉ saying) ∧
        Record.Decomposes forms (Text.sayings text.toList) := by
  have contents : ∀ lines, Text.Spells lines text.toList →
      Record.contentsOf lines = Text.sayings text.toList := by
    intro lines spelled
    rw [Record.contentsOf, spelled.map_content]
    rfl
  rw [← Text.exists_spells_iff]
  constructor
  · rintro ⟨lines, spelled, decomposes⟩
    exact ⟨⟨lines, spelled⟩, contents lines spelled ▸ decomposes⟩
  · rintro ⟨⟨lines, spelled⟩, decomposes⟩
    exact ⟨lines, spelled, contents lines spelled ▸ decomposes⟩

/-- Texts that say the same are both refused, or describe nodes that do the same. -/
theorem bodies_eq_of_sayings
    {text other : String}
    (same : Text.sayings other.toList = Text.sayings text.toList) :
    (read other).toOption.map bodies = (read text).toOption.map bodies := by
  have sameTold : ∀ forms, Tells other forms ↔ Tells text forms := by
    intro forms
    rw [tells_iff_sayings, tells_iff_sayings, same]
  have sameRead : (∃ script, read other = .ok script) ↔ ∃ script, read text = .ok script := by
    simp only [exists_read_iff, sameTold]
  cases described : read text with
  | error fault =>
      cases describedToo : read other with
      | error => rfl
      | ok script =>
          obtain ⟨found, given⟩ := sameRead.1 ⟨script, describedToo⟩
          cases given.symm.trans described
  | ok script =>
      obtain ⟨otherScript, describedToo⟩ := sameRead.2 ⟨script, described⟩
      obtain ⟨forms, tells, means⟩ := exists_means_of_read described
      obtain ⟨otherForms, tellsToo, meansToo⟩ := exists_means_of_read describedToo
      cases ((sameTold otherForms).1 tellsToo).unique tells
      have sameBodies : otherScript.bodies = script.bodies := by
        apply List.right_unique_forall₂' _ meansToo means
        exact fun form body other => Record.Means.unique
      rw [describedToo]
      exact congrArg some sameBodies

/--
The texts that describe scripts are those that tell records with short numerals, whose nodes
lead to one another or to the end. Each line that is not blank falls to a node, which does what
its lines say and stands at the first of them. Texts that say the same, whatever their blank
lines and line ends, are both refused or describe nodes that do the same.
-/
theorem read_verbatim
    (text : String) :
    ((∃ script, read text = .ok script) ↔
      ∃ forms, Tells text forms ∧ ¬Overlong forms ∧ Closes forms) ∧
    (∀ script, read text = .ok script → ∃ lines chunks, Transcribed text script lines chunks) ∧
    ∀ other, Text.sayings other.toList = Text.sayings text.toList →
      (read other).toOption.map bodies = (read text).toOption.map bodies :=
  ⟨exists_read_iff text, fun _ => transcribed_of_read, fun _ => bodies_eq_of_sayings⟩

/-- A text with blank lines, both kinds of line end, and a carriage return for its last. -/
def looseLayout : String :=
  "\r\n1\r\n001\n\n9999\r\nwho\n Hi: \r\n\r\n" ++
    "2\nway\nWhich: one?\r\na b:00\n:9999\n\n\n" ++ "3\r\nbye \r"

/-- The text that says the same with line feeds only, and without blank lines. -/
def plainLayout : String :=
  "1\n001\n9999\nwho\n Hi: \n2\nway\nWhich: one?\na b:00\n:9999\n3\nbye "

/-- The nodes of `looseLayout`. -/
def looseLayoutNodes : Array Node :=
  #[⟨.question 1 9999 "who" [" Hi: "], some 2⟩,
    ⟨.branching "way" "Which: one?" [⟨"a b", 0⟩, ⟨"", 9999⟩] (by decide), some 9⟩,
    ⟨.terminating "bye ", some 16⟩]

/-- Blank lines and line ends of all kinds leave what a script says as it is. -/
theorem read_verbatim_looseLayout :
    (read looseLayout).map nodes = .ok looseLayoutNodes ∧
      (∃ script lines chunks,
        read looseLayout = .ok script ∧ Transcribed looseLayout script lines chunks) ∧
      Text.sayings plainLayout.toList = Text.sayings looseLayout.toList ∧
      (read plainLayout).toOption.map bodies = (read looseLayout).toOption.map bodies := by
  have described : (read looseLayout).map nodes = .ok looseLayoutNodes := by decide +kernel
  have same : Text.sayings plainLayout.toList = Text.sayings looseLayout.toList := by
    decide +kernel
  obtain ⟨_, transcribed, alike⟩ := read_verbatim looseLayout
  obtain ⟨script, read, _⟩ := Outcome.map_eq_ok_iff.1 described
  obtain ⟨lines, chunks, comes⟩ := transcribed script read
  exact ⟨described, ⟨script, lines, chunks, read, comes⟩, same, alike plainLayout same⟩

end Script
end Dialog
