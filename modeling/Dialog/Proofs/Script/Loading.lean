import Dialog.Proofs.Record.Decomposition
import Dialog.Proofs.Script.Nodes

namespace Dialog

/-!
# What taking up a text may come to

A text is of the format when the lines that spell it say records, one after the
other. What these records say settles the rest: `Record.numerals` are the
numerals in them, `Record.destinations` the nodes that they lead to. A text of
the format whose numerals are all short enough to be read describes nodes, as
many as it has records, and these make a script that can be played unless there
is none of them, there are too many, or one leads to a node that is not there.

So the class of the fault of `Script.load` is known from the text alone
(`load_classified`). Only a numeral that is too long makes it one that is
neither of the grammar nor of the nodes.
-/

namespace Numeral

/-- A numeral that is short enough is read as its value. -/
theorem read_of_short
    {digits : List Char}
    (numeral : isNumeral digits = true)
    (short : digits.length ≤ digitLimit) :
    read digits = .ok (value digits) := by
  rw [read, if_pos numeral, if_pos short]

/-- A numeral that is too long is not read. -/
theorem read_of_long
    {digits : List Char}
    (numeral : isNumeral digits = true)
    (long : digitLimit < digits.length) :
    read digits = .error (.overlong digits.length) := by
  rw [read, if_pos numeral, if_neg (Nat.not_le.2 long)]

/-- Zeros have the value zero, however many there are. -/
theorem value_replicate_zero
    (count : Nat) :
    value (List.replicate count '0') = 0 := by
  induction count with
  | zero => rfl
  | succ count inductionHypothesis =>
      rw [List.replicate_succ, value, Nat.ofDigitChars_cons]
      exact inductionHypothesis

end Numeral

namespace Record

/-- What stands after the first colon of a content. -/
def afterColon (content : List Char) : List Char :=
  (content.dropWhile (· ≠ ':')).drop 1

/-- The numerals of a record: the two of a question, and the one of every option. -/
def numerals : List (List Char) → List (List Char)
  | [] => []
  | tag :: fields =>
      match Tag.read? tag with
      | some .question => fields.take 2
      | some .branching => (fields.drop 2).map afterColon
      | _ => []

/-- Where the node of a record leads: to the end, or where its numerals say. -/
def destinations (form : List (List Char)) : List Nat :=
  if form.head? = some (Tag.content .terminating) then [terminal]
  else (numerals form).map Numeral.value

/-- What follows the only colon comes after it. -/
theorem afterColon_append
    {text digits : List Char}
    (colonFree : ':' ∉ text) :
    afterColon (text ++ ':' :: digits) = digits := by
  have before : ∀ character ∈ text, decide (character ≠ ':') = true := by
    intro character member
    exact decide_eq_true fun same => colonFree (same ▸ member)
  unfold afterColon
  rw [List.dropWhile_append_of_pos before]
  rfl

end Record

namespace Token

/-- An integer line that is short enough has its value. -/
theorem integer_of_short
    {token : Token}
    (plays : token.Plays .integer)
    (short : token.content.length ≤ Numeral.digitLimit) :
    token.draftLine.integer = .ok (Numeral.value token.content : Int) := by
  rw [integer_of_isNumeral plays.fits, Numeral.read_of_short plays.fits short]
  rfl

/-- An integer line that is too long is at fault. -/
theorem integer_of_long
    {token : Token}
    (plays : token.Plays .integer)
    (long : Numeral.digitLimit < token.content.length) :
    token.draftLine.integer = .error (.numeral (.overlong token.content.length)) := by
  rw [integer_of_isNumeral plays.fits, Numeral.read_of_long plays.fits long]
  rfl

/-- An option whose numeral is short enough is read with its destination. -/
theorem choice_of_short
    {token : Token}
    (plays : token.Plays .option)
    (short : (Record.afterColon token.content).length ≤ Numeral.digitLimit) :
    ∃ choice,
      token.draftLine.choice = .ok choice ∧
        choice.destination = Numeral.value (Record.afterColon token.content) := by
  obtain ⟨text, digits, said, colonFree, isNumeral⟩ := plays.fits
  rw [said, Record.afterColon_append colonFree] at short ⊢
  refine ⟨⟨String.ofList text, Numeral.value digits⟩, ?_, rfl⟩
  rw [choice_of_isNumeral said isNumeral, Numeral.read_of_short isNumeral short]
  rfl

/-- An option whose numeral is too long is at fault. -/
theorem choice_of_long
    {token : Token}
    (plays : token.Plays .option)
    (long : Numeral.digitLimit < (Record.afterColon token.content).length) :
    ∃ fault, token.draftLine.choice = .error (.numeral fault) := by
  obtain ⟨text, digits, said, colonFree, isNumeral⟩ := plays.fits
  rw [said, Record.afterColon_append colonFree] at long
  rw [choice_of_isNumeral said isNumeral, Numeral.read_of_long isNumeral long]
  exact ⟨_, rfl⟩

/-- An option line is a choice or has a numeral that is too long. -/
theorem numeral_of_choice_eq_error
    {token : Token}
    {fault : LoadFault}
    (plays : token.Plays .option)
    (fails : token.draftLine.choice = .error fault) :
    ∃ why, fault = .numeral why := by
  by_cases short : (Record.afterColon token.content).length ≤ Numeral.digitLimit
  · obtain ⟨choice, offered, _⟩ := choice_of_short plays short
    cases offered.symm.trans fails
  · obtain ⟨why, overlong⟩ := choice_of_long plays (Nat.lt_of_not_le short)
    cases overlong.symm.trans fails
    exact ⟨why, rfl⟩

/-- Options whose numerals are all short enough are read with their destinations. -/
theorem choices_of_short
    {options : List Token}
    (play : ∀ option ∈ options, option.Plays .option)
    (short :
      ∀ option ∈ options, (Record.afterColon option.content).length ≤ Numeral.digitLimit) :
    ∃ choices,
      (options.map draftLine).mapM Draft.Line.choice = .ok choices ∧
        choices.map Choice.destination =
          options.map fun option => Numeral.value (Record.afterColon option.content) := by
  induction options with
  | nil => exact ⟨[], rfl, rfl⟩
  | cons option rest inductionHypothesis =>
      obtain ⟨choice, offered, leads⟩ :=
        choice_of_short (play option List.mem_cons_self) (short option List.mem_cons_self)
      obtain ⟨choices, offeredToo, lead⟩ := inductionHypothesis
        (fun other member => play other (List.mem_cons_of_mem option member))
        (fun other member => short other (List.mem_cons_of_mem option member))
      refine ⟨choice :: choices, ?_, ?_⟩
      · rw [Outcome.mapM_eq_ok_iff] at offeredToo ⊢
        exact .cons offered offeredToo
      · rw [List.map_cons, List.map_cons, leads, lead]

/-- Among option lines with a numeral that is too long, one such numeral stops the reading. -/
theorem choices_of_long
    {options : List Token}
    {option : Token}
    (play : ∀ option ∈ options, option.Plays .option)
    (member : option ∈ options)
    (long : Numeral.digitLimit < (Record.afterColon option.content).length) :
    ∃ fault, (options.map draftLine).mapM Draft.Line.choice = .error (.numeral fault) := by
  obtain ⟨why, refused⟩ := choice_of_long (play option member) long
  have causes : ∀ line ∈ options.map draftLine, ∀ fault,
      line.choice = .error fault → ∃ why, fault = .numeral why := by
    intro line lineMember fault fails
    obtain ⟨other, otherMember, rfl⟩ := List.mem_map.1 lineMember
    exact numeral_of_choice_eq_error (play other otherMember) fails
  obtain ⟨_, stopped, first, rfl⟩ :=
    Outcome.mapM_eq_error_of (List.mem_map_of_mem member) refused causes
  exact ⟨first, stopped⟩

end Token

namespace Record

/-- A record with short numerals describes a node that leads where the record says. -/
theorem node_of_short
    {record : Record}
    (wellFormed : record.WellFormed)
    (short : ∀ digits ∈ numerals record.contents, digits.length ≤ Numeral.digitLimit) :
    ∃ node, record.node = .ok node ∧ node.destinations = destinations record.contents := by
  cases record with
  | question tag success fail name prompts =>
      obtain ⟨tagPlays, successPlays, failPlays, _, _⟩ := wellFormed
      have opens : tag.content = Tag.content .question := tagPlays.fits
      simp only [contents, tokens, List.map_cons, opens] at short ⊢
      have drafted :
          node (.question tag success fail name prompts) =
            Draft.question tag.draftLine success.draftLine fail.draftLine
              name.draftLine (prompts.map Token.draftLine) := rfl
      have successShort := short success.content (by simp [numerals, Tag.read?, Tag.content])
      have failShort := short fail.content (by simp [numerals, Tag.read?, Tag.content])
      rw [drafted, Draft.question, Token.integer_of_short successPlays successShort,
        Token.integer_of_short failPlays failShort]
      exact ⟨_, rfl, rfl⟩
  | branching tag name asked options =>
      obtain ⟨tagPlays, _, _, nonempty, optionsPlay⟩ := wellFormed
      have opens : tag.content = Tag.content .branching := tagPlays.fits
      simp only [contents, tokens, List.map_cons, opens] at short ⊢
      have optionsShort : ∀ option ∈ options,
          (afterColon option.content).length ≤ Numeral.digitLimit := by
        intro option member
        apply short
        simp only [numerals, Tag.read?, Tag.content, List.drop_succ_cons, List.drop_zero,
          List.map_map]
        exact List.mem_map_of_mem member
      obtain ⟨choices, offered, lead⟩ := Token.choices_of_short optionsPlay optionsShort
      have drafted :
          node (.branching tag name asked options) =
            Draft.branching tag.draftLine name.draftLine asked.draftLine
              (options.map Token.draftLine) := rfl
      have someChoices : choices ≠ [] := by
        rintro rfl
        exact nonempty (List.map_eq_nil_iff.1 lead.symm)
      obtain ⟨first, more, rfl⟩ := List.exists_cons_of_ne_nil someChoices
      rw [drafted, Draft.branching, offered]
      refine ⟨_, rfl, ?_⟩
      refine lead.trans ?_
      simp [destinations, numerals, Tag.read?, Tag.content]
  | terminating tag message =>
      have opens : tag.content = Tag.content .terminating := wellFormed.1.fits
      refine ⟨_, rfl, ?_⟩
      simp only [contents, tokens, List.map_cons, opens]
      rfl

/--
A record with a numeral that is too long describes no node, for that reason. In a question
whose first numeral can be read, the second is the long one.
-/
theorem node_of_long
    {record : Record}
    (wellFormed : record.WellFormed)
    (long : ∃ digits ∈ numerals record.contents, Numeral.digitLimit < digits.length) :
    ∃ fault, record.node = .error (.numeral fault) := by
  obtain ⟨digits, member, long⟩ := long
  cases record with
  | question tag success fail name prompts =>
      obtain ⟨tagPlays, successPlays, failPlays, _, _⟩ := wellFormed
      have opens : tag.content = Tag.content .question := tagPlays.fits
      have drafted :
          node (.question tag success fail name prompts) =
            Draft.question tag.draftLine success.draftLine fail.draftLine
              name.draftLine (prompts.map Token.draftLine) := rfl
      rw [drafted, Draft.question]
      by_cases successShort : success.content.length ≤ Numeral.digitLimit
      · have failLong : Numeral.digitLimit < fail.content.length := by
          simp only [contents, tokens, List.map_cons, opens, numerals, Tag.read?, Tag.content,
            List.take_succ_cons, List.take_zero, List.mem_cons, List.not_mem_nil,
            or_false] at member
          rcases member with rfl | rfl
          · exact absurd successShort (Nat.not_le.2 long)
          · exact long
        rw [Token.integer_of_short successPlays successShort,
          Token.integer_of_long failPlays failLong]
        exact ⟨_, rfl⟩
      · rw [Token.integer_of_long successPlays (Nat.lt_of_not_le successShort)]
        exact ⟨_, rfl⟩
  | branching tag name asked options =>
      obtain ⟨tagPlays, _, _, _, optionsPlay⟩ := wellFormed
      have opens : tag.content = Tag.content .branching := tagPlays.fits
      simp only [contents, tokens, List.map_cons, opens, numerals, Tag.read?, Tag.content,
        List.drop_succ_cons, List.drop_zero, List.map_map, List.mem_map] at member
      obtain ⟨option, optionMember, rfl⟩ := member
      have drafted :
          node (.branching tag name asked options) =
            Draft.branching tag.draftLine name.draftLine asked.draftLine
              (options.map Token.draftLine) := rfl
      obtain ⟨why, stopped⟩ := Token.choices_of_long optionsPlay optionMember long
      rw [drafted, Draft.branching, stopped]
      exact ⟨why, rfl⟩
  | terminating tag message =>
      have opens : tag.content = Tag.content .terminating := wellFormed.1.fits
      simp only [contents, tokens, List.map_cons, opens] at member
      cases member

/-- A record describes a node or has a numeral that is too long. -/
theorem numeral_of_node_eq_error
    {record : Record}
    {fault : LoadFault}
    (wellFormed : record.WellFormed)
    (fails : record.node = .error fault) :
    ∃ why, fault = .numeral why := by
  by_cases short : ∀ digits ∈ numerals record.contents, digits.length ≤ Numeral.digitLimit
  · obtain ⟨node, described, _⟩ := node_of_short wellFormed short
    cases described.symm.trans fails
  · simp only [not_forall, Nat.not_le, exists_prop] at short
    obtain ⟨why, refused⟩ := node_of_long wellFormed short
    cases refused.symm.trans fails
    exact ⟨why, rfl⟩

end Record

namespace Script

/-- Lines that spell the text say these records, one after the other. -/
def Tells (text : String) (forms : List (List (List Char))) : Prop :=
  ∃ lines, Text.Spells lines text.toList ∧ Record.Decomposes forms (Record.contentsOf lines)

/-- A numeral of the records has too many digits to be read. -/
def Overlong (forms : List (List (List Char))) : Prop :=
  ∃ digits ∈ forms.flatMap Record.numerals, Numeral.digitLimit < digits.length

/-- The nodes of the records make no script that can be played. -/
inductive Unusable (forms : List (List (List Char))) : Prop where
  | none (nothing : forms = [])
  | tooMany (many : terminal < forms.length)
  | missing
      (destination : Nat)
      (leads : destination ∈ forms.flatMap Record.destinations)
      (goesOn : destination ≠ terminal)
      (beyond : forms.length ≤ destination)

/-- The class of the fault that an outcome is, if it is one. -/
def faultClass : Except LoadFault Script → Option String
  | .ok _ => none
  | .error fault => some fault.className

/-- Records with short numerals describe nodes, one each, that lead where the records say. -/
theorem nodes_of_short
    {records : List Record}
    (wellFormed : ∀ record ∈ records, record.WellFormed)
    (short : ¬Overlong (records.map Record.contents)) :
    ∃ nodes,
      (records.map Record.draft).mapM Draft.node = .ok nodes ∧
        nodes.map Node.destinations = (records.map Record.contents).map Record.destinations := by
  induction records with
  | nil => exact ⟨[], rfl, rfl⟩
  | cons record rest inductionHypothesis =>
      simp only [Overlong, List.map_cons, List.flatMap_cons, List.mem_append, not_exists,
        not_and] at short
      have recordShort : ∀ digits ∈ Record.numerals record.contents,
          digits.length ≤ Numeral.digitLimit :=
        fun digits member => Nat.not_lt.1 (short digits (Or.inl member))
      obtain ⟨node, described, leads⟩ :=
        Record.node_of_short (wellFormed record List.mem_cons_self) recordShort
      obtain ⟨nodes, describedToo, lead⟩ := inductionHypothesis
        (fun other member => wellFormed other (List.mem_cons_of_mem record member))
        (fun ⟨digits, member, long⟩ => short digits (Or.inr member) long)
      refine ⟨node :: nodes, ?_, ?_⟩
      · rw [Outcome.mapM_eq_ok_iff] at describedToo ⊢
        exact .cons described describedToo
      · rw [List.map_cons, leads, lead, List.map_cons, List.map_cons]

/-- Among records with a numeral that is too long, one such numeral stops the reading. -/
theorem nodes_of_overlong
    {records : List Record}
    (wellFormed : ∀ record ∈ records, record.WellFormed)
    (overlong : Overlong (records.map Record.contents)) :
    ∃ fault, (records.map Record.draft).mapM Draft.node = .error (.numeral fault) := by
  obtain ⟨digits, member, long⟩ := overlong
  obtain ⟨form, formMember, digitsMember⟩ := List.mem_flatMap.1 member
  obtain ⟨record, recordMember, rfl⟩ := List.mem_map.1 formMember
  obtain ⟨why, refused⟩ :=
    Record.node_of_long (wellFormed record recordMember) ⟨digits, digitsMember, long⟩
  have causes : ∀ draft ∈ records.map Record.draft, ∀ fault,
      draft.node = .error fault → ∃ why, fault = .numeral why := by
    intro draft draftMember fault fails
    obtain ⟨other, otherMember, rfl⟩ := List.mem_map.1 draftMember
    exact Record.numeral_of_node_eq_error (wellFormed other otherMember) fails
  obtain ⟨_, stopped, first, rfl⟩ :=
    Outcome.mapM_eq_error_of (List.mem_map_of_mem recordMember) refused causes
  exact ⟨first, stopped⟩

/-- Nodes make a script when they are few enough and lead to one another or to the end. -/
theorem exists_ofNodes_iff
    (nodes : List Node) :
    (∃ script, ofNodes nodes = .ok script) ↔
      nodes.length ≤ terminal ∧
        ∀ destination ∈ nodes.flatMap Node.destinations,
          destination = terminal ∨ destination < nodes.length := by
  constructor
  · rintro ⟨script, made⟩
    obtain rfl := ofNodes_eq_ok_iff.1 made
    refine ⟨script.size_le, ?_⟩
    intro destination member
    obtain ⟨node, nodeMember, leads⟩ := List.mem_flatMap.1 member
    exact script.closed node (Array.mem_toList_iff.1 nodeMember) destination leads
  · rintro ⟨few, closed⟩
    refine ⟨⟨nodes.toArray, few, ?_⟩, ofNodes_eq_ok_iff.2 rfl⟩
    intro node member destination leads
    exact closed destination (List.mem_flatMap.2 ⟨node, List.mem_toArray.1 member, leads⟩)

/-- The nodes of the records are few enough and lead to one another or to the end. -/
structure Closes (forms : List (List (List Char))) : Prop where
  few : forms.length ≤ terminal
  present :
    ∀ destination ∈ forms.flatMap Record.destinations,
      destination = terminal ∨ destination < forms.length

/-- Destinations are closed just when the nodes that have them make a script. -/
theorem closes_iff
    {nodes : List Node}
    {forms : List (List (List Char))}
    (lead : nodes.map Node.destinations = forms.map Record.destinations) :
    Closes forms ↔ ∃ script, ofNodes nodes = .ok script := by
  have sameLength : nodes.length = forms.length := by
    simpa using congrArg List.length lead
  rw [exists_ofNodes_iff, List.flatMap_def, lead, ← List.flatMap_def, sameLength]
  exact ⟨fun closes => ⟨closes.few, closes.present⟩, fun ⟨few, present⟩ => ⟨few, present⟩⟩

/-- A text tells the records that are read from it, and no others. -/
theorem tells_iff_readAll
    (text : String)
    (forms : List (List (List Char))) :
    Tells text forms ↔
      ∃ records, Record.readAll text = .ok records ∧ records.map Record.contents = forms := by
  constructor
  · rintro ⟨lines, spelled, decomposes⟩
    exact Record.readAll_of_decomposes spelled decomposes
  · rintro ⟨records, accepted, rfl⟩
    obtain ⟨lines, spelled, accounts⟩ := Record.accounts_of_readAll accepted
    exact ⟨lines, spelled, (accounts.decomposes_iff _).2 rfl⟩

/-- A text tells one list of records at most. -/
theorem Tells.unique
    {text : String}
    {forms others : List (List (List Char))}
    (tells : Tells text forms)
    (tellsToo : Tells text others) :
    forms = others := by
  obtain ⟨records, accepted, rfl⟩ := (tells_iff_readAll text forms).1 tells
  obtain ⟨found, acceptedToo, rfl⟩ := (tells_iff_readAll text others).1 tellsToo
  cases accepted.symm.trans acceptedToo
  rfl

/-- A text that tells records is taken up as these records are. -/
theorem load_of_tells
    {text : String}
    {forms : List (List (List Char))}
    (tells : Tells text forms) :
    ∃ records,
      (∀ record ∈ records, record.WellFormed) ∧
        records.map Record.contents = forms ∧
          load text = ofRecords records >>= playable := by
  obtain ⟨records, accepted, sameForms⟩ := (tells_iff_readAll text forms).1 tells
  have wellFormed := Record.wellFormed_of_readAll accepted
  refine ⟨records, wellFormed, sameForms, ?_⟩
  unfold load read
  rw [accepted]
  rfl

/-- A text that tells no records is at fault in its grammar. -/
theorem load_of_untold
    {text : String}
    (untold : ¬∃ forms, Tells text forms) :
    faultClass (load text) = some "ParseError" := by
  cases read : Record.readAll text with
  | ok records => exact absurd ⟨_, (tells_iff_readAll text _).2 ⟨records, read, rfl⟩⟩ untold
  | error fault =>
      unfold load Script.read
      rw [read]
      rfl

/-- A numeral that is too long is the fault of a text that tells records. -/
theorem numeral_of_overlong
    {text : String}
    {forms : List (List (List Char))}
    (tells : Tells text forms)
    (overlong : Overlong forms) :
    ∃ why, load text = .error (.numeral why) := by
  obtain ⟨records, wellFormed, rfl, taken⟩ := load_of_tells tells
  obtain ⟨why, stopped⟩ := nodes_of_overlong wellFormed overlong
  refine ⟨why, ?_⟩
  rw [taken, ofRecords, ofDrafts, stopped]
  rfl

/-- A numeral that is too long makes a fault neither of the grammar nor of the nodes. -/
theorem load_of_overlong
    {text : String}
    {forms : List (List (List Char))}
    (tells : Tells text forms)
    (overlong : Overlong forms) :
    faultClass (load text) = some "ValueError" := by
  obtain ⟨why, stopped⟩ := numeral_of_overlong tells overlong
  rw [stopped]
  rfl

/-- A text whose numerals can be read is taken up as the nodes that it describes are. -/
theorem load_of_short
    {text : String}
    {forms : List (List (List Char))}
    (tells : Tells text forms)
    (short : ¬Overlong forms) :
    ∃ nodes,
      nodes.map Node.destinations = forms.map Record.destinations ∧
        load text = (ofNodes nodes).mapError .unusable >>= playable := by
  obtain ⟨records, wellFormed, rfl, taken⟩ := load_of_tells tells
  obtain ⟨nodes, described, lead⟩ := nodes_of_short wellFormed short
  refine ⟨nodes, lead, ?_⟩
  rw [taken, ofRecords, ofDrafts, described]
  rfl

/-- Nodes that make no script are at fault; those that make one are usable. -/
theorem load_of_unusable
    {text : String}
    {forms : List (List (List Char))}
    (tells : Tells text forms)
    (short : ¬Overlong forms)
    (unusable : Unusable forms) :
    faultClass (load text) = some "SemanticError" := by
  obtain ⟨nodes, lead, taken⟩ := load_of_short tells short
  have sameLength : nodes.length = forms.length := by
    simpa using congrArg List.length lead
  rw [taken]
  cases made : ofNodes nodes with
  | error fault => rfl
  | ok script =>
      have closes := (closes_iff lead).2 ⟨script, made⟩
      cases unusable with
      | none nothing =>
          have empty : script.size = 0 := by
            have same := ofNodes_eq_ok_iff.1 made
            subst same
            simpa [nothing, size] using sameLength
          simp only [Except.mapError, bind, Except.bind, playable, if_pos empty]
          rfl
      | tooMany many => exact absurd closes.few (Nat.not_le.2 many)
      | missing destination leads goesOn beyond =>
          rcases closes.present destination leads with ends | present
          · exact absurd ends goesOn
          · exact absurd present (Nat.not_lt.2 beyond)

/-- Nodes that make a script are at no fault. -/
theorem load_of_usable
    {text : String}
    {forms : List (List (List Char))}
    (tells : Tells text forms)
    (short : ¬Overlong forms)
    (usable : ¬Unusable forms) :
    faultClass (load text) = none := by
  obtain ⟨nodes, lead, taken⟩ := load_of_short tells short
  have sameLength : nodes.length = forms.length := by
    simpa using congrArg List.length lead
  have closes : Closes forms := by
    refine ⟨Nat.not_lt.1 fun many => usable (.tooMany many), ?_⟩
    intro destination leads
    by_cases ends : destination = terminal
    · exact Or.inl ends
    · exact Or.inr (Nat.not_le.1 fun beyond => usable (.missing destination leads ends beyond))
  obtain ⟨script, made⟩ := (closes_iff lead).1 closes
  have nonempty : script.size ≠ 0 := by
    intro empty
    apply usable
    apply Unusable.none
    have same := ofNodes_eq_ok_iff.1 made
    subst same
    apply List.length_eq_zero_iff.1
    rw [← sameLength]
    exact empty
  rw [taken, made]
  simp only [Except.mapError, bind, Except.bind, playable, if_neg nonempty]
  rfl

/-- Every text is of one of four sorts, each with the outcome of its own. -/
theorem load_sorted
    (text : String) :
    (faultClass (load text) = some "ParseError" ∧ ¬∃ forms, Tells text forms) ∨
      (faultClass (load text) = some "ValueError" ∧ ∃ forms, Tells text forms ∧ Overlong forms) ∨
        (faultClass (load text) = some "SemanticError" ∧
          ∃ forms, Tells text forms ∧ ¬Overlong forms ∧ Unusable forms) ∨
          (faultClass (load text) = none ∧
            ∃ forms, Tells text forms ∧ ¬Overlong forms ∧ ¬Unusable forms) := by
  by_cases told : ∃ forms, Tells text forms
  · obtain ⟨forms, tells⟩ := told
    by_cases overlong : Overlong forms
    · exact .inr (.inl ⟨load_of_overlong tells overlong, forms, tells, overlong⟩)
    · by_cases unusable : Unusable forms
      · have outcome := load_of_unusable tells overlong unusable
        exact .inr (.inr (.inl ⟨outcome, forms, tells, overlong, unusable⟩))
      · have outcome := load_of_usable tells overlong unusable
        exact .inr (.inr (.inr ⟨outcome, forms, tells, overlong, unusable⟩))
  · exact .inl ⟨load_of_untold told, told⟩

/-- A numeral is the fault of a text just when the text tells records with one that is too long. -/
theorem load_numeral_iff
    (text : String) :
    (∃ why, load text = .error (.numeral why)) ↔ ∃ forms, Tells text forms ∧ Overlong forms := by
  constructor
  · rintro ⟨why, refused⟩
    have sorted := load_sorted text
    rw [refused] at sorted
    rcases sorted with ⟨named, _⟩ | ⟨_, overlong⟩ | ⟨named, _⟩ | ⟨named, _⟩
    case inr.inl => exact overlong
    all_goals simp [faultClass, LoadFault.className] at named
  · rintro ⟨forms, tells, overlong⟩
    exact numeral_of_overlong tells overlong

/-- A script that is taken up has a node for every record of the text. -/
theorem exists_tells_of_load
    {text : String}
    {script : Script}
    (accepted : load text = .ok script) :
    ∃ forms, Tells text forms ∧ script.size = forms.length := by
  obtain ⟨described, _⟩ := load_eq_ok_iff.mp accepted
  obtain ⟨records, read, nodes⟩ := read_eq_ok_iff.mp described
  refine ⟨_, (tells_iff_readAll text _).mpr ⟨records, read, rfl⟩, ?_⟩
  have same := (Outcome.mapM_eq_ok_iff.mp nodes).length_eq
  rw [List.length_map] at same
  rw [List.length_map, same, Array.length_toList]
  rfl

/--
The outcome of taking up a text. It is a fault of the grammar exactly when the text tells no
records. A text that tells records with a numeral that is too long fails in the conversion of
it; any other is a fault of the nodes exactly when there are none, too many, or one leads to a
node that is missing, and is otherwise a script. There is no fault of another class.
-/
theorem load_classified
    (text : String) :
    (faultClass (load text) = some "ParseError" ↔ ¬∃ forms, Tells text forms) ∧
      (faultClass (load text) = some "SemanticError" ↔
        ∃ forms, Tells text forms ∧ ¬Overlong forms ∧ Unusable forms) ∧
      (faultClass (load text) = some "ValueError" ↔
        ∃ forms, Tells text forms ∧ Overlong forms) ∧
      (faultClass (load text) = none ↔
        ∃ forms, Tells text forms ∧ ¬Overlong forms ∧ ¬Unusable forms) ∧
      ∀ name, faultClass (load text) = some name →
        name = "ParseError" ∨ name = "SemanticError" ∨ name = "ValueError" := by
  have sorted := load_sorted text
  refine ⟨⟨?_, load_of_untold⟩, ⟨?_, ?_⟩, ⟨?_, ?_⟩, ⟨?_, ?_⟩, ?_⟩
  · intro outcome
    rcases sorted with ⟨_, untold⟩ | ⟨same, _⟩ | ⟨same, _⟩ | ⟨same, _⟩
    · exact untold
    all_goals simp [outcome] at same
  · intro outcome
    rcases sorted with ⟨same, _⟩ | ⟨same, _⟩ | ⟨_, told⟩ | ⟨same, _⟩
    case inr.inr.inl => exact told
    all_goals simp [outcome] at same
  · rintro ⟨forms, tells, short, unusable⟩
    exact load_of_unusable tells short unusable
  · intro outcome
    rcases sorted with ⟨same, _⟩ | ⟨_, told⟩ | ⟨same, _⟩ | ⟨same, _⟩
    case inr.inl => exact told
    all_goals simp [outcome] at same
  · rintro ⟨forms, tells, overlong⟩
    exact load_of_overlong tells overlong
  · intro outcome
    rcases sorted with ⟨same, _⟩ | ⟨same, _⟩ | ⟨same, _⟩ | ⟨_, told⟩
    case inr.inr.inr => exact told
    all_goals simp [outcome] at same
  · rintro ⟨forms, tells, short, usable⟩
    exact load_of_usable tells short usable
  · intro name outcome
    rcases sorted with ⟨same, _⟩ | ⟨same, _⟩ | ⟨same, _⟩ | ⟨same, _⟩
    · exact .inl (Option.some.inj (outcome.symm.trans same))
    · exact .inr (.inr (Option.some.inj (outcome.symm.trans same)))
    · exact .inr (.inl (Option.some.inj (outcome.symm.trans same)))
    · cases outcome.symm.trans same

/-- The text of a record alone, each of its lines ended by a line feed. -/
def textOf (form : List (List Char)) : String :=
  String.ofList ((form.map fun content => Line.mk content .lineFeed).flatMap Line.characters)

/-- The text of a record tells that record, when its lines are neither empty nor broken. -/
theorem tells_textOf
    {form : List (List Char)}
    (formed : Record.Form form)
    (spoken : ∀ content ∈ form, content ≠ [] ∧ '\n' ∉ content ∧ '\r' ∉ content) :
    Tells (textOf form) [form] := by
  refine ⟨form.map fun content => ⟨content, .lineFeed⟩, ?_, ?_, ?_⟩
  · rw [textOf, String.toList_ofList]
    apply Text.spells_flatMap
    intro line member
    obtain ⟨content, contentMember, rfl⟩ := List.mem_map.1 member
    exact ⟨(spoken content contentMember).2.1, (spoken content contentMember).2.2⟩
  · intro other member
    rw [List.mem_singleton] at member
    exact member ▸ formed
  · rw [Record.contentsOf, List.map_map]
    have contents : form.map (Line.content ∘ fun content => ⟨content, .lineFeed⟩) = form :=
      List.map_id' form
    rw [contents, List.filter_eq_self.mpr]
    · exact List.append_nil form
    · intro content member
      simpa using (spoken content member).1

/-- The lines of a question whose first destination is nought, in one digit too many. -/
def overlongZeros : List (List Char) :=
  [['1'], List.replicate (Numeral.digitLimit + 1) '0', ['9', '9', '9', '9'], ['X']]

/-- The text that has these lines. -/
def overlongText : String :=
  textOf overlongZeros

theorem form_overlongZeros :
    Record.Form overlongZeros := by
  apply Record.Form.question
  · simp [Numeral.isNumeral]
  · rfl
  · intro prompt member
    cases member

theorem tells_overlongText :
    Tells overlongText [overlongZeros] := by
  refine tells_textOf form_overlongZeros ?_
  intro content member
  simp only [overlongZeros, List.mem_cons, List.not_mem_nil, or_false] at member
  rcases member with rfl | rfl | rfl | rfl <;> exact ⟨by simp, by simp, by simp⟩

/-- The question leads to itself and to the end. -/
theorem destinations_overlongZeros :
    Record.destinations overlongZeros = [0, terminal] := by
  simp only [overlongZeros, Record.destinations, Record.numerals, Tag.read?, Tag.content,
    List.head?_cons, List.take_succ_cons, List.take_zero, List.map_cons, List.map_nil,
    Numeral.value_replicate_zero]
  rfl

theorem not_unusable_overlongZeros :
    ¬Unusable [overlongZeros] := by
  intro unusable
  cases unusable with
  | none nothing => cases nothing
  | tooMany many => exact absurd many (by decide)
  | missing destination leads goesOn beyond =>
      simp only [List.flatMap_cons, List.flatMap_nil, destinations_overlongZeros,
        List.append_nil, List.mem_cons, List.not_mem_nil, or_false] at leads
      rcases leads with rfl | rfl
      · exact absurd beyond (by decide)
      · exact goesOn rfl

/--
A text that tells a single record, whose node leads to itself and to the end, is taken up
neither as a script nor with a fault of the grammar or of the nodes.
-/
theorem overlong_numeral_fails :
    Tells overlongText [overlongZeros] ∧
      ¬Unusable [overlongZeros] ∧
        faultClass (load overlongText) = some "ValueError" := by
  refine ⟨tells_overlongText, not_unusable_overlongZeros, ?_⟩
  apply load_of_overlong tells_overlongText
  refine ⟨List.replicate (Numeral.digitLimit + 1) '0', ?_, ?_⟩
  · simp [overlongZeros, Record.numerals, Tag.read?]
  · rw [List.length_replicate]
    exact Nat.lt_succ_self _

end Script
end Dialog
