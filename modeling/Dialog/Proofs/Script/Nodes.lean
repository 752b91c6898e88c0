import Dialog.Proofs.Outcome
import Dialog.Proofs.Record.Grammar
import Mathlib.Data.List.TakeDrop

namespace Dialog

/-!
# Records and the nodes that they describe

A record whose lines say what a node is written as describes that node
(`node_of_contents`), and the node that a well-formed record describes can be
written (`writable_of_node`). Between a record and its node stand the drafts of
`Draft`: an integer line has its value, an option line is cut at its last colon,
and any other line is its content.
-/

namespace Numeral

/-- A number up to the terminal id has few enough digits to be read. -/
theorem short_of_le_terminal
    {number : Nat}
    (small : number ≤ terminal) :
    (write number).length ≤ digitLimit := by
  have few : (write number).length ≤ 4 := by
    unfold write
    rw [Nat.length_toDigits_le_iff (by decide) (by decide)]
    exact Nat.lt_of_le_of_lt small (by decide)
  exact Nat.le_trans few (by decide)

/-- Nothing but digits stands in a numeral. -/
theorem not_mem_of_isNumeral
    {digits : List Char}
    {character : Char}
    (numeral : isNumeral digits = true)
    (noDigit : character.isDigit = false) :
    character ∉ digits := by
  intro member
  simp only [isNumeral, Bool.and_eq_true, List.all_eq_true] at numeral
  rw [numeral.2 character member] at noDigit
  cases noDigit

end Numeral

namespace Draft.Line

/-- A content with a colon is cut at it when no colon follows. -/
theorem cut_append
    (text : List Char)
    {digits : List Char}
    (colonFree : ':' ∉ digits) :
    cut (text ++ ':' :: digits) = (text, digits) := by
  have after : ∀ character ∈ digits.reverse, decide (character ≠ ':') = true := by
    intro character member
    exact decide_eq_true fun same => colonFree (same ▸ List.mem_reverse.1 member)
  have shape : (text ++ ':' :: digits).reverse = digits.reverse ++ ':' :: text.reverse := by
    simp
  unfold cut
  rw [List.span_eq_takeWhile_dropWhile, shape, List.takeWhile_append_of_pos after,
    List.dropWhile_append_of_pos after]
  simp

end Draft.Line

namespace Token

/-- The content of a drafted line is the content of its token. -/
theorem toList_content
    (token : Token) :
    token.draftLine.content.toList = token.content :=
  String.toList_ofList

/-- A line that says a text has it for its content. -/
theorem content_of_said
    {token : Token}
    {text : String}
    (said : token.content = text.toList) :
    token.draftLine.content = text := by
  apply String.toList_injective
  rw [toList_content, said]

/-- A line that is a numeral has its value, unless the numeral is too long. -/
theorem integer_of_isNumeral
    {token : Token}
    (isNumeral : Numeral.isNumeral token.content = true) :
    token.draftLine.integer =
      ((Numeral.read token.content).map Int.ofNat).mapError .numeral := by
  unfold Draft.Line.integer
  rw [toList_content, Integer.read_of_isNumeral _ isNumeral]

/-- A line that says a number up to the terminal id has that value. -/
theorem integer_of_said
    {token : Token}
    {number : Nat}
    (said : token.content = Numeral.write number)
    (small : number ≤ terminal) :
    token.draftLine.integer = .ok (number : Int) := by
  have isNumeral : Numeral.isNumeral token.content = true := said ▸ Numeral.isNumeral_write number
  rw [integer_of_isNumeral isNumeral, said,
    Numeral.read_write number (Numeral.short_of_le_terminal small)]
  rfl

/-- A line that ends in a colon and a numeral is a choice, unless the numeral is too long. -/
theorem choice_of_isNumeral
    {token : Token}
    {text digits : List Char}
    (said : token.content = text ++ ':' :: digits)
    (isNumeral : Numeral.isNumeral digits = true) :
    token.draftLine.choice =
      ((Numeral.read digits).map fun destination => ⟨String.ofList text, destination⟩).mapError
        .numeral := by
  have parts : Draft.Line.cut token.draftLine.content.toList = (text, digits) := by
    rw [toList_content, said]
    exact Draft.Line.cut_append _ (Numeral.not_mem_of_isNumeral isNumeral rfl)
  unfold Draft.Line.choice
  rw [parts]
  simp only [Integer.read_of_isNumeral _ isNumeral]
  cases Numeral.read digits <;> rfl

/-- A line that says a choice up to the terminal id is read as that choice. -/
theorem choice_of_said
    {token : Token}
    {choice : Choice}
    (said : token.content = choice.content)
    (small : choice.destination ≤ terminal) :
    token.draftLine.choice = .ok choice := by
  have isNumeral := Numeral.isNumeral_write choice.destination
  rw [choice_of_isNumeral said isNumeral,
    Numeral.read_write _ (Numeral.short_of_le_terminal small)]
  simp only [Except.map, Except.mapError, String.ofList_toList]

/-- Lines that say texts have them for their contents. -/
theorem contents_of_said
    {tokens : List Token}
    {texts : List String}
    (said : tokens.map content = texts.map String.toList) :
    (tokens.map draftLine).map Draft.Line.content = texts := by
  have injective : Function.Injective String.toList := fun _ _ => String.toList_injective
  apply List.map_injective_iff.2 injective
  rw [← said, List.map_map, List.map_map]
  exact List.map_congr_left fun token _ => token.toList_content

/-- Lines that say choices up to the terminal id are read as those choices. -/
theorem choices_of_said
    {tokens : List Token}
    {choices : List Choice}
    (said : tokens.map content = choices.map Choice.content)
    (small : ∀ choice ∈ choices, choice.destination ≤ terminal) :
    (tokens.map draftLine).mapM Draft.Line.choice = .ok choices := by
  rw [Outcome.mapM_eq_ok_iff, List.forall₂_map_left_iff]
  induction choices generalizing tokens with
  | nil =>
      cases List.map_eq_nil_iff.1 said
      exact .nil
  | cons choice rest inductionHypothesis =>
      obtain ⟨token, others, rfl, tokenSaid, othersSaid⟩ := List.map_eq_cons_iff.1 said
      apply List.Forall₂.cons
      · exact choice_of_said tokenSaid (small choice List.mem_cons_self)
      · apply inductionHypothesis othersSaid
        exact fun other member => small other (List.mem_cons_of_mem choice member)

/-- An option line that is cut into a choice says nothing that could not be written again. -/
theorem text_of_choice
    {token : Token}
    {choice : Choice}
    (plays : token.Plays .option)
    (described : token.draftLine.choice = .ok choice) :
    ':' ∉ choice.text.toList ∧ '\n' ∉ choice.text.toList ∧ '\r' ∉ choice.text.toList := by
  obtain ⟨text, digits, said, colonFree, isNumeral⟩ := plays.fits
  obtain ⟨_, noLineFeed, noReturn⟩ := plays.isContent
  have shape : token.draftLine.content.toList = text ++ ':' :: digits := by
    rw [toList_content, said]
  have parts : Draft.Line.cut token.draftLine.content.toList = (text, digits) := by
    rw [shape]
    exact Draft.Line.cut_append text (Numeral.not_mem_of_isNumeral isNumeral rfl)
  unfold Draft.Line.choice at described
  rw [parts] at described
  obtain ⟨whole, _, described⟩ := Outcome.bind_eq_ok_iff.1 described
  obtain ⟨destination, _, described⟩ := Outcome.bind_eq_ok_iff.1 described
  cases described
  have inside : ∀ character ∈ text, character ∈ (trimLineEnd token.text).toList := by
    intro character member
    exact shape ▸ List.mem_append_left (':' :: digits) member
  rw [String.toList_ofList]
  exact ⟨colonFree, fun member => noLineFeed (inside '\n' member),
    fun member => noReturn (inside '\r' member)⟩

end Token

namespace Node

theorem Body.head?_contents
    (body : Node.Body) :
    body.contents.head? = some (Tag.content body.kind) := by
  cases body <;> rfl

end Node

namespace Record

/-- What a record says begins with the tag of its kind. -/
theorem head?_contents
    {record : Record}
    (wellFormed : record.WellFormed) :
    record.contents.head? = some (Tag.content record.kind) := by
  cases record with
  | question => exact congrArg some wellFormed.1.fits
  | branching => exact congrArg some wellFormed.1.fits
  | terminating => exact congrArg some wellFormed.1.fits

/-- A record that says what a node is written as is of the kind of the node. -/
theorem kind_of_contents
    {record : Record}
    {body : Node.Body}
    (wellFormed : record.WellFormed)
    (said : record.contents = body.contents) :
    record.kind = body.kind := by
  have tags : some (Tag.content record.kind) = some (Tag.content body.kind) := by
    rw [← head?_contents wellFormed, said, body.head?_contents]
  have read := (Tag.read?_eq_some_iff _ record.kind).2 (Option.some.inj tags).symm
  have readToo := (Tag.read?_eq_some_iff _ body.kind).2 rfl
  exact Option.some.inj (read.symm.trans readToo)

/-- A record that says what a node is written as describes that node. -/
theorem node_of_contents
    {record : Record}
    {body : Node.Body}
    (wellFormed : record.WellFormed)
    (said : record.contents = body.contents)
    (small : ∀ destination ∈ body.destinations, destination ≤ terminal) :
    ∃ node, record.node = .ok node ∧ node.body = body := by
  have sameKind := kind_of_contents wellFormed said
  cases body with
  | question success fail name prompts =>
      cases record with
      | branching => cases sameKind
      | terminating => cases sameKind
      | question tag successToken failToken nameToken promptTokens =>
          simp only [contents, tokens, List.map_cons, Node.Body.contents, List.cons.injEq] at said
          obtain ⟨_, successSaid, failSaid, nameSaid, promptsSaid⟩ := said
          have successSmall : success ≤ terminal := small success (by simp [Node.Body.destinations])
          have failSmall : fail ≤ terminal := small fail (by simp [Node.Body.destinations])
          have drafted :
              node (.question tag successToken failToken nameToken promptTokens) =
                Draft.question tag.draftLine successToken.draftLine failToken.draftLine
                  nameToken.draftLine (promptTokens.map Token.draftLine) := rfl
          refine ⟨⟨.question success fail name prompts, some tag.line⟩, ?_, rfl⟩
          rw [drafted, Draft.question, Token.integer_of_said successSaid successSmall,
            Token.integer_of_said failSaid failSmall, Token.content_of_said nameSaid,
            Token.contents_of_said promptsSaid]
          rfl
  | branching name asked options nonempty =>
      cases record with
      | question => cases sameKind
      | terminating => cases sameKind
      | branching tag nameToken askedToken optionTokens =>
          simp only [contents, tokens, List.map_cons, Node.Body.contents, List.cons.injEq] at said
          obtain ⟨_, nameSaid, askedSaid, optionsSaid⟩ := said
          have optionsSmall : ∀ option ∈ options, option.destination ≤ terminal :=
            fun option member => small option.destination (List.mem_map_of_mem member)
          have drafted :
              node (.branching tag nameToken askedToken optionTokens) =
                Draft.branching tag.draftLine nameToken.draftLine askedToken.draftLine
                  (optionTokens.map Token.draftLine) := rfl
          have enough : Draft.choices options = .ok ⟨options, nonempty⟩ := by
            cases options with
            | nil => exact absurd rfl nonempty
            | cons => rfl
          refine ⟨⟨.branching name asked options nonempty, some tag.line⟩, ?_, rfl⟩
          rw [drafted, Draft.branching, Token.choices_of_said optionsSaid optionsSmall,
            Token.content_of_said nameSaid, Token.content_of_said askedSaid]
          simp only [bind, Except.bind, enough]
          rfl
  | terminating message =>
      cases record with
      | question => cases sameKind
      | branching => cases sameKind
      | terminating tag messageToken =>
          simp only [contents, tokens, List.map_cons, Node.Body.contents, List.cons.injEq] at said
          have drafted :
              node (.terminating tag messageToken) =
                Draft.terminating tag.draftLine messageToken.draftLine := rfl
          refine ⟨⟨.terminating message, some tag.line⟩, ?_, rfl⟩
          rw [drafted, Draft.terminating, Token.content_of_said said.2.1]
          rfl

/-- Choices that are enough for a branching node are the ones that it offers. -/
theorem eq_of_choices
    {choices : List Choice}
    {offered : Data.Choices}
    (enough : Draft.choices choices = .ok offered) :
    offered.1 = choices := by
  cases choices with
  | nil => cases enough
  | cons =>
      cases enough
      rfl

/-- What the lines of a question come to when it describes a node. -/
theorem question_of_node
    {tag success fail name : Token}
    {prompts : List Token}
    {node : Node}
    (described : Record.node (.question tag success fail name prompts) = .ok node) :
    ∃ successId failId : Nat,
      success.draftLine.integer = .ok (successId : Int) ∧
        fail.draftLine.integer = .ok (failId : Int) ∧
          node =
            ⟨.question successId failId name.draftLine.content
              ((prompts.map Token.draftLine).map Draft.Line.content), some tag.line⟩ := by
  have described : Draft.question tag.draftLine success.draftLine fail.draftLine
      name.draftLine (prompts.map Token.draftLine) = .ok node := described
  unfold Draft.question at described
  obtain ⟨successId, successRead, described⟩ := Outcome.bind_eq_ok_iff.1 described
  obtain ⟨failId, failRead, described⟩ := Outcome.bind_eq_ok_iff.1 described
  have checked := Outcome.mapError_eq_ok_iff.1 described
  obtain ⟨_, _, body, placed, rfl⟩ := Outcome.both_eq_ok_iff.1 checked
  obtain ⟨_, _, destinations, texts, rfl⟩ := Outcome.both_eq_ok_iff.1 body
  obtain ⟨_, _, successChecked, failChecked, rfl⟩ := Outcome.both_eq_ok_iff.1 destinations
  obtain ⟨_, _, nameSame, promptsSame, rfl⟩ := Outcome.both_eq_ok_iff.1 texts
  cases nameSame
  cases promptsSame
  cases placed
  cases successId with
  | negSucc => cases successChecked
  | ofNat =>
      cases failId with
      | negSucc => cases failChecked
      | ofNat =>
          cases successChecked
          cases failChecked
          exact ⟨_, _, successRead, failRead, rfl⟩

/-- What the lines of a branching come to when it describes a node. -/
theorem branching_of_node
    {tag name asked : Token}
    {options : List Token}
    {node : Node}
    (described : Record.node (.branching tag name asked options) = .ok node) :
    ∃ (choices : List Choice) (nonempty : choices ≠ []),
      (options.map Token.draftLine).mapM Draft.Line.choice = .ok choices ∧
        node =
          ⟨.branching name.draftLine.content asked.draftLine.content choices nonempty,
            some tag.line⟩ := by
  have described : Draft.branching tag.draftLine name.draftLine asked.draftLine
      (options.map Token.draftLine) = .ok node := described
  unfold Draft.branching at described
  obtain ⟨choices, cuts, described⟩ := Outcome.bind_eq_ok_iff.1 described
  have checked := Outcome.mapError_eq_ok_iff.1 described
  obtain ⟨_, _, body, placed, rfl⟩ := Outcome.both_eq_ok_iff.1 checked
  obtain ⟨_, offered, texts, enough, rfl⟩ := Outcome.both_eq_ok_iff.1 body
  obtain ⟨_, _, nameSame, askedSame, rfl⟩ := Outcome.both_eq_ok_iff.1 texts
  obtain ⟨offered, nonempty⟩ := offered
  have same : offered = choices := eq_of_choices enough
  subst same
  cases nameSame
  cases askedSame
  cases placed
  exact ⟨offered, nonempty, cuts, rfl⟩

/-- What the lines of a terminating record come to. -/
theorem terminating_of_node
    {tag message : Token}
    {node : Node}
    (described : Record.node (.terminating tag message) = .ok node) :
    node = ⟨.terminating message.draftLine.content, some tag.line⟩ := by
  have described : Draft.terminating tag.draftLine message.draftLine = .ok node := described
  have checked := Outcome.mapError_eq_ok_iff.1 described
  obtain ⟨_, _, body, placed, rfl⟩ := Outcome.both_eq_ok_iff.1 checked
  cases body
  cases placed
  rfl

/-- The node that a well-formed record describes can be written. -/
theorem writable_of_node
    {record : Record}
    {node : Node}
    (wellFormed : record.WellFormed)
    (described : record.node = .ok node) :
    node.body.Writable := by
  cases record with
  | question tag success fail name prompts =>
      obtain ⟨_, _, _, namePlays, promptsPlay⟩ := wellFormed
      obtain ⟨_, _, _, _, rfl⟩ := question_of_node described
      refine ⟨namePlays.isContent, ?_⟩
      intro prompt member
      rw [List.map_map] at member
      obtain ⟨token, tokenMember, rfl⟩ := List.mem_map.1 member
      obtain ⟨plays, untagged⟩ := promptsPlay token tokenMember
      refine ⟨plays.isContent, ?_⟩
      exact (Tag.read?_eq_none_iff _).2 (token.toList_content ▸ untagged)
  | branching tag name asked options =>
      obtain ⟨_, namePlays, askedPlays, _, optionsPlay⟩ := wellFormed
      obtain ⟨_, _, cuts, rfl⟩ := branching_of_node described
      refine ⟨namePlays.isContent, askedPlays.isContent, ?_⟩
      intro choice member
      obtain ⟨line, lineMember, cut⟩ := Outcome.exists_of_mem_mapM cuts choice member
      obtain ⟨token, tokenMember, rfl⟩ := List.mem_map.1 lineMember
      exact Token.text_of_choice (optionsPlay token tokenMember) cut
  | terminating tag message =>
      obtain ⟨_, messagePlays⟩ := wellFormed
      obtain rfl := terminating_of_node described
      exact messagePlays.isContent

end Record
end Dialog
