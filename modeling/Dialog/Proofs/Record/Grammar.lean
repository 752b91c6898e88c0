import Dialog.Proofs.Text.Lines
import Dialog.Record.Reader
import Dialog.Script.Writer
import Mathlib.Data.List.TakeWhile

namespace Dialog

/-!
# The grammar of records

`Form` lists the three forms that the contents of a record's lines may have, with
no regard to how they are read; `Decomposes` says that contents are records one
after the other. On the side of the reader's result, `Token.Plays` says that a
token is what its part asks for, and `Record.WellFormed` that every token of a
record is. The contents of a well-formed record have one of the forms.
-/

/-- A line is no tag when it has none of the contents of tags. -/
theorem Tag.read?_eq_none_iff
    (line : List Char) :
    Tag.read? line = none ↔ ∀ kind, line ≠ Tag.content kind := by
  constructor
  · intro nothing kind same
    have accepted := (Tag.read?_eq_some_iff line kind).2 same
    rw [nothing] at accepted
    cases accepted
  · intro untagged
    cases accepted : Tag.read? line with
    | none => rfl
    | some kind => exact absurd ((Tag.read?_eq_some_iff line kind).1 accepted) (untagged kind)

namespace Record

/-- A text without a colon, a colon, and a numeral. -/
def OptionForm (content : List Char) : Prop :=
  ∃ text digits, content = text ++ ':' :: digits ∧ ':' ∉ text ∧ Numeral.isNumeral digits = true

/-- The contents of the lines of one record. -/
inductive Form : List (List Char) → Prop where
  | question (success fail name : List Char) (prompts : List (List Char)) :
      Numeral.isNumeral success = true →
      Numeral.isNumeral fail = true →
      (∀ prompt ∈ prompts, ∀ kind, prompt ≠ Tag.content kind) →
      Form (Tag.content .question :: success :: fail :: name :: prompts)
  | branching (name asked : List Char) (options : List (List Char)) :
      options ≠ [] →
      (∀ option ∈ options, OptionForm option) →
      Form (Tag.content .branching :: name :: asked :: options)
  | terminating (message : List Char) :
      Form [Tag.content .terminating, message]

/-- Contents that are those of records, one after the other. -/
structure Decomposes (forms : List (List (List Char))) (contents : List (List Char)) : Prop where
  formed : ∀ form ∈ forms, Form form
  whole : forms.flatten = contents

/-- Every record begins with a tag. -/
theorem Form.opens
    {form : List (List Char)}
    (formed : Form form) :
    ∃ kind rest, form = Tag.content kind :: rest := by
  cases formed with
  | question => exact ⟨_, _, rfl⟩
  | branching => exact ⟨_, _, rfl⟩
  | terminating => exact ⟨_, _, rfl⟩

/--
What is written as a text, a colon and more is an option when a numeral comes after the
colon.
-/
theorem isOption_append
    (text digits : List Char)
    (colonFree : ':' ∉ text) :
    isOption (text ++ ':' :: digits) = Numeral.isNumeral digits := by
  have before : ∀ character ∈ text, decide (character ≠ ':') = true := by
    intro character member
    exact decide_eq_true fun same => colonFree (same ▸ member)
  unfold isOption
  rw [List.dropWhile_append_of_pos before]
  rfl

/-- A line is taken for an option just when it has the form of one. -/
theorem isOption_iff
    (content : List Char) :
    isOption content = true ↔ OptionForm content := by
  constructor
  · intro accepted
    by_cases colon : ':' ∈ content
    · obtain ⟨text, digits, rfl, colonFree⟩ := List.eq_append_cons_of_mem colon
      rw [isOption_append text digits colonFree] at accepted
      exact ⟨text, digits, rfl, colonFree, accepted⟩
    · have nothing : content.dropWhile (· ≠ ':') = [] := by
        rw [List.dropWhile_eq_nil_iff]
        intro character member
        exact decide_eq_true fun same => colon (same ▸ member)
      simp only [isOption, nothing, Bool.false_eq_true] at accepted
  · rintro ⟨text, digits, rfl, colonFree, numeral⟩
    rw [isOption_append text digits colonFree]
    exact numeral

end Record

namespace Token

/-- What the line of a token says. -/
def content (token : Token) : List Char :=
  Text.trimLineEnd token.text.toList

end Token

/-- What a part asks of the content of its line. -/
def Part.Fits (content : List Char) : Part → Prop
  | .tag kind => content = Tag.content kind
  | .integer => Numeral.isNumeral content = true
  | .option => Record.OptionForm content
  | .text => True

/-- A token with a given part, whose line is not blank and says what the part asks for. -/
structure Token.Plays (part : Part) (token : Token) : Prop where
  played : token.part = part
  isContent : IsContent (trimLineEnd token.text)
  fits : part.Fits token.content

namespace Record

/-- The contents of the lines of a record, in reading order. -/
def contents (record : Record) : List (List Char) :=
  record.tokens.map Token.content

/-- A token that can follow the name of a question. -/
def IsPrompt (token : Token) : Prop :=
  token.Plays .text ∧ ∀ kind, token.content ≠ Tag.content kind

/-- A record each of whose tokens plays its part. -/
def WellFormed : Record → Prop
  | .question tag success fail name prompts =>
      tag.Plays (.tag .question) ∧ success.Plays .integer ∧ fail.Plays .integer ∧
        name.Plays .text ∧ ∀ prompt ∈ prompts, IsPrompt prompt
  | .branching tag name asked options =>
      tag.Plays (.tag .branching) ∧ name.Plays .text ∧ asked.Plays .text ∧
        options ≠ [] ∧ ∀ option ∈ options, option.Plays .option
  | .terminating tag message =>
      tag.Plays (.tag .terminating) ∧ message.Plays .text

/-- The contents of a well-formed record have one of the three forms. -/
theorem form_of_wellFormed
    {record : Record}
    (wellFormed : record.WellFormed) :
    Form record.contents := by
  cases record with
  | question tag success fail name prompts =>
      obtain ⟨tagPlays, successPlays, failPlays, _, promptsPlay⟩ := wellFormed
      have opens : tag.content = Tag.content .question := tagPlays.fits
      simp only [contents, tokens, List.map_cons, opens]
      apply Form.question
      · exact successPlays.fits
      · exact failPlays.fits
      · intro content member
        obtain ⟨prompt, promptMember, rfl⟩ := List.mem_map.1 member
        exact (promptsPlay prompt promptMember).2
  | branching tag name asked options =>
      obtain ⟨tagPlays, _, _, nonempty, optionsPlay⟩ := wellFormed
      have opens : tag.content = Tag.content .branching := tagPlays.fits
      simp only [contents, tokens, List.map_cons, opens]
      apply Form.branching
      · intro empty
        exact nonempty (List.map_eq_nil_iff.1 empty)
      · intro content member
        obtain ⟨option, optionMember, rfl⟩ := List.mem_map.1 member
        exact (optionsPlay option optionMember).fits
  | terminating tag message =>
      have opens : tag.content = Tag.content .terminating := wellFormed.1.fits
      simp only [contents, tokens, List.map_cons, List.map_nil, opens]
      exact Form.terminating message.content

end Record
end Dialog
