import Dialog.Proofs.Script.RoundTrip
import Dialog.Proofs.Script.Verbatim

namespace Dialog

/-!
# The texts of nodes

A text that has a line of its own is never empty, for a blank line says nothing and is
passed over. The text of a choice shares its line with a colon and a numeral, so that
the line is not blank whatever the text is: it is empty just when the line begins with
its colon (`text_eq_empty_iff`), and no other text of a script can be.
-/

namespace Node.Body

/-- The texts of a node that have lines of their own. -/
def ownTexts : Node.Body → List String
  | .question _ _ name prompts => name :: prompts
  | .branching name asked _ _ => [name, asked]
  | .terminating message => [message]

/-- The texts of the choices that a node offers. -/
def choiceTexts : Node.Body → List String
  | .branching _ _ options _ => options.map Choice.text
  | _ => []

/-- The texts of a node. -/
def texts (body : Node.Body) : List String :=
  body.ownTexts ++ body.choiceTexts

/-- In a writable node the texts with a line of their own are contents. -/
theorem isContent_of_writable
    {body : Node.Body}
    (writable : body.Writable) :
    ∀ text ∈ body.ownTexts, IsContent text := by
  intro text member
  cases body with
  | question success fail name prompts =>
      rcases List.mem_cons.1 member with rfl | promptMember
      · exact writable.1
      · exact (writable.2 text promptMember).1
  | branching name asked options nonempty =>
      obtain ⟨nameIsContent, askedIsContent, _⟩ := writable
      simp only [ownTexts, List.mem_cons, List.not_mem_nil, or_false] at member
      rcases member with rfl | rfl
      · exact nameIsContent
      · exact askedIsContent
  | terminating message =>
      rw [ownTexts, List.mem_singleton] at member
      exact member ▸ writable

/-- In a writable node no text of a choice holds a line end. -/
theorem noLineEnd_of_writable
    {body : Node.Body}
    (writable : body.Writable) :
    ∀ text ∈ body.choiceTexts, '\n' ∉ text.toList ∧ '\r' ∉ text.toList := by
  intro text member
  cases body with
  | question => cases member
  | branching name asked options nonempty =>
      obtain ⟨option, optionMember, rfl⟩ := List.mem_map.1 member
      exact (writable.2.2 option optionMember).2
  | terminating => cases member

end Node.Body

namespace Record

/-- The option lines of a record. -/
def options : List (List Char) → List (List Char)
  | [] => []
  | tag :: fields =>
      match Tag.read? tag with
      | some .branching => fields.drop 2
      | _ => []

/-- A choice has no text just when nothing stands before the colon of its line. -/
theorem Offers.text_eq_empty_iff
    {option : List Char}
    {choice : Choice}
    (offers : Offers option choice) :
    choice.text = "" ↔ option.head? = some ':' := by
  obtain ⟨text, digits, colonFree, _⟩ := offers
  cases text with
  | nil => simp
  | cons first more =>
      have other : first ≠ ':' := fun same => colonFree (same ▸ List.mem_cons_self)
      simp [other]

/-- The texts of the choices of a node, option line by option line. -/
theorem Means.choiceTexts
    {form : List (List Char)}
    {body : Node.Body}
    (means : Means form body) :
    List.Forall₂ (fun option text => text = "" ↔ option.head? = some ':') (options form)
      body.choiceTexts := by
  cases means with
  | question => exact .nil
  | branching name asked options choices nonempty offered =>
      have texts : List.Forall₂ (fun option text => text = "" ↔ option.head? = some ':') options
          (choices.map Choice.text) := by
        rw [List.forall₂_map_right_iff]
        exact offered.imp fun option choice => Offers.text_eq_empty_iff
      exact texts
  | terminating => exact .nil

end Record

namespace Script

/-- What the texts of a script are that comes from these records. -/
structure HoldsTexts (forms : List (List (List Char))) (script : Script) : Prop where
  own : ∀ body ∈ script.bodies, ∀ text ∈ body.ownTexts, IsContent text
  noLineEnd :
    ∀ body ∈ script.bodies, ∀ text ∈ body.choiceTexts, '\n' ∉ text.toList ∧ '\r' ∉ text.toList
  empty_iff :
    List.Forall₂ (fun option text => text = "" ↔ option.head? = some ':')
      (forms.flatMap Record.options) (script.bodies.flatMap Node.Body.choiceTexts)

/-- A script that is read holds the texts of the records that the text tells. -/
theorem holdsTexts_of_read
    {text : String}
    {script : Script}
    (described : read text = .ok script) :
    ∃ forms, Tells text forms ∧ HoldsTexts forms script := by
  obtain ⟨forms, tells, means⟩ := exists_means_of_read described
  have writable := (writable_iff script).1 (writable_of_read described)
  refine ⟨forms, tells, ?_, ?_, ?_⟩
  · exact fun body member => Node.Body.isContent_of_writable (writable body member)
  · exact fun body member => Node.Body.noLineEnd_of_writable (writable body member)
  · exact List.rel_flatMap means fun form body => Record.Means.choiceTexts

/-- No choice has an empty text just when no option begins with its colon. -/
theorem HoldsTexts.nonempty_iff
    {forms : List (List (List Char))}
    {script : Script}
    (holds : HoldsTexts forms script) :
    (∀ text ∈ script.bodies.flatMap Node.Body.choiceTexts, text ≠ "") ↔
      ∀ option ∈ forms.flatMap Record.options, option.head? ≠ some ':' := by
  have related := holds.empty_iff
  generalize forms.flatMap Record.options = options,
    script.bodies.flatMap Node.Body.choiceTexts = texts at related ⊢
  induction related with
  | nil => simp
  | cons here _ inductionHypothesis =>
      rw [List.forall_mem_cons, List.forall_mem_cons]
      exact and_congr (not_congr here) inductionHypothesis

/-- All texts are contents just when no option begins with its colon. -/
theorem HoldsTexts.isContent_iff
    {forms : List (List (List Char))}
    {script : Script}
    (holds : HoldsTexts forms script) :
    (∀ body ∈ script.bodies, ∀ text ∈ body.texts, IsContent text) ↔
      ∀ option ∈ forms.flatMap Record.options, option.head? ≠ some ':' := by
  rw [← holds.nonempty_iff]
  constructor
  · intro contents text member empty
    obtain ⟨body, bodyMember, textMember⟩ := List.mem_flatMap.1 member
    have isContent := contents body bodyMember text (List.mem_append_right body.ownTexts textMember)
    exact isContent.1 (empty ▸ rfl)
  · intro nonempty body bodyMember text member
    rcases List.mem_append.1 member with own | offered
    · exact holds.own body bodyMember text own
    · have something := nonempty text (List.mem_flatMap.2 ⟨body, bodyMember, offered⟩)
      refine ⟨?_, holds.noLineEnd body bodyMember text offered⟩
      exact fun nothing => something (String.toList_eq_nil_iff.1 nothing)

/--
A script that is read holds no line end in its texts, and no empty text among those that have
lines of their own. The texts of its choices, in order, are those of the option lines of its
records, and one of them is empty just when its line begins with the colon. So no text of the
script is empty exactly when no option line begins so.
-/
theorem texts_of_read
    {text : String}
    {script : Script}
    (described : read text = .ok script) :
    ∃ forms, Tells text forms ∧ HoldsTexts forms script ∧
      ((∀ body ∈ script.bodies, ∀ text ∈ body.texts, IsContent text) ↔
        ∀ option ∈ forms.flatMap Record.options, option.head? ≠ some ':') := by
  obtain ⟨forms, tells, holds⟩ := holdsTexts_of_read described
  exact ⟨forms, tells, holds, holds.isContent_iff⟩

/-- A text that offers two choices, the second of them without a text. -/
def secondUnnamed : String :=
  "\r\n2\nway\nWhich?\nout:9999\r\n\n:9999"

/-- The second option of this branching node begins with its colon. -/
theorem texts_of_read_secondUnnamed :
    ∃ script, read secondUnnamed = .ok script ∧
      script.bodies.flatMap Node.Body.texts = ["way", "Which?", "out", ""] ∧
        ∃ forms, Tells secondUnnamed forms ∧ HoldsTexts forms script ∧
          ((∀ body ∈ script.bodies, ∀ text ∈ body.texts, IsContent text) ↔
            ∀ option ∈ forms.flatMap Record.options, option.head? ≠ some ':') := by
  have outcome : (read secondUnnamed).map (fun script => script.bodies.flatMap Node.Body.texts) =
      .ok ["way", "Which?", "out", ""] := by
    decide +kernel
  obtain ⟨script, described, texts⟩ := Outcome.map_eq_ok_iff.1 outcome
  exact ⟨script, described, texts, texts_of_read described⟩

/-- A text that offers a single choice, without a text. -/
def unnamedChoice : String :=
  "2\nX\nPick\n:0\n"

/-- A text with an option that begins with its colon is read all the same. -/
theorem unnamedChoice_is_read :
    ∃ script, read unnamedChoice = .ok script ∧
      ¬∀ body ∈ script.bodies, ∀ text ∈ body.texts, IsContent text := by
  have outcome : (read unnamedChoice).map (fun script => script.bodies.flatMap Node.Body.texts) =
      .ok ["X", "Pick", ""] := by
    decide +kernel
  obtain ⟨script, described, texts⟩ := Outcome.map_eq_ok_iff.1 outcome
  refine ⟨script, described, ?_⟩
  intro contents
  have nothing : "" ∈ script.bodies.flatMap Node.Body.texts := by simp [texts]
  obtain ⟨body, bodyMember, member⟩ := List.mem_flatMap.1 nothing
  exact absurd (contents body bodyMember "" member) (by decide)

end Script
end Dialog
