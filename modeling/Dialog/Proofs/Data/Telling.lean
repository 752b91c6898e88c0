import Dialog.Data.Reader
import Dialog.Proofs.Outcome
import Mathlib.Data.Rat.Cast.Order

namespace Dialog.Data

/-!
# What data tells

Data tells nodes when it is an object whose fields tell, name by name, what the nodes
hold. Nothing is asked of fields of other names, and a field that may be missing tells
by being missing what is taken then. A whole number is told in every form that may
stand for it (`StandsFor`). A script is read from data exactly when the data tells its
nodes.
-/

/-! ## Telling -/

/-- A whole number is told by itself, a truth value, a float that is whole, or a text. -/
inductive StandsFor : Data → Int → Prop where
  | integer (whole : Int) : StandsFor (.integer whole) whole
  | boolean (value : Bool) : StandsFor (.boolean value) (if value then 1 else 0)
  | float {significand exponent whole : Int}
      (same : (whole : ℚ) = significand * 2 ^ exponent)
      (within : -floatBound < whole ∧ whole < floatBound) :
      StandsFor (.float significand exponent) whole
  | text {value : String} {whole : Int}
      (spelled : Spelling.read value.toList = .ok whole) :
      StandsFor (.text value) whole

/-- A destination is told by what stands for a number that is not negative. -/
def TellsDestination (data : Data) (id : Nat) : Prop :=
  StandsFor data id

/-- A text is told by itself. -/
inductive TellsText : Data → String → Prop where
  | text (value : String) : TellsText (.text value) value

/-- Values are told by a list that tells them one by one. -/
inductive TellsList (tells : Data → α → Prop) : Data → List α → Prop where
  | list {items : List Data} {values : List α}
      (each : List.Forall₂ tells items values) :
      TellsList tells (.list items) values

/-- Whether a field tells a value. -/
def Fields.Tells
    (fields : Fields)
    (name : String)
    (tells : Data → α → Prop)
    (value : α) :
    Prop :=
  ∃ data, fields.lookup name = some data ∧ tells data value

/-- Whether a field tells a value, or is missing and the value is the one to take then. -/
def Fields.TellsOr
    (fields : Fields)
    (name : String)
    (tells : Data → α → Prop)
    (absent value : α) :
    Prop :=
  fields.Tells name tells value ∨ fields.lookup name = none ∧ value = absent

/-- No line is told by null. -/
inductive TellsLine : Data → Option Int → Prop where
  | null : TellsLine .null none
  | line {data : Data} {line : Int} (told : StandsFor data line) : TellsLine data (some line)

/-- A choice is told by an object with its text and its destination. -/
inductive TellsChoice : Data → Choice → Prop where
  | object {fields : Fields} {choice : Choice}
      (text : Fields.Tells fields "text" TellsText choice.text)
      (destination : Fields.Tells fields "destination" TellsDestination choice.destination) :
      TellsChoice (.object fields) choice

/-- Whether fields tell what a node does. -/
def TellsBody (fields : Fields) : Node.Body → Prop
  | .question success fail name prompts =>
      fields.Tells "success" TellsDestination success ∧ fields.Tells "fail" TellsDestination fail ∧
        fields.Tells "variable" TellsText name ∧
          fields.TellsOr "prompts" (TellsList TellsText) [] prompts
  | .branching name asked options _ =>
      fields.Tells "variable" TellsText name ∧ fields.Tells "question" TellsText asked ∧
        fields.Tells "options" (TellsList TellsChoice) options
  | .terminating message => fields.Tells "message" TellsText message

/-- A node is told by an object with its kind and what it does. -/
inductive TellsNode : Data → Node → Prop where
  | object {fields : Fields} {node : Node}
      (kind : Fields.Tells fields "kind" TellsText node.kind.name)
      (body : TellsBody fields node.body)
      (line : Fields.TellsOr fields "line" TellsLine none node.line) :
      TellsNode (.object fields) node

/-- Nodes are told by an object that lists them. -/
inductive Tells : Data → List Node → Prop where
  | object {fields : Fields} {nodes : List Node}
      (listed : Fields.TellsOr fields "nodes" (TellsList TellsNode) [] nodes) :
      Tells (.object fields) nodes

/-! ## Readers and what they read -/

/-- Whether a reader gives exactly what data tells, wherever the data stands. -/
def Reads (read : List Step → Data → Checked α) (tells : Data → α → Prop) : Prop :=
  ∀ path data value, read path data = .ok value ↔ tells data value

namespace Checked

/-- Outcomes together are values when each of them is one. -/
theorem all_eq_ok_iff
    {outcomes : List (Checked α)}
    {values : List α} :
    all outcomes = .ok values ↔
      List.Forall₂ (fun outcome value => outcome = .ok value) outcomes values := by
  induction outcomes generalizing values with
  | nil =>
      rw [List.forall₂_nil_left_iff]
      exact ⟨fun given => (Except.ok.inj given).symm, fun empty => empty ▸ rfl⟩
  | cons outcome rest inductionHypothesis =>
      have unfolded : all (outcome :: rest) = both List.cons outcome (all rest) := rfl
      rw [unfolded, Outcome.both_eq_ok_iff, List.forall₂_cons_left_iff]
      constructor
      · rintro ⟨value, others, given, givenOthers, rfl⟩
        exact ⟨value, others, given, inductionHypothesis.mp givenOthers, rfl⟩
      · rintro ⟨value, others, given, givenOthers, rfl⟩
        exact ⟨value, others, given, inductionHypothesis.mpr givenOthers, rfl⟩

end Checked

namespace Reads

variable {read : List Step → Data → Checked α} {tells : Data → α → Prop}

/-- The numbers that items have in a path do not bear on what they tell. -/
theorem items
    (reads : Reads read tells)
    (path : List Step)
    (items : List Data)
    (values : List α) :
    Checked.all (readItems read path items) = .ok values ↔ List.Forall₂ tells items values := by
  have entries :
      List.Forall₂ tells (items.zipIdx.map Prod.fst) values ↔
        List.Forall₂ (fun entry value => tells entry.1 value) items.zipIdx values :=
    List.forall₂_map_left_iff
  rw [List.zipIdx_map_fst] at entries
  rw [Checked.all_eq_ok_iff, readItems, List.forall₂_map_left_iff, entries]
  simp only [reads _ _ _]

/-- A field that must be there is read as a value just when the fields tell it. -/
theorem required
    (reads : Reads read tells)
    (fields : Fields)
    (path : List Step)
    (name : String)
    (value : α) :
    fields.required path name read = .ok value ↔ fields.Tells name tells value := by
  unfold Fields.required Fields.Tells
  cases fields.lookup name with
  | none => simp [Checked.fail]
  | some data => simpa using reads _ data value

/-- A field that may be missing is read as a value just when it tells that, or is missing. -/
theorem optional
    (reads : Reads read tells)
    (fields : Fields)
    (path : List Step)
    (name : String)
    (absent value : α) :
    fields.optional path name read absent = .ok value ↔
      fields.TellsOr name tells absent value := by
  unfold Fields.optional Fields.TellsOr Fields.Tells
  cases fields.lookup name with
  | none => simp [eq_comm]
  | some data => simpa using reads _ data value

end Reads

/-- The whole number that a float is taken for is the one that it equals. -/
theorem wholeOfFloat?_eq_some_iff
    {significand exponent whole : Int} :
    wholeOfFloat? significand exponent = some whole ↔
      (whole : ℚ) = significand * 2 ^ exponent := by
  cases exponent with
  | ofNat scale =>
      have scaled :
          wholeOfFloat? significand (.ofNat scale) = some (significand * 2 ^ scale) := by
        simp [wholeOfFloat?]
      rw [scaled, Option.some.injEq, Int.ofNat_eq_natCast, zpow_natCast, eq_comm]
      exact_mod_cast Iff.rfl
  | negSucc scale =>
      have apart : (2 : ℚ) ^ (scale + 1) ≠ 0 := pow_ne_zero _ two_ne_zero
      have apartInt : (2 : Int) ^ (scale + 1) ≠ 0 := pow_ne_zero _ two_ne_zero
      have quotient :
          (whole : ℚ) = significand * 2 ^ Int.negSucc scale ↔
            whole * 2 ^ (scale + 1) = significand := by
        rw [zpow_negSucc, ← div_eq_mul_inv, eq_div_iff apart]
        exact_mod_cast Iff.rfl
      have divisor : ((Nat.pow 2 (scale + 1) : Nat) : Int) = 2 ^ (scale + 1) := by simp
      simp only [quotient, wholeOfFloat?, divisor]
      constructor
      · intro found
        split at found
        · rename_i divides
          cases found
          exact Int.ediv_mul_cancel (Int.dvd_of_emod_eq_zero divides)
        · cases found
      · rintro rfl
        rw [Int.mul_emod_left, if_pos rfl, Int.mul_ediv_cancel _ apartInt]

/-- A whole number is read from exactly what stands for it. -/
theorem reads_integer : Reads readInteger StandsFor := by
  intro path data whole
  constructor
  · intro given
    cases data with
    | integer value =>
        cases given
        exact .integer whole
    | boolean value =>
        cases given
        exact .boolean value
    | float significand exponent =>
        simp only [readInteger] at given
        split at given
        · cases given
        · rename_i found same
          split at given
          · rename_i within
            cases given
            exact .float (wholeOfFloat?_eq_some_iff.mp same) within
          · cases given
    | text value =>
        simp only [readInteger] at given
        split at given
        · rename_i found spelled
          cases given
          exact .text spelled
        · cases given
        · cases given
    | null | infinite | list | object => cases given
  · intro stands
    cases stands with
    | integer => rfl
    | boolean => rfl
    | float same within =>
        simp only [readInteger, wholeOfFloat?_eq_some_iff.mpr same, if_pos within]
    | text spelled => simp only [readInteger, spelled]

/-- A whole number is accepted as a destination when it is not negative. -/
theorem checkDestination_eq_ok_iff
    {path : List Step}
    {whole : Int}
    {id : Nat} :
    checkDestination path whole = .ok id ↔ whole = id := by
  cases whole with
  | ofNat other =>
      rw [checkDestination, Except.ok.injEq]
      exact Int.ofNat_inj.symm
  | negSucc before => simp [checkDestination, Checked.fail]

/-- A destination is read from exactly what tells it. -/
theorem reads_destination : Reads readDestination TellsDestination := by
  intro path data id
  have stages :
      readDestination path data = .ok id ↔
        ∃ whole, readInteger path data = .ok whole ∧ checkDestination path whole = .ok id :=
    Outcome.bind_eq_ok_iff
  rw [stages]
  simp only [checkDestination_eq_ok_iff, exists_eq_right]
  exact reads_integer path data id

/-- Data of another form tells no text. -/
theorem reads_text : Reads readText TellsText := by
  intro path data value
  cases data with
  | text other =>
      constructor
      · rintro ⟨⟩
        exact .text value
      · rintro ⟨⟩
        rfl
  | null | boolean | integer | float | infinite | list | object => constructor <;> rintro ⟨⟩

/-- The line of a node is read from exactly what tells it. -/
theorem reads_line : Reads readLine TellsLine := by
  intro path data line
  have otherwise :
      (readInteger path data).map some = .ok line ↔
        ∃ whole, StandsFor data whole ∧ some whole = line := by
    rw [Outcome.map_eq_ok_iff]
    exact exists_congr fun whole => and_congr_left fun _ => reads_integer path data whole
  cases data with
  | null =>
      constructor
      · rintro ⟨⟩
        exact .null
      · rintro (_ | ⟨⟨⟩⟩)
        rfl
  | boolean | integer | float | infinite | text | list | object =>
      refine otherwise.trans ⟨?_, ?_⟩
      · rintro ⟨whole, stands, rfl⟩
        exact .line stands
      · rintro (_ | stands)
        exact ⟨_, stands, rfl⟩

/-! ## Lists -/

/-- A list tells as many values as it has items, one by one. -/
theorem tellsList_iff
    {tells : Data → α → Prop}
    {items : List Data}
    {values : List α} :
    TellsList tells (.list items) values ↔ List.Forall₂ tells items values := by
  constructor
  · rintro ⟨each⟩
    exact each
  · exact .list

/-- Texts are read from exactly the lists that tell them. -/
theorem reads_texts : Reads readTexts (TellsList TellsText) := by
  intro path data texts
  cases data with
  | list items => exact (reads_text.items path items texts).trans tellsList_iff.symm
  | null | boolean | integer | float | infinite | text | object => constructor <;> rintro ⟨⟩

/-! ## Choices -/

/-- A choice is read from exactly the objects that tell it. -/
theorem reads_choice : Reads readChoice TellsChoice := by
  intro path data choice
  cases data with
  | object fields =>
      have text := reads_text.required fields path "text"
      have destination := reads_destination.required fields path "destination"
      change readChoiceFields path fields = .ok choice ↔ _
      rw [readChoiceFields, Outcome.both_eq_ok_iff]
      constructor
      · rintro ⟨told, id, given, found, rfl⟩
        exact .object ((text told).mp given) ((destination id).mp found)
      · rintro ⟨given, found⟩
        exact ⟨_, _, (text _).mpr given, (destination _).mpr found, rfl⟩
  | null | boolean | integer | float | infinite | text | list => constructor <;> rintro ⟨⟩

/-- Of choices that are all valid there are enough as soon as there is one. -/
theorem any_isValid_of_forall
    {outcomes : List (Checked Choice)}
    {options : List Choice}
    (each : List.Forall₂ (fun outcome option => outcome = .ok option) outcomes options)
    (nonempty : options ≠ []) :
    outcomes.any isValid = true := by
  cases each with
  | nil => exact absurd rfl nonempty
  | cons given _ =>
      rw [List.any_cons, given]
      rfl

/--
Choices are read from exactly the lists that tell them. That there are too few is told of on
the outcomes, before it is known that all are valid.
-/
theorem reads_choices :
    Reads readChoices fun data options => TellsList TellsChoice data options.1 := by
  intro path data options
  cases data with
  | list items =>
      obtain ⟨options, nonempty⟩ := options
      refine Iff.trans ?_ ((reads_choice.items path items options).trans tellsList_iff.symm)
      simp only [readChoices]
      constructor
      · intro given
        split at given
        · cases given
        · cases given
        · rename_i first more together
          cases given
          obtain ⟨_, _, valid, _, rfl⟩ := Outcome.both_eq_ok_iff.mp together
          exact valid
      · intro valid
        have enough := any_isValid_of_forall (Checked.all_eq_ok_iff.mp valid) nonempty
        rw [if_pos enough, valid]
        obtain ⟨first, more, rfl⟩ := List.exists_cons_of_ne_nil nonempty
        rfl
  | null | boolean | integer | float | infinite | text | object => constructor <;> rintro ⟨⟩

/-! ## Nodes -/

section Outcomes

variable {name asked message : Checked String} {line : Checked (Option Int)} {node : Node}

/-- A question is put together when each of its fields has been read. -/
theorem question_eq_ok_iff
    {success fail : Checked Nat}
    {prompts : Checked (List String)} :
    question success fail name prompts line = .ok node ↔
      ∃ toSuccess toFail bound shown,
        node.body = .question toSuccess toFail bound shown ∧ success = .ok toSuccess ∧
          fail = .ok toFail ∧ name = .ok bound ∧ prompts = .ok shown ∧ line = .ok node.line := by
  simp only [question, Outcome.both_eq_ok_iff]
  constructor
  · rintro ⟨_, _, ⟨_, _, ⟨toSuccess, toFail, one, two, rfl⟩, ⟨bound, shown, three, four, rfl⟩, rfl⟩,
      five, rfl⟩
    exact ⟨toSuccess, toFail, bound, shown, rfl, one, two, three, four, five⟩
  · rintro ⟨toSuccess, toFail, bound, shown, body, one, two, three, four, five⟩
    refine ⟨node.body, node.line, ⟨_, _, ⟨toSuccess, toFail, one, two, rfl⟩,
      ⟨bound, shown, three, four, rfl⟩, body.symm⟩, five, rfl⟩

/-- A branching node is put together when each of its fields has been read. -/
theorem branching_eq_ok_iff
    {options : Checked Choices} :
    branching name asked options line = .ok node ↔
      ∃ bound question offered, ∃ nonempty,
        node.body = .branching bound question offered nonempty ∧ name = .ok bound ∧
          asked = .ok question ∧ options = .ok ⟨offered, nonempty⟩ ∧ line = .ok node.line := by
  simp only [branching, Outcome.both_eq_ok_iff]
  constructor
  · rintro ⟨_, _, ⟨_, offered, ⟨bound, question, one, two, rfl⟩, three, rfl⟩, four, rfl⟩
    exact ⟨bound, question, offered.1, offered.2, rfl, one, two, three, four⟩
  · rintro ⟨bound, question, offered, nonempty, body, one, two, three, four⟩
    exact ⟨node.body, node.line, ⟨_, ⟨offered, nonempty⟩, ⟨bound, question, one, two, rfl⟩,
      three, body.symm⟩, four, rfl⟩

/-- A terminating node is put together when its message and its line have been read. -/
theorem terminating_eq_ok_iff :
    terminating message line = .ok node ↔
      ∃ told, node.body = .terminating told ∧ message = .ok told ∧ line = .ok node.line := by
  simp only [terminating, Outcome.both_eq_ok_iff, Outcome.map_eq_ok_iff]
  constructor
  · rintro ⟨_, _, ⟨told, one, rfl⟩, two, rfl⟩
    exact ⟨told, rfl, one, two⟩
  · rintro ⟨told, body, one, two⟩
    exact ⟨node.body, node.line, ⟨told, one, body.symm⟩, two, rfl⟩

end Outcomes

/-- The kind that an object names is not told to be another. -/
theorem both_optional_kind
    {fields : Fields}
    {kind : Node.Kind}
    (named : fields.lookup "kind" = some (.text kind.name))
    (path : List Step)
    (node : Checked Node) :
    .both (fun _ node => node) (fields.optional path "kind" (readKind kind) ()) node = node := by
  have agrees : fields.optional path "kind" (readKind kind) () = .ok () := by
    simp only [Fields.optional, named, readKind, if_pos]
  rw [agrees]
  cases node <;> rfl

/-- The fields of a node of a known kind are read when they tell a node of that kind. -/
theorem readNodeFields_eq_ok_iff
    {fields : Fields}
    {kind : Node.Kind}
    (named : fields.lookup "kind" = some (.text kind.name))
    (path : List Step)
    (node : Node) :
    readNodeFields path kind fields = .ok node ↔
      node.kind = kind ∧ TellsBody fields node.body ∧
        fields.TellsOr "line" TellsLine none node.line := by
  obtain ⟨body, line⟩ := node
  have text := fun name => reads_text.required fields path name
  have place := reads_line.optional fields path "line" none
  simp only [readNodeFields, both_optional_kind named]
  cases kind with
  | question =>
      have destination := fun name => reads_destination.required fields path name
      have prompts := reads_texts.optional fields path "prompts" []
      simp only [question_eq_ok_iff, text, destination, prompts, place]
      constructor
      · rintro ⟨success, fail, name, shown, rfl, one, two, three, four, five⟩
        exact ⟨rfl, ⟨one, two, three, four⟩, five⟩
      · rintro ⟨same, told, five⟩
        cases body with
        | question success fail name shown =>
            obtain ⟨one, two, three, four⟩ := told
            exact ⟨success, fail, name, shown, rfl, one, two, three, four, five⟩
        | branching | terminating => cases same
  | branching =>
      have options := reads_choices.required fields path "options"
      simp only [branching_eq_ok_iff, text, options, place]
      constructor
      · rintro ⟨name, asked, offered, nonempty, rfl, one, two, three, four⟩
        exact ⟨rfl, ⟨one, two, three⟩, four⟩
      · rintro ⟨same, told, four⟩
        cases body with
        | branching name asked offered nonempty =>
            obtain ⟨one, two, three⟩ := told
            exact ⟨name, asked, offered, nonempty, rfl, one, two, three, four⟩
        | question | terminating => cases same
  | terminating =>
      simp only [terminating_eq_ok_iff, text, place]
      constructor
      · rintro ⟨message, rfl, one, two⟩
        exact ⟨rfl, one, two⟩
      · rintro ⟨same, one, two⟩
        cases body with
        | terminating message => exact ⟨message, rfl, one, two⟩
        | question | branching => cases same

/-- A kind is found by its name and by no other. -/
theorem kindNamed?_eq_some_iff
    {name : String}
    {kind : Node.Kind} :
    kindNamed? name = some kind ↔ name = kind.name := by
  constructor
  · intro found
    unfold kindNamed? at found
    split at found <;> cases found <;> rfl
  · rintro rfl
    cases kind <;> rfl

/-- A node is read from exactly the objects that tell it. -/
theorem reads_node : Reads readNode TellsNode := by
  intro path data node
  cases data with
  | object fields =>
      constructor
      · intro given
        simp only [readNode] at given
        split at given
        · cases given
        · rename_i name named
          split at given
          · rename_i kind found
            obtain rfl := kindNamed?_eq_some_iff.mp found
            obtain ⟨rfl, body, line⟩ := (readNodeFields_eq_ok_iff named _ node).mp given
            exact .object ⟨_, named, .text _⟩ body line
          · cases given
        · cases given
      · rintro ⟨⟨_, named, ⟨⟩⟩, body, line⟩
        have found : kindNamed? node.kind.name = some node.kind := kindNamed?_eq_some_iff.mpr rfl
        simp only [readNode, named, found]
        exact (readNodeFields_eq_ok_iff named _ node).mpr ⟨rfl, body, line⟩
  | null | boolean | integer | float | infinite | text | list => constructor <;> rintro ⟨⟩

/-- Nodes are read from exactly the lists that tell them. -/
theorem reads_nodes : Reads readNodes (TellsList TellsNode) := by
  intro path data nodes
  cases data with
  | list items => exact (reads_node.items path items nodes).trans tellsList_iff.symm
  | null | boolean | integer | float | infinite | text | object => constructor <;> rintro ⟨⟩

/-- A script is read from data that tells its nodes, and from no other. -/
theorem readScript_eq_ok_iff
    {data : Data}
    {script : Script} :
    readScript data = .ok script ↔ Tells data script.nodes.toList := by
  cases data with
  | object fields =>
      have listed := reads_nodes.optional fields [] "nodes" []
      constructor
      · intro given
        simp only [readScript] at given
        split at given
        · cases given
        · rename_i nodes told
          split at given
          · rename_i made built
            cases given
            obtain rfl := Script.ofNodes_eq_ok_iff.mp built
            exact .object ((listed _).mp told)
          · cases given
      · rintro ⟨told⟩
        have built : Script.ofNodes script.nodes.toList = .ok script :=
          Script.ofNodes_eq_ok_iff.mpr rfl
        simp only [readScript, (listed _).mpr told, built]
  | null | boolean | integer | float | infinite | text | list => constructor <;> rintro ⟨⟩

/-- A destination is spelled out, a line is missing, and no one asks for the title and the note. -/
example :
    readScript
        (.object
          [("title", .text "Gate"),
            ("nodes", .list
              [.object
                [("kind", .text "branching"), ("variable", .text "WAY"),
                  ("question", .text "Where?"),
                  ("options", .list
                    [.object
                      [("note", .null), ("text", .text "out"), ("destination", .text "0")]])]])]) =
      .ok
        { nodes := #[⟨.branching "WAY" "Where?" [⟨"out", 0⟩] (List.cons_ne_nil _ _), none⟩]
          size_le := by decide
          closed := by simp [Node.destinations, Node.Body.destinations] } := by
  rfl

end Dialog.Data
