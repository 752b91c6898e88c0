import Dialog.Proofs.Graph.Spread
import Dialog.Proofs.Script.Nodes
import Dialog.Proofs.Session.Turn
import Mathlib.Algebra.Group.Nat.Defs

namespace Dialog

/-!
# Destinations that an answer leads to

A node may list a destination that no answer leads to. A question without prompts
is never answered, so it never succeeds, and a choice is made only by a number
that can be read. The destinations that are left are just those that the responses
of a node go to; a graph that had edges to these only would know which nodes a
session can leave.
-/

namespace Numeral

/-- A run of digits has a value with no more digits. -/
theorem value_lt
    {digits : List Char}
    (allDigits : ∀ character ∈ digits, character.isDigit = true) :
    value digits < 10 ^ digits.length := by
  induction digits with
  | nil => simp [value]
  | cons first rest inductionHypothesis =>
      obtain ⟨firstDigit, restDigits⟩ := List.forall_mem_cons.mp allDigits
      have small : first.toNat - '0'.toNat ≤ 9 := by
        simp only [Char.isDigit, Bool.and_eq_true, decide_eq_true_eq, ge_iff_le,
          UInt32.le_iff_toNat_le] at firstDigit
        have greatest : first.toNat ≤ 57 := firstDigit.2
        have zero : '0'.toNat = 48 := rfl
        omega
      have restSmall : value rest < 10 ^ rest.length := inductionHypothesis restDigits
      have split :
          value (first :: rest) =
            10 ^ rest.length * (first.toNat - '0'.toNat) + value rest := by
        rw [value, Nat.ofDigitChars_cons, Nat.ofDigitChars_eq_ofDigitChars_zero, Nat.mul_zero,
          Nat.zero_add]
        rfl
      calc
        value (first :: rest) <
            10 ^ rest.length * (first.toNat - '0'.toNat) + 10 ^ rest.length := by
          rw [split]
          exact Nat.add_lt_add_left restSmall _
        _ ≤ 10 ^ rest.length * 9 + 10 ^ rest.length :=
          Nat.add_le_add_right (Nat.mul_le_mul_left _ small) _
        _ = 10 ^ (first :: rest).length := by
          rw [List.length_cons, Nat.pow_succ]
          omega

/-- A number that was read is written with no more digits than can be read. -/
theorem short_of_read
    {text : List Char}
    {number : Nat}
    (found : read text = .ok number) :
    (write number).length ≤ digitLimit := by
  unfold read at found
  split at found
  · rename_i numeral
    split at found
    · rename_i short
      cases found
      simp only [isNumeral, Bool.and_eq_true, List.all_eq_true] at numeral
      rw [write, Nat.length_toDigits_le_iff (by decide) (by decide)]
      exact Nat.lt_of_lt_of_le (value_lt numeral.2) (Nat.pow_le_pow_right (by decide) short)
    · cases found
  · cases found

end Numeral

namespace Choice

/-- The choices whose numbers can be read. -/
def readable (options : List Choice) : List Choice :=
  (options.zipIdx 1).filterMap fun (choice, number) =>
    if (Numeral.write number).length ≤ Numeral.digitLimit then some choice else none

/-- The choice that a number stands for is the one at that place, counted from one. -/
theorem numbered?_eq_some_iff
    {options : List Choice}
    {number : Nat}
    {choice : Choice} :
    numbered? options number = some choice ↔ (choice, number) ∈ options.zipIdx 1 := by
  rw [List.mk_mem_zipIdx_iff_le_and_getElem?_sub]
  cases number <;> simp [numbered?]

/-- A choice is readable when some number that stands for it can be read. -/
theorem mem_readable_iff
    {options : List Choice}
    {choice : Choice} :
    choice ∈ readable options ↔
      ∃ number, numbered? options number = some choice ∧
        (Numeral.write number).length ≤ Numeral.digitLimit := by
  simp only [numbered?_eq_some_iff, readable, List.mem_filterMap, Option.ite_none_right_eq_some,
    Option.some.injEq]
  constructor
  · rintro ⟨⟨_, number⟩, listed, short, rfl⟩
    exact ⟨number, listed, short⟩
  · rintro ⟨number, listed, short⟩
    exact ⟨(choice, number), listed, short, rfl⟩

/-- What an answer selects is readable. -/
theorem mem_readable_of_select
    {options : List Choice}
    {answer : String}
    {choice : Choice}
    (chosen : select options answer = .chosen choice) :
    choice ∈ readable options := by
  unfold select at chosen
  split at chosen
  · cases chosen
  · split at chosen
    · split at chosen
      · cases chosen
      · rename_i number found
        split at chosen
        · rename_i named
          cases chosen
          exact mem_readable_iff.mpr ⟨number, named, Numeral.short_of_read found⟩
        · cases chosen
    · cases chosen

/-- A number that can be read, written with a line end, selects its choice. -/
theorem exists_select_of_mem_readable
    {options : List Choice}
    {choice : Choice}
    (listed : choice ∈ readable options) :
    ∃ line, select options (trimLineEnd line) = .chosen choice := by
  obtain ⟨number, named, short⟩ := mem_readable_iff.mp listed
  have numeral := Numeral.isNumeral_write number
  have wellFormed : Line.WellFormed ⟨Numeral.write number, .lineFeed⟩ :=
    ⟨Numeral.not_mem_of_isNumeral numeral (by decide),
      Numeral.not_mem_of_isNumeral numeral (by decide)⟩
  refine ⟨String.ofList (Line.characters ⟨Numeral.write number, .lineFeed⟩), ?_⟩
  have trimmed :
      trimLineEnd (String.ofList (Line.characters ⟨Numeral.write number, .lineFeed⟩)) =
        String.ofList (Numeral.write number) := by
    rw [trimLineEnd, String.toList_ofList, Text.trimLineEnd_characters wellFormed]
  have written : (String.ofList (Numeral.write number)).toList = Numeral.write number :=
    String.toList_ofList
  rw [trimmed, select_of_isNumeral (by rwa [written]), written, Numeral.read_write number short]
  simp [named]

end Choice

namespace Node.Body

/-- The destinations of a node that some answer leads to, or that it is left for at once. -/
def attainable : Node.Body → List Nat
  | .question success fail _ prompts => if prompts.isEmpty then [fail] else [success, fail]
  | .branching _ _ options _ => (Choice.readable options).map Choice.destination
  | .terminating _ => [terminal]

/-- A question is left for its failure, and for its success if it has prompts. -/
theorem mem_attainable_question_iff
    {success fail : Nat}
    {name : String}
    {prompts : List String}
    {destination : Nat} :
    destination ∈ (question success fail name prompts).attainable ↔
      destination = fail ∨ prompts ≠ [] ∧ destination = success := by
  cases prompts <;> simp [attainable, or_comm]

/-- Every destination that some answer leads to is listed. -/
theorem mem_destinations_of_attainable
    {body : Node.Body}
    {destination : Nat}
    (leads : destination ∈ body.attainable) :
    destination ∈ body.destinations := by
  cases body with
  | question success fail name prompts =>
      rcases mem_attainable_question_iff.mp leads with rfl | ⟨_, rfl⟩
      · exact List.mem_cons_of_mem success List.mem_cons_self
      · exact List.mem_cons_self
  | branching name asked options nonempty =>
      obtain ⟨choice, listed, rfl⟩ := List.mem_map.mp leads
      obtain ⟨number, named, _⟩ := Choice.mem_readable_iff.mp listed
      exact List.mem_map_of_mem (Choice.mem_of_numbered? named)
  | terminating message => exact leads

end Node.Body

/-- Where a response goes, if it goes anywhere. -/
def Response.destination? : Response → Option Nat
  | .move destination => some destination
  | .accept _ _ destination => some destination
  | _ => none

namespace Node.Body

/-- The destination that a question is left for without an answer is attainable. -/
theorem mem_attainable_of_leaves
    {bindings : Bindings}
    {attempt : Nat}
    {body : Node.Body}
    {destination : Nat}
    (leaves : body.turn bindings attempt = .leaves destination) :
    destination ∈ body.attainable := by
  cases body with
  | question success fail name prompts =>
      cases left : prompts[attempt]? with
      | some template => simp [turn, left] at leaves
      | none =>
          obtain rfl : fail = destination := by simpa [turn, left] using leaves
          exact mem_attainable_question_iff.mpr (Or.inl rfl)
  | branching | terminating => cases leaves

/-- An answer to a question leads to its success or to its failure. -/
theorem destination_of_answerQuestion
    {success fail : Nat}
    {name : String}
    {prompts : List String}
    {attempt : Nat}
    {answer : String}
    {destination : Nat}
    (goes :
      (answerQuestion success fail name prompts attempt answer).destination? = some destination) :
    destination = success ∨ destination = fail := by
  unfold answerQuestion at goes
  split at goes
  · split at goes
    · cases goes
    · cases goes
      exact Or.inr rfl
  · cases goes
    exact Or.inl rfl

/-- An answer at a branching node leads where a readable choice does. -/
theorem mem_attainable_of_answerBranching
    {name : String}
    {options : List Choice}
    {answer : String}
    {destination : Nat}
    (goes : (answerBranching name options answer).destination? = some destination) :
    destination ∈ (Choice.readable options).map Choice.destination := by
  unfold answerBranching at goes
  split at goes
  · rename_i choice chosen
    cases goes
    exact List.mem_map_of_mem (Choice.mem_readable_of_select chosen)
  · cases goes
  · cases goes

/-- Where a node goes after a prompt is where an answer leads to. -/
theorem mem_attainable_of_respond
    {bindings : Bindings}
    {attempt : Nat}
    {body : Node.Body}
    {prompt : Prompt}
    (shows : body.turn bindings attempt = .shows prompt)
    {id : Int}
    {reading : Reading}
    {destination : Nat}
    (goes : (body.respond id attempt reading).destination? = some destination) :
    destination ∈ body.attainable := by
  cases reading with
  | interrupted => cases goes
  | closed =>
      cases body with
      | question | branching => cases goes
      | terminating message =>
          cases goes
          exact List.mem_cons_self
  | line raw =>
      cases body with
      | question success fail name prompts =>
          have prompted : prompts ≠ [] := by
            rintro rfl
            cases shows
          rw [mem_attainable_question_iff]
          rcases destination_of_answerQuestion goes with rfl | rfl
          · exact Or.inr ⟨prompted, rfl⟩
          · exact Or.inl rfl
      | branching name asked options nonempty => exact mem_attainable_of_answerBranching goes
      | terminating message =>
          cases goes
          exact List.mem_cons_self

end Node.Body

namespace Script

variable {script : Script} {id target : Nat}

/-- The destinations of the node with an id that some answer leads to. -/
def attainable (script : Script) (id : Nat) : List Nat :=
  match script.nodes[id]? with
  | some node => node.body.attainable
  | none => []

/-- What is attainable from an id is what is attainable at the node that it names. -/
theorem attainable_of_present
    {node : Node}
    (present : script.nodes[id]? = some node) :
    script.attainable id = node.body.attainable := by
  simp [attainable, present]

/-- There is an edge to every destination that some answer leads to. -/
theorem mem_successors_of_attainable
    (leads : target ∈ script.attainable id) :
    target ∈ script.graph.successors id := by
  rw [mem_graph_successors_iff]
  cases present : script.nodes[id]? with
  | none => simp [attainable, present] at leads
  | some node =>
      rw [attainable_of_present present] at leads
      exact ⟨node, present, Node.Body.mem_destinations_of_attainable leads⟩

/-- Whether every destination that a node lists is one that some answer leads to. -/
def IsAttainable (script : Script) : Prop :=
  ∀ node ∈ script.nodes, ∀ destination ∈ node.destinations, destination ∈ node.body.attainable

/-- In an attainable script every edge is one that some answer follows. -/
theorem IsAttainable.mem_attainable
    (attained : script.IsAttainable)
    (leads : target ∈ script.graph.successors id) :
    target ∈ script.attainable id := by
  obtain ⟨node, present, listed⟩ := (script.mem_graph_successors_iff id target).mp leads
  rw [attainable_of_present present]
  exact attained node (Array.mem_of_getElem? present) target listed

end Script

end Dialog
