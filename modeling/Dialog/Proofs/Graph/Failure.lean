import Dialog.Script
import Mathlib.Data.Finset.Card
import Mathlib.Data.Nat.Find
import Mathlib.Logic.Function.Iterate

namespace Dialog.Script

/-!
# Where questions without prompts fail to

A question without prompts is left at once for its failure, which may be another
one. Failing can go on like that for ever, but only in a circle: there are no
more questions to pass than the script counts, so whoever has passed that many
and one more has passed one of them twice.
-/

/-- Whether the node with an id is a question that has nothing to show. -/
def isPromptless (script : Script) (id : Nat) : Bool :=
  script.nodes[id]?.any fun node => node.body.isPromptless

/-- Where a question fails to; any other id stands for itself. -/
def failure (script : Script) (id : Nat) : Nat :=
  match script.nodes[id]? with
  | some ⟨.question _ fail _ _, _⟩ => fail
  | _ => id

/-- Whether failing from an id comes to questions without prompts only, for ever. -/
def FailsForever (script : Script) (id : Nat) : Prop :=
  ∀ count, script.isPromptless (script.failure^[count] id) = true

/-- Whether failing leads from an id back to it, by questions without prompts only. -/
def FailsInCircle (script : Script) (id : Nat) : Prop :=
  ∃ count, 0 < count ∧ script.failure^[count] id = id ∧
    ∀ earlier < count, script.isPromptless (script.failure^[earlier] id) = true

/-- The ids of the questions that have nothing to show. -/
def promptlessIds (script : Script) : List Nat :=
  (script.nodes.toList.zipIdx.filter fun (node, _) => node.body.isPromptless).map Prod.snd

variable {script : Script} {id : Nat}

/-- An id is promptless when it names a question without prompts. -/
theorem isPromptless_iff :
    script.isPromptless id = true ↔
      ∃ node, script.nodes[id]? = some node ∧ node.body.isPromptless = true := by
  cases present : script.nodes[id]? <;> simp [isPromptless, present]

/-- The promptless ids are listed. -/
theorem mem_promptlessIds_iff :
    id ∈ script.promptlessIds ↔ script.isPromptless id = true := by
  simp only [isPromptless_iff, promptlessIds, List.mem_map, List.mem_filter,
    List.mem_zipIdx_iff_getElem?, Array.getElem?_toList]
  constructor
  · rintro ⟨⟨node, _⟩, ⟨present, promptless⟩, rfl⟩
    exact ⟨node, present, promptless⟩
  · rintro ⟨node, present, promptless⟩
    exact ⟨(node, id), ⟨present, promptless⟩, rfl⟩

/-- There are as many promptless ids as the script counts promptless questions. -/
theorem length_promptlessIds (script : Script) :
    script.promptlessIds.length = script.promptless := by
  let promptless (node : Node) : Bool := node.body.isPromptless
  calc
    script.promptlessIds.length = script.nodes.toList.zipIdx.countP (promptless ∘ Prod.fst) := by
      rw [promptlessIds, List.length_map, ← List.countP_eq_length_filter]
      rfl
    _ = (script.nodes.toList.zipIdx.map Prod.fst).countP promptless := List.countP_map.symm
    _ = script.promptless := by
      rw [List.zipIdx_map_fst, Array.countP_toList]
      rfl

/-- Whoever passes more questions without prompts than there are passes one of them twice. -/
theorem exists_passed_twice
    (passed :
      ∀ count ≤ script.promptless,
        script.isPromptless (script.failure^[count] id) = true) :
    ∃ early late, early < late ∧ late ≤ script.promptless ∧
      script.failure^[early] id = script.failure^[late] id := by
  have fewer :
      script.promptlessIds.toFinset.card < (Finset.range (script.promptless + 1)).card := by
    rw [Finset.card_range, ← length_promptlessIds]
    exact Nat.lt_succ_of_le (List.toFinset_card_le script.promptlessIds)
  have passedIds :
      ∀ count ∈ Finset.range (script.promptless + 1),
        script.failure^[count] id ∈ script.promptlessIds.toFinset := by
    intro count counted
    rw [List.mem_toFinset, mem_promptlessIds_iff]
    exact passed count (Nat.le_of_lt_succ (Finset.mem_range.mp counted))
  obtain ⟨one, oneCounted, other, otherCounted, differs, same⟩ :=
    Finset.exists_ne_map_eq_of_card_lt_of_maps_to fewer passedIds
  rw [Finset.mem_range] at oneCounted otherCounted
  rcases Nat.lt_or_gt_of_ne differs with before | after
  · exact ⟨one, other, before, Nat.le_of_lt_succ otherCounted, same⟩
  · exact ⟨other, one, after, Nat.le_of_lt_succ oneCounted, same.symm⟩

/--
Who passes more promptless questions than there are fails for ever. Two of those passed are
the same, and where the second passing leads, the first one led before.
-/
theorem failsForever_of_passed
    (passed :
      ∀ count ≤ script.promptless,
        script.isPromptless (script.failure^[count] id) = true) :
    script.FailsForever id := by
  obtain ⟨early, late, before, within, same⟩ := exists_passed_twice passed
  intro count
  induction count using Nat.strongRecOn with
  | ind count inductionHypothesis =>
      rcases Nat.lt_or_ge count late with fresh | again
      · exact passed count (Nat.le_trans (Nat.le_of_lt fresh) within)
      · obtain ⟨more, rfl⟩ := Nat.exists_eq_add_of_le' again
        rw [Function.iterate_add_apply, ← same, ← Function.iterate_add_apply]
        exact inductionHypothesis (more + early) (Nat.add_lt_add_left before more)

/-- Failing for ever comes to a circle. -/
theorem FailsForever.exists_inCircle
    (forever : script.FailsForever id) :
    ∃ middle, script.FailsInCircle middle := by
  obtain ⟨early, late, before, _, same⟩ := exists_passed_twice fun count _ => forever count
  obtain ⟨round, rfl⟩ := Nat.exists_eq_add_of_le' (Nat.le_of_lt before)
  refine ⟨script.failure^[early] id, round, by omega, ?_, ?_⟩
  · rw [← Function.iterate_add_apply, ← same]
  · intro earlier _
    rw [← Function.iterate_add_apply]
    exact forever (earlier + early)

/-- Failing that does not go on for ever comes to another node before it has passed too many. -/
theorem exists_first_other
    (stops : ¬script.FailsForever id) :
    ∃ count ≤ script.promptless,
      script.isPromptless (script.failure^[count] id) = false ∧
        ∀ earlier < count, script.isPromptless (script.failure^[earlier] id) = true := by
  have other : ∃ count, script.isPromptless (script.failure^[count] id) = false := by
    simpa [FailsForever] using stops
  refine ⟨Nat.find other, ?_, Nat.find_spec other, ?_⟩
  · by_contra many
    apply stops
    apply failsForever_of_passed
    intro count within
    simpa using Nat.find_min other (Nat.lt_of_le_of_lt within (Nat.lt_of_not_le many))
  · intro earlier before
    simpa using Nat.find_min other before

end Dialog.Script
