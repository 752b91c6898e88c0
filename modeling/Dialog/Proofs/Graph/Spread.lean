import Dialog.Graph.Search
import Dialog.Proofs.Graph.Trail

namespace Dialog

/-!
# What a search marks

Marking from a start reaches exactly the vertices that a trail leads to. Every
vertex marked was waited for by one marked before it, so a trail leads to it;
and the work list holds the ends of all edges from marked vertices that are not
marked themselves, so nothing is left out once the list is empty. The searches
of a script's graph are this marking, along the edges or against them.
-/

namespace Marks

/-- A vertex is pending when it can be marked and is not. -/
theorem pending_iff
    (marks : Marks)
    (vertex : Nat) :
    marks.Pending vertex ↔ vertex < marks.size ∧ marks.has vertex = false := by
  constructor
  · rintro ⟨inside, unmarked⟩
    exact ⟨inside, by simp [has, Array.getD_eq_getD_getElem?, inside, unmarked]⟩
  · rintro ⟨inside, unmarked⟩
    refine ⟨inside, ?_⟩
    simpa [has, Array.getD_eq_getD_getElem?, inside] using unmarked

/-- To mark a vertex marks it and no other. -/
theorem has_set
    (marks : Marks)
    {vertex : Nat}
    (inside : vertex < marks.size)
    (other : Nat) :
    Marks.has (marks.set vertex true inside) other = true ↔
      other = vertex ∨ marks.has other = true := by
  by_cases same : other = vertex
  · subst same
    simp [has, Array.getD_eq_getD_getElem?, inside]
  · simp [has, Array.getD_eq_getD_getElem?, same, Ne.symm same]

/-- Nothing is marked at first. -/
theorem has_clear (vertex : Nat) : clear.has vertex = false := by
  simp only [has, clear, Array.getD_eq_getD_getElem?, Array.getElem?_replicate]
  split <;> rfl

end Marks

variable {next : Nat → List Nat}

/--
What marking leaves behind: nothing is unmarked, every edge is followed, and no more is
marked.
-/
structure Saturated
    (next : Nat → List Nat)
    (marks : Marks)
    (work : List Nat)
    (final : Marks) :
    Prop where
  kept : ∀ vertex, marks.has vertex = true → final.has vertex = true
  worked : ∀ vertex ∈ work, vertex < marks.size → final.has vertex = true
  followed :
    (∀ vertex, marks.has vertex = true → ∀ target ∈ next vertex, target < marks.size →
      marks.has target = true ∨ target ∈ work) →
    ∀ vertex, final.has vertex = true → ∀ target ∈ next vertex, target < marks.size →
      final.has target = true
  led :
    ∀ vertex, final.has vertex = true →
      marks.has vertex = true ∨ ∃ start ∈ work, ∃ length, Trail next start length vertex

namespace Saturated

variable {marks final : Marks} {vertex : Nat} {rest : List Nat}

/-- With nothing left to look at, no more can be marked. -/
theorem nothing_left
    (next : Nat → List Nat)
    (marks : Marks) :
    Saturated next marks [] marks where
  kept _ marked := marked
  worked _ listed := absurd listed List.not_mem_nil
  followed closed vertex marked target leads inside := by
    rcases closed vertex marked target leads inside with done | listed
    · exact done
    · exact absurd listed List.not_mem_nil
  led _ marked := Or.inl marked

/-- A vertex that cannot be marked, or is, is passed over. -/
theorem pass_over
    (done : ¬marks.Pending vertex)
    (saturated : Saturated next marks rest final) :
    Saturated next marks (vertex :: rest) final := by
  have marked : vertex < marks.size → marks.has vertex = true := by
    intro inside
    simpa [Marks.pending_iff, inside] using done
  refine ⟨saturated.kept, ?_, ?_, ?_⟩
  · intro other listed inside
    rcases List.mem_cons.mp listed with rfl | later
    · exact saturated.kept other (marked inside)
    · exact saturated.worked other later inside
  · intro closed
    apply saturated.followed
    intro source sourceMarked target leads inside
    rcases closed source sourceMarked target leads inside with targetMarked | listed
    · exact Or.inl targetMarked
    · rcases List.mem_cons.mp listed with rfl | later
      · exact Or.inl (marked inside)
      · exact Or.inr later
  · intro other otherMarked
    rcases saturated.led other otherMarked with before | ⟨start, later, length, trail⟩
    · exact Or.inl before
    · exact Or.inr ⟨start, List.mem_cons_of_mem vertex later, length, trail⟩

/-- A vertex marked sends the ends of its edges to the work list. -/
theorem mark
    (inside : vertex < marks.size)
    (saturated : Saturated next (marks.set vertex true inside) (next vertex ++ rest) final) :
    Saturated next marks (vertex :: rest) final := by
  have size : Array.size (marks.set vertex true inside) = marks.size := Array.size_set ..
  obtain ⟨kept, worked, followed, led⟩ := saturated
  rw [size] at worked followed
  refine ⟨?_, ?_, ?_, ?_⟩
  · intro other marked
    exact kept other ((Marks.has_set marks inside other).mpr (Or.inr marked))
  · intro other listed otherInside
    rcases List.mem_cons.mp listed with rfl | later
    · exact kept other ((Marks.has_set marks inside other).mpr (Or.inl rfl))
    · exact worked other (List.mem_append_right (next vertex) later) otherInside
  · intro closed
    apply followed
    intro source sourceMarked target leads targetInside
    rw [Marks.has_set] at sourceMarked ⊢
    rcases sourceMarked with rfl | before
    · exact Or.inr (List.mem_append_left rest leads)
    · rcases closed source before target leads targetInside with targetMarked | listed
      · exact Or.inl (Or.inr targetMarked)
      · rcases List.mem_cons.mp listed with same | later
        · exact Or.inl (Or.inl same)
        · exact Or.inr (List.mem_append_right (next vertex) later)
  · intro other otherMarked
    rcases led other otherMarked with before | ⟨start, listed, length, trail⟩
    · rcases (Marks.has_set marks inside other).mp before with rfl | marked
      · exact Or.inr ⟨other, List.mem_cons_self, 0, .here⟩
      · exact Or.inl marked
    · rcases List.mem_append.mp listed with leads | later
      · have through : Trail next vertex 1 start := Trail.here.onward leads
        exact Or.inr ⟨vertex, List.mem_cons_self, 1 + length, through.append trail⟩
      · exact Or.inr ⟨start, List.mem_cons_of_mem vertex later, length, trail⟩

end Saturated

/-- Where nothing has to wait, marking leaves no edge from a marked vertex to one that is not. -/
theorem saturate_saturated
    (next : Nat → List Nat)
    (marks : Marks)
    (waits : Array (List Nat))
    (work : List Nat)
    (free : ∀ vertex, waits.getD vertex [] = []) :
    Saturated next marks work (saturate next marks waits work) := by
  induction marks, waits, work using saturate.induct next with
  | case1 marks waits =>
      rw [saturate]
      exact .nothing_left next marks
  | case2 marks waits vertex rest pending ready inductionHypothesis =>
      rw [saturate, dif_pos pending]
      simp only [ready]
      exact .mark pending.1 (inductionHypothesis free)
  | case3 marks waits vertex rest pending waiting =>
      exact absurd (by rw [free, List.dropWhile_nil]) waiting
  | case4 marks waits vertex rest done inductionHypothesis =>
      rw [saturate, dif_neg done]
      exact .pass_over done (inductionHypothesis free)

/-- Marking from a start marks the vertices that a trail leads to. -/
theorem has_spread_iff
    (bounded : ∀ source target, target ∈ next source → target ≤ terminal)
    {start : Nat}
    (inside : start ≤ terminal)
    (vertex : Nat) :
    (spread next start).has vertex = true ↔ ∃ length, Trail next start length vertex := by
  obtain ⟨_, worked, followed, led⟩ :=
    saturate_saturated next Marks.clear #[] [start] fun _ => rfl
  have size : Marks.clear.size = terminal + 1 := Array.size_replicate ..
  constructor
  · intro marked
    rcases led vertex marked with before | ⟨first, listed, length, trail⟩
    · simp [Marks.has_clear] at before
    · obtain rfl : first = start := List.mem_singleton.mp listed
      exact ⟨length, trail⟩
  · rintro ⟨length, trail⟩
    induction trail with
    | here => exact worked start List.mem_cons_self (size ▸ Nat.lt_succ_of_le inside)
    | @onward length middle target _ leads inductionHypothesis =>
        have targetInside : target < Marks.clear.size :=
          size ▸ Nat.lt_succ_of_le (bounded middle target leads)
        refine followed ?_ middle inductionHypothesis target leads targetInside
        simp [Marks.has_clear]

namespace Script

variable {script : Script}

/-- Edges lead to vertices only. -/
theorem successors_bounded
    (script : Script)
    (source target : Nat)
    (leads : target ∈ script.graph.successors source) :
    target ≤ terminal :=
  ((script.mem_graph_successors_iff source target).mp leads).target_le

/-- Edges come from vertices only. -/
theorem predecessors_bounded
    (script : Script)
    (target source : Nat)
    (leads : source ∈ script.graph.predecessors target) :
    source ≤ terminal :=
  Nat.le_trans
    (Nat.le_of_lt ((script.mem_graph_predecessors_iff source target).mp leads).source_lt)
    script.size_le

/-- A trail along the edges is a trail against them from its end to its start. -/
theorem trail_backwards_iff
    {source target length : Nat} :
    Trail script.graph.predecessors target length source ↔
      Trail script.graph.successors source length target := by
  constructor
  · refine Trail.reverse fun last first leads => ?_
    exact (script.mem_graph_successors_iff first last).mpr
      ((script.mem_graph_predecessors_iff first last).mp leads)
  · refine Trail.reverse fun first last leads => ?_
    exact (script.mem_graph_predecessors_iff first last).mpr
      ((script.mem_graph_successors_iff first last).mp leads)

/-- Every node is a vertex. -/
theorem graph_contains
    {id : Nat}
    (inside : id < script.size) :
    script.graph.contains id = true := by
  have sized : script.graph.size = script.size := rfl
  simp [Graph.contains, sized, inside]

/-- A node is reachable when a trail leads to it. -/
theorem mem_reachable_iff
    {start : Nat}
    (inside : start < script.size)
    (id : Nat) :
    id ∈ script.graph.reachable start ↔
      id < script.size ∧ ∃ length, Trail script.graph.successors start length id := by
  have startInside : start ≤ terminal := Nat.le_trans (Nat.le_of_lt inside) script.size_le
  rw [Graph.reachable, if_pos (graph_contains inside), List.mem_filter, Int.toNat_natCast,
    has_spread_iff script.successors_bounded startInside]
  exact and_congr_left fun _ => List.mem_range

/-- The unreachable nodes are those that are not reachable. -/
theorem mem_unreachable_iff
    {start : Nat}
    (inside : start < script.size)
    (id : Nat) :
    id ∈ script.graph.unreachable start ↔
      id < script.size ∧ id ∉ script.graph.reachable start := by
  have startInside : start ≤ terminal := Nat.le_trans (Nat.le_of_lt inside) script.size_le
  rw [mem_reachable_iff inside, Graph.unreachable, if_pos (graph_contains inside),
    List.mem_filter, Int.toNat_natCast, Bool.not_eq_true', ← Bool.not_eq_true,
    has_spread_iff script.successors_bounded startInside]
  constructor
  · rintro ⟨listed, unled⟩
    exact ⟨List.mem_range.mp listed, fun reachable => unled reachable.2⟩
  · rintro ⟨node, apart⟩
    exact ⟨List.mem_range.mpr node, fun led => apart ⟨node, led⟩⟩

/-- A node is trapped when no trail leads from it to the terminal id. -/
theorem mem_trapped_iff
    (id : Nat) :
    id ∈ script.graph.trapped ↔
      id < script.size ∧ ¬∃ length, Trail script.graph.successors id length terminal := by
  rw [Graph.trapped, List.mem_filter, Bool.not_eq_true', ← Bool.not_eq_true,
    has_spread_iff script.predecessors_bounded (Nat.le_refl terminal)]
  simp only [trail_backwards_iff]
  exact and_congr_left fun _ => List.mem_range

end Script

end Dialog
