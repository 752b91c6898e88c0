import Dialog.Proofs.Graph.Census
import Mathlib.Data.List.Chain

namespace Dialog

/-!
# Ways as lists of vertices

A way is told by the vertices that it passes, both ends included. Trails count
edges and forget the vertices between; a way keeps these, so it can be asked
whether it passes one of them twice. If it does, the round between can be left
out (`Way.exists_shorter`), so a way that no other undercuts passes no vertex
twice, and in a script it is no longer than there are vertices.
-/

/-- Vertices that lead from a source to a target, each linked to the next by an edge. -/
structure Way (edge : Nat → Nat → Prop) (source target : Nat) (ids : List Nat) : Prop where
  starts : ids.head? = some source
  ends : ids.getLast? = some target
  linked : ids.IsChain edge

namespace Way

variable {edge : Nat → Nat → Prop} {source middle target : Nat} {ids first second : List Nat}

/-- A way that goes nowhere passes one vertex. -/
theorem here (edge : Nat → Nat → Prop) (vertex : Nat) : Way edge vertex vertex [vertex] :=
  ⟨rfl, rfl, .singleton vertex⟩

/-- A way passes a vertex at least. -/
theorem ne_nil (way : Way edge source target ids) : ids ≠ [] := by
  intro empty
  have starts := way.starts
  simp [empty] at starts

/-- Beyond its source a way is empty, or it is a way from the next vertex on. -/
theorem cases_cons
    {head : Nat}
    {rest : List Nat}
    (way : Way edge source target (head :: rest)) :
    head = source ∧
      (rest = [] ∧ source = target ∨
        ∃ next, edge source next ∧ rest.head? = some next ∧ Way edge next target rest) := by
  obtain ⟨starts, ends, linked⟩ := way
  obtain rfl : head = source := by simpa using starts
  refine ⟨rfl, ?_⟩
  cases rest with
  | nil => exact Or.inl ⟨rfl, by simpa using ends⟩
  | cons next rest =>
      obtain ⟨leads, restLinked⟩ := List.isChain_cons_cons.mp linked
      have restEnds : (next :: rest).getLast? = some target := by simpa using ends
      exact Or.inr ⟨next, leads, rfl, rfl, restEnds, restLinked⟩

/-- A way begins one vertex earlier when an edge leads to its source. -/
theorem step
    (leads : edge source middle)
    (way : Way edge middle target ids) :
    Way edge source target (source :: ids) := by
  obtain ⟨head, rest, rfl⟩ := List.exists_cons_of_ne_nil way.ne_nil
  obtain ⟨starts, ends, linked⟩ := way
  obtain rfl : head = middle := by simpa using starts
  exact ⟨rfl, by simpa using ends, List.isChain_cons_cons.mpr ⟨leads, linked⟩⟩

/-- A way taken backwards passes the same vertices in reverse. -/
theorem reverse
    (way : Way (fun one other => edge other one) source target ids) :
    Way edge target source ids.reverse := by
  obtain ⟨starts, ends, linked⟩ := way
  exact ⟨by simpa using ends, by simpa using starts, List.isChain_reverse.mpr linked⟩

/-- A way stays a way when there are more edges. -/
theorem mono
    {other : Nat → Nat → Prop}
    (more : ∀ source target, edge source target → other source target)
    (way : Way edge source target ids) :
    Way other source target ids :=
  ⟨way.starts, way.ends, way.linked.imp more⟩

/-- Where one way ends and another starts, the two are one. -/
theorem join
    (begun : Way edge source middle first)
    (continued : Way edge middle target second) :
    Way edge source target (first ++ second.drop 1) := by
  obtain ⟨head, rest, rfl⟩ := List.exists_cons_of_ne_nil continued.ne_nil
  obtain ⟨rfl, onward⟩ := continued.cases_cons
  rw [List.drop_one, List.tail_cons]
  rcases onward with ⟨rfl, rfl⟩ | ⟨next, leads, nextHead, way⟩
  · rwa [List.append_nil]
  · refine ⟨?_, ?_, ?_⟩
    · rw [List.head?_append, begun.starts, Option.some_or]
    · rw [List.getLast?_append, way.ends, Option.some_or]
    · refine List.isChain_append.mpr ⟨begun.linked, way.linked, ?_⟩
      intro last isLast following isFollowing
      obtain rfl : head = last := Option.some.inj (begun.ends.symm.trans isLast)
      obtain rfl : next = following := Option.some.inj (nextHead.symm.trans isFollowing)
      exact leads

/-- A way that passes a vertex twice is made shorter by leaving out the round between. -/
theorem exists_shorter
    (way : Way edge source target ids)
    (again : ¬ids.Nodup) :
    ∃ shorter, Way edge source target shorter ∧ shorter.length < ids.length := by
  have twice : ∃ vertex, List.Sublist [vertex, vertex] ids := by
    simpa [List.nodup_iff_sublist] using again
  obtain ⟨vertex, pair⟩ := twice
  obtain ⟨before, after, rfl, inBefore, inAfter⟩ := List.cons_sublist_iff.mp pair
  obtain ⟨earlier, round, rfl⟩ := List.mem_iff_append.mp inBefore
  obtain ⟨more, later, rfl⟩ := List.mem_iff_append.mp (List.singleton_sublist.mp inAfter)
  obtain ⟨starts, ends, linked⟩ := way
  refine ⟨earlier ++ vertex :: later, ⟨?_, ?_, ?_⟩, ?_⟩
  · simpa [List.head?_append] using starts
  · have sameEnd :
        (earlier ++ vertex :: round ++ (more ++ vertex :: later)).getLast? =
          (earlier ++ vertex :: later).getLast? := by
      rw [← List.append_assoc, List.getLast?_append_cons, List.getLast?_append_cons]
    exact sameEnd ▸ ends
  · have up : (earlier ++ [vertex]).IsChain edge := by
      refine linked.infix ⟨[], round ++ (more ++ vertex :: later), ?_⟩
      simp
    have down : ([vertex] ++ later).IsChain edge := by
      refine linked.infix ⟨earlier ++ vertex :: round ++ more, [], ?_⟩
      simp
    simpa using up.append_overlap down (List.cons_ne_nil vertex [])
  · simp only [List.length_append, List.length_cons]
    omega

/-- A way that no other undercuts passes no vertex twice. -/
theorem nodup_of_least
    (way : Way edge source target ids)
    (least : ∀ other, Way edge source target other → ids.length ≤ other.length) :
    ids.Nodup := by
  by_contra again
  obtain ⟨shorter, shorterWay, fewer⟩ := way.exists_shorter again
  exact absurd (least shorter shorterWay) (Nat.not_le.mpr fewer)

/-- Where there is a way, there is one that no other undercuts. -/
theorem exists_least
    (way : Way edge source target ids) :
    ∃ short, Way edge source target short ∧
      ∀ other, Way edge source target other → short.length ≤ other.length := by
  classical
  have lengths : ∃ length short, Way edge source target short ∧ short.length = length :=
    ⟨ids.length, ids, way, rfl⟩
  obtain ⟨short, shortWay, sameLength⟩ := Nat.find_spec lengths
  refine ⟨short, shortWay, fun other otherWay => ?_⟩
  rw [sameLength]
  exact Nat.find_min' lengths ⟨other, otherWay, rfl⟩

/-- Every vertex on a way but its target is the source of an edge. -/
theorem eq_or_leads
    (way : Way edge source target ids)
    {vertex : Nat}
    (member : vertex ∈ ids) :
    vertex = target ∨ ∃ next, edge vertex next := by
  induction ids generalizing source with
  | nil => cases member
  | cons head rest inductionHypothesis =>
      obtain ⟨rfl, onward⟩ := way.cases_cons
      rcases onward with ⟨rfl, rfl⟩ | ⟨next, leads, _, restWay⟩
      · exact Or.inl (List.mem_singleton.mp member)
      · rcases List.mem_cons.mp member with rfl | later
        · exact Or.inr ⟨next, leads⟩
        · exact inductionHypothesis restWay later

/-! ## Ways and trails -/

variable {next : Nat → List Nat} {length : Nat}

/-- A way is a trail with an edge less than it has vertices. -/
theorem exists_trail
    (way : Way (fun one other => other ∈ next one) source target ids) :
    ∃ length, ids.length = length + 1 ∧ Trail next source length target := by
  induction ids generalizing source with
  | nil => exact absurd rfl way.ne_nil
  | cons head rest inductionHypothesis =>
      obtain ⟨rfl, onward⟩ := way.cases_cons
      rcases onward with ⟨rfl, rfl⟩ | ⟨middle, leads, _, restWay⟩
      · exact ⟨0, rfl, .here⟩
      · obtain ⟨length, same, trail⟩ := inductionHypothesis restWay
        have through : Trail next head 1 middle := Trail.here.onward leads
        refine ⟨1 + length, ?_, through.append trail⟩
        rw [List.length_cons, same]
        omega

/-- A trail passes the vertices of a way. -/
theorem exists_of_trail
    (trail : Trail next source length target) :
    ∃ ids, Way (fun one other => other ∈ next one) source target ids := by
  induction trail with
  | here => exact ⟨[source], .here _ source⟩
  | @onward length middle last _ leads inductionHypothesis =>
      obtain ⟨ids, way⟩ := inductionHypothesis
      have through : Way (fun one other => other ∈ next one) middle last [middle, last] :=
        (Way.here _ last).step leads
      exact ⟨_, way.join through⟩

end Way

namespace Script

variable {script : Script} {source target : Nat} {ids : List Nat}

/-- Ways along listed successors are ways along edges. -/
theorem way_successors_iff :
    Way (fun one other => other ∈ script.graph.successors one) source target ids ↔
      Way script.Edge source target ids := by
  simp only [mem_graph_successors_iff]

/-- A walk leads from one vertex to another just when a way does. -/
theorem walk_iff_exists_way :
    script.Walk source target ↔ ∃ ids, Way script.Edge source target ids := by
  rw [walk_iff_exists_trail]
  constructor
  · intro trails
    obtain ⟨length, trail⟩ := trails
    obtain ⟨ids, way⟩ := Way.exists_of_trail trail
    exact ⟨ids, way_successors_iff.mp way⟩
  · intro ways
    obtain ⟨ids, way⟩ := ways
    obtain ⟨length, _, trail⟩ := (way_successors_iff.mpr way).exists_trail
    exact ⟨length, trail⟩

/-- A way to the end that passes no vertex twice passes each node once at most. -/
theorem length_le_of_nodup
    (way : Way script.Edge source terminal ids)
    (once : ids.Nodup) :
    ids.length ≤ script.size + 1 := by
  have vertices : ids ⊆ terminal :: List.range script.size := by
    intro vertex member
    rcases way.eq_or_leads member with rfl | ⟨next, edge⟩
    · exact List.mem_cons_self
    · exact List.mem_cons_of_mem terminal (List.mem_range.mpr edge.source_lt)
  simpa using (once.subperm vertices).length_le

/-- Where trails lead to the end, one of them has no more edges than there are nodes. -/
theorem exists_short_trail
    (walk : script.Walk source terminal) :
    ∃ length ≤ script.size, Trail script.graph.successors source length terminal := by
  obtain ⟨_, someWay⟩ := walk_iff_exists_way.mp walk
  obtain ⟨ids, way, least⟩ := someWay.exists_least
  have few := length_le_of_nodup way (way.nodup_of_least least)
  obtain ⟨length, counted, trail⟩ := (way_successors_iff.mpr way).exists_trail
  exact ⟨length, by omega, trail⟩

end Script

end Dialog
