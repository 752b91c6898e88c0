import Dialog.Graph.Exit
import Dialog.Proofs.Graph.Spread
import Mathlib.Tactic.ByContra

namespace Dialog

/-!
# No way out is shorter than the exit found

A ball that has grown so many levels holds every vertex that a trail of so many
edges leads to, by a route that is no longer. As long as two balls are apart, no
trail from one center to the other is short enough to lie in both, so the first
vertex in which they meet lies on a shortest way.
-/

namespace Ball

variable {ball other : Ball} {next : Nat → List Nat} {source target vertex : Nat}

/-- A ball holds the vertices that it has found a route to. -/
theorem holds_iff : ball.holds vertex = true ↔ ∃ route, ball.route? vertex = some route :=
  Option.isSome_iff_exists

/--
Whether the sources of edges have been found, within so many vertices, and their targets can
be.
-/
def CanFollow (ball : Ball) (limit : Nat) (edges : List (Nat × Nat)) : Prop :=
  ∀ edge ∈ edges,
    edge.2 < ball.routes.size ∧
      ∃ route, ball.route? edge.1 = some route ∧ route.length < limit

/-- Following an edge finds its target and forgets nothing; a new route is one vertex longer. -/
structure Extended (ball : Ball) (limit source target : Nat) (grown : Ball) : Prop where
  sized : grown.routes.size = ball.routes.size
  kept : ∀ vertex route, ball.route? vertex = some route → grown.route? vertex = some route
  held : ∀ vertex, grown.holds vertex = true ↔ ball.holds vertex = true ∨ vertex = target
  fringe :
    ∀ vertex, vertex ∈ grown.fringe ↔
      vertex ∈ ball.fringe ∨ (ball.holds vertex = false ∧ vertex = target)
  short :
    ∀ vertex route, grown.route? vertex = some route →
      ball.route? vertex = some route ∨ route.length ≤ limit

/-- Following an edge from a vertex that has been found adds its target and no more. -/
theorem extend_extended
    {limit : Nat}
    {route : List Nat}
    (inside : target < ball.routes.size)
    (found : ball.route? source = some route)
    (room : route.length < limit) :
    Extended ball limit source target (ball.extend source target) := by
  cases known : ball.route? target with
  | some knownRoute =>
      have unchanged : ball.extend source target = ball := by simp [extend, known]
      have targetHeld : ball.holds target = true := holds_iff.mpr ⟨knownRoute, known⟩
      rw [unchanged]
      refine ⟨rfl, fun _ _ => id, ?_, ?_, fun _ _ => Or.inl⟩
      · intro vertex
        constructor
        · exact Or.inl
        · rintro (held | rfl)
          · exact held
          · exact targetHeld
      · intro vertex
        constructor
        · exact Or.inl
        · rintro (listed | ⟨unheld, rfl⟩)
          · exact listed
          · simp [targetHeld] at unheld
  | none =>
      have grown :
          ball.extend source target =
            { routes := ball.routes.setIfInBounds target (some (target :: route))
              fringe := target :: ball.fringe } := by
        simp [extend, known, found]
      have targetUnheld : ball.holds target = false := by simp [holds, known]
      have targetRoute :
          (ball.extend source target).route? target = some (target :: route) := by
        simp [grown, route?, inside]
      have otherRoute :
          ∀ vertex, vertex ≠ target →
            (ball.extend source target).route? vertex = ball.route? vertex := by
        intro vertex differs
        simp [grown, route?, Ne.symm differs]
      refine ⟨by simp [grown], ?_, ?_, ?_, ?_⟩
      · intro vertex oldRoute old
        have differs : vertex ≠ target := by
          rintro rfl
          simp [known] at old
        rw [otherRoute vertex differs, old]
      · intro vertex
        by_cases same : vertex = target
        · subst same
          simp [holds, targetRoute]
        · simp [holds, otherRoute vertex same, same]
      · intro vertex
        by_cases same : vertex = target
        · subst same
          simp [grown, targetUnheld]
        · simp [grown, same]
      · intro vertex newRoute new
        by_cases same : vertex = target
        · subst same
          rw [targetRoute] at new
          cases new
          exact Or.inr room
        · rw [otherRoute vertex same] at new
          exact Or.inl new

/-- Once the first of some edges has been followed, the others can be. -/
theorem CanFollow.rest
    {limit : Nat}
    {edge : Nat × Nat}
    {rest : List (Nat × Nat)}
    (canFollow : CanFollow ball limit (edge :: rest)) :
    Extended ball limit edge.1 edge.2 (ball.extend edge.1 edge.2) ∧
      CanFollow (ball.extend edge.1 edge.2) limit rest := by
  obtain ⟨inside, route, found, room⟩ := canFollow edge List.mem_cons_self
  have extended := extend_extended inside found room
  refine ⟨extended, fun later listed => ?_⟩
  obtain ⟨laterInside, laterRoute, laterFound, laterRoom⟩ :=
    canFollow later (List.mem_cons_of_mem edge listed)
  exact ⟨extended.sized ▸ laterInside, laterRoute, extended.kept _ _ laterFound, laterRoom⟩

/--
What following edges in order does. When none of them ends in the other ball,
all their targets are found.
-/
structure Followed
    (ball other : Ball)
    (limit : Nat)
    (edges : List (Nat × Nat))
    (result : Ball × Option Nat) :
    Prop where
  sized : result.1.routes.size = ball.routes.size
  short :
    ∀ vertex route, result.1.route? vertex = some route →
      ball.route? vertex = some route ∨ route.length ≤ limit
  apart : result.2 = none → ∀ edge ∈ edges, other.holds edge.2 = false
  held :
    result.2 = none →
      ∀ vertex, result.1.holds vertex = true ↔
        ball.holds vertex = true ∨ ∃ edge ∈ edges, vertex = edge.2
  fringe :
    result.2 = none →
      ∀ vertex, vertex ∈ result.1.fringe ↔
        vertex ∈ ball.fringe ∨ (ball.holds vertex = false ∧ ∃ edge ∈ edges, vertex = edge.2)

/--
Edges that can be followed are followed one after the other. One that ends in the other ball
ends the search, and of the edges after it nothing is said.
-/
theorem follow_followed
    (other : Ball)
    {limit : Nat}
    {edges : List (Nat × Nat)}
    (canFollow : ball.CanFollow limit edges) :
    Followed ball other limit edges (ball.follow other edges) := by
  induction edges generalizing ball with
  | nil =>
      refine ⟨rfl, fun _ _ => Or.inl, ?_, ?_, ?_⟩ <;> simp [follow]
  | cons edge rest inductionHypothesis =>
      obtain ⟨extended, canFollowRest⟩ := canFollow.rest
      have followed := inductionHypothesis canFollowRest
      rw [follow]
      split
      · exact ⟨extended.sized, extended.short, by simp, by simp, by simp⟩
      · rename_i outside
        refine ⟨followed.sized.trans extended.sized, ?_, ?_, ?_, ?_⟩
        · intro vertex route found
          rcases followed.short vertex route found with before | short
          · exact extended.short vertex route before
          · exact Or.inr short
        · intro unmet later listed
          rcases List.mem_cons.mp listed with rfl | inRest
          · simpa using outside
          · exact followed.apart unmet later inRest
        · intro unmet vertex
          rw [followed.held unmet, extended.held, or_assoc]
          simp
        · intro unmet vertex
          rw [followed.fringe unmet, extended.fringe]
          have unheld :
              (ball.extend edge.1 edge.2).holds vertex = false ↔
                ball.holds vertex = false ∧ vertex ≠ edge.2 := by
            rw [← Bool.not_eq_true, extended.held]
            simp
          rw [unheld]
          by_cases same : vertex = edge.2 <;> simp [same]

/-- What a ball of so many levels around a center has found. -/
structure Covers (next : Nat → List Nat) (center radius : Nat) (ball : Ball) : Prop where
  sized : ball.routes.size = terminal + 1
  complete :
    ∀ length vertex, length ≤ radius → Trail next center length vertex → ball.holds vertex = true
  short : ∀ vertex route, ball.route? vertex = some route → route.length ≤ radius + 1
  fringe : ∀ vertex ∈ ball.fringe, ball.holds vertex = true
  inner :
    ∀ vertex, ball.holds vertex = true → vertex ∉ ball.fringe →
      ∀ target ∈ next vertex, ball.holds target = true

/-- At first a ball has a route to its center only. -/
theorem route?_around_iff
    {center : Nat}
    (inside : center ≤ terminal)
    (route : List Nat) :
    (around center).route? vertex = some route ↔ vertex = center ∧ route = [center] := by
  have centerInside : center < terminal + 1 := Nat.lt_succ_of_le inside
  by_cases same : vertex = center
  · subst same
    simp [around, route?, centerInside, eq_comm]
  · have none : (around center).route? vertex = none := by
      simp only [around, route?, Array.getElem?_setIfInBounds_ne (Ne.symm same),
        Array.getElem?_replicate]
      split <;> rfl
    simp [none, same]

/-- At first a ball holds its center only. -/
theorem holds_around_iff
    {center : Nat}
    (inside : center ≤ terminal) :
    (around center).holds vertex = true ↔ vertex = center := by
  rw [holds_iff]
  simp [route?_around_iff inside]

/-- At first a ball covers no level but that of its center. -/
theorem covers_around
    (next : Nat → List Nat)
    {center : Nat}
    (inside : center ≤ terminal) :
    Covers next center 0 (around center) := by
  refine ⟨by simp [around], ?_, ?_, ?_, ?_⟩
  · intro length vertex within trail
    obtain rfl : length = 0 := Nat.le_zero.mp within
    cases trail
    exact (holds_around_iff inside).mpr rfl
  · intro vertex route found
    obtain ⟨_, rfl⟩ := (route?_around_iff inside route).mp found
    exact Nat.le_refl 1
  · intro vertex listed
    exact (holds_around_iff inside).mpr (List.mem_singleton.mp listed)
  · intro vertex held unlisted
    exact absurd (List.mem_singleton.mpr ((holds_around_iff inside).mp held)) unlisted

/-- Whether two balls hold no vertex in common. -/
def Apart (ball other : Ball) : Prop :=
  ∀ vertex, ball.holds vertex = true → other.holds vertex = false

/-- Being apart goes both ways. -/
theorem Apart.symm (apart : ball.Apart other) : other.Apart ball := by
  intro vertex otherHeld
  by_contra held
  simp [apart vertex (by simpa using held)] at otherHeld

/-- Balls that have found only their centers are apart when these differ. -/
theorem apart_around
    {center otherCenter : Nat}
    (inside : center ≤ terminal)
    (otherInside : otherCenter ≤ terminal)
    (differs : center ≠ otherCenter) :
    (around center).Apart (around otherCenter) := by
  intro vertex held
  obtain rfl := (holds_around_iff inside).mp held
  by_contra both
  exact differs ((holds_around_iff otherInside).mp (by simpa using both))

/-- The edges that a ball grows by begin in its fringe. -/
theorem mem_fringeEdges_iff
    (edge : Nat × Nat) :
    edge ∈ ball.fringeEdges next ↔ edge.1 ∈ ball.fringe ∧ edge.2 ∈ next edge.1 := by
  obtain ⟨source, target⟩ := edge
  simp only [fringeEdges, List.mem_flatMap, List.mem_reverse, List.mem_map, Prod.mk.injEq]
  constructor
  · rintro ⟨_, listed, _, leads, rfl, rfl⟩
    exact ⟨listed, leads⟩
  · rintro ⟨listed, leads⟩
    exact ⟨source, listed, target, leads, rfl, rfl⟩

section Growing

variable
  {center radius : Nat}
  (bounded : ∀ source target, target ∈ next source → target ≤ terminal)
  (covers : Covers next center radius ball)

include bounded covers

/-- The edges that a ball grows by can be followed. -/
theorem canFollow_fringeEdges :
    CanFollow { ball with fringe := [] } (radius + 2) (ball.fringeEdges next) := by
  intro edge listed
  obtain ⟨atFringe, leads⟩ := (mem_fringeEdges_iff edge).mp listed
  obtain ⟨route, found⟩ := holds_iff.mp (covers.fringe edge.1 atFringe)
  refine ⟨?_, route, found, Nat.lt_succ_of_le (covers.short edge.1 route found)⟩
  exact covers.sized ▸ Nat.lt_succ_of_le (bounded edge.1 edge.2 leads)

/-- A ball grows by following the edges that begin in its fringe. -/
theorem grow_followed
    (other : Ball) :
    Followed { ball with fringe := [] } other (radius + 2) (ball.fringeEdges next)
      (ball.grow next other) :=
  follow_followed other (canFollow_fringeEdges bounded covers)

/-- A ball that has grown has no route that is more than a vertex longer than before. -/
theorem grow_short
    (other : Ball)
    (vertex : Nat)
    (route : List Nat)
    (found : (ball.grow next other).1.route? vertex = some route) :
    route.length ≤ radius + 2 := by
  rcases (grow_followed bounded covers other).short vertex route found with before | short
  · exact Nat.le_succ_of_le (covers.short vertex route before)
  · exact short

/-- A ball that has grown without meeting the other covers one level more. -/
theorem covers_grow
    (other : Ball)
    (unmet : (ball.grow next other).2 = none) :
    Covers next center (radius + 1) (ball.grow next other).1 := by
  have followed := grow_followed bounded covers other
  have kept :
      ∀ vertex, ball.holds vertex = true → (ball.grow next other).1.holds vertex = true :=
    fun vertex held => (followed.held unmet vertex).mpr (Or.inl held)
  have found :
      ∀ vertex, ball.holds vertex = true → ∀ target ∈ next vertex,
        (ball.grow next other).1.holds target = true := by
    intro vertex held target leads
    by_cases listed : vertex ∈ ball.fringe
    · have edge : (vertex, target) ∈ ball.fringeEdges next :=
        (mem_fringeEdges_iff (vertex, target)).mpr ⟨listed, leads⟩
      exact (followed.held unmet target).mpr (Or.inr ⟨_, edge, rfl⟩)
    · exact kept target (covers.inner vertex held listed target leads)
  refine ⟨followed.sized.trans covers.sized, ?_, ?_, ?_, ?_⟩
  · intro length vertex within trail
    cases trail with
    | here => exact kept center (covers.complete 0 center (Nat.zero_le radius) .here)
    | @onward shorter middle _ begun leads =>
        have middleHeld : ball.holds middle = true :=
          covers.complete shorter middle (Nat.le_of_succ_le_succ within) begun
        exact found middle middleHeld vertex leads
  · exact grow_short bounded covers other
  · intro vertex listed
    rcases (followed.fringe unmet vertex).mp listed with before | ⟨_, edge⟩
    · exact absurd before List.not_mem_nil
    · exact (followed.held unmet vertex).mpr (Or.inr edge)
  · intro vertex held unlisted
    have before : ball.holds vertex = true := by
      by_contra unheld
      rcases (followed.held unmet vertex).mp held with heldBefore | edge
      · exact unheld heldBefore
      · have new : ball.holds vertex = false := by simpa using unheld
        exact unlisted ((followed.fringe unmet vertex).mpr (Or.inr ⟨new, edge⟩))
    exact found vertex before

/-- Two balls that are apart stay apart when one grows without meeting the other. -/
theorem apart_grow
    (apart : ball.Apart other)
    (unmet : (ball.grow next other).2 = none) :
    (ball.grow next other).1.Apart other := by
  have followed := grow_followed bounded covers other
  intro vertex held
  rcases (followed.held unmet vertex).mp held with before | ⟨edge, listed, rfl⟩
  · exact apart vertex before
  · exact followed.apart unmet edge listed

end Growing

/-- The way through a meeting is no longer than the routes that it is joined from. -/
theorem length_join_le
    {forward backward : Ball}
    {meeting first second : Nat}
    (firstShort : ∀ route, forward.route? meeting = some route → route.length ≤ first)
    (secondShort : ∀ route, backward.route? meeting = some route → route.length ≤ second + 1) :
    (forward.join backward meeting).length ≤ first + second := by
  have firstPart : ((forward.route? meeting).getD []).length ≤ first := by
    cases found : forward.route? meeting with
    | none => exact Nat.zero_le first
    | some route => exact firstShort route found
  have secondPart : ((backward.route? meeting).getD []).length ≤ second + 1 := by
    cases found : backward.route? meeting with
    | none => exact Nat.zero_le (second + 1)
    | some route => exact secondShort route found
  simp only [join, List.length_append, List.length_reverse, List.length_drop]
  omega

end Ball

namespace Script

variable {script : Script} {start length : Nat}

/--
While the balls around two centers are apart, no trail between them is short enough for
both: on one that is, the vertex as many edges on as the one radius, or the end, lies within
both.
-/
theorem radii_lt_length
    {forward backward : Ball}
    {first second : Nat}
    (coversForward : forward.Covers script.graph.successors start first)
    (coversBackward : backward.Covers script.graph.predecessors terminal second)
    (apart : forward.Apart backward)
    (trail : Trail script.graph.successors start length terminal) :
    first + second < length := by
  by_contra within
  have parts : min first length + (length - min first length) = length := by omega
  obtain ⟨middle, begun, continued⟩ := Trail.split (parts.symm ▸ trail)
  have heldForward : forward.holds middle = true :=
    coversForward.complete _ middle (Nat.min_le_left first length) begun
  have heldBackward : backward.holds middle = true :=
    coversBackward.complete _ middle (by omega) (trail_backwards_iff.mpr continued)
  simp [apart middle heldForward] at heldBackward

/-- What two balls that are apart meet in is no longer than any trail between their centers. -/
theorem length_meet_le
    {rounds : Nat}
    {forward backward : Ball}
    {first second : Nat}
    (coversForward : forward.Covers script.graph.successors start first)
    (coversBackward : backward.Covers script.graph.predecessors terminal second)
    (apart : forward.Apart backward)
    {exit : List Nat}
    (found : script.graph.meet rounds forward backward = some exit)
    (trail : Trail script.graph.successors start length terminal) :
    exit.length ≤ length + 1 := by
  induction rounds generalizing forward backward first second with
  | zero => cases found
  | succ rounds inductionHypothesis =>
      have far : first + second < length :=
        radii_lt_length coversForward coversBackward apart trail
      rw [Graph.meet] at found
      split at found
      · cases found
      · split at found
        · have short := Ball.grow_short script.successors_bounded coversForward backward
          have covers := Ball.covers_grow script.successors_bounded coversForward backward
          have stillApart := Ball.apart_grow script.successors_bounded coversForward apart
          split at found
          · rename_i grown meeting shape
            cases found
            have joined : (grown.join backward meeting).length ≤ (first + 2) + second := by
              apply Ball.length_join_le
              · exact fun route => by simpa [shape] using short meeting route
              · exact coversBackward.short meeting
            omega
          · rename_i grown shape
            simp only [shape, forall_const] at covers stillApart
            exact inductionHypothesis covers coversBackward stillApart found
        · have short := Ball.grow_short script.predecessors_bounded coversBackward forward
          have covers := Ball.covers_grow script.predecessors_bounded coversBackward forward
          have stillApart :=
            Ball.apart_grow script.predecessors_bounded coversBackward apart.symm
          split at found
          · rename_i grown meeting shape
            cases found
            have joined : (forward.join grown meeting).length ≤ (first + 1) + (second + 1) := by
              apply Ball.length_join_le
              · exact coversForward.short meeting
              · exact fun route => by simpa [shape] using short meeting route
            omega
          · rename_i grown shape
            simp only [shape, forall_const] at covers stillApart
            exact inductionHypothesis coversForward covers stillApart.symm found

/-- No trail from a vertex to the terminal id has fewer vertices than the exit found from there. -/
theorem length_shortestExit_le
    (trail : Trail script.graph.successors start length terminal) :
    (script.graph.shortestExit start).length ≤ length + 1 := by
  unfold Graph.shortestExit
  split
  · exact Nat.succ_le_succ (Nat.zero_le length)
  · rename_i elsewhere
    split
    · rename_i vertex
      have apartCenters : start ≠ terminal := fun same => elsewhere (congrArg Nat.cast same)
      have inside : start ≤ terminal := by
        have below : start < script.size := by
          simpa [Graph.contains, elsewhere, Script.graph] using vertex
        exact Nat.le_trans (Nat.le_of_lt below) script.size_le
      have apart : (Ball.around start).Apart (Ball.around terminal) :=
        Ball.apart_around inside (Nat.le_refl terminal) apartCenters
      cases found :
          script.graph.meet (2 * (script.graph.size + 2)) (.around start) (.around terminal) with
      | none => simp [found]
      | some exit =>
          rw [Int.toNat_natCast, found, Option.getD_some]
          exact length_meet_le (Ball.covers_around _ inside)
            (Ball.covers_around _ (Nat.le_refl terminal)) apart found trail
    · exact Nat.zero_le (length + 1)

end Script

end Dialog
