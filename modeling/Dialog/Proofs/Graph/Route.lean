import Dialog.Proofs.Graph.Exit
import Dialog.Proofs.Graph.Way

namespace Dialog

/-!
# The exit found is a way out

A ball keeps for every vertex that it has found a way from there to its center, so
where two balls meet, the two ways joined lead from one center to the other. A ball
that can grow no more has found all that its center leads to, and as long as both
can grow, each round makes the radii together one greater. So the balls meet if
there is a way at all: no shortest way has more edges than there are rounds.
-/

namespace Ball

variable {ball other : Ball} {next : Nat → List Nat} {center source target vertex : Nat}

/-- Whether every route that a ball keeps is a way back to its center. -/
def Routed (next : Nat → List Nat) (center : Nat) (ball : Ball) : Prop :=
  ∀ vertex route, ball.route? vertex = some route →
    Way (fun target source => target ∈ next source) vertex center route

/-- A ball around its center alone knows the way from there to there. -/
theorem routed_around
    (next : Nat → List Nat)
    {center : Nat}
    (inside : center ≤ terminal) :
    (around center).Routed next center := by
  intro vertex route found
  obtain ⟨rfl, rfl⟩ := (route?_around_iff inside route).mp found
  exact .here _ vertex

/-- A vertex that an edge leads to is found with a way back over that edge. -/
theorem Routed.extend
    (routed : ball.Routed next center)
    (leads : target ∈ next source) :
    (ball.extend source target).Routed next center := by
  cases known : ball.route? target with
  | some knownRoute =>
      have unchanged : ball.extend source target = ball := by simp [Ball.extend, known]
      rwa [unchanged]
  | none =>
      cases found : ball.route? source with
      | none =>
          have unchanged : ball.extend source target = ball := by simp [Ball.extend, known, found]
          rwa [unchanged]
      | some route =>
          have grown :
              ball.extend source target =
                { routes := ball.routes.setIfInBounds target (some (target :: route))
                  fringe := target :: ball.fringe } := by
            simp [Ball.extend, known, found]
          intro vertex newRoute new
          rw [grown] at new
          by_cases same : vertex = target
          · subst same
            have inside : vertex < ball.routes.size := by
              by_contra outside
              simp [route?, outside] at new
            obtain rfl : vertex :: route = newRoute := by
              simpa [route?, inside] using new
            exact (routed source route found).step leads
          · refine routed vertex newRoute ?_
            simpa [route?, Ne.symm same] using new

/-- Following edges finds all vertices with a way back. -/
theorem Routed.follow
    {edges : List (Nat × Nat)}
    (routed : ball.Routed next center)
    (lead : ∀ edge ∈ edges, edge.2 ∈ next edge.1) :
    (ball.follow other edges).1.Routed next center := by
  induction edges generalizing ball with
  | nil => exact routed
  | cons edge rest inductionHypothesis =>
      obtain ⟨leads, restLead⟩ := List.forall_mem_cons.mp lead
      rw [Ball.follow]
      split
      · exact routed.extend leads
      · exact inductionHypothesis (routed.extend leads) restLead

/-- Where following edges meets the other ball, both balls hold the vertex. -/
theorem held_of_met
    {limit meeting : Nat}
    {edges : List (Nat × Nat)}
    (canFollow : ball.CanFollow limit edges)
    (met : (ball.follow other edges).2 = some meeting) :
    (ball.follow other edges).1.holds meeting = true ∧ other.holds meeting = true := by
  induction edges generalizing ball with
  | nil => cases met
  | cons edge rest inductionHypothesis =>
      obtain ⟨extended, canFollowRest⟩ := canFollow.rest
      rw [Ball.follow] at met ⊢
      split
      · rename_i outside
        rw [if_pos outside] at met
        obtain rfl : edge.2 = meeting := Option.some.inj met
        exact ⟨(extended.held edge.2).mpr (Or.inr rfl), outside⟩
      · rename_i inside
        rw [if_neg inside] at met
        exact inductionHypothesis canFollowRest met

section Growing

variable
  {radius : Nat}
  (bounded : ∀ source target, target ∈ next source → target ≤ terminal)
  (covers : Covers next center radius ball)

/-- A ball that grows finds all vertices with a way back. -/
theorem Routed.grow
    (routed : ball.Routed next center)
    (other : Ball) :
    (ball.grow next other).1.Routed next center := by
  have routedInside : ({ ball with fringe := [] } : Ball).Routed next center := routed
  refine routedInside.follow fun edge listed => ?_
  exact ((mem_fringeEdges_iff edge).mp listed).2

include bounded covers in
/-- Where a ball that grows meets another, both hold the vertex. -/
theorem held_of_grow
    {meeting : Nat}
    (met : (ball.grow next other).2 = some meeting) :
    (ball.grow next other).1.holds meeting = true ∧ other.holds meeting = true :=
  held_of_met (canFollow_fringeEdges bounded covers) met

include covers in
/-- A ball with nothing at its fringe has found all that trails from its center lead to. -/
theorem holds_of_closed
    (closed : ball.fringe = [])
    {length : Nat}
    (trail : Trail next center length vertex) :
    ball.holds vertex = true := by
  induction trail with
  | here => exact covers.complete 0 center (Nat.zero_le radius) .here
  | onward _ leads inductionHypothesis =>
      refine covers.inner _ inductionHypothesis ?_ _ leads
      rw [closed]
      exact List.not_mem_nil

end Growing

end Ball

namespace Script

variable {script : Script} {start : Nat} {forward backward : Ball} {first second : Nat}

/-- Where the routes of two balls meet, they make one way. -/
theorem way_join
    {meeting : Nat}
    (routedForward : forward.Routed script.graph.successors start)
    (routedBackward : backward.Routed script.graph.predecessors terminal)
    (heldForward : forward.holds meeting = true)
    (heldBackward : backward.holds meeting = true) :
    Way script.Edge start terminal (forward.join backward meeting) := by
  obtain ⟨there, foundThere⟩ := Ball.holds_iff.mp heldForward
  obtain ⟨onward, foundOnward⟩ := Ball.holds_iff.mp heldBackward
  have begun : Way script.Edge start meeting there.reverse :=
    way_successors_iff.mp (routedForward meeting there foundThere).reverse
  have continued : Way script.Edge meeting terminal onward := by
    refine (routedBackward meeting onward foundOnward).mono fun source target => ?_
    exact (script.mem_graph_predecessors_iff source target).mp
  rw [Ball.join, foundThere, foundOnward]
  exact begun.join continued

/-- Two balls, around a node and around the end, that have not met. -/
structure Facing
    (script : Script)
    (start : Nat)
    (forward backward : Ball)
    (first second : Nat) :
    Prop where
  coversForward : forward.Covers script.graph.successors start first
  coversBackward : backward.Covers script.graph.predecessors terminal second
  apart : forward.Apart backward
  routedForward : forward.Routed script.graph.successors start
  routedBackward : backward.Routed script.graph.predecessors terminal

/-- A search that finds ways out only, and finds one where some trail has so few edges. -/
structure Finds (script : Script) (start limit : Nat) (found : Option (List Nat)) : Prop where
  sound : ∀ exit, found = some exit → Way script.Edge start terminal exit
  complete :
    ∀ length ≤ limit, Trail script.graph.successors start length terminal → found.isSome = true

/-- To find nothing is right where no trail is short enough. -/
theorem finds_none
    {limit : Nat}
    (apart :
      ∀ length ≤ limit, ¬Trail script.graph.successors start length terminal) :
    script.Finds start limit none where
  sound := fun exit found => by cases found
  complete := fun length within trail => absurd trail (apart length within)

/-- To find a way is right whatever the limit is. -/
theorem finds_some
    {exit : List Nat}
    (way : Way script.Edge start terminal exit)
    (limit : Nat) :
    script.Finds start limit (some exit) where
  sound := fun _ found => Option.some.inj found ▸ way
  complete := fun _ _ _ => rfl

/-- Two balls around their centers alone face one another. -/
theorem facing_around
    (inside : start < script.size) :
    script.Facing start (.around start) (.around terminal) 0 0 := by
  have startInside : start ≤ terminal := Nat.le_trans (Nat.le_of_lt inside) script.size_le
  have terminalInside : terminal ≤ terminal := Nat.le_refl terminal
  refine ⟨Ball.covers_around _ startInside, Ball.covers_around _ terminalInside, ?_,
    Ball.routed_around _ startInside, Ball.routed_around _ terminalInside⟩
  have differs : start ≠ terminal := Nat.ne_of_lt (Nat.lt_of_lt_of_le inside script.size_le)
  exact Ball.apart_around startInside terminalInside differs

namespace Facing

variable {meeting : Nat}

/-- When the first ball grows without meeting the second, they still face one another. -/
theorem grow_forward
    (facing : script.Facing start forward backward first second)
    (unmet : (forward.grow script.graph.successors backward).2 = none) :
    script.Facing start (forward.grow script.graph.successors backward).1 backward (first + 1)
      second where
  coversForward := Ball.covers_grow script.successors_bounded facing.coversForward backward unmet
  coversBackward := facing.coversBackward
  apart := Ball.apart_grow script.successors_bounded facing.coversForward facing.apart unmet
  routedForward := facing.routedForward.grow backward
  routedBackward := facing.routedBackward

/-- When the second ball grows without meeting the first, they still face one another. -/
theorem grow_backward
    (facing : script.Facing start forward backward first second)
    (unmet : (backward.grow script.graph.predecessors forward).2 = none) :
    script.Facing start forward (backward.grow script.graph.predecessors forward).1 first
      (second + 1) where
  coversForward := facing.coversForward
  coversBackward :=
    Ball.covers_grow script.predecessors_bounded facing.coversBackward forward unmet
  apart :=
    (Ball.apart_grow script.predecessors_bounded facing.coversBackward facing.apart.symm
      unmet).symm
  routedForward := facing.routedForward
  routedBackward := facing.routedBackward.grow forward

/-- Where the first ball meets the second, the routes make a way out. -/
theorem way_of_forward
    (facing : script.Facing start forward backward first second)
    (met : (forward.grow script.graph.successors backward).2 = some meeting) :
    Way script.Edge start terminal
      ((forward.grow script.graph.successors backward).1.join backward meeting) := by
  obtain ⟨held, otherHeld⟩ :=
    Ball.held_of_grow script.successors_bounded facing.coversForward met
  exact way_join (facing.routedForward.grow backward) facing.routedBackward held otherHeld

/-- Where the second ball meets the first, the routes make a way out. -/
theorem way_of_backward
    (facing : script.Facing start forward backward first second)
    (met : (backward.grow script.graph.predecessors forward).2 = some meeting) :
    Way script.Edge start terminal
      (forward.join (backward.grow script.graph.predecessors forward).1 meeting) := by
  obtain ⟨held, otherHeld⟩ :=
    Ball.held_of_grow script.predecessors_bounded facing.coversBackward met
  exact way_join facing.routedForward (facing.routedBackward.grow forward) otherHeld held

/-- While there is a way out, neither of the balls has come to its last level. -/
theorem fringes_ne_nil
    (facing : script.Facing start forward backward first second)
    {length : Nat}
    (trail : Trail script.graph.successors start length terminal) :
    forward.fringe ≠ [] ∧ backward.fringe ≠ [] := by
  constructor
  · intro closed
    have held : forward.holds terminal = true :=
      Ball.holds_of_closed facing.coversForward closed trail
    have otherHeld : backward.holds terminal = true :=
      facing.coversBackward.complete 0 terminal (Nat.zero_le second) .here
    simp [facing.apart terminal held] at otherHeld
  · intro closed
    have held : backward.holds start = true :=
      Ball.holds_of_closed facing.coversBackward closed (trail_backwards_iff.mpr trail)
    have otherHeld : forward.holds start = true :=
      facing.coversForward.complete 0 start (Nat.zero_le first) .here
    simp [facing.apart start otherHeld] at held

/-- Growing in turn for so many rounds adds as many edges to what is found. -/
theorem meet_finds
    (facing : script.Facing start forward backward first second)
    (rounds : Nat) :
    script.Finds start (first + second + rounds) (script.graph.meet rounds forward backward) := by
  induction rounds generalizing forward backward first second with
  | zero =>
      refine finds_none fun length within trail => ?_
      have far := radii_lt_length facing.coversForward facing.coversBackward facing.apart trail
      omega
  | succ rounds inductionHypothesis =>
      rw [Graph.meet]
      split
      · rename_i stuck
        refine finds_none fun length _ trail => ?_
        obtain ⟨forwardLeft, backwardLeft⟩ := facing.fringes_ne_nil trail
        simp [forwardLeft, backwardLeft] at stuck
      · split
        · have unmet := facing.grow_forward
          have met (meeting : Nat)
              (found : (forward.grow script.graph.successors backward).2 = some meeting) :=
            facing.way_of_forward found
          split
          · rename_i grown meeting shape
            simp only [shape] at met
            exact finds_some (met meeting rfl) _
          · rename_i grown shape
            simp only [shape, forall_const] at unmet
            have spent : first + 1 + second + rounds = first + second + (rounds + 1) := by omega
            exact spent ▸ inductionHypothesis unmet
        · have unmet := facing.grow_backward
          have met (meeting : Nat)
              (found : (backward.grow script.graph.predecessors forward).2 = some meeting) :=
            facing.way_of_backward found
          split
          · rename_i grown meeting shape
            simp only [shape] at met
            exact finds_some (met meeting rfl) _
          · rename_i grown shape
            simp only [shape, forall_const] at unmet
            have spent : first + (second + 1) + rounds = first + second + (rounds + 1) := by omega
            exact spent ▸ inductionHypothesis unmet

end Facing

/-- From a node, the exit found is a way out, and nothing is found only where there is none. -/
theorem shortestExit_cases
    (inside : start < script.size) :
    Way script.Edge start terminal (script.graph.shortestExit start) ∨
      script.graph.shortestExit start = [] ∧ ¬script.Walk start terminal := by
  have elsewhere : (start : Int) ≠ terminal := by
    have apart : start ≠ terminal := Nat.ne_of_lt (Nat.lt_of_lt_of_le inside script.size_le)
    exact fun same => apart (Int.ofNat_inj.mp same)
  have finds := (facing_around inside).meet_finds (2 * (script.graph.size + 2))
  rw [Graph.shortestExit, if_neg elsewhere, if_pos (graph_contains inside), Int.toNat_natCast]
  generalize script.graph.meet (2 * (script.graph.size + 2)) (.around start) (.around terminal) =
    found at finds
  cases found with
  | some exit => exact Or.inl (finds.sound exit rfl)
  | none =>
      refine Or.inr ⟨rfl, fun walk => ?_⟩
      obtain ⟨length, few, trail⟩ := exists_short_trail walk
      have sized : script.graph.size = script.size := rfl
      have answered := finds.complete length (by omega) trail
      cases answered

/-- Where there is a walk to the end, the exit found is a way there. -/
theorem way_shortestExit
    (inside : start < script.size)
    (walk : script.Walk start terminal) :
    Way script.Edge start terminal (script.graph.shortestExit start) :=
  (shortestExit_cases inside).resolve_right fun nothing => nothing.2 walk

/-- No exit is found just when no walk leads to the end. -/
theorem shortestExit_eq_nil_iff
    (inside : start < script.size) :
    script.graph.shortestExit start = [] ↔ ¬script.Walk start terminal := by
  rcases shortestExit_cases inside with way | ⟨nothing, apart⟩
  · have walk : script.Walk start terminal := walk_iff_exists_way.mpr ⟨_, way⟩
    simp [way.ne_nil, walk]
  · simp [nothing, apart]

/-- The search for an exit tells whether a node leads out, as marking all it leads to does. -/
theorem canTerminate_eq_spread
    (inside : start < script.size) :
    script.graph.canTerminate start =
      .ok ((spread script.graph.successors start).has terminal) := by
  have startInside : start ≤ terminal := Nat.le_trans (Nat.le_of_lt inside) script.size_le
  have leads := has_spread_iff script.successors_bounded startInside terminal
  rw [← walk_iff_exists_trail] at leads
  rw [Graph.canTerminate, if_pos (graph_contains inside)]
  by_cases walk : script.Walk start terminal
  · simp [leads.mpr walk, (way_shortestExit inside walk).ne_nil]
  · have unled : (spread script.graph.successors start).has terminal = false := by
      rw [← Bool.not_eq_true, leads]
      exact walk
    simp [unled, (shortestExit_eq_nil_iff inside).mpr walk]

/--
What the three questions about the ways out of a node are answered. An exit that is
told starts at the node, ends at the terminal id and follows edges, passes no vertex
twice, and has no more edges than any other way; none is told only where no walk
leads out; and whether there is one is what the two other answers say. No question
about a node is refused.
-/
structure ExitsAgree (script : Script) (start : Nat) : Prop where
  nothing : script.graph.shortestExit start = [] ↔ ¬script.Walk start terminal
  way :
    script.graph.shortestExit start ≠ [] →
      Way script.Edge start terminal (script.graph.shortestExit start)
  once : (script.graph.shortestExit start).Nodup
  least :
    ∀ ids, Way script.Edge start terminal ids →
      (script.graph.shortestExit start).length ≤ ids.length
  told : script.graph.exitFrom start = .ok (script.graph.shortestExit start)
  answered :
    script.graph.canTerminate start = .ok (!(script.graph.shortestExit start).isEmpty)
  trapped : start ∈ script.graph.trapped ↔ script.graph.shortestExit start = []

/-- At every node of every script, the three questions are answered alike and rightly. -/
theorem exitsAgree_of_node
    (inside : start < script.size) :
    script.ExitsAgree start := by
  have nothing := shortestExit_eq_nil_iff inside
  have way :
      script.graph.shortestExit start ≠ [] →
        Way script.Edge start terminal (script.graph.shortestExit start) := by
    intro some
    exact way_shortestExit inside (by simpa [nothing] using some)
  have least :
      ∀ ids, Way script.Edge start terminal ids →
        (script.graph.shortestExit start).length ≤ ids.length := by
    intro ids other
    obtain ⟨length, counted, trail⟩ := (way_successors_iff.mpr other).exists_trail
    rw [counted]
    exact length_shortestExit_le trail
  have vertex := graph_contains inside
  refine ⟨nothing, way, ?_, least, if_pos vertex, if_pos vertex, ?_⟩
  · by_cases none : script.graph.shortestExit start = []
    · rw [none]
      exact List.nodup_nil
    · exact (way none).nodup_of_least least
  · rw [nothing, mem_trapped_iff, walk_iff_exists_trail]
    exact and_iff_right inside

/-- A round, two ways out of which one is listed twice, and a question that lets nobody go on. -/
def roundabout : Script where
  nodes :=
    #[⟨.branching "WAY" "Where to?" [⟨"on", 1⟩, ⟨"round", 0⟩, ⟨"out", 2⟩, ⟨"leave", 2⟩]
        (List.cons_ne_nil _ _), none⟩,
      ⟨.question 0 3 "NAME" ["Who?"], none⟩,
      ⟨.terminating "Bye $NAME", none⟩,
      ⟨.question 3 3 "NAME" ["Who?"], none⟩]
  size_le := by decide
  closed := by simp [Node.destinations, Node.Body.destinations]

/-- From the first node there is a way out, and from the second there is none. -/
theorem exitsAgree_of_node_roundabout :
    roundabout.ExitsAgree 1 ∧ roundabout.ExitsAgree 3 :=
  ⟨exitsAgree_of_node (by decide : 1 < roundabout.size),
    exitsAgree_of_node (by decide : 3 < roundabout.size)⟩

end Script

end Dialog
