import Dialog.Session
import Mathlib.Algebra.GroupWithZero.Nat
import Mathlib.Data.List.Count

namespace Dialog.Visits

/-!
# Counting visits

Visits are kept by increasing id, so an id stands there once, and `Counts` says
of which visits they are the count: each id that was entered stands there with
the number of times that it was, and no other id does. To enter one more node
adds one to its count (`entry_mem_enter_iff`), and so keeps the visits
the count of those entered so far (`Counts.enter`).
-/

/-- Visits by increasing id. -/
def Increasing (visits : Visits) : Prop :=
  (visits.map Prod.fst).Pairwise (· < ·)

/-- Visits are increasing when the first id is below all others, and the others are increasing. -/
theorem increasing_cons_iff
    (first count : Nat)
    (rest : Visits) :
    Increasing ((first, count) :: rest) ↔
      (∀ id ∈ rest.map Prod.fst, first < id) ∧ Increasing rest :=
  List.pairwise_cons

/-- The ids that were entered, or one of them entered now. -/
theorem mem_enter_iff
    (visits : Visits)
    (id other : Nat) :
    other ∈ (visits.enter id).map Prod.fst ↔ other = id ∨ other ∈ visits.map Prod.fst := by
  induction visits with
  | nil => simp [enter]
  | cons entry rest inductionHypothesis =>
      obtain ⟨first, count⟩ := entry
      unfold enter
      split
      · simp
      · split
        · rename_i same
          subst same
          simp
        · rw [List.map_cons, List.map_cons, List.mem_cons, List.mem_cons, inductionHypothesis]
          exact or_left_comm

/-- To count one more visit keeps the ids in increasing order. -/
theorem increasing_enter
    {visits : Visits}
    (increasing : Increasing visits)
    (id : Nat) :
    Increasing (visits.enter id) := by
  induction visits with
  | nil => exact List.pairwise_singleton _ id
  | cons entry rest inductionHypothesis =>
      obtain ⟨first, count⟩ := entry
      obtain ⟨least, restIncreasing⟩ := (increasing_cons_iff first count rest).mp increasing
      unfold enter
      split
      · rename_i before
        refine (increasing_cons_iff _ _ _).mpr ⟨?_, increasing⟩
        intro other member
        rcases List.mem_cons.mp member with rfl | later
        · exact before
        · exact Nat.lt_trans before (least other later)
      · split
        · exact (increasing_cons_iff _ _ _).mpr ⟨least, restIncreasing⟩
        · rename_i notBefore differs
          refine (increasing_cons_iff _ _ _).mpr ⟨?_, inductionHypothesis restIncreasing⟩
          intro other member
          rcases (mem_enter_iff rest id other).mp member with rfl | later
          · exact Nat.lt_of_le_of_ne (Nat.le_of_not_lt notBefore) (Ne.symm differs)
          · exact least other later

/-- The count of an id stands at the first entry for it. -/
theorem count_cons
    (first count : Nat)
    (rest : Visits)
    (id : Nat) :
    Visits.count ((first, count) :: rest) id = if id = first then count else rest.count id := by
  unfold Visits.count
  rw [List.lookup_cons]
  by_cases same : id = first
  · simp [same]
  · have differs : (id == first) = false := by simpa using same
    simp [same, differs]

/-- An id that is not listed was not entered. -/
theorem count_of_not_mem
    {visits : Visits}
    {id : Nat}
    (absent : id ∉ visits.map Prod.fst) :
    visits.count id = 0 := by
  induction visits with
  | nil => rfl
  | cons entry rest inductionHypothesis =>
      obtain ⟨first, count⟩ := entry
      rw [List.map_cons, List.mem_cons, not_or] at absent
      rw [count_cons, if_neg absent.1]
      exact inductionHypothesis absent.2

/-- The count listed with an id is its count, since no id is listed twice. -/
theorem count_of_mem
    {visits : Visits}
    (increasing : Increasing visits)
    {id count : Nat}
    (member : (id, count) ∈ visits) :
    visits.count id = count := by
  induction visits with
  | nil => cases member
  | cons entry rest inductionHypothesis =>
      obtain ⟨first, held⟩ := entry
      obtain ⟨least, restIncreasing⟩ := (increasing_cons_iff first held rest).mp increasing
      rw [count_cons]
      rcases List.mem_cons.mp member with here | later
      · cases here
        exact if_pos rfl
      · have after : first < id := least id (List.mem_map_of_mem later)
        rw [if_neg (Nat.ne_of_gt after)]
        exact inductionHypothesis restIncreasing later

/-- To enter a node adds one to its count and leaves all other counts alone. -/
theorem entry_mem_enter_iff
    {visits : Visits}
    (increasing : Increasing visits)
    (id other count : Nat) :
    (other, count) ∈ visits.enter id ↔
      if other = id then count = visits.count id + 1 else (other, count) ∈ visits := by
  induction visits with
  | nil =>
      have nothing : Visits.count [] id = 0 := rfl
      by_cases same : other = id <;> simp [enter, same, nothing]
  | cons entry rest inductionHypothesis =>
      obtain ⟨first, held⟩ := entry
      obtain ⟨least, restIncreasing⟩ := (increasing_cons_iff first held rest).mp increasing
      have later : ∀ entered counted, entered ≤ first → (entered, counted) ∉ rest := by
        intro entered counted before member
        exact absurd (least entered (List.mem_map_of_mem member)) (Nat.not_lt.mpr before)
      unfold enter
      split
      · rename_i before
        have absent : id ∉ ((first, held) :: rest).map Prod.fst := by
          rw [List.map_cons, List.mem_cons, not_or]
          exact ⟨Nat.ne_of_lt before, fun member => by
            exact absurd (least id member) (Nat.not_lt.mpr (Nat.le_of_lt before))⟩
        rw [count_of_not_mem absent]
        by_cases same : other = id
        · subst same
          simp [Nat.ne_of_lt before, later other count (Nat.le_of_lt before)]
        · simp [same]
      · split
        · rename_i same
          subst same
          rw [count_cons, if_pos rfl]
          by_cases here : other = id
          · subst here
            simp [later other count (Nat.le_refl other)]
          · simp [here]
        · rename_i differs
          rw [List.mem_cons, inductionHypothesis restIncreasing, count_cons, if_neg differs]
          by_cases here : other = id
          · subst here
            simp [differs]
          · simp [here]

/-- To enter a node once more makes the number of all visits one greater. -/
theorem sum_enter
    (visits : Visits)
    (id : Nat) :
    ((visits.enter id).map Prod.snd).sum = (visits.map Prod.snd).sum + 1 := by
  induction visits with
  | nil => rfl
  | cons entry rest inductionHypothesis =>
      obtain ⟨first, count⟩ := entry
      unfold enter
      split
      · simp only [List.map_cons, List.sum_cons]
        omega
      · split
        · simp only [List.map_cons, List.sum_cons]
          omega
        · simp only [List.map_cons, List.sum_cons, inductionHypothesis]
          omega

/-- Visits that count how often each of the nodes entered was. -/
structure Counts (visits : Visits) (entered : List Nat) : Prop where
  increasing : Increasing visits
  exact :
    ∀ id count, (id, count) ∈ visits ↔ id ∈ entered ∧ count = entered.count id
  total : (visits.map Prod.snd).sum = entered.length

/-- The ids that are listed are those that were entered. -/
theorem Counts.mem_ids_iff
    {visits : Visits}
    {entered : List Nat}
    (counts : Counts visits entered)
    (id : Nat) :
    id ∈ visits.map Prod.fst ↔ id ∈ entered := by
  constructor
  · intro member
    obtain ⟨⟨_, count⟩, counted, rfl⟩ := List.mem_map.mp member
    exact ((counts.exact _ count).mp counted).1
  · intro member
    exact List.mem_map_of_mem ((counts.exact id (entered.count id)).mpr ⟨member, rfl⟩)

/-- The count of an id is the number of times that it was entered. -/
theorem Counts.count_eq
    {visits : Visits}
    {entered : List Nat}
    (counts : Counts visits entered)
    (id : Nat) :
    visits.count id = entered.count id := by
  by_cases member : id ∈ entered
  · exact count_of_mem counts.increasing ((counts.exact id _).mpr ⟨member, rfl⟩)
  · rw [List.count_eq_zero_of_not_mem member]
    exact count_of_not_mem fun listed => member ((counts.mem_ids_iff id).mp listed)

/-- A first visit is the count of having entered one node once. -/
theorem counts_first (id : Nat) : Counts [(id, 1)] [id] where
  increasing := List.pairwise_singleton _ id
  exact := fun other count => by
    by_cases same : other = id <;> simp [same]
  total := rfl

/-- What is a count of some visits is a count of them and one more once that is entered. -/
theorem Counts.enter
    {visits : Visits}
    {entered : List Nat}
    (counts : Counts visits entered)
    (id : Nat) :
    Counts (visits.enter id) (entered ++ [id]) where
  increasing := increasing_enter counts.increasing id
  exact := fun other count => by
    rw [entry_mem_enter_iff counts.increasing, counts.count_eq, List.count_append]
    by_cases same : other = id
    · subst same
      simp
    · have otherwise : List.count other [id] = 0 :=
        List.count_eq_zero_of_not_mem fun member => same (List.mem_singleton.mp member)
      rw [if_neg same, counts.exact, otherwise]
      simp [same]
  total := by
    rw [sum_enter, counts.total, List.length_append]
    rfl

end Dialog.Visits
