import Std.Data.HashSet

namespace Dialog

/-!
# Distinct numbers

The numbers of a list, each kept at its first place only. A set of those met so
far makes one pass enough, however long the list is. No number is lost
(`mem_distinct`) and none is kept twice (`distinct_nodup`).
-/

/-- The numbers of a list that were not met before, each at its first place only. -/
def distinctFrom (met : Std.HashSet Nat) : List Nat → List Nat
  | [] => []
  | number :: rest =>
      if number ∈ met then distinctFrom met rest
      else number :: distinctFrom (met.insert number) rest

/-- The numbers of a list, each at its first place only. -/
def distinct (numbers : List Nat) : List Nat :=
  distinctFrom ∅ numbers

/-- What is kept are the numbers of the list that were not met before. -/
theorem mem_distinctFrom
    (numbers : List Nat)
    (met : Std.HashSet Nat)
    (number : Nat) :
    number ∈ distinctFrom met numbers ↔ number ∈ numbers ∧ number ∉ met := by
  induction numbers generalizing met with
  | nil => simp [distinctFrom]
  | cons first rest inductionHypothesis =>
      by_cases known : first ∈ met
      · rw [distinctFrom, if_pos known, inductionHypothesis, List.mem_cons]
        constructor
        · exact fun ⟨listed, unmet⟩ => ⟨Or.inr listed, unmet⟩
        · rintro ⟨same | listed, unmet⟩
          · exact absurd (same ▸ known) unmet
          · exact ⟨listed, unmet⟩
      · rw [distinctFrom, if_neg known, List.mem_cons, List.mem_cons, inductionHypothesis,
          Std.HashSet.mem_insert]
        by_cases same : number = first
        · subst same
          simp [known]
        · have differs : ¬(first == number) = true := by simpa using Ne.symm same
          simp [same, differs]

/-- Keeping each number once loses none. -/
theorem mem_distinct
    (numbers : List Nat)
    (number : Nat) :
    number ∈ distinct numbers ↔ number ∈ numbers := by
  simp [distinct, mem_distinctFrom]

/-- No number that was not met before is kept twice. -/
theorem distinctFrom_nodup
    (numbers : List Nat)
    (met : Std.HashSet Nat) :
    (distinctFrom met numbers).Nodup := by
  induction numbers generalizing met with
  | nil => simp [distinctFrom]
  | cons first rest inductionHypothesis =>
      by_cases known : first ∈ met
      · rw [distinctFrom, if_pos known]
        exact inductionHypothesis met
      · rw [distinctFrom, if_neg known, List.nodup_cons, mem_distinctFrom]
        exact ⟨fun ⟨_, unmet⟩ => unmet (by simp), inductionHypothesis (met.insert first)⟩

/-- No number is kept twice. -/
theorem distinct_nodup
    (numbers : List Nat) :
    (distinct numbers).Nodup :=
  distinctFrom_nodup numbers ∅

end Dialog
