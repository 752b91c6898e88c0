import Dialog.Script.Reader
import Mathlib.Data.List.Forall2

namespace Dialog

/-!
# Outcomes that may be faults

Reading goes on as long as nothing is at fault, so a value at the end tells that
every stage before it gave one. These facts take such a value back to the stages
that it came from.
-/

namespace Outcome

/-- Two stages give a value when the first does and the second does after it. -/
theorem bind_eq_ok_iff
    {first : Except ε α}
    {next : α → Except ε β}
    {value : β} :
    first >>= next = .ok value ↔ ∃ between, first = .ok between ∧ next between = .ok value := by
  cases first with
  | error fault =>
      constructor
      · intro given
        cases given
      · rintro ⟨_, found, _⟩
        cases found
  | ok between =>
      constructor
      · exact fun given => ⟨between, rfl, given⟩
      · rintro ⟨_, found, given⟩
        cases found
        exact given

/-- Rewording a fault gives no value and takes none away. -/
theorem mapError_eq_ok_iff
    {outcome : Except ε α}
    {word : ε → φ}
    {value : α} :
    outcome.mapError word = .ok value ↔ outcome = .ok value := by
  cases outcome <;> simp [Except.mapError]

theorem map_eq_ok_iff
    {outcome : Except ε α}
    {change : α → β}
    {value : β} :
    outcome.map change = .ok value ↔ ∃ given, outcome = .ok given ∧ change given = value := by
  cases outcome <;> simp [Except.map]

theorem map_eq_error_iff
    {outcome : Except ε α}
    {change : α → β}
    {fault : ε} :
    outcome.map change = .error fault ↔ outcome = .error fault := by
  cases outcome <;> simp [Except.map]

/-- A stage that all items of a list pass gives, place by place, what it gives of each item. -/
theorem mapM_eq_ok_iff
    {stage : α → Except ε β}
    {items : List α}
    {values : List β} :
    items.mapM stage = .ok values ↔
      List.Forall₂ (fun item value => stage item = .ok value) items values := by
  induction items generalizing values with
  | nil =>
      rw [List.mapM_nil, List.forall₂_nil_left_iff]
      constructor
      · intro given
        cases given
        rfl
      · rintro rfl
        rfl
  | cons item rest inductionHypothesis =>
      rw [List.mapM_cons, bind_eq_ok_iff, List.forall₂_cons_left_iff]
      constructor
      · rintro ⟨value, given, more⟩
        obtain ⟨others, givenOthers, same⟩ := bind_eq_ok_iff.mp more
        cases same
        exact ⟨value, others, given, inductionHypothesis.mp givenOthers, rfl⟩
      · rintro ⟨value, others, given, givenOthers, rfl⟩
        exact ⟨value, given, bind_eq_ok_iff.mpr ⟨others, inductionHypothesis.mpr givenOthers, rfl⟩⟩

/-- Every value of a list comes from an item of the list it was made from. -/
theorem exists_of_mem_mapM
    {stage : α → Except ε β}
    {items : List α}
    {values : List β}
    (passed : items.mapM stage = .ok values) :
    ∀ value ∈ values, ∃ item ∈ items, stage item = .ok value := by
  rw [mapM_eq_ok_iff] at passed
  induction passed with
  | nil =>
      intro value member
      cases member
  | @cons item first items values given _ inductionHypothesis =>
      intro value member
      rcases List.mem_cons.1 member with rfl | later
      · exact ⟨item, List.mem_cons_self, given⟩
      · obtain ⟨other, otherMember, otherGiven⟩ := inductionHypothesis value later
        exact ⟨other, List.mem_cons_of_mem item otherMember, otherGiven⟩

/-- Where a list of values is made, every item has one. -/
theorem exists_ok_of_mapM
    {stage : α → Except ε β}
    {items : List α}
    {values : List β}
    (passed : items.mapM stage = .ok values) :
    ∀ item ∈ items, ∃ value, stage item = .ok value := by
  rw [mapM_eq_ok_iff] at passed
  induction passed with
  | nil =>
      intro item member
      cases member
  | @cons item value items values given _ inductionHypothesis =>
      intro other member
      rcases List.mem_cons.1 member with rfl | later
      · exact ⟨value, given⟩
      · exact inductionHypothesis other later

/-- The fault that stops a stage on its way through a list is the fault of one of the items. -/
theorem exists_of_mapM_eq_error
    {stage : α → Except ε β}
    {items : List α}
    {fault : ε}
    (stopped : items.mapM stage = .error fault) :
    ∃ item ∈ items, stage item = .error fault := by
  induction items with
  | nil => cases stopped
  | cons item rest inductionHypothesis =>
      rw [List.mapM_cons] at stopped
      cases given : stage item with
      | error own =>
          rw [given] at stopped
          cases stopped
          exact ⟨item, List.mem_cons_self, given⟩
      | ok value =>
          cases later : rest.mapM stage with
          | ok values =>
              rw [given, later] at stopped
              cases stopped
          | error own =>
              rw [given, later] at stopped
              cases stopped
              obtain ⟨other, member, fails⟩ := inductionHypothesis later
              exact ⟨other, List.mem_cons_of_mem item member, fails⟩

/-- When an item fails, and all that fail do so for one cause, the list fails for it. -/
theorem mapM_eq_error_of
    {stage : α → Except ε β}
    {items : List α}
    {item : α}
    {fault : ε}
    {cause : ε → Prop}
    (member : item ∈ items)
    (fails : stage item = .error fault)
    (causes : ∀ other ∈ items, ∀ own, stage other = .error own → cause own) :
    ∃ first, items.mapM stage = .error first ∧ cause first := by
  cases outcome : items.mapM stage with
  | ok values =>
      obtain ⟨value, given⟩ := exists_ok_of_mapM outcome item member
      cases given.symm.trans fails
  | error first =>
      obtain ⟨other, otherMember, own⟩ := exists_of_mapM_eq_error outcome
      exact ⟨first, rfl, causes other otherMember first own⟩

/-- Two checked outcomes together are a value when both are. -/
theorem both_eq_ok_iff
    {combine : α → β → γ}
    {first : Data.Checked α}
    {second : Data.Checked β}
    {value : γ} :
    Data.Checked.both combine first second = .ok value ↔
      ∃ one other, first = .ok one ∧ second = .ok other ∧ combine one other = value := by
  cases first <;> cases second <;> simp [Data.Checked.both]

end Outcome

namespace Script

/-- Nothing is missing among nodes that lead to one another or to the end. -/
theorem firstMissing_of_closed
    {count : Nat}
    {nodes : List Node}
    (closed :
      ∀ node ∈ nodes, ∀ destination ∈ node.destinations,
        destination = terminal ∨ destination < count) :
    firstMissing count nodes = none := by
  unfold firstMissing
  rw [List.findSome?_eq_none_iff]
  rintro ⟨node, id⟩ zipped
  have member : node ∈ nodes := List.fst_mem_of_mem_zipIdx zipped
  have nothing : missingDestination count node = none := by
    unfold missingDestination
    rw [List.find?_eq_none]
    intro destination destinationMember
    rcases closed node member destination destinationMember with ends | present
    · simp [isPresent, ends]
    · simp [isPresent, present]
  simp only [nothing, Option.map_none]

/-- Nodes make the script that has them, and no other. -/
theorem ofNodes_eq_ok_iff
    {nodes : List Node}
    {script : Script} :
    ofNodes nodes = .ok script ↔ nodes = script.nodes.toList := by
  constructor
  · intro made
    unfold ofNodes at made
    split at made
    · split at made
      · cases made
      · cases made
        rfl
    · cases made
  · rintro rfl
    have few : script.nodes.toList.length ≤ terminal := script.size_le
    have nothingMissing : firstMissing script.nodes.toList.length script.nodes.toList = none := by
      apply firstMissing_of_closed
      intro node member
      exact script.closed node (Array.mem_toList_iff.1 member)
    unfold ofNodes
    rw [dif_pos few]
    split
    · rename_i fault missing
      rw [nothingMissing] at missing
      cases missing
    · simp

/-- A text describes a script when its records describe the nodes of the script. -/
theorem read_eq_ok_iff
    {text : String}
    {script : Script} :
    read text = .ok script ↔
      ∃ records,
        Record.readAll text = .ok records ∧
          (records.map Record.draft).mapM Draft.node = .ok script.nodes.toList := by
  simp only [read, ofRecords, ofDrafts, Outcome.bind_eq_ok_iff, Outcome.mapError_eq_ok_iff,
    ofNodes_eq_ok_iff, exists_eq_right]

/-- A text that can be taken up describes a script with a node to start at. -/
theorem load_eq_ok_iff
    {text : String}
    {script : Script} :
    load text = .ok script ↔ read text = .ok script ∧ 0 < script.size := by
  unfold load
  rw [Outcome.bind_eq_ok_iff]
  constructor
  · rintro ⟨found, described, kept⟩
    unfold playable at kept
    split at kept
    · cases kept
    · rename_i nonempty
      cases kept
      exact ⟨described, Nat.pos_of_ne_zero nonempty⟩
  · rintro ⟨described, nonempty⟩
    exact ⟨script, described, if_neg (Nat.ne_of_gt nonempty)⟩

end Script

end Dialog
