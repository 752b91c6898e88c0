import Dialog.Proofs.Record.Run

namespace Dialog.Record

/-!
# Lines in the place of others

What reading does with a line depends on what the line says alone. Its number and
the way it ends are only carried along, in its token. So when all tokens of the
record that is being read are changed in one way, and a line stands in the place
of another that says the same and has its tokens changed in that way, reading
takes the same step (`advance_mapTokens`); and a run over such lines completes
the same records, with their tokens changed (`run_mapTokens`).
-/

/-- A record with all its tokens changed in one way. -/
def mapTokens (change : Token → Token) : Record → Record
  | .question tag success fail name prompts =>
      .question (change tag) (change success) (change fail) (change name) (prompts.map change)
  | .branching tag name asked options =>
      .branching (change tag) (change name) (change asked) (options.map change)
  | .terminating tag message => .terminating (change tag) (change message)

/-- A line that says what another one says, and whose tokens are those of the other, changed. -/
structure Replaces (change : Token → Token) (line other : Line × Nat) : Prop where
  content : other.1.content = line.1.content
  token : ∀ part, tokenOf part other = change (tokenOf part line)

namespace Progress

/-- The record that is being read, with all its tokens changed in one way. -/
def mapTokens (change : Token → Token) : Progress → Progress
  | .between => .between
  | .awaitSuccess tag => .awaitSuccess (change tag)
  | .awaitFail tag success => .awaitFail (change tag) (change success)
  | .awaitName tag success fail => .awaitName (change tag) (change success) (change fail)
  | .inPrompts tag success fail name prompts =>
      .inPrompts (change tag) (change success) (change fail) (change name) (prompts.map change)
  | .awaitChoiceName tag => .awaitChoiceName (change tag)
  | .awaitChoiceQuestion tag name => .awaitChoiceQuestion (change tag) (change name)
  | .awaitOption tag name asked => .awaitOption (change tag) (change name) (change asked)
  | .inOptions tag name asked options =>
      .inOptions (change tag) (change name) (change asked) (options.map change)
  | .awaitMessage tag => .awaitMessage (change tag)

/-- What taking a line comes to, with all tokens changed in one way. -/
def mapOutcome (change : Token → Token) : List Record × Progress → List Record × Progress :=
  Prod.map (List.map (Record.mapTokens change)) (mapTokens change)

variable (change : Token → Token) (progress : Progress)

/-- What may come next does not depend on the tokens that were read. -/
theorem expected_mapTokens :
    (progress.mapTokens change).expected = progress.expected := by
  cases progress <;> rfl

/-- Records that are completed at the end are the same with their tokens changed. -/
theorem finish_mapTokens :
    (progress.mapTokens change).finish =
      progress.finish.map (List.map (Record.mapTokens change)) := by
  cases progress with
  | inPrompts tag success fail name prompts =>
      simp [mapTokens, finish, Record.mapTokens, List.map_reverse]
  | inOptions tag name asked options =>
      simp [mapTokens, finish, Record.mapTokens, List.map_reverse]
  | _ => rfl

/-- A record opened with a changed tag is the record with its tag changed. -/
theorem opening_mapTokens
    (kind : Node.Kind)
    (token : Token) :
    (opening kind token).mapTokens change = opening kind (change token) := by
  cases kind <;> rfl

variable {change}

/--
A line that is said alike fills what is being read alike. Where it has to be a numeral or an
option, it is one exactly when the other is.
-/
theorem fill_mapTokens
    {line other : Line}
    (token : Part → Token)
    (same : other.content = line.content) :
    (progress.mapTokens change).fill other (fun part => change (token part)) =
      (progress.fill line token).map (mapOutcome change) := by
  cases progress with
  | awaitSuccess tag =>
      simp only [mapTokens, fill, same]
      split <;> rfl
  | awaitFail tag success =>
      simp only [mapTokens, fill, same]
      split <;> rfl
  | awaitOption tag name asked =>
      simp only [mapTokens, fill, same]
      split <;> rfl
  | inOptions tag name asked options =>
      simp only [mapTokens, fill, same]
      split <;> rfl
  | _ => rfl

/-- A line in the place of another is taken as the other is. -/
theorem advance_mapTokens
    {line other : Line × Nat}
    (replaced : Replaces change line other) :
    (progress.mapTokens change).advance other.2 other.1 =
      (progress.advance line.2 line.1).map (mapOutcome change) := by
  have filled :
      (progress.mapTokens change).fill other.1 (fun part => tokenOf part other) =
        (progress.fill line.1 fun part => tokenOf part line).map (mapOutcome change) := by
    rw [funext replaced.token]
    exact fill_mapTokens progress _ replaced.content
  unfold advance
  rw [replaced.content, finish_mapTokens]
  cases Tag.read? line.1.content with
  | none => exact filled
  | some kind =>
      cases progress.finish with
      | none => exact filled
      | some finished =>
          have opened : opening kind (tokenOf (.tag kind) other) =
              (opening kind (tokenOf (.tag kind) line)).mapTokens change := by
            rw [opening_mapTokens, replaced.token]
          exact congrArg (fun next => some (finished.map (Record.mapTokens change), next)) opened

/-- A run over lines in the place of others completes the records of the others, changed. -/
theorem run_mapTokens
    {lines others : List (Line × Nat)}
    (replaced : List.Forall₂ (Replaces change) lines others) :
    (progress.mapTokens change).run others =
      (progress.run lines).map (List.map (Record.mapTokens change)) := by
  induction replaced generalizing progress with
  | nil => exact finish_mapTokens change progress
  | @cons line other rest otherRest replacedLine _ inductionHypothesis =>
      obtain ⟨line, number⟩ := line
      obtain ⟨other, otherNumber⟩ := other
      simp only [run, advance_mapTokens progress replacedLine]
      cases progress.advance number line with
      | none => rfl
      | some outcome =>
          obtain ⟨finished, next⟩ := outcome
          simp only [Option.map_some, mapOutcome, Prod.map_apply, inductionHypothesis,
            Option.map_map]
          congr 1
          funext records
          exact (List.map_append).symm

end Progress
end Dialog.Record
