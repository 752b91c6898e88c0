import Dialog.Proofs.Template.Reading

namespace Dialog.Template

/-!
# Templates put together

Two templates one after the other stand for what they stand for by themselves, one
text after the other, unless the seam is inside a token: the first ends in a dollar
sign that has only letters after it, and the second begins with a letter. There the
token goes on across the seam, and some bindings tell the difference.
-/

/-- Whether a text ends in a dollar sign with no more than letters A to Z after it. -/
def EndsOpen (text : List Char) : Prop :=
  ∃ before letters, text = before ++ '$' :: letters ∧ ∀ letter ∈ letters, letter.isUpper = true

theorem EndsOpen.append
    {text : List Char}
    (ends : EndsOpen text)
    (before : List Char) :
    EndsOpen (before ++ text) := by
  obtain ⟨first, letters, rfl, upper⟩ := ends
  exact ⟨before ++ first, letters, (List.append_assoc ..).symm, upper⟩

theorem startsUpper_append
    {first second : List Char}
    (starts : StartsUpper (first ++ second)) :
    StartsUpper first ∨ first = [] ∧ StartsUpper second := by
  cases first with
  | nil => exact Or.inr ⟨rfl, starts⟩
  | cons letter rest => exact Or.inl (startsUpper_cons.mpr (startsUpper_cons.mp starts))

/-! ## The seam -/

/-- Where no token goes on across the seam, it can be cut there. -/
theorem resolve_append
    (bindings : Bindings)
    {first second : List Char}
    (apart : ¬(EndsOpen first ∧ StartsUpper second)) :
    resolve bindings (first ++ second) = resolve bindings first ++ resolve bindings second := by
  induction first using pieceInduction with
  | nil => rw [List.nil_append, resolve_nil, List.nil_append]
  | plain character rest plain inductionHypothesis =>
      have restApart : ¬(EndsOpen rest ∧ StartsUpper second) := fun both =>
        apart ⟨both.1.append [character], both.2⟩
      have plainAcross : character = '$' → ¬StartsUpper (rest ++ second) := by
        rintro rfl starts
        rcases startsUpper_append starts with inside | ⟨rfl, across⟩
        · exact plain rfl inside
        · exact apart ⟨⟨[], [], rfl, by simp⟩, across⟩
      rw [List.cons_append, resolve_of_plain bindings plainAcross, inductionHypothesis restApart,
        resolve_of_plain bindings plain, List.cons_append]
  | token name rest isName ends inductionHypothesis =>
      have restApart : ¬(EndsOpen rest ∧ StartsUpper second) := fun both =>
        apart ⟨both.1.append ('$' :: name), both.2⟩
      have endsAcross : ¬StartsUpper (rest ++ second) := by
        intro starts
        rcases startsUpper_append starts with inside | ⟨rfl, across⟩
        · exact ends inside
        · exact apart ⟨⟨[], name, by simp, isName.upper⟩, across⟩
      rw [List.cons_append, List.append_assoc, resolve_of_token bindings isName endsAcross,
        inductionHypothesis restApart, resolve_of_token bindings isName ends, List.append_assoc]

/-- A run of letters that no dollar sign stands before is literal. -/
theorem resolve_letters_append
    (bindings : Bindings)
    {letters rest : List Char}
    (upper : ∀ letter ∈ letters, letter.isUpper = true) :
    resolve bindings (letters ++ rest) = letters ++ resolve bindings rest := by
  induction letters with
  | nil => rfl
  | cons letter more inductionHypothesis =>
      obtain ⟨isUpper, moreUpper⟩ := List.forall_mem_cons.mp upper
      have plain : letter = '$' → ¬StartsUpper (more ++ rest) := by
        rintro rfl
        cases isUpper
      rw [List.cons_append, resolve_of_plain bindings plain, inductionHypothesis moreUpper,
        List.cons_append]

/-- Before a dollar sign every template can be cut. -/
theorem resolve_append_dollar
    (bindings : Bindings)
    (before text : List Char) :
    resolve bindings (before ++ '$' :: text) =
      resolve bindings before ++ resolve bindings ('$' :: text) :=
  resolve_append bindings fun both => absurd (startsUpper_cons.mp both.2) (by decide)

/-- A token that goes on across the seam may stand for nothing, where its second part is literal. -/
theorem exists_resolve_append_ne
    {first second : List Char}
    (endsOpen : EndsOpen first)
    (starts : StartsUpper second) :
    ∃ bindings,
      resolve bindings (first ++ second) ≠ resolve bindings first ++ resolve bindings second := by
  obtain ⟨before, letters, rfl, upper⟩ := endsOpen
  obtain ⟨name, rest, isName, ends, rfl⟩ := exists_name_of_startsUpper starts
  have across : IsName (letters ++ name) :=
    ⟨List.append_ne_nil_of_right_ne_nil letters isName.nonempty,
      List.forall_mem_append.mpr ⟨upper, isName.upper⟩⟩
  let bindings := Bindings.empty.bind (String.ofList (letters ++ name)) ""
  have nothing : bindings.get (String.ofList (letters ++ name)) = "" := by
    rw [Bindings.get, Bindings.find?_bind, if_pos rfl, Option.getD_some]
  have together :
      resolve bindings (before ++ '$' :: letters ++ (name ++ rest)) =
        resolve bindings before ++ resolve bindings rest := by
    rw [List.append_assoc, List.cons_append, ← List.append_assoc letters,
      resolve_append_dollar, resolve_of_token bindings across ends, nothing]
    rfl
  refine ⟨bindings, fun same => isName.nonempty ?_⟩
  rw [together, resolve_append_dollar, resolve_letters_append bindings isName.upper] at same
  have lengths := congrArg List.length same
  simp only [List.length_append] at lengths
  exact List.length_eq_zero_iff.mp (by omega)

/-- Templates may be put together just where no token goes on across the seam. -/
theorem resolves_apart_iff
    (first second : String) :
    (∀ bindings : Bindings,
        bindings.resolve (first ++ second) = bindings.resolve first ++ bindings.resolve second) ↔
      ¬(EndsOpen first.toList ∧ StartsUpper second.toList) := by
  constructor
  · rintro apart ⟨endsOpen, starts⟩
    obtain ⟨bindings, differs⟩ := exists_resolve_append_ne endsOpen starts
    have same := congrArg String.toList (apart bindings)
    simp only [String.toList_append, toList_resolve] at same
    exact differs same
  · intro apart bindings
    apply String.toList_injective
    simp only [String.toList_append, toList_resolve]
    exact resolve_append bindings apart

end Dialog.Template
