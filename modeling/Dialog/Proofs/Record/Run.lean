import Dialog.Proofs.Record.Grammar

namespace Dialog

/-!
# Runs over the lines of a text

`Progress.run` is what reading does with the lines that say something, apart from
where they stand in the text and from the faults; `read_eq_ok_iff` says that
reading succeeds exactly when all pieces of the text are lines and the run over
them does.

A run loses no line. `Progress.tokens` are the lines of the record that is being
read, in reading order; one line adds one token to them, and a record that is
completed takes its tokens along (`advance_tokens`), so the records of a whole
run hold exactly its lines (`run_tokens`). Every token plays its part, and the
records of a run are well formed (`run_wellFormed`).
-/

/-- What a line that is to play the part is asked to be. -/
def Part.expectation : Part → Record.Expectation
  | .tag _ => .tag
  | .integer => .integer
  | .option => .option
  | .text => .text

namespace Record

/-- The lines that are not blank, with their numbers from a first one on. -/
def numbered (first : Nat) (lines : List Line) : List (Line × Nat) :=
  (lines.zipIdx first).filter fun (line, _) => !line.isBlank

/-- A blank line takes a number, and is left out. -/
theorem numbered_cons
    (first : Nat)
    (line : Line)
    (rest : List Line) :
    numbered first (line :: rest) =
      if line.isBlank then numbered (first + 1) rest
      else (line, first) :: numbered (first + 1) rest := by
  by_cases blank : line.isBlank = true <;> simp [numbered, List.zipIdx_cons, blank]

/-- A line as the token that plays a part. -/
def tokenOf (part : Part) (line : Line × Nat) : Token :=
  ⟨part, String.ofList line.1.characters, line.2⟩

/-- A token's characters and the number of its line. -/
def standing (token : Token) : String × Nat :=
  (token.text, token.line)

/-- A line's characters and its number. -/
def standingOf (line : Line × Nat) : String × Nat :=
  (String.ofList line.1.characters, line.2)

/-- A line that is well formed and not blank. -/
structure Speaks (line : Line) : Prop where
  wellFormed : line.WellFormed
  unblank : ¬line.isBlank = true

/-- Numbered lines say something, for blank ones are left out. -/
theorem speaks_of_mem_numbered
    {first : Nat}
    {lines : List Line}
    (wellFormed : ∀ line ∈ lines, line.WellFormed) :
    ∀ line ∈ numbered first lines, Speaks line.1 := by
  rintro ⟨line, number⟩ member
  obtain ⟨zipped, unblank⟩ := List.mem_filter.1 member
  have lineMember : line ∈ lines := List.fst_mem_of_mem_zipIdx zipped
  exact ⟨wellFormed line lineMember, by simpa using unblank⟩

/-- A token has the content of its line. -/
theorem content_tokenOf
    (part : Part)
    {line : Line × Nat}
    (wellFormed : line.1.WellFormed) :
    (tokenOf part line).content = line.1.content := by
  simp only [Token.content, tokenOf, String.toList_ofList]
  exact Text.trimLineEnd_characters wellFormed

/-- A line that fits a part makes a token that plays it. -/
theorem plays_tokenOf
    {part : Part}
    {line : Line × Nat}
    (speaks : Speaks line.1)
    (fits : part.Fits line.1.content) :
    (tokenOf part line).Plays part := by
  have same : (tokenOf part line).content = line.1.content :=
    content_tokenOf part speaks.wellFormed
  have trimmed : (trimLineEnd (tokenOf part line).text).toList = line.1.content := by
    rw [← same, trimLineEnd, String.toList_ofList]
    rfl
  have nonempty : line.1.content ≠ [] := by
    intro empty
    exact speaks.unblank (List.isEmpty_iff.2 empty)
  refine ⟨rfl, ?_, same.symm ▸ fits⟩
  unfold IsContent
  rw [trimmed]
  exact ⟨nonempty, speaks.wellFormed.noLineFeed, speaks.wellFormed.noReturn⟩

namespace Progress

/-- The records that numbered lines complete, if they complete all that they begin. -/
def run : Progress → List (Line × Nat) → Option (List Record)
  | progress, [] => progress.finish
  | progress, (line, number) :: rest =>
      match progress.advance number line with
      | none => none
      | some (finished, next) => (run next rest).map (finished ++ ·)

/-- A run passes its first line and then the others. -/
theorem run_cons_eq_some_iff
    (progress : Progress)
    (line : Line)
    (number : Nat)
    (rest : List (Line × Nat))
    (records : List Record) :
    progress.run ((line, number) :: rest) = some records ↔
      ∃ finished next more,
        progress.advance number line = some (finished, next) ∧
          next.run rest = some more ∧ finished ++ more = records := by
  rw [run]
  cases progress.advance number line with
  | none => simp
  | some outcome =>
      obtain ⟨finished, next⟩ := outcome
      simp only [Option.map_eq_some_iff, Option.some.injEq, Prod.mk.injEq]
      constructor
      · rintro ⟨more, ran, same⟩
        exact ⟨finished, next, more, ⟨rfl, rfl⟩, ran, same⟩
      · rintro ⟨_, _, more, ⟨rfl, rfl⟩, ran, same⟩
        exact ⟨more, ran, same⟩

/-- Pieces that are all lines, and complete these records from a first line number on. -/
def Reads
    (number : Nat)
    (progress : Progress)
    (pieces : List (List Char))
    (records : List Record) :
    Prop :=
  ∃ lines,
    List.Forall₂ (fun piece line => Line.read? piece = some line) pieces lines ∧
      progress.run (numbered number lines) = some records

section Reading

variable
  {number : Nat}
  {progress : Progress}
  {piece : List Char}
  {rest : List (List Char)}
  {records : List Record}
  {line : Line}

/-- At the end of the text, reading finishes what is being read. -/
theorem reads_nil_iff :
    Reads number progress [] records ↔ progress.finish = some records := by
  simp only [Reads, List.forall₂_nil_left_iff, exists_eq_left]
  rfl

/-- A piece that is no line stops reading. -/
theorem not_reads_cons
    (refused : Line.read? piece = none) :
    ¬Reads number progress (piece :: rest) records := by
  rintro ⟨lines, read, _⟩
  obtain ⟨line, _, accepted, _⟩ := List.forall₂_cons_left_iff.1 read
  rw [refused] at accepted
  cases accepted

/-- Reading passes when all pieces are lines and the run over them passes. -/
theorem reads_cons_iff
    (accepted : Line.read? piece = some line) :
    Reads number progress (piece :: rest) records ↔
      ∃ lines,
        List.Forall₂ (fun piece line => Line.read? piece = some line) rest lines ∧
          progress.run (numbered number (line :: lines)) = some records := by
  constructor
  · rintro ⟨_, read, ran⟩
    obtain ⟨other, lines, acceptedToo, readRest, rfl⟩ := List.forall₂_cons_left_iff.1 read
    cases accepted.symm.trans acceptedToo
    exact ⟨lines, readRest, ran⟩
  · rintro ⟨lines, readRest, ran⟩
    exact ⟨line :: lines, .cons accepted readRest, ran⟩

/-- A blank line is counted and passed over. -/
theorem reads_blank_iff
    (accepted : Line.read? piece = some line)
    (blank : line.isBlank = true) :
    Reads number progress (piece :: rest) records ↔ Reads (number + 1) progress rest records := by
  rw [reads_cons_iff accepted]
  simp only [numbered_cons, if_pos blank]
  rfl

/-- A line that says something takes reading one step on. -/
theorem reads_line_iff
    (accepted : Line.read? piece = some line)
    (unblank : ¬line.isBlank = true) :
    Reads number progress (piece :: rest) records ↔
      ∃ finished next more,
        progress.advance number line = some (finished, next) ∧
          Reads (number + 1) next rest more ∧ finished ++ more = records := by
  rw [reads_cons_iff accepted]
  simp only [numbered_cons, if_neg unblank, run_cons_eq_some_iff]
  constructor
  · rintro ⟨lines, readRest, finished, next, more, advanced, ran, same⟩
    exact ⟨finished, next, more, advanced, ⟨lines, readRest, ran⟩, same⟩
  · rintro ⟨finished, next, more, advanced, ⟨lines, readRest, ran⟩, same⟩
    exact ⟨lines, readRest, finished, next, more, advanced, ran, same⟩

end Reading

/--
Reading succeeds exactly when every piece is a line and the run over the lines does. A blank
line is counted and passed over; any other is the next one of the run.
-/
theorem read_eq_ok_iff
    (last number : Nat)
    (done : List Record)
    (progress : Progress)
    (pieces : List (List Char))
    (records : List Record) :
    read last number done progress pieces = .ok records ↔
      ∃ more, Reads number progress pieces more ∧ done.reverse ++ more = records := by
  induction pieces generalizing last number done progress with
  | nil =>
      simp only [read, reads_nil_iff]
      cases progress.finish <;> simp
  | cons piece rest inductionHypothesis =>
      simp only [read]
      cases accepted : Line.read? piece with
      | none => simp [not_reads_cons accepted]
      | some line =>
          by_cases blank : line.isBlank = true
          · simp only [if_pos blank, inductionHypothesis, reads_blank_iff accepted blank]
          · simp only [if_neg blank, reads_line_iff accepted blank]
            cases progress.advance number line with
            | none => simp
            | some outcome =>
                obtain ⟨finished, next⟩ := outcome
                simp only [inductionHypothesis, List.reverse_append, List.reverse_reverse,
                  List.append_assoc]
                constructor
                · rintro ⟨more, readRest, same⟩
                  exact ⟨finished ++ more, ⟨finished, next, more, rfl, readRest, rfl⟩, same⟩
                · rintro ⟨_, ⟨_, _, more, advanced, readRest, rfl⟩, same⟩
                  cases advanced
                  exact ⟨more, readRest, same⟩

/-- The lines of the record that is being read, in reading order. -/
def tokens : Progress → List Token
  | .between => []
  | .awaitSuccess tag => [tag]
  | .awaitFail tag success => [tag, success]
  | .awaitName tag success fail => [tag, success, fail]
  | .inPrompts tag success fail name prompts => tag :: success :: fail :: name :: prompts.reverse
  | .awaitChoiceName tag => [tag]
  | .awaitChoiceQuestion tag name => [tag, name]
  | .awaitOption tag name asked => [tag, name, asked]
  | .inOptions tag name asked options => tag :: name :: asked :: options.reverse
  | .awaitMessage tag => [tag]

/-- Every line of the record that is being read plays its part. -/
def WellFormed : Progress → Prop
  | .between => True
  | .awaitSuccess tag => tag.Plays (.tag .question)
  | .awaitFail tag success => tag.Plays (.tag .question) ∧ success.Plays .integer
  | .awaitName tag success fail =>
      tag.Plays (.tag .question) ∧ success.Plays .integer ∧ fail.Plays .integer
  | .inPrompts tag success fail name prompts =>
      tag.Plays (.tag .question) ∧ success.Plays .integer ∧ fail.Plays .integer ∧
        name.Plays .text ∧ ∀ prompt ∈ prompts, IsPrompt prompt
  | .awaitChoiceName tag => tag.Plays (.tag .branching)
  | .awaitChoiceQuestion tag name => tag.Plays (.tag .branching) ∧ name.Plays .text
  | .awaitOption tag name asked =>
      tag.Plays (.tag .branching) ∧ name.Plays .text ∧ asked.Plays .text
  | .inOptions tag name asked options =>
      tag.Plays (.tag .branching) ∧ name.Plays .text ∧ asked.Plays .text ∧
        options ≠ [] ∧ ∀ option ∈ options, option.Plays .option
  | .awaitMessage tag => tag.Plays (.tag .terminating)

/-- A record that is completed at the end holds the tokens that were being read. -/
theorem finish_tokens
    {progress : Progress}
    {finished : List Record}
    (ends : progress.finish = some finished) :
    finished.flatMap Record.tokens = progress.tokens := by
  cases progress with
  | between =>
      cases ends
      rfl
  | inPrompts tag success fail name prompts =>
      cases ends
      simp [tokens, Record.tokens]
  | inOptions tag name asked options =>
      cases ends
      simp [tokens, Record.tokens]
  | _ => cases ends

/-- Where a record may end, a tag may follow. -/
theorem tag_mem_expected
    {progress : Progress}
    {finished : List Record}
    (ends : progress.finish = some finished) :
    .tag ∈ progress.expected := by
  cases progress with
  | between => exact List.mem_cons_self
  | inPrompts => exact List.mem_cons_self
  | inOptions => exact List.mem_cons_self
  | _ => cases ends

/-- A record that is opened holds its tag. -/
theorem opening_tokens
    (kind : Node.Kind)
    (token : Token) :
    (opening kind token).tokens = [token] := by
  cases kind <;> rfl

/-- The part that is due is one that the line was asked for, and its token is added. -/
theorem fill_tokens
    {progress next : Progress}
    {line : Line}
    {token : Part → Token}
    {finished : List Record}
    (filled : progress.fill line token = some (finished, next)) :
    ∃ part : Part,
      part.expectation ∈ progress.expected ∧
        finished.flatMap Record.tokens ++ next.tokens = progress.tokens ++ [token part] := by
  cases progress with
  | between => cases filled
  | awaitSuccess tag =>
      rw [fill, Option.ite_none_right_eq_some] at filled
      cases filled.2
      exact ⟨.integer, by simp [Part.expectation, expected], rfl⟩
  | awaitFail tag success =>
      rw [fill, Option.ite_none_right_eq_some] at filled
      cases filled.2
      exact ⟨.integer, by simp [Part.expectation, expected], rfl⟩
  | awaitName tag success fail =>
      cases filled
      exact ⟨.text, by simp [Part.expectation, expected], rfl⟩
  | inPrompts tag success fail name prompts =>
      cases filled
      exact ⟨.text, by simp [Part.expectation, expected], by simp [tokens]⟩
  | awaitChoiceName tag =>
      cases filled
      exact ⟨.text, by simp [Part.expectation, expected], rfl⟩
  | awaitChoiceQuestion tag name =>
      cases filled
      exact ⟨.text, by simp [Part.expectation, expected], rfl⟩
  | awaitOption tag name asked =>
      rw [fill, Option.ite_none_right_eq_some] at filled
      cases filled.2
      exact ⟨.option, by simp [Part.expectation, expected], rfl⟩
  | inOptions tag name asked options =>
      rw [fill, Option.ite_none_right_eq_some] at filled
      cases filled.2
      exact ⟨.option, by simp [Part.expectation, expected], by simp [tokens]⟩
  | awaitMessage tag =>
      cases filled
      exact ⟨.text, by simp [Part.expectation, expected], rfl⟩

/-- No token is lost when a line is taken, and one is added, whose part is one asked for. -/
theorem advance_tokens
    {progress next : Progress}
    (line : Line × Nat)
    {finished : List Record}
    (advanced : progress.advance line.2 line.1 = some (finished, next)) :
    ∃ part : Part,
      part.expectation ∈ progress.expected ∧
        finished.flatMap Record.tokens ++ next.tokens =
          progress.tokens ++ [tokenOf part line] := by
  unfold advance at advanced
  cases tagged : Tag.read? line.1.content with
  | none =>
      simp only [tagged] at advanced
      exact fill_tokens advanced
  | some kind =>
      simp only [tagged] at advanced
      cases ends : progress.finish with
      | none =>
          simp only [ends] at advanced
          exact fill_tokens advanced
      | some records =>
          simp only [ends] at advanced
          cases advanced
          refine ⟨.tag kind, tag_mem_expected ends, ?_⟩
          rw [finish_tokens ends, opening_tokens]
          rfl

/-- A run keeps every line in its place. -/
theorem run_tokens
    {progress : Progress}
    {lines : List (Line × Nat)}
    {records : List Record}
    (ran : progress.run lines = some records) :
    (records.flatMap Record.tokens).map standing =
      progress.tokens.map standing ++ lines.map standingOf := by
  induction lines generalizing progress records with
  | nil => rw [finish_tokens ran, List.map_nil, List.append_nil]
  | cons line rest inductionHypothesis =>
      obtain ⟨finished, next, more, advanced, ranRest, rfl⟩ :=
        (run_cons_eq_some_iff progress line.1 line.2 rest records).1 ran
      obtain ⟨part, _, sameTokens⟩ := advance_tokens line advanced
      calc
        ((finished ++ more).flatMap Record.tokens).map standing =
            (finished.flatMap Record.tokens ++ next.tokens).map standing ++
              rest.map standingOf := by
          rw [List.flatMap_append, List.map_append, inductionHypothesis ranRest,
            List.map_append, List.append_assoc]
        _ = progress.tokens.map standing ++ (line :: rest).map standingOf := by
          rw [sameTokens, List.map_append, List.append_assoc]
          rfl

/-- What one line leaves well formed: the records that it completes, and the beginning after it. -/
structure Keeps (finished : List Record) (next : Progress) : Prop where
  finished : ∀ record ∈ finished, record.WellFormed
  next : next.WellFormed

/-- A record that is completed at the end is well-formed. -/
theorem finish_wellFormed
    {progress : Progress}
    {finished : List Record}
    (wellFormed : progress.WellFormed)
    (ends : progress.finish = some finished) :
    ∀ record ∈ finished, record.WellFormed := by
  cases progress with
  | between =>
      cases ends
      simp
  | inPrompts tag success fail name prompts =>
      cases ends
      simpa [Record.WellFormed, WellFormed] using wellFormed
  | inOptions tag name asked options =>
      cases ends
      simpa [Record.WellFormed, WellFormed] using wellFormed
  | _ => cases ends

/-- A record that is opened by a tag is well-formed so far. -/
theorem opening_wellFormed
    {kind : Node.Kind}
    {token : Token}
    (plays : token.Plays (.tag kind)) :
    (opening kind token).WellFormed := by
  cases kind <;> exact plays

/-- A line that fills what is being read keeps it well-formed. -/
theorem fill_wellFormed
    {progress next : Progress}
    {line : Line × Nat}
    {finished : List Record}
    (wellFormed : progress.WellFormed)
    (speaks : Speaks line.1)
    (untagged : Tag.read? line.1.content = none ∨ progress.finish = none)
    (filled : progress.fill line.1 (fun part => tokenOf part line) = some (finished, next)) :
    Keeps finished next := by
  have text : (tokenOf .text line).Plays .text := plays_tokenOf speaks trivial
  cases progress with
  | between => cases filled
  | awaitSuccess tag =>
      rw [fill, Option.ite_none_right_eq_some] at filled
      obtain ⟨numeral, same⟩ := filled
      cases same
      exact ⟨by simp, wellFormed, plays_tokenOf speaks numeral⟩
  | awaitFail tag success =>
      rw [fill, Option.ite_none_right_eq_some] at filled
      obtain ⟨numeral, same⟩ := filled
      cases same
      exact ⟨by simp, wellFormed.1, wellFormed.2, plays_tokenOf speaks numeral⟩
  | awaitName tag success fail =>
      cases filled
      obtain ⟨tagPlays, successPlays, failPlays⟩ := wellFormed
      exact ⟨by simp, tagPlays, successPlays, failPlays, text, by simp⟩
  | inPrompts tag success fail name prompts =>
      cases filled
      obtain ⟨tagPlays, successPlays, failPlays, namePlays, promptsPlay⟩ := wellFormed
      have noTag : Tag.read? line.1.content = none := by
        rcases untagged with noTag | unfinished
        · exact noTag
        · cases unfinished
      have isPrompt : IsPrompt (tokenOf .text line) := by
        refine ⟨text, ?_⟩
        rw [content_tokenOf .text speaks.wellFormed]
        exact (Tag.read?_eq_none_iff line.1.content).1 noTag
      refine ⟨by simp, tagPlays, successPlays, failPlays, namePlays, ?_⟩
      intro prompt member
      rcases List.mem_cons.1 member with rfl | earlier
      · exact isPrompt
      · exact promptsPlay prompt earlier
  | awaitChoiceName tag =>
      cases filled
      exact ⟨by simp, wellFormed, text⟩
  | awaitChoiceQuestion tag name =>
      cases filled
      exact ⟨by simp, wellFormed.1, wellFormed.2, text⟩
  | awaitOption tag name asked =>
      rw [fill, Option.ite_none_right_eq_some] at filled
      obtain ⟨option, same⟩ := filled
      cases same
      obtain ⟨tagPlays, namePlays, askedPlays⟩ := wellFormed
      have optionPlays : (tokenOf .option line).Plays .option :=
        plays_tokenOf speaks ((isOption_iff line.1.content).1 option)
      exact ⟨by simp, tagPlays, namePlays, askedPlays, by simp, by simpa⟩
  | inOptions tag name asked options =>
      rw [fill, Option.ite_none_right_eq_some] at filled
      obtain ⟨option, same⟩ := filled
      cases same
      obtain ⟨tagPlays, namePlays, askedPlays, _, optionsPlay⟩ := wellFormed
      have optionPlays : (tokenOf .option line).Plays .option :=
        plays_tokenOf speaks ((isOption_iff line.1.content).1 option)
      refine ⟨by simp, tagPlays, namePlays, askedPlays, by simp, ?_⟩
      intro token member
      rcases List.mem_cons.1 member with rfl | earlier
      · exact optionPlays
      · exact optionsPlay token earlier
  | awaitMessage tag =>
      cases filled
      refine ⟨?_, trivial⟩
      intro record member
      rw [List.mem_singleton] at member
      subst member
      exact ⟨wellFormed, text⟩

/-- One line takes a well-formed beginning of a record to a well-formed one. -/
theorem advance_wellFormed
    {progress next : Progress}
    {line : Line × Nat}
    {finished : List Record}
    (wellFormed : progress.WellFormed)
    (speaks : Speaks line.1)
    (advanced : progress.advance line.2 line.1 = some (finished, next)) :
    Keeps finished next := by
  unfold advance at advanced
  cases tagged : Tag.read? line.1.content with
  | none =>
      simp only [tagged] at advanced
      exact fill_wellFormed wellFormed speaks (Or.inl tagged) advanced
  | some kind =>
      simp only [tagged] at advanced
      cases ends : progress.finish with
      | none =>
          simp only [ends] at advanced
          exact fill_wellFormed wellFormed speaks (Or.inr ends) advanced
      | some records =>
          simp only [ends] at advanced
          cases advanced
          have announced : line.1.content = Tag.content kind :=
            (Tag.read?_eq_some_iff line.1.content kind).1 tagged
          have plays : (tokenOf (.tag kind) line).Plays (.tag kind) :=
            plays_tokenOf speaks announced
          exact ⟨finish_wellFormed wellFormed ends, opening_wellFormed plays⟩

/-- Every record that a run completes is well formed. -/
theorem run_wellFormed
    {progress : Progress}
    {lines : List (Line × Nat)}
    {records : List Record}
    (wellFormed : progress.WellFormed)
    (speak : ∀ line ∈ lines, Speaks line.1)
    (ran : progress.run lines = some records) :
    ∀ record ∈ records, record.WellFormed := by
  induction lines generalizing progress records with
  | nil => exact finish_wellFormed wellFormed ran
  | cons line rest inductionHypothesis =>
      obtain ⟨finished, next, more, advanced, ranRest, rfl⟩ :=
        (run_cons_eq_some_iff progress line.1 line.2 rest records).1 ran
      have keeps := advance_wellFormed wellFormed (speak line List.mem_cons_self) advanced
      have restSpeak : ∀ other ∈ rest, Speaks other.1 := fun other member =>
        speak other (List.mem_cons_of_mem line member)
      intro record member
      rcases List.mem_append.1 member with early | late
      · exact keeps.finished record early
      · exact inductionHypothesis keeps.next restSpeak ranRest record late

end Progress
end Record
end Dialog
