import Dialog.Proofs.Record.Run

namespace Dialog.Record

/-!
# Reading is decomposing

Lines whose contents are records one after the other are read, and into exactly
these records: inside a record each line is what is due, and after it stands
either nothing or a tag, which is where a run may end the record. Together with
`run_wellFormed` this says that reading succeeds on no other text, and that there
is one way only to cut a text into records.
-/

/-- What a numbered line says. -/
def saying (line : Line × Nat) : List Char :=
  line.1.content

/-- The contents of the lines that are not blank. -/
def contentsOf (lines : List Line) : List (List Char) :=
  (lines.map Line.content).filter fun content => !content.isEmpty

/-- A record that may end ends before these lines: there are none, or the first is a tag. -/
def Stops (lines : List (Line × Nat)) : Prop :=
  ∀ line ∈ lines.head?, ∃ kind, saying line = Tag.content kind

/-- Lines that are numbered say what they said before, blank ones left out. -/
theorem map_saying_numbered
    (first : Nat)
    (lines : List Line) :
    (numbered first lines).map saying = contentsOf lines := by
  induction lines generalizing first with
  | nil => rfl
  | cons line rest inductionHypothesis =>
      rw [numbered_cons]
      by_cases blank : line.isBlank = true
      · have nothing : line.content.isEmpty = true := blank
        rw [if_pos blank, inductionHypothesis]
        simp [contentsOf, nothing]
      · have something : line.content.isEmpty = false := by
          simpa [Line.isBlank] using blank
        rw [if_neg blank, List.map_cons, inductionHypothesis]
        simp [contentsOf, something, saying]

/-- Tokens that stand where well-formed lines stand have the contents of the lines. -/
theorem map_content_of_standing
    {tokens : List Token}
    {lines : List (Line × Nat)}
    (same : tokens.map standing = lines.map standingOf)
    (wellFormed : ∀ line ∈ lines, line.1.WellFormed) :
    tokens.map Token.content = lines.map saying := by
  let trimmed : String × Nat → List Char := fun place => Text.trimLineEnd place.1.toList
  have lineContent : ∀ line ∈ lines, trimmed (standingOf line) = saying line :=
    fun line member => content_tokenOf .text (wellFormed line member)
  calc
    tokens.map Token.content = (tokens.map standing).map trimmed := by
      rw [List.map_map]
      rfl
    _ = (lines.map standingOf).map trimmed := by
      rw [same]
    _ = lines.map saying := by
      rw [List.map_map]
      exact List.map_congr_left lineContent

namespace Progress

/-- What is left of the lines is run on from where the first line leads. -/
theorem run_cons
    {progress next : Progress}
    {line : Line × Nat}
    {finished : List Record}
    (rest : List (Line × Nat))
    (advanced : progress.advance line.2 line.1 = some (finished, next)) :
    progress.run (line :: rest) = (next.run rest).map (finished ++ ·) := by
  obtain ⟨line, number⟩ := line
  rw [run, advanced]

/-- A line within a record ends none, so the run is that of the other lines. -/
theorem run_within
    {progress next : Progress}
    {line : Line × Nat}
    (rest : List (Line × Nat))
    (advanced : progress.advance line.2 line.1 = some ([], next)) :
    progress.run (line :: rest) = next.run rest := by
  rw [run_cons rest advanced]
  simp

/-- A record that may not end here takes a line as what is due. -/
theorem advance_of_unfinished
    {progress : Progress}
    (line : Line × Nat)
    (unfinished : progress.finish = none) :
    progress.advance line.2 line.1 = progress.fill line.1 fun part => tokenOf part line := by
  unfold advance
  cases Tag.read? line.1.content with
  | none => rfl
  | some kind =>
      simp only [unfinished]
      rfl

/-- Where a record may not end, a line that fills it is passed. -/
theorem run_fill
    {progress next : Progress}
    {line : Line × Nat}
    (rest : List (Line × Nat))
    (unfinished : progress.finish = none)
    (filled : progress.fill line.1 (fun part => tokenOf part line) = some ([], next)) :
    progress.run (line :: rest) = next.run rest := by
  apply run_within
  rw [advance_of_unfinished line unfinished]
  exact filled

/-- A line that is no tag is taken as what is due. -/
theorem advance_of_untagged
    (progress : Progress)
    {line : Line × Nat}
    (untagged : ∀ kind, saying line ≠ Tag.content kind) :
    progress.advance line.2 line.1 = progress.fill line.1 fun part => tokenOf part line := by
  have noTag : Tag.read? line.1.content = none := (Tag.read?_eq_none_iff _).2 untagged
  unfold advance
  rw [noTag]
  rfl

/-- A tag ends the record before it, if that may end, and opens one of its kind. -/
theorem advance_of_tag
    {progress : Progress}
    {line : Line × Nat}
    {kind : Node.Kind}
    {finished : List Record}
    (announced : saying line = Tag.content kind)
    (ends : progress.finish = some finished) :
    progress.advance line.2 line.1 =
      some (finished, opening kind (tokenOf (.tag kind) line)) := by
  have tagged : Tag.read? line.1.content = some kind := (Tag.read?_eq_some_iff _ kind).2 announced
  unfold advance
  rw [tagged]
  simp only [ends]
  rfl

/-- Where a record may end and no line continues it, it ends. -/
theorem run_of_stops
    {progress : Progress}
    {finished : List Record}
    {rest : List (Line × Nat)}
    (ends : progress.finish = some finished)
    (stops : Stops rest) :
    progress.run rest = (run .between rest).map (finished ++ ·) := by
  cases rest with
  | nil =>
      have closed : run .between [] = some [] := rfl
      rw [closed, run, ends, Option.map_some, List.append_nil]
  | cons line more =>
      obtain ⟨kind, announced⟩ := stops line rfl
      have advanced := advance_of_tag announced ends
      have opened : advance .between line.2 line.1 = _ := advance_of_tag announced rfl
      rw [run_within more opened, run_cons more advanced]

/-- A part that may be repeated takes all the lines that can play it. -/
theorem run_repeated
    {part : Part}
    (collecting : List Token → Progress)
    (done : List Token)
    {lines : List (Line × Nat)}
    (rest : List (Line × Nat))
    (collects :
      ∀ line ∈ lines, ∀ done,
        (collecting done).advance line.2 line.1 =
          some ([], collecting (tokenOf part line :: done))) :
    (collecting done).run (lines ++ rest) =
      (collecting ((lines.map (tokenOf part)).reverse ++ done)).run rest := by
  induction lines generalizing done with
  | nil => rfl
  | cons line more inductionHypothesis =>
      have advanced := collects line List.mem_cons_self done
      have moreCollects := fun other member =>
        collects other (List.mem_cons_of_mem line member)
      rw [List.cons_append, run_within (more ++ rest) advanced,
        inductionHypothesis (tokenOf part line :: done) moreCollects]
      simp

/-- Among prompts, a line that is no tag is one more prompt. -/
theorem advance_prompt
    (tag success fail name : Token)
    (done : List Token)
    {line : Line × Nat}
    (untagged : ∀ kind, saying line ≠ Tag.content kind) :
    advance (.inPrompts tag success fail name done) line.2 line.1 =
      some ([], .inPrompts tag success fail name (tokenOf .text line :: done)) := by
  rw [advance_of_untagged _ untagged]
  rfl

/-- No option looks like a tag. -/
theorem ne_tag_of_optionForm
    {content : List Char}
    (shaped : OptionForm content) :
    ∀ kind, content ≠ Tag.content kind := by
  obtain ⟨text, digits, rfl, _⟩ := shaped
  intro kind same
  have colon : ':' ∈ Tag.content kind := by
    rw [← same]
    simp
  cases kind <;> simp [Tag.content] at colon

/-- Among options, a line in the form of an option is one more. -/
theorem advance_option
    (tag name asked : Token)
    (done : List Token)
    {line : Line × Nat}
    (shaped : OptionForm (saying line)) :
    advance (.inOptions tag name asked done) line.2 line.1 =
      some ([], .inOptions tag name asked (tokenOf .option line :: done)) := by
  have isOption : isOption line.1.content = true := (isOption_iff _).2 shaped
  rw [advance_of_untagged _ (ne_tag_of_optionForm shaped), fill, if_pos isOption]

/-- The lines of a question are run as one record up to the next tag. -/
theorem run_question
    {tag success fail name : Line × Nat}
    {prompts rest : List (Line × Nat)}
    (announced : saying tag = Tag.content .question)
    (successNumeral : Numeral.isNumeral (saying success) = true)
    (failNumeral : Numeral.isNumeral (saying fail) = true)
    (untagged : ∀ prompt ∈ prompts, ∀ kind, saying prompt ≠ Tag.content kind)
    (stops : Stops rest) :
    run .between (tag :: success :: fail :: name :: (prompts ++ rest)) =
      (run .between rest).map
        (.question (tokenOf (.tag .question) tag) (tokenOf .integer success)
          (tokenOf .integer fail) (tokenOf .text name) (prompts.map (tokenOf .text)) :: ·) := by
  let t := tokenOf (.tag .question) tag
  let s := tokenOf .integer success
  let f := tokenOf .integer fail
  let n := tokenOf .text name
  have opened : advance .between tag.2 tag.1 = some ([], .awaitSuccess t) :=
    advance_of_tag announced rfl
  have collects : ∀ prompt ∈ prompts, ∀ done,
      advance (.inPrompts t s f n done) prompt.2 prompt.1 =
        some ([], .inPrompts t s f n (tokenOf .text prompt :: done)) :=
    fun prompt member done => advance_prompt t s f n done (untagged prompt member)
  calc
    run .between (tag :: success :: fail :: name :: (prompts ++ rest)) =
        run (.awaitSuccess t) (success :: fail :: name :: (prompts ++ rest)) :=
      run_within _ opened
    _ = run (.awaitFail t s) (fail :: name :: (prompts ++ rest)) :=
      run_fill _ rfl (if_pos successNumeral)
    _ = run (.awaitName t s f) (name :: (prompts ++ rest)) :=
      run_fill _ rfl (if_pos failNumeral)
    _ = run (.inPrompts t s f n []) (prompts ++ rest) :=
      run_fill _ rfl rfl
    _ = run (.inPrompts t s f n ((prompts.map (tokenOf .text)).reverse ++ [])) rest :=
      run_repeated (.inPrompts t s f n) [] rest collects
    _ = (run .between rest).map (.question t s f n (prompts.map (tokenOf .text)) :: ·) := by
      rw [List.append_nil, run_of_stops rfl stops, List.reverse_reverse]
      rfl

/-- The lines of a branching node are run as one record up to the next tag. -/
theorem run_branching
    {tag name asked first : Line × Nat}
    {options rest : List (Line × Nat)}
    (announced : saying tag = Tag.content .branching)
    (firstShaped : OptionForm (saying first))
    (shaped : ∀ option ∈ options, OptionForm (saying option))
    (stops : Stops rest) :
    run .between (tag :: name :: asked :: first :: (options ++ rest)) =
      (run .between rest).map
        (.branching (tokenOf (.tag .branching) tag) (tokenOf .text name) (tokenOf .text asked)
          ((first :: options).map (tokenOf .option)) :: ·) := by
  let t := tokenOf (.tag .branching) tag
  let n := tokenOf .text name
  let a := tokenOf .text asked
  have opened : advance .between tag.2 tag.1 = some ([], .awaitChoiceName t) :=
    advance_of_tag announced rfl
  have firstIsOption : isOption first.1.content = true := (isOption_iff _).2 firstShaped
  have collects : ∀ option ∈ options, ∀ done,
      advance (.inOptions t n a done) option.2 option.1 =
        some ([], .inOptions t n a (tokenOf .option option :: done)) :=
    fun option member done => advance_option t n a done (shaped option member)
  calc
    run .between (tag :: name :: asked :: first :: (options ++ rest)) =
        run (.awaitChoiceName t) (name :: asked :: first :: (options ++ rest)) :=
      run_within _ opened
    _ = run (.awaitChoiceQuestion t n) (asked :: first :: (options ++ rest)) :=
      run_fill _ rfl rfl
    _ = run (.awaitOption t n a) (first :: (options ++ rest)) :=
      run_fill _ rfl rfl
    _ = run (.inOptions t n a [tokenOf .option first]) (options ++ rest) :=
      run_fill _ rfl (if_pos firstIsOption)
    _ = run (.inOptions t n a
          ((options.map (tokenOf .option)).reverse ++ [tokenOf .option first])) rest :=
      run_repeated (.inOptions t n a) [tokenOf .option first] rest collects
    _ = (run .between rest).map
          (.branching t n a ((first :: options).map (tokenOf .option)) :: ·) := by
      rw [run_of_stops rfl stops, List.reverse_append, List.reverse_reverse]
      rfl

/-- The two lines of a terminating node are run as one record. -/
theorem run_terminating
    {tag message : Line × Nat}
    (rest : List (Line × Nat))
    (announced : saying tag = Tag.content .terminating) :
    run .between (tag :: message :: rest) =
      (run .between rest).map
        (.terminating (tokenOf (.tag .terminating) tag) (tokenOf .text message) :: ·) := by
  let t := tokenOf (.tag .terminating) tag
  have opened : advance .between tag.2 tag.1 = some ([], .awaitMessage t) :=
    advance_of_tag announced rfl
  have messageTaken : advance (.awaitMessage t) message.2 message.1 =
      some ([.terminating t (tokenOf .text message)], .between) :=
    advance_of_unfinished message rfl
  rw [run_within (message :: rest) opened, run_cons rest messageTaken]
  rfl

/--
Lines that say what one record says are read as it, whatever follows: the form of what they
say names them one by one.
-/
theorem run_form
    {form : List (List Char)}
    {lines rest : List (Line × Nat)}
    (formed : Form form)
    (said : lines.map saying = form)
    (wellFormed : ∀ line ∈ lines, line.1.WellFormed)
    (stops : Stops rest) :
    ∃ record,
      record.contents = form ∧
        run .between (lines ++ rest) = (run .between rest).map (record :: ·) := by
  cases formed with
  | question success fail name prompts successNumeral failNumeral untagged =>
      obtain ⟨tag, _, rfl, announced, afterTag⟩ := List.map_eq_cons_iff.1 said
      obtain ⟨successLine, _, rfl, rfl, afterSuccess⟩ := List.map_eq_cons_iff.1 afterTag
      obtain ⟨failLine, _, rfl, rfl, afterFail⟩ := List.map_eq_cons_iff.1 afterSuccess
      obtain ⟨nameLine, promptLines, rfl, rfl, rfl⟩ := List.map_eq_cons_iff.1 afterFail
      have promptsUntagged : ∀ prompt ∈ promptLines, ∀ kind, saying prompt ≠ Tag.content kind :=
        fun prompt member => untagged (saying prompt) (List.mem_map_of_mem member)
      refine ⟨_, ?_, run_question announced successNumeral failNumeral promptsUntagged stops⟩
      rw [← said]
      apply map_content_of_standing _ wellFormed
      simp [Record.tokens, standing, standingOf, tokenOf]
  | branching name asked options nonempty shaped =>
      obtain ⟨tag, _, rfl, announced, afterTag⟩ := List.map_eq_cons_iff.1 said
      obtain ⟨nameLine, _, rfl, rfl, afterName⟩ := List.map_eq_cons_iff.1 afterTag
      obtain ⟨askedLine, optionLines, rfl, rfl, rfl⟩ := List.map_eq_cons_iff.1 afterName
      cases optionLines with
      | nil => exact absurd rfl nonempty
      | cons first more =>
          have firstShaped := shaped (saying first) List.mem_cons_self
          have moreShaped : ∀ option ∈ more, OptionForm (saying option) := fun option member =>
            shaped (saying option) (List.mem_cons_of_mem _ (List.mem_map_of_mem member))
          refine ⟨_, ?_, run_branching announced firstShaped moreShaped stops⟩
          rw [← said]
          apply map_content_of_standing _ wellFormed
          simp [Record.tokens, standing, standingOf, tokenOf]
  | terminating message =>
      obtain ⟨tag, _, rfl, announced, afterTag⟩ := List.map_eq_cons_iff.1 said
      obtain ⟨messageLine, _, rfl, rfl, afterMessage⟩ := List.map_eq_cons_iff.1 afterTag
      cases List.map_eq_nil_iff.1 afterMessage
      refine ⟨_, ?_, run_terminating rest announced⟩
      rw [← said]
      apply map_content_of_standing _ wellFormed
      simp [Record.tokens, standing, standingOf, tokenOf]

/-- Lines that make records begin with a tag, if there are any. -/
theorem stops_of_decomposes
    {forms : List (List (List Char))}
    {lines : List (Line × Nat)}
    (decomposes : Decomposes forms (lines.map saying)) :
    Stops lines := by
  intro line first
  obtain ⟨rest, rfl⟩ := List.head?_eq_some_iff.1 first
  have whole := decomposes.whole
  cases forms with
  | nil => cases whole
  | cons form more =>
      obtain ⟨kind, fields, rfl⟩ := (decomposes.formed form List.mem_cons_self).opens
      exact ⟨kind, (List.cons.inj whole).1.symm⟩

/-- Lines that say what records say are read as these records. -/
theorem run_of_decomposes
    {forms : List (List (List Char))}
    {lines : List (Line × Nat)}
    (decomposes : Decomposes forms (lines.map saying))
    (wellFormed : ∀ line ∈ lines, line.1.WellFormed) :
    ∃ records, run .between lines = some records ∧ records.map contents = forms := by
  induction forms generalizing lines with
  | nil =>
      have nothing : lines = [] := List.map_eq_nil_iff.1 decomposes.whole.symm
      subst nothing
      exact ⟨[], rfl, rfl⟩
  | cons form more inductionHypothesis =>
      obtain ⟨formLines, rest, rfl, said, restSaid⟩ :=
        List.map_eq_append_iff.1 decomposes.whole.symm
      have restDecomposes : Decomposes more (rest.map saying) :=
        ⟨fun other member => decomposes.formed other (List.mem_cons_of_mem form member),
          restSaid.symm⟩
      obtain ⟨record, sameForm, ran⟩ :=
        run_form (decomposes.formed form List.mem_cons_self) said
          (fun line member => wellFormed line (List.mem_append_left rest member))
          (stops_of_decomposes restDecomposes)
      obtain ⟨records, ranRest, sameForms⟩ :=
        inductionHypothesis restDecomposes fun line member =>
          wellFormed line (List.mem_append_right formLines member)
      refine ⟨record :: records, ?_, ?_⟩
      · rw [ran, ranRest, Option.map_some]
      · rw [List.map_cons, sameForm, sameForms]

end Progress

/-- A text is read as records when its lines are run as these records. -/
theorem readAll_eq_ok_iff
    (text : String)
    (records : List Record) :
    readAll text = .ok records ↔
      ∃ lines,
        Text.Spells lines text.toList ∧
          Progress.run .between (numbered 1 lines) = some records := by
  simp [readAll, Progress.read_eq_ok_iff, Progress.Reads, Text.spells_iff]

/-- What the records that a text is read into have to do with its lines. -/
structure Accounts (records : List Record) (lines : List Line) : Prop where
  wellFormed : ∀ record ∈ records, record.WellFormed
  decomposes_iff : ∀ forms, Decomposes forms (contentsOf lines) ↔ forms = records.map contents
  places : (records.flatMap tokens).map standing = (numbered 1 lines).map standingOf

/--
The records that lines are run as account for the lines, since lines fix their run and the
run over a decomposition finds it.
-/
theorem accounts_of_run
    {lines : List Line}
    {records : List Record}
    (wellFormed : ∀ line ∈ lines, line.WellFormed)
    (ran : Progress.run .between (numbered 1 lines) = some records) :
    Accounts records lines := by
  have speak : ∀ line ∈ numbered 1 lines, Speaks line.1 := speaks_of_mem_numbered wellFormed
  have numberedWellFormed : ∀ line ∈ numbered 1 lines, line.1.WellFormed :=
    fun line member => (speak line member).wellFormed
  have nothingBegun : Progress.WellFormed .between := trivial
  have recordsWellFormed := Progress.run_wellFormed nothingBegun speak ran
  have places : (records.flatMap tokens).map standing = (numbered 1 lines).map standingOf :=
    Progress.run_tokens ran
  refine ⟨recordsWellFormed, ?_, places⟩
  intro forms
  rw [← map_saying_numbered 1 lines]
  constructor
  · intro decomposes
    obtain ⟨others, ranToo, sameForms⟩ :=
      Progress.run_of_decomposes decomposes numberedWellFormed
    cases Option.some.inj (ran.symm.trans ranToo)
    exact sameForms.symm
  · rintro rfl
    constructor
    · intro form member
      obtain ⟨record, recordMember, rfl⟩ := List.mem_map.1 member
      exact form_of_wellFormed (recordsWellFormed record recordMember)
    · rw [← map_content_of_standing places numberedWellFormed, List.map_flatMap]
      rfl

/-- The records that a text is read as account for its lines. -/
theorem accounts_of_readAll
    {text : String}
    {records : List Record}
    (accepted : readAll text = .ok records) :
    ∃ lines, Text.Spells lines text.toList ∧ Accounts records lines := by
  obtain ⟨lines, spelled, ran⟩ := (readAll_eq_ok_iff text records).1 accepted
  exact ⟨lines, spelled, accounts_of_run spelled.wellFormed ran⟩

/-- The records that a text is read as are well-formed. -/
theorem wellFormed_of_readAll
    {text : String}
    {records : List Record}
    (accepted : readAll text = .ok records) :
    ∀ record ∈ records, record.WellFormed := by
  obtain ⟨_, _, accounts⟩ := accounts_of_readAll accepted
  exact accounts.wellFormed

/-- A text whose lines make records is read, and as these records. -/
theorem readAll_of_decomposes
    {text : String}
    {lines : List Line}
    {forms : List (List (List Char))}
    (spelled : Text.Spells lines text.toList)
    (decomposes : Decomposes forms (contentsOf lines)) :
    ∃ records, readAll text = .ok records ∧ records.map contents = forms := by
  rw [← map_saying_numbered 1 lines] at decomposes
  obtain ⟨records, ran, sameForms⟩ :=
    Progress.run_of_decomposes decomposes fun line member =>
      (speaks_of_mem_numbered spelled.wellFormed line member).wellFormed
  exact ⟨records, (readAll_eq_ok_iff text records).2 ⟨lines, spelled, ran⟩, sameForms⟩

/--
A text is read exactly when lines spell it whose contents, blank ones left out, are
records one after the other. There is then one way to cut the text into lines and one
way to cut the contents into records; the records read are those, and their tokens in
reading order are the lines that are not blank, each with its number.
-/
theorem readAll_decomposes
    (text : String) :
    ((∃ records, readAll text = .ok records) ↔
      ∃ lines forms, Text.Spells lines text.toList ∧ Decomposes forms (contentsOf lines)) ∧
    ∀ records, readAll text = .ok records →
      ∃ lines,
        (∀ others, Text.Spells others text.toList ↔ others = lines) ∧ Accounts records lines := by
  constructor
  · constructor
    · rintro ⟨records, accepted⟩
      obtain ⟨lines, spelled, accounts⟩ := accounts_of_readAll accepted
      exact ⟨lines, records.map contents, spelled, (accounts.decomposes_iff _).2 rfl⟩
    · rintro ⟨lines, forms, spelled, decomposes⟩
      obtain ⟨records, accepted, _⟩ := readAll_of_decomposes spelled decomposes
      exact ⟨records, accepted⟩
  · intro records accepted
    obtain ⟨lines, spelled, accounts⟩ := accounts_of_readAll accepted
    refine ⟨lines, ?_, accounts⟩
    intro others
    constructor
    · intro spelledToo
      exact spelled.unique spelledToo
    · rintro rfl
      exact spelled

/-- A text with both kinds of line end, blank lines, and a prompt that looks like an option. -/
def mixedEnds : String :=
  "\n1\n007\n9999\r\nname\n1:2\n\r\n3\nbye"

/-- The records of `mixedEnds`. -/
def mixedEndsRecords : List Record :=
  [.question ⟨.tag .question, "1\n", 2⟩ ⟨.integer, "007\n", 3⟩ ⟨.integer, "9999\r\n", 4⟩
      ⟨.text, "name\n", 5⟩ [⟨.text, "1:2\n", 6⟩],
    .terminating ⟨.tag .terminating, "3\n", 8⟩ ⟨.text, "bye\n", 9⟩]

/-- Blank lines and line ends of both sorts stand between the records of this text. -/
theorem readAll_decomposes_mixedEnds :
    readAll mixedEnds = .ok mixedEndsRecords ∧
      ∃ lines,
        (∀ others, Text.Spells others mixedEnds.toList ↔ others = lines) ∧
          Accounts mixedEndsRecords lines := by
  have accepted : readAll mixedEnds = .ok mixedEndsRecords := by decide +kernel
  exact ⟨accepted, (readAll_decomposes mixedEnds).2 mixedEndsRecords accepted⟩

end Dialog.Record
