import Dialog.Proofs.Record.Reach

namespace Dialog.Record

/-!
# Where a refused text stops being the beginning of a script

Reading can always be brought to an end: what is asked for next has a line that
can be taken (`sample`), and from every progress a few such lines lead to where a
record may end (`Reaches.exists_completion`). So lines are the beginning of an
accepted text exactly when reading gets through them, and what may come next
after them is exactly what is asked for (`begins_ended_iff`,
`continues_ended_iff`).

A refused text therefore stops at its first line that no accepted text has after
the lines before it, or else at its end, and the fault names the line and all that
could stand there (`refused_where_unrepairable`).
-/

/-- A text that is read. -/
def Accepted (text : List Char) : Prop :=
  ∃ records, readAll (String.ofList text) = .ok records

/-- The beginning of a text that is read. -/
def Begins (start : List Char) : Prop :=
  ∃ more, Accepted (start ++ more)

/-- In some text that is read, the first token after these lines is one of the kind. -/
def Continues (good : List Char) (kind : Expectation) : Prop :=
  ∃ more records token,
    readAll (String.ofList (good ++ more)) = .ok records ∧
      (records.flatMap tokens).find? (fun token => good.count '\n' < token.line) = some token ∧
        token.part.expectation = kind

/-- A line of a text, with all that is before it and all that is after it. -/
structure Stands (text before line after : List Char) : Prop where
  whole : Text.completed text = before ++ line ++ '\n' :: after
  starts : before = [] ∨ before.getLast? = some '\n'
  single : '\n' ∉ line

/--
The line of a number at which a text stops being the beginning of a script, and how much of
the text is one: all before that line, or, when the text only ends too early, all of it.
-/
inductive Locates (text : List Char) (number : Nat) : List Char → Prop where
  | atLine
      {before line after : List Char}
      (stands : Stands text before line after)
      (counted : number = before.count '\n' + 1)
      (viable : Begins before)
      (fatal : ¬Begins (before ++ line ++ ['\n'])) :
      Locates text number before
  | atEnd
      {before line after : List Char}
      (stands : Stands text before line after)
      (counted : number = before.count '\n' + 1)
      (unsilent : ¬Silent line)
      (silent : ∀ piece ∈ Text.lines after, Silent piece)
      (viable : Begins (Text.completed text))
      (refused : ¬Accepted text) :
      Locates text number (Text.completed text)

/-- A text stands before another in the order of the numbers of their characters. -/
def Precedes (first second : String) : Prop :=
  List.Lex (fun one other => one.toNat < other.toNat) first.toList second.toList

/-- A message that names, in order and once each, the kinds of line that may come next. -/
def Names (message : String) (number : Nat) (good : List Char) : Prop :=
  ∃ descriptions : List String,
    let alternatives := String.intercalate " or " descriptions
    message = s!"line {number}, col 1: expected {alternatives}" ∧
      descriptions.Pairwise Precedes ∧
        ∀ description,
          description ∈ descriptions ↔
            ∃ kind : Expectation, kind.description = description ∧ Continues good kind

namespace Progress

/-- A line that can be taken where it is asked for. -/
def sample : Expectation → List Char
  | .tag => ['3']
  | .text => ['x']
  | .integer => ['0']
  | .option => [':', '0']

/-- How many lines a record that is being read still lacks. -/
def owed : Progress → Nat
  | .between => 0
  | .awaitSuccess .. => 3
  | .awaitFail .. => 2
  | .awaitName .. => 1
  | .inPrompts .. => 0
  | .awaitChoiceName .. => 3
  | .awaitChoiceQuestion .. => 2
  | .awaitOption .. => 1
  | .inOptions .. => 0
  | .awaitMessage .. => 1

/-- A progress that owes nothing may end. -/
theorem exists_finish_of_owed
    {progress : Progress}
    (nothing : progress.owed = 0) :
    ∃ finished, progress.finish = some finished := by
  cases progress with
  | between => exact ⟨_, rfl⟩
  | inPrompts => exact ⟨_, rfl⟩
  | inOptions => exact ⟨_, rfl⟩
  | _ => cases nothing

/-- A sample is read as a line. -/
theorem read?_sample
    (kind : Expectation) :
    Line.read? (sample kind) = some ⟨sample kind, .lineFeed⟩ := by
  cases kind <;> rfl

theorem lineFeed_not_mem_sample
    (kind : Expectation) :
    '\n' ∉ sample kind := by
  cases kind <;> decide

/-- Where a kind of line is asked for, its sample is taken as such; a lack only shrinks. -/
theorem advance_sample
    {progress : Progress}
    {kind : Expectation}
    (asked : kind ∈ progress.expected)
    (number : Nat) :
    ∃ (part : Part) (finished : List Record) (next : Progress),
      part.expectation = kind ∧
        progress.advance number ⟨sample kind, .lineFeed⟩ = some (finished, next) ∧
          finished.flatMap Record.tokens ++ next.tokens =
            progress.tokens ++ [tokenOf part (⟨sample kind, .lineFeed⟩, number)] ∧
            (progress.owed = 0 ∨ next.owed < progress.owed) := by
  cases progress with
  | between =>
      cases List.mem_singleton.1 asked
      exact ⟨.tag .terminating, _, _, rfl, rfl, rfl, .inl rfl⟩
  | awaitSuccess tag =>
      cases List.mem_singleton.1 asked
      exact ⟨.integer, _, _, rfl, rfl, rfl, .inr (Nat.lt_succ_self _)⟩
  | awaitFail tag success =>
      cases List.mem_singleton.1 asked
      exact ⟨.integer, _, _, rfl, rfl, rfl, .inr (Nat.lt_succ_self _)⟩
  | awaitName tag success fail =>
      cases List.mem_singleton.1 asked
      exact ⟨.text, _, _, rfl, rfl, rfl, .inr (Nat.lt_succ_self _)⟩
  | inPrompts tag success fail name prompts =>
      simp only [expected, List.mem_cons, List.not_mem_nil, or_false] at asked
      rcases asked with rfl | rfl
      · refine ⟨.tag .terminating, _, _, rfl, rfl, ?_, .inl rfl⟩
        simp [tokens, Record.tokens, opening, tokenOf]
      · exact ⟨.text, _, _, rfl, rfl, by simp [tokens, tokenOf], .inl rfl⟩
  | awaitChoiceName tag =>
      cases List.mem_singleton.1 asked
      exact ⟨.text, _, _, rfl, rfl, rfl, .inr (Nat.lt_succ_self _)⟩
  | awaitChoiceQuestion tag name =>
      cases List.mem_singleton.1 asked
      exact ⟨.text, _, _, rfl, rfl, rfl, .inr (Nat.lt_succ_self _)⟩
  | awaitOption tag name asked =>
      cases List.mem_singleton.1 ‹_›
      exact ⟨.option, _, _, rfl, rfl, rfl, .inr (Nat.lt_succ_self _)⟩
  | inOptions tag name question options =>
      simp only [expected, List.mem_cons, List.not_mem_nil, or_false] at asked
      rcases asked with rfl | rfl
      · refine ⟨.tag .terminating, _, _, rfl, rfl, ?_, .inl rfl⟩
        simp [tokens, Record.tokens, opening, tokenOf]
      · exact ⟨.option, _, _, rfl, rfl, by simp [tokens, tokenOf], .inl rfl⟩
  | awaitMessage tag =>
      cases List.mem_singleton.1 asked
      exact ⟨.text, _, _, rfl, rfl, rfl, .inr (Nat.lt_succ_self _)⟩

namespace Reaches

/-- The sample of a kind that is asked for is passed, as a token of that kind. -/
theorem sample
    {progress : Progress}
    {kind : Expectation}
    (asked : kind ∈ progress.expected)
    (number : Nat) :
    ∃ token next,
      Reaches number progress [Progress.sample kind] [token] next ∧
        token.part.expectation = kind ∧ (progress.owed = 0 ∨ next.owed < progress.owed) := by
  obtain ⟨part, finished, next, played, advanced, added, less⟩ := advance_sample asked number
  have unblank : ¬(Line.mk (Progress.sample kind) .lineFeed).isBlank = true := by
    cases kind <;> decide
  exact ⟨_, next, .line (read?_sample kind) unblank advanced added .done, played, less⟩

/--
From every progress, a few lines lead to where a record may end. Any kind that is asked for
will do for the next, since taking its sample brings the end nearer.
-/
theorem exists_completion
    (progress : Progress)
    (number : Nat) :
    ∃ pieces tokens reached finished,
      (∀ piece ∈ pieces, '\n' ∉ piece) ∧
        Reaches number progress pieces tokens reached ∧ reached.finish = some finished := by
  by_cases nothing : progress.owed = 0
  · obtain ⟨finished, ends⟩ := exists_finish_of_owed nothing
    exact ⟨[], [], progress, finished, by simp, .done, ends⟩
  · obtain ⟨kind, asked⟩ : ∃ kind, kind ∈ progress.expected := by
      cases progress <;> exact ⟨_, List.mem_cons_self⟩
    obtain ⟨token, next, taken, _, less⟩ := sample asked number
    have smaller : next.owed < progress.owed := less.resolve_left nothing
    obtain ⟨pieces, tokens, reached, finished, single, later, ends⟩ :=
      exists_completion next (number + 1)
    refine ⟨Progress.sample kind :: pieces, token :: tokens, reached, finished, ?_, ?_, ends⟩
    · simpa using ⟨lineFeed_not_mem_sample kind, single⟩
    · exact taken.append later
termination_by progress.owed

/-- Pieces that are passed over leave the progress where it is. -/
theorem eq_of_silent
    {number : Nat}
    {progress reached : Progress}
    {pieces : List (List Char)}
    {tokens : List Token}
    (through : Reaches number progress pieces tokens reached)
    (silent : ∀ piece ∈ pieces, Silent piece) :
    reached = progress := by
  induction through with
  | done => rfl
  | blank _ _ _ inductionHypothesis =>
      exact inductionHypothesis fun other member => silent other (List.mem_cons_of_mem _ member)
  | line accepted unblank _ _ _ _ =>
      exact absurd ((isBlank_iff_silent accepted).2 (silent _ List.mem_cons_self)) unblank

end Reaches
end Progress

/-- Lines as they stand in a text, each with its line feed. -/
def ended (pieces : List (List Char)) : List Char :=
  pieces.flatMap fun piece => piece ++ ['\n']

theorem ended_append
    (pieces more : List (List Char)) :
    ended (pieces ++ more) = ended pieces ++ ended more :=
  List.flatMap_append

theorem ended_singleton
    (piece : List Char) :
    ended [piece] = piece ++ ['\n'] := by
  simp [ended]

theorem ended_starts
    (pieces : List (List Char)) :
    ended pieces = [] ∨ (ended pieces).getLast? = some '\n' := by
  rcases List.eq_nil_or_concat pieces with rfl | ⟨before, last, rfl⟩
  · exact Or.inl rfl
  · right
    rw [List.concat_eq_append, ended_append, ended_singleton, ← List.append_assoc]
    simp

/-- Ended pieces hold as many line feeds as there are pieces. -/
theorem count_ended
    {pieces : List (List Char)}
    (single : ∀ piece ∈ pieces, '\n' ∉ piece) :
    (ended pieces).count '\n' = pieces.length := by
  induction pieces with
  | nil => rfl
  | cons piece rest inductionHypothesis =>
      have none : piece.count '\n' = 0 := List.count_eq_zero.2 (single piece List.mem_cons_self)
      have others := inductionHypothesis fun other member =>
        single other (List.mem_cons_of_mem piece member)
      have shape : ended (piece :: rest) = piece ++ '\n' :: ended rest := by
        simp [ended]
      rw [shape, List.count_append, none, List.count_cons_self, others, List.length_cons]
      omega

/-- A text is accepted when reading gets through its lines to where a record may end. -/
theorem accepted_iff
    (text : List Char) :
    Accepted text ↔
      ∃ tokens reached finished,
        Progress.Reaches 1 .between (Text.lines text) tokens reached ∧
          reached.finish = some finished := by
  unfold Accepted readAll
  rw [String.toList_ofList]
  constructor
  · rintro ⟨records, given⟩
    obtain ⟨tokens, reached, finished, through, ends, _⟩ := Progress.exists_reaches_of_read given
    exact ⟨tokens, reached, finished, through, ends⟩
  · rintro ⟨tokens, reached, finished, through, ends⟩
    exact Progress.read_of_reaches 0 [] through ends

/-- Among tokens of earlier lines and tokens of later ones, the first later one is found. -/
theorem find?_later
    {count : Nat}
    {before after : List Token}
    (early : ∀ token ∈ before, token.line ≤ count)
    (late : ∀ token ∈ after, count < token.line) :
    (before ++ after).find? (fun token => count < token.line) = after.head? := by
  have passed : before.find? (fun token => count < token.line) = none := by
    rw [List.find?_eq_none]
    intro token member
    simpa using early token member
  rw [List.find?_append, passed, Option.none_or]
  cases after with
  | nil => rfl
  | cons token rest =>
      have found : count < token.line := late token List.mem_cons_self
      simp [found]

section Beginning

variable
  {pieces : List (List Char)}
  (single : ∀ piece ∈ pieces, '\n' ∉ piece)

include single

/-- Lines are the beginning of an accepted text exactly when reading gets through them. -/
theorem begins_ended_iff :
    Begins (ended pieces) ↔
      ∃ tokens reached, Progress.Reaches 1 .between pieces tokens reached := by
  constructor
  · rintro ⟨more, accepted⟩
    obtain ⟨tokens, reached, _, through, _⟩ := (accepted_iff _).1 accepted
    rw [ended, Text.lines_flatMap_append pieces more single] at through
    obtain ⟨midway, before, _, first, _, _⟩ := through.split
    exact ⟨before, midway, first⟩
  · rintro ⟨tokens, reached, through⟩
    obtain ⟨rest, others, farther, finished, restSingle, later, ends⟩ :=
      Progress.Reaches.exists_completion reached (1 + pieces.length)
    refine ⟨ended rest, (accepted_iff _).2 ⟨tokens ++ others, farther, finished, ?_, ends⟩⟩
    rw [ended, Text.lines_flatMap_append pieces _ single, ended, Text.lines_flatMap rest restSingle]
    exact through.append later

/-- No accepted text goes on after these lines with a piece that cannot be taken there. -/
theorem not_begins_of_stuck
    {piece : List Char}
    {tokens : List Token}
    {reached : Progress}
    (pieceSingle : '\n' ∉ piece)
    (through : Progress.Reaches 1 .between pieces tokens reached)
    (stuck :
      ∀ others next, ¬Progress.Reaches (1 + pieces.length) reached [piece] others next) :
    ¬Begins (ended pieces ++ piece ++ ['\n']) := by
  have upToSingle : ∀ other ∈ pieces ++ [piece], '\n' ∉ other := by
    intro other member
    rcases List.mem_append.1 member with early | last
    · exact single other early
    · exact List.mem_singleton.1 last ▸ pieceSingle
  have upTo : ended pieces ++ piece ++ ['\n'] = ended (pieces ++ [piece]) := by
    rw [ended_append, ended_singleton, List.append_assoc]
  rw [upTo, begins_ended_iff upToSingle]
  rintro ⟨_, farther, throughToo⟩
  obtain ⟨midway, _, after, first, last, _⟩ := throughToo.split
  obtain ⟨rfl, _⟩ := through.unique first
  exact stuck after farther last

/--
Of the tokens of a text that begins with lines that reading gets through, the first after
these lines is the first that is taken after them.
-/
theorem find?_tokens_eq_head?
    {more : List Char}
    {tokens others : List Token}
    {reached farther : Progress}
    {records : List Record}
    (given : readAll (String.ofList (ended pieces ++ more)) = .ok records)
    (through : Progress.Reaches 1 .between pieces tokens reached)
    (later : Progress.Reaches (1 + pieces.length) reached (Text.lines more) others farther) :
    (records.flatMap Record.tokens).find?
        (fun token => (ended pieces).count '\n' < token.line) = others.head? := by
  unfold readAll at given
  rw [String.toList_ofList, ended, Text.lines_flatMap_append pieces more single] at given
  obtain ⟨all, _, _, throughAll, _, held⟩ := Progress.exists_reaches_of_read given
  obtain ⟨_, rfl⟩ := (through.append later).unique throughAll
  have same : records.flatMap Record.tokens = tokens ++ others := by
    simpa [Progress.tokens] using held
  rw [same, count_ended single]
  apply find?_later
  · intro token member
    have bounds := through.line_bounds token member
    omega
  · intro token member
    have bounds := later.line_bounds token member
    omega

/--
What may come next after lines that reading gets through is what is asked for there. Reading
a whole text passes the same progress, and after a sample of what is asked for a completion
makes the text whole.
-/
theorem continues_ended_iff
    {tokens : List Token}
    {reached : Progress}
    (through : Progress.Reaches 1 .between pieces tokens reached)
    (kind : Expectation) :
    Continues (ended pieces) kind ↔ kind ∈ reached.expected := by
  constructor
  · rintro ⟨more, records, token, given, found, rfl⟩
    obtain ⟨_, farther, _, throughAll, _⟩ := (accepted_iff _).1 ⟨records, given⟩
    rw [ended, Text.lines_flatMap_append pieces more single] at throughAll
    obtain ⟨midway, _, after, first, later, _⟩ := throughAll.split
    obtain ⟨rfl, _⟩ := through.unique first
    rw [find?_tokens_eq_head? single given through later] at found
    obtain ⟨rest, rfl⟩ := List.head?_eq_some_iff.1 found
    exact later.head_expected
  · intro asked
    obtain ⟨token, next, taken, played, _⟩ :=
      Progress.Reaches.sample asked (1 + pieces.length)
    obtain ⟨rest, others, farther, finished, restSingle, completed, ends⟩ :=
      Progress.Reaches.exists_completion next (1 + pieces.length + 1)
    have moreSingle : ∀ piece ∈ Progress.sample kind :: rest, '\n' ∉ piece := by
      simpa using ⟨Progress.lineFeed_not_mem_sample kind, restSingle⟩
    have later : Progress.Reaches (1 + pieces.length) reached
        (Text.lines (ended (Progress.sample kind :: rest))) (token :: others) farther := by
      rw [ended, Text.lines_flatMap _ moreSingle]
      exact taken.append completed
    obtain ⟨records, given⟩ : Accepted (ended pieces ++ ended (Progress.sample kind :: rest)) := by
      refine (accepted_iff _).2 ⟨tokens ++ token :: others, farther, finished, ?_, ends⟩
      rw [ended, Text.lines_flatMap_append pieces _ single]
      exact through.append later
    refine ⟨ended (Progress.sample kind :: rest), records, token, given, ?_, played⟩
    exact find?_tokens_eq_head? single given through later

end Beginning

/-- The message of a fault names the line and all that could stand there. -/
theorem Fault.message_eq
    (fault : Fault) :
    let alternatives := String.intercalate " or " (fault.expected.map Expectation.description)
    fault.message = s!"line {fault.line}, col 1: expected {alternatives}" := by
  have column : (", col " ++ toString 1 : String) ++ ": expected " = ", col 1: expected " := by
    decide
  intro alternatives
  calc
    fault.message =
        "line " ++ toString fault.line ++ (", col " ++ toString 1 ++ ": expected ") ++
          alternatives := by
      simp only [Fault.message, Fault.column, String.append_assoc]
      rfl
    _ = s!"line {fault.line}, col 1: expected {alternatives}" := by
      rw [column]
      rfl

/-- What could stand in a place is named in order. -/
theorem pairwise_descriptions
    (progress : Progress) :
    (progress.expected.map Expectation.description).Pairwise Precedes := by
  have tagBeforeText : Precedes (Expectation.description .tag) (Expectation.description .text) :=
    .cons (.cons (.rel (by decide)))
  have tagBeforeOption :
      Precedes (Expectation.description .tag) (Expectation.description .option) :=
    .cons (.rel (by decide))
  cases progress with
  | inPrompts => exact List.pairwise_pair.2 tagBeforeText
  | inOptions => exact List.pairwise_pair.2 tagBeforeOption
  | _ => exact List.pairwise_singleton _ _

/-- A description is named when it describes a kind that is asked for. -/
theorem mem_descriptions_iff
    (expected : List Expectation)
    (description : String) :
    description ∈ expected.map Expectation.description ↔
      ∃ kind : Expectation, kind.description = description ∧ kind ∈ expected := by
  rw [List.mem_map]
  exact exists_congr fun kind => and_comm

/-- What is asked for at a progress names what may come next after the lines before it. -/
theorem names_of_reaches
    {pieces : List (List Char)}
    {tokens : List Token}
    {reached : Progress}
    (single : ∀ piece ∈ pieces, '\n' ∉ piece)
    (through : Progress.Reaches 1 .between pieces tokens reached)
    (number : Nat) :
    Names (Fault.message ⟨number, reached.expected⟩) number (ended pieces) := by
  refine ⟨reached.expected.map Expectation.description, Fault.message_eq _,
    pairwise_descriptions reached, ?_⟩
  intro description
  rw [mem_descriptions_iff]
  exact exists_congr fun kind => and_congr_right fun _ =>
    (continues_ended_iff single through kind).symm

/-- A piece of a text stands in it between the pieces before it and those after it. -/
theorem stands_of_lines
    {text piece : List Char}
    {before after : List (List Char)}
    (shape : Text.lines text = before ++ piece :: after) :
    Stands text (ended before) piece (ended after) := by
  have single : ∀ other ∈ Text.lines text, '\n' ∉ other := Text.lineFeed_not_mem_of_mem_lines text
  refine ⟨?_, ended_starts before, single piece (by simp [shape])⟩
  have whole : ended (Text.lines text) = Text.completed text := Text.flatMap_lines text
  have cons : ended (piece :: after) = piece ++ '\n' :: ended after := by
    simp [ended]
  rw [← whole, shape, ended_append, cons, List.append_assoc]

section Refusal

variable
  {text : List Char}
  {before after : List (List Char)}
  {piece : List Char}
  (shape : Text.lines text = before ++ piece :: after)

include shape

theorem before_single :
    ∀ other ∈ before, '\n' ∉ other := by
  intro other member
  apply Text.lineFeed_not_mem_of_mem_lines text
  exact shape ▸ List.mem_append_left (piece :: after) member

theorem number_of_lines :
    1 + before.length = (ended before).count '\n' + 1 := by
  rw [count_ended (before_single shape), Nat.add_comm]

/-- A text is at fault at the first piece that cannot be taken. -/
theorem locates_of_stuck
    {tokens : List Token}
    {reached : Progress}
    (through : Progress.Reaches 1 .between before tokens reached)
    (stuck :
      ∀ others next, ¬Progress.Reaches (1 + before.length) reached [piece] others next) :
    Locates text (1 + before.length) (ended before) := by
  have stands := stands_of_lines shape
  have single := before_single shape
  exact .atLine stands (number_of_lines shape)
    ((begins_ended_iff single).2 ⟨tokens, reached, through⟩)
    (not_begins_of_stuck single stands.single through stuck)

/-- A text that reading gets through, but not to the end of a record, ends too early. -/
theorem locates_of_unfinished
    {tokens : List Token}
    {reached : Progress}
    (through : Progress.Reaches 1 .between (Text.lines text) tokens reached)
    (refused : ¬Accepted text)
    (unsilent : ¬Silent piece)
    (silent : ∀ other ∈ after, Silent other) :
    Locates text (1 + before.length) (Text.completed text) := by
  have whole : ended (Text.lines text) = Text.completed text := Text.flatMap_lines text
  have single := Text.lineFeed_not_mem_of_mem_lines text
  have afterSingle : ∀ other ∈ after, '\n' ∉ other := fun other member =>
    single other (shape ▸ List.mem_append_right before (List.mem_cons_of_mem piece member))
  refine .atEnd (stands_of_lines shape) (number_of_lines shape) unsilent ?_ ?_ refused
  · rw [ended, Text.lines_flatMap after afterSingle]
    exact silent
  · rw [← whole]
    exact (begins_ended_iff single).2 ⟨tokens, reached, through⟩

end Refusal

/--
A text that is not read stops being a script at the line of the fault: either the lines before
it are the beginning of some text that is read and together with it they are not, or all of
the text is such a beginning, but not read itself, and the line is its last one that is not
blank. The message names the line, and in order and once each just the kinds of line with
which some text that is read goes on after what is the beginning of one.
-/
theorem refused_where_unrepairable
    {text : String}
    {fault : Fault}
    (refused : readAll text = .error fault) :
    ∃ good, Locates text.toList fault.line good ∧ Names fault.message fault.line good := by
  have unaccepted : ¬Accepted text.toList := by
    rintro ⟨records, given⟩
    rw [String.ofList_toList, refused] at given
    cases given
  cases Progress.refuses_of_read refused with
  | @atPiece before after piece tokens reached shape through stuck =>
      have names := names_of_reaches (before_single shape) through (1 + before.length)
      exact ⟨ended before, locates_of_stuck shape through stuck, names⟩
  | @atEnd line tokens reached through unfinished ends =>
      have whole : ended (Text.lines text.toList) = Text.completed text.toList :=
        Text.flatMap_lines text.toList
      have single := Text.lineFeed_not_mem_of_mem_lines text.toList
      have names := names_of_reaches single through line
      rw [whole] at names
      refine ⟨Text.completed text.toList, ?_, names⟩
      cases ends with
      | silent silent =>
          cases through.eq_of_silent silent
          cases unfinished
      | spoken shape unsilent silent =>
          exact locates_of_unfinished shape through unaccepted unsilent silent

/-- A name stands where a number is asked for, and then the text ends there. -/
theorem refused_where_unrepairable_lineAndEnd :
    (readAll "1\n0\nX\n" = .error ⟨3, [.integer]⟩ ∧
      ∃ good,
        Locates "1\n0\nX\n".toList 3 good ∧
          Names (Fault.message ⟨3, [.integer]⟩) 3 good) ∧
      readAll "1\n0\n\n" = .error ⟨2, [.integer]⟩ ∧
        ∃ good,
          Locates "1\n0\n\n".toList 2 good ∧
            Names (Fault.message ⟨2, [.integer]⟩) 2 good := by
  have atLine : readAll "1\n0\nX\n" = .error ⟨3, [.integer]⟩ := by decide +kernel
  have atEnd : readAll "1\n0\n\n" = .error ⟨2, [.integer]⟩ := by decide +kernel
  exact ⟨⟨atLine, refused_where_unrepairable atLine⟩, atEnd, refused_where_unrepairable atEnd⟩

end Dialog.Record
