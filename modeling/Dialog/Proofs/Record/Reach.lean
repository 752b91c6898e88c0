import Dialog.Proofs.Record.Run

namespace Dialog.Record

/-!
# How far reading gets

`Reaches` is what reading does with the first pieces of a text: the progress that
it reaches and the tokens that it takes on the way, whatever comes after. Pieces
are passed one by one, so what is reached is reached in stretches
(`Reaches.append`, `Reaches.split`), and one way only (`Reaches.unique`).

What one piece does to reading is told once (`read_first`). Reading succeeds when
it gets through all pieces to a progress where a record may end, and the tokens of
the records are then those taken (`exists_reaches_of_read`, `read_of_reaches`).
When it fails, it has reached a progress whose expectations are those of the
fault, and either the next piece cannot be taken there or none is left
(`refuses_of_read`).
-/

/-- A piece of a text that is passed over. -/
def Silent (piece : List Char) : Prop :=
  piece = [] ∨ piece = ['\r']

theorem isBlank_iff_silent
    {piece : List Char}
    {line : Line}
    (accepted : Line.read? piece = some line) :
    line.isBlank = true ↔ Silent piece := by
  unfold Silent
  by_cases last : piece.getLast? = some '\r'
  · obtain ⟨content, rfl⟩ := List.getLast?_eq_some_iff.1 last
    rw [Line.read?_append_return, Option.ite_none_left_eq_some] at accepted
    cases accepted.2
    simp [Line.isBlank]
  · rw [Line.read?_of_getLast?_ne piece last, Option.ite_none_left_eq_some] at accepted
    cases accepted.2
    have noReturn : piece ≠ ['\r'] := by
      rintro rfl
      exact last rfl
    simp [Line.isBlank, noReturn]

/-- The number of a line after a first one, counted from the first or from the one after it. -/
theorem number_cons
    (number : Nat)
    (piece : List Char)
    (before : List (List Char)) :
    number + (piece :: before).length = number + 1 + before.length := by
  rw [List.length_cons]
  omega

namespace Progress

/--
The pieces from a line number on are passed, the tokens are those of their lines that are
not blank, and the progress after them is reached.
-/
inductive Reaches : Nat → Progress → List (List Char) → List Token → Progress → Prop where
  | done
      {number : Nat}
      {progress : Progress} :
      Reaches number progress [] [] progress
  | blank
      {number : Nat}
      {progress reached : Progress}
      {piece : List Char}
      {rest : List (List Char)}
      {tokens : List Token}
      {line : Line}
      (accepted : Line.read? piece = some line)
      (blank : line.isBlank = true)
      (later : Reaches (number + 1) progress rest tokens reached) :
      Reaches number progress (piece :: rest) tokens reached
  | line
      {number : Nat}
      {progress next reached : Progress}
      {piece : List Char}
      {rest : List (List Char)}
      {token : Token}
      {tokens : List Token}
      {line : Line}
      {finished : List Record}
      (accepted : Line.read? piece = some line)
      (unblank : ¬line.isBlank = true)
      (advanced : progress.advance number line = some (finished, next))
      (added : finished.flatMap Record.tokens ++ next.tokens = progress.tokens ++ [token])
      (later : Reaches (number + 1) next rest tokens reached) :
      Reaches number progress (piece :: rest) (token :: tokens) reached

/-- The token that a line adds stands in that line, and its part was asked for. -/
theorem eq_tokenOf_of_added
    {number : Nat}
    {progress next : Progress}
    {line : Line}
    {token : Token}
    {finished : List Record}
    (advanced : progress.advance number line = some (finished, next))
    (added : finished.flatMap Record.tokens ++ next.tokens = progress.tokens ++ [token]) :
    ∃ part : Part,
      token = tokenOf part (line, number) ∧ part.expectation ∈ progress.expected := by
  obtain ⟨part, asked, addedToo⟩ := advance_tokens (line, number) advanced
  have same : [token] = [tokenOf part (line, number)] :=
    List.append_cancel_left (added.symm.trans addedToo)
  exact ⟨part, List.head_eq_of_cons_eq same, asked⟩

namespace Reaches

variable
  {number : Nat}
  {progress reached : Progress}
  {pieces more : List (List Char)}
  {tokens others : List Token}

theorem append
    {farther : Progress}
    (first : Reaches number progress pieces tokens reached)
    (second : Reaches (number + pieces.length) reached more others farther) :
    Reaches number progress (pieces ++ more) (tokens ++ others) farther := by
  induction first with
  | done => exact second
  | blank accepted blank _ inductionHypothesis =>
      rw [number_cons] at second
      exact .blank accepted blank (inductionHypothesis second)
  | line accepted unblank advanced added _ inductionHypothesis =>
      rw [number_cons] at second
      exact .line accepted unblank advanced added (inductionHypothesis second)

theorem split
    (through : Reaches number progress (pieces ++ more) tokens reached) :
    ∃ midway before after,
      Reaches number progress pieces before midway ∧
        Reaches (number + pieces.length) midway more after reached ∧
          tokens = before ++ after := by
  induction pieces generalizing number progress tokens with
  | nil => exact ⟨progress, [], tokens, .done, through, rfl⟩
  | cons piece rest inductionHypothesis =>
      rw [number_cons]
      cases through with
      | blank accepted blank later =>
          obtain ⟨midway, before, after, first, second, rfl⟩ := inductionHypothesis later
          exact ⟨midway, before, after, .blank accepted blank first, second, rfl⟩
      | line accepted unblank advanced added later =>
          obtain ⟨midway, before, after, first, second, rfl⟩ := inductionHypothesis later
          exact ⟨midway, _ :: before, after, .line accepted unblank advanced added first,
            second, rfl⟩

theorem unique
    {other : Progress}
    (through : Reaches number progress pieces tokens reached)
    (throughToo : Reaches number progress pieces others other) :
    other = reached ∧ others = tokens := by
  induction through generalizing others with
  | done =>
      cases throughToo
      exact ⟨rfl, rfl⟩
  | blank accepted blank _ inductionHypothesis =>
      cases throughToo with
      | blank _ _ later => exact inductionHypothesis later
      | line acceptedToo unblank _ _ _ =>
          cases accepted.symm.trans acceptedToo
          exact absurd blank unblank
  | line accepted unblank advanced added _ inductionHypothesis =>
      cases throughToo with
      | blank acceptedToo blank _ =>
          cases accepted.symm.trans acceptedToo
          exact absurd blank unblank
      | line acceptedToo _ advancedToo addedToo later =>
          cases accepted.symm.trans acceptedToo
          cases advanced.symm.trans advancedToo
          have sameToken := List.append_cancel_left (added.symm.trans addedToo)
          obtain ⟨sameReached, sameTokens⟩ := inductionHypothesis later
          cases sameToken
          exact ⟨sameReached, sameTokens ▸ rfl⟩

/-- Every token stands in the line of one of the pieces. -/
theorem line_bounds
    (through : Reaches number progress pieces tokens reached) :
    ∀ token ∈ tokens, number ≤ token.line ∧ token.line < number + pieces.length := by
  induction through with
  | done => simp
  | blank _ _ _ inductionHypothesis =>
      intro token member
      have bounds := inductionHypothesis token member
      rw [List.length_cons]
      omega
  | line _ _ advanced added _ inductionHypothesis =>
      intro token member
      rw [List.length_cons]
      rcases List.mem_cons.1 member with rfl | later
      · obtain ⟨part, rfl, _⟩ := eq_tokenOf_of_added advanced added
        simp [tokenOf]
      · have bounds := inductionHypothesis token later
        omega

/-- The first token after a progress is one that was asked for there. -/
theorem head_expected
    {token : Token}
    (through : Reaches number progress pieces (token :: tokens) reached) :
    token.part.expectation ∈ progress.expected := by
  induction pieces generalizing number with
  | nil => cases through
  | cons piece rest inductionHypothesis =>
      cases through with
      | blank _ _ later => exact inductionHypothesis later
      | line _ _ advanced added _ =>
          obtain ⟨part, rfl, asked⟩ := eq_tokenOf_of_added advanced added
          exact asked

end Reaches

/--
What reading does with the first of the pieces left: it stops at it, passes over it, or takes
the line, and whatever is reached after it is then reached from it on.
-/
inductive First
    (last number : Nat)
    (done : List Record)
    (progress : Progress)
    (piece : List Char)
    (rest : List (List Char)) :
    Prop where
  | stuck
      (outcome :
        read last number done progress (piece :: rest) = .error ⟨number, progress.expected⟩)
      (nowhere : ∀ tokens next, ¬Reaches number progress [piece] tokens next)
  | passed
      (silent : Silent piece)
      (outcome :
        read last number done progress (piece :: rest) =
          read last (number + 1) done progress rest)
      (before :
        ∀ pieces tokens reached,
          Reaches (number + 1) progress pieces tokens reached →
            Reaches number progress (piece :: pieces) tokens reached)
  | taken
      {finished : List Record}
      {next : Progress}
      {token : Token}
      (unsilent : ¬Silent piece)
      (added : finished.flatMap Record.tokens ++ next.tokens = progress.tokens ++ [token])
      (outcome :
        read last number done progress (piece :: rest) =
          read number (number + 1) (finished.reverse ++ done) next rest)
      (before :
        ∀ pieces tokens reached,
          Reaches (number + 1) next pieces tokens reached →
            Reaches number progress (piece :: pieces) (token :: tokens) reached)

theorem read_first
    (last number : Nat)
    (done : List Record)
    (progress : Progress)
    (piece : List Char)
    (rest : List (List Char)) :
    First last number done progress piece rest := by
  cases accepted : Line.read? piece with
  | none =>
      refine .stuck (by rw [read, accepted]) ?_
      intro tokens next through
      cases through with
      | blank acceptedToo => cases accepted.symm.trans acceptedToo
      | line acceptedToo => cases accepted.symm.trans acceptedToo
  | some line =>
      by_cases blank : line.isBlank = true
      · refine .passed ((isBlank_iff_silent accepted).1 blank) ?_ ?_
        · rw [read, accepted]
          simp only [if_pos blank]
        · exact fun pieces tokens reached later => .blank accepted blank later
      · cases advanced : progress.advance number line with
        | none =>
            refine .stuck ?_ ?_
            · rw [read, accepted]
              simp only [if_neg blank, advanced]
            · intro tokens next through
              cases through with
              | blank acceptedToo blankToo =>
                  cases accepted.symm.trans acceptedToo
                  exact blank blankToo
              | line acceptedToo _ advancedToo =>
                  cases accepted.symm.trans acceptedToo
                  cases advanced.symm.trans advancedToo
        | some outcome =>
            obtain ⟨finished, next⟩ := outcome
            obtain ⟨part, _, added⟩ := advance_tokens (line, number) advanced
            refine .taken (fun silent => blank ((isBlank_iff_silent accepted).2 silent)) added
              ?_ ?_
            · rw [read, accepted]
              simp only [if_neg blank, advanced]
            · exact fun pieces tokens reached later => .line accepted blank advanced added later

/--
Reading that succeeds has got through all pieces, and its records hold the tokens taken. On
the way, the tokens held are those of the records done and of the one that is being read.
-/
theorem exists_reaches_of_read
    {last number : Nat}
    {done records : List Record}
    {progress : Progress}
    {pieces : List (List Char)}
    (given : read last number done progress pieces = .ok records) :
    ∃ tokens reached finished,
      Reaches number progress pieces tokens reached ∧
        reached.finish = some finished ∧
          records.flatMap Record.tokens =
            done.reverse.flatMap Record.tokens ++ progress.tokens ++ tokens := by
  induction pieces generalizing last number done progress with
  | nil =>
      unfold read at given
      cases ends : progress.finish with
      | none =>
          rw [ends] at given
          cases given
      | some finished =>
          rw [ends] at given
          cases given
          refine ⟨[], progress, finished, .done, ends, ?_⟩
          rw [List.flatMap_append, finish_tokens ends, List.append_nil]
  | cons piece rest inductionHypothesis =>
      cases read_first last number done progress piece rest with
      | stuck outcome => cases outcome.symm.trans given
      | passed _ outcome before =>
          obtain ⟨tokens, reached, finished, later, ends, same⟩ :=
            inductionHypothesis (outcome ▸ given)
          exact ⟨tokens, reached, finished, before rest tokens reached later, ends, same⟩
      | @taken completed next token _ added outcome before =>
          obtain ⟨tokens, reached, finished, later, ends, same⟩ :=
            inductionHypothesis (outcome ▸ given)
          refine ⟨token :: tokens, reached, finished, before rest tokens reached later, ends, ?_⟩
          calc
            records.flatMap Record.tokens =
                done.reverse.flatMap Record.tokens ++
                  (completed.flatMap Record.tokens ++ next.tokens) ++ tokens := by
              simp [same]
            _ = done.reverse.flatMap Record.tokens ++ progress.tokens ++ token :: tokens := by
              simp [added]

/-- Reading that gets through all pieces to where a record may end succeeds. -/
theorem read_of_reaches
    {number : Nat}
    {progress reached : Progress}
    {pieces : List (List Char)}
    {tokens : List Token}
    {finished : List Record}
    (last : Nat)
    (done : List Record)
    (through : Reaches number progress pieces tokens reached)
    (ends : reached.finish = some finished) :
    ∃ records, read last number done progress pieces = .ok records := by
  induction through generalizing last done with
  | done => exact ⟨done.reverse ++ finished, by rw [read, ends]⟩
  | blank accepted blank _ inductionHypothesis =>
      obtain ⟨records, given⟩ := inductionHypothesis last done ends
      refine ⟨records, ?_⟩
      rw [read, accepted]
      simp only [if_pos blank, given]
  | @line number _ _ _ _ _ _ _ _ completed accepted unblank advanced _ _ inductionHypothesis =>
      obtain ⟨records, given⟩ := inductionHypothesis number (completed.reverse ++ done) ends
      refine ⟨records, ?_⟩
      rw [read, accepted]
      simp only [if_neg unblank, advanced, given]

/-- The number of the last line that is not blank, or the one before all when they all are. -/
inductive Ends (last number : Nat) (pieces : List (List Char)) : Nat → Prop where
  | silent (silent : ∀ piece ∈ pieces, Silent piece) :
      Ends last number pieces last
  | spoken
      {before after : List (List Char)}
      {piece : List Char}
      (shape : pieces = before ++ piece :: after)
      (unsilent : ¬Silent piece)
      (silent : ∀ other ∈ after, Silent other) :
      Ends last number pieces (number + before.length)

/-- Where reading stops, and what was asked for there. -/
inductive Refuses (last number : Nat) (progress : Progress) (pieces : List (List Char)) :
    Fault → Prop where
  | atPiece
      {before after : List (List Char)}
      {piece : List Char}
      {tokens : List Token}
      {reached : Progress}
      (shape : pieces = before ++ piece :: after)
      (through : Reaches number progress before tokens reached)
      (stuck : ∀ others next, ¬Reaches (number + before.length) reached [piece] others next) :
      Refuses last number progress pieces ⟨number + before.length, reached.expected⟩
  | atEnd
      {line : Nat}
      {tokens : List Token}
      {reached : Progress}
      (through : Reaches number progress pieces tokens reached)
      (unfinished : reached.finish = none)
      (ends : Ends last number pieces line) :
      Refuses last number progress pieces ⟨line, reached.expected⟩

/-- The last line that is not blank is among the later ones unless these are all blank. -/
theorem Ends.cons
    {last lastToo number line : Nat}
    {piece : List Char}
    {rest : List (List Char)}
    (otherwise :
      (∀ other ∈ rest, Silent other) → Ends last number (piece :: rest) lastToo)
    (ends : Ends lastToo (number + 1) rest line) :
    Ends last number (piece :: rest) line := by
  cases ends with
  | silent all => exact otherwise all
  | @spoken before after spoken shape unsilent silent =>
      have whole : piece :: rest = (piece :: before) ++ spoken :: after := by
        rw [shape, List.cons_append]
      rw [← number_cons number piece before]
      exact .spoken whole unsilent silent

/-- A refusal after the first piece is one of all pieces, when the first is passed. -/
theorem Refuses.cons
    {last lastToo number : Nat}
    {progress next : Progress}
    {piece : List Char}
    {rest : List (List Char)}
    {fault : Fault}
    (passes :
      ∀ pieces tokens reached,
        Reaches (number + 1) next pieces tokens reached →
          ∃ others, Reaches number progress (piece :: pieces) others reached)
    (otherwise :
      (∀ other ∈ rest, Silent other) → Ends last number (piece :: rest) lastToo)
    (later : Refuses lastToo (number + 1) next rest fault) :
    Refuses last number progress (piece :: rest) fault := by
  cases later with
  | @atPiece before after refused tokens reached shape through stuck =>
      obtain ⟨others, throughToo⟩ := passes before tokens reached through
      have whole : piece :: rest = (piece :: before) ++ refused :: after := by
        rw [shape, List.cons_append]
      rw [← number_cons number piece before] at stuck ⊢
      exact .atPiece whole throughToo stuck
  | @atEnd line tokens reached through unfinished ends =>
      obtain ⟨others, throughToo⟩ := passes rest tokens reached through
      exact .atEnd throughToo unfinished (ends.cons otherwise)

/--
A fault says where reading stops, and what was asked for there. A piece that is passed is
put before the refusal of the rest; one that is not refuses by itself.
-/
theorem refuses_of_read
    {last number : Nat}
    {done : List Record}
    {progress : Progress}
    {pieces : List (List Char)}
    {fault : Fault}
    (given : read last number done progress pieces = .error fault) :
    Refuses last number progress pieces fault := by
  induction pieces generalizing last number done progress with
  | nil =>
      unfold read at given
      cases ends : progress.finish with
      | some finished =>
          rw [ends] at given
          cases given
      | none =>
          rw [ends] at given
          cases given
          exact .atEnd .done ends (.silent (by simp))
  | cons piece rest inductionHypothesis =>
      have whole : piece :: rest = [] ++ piece :: rest := rfl
      cases read_first last number done progress piece rest with
      | stuck outcome nowhere =>
          cases outcome.symm.trans given
          exact .atPiece whole .done nowhere
      | passed silent outcome before =>
          apply Refuses.cons _ _ (inductionHypothesis (outcome ▸ given))
          · exact fun pieces tokens reached later => ⟨tokens, before pieces tokens reached later⟩
          · exact fun all => .silent (by simpa using ⟨silent, all⟩)
      | @taken _ _ token unsilent _ outcome before =>
          apply Refuses.cons _ _ (inductionHypothesis (outcome ▸ given))
          · exact fun pieces tokens reached later =>
              ⟨token :: tokens, before pieces tokens reached later⟩
          · exact fun all => .spoken whole unsilent all

end Progress
end Dialog.Record
