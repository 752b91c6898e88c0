import Dialog.Text.Line
import Mathlib.Data.List.DropRight
import Mathlib.Data.List.Forall2

namespace Dialog

/-!
# The lines that spell a text

`Text.lines` cuts a text and `Line.read?` reads each piece. This module says
what both come to together, without mentioning either: lines whose contents hold
no character of a line's end, and whose characters, one line after the other,
are the text with its last line ended. A text has at most one such list of
lines, so the two functions compute it exactly when there is one.
-/

/-- A line whose content could not be cut any further. -/
structure Line.WellFormed (line : Line) : Prop where
  noLineFeed : '\n' ∉ line.content
  noReturn : '\r' ∉ line.content

namespace Text

/-- A text whose last line is ended. -/
def completed (text : List Char) : List Char :=
  if text.getLast?.all (· = '\n') then text else text ++ ['\n']

end Text

namespace Line

/-- A line without its line feed. -/
def raw (line : Line) : List Char :=
  match line.terminator with
  | .lineFeed => line.content
  | .carriageReturnLineFeed => line.content ++ ['\r']

/-- The characters of a line are its piece with a line feed after it. -/
theorem characters_eq_raw
    (line : Line) :
    line.characters = line.raw ++ ['\n'] := by
  obtain ⟨content, terminator⟩ := line
  cases terminator with
  | lineFeed => rfl
  | carriageReturnLineFeed => simp [characters, raw, Terminator.characters]

theorem WellFormed.lineFeed_not_mem_raw
    {line : Line}
    (wellFormed : line.WellFormed) :
    '\n' ∉ line.raw := by
  obtain ⟨content, terminator⟩ := line
  cases terminator with
  | lineFeed => exact wellFormed.noLineFeed
  | carriageReturnLineFeed => simpa [raw] using wellFormed.noLineFeed

/-- A carriage return at the end of a piece is read into the line end. -/
theorem read?_append_return
    (content : List Char) :
    read? (content ++ ['\r']) =
      if '\r' ∈ content then none else some ⟨content, .carriageReturnLineFeed⟩ := by
  simp [read?]

/-- A piece that ends otherwise is read with a line feed for its end. -/
theorem read?_of_getLast?_ne
    (piece : List Char)
    (last : piece.getLast? ≠ some '\r') :
    read? piece = if '\r' ∈ piece then none else some ⟨piece, .lineFeed⟩ := by
  simp [read?, last]

/-- A piece of a text is read as a line exactly when it is that line without its line feed. -/
theorem read?_eq_some_iff
    (piece : List Char)
    (line : Line)
    (single : '\n' ∉ piece) :
    read? piece = some line ↔ piece = line.raw ∧ line.WellFormed := by
  constructor
  · intro accepted
    by_cases last : piece.getLast? = some '\r'
    · obtain ⟨content, rfl⟩ := List.getLast?_eq_some_iff.1 last
      rw [read?_append_return, Option.ite_none_left_eq_some] at accepted
      obtain ⟨noReturn, same⟩ := accepted
      cases same
      have noLineFeed : '\n' ∉ content := fun member =>
        single (List.mem_append_left ['\r'] member)
      exact ⟨rfl, noLineFeed, noReturn⟩
    · rw [read?_of_getLast?_ne piece last, Option.ite_none_left_eq_some] at accepted
      obtain ⟨noReturn, same⟩ := accepted
      cases same
      exact ⟨rfl, single, noReturn⟩
  · rintro ⟨rfl, wellFormed⟩
    obtain ⟨content, terminator⟩ := line
    have noReturn : '\r' ∉ content := wellFormed.noReturn
    cases terminator with
    | lineFeed =>
        have last : content.getLast? ≠ some '\r' := fun same =>
          noReturn (List.mem_of_getLast? same)
        simp [raw, read?_of_getLast?_ne content last, noReturn]
    | carriageReturnLineFeed =>
        simp [raw, read?_append_return content, noReturn]

end Line

namespace Text

theorem isLineEnd_of_mem_terminator
    (terminator : Terminator) :
    ∀ character ∈ terminator.characters, isLineEnd character = true := by
  cases terminator <;> simp [Terminator.characters, isLineEnd]

/-- Without the characters of its end, a well-formed line is its content. -/
theorem trimLineEnd_characters
    {line : Line}
    (wellFormed : line.WellFormed) :
    trimLineEnd line.characters = line.content := by
  have ends : ∀ character ∈ line.terminator.characters.reverse, isLineEnd character = true := by
    intro character member
    exact isLineEnd_of_mem_terminator line.terminator character (List.mem_reverse.1 member)
  have inside : ∀ character ∈ line.content.reverse, isLineEnd character = false := by
    intro character member
    have contentMember : character ∈ line.content := List.mem_reverse.1 member
    have notReturn : character ≠ '\r' := fun same => wellFormed.noReturn (same ▸ contentMember)
    have notLineFeed : character ≠ '\n' := fun same => wellFormed.noLineFeed (same ▸ contentMember)
    simp [isLineEnd, notReturn, notLineFeed]
  have kept : line.content.reverse.dropWhile isLineEnd = line.content.reverse := by
    cases shape : line.content.reverse with
    | nil => rfl
    | cons first rest =>
        have firstInside : isLineEnd first = false :=
          inside first (shape ▸ List.mem_cons_self)
        simp [firstInside]
  unfold trimLineEnd Line.characters
  rw [List.reverse_append, List.dropWhile_append_of_pos ends, kept, List.reverse_reverse]

/-- Trimmed again, a text stays what it is. -/
theorem trimLineEnd_trimLineEnd (text : List Char) :
    trimLineEnd (trimLineEnd text) = trimLineEnd text := by
  simp only [trimLineEnd, List.reverse_reverse, List.dropWhile_idempotent]

/-- A line feed at the end of a text is trimmed with the rest of its line end. -/
theorem trimLineEnd_append_lineFeed (text : List Char) :
    trimLineEnd (text ++ ['\n']) = trimLineEnd text := by
  simp [trimLineEnd, isLineEnd]

/-- Lines that, one after the other, are a text with its last line ended. -/
structure Spells (lines : List Line) (text : List Char) : Prop where
  wellFormed : ∀ line ∈ lines, line.WellFormed
  whole : lines.flatMap Line.characters = completed text

/-- A line without its end is completed by a line feed. -/
theorem completed_unended
    (line : List Char)
    (nonempty : line ≠ [])
    (single : '\n' ∉ line) :
    completed line = line ++ ['\n'] := by
  have last : line.getLast nonempty ≠ '\n' := by
    intro same
    exact single (same ▸ List.getLast_mem nonempty)
  simp [completed, List.getLast?_eq_some_getLast nonempty, last]

theorem completed_ended
    (line rest : List Char) :
    completed (line ++ '\n' :: rest) = line ++ '\n' :: completed rest := by
  cases rest with
  | nil => simp [completed]
  | cons first more =>
      have nonempty : first :: more ≠ [] := List.cons_ne_nil first more
      have sameLast : (line ++ '\n' :: first :: more).getLast? = (first :: more).getLast? := by
        rw [List.getLast?_append, List.getLast?_cons_cons, List.getLast?_eq_some_getLast nonempty,
          Option.some_or]
      unfold completed
      rw [sameLast]
      split
      · rfl
      · simp

/-- A text is empty, or a line without its end, or a whole line before a text. -/
theorem lineInduction
    {motive : List Char → Prop}
    (nothing : motive [])
    (unended : ∀ line, line ≠ [] → '\n' ∉ line → motive line)
    (ended : ∀ line rest, '\n' ∉ line → motive rest → motive (line ++ '\n' :: rest))
    (text : List Char) :
    motive text := by
  by_cases member : '\n' ∈ text
  · obtain ⟨line, rest, shape, single⟩ := List.eq_append_cons_of_mem member
    subst shape
    exact ended line rest single (lineInduction nothing unended ended rest)
  · rcases text with _ | ⟨first, more⟩
    · exact nothing
    · exact unended (first :: more) (List.cons_ne_nil first more) member
termination_by text.length
decreasing_by
  subst shape
  simp
  omega

/-- A text without a line feed is its only line. -/
theorem lines_unended
    (line : List Char)
    (nonempty : line ≠ [])
    (single : '\n' ∉ line) :
    lines line = [line] := by
  simp [lines, List.splitOn_eq_singleton single, nonempty]

theorem lineFeed_not_mem_of_mem_lines
    (text : List Char) :
    ∀ raw ∈ lines text, '\n' ∉ raw := by
  induction text using lineInduction with
  | nothing =>
      intro raw member
      simp [lines] at member
  | unended line nonempty single =>
      intro raw member
      rw [lines_unended line nonempty single, List.mem_singleton] at member
      exact member ▸ single
  | ended line rest single inductionHypothesis =>
      intro raw member
      rw [lines_line line rest single] at member
      rcases List.mem_cons.1 member with same | later
      · exact same ▸ single
      · exact inductionHypothesis raw later

/-- Ended one by one, the lines of a text are the text with its last line ended. -/
theorem flatMap_lines
    (text : List Char) :
    ((lines text).flatMap fun raw => raw ++ ['\n']) = completed text := by
  induction text using lineInduction with
  | nothing => rfl
  | unended line nonempty single =>
      simp [lines_unended line nonempty single, completed_unended line nonempty single]
  | ended line rest single inductionHypothesis =>
      rw [lines_line line rest single, completed_ended, List.flatMap_cons, inductionHypothesis]
      simp

/-- Pieces that are ended one by one are the first lines of a text that begins with them. -/
theorem lines_flatMap_append
    (pieces : List (List Char))
    (more : List Char)
    (single : ∀ piece ∈ pieces, '\n' ∉ piece) :
    lines ((pieces.flatMap fun piece => piece ++ ['\n']) ++ more) = pieces ++ lines more := by
  induction pieces with
  | nil => rfl
  | cons piece rest inductionHypothesis =>
      have restSame := inductionHypothesis fun other member =>
        single other (List.mem_cons_of_mem piece member)
      have pieceSingle : '\n' ∉ piece := single piece List.mem_cons_self
      rw [List.flatMap_cons, List.append_assoc, List.append_assoc, List.singleton_append,
        lines_line piece _ pieceSingle, restSame, List.cons_append]

/-- Pieces that are ended one by one are the lines of what they make. -/
theorem lines_flatMap
    (pieces : List (List Char))
    (single : ∀ piece ∈ pieces, '\n' ∉ piece) :
    lines (pieces.flatMap fun piece => piece ++ ['\n']) = pieces := by
  have nothing : lines [] = [] := rfl
  have whole := lines_flatMap_append pieces [] single
  rwa [List.append_nil, nothing, List.append_nil] at whole

/-- Completing the last line of a text does not change its lines. -/
theorem lines_completed
    (text : List Char) :
    lines (completed text) = lines text := by
  rw [← flatMap_lines text]
  exact lines_flatMap (lines text) (lineFeed_not_mem_of_mem_lines text)

theorem flatMap_characters
    (lines : List Line) :
    lines.flatMap Line.characters = (lines.map Line.raw).flatMap fun raw => raw ++ ['\n'] := by
  rw [List.flatMap_map]
  exact List.flatMap_congr fun line _ => line.characters_eq_raw

/-- Lines that are read from pieces are well formed, and give the pieces back. -/
theorem eq_raw_of_read
    {pieces : List (List Char)}
    {lines : List Line}
    (read : List.Forall₂ (fun piece line => Line.read? piece = some line) pieces lines)
    (single : ∀ piece ∈ pieces, '\n' ∉ piece) :
    pieces = lines.map Line.raw ∧ ∀ line ∈ lines, line.WellFormed := by
  induction read with
  | nil => simp
  | @cons piece line pieces lines accepted _ inductionHypothesis =>
      have pieceSingle : '\n' ∉ piece := single piece List.mem_cons_self
      obtain ⟨same, wellFormed⟩ := (Line.read?_eq_some_iff piece line pieceSingle).1 accepted
      obtain ⟨restSame, restWellFormed⟩ := inductionHypothesis fun other member =>
        single other (List.mem_cons_of_mem piece member)
      constructor
      · rw [List.map_cons, same, restSame]
      · intro other member
        rcases List.mem_cons.1 member with first | later
        · exact first ▸ wellFormed
        · exact restWellFormed other later

/-- The lines that spell a text are those that its pieces are read as. -/
theorem spells_iff
    (text : List Char)
    (lines : List Line) :
    Spells lines text ↔
      List.Forall₂ (fun piece line => Line.read? piece = some line) (Text.lines text) lines := by
  have single := lineFeed_not_mem_of_mem_lines text
  constructor
  · intro spelled
    have rawSingle : ∀ piece ∈ lines.map Line.raw, '\n' ∉ piece := by
      intro piece member
      obtain ⟨line, lineMember, rfl⟩ := List.mem_map.1 member
      exact (spelled.wellFormed line lineMember).lineFeed_not_mem_raw
    have pieces : Text.lines text = lines.map Line.raw := by
      rw [← lines_completed text, ← spelled.whole, flatMap_characters]
      exact lines_flatMap (lines.map Line.raw) rawSingle
    rw [pieces, List.forall₂_map_left_iff, List.forall₂_same]
    intro line member
    have wellFormed := spelled.wellFormed line member
    apply (Line.read?_eq_some_iff line.raw line wellFormed.lineFeed_not_mem_raw).2
    exact ⟨rfl, wellFormed⟩
  · intro read
    obtain ⟨pieces, wellFormed⟩ := eq_raw_of_read read single
    refine ⟨wellFormed, ?_⟩
    rw [flatMap_characters, ← pieces, flatMap_lines]

theorem completed_flatMap
    (lines : List Line) :
    completed (lines.flatMap Line.characters) = lines.flatMap Line.characters := by
  induction lines with
  | nil => rfl
  | cons line rest inductionHypothesis =>
      rw [List.flatMap_cons, line.characters_eq_raw, List.append_assoc, List.singleton_append,
        completed_ended, inductionHypothesis]

/-- Well-formed lines spell the text that they make. -/
theorem spells_flatMap
    {lines : List Line}
    (wellFormed : ∀ line ∈ lines, line.WellFormed) :
    Spells lines (lines.flatMap Line.characters) :=
  ⟨wellFormed, (completed_flatMap lines).symm⟩

/-- A text whose last line is ended is complete. -/
theorem completed_of_ended
    {text : List Char}
    (ended : text = [] ∨ text.getLast? = some '\n') :
    completed text = text := by
  rcases ended with rfl | last
  · rfl
  · simp [completed, last]

/-- After a text whose last line is ended, completing is up to what follows. -/
theorem completed_append
    {first : List Char}
    (second : List Char)
    (ended : first = [] ∨ first.getLast? = some '\n') :
    completed (first ++ second) = first ++ completed second := by
  rcases ended with rfl | last
  · rfl
  · obtain ⟨before, rfl⟩ := List.getLast?_eq_some_iff.1 last
    rw [List.append_assoc, List.append_assoc]
    exact completed_ended before second

/-- The lines of an ended text, and those of another, spell the one text before the other. -/
theorem Spells.append
    {first second : List Char}
    {lines others : List Line}
    (spelled : Spells lines first)
    (spelledToo : Spells others second)
    (ended : first = [] ∨ first.getLast? = some '\n') :
    Spells (lines ++ others) (first ++ second) := by
  refine ⟨?_, ?_⟩
  · intro line member
    rcases List.mem_append.1 member with early | late
    · exact spelled.wellFormed line early
    · exact spelledToo.wellFormed line late
  · rw [List.flatMap_append, spelled.whole, spelledToo.whole, completed_of_ended ended,
      completed_append second ended]

/-- A well-formed line has one line feed, its last character. -/
theorem count_flatMap_characters
    {lines : List Line}
    (wellFormed : ∀ line ∈ lines, line.WellFormed) :
    (lines.flatMap Line.characters).count '\n' = lines.length := by
  induction lines with
  | nil => rfl
  | cons line rest inductionHypothesis =>
      have single := (wellFormed line List.mem_cons_self).lineFeed_not_mem_raw
      have others := inductionHypothesis fun other member =>
        wellFormed other (List.mem_cons_of_mem line member)
      rw [List.flatMap_cons, List.count_append, others, line.characters_eq_raw, List.count_append,
        List.count_eq_zero.2 single, List.count_singleton_self, List.length_cons]
      omega

/-- No text is spelled by two lists of lines. -/
theorem Spells.unique
    {text : List Char}
    {lines others : List Line}
    (spelled : Spells lines text)
    (spelledToo : Spells others text) :
    others = lines := by
  have read := (spells_iff text lines).1 spelled
  have readToo := (spells_iff text others).1 spelledToo
  apply List.right_unique_forall₂' _ readToo read
  intro piece line other accepted acceptedToo
  exact Option.some.inj (accepted.symm.trans acceptedToo)

end Text

/-- Line ends that are taken away once are gone. -/
theorem trimLineEnd_trimLineEnd (text : String) :
    trimLineEnd (trimLineEnd text) = trimLineEnd text := by
  simp only [trimLineEnd, String.toList_ofList, Text.trimLineEnd_trimLineEnd]

end Dialog
