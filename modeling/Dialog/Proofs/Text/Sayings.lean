import Dialog.Proofs.Text.Lines

namespace Dialog

/-!
# What the lines of a text say

A piece of a text says what stands before its line end (`sayingOf`), whether or
not it can be read as a line: it can when no carriage return stands in what it
says. So what a text says (`sayings`), with neither its blank lines nor its line
ends, tells whether lines spell it (`exists_spells_iff`).

Files are read with their line ends unified. Where a carriage return stands at the
end of a line only, that takes the line ends from the pieces and leaves all that
they say, piece by piece (`map_sayingOf_lines_unified`).
-/

namespace Text

/-- What a piece of a text says, whether or not it can be read as a line. -/
def sayingOf (piece : List Char) : List Char :=
  if piece.getLast? = some '\r' then piece.dropLast else piece

/-- A carriage return at the end of a piece belongs to its line end. -/
theorem sayingOf_append_return (content : List Char) :
    sayingOf (content ++ ['\r']) = content := by
  simp [sayingOf]

/-- A piece without a carriage return is all that it says. -/
theorem sayingOf_of_not_mem
    {piece : List Char}
    (noReturn : '\r' ∉ piece) :
    sayingOf piece = piece :=
  if_neg fun last => noReturn (List.mem_of_getLast? last)

theorem mem_of_mem_sayingOf
    {piece : List Char}
    {character : Char}
    (member : character ∈ sayingOf piece) :
    character ∈ piece := by
  unfold sayingOf at member
  split at member
  · exact List.dropLast_subset piece member
  · exact member

/-- A carriage return in what a piece says has a character of the piece after it. -/
theorem exists_next_of_mem_sayingOf
    {piece : List Char}
    (member : '\r' ∈ sayingOf piece) :
    ∃ before next after, piece = before ++ '\r' :: next :: after := by
  by_cases last : piece.getLast? = some '\r'
  · obtain ⟨content, rfl⟩ := List.getLast?_eq_some_iff.1 last
    rw [sayingOf_append_return] at member
    obtain ⟨before, after, rfl⟩ := List.append_of_mem member
    cases after with
    | nil => exact ⟨before, '\r', [], by simp⟩
    | cons next rest => exact ⟨before, next, rest ++ ['\r'], by simp⟩
  · rw [sayingOf, if_neg last] at member
    obtain ⟨before, after, rfl⟩ := List.append_of_mem member
    cases after with
    | nil => simp at last
    | cons next rest => exact ⟨before, next, rest, rfl⟩

/-- A piece is read as a line that says the same, unless a carriage return stands in that. -/
theorem exists_read?_eq
    (piece : List Char) :
    ∃ terminator,
      Line.read? piece =
        if '\r' ∈ sayingOf piece then none else some ⟨sayingOf piece, terminator⟩ := by
  by_cases last : piece.getLast? = some '\r'
  · exact ⟨.carriageReturnLineFeed, by simp only [Line.read?, sayingOf, if_pos last]⟩
  · exact ⟨.lineFeed, by simp only [Line.read?, sayingOf, if_neg last]⟩

/-- A line that is read has what its piece says for its content. -/
theorem content_of_read?
    {piece : List Char}
    {line : Line}
    (accepted : Line.read? piece = some line) :
    line.content = sayingOf piece ∧ '\r' ∉ sayingOf piece := by
  obtain ⟨terminator, read⟩ := exists_read?_eq piece
  rw [read, Option.ite_none_left_eq_some] at accepted
  obtain ⟨noReturn, same⟩ := accepted
  cases same
  exact ⟨rfl, noReturn⟩

/-- A piece is refused just when a carriage return stands in what it says. -/
theorem read?_eq_none_iff
    (piece : List Char) :
    Line.read? piece = none ↔ '\r' ∈ sayingOf piece := by
  obtain ⟨terminator, read⟩ := exists_read?_eq piece
  rw [read]
  simp

/-- Two pieces that are both read, as lines that say the same, or both refused. -/
inductive ReadAlike : Option Line → Option Line → Prop where
  | refused : ReadAlike none none
  | accepted {line other : Line} :
      line.WellFormed →
      other.WellFormed →
      line.content = other.content →
      ReadAlike (some line) (some other)

/-- A line that is read from a piece without a line feed is well formed. -/
theorem wellFormed_of_read?
    {piece : List Char}
    {line : Line}
    (accepted : Line.read? piece = some line)
    (single : '\n' ∉ piece) :
    line.WellFormed := by
  obtain ⟨same, noReturn⟩ := content_of_read? accepted
  refine ⟨?_, same ▸ noReturn⟩
  rw [same]
  exact mt mem_of_mem_sayingOf single

/-- Pieces that say the same are read alike. -/
theorem readAlike_of_sayingOf
    {piece other : List Char}
    (same : sayingOf piece = sayingOf other)
    (single : '\n' ∉ piece)
    (singleToo : '\n' ∉ other) :
    ReadAlike (Line.read? piece) (Line.read? other) := by
  cases accepted : Line.read? piece with
  | none =>
      have refused : Line.read? other = none := by
        rw [read?_eq_none_iff, ← same, ← read?_eq_none_iff, accepted]
      rw [refused]
      exact .refused
  | some line =>
      obtain ⟨told, noReturn⟩ := content_of_read? accepted
      cases acceptedToo : Line.read? other with
      | none => exact absurd ((read?_eq_none_iff other).1 acceptedToo) (same ▸ noReturn)
      | some otherLine =>
          have toldToo := (content_of_read? acceptedToo).1
          have sameContent : line.content = otherLine.content := by rw [told, toldToo, same]
          exact .accepted (wellFormed_of_read? accepted single)
            (wellFormed_of_read? acceptedToo singleToo) sameContent

/-- What is already done stands before all that is still to do. -/
theorem unifiedOnto_append
    (done before text : List Char) :
    unifiedOnto (done ++ before) text = before.reverse ++ unifiedOnto done text := by
  fun_induction unifiedOnto done text with
  | case1 done => rw [unifiedOnto, List.reverse_append]
  | case2 done rest inductionHypothesis => rw [unifiedOnto, ← inductionHypothesis, List.cons_append]
  | case3 done rest other inductionHypothesis =>
      rw [unifiedOnto, ← inductionHypothesis, List.cons_append]
      exact other
  | case4 done character rest other noReturn inductionHypothesis =>
      rw [unifiedOnto, ← inductionHypothesis, List.cons_append]
      · exact other
      · exact noReturn

/-- Characters without a carriage return are kept as they are. -/
theorem unified_append
    {plain : List Char}
    (rest : List Char)
    (noReturn : '\r' ∉ plain) :
    unified (plain ++ rest) = plain ++ unified rest := by
  induction plain with
  | nil => rfl
  | cons character more inductionHypothesis =>
      have here : character ≠ '\r' := fun same => noReturn (same ▸ List.mem_cons_self)
      have later := inductionHypothesis fun member =>
        noReturn (List.mem_cons_of_mem character member)
      have taken :
          unified (character :: (more ++ rest)) = unifiedOnto [character] (more ++ rest) := by
        rw [unified, unifiedOnto]
        · exact fun _ same => absurd same here
        · exact here
      rw [List.cons_append, taken, ← List.nil_append [character], unifiedOnto_append]
      exact congrArg (character :: ·) later

theorem unified_lineFeed
    (rest : List Char) :
    unified ('\n' :: rest) = '\n' :: unified rest := by
  have noReturn : '\r' ∉ ['\n'] := by decide
  exact unified_append rest noReturn

/-- A carriage return and a line feed after it become one line feed. -/
theorem unified_return_lineFeed
    (rest : List Char) :
    unified ('\r' :: '\n' :: rest) = '\n' :: unified rest := by
  have taken : unified ('\r' :: '\n' :: rest) = unifiedOnto ([] ++ ['\n']) rest := by
    rw [unified, unifiedOnto]
    rfl
  rw [taken, unifiedOnto_append]
  rfl

section

variable
  {piece : List Char}
  (noReturn : '\r' ∉ sayingOf piece)

include noReturn

/-- A line of a text is brought to what it says and a line feed. -/
theorem unified_ended
    (rest : List Char) :
    unified (piece ++ '\n' :: rest) = sayingOf piece ++ '\n' :: unified rest := by
  by_cases last : piece.getLast? = some '\r'
  · obtain ⟨content, rfl⟩ := List.getLast?_eq_some_iff.1 last
    rw [sayingOf_append_return] at noReturn ⊢
    rw [List.append_assoc, unified_append _ noReturn]
    exact congrArg (content ++ ·) (unified_return_lineFeed rest)
  · rw [sayingOf, if_neg last] at noReturn ⊢
    rw [unified_append _ noReturn, unified_lineFeed]

/-- A text of a single line without its end says what it said. -/
theorem lines_unified_unended
    (nonempty : piece ≠ [])
    (single : '\n' ∉ piece) :
    lines (unified piece) = [sayingOf piece] := by
  by_cases last : piece.getLast? = some '\r'
  · obtain ⟨content, rfl⟩ := List.getLast?_eq_some_iff.1 last
    have contentSingle : '\n' ∉ content := mt (List.mem_append_left ['\r']) single
    rw [sayingOf_append_return] at noReturn ⊢
    rw [unified_append _ noReturn]
    exact lines_line content [] contentSingle
  · rw [sayingOf, if_neg last] at noReturn ⊢
    rw [← List.append_nil piece, unified_append _ noReturn, unified, unifiedOnto,
      List.reverse_nil, List.append_nil]
    exact lines_unended piece nonempty single

end

/-- Unifying its line ends takes a text of readable lines to the text of what they say. -/
theorem lines_unified
    {text : List Char}
    (noReturn : ∀ piece ∈ lines text, '\r' ∉ sayingOf piece) :
    lines (unified text) = (lines text).map sayingOf := by
  induction text using lineInduction with
  | nothing => rfl
  | unended line nonempty single =>
      rw [lines_unended line nonempty single] at noReturn ⊢
      exact lines_unified_unended (noReturn line List.mem_cons_self) nonempty single
  | ended line rest single inductionHypothesis =>
      rw [lines_line line rest single] at noReturn ⊢
      have sayingSingle : '\n' ∉ sayingOf line := mt mem_of_mem_sayingOf single
      have later := inductionHypothesis fun piece member =>
        noReturn piece (List.mem_cons_of_mem line member)
      rw [unified_ended (noReturn line List.mem_cons_self), lines_line _ _ sayingSingle, later,
        List.map_cons]

/-- Each carriage return of the text stands right before a line feed, or ends the text. -/
def ReturnsAtLineEnds (text : List Char) : Prop :=
  ∀ place < text.length, text[place]? = some '\r' →
    text[place + 1]? = none ∨ text[place + 1]? = some '\n'

instance (text : List Char) : Decidable (ReturnsAtLineEnds text) :=
  inferInstanceAs (Decidable (∀ place < text.length, _ → _))

theorem eq_lineFeed_of_returnsAtLineEnds
    {before after : List Char}
    {next : Char}
    (atLineEnds : ReturnsAtLineEnds (before ++ '\r' :: next :: after)) :
    next = '\n' := by
  have here : (before ++ '\r' :: next :: after)[before.length]? = some '\r' := by simp
  have there : (before ++ '\r' :: next :: after)[before.length + 1]? = some next := by
    rw [List.getElem?_append_right (Nat.le_add_right _ 1), Nat.add_sub_cancel_left]
    rfl
  have follows := atLineEnds before.length (by simp) here
  rw [there] at follows
  simpa using follows

theorem exists_of_mem_lines
    {text piece : List Char}
    (member : piece ∈ lines text) :
    ∃ before after, text = before ++ (piece ++ after) := by
  induction text using lineInduction with
  | nothing => simp [lines] at member
  | unended line nonempty single =>
      rw [lines_unended line nonempty single, List.mem_singleton] at member
      exact ⟨[], [], by simp [member]⟩
  | ended line rest single inductionHypothesis =>
      rw [lines_line line rest single] at member
      rcases List.mem_cons.1 member with rfl | later
      · exact ⟨[], '\n' :: rest, rfl⟩
      · obtain ⟨before, after, rfl⟩ := inductionHypothesis later
        exact ⟨line ++ '\n' :: before, after, by simp⟩

/-- No line says a carriage return when all stand at line ends. -/
theorem not_mem_sayingOf_of_mem_lines
    {text : List Char}
    (atLineEnds : ReturnsAtLineEnds text) :
    ∀ piece ∈ lines text, '\r' ∉ sayingOf piece := by
  intro piece pieceMember member
  have single := lineFeed_not_mem_of_mem_lines text piece pieceMember
  obtain ⟨around, behind, rfl⟩ := exists_of_mem_lines pieceMember
  obtain ⟨before, next, after, rfl⟩ := exists_next_of_mem_sayingOf member
  have shape : around ++ ((before ++ '\r' :: next :: after) ++ behind) =
      (around ++ before) ++ '\r' :: next :: (after ++ behind) := by simp
  have isLineFeed : next = '\n' := eq_lineFeed_of_returnsAtLineEnds (shape ▸ atLineEnds)
  exact single (isLineFeed ▸ by simp)

/-- Line ends that are unified leave what the lines of a text say, line by line. -/
theorem map_sayingOf_lines_unified
    {text : List Char}
    (atLineEnds : ReturnsAtLineEnds text) :
    (lines (unified text)).map sayingOf = (lines text).map sayingOf := by
  have noReturn := not_mem_sayingOf_of_mem_lines atLineEnds
  rw [lines_unified noReturn, List.map_map]
  exact List.map_congr_left fun piece member => sayingOf_of_not_mem (noReturn piece member)

/-- What the lines of a text say, those left out that say nothing. -/
def sayings (text : List Char) : List (List Char) :=
  ((lines text).map sayingOf).filter fun saying => !saying.isEmpty

/-- Blank lines do not bear on whether a line says a carriage return. -/
theorem noReturn_iff_sayings
    (text : List Char) :
    (∀ piece ∈ lines text, '\r' ∉ sayingOf piece) ↔ ∀ saying ∈ sayings text, '\r' ∉ saying := by
  constructor
  · intro noReturn saying member
    obtain ⟨piece, pieceMember, rfl⟩ := List.mem_map.1 (List.mem_of_mem_filter member)
    exact noReturn piece pieceMember
  · intro noReturn piece pieceMember member
    have said : sayingOf piece ∈ sayings text := by
      refine List.mem_filter.2 ⟨List.mem_map_of_mem pieceMember, ?_⟩
      cases shape : sayingOf piece with
      | nil => simp [shape] at member
      | cons => rfl
    exact noReturn (sayingOf piece) said member

/-- The lines that spell a text say, piece by piece, what the text says. -/
theorem Spells.map_content
    {text : List Char}
    {spelling : List Line}
    (spelled : Spells spelling text) :
    spelling.map Line.content = (lines text).map sayingOf := by
  have read := (spells_iff text spelling).1 spelled
  rw [← List.forall₂_eq_eq_eq, List.forall₂_map_left_iff, List.forall₂_map_right_iff]
  exact read.flip.imp fun line piece accepted => (content_of_read? accepted).1

/-- A text is spelled by lines just when no carriage return stands in what it says. -/
theorem exists_spells_iff
    (text : List Char) :
    (∃ spelling, Spells spelling text) ↔ ∀ saying ∈ sayings text, '\r' ∉ saying := by
  rw [← noReturn_iff_sayings]
  constructor
  · rintro ⟨spelling, spelled⟩ piece member
    have said : sayingOf piece ∈ spelling.map Line.content := by
      rw [spelled.map_content]
      exact List.mem_map_of_mem member
    obtain ⟨line, lineMember, same⟩ := List.mem_map.1 said
    exact same ▸ (spelled.wellFormed line lineMember).noReturn
  · intro noReturn
    choose terminator read using exists_read?_eq
    refine ⟨(lines text).map fun piece => ⟨sayingOf piece, terminator piece⟩, ?_⟩
    rw [spells_iff, List.forall₂_map_right_iff, List.forall₂_same]
    intro piece member
    rw [read piece, if_neg (noReturn piece member)]

end Text
end Dialog
