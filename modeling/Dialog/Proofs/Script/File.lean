import Dialog.Proofs.Record.Replacement
import Dialog.Proofs.Script.Nodes
import Dialog.Proofs.Text.Sayings
import Dialog.Text.File

namespace Dialog

/-!
# Scripts from files

Two texts whose lines say the same, line by line, are read in step. What was read of
the one differs from what was read of the other in the line ends of the tokens only:
once every token has a line feed for its end, they are the same
(`read_eq_of_plain`). No node looks at the line end of a token, so the two texts
describe the same script or have the same fault (`read_eq_of_sayings`).

A file has its line ends unified before its text is looked at, which leaves what its
lines say. So a script is the same whether its text is given or stands in a file.
-/

/-- A line that ends in a line feed alone. -/
def Line.plain (line : Line) : Line :=
  { line with terminator := .lineFeed }

namespace Token

/-- A token as it is when its line ends in a line feed alone. -/
def plain (token : Token) : Token :=
  { token with text := String.ofList (token.content ++ ['\n']) }

/-- The end of a line is no part of its content. -/
theorem content_plain (token : Token) :
    token.plain.content = token.content := by
  simp only [content, plain, String.toList_ofList, Text.trimLineEnd_append_lineFeed,
    Text.trimLineEnd_trimLineEnd]

/-- What a draft takes from a line has no part of the end of the line. -/
theorem draftContent_plain (token : Token) :
    token.plain.draftLine.content = token.draftLine.content :=
  content_of_said (by rw [content_plain, toList_content])

/-- A line is read as a whole number whatever its end. -/
theorem integer_plain (token : Token) :
    token.plain.draftLine.integer = token.draftLine.integer := by
  simp only [Draft.Line.integer, draftContent_plain]

/-- A line is read as a choice whatever its end. -/
theorem choice_plain (token : Token) :
    token.plain.draftLine.choice = token.draftLine.choice := by
  simp only [Draft.Line.choice, draftContent_plain]

/-- A line stands where it does whatever its end. -/
theorem place_plain (token : Token) :
    token.plain.draftLine.place = token.draftLine.place :=
  rfl

end Token

namespace Record

/-- A record as it is when its lines end in a line feed alone. -/
def plain : Record → Record :=
  mapTokens Token.plain

/-- No node looks at the ends of the lines of its record. -/
theorem node_plain (record : Record) :
    record.plain.node = record.node := by
  cases record with
  | question tag success fail name prompts =>
      have drafted :
          Draft.question tag.plain.draftLine success.plain.draftLine fail.plain.draftLine
              name.plain.draftLine ((prompts.map Token.plain).map Token.draftLine) =
            Draft.question tag.draftLine success.draftLine fail.draftLine
              name.draftLine (prompts.map Token.draftLine) := by
        simp only [Draft.question, Token.integer_plain, Token.draftContent_plain,
          Token.place_plain, List.map_map, Function.comp_def]
      exact drafted
  | branching tag name asked options =>
      have drafted :
          Draft.branching tag.plain.draftLine name.plain.draftLine asked.plain.draftLine
              ((options.map Token.plain).map Token.draftLine) =
            Draft.branching tag.draftLine name.draftLine asked.draftLine
              (options.map Token.draftLine) := by
        simp only [Draft.branching, Token.choice_plain, Token.draftContent_plain,
          Token.place_plain, List.mapM_map, Function.comp_def]
      exact drafted
  | terminating tag message =>
      have drafted :
          Draft.terminating tag.plain.draftLine message.plain.draftLine =
            Draft.terminating tag.draftLine message.draftLine := by
        simp only [Draft.terminating, Token.draftContent_plain, Token.place_plain]
      exact drafted

/-- A line feed in the place of a line's end makes the same change to the tokens of the line. -/
theorem replaces_plain
    {line : Line}
    (number : Nat)
    (wellFormed : line.WellFormed) :
    Replaces Token.plain (line, number) (line.plain, number) where
  content := rfl
  token := by
    intro part
    have same : (tokenOf part (line, number)).content = line.content :=
      content_tokenOf part wellFormed
    rw [Token.plain, same]
    rfl

/-- The outcome of reading, with a line feed for the end of every line. -/
def plainOutcome (outcome : Except Fault (List Record)) : Except Fault (List Record) :=
  outcome.map (List.map plain)

namespace Progress

/-- A record that is being read, with a line feed for the end of every line. -/
def plain : Progress → Progress :=
  mapTokens Token.plain

section InStep

variable
  {progress otherProgress : Progress}
  (begun : progress.plain = otherProgress.plain)

include begun

/-- What may come next does not depend on line ends. -/
theorem expected_eq_of_plain :
    progress.expected = otherProgress.expected := by
  have same := congrArg expected begun
  simpa only [plain, expected_mapTokens] using same

/-- Records that may end here do so whatever their line ends. -/
theorem finish_eq_of_plain :
    progress.finish.map (List.map Record.plain) =
      otherProgress.finish.map (List.map Record.plain) := by
  have same := congrArg finish begun
  simp only [plain, finish_mapTokens] at same
  exact same

/-- Lines that say the same are taken alike by beginnings that are the same but for line ends. -/
theorem advance_eq_of_plain
    {line other : Line}
    (number : Nat)
    (wellFormed : line.WellFormed)
    (wellFormedToo : other.WellFormed)
    (same : line.content = other.content) :
    (progress.advance number line).map (mapOutcome Token.plain) =
      (otherProgress.advance number other).map (mapOutcome Token.plain) := by
  have samePlain : line.plain = other.plain := by
    rw [Line.plain, same]
    rfl
  calc
    (progress.advance number line).map (mapOutcome Token.plain) =
        progress.plain.advance number line.plain :=
      (advance_mapTokens progress (replaces_plain number wellFormed)).symm
    _ = otherProgress.plain.advance number other.plain := by
      rw [begun, samePlain]
    _ = (otherProgress.advance number other).map (mapOutcome Token.plain) :=
      advance_mapTokens otherProgress (replaces_plain number wellFormedToo)

/-- Two outcomes of taking a line that are the same but for line ends. -/
inductive TakenAlike :
    Option (List Record × Progress) → Option (List Record × Progress) → Prop where
  | refused : TakenAlike none none
  | accepted {finished otherFinished : List Record} {next otherNext : Progress} :
      finished.map Record.plain = otherFinished.map Record.plain →
      next.plain = otherNext.plain →
      TakenAlike (some (finished, next)) (some (otherFinished, otherNext))

/-- Lines that say the same are both taken or both refused. -/
theorem takenAlike
    {line other : Line}
    (number : Nat)
    (wellFormed : line.WellFormed)
    (wellFormedToo : other.WellFormed)
    (same : line.content = other.content) :
    TakenAlike (progress.advance number line) (otherProgress.advance number other) := by
  have sameOutcome := advance_eq_of_plain begun number wellFormed wellFormedToo same
  generalize progress.advance number line = outcome,
    otherProgress.advance number other = otherOutcome at sameOutcome ⊢
  match outcome, otherOutcome with
  | none, none => exact .refused
  | some (_, _), some (_, _) =>
      obtain ⟨sameFinished, sameNext⟩ := Prod.mk.inj (Option.some.inj sameOutcome)
      exact .accepted sameFinished sameNext
  | none, some _ => cases sameOutcome
  | some _, none => cases sameOutcome

end InStep

/-- Pieces that say the same, one by one, are read in step, to the end or to the same fault. -/
theorem read_eq_of_plain
    {last number : Nat}
    {done otherDone : List Record}
    {progress otherProgress : Progress}
    {pieces others : List (List Char)}
    (same : pieces.map Text.sayingOf = others.map Text.sayingOf)
    (single : ∀ piece ∈ pieces, '\n' ∉ piece)
    (singleToo : ∀ piece ∈ others, '\n' ∉ piece)
    (sameDone : done.map Record.plain = otherDone.map Record.plain)
    (begun : progress.plain = otherProgress.plain) :
    plainOutcome (read last number done progress pieces) =
      plainOutcome (read last number otherDone otherProgress others) := by
  have sameExpected := expected_eq_of_plain begun
  induction pieces generalizing last number done otherDone progress otherProgress others with
  | nil =>
      cases List.map_eq_nil_iff.1 same.symm
      have sameFinish := finish_eq_of_plain begun
      simp only [read]
      generalize progress.finish = finish, otherProgress.finish = otherFinish at sameFinish ⊢
      cases finish with
      | none =>
          cases otherFinish with
          | none => simp only [sameExpected]
          | some => cases sameFinish
      | some records =>
          cases otherFinish with
          | none => cases sameFinish
          | some otherRecords =>
              have sameRecords : records.map Record.plain = otherRecords.map Record.plain :=
                Option.some.inj sameFinish
              simp only [plainOutcome, Except.map, List.map_append, List.map_reverse, sameDone,
                sameRecords]
  | cons piece rest inductionHypothesis =>
      obtain ⟨other, otherRest, rfl, sameSaying, sameRest⟩ := List.map_eq_cons_iff.1 same.symm
      have restSingle := fun piece member => single piece (List.mem_cons_of_mem _ member)
      have restSingleToo := fun piece member => singleToo piece (List.mem_cons_of_mem _ member)
      have alike := Text.readAlike_of_sayingOf sameSaying.symm (single piece List.mem_cons_self)
        (singleToo other List.mem_cons_self)
      simp only [read]
      generalize Line.read? piece = read, Line.read? other = otherRead at alike ⊢
      cases alike with
      | refused => simp only [sameExpected]
      | @accepted line otherLine wellFormed wellFormedToo sameContent =>
          have sameBlank : otherLine.isBlank = line.isBlank := by
            rw [Line.isBlank, Line.isBlank, sameContent]
          simp only [sameBlank]
          by_cases blank : line.isBlank = true
          · simp only [if_pos blank]
            exact inductionHypothesis sameRest.symm restSingle restSingleToo sameDone begun
              sameExpected
          · have alike := takenAlike begun number wellFormed wellFormedToo sameContent
            simp only [if_neg blank]
            generalize progress.advance number line = outcome,
              otherProgress.advance number otherLine = otherOutcome at alike ⊢
            cases alike with
            | refused => simp only [sameExpected]
            | accepted sameFinished sameNext =>
                apply inductionHypothesis sameRest.symm restSingle restSingleToo _ sameNext
                  (expected_eq_of_plain sameNext)
                rw [List.map_append, List.map_append, List.map_reverse, List.map_reverse, sameDone,
                  sameFinished]

end Progress

/-- Texts whose lines say the same tell the same records, but for line ends. -/
theorem readAll_eq_of_sayings
    {text other : String}
    (same :
      (Text.lines text.toList).map Text.sayingOf = (Text.lines other.toList).map Text.sayingOf) :
    plainOutcome (readAll text) = plainOutcome (readAll other) :=
  Progress.read_eq_of_plain same (Text.lineFeed_not_mem_of_mem_lines _)
    (Text.lineFeed_not_mem_of_mem_lines _) rfl rfl

end Record

namespace Script

/-- Records make the same script whatever their line ends. -/
theorem ofRecords_plain (records : List Record) :
    ofRecords (records.map Record.plain) = ofRecords records := by
  have sameNodes : ∀ records : List Record,
      (records.map Record.draft).mapM Draft.node = records.mapM Record.node := by
    intro records
    rw [List.mapM_map]
    rfl
  rw [ofRecords, ofRecords, ofDrafts, ofDrafts, sameNodes, sameNodes, List.mapM_map]
  have same : Record.node ∘ Record.plain = Record.node := funext Record.node_plain
  rw [same]

/-- A text describes the script of its records with plain line ends. -/
theorem read_eq_ofRecords_plain (text : String) :
    read text = (Record.plainOutcome (Record.readAll text)).mapError .grammar >>= ofRecords := by
  unfold read Record.plainOutcome
  cases Record.readAll text with
  | error fault => rfl
  | ok records => exact (ofRecords_plain records).symm

/-- Texts whose lines say the same, one by one, describe the same script or have the same fault. -/
theorem read_eq_of_sayings
    {text other : String}
    (same :
      (Text.lines text.toList).map Text.sayingOf = (Text.lines other.toList).map Text.sayingOf) :
    read text = read other := by
  rw [read_eq_ofRecords_plain, Record.readAll_eq_of_sayings same, ← read_eq_ofRecords_plain]

end Script

/-- The bytes of a text hold the text, with its line ends unified. -/
theorem readTextFile_toUTF8 (text : String) :
    readTextFile text.toUTF8 = .ok (unifyLineEnds text) := by
  have valid : text.toUTF8.IsValidUTF8 := text.isValidUTF8
  have decoded : String.fromUTF8? text.toUTF8 = some text := by
    rw [String.fromUTF8?, dif_pos valid]
    rfl
  rw [readTextFile, Utf8.read, decoded]
  rfl

namespace Script

/--
A file that holds a text comes to what the text itself comes to, the script with the lines that
its nodes stand at or the fault with all that it tells, when the carriage returns of the text
stand at the ends of its lines.
-/
theorem load_file
    (text : String)
    (atLineEnds : Text.ReturnsAtLineEnds text.toList) :
    (readTextFile text.toUTF8).map load = .ok (load text) := by
  have same : (Text.lines (unifyLineEnds text).toList).map Text.sayingOf =
      (Text.lines text.toList).map Text.sayingOf := by
    rw [unifyLineEnds, String.toList_ofList]
    exact Text.map_sayingOf_lines_unified atLineEnds
  rw [readTextFile_toUTF8, Except.map, load, load, read_eq_of_sayings same]

/-- A text with every kind of line end, the last of them a carriage return alone. -/
def everyLineEnd : String :=
  "\r\n3\r\n\nfirst\n\r\n3\nsecond\r"

/-- A text with a number missing, after a blank line and before the end. -/
def missingNumber : String :=
  "1\r\n\r\none\r"

/-- A script and a fault are the same from a file with mixed line ends. -/
theorem load_file_everyLineEnd :
    Text.ReturnsAtLineEnds everyLineEnd.toList ∧ Text.ReturnsAtLineEnds missingNumber.toList ∧
      (load everyLineEnd).map Script.nodes =
        .ok #[⟨.terminating "first", some 2⟩, ⟨.terminating "second", some 6⟩] ∧
      (readTextFile everyLineEnd.toUTF8).map load = .ok (load everyLineEnd) ∧
      load missingNumber = .error (.grammar ⟨3, [.integer]⟩) ∧
      (readTextFile missingNumber.toUTF8).map load = .ok (load missingNumber) := by
  have atLineEnds : Text.ReturnsAtLineEnds everyLineEnd.toList := by decide +kernel
  have atLineEndsToo : Text.ReturnsAtLineEnds missingNumber.toList := by decide +kernel
  refine ⟨atLineEnds, atLineEndsToo, ?_, load_file everyLineEnd atLineEnds, ?_,
    load_file missingNumber atLineEndsToo⟩
  · decide +kernel
  · decide +kernel

end Script
end Dialog
