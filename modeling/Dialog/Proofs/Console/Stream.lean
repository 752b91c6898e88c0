import Dialog.Console
import Dialog.Proofs.Session.LineEnds
import Dialog.Proofs.Text.Lines

namespace Dialog

/-!
# What is read at a console

A console hands out its text line by line. Each read takes the characters up to
the next line feed, and with it, and a read that takes nothing tells that the
console is closed. `linesOf` lists what the reads before that one take. The last
line may lack its line feed, and a session has its answers without any; but line
ends are not looked at, so the answers held for a console are as good as the lines
that its reads take.
-/

namespace Console

/-- What one read takes of a stream of characters, and what it leaves. -/
def readLine (stream : List Char) : List Char × List Char :=
  let line := stream.takeWhile (· ≠ '\n')
  let rest := stream.dropWhile (· ≠ '\n')
  (line ++ rest.take 1, rest.drop 1)

/-- Nothing is lost by a read. -/
theorem readLine_append (stream : List Char) :
    (readLine stream).1 ++ (readLine stream).2 = stream := by
  simp only [readLine, List.append_assoc, List.take_append_drop, List.takeWhile_append_dropWhile]

/-- A read that takes something leaves less. -/
theorem length_readLine_lt
    {stream : List Char}
    (taken : (readLine stream).1 ≠ []) :
    (readLine stream).2.length < stream.length := by
  have whole := congrArg List.length (readLine_append stream)
  have something := List.length_pos_iff.mpr taken
  rw [List.length_append] at whole
  omega

/-- The lines that reads take of a stream, up to the first read that takes nothing. -/
def linesOf (stream : List Char) : List String :=
  if _ : (readLine stream).1 = [] then []
  else String.ofList (readLine stream).1 :: linesOf (readLine stream).2
termination_by stream.length
decreasing_by exact length_readLine_lt ‹_›

theorem before_lineFeed
    {line : List Char}
    (single : '\n' ∉ line) :
    ∀ character ∈ line, decide (character ≠ '\n') = true := by
  intro character member
  exact decide_eq_true fun same => single (same ▸ member)

/-- A line without a line feed is taken whole. -/
theorem readLine_unended
    {line : List Char}
    (single : '\n' ∉ line) :
    readLine line = (line, []) := by
  have taken : line.takeWhile (· ≠ '\n') = line :=
    List.takeWhile_eq_self_iff.mpr (before_lineFeed single)
  have left : line.dropWhile (· ≠ '\n') = [] :=
    List.dropWhile_eq_nil_iff.mpr (before_lineFeed single)
  simp only [readLine, taken, left, List.take_nil, List.drop_nil, List.append_nil]

/-- A read takes a line up to its line feed and leaves the rest. -/
theorem readLine_ended
    {line : List Char}
    (rest : List Char)
    (single : '\n' ∉ line) :
    readLine (line ++ '\n' :: rest) = (line ++ ['\n'], rest) := by
  have taken : (line ++ '\n' :: rest).takeWhile (· ≠ '\n') = line :=
    (List.takeWhile_append_of_pos (before_lineFeed single)).trans (List.append_nil line)
  have left : (line ++ '\n' :: rest).dropWhile (· ≠ '\n') = '\n' :: rest :=
    List.dropWhile_append_of_pos (before_lineFeed single)
  simp only [readLine, taken, left]
  rfl

/-- But for their line ends, the lines that reads take of a text are the lines of the text. -/
theorem trimmed_linesOf (stream : List Char) :
    (linesOf stream).map trimLineEnd =
      ((Text.lines stream).map String.ofList).map trimLineEnd := by
  induction stream using Text.lineInduction with
  | nothing =>
      rw [linesOf]
      rfl
  | unended line nonempty single =>
      rw [linesOf, readLine_unended single, dif_neg nonempty,
        Text.lines_unended line nonempty single]
      rw [linesOf]
      rfl
  | ended line rest single inductionHypothesis =>
      have nonempty : line ++ ['\n'] ≠ [] := by simp
      have sameLine :
          trimLineEnd (String.ofList (line ++ ['\n'])) = trimLineEnd (String.ofList line) := by
        simp only [trimLineEnd, String.toList_ofList, Text.trimLineEnd_append_lineFeed]
      rw [linesOf, readLine_ended rest single, dif_neg nonempty, Text.lines_line line rest single]
      rw [List.map_cons, List.map_cons, List.map_cons, sameLine, inductionHypothesis]

/-- The answers held for a text that is typed are the lines that reads take of it, trimmed. -/
theorem trimmed_answersOf (typed : String) :
    (answersOf typed none).trimmed =
      (Answers.ofList (linesOf (unifyLineEnds typed).toList)).trimmed := by
  simp only [Answers.trimmed, Answers.ofList, answersOf, unifyLineEnds, String.toList_ofList,
    trimmed_linesOf]

end Console

end Dialog
