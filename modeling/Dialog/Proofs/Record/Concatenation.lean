import Dialog.Proofs.Record.Decomposition
import Dialog.Proofs.Record.Replacement

namespace Dialog

/-!
# Texts one after the other

A record may go on for as long as lines come that can play its last part, and it is
the line after it that ends it. A text that is read begins with a tag, if it says
anything, so put behind another one it ends the last record of the first where the
end of the first text did (`run_append`). Its own lines are then read as they were,
with higher numbers.
-/

/-- A token as many lines further down. -/
def Token.lower (count : Nat) (token : Token) : Token :=
  { token with line := token.line + count }

namespace Record

/-- A record as many lines further down. -/
def lower (count : Nat) (record : Record) : Record :=
  record.mapTokens (Token.lower count)

/-- Lines further down are numbered from a later number on. -/
theorem numbered_append
    (first : Nat)
    (lines others : List Line) :
    numbered first (lines ++ others) =
      numbered first lines ++ numbered (first + lines.length) others := by
  rw [numbered, List.zipIdx_append, List.filter_append]
  rfl

theorem replaces_lower
    (first count : Nat)
    (lines : List Line) :
    List.Forall₂ (Replaces (Token.lower count)) (numbered first lines)
      (numbered (first + count) lines) := by
  induction lines generalizing first with
  | nil => exact .nil
  | cons line rest inductionHypothesis =>
      have later := inductionHypothesis (first + 1)
      rw [Nat.add_right_comm] at later
      rw [numbered_cons, numbered_cons]
      by_cases blank : line.isBlank = true
      · rw [if_pos blank, if_pos blank]
        exact later
      · rw [if_neg blank, if_neg blank]
        exact .cons ⟨rfl, fun _ => rfl⟩ later

namespace Progress

/-- The first line of records is a tag. -/
theorem stops_of_run
    {lines : List (Line × Nat)}
    {records : List Record}
    (ran : run .between lines = some records) :
    Stops lines := by
  intro line first
  obtain ⟨rest, rfl⟩ := List.head?_eq_some_iff.1 first
  obtain ⟨finished, next, _, advanced, _, _⟩ := (run_cons_eq_some_iff ..).1 ran
  cases tagged : Tag.read? line.1.content with
  | none =>
      simp only [advance, tagged] at advanced
      cases advanced
  | some kind => exact ⟨kind, (Tag.read?_eq_some_iff _ kind).1 tagged⟩

/-- A run that completes its records does so with a tag behind it as without. -/
theorem run_append
    {progress : Progress}
    {lines others : List (Line × Nat)}
    {records : List Record}
    (ran : progress.run lines = some records)
    (stops : Stops others) :
    progress.run (lines ++ others) = (run .between others).map (records ++ ·) := by
  induction lines generalizing progress records with
  | nil => exact run_of_stops ran stops
  | cons line rest inductionHypothesis =>
      obtain ⟨finished, next, more, advanced, ranRest, rfl⟩ :=
        (run_cons_eq_some_iff progress line.1 line.2 rest records).1 ran
      rw [List.cons_append, run_cons (rest ++ others) advanced, inductionHypothesis ranRest,
        Option.map_map]
      congr 1
      funext later
      exact (List.append_assoc finished more later).symm

end Progress

/--
Two texts that are read, the first of them empty or with its last line ended, are read one after
the other: into the records of the first, and then those of the second, as many lines further
down as the first text has.
-/
theorem readAll_append
    {first second : String}
    {records others : List Record}
    (accepted : readAll first = .ok records)
    (acceptedToo : readAll second = .ok others)
    (ended : first = "" ∨ first.toList.getLast? = some '\n') :
    readAll (first ++ second) =
      .ok (records ++ others.map (lower (first.toList.count '\n'))) := by
  obtain ⟨lines, spelled, ran⟩ := (readAll_eq_ok_iff first records).1 accepted
  obtain ⟨otherLines, spelledToo, ranToo⟩ := (readAll_eq_ok_iff second others).1 acceptedToo
  have whole : first.toList = [] ∨ first.toList.getLast? = some '\n' :=
    ended.imp_left (congrArg String.toList)
  have count : first.toList.count '\n' = lines.length := by
    rw [← Text.completed_of_ended whole, ← spelled.whole]
    exact Text.count_flatMap_characters spelled.wellFormed
  have replaced := replaces_lower 1 lines.length otherLines
  have lowered : Progress.run .between (numbered (1 + lines.length) otherLines) =
      some (others.map (lower lines.length)) := by
    have ranLower := Progress.run_mapTokens .between replaced
    rwa [ranToo] at ranLower
  rw [readAll_eq_ok_iff, count]
  refine ⟨lines ++ otherLines, ?_, ?_⟩
  · rw [String.toList_append]
    exact spelled.append spelledToo whole
  · rw [numbered_append, Progress.run_append ran (Progress.stops_of_run lowered), lowered]
    rfl

/-- A question whose prompts end with the text, before a blank line. -/
def openQuestion : String :=
  "\r\n1\n0\n9999\nname\nWho?\r\n42\n\n"

/-- The records of `openQuestion`. -/
def openQuestionRecords : List Record :=
  [.question ⟨.tag .question, "1\n", 2⟩ ⟨.integer, "0\n", 3⟩ ⟨.integer, "9999\n", 4⟩
    ⟨.text, "name\n", 5⟩ [⟨.text, "Who?\r\n", 6⟩, ⟨.text, "42\n", 7⟩]]

/-- A text whose tag, were it any other line, would be one more prompt of `openQuestion`. -/
def farewell : String :=
  "\n3\nbye"

/-- The records of `farewell`. -/
def farewellRecords : List Record :=
  [.terminating ⟨.tag .terminating, "3\n", 2⟩ ⟨.text, "bye\n", 3⟩]

theorem readAll_append_farewell :
    readAll openQuestion = .ok openQuestionRecords ∧ readAll farewell = .ok farewellRecords ∧
      openQuestion.toList.getLast? = some '\n' ∧
        readAll (openQuestion ++ farewell) =
          .ok (openQuestionRecords ++
            farewellRecords.map (lower (openQuestion.toList.count '\n'))) := by
  have accepted : readAll openQuestion = .ok openQuestionRecords := by decide +kernel
  have acceptedToo : readAll farewell = .ok farewellRecords := by decide +kernel
  have ended : openQuestion.toList.getLast? = some '\n' := by decide +kernel
  exact ⟨accepted, acceptedToo, ended, readAll_append accepted acceptedToo (Or.inr ended)⟩

end Record
end Dialog
