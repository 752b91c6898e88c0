import Dialog.Proofs.Session.Balance
import Dialog.Proofs.Session.Safety

namespace Dialog

/-!
# Asking again

A question shows its prompts in turn, one at each line that is read, for as long as
the lines are blank. The first line that is not blank is bound, and the session goes
on to the success; a blank line at the last prompt sends it on to the failure. One
step at a question tells what a single line does (`GoesOn.question`), and the blank
lines before it only use up prompts (`exists_waits_of_blanks`).
-/

/-- Whether nothing stands in a line but the characters of a line's end. -/
def IsBlankLine (line : String) : Prop :=
  ∀ character ∈ line.toList, character = '\r' ∨ character = '\n'

theorem trimLineEnd_eq_empty_iff
    {line : String} :
    trimLineEnd line = "" ↔ IsBlankLine line := by
  rw [trimLineEnd, String.ofList_eq_empty_iff, Text.trimLineEnd, List.reverse_eq_nil_iff,
    List.dropWhile_eq_nil_iff]
  simp [IsBlankLine, Text.isLineEnd]

/-- No answer to a question is reported. -/
theorem Node.Body.report_answerQuestion
    (success fail : Nat)
    (name : String)
    (prompts : List String)
    (attempt : Nat)
    (answer : String) :
    (answerQuestion success fail name prompts attempt answer).report? = none := by
  unfold answerQuestion
  split
  · split <;> rfl
  · rfl

/-- The prompts that a question shows for its templates. -/
def Prompt.asking (bindings : Bindings) (templates : List String) : List Prompt :=
  templates.map fun template => ⟨.question, bindings.resolve template, []⟩

/-- The prompt that an event shows. -/
def Event.prompt? : Event → Option Prompt
  | .shown prompt => some prompt
  | _ => none

namespace Answers

/-- Whether lines are what is read next, in turn, and what is left of the answers then. -/
inductive Yields (answers : Answers) : List String → Answers → Prop where
  | nothing : Yields answers [] answers
  | more {lines : List String} {line : String} {left : Answers} :
      Yields answers lines left →
      left.read.1 = .line line →
      Yields answers (lines ++ [line]) left.read.2

theorem read_of_unread
    {answers : Answers}
    {line : String}
    {rest : List String}
    (uninterrupted : answers.interruptIn = none)
    (unread : answers.unread = line :: rest) :
    answers.read = (.line line, ⟨rest, answers.consumed + 1, none⟩) := by
  simp [read, uninterrupted, unread]

/-- With no interrupt to come, the lines that stand first among the unread are read next. -/
theorem exists_yields
    {answers : Answers}
    {lines rest : List String}
    (uninterrupted : answers.interruptIn = none)
    (unread : answers.unread = lines ++ rest) :
    ∃ left, answers.Yields lines left ∧ left.interruptIn = none ∧ left.unread = rest := by
  induction lines using List.reverseRecOn generalizing rest with
  | nil => exact ⟨answers, .nothing, uninterrupted, unread⟩
  | append_singleton earlier line inductionHypothesis =>
      rw [List.append_assoc, List.singleton_append] at unread
      obtain ⟨before, yields, stillUninterrupted, beforeUnread⟩ := inductionHypothesis unread
      have read := read_of_unread stillUninterrupted beforeUnread
      refine ⟨before.read.2, yields.more (congrArg Prod.fst read), ?_, ?_⟩ <;> rw [read]

theorem Yields.exists_last
    {answers left : Answers}
    {lines : List String}
    {line : String}
    (yields : answers.Yields (lines ++ [line]) left) :
    ∃ before, answers.Yields lines before ∧ before.read.1 = .line line ∧
      left = before.read.2 := by
  generalize whole : lines ++ [line] = all at yields
  cases yields with
  | nothing => simp at whole
  | more earlier heard =>
      obtain ⟨rfl, same⟩ := List.append_inj' whole rfl
      cases same
      exact ⟨_, earlier, heard, rfl⟩

end Answers

namespace Session

variable {session last : Session} {success fail count : Nat} {name : String}
  {prompts blanks : List String} {place : Option Int} {left : Answers} {line : String}
  {shown : List Prompt} {moved : List Event}

/-- The prompts that events show, in order. -/
def shownIn (events : List Event) : List Prompt :=
  events.filterMap Event.prompt?

/-- Whether so many steps pass, showing these prompts, making these moves and reporting nothing. -/
def GoesOn
    (session : Session)
    (count : Nat)
    (shown : List Prompt)
    (moved : List Event)
    (last : Session) :
    Prop :=
  ∃ events, Passage session count events last ∧ shownIn events = shown ∧ moves events = moved ∧
    reports events = []

/-- What has become of a session that still waits at its question, at an attempt. -/
structure Waits (session last : Session) (attempt : Nat) (left : Answers) : Prop where
  script : last.script = session.script
  current : last.current = session.current
  attempt : last.attempt = attempt
  bindings : last.bindings = session.bindings
  transitions : last.metrics.transitions = session.metrics.transitions
  answers : last.answers = left

/-- What has become of a session that left its question for a destination, by one transition. -/
structure LeavesFor
    (session last : Session)
    (destination : Nat)
    (bindings : Bindings)
    (left : Answers) :
    Prop where
  current : last.current = destination
  attempt : last.attempt = 0
  bindings : last.bindings = bindings
  transitions : last.metrics.transitions = session.metrics.transitions + 1
  answers : last.answers = left

theorem shownIn_conclude
    (session : Session)
    (kind : Node.Kind)
    (shown : List Prompt)
    (response : Response) :
    shownIn (session.conclude kind (shown.map Event.shown) response).events = shown := by
  cases response <;>
    simp [shownIn, conclude, carryOut, Response.fault?, Event.prompt?, List.filterMap_map,
      Function.comp_def]

/-- A step that shows a prompt and passes without a report goes on by what its response does. -/
theorem GoesOn.onward
    {prompt : Prompt}
    {kind : Node.Kind}
    {response : Response}
    (goesOn : session.GoesOn count shown moved last)
    (running : last.halted = false)
    (stepped : last.step = (last.countStep.read prompt).conclude kind [.shown prompt] response)
    (passes : response.fault? = none)
    (silent : response.report? = none) :
    session.GoesOn (count + 1) (shown ++ [prompt])
      (moved ++ (response.destination?.map fun target => .moved last.current target).toList)
      last.step.session := by
  obtain ⟨events, passage, rfl, rfl, unreported⟩ := goesOn
  have passed : last.step.fault = none := by
    rw [stepped]
    exact passes
  refine ⟨_, passage.trans (.single running passed), ?_, ?_, ?_⟩
  · rw [shownIn, List.filterMap_append, stepped]
    exact congrArg (shownIn events ++ ·) (shownIn_conclude _ kind [prompt] response)
  · rw [moves_append, stepped]
    exact congrArg (moves events ++ ·) (moves_of_response _ kind [prompt] response)
  · have reported := reports_conclude (last.countStep.read prompt) kind [prompt] response
    rw [silent] at reported
    rw [reports_append, unreported, stepped]
    exact reported

theorem asking_take_succ
    (bindings : Bindings)
    (more : count < prompts.length) :
    Prompt.asking bindings (prompts.take (count + 1)) =
      Prompt.asking bindings (prompts.take count) ++
        [⟨.question, bindings.resolve prompts[count], []⟩] := by
  rw [Prompt.asking, List.take_succ_eq_append_getElem more, List.map_append]
  rfl

theorem running_of_standing
    {node : Node}
    (standing : session.currentNode = .ok (some node)) :
    session.halted = false := by
  unfold currentNode at standing
  cases ended : session.halted with
  | false => rfl
  | true =>
      rw [ended] at standing
      split at standing <;> cases standing

theorem Waits.currentNode
    (waits : session.Waits last count left) :
    last.currentNode = session.currentNode := by
  unfold Session.currentNode halted
  rw [waits.script, waits.current]

/-- A waiting session shows the prompt of its attempt and answers the line that it reads. -/
theorem Waits.step
    (standing : session.currentNode = .ok (some ⟨.question success fail name prompts, place⟩))
    (waits : session.Waits last count left)
    (more : count < prompts.length)
    (heard : left.read.1 = .line line) :
    last.step =
      (last.countStep.read ⟨.question, session.bindings.resolve prompts[count], []⟩).conclude
        .question [.shown ⟨.question, session.bindings.resolve prompts[count], []⟩]
        (Node.Body.answerQuestion success fail name prompts count (trimLineEnd line)) := by
  have shows :
      (Node.Body.question success fail name prompts).turn last.bindings last.attempt =
        .shows ⟨.question, session.bindings.resolve prompts[count], []⟩ := by
    rw [waits.bindings, waits.attempt]
    exact Node.Body.turn_question_of_lt success fail name session.bindings more
  rw [step_of_shows (waits.currentNode.trans standing) shows, waits.answers, heard, waits.attempt]
  rfl

/-- One more line is read at a question that has a prompt left. -/
theorem GoesOn.question
    (standing : session.currentNode = .ok (some ⟨.question success fail name prompts, place⟩))
    (goesOn : session.GoesOn count (Prompt.asking session.bindings (prompts.take count)) [] last)
    (waits : session.Waits last count left)
    (more : count < prompts.length)
    (heard : left.read.1 = .line line) :
    session.GoesOn (count + 1) (Prompt.asking session.bindings (prompts.take (count + 1)))
      ((Node.Body.answerQuestion success fail name prompts count
          (trimLineEnd line)).destination?.map fun target =>
        .moved session.current target).toList
      last.step.session := by
  have passes := Node.Body.fault_answerQuestion success fail name prompts count (trimLineEnd line)
  have silent := Node.Body.report_answerQuestion success fail name prompts count (trimLineEnd line)
  have running := running_of_standing (waits.currentNode.trans standing)
  have onward := goesOn.onward running (waits.step standing more heard) passes silent
  rw [List.nil_append, waits.current] at onward
  rw [asking_take_succ session.bindings more]
  exact onward

/-- While the lines are blank and prompts are left, a session waits at its question. -/
theorem exists_waits_of_blanks
    (standing : session.currentNode = .ok (some ⟨.question success fail name prompts, place⟩))
    (first : session.attempt = 0)
    (yields : session.answers.Yields blanks left)
    (blank : ∀ line ∈ blanks, IsBlankLine line)
    (few : blanks.length < prompts.length) :
    ∃ last,
      session.GoesOn blanks.length
          (Prompt.asking session.bindings (prompts.take blanks.length)) [] last ∧
        session.Waits last blanks.length left := by
  induction yields with
  | nothing => exact ⟨session, ⟨[], .here session, rfl, rfl, rfl⟩, rfl, rfl, first, rfl, rfl, rfl⟩
  | @more earlier line before yields heard inductionHypothesis =>
      obtain ⟨earlierBlank, lineBlank⟩ := List.forall_mem_append.mp blank
      rw [List.length_append, List.length_singleton] at few ⊢
      obtain ⟨last, goesOn, waits⟩ := inductionHypothesis earlierBlank (Nat.lt_of_succ_lt few)
      have more : earlier.length < prompts.length := Nat.lt_of_succ_lt few
      have stays :
          Node.Body.answerQuestion success fail name prompts earlier.length (trimLineEnd line) =
            .stay := by
        have silent : trimLineEnd line = "" :=
          trimLineEnd_eq_empty_iff.mpr (lineBlank line List.mem_cons_self)
        simp [Node.Body.answerQuestion, silent, few]
      have onward := goesOn.question standing waits more heard
      have stepped := waits.step standing more heard
      rw [stays] at onward stepped
      refine ⟨last.step.session, onward, ?_⟩
      rw [stepped]
      exact ⟨waits.script, waits.current, congrArg (· + 1) waits.attempt, waits.bindings,
        waits.transitions, congrArg (fun answers => answers.read.2) waits.answers⟩

/-- A line that is not blank is bound, and the session moves to the success. -/
theorem exists_leavesFor_of_answer
    (standing : session.currentNode = .ok (some ⟨.question success fail name prompts, place⟩))
    (goesOn : session.GoesOn count (Prompt.asking session.bindings (prompts.take count)) [] last)
    (waits : session.Waits last count left)
    (more : count < prompts.length)
    (heard : left.read.1 = .line line)
    (speaks : ¬IsBlankLine line) :
    ∃ next,
      session.GoesOn (count + 1) (Prompt.asking session.bindings (prompts.take (count + 1)))
          [.moved session.current success] next ∧
        session.LeavesFor next success (session.bindings.bind name (trimLineEnd line))
          left.read.2 := by
  have accepts :
      Node.Body.answerQuestion success fail name prompts count (trimLineEnd line) =
        .accept name (trimLineEnd line) success := by
    have nonempty : trimLineEnd line ≠ "" := mt trimLineEnd_eq_empty_iff.mp speaks
    simp [Node.Body.answerQuestion, nonempty]
  have onward := goesOn.question standing waits more heard
  have stepped := waits.step standing more heard
  rw [accepts] at onward stepped
  refine ⟨last.step.session, onward, ?_⟩
  rw [stepped]
  exact ⟨rfl, rfl, congrArg (fun bindings => bindings.bind name (trimLineEnd line)) waits.bindings,
    congrArg (· + 1) waits.transitions, congrArg (fun answers => answers.read.2) waits.answers⟩

/-- A blank line at the last prompt moves the session to the failure. -/
theorem exists_leavesFor_of_last_blank
    (standing : session.currentNode = .ok (some ⟨.question success fail name prompts, place⟩))
    (goesOn : session.GoesOn count (Prompt.asking session.bindings (prompts.take count)) [] last)
    (waits : session.Waits last count left)
    (lastPrompt : count + 1 = prompts.length)
    (heard : left.read.1 = .line line)
    (blank : IsBlankLine line) :
    ∃ next,
      session.GoesOn (count + 1) (Prompt.asking session.bindings (prompts.take (count + 1)))
          [.moved session.current fail] next ∧
        session.LeavesFor next fail session.bindings left.read.2 := by
  have gives :
      Node.Body.answerQuestion success fail name prompts count (trimLineEnd line) =
        .move fail := by
    have silent : trimLineEnd line = "" := trimLineEnd_eq_empty_iff.mpr blank
    simp [Node.Body.answerQuestion, silent, lastPrompt]
  have more : count < prompts.length := Nat.lt_of_succ_le (Nat.le_of_eq lastPrompt)
  have onward := goesOn.question standing waits more heard
  have stepped := waits.step standing more heard
  rw [gives] at onward stepped
  refine ⟨last.step.session, onward, ?_⟩
  rw [stepped]
  exact ⟨rfl, rfl, waits.bindings, congrArg (· + 1) waits.transitions,
    congrArg (fun answers => answers.read.2) waits.answers⟩

/-- A question without prompts is left for its failure with nothing shown and nothing read. -/
theorem exists_leavesFor_of_promptless
    (standing : session.currentNode = .ok (some ⟨.question success fail name [], place⟩)) :
    ∃ next,
      session.GoesOn 1 [] [.moved session.current fail] next ∧
        session.LeavesFor next fail session.bindings session.answers := by
  have leaves :
      (Node.Body.question success fail name []).turn session.bindings session.attempt =
        .leaves fail :=
    rfl
  have stepped := step_of_leaves standing leaves
  have passed : session.step.fault = none := by
    rw [stepped]
    rfl
  refine ⟨session.step.session, ⟨_, .single (running_of_standing standing) passed, ?_⟩, ?_⟩
  · rw [stepped]
    exact ⟨rfl, rfl, rfl⟩
  · rw [stepped]
    exact ⟨rfl, rfl, rfl, rfl, rfl⟩

/-- As many blank lines as prompts lead past them to the failure, at once if there are none. -/
theorem exists_leavesFor_failure
    (standing : session.currentNode = .ok (some ⟨.question success fail name prompts, place⟩))
    (first : session.attempt = 0)
    (yields : session.answers.Yields blanks left)
    (blank : ∀ line ∈ blanks, IsBlankLine line)
    (all : blanks.length = prompts.length) :
    ∃ last,
      session.GoesOn (max 1 prompts.length) (Prompt.asking session.bindings prompts)
          [.moved session.current fail] last ∧
        session.LeavesFor last fail session.bindings left := by
  cases yields with
  | nothing =>
      obtain rfl : prompts = [] := List.length_eq_zero_iff.mp all.symm
      exact exists_leavesFor_of_promptless standing
  | @more earlier line before yields heard =>
      obtain ⟨earlierBlank, lineBlank⟩ := List.forall_mem_append.mp blank
      rw [List.length_append, List.length_singleton] at all
      have few : earlier.length < prompts.length := Nat.lt_of_succ_le (Nat.le_of_eq all)
      obtain ⟨last, goesOn, waits⟩ := exists_waits_of_blanks standing first yields earlierBlank few
      have leaves :=
        exists_leavesFor_of_last_blank standing goesOn waits all heard
          (lineBlank line List.mem_cons_self)
      have prompted : 1 ≤ prompts.length := Nat.one_le_of_lt few
      rwa [all, List.take_length, ← Nat.max_eq_right prompted] at leaves

/--
All that happens at a question that a session comes to with its first prompt to show.
So many blank lines, fewer than the prompts, are met with as many prompts in turn and
leave the session waiting. A line that is not blank after them is bound without its
line end, and the session moves to the success. As many blank lines as prompts move it
to the failure with nothing bound, and if there are no prompts the next step does.
-/
structure AsksInTurn
    (session : Session)
    (success fail : Nat)
    (name : String)
    (prompts : List String) :
    Prop where
  waits :
    ∀ blanks left, session.answers.Yields blanks left → (∀ line ∈ blanks, IsBlankLine line) →
      blanks.length < prompts.length →
        ∃ last,
          session.GoesOn blanks.length
              (Prompt.asking session.bindings (prompts.take blanks.length)) [] last ∧
            session.Waits last blanks.length left
  answered :
    ∀ blanks answer left, session.answers.Yields (blanks ++ [answer]) left →
      (∀ line ∈ blanks, IsBlankLine line) → ¬IsBlankLine answer →
      blanks.length < prompts.length →
        ∃ last,
          session.GoesOn (blanks.length + 1)
              (Prompt.asking session.bindings (prompts.take (blanks.length + 1)))
              [.moved session.current success] last ∧
            session.LeavesFor last success (session.bindings.bind name (trimLineEnd answer)) left
  exhausted :
    ∀ blanks left, session.answers.Yields blanks left → (∀ line ∈ blanks, IsBlankLine line) →
      0 < prompts.length → blanks.length = prompts.length →
        ∃ last,
          session.GoesOn prompts.length (Prompt.asking session.bindings prompts)
              [.moved session.current fail] last ∧
            session.LeavesFor last fail session.bindings left
  unasked :
    prompts.length = 0 →
      ∃ last,
        session.GoesOn 1 [] [.moved session.current fail] last ∧
          session.LeavesFor last fail session.bindings session.answers

/-- A question asks in turn from its first attempt on, whatever is bound and is to be read. -/
theorem asks_in_turn
    (standing : session.currentNode = .ok (some ⟨.question success fail name prompts, place⟩))
    (first : session.attempt = 0) :
    session.AsksInTurn success fail name prompts := by
  refine ⟨fun _ _ => exists_waits_of_blanks standing first, ?_, ?_, ?_⟩
  · intro blanks answer left yields blank speaks few
    obtain ⟨before, earlier, heard, rfl⟩ := yields.exists_last
    obtain ⟨last, goesOn, waits⟩ := exists_waits_of_blanks standing first earlier blank few
    exact exists_leavesFor_of_answer standing goesOn waits few heard speaks
  · intro blanks left yields blank prompted all
    have leaves := exists_leavesFor_failure standing first yields blank all
    rwa [Nat.max_eq_right prompted] at leaves
  · intro promptless
    obtain rfl : prompts = [] := List.length_eq_zero_iff.mp promptless
    exact exists_leavesFor_of_promptless standing

/-- The question comes back to itself once its second prompt is answered. -/
theorem asks_in_turn_selfAsking :
    ∃ last,
      ((fresh (.ofList ["\r\n", "Ada\r\n"])).begin selfAsking).GoesOn 2
          (Prompt.asking .empty ["Who?", "Please?"]) [.moved 0 0] last ∧
        ((fresh (.ofList ["\r\n", "Ada\r\n"])).begin selfAsking).LeavesFor last 0
          (Bindings.empty.bind "NAME" (trimLineEnd "Ada\r\n")) ⟨[], 2, none⟩ := by
  have asks :
      ((fresh (.ofList ["\r\n", "Ada\r\n"])).begin selfAsking).AsksInTurn 0 0 "NAME"
        ["Who?", "Please?"] :=
    asks_in_turn rfl rfl
  have yields :
      (Answers.ofList ["\r\n", "Ada\r\n"]).Yields (["\r\n"] ++ ["Ada\r\n"]) ⟨[], 2, none⟩ :=
    .more (.more .nothing rfl) rfl
  have blank : ∀ line ∈ ["\r\n"], IsBlankLine line := by simp [IsBlankLine]
  have speaks : ¬IsBlankLine "Ada\r\n" := by simp [IsBlankLine]
  exact asks.answered ["\r\n"] "Ada\r\n" ⟨[], 2, none⟩ yields blank speaks (by decide)

end Session

end Dialog
