import Dialog.Proofs.Session.Choosing
import Dialog.Proofs.Session.Rejections
import Mathlib.Data.List.DropRight

namespace Dialog

/-!
# Accepted answers

A step binds a name just when it accepts an answer: at a question it binds what is
left of a line without its line end, at a branching node the text of the option that
the line denotes (`Accepts`). `accepted?` computes this from the session that the step
is made at, and no step whatsoever changes the bindings in any other way
(`bindings_step`).
-/

/-- Whether a value is a line without the characters of a line's end that it ends in. -/
structure Strips (line value : String) : Prop where
  ended :
    ∃ ending : List Char, line.toList = value.toList ++ ending ∧
      ∀ character ∈ ending, character = '\r' ∨ character = '\n'
  bare :
    ∀ nonempty : value.toList ≠ [],
      ¬(value.toList.getLast nonempty = '\r' ∨ value.toList.getLast nonempty = '\n')

theorem isLineEnd_iff
    {character : Char} :
    Text.isLineEnd character = true ↔ character = '\r' ∨ character = '\n' := by
  simp [Text.isLineEnd]

/-- Trimming drops the characters of line ends at the end and no others. -/
theorem toList_trimLineEnd (line : String) :
    (trimLineEnd line).toList = line.toList.rdropWhile Text.isLineEnd :=
  String.toList_ofList

/-- To trim a line is to strip it. -/
theorem strips_iff
    {line value : String} :
    Strips line value ↔ trimLineEnd line = value := by
  constructor
  · intro strips
    obtain ⟨ending, whole, ends⟩ := strips.ended
    have kept : value.toList.rdropWhile Text.isLineEnd = value.toList := by
      rw [List.rdropWhile_eq_self_iff]
      exact fun nonempty => mt isLineEnd_iff.mp (strips.bare nonempty)
    apply String.toList_injective
    rw [toList_trimLineEnd, whole, List.rdropWhile, List.reverse_append,
      List.dropWhile_append_of_pos]
    · exact kept
    · intro character member
      exact isLineEnd_iff.mpr (ends character (List.mem_reverse.mp member))
  · rintro rfl
    refine ⟨⟨line.toList.rtakeWhile Text.isLineEnd, ?_, ?_⟩, ?_⟩
    · rw [toList_trimLineEnd, List.rdropWhile_append_rtakeWhile]
    · intro character member
      exact isLineEnd_iff.mp (List.mem_rtakeWhile_imp member)
    · simp only [toList_trimLineEnd]
      intro nonempty
      exact mt isLineEnd_iff.mpr (List.rdropWhile_last_not Text.isLineEnd _ nonempty)

/-- The bindings made by binding each pair in order over those that there are. -/
def Bindings.bindAll (bindings : Bindings) (pairs : List (String × String)) : Bindings :=
  pairs.foldl (fun bindings pair => bindings.bind pair.1 pair.2) bindings

/-- Bindings that follow on others are made after those. -/
theorem Bindings.bindAll_append
    (bindings : Bindings)
    (earlier later : List (String × String)) :
    bindings.bindAll (earlier ++ later) = (bindings.bindAll earlier).bindAll later :=
  List.foldl_append

/-- A name is bound by one of the pairs, or was bound before. -/
theorem Bindings.contains_bindAll_iff
    {bindings : Bindings}
    {pairs : List (String × String)}
    {name : String} :
    (bindings.bindAll pairs).contains name = true ↔
      bindings.contains name = true ∨ name ∈ pairs.map Prod.fst := by
  induction pairs generalizing bindings with
  | nil => simp [bindAll]
  | cons pair rest inductionHypothesis =>
      have first : (bindings.bind pair.1 pair.2).contains name = true ↔
          bindings.contains name = true ∨ name = pair.1 := by
        rw [contains, find?_bind]
        by_cases same : name = pair.1 <;> simp [same, contains]
      have onward := @inductionHypothesis (bindings.bind pair.1 pair.2)
      rw [first] at onward
      rw [List.map_cons, List.mem_cons, ← or_assoc]
      exact onward

/-- An answer that makes a choice has few enough digits to be read. -/
theorem Choice.short_of_chosen
    {options : List Choice}
    {answer : String}
    {choice : Choice}
    (chosen : select options answer = .chosen choice) :
    answer.toList.length ≤ Numeral.digitLimit := by
  by_cases numeral : Numeral.isNumeral answer.toList = true
  · by_contra long
    have overlong : Numeral.Overlong answer := ⟨numeral, Nat.lt_of_not_le long⟩
    cases chosen.symm.trans (select_eq_unreadable_iff.mpr ⟨overlong, rfl⟩)
  · unfold select at chosen
    rw [if_neg numeral] at chosen
    split at chosen <;> cases chosen

/-- The binding that a response makes. -/
def Response.binding? : Response → Option (String × String)
  | .accept name value _ => some (name, value)
  | _ => none

namespace Node.Body

/-- The binding that a node makes of an answer, if it accepts it. -/
def accepts? (body : Node.Body) (answer : String) : Option (String × String) :=
  match body with
  | .question _ _ name _ => if answer = "" then none else some (name, answer)
  | .branching name _ options _ =>
      match Choice.select options answer with
      | .chosen choice => some (name, choice.text)
      | _ => none
  | .terminating _ => none

/-- A node that hears a line binds what it accepts of the line without its end. -/
theorem binding?_respond_line
    (id : Int)
    (attempt : Nat)
    (body : Node.Body)
    (raw : String) :
    (body.respond id attempt (.line raw)).binding? = body.accepts? (trimLineEnd raw) := by
  cases body with
  | question success fail name prompts =>
      simp only [respond, answerQuestion, accepts?, String.isEmpty_iff]
      split
      · split <;> rfl
      · rfl
  | branching name asked options nonempty =>
      simp only [respond, answerBranching, accepts?]
      cases Choice.select options (trimLineEnd raw) <;> rfl
  | terminating message => rfl

/-- Only a line is accepted. -/
theorem binding?_respond
    (id : Int)
    (attempt : Nat)
    (body : Node.Body)
    (reading : Reading) :
    (body.respond id attempt reading).binding? =
      reading.line?.bind fun raw => body.accepts? (trimLineEnd raw) := by
  cases reading with
  | interrupted => rfl
  | closed => cases body <;> rfl
  | line raw => exact binding?_respond_line id attempt body raw

/-- A node binds its own name. -/
theorem name?_of_accepts?
    {body : Node.Body}
    {answer name value : String}
    (accepted : body.accepts? answer = some (name, value)) :
    body.name? = some name := by
  cases body with
  | question success fail own prompts =>
      simp only [accepts?, Option.ite_none_left_eq_some, Option.some.injEq, Prod.mk.injEq]
        at accepted
      exact congrArg some accepted.2.1
  | branching own asked options nonempty =>
      simp only [accepts?] at accepted
      split at accepted
      · cases accepted
        rfl
      · cases accepted
  | terminating message => cases accepted

end Node.Body

namespace Session

variable {session : Session} {binding : String × String} {raw : String} {node : Node}

/-- A step hears a line just when a prompt is shown and the line is read. -/
theorem heard?_eq_some_iff :
    session.heard? = some raw ↔
      session.upcoming.isSome = true ∧ session.answers.read.1 = .line raw := by
  have line : session.answers.read.1.line? = some raw ↔ session.answers.read.1 = .line raw := by
    cases session.answers.read.1 <;> simp [Reading.line?]
  cases asked : session.upcoming <;> simp [heard?, asked, line]

/-- The binding that a step at a session makes of the answer that it reads, if it accepts it. -/
def accepted? (session : Session) : Option (String × String) :=
  match session.currentNode, session.heard? with
  | .ok (some node), some raw => node.body.accepts? (trimLineEnd raw)
  | _, _ => none

/-- At a node, what a step accepts is what the node accepts of the line it hears. -/
theorem accepted?_standing
    (standing : session.currentNode = .ok (some node)) :
    session.accepted? = session.heard?.bind fun raw => node.body.accepts? (trimLineEnd raw) := by
  rw [accepted?, standing]
  cases session.heard? <;> rfl

theorem accepted?_not_standing
    (nowhere : ∀ node, session.currentNode ≠ .ok (some node)) :
    session.accepted? = none := by
  unfold accepted?
  split
  · rename_i node _ standing _
    exact absurd standing (nowhere node)
  · rfl

/-- What is accepted is a line that is heard at the node that the session stands at. -/
theorem exists_of_accepted
    (accepted : session.accepted? = some binding) :
    ∃ node raw, session.currentNode = .ok (some node) ∧ session.heard? = some raw ∧
      node.body.accepts? (trimLineEnd raw) = some binding := by
  unfold accepted? at accepted
  split at accepted
  · rename_i node raw standing heard
    exact ⟨node, raw, standing, heard, accepted⟩
  · cases accepted

/-! ## One step -/

/-- A response makes its own binding and no other. -/
theorem bindings_conclude
    (session : Session)
    (kind : Node.Kind)
    (before : List Event)
    (response : Response) :
    (session.conclude kind before response).session.bindings =
      session.bindings.bindAll response.binding?.toList := by
  cases response <;> rfl

/-- Whatever session a step is made in, it binds what it accepts and nothing else. -/
theorem bindings_step (session : Session) :
    session.step.session.bindings = session.bindings.bindAll session.accepted?.toList := by
  by_cases somewhere : ∃ node, session.currentNode = .ok (some node)
  · obtain ⟨node, standing⟩ := somewhere
    rw [accepted?_standing standing]
    cases turned : node.body.turn session.bindings session.attempt with
    | leaves destination =>
        rw [step_of_leaves standing turned, bindings_conclude, heard?_of_leaves standing turned]
        rfl
    | shows prompt =>
        rw [step_of_shows standing turned, bindings_conclude, heard?_of_shows standing turned,
          Node.Body.binding?_respond]
        rfl
  · have nowhere : ∀ node, session.currentNode ≠ .ok (some node) :=
      fun node standing => somewhere ⟨node, standing⟩
    rw [accepted?_not_standing nowhere, (step_not_standing nowhere).1]
    rfl

/-- A step that accepts an answer goes through. -/
theorem fault_step_of_accepted
    (accepted : session.accepted? = some binding) :
    session.step.fault = none := by
  obtain ⟨node, raw, standing, heard, accepts⟩ := exists_of_accepted accepted
  obtain ⟨asks, line⟩ := heard?_eq_some_iff.mp heard
  obtain ⟨prompt, _, shows⟩ := exists_turn_of_upcoming standing asks
  rw [← Node.Body.binding?_respond_line session.current session.attempt] at accepts
  rw [step_of_shows standing shows, line]
  change Response.fault? _ = none
  generalize node.body.respond _ _ _ = response at accepts ⊢
  cases response with
  | accept => rfl
  | stay | move | reject | fail => cases accepts

/--
Whether a step at a session accepts an answer and binds a value for it: a line at a
question that has a prompt to show, when it says anything, or a line at a branching
node that denotes the number beside one of the options.
-/
inductive Accepts (session : Session) : String × String → Prop where
  | answer {success fail : Nat} {name raw value : String} {prompts : List String}
      {place : Option Int} :
      session.currentNode = .ok (some ⟨.question success fail name prompts, place⟩) →
      session.attempt < prompts.length →
      session.answers.read.1 = .line raw →
      Strips raw value →
      value ≠ "" →
      Accepts session (name, value)
  | option {name asked raw said : String} {options : List Choice} {nonempty : options ≠ []}
      {place : Option Int} {choice : Choice} {number : Nat} :
      session.currentNode = .ok (some ⟨.branching name asked options nonempty, place⟩) →
      session.answers.read.1 = .line raw →
      Strips raw said →
      said.toList.length ≤ Numeral.digitLimit →
      Numeral.Denotes said.toList number →
      (choice, number) ∈ options.zipIdx 1 →
      Accepts session (name, choice.text)

/-- What is accepted is computed to be. -/
theorem accepted?_of_accepts
    (accepts : session.Accepts binding) :
    session.accepted? = some binding := by
  cases accepts with
  | @answer success fail name raw value prompts place standing shown heard strips speaks =>
      have turned := Node.Body.turn_question_of_lt success fail name session.bindings shown
      have answered : session.heard? = some raw :=
        heard?_eq_some_iff.mpr ⟨by simp [upcoming, standing, turned], heard⟩
      rw [accepted?_standing standing, answered, Option.bind_some, strips_iff.mp strips,
        Node.Body.accepts?, if_neg speaks]
  | option standing heard strips short denotes listed =>
      have answered : session.heard? = some _ :=
        heard?_eq_some_iff.mpr ⟨by simp [upcoming, standing, Node.Body.turn], heard⟩
      have chosen := (Choice.select_eq_chosen_iff short).mpr ⟨_, denotes, listed⟩
      rw [accepted?_standing standing, answered, Option.bind_some, strips_iff.mp strips,
        Node.Body.accepts?]
      simp only [chosen]

/-- What is computed to be accepted is accepted. -/
theorem accepts_of_accepted?
    (accepted : session.accepted? = some binding) :
    session.Accepts binding := by
  obtain ⟨⟨body, place⟩, raw, standing, answered, accepts⟩ := exists_of_accepted accepted
  obtain ⟨asks, heard⟩ := heard?_eq_some_iff.mp answered
  have strips : Strips raw (trimLineEnd raw) := strips_iff.mpr rfl
  cases body with
  | question success fail name prompts =>
      have shown : session.attempt < prompts.length := by
        by_contra usedUp
        simp [upcoming, standing, Node.Body.turn, Nat.le_of_not_lt usedUp] at asks
      simp only [Node.Body.accepts?, Option.ite_none_left_eq_some, Option.some.injEq] at accepts
      obtain ⟨speaks, rfl⟩ := accepts
      exact .answer standing shown heard strips speaks
  | branching name asked options nonempty =>
      simp only [Node.Body.accepts?] at accepts
      split at accepts
      · rename_i choice chosen
        cases accepts
        have short := Choice.short_of_chosen chosen
        obtain ⟨number, denotes, listed⟩ := (Choice.select_eq_chosen_iff short).mp chosen
        exact .option standing heard strips short denotes listed
      · cases accepts
  | terminating message => cases accepts

/-- The binding that is computed is the one that is accepted. -/
theorem accepted?_eq_some_iff :
    session.accepted? = some binding ↔ session.Accepts binding :=
  ⟨accepts_of_accepted?, accepted?_of_accepts⟩

/-- The node that accepts an answer is the one that the session stands at, and has the name. -/
theorem exists_standing_of_accepted
    {name value : String}
    (accepted : session.accepted? = some (name, value)) :
    ∃ node, session.currentNode = .ok (some node) ∧ node.body.name? = some name := by
  obtain ⟨node, _, standing, _, accepts⟩ := exists_of_accepted accepted
  exact ⟨node, standing, Node.Body.name?_of_accepts? accepts⟩

end Session

end Dialog
