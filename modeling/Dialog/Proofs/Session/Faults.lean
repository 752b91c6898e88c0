import Dialog.Proofs.Session.Place
import Mathlib.Tactic.ByContra

namespace Dialog

/-!
# When a step fails

Before the end of a session a step can fail in three ways, and each begins with a
reading: the player breaks off, the answers have run out at a node that needs one,
or the answer to a choice is a numeral with more digits than can be read. The
last is the only answer that a step does not deal with. Any other is accepted, is
rejected with a report, or uses up a prompt of a question.
-/

/-- Whether an answer is a numeral with too many digits to be read. -/
def Numeral.Overlong (answer : String) : Prop :=
  isNumeral answer.toList = true ∧ digitLimit < answer.toList.length

/-- Among choices only a numeral that is too long is not read. -/
theorem Choice.select_eq_unreadable_iff
    {options : List Choice}
    {answer : String}
    {fault : Numeral.Fault} :
    select options answer = .unreadable fault ↔
      Numeral.Overlong answer ∧ fault = .overlong answer.toList.length := by
  by_cases numeral : Numeral.isNumeral answer.toList = true
  · rw [select_of_isNumeral numeral, Numeral.read, if_pos numeral, Numeral.Overlong]
    by_cases short : answer.toList.length ≤ Numeral.digitLimit
    · have notLong : ¬Numeral.digitLimit < answer.toList.length := Nat.not_lt.mpr short
      rw [if_pos short]
      dsimp only
      split <;> simp [notLong]
    · rw [if_neg short]
      simp [numeral, Nat.lt_of_not_le short, eq_comm]
  · have rejected : ∃ reason, select options answer = .rejected reason := by
      unfold select
      rw [if_neg numeral]
      split
      · exact ⟨.blank, rfl⟩
      · exact ⟨.unrecognized, rfl⟩
    obtain ⟨reason, rejects⟩ := rejected
    simp [rejects, Numeral.Overlong, numeral]

/-- A response with a fault is a failure for it. -/
theorem Response.eq_fail_of_fault?
    {response : Response}
    {fault : SessionFault}
    (failed : response.fault? = some fault) :
    response = .fail fault := by
  cases response <;> cases failed
  rfl

namespace Node.Body

/-- The faults that a node which stands at an id finds in a reading. -/
inductive Blames (id : Int) (body : Node.Body) : Reading → SessionFault → Prop where
  | interrupted : Blames id body .interrupted .interrupted
  | closed : body.kind ≠ .terminating → Blames id body .closed (.inputClosed id)
  | overlong {raw : String} :
      body.kind = .branching →
      Numeral.Overlong (trimLineEnd raw) →
      Blames id body (.line raw) (.numeral (.overlong (trimLineEnd raw).toList.length))

/-- No answer makes a question fail. -/
theorem fault_answerQuestion
    (success fail : Nat)
    (name : String)
    (prompts : List String)
    (attempt : Nat)
    (answer : String) :
    (answerQuestion success fail name prompts attempt answer).fault? = none := by
  unfold answerQuestion
  split
  · split <;> rfl
  · rfl

/-- At a branching node just the numerals that are too long make a step fail. -/
theorem fault_answerBranching_iff
    (name : String)
    (options : List Choice)
    (answer : String)
    (fault : SessionFault) :
    (answerBranching name options answer).fault? = some fault ↔
      Numeral.Overlong answer ∧ fault = .numeral (.overlong answer.toList.length) := by
  have unreadable :
      (answerBranching name options answer).fault? = some fault ↔
        ∃ why, Choice.select options answer = .unreadable why ∧ fault = .numeral why := by
    unfold answerBranching
    cases Choice.select options answer <;> simp [Response.fault?, eq_comm]
  rw [unreadable]
  constructor
  · rintro ⟨why, selected, rfl⟩
    obtain ⟨overlong, rfl⟩ := Choice.select_eq_unreadable_iff.mp selected
    exact ⟨overlong, rfl⟩
  · rintro ⟨overlong, rfl⟩
    exact ⟨_, Choice.select_eq_unreadable_iff.mpr ⟨overlong, rfl⟩, rfl⟩

/-- What a node makes of a reading is a fault just when it blames the reading. -/
theorem fault_respond_iff
    (id : Int)
    (attempt : Nat)
    (body : Node.Body)
    (reading : Reading)
    (fault : SessionFault) :
    (body.respond id attempt reading).fault? = some fault ↔ body.Blames id reading fault := by
  cases reading with
  | interrupted =>
      constructor
      · intro failed
        cases failed
        exact .interrupted
      · intro blamed
        cases blamed
        rfl
  | closed =>
      cases body with
      | question | branching =>
          constructor
          · intro failed
            cases failed
            exact .closed (by simp [kind])
          · intro blamed
            cases blamed
            rfl
      | terminating message =>
          constructor
          · intro failed
            cases failed
          · rintro (_ | asks)
            exact absurd rfl asks
  | line raw =>
      cases body with
      | question success fail name prompts =>
          rw [respond, fault_answerQuestion]
          constructor
          · intro failed
            cases failed
          · rintro (_ | _ | branching)
            cases branching
      | terminating message =>
          constructor
          · intro failed
            cases failed
          · rintro (_ | _ | branching)
            cases branching
      | branching name asked options nonempty =>
          rw [respond, fault_answerBranching_iff]
          constructor
          · rintro ⟨overlong, rfl⟩
            exact .overlong rfl overlong
          · rintro (_ | _ | ⟨_, overlong⟩)
            exact ⟨overlong, rfl⟩

end Node.Body

namespace Session

variable {script : Script} {session : Session} {node : Node}

/-- A prompt is coming up when the node that a session stands at shows it. -/
theorem upcoming_eq_some_iff
    {prompt : Prompt} :
    session.upcoming = some prompt ↔
      ∃ node, session.currentNode = .ok (some node) ∧
        node.body.turn session.bindings session.attempt = .shows prompt := by
  unfold upcoming
  cases session.currentNode with
  | error fault => simp
  | ok node? =>
      cases node? with
      | none => simp
      | some node =>
          cases turned : node.body.turn session.bindings session.attempt <;> simp [turned]

/-- A node that is about to ask shows what is coming up. -/
theorem exists_turn_of_upcoming
    (standing : session.currentNode = .ok (some node))
    (asks : session.upcoming.isSome = true) :
    ∃ prompt, session.upcoming = some prompt ∧
      node.body.turn session.bindings session.attempt = .shows prompt := by
  obtain ⟨prompt, asked⟩ := Option.isSome_iff_exists.mp asks
  obtain ⟨other, found, turned⟩ := upcoming_eq_some_iff.mp asked
  obtain rfl : other = node := by simpa [standing, eq_comm] using found
  exact ⟨prompt, asked, turned⟩

/-- A step at a node fails just when it shows a prompt and finds a fault in what it then reads. -/
theorem fault_step_iff
    (standing : session.currentNode = .ok (some node))
    (fault : SessionFault) :
    session.step.fault = some fault ↔
      session.upcoming.isSome = true ∧
        node.body.Blames session.current session.answers.read.1 fault := by
  cases turned : node.body.turn session.bindings session.attempt with
  | leaves destination =>
      have silent : session.upcoming = none := by simp [upcoming, standing, turned]
      rw [step_of_leaves standing turned, silent]
      simp [conclude, Response.fault?]
  | shows prompt =>
      have asked : session.upcoming = some prompt := by simp [upcoming, standing, turned]
      rw [step_of_shows standing turned, asked]
      exact (Node.Body.fault_respond_iff _ _ _ _ fault).trans (by simp)

/-- What a step makes of an answer that it deals with, by the kind of node that it is made at. -/
inductive Deals (session : Session) (answer : String) : Node.Body → Prop where
  | accepts {success fail : Nat} {name : String} {prompts : List String} :
      answer ≠ "" →
      session.step.session.current = success →
      session.step.session.bindings = session.bindings.bind name answer →
      Deals session answer (.question success fail name prompts)
  | asksAgain {success fail : Nat} {name : String} {prompts : List String} :
      answer = "" →
      session.step.session.current = session.current →
      session.step.session.attempt = session.attempt + 1 →
      session.step.session.bindings = session.bindings →
      Deals session answer (.question success fail name prompts)
  | givesUp {success fail : Nat} {name : String} {prompts : List String} :
      answer = "" →
      session.attempt + 1 = prompts.length →
      session.step.session.current = fail →
      session.step.session.bindings = session.bindings →
      Deals session answer (.question success fail name prompts)
  | chooses {name asked : String} {options : List Choice} {nonempty : options ≠ []}
      {choice : Choice} :
      choice ∈ options →
      session.step.session.current = choice.destination →
      session.step.session.bindings = session.bindings.bind name choice.text →
      Deals session answer (.branching name asked options nonempty)
  | rejects {name asked : String} {options : List Choice} {nonempty : options ≠ []}
      {reason : Rejection} :
      reports session.step.events = [reason.message answer] →
      session.step.session.current = session.current →
      session.step.session.attempt = session.attempt →
      session.step.session.bindings = session.bindings →
      Deals session answer (.branching name asked options nonempty)
  | ends {message : String} :
      session.step.session.current = terminal →
      Deals session answer (.terminating message)

/-- A step that did not fail has dealt with the answer that it heard. -/
theorem deals_of_heard
    (standing : session.currentNode = .ok (some node))
    (asks : session.upcoming.isSome = true)
    {raw : String}
    (heard : session.answers.read.1 = .line raw)
    (passed : session.step.fault = none) :
    session.Deals (trimLineEnd raw) node.body := by
  obtain ⟨prompt, _, turned⟩ := exists_turn_of_upcoming standing asks
  have stepped := step_of_shows standing turned
  rw [heard] at stepped
  obtain ⟨body, line⟩ := node
  cases body with
  | question success fail name prompts =>
      rw [Node.Body.respond, Node.Body.answerQuestion] at stepped
      by_cases blank : trimLineEnd raw = ""
      · rw [if_pos (String.isEmpty_iff.mpr blank)] at stepped
        by_cases more : session.attempt + 1 < prompts.length
        · rw [if_pos more] at stepped
          apply Deals.asksAgain blank <;> rw [stepped] <;> rfl
        · have shown : session.attempt < prompts.length := by
            by_contra usedUp
            simp [Node.Body.turn, Nat.le_of_not_lt usedUp] at turned
          rw [if_neg more] at stepped
          apply Deals.givesUp blank (by omega) <;> rw [stepped] <;> rfl
      · rw [if_neg (fun empty => blank (String.isEmpty_iff.mp empty))] at stepped
        apply Deals.accepts blank <;> rw [stepped] <;> rfl
  | branching name asked options nonempty =>
      rw [Node.Body.respond, Node.Body.answerBranching] at stepped
      cases selected : Choice.select options (trimLineEnd raw) with
      | chosen choice =>
          rw [selected] at stepped
          apply Deals.chooses (Choice.mem_of_select selected) <;> rw [stepped] <;> rfl
      | rejected reason =>
          rw [selected] at stepped
          have reported : reports session.step.events = [reason.message (trimLineEnd raw)] := by
            rw [stepped]
            rfl
          apply Deals.rejects reported <;> rw [stepped] <;> rfl
      | unreadable why =>
          rw [selected] at stepped
          rw [stepped] at passed
          cases passed
  | terminating message =>
      refine .ends ?_
      rw [stepped]
      rfl

/--
Which answers a session deals with at its node, and when its step fails: every
answer is dealt with but an overlong numeral that should make a choice, and no
step fails unless its node shows a prompt and blames what is read.
-/
structure DealsUnlessOverlong (session : Session) (node : Node) : Prop where
  deals :
    ∀ raw, session.upcoming.isSome = true → session.answers.read.1 = .line raw →
      ¬(node.kind = .branching ∧ Numeral.Overlong (trimLineEnd raw)) →
        session.step.fault = none ∧ session.Deals (trimLineEnd raw) node.body
  fails :
    ∀ fault, session.step.fault = some fault ↔
      session.upcoming.isSome = true ∧
        node.body.Blames session.current session.answers.read.1 fault

/--
However a session goes on from the beginning of a script, an answered step fails
only for an overlong numeral.
-/
theorem deals_unless_overlong
    (prior : Session)
    {script : Script}
    (playable : 0 < script.size)
    {history : List Operation}
    (advancing : ∀ operation ∈ history, operation.Advances)
    (running : ((prior.begin script).after history).halted = false) :
    ∃ node, ((prior.begin script).after history).currentNode = .ok (some node) ∧
      ((prior.begin script).after history).DealsUnlessOverlong node := by
  have plays : ((prior.begin script).after history).Plays script :=
    (prior.plays_begin playable).course (course_of_advancing advancing _)
  obtain ⟨_, node, _, _, _, standing⟩ := plays.standing running
  refine ⟨node, standing, ?_, fault_step_iff standing⟩
  intro raw asks heard fine
  have passed : ((prior.begin script).after history).step.fault = none := by
    by_contra failed
    obtain ⟨fault, blamed⟩ := Option.ne_none_iff_exists'.mp failed
    have blames := ((fault_step_iff standing fault).mp blamed).2
    rw [heard] at blames
    cases blames with
    | overlong branching overlong => exact fine ⟨branching, overlong⟩
  exact ⟨passed, deals_of_heard standing asks heard passed⟩

/-- A single choice, which leads out. -/
def oneChoice : Script where
  nodes := #[⟨.branching "WAY" "Where to?" [⟨"out", terminal⟩] (List.cons_ne_nil _ _), none⟩]
  size_le := by decide
  closed := by simp [Node.destinations, Node.Body.destinations]

/-- An answer that is no choice is fed after the answers have run out once. -/
theorem deals_unless_overlong_oneChoice :
    ∃ node, (((fresh (.ofList [])).begin oneChoice).after [.run, .feed ["2"]]).currentNode =
        .ok (some node) ∧
      (((fresh (.ofList [])).begin oneChoice).after [.run, .feed ["2"]]).DealsUnlessOverlong node :=
  deals_unless_overlong (fresh (.ofList [])) (by decide : 0 < oneChoice.size)
    (by simp [Operation.Advances]) rfl

/-- A numeral with one digit more than can be read. -/
def overlongOnes : String :=
  String.ofList (List.replicate (Numeral.digitLimit + 1) '1')

/-- The answer of ones alone has no line end to lose. -/
theorem trimLineEnd_overlongOnes : trimLineEnd overlongOnes = overlongOnes := by
  simp [trimLineEnd, overlongOnes, Text.trimLineEnd, Text.isLineEnd]

/-- The answer of ones alone is a numeral with one digit too many. -/
theorem overlong_overlongOnes : Numeral.Overlong overlongOnes := by
  constructor <;> simp [overlongOnes, Numeral.isNumeral]

/-- Such a numeral is read at the choice, and the step fails with it. -/
theorem overlong_answer_fails :
    ((fresh (.ofList [overlongOnes])).begin oneChoice).halted = false ∧
      ((fresh (.ofList [overlongOnes])).begin oneChoice).answers.read.1 = .line overlongOnes ∧
        ((fresh (.ofList [overlongOnes])).begin oneChoice).step.fault =
          some (.numeral (.overlong (Numeral.digitLimit + 1))) := by
  have standing :
      ((fresh (.ofList [overlongOnes])).begin oneChoice).currentNode =
        .ok (some
          ⟨.branching "WAY" "Where to?" [⟨"out", terminal⟩] (List.cons_ne_nil _ _), none⟩) :=
    rfl
  have length : (trimLineEnd overlongOnes).toList.length = Numeral.digitLimit + 1 := by
    rw [trimLineEnd_overlongOnes]
    simp [overlongOnes]
  have overlong : Numeral.Overlong (trimLineEnd overlongOnes) := by
    rw [trimLineEnd_overlongOnes]
    exact overlong_overlongOnes
  refine ⟨rfl, rfl, ?_⟩
  rw [fault_step_iff standing, ← length]
  exact ⟨rfl, .overlong rfl overlong⟩

end Session

end Dialog
