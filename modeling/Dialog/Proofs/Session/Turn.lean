import Dialog.Session.Step

namespace Dialog

/-!
# What a turn can do

A step at a node shows at most one prompt, reads at most one answer and carries
out one response. This module says once which responses a node may give and what
carrying one out does to the place of a session; the invariants of sessions are
derived from these facts and open neither the step nor the handlers of the nodes.
-/

namespace Node.Body

/-- Whether a session may stand at a node at an attempt: a question has a prompt left to show. -/
def Fits (attempt : Nat) : Node.Body → Prop
  | .question _ _ _ prompts => attempt < prompts.length ∨ prompts = [] ∧ attempt = 0
  | .branching .. => attempt = 0
  | .terminating _ => attempt = 0

/-- The first attempt fits every node. -/
theorem fits_zero (body : Node.Body) : body.Fits 0 := by
  cases body with
  | question success fail name prompts =>
      cases prompts with
      | nil => exact Or.inr ⟨rfl, rfl⟩
      | cons first rest => exact Or.inl (Nat.succ_pos rest.length)
  | branching name asked options nonempty => rfl
  | terminating message => rfl

end Node.Body

/-- Whether a response is one that a node may give at an attempt. -/
def Response.Suits (body : Node.Body) (attempt : Nat) : Response → Prop
  | .stay => body.Fits (attempt + 1)
  | .move destination => destination ∈ body.destinations
  | .accept _ _ destination => destination ∈ body.destinations
  | .reject _ _ => body.kind = .branching
  | .fail fault => fault.className ≠ "RuntimeFlowError"

namespace Choice

theorem mem_of_numbered?
    {options : List Choice}
    {number : Nat}
    {choice : Choice}
    (found : numbered? options number = some choice) :
    choice ∈ options := by
  cases number with
  | zero => simp [numbered?] at found
  | succ index => exact List.mem_of_getElem? found

/-- An option that an answer selects is one of the options. -/
theorem mem_of_select
    {options : List Choice}
    {answer : String}
    {choice : Choice}
    (chosen : select options answer = .chosen choice) :
    choice ∈ options := by
  unfold select at chosen
  split at chosen
  · cases chosen
  · split at chosen
    · split at chosen
      · cases chosen
      · split at chosen
        · rename_i found
          cases chosen
          exact mem_of_numbered? found
        · cases chosen
    · cases chosen

/-- A numeral selects the choice that it numbers. -/
theorem select_of_isNumeral
    {options : List Choice}
    {answer : String}
    (numeral : Numeral.isNumeral answer.toList = true) :
    select options answer =
      match Numeral.read answer.toList with
      | .error fault => .unreadable fault
      | .ok number =>
          match numbered? options number with
          | some choice => .chosen choice
          | none => .rejected .outOfRange := by
  have nonempty : ¬answer.isEmpty = true := by
    intro empty
    obtain rfl : answer = "" := String.isEmpty_iff.mp empty
    cases numeral
  unfold select
  exact (if_neg nonempty).trans (if_pos numeral)

end Choice

namespace Node.Body

/-- A question gives a response that suits it. -/
theorem answerQuestion_suits
    (success fail : Nat)
    (name : String)
    (prompts : List String)
    (attempt : Nat)
    (answer : String) :
    (answerQuestion success fail name prompts attempt answer).Suits
      (.question success fail name prompts) attempt := by
  unfold answerQuestion
  split
  · split
    · rename_i more
      exact Or.inl more
    · exact List.mem_cons_of_mem success List.mem_cons_self
  · exact List.mem_cons_self

/-- A branching node gives a response that suits it. -/
theorem answerBranching_suits
    (name asked : String)
    (options : List Choice)
    (nonempty : options ≠ [])
    (attempt : Nat)
    (answer : String) :
    (answerBranching name options answer).Suits
      (.branching name asked options nonempty) attempt := by
  unfold answerBranching
  split
  · rename_i choice chosen
    exact List.mem_map_of_mem (Choice.mem_of_select chosen)
  · rfl
  · simp [Response.Suits, SessionFault.className]

/-- Whatever is read, a node gives a response that suits it. -/
theorem respond_suits
    (id : Int)
    (attempt : Nat)
    (body : Node.Body)
    (reading : Reading) :
    (body.respond id attempt reading).Suits body attempt := by
  cases reading with
  | interrupted => simp [respond, Response.Suits, SessionFault.className]
  | closed =>
      cases body with
      | question | branching => simp [respond, Response.Suits, SessionFault.className]
      | terminating message => exact List.mem_cons_self
  | line raw =>
      cases body with
      | question success fail name prompts =>
          exact answerQuestion_suits success fail name prompts attempt (trimLineEnd raw)
      | branching name asked options nonempty =>
          exact answerBranching_suits name asked options nonempty attempt (trimLineEnd raw)
      | terminating message => exact List.mem_cons_self

/-- A question with a prompt for an attempt shows it. -/
theorem turn_question_of_lt
    (success fail : Nat)
    (name : String)
    (bindings : Bindings)
    {prompts : List String}
    {attempt : Nat}
    (shown : attempt < prompts.length) :
    turn bindings attempt (.question success fail name prompts) =
      .shows ⟨.question, bindings.resolve prompts[attempt], []⟩ := by
  simp [turn, shown]

/-- A question without prompts shows nothing. -/
theorem isPromptless_of_shows
    {bindings : Bindings}
    {attempt : Nat}
    {body : Node.Body}
    {prompt : Prompt}
    (shows : body.turn bindings attempt = .shows prompt) :
    body.isPromptless = false := by
  cases body with
  | question success fail name prompts =>
      cases prompts with
      | nil => cases shows
      | cons first rest => rfl
  | branching | terminating => rfl

/-- A node is left without a prompt for one of its destinations only. -/
theorem mem_destinations_of_leaves
    {bindings : Bindings}
    {attempt : Nat}
    {body : Node.Body}
    {destination : Nat}
    (leaves : body.turn bindings attempt = .leaves destination) :
    destination ∈ body.destinations := by
  cases body with
  | question success fail name prompts =>
      cases left : prompts[attempt]? with
      | some template => simp [turn, left] at leaves
      | none =>
          obtain rfl : fail = destination := by simpa [turn, left] using leaves
          exact List.mem_cons_of_mem success List.mem_cons_self
  | branching | terminating => cases leaves

/--
At an attempt that fits it, a node shows just what describing it there gives;
only a question that has nothing to show at all is left at once.
-/
theorem turn_of_fits
    {node : Node}
    {attempt : Nat}
    (fits : node.body.Fits attempt)
    (bindings : Bindings) :
    (∃ prompt,
      node.body.turn bindings attempt = .shows prompt ∧
        (Showable.node node).prompt bindings attempt = .ok prompt) ∨
      (node.body.isPromptless = true ∧
        ∃ destination, node.body.turn bindings attempt = .leaves destination) := by
  obtain ⟨body, line⟩ := node
  cases body with
  | question success fail name prompts =>
      rcases fits with shown | ⟨empty, first⟩
      · refine Or.inl ⟨⟨.question, bindings.resolve prompts[attempt], []⟩, ?_, ?_⟩
        · simp [turn, shown]
        · have position : position? prompts.length attempt = some attempt := if_pos shown
          simp only [Showable.prompt, Showable.attempts, position]
          simp [turn, shown, Except.bind]
      · subst empty
        exact Or.inr ⟨rfl, fail, by simp [turn]⟩
  | branching | terminating => exact Or.inl ⟨_, rfl, rfl⟩

end Node.Body

namespace Session

/-- The session that a node's turn leaves when its response is to be carried out. -/
def read (session : Session) (prompt : Prompt) : Session :=
  { session with lastPrompt := some prompt, answers := session.answers.read.2 }

/-- A step at a node that shows a prompt carries out the response to what is read. -/
theorem step_of_shows
    {session : Session}
    {node : Node}
    {prompt : Prompt}
    (standing : session.currentNode = .ok (some node))
    (shows : node.body.turn session.bindings session.attempt = .shows prompt) :
    session.step =
      (session.countStep.read prompt).conclude node.kind [.shown prompt]
        (node.body.respond session.current session.attempt session.answers.read.1) := by
  have shown :
      node.body.turn session.countStep.bindings session.countStep.attempt = .shows prompt :=
    shows
  simp only [step, standing, turn, shown]
  rfl

/-- A step at a node that is left at once moves to where it is left for. -/
theorem step_of_leaves
    {session : Session}
    {node : Node}
    {destination : Nat}
    (standing : session.currentNode = .ok (some node))
    (leaves : node.body.turn session.bindings session.attempt = .leaves destination) :
    session.step = session.countStep.conclude node.kind [] (.move destination) := by
  have left :
      node.body.turn session.countStep.bindings session.countStep.attempt = .leaves destination :=
    leaves
  simp only [step, standing, turn, left]

/--
All that a step at a node does: it counts itself, may show a prompt and read an
answer, and then carries out a response that suits the node.
-/
theorem step_standing
    {session : Session}
    {node : Node}
    (standing : session.currentNode = .ok (some node)) :
    ∃ lastPrompt answers, ∃ shown : List Prompt, ∃ response : Response,
      response.Suits node.body session.attempt ∧
        session.step =
          { session.countStep with lastPrompt, answers }.conclude node.kind
            (shown.map Event.shown) response := by
  cases turned : node.body.turn session.bindings session.attempt with
  | leaves destination =>
      refine ⟨session.lastPrompt, session.answers, [], .move destination, ?_, ?_⟩
      · exact Node.Body.mem_destinations_of_leaves turned
      · exact step_of_leaves standing turned
  | shows prompt =>
      refine ⟨some prompt, session.answers.read.2, [prompt], _, ?_, step_of_shows standing turned⟩
      exact Node.Body.respond_suits session.current session.attempt node.body _

/-- A step of a session that stands nowhere changes nothing. -/
theorem step_not_standing
    {session : Session}
    (nowhere : ∀ node, session.currentNode ≠ .ok (some node)) :
    session.step.session = session ∧ session.step.events = [] := by
  unfold step
  split
  · exact ⟨rfl, rfl⟩
  · exact ⟨rfl, rfl⟩
  · rename_i node standing
    exact absurd standing (nowhere node)

end Session

end Dialog
