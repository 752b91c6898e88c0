import Dialog.Proofs.Graph.Failure
import Dialog.Proofs.Session.Passage

namespace Dialog

/-!
# When a run ends

A step reads an answer, fails or ends the session, unless it is made at a question
without prompts, which is left at once for its failure. So between two readings a
run only fails from one such question to the next. It goes on for ever exactly
when it comes to one from which that never stops; otherwise it passes each of
them at most once between two readings, which bounds its steps.
-/

namespace Answers

/-- Reading a line leaves an answer less. -/
theorem length_of_read_line
    {answers : Answers}
    {text : String}
    (heard : answers.read.1 = .line text) :
    answers.read.2.unread.length + 1 = answers.unread.length := by
  unfold read at heard ⊢
  split
  · rename_i interrupted
    simp [interrupted] at heard
  · rename_i ready
    cases unread : answers.unread with
    | nil => simp [ready, unread] at heard
    | cons line rest => simp

end Answers

namespace Session

variable {script : Script} {session : Session} {id : Nat}

/-- No response reads an answer. -/
theorem answers_conclude
    (session : Session)
    (kind : Node.Kind)
    (before : List Event)
    (response : Response) :
    (session.conclude kind before response).session.answers = session.answers := by
  cases response <;> rfl

/-- No response counts a step. -/
theorem steps_conclude
    (session : Session)
    (kind : Node.Kind)
    (before : List Event)
    (response : Response) :
    (session.conclude kind before response).session.metrics.steps = session.metrics.steps := by
  cases response <;> rfl

/-- A step is counted once, as long as the session is running. -/
theorem steps_step
    (plays : session.Plays script)
    (running : session.halted = false) :
    session.step.session.metrics.steps = session.metrics.steps + 1 := by
  obtain ⟨_, _, _, _, _, standing⟩ := plays.standing running
  obtain ⟨_, _, _, _, _, stepped⟩ := step_standing standing
  rw [stepped, steps_conclude]
  rfl

/-- A passage counts as many steps as it makes. -/
theorem Passage.steps
    {first last : Session}
    {count : Nat}
    {events : List Event}
    (passage : Passage first count events last)
    (plays : first.Plays script) :
    last.metrics.steps = first.metrics.steps + count := by
  induction passage with
  | here => rfl
  | onward running _ _ inductionHypothesis =>
      rw [inductionHypothesis plays.step, steps_step plays running]
      omega

/-- A run makes no more steps than it is allowed. -/
theorem steps_runWithin_le
    (plays : session.Plays script)
    (bound : Nat) :
    (session.runWithin bound).session.metrics.steps ≤ session.metrics.steps + bound := by
  have stops := runWithin_cases bound session
  generalize session.runWithin bound = ran at stops
  cases stops with
  | halted passage within ended =>
      rw [passage.steps plays]
      omega
  | failed passage within running blamed =>
      rw [steps_step (passage.plays plays) running, passage.steps plays]
      omega
  | unfinished passage running => rw [passage.steps plays]

/-- A question without prompts is left for its failure, and nothing is read. -/
theorem step_of_promptless
    (plays : session.Plays script)
    (here : session.current = id)
    (promptless : script.isPromptless id = true) :
    session.halted = false ∧ session.step.fault = none ∧
      session.step.session.current = script.failure id ∧
        session.step.session.answers = session.answers := by
  obtain ⟨⟨body, line⟩, present, empty⟩ := Script.isPromptless_iff.mp promptless
  have standing : session.currentNode = .ok (some ⟨body, line⟩) :=
    currentNode_of_standing plays.1 here present
  cases body with
  | question success fail name prompts =>
      obtain rfl : prompts = [] := List.isEmpty_iff.mp empty
      have fails : script.failure id = fail := by simp [Script.failure, present]
      have left : Node.Body.turn session.bindings session.attempt (.question success fail name []) =
          .leaves fail := rfl
      rw [step_of_leaves standing left, answers_conclude, fails]
      exact ⟨halted_of_standing here present, rfl, rfl, rfl⟩
  | branching | terminating => cases empty

/-- Where failing leads from one question without prompts to the next, a session goes. -/
theorem exists_passage_failing
    {count : Nat}
    (plays : session.Plays script)
    (here : session.current = id)
    (passed :
      ∀ earlier < count, script.isPromptless (script.failure^[earlier] id) = true) :
    ∃ events last, Passage session count events last ∧
      last.current = (script.failure^[count] id : Nat) ∧ last.answers = session.answers := by
  induction count generalizing session id with
  | zero => exact ⟨[], session, .here session, here, rfl⟩
  | succ count inductionHypothesis =>
      obtain ⟨running, through, there, unread⟩ :=
        step_of_promptless plays here (passed 0 (Nat.succ_pos count))
      have passedThere :
          ∀ earlier < count,
            script.isPromptless (script.failure^[earlier] (script.failure id)) = true :=
        fun earlier before => passed (earlier + 1) (Nat.succ_lt_succ before)
      obtain ⟨events, last, passage, arrived, untouched⟩ :=
        inductionHypothesis plays.step there passedThere
      exact ⟨_, last, passage.onward running through, arrived, untouched.trans unread⟩

/-- Anywhere else a step fails, ends the session or reads an answer. -/
theorem step_of_prompting
    (plays : session.Plays script)
    (running : session.halted = false)
    (here : session.current = id)
    (prompting : script.isPromptless id = false) :
    (∃ fault, session.step.fault = some fault) ∨ session.step.session.halted = true ∨
      session.step.session.answers.unread.length + 1 = session.answers.unread.length := by
  obtain ⟨other, node, there, present, fits, standing⟩ := plays.standing running
  obtain rfl : other = id := Int.ofNat_inj.mp (there.symm.trans here)
  rcases Node.Body.turn_of_fits fits session.bindings with ⟨prompt, shows, _⟩ | ⟨empty, _⟩
  · rw [step_of_shows standing shows, answers_conclude]
    cases reading : session.answers.read.1 with
    | line text => exact Or.inr (Or.inr (Answers.length_of_read_line reading))
    | interrupted => exact Or.inl ⟨.interrupted, rfl⟩
    | closed =>
        cases body : node.body with
        | question | branching => exact Or.inl ⟨.inputClosed session.current, rfl⟩
        | terminating => exact Or.inr (Or.inl rfl)
  · rw [Script.isPromptless_iff.mpr ⟨node, present, empty⟩] at prompting
    cases prompting

/-- Whether a session comes to a node from which failing goes on for ever. -/
def ComesToFailForever (script : Script) (session : Session) : Prop :=
  ∃ count events last, Passage session count events last ∧
    ∃ id : Nat, last.current = id ∧ script.FailsForever id

/--
Unless failing goes on for ever, a run ends or reads an answer before it has made two steps
more than there are questions without prompts: failing stops before that many steps, and the
step after it reads unless it is the last.
-/
theorem ends_or_reads
    (plays : session.Plays script)
    (stops : ¬session.ComesToFailForever script) :
    ∃ count ≤ script.promptless + 1,
      (session.runWithin count).ending ≠ .endless ∨
        ∃ events next, Passage session count events next ∧
          next.answers.unread.length + 1 = session.answers.unread.length := by
  cases ended : session.halted with
  | true =>
      refine ⟨0, Nat.zero_le _, Or.inl ?_⟩
      simp [runWithin_of_halted ended]
  | false =>
      obtain ⟨id, _, here, _, _, _⟩ := plays.standing ended
      have leaves : ¬script.FailsForever id := fun forever =>
        stops ⟨0, [], session, .here session, id, here, forever⟩
      obtain ⟨count, few, other, passed⟩ := Script.exists_first_other leaves
      obtain ⟨events, last, passage, there, untouched⟩ :=
        exists_passage_failing plays here passed
      cases lastEnded : last.halted with
      | true =>
          refine ⟨count, Nat.le_succ_of_le few, Or.inl ?_⟩
          rw [← Nat.add_zero count, passage.ending_runWithin, runWithin_of_halted lastEnded]
          simp
      | false =>
          refine ⟨count + 1, Nat.succ_le_succ few, ?_⟩
          rw [passage.ending_runWithin]
          rcases step_of_prompting (passage.plays plays) lastEnded there other with
              failed | arrives | fewer
          · exact Or.inl (runWithin_ends_of_step lastEnded (Or.inl failed))
          · exact Or.inl (runWithin_ends_of_step lastEnded (Or.inr arrives))
          · cases outcome : last.step.fault with
            | some fault =>
                exact Or.inl (runWithin_ends_of_step lastEnded (Or.inl ⟨fault, outcome⟩))
            | none =>
                have onward := passage.trans (.single lastEnded outcome)
                exact Or.inr ⟨_, last.step.session, onward, by rw [fewer, untouched]⟩

/--
Unless failing goes on for ever, a run ends within the number of steps that it is allowed.
The induction is on the answers that are left; each round up to the next reading fits the
bound.
-/
theorem ends_within_stepBound
    (plays : session.Plays script)
    (stops : ¬session.ComesToFailForever script) :
    (session.runWithin (session.stepBound script)).ending ≠ .endless := by
  generalize unread : session.answers.unread.length = left
  induction left generalizing session with
  | zero =>
      obtain ⟨count, few, ended | ⟨_, next, _, fewer⟩⟩ := ends_or_reads plays stops
      · have within : count ≤ session.stepBound script := by simpa [stepBound, unread] using few
        rwa [runWithin_of_le ended within]
      · simp [unread] at fewer
  | succ left inductionHypothesis =>
      have bound :
          session.stepBound script =
            (left + 1) * (script.promptless + 1) + (script.promptless + 1) := by
        rw [stepBound, unread, Nat.succ_mul]
      obtain ⟨count, few, ended | ⟨events, next, passage, fewer⟩⟩ := ends_or_reads plays stops
      · rwa [runWithin_of_le ended (by omega)]
      · have nextUnread : next.answers.unread.length = left := by omega
        have nextStops : ¬next.ComesToFailForever script := by
          rintro ⟨more, later, last, continued, there⟩
          exact stops ⟨_, _, last, passage.trans continued, there⟩
        have nextEnds := inductionHypothesis (passage.plays plays) nextStops nextUnread
        have nextBound : next.stepBound script = (left + 1) * (script.promptless + 1) := by
          rw [stepBound, nextUnread]
        have ended : (session.runWithin (count + next.stepBound script)).ending ≠ .endless := by
          rwa [passage.ending_runWithin]
        rwa [runWithin_of_le ended (by omega)]

/-- A session never stops stepping exactly when it comes to where failing goes on for ever. -/
theorem endless_iff_comesToFailForever
    (plays : session.Plays script) :
    session.Endless ↔ session.ComesToFailForever script := by
  constructor
  · intro endless
    by_contra stops
    exact ends_within_stepBound plays stops (endless _)
  · rintro ⟨count, events, last, passage, id, there, forever⟩
    rw [passage.endless_iff]
    intro bound
    have passed : ∀ earlier < bound, script.isPromptless (script.failure^[earlier] id) = true :=
      fun earlier _ => forever earlier
    obtain ⟨later, latest, continued, arrived, _⟩ :=
      exists_passage_failing (passage.plays plays) there passed
    have running : latest.halted = false :=
      (step_of_promptless (continued.plays (passage.plays plays)) arrived (forever bound)).1
    rw [← Nat.add_zero bound, continued.ending_runWithin]
    simp [runWithin, running]

/-- What a run leaves behind with the note that closes it. -/
def Ran.closed (ran : Ran) : Ran :=
  { ran with events := ran.events ++ ran.session.closing ran.ending }

/-- A run makes at most as many steps as the bound of its script, and is closed. -/
theorem run_of_taken
    (taken : session.script = some script) :
    session.run = (session.runWithin (session.stepBound script)).closed := by
  simp [run, taken, Ran.closed]

/-- A run is given up as endless only when no number of steps would end it. -/
theorem run_endless_iff
    (plays : session.Plays script) :
    session.run.ending = .endless ↔ session.Endless := by
  rw [run_of_taken plays.1]
  constructor
  · intro unfinished
    rw [endless_iff_comesToFailForever plays]
    by_contra stops
    exact ends_within_stepBound plays stops unfinished
  · exact fun endless => endless _

/-- A run that ends within any number of steps is what is left behind by then. -/
theorem run_eq_of_ends
    {bound : Nat}
    (plays : session.Plays script)
    (ends : (session.runWithin bound).ending ≠ .endless) :
    session.run = (session.runWithin bound).closed := by
  have runEnds : session.run.ending ≠ .endless := fun unfinished =>
    ends ((run_endless_iff plays).mp unfinished bound)
  rw [run_of_taken plays.1] at runEnds ⊢
  rw [runWithin_eq_of_ends ends runEnds]

/--
A run from the beginning of a script goes on for ever exactly when it comes to a
question without prompts from which failing meets only such questions. Where
failing leads through no circle of them, it ends, with at most one step at each
of them and one more for every answer and for the end of the answers.
-/
theorem endless_iff_failing_forever
    (prior : Session)
    {script : Script}
    (playable : 0 < script.size) :
    ((prior.begin script).run.ending = .endless ↔ (prior.begin script).Endless) ∧
      ((prior.begin script).Endless ↔ (prior.begin script).ComesToFailForever script) ∧
        ((∀ id, ¬script.FailsInCircle id) →
          (prior.begin script).run.ending ≠ .endless ∧
            (prior.begin script).run.session.metrics.steps ≤
              (prior.answers.unread.length + 1) * (script.promptless + 1)) := by
  have begun : (prior.begin script).Plays script := prior.plays_begin playable
  refine ⟨run_endless_iff begun, endless_iff_comesToFailForever begun, fun straight => ?_⟩
  have stops : ¬(prior.begin script).ComesToFailForever script := by
    rintro ⟨_, _, _, _, _, _, forever⟩
    obtain ⟨middle, circle⟩ := forever.exists_inCircle
    exact straight middle circle
  constructor
  · rw [run_of_taken begun.1]
    exact ends_within_stepBound begun stops
  · rw [run_of_taken begun.1]
    have few := steps_runWithin_le begun ((prior.begin script).stepBound script)
    have fromZero : (prior.begin script).metrics.steps = 0 := rfl
    rwa [fromZero, Nat.zero_add] at few

/-- A question that is passed over on the way to another, which fails back to it. -/
def passedOver : Script where
  nodes :=
    #[⟨.question 2 1 "TITLE" [], none⟩,
      ⟨.question 2 0 "NAME" ["Who?"], none⟩,
      ⟨.terminating "Bye $NAME", none⟩]
  size_le := by decide
  closed := by simp [Node.destinations, Node.Body.destinations]

theorem passedOver_straight (id : Nat) : ¬passedOver.FailsInCircle id := by
  rintro ⟨count, positive, returned, passed⟩
  have empty : ∀ other, passedOver.isPromptless other = true → other = 0 := by
    intro other promptless
    obtain ⟨node, present, nothing⟩ := Script.isPromptless_iff.mp promptless
    rcases other with _ | _ | _ | other
    · rfl
    · cases present
      cases nothing
    · cases present
      cases nothing
    · cases present
  obtain rfl : id = 0 := empty id (passed 0 positive)
  rcases Nat.eq_or_lt_of_le (Nat.succ_le_of_lt positive) with rfl | more
  · cases returned
  · exact absurd (empty 1 (passed 1 more)) (by decide)

/-- The question is passed over twice, as the first answer is blank; the goodbye finds no answer. -/
theorem endless_iff_failing_forever_passedOver :
    ((fresh (.ofList ["", "Ada"])).begin passedOver).run.ending ≠ .endless ∧
      ((fresh (.ofList ["", "Ada"])).begin passedOver).run.session.metrics.steps ≤
        (2 + 1) * (1 + 1) :=
  (endless_iff_failing_forever (fresh (.ofList ["", "Ada"]))
    (by decide : 0 < passedOver.size)).2.2 passedOver_straight

end Session

end Dialog
