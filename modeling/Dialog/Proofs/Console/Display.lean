import Dialog.Console
import Dialog.Proofs.Session.Itinerary

namespace Dialog

/-!
# What the console displays

Whatever is asked of the log, the first stream shows just what events write. The
second shows what they report, each report on a line of its own, among the
messages that are asked for. All that a session leaves in the log as it goes on
are details, which matter less than a warning; so where warnings are the least that
is asked for, its reports are all that the second stream shows of it.
-/

/-- Whether an event leaves nothing in the log but details. -/
def Event.IsDetail (event : Event) : Prop :=
  ∀ message, event.message? = some message → message.level = .debug

namespace Session

/-- Only warnings about a script are more than details. -/
theorem isDetail_of_unwarned
    {event : Event}
    (unwarned : ∀ warning, event ≠ .warned warning) :
    event.IsDetail := by
  intro message logged
  cases event with
  | warned warning => exact absurd rfl (unwarned warning)
  | runEnded steps fault =>
      cases fault with
      | none =>
          cases logged
          rfl
      | some fault => cases logged
  | loaded | bound | moved | rejected =>
      cases logged
      rfl
  | loadFailed | shown | stepEnded | padded => cases logged

theorem warned_not_mem_conclude
    (session : Session)
    (kind : Node.Kind)
    (shown : List Prompt)
    (response : Response)
    (warning : Warning) :
    Event.warned warning ∉ (session.conclude kind (shown.map Event.shown) response).events := by
  cases response <;> simp [conclude, carryOut, Response.fault?]

theorem warned_not_mem_step
    (session : Session)
    (warning : Warning) :
    Event.warned warning ∉ session.step.events := by
  by_cases somewhere : ∃ node, session.currentNode = .ok (some node)
  · obtain ⟨node, standing⟩ := somewhere
    obtain ⟨lastPrompt, answers, shown, response, _, stepped⟩ := step_standing standing
    rw [stepped]
    exact warned_not_mem_conclude _ node.kind shown response warning
  · have silent : session.step.events = [] :=
      (step_not_standing fun node standing => somewhere ⟨node, standing⟩).2
    rw [silent]
    exact List.not_mem_nil

/-- However a session goes on, no warning about a script is among its events. -/
theorem Course.unwarned
    {first last : Session}
    {events : List Event}
    (course : Course first events last)
    (warning : Warning) :
    Event.warned warning ∉ events := by
  induction course with
  | here => exact List.not_mem_nil
  | @step session events _ inductionHypothesis =>
      rw [List.mem_append, not_or]
      exact ⟨inductionHypothesis, warned_not_mem_step session warning⟩
  | feed _ _ inductionHypothesis => exact inductionHypothesis
  | close ending _ inductionHypothesis =>
      rw [List.mem_append, not_or]
      refine ⟨inductionHypothesis, ?_⟩
      cases ending <;> simp [closing]

/-- All that a run leaves in the log are details. -/
theorem isDetail_of_mem_run
    (session : Session)
    {event : Event}
    (member : event ∈ session.run.events) :
    event.IsDetail := by
  apply isDetail_of_unwarned
  intro warning same
  subst same
  exact session.run_course.unwarned warning member

end Session

namespace Console

namespace Output

@[simp]
theorem append_none (output : Output) : output ++ none = output := by
  show Output.mk (output.out ++ "") (output.err ++ "") = output
  simp only [String.append_empty]

end Output

/-- The lines that reports are shown as. -/
def reportLines (events : List Event) : String :=
  String.join ((reports events).map (· ++ "\n"))

/-- The lines that warnings about a script are shown as, as far as they can be worded. -/
def warningLines (warnings : List Warning) : String :=
  let worded := warnings.filterMap fun warning => warning.message.toOption
  String.join (worded.map fun text => "WARNING  " ++ text ++ "\n")

/-- The first stream shows what events write, one after the other. -/
theorem display_out
    (least : Log.Level)
    (events : List Event) :
    (display least events).out = String.join (chunks events) := by
  induction events with
  | nil => rfl
  | cons event rest inductionHypothesis =>
      simp only [display, chunks, List.map_cons, String.join_cons] at inductionHypothesis ⊢
      rw [inductionHypothesis]
      cases written : event.written? <;> simp [displayEvent, written]

/-- Of details the second stream shows what they report, where warnings are asked for. -/
theorem display_err_of_details
    {events : List Event}
    (details : ∀ event ∈ events, event.IsDetail) :
    (display .warning events).err = reportLines events := by
  induction events with
  | nil => rfl
  | cons event rest inductionHypothesis =>
      have shown := inductionHypothesis fun other member =>
        details other (List.mem_cons_of_mem event member)
      have unlogged : (event.message?.map (logLine .warning)).getD "" = "" := by
        cases logged : event.message? with
        | none => rfl
        | some message =>
            have level : message.level = .debug :=
              details event List.mem_cons_self message logged
            simp [logLine, level, Log.Level.rank]
      simp only [display, reportLines, reports, List.map_cons, String.join_cons] at shown ⊢
      rw [shown]
      cases reported : event.report? <;> simp [displayEvent, unlogged, reported]

/-- What is shown of a run, where warnings are asked for. -/
theorem display_run (session : Session) :
    display .warning session.run.events =
      ⟨String.join (chunks session.run.events), reportLines session.run.events⟩ := by
  rw [← display_out .warning, ← display_err_of_details fun _ => session.isDetail_of_mem_run]

/-- A warning has a line of the second stream. -/
theorem logLine_warning (text : String) :
    logLine .warning ⟨.warning, text⟩ = "WARNING  " ++ text ++ "\n" := by
  have padding : String.ofList (List.replicate (8 - "WARNING".length) ' ') = " " := by decide
  simp only [logLine, Log.Level.name, padding, Nat.le_refl, if_true]
  rfl

/-- When a script is taken up, the second stream shows the warnings about it. -/
theorem display_loaded (warnings : List Warning) (nodes : Nat) :
    display .warning (warnings.map Event.warned ++ [.loaded nodes]) =
      .toErr (warningLines warnings) := by
  induction warnings with
  | nil => rfl
  | cons warning rest inductionHypothesis =>
      simp only [display, Output.toErr, Output.mk.injEq, List.map_cons, List.cons_append,
        String.join_cons] at inductionHypothesis ⊢
      rw [inductionHypothesis.1, inductionHypothesis.2]
      cases worded : warning.message with
      | error fault =>
          simp [displayEvent, Event.written?, Event.message?, Event.report?, worded,
            Except.toOption, warningLines]
      | ok text =>
          simp [displayEvent, Event.written?, Event.message?, Event.report?, worded,
            Except.toOption, logLine_warning, warningLines]

end Console

end Dialog
