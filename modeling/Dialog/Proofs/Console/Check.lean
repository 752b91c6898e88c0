import Dialog.Proofs.Console.Play
import Dialog.Proofs.Graph.Census
import Dialog.Proofs.Script.Loading

namespace Dialog.Console

/-!
# Checking a script

To check a script is to go by hand through the stages that take it up, and to look
it over at the end. So a check passes just when a session of the script would
begin, and tells of the same fault when none would. The figures that it tells when
it passes are those of the records of the text and of the walks in its graph.
-/

variable {text : String} {script : Script} {fault : LoadFault} {task : Task} {bytes : ByteArray}

/-- To look a script over is to take it up, and to list the warnings about it. -/
theorem examine_eq (text : String) :
    examine text = (Script.load text).map fun script => (script, script.warnings) := by
  unfold examine Script.load
  cases described : Script.read text with
  | error fault => rfl
  | ok script =>
      show Except.bind script.playable _ = Except.map _ script.playable
      cases script.playable <;> rfl

/-- The line that tells of so many nodes, so many that are reached, and so many warnings. -/
def figuresLine (path : Path) (nodes reached warnings : Nat) : String :=
  s!"{path.text}: {nodes} node(s), {reached} reachable, " ++ s!"{warnings} warning(s)\n"

/-- Warnings are told on the error stream only. -/
theorem display_warned (level : Log.Level) (warnings : List Warning) :
    (display level (warnings.map .warned)).out = "" := by
  rw [display_out]
  induction warnings with
  | nil => rfl
  | cons warning rest inductionHypothesis => exact inductionHypothesis

/-- A script that is taken up passes the check, which tells its figures. -/
theorem check_of_accepted
    (decoded : readTextFile bytes = .ok text)
    (accepted : Script.load text = .ok script) :
    check task (.ok bytes) =
      .ok ⟨0,
        figuresLine task.path script.size (script.graph.reachable 0).length
          script.warnings.length,
        (display task.level (script.warnings.map .warned)).err⟩ := by
  simp only [check, decoded, examine_eq, accepted, Except.map]
  show Except.ok (Exit.mk 0 (Output.mk ((display task.level _).out ++ _) (_ ++ ""))) = _
  rw [display_warned, String.empty_append, String.append_empty]
  rfl

/-- A text that makes no script ends the check with its fault, if that is expected. -/
theorem check_of_refused
    (decoded : readTextFile bytes = .ok text)
    (refused : Script.load text = .error fault) :
    check task (.ok bytes) = expect fault := by
  simp only [check, decoded, examine_eq, refused, Except.map]

/-- A fault that is not in a numeral is expected, and told of. -/
theorem expect_of_not_numeral
    (readable : ∀ why, fault ≠ .numeral why) :
    expect fault = .ok ⟨1, .toOut (errorLine fault.message)⟩ := by
  cases fault with
  | numeral why => exact absurd rfl (readable why)
  | grammar | unknownRecord | tooFewLines | tooManyLines | invalid | unusable | empty => rfl

/-- Whether a command line has a script played, and a session of the script is begun. -/
def Starts
    (surroundings : Surroundings)
    (files : Files)
    (answers : Answers)
    (arguments : List String) :
    Prop :=
  ∃ task session opening,
    plan surroundings arguments = .ok (.going task) ∧
      task.check = false ∧
        enter task (files task.path) answers = .ok (.going (session, opening))

variable {argument : String} {surroundings : Surroundings} {level : Log.Level}
  {files : Files}

/-- A command to play starts just when its script is taken up. -/
theorem IsPath.starts_iff
    (isPath : IsPath argument)
    (levelled : surroundings.level? = some level)
    (answers : Answers) :
    Starts surroundings files answers [argument] ↔
      ∃ session opening,
        enter (taskOf argument false level) (files (.ofString argument)) answers =
          .ok (.going (session, opening)) := by
  constructor
  · intro starts
    obtain ⟨task, session, opening, planned, _, entered⟩ := starts
    rw [isPath.plan_play levelled] at planned
    cases planned
    exact ⟨session, opening, entered⟩
  · intro enters
    obtain ⟨session, opening, entered⟩ := enters
    exact ⟨_, session, opening, isPath.plan_play levelled, rfl, entered⟩

/-- What a check of a text tells of a play of it, and of the text. -/
structure Foretells
    (path : Path)
    (level : Log.Level)
    (text : String)
    (checked played : Except Crash Exit)
    (starts : Prop) :
    Prop where
  passes_iff :
    (∃ output, checked = .ok ⟨0, output⟩) ↔ starts
  refused :
    ¬starts →
    ∃ fault,
      Script.load text = .error fault ∧
        checked = .ok ⟨1, .toOut (errorLine fault.message)⟩ ∧
          played = .ok ⟨1, banner path ++ .toOut (errorLine fault.message)⟩
  counted :
    starts →
    ∃ script forms,
      Script.load text = .ok script ∧
        Script.Tells text forms ∧
          1 ≤ script.reached.ncard ∧
            script.reached.ncard ≤ forms.length ∧
              checked =
                .ok ⟨0,
                  figuresLine path forms.length script.reached.ncard
                    (forms.length - script.reached.ncard + script.caught.ncard),
                  (display level (script.warnings.map .warned)).err⟩

/-- A check that tells of a fault foretells a play that tells of the same fault. -/
theorem foretells_of_refused
    {path : Path}
    {starts : Prop}
    (stopped : ¬starts)
    (refused : Script.load text = .error fault) :
    Foretells path level text (.ok ⟨1, .toOut (errorLine fault.message)⟩)
      (.ok ⟨1, banner path ++ .toOut (errorLine fault.message)⟩) starts where
  passes_iff := by simp [stopped]
  refused := fun _ => ⟨fault, refused, rfl, rfl⟩
  counted := fun started => absurd started stopped

/-- A check that passes foretells a play that starts, and its figures count what they say. -/
theorem foretells_of_accepted
    {path : Path}
    {played : Except Crash Exit}
    {starts : Prop}
    (started : starts)
    (accepted : Script.load text = .ok script) :
    Foretells path level text
      (.ok ⟨0,
        figuresLine path script.size (script.graph.reachable 0).length script.warnings.length,
        (display level (script.warnings.map .warned)).err⟩)
      played starts := by
  have playable : 0 < script.size := (Script.load_eq_ok_iff.mp accepted).2
  obtain ⟨forms, tells, counted⟩ := Script.exists_tells_of_load accepted
  have bounds := script.reached_ncard_bounds playable
  rw [Script.length_reachable playable, Script.length_warnings playable, counted]
  exact
    { passes_iff := ⟨fun _ => started, fun _ => ⟨_, rfl⟩⟩
      refused := fun stopped => absurd started stopped
      counted := fun _ =>
        ⟨script, forms, accepted, tells, bounds.1, counted ▸ bounds.2, rfl⟩ }

/--
Where no numeral is too long, a check passes just when a play of the script starts,
tells of the fault that the play tells of, and counts the records and what is reached.
-/
theorem check_foretells
    (isPath : IsPath argument)
    (levelled : surroundings.level? = some level)
    (holds : files.Holds (.ofString argument) text)
    (short : ∀ forms, Script.Tells text forms → ¬Script.Overlong forms)
    (answers : Answers) :
    Foretells (.ofString argument) level text
      (run surroundings files answers ["--check", argument])
      (run surroundings files answers [argument])
      (Starts surroundings files answers [argument]) := by
  obtain ⟨bytes, found, decoded⟩ := holds
  rw [isPath.run_check levelled, isPath.run_play levelled, isPath.starts_iff levelled, found]
  cases loaded : Script.load text with
  | error fault =>
      have readable : ∀ why, fault ≠ .numeral why := by
        intro why same
        subst same
        obtain ⟨forms, tells, overlong⟩ := (Script.load_numeral_iff text).mp ⟨why, loaded⟩
        exact short forms tells overlong
      rw [check_of_refused decoded loaded, play, enter_of_refused decoded loaded,
        expect_of_not_numeral readable]
      refine foretells_of_refused ?_ loaded
      intro enters
      obtain ⟨session, opening, entered⟩ := enters
      cases entered
  | ok script =>
      rw [check_of_accepted decoded loaded]
      exact foretells_of_accepted ⟨_, _, enter_of_accepted decoded loaded answers⟩ loaded

/-- A script in which one of the nodes is never left, and another never entered. -/
def leftAlone : String :=
  "1\n0\n0\nNAME\nName?\n3\nBye $NAME"

/-- Its numerals are short, because it is taken up. -/
theorem check_foretells_leftAlone :
    IsPath "/srv/quest.txt" ∧
      Surroundings.bare.level? = some .warning ∧
        (questOf leftAlone).Holds (.ofString "/srv/quest.txt") leftAlone ∧
          (∀ forms, Script.Tells leftAlone forms → ¬Script.Overlong forms) ∧
            Foretells (.ofString "/srv/quest.txt") .warning leftAlone
              (run .bare (questOf leftAlone) (answersOf "Ada\n" none) ["--check", "/srv/quest.txt"])
              (run .bare (questOf leftAlone) (answersOf "Ada\n" none) ["/srv/quest.txt"])
              (Starts .bare (questOf leftAlone) (answersOf "Ada\n" none) ["/srv/quest.txt"]) := by
  have loads : (Script.load leftAlone).toOption.isSome = true := by decide +kernel
  have holds : (questOf leftAlone).Holds (.ofString "/srv/quest.txt") leftAlone :=
    ⟨leftAlone.toUTF8, by decide +kernel, by decide +kernel⟩
  have short : ∀ forms, Script.Tells leftAlone forms → ¬Script.Overlong forms := by
    intro forms tells overlong
    obtain ⟨why, refused⟩ := (Script.load_numeral_iff leftAlone).mpr ⟨forms, tells, overlong⟩
    rw [refused] at loads
    cases loads
  exact ⟨isPath_rootedQuest, Surroundings.level?_bare, holds, short,
    check_foretells isPath_rootedQuest Surroundings.level?_bare holds short _⟩

end Dialog.Console
