import Dialog.Proofs.Console.Command
import Dialog.Proofs.Console.Display
import Dialog.Proofs.Console.Stream
import Dialog.Proofs.Outcome
import Dialog.Proofs.Session.Footprint

namespace Dialog.Console

/-!
# Playing a script at a console

To play a script at a console is to run a session over the lines that are typed.
All that the session writes comes after the banner, and all that it reports after
the warnings about the script. A session that went to its end leaves the program
without a fault, and one that found the console closed is told of last. No other
run ends the program in either way.
-/

/-- What is shown of a script that is taken up and of a run of it, until the program ends. -/
def relayed (path : Path) (script : Script) (events : List Event) : Output :=
  ⟨(banner path).out ++ String.join (chunks events),
    warningLines script.warnings ++ reportLines events⟩

/-- Banner, warnings and what a session tells are relayed in this order. -/
theorem relayed_eq
    (path : Path)
    (script : Script)
    (session : Session) :
    banner path ++ display .warning (script.warnings.map Event.warned ++ [.loaded script.size]) ++
        display .warning session.run.events =
      relayed path script session.run.events := by
  rw [display_loaded, display_run]
  show Output.mk ((banner path).out ++ "" ++ _) ("" ++ _ ++ _) = _
  rw [String.append_empty, String.empty_append]
  rfl

/-- How the program is left with a code, by what ended the session. -/
inductive Leaves : Ending → Exit → Prop where
  | halted : Leaves .halted ⟨0, .none⟩
  | faulty {fault : SessionFault} {told : String} :
      fault ≠ .interrupted →
      (∀ why, fault ≠ .numeral why) →
      Leaves (.failed fault) ⟨1, .toErr told⟩
  | interrupted : Leaves (.failed .interrupted) ⟨130, .toErr "\n"⟩

namespace Leaves

variable {ending : Ending} {exit : Exit}

/-- A run that closes leaves the program as its ending says. -/
theorem of_close (closes : close ending = .ok exit) : Leaves ending exit := by
  cases ending with
  | halted =>
      cases closes
      exact .halted
  | endless => cases closes
  | failed fault =>
      cases fault with
      | interrupted =>
          cases closes
          exact .interrupted
      | numeral => cases closes
      | noScript | finished | missingNode | inputClosed =>
          cases closes
          exact .faulty SessionFault.noConfusion fun _ => SessionFault.noConfusion

/-- A run leaves the program with 0, 1 or 130. -/
theorem code (leaves : Leaves ending exit) :
    exit.code = 0 ∨ exit.code = 1 ∨ exit.code = 130 := by
  cases leaves <;> simp

/-- Only a run that went to its end leaves the program without a fault. -/
theorem halted_of_zero
    (leaves : Leaves ending exit)
    (code : exit.code = 0) :
    ending = .halted := by
  cases leaves with
  | halted => rfl
  | faulty | interrupted => cases code

/-- Only a fault of the session itself leaves the program with 1. -/
theorem faulty_of_one
    (leaves : Leaves ending exit)
    (code : exit.code = 1) :
    ∃ fault, ending = .failed fault ∧ fault ≠ .interrupted ∧ ∀ why, fault ≠ .numeral why := by
  cases leaves with
  | faulty uninterrupted readable => exact ⟨_, rfl, uninterrupted, readable⟩
  | halted | interrupted => cases code

/-- Only an interrupt leaves the program with 130. -/
theorem interrupted_of_last
    (leaves : Leaves ending exit)
    (code : exit.code = 130) :
    ending = .failed .interrupted := by
  cases leaves with
  | interrupted => rfl
  | halted | faulty => cases code

end Leaves

variable {argument text : String} {script : Script} {files : Files}

/-- The session that a text is played in, and what is shown before it runs. -/
theorem enter_of_accepted
    {task : Task}
    {bytes : ByteArray}
    (decoded : readTextFile bytes = .ok text)
    (accepted : Script.load text = .ok script)
    (answers : Answers) :
    enter task (.ok bytes) answers =
      .ok (.going ((Session.fresh answers).begin script,
        banner task.path ++
          display task.level (script.warnings.map Event.warned ++ [.loaded script.size]))) := by
  simp only [enter, decoded, Session.load, accepted]

/-- What becomes of a play when the text makes no script. -/
theorem enter_of_refused
    {task : Task}
    {bytes : ByteArray}
    {fault : LoadFault}
    (decoded : readTextFile bytes = .ok text)
    (refused : Script.load text = .error fault)
    (answers : Answers) :
    enter task (.ok bytes) answers =
      (expect fault).map fun exit =>
        .ended { exit with output := banner task.path ++ exit.output } := by
  simp only [enter, decoded, Session.load, refused]

/-- A run of a session over lines, once it has taken up the script that a text describes. -/
def runOver (text : String) (lines : List String) : Session.Ran :=
  ((Session.fresh (.ofList lines)).load text).session.run

/-- A text that makes a script is run over the lines as that script is. -/
theorem runOver_of_accepted
    (accepted : Script.load text = .ok script)
    (lines : List String) :
    runOver text lines = ((Session.fresh (.ofList lines)).begin script).run := by
  simp only [runOver, Session.load, accepted]

/-- A run fails for nothing but a closed console, a numeral or an interrupt. -/
theorem sorted_of_runOver_failed
    {lines : List String}
    {fault : SessionFault}
    (accepted : Script.load text = .ok script)
    (failed : (runOver text lines).ending = .failed fault) :
    (∃ id, fault = .inputClosed id) ∨ (∃ why, fault = .numeral why) ∨ fault = .interrupted := by
  have plays : ((Session.fresh (.ofList lines)).begin script).Plays script :=
    Session.plays_begin _ (Script.load_eq_ok_iff.mp accepted).2
  rw [runOver_of_accepted accepted] at failed
  obtain ⟨_, _, _, _, blames⟩ := (Session.run_failed_iff plays).mp failed
  exact blames.sorted.imp_left fun closed => ⟨_, closed⟩

/-- A session with the answers held for a console does what one over the lines typed does. -/
theorem run_begin_answersOf
    (accepted : Script.load text = .ok script)
    (typed : String) :
    let ran := runOver text (linesOf (unifyLineEnds typed).toList)
    ((Session.fresh (answersOf typed none)).begin script).run.events = ran.events ∧
      ((Session.fresh (answersOf typed none)).begin script).run.ending = ran.ending := by
  simp only [runOver_of_accepted accepted]
  apply Session.run_eq_of_trimmed
  simp only [Session.trimmed, Session.begin, Session.start, Session.fresh, trimmed_answersOf]

/-- What a play shows is what is relayed of the session, and then what the end of it says. -/
theorem run_play_of_accepted
    (isPath : IsPath argument)
    (holds : files.Holds (.ofString argument) text)
    (accepted : Script.load text = .ok script)
    (typed : String) :
    let ran := runOver text (linesOf (unifyLineEnds typed).toList)
    run .bare files (answersOf typed none) [argument] =
      (close ran.ending).map fun exit =>
        { exit with output := relayed (.ofString argument) script ran.events ++ exit.output } := by
  obtain ⟨bytes, found, decoded⟩ := holds
  obtain ⟨sameEvents, sameEnding⟩ := run_begin_answersOf accepted typed
  rw [isPath.run_play Surroundings.level?_bare, found, play, enter_of_accepted decoded accepted]
  simp only [taskOf, relayed_eq]
  rw [sameEvents, sameEnding]

/-- What a program that plays a script shows and how it ends, given a run of a session of it. -/
structure Relays
    (path : Path)
    (script : Script)
    (ran : Session.Ran)
    (outcome : Except Crash Exit) :
    Prop where
  halted :
    ran.ending = .halted →
    outcome = .ok ⟨0, relayed path script ran.events⟩
  inputClosed :
    ∀ id, ran.ending = .failed (.inputClosed id) →
      outcome =
        .ok ⟨1, relayed path script ran.events ++
          .toErr "\nInput closed before the dialog finished\n"⟩
  halted_of_zero :
    ∀ output, outcome = .ok ⟨0, output⟩ →
      ran.ending = .halted
  inputClosed_of_one :
    ∀ output, outcome = .ok ⟨1, output⟩ →
      ∃ id, ran.ending = .failed (.inputClosed id)

/--
Whatever script a file holds and whatever is typed, the program shows and answers
what a session in memory does over the lines that are typed.
-/
theorem relays_of_accepted
    (isPath : IsPath argument)
    (holds : files.Holds (.ofString argument) text)
    (accepted : Script.load text = .ok script)
    (typed : String) :
    Relays (.ofString argument) script (runOver text (linesOf (unifyLineEnds typed).toList))
      (run .bare files (answersOf typed none) [argument]) := by
  rw [run_play_of_accepted isPath holds accepted typed]
  refine ⟨?_, ?_, ?_, ?_⟩
  · intro halted
    simp only [halted, close, Except.map, Output.append_none]
  · intro id closed
    simp only [closed, close, Except.map]
  · intro output shown
    obtain ⟨exit, closes, same⟩ := Outcome.map_eq_ok_iff.mp shown
    exact (Leaves.of_close closes).halted_of_zero (congrArg Exit.code same)
  · intro output shown
    obtain ⟨exit, closes, same⟩ := Outcome.map_eq_ok_iff.mp shown
    obtain ⟨fault, failed, uninterrupted, readable⟩ :=
      (Leaves.of_close closes).faulty_of_one (congrArg Exit.code same)
    rcases sorted_of_runOver_failed accepted failed with closed | ⟨why, unreadable⟩ | interrupted
    · obtain ⟨id, rfl⟩ := closed
      exact ⟨id, failed⟩
    · exact absurd unreadable (readable why)
    · exact absurd interrupted uninterrupted

/-- A script that asks for a name until one is given. -/
def nameAsked : String :=
  "1\n1\n0\nNAME\nName?\n3\nBye $NAME"

/-- Files of which only one can be read, which holds a text; its path begins at the root. -/
def questOf (text : String) : Files :=
  fun path => if path = .ofString "/srv/quest.txt" then .ok text.toUTF8 else .error .missing

/-- First nothing is typed, and then a name without a line end. -/
theorem relays_of_accepted_nameAsked :
    ∃ script,
      IsPath "/srv/quest.txt" ∧ (questOf nameAsked).Holds (.ofString "/srv/quest.txt") nameAsked ∧
        Script.load nameAsked = .ok script ∧
          Relays (.ofString "/srv/quest.txt") script
            (runOver nameAsked (linesOf (unifyLineEnds "\nAda").toList))
            (run .bare (questOf nameAsked) (answersOf "\nAda" none) ["/srv/quest.txt"]) := by
  have loads : (Script.load nameAsked).toOption.isSome = true := by decide +kernel
  have holds : (questOf nameAsked).Holds (.ofString "/srv/quest.txt") nameAsked :=
    ⟨nameAsked.toUTF8, by decide +kernel, by decide +kernel⟩
  cases accepted : Script.load nameAsked with
  | error fault => simp [accepted, Except.toOption] at loads
  | ok script =>
      exact ⟨script, isPath_rootedQuest, holds, rfl,
        relays_of_accepted isPath_rootedQuest holds accepted _⟩

end Dialog.Console
