import Dialog.Proofs.Console.Check

namespace Dialog

/-!
# What the program does not expect

Bytes that spell no text and numerals that are too long are not expected where a
file is read, and a numeral that is too long is not expected of an answer either:
the program ends without an exit code. Of all else that a file may hold or a
player may do it tells, and it ends with an exit code.
-/

/-- Bytes hold a text when they are well-formed. -/
theorem readTextFile_ok_iff (bytes : ByteArray) :
    (∃ text, readTextFile bytes = .ok text) ↔ bytes.IsValidUTF8 := by
  unfold readTextFile Utf8.read String.fromUTF8?
  by_cases valid : bytes.IsValidUTF8 <;> simp [valid, Except.map]

namespace Console

/-- Whether a file holds bytes that spell no text, or records with a numeral that is too long. -/
inductive Files.Unforeseen (files : Files) (path : Path) : Prop where
  | notText {bytes : ByteArray} :
      files path = .ok bytes →
      ¬bytes.IsValidUTF8 →
      Unforeseen files path
  | overlong {text : String} {forms : List (List (List Char))} :
      files.Holds path text →
      Script.Tells text forms →
      Script.Overlong forms →
      Unforeseen files path

/-- Whether a file holds the text of a script that can be taken up. -/
def Files.Accepts (files : Files) (path : Path) (script : Script) : Prop :=
  ∃ text, files.Holds path text ∧ Script.load text = .ok script

variable {files : Files} {path : Path} {text : String} {script : Script}

theorem Files.Holds.unique
    {other : String}
    (holds : files.Holds path text)
    (holdsToo : files.Holds path other) :
    text = other := by
  obtain ⟨bytes, found, decoded⟩ := holds
  obtain ⟨others, foundToo, decodedToo⟩ := holdsToo
  obtain rfl : bytes = others := Except.ok.inj (found.symm.trans foundToo)
  exact Except.ok.inj (decoded.symm.trans decodedToo)

/-- Of a file that holds a text, only a numeral in the text is not expected. -/
theorem Files.Holds.unforeseen_iff
    (holds : files.Holds path text) :
    files.Unforeseen path ↔ ∃ why, Script.load text = .error (.numeral why) := by
  rw [Script.load_numeral_iff]
  constructor
  · intro unforeseen
    cases unforeseen with
    | notText found foul =>
        obtain ⟨bytes, foundToo, decoded⟩ := holds
        obtain rfl := Except.ok.inj (found.symm.trans foundToo)
        exact absurd ((readTextFile_ok_iff _).mp ⟨text, decoded⟩) foul
    | overlong holdsToo tells overlong =>
        obtain rfl := holds.unique holdsToo
        exact ⟨_, tells, overlong⟩
  · intro told
    obtain ⟨forms, tells, overlong⟩ := told
    exact .overlong holds tells overlong

theorem Files.Holds.accepts_iff
    (holds : files.Holds path text) :
    files.Accepts path script ↔ Script.load text = .ok script := by
  constructor
  · intro accepts
    obtain ⟨textToo, holdsToo, accepted⟩ := accepts
    obtain rfl := holds.unique holdsToo
    exact accepted
  · exact fun accepted => ⟨text, holds, accepted⟩

theorem Files.Accepts.foreseen
    (accepts : files.Accepts path script) :
    ¬files.Unforeseen path := by
  obtain ⟨text, holds, accepted⟩ := accepts
  intro unforeseen
  obtain ⟨why, refused⟩ := holds.unforeseen_iff.mp unforeseen
  cases accepted.symm.trans refused

theorem Files.Accepts.iff_eq
    (accepts : files.Accepts path script)
    (other : Script) :
    files.Accepts path other ↔ other = script := by
  obtain ⟨text, holds, accepted⟩ := accepts
  rw [holds.accepts_iff, accepted, Except.ok.injEq, eq_comm]

/-! ## How a session leaves the program -/

theorem close_eq_error_iff
    {ending : Ending}
    {crash : Crash} :
    close ending = .error crash ↔
      (ending = .endless ∧ crash = .endless) ∨
        ∃ why, ending = .failed (.numeral why) ∧ crash = .numeral why := by
  cases ending with
  | halted => simp [close]
  | endless => simp [close, eq_comm]
  | failed fault => cases fault <;> simp [close, eq_comm]

/-- A session that ends leaves the program without a code just when a numeral is not expected. -/
theorem close_escapes_iff
    {ending : Ending} :
    (∃ crash, close ending = .error crash ∧ crash ≠ .endless) ↔
      ∃ why, ending = .failed (.numeral why) := by
  simp only [close_eq_error_iff]
  constructor
  · intro escapes
    obtain ⟨crash, ⟨_, endless⟩ | ⟨why, failed, _⟩, stops⟩ := escapes
    · exact absurd endless stops
    · exact ⟨why, failed⟩
  · intro unreadable
    obtain ⟨why, failed⟩ := unreadable
    exact ⟨.numeral why, .inr ⟨why, failed, rfl⟩, Crash.noConfusion⟩

/-- Whatever was shown before, the last of the codes is that of an interrupt. -/
theorem close_interrupted_iff
    {ending : Ending}
    (shown : Output) :
    (∃ output,
        (close ending).map (fun exit => { exit with output := shown ++ exit.output }) =
          .ok ⟨130, output⟩) ↔
      ending = .failed .interrupted := by
  constructor
  · intro returned
    obtain ⟨output, closed⟩ := returned
    obtain ⟨exit, closes, same⟩ := Outcome.map_eq_ok_iff.mp closed
    exact (Leaves.of_close closes).interrupted_of_last (congrArg Exit.code same)
  · intro interrupted
    subst interrupted
    exact ⟨_, rfl⟩

/-- How the program handles a file that it checks or plays, and the answers that it is given. -/
structure Handles
    (files : Files)
    (path : Path)
    (answers : Answers)
    (checked played : Except Crash Exit) :
    Prop where
  check_escapes_iff :
    (∃ crash, checked = .error crash) ↔ files.Unforeseen path
  check_code :
    ∀ exit, checked = .ok exit → exit.code = 0 ∨ exit.code = 1
  play_escapes_iff :
    (∃ crash, played = .error crash ∧ crash ≠ .endless) ↔
      files.Unforeseen path ∨
        ∃ script why,
          files.Accepts path script ∧
            ((Session.fresh answers).begin script).ComesToBlame (.numeral why)
  play_endless_iff :
    played = .error .endless ↔
      ∃ script,
        files.Accepts path script ∧ ((Session.fresh answers).begin script).Endless
  play_code :
    ∀ exit, played = .ok exit → exit.code = 0 ∨ exit.code = 1 ∨ exit.code = 130
  play_interrupted_iff :
    (∃ output, played = .ok ⟨130, output⟩) ↔
      ∃ script,
        files.Accepts path script ∧
          ((Session.fresh answers).begin script).ComesToBlame .interrupted
  told :
    ¬files.Unforeseen path →
    (∀ script, ¬files.Accepts path script) →
    ∃ inCheck inPlay,
      checked = .ok ⟨1, .toOut (errorLine inCheck)⟩ ∧
        played = .ok ⟨1, banner path ++ .toOut (errorLine inPlay)⟩

variable {answers : Answers}

/-- A file that is told of leaves the program with the same code in a check and in a play. -/
theorem handles_of_told
    (foreseen : ¬files.Unforeseen path)
    (refused : ∀ script, ¬files.Accepts path script)
    (inCheck inPlay : String) :
    Handles files path answers (.ok ⟨1, .toOut (errorLine inCheck)⟩)
      (.ok ⟨1, banner path ++ .toOut (errorLine inPlay)⟩) where
  check_escapes_iff := by simp [foreseen]
  check_code := by simp
  play_escapes_iff := by simp [foreseen, refused]
  play_endless_iff := by simp [refused]
  play_code := by simp
  play_interrupted_iff := by simp [refused]
  told := fun _ _ => ⟨inCheck, inPlay, rfl, rfl⟩

/-- Where there is nothing to read, there is nothing that is not expected. -/
theorem handles_of_unread
    (unread : ∀ bytes, files path ≠ .ok bytes)
    (inCheck inPlay : String) :
    Handles files path answers (.ok ⟨1, .toOut (errorLine inCheck)⟩)
      (.ok ⟨1, banner path ++ .toOut (errorLine inPlay)⟩) := by
  have unheld : ∀ text, ¬files.Holds path text := by
    intro text holds
    obtain ⟨bytes, found, _⟩ := holds
    exact unread bytes found
  apply handles_of_told
  · intro unforeseen
    cases unforeseen with
    | notText found _ => exact unread _ found
    | overlong holds _ _ => exact unheld _ holds
  · intro script accepts
    obtain ⟨text, holds, _⟩ := accepts
    exact unheld text holds

/-- A file that holds what is not expected leaves the program without a code. -/
theorem handles_of_unforeseen
    {crash : Crash}
    (unforeseen : files.Unforeseen path)
    (stops : crash ≠ .endless) :
    Handles files path answers (.error crash) (.error crash) := by
  have refused : ∀ script, ¬files.Accepts path script := fun _ accepts =>
    accepts.foreseen unforeseen
  exact
    { check_escapes_iff := by simp [unforeseen]
      check_code := by simp
      play_escapes_iff := by simp [unforeseen, stops]
      play_endless_iff := by simp [refused, stops]
      play_code := by simp
      play_interrupted_iff := by simp [refused]
      told := fun foreseen => absurd unforeseen foreseen }

/-- A script that is taken up passes a check, and a play of it is left as its session ends. -/
theorem handles_of_accepts
    (accepts : files.Accepts path script)
    (answers : Answers)
    (summary shown : Output) :
    Handles files path answers (.ok ⟨0, summary⟩)
      ((close ((Session.fresh answers).begin script).run.ending).map fun exit =>
        { exit with output := shown ++ exit.output }) := by
  have plays : ((Session.fresh answers).begin script).Plays script := by
    obtain ⟨text, _, accepted⟩ := accepts
    exact Session.plays_begin _ (Script.load_eq_ok_iff.mp accepted).2
  have only : ∀ property : Script → Prop,
      (∃ other, files.Accepts path other ∧ property other) ↔ property script := by
    intro property
    simp only [accepts.iff_eq, exists_eq_left]
  exact
    { check_escapes_iff := by simp [accepts.foreseen]
      check_code := by simp
      play_escapes_iff := by
        simp only [accepts.foreseen, false_or, exists_and_left, only,
          ← Session.run_failed_iff plays, Outcome.map_eq_error_iff]
        exact close_escapes_iff
      play_endless_iff := by
        simp only [only, ← Session.run_endless_iff plays, Outcome.map_eq_error_iff,
          close_eq_error_iff]
        simp
      play_code := by
        intro exit played
        obtain ⟨given, closes, rfl⟩ := Outcome.map_eq_ok_iff.mp played
        exact (Leaves.of_close closes).code
      play_interrupted_iff := by
        simp only [only, ← Session.run_failed_iff plays]
        exact close_interrupted_iff shown
      told := fun _ refused => absurd accepts (refused script) }

/-- A text that makes no script is told of, or else its numerals are what is not expected. -/
theorem handles_of_refused
    {argument : String}
    {level : Log.Level}
    {bytes : ByteArray}
    {fault : LoadFault}
    (found : files (.ofString argument) = .ok bytes)
    (decoded : readTextFile bytes = .ok text)
    (refused : Script.load text = .error fault)
    (answers : Answers) :
    Handles files (.ofString argument) answers
      (check (taskOf argument true level) (.ok bytes))
      (play (taskOf argument false level) (.ok bytes) answers) := by
  have holds : files.Holds (.ofString argument) text := ⟨bytes, found, decoded⟩
  rw [check_of_refused decoded refused, play, enter_of_refused decoded refused]
  by_cases unforeseen : files.Unforeseen (.ofString argument)
  · obtain ⟨why, same⟩ := holds.unforeseen_iff.mp unforeseen
    obtain rfl : fault = .numeral why := Except.error.inj (refused.symm.trans same)
    exact handles_of_unforeseen unforeseen Crash.noConfusion
  · have readable : ∀ why, fault ≠ .numeral why := by
      intro why same
      subst same
      exact unforeseen (holds.unforeseen_iff.mpr ⟨why, refused⟩)
    have unaccepted : ∀ script, ¬files.Accepts (.ofString argument) script := by
      intro script accepts
      cases refused.symm.trans (holds.accepts_iff.mp accepts)
    rw [expect_of_not_numeral readable]
    exact handles_of_told unforeseen unaccepted _ _

/--
Whatever a file holds and whatever is typed, only what is unforeseen in the file, or an
answer that is too long a numeral, leaves the program without a code once it ends. Of all
else that is wrong with the file it tells, and it returns the code for that.
-/
theorem handles_unless_unforeseen
    {argument : String}
    {surroundings : Surroundings}
    {level : Log.Level}
    (isPath : IsPath argument)
    (levelled : surroundings.level? = some level)
    (files : Files)
    (answers : Answers) :
    Handles files (.ofString argument) answers
      (run surroundings files answers ["--check", argument])
      (run surroundings files answers [argument]) := by
  rw [isPath.run_check levelled, isPath.run_play levelled]
  cases found : files (.ofString argument) with
  | error fault =>
      have unread : ∀ bytes, files (.ofString argument) ≠ .ok bytes := by
        intro bytes foundToo
        cases found.symm.trans foundToo
      exact handles_of_unread unread _ _
  | ok bytes =>
      cases decoded : readTextFile bytes with
      | error fault =>
          have foul : ¬bytes.IsValidUTF8 := by
            intro valid
            obtain ⟨text, same⟩ := (readTextFile_ok_iff bytes).mpr valid
            cases decoded.symm.trans same
          simp only [check, play, enter, decoded]
          exact handles_of_unforeseen (.notText found foul) Crash.noConfusion
      | ok text =>
          cases loaded : Script.load text with
          | error fault => exact handles_of_refused found decoded loaded answers
          | ok script =>
              rw [check_of_accepted decoded loaded, play, enter_of_accepted decoded loaded]
              exact handles_of_accepts ⟨text, ⟨bytes, found, decoded⟩, loaded⟩ answers _ _

/-- At every path there is a file with a single byte, which begins no character. -/
def strayByte : Files :=
  fun _ => .ok ⟨#[0xff]⟩

/-- The file is one of those that are unforeseen. -/
theorem handles_unless_unforeseen_strayByte :
    IsPath "quest.txt" ∧
      Surroundings.bare.level? = some .warning ∧
        Handles strayByte (.ofString "quest.txt") (answersOf "" none)
          (run .bare strayByte (answersOf "" none) ["--check", "quest.txt"])
          (run .bare strayByte (answersOf "" none) ["quest.txt"]) :=
  ⟨isPath_quest, Surroundings.level?_bare,
    handles_unless_unforeseen isPath_quest Surroundings.level?_bare _ _⟩

/-- No code is returned for the file, and nothing is told of it. -/
theorem strayByte_escapes :
    run .bare strayByte (answersOf "" none) ["--check", "quest.txt"] =
        .error (.notText ⟨0xff, 0, 1, .invalidStart⟩) ∧
      run .bare strayByte (answersOf "" none) ["quest.txt"] =
        .error (.notText ⟨0xff, 0, 1, .invalidStart⟩) := by
  have found : strayByte (.ofString "quest.txt") = .ok ⟨#[0xff]⟩ := rfl
  have undecoded : readTextFile ⟨#[0xff]⟩ = .error ⟨0xff, 0, 1, .invalidStart⟩ := by
    decide +kernel
  rw [isPath_quest.run_check Surroundings.level?_bare,
    isPath_quest.run_play Surroundings.level?_bare, found]
  constructor
  · simp only [check, undecoded]
  · simp only [play, enter, undecoded]

end Console

end Dialog
