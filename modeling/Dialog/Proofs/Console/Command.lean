import Dialog.Console

namespace Dialog.Console

/-!
# What a command line asks for

A command line with one argument that is a path asks to play the script there;
with the switch before it, to check that script. Once the surroundings name a
level of the log, the program does just that with what the path holds.
-/

/-- Whether an argument is taken for a path, and for one that may be looked up. -/
structure IsPath (argument : String) : Prop where
  classified : classify argument = .path argument
  lookedUp : (Path.ofString argument).hasNull = false

/-- A path may be looked up when the null character is not among its characters. -/
theorem isPath_of_nullFree
    {argument : String}
    (classified : classify argument = .path argument)
    (nullFree : decide ('\x00' ∈ (Path.ofString argument).text.toList) = false) :
    IsPath argument where
  classified := classified
  lookedUp := by rw [Path.hasNull, String.contains_char_eq, nullFree]

/-- The name of a file is a path. -/
theorem isPath_quest : IsPath "quest.txt" :=
  isPath_of_nullFree (by decide +kernel) (by decide +kernel)

/-- The name of a file and of the directories above it, from the root on, is a path. -/
theorem isPath_rootedQuest : IsPath "/srv/quest.txt" :=
  isPath_of_nullFree (by decide +kernel) (by decide +kernel)

/-- The level that the surroundings ask the log for, if it is one. -/
def Surroundings.level? (surroundings : Surroundings) : Option Log.Level :=
  Log.Level.named? (uppercase (surroundings.logLevel.getD "WARNING"))

/-- Surroundings that set nothing. -/
def Surroundings.bare : Surroundings :=
  ⟨none, none⟩

theorem Surroundings.level?_bare : bare.level? = some .warning := by
  decide +kernel

/-- Whether the file at a path holds a text. -/
def Files.Holds (files : Files) (path : Path) (text : String) : Prop :=
  ∃ bytes, files path = .ok bytes ∧ readTextFile bytes = .ok text

/-- What is to be done with the script that an argument leads to. -/
def taskOf (argument : String) (check : Bool) (level : Log.Level) : Task :=
  { path := .ofString argument, check, level }

theorem classify_check : classify "--check" = .switch .check none := by
  decide +kernel

namespace IsPath

variable {argument : String}

/-- Two dashes alone could be the beginning of any switch. -/
theorem ne_dashes (isPath : IsPath argument) : argument ≠ "--" := by
  rintro rfl
  have ambiguous : classify "--" = .ambiguous "--" := by decide +kernel
  exact absurd (isPath.classified.symm.trans ambiguous) (by decide)

/-- A path that ends the command line is the script to take, if there is none yet. -/
theorem read_path
    (isPath : IsPath argument)
    (script : String)
    (progress : Progress) :
    progress.read script [argument] = (progress.takePaths [argument]).finish script := by
  simp [Progress.read, isPath.ne_dashes, isPath.classified]

/-- The switch is noted, and what comes after it is read. -/
theorem read_check
    (script : String)
    (progress : Progress)
    (rest : List String) :
    progress.read script ("--check" :: rest) =
      { progress with check := true }.read script rest := by
  cases rest <;> simp [Progress.read, classify_check]

/-- One argument that is a path asks to play the script there. -/
theorem readArguments_play
    (isPath : IsPath argument)
    (script level : String) :
    readArguments script level [argument] =
      .settings { script := argument, logLevel := some level, check := false, trace := false } := by
  have unambiguous : firstAmbiguous [argument] = none := by
    simp [firstAmbiguous, isPath.ne_dashes, isPath.classified]
  simp only [readArguments, unambiguous, isPath.read_path]
  rfl

/-- The switch and an argument that is a path ask to check the script there. -/
theorem readArguments_check
    (isPath : IsPath argument)
    (script level : String) :
    readArguments script level ["--check", argument] =
      .settings { script := argument, logLevel := some level, check := true, trace := false } := by
  have unambiguous : firstAmbiguous ["--check", argument] = none := by
    simp [firstAmbiguous, isPath.ne_dashes, isPath.classified, classify_check]
  simp only [readArguments, unambiguous, read_check, isPath.read_path]
  rfl

variable {surroundings : Surroundings} {level : Log.Level}

/-- A command to play becomes the task to play, once there is a level of the log. -/
theorem plan_play
    (isPath : IsPath argument)
    (levelled : surroundings.level? = some level) :
    plan surroundings [argument] = .ok (.going (taskOf argument false level)) := by
  unfold Surroundings.level? at levelled
  simp only [plan, isPath.readArguments_play, Option.map_some, levelled, isPath.lookedUp]
  rfl

/-- A command to check becomes the task to check, once there is a level of the log. -/
theorem plan_check
    (isPath : IsPath argument)
    (levelled : surroundings.level? = some level) :
    plan surroundings ["--check", argument] = .ok (.going (taskOf argument true level)) := by
  unfold Surroundings.level? at levelled
  simp only [plan, isPath.readArguments_check, Option.map_some, levelled, isPath.lookedUp]
  rfl

/-- A path alone has the script there played. -/
theorem run_play
    (isPath : IsPath argument)
    (levelled : surroundings.level? = some level)
    (files : Files)
    (answers : Answers) :
    run surroundings files answers [argument] =
      play (taskOf argument false level) (files (.ofString argument)) answers := by
  simp only [run, isPath.plan_play levelled, taskOf, Bool.false_eq_true, if_false]

/-- The switch before a path has the script there checked. -/
theorem run_check
    (isPath : IsPath argument)
    (levelled : surroundings.level? = some level)
    (files : Files)
    (answers : Answers) :
    run surroundings files answers ["--check", argument] =
      check (taskOf argument true level) (files (.ofString argument)) := by
  simp only [run, isPath.plan_check levelled, taskOf, if_true]

end IsPath

end Dialog.Console
