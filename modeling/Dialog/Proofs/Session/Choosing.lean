import Dialog.Proofs.Script.Loading
import Dialog.Proofs.Session.Asking

namespace Dialog

/-!
# Choosing by number

A branching node lists its options beside the numbers from one on, and an answer is
taken for the number that it denotes in decimal digits. The two are brought together
here: what is listed beside a number is what the number selects (`select_eq_chosen_iff`),
whatever the options say (`selects_iff`). Every other answer is turned down with one
of three messages, and the session stays as it is.
-/

namespace Numeral

/-- Whether a text is a nonempty run of ASCII digits, and of this decimal value. -/
structure Denotes (text : List Char) (number : Nat) : Prop where
  nonempty : text ≠ []
  digits : ∀ character ∈ text, character.isDigit = true
  value : value text = number

/-- A numeral is some digits and nothing else. -/
theorem isNumeral_iff
    {text : List Char} :
    isNumeral text = true ↔ text ≠ [] ∧ ∀ character ∈ text, character.isDigit = true := by
  simp [isNumeral]

/-- What denotes a number is a numeral. -/
theorem Denotes.isNumeral
    {text : List Char}
    {number : Nat}
    (denotes : Denotes text number) :
    isNumeral text = true :=
  isNumeral_iff.mpr ⟨denotes.nonempty, denotes.digits⟩

/-- A number is written as a text that denotes it. -/
theorem denotes_toString (number : Nat) : Denotes (toString number).toList number := by
  have written : (toString number).toList = write number := Nat.toList_repr
  obtain ⟨nonempty, digits⟩ := isNumeral_iff.mp (isNumeral_write number)
  rw [written]
  exact ⟨nonempty, digits, value_write number⟩

end Numeral

/-- The line that lists an option beside its number. -/
def Prompt.optionLine (number : Nat) (text : String) : String :=
  toString number ++ ". " ++ text ++ "\n"

/-- Texts are listed line by line, beside the numbers from the first one on. -/
theorem Prompt.listing_eq
    (number : Nat)
    (texts : List String) :
    listing number texts =
      String.join ((texts.zipIdx number).map fun entry => optionLine entry.2 entry.1) := by
  induction texts generalizing number with
  | nil => rfl
  | cons text rest inductionHypothesis =>
      rw [listing, inductionHypothesis, List.zipIdx_cons, List.map_cons, String.join_cons]
      rfl

namespace Choice

/-- Whether an answer selects the option with a number among so many, whatever these say. -/
def Selects (count : Nat) (answer : String) (number : Nat) : Prop :=
  ∀ options : List Choice, options.length = count →
    ∃ choice, (choice, number) ∈ options.zipIdx 1 ∧ select options answer = .chosen choice

/-- An option stands beside the number that is one more than its place. -/
theorem mem_zipIdx_iff
    {options : List Choice}
    {choice : Choice}
    {number : Nat} :
    (choice, number) ∈ options.zipIdx 1 ↔ 1 ≤ number ∧ options[number - 1]? = some choice :=
  List.mk_mem_zipIdx_iff_le_and_getElem?_sub

/-- The numbers beside which an option stands are those from one to how many there are. -/
theorem exists_mem_zipIdx_iff
    {options : List Choice}
    {number : Nat} :
    (∃ choice, (choice, number) ∈ options.zipIdx 1) ↔ 1 ≤ number ∧ number ≤ options.length := by
  simp only [mem_zipIdx_iff, exists_and_left, ← Option.isSome_iff_exists, isSome_getElem?,
    and_congr_right_iff]
  omega

variable {options : List Choice} {answer : String} {number : Nat} {choice : Choice}

/-- A number of few enough digits selects what is listed beside it. -/
theorem select_of_denotes
    (options : List Choice)
    (short : answer.toList.length ≤ Numeral.digitLimit)
    (denotes : Numeral.Denotes answer.toList number) :
    select options answer = (numbered? options number).elim (.rejected .outOfRange) .chosen := by
  have read : Numeral.read answer.toList = .ok number := by
    rw [Numeral.read_of_short denotes.isNumeral short, denotes.value]
  simp only [select_of_isNumeral denotes.isNumeral, read]
  cases numbered? options number <;> rfl

/-- The message that turns an answer down, by the first thing that is wrong with it. -/
inductive TurnedDownBy (answer : String) : String → Prop where
  | blank : answer = "" → TurnedDownBy answer "No choice entered"
  | unrecognized :
      answer ≠ "" →
      ¬(∀ character ∈ answer.toList, character.isDigit = true) →
      TurnedDownBy answer ("Unrecognized input: " ++ answer)
  | outOfRange :
      answer ≠ "" →
      (∀ character ∈ answer.toList, character.isDigit = true) →
      TurnedDownBy answer "Not a valid option!"

/-- What becomes of an answer: it denotes the number of an option, or is turned down. -/
inductive Sorted (options : List Choice) (answer : String) : Prop where
  | chosen (number : Nat) (choice : Choice) :
      Numeral.Denotes answer.toList number →
      (choice, number) ∈ options.zipIdx 1 →
      select options answer = .chosen choice →
      Sorted options answer
  | rejected (reason : Rejection) :
      (∀ number, Numeral.Denotes answer.toList number → ¬(1 ≤ number ∧ number ≤ options.length)) →
      TurnedDownBy answer (reason.message answer) →
      select options answer = .rejected reason →
      Sorted options answer

/-- An answer of few enough characters takes an option or is turned down. -/
theorem sorted_of_short
    (options : List Choice)
    (short : answer.toList.length ≤ Numeral.digitLimit) :
    Sorted options answer := by
  by_cases blank : answer = ""
  · subst blank
    exact .rejected .blank (fun _ denotes => absurd rfl denotes.nonempty) (.blank rfl) rfl
  have nonempty : answer.toList ≠ [] := by simpa using blank
  by_cases digits : ∀ character ∈ answer.toList, character.isDigit = true
  · have denotes : Numeral.Denotes answer.toList (Numeral.value answer.toList) :=
      ⟨nonempty, digits, rfl⟩
    have selected := select_of_denotes options short denotes
    cases named : numbered? options (Numeral.value answer.toList) with
    | some choice =>
        rw [named] at selected
        exact .chosen _ choice denotes (numbered?_eq_some_iff.mp named) selected
    | none =>
        rw [named] at selected
        refine .rejected .outOfRange ?_ (.outOfRange blank digits) selected
        rintro number other within
        obtain ⟨choice, listed⟩ := exists_mem_zipIdx_iff.mpr within
        rw [← numbered?_eq_some_iff, ← other.value, named] at listed
        cases listed
  · have noNumeral : ¬Numeral.isNumeral answer.toList = true := fun numeral =>
      digits (Numeral.isNumeral_iff.mp numeral).2
    refine .rejected .unrecognized (fun _ denotes => absurd denotes.digits digits)
      (.unrecognized blank digits) ?_
    rw [select, if_neg (by simpa using blank), if_neg noNumeral]

/-- An answer selects the option that is listed beside the number it denotes. -/
theorem select_eq_chosen_iff
    (short : answer.toList.length ≤ Numeral.digitLimit) :
    select options answer = .chosen choice ↔
      ∃ number, Numeral.Denotes answer.toList number ∧ (choice, number) ∈ options.zipIdx 1 := by
  constructor
  · intro chosen
    rcases sorted_of_short options short with
      ⟨number, other, denotes, listed, selected⟩ | ⟨reason, _, _, selected⟩
    · cases selected.symm.trans chosen
      exact ⟨number, denotes, listed⟩
    · cases selected.symm.trans chosen
  · rintro ⟨number, denotes, listed⟩
    rw [select_of_denotes options short denotes, numbered?_eq_some_iff.mpr listed, Option.elim_some]

/-- So many options, each of which leads to another destination. -/
def leadingApart (count : Nat) : List Choice :=
  (List.range count).map fun index => ⟨"", index⟩

/-- Options that lead apart tell their numbers by their destinations. -/
theorem number_of_leadingApart
    {count : Nat}
    (listed : (choice, number) ∈ (leadingApart count).zipIdx 1) :
    number = choice.destination + 1 := by
  obtain ⟨positive, found⟩ := mem_zipIdx_iff.mp listed
  obtain ⟨_, rfl⟩ := List.getElem?_eq_some_iff.mp found
  simp only [leadingApart, List.getElem_map, List.getElem_range]
  omega

/--
An answer selects the option with the number that it denotes, whatever the options say.
Options that lead apart tell by which number they were selected.
-/
theorem selects_iff
    {count : Nat}
    (short : answer.toList.length ≤ Numeral.digitLimit) :
    Selects count answer number ↔
      Numeral.Denotes answer.toList number ∧ 1 ≤ number ∧ number ≤ count := by
  constructor
  · intro selects
    obtain ⟨choice, listed, chosen⟩ := selects (leadingApart count) (by simp [leadingApart])
    obtain ⟨found, denotes, foundListed⟩ := (select_eq_chosen_iff short).mp chosen
    obtain rfl : number = found :=
      (number_of_leadingApart listed).trans (number_of_leadingApart foundListed).symm
    have within := exists_mem_zipIdx_iff.mp ⟨choice, listed⟩
    rw [leadingApart, List.length_map, List.length_range] at within
    exact ⟨denotes, within⟩
  · rintro ⟨denotes, within⟩ options rfl
    obtain ⟨choice, listed⟩ := exists_mem_zipIdx_iff.mpr within
    exact ⟨choice, listed, (select_eq_chosen_iff short).mpr ⟨number, denotes, listed⟩⟩

end Choice

namespace Session

variable {session : Session} {name asked answer raw : String} {options : List Choice}
  {nonempty : options ≠ []} {place : Option Int} {choice : Choice}

/-- A step that takes an option: its text is bound, and the session moves to its destination. -/
structure Takes (session : Session) (name : String) (choice : Choice) : Prop where
  passed : session.step.fault = none
  current : session.step.session.current = choice.destination
  attempt : session.step.session.attempt = 0
  bindings : session.step.session.bindings = session.bindings.bind name choice.text
  transitions : session.step.session.metrics.transitions = session.metrics.transitions + 1
  rejections : session.step.session.metrics.invalidInputs = session.metrics.invalidInputs
  unreported : reports session.step.events = []

/-- A step that turns an answer down with a message, which is reported and counted, and no more. -/
structure TurnsDown (session : Session) (message : String) : Prop where
  passed : session.step.fault = none
  current : session.step.session.current = session.current
  attempt : session.step.session.attempt = session.attempt
  bindings : session.step.session.bindings = session.bindings
  transitions : session.step.session.metrics.transitions = session.metrics.transitions
  rejections : session.step.session.metrics.invalidInputs = session.metrics.invalidInputs + 1
  reported : reports session.step.events = [message]

/-- At a branching node a step shows the options and answers the line that is read. -/
theorem step_of_branching
    (standing : session.currentNode = .ok (some ⟨.branching name asked options nonempty, place⟩))
    (heard : session.answers.read.1 = .line raw) :
    session.step =
      (session.countStep.read
          ⟨.branching, session.bindings.resolve asked, options.map Choice.text⟩).conclude
        .branching
        [.shown ⟨.branching, session.bindings.resolve asked, options.map Choice.text⟩]
        (Node.Body.answerBranching name options (trimLineEnd raw)) := by
  rw [step_of_shows standing rfl, heard]
  rfl

/-- A step takes the option that its answer selects. -/
theorem takes_of_chosen
    (standing : session.currentNode = .ok (some ⟨.branching name asked options nonempty, place⟩))
    (heard : session.answers.read.1 = .line raw)
    (chosen : Choice.select options (trimLineEnd raw) = .chosen choice) :
    session.Takes name choice := by
  have stepped := step_of_branching standing heard
  rw [Node.Body.answerBranching, chosen] at stepped
  constructor <;> rw [stepped] <;> rfl

/-- A step turns down an answer that is rejected, with the message of the reason. -/
theorem turnsDown_of_rejected
    {reason : Rejection}
    (standing : session.currentNode = .ok (some ⟨.branching name asked options nonempty, place⟩))
    (heard : session.answers.read.1 = .line raw)
    (rejected : Choice.select options (trimLineEnd raw) = .rejected reason) :
    session.TurnsDown (reason.message (trimLineEnd raw)) := by
  have stepped := step_of_branching standing heard
  rw [Node.Body.answerBranching, rejected] at stepped
  constructor <;> rw [stepped] <;> rfl

/-- What a step binds and where it moves tell which option it takes. -/
theorem Takes.unique
    {other : Choice}
    (takes : session.Takes name choice)
    (takesOther : session.Takes name other) :
    choice = other := by
  have sameText : choice.text = other.text := by
    have bound := congrArg (fun bindings => bindings.find? name)
      (takes.bindings.symm.trans takesOther.bindings)
    simpa [Bindings.find?_bind] using bound
  have sameDestination : choice.destination = other.destination :=
    Int.ofNat_inj.mp (takes.current.symm.trans takesOther.current)
  cases choice
  cases other
  simp_all

/-- A step takes an option just when its answer selects it. -/
theorem takes_iff_chosen
    (standing : session.currentNode = .ok (some ⟨.branching name asked options nonempty, place⟩))
    (heard : session.answers.read.1 = .line raw)
    (short : (trimLineEnd raw).toList.length ≤ Numeral.digitLimit) :
    session.Takes name choice ↔ Choice.select options (trimLineEnd raw) = .chosen choice := by
  refine ⟨fun takes => ?_, takes_of_chosen standing heard⟩
  rcases Choice.sorted_of_short options short with
    ⟨_, other, _, _, chosen⟩ | ⟨reason, _, _, rejected⟩
  · rw [chosen, takes.unique (takes_of_chosen standing heard chosen)]
  · have counted := (turnsDown_of_rejected standing heard rejected).rejections
    rw [takes.rejections] at counted
    exact absurd counted (Nat.ne_of_lt (Nat.lt_succ_self _))

/--
What a branching node makes of an answer. It selects an option just when it denotes
the number that the option is listed beside, and then that option is taken. An
answer that selects none is turned down with the message for what is wrong with it.
-/
structure ChoosesByNumber
    (session : Session)
    (name : String)
    (options : List Choice)
    (answer : String) :
    Prop where
  selects_iff :
    ∀ number, Choice.Selects options.length answer number ↔
      Numeral.Denotes answer.toList number ∧ 1 ≤ number ∧ number ≤ options.length
  takes_iff :
    ∀ choice, session.Takes name choice ↔
      ∃ number, Choice.Selects options.length answer number ∧
        (choice, number) ∈ options.zipIdx 1
  turnsDown :
    (∀ number, ¬Choice.Selects options.length answer number) →
      ∃ message, Choice.TurnedDownBy answer message ∧ session.TurnsDown message

/-- A branching node that hears an answer of few enough characters chooses by number. -/
theorem choosesByNumber_of_heard
    (standing : session.currentNode = .ok (some ⟨.branching name asked options nonempty, place⟩))
    (heard : session.answers.read.1 = .line raw)
    (short : (trimLineEnd raw).toList.length ≤ Numeral.digitLimit) :
    session.ChoosesByNumber name options (trimLineEnd raw) where
  selects_iff := fun _ => Choice.selects_iff short
  takes_iff := by
    intro choice
    rw [takes_iff_chosen standing heard short, Choice.select_eq_chosen_iff short]
    simp only [Choice.selects_iff short]
    constructor
    · rintro ⟨number, denotes, listed⟩
      exact ⟨number, ⟨denotes, Choice.exists_mem_zipIdx_iff.mp ⟨choice, listed⟩⟩, listed⟩
    · rintro ⟨number, ⟨denotes, _⟩, listed⟩
      exact ⟨number, denotes, listed⟩
  turnsDown := by
    intro selectsNone
    rcases Choice.sorted_of_short options short with
      ⟨number, other, denotes, listed, _⟩ | ⟨reason, _, message, rejected⟩
    · have within := Choice.exists_mem_zipIdx_iff.mp ⟨other, listed⟩
      exact absurd ((Choice.selects_iff short).mpr ⟨denotes, within⟩) (selectsNone number)
    · exact ⟨_, message, turnsDown_of_rejected standing heard rejected⟩

/--
Whether the number shown beside an option is the one that selects it: describing the
node lists every option beside its number, each number selects its option when it is
typed, and a step at the node chooses by the number that the answer denotes.
-/
structure NumbersOptions (session : Session) (node : Node) (name asked : String)
    (options : List Choice) : Prop where
  listed :
    ∀ (bindings : Bindings) (attempt : Int),
      ∃ prompt,
        (Showable.node node).prompt bindings attempt = .ok prompt ∧
          prompt.render =
            bindings.resolve asked ++ "\n" ++
              String.join ((options.zipIdx 1).map fun entry =>
                Prompt.optionLine entry.2 entry.1.text) ++
              "\n" ++ "Enter choice> "
  typed :
    ∀ number, 1 ≤ number → number ≤ options.length →
      (toString number).toList.length ≤ Numeral.digitLimit →
        Choice.Selects options.length (toString number) number
  chooses :
    ∀ raw, session.answers.read.1 = .line raw →
      (trimLineEnd raw).toList.length ≤ Numeral.digitLimit →
        session.ChoosesByNumber name options (trimLineEnd raw)

/-- At every branching node the number shown is the option chosen. -/
theorem numbers_options
    (standing : session.currentNode = .ok (some ⟨.branching name asked options nonempty, place⟩)) :
    session.NumbersOptions ⟨.branching name asked options nonempty, place⟩ name asked options where
  listed := by
    intro bindings attempt
    refine ⟨⟨.branching, bindings.resolve asked, options.map Choice.text⟩, rfl, ?_⟩
    have lines :
        Prompt.listing 1 (options.map Choice.text) =
          String.join ((options.zipIdx 1).map fun entry =>
            Prompt.optionLine entry.2 entry.1.text) := by
      rw [Prompt.listing_eq, List.zipIdx_map, List.map_map]
      rfl
    simp only [Prompt.render, Prompt.cue, Prompt.cueFor, lines]
  typed := by
    intro number positive within short
    exact (Choice.selects_iff short).mpr ⟨Numeral.denotes_toString number, positive, within⟩
  chooses := fun _ heard short => choosesByNumber_of_heard standing heard short

/-- A choice whose options say the same number twice, bind a name, and go round. -/
def misleading : Script where
  nodes :=
    #[⟨.branching "WAY" "Where to, $WAY?" [⟨"2", 0⟩, ⟨"$WAY", terminal⟩] (List.cons_ne_nil _ _),
        none⟩]
  size_le := by decide
  closed := by simp [Node.destinations, Node.Body.destinations]

/-- The second option is chosen with a zero in front, and its text is bound as it stands there. -/
theorem numbers_options_misleading :
    ((fresh (.ofList ["02\r\n"])).begin misleading).Takes "WAY" ⟨"$WAY", terminal⟩ := by
  have standing :
      ((fresh (.ofList ["02\r\n"])).begin misleading).currentNode =
        .ok (some ⟨.branching "WAY" "Where to, $WAY?" [⟨"2", 0⟩, ⟨"$WAY", terminal⟩]
          (List.cons_ne_nil _ _), none⟩) :=
    rfl
  have trimmed : (trimLineEnd "02\r\n").toList = ['0', '2'] := rfl
  have denotes : Numeral.Denotes (trimLineEnd "02\r\n").toList 2 := by
    rw [trimmed]
    exact ⟨List.cons_ne_nil _ _, by simp, rfl⟩
  have short : (trimLineEnd "02\r\n").toList.length ≤ Numeral.digitLimit := by
    rw [trimmed]
    decide
  have chooses := (numbers_options standing).chooses "02\r\n" rfl short
  have selects := (chooses.selects_iff 2).mpr ⟨denotes, by decide⟩
  exact (chooses.takes_iff _).mpr ⟨2, selects, by simp⟩

end Session

end Dialog
