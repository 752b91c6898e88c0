import Dialog.Data.Writer
import Dialog.Proofs.Data.Telling
import Dialog.Proofs.Script.Construction
import Dialog.Proofs.Session.Balance
import Dialog.Proofs.Session.Safety

namespace Dialog

/-!
# Plain data and scripts

Data restates other data when it gives all that is given there, other than null fields
and fields that are empty lists, and perhaps gives more (`Data.Restated`). What restates
the plain data of a script reads back as the script. Data is read at all when it tells
nodes that make a script, whatever form its numbers have, and what is read is played
like any other script: a session that takes it up keeps what the engine keeps, unless
there is no node to begin at.
-/

namespace Data

/-! ## Restating data -/

/-- Whether data gives no more, as a field, than it gives by being left out. -/
def Omissible (data : Data) : Prop :=
  data = .null ∨ data = .list []

/--
Whether data is restated by other data: item by item in a list, and in an object field
by field, save that fields may be left out that can be and that any others may be added.
-/
inductive Restated : Data → Data → Prop where
  | same (data : Data) : Restated data data
  | list {items others : List Data}
      (each : List.Forall₂ Restated items others) :
      Restated (.list items) (.list others)
  | object {fields others : Fields}
      (kept : ∀ name data other, fields.lookup name = some data →
        others.lookup name = some other → Restated data other)
      (missing : ∀ name data, fields.lookup name = some data →
        others.lookup name = none → data.Omissible) :
      Restated (.object fields) (.object others)

/-- Whether fields restate a field with this data. -/
def Fields.Restate (fields : Fields) (name : String) (data : Data) : Prop :=
  (∃ other, fields.lookup name = some other ∧ Restated data other) ∨
    fields.lookup name = none ∧ data.Omissible

/-- What restates an object is an object that restates its fields. -/
theorem Restated.fields
    {fields : Fields}
    {data : Data}
    (restated : Restated (.object fields) data) :
    ∃ others : Fields, data = .object others ∧
      ∀ name field, fields.lookup name = some field → others.Restate name field := by
  cases restated with
  | same =>
      refine ⟨fields, rfl, ?_⟩
      intro name field found
      exact Or.inl ⟨field, found, .same field⟩
  | object kept missing =>
      rename_i others
      refine ⟨others, rfl, ?_⟩
      intro name field found
      cases given : others.lookup name with
      | some other => exact Or.inl ⟨other, given, kept name field other found given⟩
      | none => exact Or.inr ⟨given, missing name field found given⟩

/-- What restates a list is a list that restates it item by item. -/
theorem Restated.items
    {items : List Data}
    {data : Data}
    (restated : Restated (.list items) data) :
    ∃ others, data = .list others ∧ List.Forall₂ Restated items others := by
  cases restated with
  | same => exact ⟨items, rfl, List.forall₂_same.mpr fun item _ => .same item⟩
  | list each => exact ⟨_, rfl, each⟩

/-- What restates the data of each value in a list tells the values. -/
theorem Restated.tellsList
    {tells : Data → α → Prop}
    {write : α → Data}
    {values : List α}
    {data : Data}
    (restated : Restated (.list (values.map write)) data)
    (each : ∀ value other, Restated (write value) other → tells other value) :
    TellsList tells data values := by
  obtain ⟨others, rfl, pairs⟩ := restated.items
  have told : List.Forall₂ (fun value other => tells other value) values others :=
    (List.forall₂_map_left_iff.mp pairs).imp each
  exact .list told.flip

/-- What restates a text tells it. -/
theorem Restated.tellsText
    {value : String}
    {data : Data}
    (restated : Restated (.text value) data) :
    TellsText data value := by
  cases restated
  exact .text value

/-- What restates a whole number stands for it. -/
theorem Restated.standsFor
    {whole : Int}
    {data : Data}
    (restated : Restated (.integer whole) data) :
    StandsFor data whole := by
  cases restated
  exact .integer whole

/-- A text may not be left out. -/
theorem not_omissible_text (value : String) : ¬(Data.text value).Omissible := by
  simp [Omissible]

/-- A whole number may not be left out. -/
theorem not_omissible_integer (whole : Int) : ¬(Data.integer whole).Omissible := by
  simp [Omissible]

/-- A list may be left out when nothing is listed. -/
theorem omissible_list_map_iff
    {write : α → Data}
    {values : List α} :
    (Data.list (values.map write)).Omissible ↔ values = [] := by
  simp [Omissible]

namespace Fields.Restate

variable {fields : Fields} {name : String} {data : Data} {reading : Data → α → Prop}
  {absent value : α}

/-- A field that may not be left out tells what its data tells however that is restated. -/
theorem tells
    (restate : fields.Restate name data)
    (needed : ¬data.Omissible)
    (told : ∀ other, Restated data other → reading other value) :
    fields.Tells name reading value := by
  rcases restate with ⟨other, found, restated⟩ | ⟨_, omissible⟩
  · exact ⟨other, found, told other restated⟩
  · exact absurd omissible needed

/-- A field tells what its data tells, or is left out where that is what is taken then. -/
theorem tellsOr
    (restate : fields.Restate name data)
    (empty : data.Omissible → value = absent)
    (told : ∀ other, Restated data other → reading other value) :
    fields.TellsOr name reading absent value := by
  rcases restate with ⟨other, found, restated⟩ | ⟨missing, omissible⟩
  · exact Or.inl ⟨other, found, told other restated⟩
  · exact Or.inr ⟨missing, empty omissible⟩

/-- A field that restates a text tells it. -/
theorem tellsText
    {value : String}
    (restate : fields.Restate name (.text value)) :
    fields.Tells name TellsText value :=
  restate.tells (not_omissible_text value) fun _ => Restated.tellsText

/-- A field that restates an id tells it as a destination. -/
theorem tellsDestination
    {id : Nat}
    (restate : fields.Restate name (.integer id)) :
    fields.Tells name TellsDestination id :=
  restate.tells (not_omissible_integer id) fun _ => Restated.standsFor

end Fields.Restate

/-! ## The plain data of a script, restated -/

/-- The data of a line is restated by the same data, which may be left out if it is null. -/
theorem tellsOr_line
    {line : Option Int}
    {fields : Fields}
    (restate : fields.Restate "line" (ofLine line)) :
    fields.TellsOr "line" TellsLine none line := by
  cases line with
  | none =>
      refine restate.tellsOr (fun _ => rfl) fun other restated => ?_
      cases restated
      exact .null
  | some line =>
      have needed : ¬(ofLine (some line)).Omissible := not_omissible_integer line
      exact Or.inl (restate.tells needed fun other restated => .line restated.standsFor)

/-- What restates the plain data of a choice tells the choice. -/
theorem tellsChoice_of_restated
    {choice : Choice}
    {data : Data}
    (restated : Restated (ofChoice choice) data) :
    TellsChoice data choice := by
  obtain ⟨others, rfl, restate⟩ := restated.fields
  exact .object (restate "text" _ rfl).tellsText (restate "destination" _ rfl).tellsDestination

/--
What restates the plain data of a node tells the node. An empty list may be left out of it,
but a branching node has a choice, so its options may not.
-/
theorem tellsNode_of_restated
    {node : Node}
    {data : Data}
    (restated : Restated (ofNode node) data) :
    TellsNode data node := by
  obtain ⟨body, line⟩ := node
  obtain ⟨others, rfl, restate⟩ := restated.fields
  have kind : others.Tells "kind" TellsText body.kind.name := (restate "kind" _ rfl).tellsText
  cases body with
  | question success fail name prompts =>
      have place := tellsOr_line (restate "line" _ rfl)
      have shown : others.TellsOr "prompts" (TellsList TellsText) [] prompts :=
        (restate "prompts" _ rfl).tellsOr omissible_list_map_iff.mp fun _ given =>
          given.tellsList fun _ _ => Restated.tellsText
      refine .object kind ⟨?_, ?_, ?_, shown⟩ place
      · exact (restate "success" _ rfl).tellsDestination
      · exact (restate "fail" _ rfl).tellsDestination
      · exact (restate "variable" _ rfl).tellsText
  | branching name asked options nonempty =>
      have place := tellsOr_line (restate "line" _ rfl)
      have needed : ¬(Data.list (options.map ofChoice)).Omissible :=
        mt omissible_list_map_iff.mp nonempty
      have offered : others.Tells "options" (TellsList TellsChoice) options :=
        (restate "options" _ rfl).tells needed fun _ given =>
          given.tellsList fun _ _ => tellsChoice_of_restated
      refine .object kind ⟨?_, ?_, offered⟩ place
      · exact (restate "variable" _ rfl).tellsText
      · exact (restate "question" _ rfl).tellsText
  | terminating message =>
      exact .object kind (restate "message" _ rfl).tellsText (tellsOr_line (restate "line" _ rfl))

/-- What restates the plain data of a script tells its nodes. -/
theorem tells_of_restated
    {script : Script}
    {data : Data}
    (restated : Restated (ofScript script) data) :
    Tells data script.nodes.toList := by
  obtain ⟨others, rfl, restate⟩ := restated.fields
  have listed := restate "nodes" _ rfl
  refine .object (listed.tellsOr omissible_list_map_iff.mp fun _ given => ?_)
  exact given.tellsList fun _ _ => tellsNode_of_restated

/-! ## The scripts that data gives -/

/-- Data is read when the nodes that it tells make a script. -/
theorem exists_readScript_iff
    {data : Data} :
    (∃ script, readScript data = .ok script) ↔
      ∃ nodes, Tells data nodes ∧ nodes.length ≤ terminal ∧
        ∀ node ∈ nodes, ∀ destination ∈ node.destinations,
          Script.Present nodes.length destination := by
  constructor
  · rintro ⟨script, given⟩
    have told := readScript_eq_ok_iff.mp given
    have made : Script.ofNodes script.nodes.toList = .ok script :=
      Script.ofNodes_eq_ok_iff.mpr rfl
    exact ⟨_, told, (Script.exists_ofNodes_iff_present _).mp ⟨script, made⟩⟩
  · rintro ⟨nodes, told, builds⟩
    obtain ⟨script, made⟩ := (Script.exists_ofNodes_iff_present nodes).mpr builds
    obtain rfl := Script.ofNodes_eq_ok_iff.mp made
    exact ⟨script, readScript_eq_ok_iff.mpr told⟩

/--
How data and a script correspond. The script is told in full by the data it is read
from, and it is sound: it offers at least one choice where it offers any, and leads
nowhere but to its nodes and to the end. What is read is taken up as if it had come
from a text, and from then on the session is safe and its counts balance, provided
that there is a node to begin at.
-/
structure Correspondence (data : Data) (script : Script) : Prop where
  restated : Restated (ofScript script) data → readScript data = .ok script
  told : readScript data = .ok script ↔ Tells data script.nodes.toList
  accepted :
    (∃ read, readScript data = .ok read) ↔
      ∃ nodes, Tells data nodes ∧ nodes.length ≤ terminal ∧
        ∀ node ∈ nodes, ∀ destination ∈ node.destinations,
          destination = terminal ∨ destination < nodes.length
  offers :
    readScript data = .ok script →
      ∀ node ∈ script.nodes, ∀ name asked options nonempty,
        node.body = .branching name asked options nonempty → options ≠ []
  leads :
    readScript data = .ok script →
      ∀ node ∈ script.nodes, ∀ destination ∈ node.destinations,
        destination = terminal ∨ destination < script.size
  alike :
    readScript data = .ok script →
      ∀ text, Script.load text = .ok script → ∀ prior : Session,
        (prior.perform (.take script)).session = (prior.perform (.load text)).session
  safe :
    readScript data = .ok script → 0 < script.size →
      ∀ (prior : Session) (history : List Session.Operation),
        (∀ operation ∈ history, operation.IsEngine) →
          ∃ taken, ((prior.perform (.take script)).session.after history).Safe taken ∧
            ∀ bound,
              (((prior.perform (.take script)).session.after history).runWithin bound).session.Safe
                taken
  balanced :
    readScript data = .ok script → 0 < script.size →
      ∀ prior : Session, prior.answers.interruptIn = none →
        ∀ history : List Session.Operation, (∀ operation ∈ history, operation.Advances) →
          Session.Balances (prior.perform (.take script)).session
            ((prior.perform (.take script)).session.after history)
            ((prior.perform (.take script)).session.stepsOf history)
            ((prior.perform (.take script)).session.eventsOf history)

/-- Plain data and scripts correspond, and what is read from data is played like any script. -/
theorem corresponds
    (data : Data)
    (script : Script) :
    Correspondence data script where
  restated := fun restated => readScript_eq_ok_iff.mpr (tells_of_restated restated)
  told := readScript_eq_ok_iff
  accepted := exists_readScript_iff
  offers := fun _ _ _ _ _ _ nonempty _ => nonempty
  leads := fun _ => script.closed
  alike := by
    intro _ text loaded prior
    simp only [Session.perform, Session.load, loaded]
  safe := by
    intro _ playable prior history engine
    have begun : (prior.perform (.take script)).session.InPlay :=
      ⟨script, playable, prior.plays_begin playable⟩
    have kept : ((prior.perform (.take script)).session.after history).InPlay :=
      Session.after_keeps Session.Operation.IsEngine Session.InPlay
        (fun _ _ allowed before => before.perform allowed) engine begun
    obtain ⟨taken, _, plays⟩ := kept
    refine ⟨taken, plays.safe, fun bound => ?_⟩
    exact (plays.course (Session.runWithin_course bound _)).safe
  balanced := by
    intro _ playable prior uninterrupted history advancing
    have balanced := Session.balances_begin prior script
    have plays := prior.plays_begin playable
    have itinerary := Session.itinerary_of_advancing advancing (prior.begin script)
    exact itinerary.balances balanced plays uninterrupted

/-- The script of an empty listing. -/
def noNodes : Script where
  nodes := #[]
  size_le := by decide
  closed := by simp

/-- An empty listing is accepted, but who takes it up stands at a node that is not there. -/
theorem empty_listing_is_not_safe :
    readScript (.object [("nodes", .list [])]) = .ok noNodes ∧
      ((Session.fresh (.ofList [])).perform (.take noNodes)).outcome = .done ∧
      ((Session.fresh (.ofList [])).perform (.take noNodes)).session.currentNode =
        .error (.missingNode 0) ∧
      ∀ taken, ¬((Session.fresh (.ofList [])).perform (.take noNodes)).session.Safe taken := by
  have nowhere :
      ((Session.fresh (.ofList [])).perform (.take noNodes)).session.currentNode =
        .error (.missingNode 0) := by
    show Except.error (SessionFault.absent 0) = Except.error (.missingNode 0)
    rw [SessionFault.absent, if_pos (by decide +kernel)]
  refine ⟨rfl, rfl, nowhere, ?_⟩
  intro taken safe
  obtain ⟨node, known⟩ := safe.node
  rw [nowhere] at known
  cases known

end Data

end Dialog
