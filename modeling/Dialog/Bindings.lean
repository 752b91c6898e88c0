namespace Dialog

/-!
# Bindings

The answers of a session are bound to names. A name keeps the place of its first
binding, and a later binding overwrites the value there. A name without a
binding stands for itself.
-/

/-- Names with their values, in the order in which the names were first bound. -/
structure Bindings where
  entries : List (String × String)
  deriving Repr, DecidableEq

namespace Bindings

/-- No bindings. -/
def empty : Bindings :=
  ⟨[]⟩

/-- The value bound to a name. -/
def find? (bindings : Bindings) (name : String) : Option String :=
  bindings.entries.lookup name

/-- Whether a name is bound. -/
def contains (bindings : Bindings) (name : String) : Bool :=
  (bindings.find? name).isSome

/-- The value bound to a name, or the name itself. -/
def get (bindings : Bindings) (name : String) : String :=
  (bindings.find? name).getD name

/-- Entries with a value bound to a name: in its place, or at the end. -/
def bindEntry (name value : String) : List (String × String) → List (String × String)
  | [] => [(name, value)]
  | (first, held) :: rest =>
      if first = name then (name, value) :: rest else (first, held) :: bindEntry name value rest

/-- Binds a value to a name. -/
def bind (bindings : Bindings) (name value : String) : Bindings :=
  ⟨bindEntry name value bindings.entries⟩

/-- The bindings made by binding each pair in order. -/
def ofList (pairs : List (String × String)) : Bindings :=
  pairs.foldl (fun bindings pair => bindings.bind pair.1 pair.2) empty

/-- Looking up in entries after a binding. -/
theorem lookup_bindEntry
    (name value : String)
    (entries : List (String × String))
    (asked : String) :
    (bindEntry name value entries).lookup asked =
      if asked = name then some value else entries.lookup asked := by
  have lookupCons : ∀ (first held : String) (rest : List (String × String)),
      ((first, held) :: rest).lookup asked =
        if asked = first then some held else rest.lookup asked := by
    intro first held rest
    rw [List.lookup_cons]
    by_cases same : asked = first
    · simp [same]
    · have differs : (asked == first) = false := by simpa using same
      simp [same, differs]
  induction entries with
  | nil => simp [bindEntry, lookupCons]
  | cons entry rest inductionHypothesis =>
      obtain ⟨first, held⟩ := entry
      by_cases here : first = name
      · subst here
        by_cases same : asked = first <;> simp [bindEntry, lookupCons, same]
      · simp only [bindEntry, if_neg here, lookupCons, inductionHypothesis]
        by_cases same : asked = first
        · simp [same, here]
        · simp [same]

/-- A binding changes the value of its own name and of no other. -/
theorem find?_bind
    (bindings : Bindings)
    (name value asked : String) :
    (bindings.bind name value).find? asked =
      if asked = name then some value else bindings.find? asked :=
  lookup_bindEntry name value bindings.entries asked

end Bindings

end Dialog
