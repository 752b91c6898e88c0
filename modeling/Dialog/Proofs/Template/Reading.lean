import Dialog.Template
import Mathlib.Data.List.Basic
import Mathlib.Data.List.TakeWhile

namespace Dialog

/-!
# The one reading of a template

A template is cut into literals and tokens so that no two literals stand in a row
and every token is as long as it can be. `Reads` says of a list of segments that it
is cut so, segment by segment and by what follows in the template, and mentions no
search for the end of a token. There is one such list, and `segments` finds it. The
pass that puts the values in (`resolve`) writes what these segments stand for, so the
values of tokens come in as they are, and the values of all other names do not matter.
-/

/-- A piece of a template. -/
inductive Segment where
  | literal (text : List Char)
  | token (name : List Char)
  deriving Repr, DecidableEq

namespace Segment

/-- The segment as it stands in a template. -/
def source : Segment → List Char
  | .literal text => text
  | .token name => '$' :: name

/-- What the segment stands for under some bindings. -/
def resolve (bindings : Bindings) : Segment → List Char
  | .literal text => text
  | .token name => (bindings.get (String.ofList name)).toList

end Segment

namespace Template

/-- Whether a text begins with one of the letters A to Z. -/
def StartsUpper (text : List Char) : Prop :=
  ∃ letter rest, text = letter :: rest ∧ letter.isUpper = true

/-- Whether characters can stand in a token as its name. -/
structure IsName (name : List Char) : Prop where
  nonempty : name ≠ []
  upper : ∀ letter ∈ name, letter.isUpper = true

/--
The readings of a template. A token has a name that does not go on after it. A
literal holds a dollar sign only where no letter follows in the template, and the
segment after it is no literal.
-/
inductive Reads : List Char → List Segment → Prop where
  | nil : Reads [] []
  | token {name rest : List Char} {segments : List Segment} :
      IsName name →
      ¬StartsUpper rest →
      Reads rest segments →
      Reads ('$' :: (name ++ rest)) (.token name :: segments)
  | literal {text rest : List Char} {segments : List Segment} :
      text ≠ [] →
      (∀ before after, text = before ++ '$' :: after → ¬StartsUpper (after ++ rest)) →
      (∀ next, segments.head? ≠ some (.literal next)) →
      Reads rest segments →
      Reads (text ++ rest) (.literal text :: segments)

/-- A text begins with a capital when its first letter is one. -/
theorem startsUpper_cons
    {letter : Char}
    {rest : List Char} :
    StartsUpper (letter :: rest) ↔ letter.isUpper = true := by
  constructor
  · rintro ⟨_, _, same, upper⟩
    cases same
    exact upper
  · exact fun upper => ⟨letter, rest, rfl, upper⟩

/-- The empty text begins with nothing. -/
theorem not_startsUpper_nil : ¬StartsUpper [] := by
  rintro ⟨_, _, same, _⟩
  cases same

/-- There is a run of capitals in front just when a text begins with one. -/
theorem takeWhile_upper_ne_nil_iff
    {text : List Char} :
    text.takeWhile Char.isUpper ≠ [] ↔ StartsUpper text := by
  cases text with
  | nil => simp [not_startsUpper_nil]
  | cons letter rest => simp [startsUpper_cons, List.takeWhile_cons]

/-- The run of capitals in front of a text is a name. -/
theorem isName_takeWhile
    {text : List Char}
    (starts : StartsUpper text) :
    IsName (text.takeWhile Char.isUpper) where
  nonempty := takeWhile_upper_ne_nil_iff.mpr starts
  upper := fun _ member => List.mem_takeWhile_imp member

/-- After the run of capitals in front no more capitals follow. -/
theorem not_startsUpper_dropWhile (text : List Char) :
    ¬StartsUpper (text.dropWhile Char.isUpper) := by
  rintro ⟨letter, rest, left, upper⟩
  have stopped := List.head?_dropWhile_not Char.isUpper text
  rw [left] at stopped
  simp [upper] at stopped

/-- A text that begins with a capital begins with one longest name. -/
theorem exists_name_of_startsUpper
    {text : List Char}
    (starts : StartsUpper text) :
    ∃ name rest, IsName name ∧ ¬StartsUpper rest ∧ text = name ++ rest :=
  ⟨_, _, isName_takeWhile starts, not_startsUpper_dropWhile text,
    List.takeWhile_append_dropWhile.symm⟩

/-- Where no capital begins a text, the run of capitals in front is empty. -/
theorem takeWhile_of_not_startsUpper
    {text : List Char}
    (ends : ¬StartsUpper text) :
    text.takeWhile Char.isUpper = [] :=
  not_not.mp (mt takeWhile_upper_ne_nil_iff.mp ends)

/-- Where no capital begins a text, nothing is dropped from it. -/
theorem dropWhile_of_not_startsUpper
    {text : List Char}
    (ends : ¬StartsUpper text) :
    text.dropWhile Char.isUpper = text := by
  have whole : text.takeWhile Char.isUpper ++ text.dropWhile Char.isUpper = text :=
    List.takeWhile_append_dropWhile
  rwa [takeWhile_of_not_startsUpper ends, List.nil_append] at whole

/-- A name that no capital follows is the run of capitals in front. -/
theorem takeWhile_name_append
    {name rest : List Char}
    (isName : IsName name)
    (ends : ¬StartsUpper rest) :
    (name ++ rest).takeWhile Char.isUpper = name := by
  rw [List.takeWhile_append_of_pos isName.upper, takeWhile_of_not_startsUpper ends,
    List.append_nil]

/-- What follows a name that ends is what is left without the run of capitals. -/
theorem dropWhile_name_append
    {name rest : List Char}
    (isName : IsName name)
    (ends : ¬StartsUpper rest) :
    (name ++ rest).dropWhile Char.isUpper = rest := by
  rw [List.dropWhile_append_of_pos isName.upper, dropWhile_of_not_startsUpper ends]

/-! ## Cutting a template -/

/-- Puts a literal character in front of segments, joining it to a literal that stands there. -/
def prependLiteral (character : Char) : List Segment → List Segment
  | .literal text :: rest => .literal (character :: text) :: rest
  | segments => .literal [character] :: segments

/-- The segments of a template, no two literals in a row. -/
def segments : List Char → List Segment
  | [] => []
  | character :: rest =>
      if character = '$' ∧ rest.takeWhile Char.isUpper ≠ [] then
        .token (rest.takeWhile Char.isUpper) :: segments (rest.dropWhile Char.isUpper)
      else
        prependLiteral character (segments rest)
  termination_by template => template.length
  decreasing_by
    · have shorter := (List.dropWhile_suffix (l := rest) Char.isUpper).length_le
      simp only [List.length_cons]
      omega
    · simp

/-- An empty template has no segments. -/
theorem segments_nil : segments [] = [] := by
  rw [segments]

/-- A character that begins no token belongs to a literal. -/
theorem segments_of_plain
    {character : Char}
    {rest : List Char}
    (plain : character = '$' → ¬StartsUpper rest) :
    segments (character :: rest) = prependLiteral character (segments rest) := by
  have noToken : ¬(character = '$' ∧ rest.takeWhile Char.isUpper ≠ []) := by
    rintro ⟨dollar, follows⟩
    exact plain dollar (takeWhile_upper_ne_nil_iff.mp follows)
  rw [segments, if_neg noToken]

/-- A dollar sign and the longest name after it are a token. -/
theorem segments_of_token
    {name rest : List Char}
    (isName : IsName name)
    (ends : ¬StartsUpper rest) :
    segments ('$' :: (name ++ rest)) = .token name :: segments rest := by
  rw [segments, takeWhile_name_append isName ends, dropWhile_name_append isName ends]
  exact if_pos ⟨rfl, isName.nonempty⟩

/-- A template is empty, or goes on after a token, or after a character that begins none. -/
@[elab_as_elim]
theorem pieceInduction
    {motive : List Char → Prop}
    (nil : motive [])
    (plain :
      ∀ character rest, (character = '$' → ¬StartsUpper rest) → motive rest →
        motive (character :: rest))
    (token :
      ∀ name rest, IsName name → ¬StartsUpper rest → motive rest →
        motive ('$' :: (name ++ rest)))
    (template : List Char) :
    motive template := by
  fun_induction segments template with
  | case1 => exact nil
  | case2 character rest begins inductionHypothesis =>
      obtain ⟨rfl, follows⟩ := begins
      have starts := takeWhile_upper_ne_nil_iff.mp follows
      have made :=
        token _ _ (isName_takeWhile starts) (not_startsUpper_dropWhile rest) inductionHypothesis
      rwa [List.takeWhile_append_dropWhile] at made
  | case3 character rest begins inductionHypothesis =>
      refine plain character rest (fun dollar starts => begins ⟨dollar, ?_⟩) inductionHypothesis
      exact takeWhile_upper_ne_nil_iff.mpr starts

/-- Before a token, or the end, a character begins a literal of its own. -/
theorem prependLiteral_of_apart
    {segments : List Segment}
    (apart : ∀ next, segments.head? ≠ some (.literal next))
    (character : Char) :
    prependLiteral character segments = .literal [character] :: segments := by
  cases segments with
  | nil => rfl
  | cons segment rest =>
      cases segment with
      | literal text => exact absurd rfl (apart text)
      | token name => rfl

/-- A text that holds no token, before segments that do not begin with a literal, is one literal. -/
theorem segments_of_literal
    {text rest : List Char}
    (nonempty : text ≠ [])
    (dollars : ∀ before after, text = before ++ '$' :: after → ¬StartsUpper (after ++ rest))
    (apart : ∀ next, (segments rest).head? ≠ some (.literal next)) :
    segments (text ++ rest) = .literal text :: segments rest := by
  induction text with
  | nil => exact absurd rfl nonempty
  | cons character more inductionHypothesis =>
      have plain : character = '$' → ¬StartsUpper (more ++ rest) := by
        rintro rfl
        exact dollars [] more rfl
      rw [List.cons_append, segments_of_plain plain]
      by_cases last : more = []
      · subst last
        exact prependLiteral_of_apart apart character
      · have later :
            ∀ before after, more = before ++ '$' :: after → ¬StartsUpper (after ++ rest) := by
          rintro before after rfl
          exact dollars (character :: before) after rfl
        rw [inductionHypothesis last later]
        rfl

/-! ## The reading that is found -/

/-- A character that begins no token is read as a literal, or as the beginning of the next one. -/
theorem Reads.prepend
    {character : Char}
    {rest : List Char}
    {segments : List Segment}
    (reads : Reads rest segments)
    (plain : character = '$' → ¬StartsUpper rest) :
    Reads (character :: rest) (prependLiteral character segments) := by
  have dollars :
      ∀ before after, [character] = before ++ '$' :: after → ¬StartsUpper (after ++ rest) := by
    intro before after same
    cases before with
    | nil =>
        cases same
        exact plain rfl
    | cons => simp at same
  cases reads with
  | nil => exact .literal (List.cons_ne_nil character []) dollars (by simp) .nil
  | token isName ends reads =>
      exact .literal (List.cons_ne_nil character []) dollars (by simp) (.token isName ends reads)
  | @literal text rest segments nonempty inside apart reads =>
      refine .literal (List.cons_ne_nil character text) ?_ apart reads
      intro before after same
      cases before with
      | nil =>
          cases same
          exact plain rfl
      | cons first before =>
          cases same
          exact inside before after rfl

/-- The segments that are found read the template. -/
theorem reads_segments (template : List Char) : Reads template (segments template) := by
  induction template using pieceInduction with
  | nil =>
      rw [segments_nil]
      exact .nil
  | plain character rest plain inductionHypothesis =>
      rw [segments_of_plain plain]
      exact inductionHypothesis.prepend plain
  | token name rest isName ends inductionHypothesis =>
      rw [segments_of_token isName ends]
      exact .token isName ends inductionHypothesis

/-- There is no other reading than the one that is found. -/
theorem Reads.eq_segments
    {template : List Char}
    {found : List Segment}
    (reads : Reads template found) :
    found = segments template := by
  induction reads with
  | nil => exact segments_nil.symm
  | token isName ends _ inductionHypothesis =>
      rw [segments_of_token isName ends, ← inductionHypothesis]
  | literal nonempty dollars apart _ inductionHypothesis =>
      rw [inductionHypothesis] at apart
      rw [segments_of_literal nonempty dollars apart, ← inductionHypothesis]

/-- The segments of a reading, written one after the other, are the template. -/
theorem Reads.written
    {template : List Char}
    {segments : List Segment}
    (reads : Reads template segments) :
    segments.flatMap Segment.source = template := by
  induction reads with
  | nil => rfl
  | token _ _ _ inductionHypothesis =>
      rw [List.flatMap_cons, inductionHypothesis]
      rfl
  | literal _ _ _ _ inductionHypothesis =>
      rw [List.flatMap_cons, inductionHypothesis]
      rfl

/-- What stands in a token of a reading is a name. -/
theorem Reads.isName
    {template : List Char}
    {segments : List Segment}
    (reads : Reads template segments)
    {name : List Char}
    (listed : .token name ∈ segments) :
    IsName name := by
  induction reads with
  | nil => cases listed
  | token isName _ _ inductionHypothesis =>
      rcases List.mem_cons.mp listed with here | later
      · cases here
        exact isName
      · exact inductionHypothesis later
  | literal _ _ _ _ inductionHypothesis =>
      rcases List.mem_cons.mp listed with here | later
      · cases here
      · exact inductionHypothesis later

/-! ## What a template stands for -/

/-- There is nothing to put into an empty template. -/
theorem resolve_nil (bindings : Bindings) : resolve bindings [] = [] := by
  rw [resolve]

/-- A character that begins no token is kept. -/
theorem resolve_of_plain
    (bindings : Bindings)
    {character : Char}
    {rest : List Char}
    (plain : character = '$' → ¬StartsUpper rest) :
    resolve bindings (character :: rest) = character :: resolve bindings rest := by
  by_cases dollar : character = '$'
  · subst dollar
    have ends := plain rfl
    rw [resolve, if_neg (not_not_intro rfl), takeWhile_of_not_startsUpper ends,
      dropWhile_of_not_startsUpper ends]
    rfl
  · rw [resolve, if_pos dollar]

/-- A token is replaced by the value of its name, and the rest goes on after it. -/
theorem resolve_of_token
    (bindings : Bindings)
    {name rest : List Char}
    (isName : IsName name)
    (ends : ¬StartsUpper rest) :
    resolve bindings ('$' :: (name ++ rest)) =
      (bindings.get (String.ofList name)).toList ++ resolve bindings rest := by
  rw [resolve, if_neg (not_not_intro rfl), takeWhile_name_append isName ends,
    dropWhile_name_append isName ends]
  simp only [if_neg isName.nonempty]

/-- A character put before segments stands before what they resolve to. -/
theorem flatMap_resolve_prependLiteral
    (bindings : Bindings)
    (character : Char)
    (segments : List Segment) :
    (prependLiteral character segments).flatMap (Segment.resolve bindings) =
      character :: segments.flatMap (Segment.resolve bindings) := by
  cases segments with
  | nil => rfl
  | cons segment rest => cases segment <;> rfl

/-- The pass over a template writes what its segments stand for. -/
theorem resolve_eq_flatMap
    (bindings : Bindings)
    (template : List Char) :
    resolve bindings template = (segments template).flatMap (Segment.resolve bindings) := by
  induction template using pieceInduction with
  | nil =>
      rw [resolve_nil, segments_nil]
      rfl
  | plain character rest plain inductionHypothesis =>
      rw [resolve_of_plain bindings plain, segments_of_plain plain,
        flatMap_resolve_prependLiteral, inductionHypothesis]
  | token name rest isName ends inductionHypothesis =>
      rw [resolve_of_token bindings isName ends, segments_of_token isName ends,
        List.flatMap_cons, inductionHypothesis]
      rfl

/-- A text without a dollar sign resolves to itself. -/
theorem resolve_of_undollared
    (bindings : Bindings)
    {text : List Char}
    (undollared : '$' ∉ text) :
    resolve bindings text = text := by
  induction text with
  | nil => exact resolve_nil bindings
  | cons character rest inductionHypothesis =>
      obtain ⟨differs, restUndollared⟩ := List.ne_and_not_mem_of_not_mem_cons undollared
      have plain : character = '$' → ¬StartsUpper rest := fun same => absurd same.symm differs
      rw [resolve_of_plain bindings plain, inductionHypothesis restUndollared]

/-- The pass that is left out where there is no dollar sign would change nothing. -/
theorem toList_resolve
    (bindings : Bindings)
    (template : String) :
    (bindings.resolve template).toList = resolve bindings template.toList := by
  unfold Bindings.resolve
  split
  · exact String.toList_ofList
  · next undollared => exact (resolve_of_undollared bindings undollared).symm

/-- Segments without tokens stand for what is written. -/
theorem flatMap_resolve_of_tokenless
    {segments : List Segment}
    (tokenless : ∀ name, .token name ∉ segments)
    (bindings : Bindings) :
    segments.flatMap (Segment.resolve bindings) = segments.flatMap Segment.source := by
  apply List.flatMap_congr
  intro segment listed
  cases segment with
  | literal text => rfl
  | token name => exact absurd listed (tokenless name)

/-- Bindings under which the tokens of a template stand for the same give it the same text. -/
theorem resolve_eq_of_agreeing
    {template : String}
    {one other : Bindings}
    (agree :
      ∀ name, .token name ∈ segments template.toList →
        one.get (String.ofList name) = other.get (String.ofList name)) :
    one.resolve template = other.resolve template := by
  apply String.toList_injective
  rw [toList_resolve, toList_resolve, resolve_eq_flatMap, resolve_eq_flatMap]
  apply List.flatMap_congr
  intro segment listed
  cases segment with
  | literal text => rfl
  | token name => exact congrArg String.toList (agree name listed)

/-- What is bound to a name that no token can have makes no difference. -/
theorem resolve_bind_of_not_isName
    (bindings : Bindings)
    (template value : String)
    {name : String}
    (noName : ¬IsName name.toList) :
    (bindings.bind name value).resolve template = bindings.resolve template := by
  apply resolve_eq_of_agreeing
  intro asked listed
  have differs : String.ofList asked ≠ name := by
    rintro rfl
    rw [String.toList_ofList] at noName
    exact noName ((reads_segments template.toList).isName listed)
  rw [Bindings.get, Bindings.find?_bind, if_neg differs, Bindings.get]

/--
Whether these segments are the only reading of a template, and all that there is to
know of what it stands for: the literals as they are, and for each token the value
bound to its name, not looked at again, or the name. Without tokens that is the
template, which the pass over it gives back as well where it is left out for want of
a dollar sign. Bindings are asked for the names of the tokens only.
-/
structure ReadsOnce (template : String) (segments : List Segment) : Prop where
  reads : Reads template.toList segments
  only : ∀ other, Reads template.toList other → other = segments
  written : segments.flatMap Segment.source = template.toList
  resolved :
    ∀ bindings : Bindings,
      (bindings.resolve template).toList = segments.flatMap (Segment.resolve bindings)
  verbatim :
    ∀ (bindings : Bindings) (before after : List Segment) (name : List Char) (value : String),
      segments = before ++ .token name :: after →
      bindings.find? (String.ofList name) = some value →
        (bindings.resolve template).toList =
          before.flatMap (Segment.resolve bindings) ++ value.toList ++
            after.flatMap (Segment.resolve bindings)
  unchanged :
    (∀ name, .token name ∉ segments) →
      ∀ bindings : Bindings, bindings.resolve template = template
  undollared :
    '$' ∉ template.toList →
      (∀ name, .token name ∉ segments) ∧
        ∀ bindings : Bindings, resolve bindings template.toList = template.toList
  agreeing :
    ∀ one other : Bindings,
      (∀ name, .token name ∈ segments →
        one.get (String.ofList name) = other.get (String.ofList name)) →
      one.resolve template = other.resolve template
  unasked :
    ∀ (bindings : Bindings) (name value : String),
      ¬IsName name.toList → (bindings.bind name value).resolve template = bindings.resolve template

/-- Every template has one reading, whatever is bound. -/
theorem has_one_reading (template : String) : ∃ segments, ReadsOnce template segments := by
  have reads := reads_segments template.toList
  have resolved :
      ∀ bindings : Bindings,
        (bindings.resolve template).toList =
          (segments template.toList).flatMap (Segment.resolve bindings) := fun bindings =>
    (toList_resolve bindings template).trans (resolve_eq_flatMap bindings template.toList)
  refine ⟨segments template.toList, reads, fun _ other => other.eq_segments, reads.written,
    resolved, ?_, ?_, ?_, fun _ _ => resolve_eq_of_agreeing, ?_⟩
  · intro bindings before after name value cut bound
    have inserted : Segment.resolve bindings (.token name) = value.toList := by
      rw [Segment.resolve, Bindings.get, bound, Option.getD_some]
    rw [resolved, cut, List.flatMap_append, List.flatMap_cons, inserted, List.append_assoc]
  · intro tokenless bindings
    apply String.toList_injective
    rw [resolved, flatMap_resolve_of_tokenless tokenless, reads.written]
  · refine fun undollared => ⟨fun name listed => undollared ?_, fun bindings => ?_⟩
    · rw [← reads.written]
      exact List.mem_flatMap.mpr ⟨.token name, listed, List.mem_cons_self⟩
    · exact resolve_of_undollared bindings undollared
  · exact fun bindings _ value => resolve_bind_of_not_isName bindings template value

end Template

end Dialog
