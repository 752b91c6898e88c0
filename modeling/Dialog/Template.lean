import Dialog.Bindings

namespace Dialog

/-!
# Templates

A text shown to a player may name bindings: a dollar sign and the longest run of
the letters A to Z after it is a token, and stands for the value bound to that
run. All else, a dollar sign without such a letter after it included, is
literal. A template is gone through once, from left to right; the values put in
for its tokens are not looked at again.
-/

/-- A template with the values of its tokens put in, by a pass over its characters. -/
def Template.resolve (bindings : Bindings) : List Char → List Char
  | [] => []
  | character :: rest =>
      if character ≠ '$' then
        character :: resolve bindings rest
      else
        let name := rest.takeWhile Char.isUpper
        let value := if name = [] then ['$'] else (bindings.get (String.ofList name)).toList
        value ++ resolve bindings (rest.dropWhile Char.isUpper)
  termination_by template => template.length
  decreasing_by
    · simp
    · have shorter := (List.dropWhile_suffix (l := rest) Char.isUpper).length_le
      simp only [List.length_cons]
      omega

/-- A template with the values of its tokens put in; without a dollar sign it is left as it is. -/
def Bindings.resolve (bindings : Bindings) (template : String) : String :=
  if '$' ∈ template.toList then
    String.ofList (Template.resolve bindings template.toList)
  else
    template

end Dialog
