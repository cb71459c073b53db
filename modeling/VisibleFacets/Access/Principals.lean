import VisibleFacets.Dict

/-!
# Principals and the patterns that admit them

A pattern is a principal's name, or the beginning of one followed by a star. Main definitions:
`globMatch`, `canRead`.
-/

namespace VisibleFacets

def stem? (pattern : String) : Option (List Char) :=
  match pattern.toList.reverse with
  | '*' :: reversed => some reversed.reverse
  | _ => none

/-- A star at the end of the pattern stands for any text, and any other star for itself. -/
def globMatch (pattern value : String) : Bool :=
  if pattern = "*" then true
  else
    match stem? pattern with
    | some stem => stem.isPrefixOf value.toList
    | none => pattern = value

/-- Whether one of `principals` is admitted by one of `readers`; the pattern `*` admits even a
caller without principals. -/
def canRead (principals readers : List String) : Bool :=
  readers.any fun pattern =>
    if pattern = "*" then true
    else if (stem? pattern).isSome then principals.any (globMatch pattern)
    else principals.contains pattern

def distinctNames (names : List String) : List String :=
  (Dict.ofList (names.map (·, ()))).keys

end VisibleFacets
