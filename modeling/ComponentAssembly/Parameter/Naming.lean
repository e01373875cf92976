import ComponentAssembly.Text.LowerCase

/-! The names of the setters that parameters are applied through. -/

namespace ComponentAssembly

open Text

/-- Whether a new word begins at `b`, which stands between `a` and `after`: at a capital after a small
letter or a digit, and at the last of several capitals if a small letter follows. -/
def startsWord (a b : Char) (after : List Char) : Bool :=
  b.isUpper && (a.isLower || a.isDigit || a.isUpper && (after.head?.any Char.isLower))

/-- Puts an underscore between the words of a name. -/
def separateWords : List Char → List Char
  | a :: b :: rest =>
    if startsWord a b rest then a :: '_' :: separateWords (b :: rest)
    else a :: separateWords (b :: rest)
  | s => s

/-- An underscore for a hyphen. -/
def underscored (c : Char) : Char := if c = '-' then '_' else c

/-- A name in lower case with underscores between its words. -/
def snakeCase (name : List Char) : List Char := lower ((separateWords name).map underscored)

/-- The name of the setter for a parameter. -/
def setterName (parameter : String) : String := "set_" ++ String.ofList (snakeCase parameter.toList)

end ComponentAssembly
