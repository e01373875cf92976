import ComponentAssembly.Text.Identifier.Table

/-! Identifiers that begin with an ASCII letter. -/

namespace ComponentAssembly.Text

/-- Whether a character may stand in an identifier after the first one. -/
def continuesIdentifier (c : Char) : Bool := identifierCodes.covers c.toNat

/-- Whether a text is an identifier that begins with an ASCII letter. -/
def isIdentifier : List Char → Bool
  | [] => false
  | c :: rest => c.isAlpha && rest.all continuesIdentifier

end ComponentAssembly.Text
