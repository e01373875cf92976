import ComponentAssembly.Markup.Name.Table

/-! Characters and names in markup. -/

namespace ComponentAssembly.Markup

/-- White space between the parts of markup. -/
def isSpace (c : Char) : Bool := c = ' ' || c = '\t' || c = '\n' || c = '\r'

/-- Whether a character may stand in a document at all. -/
def isAllowed (c : Char) : Bool :=
  (0x20 ≤ c.toNat && c.toNat ≠ 0xFFFE && c.toNat ≠ 0xFFFF) || c = '\t' || c = '\n' || c = '\r'

/-- Whether a name may begin with a character. -/
def startsName (c : Char) : Bool := nameStartCodes.covers c.toNat

/-- Whether a name may go on with a character. -/
def continuesName (c : Char) : Bool := nameCodes.covers c.toNat

/-- Splits off the white space in front. -/
def skipSpace (s : List Char) : List Char := s.dropWhile isSpace

/-- A name without a colon, and what follows it. -/
def simpleName? : List Char → Option (String × List Char)
  | c :: rest =>
    if startsName c then
      let (more, rest) := rest.span continuesName
      some (String.ofList (c :: more), rest)
    else none
  | [] => none

/-- A name as it is written in a tag: the part in front of a colon, if there is one, and the rest. -/
structure WrittenName where
  lead : Option String
  base : String
deriving Repr, DecidableEq

/-- A name with at most one colon, and what follows it. -/
def writtenName? (s : List Char) : Option (WrittenName × List Char) := do
  let (name, rest) ← simpleName? s
  match rest with
  | ':' :: rest =>
    let (base, rest) ← simpleName? rest
    if rest.head? = some ':' then none else return (⟨some name, base⟩, rest)
  | rest => return (⟨none, name⟩, rest)

/-- Writes every line end as a line feed. -/
def unixLines : List Char → List Char
  | [] => []
  | '\r' :: '\n' :: rest => '\n' :: unixLines rest
  | c :: rest => (if c = '\r' then '\n' else c) :: unixLines rest

/-- Strips a fixed text from the front. -/
def afterText? (expected : String) (s : List Char) : Option (List Char) :=
  expected.toList.isPrefixOf? s

/-- The characters up to the first occurrence of a closing text, and what follows it. -/
def upTo? (close : List Char) (s : List Char) : Option (List Char × List Char) :=
  go [] s
where
  /-- Looks for the closing text after the characters `seen`, last first. -/
  go (seen : List Char) (s : List Char) : Option (List Char × List Char) :=
    match close.isPrefixOf? s with
    | some rest => some (seen.reverse, rest)
    | none =>
      match s with
      | [] => none
      | c :: rest => go (c :: seen) rest

end ComponentAssembly.Markup
