import ComponentAssembly.Markup.Name

/-! References to characters and to entities. -/

namespace ComponentAssembly.Markup

/-- A character of text, or a reference to an entity by its name. -/
inductive Piece where
  | char (c : Char)
  | entity (name : String)
deriving Repr, DecidableEq

/-- The value of a hexadecimal digit. -/
def hexDigit? (c : Char) : Option Nat :=
  if c.isDigit then some (c.toNat - 0x30)
  else if 'a' ≤ c ∧ c ≤ 'f' then some (c.toNat - 0x57)
  else if 'A' ≤ c ∧ c ≤ 'F' then some (c.toNat - 0x37)
  else none

/-- The character with a number, if a document may hold it. -/
def charOf? (code : Nat) : Option Char :=
  if h : code.isValidChar then
    let c := Char.ofNatAux code h
    if isAllowed c then some c else none
  else none

/-- A character given by its number, after the number sign. -/
def numberReference? (s : List Char) : Option (Char × List Char) := do
  let (digits, rest, base) ←
    match s with
    | 'x' :: rest => let (digits, rest) := rest.span fun c => (hexDigit? c).isSome
                     some (digits, rest, 16)
    | rest => let (digits, rest) := rest.span Char.isDigit
              some (digits, rest, 10)
  match rest with
  | ';' :: rest =>
    if digits.isEmpty then none
    else
      let code := digits.foldl (fun n c => min (base * n + (hexDigit? c).getD 0) 0x110000) 0
      return (← charOf? code, rest)
  | _ => none

/-- The five entities that every document has. -/
def standardEntity? : String → Option Char
  | "lt" => some '<'
  | "gt" => some '>'
  | "amp" => some '&'
  | "quot" => some '"'
  | "apos" => some '\''
  | _ => none

/-- A reference, after the ampersand, and what follows it. The standard entities count as
characters. -/
def reference? : List Char → Option (Piece × List Char)
  | '#' :: rest => (numberReference? rest).map fun (c, rest) => (.char c, rest)
  | rest => do
    let (name, rest) ← simpleName? rest
    match rest with
    | ';' :: rest =>
      match standardEntity? name with
      | some c => return (.char c, rest)
      | none => return (.entity name, rest)
    | _ => none

/-- The characters and references of an attribute value or of the text that an entity stands for
there. A tag may not begin inside a value, and each line end or tab is a space. -/
def valuePieces? (s : List Char) : Option (List Piece) :=
  go s.length [] s
where
  /-- At most as many steps as there are characters; the pieces found are kept last first. -/
  go : Nat → List Piece → List Char → Option (List Piece)
    | _, found, [] => some found.reverse
    | 0, _, _ => none
    | steps + 1, found, c :: rest =>
      if c = '<' then none
      else if c = '&' then do
        let (piece, rest) ← reference? rest
        go steps (piece :: found) rest
      else if c = '\r' then
        go steps (.char ' ' :: found) (if rest.head? = some '\n' then rest.tail else rest)
      else go steps (.char (if isSpace c then ' ' else c) :: found) rest

/-- The text of an entity as its declaration gives it: characters named by number are put in, while
references to entities stay as they are. -/
def entityText? (s : List Char) : Option (List Char) :=
  go s.length [] s
where
  /-- At most as many steps as there are characters; the text found is kept last first. -/
  go : Nat → List Char → List Char → Option (List Char)
    | _, found, [] => some found.reverse
    | 0, _, _ => none
    | steps + 1, found, c :: rest =>
      if c = '%' then none
      else if c = '&' then
        match rest with
        | '#' :: rest => do
          let (c, rest) ← numberReference? rest
          go steps (c :: found) rest
        | rest => do
          let (name, rest) ← simpleName? rest
          match rest with
          | ';' :: rest => go steps (';' :: name.toList.reverse ++ '&' :: found) rest
          | _ => none
      else if c = '\r' then
        go steps ('\n' :: found) (if rest.head? = some '\n' then rest.tail else rest)
      else go steps (c :: found) rest

end ComponentAssembly.Markup
