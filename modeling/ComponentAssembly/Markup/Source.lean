import ComponentAssembly.Markup.Encoding

/-! The characters of a document, after the declaration that may stand at its beginning. -/

namespace ComponentAssembly.Markup

/-- The declaration at the beginning of a document. -/
structure Declaration where
  encoding : Option String
  standalone : Bool
deriving Repr, DecidableEq

/-- Characters allowed in a value of the declaration. -/
def isDeclarationChar (c : Char) : Bool := c.isAlphanum || c = '.' || c = '-' || c = '_'

/-- A name and its value in the declaration, after white space; no pair if only white space is
left. The outer option is empty if the declaration is malformed. -/
def declarationPair? (s : List Char) : Option (Option (String × String × List Char)) :=
  match s with
  | [] => some none
  | c :: _ =>
    if isSpace c then
      match skipSpace s with
      | [] => some none
      | s => do
        let (name, rest) := s.span fun c => c ≠ '=' && !isSpace c && c.toNat < 0x80
        let rest ← afterText? "=" (skipSpace rest)
        let (value, rest) ← value? (skipSpace rest)
        if name.isEmpty then none else return some (String.ofList name, value, rest)
    else none
where
  /-- A value in quotes of either kind. -/
  value? : List Char → Option (String × List Char)
    | quote :: rest =>
      if quote = '"' || quote = '\'' then
        let (value, rest) := rest.span isDeclarationChar
        if rest.head? = some quote then some (String.ofList value, rest.tail) else none
      else none
    | [] => none

/-- The end of a declaration: whether the document stands alone, and nothing more. -/
def standalone? : Option (String × String × List Char) → Option Bool
  | none => some false
  | some (name, value, rest) =>
    if name = "standalone" && (skipSpace rest).isEmpty then
      if value = "yes" then some true else if value = "no" then some false else none
    else none

/-- The declaration whose inside is given: a version, then an encoding and whether the document
stands alone, both of which may be missing. -/
def declaration? (s : List Char) : Option Declaration := do
  let (name, _, rest) ← ← declarationPair? s
  if name ≠ "version" then none
  else
    let next ← declarationPair? rest
    match next with
    | some ("encoding", value, rest) =>
      if (value.toList.head?.map Char.isAlpha).getD false then
        return ⟨some value, ← standalone? (← declarationPair? rest)⟩
      else none
    | next => return ⟨none, ← standalone? next⟩

/-- Splits off the declaration if there is one: its inside and the number of characters it takes.
The outer option is empty if it does not end. -/
def splitDeclaration? (s : List Char) : Option (Option (List Char × Nat)) :=
  match afterText? "<?xml" s with
  | some (c :: rest) =>
    if isSpace c then do
      let (inside, _) ← upTo? ['?', '>'] (c :: rest)
      return some (inside, 5 + inside.length + 2)
    else some none
  | _ => some none

/-- The characters of a document and whether it declares to stand alone. -/
structure Source where
  chars : List Char
  standalone : Bool
deriving Repr, DecidableEq

/-- The bytes in front of the first one that is not ASCII, as characters. -/
def asciiLead (bytes : List UInt8) : List Char :=
  (bytes.takeWhile (· < 0x80)).map fun b => Char.ofNat b.toNat

/-- The document that bytes stand for. Its declaration is read before the encoding that it names is
looked up, and the rest only in that encoding. -/
def Source.ofBytes (bytes : List UInt8) : Except ReadProblem Source := do
  let (shown, bytes) := Encoding.detect bytes
  let (lead, width) :=
    match shown with
    | .utf16 bigEndian => ((utf16Chars bigEndian [] bytes).1, 2)
    | _ => (asciiLead bytes, 1)
  match ← orMalformed (splitDeclaration? lead) with
  | none => return ⟨← orMalformed (shown.decode? bytes), false⟩
  | some (inside, length) =>
    let declared ← orMalformed (declaration? inside)
    let encoding ←
      match declared.encoding.map shown.named with
      | none => pure shown
      | some found => found
    return ⟨← orMalformed (encoding.decode? (bytes.drop (width * length))), declared.standalone⟩
where
  /-- A part of a document that is missing makes it malformed. -/
  orMalformed {α : Type} : Option α → Except ReadProblem α
    | some a => .ok a
    | none => .error .malformed

end ComponentAssembly.Markup
