import ComponentAssembly.Markup.Reference

/-! The content of a document as a row of tags, text and remarks. -/

namespace ComponentAssembly.Markup

/-- A part of the content: a tag, text as written, text that was named or marked as such, a
reference to an entity, or a remark. -/
inductive Token where
  | opening (name : WrittenName) (attributes : List (WrittenName × List Char)) (isEmpty : Bool)
  | closing (name : WrittenName)
  | text (s : List Char)
  | character (c : Char)
  | verbatim (s : List Char)
  | reference (name : String)
  | comment (s : List Char)
  | instruction (target : String) (data : List Char)
deriving Repr, DecidableEq

/-- A value in quotes, which holds no opening of a tag, and what follows it. -/
def quotedValue? : List Char → Option (List Char × List Char)
  | quote :: rest =>
    if quote = '"' || quote = '\'' then
      let (value, rest) := rest.span fun c => c ≠ quote && c ≠ '<'
      if rest.head? = some quote then some (value, rest.tail) else none
    else none
  | [] => none

/-- What stands before the end of a tag and what follows it; the characters passed are kept last
first. Inside a value in quotes, of which `quote?` is the opening one, nothing ends the tag. -/
def splitTag? (passed : List Char) (quote? : Option Char) :
    List Char → Option (List Char × List Char)
  | [] => none
  | c :: rest =>
    match quote? with
    | some quote => splitTag? (c :: passed) (if c = quote then none else some quote) rest
    | none =>
      if c = '>' then some (passed.reverse, rest)
      else splitTag? (c :: passed) (if c = '"' || c = '\'' then some c else none) rest

/-- The attributes inside a tag, and whether the element ends with it. Each attribute comes after
white space. -/
def tagAttributes? (s : List Char) : Option (List (WrittenName × List Char) × Bool) :=
  go s.length [] s
where
  /-- At most as many steps as there are characters; the attributes found are kept last first. -/
  go (steps : Nat) (found : List (WrittenName × List Char)) (s : List Char) :
      Option (List (WrittenName × List Char) × Bool) :=
    match skipSpace s, steps with
    | [], _ => some (found.reverse, false)
    | ['/'], _ => some (found.reverse, true)
    | _, 0 => none
    | next, steps + 1 =>
      if (s.head?.map isSpace).getD false then do
        let (name, rest) ← writtenName? next
        let rest ← afterText? "=" (skipSpace rest)
        let (value, rest) ← quotedValue? (skipSpace rest)
        go steps ((name, value) :: found) rest
      else none

/-- An instruction after its opening, and what follows it. Its target is not `xml` in any case. -/
def instruction? (s : List Char) : Option (Token × List Char) := do
  let (target, rest) ← simpleName? s
  if target.map Char.toLower = "xml" then none
  else match afterText? "?>" rest with
    | some rest => return (.instruction target [], rest)
    | none =>
      if (rest.head?.map isSpace).getD false then
        let (data, rest) ← upTo? ['?', '>'] (skipSpace rest)
        return (.instruction target (unixLines data), rest)
      else none

/-- A token after its opening `<`, and what follows it. -/
def markup? : List Char → Option (Token × List Char)
  | '/' :: rest => do
    let (name, rest) ← writtenName? rest
    return (.closing name, ← afterText? ">" (skipSpace rest))
  | '!' :: '-' :: '-' :: rest => do
    let (body, rest) ← upTo? ['-', '-'] rest
    return (.comment (unixLines body), ← afterText? ">" rest)
  | '!' :: rest => do
    let (body, rest) ← upTo? [']', ']', '>'] (← afterText? "[CDATA[" rest)
    return (.verbatim (unixLines body), rest)
  | '?' :: rest => instruction? rest
  | rest => do
    let (name, rest) ← writtenName? rest
    let (inside, rest) ← splitTag? [] none rest
    let (attributes, isEmpty) ← tagAttributes? inside
    return (.opening name attributes isEmpty, rest)

/-- Whether a text holds the end of a verbatim section, which must not stand outside one. -/
def holdsVerbatimEnd : List Char → Bool
  | ']' :: rest => [']', '>'].isPrefixOf rest || holdsVerbatimEnd rest
  | _ :: rest => holdsVerbatimEnd rest
  | [] => false

/-- The first token of content that is not empty, and what follows it. -/
def token? : List Char → Option (Token × List Char)
  | [] => none
  | '<' :: rest => markup? rest
  | '&' :: rest => do
    let (piece, rest) ← reference? rest
    match piece with
    | .char c => return (.character c, rest)
    | .entity name => return (.reference name, rest)
  | s =>
    let (text, rest) := s.span fun c => c ≠ '<' && c ≠ '&'
    if holdsVerbatimEnd text then none else some (.text (unixLines text), rest)

/-- The tokens of a content. -/
def tokens? (s : List Char) : Option (List Token) :=
  go s.length [] s
where
  /-- At most as many steps as there are characters; the tokens found are kept last first. -/
  go : Nat → List Token → List Char → Option (List Token)
    | _, found, [] => some found.reverse
    | 0, _, _ => none
    | steps + 1, found, s => do
      let (token, rest) ← token? s
      go steps (token :: found) rest

end ComponentAssembly.Markup
