import ComponentAssembly.Markup.Reference

/-! The declarations inside a document type: entities, attributes, elements and notations. -/

namespace ComponentAssembly.Markup

/-- A part of a declaration, white space left out. -/
inductive Lexeme where
  | name (s : String)
  | prefixed (s : String)
  | nmtoken (s : String)
  | repeated (s : String)
  | literal (s : List Char)
  | pound (s : String)
  | percent
  | opening
  | closing
  | closingWith (mark : Char)
  | comma
  | bar
deriving Repr, DecidableEq

/-- Whether a character that ends a name follows. -/
def endsName (c : Char) : Bool :=
  isSpace c || c = '>' || c = ')' || c = ',' || c = '|' || c = '[' || c = '%'

/-- The kind of a word by its colons and its first character. -/
def wordLexeme (word : List Char) : Lexeme :=
  let s := String.ofList word
  let (lead, rest) := word.span (· ≠ ':')
  if !(word.head?.map startsName).getD false then .nmtoken s
  else match rest with
    | [] => .name s
    | _ :: base => if base.isEmpty || ':' ∈ base || lead.isEmpty then .nmtoken s else .prefixed s

/-- A word of name characters and colons, with the mark that may follow it at once. -/
def word? (s : List Char) : Option (Lexeme × List Char) :=
  let (word, rest) := s.span fun c => continuesName c || c = ':'
  let lexeme := wordLexeme word
  match rest with
  | c :: after =>
    if endsName c then some (lexeme, rest)
    else if c = '+' || c = '*' || c = '?' then
      match lexeme with
      | .nmtoken _ => none
      | _ => some (.repeated (String.ofList word), after)
    else none
  | [] => none

/-- A text in quotes, after the opening one. -/
def literal? (quote : Char) (s : List Char) : Option (Lexeme × List Char) :=
  let (inside, rest) := s.span (· ≠ quote)
  match rest with
  | _ :: c :: after =>
    if isSpace c || c = '>' || c = '%' || c = '[' then some (.literal inside, c :: after) else none
  | _ => none

/-- What follows a closing parenthesis. -/
def closing? : List Char → Option (Lexeme × List Char)
  | c :: rest =>
    if c = '*' || c = '?' || c = '+' then some (.closingWith c, rest)
    else if isSpace c || c = '>' || c = ',' || c = '|' || c = ')' then some (.closing, c :: rest)
    else none
  | [] => none

/-- The next part of a declaration that does not begin with white space. -/
def lexeme? : List Char → Option (Lexeme × List Char)
  | [] => none
  | c :: rest =>
    if c = '"' || c = '\'' then literal? c rest
    else if c = '(' then some (.opening, rest)
    else if c = ')' then closing? rest
    else if c = ',' then some (.comma, rest)
    else if c = '|' then some (.bar, rest)
    else if c = '%' then
      if (rest.head?.map fun c => isSpace c || c = '%').getD false then some (.percent, rest)
      else none
    else if c = '#' then do
      let (name, rest) ← simpleName? rest
      match rest with
      | c :: _ =>
        if isSpace c || c = ')' || c = '>' || c = '%' || c = '|' then
          return (.pound name, rest)
        else none
      | [] => none
    else if continuesName c || c = ':' then word? (c :: rest)
    else none

/-- The parts of a declaration up to a character that ends it, which is `>` or `[`, and what follows
that character. -/
def lexemes? (s : List Char) : Option (List Lexeme × Char × List Char) :=
  go (s.length + 1) [] s
where
  /-- At most as many steps as there are characters; the parts found are kept last first. -/
  go : Nat → List Lexeme → List Char → Option (List Lexeme × Char × List Char)
    | 0, _, _ => none
    | steps + 1, found, s =>
      match skipSpace s with
      | [] => none
      | c :: rest =>
        if c = '>' || c = '[' then some (found.reverse, c, rest)
        else do
          let (lexeme, rest) ← lexeme? (c :: rest)
          go steps (lexeme :: found) rest

/-- Whether a public identifier holds only the characters allowed in one. -/
def isPublicId (s : List Char) : Bool :=
  s.all fun c => c.isAlphanum || c ∈ " \n\r-'()+,./:=?;!*#@$_%".toList

/-- What an entity stands for. -/
inductive EntityBody where
  | inside (text : List Char)
  | outside
deriving Repr, DecidableEq

/-- The default of an attribute, and whether its values are plain text. -/
structure AttributeDecl where
  element : String
  name : String
  isPlain : Bool
  value : Option (List Char)
deriving Repr, DecidableEq

/-- A declaration as far as reading the document depends on it. -/
inductive MarkupDecl where
  | entity (name : String) (body : EntityBody)
  | attributes (decls : List AttributeDecl)
  | other
deriving Repr, DecidableEq

/-- Where an entity or notation outside the document is found, and what follows. -/
def externalId? : List Lexeme → Option (List Lexeme)
  | .name "SYSTEM" :: .literal _ :: rest => some rest
  | .name "PUBLIC" :: .literal id :: .literal _ :: rest => if isPublicId id then some rest else none
  | _ => none

/-- The declaration of an entity. -/
def entityDecl? : List Lexeme → Option MarkupDecl
  | [.percent, .name _, .literal _] => some .other
  | .percent :: .name _ :: rest =>
    match externalId? rest with
    | some [] => some .other
    | _ => none
  | [.name name, .literal text] => some (.entity name (.inside text))
  | .name name :: rest =>
    match externalId? rest with
    | some [] => some (.entity name .outside)
    | some [.name "NDATA", .name _] => some (.entity name .outside)
    | _ => none
  | _ => none

/-- The declaration of a notation, whose system identifier may be missing. -/
def notationDecl? : List Lexeme → Option MarkupDecl
  | [.name _, .name "SYSTEM", .literal _] => some .other
  | [.name _, .name "PUBLIC", .literal id] => if isPublicId id then some .other else none
  | [.name _, .name "PUBLIC", .literal id, .literal _] => if isPublicId id then some .other else none
  | _ => none

/-- A group of alternatives after its opening parenthesis. -/
def alternatives? (isMember : Lexeme → Bool) : List Lexeme → Option (List Lexeme)
  | member :: .closing :: rest => if isMember member then some rest else none
  | member :: .bar :: rest => if isMember member then alternatives? isMember rest else none
  | _ => none

/-- Whether a part is a plain name. -/
def Lexeme.isName : Lexeme → Bool
  | .name _ => true
  | _ => false

/-- The name that a part is, with or without a colon. -/
def Lexeme.word? : Lexeme → Option String
  | .name s => some s
  | .prefixed s => some s
  | _ => none

/-- Whether a part may stand in a list of allowed values. -/
def Lexeme.isToken : Lexeme → Bool
  | .name _ => true
  | .prefixed _ => true
  | .nmtoken _ => true
  | _ => false

/-- The type of an attribute: whether its values are plain text, and what follows. -/
def attributeType? : List Lexeme → Option (Bool × List Lexeme)
  | .name "CDATA" :: rest => some (true, rest)
  | .name "NOTATION" :: .opening :: rest => (alternatives? Lexeme.isName rest).map (false, ·)
  | .opening :: rest => (alternatives? Lexeme.isToken rest).map (false, ·)
  | .name s :: rest =>
    if s ∈ ["ID", "IDREF", "IDREFS", "ENTITY", "ENTITIES", "NMTOKEN", "NMTOKENS"] then
      some (false, rest)
    else none
  | _ => none

/-- The default of an attribute, and what follows. -/
def attributeDefault? : List Lexeme → Option (Option (List Char) × List Lexeme)
  | .pound "IMPLIED" :: rest => some (none, rest)
  | .pound "REQUIRED" :: rest => some (none, rest)
  | .pound "FIXED" :: .literal value :: rest => some (some value, rest)
  | .literal value :: rest => some (some value, rest)
  | _ => none

/-- The declaration of the attributes of an element. -/
def attributesDecl? : List Lexeme → Option MarkupDecl
  | element :: rest => do
    return .attributes (← go rest.length (← element.word?) rest)
  | [] => none
where
  /-- At most as many attributes as there are parts. -/
  go : Nat → String → List Lexeme → Option (List AttributeDecl)
    | _, _, [] => some []
    | 0, _, _ => none
    | steps + 1, element, name :: rest => do
      let (isPlain, rest) ← attributeType? rest
      let (value, rest) ← attributeDefault? rest
      return ⟨element, ← name.word?, isPlain, value⟩ :: (← go steps element rest)

/-- Whether a part may stand in the content model of an element. -/
def Lexeme.isParticle : Lexeme → Bool
  | .name _ => true
  | .prefixed _ => true
  | .repeated _ => true
  | _ => false

/-- The rest of a content model. `connectors` holds for each open group the one it has used, and
`expectsParticle` tells whether a name or a group must come next. -/
def modelRest? : List (Option Lexeme) → Bool → List Lexeme → Option Unit
  | [], _, [] => some ()
  | [], _, _ => none
  | connectors, true, .opening :: rest => modelRest? (none :: connectors) true rest
  | connectors, true, particle :: rest =>
    if particle.isParticle then modelRest? connectors false rest else none
  | connector :: connectors, false, lexeme :: rest =>
    match lexeme with
    | .closing => modelRest? connectors false rest
    | .closingWith _ => modelRest? connectors false rest
    | .comma =>
      if connector = some .bar then none else modelRest? (some .comma :: connectors) true rest
    | .bar =>
      if connector = some .comma then none else modelRest? (some .bar :: connectors) true rest
    | _ => none
  | _, _, [] => none

/-- The rest of a content model that allows text: the names beside it, which make the group
repeatable. -/
def mixedRest? : List Lexeme → Option Unit
  | [.closingWith mark] => if mark = '*' then some () else none
  | .bar :: name :: rest => if name.word?.isSome then mixedRest? rest else none
  | _ => none

/-- The declaration of an element. -/
def elementDecl? : List Lexeme → Option MarkupDecl
  | [element, .name s] =>
    if element.word?.isSome && (s = "EMPTY" || s = "ANY") then some .other else none
  | element :: .opening :: .pound "PCDATA" :: rest => do
    let _ ← element.word?
    if rest = [.closing] then return .other
    else
      mixedRest? rest
      return .other
  | element :: .opening :: rest => do
    let _ ← element.word?
    modelRest? [none] true rest
    return .other
  | _ => none

/-- The declaration that a keyword begins, by its parts. -/
def markupDecl? (keyword : String) (parts : List Lexeme) : Option MarkupDecl :=
  match keyword with
  | "ENTITY" => entityDecl? parts
  | "ATTLIST" => attributesDecl? parts
  | "ELEMENT" => elementDecl? parts
  | "NOTATION" => notationDecl? parts
  | _ => none

end ComponentAssembly.Markup
