import ComponentAssembly.Markup.Declaration
import ComponentAssembly.Markup.Token
import ComponentAssembly.Text.Blank

/-! Document types: the entities and default attributes that a document declares for itself. -/

namespace ComponentAssembly.Markup

/-- What a document declares for itself. Once a part of the declarations is kept outside the
document, names it may have declared are not missed, and later declarations are not heeded. -/
structure DocumentType where
  entities : List (String × EntityBody)
  attributes : List AttributeDecl
  hasOutsidePart : Bool
  heedsDeclarations : Bool
  standalone : Bool
deriving Repr, DecidableEq

/-- A document without declarations. -/
def DocumentType.none (standalone : Bool) : DocumentType := ⟨[], [], false, true, standalone⟩

/-- Whether an entity that is not declared is passed over in attribute values. -/
def DocumentType.isLenient (t : DocumentType) : Bool := t.hasOutsidePart && !t.standalone

/-- The declaration of an entity. The first of several counts. -/
def DocumentType.entity? (t : DocumentType) (name : String) : Option EntityBody :=
  (t.entities.find? (·.1 = name)).map (·.2)

/-- The text of pieces of an attribute value, given how much entity text may still be read, and how
much is left after it. Entities nested more deeply than there are entities contain themselves. -/
def expandPieces? (t : DocumentType) (depth budget : Nat) (found : List Char) :
    List Piece → Option (List Char × Nat)
  | [] => some (found, budget)
  | .char c :: rest => expandPieces? t depth budget (c :: found) rest
  | .entity name :: rest =>
    match depth, t.entity? name with
    | depth + 1, some (.inside text) =>
      if budget < text.length then Option.none
      else do
        let (found, budget) ←
          expandPieces? t depth (budget - text.length) found (← valuePieces? text)
        expandPieces? t (depth + 1) budget found rest
    | 0, some (.inside _) => Option.none
    | _, some .outside => Option.none
    | depth, Option.none =>
      if t.isLenient then expandPieces? t depth budget found rest else Option.none
termination_by pieces => (depth, pieces.length)

/-- Joins runs of spaces into one and drops those at both ends. -/
def singleSpaced (s : List Char) : List Char :=
  let joined := s.foldr (fun c rest => if c = ' ' && rest.head? = some ' ' then rest else c :: rest) []
  Text.trimBy (· = ' ') joined

/-- The value of an attribute from what stands between its quotes. -/
def DocumentType.attributeValue? (t : DocumentType) (isPlain : Bool) (budget : Nat)
    (written : List Char) : Option (List Char × Nat) := do
  let (found, budget) ← expandPieces? t t.entities.length budget [] (← valuePieces? written)
  let value := found.reverse
  return (if isPlain then value else singleSpaced value, budget)

/-- Adds an attribute unless the element has one of that name. -/
def DocumentType.addAttribute? (t : DocumentType) (budget : Nat) (a : AttributeDecl) :
    Option (DocumentType × Nat) := do
  let (value, budget) ←
    match a.value with
    | some written => do
      let (value, budget) ← t.attributeValue? a.isPlain budget written
      pure (some value, budget)
    | Option.none => pure (Option.none, budget)
  if t.attributes.any fun b => b.element = a.element && b.name = a.name then return (t, budget)
  else return ({ t with attributes := t.attributes ++ [{ a with value }] }, budget)

/-- Heeds a declaration. -/
def DocumentType.declare? (t : DocumentType) (budget : Nat) (d : MarkupDecl) :
    Option (DocumentType × Nat) :=
  if !t.heedsDeclarations then some (t, budget)
  else match d with
    | .other => some (t, budget)
    | .entity name (.inside written) => do
      let text ← entityText? written
      return ({ t with entities := t.entities ++ [(name, .inside text)] }, budget)
    | .entity name .outside => some ({ t with entities := t.entities ++ [(name, .outside)] }, budget)
    | .attributes decls => decls.foldlM (fun (t, budget) a => t.addAttribute? budget a) (t, budget)

/-- A remark outside the root element, after its opening `<`. -/
def remark? (s : List Char) : Option (List Char) :=
  match markup? s with
  | some (.comment _, rest) => some rest
  | some (.instruction _ _, rest) => some rest
  | _ => Option.none

/-- The declarations between brackets, and what follows the closing one. -/
def internalSubset? (t : DocumentType) (budget : Nat) (s : List Char) :
    Option (DocumentType × Nat × List Char) :=
  go s.length t budget s
where
  /-- At most as many steps as there are characters. -/
  go : Nat → DocumentType → Nat → List Char → Option (DocumentType × Nat × List Char)
    | 0, _, _, _ => Option.none
    | steps + 1, t, budget, s =>
      match skipSpace s with
      | ']' :: rest => some (t, budget, rest)
      | '%' :: rest => do
        let (_, rest) ← simpleName? rest
        let rest ← afterText? ";" rest
        go steps { t with hasOutsidePart := true, heedsDeclarations := t.standalone } budget rest
      | '<' :: '!' :: c :: rest =>
        if c = '-' then do go steps t budget (← remark? ('!' :: c :: rest))
        else do
          let (keyword, rest) := (c :: rest).span Char.isAlpha
          if (rest.head?.map isSpace).getD false then
            let (parts, close, rest) ← lexemes? rest
            let d ← markupDecl? (String.ofList keyword) parts
            let (t, budget) ← t.declare? budget d
            if close = '>' then go steps t budget rest else Option.none
          else Option.none
      | '<' :: rest => do go steps t budget (← remark? rest)
      | _ => Option.none

/-- A document type after its keyword, and what follows it. -/
def documentType? (standalone : Bool) (budget : Nat) (s : List Char) :
    Option (DocumentType × Nat × List Char) := do
  if !(s.head?.map isSpace).getD false then Option.none
  else
    let (parts, close, rest) ← lexemes? s
    let name :: parts := parts | Option.none
    let _ ← name.word?
    let start := DocumentType.none standalone
    let t ←
      match parts with
      | [] => some start
      | parts =>
        match externalId? parts with
        | some [] => some { start with hasOutsidePart := true }
        | _ => Option.none
    if close = '>' then return (t, budget, rest)
    else
      let (t, budget, rest) ← internalSubset? t budget rest
      return (t, budget, ← afterText? ">" (skipSpace rest))

end ComponentAssembly.Markup
