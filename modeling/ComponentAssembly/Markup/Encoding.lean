import ComponentAssembly.Markup.Encoding.Table
import ComponentAssembly.Markup.Name

/-! How the bytes of a document stand for characters. -/

namespace ComponentAssembly.Markup

/-- An encoding of characters in bytes. -/
inductive Encoding where
  | utf8
  | utf16 (bigEndian : Bool)
  | page (p : CodePage)
deriving Repr, DecidableEq

/-- The character that a byte stands for. -/
def CodePage.char? (p : CodePage) (byte : UInt8) : Option Char :=
  if byte < 0x80 then some (Char.ofNat byte.toNat) |>.filter (· ∉ p.missing)
  else p.upper.toList[byte.toNat - 0x80]?.filter (· ≠ '?')

/-- Whether a byte may follow the first one of a character in UTF-8. -/
def isTail (b : UInt8) : Bool := b.toNat / 0x40 = 2

/-- Six bits of a character in UTF-8. -/
def tailBits (b : UInt8) : Nat := b.toNat % 0x40

/-- The characters of bytes in UTF-8, in which each has its shortest form and no surrogates occur.
The characters found are kept last first. -/
def utf8Chars? (found : List Char) : List UInt8 → Option (List Char)
  | [] => some found.reverse
  | a :: rest =>
    if a < 0x80 then utf8Chars? (Char.ofNat a.toNat :: found) rest
    else if a < 0xE0 then
      match rest with
      | b :: rest =>
        let code := a.toNat % 0x20 * 0x40 + tailBits b
        if 0xC2 ≤ a ∧ isTail b then utf8Chars? (Char.ofNat code :: found) rest else none
      | _ => none
    else if a < 0xF0 then
      match rest with
      | b :: c :: rest =>
        let code := (a.toNat % 0x10 * 0x40 + tailBits b) * 0x40 + tailBits c
        if isTail b ∧ isTail c ∧ 0x800 ≤ code ∧ code.isValidChar then
          utf8Chars? (Char.ofNat code :: found) rest
        else none
      | _ => none
    else
      match rest with
      | b :: c :: d :: rest =>
        let code := ((a.toNat % 8 * 0x40 + tailBits b) * 0x40 + tailBits c) * 0x40 + tailBits d
        if a < 0xF8 ∧ isTail b ∧ isTail c ∧ isTail d ∧ 0x10000 ≤ code ∧ code.isValidChar then
          utf8Chars? (Char.ofNat code :: found) rest
        else none
      | _ => none

/-- The characters of bytes in UTF-16 as far as they can be read, and whether that is to the end.
Whatever unit follows a high surrogate gives the low half of its character. The characters found are
kept last first. -/
def utf16Chars (bigEndian : Bool) (found : List Char) : List UInt8 → List Char × Bool
  | [] => (found.reverse, true)
  | a :: b :: rest =>
    let unit := if bigEndian then a.toNat * 0x100 + b.toNat else b.toNat * 0x100 + a.toNat
    if 0xD800 ≤ unit ∧ unit < 0xDC00 then
      match rest with
      | c :: d :: rest =>
        let low := if bigEndian then c.toNat * 0x100 + d.toNat else d.toNat * 0x100 + c.toNat
        let code := 0x10000 + unit % 0x400 * 0x400 + low % 0x400
        utf16Chars bigEndian (Char.ofNat code :: found) rest
      | _ => (found.reverse, false)
    else if unit.isValidChar then utf16Chars bigEndian (Char.ofNat unit :: found) rest
    else (found.reverse, false)
  | [_] => (found.reverse, false)

/-- The characters that bytes stand for, all of them such as a document may hold. -/
def Encoding.decode? (e : Encoding) (bytes : List UInt8) : Option (List Char) := do
  let chars ←
    match e with
    | .utf8 => utf8Chars? [] bytes
    | .utf16 bigEndian =>
      let (chars, complete) := utf16Chars bigEndian [] bytes
      if complete then some chars else none
    | .page p => bytes.mapM p.char?
  if chars.all isAllowed then return chars else none

/-- The encoding that the first bytes show, and the bytes after a mark that shows it. -/
def Encoding.detect : List UInt8 → Encoding × List UInt8
  | 0xFE :: 0xFF :: rest => (.utf16 true, rest)
  | 0xFF :: 0xFE :: rest => (.utf16 false, rest)
  | 0xEF :: 0xBB :: 0xBF :: rest => (.utf8, rest)
  | 0 :: b :: rest => (.utf16 true, 0 :: b :: rest)
  | a :: 0 :: rest => (.utf16 false, a :: 0 :: rest)
  | bytes => (.utf8, bytes)

/-- Why bytes are not a document: they are malformed, or the encoding that they name cannot be looked
up for reading. -/
inductive ReadProblem where
  | malformed
  | unknownEncoding (name : String)
  | noTextEncoding (name : String)
  | multibyteEncoding
  | undecodable (name reason : String)
  | undecodableByte
deriving Repr, DecidableEq

/-- An encoding's name in lower case, with one underscore for each run of other characters than
letters, digits and points. -/
def plainEncodingName (name : String) : String :=
  String.ofList (go false name.toList)
where
  /-- `gap` tells whether the last characters were left out. -/
  go (gap : Bool) : List Char → List Char
    | [] => []
    | c :: rest =>
      if c.isAlphanum || c = '.' then (if gap then ['_'] else []) ++ c.toLower :: go false rest
      else go true rest

/-- Whether an encoding goes by a plain name. In a name that is not its own a point may take the place
of an underscore. -/
def KnownEncoding.goesBy (e : KnownEncoding) (plain : String) : Bool :=
  e.name = plain || plain ∈ e.aliases
    || String.ofList (plain.toList.map fun c => if c = '.' then '_' else c) ∈ e.aliases

/-- The kind of the known encoding that a name stands for. -/
def encodingKind? (name : String) : Option EncodingKind :=
  (knownEncodings.find? fun e => e.goesBy (plainEncodingName name)).map KnownEncoding.kind

/-- The encoding that a name stands for beside the ones that every reader knows. It is looked up
whatever the bytes show. -/
def Encoding.lookUp (name : String) : Except ReadProblem Encoding :=
  match encodingKind? name with
  | some (.page p) => .ok (.page p)
  | some .unfit => .error .malformed
  | some .multibyte => .error .multibyteEncoding
  | some .noText => .error (.noTextEncoding name)
  | some (.undecodable reason) => .error (.undecodable name reason)
  | some .undecodableByte => .error .undecodableByte
  | none => .error (.unknownEncoding name)

/-- The encoding that a declaration names, given the one that the bytes show. The ones that every
reader knows must take as many bytes for a character as these. -/
def Encoding.named (shown : Encoding) (name : String) : Except ReadProblem Encoding :=
  let wide := match shown with
    | .utf16 _ => true
    | _ => false
  let narrow (e : Encoding) := if wide then .error .malformed else .ok e
  match String.ofList (name.toList.map Char.toUpper) with
  | "UTF-8" => narrow .utf8
  | "ISO-8859-1" => narrow (.page .latin1)
  | "US-ASCII" => narrow (.page .ascii)
  | "UTF-16" => if wide then .ok shown else .error .malformed
  | "UTF-16BE" => if shown = .utf16 true then .ok shown else .error .malformed
  | "UTF-16LE" => if shown = .utf16 false then .ok shown else .error .malformed
  | _ => lookUp name

end ComponentAssembly.Markup
