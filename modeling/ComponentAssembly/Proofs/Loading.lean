import ComponentAssembly.Configuration
import Mathlib

/-! How loading a document from bytes fails: as a matter of format, unless the bytes declare an encoding
that cannot be looked up for reading. -/

namespace ComponentAssembly

open Markup

namespace Markup

variable {bytes rest : List UInt8} {name reason : String} {shown e : Encoding} {s chars : List Char}
  {p : ReadProblem} {declared : Declaration} {standalone : Bool} {kind? : Option EncodingKind}

/-- The names of encodings that every reader knows, in capitals. -/
def standardEncodings : List String :=
  ["UTF-8", "ISO-8859-1", "US-ASCII", "UTF-16", "UTF-16BE", "UTF-16LE"]

/-- A name is none of an encoding that every reader knows. It is looked up, and this is the kind of the
known encoding that it stands for, if there is one. -/
structure StandsFor (name : String) (kind? : Option EncodingKind) : Prop where
  lookedUp : String.ofList (name.toList.map Char.toUpper) ∉ standardEncodings
  found : encodingKind? name = kind?

/-- A name stands for no encoding that bytes can be decoded in one by one, and looking it up raises
this. An encoding in which markup is not written as in ASCII is only unfit. -/
inductive CannotBeLookedUp (name : String) : ReadProblem → Prop
  | unknown (h : StandsFor name none) : CannotBeLookedUp name (.unknownEncoding name)
  | noText (h : StandsFor name (some .noText)) : CannotBeLookedUp name (.noTextEncoding name)
  | multibyte (h : StandsFor name (some .multibyte)) : CannotBeLookedUp name .multibyteEncoding
  | undecodable {reason : String} (h : StandsFor name (some (.undecodable reason))) :
      CannotBeLookedUp name (.undecodable name reason)
  | undecodableByte (h : StandsFor name (some .undecodableByte)) :
      CannotBeLookedUp name .undecodableByte

/-- The characters at the front of bytes as far as they are clear before an encoding is named. -/
def leadingChars (bytes : List UInt8) : List Char :=
  match Encoding.detect bytes with
  | (.utf16 bigEndian, bytes) => (utf16Chars bigEndian [] bytes).1
  | (_, bytes) => asciiLead bytes

/-- Bytes begin with a well-formed declaration that names this encoding. -/
def Declares (bytes : List UInt8) (name : String) : Prop :=
  ∃ inside length standalone,
    splitDeclaration? (leadingChars bytes) = some (some (inside, length)) ∧
      declaration? inside = some ⟨some name, standalone⟩

/-! ### Names of encodings -/

/-- A name that is looked up is looked up whatever the bytes show. -/
theorem named_of_standsFor (h : StandsFor name kind?) (shown : Encoding) :
    shown.named name = Encoding.lookUp name := by
  have hs := h.lookedUp
  unfold Encoding.named
  split <;> simp_all [standardEncodings]

theorem named_of_cannotBeLookedUp (h : CannotBeLookedUp name p) (shown : Encoding) :
    shown.named name = .error p := by
  cases h with
  | unknown h | noText h | multibyte h | undecodable h | undecodableByte h =>
    rw [named_of_standsFor h, Encoding.lookUp, h.found]

theorem lookUp_error (hs : String.ofList (name.toList.map Char.toUpper) ∉ standardEncodings)
    (h : Encoding.lookUp name = .error p) : p = .malformed ∨ CannotBeLookedUp name p := by
  unfold Encoding.lookUp at h
  split at h
  · cases h
  all_goals
    rename_i hk
    obtain rfl := Except.error.inj h
  · exact .inl rfl
  · exact .inr (.multibyte ⟨hs, hk⟩)
  · exact .inr (.noText ⟨hs, hk⟩)
  · exact .inr (.undecodable ⟨hs, hk⟩)
  · exact .inr (.undecodableByte ⟨hs, hk⟩)
  · exact .inr (.unknown ⟨hs, hk⟩)

/-- The name of an encoding that every reader knows can only be in the wrong place. -/
theorem named_error (h : shown.named name = .error p) :
    p = .malformed ∨ CannotBeLookedUp name p := by
  unfold Encoding.named at h
  extract_lets wide narrow at h
  have hnarrow {e : Encoding} (he : narrow e = .error p) : p = .malformed := by
    simp only [narrow] at he
    split at he <;> simp_all
  split at h
  · exact .inl (hnarrow h)
  · exact .inl (hnarrow h)
  · exact .inl (hnarrow h)
  · split at h <;> simp_all
  · split at h <;> simp_all
  · split at h <;> simp_all
  · exact lookUp_error (by simp_all [standardEncodings]) h

/-! ### Reading bytes -/

/-- How many bytes a character takes before an encoding is named. -/
def Encoding.frontWidth : Encoding → Nat
  | .utf16 _ => 2
  | _ => 1

/-- The document whose characters bytes stand for in an encoding. -/
def decodeAs (standalone : Bool) (bytes : List UInt8) (e : Encoding) : Except ReadProblem Source :=
  match e.decode? bytes with
  | some chars => .ok ⟨chars, standalone⟩
  | none => .error .malformed

/-- The document after its declaration. -/
def readDeclared (shown : Encoding) (rest : List UInt8) (declared : Declaration) :
    Except ReadProblem Source :=
  match declared.encoding.map shown.named with
  | none => decodeAs declared.standalone rest shown
  | some (.ok e) => decodeAs declared.standalone rest e
  | some (.error p) => .error p

theorem decodeAs_error (h : decodeAs standalone rest e = .error p) : p = .malformed := by
  unfold decodeAs at h
  split at h
  · cases h
  · exact (Except.error.inj h).symm

theorem ofBytes_eq (hd : Encoding.detect bytes = (shown, rest)) :
    Source.ofBytes bytes = match splitDeclaration? (leadingChars bytes) with
      | none => .error .malformed
      | some none => decodeAs false rest shown
      | some (some (inside, length)) =>
        match declaration? inside with
        | none => .error .malformed
        | some declared =>
          readDeclared shown (rest.drop (shown.frontWidth * length)) declared := by
  have opened {α β : Type} (a : α) (g : α → Except ReadProblem β) :
      (Source.ofBytes.orMalformed (some a) >>= g) = g a := rfl
  have decoding (standalone : Bool) (rest : List UInt8) (e : Encoding) :
      (do return ⟨← Source.ofBytes.orMalformed (e.decode? rest), standalone⟩) =
        decodeAs standalone rest e := by
    unfold decodeAs
    cases e.decode? rest <;> rfl
  unfold Source.ofBytes
  rw [hd]
  split
  rename_i hpair
  obtain ⟨rfl, rfl⟩ := Prod.mk.inj hpair
  split
  rename_i lead width hfront
  have hl : leadingChars bytes = lead := by
    rw [leadingChars, hd]
    cases shown <;> exact congrArg Prod.fst hfront
  have hw : shown.frontWidth = width := by
    cases shown <;> exact congrArg Prod.snd hfront
  subst hl hw
  cases splitDeclaration? (leadingChars bytes) with
  | none => rfl
  | some found =>
    rw [opened]
    cases found with
    | none => exact decoding false rest shown
    | some found =>
      obtain ⟨inside, length⟩ := found
      dsimp only
      cases declaration? inside with
      | none => rfl
      | some declared =>
        rw [opened]
        dsimp only [readDeclared]
        cases declared.encoding.map shown.named with
        | none => exact decoding declared.standalone (rest.drop (shown.frontWidth * length)) shown
        | some named =>
          cases named with
          | ok e => exact decoding declared.standalone (rest.drop (shown.frontWidth * length)) e
          | error problem => rfl

/-- Bytes that are not read are malformed, or they declare an encoding that cannot be looked up. -/
theorem ofBytes_error (h : Source.ofBytes bytes = .error p) :
    p = .malformed ∨ ∃ name, Declares bytes name ∧ CannotBeLookedUp name p := by
  rcases hdetect : Encoding.detect bytes with ⟨shown, rest⟩
  rw [ofBytes_eq hdetect] at h
  cases hs : splitDeclaration? (leadingChars bytes) with
  | none =>
    rw [hs] at h
    exact .inl (Except.error.inj h).symm
  | some found =>
    rw [hs] at h
    cases found with
    | none => exact .inl (decodeAs_error h)
    | some found =>
      obtain ⟨inside, length⟩ := found
      cases hd : declaration? inside with
      | none =>
        simp only [hd] at h
        exact .inl (Except.error.inj h).symm
      | some declared =>
        simp only [hd, readDeclared] at h
        obtain ⟨encoding, standalone⟩ := declared
        cases encoding with
        | none => exact .inl (decodeAs_error h)
        | some name =>
          have hdeclares : Declares bytes name := ⟨inside, length, standalone, hs, hd⟩
          cases hn : shown.named name with
          | ok e =>
            simp only [Option.map_some, hn] at h
            exact .inl (decodeAs_error h)
          | error problem =>
            simp only [Option.map_some, hn] at h
            obtain rfl := Except.error.inj h
            exact (named_error hn).imp id fun hp => ⟨name, hdeclares, hp⟩

/-- A declared encoding is looked up before anything else is read. -/
theorem ofBytes_of_declares (h : Declares bytes name) :
    ∃ shown rest standalone,
      Source.ofBytes bytes = readDeclared shown rest ⟨some name, standalone⟩ := by
  obtain ⟨inside, length, standalone, hs, hd⟩ := h
  rcases hdetect : Encoding.detect bytes with ⟨shown, rest⟩
  refine ⟨shown, rest.drop (shown.frontWidth * length), standalone, ?_⟩
  rw [ofBytes_eq hdetect, hs]
  simp only [hd]

theorem ofBytes_of_cannotBeLookedUp (h : Declares bytes name) (hp : CannotBeLookedUp name p) :
    Source.ofBytes bytes = .error p := by
  obtain ⟨shown, rest, standalone, hr⟩ := ofBytes_of_declares h
  simp only [hr, readDeclared, Option.map_some, named_of_cannotBeLookedUp hp]

theorem element_ofBytes_of_error (h : Source.ofBytes bytes = .error p) :
    Element.ofBytes bytes = .error p := by
  rw [Element.ofBytes, h]
  rfl

theorem element_ofBytes_error (h : Element.ofBytes bytes = .error p) :
    p = .malformed ∨ Source.ofBytes bytes = .error p := by
  cases hs : Source.ofBytes bytes with
  | error q =>
    rw [element_ofBytes_of_error hs] at h
    exact .inr (congrArg _ (Except.error.inj h))
  | ok source =>
    have opened (g : Source → Except ReadProblem Element) : (.ok source >>= g) = g source := rfl
    rw [Element.ofBytes, hs, opened] at h
    cases hr : source.root? with
    | none =>
      rw [hr] at h
      exact .inl (Except.error.inj h).symm
    | some e =>
      rw [hr] at h
      cases h

/-! ### The usual declaration -/

/-- A name that a declaration can give to an encoding. -/
structure IsEncodingName (name : String) : Prop where
  first : (name.toList.head?.map Char.isAlpha).getD false = true
  all : ∀ c ∈ name.toList, isDeclarationChar c = true

/-- The inside of a declaration of an encoding, as it is usually written. -/
def usualInside (name : String) : List Char :=
  " version='1.0' encoding='".toList ++ (name.toList ++ ['\''])

/-- The bytes of a declaration of an encoding, as it is usually written. -/
def usualDeclaration (name : String) : List UInt8 :=
  ("<?xml".toList ++ (usualInside name ++ ['?', '>'])).map fun c => UInt8.ofNat c.toNat

/-- No character of a name ends the declaration. -/
theorem isDeclarationChar_clear {c : Char} (h : isDeclarationChar c = true) :
    c.toNat < 0x80 ∧ c ≠ '?' := by
  refine ⟨?_, fun hc => absurd (hc ▸ h) (by decide)⟩
  simp only [isDeclarationChar, Char.isAlphanum, Char.isAlpha, Char.isUpper, Char.isLower,
    Char.isDigit, Bool.or_eq_true, Bool.and_eq_true, decide_eq_true_eq, UInt32.le_iff_toNat_le] at h
  have hc : c.toNat = c.val.toNat := rfl
  have hZ : 'Z'.val.toNat = 90 := rfl
  have hz : 'z'.val.toNat = 122 := rfl
  have h9 : '9'.val.toNat = 57 := rfl
  obtain (((⟨⟨-, h⟩ | ⟨-, h⟩⟩ | ⟨-, h⟩) | rfl) | rfl) | rfl := h
  · omega
  · omega
  · omega
  all_goals decide

/-- Characters that are clear before an encoding is named are read off. -/
theorem asciiLead_append (h : ∀ c ∈ chars, c.toNat < 0x80) (rest : List UInt8) :
    asciiLead (chars.map (fun c => UInt8.ofNat c.toNat) ++ rest) = chars ++ asciiLead rest := by
  induction chars with
  | nil => rfl
  | cons c chars ih =>
    have hc := h c (by simp)
    have hs := ih fun d hd => h d (by simp [hd])
    have hn : (UInt8.ofNat c.toNat).toNat = c.toNat := by
      rw [UInt8.toNat_ofNat']
      omega
    have hb : UInt8.ofNat c.toNat < 0x80 := by
      rw [UInt8.lt_iff_toNat_lt, hn]
      exact hc
    simp only [asciiLead, List.map_cons, List.cons_append] at hs ⊢
    rw [List.takeWhile_cons_of_pos (by simpa using hb), List.map_cons, hs, hn, Char.ofNat_toNat]

/-- A text in front of the close is found whole if the close cannot begin in it. -/
theorem upTo?_append (h : '?' ∉ chars) (rest : List Char) :
    upTo? ['?', '>'] (chars ++ '?' :: '>' :: rest) = some (chars, rest) := by
  have hgo (seen : List Char) : upTo?.go ['?', '>'] seen (chars ++ '?' :: '>' :: rest) =
      some (seen.reverse ++ chars, rest) := by
    induction chars generalizing seen with
    | nil =>
      rw [List.nil_append, List.append_nil]
      unfold upTo?.go
      rfl
    | cons c chars ih =>
      obtain ⟨hc, hs⟩ : '?' ≠ c ∧ '?' ∉ chars := by simpa using h
      have hp : ['?', '>'].isPrefixOf? (c :: (chars ++ '?' :: '>' :: rest)) = none := by
        simp [List.isPrefixOf?, hc]
      rw [List.cons_append, upTo?.go, hp]
      simp only [ih hs, List.reverse_cons, List.append_assoc, List.singleton_append]
  exact hgo []

theorem value?_usual (h : IsEncodingName name) :
    declarationPair?.value? ('\'' :: (name.toList ++ ['\''])) = some (name, []) := by
  have hspan : (name.toList ++ ['\'']).span isDeclarationChar = (name.toList, ['\'']) := by
    rw [List.span_eq_takeWhile_dropWhile, List.takeWhile_append_of_pos h.all,
      List.dropWhile_append_of_pos h.all]
    simp [List.takeWhile, List.dropWhile, show isDeclarationChar '\'' = false from rfl]
  unfold declarationPair?.value?
  dsimp only
  rw [if_pos (by simp), hspan]
  simp

theorem declaration?_usual (h : IsEncodingName name) :
    declaration? (usualInside name) = some ⟨some name, false⟩ := by
  have version : declarationPair? (usualInside name) =
      some (some ("version", "1.0", " encoding='".toList ++ (name.toList ++ ['\'']))) := rfl
  have encoding : declarationPair? (" encoding='".toList ++ (name.toList ++ ['\''])) =
      some (some ("encoding", name, [])) := by
    show (declarationPair?.value? ('\'' :: (name.toList ++ ['\''])) >>=
      fun found => some (some ("encoding", found.1, found.2))) = _
    rw [value?_usual h]
    rfl
  unfold declaration?
  rw [version, Option.bind_eq_bind, Option.bind_some, Option.bind_eq_bind, Option.bind_some]
  dsimp only
  rw [if_neg (by simp), encoding]
  exact if_pos h.first

theorem usualInside_clear (h : IsEncodingName name) :
    ∀ c ∈ usualInside name, c.toNat < 0x80 ∧ c ≠ '?' := by
  have before : ∀ c ∈ " version='1.0' encoding='".toList, c.toNat < 0x80 ∧ c ≠ '?' := by simp
  unfold usualInside
  refine List.forall_mem_append.2 ⟨before, List.forall_mem_append.2 ⟨?_, ?_⟩⟩
  · exact fun c hc => isDeclarationChar_clear (h.all c hc)
  · simp

/-- Every name can be declared, whatever follows its declaration. -/
theorem declares_usual (h : IsEncodingName name) (rest : List UInt8) :
    Declares (usualDeclaration name ++ rest) name := by
  have hinside := usualInside_clear h
  have hlead : leadingChars (usualDeclaration name ++ rest) =
      "<?xml".toList ++ (usualInside name ++ '?' :: '>' :: asciiLead rest) := by
    change asciiLead (("<?xml".toList ++ (usualInside name ++ ['?', '>'])).map
      (fun c => UInt8.ofNat c.toNat) ++ rest) = _
    rw [asciiLead_append]
    · simp
    · simp only [List.forall_mem_append]
      exact ⟨by simp, fun c hc => (hinside c hc).1, by simp⟩
  refine ⟨usualInside name, 5 + (usualInside name).length + 2, false, ?_, declaration?_usual h⟩
  rw [hlead]
  show (upTo? ['?', '>'] (usualInside name ++ '?' :: '>' :: asciiLead rest) >>= fun found =>
    some (some (found.1, 5 + found.1.length + 2))) = _
  rw [upTo?_append fun hc => (hinside '?' hc).2 rfl]
  rfl

end Markup

namespace Configuration

variable {bytes : List UInt8} {name : String} {p : ReadProblem} {f : Failure}

theorem load_of_problem (h : Element.ofBytes bytes = .error p) :
    load (.bytes bytes) = .error (.document (.unreadable p)) := by
  simp only [load, h]

/-- A document that is not loaded is no document, has another root or cannot be read. -/
theorem load_error_cases (h : load (.bytes bytes) = .error f) :
    f.kind = .config .documentFormat ∨
      ∃ p, Source.ofBytes bytes = .error p ∧ f = .document (.unreadable p) := by
  cases hr : Element.ofBytes bytes with
  | error p =>
    rw [load_of_problem hr] at h
    obtain rfl := Except.error.inj h
    obtain rfl | hs := element_ofBytes_error hr
    · exact .inl rfl
    · exact .inr ⟨p, hs, rfl⟩
  | ok root =>
    simp only [load, hr, ofRoot] at h
    split at h
    · cases h
    · rw [← Except.error.inj h]
      exact .inl rfl

theorem load_of_cannotBeLookedUp (h : Declares bytes name) (hp : CannotBeLookedUp name p) :
    load (.bytes bytes) = .error (.document (.unreadable p)) :=
  load_of_problem (element_ofBytes_of_error (ofBytes_of_cannotBeLookedUp h hp))

/-- Where bytes declare an encoding that cannot be looked up, there is neither a document nor an error
of format. -/
theorem not_format_of_cannotBeLookedUp (h : Declares bytes name) (hp : CannotBeLookedUp name p) :
    ¬ ((∃ d, load (.bytes bytes) = .ok d ∧ d.root.localName = rootName) ∨
      ∃ f, load (.bytes bytes) = .error f ∧ f.kind = .config .documentFormat) := by
  have hl := load_of_cannotBeLookedUp h hp
  rintro (⟨d, hd, -⟩ | ⟨f, hf, hk⟩)
  · cases hl.symm.trans hd
  · obtain rfl := Except.error.inj (hl.symm.trans hf)
    cases hp <;> cases hk

end Configuration

/-- Loading bytes gives a document with the right root or an error of format, exactly unless the bytes
declare an encoding that cannot be looked up for reading: one that nobody knows, one that is not for
text, one with several bytes for a character, or one whose bytes cannot be decoded one by one. Then the
error of looking it up is the outcome. Every name can be declared. -/
theorem load_fails_as_format_iff (bytes : List UInt8) :
    (((∃ d, Configuration.load (.bytes bytes) = .ok d ∧ d.root.localName = rootName) ∨
        ∃ f, Configuration.load (.bytes bytes) = .error f ∧ f.kind = .config .documentFormat) ↔
      ¬ ∃ name p, Declares bytes name ∧ CannotBeLookedUp name p) ∧
    (∀ name, Declares bytes name → StandsFor name none →
      ∃ f, Configuration.load (.bytes bytes) = .error f ∧ f.kind = .foreign "LookupError" ∧
        f.message = "unknown encoding: " ++ name ∧ f.identifier? = none) ∧
    (∀ name, Declares bytes name → StandsFor name (some .noText) →
      ∃ f, Configuration.load (.bytes bytes) = .error f ∧ f.kind = .foreign "LookupError" ∧
        f.identifier? = none) ∧
    (∀ name, Declares bytes name → StandsFor name (some .multibyte) →
      ∃ f, Configuration.load (.bytes bytes) = .error f ∧ f.kind = .foreign "ValueError" ∧
        f.message = "multi-byte encodings are not supported" ∧ f.identifier? = none) ∧
    (∀ name reason, Declares bytes name → StandsFor name (some (.undecodable reason)) →
      ∃ f, Configuration.load (.bytes bytes) = .error f ∧ f.kind = .foreign "UnicodeError" ∧
        f.identifier? = none) ∧
    (∀ name, Declares bytes name → StandsFor name (some .undecodableByte) →
      ∃ f, Configuration.load (.bytes bytes) = .error f ∧ f.kind = .foreign "UnicodeDecodeError" ∧
        f.identifier? = none) ∧
    ∀ name, IsEncodingName name → Declares (usualDeclaration name ++ bytes) name := by
  have fails {name : String} {p : ReadProblem} (hd : Declares bytes name)
      (hp : CannotBeLookedUp name p) :
      Configuration.load (.bytes bytes) = .error (.document (.unreadable p)) :=
    Configuration.load_of_cannotBeLookedUp hd hp
  refine ⟨⟨?_, ?_⟩, fun name hd h => ⟨_, fails hd (.unknown h), rfl, rfl, rfl⟩,
    fun name hd h => ⟨_, fails hd (.noText h), rfl, rfl⟩,
    fun name hd h => ⟨_, fails hd (.multibyte h), rfl, rfl, rfl⟩,
    fun name reason hd h => ⟨_, fails hd (.undecodable h), rfl, rfl⟩,
    fun name hd h => ⟨_, fails hd (.undecodableByte h), rfl, rfl⟩,
    fun name hn => declares_usual hn bytes⟩
  · rintro hformat ⟨name, p, hd, hp⟩
    exact Configuration.not_format_of_cannotBeLookedUp hd hp hformat
  · intro hn
    cases hl : Configuration.load (.bytes bytes) with
    | ok d => exact .inl ⟨d, rfl, d.root_named⟩
    | error f =>
      refine .inr ⟨f, rfl, ?_⟩
      obtain hk | ⟨p, hs, rfl⟩ := Configuration.load_error_cases hl
      · exact hk
      obtain rfl | ⟨name, hd, hp⟩ := ofBytes_error hs
      · rfl
      · exact absurd ⟨name, p, hd, hp⟩ hn

/-- An encoding that nobody knows is no matter of format. -/
theorem load_unknown_encoding :
    let bytes := usualDeclaration "nope" ++
      "<properties/>".toList.map fun c => UInt8.ofNat c.toNat
    ¬ ((∃ d, Configuration.load (.bytes bytes) = .ok d ∧ d.root.localName = rootName) ∨
      ∃ f, Configuration.load (.bytes bytes) = .error f ∧ f.kind = .config .documentFormat) := by
  intro bytes
  have hname : IsEncodingName "nope" := ⟨rfl, List.all_eq_true.1 rfl⟩
  have hu : StandsFor "nope" none := ⟨by decide, by decide +kernel⟩
  exact Configuration.not_format_of_cannotBeLookedUp (declares_usual hname _) (.unknown hu)

end ComponentAssembly
