import ComponentAssembly.Proofs.Agreeing
import ComponentAssembly.Proofs.Reading
import Mathlib.Data.List.Forall2

/-! Remarks that are kept in a document add to its texts and change nothing else of what is read. -/

namespace ComponentAssembly

open Markup

namespace Markup

/-- A piece of the text inside an element: one that is written there, or that of a remark. -/
inductive TextPiece where
  | written (text : String)
  | remark (text : String)

/-- The text that a piece adds. -/
def TextPiece.text : TextPiece → String
  | written text => text
  | remark text => text

/-- The text that is written in a piece; none if it is that of a remark. -/
def TextPiece.written? : TextPiece → Option String
  | written text => some text
  | remark _ => none

mutual

/-- The pieces of text inside an element in document order. -/
def Element.pieces : Element → List TextPiece
  | .mk _ _ content => piecesOf content

/-- The pieces of text in one piece of content. -/
def Content.pieces : Content → List TextPiece
  | .element e => e.pieces
  | .text s => [.written s]
  | .comment s => [.remark s]
  | .instruction target data => [.remark (Content.instruction target data).fullText]

/-- The pieces of text in content in a row. -/
def piecesOf : List Content → List TextPiece
  | [] => []
  | c :: rest => c.pieces ++ piecesOf rest

end

/-- No remark stands inside an element, at whatever depth. -/
def Element.HasNoRemarks (e : Element) : Prop := ∀ p ∈ e.pieces, p.written? ≠ none

/-- The element that a path leads to, by the places of the children on the way. -/
def Element.at? (e : Element) : List Nat → Option Element
  | [] => some e
  | i :: path => e.children[i]?.bind (·.at? path)

/-- The children with a local name, each with its place among all children. -/
def Element.placedNamed (e : Element) (name : String) : List (Element × Nat) :=
  e.children.zipIdx.filter fun c => c.1.localName = name

variable {e : Element} {c : Content} {content : List Content} {s : String} {name : String}

/-! ### Texts -/

mutual

theorem Element.fullText_eq_pieces (e : Element) :
    e.fullText = String.join (e.pieces.map TextPiece.text) := by
  cases e with
  | mk _ _ content => exact textOf_eq_pieces content

theorem Content.fullText_eq_pieces (c : Content) :
    c.fullText = String.join (c.pieces.map TextPiece.text) := by
  cases c with
  | element e => exact e.fullText_eq_pieces
  | text s => simp [Content.fullText, Content.pieces, TextPiece.text]
  | comment s => simp [Content.fullText, Content.pieces, TextPiece.text]
  | instruction target data => simp [Content.pieces, TextPiece.text]

theorem textOf_eq_pieces (content : List Content) :
    textOf content = String.join ((piecesOf content).map TextPiece.text) := by
  cases content with
  | nil => rfl
  | cons c rest =>
    rw [textOf, piecesOf, List.map_append, String.join_append, c.fullText_eq_pieces,
      textOf_eq_pieces rest]

end

theorem textOf_joinText (s : String) (content : List Content) :
    textOf (joinText s content) = s ++ textOf content := by
  unfold joinText
  split
  · rw [textOf, textOf, Content.fullText, Content.fullText, String.append_assoc]
  · rw [textOf, Content.fullText]

mutual

theorem Element.fullText_withoutRemarks (e : Element) :
    e.withoutRemarks.fullText = String.join (e.pieces.filterMap TextPiece.written?) := by
  cases e with
  | mk _ _ content => exact textOf_dropRemarks content

theorem textOf_dropRemarks (content : List Content) :
    textOf (dropRemarks content) = String.join ((piecesOf content).filterMap TextPiece.written?) := by
  cases content with
  | nil => rfl
  | cons c rest =>
    rw [piecesOf, List.filterMap_append, String.join_append, ← textOf_dropRemarks rest]
    cases c with
    | element e =>
      rw [Content.pieces, ← e.fullText_withoutRemarks, dropRemarks, textOf, Content.fullText]
    | text s => simp [dropRemarks, textOf_joinText, Content.pieces, TextPiece.written?]
    | comment s =>
      rw [Content.pieces, List.filterMap_cons_none rfl]
      simp [dropRemarks]
    | instruction target data =>
      rw [Content.pieces, List.filterMap_cons_none rfl]
      simp [dropRemarks]

end

/-- Where no remark stands inside, the text stays. -/
theorem Element.HasNoRemarks.fullText_eq (h : e.HasNoRemarks) :
    e.withoutRemarks.fullText = e.fullText := by
  have hp : e.pieces.filterMap TextPiece.written? = e.pieces.map TextPiece.text := by
    rw [← List.filterMap_eq_map]
    apply List.filterMap_congr
    intro p hp
    cases p with
    | written text => rfl
    | remark text => exact absurd rfl (h _ hp)
  rw [e.fullText_withoutRemarks, e.fullText_eq_pieces, hp]

theorem piecesOf_joinText (h : ∀ p ∈ piecesOf content, p.written? ≠ none) (s : String) :
    ∀ p ∈ piecesOf (joinText s content), p.written? ≠ none := by
  unfold joinText
  split
  · simp_all [piecesOf, Content.pieces, TextPiece.written?]
  · simp_all [piecesOf, Content.pieces, TextPiece.written?]

mutual

theorem Element.hasNoRemarks_withoutRemarks (e : Element) : e.withoutRemarks.HasNoRemarks := by
  cases e with
  | mk _ _ content => exact written_dropRemarks content

theorem written_dropRemarks (content : List Content) :
    ∀ p ∈ piecesOf (dropRemarks content), p.written? ≠ none := by
  cases content with
  | nil => simp [dropRemarks, piecesOf]
  | cons c rest =>
    have hr := written_dropRemarks rest
    cases c with
    | element e =>
      intro p hp
      rw [dropRemarks, piecesOf, List.mem_append] at hp
      rcases hp with hp | hp
      · exact e.hasNoRemarks_withoutRemarks p hp
      · exact hr p hp
    | text s => exact piecesOf_joinText hr s
    | comment s => exact hr
    | instruction target data => exact hr

end

/-! ### Children -/

theorem elements_joinText (s : String) (content : List Content) :
    (joinText s content).filterMap Content.element? = content.filterMap Content.element? := by
  unfold joinText
  split
  · rw [List.filterMap_cons_none rfl, List.filterMap_cons_none rfl]
  · rw [List.filterMap_cons_none rfl]

theorem elements_dropRemarks (content : List Content) :
    (dropRemarks content).filterMap Content.element? =
      (content.filterMap Content.element?).map Element.withoutRemarks := by
  induction content with
  | nil => rfl
  | cons c rest ih =>
    cases c with
    | element e => simp [dropRemarks, Content.element?, ih]
    | text s => rw [dropRemarks, elements_joinText, ih, List.filterMap_cons_none rfl]
    | comment s => rw [dropRemarks, ih, List.filterMap_cons_none rfl]
    | instruction target data => rw [dropRemarks, ih, List.filterMap_cons_none rfl]

theorem Element.children_withoutRemarks (e : Element) :
    e.withoutRemarks.children = e.children.map Element.withoutRemarks := by
  cases e with
  | mk _ _ content => exact elements_dropRemarks content

@[simp] theorem Element.localName_withoutRemarks (e : Element) :
    e.withoutRemarks.localName = e.localName := by
  cases e
  rfl

@[simp] theorem Element.attribute?_withoutRemarks (e : Element) (name : String) :
    e.withoutRemarks.attribute? name = e.attribute? name := by
  cases e
  rfl

/-- A path leads to the same element, with the remarks inside it or without. -/
theorem Element.at?_withoutRemarks (e : Element) (path : List Nat) :
    e.withoutRemarks.at? path = (e.at? path).map Element.withoutRemarks := by
  induction path generalizing e with
  | nil => rfl
  | cons i path ih =>
    rw [at?, at?, children_withoutRemarks, List.getElem?_map]
    cases e.children[i]? with
    | none => rfl
    | some child => exact ih child

theorem Element.childrenNamed_withoutRemarks (e : Element) (name : String) :
    e.withoutRemarks.childrenNamed name = (e.childrenNamed name).map Element.withoutRemarks := by
  simp only [childrenNamed, children_withoutRemarks, List.filter_map, Function.comp_def,
    localName_withoutRemarks]

theorem Element.placedNamed_withoutRemarks (e : Element) (name : String) :
    e.withoutRemarks.placedNamed name =
      (e.placedNamed name).map (Prod.map Element.withoutRemarks id) := by
  simp only [placedNamed, children_withoutRemarks, List.zipIdx_map, List.filter_map,
    Function.comp_def, Prod.map_fst, localName_withoutRemarks]

/-- The children with a local name are those that stand at a place and bear it. -/
theorem Element.mem_placedNamed {child : Element} {i : Nat} :
    (child, i) ∈ e.placedNamed name ↔ e.at? [i] = some child ∧ child.localName = name := by
  have hp : e.at? [i] = e.children[i]? := by
    rw [at?]
    cases e.children[i]? <;> rfl
  rw [hp, placedNamed, List.mem_filter, List.mem_zipIdx_iff_getElem?]
  simp

theorem Element.placedNamed_children (e : Element) (name : String) :
    (e.placedNamed name).map Prod.fst = e.childrenNamed name := by
  have hf : (e.children.zipIdx.map Prod.fst).filter (fun child => child.localName = name) =
      (e.children.zipIdx.filter fun c => c.1.localName = name).map Prod.fst := List.filter_map
  rw [placedNamed, ← hf, List.zipIdx_map_fst, childrenNamed]

end Markup

/-- Two values have the same form: the same shape and, where they are maps, the same entries. -/
structure ShapedText.SameForm (v v' : ShapedText) : Prop where
  shape : v.shape = v'.shape
  entries : ∀ entries, v = .map entries ↔ v' = .map entries

/-- Two parameters have the same name and values of the same form. -/
structure Parameter.SameForm (p p' : Parameter) : Prop where
  name : p.name = p'.name
  value : p.value.SameForm p'.value

/-- A second node is read as a first one is without the remarks inside it: the children of each name
stand at the same places, the class is the same, and so is the parameter list, apart from the remarks
in it. Parameters have the same names and forms, or the same one is malformed alike. The text of the
second node is what is written in the first, where the texts of the remarks stand in between; where
none stands inside a parameter that is read, the parameters are the same. -/
structure ReadWithoutRemarks (node node' : Element) : Prop where
  placed : ∀ name, node'.placedNamed name =
    (node.placedNamed name).map (Prod.map Element.withoutRemarks id)
  stated : statedClass node' = statedClass node
  list : parameterList? node' = (parameterList? node).map Element.withoutRemarks
  value : Agree ShapedText.SameForm (ShapedText.ofElement node) (ShapedText.ofElement node')
  parameters : ∀ excluded?, Agree (List.Forall₂ Parameter.SameForm) (parametersOf node excluded?)
    (parametersOf node' excluded?)
  text : node.fullText = String.join (node.pieces.map TextPiece.text)
  written : node'.fullText = String.join (node.pieces.filterMap TextPiece.written?)
  unremarked : ∀ excluded?, (∀ p ∈ parameterNodes node excluded?, p.HasNoRemarks) →
    parametersOf node' excluded? = parametersOf node excluded?

variable {node child : Element} {nodes : List Element} {excluded? : Option String} {tag : String}
  {d d' : Configuration}

theorem labelled_withoutRemarks (node : Element) : LabelledAlike node.withoutRemarks node :=
  ⟨node.localName_withoutRemarks, node.attribute?_withoutRemarks⟩

theorem parameterList?_withoutRemarks (node : Element) :
    parameterList? node.withoutRemarks = (parameterList? node).map Element.withoutRemarks := by
  rw [parameterList?, parameterList?, Element.childrenNamed_withoutRemarks, List.head?_map]

theorem parameterNodes_withoutRemarks (node : Element) (excluded? : Option String) :
    parameterNodes node.withoutRemarks excluded? =
      (parameterNodes node excluded?).map Element.withoutRemarks := by
  have hchildren : (((parameterList? node).map Element.withoutRemarks).map Element.children).getD [] =
      (((parameterList? node).map Element.children).getD []).map Element.withoutRemarks := by
    cases parameterList? node with
    | none => rfl
    | some list => exact list.children_withoutRemarks
  simp only [parameterNodes, parameterList?_withoutRemarks, hchildren, List.filter_map,
    Function.comp_def, Element.localName_withoutRemarks]

theorem related_withoutRemarks (nodes : List Element) :
    List.Forall₂ (fun node node' => node' = node.withoutRemarks) nodes
      (nodes.map Element.withoutRemarks) :=
  List.forall₂_map_right_iff.2 (List.forall₂_same.2 fun _ _ => rfl)

/-- Each entry of a map is read the same. -/
theorem entries_withoutRemarks (parameter : String) (nodes : List Element) :
    (nodes.map Element.withoutRemarks).mapM (entry parameter) = nodes.mapM (entry parameter) := by
  apply mapM_eq_of_related
  rw [List.forall₂_map_left_iff, List.forall₂_same]
  exact fun node _ => (labelled_withoutRemarks node).entry_eq parameter

theorem any_isEntry_withoutRemarks (nodes : List Element) :
    (nodes.map Element.withoutRemarks).any isEntry = nodes.any isEntry := by
  rw [List.any_map]
  exact congrArg nodes.any (funext fun node => (labelled_withoutRemarks node).isEntry_eq)

theorem ofElement_withoutRemarks (node : Element) :
    Agree ShapedText.SameForm (ShapedText.ofElement node)
      (ShapedText.ofElement node.withoutRemarks) := by
  simp only [ShapedText.ofElement, node.children_withoutRemarks, node.localName_withoutRemarks,
    any_isEntry_withoutRemarks, entries_withoutRemarks, List.isEmpty_map]
  split
  · exact .ok ⟨rfl, by simp⟩
  split
  · cases node.children.mapM (entry node.localName) with
    | error f => exact .error f
    | ok pairs => exact .ok ⟨rfl, fun _ => Iff.rfl⟩
  · exact .ok ⟨rfl, by simp⟩

theorem parametersOf_withoutRemarks (node : Element) (excluded? : Option String) :
    Agree (List.Forall₂ Parameter.SameForm) (parametersOf node excluded?)
      (parametersOf node.withoutRemarks excluded?) := by
  rw [parametersOf, parametersOf, parameterNodes_withoutRemarks]
  refine mapM_agree (related_withoutRemarks _) ?_
  rintro p _ rfl
  exact (ofElement_withoutRemarks p).map fun v v' hv => ⟨p.localName_withoutRemarks.symm, hv⟩

/-! ### Without remarks -/

/-- The pieces inside a child are pieces inside its parent. -/
theorem pieces_subset_of_mem {content : List Content} (hc : .element child ∈ content) :
    child.pieces ⊆ piecesOf content := by
  induction content with
  | nil => cases hc
  | cons c rest ih =>
    intro p hp
    rw [piecesOf, List.mem_append]
    rcases List.mem_cons.1 hc with rfl | hr
    · exact .inl hp
    · exact .inr (ih hr hp)

theorem hasNoRemarks_child (h : node.HasNoRemarks) (hc : child ∈ node.children) :
    child.HasNoRemarks := by
  obtain ⟨name, attributes, content⟩ := node
  obtain ⟨c, hmem, helem⟩ := List.mem_filterMap.1 hc
  have hchild : .element child ∈ content := by
    cases c with
    | element e =>
      obtain rfl : e = child := Option.some.inj helem
      exact hmem
    | _ => cases helem
  intro p hp
  exact h p (pieces_subset_of_mem hchild hp)

theorem ofElement_of_hasNoRemarks (h : node.HasNoRemarks) :
    ShapedText.ofElement node.withoutRemarks = ShapedText.ofElement node := by
  have htexts : (node.children.map Element.withoutRemarks).map Element.fullText =
      node.children.map Element.fullText := by
    rw [List.map_map]
    exact List.map_congr_left fun child hc => (hasNoRemarks_child h hc).fullText_eq
  simp only [ShapedText.ofElement, node.children_withoutRemarks, node.localName_withoutRemarks,
    any_isEntry_withoutRemarks, entries_withoutRemarks, List.isEmpty_map, h.fullText_eq, htexts]

theorem parametersOf_of_hasNoRemarks (h : ∀ p ∈ parameterNodes node excluded?, p.HasNoRemarks) :
    parametersOf node.withoutRemarks excluded? = parametersOf node excluded? := by
  rw [parametersOf, parametersOf, parameterNodes_withoutRemarks]
  apply mapM_eq_of_related
  rw [List.forall₂_map_left_iff, List.forall₂_same]
  intro p hp
  rw [Parameter.ofElement, Parameter.ofElement, p.localName_withoutRemarks,
    ofElement_of_hasNoRemarks (h p hp)]

/-! ### Documents -/

theorem readWithoutRemarks (node : Element) : ReadWithoutRemarks node node.withoutRemarks where
  placed := node.placedNamed_withoutRemarks
  stated := (labelled_withoutRemarks node).statedClass_eq
  list := parameterList?_withoutRemarks node
  value := ofElement_withoutRemarks node
  parameters := parametersOf_withoutRemarks node
  text := node.fullText_eq_pieces
  written := node.fullText_withoutRemarks
  unremarked := fun _ h => parametersOf_of_hasNoRemarks h

theorem onlySection_withoutRemarks (h : d'.root = d.root.withoutRemarks) (tag : String) :
    Agree (fun node node' => node' = node.withoutRemarks) (d.onlySection tag)
      (d'.onlySection tag) := by
  apply onlySection_agree
  rw [Configuration.sectionsNamed, Configuration.sectionsNamed, h,
    Element.childrenNamed_withoutRemarks]
  exact related_withoutRemarks _

/-- Remarks that are kept in a tree change no structure that is read of it. Without them no remark is
left in it; the paths in it lead to the same elements, and each is read the same up to the texts of the
remarks. The tree is a document without them exactly if it is one with them, else both fail alike;
then the sections are the same in order, those with each tag are, and so is the only one with a tag,
unless there is none or several in both. -/
theorem remarks_change_texts_alone (t : Element) :
    t.withoutRemarks.HasNoRemarks ∧
    (∀ path, t.withoutRemarks.at? path = (t.at? path).map Element.withoutRemarks) ∧
    (∀ path node, t.at? path = some node → ReadWithoutRemarks node node.withoutRemarks) ∧
    Agree (fun d d' => d.root = t ∧ d'.root = t.withoutRemarks ∧
        d'.sections = d.sections.map Element.withoutRemarks ∧
        ∀ tag, d'.sectionsNamed tag = (d.sectionsNamed tag).map Element.withoutRemarks ∧
          Agree (fun node node' => node' = node.withoutRemarks) (d.onlySection tag)
            (d'.onlySection tag))
      (Configuration.load (.tree t)) (Configuration.load (.tree t.withoutRemarks)) := by
  refine ⟨t.hasNoRemarks_withoutRemarks, t.at?_withoutRemarks,
    fun _ node _ => readWithoutRemarks node, ?_⟩
  have loaded := load_agree (S := fun e e' => e = t ∧ e' = t.withoutRemarks) (.tree t)
    (.tree t.withoutRemarks) ⟨rfl, rfl⟩ t.localName_withoutRemarks.symm
  refine loaded.imp fun d d' ⟨hd, hd'⟩ => ?_
  have hr : d'.root = d.root.withoutRemarks := by rw [hd, hd']
  refine ⟨hd, hd', ?_, fun tag => ⟨?_, onlySection_withoutRemarks hr tag⟩⟩
  · rw [Configuration.sections, hr, Element.children_withoutRemarks, Configuration.sections]
  · rw [Configuration.sectionsNamed, hr, Element.childrenNamed_withoutRemarks,
      Configuration.sectionsNamed]

/-- A parameter with a remark inside its text. -/
def remarkedSize : Element := .mk ⟨none, "size"⟩ [] [.text "4", .comment "two", .text "2"]

example : remarkedSize.fullText = "4two2" ∧ remarkedSize.withoutRemarks.fullText = "42" := ⟨rfl, rfl⟩

end ComponentAssembly
