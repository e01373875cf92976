import ComponentAssembly.Proofs.Agreeing
import ComponentAssembly.Proofs.Reading
import ComponentAssembly.Proofs.Staging
import Mathlib.Data.List.TakeDrop

/-! Namespaces make no difference: documents that differ in nothing else are read alike, and the same
is built from them. -/

namespace ComponentAssembly

open Build Markup

namespace Markup

mutual

/-- Two elements differ at most in the namespaces of their names and of those inside them. -/
inductive Element.Relabelled : Element → Element → Prop
  | mk {name name' : QName} {attributes : List (QName × String)} {content content' : List Content}
      (same : name.localName = name'.localName) (inside : RelabelledContent content content') :
      Element.Relabelled (.mk name attributes content) (.mk name' attributes content')

/-- Two rows of content differ at most in the namespaces of the names in them. -/
inductive RelabelledContent : List Content → List Content → Prop
  | nil : RelabelledContent [] []
  | element {e e' : Element} {rest rest' : List Content} (first : e.Relabelled e')
      (others : RelabelledContent rest rest') :
      RelabelledContent (.element e :: rest) (.element e' :: rest')
  | leaf {c : Content} {rest rest' : List Content} (noElement : c.element? = none)
      (others : RelabelledContent rest rest') : RelabelledContent (c :: rest) (c :: rest')

end

mutual

theorem Element.Relabelled.fullText_eq {e e' : Element} (h : e.Relabelled e') :
    e.fullText = e'.fullText := by
  cases h with
  | mk same inside => rw [Element.fullText, Element.fullText, inside.textOf_eq]

theorem RelabelledContent.textOf_eq {content content' : List Content}
    (h : RelabelledContent content content') : textOf content = textOf content' := by
  cases h with
  | nil => rfl
  | element first others =>
    rw [textOf, textOf, Content.fullText, Content.fullText, first.fullText_eq, others.textOf_eq]
  | leaf _ others => rw [textOf, textOf, others.textOf_eq]

end

theorem RelabelledContent.elements {content content' : List Content}
    (h : RelabelledContent content content') :
    List.Forall₂ Element.Relabelled (content.filterMap Content.element?)
      (content'.filterMap Content.element?) := by
  cases h with
  | nil => exact .nil
  | element first others => exact .cons first others.elements
  | leaf noElement others =>
    rw [List.filterMap_cons_none noElement, List.filterMap_cons_none noElement]
    exact others.elements

variable {e e' : Element}

theorem Element.Relabelled.localName_eq (h : e.Relabelled e') : e.localName = e'.localName := by
  cases h with
  | mk same _ => exact same

theorem Element.Relabelled.attribute?_eq (h : e.Relabelled e') (name : String) :
    e.attribute? name = e'.attribute? name := by
  cases h
  rfl

theorem Element.Relabelled.children (h : e.Relabelled e') :
    List.Forall₂ Element.Relabelled e.children e'.children := by
  cases h with
  | mk _ inside => exact inside.elements

/-- Whatever namespace stands in front of a name, its text shows the same local name. -/
theorem ofText?_text (space : Option String) {name : String} (hopen : '{' ∉ name.toList)
    (hclose : '}' ∉ name.toList) :
    (QName.ofText? (QName.text ⟨space, name⟩)).map QName.localName = some name := by
  cases space with
  | none =>
    have hs : QName.ofText? name = some ⟨none, name⟩ := by
      unfold QName.ofText?
      split
      · rename_i rest hr
        simp [hr] at hopen
      · rfl
    rw [QName.text, hs]
    rfl
  | some space =>
    have ht : (QName.text ⟨some space, name⟩).toList =
        '{' :: (space.toList ++ '}' :: name.toList) := by
      simp [QName.text]
    -- The name is what comes first when the text is read backwards.
    have hspan : (space.toList ++ '}' :: name.toList).reverse.span (· ≠ '}') =
        (name.toList.reverse, '}' :: space.toList.reverse) := by
      have hall : ∀ c ∈ name.toList.reverse, (decide (c ≠ '}')) = true := by
        intro c hc
        have hne : c ≠ '}' := fun he => hclose (by simpa [he] using hc)
        simpa using hne
      rw [List.reverse_append, List.reverse_cons, List.append_assoc,
        List.span_eq_takeWhile_dropWhile, List.takeWhile_append_of_pos hall,
        List.dropWhile_append_of_pos hall]
      simp
    simp only [QName.ofText?, ht, hspan]
    simp

end Markup

variable {e e' : Element} {nodes nodes' : List Element}

/-- What reads related elements alike reads rows of them alike. -/
theorem map_eq_of_relabelled {β : Type} {f : Element → β}
    (h : List.Forall₂ Element.Relabelled nodes nodes')
    (hf : ∀ e e', e.Relabelled e' → f e = f e') : nodes.map f = nodes'.map f := by
  induction h with
  | nil => rfl
  | cons first _ ih => rw [List.map_cons, List.map_cons, hf _ _ first, ih]

theorem labelled_of_relabelled (h : e.Relabelled e') : LabelledAlike e e' :=
  ⟨h.localName_eq, h.attribute?_eq⟩

theorem statedClass_relabelled (h : e.Relabelled e') : statedClass e = statedClass e' :=
  (labelled_of_relabelled h).statedClass_eq

theorem ofElement_relabelled (h : e.Relabelled e') :
    ShapedText.ofElement e = ShapedText.ofElement e' := by
  have hc := h.children
  have htexts : e.children.map Element.fullText = e'.children.map Element.fullText :=
    map_eq_of_relabelled hc fun _ _ he => he.fullText_eq
  have hentries : e.children.mapM (entry e.localName) = e'.children.mapM (entry e'.localName) := by
    rw [h.localName_eq]
    exact mapM_eq_of_related (hc.imp fun _ _ he => (labelled_of_relabelled he).entry_eq _)
  have hempty : e.children.isEmpty = e'.children.isEmpty := by
    simpa using congrArg List.isEmpty htexts
  have hany : e.children.any isEntry = e'.children.any isEntry := by
    have hm := map_eq_of_relabelled hc fun _ _ he => (labelled_of_relabelled he).isEntry_eq
    simpa using congrArg (List.any · id) hm
  simp only [ShapedText.ofElement, hempty, hany, htexts, hentries, h.fullText_eq]

theorem childrenNamed_relabelled (h : e.Relabelled e') (name : String) :
    List.Forall₂ Element.Relabelled (e.childrenNamed name) (e'.childrenNamed name) :=
  childrenNamed_related h.children (fun _ _ he => he.localName_eq) name

theorem parameterNodes_relabelled (h : e.Relabelled e') (excluded? : Option String) :
    List.Forall₂ Element.Relabelled (parameterNodes e excluded?) (parameterNodes e' excluded?) := by
  unfold parameterNodes parameterList?
  apply List.rel_filter
  · intro c c' hc
    simp [hc.localName_eq]
  · have hp := childrenNamed_relabelled h "params"
    generalize e.childrenNamed "params" = lists at hp ⊢
    generalize e'.childrenNamed "params" = lists' at hp ⊢
    cases hp with
    | nil => exact .nil
    | cons first _ => exact first.children

theorem parametersOf_relabelled (h : e.Relabelled e') (excluded? : Option String) :
    parametersOf e excluded? = parametersOf e' excluded? := by
  refine mapM_eq_of_related ((parameterNodes_relabelled h excluded?).imp ?_)
  intro c c' hc
  simp only [Parameter.ofElement, ofElement_relabelled hc, hc.localName_eq]

theorem readAlike_relabelled (h : e.Relabelled e') : ReadAlike e e' where
  named := h.localName_eq
  stated := statedClass_relabelled h
  params := parametersOf_relabelled h

theorem composedAlike_relabelled (h : e.Relabelled e') (childTag : String) :
    ComposedAlike childTag e e' where
  named := h.localName_eq
  stated := statedClass_relabelled h
  params := parametersOf_relabelled h (some childTag)
  children := (childrenNamed_relabelled h childTag).imp fun _ _ => readAlike_relabelled

/-- Namespaces make no difference. The text of a name shows the same local name whatever namespace
stands in front of it. Where two sources hold trees that differ in namespaces only, both are documents
or both fail alike; the sections found under a tag are the same but for namespaces, and so is the only
one, unless there is none or several in both; the roots, taken as sections, state the same class and
give the same parameters, whichever is excluded. What is built from the two sources is the same from
every state: a single component, a composite one, and what a component sets itself up with; it comes
to the same outcome, with the same events. -/
theorem relabelled_reads_and_builds_alike {root root' : Element} {source source' : ConfigurationSource}
    (hr : root.Relabelled root') (hs : source.Holds root) (hs' : source'.Holds root') :
    (∀ space name, '{' ∉ name.toList → '}' ∉ name.toList →
      (QName.ofText? (QName.text ⟨space, name⟩)).map QName.localName = some name) ∧
    Agree (fun d d' => d.root.Relabelled d'.root ∧
        List.Forall₂ Element.Relabelled d.sections d'.sections ∧
        ∀ tag, List.Forall₂ Element.Relabelled (d.sectionsNamed tag) (d'.sectionsNamed tag) ∧
          Agree Element.Relabelled (d.onlySection tag) (d'.onlySection tag))
      (Configuration.load source) (Configuration.load source') ∧
    statedClass root = statedClass root' ∧
    (∀ excluded?, parametersOf root excluded? = parametersOf root' excluded?) ∧
    (∀ (a : Assembler) tag required,
      a.assembleOnly tag required source = a.assembleOnly tag required source') ∧
    (∀ (a : Assembler) childTag childRequired tag required,
      a.assembleComposite childTag childRequired tag required source =
        a.assembleComposite childTag childRequired tag required source') ∧
    ∀ (w : World) target tag, w.setUpSelf target tag source = w.setUpSelf target tag source' := by
  have loaded := load_agree hs hs' hr hr.localName_eq
  have read : LoadedAlike ReadAlike source source' :=
    loaded.imp fun _ _ hd => hd.children.imp fun _ _ => readAlike_relabelled
  have composed (childTag : String) : LoadedAlike (ComposedAlike childTag) source source' :=
    loaded.imp fun _ _ hd => hd.children.imp fun _ _ he => composedAlike_relabelled he childTag
  refine ⟨fun space name => ofText?_text space, loaded.imp fun d d' hd => ?_,
    statedClass_relabelled hr, parametersOf_relabelled hr, fun a tag required => assembleOnly_alike read,
    fun a childTag childRequired tag required => assembleComposite_alike (composed childTag),
    fun w target tag => setUpSelf_alike read⟩
  refine ⟨hd, hd.children, fun tag => ?_⟩
  have hn := childrenNamed_relabelled hd tag
  exact ⟨hn, onlySection_agree hn⟩

/-- The cart document of the shop, with names of different namespaces. -/
def labelledCart : Element :=
  .mk ⟨some "urn:document", "properties"⟩ [] [.element (.mk ⟨some "urn:shop", "cart"⟩
    [(⟨none, "class"⟩, "Cart")] [.element itemSection,
      .element (.mk ⟨some "urn:item", "item"⟩ [(⟨none, "class"⟩, "Item")]
        [.element (.mk ⟨some "urn:item", "params"⟩ []
          [.element (.mk ⟨some "urn:item", "size"⟩ [] [.text "1"])])])])]

theorem relabelled_reads_and_builds_alike_cart :
    labelledCart.Relabelled cartDocument.root ∧
    ConfigurationSource.Holds (.tree labelledCart) labelledCart ∧
    ConfigurationSource.Holds (.tree cartDocument.root) cartDocument.root ∧
    Agree (fun d d' => d.root.Relabelled d'.root ∧
        List.Forall₂ Element.Relabelled d.sections d'.sections ∧
        ∀ tag, List.Forall₂ Element.Relabelled (d.sectionsNamed tag) (d'.sectionsNamed tag) ∧
          Agree Element.Relabelled (d.onlySection tag) (d'.onlySection tag))
      (Configuration.load (.tree labelledCart)) (.ok cartDocument) ∧
    ∃ t, (shop.assembleComposite "item" (.cls (.predefined .root)) "cart" (.cls (.predefined .root))
        (.tree labelledCart)).Runs .empty (.ok (.object 2))
      (itemEvents 0 ++ itemEvents 1 ++ [.constructed "Cart" 2 (.list [.object 0, .object 1])]) t := by
  have hr : labelledCart.Relabelled cartDocument.root := by
    refine .mk rfl (.element (.mk rfl ?_) .nil)
    have item {space space' space'' : Option String} :
        Element.Relabelled (.mk ⟨space, "item"⟩ [(⟨none, "class"⟩, "Item")]
          [.element (.mk ⟨space', "params"⟩ [] [.element (.mk ⟨space'', "size"⟩ [] [.text "1"])])])
          itemSection :=
      .mk rfl (.element (.mk rfl (.element (.mk rfl (.leaf rfl .nil)) .nil)) .nil)
    exact .element item (.element item .nil)
  obtain ⟨-, agree, -, -, -, composed, -⟩ :=
    relabelled_reads_and_builds_alike hr (.tree labelledCart) (.tree cartDocument.root)
  refine ⟨hr, .tree _, .tree _, agree, ?_⟩
  rw [composed]
  exact ⟨_, rfl, rfl⟩

end ComponentAssembly
