import ComponentAssembly.Build.Assembly
import Mathlib.Data.List.Forall2

/-! What building takes from a document. Outcomes agree if they are the same failure or related
results; the same is built from documents that agree in what is read of their sections. -/

namespace ComponentAssembly

open Build Markup

section Outcomes

variable {α β γ δ : Type} {R : α → β → Prop} {Q : γ → δ → Prop} {x : Except Failure α}
  {y : Except Failure β}

/-- Two outcomes agree: they are the same failure, or results that are related. -/
inductive Agree (R : α → β → Prop) : Except Failure α → Except Failure β → Prop
  | error (f : Failure) : Agree R (.error f) (.error f)
  | ok {a : α} {b : β} (related : R a b) : Agree R (.ok a) (.ok b)

theorem Agree.imp {S : α → β → Prop} (h : Agree R x y) (hi : ∀ a b, R a b → S a b) :
    Agree S x y := by
  cases h with
  | error f => exact .error f
  | ok related => exact .ok (hi _ _ related)

theorem Agree.bind {g : α → Except Failure γ} {k : β → Except Failure δ} (h : Agree R x y)
    (hk : ∀ a b, R a b → Agree Q (g a) (k b)) : Agree Q (x >>= g) (y >>= k) := by
  cases h with
  | error f => exact .error f
  | ok related => exact hk _ _ related

theorem Agree.map {g : α → γ} {k : β → δ} (h : Agree R x y) (hk : ∀ a b, R a b → Q (g a) (k b)) :
    Agree Q (x.map g) (y.map k) := by
  cases h with
  | error f => exact .error f
  | ok related => exact .ok (hk _ _ related)

/-- Rows of related things come to outcomes that agree if each thing in them does. -/
theorem mapM_agree {ε ζ : Type} {S : ε → ζ → Prop} {xs : List ε} {ys : List ζ}
    {g : ε → Except Failure α} {k : ζ → Except Failure β} (h : List.Forall₂ S xs ys)
    (hk : ∀ a b, S a b → Agree R (g a) (k b)) :
    Agree (List.Forall₂ R) (xs.mapM g) (ys.mapM k) := by
  induction h with
  | nil => exact .ok .nil
  | cons first _ ih =>
    rw [List.mapM_cons, List.mapM_cons]
    refine (hk _ _ first).bind fun a b hab => ?_
    exact ih.bind fun as bs habs => .ok (.cons hab habs)

/-- After outcomes that agree, equal steps make equal steps. -/
theorem Agree.ofExcept_bind {g : α → Build γ} {k : β → Build γ} (h : Agree R x y)
    (hk : ∀ a b, R a b → g a = k b) :
    (ofExcept x >>= g : Build γ) = (ofExcept y >>= k : Build γ) := by
  cases h with
  | error f => rfl
  | ok related => exact hk _ _ related

end Outcomes

/-- Two elements are labelled alike: they have the same name apart from its namespace, and the same
attributes among those without one. -/
structure LabelledAlike (node node' : Element) : Prop where
  named : node.localName = node'.localName
  attributed : ∀ name, node.attribute? name = node'.attribute? name

/-- Two sections are read alike: they have the same name, state the same class and give the same
parameters. -/
structure ReadAlike (node node' : Element) : Prop where
  named : node.localName = node'.localName
  stated : statedClass node = statedClass node'
  params : ∀ excluded?, parametersOf node excluded? = parametersOf node' excluded?

/-- Two sections are composed alike around children with this tag: the children are read alike, and
apart from parameters with this tag so are the sections. -/
structure ComposedAlike (childTag : String) (node node' : Element) : Prop where
  named : node.localName = node'.localName
  stated : statedClass node = statedClass node'
  params : parametersOf node (some childTag) = parametersOf node' (some childTag)
  children : List.Forall₂ ReadAlike (node.childrenNamed childTag) (node'.childrenNamed childTag)

/-- The tree that a source holds once it is read. -/
inductive ConfigurationSource.Holds : ConfigurationSource → Element → Prop
  | tree (root : Element) : Holds (.tree root) root
  | bytes {b : List UInt8} {root : Element} (read : Element.ofBytes b = .ok root) :
      Holds (.bytes b) root.withoutRemarks

/-- Two sources are documents whose sections are related in order, or they fail alike to be any. -/
def LoadedAlike (S : Element → Element → Prop) (source source' : ConfigurationSource) : Prop :=
  Agree (fun d d' : Configuration => List.Forall₂ S d.root.children d'.root.children)
    (Configuration.load source) (Configuration.load source')

variable {a : Assembler} {w : World} {target : Value} {record : Settings} {node node' : Element}
  {nodes nodes' : List Element} {excluded? : Option String} {tag childTag identifier : String}
  {required childRequired : Capability} {root root' : Element} {d d' : Configuration}
  {source source' : ConfigurationSource} {factory : Factory} {children : List Value}
  {S : Element → Element → Prop}

/-! ### Sections -/

theorem LabelledAlike.statedClass_eq (h : LabelledAlike node node') :
    statedClass node = statedClass node' := by
  simp only [statedClass, h.attributed, h.named]

theorem LabelledAlike.isEntry_eq (h : LabelledAlike node node') : isEntry node = isEntry node' := by
  simp only [isEntry, entryKey?, entryText?, h.attributed]

theorem LabelledAlike.entry_eq (h : LabelledAlike node node') (parameter : String) :
    entry parameter node = entry parameter node' := by
  simp only [entry, entryKey?, entryText?, h.attributed]

theorem ReadAlike.refl (node : Element) : ReadAlike node node := ⟨rfl, rfl, fun _ => rfl⟩

theorem readAlike_each (nodes : List Element) : List.Forall₂ ReadAlike nodes nodes :=
  List.forall₂_same.2 fun node _ => ReadAlike.refl node

theorem ComposedAlike.refl (childTag : String) (node : Element) : ComposedAlike childTag node node :=
  ⟨rfl, rfl, rfl, readAlike_each _⟩

theorem assignOrFail_alike (h : parametersOf node excluded? = parametersOf node' excluded?) :
    w.assignOrFail target node excluded? record = w.assignOrFail target node' excluded? record := by
  simp only [World.assignOrFail, World.assignSection, h]

theorem setUp_alike (h : ReadAlike node node') :
    w.setUp target node record = w.setUp target node' record := by
  simp only [World.setUp, assignOrFail_alike (h.params none)]

theorem assemble_alike (h : ReadAlike node node') :
    a.assemble node required = a.assemble node' required := by
  simp only [Assembler.assemble, h.stated, setUp_alike h]

theorem setUpEach_alike (h : List.Forall₂ ReadAlike nodes nodes') :
    w.setUpEach target nodes record = w.setUpEach target nodes' record := by
  induction h generalizing record with
  | nil => rfl
  | cons first _ ih => simp only [World.setUpEach, setUp_alike first, ih]

theorem assembleEach_alike (h : List.Forall₂ ReadAlike nodes nodes') :
    a.assembleEach required nodes = a.assembleEach required nodes' := by
  induction h with
  | nil => rfl
  | cons first _ ih => simp only [Assembler.assembleEach, assemble_alike first, ih]

theorem compose_alike (h : ComposedAlike childTag node node') :
    a.compose childTag node identifier factory children =
      a.compose childTag node' identifier factory children := by
  simp only [Assembler.compose, assignOrFail_alike h.params]

/-! ### Documents -/

theorem load_of_holds (h : source.Holds root) :
    Configuration.load source = Configuration.ofRoot root := by
  cases h with
  | tree => rfl
  | bytes read => simp only [Configuration.load, read]

/-- Trees with roots of one name are both documents, or neither is. -/
theorem load_agree (h : source.Holds root) (h' : source'.Holds root') (hr : S root root')
    (hn : root.localName = root'.localName) :
    Agree (fun d d' => S d.root d'.root) (Configuration.load source)
      (Configuration.load source') := by
  rw [load_of_holds h, load_of_holds h', Configuration.ofRoot, Configuration.ofRoot]
  by_cases hroot : root.localName = rootName
  · rw [dif_pos hroot, dif_pos (hn ▸ hroot)]
    exact .ok hr
  · rw [dif_neg hroot, dif_neg (hn ▸ hroot), hn]
    exact .error _

theorem childrenNamed_related (h : List.Forall₂ S node.children node'.children)
    (hn : ∀ e e', S e e' → e.localName = e'.localName) (name : String) :
    List.Forall₂ S (node.childrenNamed name) (node'.childrenNamed name) := by
  refine List.rel_filter ?_ h
  intro e e' he
  simp [hn e e' he]

theorem onlySection_agree (h : List.Forall₂ S (d.sectionsNamed tag) (d'.sectionsNamed tag)) :
    Agree S (d.onlySection tag) (d'.onlySection tag) := by
  unfold Configuration.onlySection
  generalize d.sectionsNamed tag = nodes at h ⊢
  generalize d'.sectionsNamed tag = nodes' at h ⊢
  match h with
  | .nil => exact .error _
  | .cons first .nil => exact .ok first
  | .cons _ (.cons _ _) => exact .error _

/-- A single component is built alike from documents whose sections are read alike. -/
theorem assembleOnly_alike (h : LoadedAlike ReadAlike source source') :
    a.assembleOnly tag required source = a.assembleOnly tag required source' := by
  refine Agree.ofExcept_bind h fun d d' hd => ?_
  have hs := childrenNamed_related hd (fun _ _ he => he.named) tag
  exact (onlySection_agree hs).ofExcept_bind fun node node' hn => assemble_alike hn

theorem compositeEntry_agree (h : LoadedAlike (ComposedAlike childTag) source source') :
    Agree (fun found found' => ComposedAlike childTag found.1 found'.1 ∧ found.2 = found'.2)
      (a.compositeEntry tag required source) (a.compositeEntry tag required source') := by
  refine Agree.bind h fun d d' hd => ?_
  have hs := childrenNamed_related hd (fun _ _ he => he.named) tag
  refine (onlySection_agree hs).bind fun node node' hn => ?_
  rw [hn.stated]
  cases statedClass node' with
  | error f => exact .error f
  | ok identifier =>
    show Agree _ (a.world.suitableEntry a.catalog identifier required a.profiles? >>= _)
      (a.world.suitableEntry a.catalog identifier required a.profiles? >>= _)
    cases a.world.suitableEntry a.catalog identifier required a.profiles? with
    | error f => exact .error f
    | ok e => exact .ok ⟨hn, rfl⟩

/-- A composite component is built alike from documents whose sections are composed alike. -/
theorem assembleComposite_alike (h : LoadedAlike (ComposedAlike childTag) source source') :
    a.assembleComposite childTag childRequired tag required source =
      a.assembleComposite childTag childRequired tag required source' := by
  refine (compositeEntry_agree h).ofExcept_bind fun found found' hf => ?_
  obtain ⟨node, identifier, e⟩ := found
  obtain ⟨node', identifier', e'⟩ := found'
  obtain ⟨hn, he⟩ := hf
  cases he
  simp only [assembleEach_alike hn.children, compose_alike hn]

/-- A component sets itself up alike from documents whose sections are read alike. -/
theorem setUpSelf_alike (h : LoadedAlike ReadAlike source source') :
    w.setUpSelf target tag source = w.setUpSelf target tag source' := by
  unfold World.setUpSelf
  congr 1
  funext s
  cases (s.classOf? target).bind fun c => w.member? c setUpName with
  | none => rfl
  | some m =>
    refine Agree.ofExcept_bind h fun d d' hd => ?_
    have hs := childrenNamed_related hd (fun _ _ he => he.named) tag
    have he : w.setUpEach target (d.sectionsNamed tag) .empty =
      w.setUpEach target (d'.sectionsNamed tag) .empty := setUpEach_alike hs
    simp only [he]

end ComponentAssembly
