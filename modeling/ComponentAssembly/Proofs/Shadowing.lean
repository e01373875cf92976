import ComponentAssembly.Proofs.Agreeing
import ComponentAssembly.Proofs.Staging

/-! Children shadow the parameter of their tag: whatever stands for it, the same composite component
is built. -/

namespace ComponentAssembly

open Build Markup

namespace Markup

/-- Two elements have the same name and attributes, and the same children in the same order apart
from those with this tag. -/
structure Element.AlikeApartFrom (tag : String) (e e' : Element) : Prop where
  name : e.name = e'.name
  attributes : e.attributes = e'.attributes
  others : e.children.filter (·.localName ≠ tag) = e'.children.filter (·.localName ≠ tag)

/-- Two sections differ at most in the parameters with this tag: all that stands in them is the same,
up to such children of their first parameter list. -/
inductive Element.DifferInParameter (tag : String) : Element → Element → Prop
  | mk {name : QName} {attributes : List (QName × String)} {before after : List Content}
      {list list' : Element} (first : ∀ e, .element e ∈ before → e.localName ≠ "params")
      (named : list.localName = "params") (alike : list.AlikeApartFrom tag list') :
      DifferInParameter tag (.mk name attributes (before ++ .element list :: after))
        (.mk name attributes (before ++ .element list' :: after))

/-- Two trees are the same up to the parameters with this tag in one of their sections. -/
inductive Element.DifferInSection (tag : String) : Element → Element → Prop
  | mk {name : QName} {attributes : List (QName × String)} {before after : List Content}
      {node node' : Element} (differ : node.DifferInParameter tag node') :
      DifferInSection tag (.mk name attributes (before ++ .element node :: after))
        (.mk name attributes (before ++ .element node' :: after))

variable {name : QName} {attributes : List (QName × String)} {before after : List Content}
  {e e' : Element} {tag : String}

theorem Element.AlikeApartFrom.localName_eq (h : e.AlikeApartFrom tag e') :
    e.localName = e'.localName :=
  congrArg QName.localName h.name

theorem children_split :
    (Element.mk name attributes (before ++ .element e :: after)).children =
      before.filterMap Content.element? ++ e :: after.filterMap Content.element? := by
  simp [Element.children, Element.content, Content.element?]

/-- A child between others makes no difference to the children of another name. -/
theorem childrenNamed_split_of_ne (h : e.localName ≠ tag) :
    (Element.mk name attributes (before ++ .element e :: after)).childrenNamed tag =
      (before.filterMap Content.element? ++ after.filterMap Content.element?).filter
        (·.localName = tag) := by
  rw [Element.childrenNamed, children_split, List.filter_append, List.filter_append,
    List.filter_cons_of_neg (by simpa using h)]

end Markup

variable {name : QName} {attributes : List (QName × String)} {before after : List Content}
  {list node node' root root' : Element} {childTag : String} {source source' : ConfigurationSource}

theorem parameterList?_split (first : ∀ e, .element e ∈ before → e.localName ≠ "params")
    (named : list.localName = "params") :
    parameterList? (.mk name attributes (before ++ .element list :: after)) = some list := by
  have hb : (before.filterMap Content.element?).filter (·.localName = "params") = [] := by
    refine List.filter_eq_nil_iff.2 fun e he => ?_
    obtain ⟨c, hc, hce⟩ := List.mem_filterMap.1 he
    cases c with
    | element d =>
      cases hce
      simpa using first _ hc
    | text _ | comment _ | instruction _ _ => cases hce
  rw [parameterList?, Element.childrenNamed, children_split, List.filter_append, hb,
    List.nil_append, List.filter_cons_of_pos (by simpa using named), List.head?_cons]

/-- What is excluded is passed over before it is read, so nothing of it is left. -/
theorem parameterNodes_differ (h : node.DifferInParameter childTag node') :
    parameterNodes node (some childTag) = parameterNodes node' (some childTag) := by
  cases h with
  | mk first named alike =>
    rw [parameterNodes, parameterNodes, parameterList?_split first named,
      parameterList?_split first (alike.localName_eq ▸ named)]
    simpa using alike.others

theorem parametersOf_differ (h : node.DifferInParameter childTag node') :
    parametersOf node (some childTag) = parametersOf node' (some childTag) := by
  rw [parametersOf, parametersOf, parameterNodes_differ h]

/-- The children come from beside the parameter list, not from inside it. -/
theorem childrenNamed_differ (hc : childTag ≠ "params")
    (h : node.DifferInParameter childTag node') :
    node.childrenNamed childTag = node'.childrenNamed childTag := by
  cases h with
  | mk first named alike =>
    have hl := named.trans_ne hc.symm
    rw [childrenNamed_split_of_ne hl, childrenNamed_split_of_ne (alike.localName_eq ▸ hl)]

theorem composedAlike_differ (hc : childTag ≠ "params")
    (h : node.DifferInParameter childTag node') : ComposedAlike childTag node node' where
  named := by cases h; rfl
  stated := by cases h; rfl
  params := parametersOf_differ h
  children := by
    rw [childrenNamed_differ hc h]
    exact readAlike_each _

theorem sections_differ (hc : childTag ≠ "params") (h : root.DifferInSection childTag root') :
    List.Forall₂ (ComposedAlike childTag) root.children root'.children := by
  have hrefl (nodes : List Element) : List.Forall₂ (ComposedAlike childTag) nodes nodes :=
    List.forall₂_same.2 fun node _ => ComposedAlike.refl childTag node
  cases h with
  | mk differ =>
    rw [children_split, children_split]
    exact List.rel_append (hrefl _) (.cons (composedAlike_differ hc differ) (hrefl _))

/-- The parameter that the children shadow never interferes. Where two sources hold trees that are the
same up to the elements with the children's tag in the first parameter list of a section, the same
composite component is built from both, from every state: it comes to the same outcome, with the same
events. -/
theorem assembleComposite_ignores_shadowed (hc : childTag ≠ "params")
    (hd : root.DifferInSection childTag root') (hs : source.Holds root) (hs' : source'.Holds root')
    (a : Assembler) (childRequired : Capability) (tag : String) (required : Capability) :
    a.assembleComposite childTag childRequired tag required source =
      a.assembleComposite childTag childRequired tag required source' := by
  have hn : root.localName = root'.localName := by cases hd; rfl
  have hl := load_agree hs hs' hd hn
  exact assembleComposite_alike (hl.imp fun _ _ => sections_differ hc)

/-- A document with a cart of one item that has these parameters. -/
def cartTree (parameters : List Content) : Element :=
  .mk ⟨none, "properties"⟩ [] [.element (.mk ⟨none, "cart"⟩ [(⟨none, "class"⟩, "Cart")]
    [.element (.mk ⟨none, "params"⟩ [] parameters), .element itemSection])]

/-- A parameter that is no whole map: its second entry has neither key nor text. -/
def brokenItem : Element :=
  .mk ⟨none, "item"⟩ [] [.element (.mk ⟨none, "entry"⟩ [(⟨none, "key"⟩, "a"), (⟨none, "value"⟩, "1")] []),
    .element (.mk ⟨none, "entry"⟩ [] [])]

theorem assembleComposite_ignores_shadowed_cart :
    "item" ≠ "params" ∧
    (cartTree [.element brokenItem]).DifferInSection "item" (cartTree [.text "none"]) ∧
    Parameter.ofElement brokenItem = .error (.document (.entryWithoutKey "item")) ∧
    shop.assembleComposite "item" (.cls (.predefined .root)) "cart" (.cls (.predefined .root))
        (.tree (cartTree [.element brokenItem])) =
      shop.assembleComposite "item" (.cls (.predefined .root)) "cart" (.cls (.predefined .root))
        (.tree (cartTree [.text "none"])) ∧
    ∃ t, (shop.assembleComposite "item" (.cls (.predefined .root)) "cart" (.cls (.predefined .root))
        (.tree (cartTree [.element brokenItem]))).Runs .empty (.ok (.object 1))
      (itemEvents 0 ++ [.constructed "Cart" 1 (.list [.object 0])]) t := by
  have hc : "item" ≠ "params" := by decide
  have hd : (cartTree [.element brokenItem]).DifferInSection "item" (cartTree [.text "none"]) := by
    have hp : Element.DifferInParameter "item"
        (.mk ⟨none, "cart"⟩ [(⟨none, "class"⟩, "Cart")]
          ([] ++ .element (.mk ⟨none, "params"⟩ [] [.element brokenItem]) :: [.element itemSection]))
        (.mk ⟨none, "cart"⟩ [(⟨none, "class"⟩, "Cart")]
          ([] ++ .element (.mk ⟨none, "params"⟩ [] [.text "none"]) :: [.element itemSection])) :=
      .mk (by simp) rfl ⟨rfl, rfl, rfl⟩
    exact (.mk hp : Element.DifferInSection "item" (.mk _ _ ([] ++ .element _ :: []))
      (.mk _ _ ([] ++ .element _ :: [])))
  refine ⟨hc, hd, rfl, ?_, _, rfl, rfl⟩
  exact assembleComposite_ignores_shadowed hc hd (.tree _) (.tree _) shop _ _ _

end ComponentAssembly
