import ComponentAssembly.Proofs.Completing
import ComponentAssembly.Proofs.Constructing

/-! A composite component is built in stages: what it is to be is settled first, then its children
are built in order, and only then its own factory is called. -/

namespace ComponentAssembly

open Build Markup

variable {a : Assembler} {w : World} {making : Build Value} {node : Element} {target v : Value}
  {excluded? : Option String} {s t u : State} {r : Except Failure Value} {es fs : List Event}
  {d : Configuration} {source : ConfigurationSource} {tag childTag identifier : String}
  {required childRequired : Capability} {e : Entry} {nodes : List Element} {vs : List Value}

/-- The call of a function begins. -/
def Event.isCall : Event → Bool
  | .called _ _ => true
  | _ => false

/-- A constructor begins. -/
def Event.isConstruction : Event → Bool
  | .constructed _ _ _ => true
  | _ => false

/-- A function or a constructor begins. -/
def Event.isMaking : Event → Bool
  | .called _ _ | .constructed _ _ _ => true
  | _ => false

/-- How a document describes a composite component: the only section with its tag, the identifier of
its class there, and the entry for it, which meets the requirement. -/
structure Assembler.Describes (a : Assembler) (d : Configuration) (tag : String)
    (required : Capability) (node : Element) (identifier : String) (e : Entry) : Prop where
  only : d.sectionsNamed tag = [node]
  stated : statedClass node = .ok identifier
  resolved : a.world.entryFor a.catalog identifier a.profiles? = .ok e
  suitable : a.world.meets? e.provided required = some true

theorem onlySection_ok_iff : d.onlySection tag = .ok node ↔ d.sectionsNamed tag = [node] := by
  unfold Configuration.onlySection
  split <;> simp_all

theorem suitableEntry_ok_iff {catalog : Catalog} {profiles? : Option (List String)} :
    w.suitableEntry catalog identifier required profiles? = .ok e ↔
      w.entryFor catalog identifier profiles? = .ok e ∧
        w.meets? e.provided required = some true := by
  rw [World.suitableEntry, bind_ok_iff]
  constructor
  · rintro ⟨c, hc, hm⟩
    split at hm
    · obtain rfl := Except.ok.inj hm
      exact ⟨hc, by assumption⟩
    · cases hm
    · cases hm
  · rintro ⟨he, hm⟩
    refine ⟨e, he, ?_⟩
    rw [hm]
    rfl

theorem compositeEntry_ok_iff (hd : Configuration.load source = .ok d) :
    a.compositeEntry tag required source = .ok (node, identifier, e) ↔
      a.Describes d tag required node identifier e := by
  simp only [Assembler.compositeEntry, bind_ok_iff, hd, onlySection_ok_iff, suitableEntry_ok_iff]
  constructor
  · rintro ⟨d, hd, n, hn, i, hi, c, ⟨hc, hm⟩, hp⟩
    cases hd
    cases hp
    exact ⟨hn, hi, hc, hm⟩
  · rintro ⟨hn, hi, hc, hm⟩
    exact ⟨d, rfl, node, hn, identifier, hi, e, ⟨hc, hm⟩, rfl⟩

theorem compositeEntry_describes
    (h : a.compositeEntry tag required source = .ok (node, identifier, e)) :
    ∃ d, Configuration.load source = .ok d ∧ a.Describes d tag required node identifier e := by
  obtain ⟨d, hd, -⟩ := bind_ok_iff.1 h
  exact ⟨d, hd, (compositeEntry_ok_iff hd).1 h⟩

/-- Once it is settled what a composite component is to be, one of its children fails, or all of
them are built and then it is composed. -/
theorem assembleComposite_cases
    (he : a.compositeEntry tag required source = .ok (node, identifier, e)) (childTag : String)
    (childRequired : Capability) (s : State) :
    (∃ pre child post vs es t f fs u, node.childrenNamed childTag = pre ++ child :: post ∧
      a.AssemblesEach childRequired pre s vs es t ∧
      (a.assemble child childRequired).Runs t (.error f) fs u ∧
      (a.assembleComposite childTag childRequired tag required source).Runs s
        (.error f) (es ++ fs) u) ∨
    ∃ vs es t r fs u, a.AssemblesEach childRequired (node.childrenNamed childTag) s vs es t ∧
      (a.compose childTag node identifier e.factory vs).Runs t r fs u ∧
      (a.assembleComposite childTag childRequired tag required source).Runs s r (es ++ fs) u := by
  have hrun {r : Except Failure Value} {es : List Event} {u : State}
      (hr : (do
        let vs ← a.assembleEach childRequired (node.childrenNamed childTag)
        a.compose childTag node identifier e.factory vs).Runs s r es u) :
      (a.assembleComposite childTag childRequired tag required source).Runs s r es u :=
    (runs_ofExcept he s).bind_silent hr
  obtain ⟨vs, es, t, hk⟩ | ⟨pre, child, post, vs, es, t, f, fs, u, hs, hk, hf⟩ :=
    assemblesEach_or_fails a childRequired (node.childrenNamed childTag) s
  · obtain ⟨r, fs, u, hr, -⟩ := compose_completes a childTag node identifier e.factory vs t
    exact .inr ⟨vs, es, t, r, fs, u, hk, hr, hrun ((assembleEach_of_each hk).bind hr)⟩
  · have hr : (a.assembleEach childRequired (pre ++ child :: post)).Runs s (.error f) _ u :=
      assembleEach_of_failing hk hf
    rw [← hs] at hr
    exact .inl ⟨pre, child, post, vs, es, t, f, fs, u, hs, hk, hf, hrun hr.bind_error⟩

theorem begin_no_making {names : List String} (h : w.Begin s target names es) :
    ∀ e ∈ es, e.isMaking = false := by
  intro e he
  obtain ⟨number?, name, v, rfl⟩ := h.sets e he
  rfl

theorem activates_no_making {r : Except Failure Unit} (h : Activates w s v r es) :
    ∀ e ∈ es, e.isMaking = false := by
  intro e he
  obtain ⟨n, rfl⟩ | ⟨n, p, rfl⟩ | ⟨p, text, rfl⟩ := h.events e he <;> rfl

/-- Once a component is made, no function and no constructor is called for it any more. -/
theorem Completes.making_first (h : Completes w making node excluded? s r es t) :
    ∃ q ms u others, making.Runs s q ms u ∧ es = ms ++ others ∧
      ∀ e ∈ others, e.isMaking = false := by
  cases h with
  | unmade made => exact ⟨_, es, t, [], made, by simp, by simp⟩
  | unset made set =>
    obtain ⟨begun, -, hb, -⟩ := (SetsFirst.of_runs set).first
    exact ⟨_, _, _, _, made, rfl, begin_no_making hb⟩
  | activated made set active =>
    obtain ⟨begun, -, hb, -⟩ := (SetsFirst.of_runs set).first
    refine ⟨_, _, _, _, made, rfl, ?_⟩
    intro e he
    rcases List.mem_append.1 he with he | he
    · exact begin_no_making hb e he
    · exact activates_no_making (Activates.of_runs active).2 e he

theorem makes_counts {cs : List Event} {r : Except Failure Value} (hc : AtMostCall cs)
    (h : Makes s cs r es t) : es.countP Event.isCall ≤ 1 ∧ es.countP Event.isConstruction ≤ 1 := by
  rcases hc with rfl | ⟨name, first, rfl⟩ <;> cases h <;>
    simp [State.constructing, Event.isCall, Event.isConstruction, List.countP_cons]

theorem isMaking_of_isCall (e : Event) (h : e.isCall = true) : e.isMaking = true := by
  cases e <;> simp_all [Event.isCall, Event.isMaking]

theorem isMaking_of_isConstruction (e : Event) (h : e.isConstruction = true) :
    e.isMaking = true := by
  cases e <;> simp_all [Event.isConstruction, Event.isMaking]

theorem countP_of_no_making {counted : Event → Bool}
    (hc : ∀ e, counted e = true → e.isMaking = true) (h : ∀ e ∈ es, e.isMaking = false) :
    es.countP counted = 0 := by
  rw [List.countP_eq_zero]
  intro e he hcounted
  have hmaking := hc e hcounted
  rw [h e he] at hmaking
  cases hmaking

/-- A factory is called at most once, and at most one instance is constructed. -/
theorem Completes.counts {misfit : Misfit → Failure} {wrap : Failure → Failure} {f : Factory}
    {arguments : List Value}
    (h : Completes w (w.makeChecked misfit wrap f arguments) node excluded? s r es t) :
    es.countP Event.isCall ≤ 1 ∧ es.countP Event.isConstruction ≤ 1 := by
  obtain ⟨q, ms, u, others, hm, rfl, ho⟩ := h.making_first
  obtain ⟨cs, q', ms', u', hc, hr, hk⟩ := makeChecked_makes w misfit wrap f arguments s
  obtain ⟨rfl, rfl, rfl⟩ := hm.unique hr
  obtain ⟨hcall, hcons⟩ := makes_counts hc hk
  have hoc := countP_of_no_making isMaking_of_isCall ho
  have hos := countP_of_no_making isMaking_of_isConstruction ho
  rw [List.countP_append, List.countP_append]
  omega

/-- A composite component is built in stages, each only after the one before. Unless the document
describes one of a class that meets the requirement, nothing is done. Otherwise the children are
built in document order, each from the state that the one before left; the first failure among them
is the outcome, and nothing was done after it. If there is none, the component is made around the
children, set and activated, with at most one call of its factory. -/
theorem assembleComposite_staged (a : Assembler) (childTag tag : String)
    (childRequired required : Capability) {source : ConfigurationSource} {d : Configuration}
    (hd : Configuration.load source = .ok d) (s : State) :
    ((¬ ∃ node identifier e, a.Describes d tag required node identifier e) →
      ∃ f, (a.assembleComposite childTag childRequired tag required source).Runs s
        (.error f) [] s) ∧
    ∀ node identifier e, a.Describes d tag required node identifier e →
      (∃ pre child post vs es t f fs u, node.childrenNamed childTag = pre ++ child :: post ∧
        a.AssemblesEach childRequired pre s vs es t ∧
        (a.assemble child childRequired).Runs t (.error f) fs u ∧
        (a.assembleComposite childTag childRequired tag required source).Runs s
          (.error f) (es ++ fs) u) ∨
      ∃ vs es t r fs u, a.AssemblesEach childRequired (node.childrenNamed childTag) s vs es t ∧
        Completes a.world (a.world.makeChecked (.takesNoChildren identifier)
          (.compositionFailed identifier) e.factory [.list vs]) node (some childTag) t r fs u ∧
        fs.countP Event.isCall ≤ 1 ∧ fs.countP Event.isConstruction ≤ 1 ∧
        (a.assembleComposite childTag childRequired tag required source).Runs s
          r (es ++ fs) u := by
  constructor
  · intro hn
    cases he : a.compositeEntry tag required source with
    | error f => exact ⟨f, (runs_ofExcept he s).bind_error⟩
    | ok found =>
      obtain ⟨node, identifier, e⟩ := found
      exact absurd ⟨node, identifier, e, (compositeEntry_ok_iff hd).1 he⟩ hn
  · intro node identifier e h
    have he := (compositeEntry_ok_iff hd).2 h
    obtain hc | ⟨vs, es, t, r, fs, u, hk, hr, hrun⟩ :=
      assembleComposite_cases he childTag childRequired s
    · exact .inl hc
    · obtain ⟨q, gs, x, hq, hc⟩ := compose_completes a childTag node identifier e.factory vs t
      obtain ⟨rfl, rfl, rfl⟩ := hr.unique hq
      obtain ⟨hcall, hcons⟩ := hc.counts
      exact .inr ⟨vs, es, t, r, fs, u, hk, hc, hcall, hcons, hrun⟩

/-- The entry of a class under its own name. -/
def plainEntry (name : String) : Entry :=
  ⟨name, .cls (.own ⟨"shop", name⟩), [], .cls (.own ⟨"shop", name⟩)⟩

/-- A class whose instances have a size: they are prepared, and then checked to have one. -/
def itemClass : ClassDecl :=
  { plainClass "Item" with
    bases := [.predefined .initializable]
    setters := [⟨"set_size", .method, [⟨"value", .positional, none, none⟩], none, none⟩]
    preparation? := some (.body none)
    check? := some (.body ⟨none, ["size"], none, none⟩) }

/-- Two classes: one has to be constructed around a value, the other one without any. -/
def shop : Assembler where
  world := ⟨[itemClass,
    { plainClass "Cart" with constructor? := some ⟨[⟨"items", .positional, none, none⟩], none⟩ }],
    [], [], []⟩
  catalog := [plainEntry "Item", plainEntry "Cart"]
  profiles? := none

def itemSection : Element :=
  .mk ⟨none, "item"⟩ [(⟨none, "class"⟩, "Item")]
    [.element (.mk ⟨none, "params"⟩ [] [.element (.mk ⟨none, "size"⟩ [] [.text "1"])])]

/-- What is seen of an item that is built from such a section. -/
def itemEvents (number : Nat) : List Event :=
  [.constructed "Item" number .nothing, .set (some number) "set_size" (.text "1"),
    .prepared number (.map []), .checked number .strict]

def cartSection : Element :=
  .mk ⟨none, "cart"⟩ [(⟨none, "class"⟩, "Cart")] [.element itemSection, .element itemSection]

def cartDocument : Configuration where
  root := .mk ⟨none, "properties"⟩ [] [.element cartSection]
  root_named := rfl

theorem assembleComposite_staged_cart :
    Configuration.load (.tree cartDocument.root) = .ok cartDocument ∧
    shop.Describes cartDocument "cart" (.cls (.predefined .root)) cartSection "Cart"
      (plainEntry "Cart") ∧
    ∃ vs es t r fs u, shop.AssemblesEach (.cls (.predefined .root)) [itemSection, itemSection]
        .empty vs es t ∧
      Completes shop.world (shop.world.makeChecked (.takesNoChildren "Cart")
        (.compositionFailed "Cart") (plainEntry "Cart").factory [.list vs]) cartSection
        (some "item") t r fs u ∧
      (shop.assembleComposite "item" (.cls (.predefined .root)) "cart"
        (.cls (.predefined .root)) (.tree cartDocument.root)).Runs .empty r (es ++ fs) u ∧
      r = .ok (.object 2) ∧ es ++ fs = itemEvents 0 ++ itemEvents 1 ++
        [.constructed "Cart" 2 (.list [.object 0, .object 1])] := by
  have hd : Configuration.load (.tree cartDocument.root) = .ok cartDocument := rfl
  have hc : shop.Describes cartDocument "cart" (.cls (.predefined .root)) cartSection "Cart"
      (plainEntry "Cart") := ⟨rfl, rfl, rfl, rfl⟩
  have hr : (shop.assembleComposite "item" (.cls (.predefined .root)) "cart"
      (.cls (.predefined .root)) (.tree cartDocument.root)).Runs .empty (.ok (.object 2))
      (itemEvents 0 ++ itemEvents 1 ++ [.constructed "Cart" 2 (.list [.object 0, .object 1])])
      _ := ⟨rfl, rfl⟩
  refine ⟨hd, hc, ?_⟩
  obtain ⟨pre, child, post, vs, es, t, f, fs, u, -, -, -, he⟩ |
      ⟨vs, es, t, r, fs, u, hk, hcs, -, -, he⟩ :=
    (assembleComposite_staged shop "item" "cart" (.cls (.predefined .root))
      (.cls (.predefined .root)) hd .empty).2 cartSection "Cart" (plainEntry "Cart") hc
  · cases (he.unique hr).1
  · obtain ⟨hok, hes, -⟩ := he.unique hr
    exact ⟨vs, es, t, r, fs, u, hk, hcs, he, hok, hes⟩

end ComponentAssembly
