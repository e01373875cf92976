import ComponentAssembly.Proofs.Resolving
import ComponentAssembly.Proofs.Staging

/-! A constructor or a function begins only for an identifier whose entry meets what is required at
that place. -/

namespace ComponentAssembly

open Build Markup

variable {a : Assembler} {w : World} {catalog : Catalog} {profiles? : Option (List String)}
  {identifier name : String} {required : Capability} {e : Entry} {c : ClassRef}
  {factory : Factory} {target : Target} {profiles : List String} {arguments : List Value}
  {misfit : Misfit → Failure} {wrap : Failure → Failure} {node : Element}
  {excluded? : Option String} {nodes : List Element} {vs : List Value} {v : Value}
  {s t : State} {r : Except Failure Value} {es : List Event} {f : Failure}

/-- The entry that an identifier stands for meets a requirement. -/
structure World.Admits (w : World) (catalog : Catalog) (profiles? : Option (List String))
    (identifier : String) (required : Capability) (e : Entry) : Prop where
  resolved : w.entryFor catalog identifier profiles? = .ok e
  suitable : w.meets? e.provided required = some true

/-- The bodies of a factory: the constructor of a class, or a function and the constructor of the
class that it creates an instance of. -/
inductive Factory.Begins : Factory → Event → Prop
  | constructor (c : ClassRef) (number : Nat) (first : Value) :
      Begins (.cls c) (.constructed c.name number first)
  | function (f : FunctionDecl) (first : Value) :
      Begins (.function f) (.called f.name.name first)
  | creation {f : FunctionDecl} {c : ClassRef} {passing : Bool}
      (creates : f.outcome = .creates c passing) (number : Nat) (first : Value) :
      Begins (.function f) (.constructed c.name number first)

/-- For a section nothing is made unless the entry for its class meets the requirement, and then
nothing but the bodies of that entry's factory begins. -/
def Assembler.OnlyAdmitted (a : Assembler) (node : Element) (required : Capability)
    (es : List Event) : Prop :=
  (∃ ev ∈ es, ev.isMaking = true) → ∃ identifier e, statedClass node = .ok identifier ∧
    a.world.Admits a.catalog a.profiles? identifier required e ∧
    ∀ ev ∈ es, ev.isMaking = true → e.factory.Begins ev

/-- These events were written while a section was built. -/
def Assembler.WrittenFor (a : Assembler) (required : Capability) (node : Element)
    (es : List Event) : Prop :=
  ∃ s r t, (a.assemble node required).Runs s r es t

/-- An entry whose factory is a class provides that class. -/
def Entry.ProvidesItself (e : Entry) : Prop := ∀ c, e.factory = .cls c → e.provided = .cls c

/-- An entry that was put into a catalog as it is: no target would be entered like that. -/
def Entry.IsExplicit (e : Entry) (catalog : Catalog) : Prop :=
  e ∈ catalog ∧ ∀ (target : Target) (name : String) (profiles : List String),
    target.entry name profiles ≠ .ok e

/-- What an identifier gives is a new instance, of that very class if the factory is a class. It is
the class that was checked unless the entry is an explicit one. -/
def Entry.Gives (e : Entry) (catalog : Catalog) (s : State) (v : Value) (t : State) : Prop :=
  ∀ c, e.factory = .cls c → t.classOf? v = some c ∧
    (v = .object s.instances.length ∨ ∃ p, v = .plain p) ∧
    (e.provided = .cls c ∨ e.IsExplicit catalog)

theorem suitableEntry_ok_iff_admits :
    w.suitableEntry catalog identifier required profiles? = .ok e ↔
      w.Admits catalog profiles? identifier required e := by
  rw [suitableEntry_ok_iff]
  exact ⟨fun ⟨hr, hs⟩ => ⟨hr, hs⟩, fun h => ⟨h.resolved, h.suitable⟩⟩

theorem construct_begins (h : (w.construct c arguments).Runs s r es t) :
    ∀ ev ∈ es, (Factory.cls c).Begins ev := by
  obtain ⟨q, adopted, hr, -⟩ | ⟨q, first, adopted, hr, -⟩ := construct_cases w c arguments s
  · obtain ⟨-, rfl, -⟩ := h.unique hr
    simp
  · obtain ⟨-, rfl, -⟩ := h.unique hr
    intro ev hev
    obtain rfl := List.mem_singleton.1 hev
    exact .constructor c _ first

theorem callFunction_begins {f : FunctionDecl} (h : (w.callFunction f arguments).Runs s r es t) :
    ∀ ev ∈ es, (Factory.function f).Begins ev := by
  obtain ⟨g, hr⟩ | ⟨q, first, hr, -⟩ | ⟨c, passing, first, passed, q, fs, u, ho, hk, hr⟩ :=
    callFunction_cases w f arguments s
  · obtain ⟨-, rfl, -⟩ := h.unique hr
    simp
  · obtain ⟨-, rfl, -⟩ := h.unique hr
    intro ev hev
    obtain rfl := List.mem_singleton.1 hev
    exact .function f first
  · obtain ⟨-, rfl, -⟩ := h.unique hr
    intro ev hev
    rcases List.mem_append.1 hev with hev | hev
    · obtain rfl := List.mem_singleton.1 hev
      exact .function f first
    · cases construct_begins hk ev hev with
      | constructor c number first => exact .creation ho number first

theorem make_begins (h : (w.make factory arguments).Runs s r es t) :
    ∀ ev ∈ es, factory.Begins ev := by
  cases factory with
  | cls c => exact construct_begins h
  | function f => exact callFunction_begins h

theorem makeChecked_begins (h : (w.makeChecked misfit wrap factory arguments).Runs s r es t) :
    ∀ ev ∈ es, factory.Begins ev := by
  simp only [World.makeChecked, runs_get_bind] at h
  split at h
  · obtain ⟨-, rfl, -⟩ := h.unique (runs_throw _ s)
    simp
  · obtain ⟨cs, q, fs, u, -, hr, -⟩ := make_makes w factory arguments s
    obtain ⟨-, rfl, -⟩ := h.unique (hr.wrapping wrap)
    exact make_begins hr

/-- Setting and activating a component makes nothing more. -/
theorem Completes.begins
    (h : Completes w (w.makeChecked misfit wrap factory arguments) node excluded? s r es t) :
    ∀ ev ∈ es, ev.isMaking = true → factory.Begins ev := by
  obtain ⟨q, ms, u, others, hm, rfl, ho⟩ := h.making_first
  intro ev hev hmaking
  rcases List.mem_append.1 hev with hev | hev
  · exact makeChecked_begins hm ev hev
  · rw [ho ev hev] at hmaking
    cases hmaking

theorem assemble_onlyAdmitted (h : (a.assemble node required).Runs s r es t) :
    a.OnlyAdmitted node required es := by
  rw [assemble_eq] at h
  cases hi : statedClass node with
  | error f =>
    obtain ⟨-, rfl, -⟩ := h.unique (runs_ofExcept hi s).bind_error
    rintro ⟨ev, hev, -⟩
    simp at hev
  | ok identifier =>
    cases he : a.world.suitableEntry a.catalog identifier required a.profiles? with
    | error f =>
      obtain ⟨-, rfl, -⟩ := h.unique
        ((runs_ofExcept hi s).bind_silent (runs_ofExcept he s).bind_error)
      rintro ⟨ev, hev, -⟩
      simp at hev
    | ok e =>
      obtain ⟨q, fs, u, hr, hc⟩ := completing_completes (makeChecked_writes a.world
        (.needsArguments identifier) (.constructionFailed identifier) e.factory []) a.world node
        none s
      obtain ⟨-, rfl, -⟩ := h.unique
        ((runs_ofExcept hi s).bind_silent ((runs_ofExcept he s).bind_silent hr))
      exact fun _ => ⟨identifier, e, hi, suitableEntry_ok_iff_admits.1 he, hc.begins⟩

theorem assemble_writtenFor (h : (a.assemble node required).Runs s r es t) :
    a.WrittenFor required node es ∧ a.OnlyAdmitted node required es :=
  ⟨⟨s, r, t, h⟩, assemble_onlyAdmitted h⟩

/-- The events of sections that are built in order are those of the single sections in a row. -/
theorem assemblesEach_pieces (h : a.AssemblesEach required nodes s vs es t) :
    ∃ pieces, es = pieces.flatten ∧ List.Forall₂ (fun node piece =>
      a.WrittenFor required node piece ∧ a.OnlyAdmitted node required piece) nodes pieces := by
  induction h with
  | nil s => exact ⟨[], rfl, .nil⟩
  | cons first _ ih =>
    obtain ⟨pieces, rfl, hp⟩ := ih
    exact ⟨_ :: pieces, rfl, .cons (assemble_writtenFor first) hp⟩

/-- What is entered as a class provides that class. -/
theorem entry_providesItself (h : target.entry name profiles = .ok e) : e.ProvidesItself := by
  intro c hc
  cases target with
  | cls d =>
    obtain rfl := Except.ok.inj h
    cases hc
    rfl
  | function g =>
    obtain ⟨type, -, rfl⟩ := map_ok_iff.1 h
    cases hc
  | value v => cases h

/-- Only an explicit entry can provide another class than its own. -/
theorem entryFor_class (h : w.entryFor catalog identifier profiles? = .ok e)
    (hc : e.factory = .cls c) : e.provided = .cls c ∨ e.IsExplicit catalog := by
  rcases entryFor_ok h with he | hi
  · by_cases hp : e.provided = .cls c
    · exact .inl hp
    · exact .inr ⟨he, fun target name profiles ht => hp (entry_providesItself ht c hc)⟩
  · obtain ⟨t, -, ht⟩ := importEntry_ok hi
    exact .inl (entry_providesItself ht c hc)

/-- The instance that a class gives is a new one of that very class. -/
theorem makeChecked_class (h : (w.makeChecked misfit wrap (.cls c) arguments).Runs s (.ok v) es t) :
    t.classOf? v = some c ∧ (v = .object s.instances.length ∨ ∃ p, v = .plain p) := by
  simp only [World.makeChecked, runs_get_bind] at h
  split at h
  · cases (h.unique (runs_throw _ s)).1
  · obtain ⟨q, adopted, hr, hp⟩ | ⟨q, first, adopted, hr, hg⟩ := construct_cases w c arguments s
    · obtain ⟨hq, -, rfl⟩ := h.unique (hr.wrapping wrap)
      cases q with
      | error f => cases hq
      | ok u =>
        obtain rfl := Except.ok.inj hq
        obtain ⟨p, rfl, rfl⟩ := hp v rfl
        exact ⟨rfl, .inr ⟨p, rfl⟩⟩
    · obtain ⟨hq, -, rfl⟩ := h.unique (hr.wrapping wrap)
      cases q with
      | error f => cases hq
      | ok u =>
        obtain rfl := Except.ok.inj hq
        obtain rfl := hg v rfl
        exact ⟨by simp [State.classOf?, State.adding, State.adopting], .inl rfl⟩

/-- A component that is built by itself is held to what is required of it. -/
theorem assembleOnly_onlyAdmitted (a : Assembler) (tag : String) (required : Capability)
    (source : ConfigurationSource) (s : State) :
    ∃ r es t, (a.assembleOnly tag required source).Runs s r es t ∧
      (es ≠ [] → ∃ d node, Configuration.load source = .ok d ∧ d.sectionsNamed tag = [node] ∧
        a.WrittenFor required node es ∧ a.OnlyAdmitted node required es) := by
  cases hd : Configuration.load source with
  | error f => exact ⟨.error f, [], s, (runs_ofExcept hd s).bind_error, by simp⟩
  | ok d =>
    cases hn : d.onlySection tag with
    | error f =>
      exact ⟨.error f, [], s,
        (runs_ofExcept hd s).bind_silent (runs_ofExcept hn s).bind_error, by simp⟩
    | ok node =>
      obtain ⟨r, es, t, hr⟩ := assemble_writes a node required s
      exact ⟨r, es, t, (runs_ofExcept hd s).bind_silent ((runs_ofExcept hn s).bind_silent hr),
        fun _ => ⟨d, node, rfl, onlySection_ok_iff.1 hn, assemble_writtenFor hr⟩⟩

/-- An identifier is resolved before anything is made, and an instance is made as its entry says. -/
theorem instanceFor_onlyAdmitted (w : World) (catalog : Catalog) (identifier : String)
    (required : Capability) (profiles? : Option (List String)) (s : State) :
    ∃ r es t, (w.instanceFor catalog identifier required profiles?).Runs s r es t ∧
      (∀ f, r = .error f → f.kind ≠ .config .instantiation → es = [] ∧ t = s) ∧
      (es ≠ [] ∨ (∃ v, r = .ok v) → ∃ e, w.Admits catalog profiles? identifier required e ∧
        (∀ ev ∈ es, e.factory.Begins ev) ∧ ∀ v, r = .ok v → e.Gives catalog s v t) := by
  cases he : w.suitableEntry catalog identifier required profiles? with
  | error f =>
    exact ⟨.error f, [], s, (runs_ofExcept he s).bind_error, fun _ _ _ => ⟨rfl, rfl⟩, by simp⟩
  | ok e =>
    obtain ⟨r, es, t, hm⟩ := makeChecked_writes w (.needsArguments identifier)
      (.constructionFailed identifier) e.factory [] s
    have ha := suitableEntry_ok_iff_admits.1 he
    refine ⟨r, es, t, (runs_ofExcept he s).bind_silent hm, ?_, ?_⟩
    · rintro f rfl hk
      exact absurd (makeChecked_instantiation hm).1 hk
    · intro _
      refine ⟨e, ha, makeChecked_begins hm, ?_⟩
      rintro v rfl c hc
      rw [hc] at hm
      obtain ⟨hv, hn⟩ := makeChecked_class hm
      exact ⟨hv, hn, entryFor_class ha.resolved hc⟩

/-- A composite component and each of its children are held to what is required of them. -/
theorem assembleComposite_onlyAdmitted (a : Assembler) (childTag tag : String)
    (childRequired required : Capability) (source : ConfigurationSource) (s : State) :
    ∃ r es t, (a.assembleComposite childTag childRequired tag required source).Runs s r es t ∧
      (es ≠ [] → ∃ d node identifier e built pieces own, Configuration.load source = .ok d ∧
        a.Describes d tag required node identifier e ∧
        built <+: node.childrenNamed childTag ∧ es = pieces.flatten ++ own ∧
        List.Forall₂ (fun child piece => a.WrittenFor childRequired child piece ∧
          a.OnlyAdmitted child childRequired piece) built pieces ∧
        ∀ ev ∈ own, ev.isMaking = true → e.factory.Begins ev) := by
  cases he : a.compositeEntry tag required source with
  | error f => exact ⟨.error f, [], s, (runs_ofExcept he s).bind_error, by simp⟩
  | ok found =>
    obtain ⟨node, identifier, e⟩ := found
    obtain ⟨d, hd, hdesc⟩ := compositeEntry_describes he
    obtain ⟨pre, child, post, vs, es, t, f, fs, u, hsplit, hk, hf, hrun⟩ |
        ⟨vs, es, t, r, fs, u, hk, hr, hrun⟩ := assembleComposite_cases he childTag childRequired s
    · obtain ⟨pieces, rfl, hp⟩ := assemblesEach_pieces hk
      refine ⟨_, _, u, hrun, fun _ => ⟨d, node, identifier, e, pre ++ [child], pieces ++ [fs], [],
        hd, hdesc, ⟨post, by simp [hsplit]⟩, by simp, ?_, by simp⟩⟩
      exact List.rel_append hp (.cons (assemble_writtenFor hf) .nil)
    · obtain ⟨pieces, rfl, hp⟩ := assemblesEach_pieces hk
      obtain ⟨q, gs, x, hq, hc⟩ := compose_completes a childTag node identifier e.factory vs t
      obtain ⟨rfl, rfl, rfl⟩ := hr.unique hq
      exact ⟨r, _, u, hrun, fun _ => ⟨d, node, identifier, e, _, pieces, fs, hd, hdesc,
        List.prefix_refl _, rfl, hp, hc.begins⟩⟩

/-- Nothing is made that was not checked. When an identifier is resolved, when a single component is
built and when a composite one is, a constructor or a function begins only for an identifier whose
entry meets what is required at that place, and it is a body of that entry's factory; of a composite
component nothing begins, its children included, unless its own entry meets what is required of it.
So nothing is made where resolving fails otherwise than by a failed instantiation. Where the factory
is a class, an instance of this very class is given, a new one. It is the class that was checked
unless the entry was put into the catalog as it is, and not made from a class. -/
theorem bodies_begin_only_if_admitted (a : Assembler) (childTag tag identifier : String)
    (childRequired required : Capability) (source : ConfigurationSource) (s : State) :
    (∃ r es t,
      (a.world.instanceFor a.catalog identifier required a.profiles?).Runs s r es t ∧
      (∀ f, r = .error f → f.kind ≠ .config .instantiation → es = [] ∧ t = s) ∧
      (es ≠ [] ∨ (∃ v, r = .ok v) →
        ∃ e, a.world.Admits a.catalog a.profiles? identifier required e ∧
          (∀ ev ∈ es, e.factory.Begins ev) ∧ ∀ v, r = .ok v → e.Gives a.catalog s v t)) ∧
    (∃ r es t, (a.assembleOnly tag required source).Runs s r es t ∧
      (es ≠ [] → ∃ d node, Configuration.load source = .ok d ∧ d.sectionsNamed tag = [node] ∧
        a.WrittenFor required node es ∧ a.OnlyAdmitted node required es)) ∧
    ∃ r es t, (a.assembleComposite childTag childRequired tag required source).Runs s r es t ∧
      (es ≠ [] → ∃ d node identifier e built pieces own, Configuration.load source = .ok d ∧
        a.Describes d tag required node identifier e ∧
        built <+: node.childrenNamed childTag ∧ es = pieces.flatten ++ own ∧
        List.Forall₂ (fun child piece => a.WrittenFor childRequired child piece ∧
          a.OnlyAdmitted child childRequired piece) built pieces ∧
        ∀ ev ∈ own, ev.isMaking = true → e.factory.Begins ev) := by
  have resolving := instanceFor_onlyAdmitted a.world a.catalog identifier required a.profiles? s
  have single := assembleOnly_onlyAdmitted a tag required source s
  have composite := assembleComposite_onlyAdmitted a childTag tag childRequired required source s
  exact ⟨resolving, single, composite⟩

/-- An entry of one class that provides another one. -/
def otherEntry : Entry :=
  ⟨"Item", .cls (.own ⟨"shop", "Item"⟩), [], .cls (.own ⟨"shop", "Cart"⟩)⟩

/-- The class that is checked need not be the one that an instance is made of. -/
theorem instanceFor_other_class :
    ∃ t, shop.world.Admits [otherEntry] none "Item" (.cls (.own ⟨"shop", "Cart"⟩)) otherEntry ∧
      (shop.world.instanceFor [otherEntry] "Item" (.cls (.own ⟨"shop", "Cart"⟩)) none).Runs .empty
        (.ok (.object 0)) [.constructed "Item" 0 .nothing] t ∧
      (∃ c, otherEntry.factory = .cls c ∧ t.classOf? (.object 0) = some c ∧
        otherEntry.provided ≠ .cls c) :=
  ⟨_, ⟨rfl, rfl⟩, ⟨rfl, rfl⟩, .own ⟨"shop", "Item"⟩, rfl, rfl, by decide⟩

end ComponentAssembly
