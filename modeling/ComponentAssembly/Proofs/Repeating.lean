import ComponentAssembly.Proofs.Admitting
import ComponentAssembly.Proofs.Inhabiting
import ComponentAssembly.Proofs.MakingAbove

/-! Building above older instances: components are set, activated and built there as they are without
these, whatever else was taken over that makes no difference to their classes. -/

namespace ComponentAssembly

open Build Markup

variable {a : Assembler} {w : World} {f : FunctionDecl} {old : List Instance} {target v : Value}
  {m : Setter} {p : Param} {parameter : String} {value : ShapedText} {s : State}
  {alike : Adoptions → Adoptions → Prop}

/-- What was taken over makes no difference to the component that a section describes. -/
def Assembler.AssemblesAlike (a : Assembler) (alike : Adoptions → Adoptions → Prop)
    (required : Capability) (node : Element) : Prop :=
  ∀ identifier e, statedClass node = .ok identifier →
    a.world.Admits a.catalog a.profiles? identifier required e → a.world.MakesAlike alike e.factory 0

/-- What was taken over makes no difference to a composite component that is described in so many
sections, and to its children. -/
structure Assembler.ComposesAlike (a : Assembler) (alike : Adoptions → Adoptions → Prop)
    (childTag : String) (childRequired : Capability) (node : Element) (e : Entry) : Prop where
  children : ∀ child ∈ node.childrenNamed childTag, a.AssemblesAlike alike childRequired child
  composite : a.world.MakesAlike alike e.factory 1

theorem composesAlike_of_eq {childTag : String} {childRequired : Capability} {node : Element}
    {e : Entry} : a.ComposesAlike Eq childTag childRequired node e where
  children _ _ _ e _ _ := a.world.makesAlike_of_eq e.factory 0
  composite := a.world.makesAlike_of_eq e.factory 1

/-! ### Setting parameters -/

@[simp] theorem setter?_above (w : World) (s : State) (old : List Instance) (adopted : Adoptions)
    (target : Value) (name : String) :
    w.setter? (s.above old adopted) (target.shift old.length) name = w.setter? s target name := by
  simp only [World.setter?, classOf?_above]

theorem findSetter_above (w : World) (s : State) (old : List Instance) (adopted : Adoptions)
    (target : Value) (parameter : String) :
    w.findSetter (s.above old adopted) (target.shift old.length) parameter =
      w.findSetter s target parameter := by
  simp only [World.findSetter, setter?_above, quotedType_above]

theorem argument_above (s : State) (old : List Instance) (adopted : Adoptions) (target : Value)
    (parameter : String) (m : Setter) (p : Param) (value : ShapedText) :
    argument (s.above old adopted) (target.shift old.length) parameter m p value =
      argument s target parameter m p value := by
  simp only [argument, quotedType_above]

/-- What is read from text is no instance. -/
theorem parse_isData {type : ScalarType} {text : String} (h : type.parse text = .ok v) :
    v.IsData := by
  cases parse_inhabits false h with
  | list items named | map entries named => exact named.elim
  | _ => rfl

theorem listValue_isData (items : List String) : (listValue items).IsData := by
  show numbersOfItems (items.map Value.text) = []
  induction items with
  | nil => rfl
  | cons item items ih => simpa [numbersOfItems, Value.numbers] using ih

theorem mapValue_isData (entries : List (String × String)) : (mapValue entries).IsData := by
  show numbersOfEntries (entries.map fun e => (e.1, Value.text e.2)) = []
  induction entries with
  | nil => rfl
  | cons e entries ih => simpa [numbersOfEntries, Value.numbers] using ih

/-- A setter gets no instance from a document. -/
theorem argument_isData (h : argument s target parameter m p value = .ok v) : v.IsData := by
  unfold argument at h
  cases ha : argument? (m.acceptance p) parameter value with
  | none => simp [ha] at h
  | some r =>
    simp only [ha, Option.getD_some] at h
    subst h
    cases value with
    | scalar text =>
      obtain ⟨type, -, ht⟩ := Option.map_eq_some_iff.1 ha
      exact parse_isData (parseFor_ok ht)
    | list items =>
      simp only [argument?, Option.ite_none_right_eq_some, Option.some.injEq, Except.ok.injEq] at ha
      exact ha.2 ▸ listValue_isData items
    | map entries =>
      simp only [argument?, Option.ite_none_right_eq_some, Option.some.injEq, Except.ok.injEq] at ha
      exact ha.2 ▸ mapValue_isData entries

theorem instance?_shift (m : Setter) (k : Nat) (target : Value) :
    m.instance? (target.shift k) = (m.instance? target).map (· + k) := by
  unfold Setter.instance?
  cases target <;> cases m.attachment <;> rfl

theorem callSetter_follows (hv : v.IsData) (target : Value) (m : Setter) :
    Follows alike old id (callSetter target m v) (callSetter (target.shift old.length) m v) := by
  have hs := shift_of_isData old.length v hv
  have he : Follows alike old id (emit (.set (m.instance? target) m.name v)) _ := emit_follows _
  have hr : Follows alike old id (raise m.raises? v) _ := raise_follows (.inr hv)
  rw [Event.shift, hs, ← instance?_shift] at he
  rw [hs] at hr
  unfold callSetter
  refine he.bind fun _ => hr.bind fun _ => ?_
  rw [instance?_shift]
  cases m.instance? target with
  | none => exact follows_pure ()
  | some number => exact remember_follows number m.name v

theorem assign_follows (w : World) (target : Value) (parameter : String) (value : ShapedText) :
    Follows alike old id (w.assign target parameter value)
      (w.assign (target.shift old.length) parameter value) := by
  unfold World.assign
  refine Follows.get_bind fun s adopted _ => ?_
  rw [findSetter_above]
  refine Follows.ofExcept_bind fun found _ => ?_
  obtain ⟨m, p⟩ := found
  simp only [argument_above]
  refine Follows.ofExcept_bind fun v hv => ?_
  exact (callSetter_follows (argument_isData hv) target m).wrapping

theorem assignAll_follows (w : World) (target : Value) (params : List Parameter)
    (record : Settings) :
    Follows alike old id (w.assignAll target params record)
      (w.assignAll (target.shift old.length) params record) := by
  induction params generalizing record with
  | nil => exact follows_pure _
  | cons p params ih =>
    refine (assign_follows w target p.name p.value).outcome.bind fun r => ?_
    cases r with
    | error f => exact follows_pure _
    | ok => exact ih _

theorem assignOrFail_follows (w : World) (target : Value) (node : Element)
    (excluded? : Option String) (record : Settings) :
    Follows alike old id (w.assignOrFail target node excluded? record)
      (w.assignOrFail (target.shift old.length) node excluded? record) := by
  have hs : Follows alike old id (w.assignSection target node excluded? record)
      (w.assignSection (target.shift old.length) node excluded? record) := by
    unfold World.assignSection
    split
    · exact follows_pure _
    · exact assignAll_follows w target _ record
  refine hs.bind fun pass => ?_
  obtain ⟨after, failure?⟩ := pass
  cases failure? with
  | none => exact follows_pure _
  | some f => exact follows_throw f

/-! ### Preparing and checking -/

theorem callSlot_follows {β : Type} {body body' : β → Build Unit} {slot : Slot β} (s : State)
    (adopted : Adoptions)
    (hb : ∀ b, Follows alike old id (body b) (body' b)) (hv : ∀ v, slot = .constant v → v.IsData) :
    Follows alike old id (callSlot s body slot) (callSlot (s.above old adopted) body' slot) := by
  have typeName_eq (v : Value) (h : v.IsData) : (s.above old adopted).typeName v = s.typeName v := by
    have ht := typeName_above s old adopted v
    rwa [shift_of_isData old.length v h] at ht
  cases slot with
  | hidden =>
    simp only [callSlot, typeName_eq .nothing rfl]
    exact follows_throw _
  | constant v =>
    simp only [callSlot, typeName_eq v (hv v rfl)]
    exact follows_throw _
  | body b => exact hb b

theorem prepareBody_follows (number : Nat) (raises? : Option Raise) :
    Follows alike old id (prepareBody number (.map []) raises?)
      (prepareBody (number + old.length) (.map []) raises?) :=
  (emit_follows (.prepared number (.map []))).bind fun _ =>
    raise_follows (v := .map []) (.inr rfl)

theorem report_follows (policy : Policy) (className problem : String) :
    Follows alike old id (policy.report className problem) (policy.report className problem) := by
  cases policy with
  | ignore => exact follows_pure ()
  | info | warn => exact emit_follows (.logged _ _)
  | strict => exact follows_throw _

theorem checkBody_follows (className : String) (number : Nat) (policy : Policy) (k : Check) :
    Follows alike old id (checkBody className number policy k)
      (checkBody className (number + old.length) policy k) := by
  have hm (s : State) (adopted : Adoptions) (name : String) :
      (s.above old adopted).remembered (.object (number + old.length)) name =
        s.remembered (.object number) name := remembered_above s old adopted (.object number) name
  refine (emit_follows (.checked number policy)).bind fun _ => ?_
  refine (raise_follows (v := .nothing) (.inr rfl)).bind fun _ => ?_
  refine Follows.get_bind fun s adopted _ => ?_
  simp only [hm]
  refine Follows.ofExcept_bind fun _ _ => ?_
  cases k.problem? with
  | none => exact follows_pure ()
  | some problem => exact report_follows _ className problem

theorem prepare_follows (hn : a.NamesNoInstance) (c : ClassRef) (number : Nat) :
    Follows alike old id (a.world.prepare c number (.map []))
      (a.world.prepare c (number + old.length) (.map [])) := by
  refine Follows.get_bind fun s adopted _ => ?_
  cases hm : a.world.member? c initializeName with
  | none => exact follows_throw _
  | some member =>
    cases member with
    | preparation slot =>
      refine callSlot_follows s adopted (prepareBody_follows number) ?_
      rintro v rfl
      obtain hd | ⟨d, hd, hm⟩ := member?_declared hm
      · cases hd
      · exact hn.preparations d hd v (member?_preparation hm)
    | _ => exact follows_pure ()

theorem check_follows (hn : a.NamesNoInstance) (c : ClassRef) (number : Nat) (policy : Policy) :
    Follows alike old id (a.world.check c number policy)
      (a.world.check c (number + old.length) policy) := by
  refine Follows.get_bind fun s adopted _ => ?_
  cases hm : a.world.member? c checkName with
  | none => exact follows_throw _
  | some member =>
    cases member with
    | check slot =>
      refine callSlot_follows s adopted (checkBody_follows c.name number policy) ?_
      rintro v rfl
      obtain hd | ⟨d, hd, hm⟩ := member?_declared hm
      · cases hd
      · exact hn.checks d hd v (member?_check hm)
    | _ => exact follows_pure ()

theorem activate_follows (hn : a.NamesNoInstance) (target : Value) :
    Follows alike old id (a.world.activate target) (a.world.activate (target.shift old.length)) := by
  refine Follows.get_bind fun s adopted _ => ?_
  rw [classOf?_above]
  cases s.classOf? target with
  | none => exact follows_pure ()
  | some c =>
    cases target with
    | object number =>
      simp only [Value.shift]
      split
      · exact ((prepare_follows hn c number).bind fun _ =>
          check_follows hn c number .strict).wrapping
      · exact follows_pure ()
    | _ => exact follows_pure ()

/-! ### Building -/

theorem target?_function {n : DottedName} (h : w.target? n = some (.function f)) :
    f ∈ w.functions := by
  unfold World.target? at h
  cases hv : w.value? n with
  | some v => simp [hv] at h
  | none =>
    cases hf : w.functionDecl? n with
    | some g =>
      obtain rfl : g = f := by simpa [hv, hf] using h
      exact List.mem_reverse.1 (List.mem_of_find?_eq_some hf)
    | none => simp [hv, hf] at h

/-- Identifiers stand for no functions but the known ones. -/
theorem World.Admits.knows {identifier : String} {required : Capability} {e : Entry}
    (h : a.world.Admits a.catalog a.profiles? identifier required e) :
    ∀ f, e.factory = .function f → a.Knows f := by
  intro f hf
  rcases entryFor_ok h.resolved with hc | hi
  · exact .inr ⟨e, hc, hf⟩
  · obtain ⟨t, ht, hte⟩ := importEntry_ok hi
    cases t with
    | cls c =>
      obtain rfl := Except.ok.inj hte
      cases hf
    | value v => cases hte
    | function g =>
      obtain ⟨type, -, rfl⟩ := map_ok_iff.1 hte
      obtain rfl := Factory.function.inj hf
      exact .inl (target?_function ht)

theorem completing_follows (hn : a.NamesNoInstance) {making making' : Build Value}
    (hm : Follows alike old (Value.shift old.length) making making') (node : Element)
    (excluded? : Option String) :
    Follows alike old (Value.shift old.length) (a.world.completing making node excluded?)
      (a.world.completing making' node excluded?) := by
  refine hm.bind fun v => ?_
  refine (assignOrFail_follows a.world v node excluded? .empty).bind fun _ => ?_
  exact (activate_follows hn v).bind fun _ => follows_pure v

theorem assemble_follows (hn : a.NamesNoInstance) {node : Element} {required : Capability}
    (hw : a.AssemblesAlike alike required node) :
    Follows alike old (Value.shift old.length) (a.assemble node required)
      (a.assemble node required) := by
  rw [assemble_eq]
  refine Follows.ofExcept_bind fun identifier hi => ?_
  refine Follows.ofExcept_bind fun e he => ?_
  have hadmits := suitableEntry_ok_iff_admits.1 he
  exact completing_follows hn (makeChecked_follows hn (.inr itemsAreData_nil) hadmits.knows
    (hw identifier e hi hadmits) _ _) node none

theorem assembleEach_follows (hn : a.NamesNoInstance) {required : Capability}
    {nodes : List Element} (hw : ∀ node ∈ nodes, a.AssemblesAlike alike required node) :
    Follows alike old (shiftItems old.length) (a.assembleEach required nodes)
      (a.assembleEach required nodes) := by
  induction nodes with
  | nil => exact follows_pure []
  | cons node nodes ih =>
    rw [List.forall_mem_cons] at hw
    exact (assemble_follows hn hw.1).bind fun v => (ih hw.2).bind fun vs => follows_pure (v :: vs)

theorem assembleOnly_follows (hn : a.NamesNoInstance) {tag : String} {required : Capability}
    {source : ConfigurationSource}
    (hw : ∀ d node, Configuration.load source = .ok d → d.sectionsNamed tag = [node] →
      a.AssemblesAlike alike required node) :
    Follows alike old (Value.shift old.length) (a.assembleOnly tag required source)
      (a.assembleOnly tag required source) :=
  Follows.ofExcept_bind fun d hd => Follows.ofExcept_bind fun node hnode =>
    assemble_follows hn (hw d node hd (onlySection_ok_iff.1 hnode))

/-- Around children that come after older instances a component is composed as without these. -/
theorem compose_follows (hn : a.NamesNoInstance) (hc : a.ComparesNoInstance) {factory : Factory}
    (hf : ∀ f, factory = .function f → a.Knows f) (hw : a.world.MakesAlike alike factory 1)
    (childTag : String) (node : Element) (identifier : String) (children : List Value) :
    Follows alike old (Value.shift old.length)
      (a.compose childTag node identifier factory children)
      (a.compose childTag node identifier factory (shiftItems old.length children)) := by
  rw [compose_eq, compose_eq]
  have hm : Follows alike old (Value.shift old.length)
      (a.world.makeChecked _ _ factory [.list children]) _ :=
    makeChecked_follows hn (.inl hc) hf hw (.takesNoChildren identifier)
      (.compositionFailed identifier)
  exact completing_follows hn hm node (some childTag)

theorem assembleComposite_follows (hn : a.NamesNoInstance) (hc : a.ComparesNoInstance)
    {childTag tag : String} {childRequired required : Capability} {source : ConfigurationSource}
    (hw : ∀ node identifier e, a.compositeEntry tag required source = .ok (node, identifier, e) →
      a.ComposesAlike alike childTag childRequired node e) :
    Follows alike old (Value.shift old.length)
      (a.assembleComposite childTag childRequired tag required source)
      (a.assembleComposite childTag childRequired tag required source) := by
  refine Follows.ofExcept_bind fun found he => ?_
  obtain ⟨node, identifier, e⟩ := found
  have hw := hw node identifier e he
  obtain ⟨d, hd, hdesc⟩ := compositeEntry_describes he
  have hadmits : a.world.Admits a.catalog a.profiles? identifier required e :=
    ⟨hdesc.resolved, hdesc.suitable⟩
  exact (assembleEach_follows hn hw.children).bind fun children =>
    compose_follows hn hc hadmits.knows hw.composite childTag node identifier children

end ComponentAssembly
