import ComponentAssembly.Proofs.Adopting
import ComponentAssembly.Session

/-! Builds in a session: none touches what was there before, and taken again it comes to the same, if
what it took over the first time makes no difference to it. -/

namespace ComponentAssembly

open Build Markup

variable {α β : Type} {s : Session} {step : Step} {b making : Build Value} {a : Assembler}
  {alike : Adoptions → Adoptions → Prop} {adopted : Adoptions}

/-- An answer in which every instance comes after `k` more instances. -/
def Answer.shift (k : Nat) : Answer → Answer
  | .object v => .object (v.shift k)
  | answer => answer

/-- A step adds as many instances as constructors begin. -/
def Build.Accounts (b : Build α) : Prop :=
  ∀ s, ∃ r es t, b.Runs s r es t ∧
    t.instances.length = s.instances.length + es.countP Event.isConstruction

/-- What was there before some events is there after them: both catalogs, the instances and what they
remember; and the events carry none of these instances. -/
structure Session.Keeps (s : Session) (events : List Event) (after : Session) : Prop where
  own : after.own = s.own
  shared : after.shared = s.shared
  instances : s.state.instances <+: after.state.instances
  remembered : ∀ number < s.state.instances.length, ∀ setter,
    after.state.remembered (.object number) setter = s.state.remembered (.object number) setter
  fresh : ∀ e ∈ events, ∀ number ∈ e.numbers, s.state.instances.length ≤ number

/-- Taken in this session a step answers and writes what it did before, only that all instances come
after those that were constructed then. -/
def Session.Repeats (s : Session) (step : Step) (answer : Except Failure Answer)
    (events : List Event) : Prop :=
  ∀ name?,
    (s.takeTraced step name?).1 = answer.map (Answer.shift (events.countP Event.isConstruction)) ∧
    (s.takeTraced step name?).2.1 = events.map (Event.shift (events.countP Event.isConstruction))

/-- Whatever a step comes to, it leaves what was there before as it is. -/
def Session.Isolates (s : Session) (step : Step) : Prop :=
  ∀ name? answer events after, s.takeTraced step name? = (answer, events, after) →
    s.Keeps events after

/-- Whatever a step comes to, it comes to the same if it is taken again. -/
def Session.CanRepeat (s : Session) (step : Step) : Prop :=
  ∀ name? answer events after, s.takeTraced step name? = (answer, events, after) →
    after.Repeats step answer events

/-- A document describes a component whose class takes over a constructor that refuses a call without
values. -/
def Assembler.TakesOverMisfit (a : Assembler) (adopted : Adoptions) (tag : String)
    (required : Capability) (d : ConfigurationText) : Prop :=
  ∃ source node identifier e, d.source = .ok source ∧
    a.compositeEntry tag required source = .ok (node, identifier, e) ∧
    a.world.TakesOverMisfit adopted e.factory 0

/-- What is taken over while a composite component is built that a document describes makes no
difference to it and its children. -/
def Assembler.StaysSteady (a : Assembler) (adopted : Adoptions) (childTag : String)
    (childRequired : Capability) (tag : String) (required : Capability) (d : ConfigurationText) :
    Prop :=
  ∀ source node identifier e, d.source = .ok source →
    a.compositeEntry tag required source = .ok (node, identifier, e) →
    a.ComposesSteadily adopted childTag childRequired node e

/-- A session in another state and with other names for instances. -/
def Session.at (s : Session) (state : State) (bindings : List (String × Value)) : Session :=
  { s with state := state, bindings := bindings }

/-- A step takes a build, in whatever state and under whatever names. -/
def Session.Builds (s : Session) (step : Step) (b : Build Value) : Prop :=
  ∀ state bindings, (s.at state bindings).take step = (s.at state bindings).running b .object

namespace Build

theorem accounts_throw (f : Failure) : Accounts (throw f : Build α) :=
  fun s => ⟨_, _, _, runs_throw f s, rfl⟩

theorem accounts_pure (x : α) : Accounts (pure x : Build α) :=
  fun s => ⟨_, _, _, runs_pure x s, rfl⟩

theorem Accounts.bind {b : Build α} {g : α → Build β} (hb : b.Accounts)
    (hg : ∀ x, (g x).Accounts) : Accounts (b >>= g) := by
  intro s
  obtain ⟨r, es, t, hr, ht⟩ := hb s
  cases r with
  | error f => exact ⟨_, _, _, hr.bind_error, ht⟩
  | ok x =>
    obtain ⟨q, fs, u, hq, hu⟩ := hg x t
    refine ⟨_, _, _, hr.bind hq, ?_⟩
    rw [hu, ht, List.countP_append, Nat.add_assoc]

theorem Accounts.ofExcept_bind {γ : Type} {r : Except Failure γ} {g : γ → Build β}
    (hg : ∀ x, r = .ok x → (g x).Accounts) : Accounts (ofExcept r >>= g) := by
  cases r with
  | ok x => exact hg x rfl
  | error f => exact accounts_throw f

end Build

theorem makeChecked_accounts (w : World) (misfit : Misfit → Failure) (wrap : Failure → Failure)
    (factory : Factory) (arguments : List Value) :
    (w.makeChecked misfit wrap factory arguments).Accounts := by
  intro s
  obtain ⟨cs, r, es, t, hc, hr, hm⟩ := makeChecked_makes w misfit wrap factory arguments s
  refine ⟨r, es, t, hr, ?_⟩
  obtain rfl | ⟨name, first, rfl⟩ := hc <;> cases hm <;>
    simp [State.adding, State.constructing, Event.isConstruction, List.countP_cons]

theorem completing_accounts (hm : making.Accounts) (w : World) (node : Element)
    (excluded? : Option String) : (w.completing making node excluded?).Accounts := by
  have set (v : Value) : (w.assignOrFail v node excluded? .empty).Accounts := by
    intro s
    obtain ⟨r, es, t, hr, hs⟩ := assignOrFail_setsFirst w v node excluded? .empty s
    obtain ⟨begun, -, hb, -⟩ := hs.first
    refine ⟨r, es, t, hr, ?_⟩
    rw [countP_of_no_making isMaking_of_isConstruction (begin_no_making hb), ← State.length_classes,
      hs.classes_eq, State.length_classes, Nat.add_zero]
  have active (v : Value) : (w.activate v).Accounts := by
    intro s
    obtain ⟨r, es, hr, ha⟩ := activate_activates w v s
    refine ⟨r, es, _, hr, ?_⟩
    rw [countP_of_no_making isMaking_of_isConstruction (activates_no_making ha)]
    rfl
  exact hm.bind fun v => (set v).bind fun _ => (active v).bind fun _ => accounts_pure v

theorem assemble_accounts (a : Assembler) (node : Element) (required : Capability) :
    (a.assemble node required).Accounts := by
  rw [assemble_eq]
  refine Accounts.ofExcept_bind fun identifier _ => Accounts.ofExcept_bind fun e _ => ?_
  exact completing_accounts (makeChecked_accounts _ _ _ _ _) _ node none

theorem assembleEach_accounts (a : Assembler) (required : Capability) (nodes : List Element) :
    (a.assembleEach required nodes).Accounts := by
  induction nodes with
  | nil => exact accounts_pure []
  | cons node nodes ih =>
    exact (assemble_accounts a node required).bind fun v => ih.bind fun vs => accounts_pure (v :: vs)

theorem assembleOnly_accounts (a : Assembler) (tag : String) (required : Capability)
    (source : ConfigurationSource) : (a.assembleOnly tag required source).Accounts :=
  Accounts.ofExcept_bind fun _ _ => Accounts.ofExcept_bind fun node _ =>
    assemble_accounts a node required

theorem assembleComposite_accounts (a : Assembler) (childTag tag : String)
    (childRequired required : Capability) (source : ConfigurationSource) :
    (a.assembleComposite childTag childRequired tag required source).Accounts := by
  refine Accounts.ofExcept_bind fun found _ => ?_
  refine (assembleEach_accounts a childRequired _).bind fun children => ?_
  simp only [compose_eq]
  exact completing_accounts (makeChecked_accounts _ _ _ _ _) _ _ _

theorem isConstruction_shift (k : Nat) (e : Event) :
    (e.shift k).isConstruction = e.isConstruction := by
  cases e <;> rfl

theorem countP_shift (k : Nat) (es : List Event) :
    (es.map (Event.shift k)).countP Event.isConstruction = es.countP Event.isConstruction := by
  rw [List.countP_map]
  congr 1
  funext e
  exact isConstruction_shift k e

theorem takeTraced_of_take {answer : Except Failure Answer} {after : Session}
    (h : Session.take { s with state.trace := [] } step = (answer, after)) (name? : Option String) :
    ∃ others, s.takeTraced step name? =
      (answer, after.state.trace, { after with bindings := others }) := by
  unfold Session.takeTraced
  rw [h]
  exact ⟨_, rfl⟩

/-- What a build comes to in any state it comes to without instances, but for those before, if what was
taken over is alike. -/
theorem takeTraced_above (hs : s.Builds step b)
    (hf : ∀ old, Follows alike old (Value.shift old.length) b b) (state : State)
    (ha : alike adopted state.adopted) (bindings : List (String × Value)) (name? : Option String) :
    ∃ others later, alike (b.from ⟨[], [], adopted⟩).2.adopted later ∧
      (s.at state bindings).takeTraced step name? =
        (((b.from ⟨[], [], adopted⟩).1.map (Value.shift state.instances.length)).map .object,
          (b.from ⟨[], [], adopted⟩).2.trace.map (Event.shift state.instances.length),
          s.at ((b.from ⟨[], [], adopted⟩).2.above state.instances later) others) := by
  obtain ⟨later, hl, hb⟩ := hf state.instances ⟨[], [], adopted⟩ state.adopted ha
  rw [show (State.mk [] [] adopted).above state.instances state.adopted =
    ⟨state.instances, [], state.adopted⟩ by simp [State.above]] at hb
  have ht : (s.at ⟨state.instances, [], state.adopted⟩ bindings).take step =
      (((b.from ⟨[], [], adopted⟩).1.map (Value.shift state.instances.length)).map .object,
        s.at ((b.from ⟨[], [], adopted⟩).2.above state.instances later) bindings) := by
    rw [hs]
    simp only [Session.running, Session.at, hb]
  obtain ⟨others, h⟩ := takeTraced_of_take (s := s.at state bindings) ht name?
  exact ⟨others, later, hl, h⟩

theorem takeTraced_of_runs (hs : s.Builds step b) (state : State) {t : State}
    {r : Except Failure Value} {es : List Event}
    (h : b.Runs ⟨state.instances, [], state.adopted⟩ r es t)
    (bindings : List (String × Value)) (name? : Option String) :
    ∃ others, (s.at state bindings).takeTraced step name? = (r.map .object, es, s.at t others) := by
  have ht : (s.at ⟨state.instances, [], state.adopted⟩ bindings).take step =
      (r.map .object, s.at t bindings) := by
    rw [hs]
    simp only [Session.running, Session.at, h.from_eq]
  have htrace : t.trace = es := h.trace_eq
  obtain ⟨others, h⟩ := takeTraced_of_take (s := s.at state bindings) ht name?
  exact ⟨others, htrace ▸ h⟩

/-- A build that does above older instances what it does without them isolates. -/
theorem isolates_of_follows (hs : s.Builds step b)
    (hf : ∀ old, Follows Eq old (Value.shift old.length) b b) : s.Isolates step := by
  rintro name? answer events after h
  obtain ⟨others, later, -, hfirst⟩ := takeTraced_above hs hf s.state rfl s.bindings name?
  obtain ⟨rfl, ho⟩ := Prod.mk.inj (hfirst.symm.trans h)
  obtain ⟨rfl, rfl⟩ := Prod.mk.inj ho
  refine ⟨rfl, rfl, List.prefix_append _ _, ?_, ?_⟩
  · intro number hn setter
    exact remembered_old s.state _ later hn setter
  · intro e he number hn
    obtain ⟨d, -, rfl⟩ := List.mem_map.1 he
    rw [event_numbers_shift] at hn
    obtain ⟨n, -, rfl⟩ := List.mem_map.1 hn
    exact Nat.le_add_left _ _

/-- A build can be repeated if what it may take over is alike for it. -/
theorem canRepeat_of_follows {possible : Adoptions → Prop} (hs : s.Builds step b)
    (hf : ∀ old, Follows (AreAmong possible) old (Value.shift old.length) b b)
    (hp : possible s.state.adopted) (ha : b.Accounts) : s.CanRepeat step := by
  rintro name? answer events after h
  -- Both times are compared with this run without instances, not with each other.
  obtain ⟨r, es, t, hr, ht⟩ := ha ⟨[], [], s.state.adopted⟩
  have htrace : t.trace = es := hr.trace_eq
  have hlength : t.instances.length = es.countP Event.isConstruction := by simpa using ht
  obtain ⟨others, later, ⟨-, hl⟩, hfirst⟩ :=
    takeTraced_above hs hf s.state ⟨hp, hp⟩ s.bindings name?
  rw [hr.from_eq, htrace] at hfirst
  obtain ⟨rfl, ho⟩ := Prod.mk.inj (hfirst.symm.trans h)
  obtain ⟨rfl, rfl⟩ := Prod.mk.inj ho
  intro name?
  obtain ⟨others', later', -, hsecond⟩ := takeTraced_above hs hf
    (t.above s.state.instances later) (show AreAmong possible s.state.adopted later from ⟨hp, hl⟩)
    others name?
  have hcount : (t.above s.state.instances later).instances.length =
      s.state.instances.length + es.countP Event.isConstruction := by
    rw [State.above, List.length_append, hlength]
  rw [hr.from_eq, htrace, hcount] at hsecond
  rw [hsecond, countP_shift]
  refine ⟨?_, ?_⟩
  · cases r with
    | error f => rfl
    | ok v => exact congrArg (Except.ok ∘ Answer.object) (shift_shift _ _ v).symm
  · rw [List.map_map]
    refine List.map_congr_left fun e _ => ?_
    exact (event_shift_shift _ _ e).symm

/-! ### Components by themselves -/

/-- A document describes one component at most. -/
theorem exists_of_described (a : Assembler) (adopted : Adoptions) (tag : String)
    (required : Capability) (d : ConfigurationText)
    (fits : (Adoptions → Prop) → Element → Entry → Prop)
    (h : ∀ source node identifier e, d.source = .ok source →
      a.compositeEntry tag required source = .ok (node, identifier, e) →
      ∃ possible, possible adopted ∧ fits possible node e) :
    ∃ possible : Adoptions → Prop, possible adopted ∧
      ∀ source node identifier e, d.source = .ok source →
        a.compositeEntry tag required source = .ok (node, identifier, e) → fits possible node e := by
  cases hd : d.source with
  | error f => exact ⟨fun _ => True, trivial, by simp⟩
  | ok source =>
    cases he : a.compositeEntry tag required source with
    | error f =>
      refine ⟨fun _ => True, trivial, fun source' node identifier e hd' he' => ?_⟩
      obtain rfl := Except.ok.inj hd'
      cases he.symm.trans he'
    | ok found =>
      obtain ⟨node, identifier, e⟩ := found
      obtain ⟨possible, hp, hf⟩ := h source node identifier e hd he
      refine ⟨possible, hp, fun source' node' identifier' e' hd' he' => ?_⟩
      obtain rfl := Except.ok.inj hd'
      obtain ⟨rfl, hi⟩ := Prod.mk.inj (Except.ok.inj (he.symm.trans he'))
      obtain ⟨-, rfl⟩ := Prod.mk.inj hi
      exact hf

theorem assembleOnly_builds (s : Session) (scope : LookupScope) (tag : String)
    (required : Capability) (d : ConfigurationText) :
    s.Builds (.assembleOnly scope tag required d) (do
      (s.assembler scope).assembleOnly tag required (← ofExcept d.source)) :=
  fun _ _ => rfl

theorem assembleComposite_builds (s : Session) (scope : LookupScope) (childTag : String)
    (childRequired : Capability) (tag : String) (required : Capability) (d : ConfigurationText) :
    s.Builds (.assembleComposite scope childTag childRequired tag required d) (do
      (s.assembler scope).assembleComposite childTag childRequired tag required
        (← ofExcept d.source)) :=
  fun _ _ => rfl

theorem assembleOnly_follows_source (hn : a.NamesNoInstance) {tag : String} {required : Capability}
    {d : ConfigurationText} (hw : ∀ source node identifier e, d.source = .ok source →
      a.compositeEntry tag required source = .ok (node, identifier, e) →
      a.world.MakesAlike alike e.factory 0) (old : List Instance) :
    Follows alike old (Value.shift old.length)
      (do a.assembleOnly tag required (← ofExcept d.source))
      (do a.assembleOnly tag required (← ofExcept d.source)) :=
  Follows.ofExcept_bind fun source hs =>
    assembleOnly_follows hn fun _ node hl hnode identifier e hi he => hw source node identifier e hs
      ((compositeEntry_ok_iff hl).2 ⟨hnode, hi, he.resolved, he.suitable⟩)

theorem assembleComposite_follows_source (hn : a.NamesNoInstance) (hc : a.ComparesNoInstance)
    {childTag tag : String} {childRequired required : Capability} {d : ConfigurationText}
    (hw : ∀ source node identifier e, d.source = .ok source →
      a.compositeEntry tag required source = .ok (node, identifier, e) →
      a.ComposesAlike alike childTag childRequired node e) (old : List Instance) :
    Follows alike old (Value.shift old.length)
      (do a.assembleComposite childTag childRequired tag required (← ofExcept d.source))
      (do a.assembleComposite childTag childRequired tag required (← ofExcept d.source)) :=
  Follows.ofExcept_bind fun source hs =>
    assembleComposite_follows hn hc fun node identifier e he => hw source node identifier e hs he

theorem assembleOnly_fails {tag identifier : String} {required : Capability} {d : ConfigurationText}
    {source : ConfigurationSource} {node : Element} {e : Entry} {t u : State} {f : Failure}
    {es : List Event} (hs : d.source = .ok source)
    (he : a.compositeEntry tag required source = .ok (node, identifier, e))
    (hm : (a.world.makeChecked (.needsArguments identifier) (.constructionFailed identifier)
      e.factory []).Runs t (.error f) es u) :
    Build.Runs (do a.assembleOnly tag required (← ofExcept d.source)) t (.error f) es u := by
  obtain ⟨document, hl, hd⟩ := compositeEntry_describes he
  have ha : (a.assemble node required).Runs t (.error f) es u := by
    rw [assemble_eq]
    exact (runs_ofExcept hd.stated t).bind_silent
      ((runs_ofExcept (suitableEntry_ok_iff.2 ⟨hd.resolved, hd.suitable⟩) t).bind_silent
        hm.bind_error)
  exact (runs_ofExcept hs t).bind_silent ((runs_ofExcept hl t).bind_silent
    ((runs_ofExcept (onlySection_ok_iff.2 hd.only) t).bind_silent ha))

/-- A component that takes over a misfit fails in another way the second time. -/
theorem not_canRepeat_of_takesOver {scope : LookupScope} {tag : String} {required : Capability}
    {d : ConfigurationText}
    (h : (s.assembler scope).TakesOverMisfit s.state.adopted tag required d) :
    ¬ s.CanRepeat (.assembleOnly scope tag required d) := by
  obtain ⟨source, node, identifier, e, hs, he, hm⟩ := h
  have hb := assembleOnly_builds s scope tag required d
  obtain ⟨n, g, hfirst, hlater⟩ := makeChecked_takesOver
    (s := ⟨s.state.instances, [], s.state.adopted⟩) [] hm (.needsArguments identifier)
    (.constructionFailed identifier)
  obtain ⟨m, hsecond⟩ := hlater
    ⟨s.state.instances, [], s.world.adopting s.state.adopted n⟩ rfl
  obtain ⟨others, hone⟩ :=
    takeTraced_of_runs hb s.state (assembleOnly_fails hs he hfirst) s.bindings none
  obtain ⟨others', htwo⟩ := takeTraced_of_runs hb
    ⟨s.state.instances, [], s.world.adopting s.state.adopted n⟩
    (assembleOnly_fails hs he hsecond) others none
  intro hrepeat
  have hanswer := (hrepeat none _ _ _ hone none).1
  cases (congrArg Prod.fst htwo).symm.trans hanswer

/-- Builds are isolated in every state of a session: one leaves both catalogs and the instances made
before as they are, and its events carry none of these. A component by itself can be built again, with
the same answer and the same events and with every instance moved by the number of constructors that
began the first time, unless its class takes over a constructor that refuses the call. A composite component
can be built again if what is taken over on the way makes no difference to it and its children. This
needs declarations that hold no instance; for a composite component, whose factory gets the children,
also errors that do not depend on which instances these are. -/
theorem builds_isolated_and_repeatable (s : Session) (scope : LookupScope)
    (hn : (s.assembler scope).NamesNoInstance) :
    (∀ tag required d, s.Isolates (.assembleOnly scope tag required d) ∧
      (s.CanRepeat (.assembleOnly scope tag required d) ↔
        ¬ (s.assembler scope).TakesOverMisfit s.state.adopted tag required d)) ∧
    ((s.assembler scope).ComparesNoInstance → ∀ childTag childRequired tag required d,
      s.Isolates (.assembleComposite scope childTag childRequired tag required d) ∧
      ((s.assembler scope).StaysSteady s.state.adopted childTag childRequired tag required d →
        s.CanRepeat (.assembleComposite scope childTag childRequired tag required d))) := by
  constructor
  · intro tag required d
    have hb := assembleOnly_builds s scope tag required d
    refine ⟨isolates_of_follows hb (assembleOnly_follows_source hn fun _ _ _ e _ _ =>
      s.world.makesAlike_of_eq e.factory 0), fun h hm => not_canRepeat_of_takesOver hm h, fun h => ?_⟩
    obtain ⟨possible, hp, hw⟩ := exists_of_described (s.assembler scope) s.state.adopted tag
      required d (fun possible _ e => s.world.MakesAlike (AreAmong possible) e.factory 0)
      fun source node identifier e hs he => ⟨_, .nothing, (staysAlike_alone fun hm =>
        h ⟨source, node, identifier, e, hs, he, hm⟩).makesAlike fun _ hc => hc⟩
    exact canRepeat_of_follows hb (assembleOnly_follows_source hn hw) hp
      (Accounts.ofExcept_bind fun source _ => assembleOnly_accounts _ tag required source)
  · intro hc childTag childRequired tag required d
    have hb := assembleComposite_builds s scope childTag childRequired tag required d
    refine ⟨isolates_of_follows hb (assembleComposite_follows_source hn hc fun _ _ _ e _ _ =>
      composesAlike_of_eq), fun h => ?_⟩
    obtain ⟨possible, hp, hw⟩ := exists_of_described (s.assembler scope) s.state.adopted tag
      required d (fun possible node e =>
        (s.assembler scope).ComposesAlike (AreAmong possible) childTag childRequired node e)
      fun source node identifier e hs he =>
        ⟨_, .nothing, (h source node identifier e hs he).composesAlike⟩
    exact canRepeat_of_follows hb (assembleComposite_follows_source hn hc hw) hp
      (Accounts.ofExcept_bind fun source _ =>
        assembleComposite_accounts _ childTag tag childRequired required source)

/-- A session in the shop, in which a cart was made already. -/
def shopSession : Session where
  world := shop.world
  own := shop.catalog
  shared := []
  record := .empty
  bindings := []
  state := ⟨[⟨.own ⟨"shop", "Cart"⟩, []⟩], [], []⟩

def shopScope : LookupScope := ⟨false, none⟩

/-- Identifiers stand for the two classes of the shop. -/
theorem shop_entry {identifier : String} {required : Capability} {e : Entry}
    (h : shop.world.Admits shop.catalog none identifier required e) :
    (e.factory = .cls (.own ⟨"shop", "Item"⟩) ∧ e.provided = .cls (.own ⟨"shop", "Item"⟩)) ∨
      e.factory = .cls (.own ⟨"shop", "Cart"⟩) ∧ e.provided = .cls (.own ⟨"shop", "Cart"⟩) := by
  rcases entryFor_ok h.resolved with hc | hi
  · simp only [shop, List.mem_cons, List.not_mem_nil, or_false] at hc
    rcases hc with rfl | rfl
    · exact .inl ⟨rfl, rfl⟩
    · exact .inr ⟨rfl, rfl⟩
  · obtain ⟨t, ht, hte⟩ := importEntry_ok hi
    obtain ⟨d, hd, rfl⟩ := Option.map_eq_some_iff.1 ht
    obtain rfl := Except.ok.inj hte
    have hd := classDecl?_mem hd
    simp only [shop, List.mem_cons, List.not_mem_nil, or_false] at hd
    rcases hd with rfl | rfl
    · exact .inl ⟨rfl, rfl⟩
    · exact .inr ⟨rfl, rfl⟩

theorem shop_item_isPlain : shop.world.IsPlain [] (.own ⟨"shop", "Item"⟩) := by
  refine .bare rfl fun b hb h hh => ?_
  rw [show shop.world.lineage (.own ⟨"shop", "Item"⟩) =
    [.own ⟨"shop", "Item"⟩, .predefined .initializable] from rfl] at hb
  simp only [List.mem_cons, List.not_mem_nil, or_false] at hb
  rcases hb with rfl | rfl <;> cases hh

theorem shop_cart_isPlain : shop.world.IsPlain [] (.own ⟨"shop", "Cart"⟩) := .own rfl

theorem shop_knows_nothing (f : FunctionDecl) : ¬ (shopSession.assembler shopScope).Knows f := by
  simp [Assembler.Knows, Session.assembler, shopSession, shopScope, Session.catalog, shop, plainEntry]

theorem shop_namesNoInstance : (shopSession.assembler shopScope).NamesNoInstance := by
  constructor
  · simp [Session.assembler, shopSession, shop, itemClass, plainClass, DefaultsAreData]
  · simp [Session.assembler, shopSession, shop, itemClass, plainClass]
  · simp [Session.assembler, shopSession, shop, itemClass, plainClass]
  · exact fun f hf => absurd hf (shop_knows_nothing f)
  · exact fun f hf => absurd hf (shop_knows_nothing f)

theorem shop_comparesNoInstance : (shopSession.assembler shopScope).ComparesNoInstance := by
  constructor
  · simp [Session.assembler, shopSession, shop, itemClass, plainClass]
  · exact fun f hf => absurd hf (shop_knows_nothing f)

/-- Items take over the constructor of the root on the way, and carts have their own. -/
theorem builds_isolated_and_repeatable_shop :
    (shopSession.assembler shopScope).NamesNoInstance ∧
    (shopSession.assembler shopScope).ComparesNoInstance ∧
    (∀ d, shopSession.Isolates (.assembleOnly shopScope "item" (.cls .root) d) ∧
      shopSession.CanRepeat (.assembleOnly shopScope "item" (.cls .root) d)) ∧
    (∀ d, shopSession.Isolates (.assembleComposite shopScope "item" (.cls .root) "cart"
        (.cls (.own ⟨"shop", "Cart"⟩)) d) ∧
      shopSession.CanRepeat (.assembleComposite shopScope "item" (.cls .root) "cart"
        (.cls (.own ⟨"shop", "Cart"⟩)) d)) ∧
    ∃ t, ((shopSession.assembler shopScope).assembleComposite "item" (.cls .root) "cart"
      (.cls (.own ⟨"shop", "Cart"⟩)) (.tree cartDocument.root)).Runs shopSession.state
      (.ok (.object 3)) (itemEvents 1 ++ itemEvents 2 ++
        [.constructed "Cart" 3 (.list [.object 1, .object 2])]) t ∧
      t.adopted = [(⟨"shop", "Item"⟩, .root)] := by
  obtain ⟨hone, hcomposite⟩ :=
    builds_isolated_and_repeatable shopSession shopScope shop_namesNoInstance
  refine ⟨shop_namesNoInstance, shop_comparesNoInstance, fun d => ?_, fun d => ?_, _, ⟨rfl, rfl⟩, rfl⟩
  · obtain ⟨hisolates, hrepeat⟩ := hone "item" (.cls .root) d
    refine ⟨hisolates, hrepeat.2 ?_⟩
    rintro ⟨source, node, identifier, e, -, he, hm⟩
    obtain ⟨c, hf, ha, ht⟩ := hm.hides
    obtain ⟨_, -, hdesc⟩ := compositeEntry_describes he
    obtain ⟨hitem, -⟩ | ⟨hcart, -⟩ := shop_entry ⟨hdesc.resolved, hdesc.suitable⟩
    · obtain rfl := Factory.cls.inj (hf.symm.trans hitem)
      exact ht (takes_nil.2 rfl)
    · obtain rfl := Factory.cls.inj (hf.symm.trans hcart)
      cases ha
  · obtain ⟨hisolates, hrepeat⟩ := hcomposite shop_comparesNoInstance "item" (.cls .root)
      "cart" (.cls (.own ⟨"shop", "Cart"⟩)) d
    refine ⟨hisolates, hrepeat ?_⟩
    intro source node identifier e hs he
    obtain ⟨_, -, hdesc⟩ := compositeEntry_describes he
    have hcart : e.factory = .cls (.own ⟨"shop", "Cart"⟩) := by
      obtain ⟨-, hp⟩ | ⟨hcart, -⟩ := shop_entry ⟨hdesc.resolved, hdesc.suitable⟩
      · have hsuitable := hdesc.suitable
        rw [hp] at hsuitable
        cases hsuitable
      · exact hcart
    refine composesSteadily_of_plain ?_ ?_
    · rintro c (hmade | ⟨child, -, name, e', -, hadmits, hmade⟩)
      · rw [hcart] at hmade
        obtain rfl := Option.some.inj hmade
        exact shop_cart_isPlain
      · obtain ⟨hf, -⟩ | ⟨hf, -⟩ := shop_entry hadmits <;> rw [hf] at hmade <;>
          obtain rfl := Option.some.inj hmade
        · exact shop_item_isPlain
        · exact shop_cart_isPlain
    · intro c hf
      obtain rfl := Factory.cls.inj (hf.symm.trans hcart)
      exact fun h => by cases h

/-- A class that inherits a constructor with one parameter, but comes upon a stand-in before. -/
def lateAssembler : Assembler :=
  ⟨lateWorld [⟨"size", .positional, none, none⟩], [plainEntry "Late"], none⟩

def lateDocument : Configuration where
  root := .mk ⟨none, "properties"⟩ [] [.element (.mk ⟨none, "late"⟩ [(⟨none, "class"⟩, "Late")] [])]
  root_named := rfl

/-- The same document is built twice, and the second time it fails in another way. -/
theorem assembleOnly_late_not_repeated :
    lateAssembler.NamesNoInstance ∧
    lateAssembler.world.TakesOverMisfit State.empty.adopted (plainEntry "Late").factory 0 ∧
    ∃ f g t, (lateAssembler.assembleOnly "late" (.cls .root) (.tree lateDocument.root)).Runs .empty
        (.error f) [] t ∧
      (lateAssembler.assembleOnly "late" (.cls .root) (.tree lateDocument.root)).Runs t
        (.error g) [] t ∧
      f = .constructionFailed "Late" (.noCall (.refused (.missingPositions ["size"]))) ∧
      g = .needsArguments "Late" (.missing "size") := by
  have known (f : FunctionDecl) : ¬ lateAssembler.Knows f := by
    simp [Assembler.Knows, lateAssembler, lateWorld, plainEntry]
  refine ⟨?_, ⟨rfl, ?_, _, rfl, rfl, ?_⟩, _, _, _, ⟨rfl, rfl⟩, ⟨rfl, rfl⟩, rfl, rfl⟩
  · constructor
    · simp [lateAssembler, lateWorld, plainClass, DefaultsAreData]
    · simp [lateAssembler, lateWorld, plainClass]
    · simp [lateAssembler, lateWorld, plainClass]
    · exact fun f hf => absurd hf (known f)
    · exact fun f hf => absurd hf (known f)
  · intro c hc
    obtain rfl := Factory.cls.inj hc
    exact ⟨fun ha => ha.2 rfl, fun hp => by cases hp.1⟩
  · intro ht
    simpa [Param.mayBeLeftOut, Param.takesRest] using takes_zero.1 ht ⟨"size", .positional, none, none⟩
      (List.mem_singleton.2 rfl)

end ComponentAssembly
