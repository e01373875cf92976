import ComponentAssembly.Proofs.LookingUp
import ComponentAssembly.Session

/-! Entering targets in the catalogs of a session: a target is entered at the end under its name, or
nothing changes. No other step touches an entry. -/

namespace ComponentAssembly

variable {t : Target} {name? : Option String} {name : String} {profiles : List String} {e : Entry}
  {f : Failure}

/-- The name that a target has of itself: a class its own, a function its own without the beginning
that says it makes something. -/
inductive Target.HasOwnName : Target → String → Prop
  | cls (c : ClassRef) : HasOwnName (.cls c) c.name
  | maker {g : FunctionDecl} {rest : String} (begins : g.name.name = "make_" ++ rest) :
      HasOwnName (.function g) rest
  | function {g : FunctionDecl} (other : ∀ rest, g.name.name ≠ "make_" ++ rest) :
      HasOwnName (.function g) g.name.name

/-- No name is given, or the empty one. -/
def IsUnnamed (name? : Option String) : Prop := ∀ name, name? = some name → name = ""

/-- The name that a target is entered under: the one that is given, else its own. -/
inductive Target.IsNamed (t : Target) (name? : Option String) : String → Prop
  | given {name : String} (given : name? = some name) (nonempty : name ≠ "") : IsNamed t name? name
  | own {name : String} (unnamed : IsUnnamed name?) (own : t.HasOwnName name) : IsNamed t name? name

/-- What the entry for a target makes, and what is known of that: a class makes its instances, a function
what it states as its result. -/
inductive Target.Provides : Target → Factory → Provided → Prop
  | cls (c : ClassRef) : Provides (.cls c) (.cls c) (.cls c)
  | function {g : FunctionDecl} {type : TypeExpr} (stated : g.returns? = some type) :
      Provides (.function g) (.function g) (.ofResult type)

/-- An entry for a target. -/
structure Target.Enters (t : Target) (name? : Option String) (profiles : List String) (e : Entry) :
    Prop where
  named : t.IsNamed name? e.name
  provides : t.Provides e.factory e.provided
  profiles_eq : e.profiles = profiles

/-- A target is neither a class nor a function, or it is a function that states no result. -/
inductive Target.IsUnfit : Target → Prop
  | value (v : Value) : IsUnfit (.value v)
  | function {g : FunctionDecl} (unstated : g.returns? = none) : IsUnfit (.function g)

/-- A target is neither a class nor a function, and no name is given for it. -/
def Target.IsNameless (t : Target) (name? : Option String) : Prop :=
  (∃ v, t = .value v) ∧ IsUnnamed name?

/-- A target is a function, and this is the first unknown name among the types that it states. -/
def Target.StatesUnknown (t : Target) (name : String) : Prop :=
  ∃ g, t = .function g ∧ (TypeExpr.unknownNamesOf g.statedTypes).head? = some name

/-- A catalog of a session has one more entry at its end, and everything else is as before. -/
structure Session.Gains (s : Session) (shared : Bool) (e : Entry) (after : Session) : Prop where
  appended : after.catalog shared = s.catalog shared ++ [e]
  other : after.catalog (!shared) = s.catalog (!shared)
  world : after.world = s.world
  record : after.record = s.record
  bindings : after.bindings = s.bindings
  state : after.state = s.state

theorem withCatalog_gains (s : Session) (shared : Bool) (e : Entry) :
    s.Gains shared e (s.withCatalog shared (s.catalog shared ++ [e])) := by
  cases shared <;> exact ⟨rfl, rfl, rfl, rfl, rfl, rfl⟩

/-! ### The name of a target -/

theorem withoutBeginning_append (beginning rest : String) :
    withoutBeginning beginning (beginning ++ rest) = rest := by
  have hp : beginning.toList.isPrefixOf? (beginning ++ rest).toList = some rest.toList := by
    simp
  rw [withoutBeginning, hp]
  exact String.ofList_toList

theorem withoutBeginning_other {beginning text : String} (h : ∀ rest, text ≠ beginning ++ rest) :
    withoutBeginning beginning text = text := by
  unfold withoutBeginning
  split
  · rename_i rest hr
    have ht : text = beginning ++ String.ofList rest := by
      rw [← String.toList_inj]
      simpa using (List.isPrefixOf?_eq_some_iff_append_eq.1 hr).symm
    exact absurd ht (h _)
  · rfl

theorem ownName_ok_iff : t.ownName = .ok name ↔ t.HasOwnName name := by
  constructor
  · intro h
    cases t with
    | cls c =>
      obtain rfl := Except.ok.inj h
      exact .cls c
    | function g =>
      obtain rfl := Except.ok.inj h
      by_cases hb : ∃ rest, g.name.name = "make_" ++ rest
      · obtain ⟨rest, hb⟩ := hb
        rw [hb, withoutBeginning_append]
        exact .maker hb
      · have ho : ∀ rest, g.name.name ≠ "make_" ++ rest := by simpa using hb
        rw [withoutBeginning_other ho]
        exact .function ho
    | value v => cases h
  · intro h
    cases h with
    | cls c => rfl
    | maker begins => rw [Target.ownName, begins, withoutBeginning_append]
    | function other => rw [Target.ownName, withoutBeginning_other other]

theorem nameFor_given (h : name ≠ "") : t.nameFor (some name) = .ok name := by
  have hn : name.isEmpty = false := by simpa [String.isEmpty_iff] using h
  simp [Target.nameFor, Option.filter, hn]

theorem nameFor_unnamed (h : IsUnnamed name?) : t.nameFor name? = t.ownName := by
  cases name? with
  | none => rfl
  | some name =>
    obtain rfl := h name rfl
    rfl

theorem named_or_unnamed (name? : Option String) :
    (∃ name, name? = some name ∧ name ≠ "") ∨ IsUnnamed name? := by
  by_cases h : ∃ name, name? = some name ∧ name ≠ ""
  · exact .inl h
  · exact .inr fun name hn => by_contra fun he => h ⟨name, hn, he⟩

theorem nameFor_ok_iff : t.nameFor name? = .ok name ↔ t.IsNamed name? name := by
  constructor
  · intro h
    obtain ⟨given, rfl, hg⟩ | hu := named_or_unnamed name?
    · rw [nameFor_given hg] at h
      obtain rfl := Except.ok.inj h
      exact .given rfl hg
    · rw [nameFor_unnamed hu] at h
      exact .own hu (ownName_ok_iff.1 h)
  · intro h
    cases h with
    | given given nonempty => rw [given, nameFor_given nonempty]
    | own unnamed own => rw [nameFor_unnamed unnamed, ownName_ok_iff.2 own]

theorem nameFor_error (h : t.nameFor name? = .error f) :
    t.IsNameless name? ∧ ∃ typeName, f = .noAttribute typeName "__name__" := by
  obtain ⟨name, rfl, hn⟩ | hu := named_or_unnamed name?
  · rw [nameFor_given hn] at h
    cases h
  · rw [nameFor_unnamed hu] at h
    cases t with
    | cls c => cases h
    | function g => cases h
    | value v =>
      obtain rfl := Except.error.inj h
      exact ⟨⟨⟨v, rfl⟩, hu⟩, _, rfl⟩

/-! ### The entry for a target -/

/-- What making the entry for a target comes to. -/
inductive Target.ComesTo (t : Target) (name? : Option String) (profiles : List String) :
    Except Failure Entry → Prop
  | entered {e : Entry} (enters : t.Enters name? profiles e) (fit : ¬ t.IsUnfit)
      (known : ∀ unknown, ¬ t.StatesUnknown unknown) : ComesTo t name? profiles (.ok e)
  | unfit {f : Failure} {name : String} (named : t.IsNamed name? name) (unfit : t.IsUnfit)
      (known : ∀ unknown, ¬ t.StatesUnknown unknown) (kind : f.kind = .config .registration)
      (about : f.identifier? = some name) : ComesTo t name? profiles (.error f)
  | nameless {typeName : String} (nameless : t.IsNameless name?) :
      ComesTo t name? profiles (.error (.noAttribute typeName "__name__"))
  | unknown {unknown : String} (states : t.StatesUnknown unknown) :
      ComesTo t name? profiles (.error (.undefinedName unknown))

theorem Target.StatesUnknown.unique {unknown other : String} (h : t.StatesUnknown unknown)
    (ho : t.StatesUnknown other) : unknown = other := by
  obtain ⟨g, rfl, hg⟩ := h
  obtain ⟨g', he, hg'⟩ := ho
  obtain rfl := Target.function.inj he
  exact Option.some.inj (hg.symm.trans hg')

theorem Target.IsNameless.isUnfit (h : t.IsNameless name?) : t.IsUnfit := by
  obtain ⟨⟨v, rfl⟩, -⟩ := h
  exact .value v

theorem Target.IsNameless.not_statesUnknown (h : t.IsNameless name?) (unknown : String) :
    ¬ t.StatesUnknown unknown := by
  obtain ⟨⟨v, rfl⟩, -⟩ := h
  rintro ⟨g, hg, -⟩
  cases hg

theorem Target.IsNamed.not_isNameless (h : t.IsNamed name? name) : ¬ t.IsNameless name? := by
  rintro ⟨⟨v, rfl⟩, hu⟩
  cases h with
  | given given nonempty => exact nonempty (hu name given)
  | own unnamed own => cases own

theorem made_comesTo (t : Target) (name? : Option String) (profiles : List String) :
    t.ComesTo name? profiles (Registration.target t name? profiles).made := by
  show t.ComesTo name? profiles ((t.nameFor name?).bind fun name => t.entry name profiles)
  cases hn : t.nameFor name? with
  | error f =>
    obtain ⟨hnameless, typeName, rfl⟩ := nameFor_error hn
    exact .nameless hnameless
  | ok name =>
    have hnamed := nameFor_ok_iff.1 hn
    show t.ComesTo name? profiles (t.entry name profiles)
    cases t with
    | cls c =>
      exact .entered ⟨hnamed, .cls c, rfl⟩ (fun h => by cases h)
        fun unknown ⟨g, hg, _⟩ => by cases hg
    | value v => exact .unfit hnamed (.value v) (fun unknown ⟨g, hg, _⟩ => by cases hg) rfl rfl
    | function g =>
      simp only [Target.entry, FunctionDecl.result]
      cases hu : TypeExpr.unknownNamesOf g.statedTypes with
      | cons unknown others => exact .unknown ⟨g, rfl, by rw [hu]; rfl⟩
      | nil =>
        have known (unknown : String) : ¬ (Target.function g).StatesUnknown unknown := by
          rintro ⟨h, hg, hn⟩
          obtain rfl := Target.function.inj hg
          simp [hu] at hn
        cases hr : g.returns? with
        | none => exact .unfit hnamed (.function hr) known rfl rfl
        | some type =>
          refine .entered ⟨hnamed, .function hr, rfl⟩ (fun h => ?_) known
          cases h with
          | function unstated => cases hr.symm.trans unstated

section Outcome

variable {r : Except Failure Entry}

theorem Target.ComesTo.error_iff (h : t.ComesTo name? profiles r) :
    (∃ f, r = .error f) ↔ t.IsUnfit ∨ ∃ unknown, t.StatesUnknown unknown := by
  cases h with
  | entered enters fit known => simp [fit, known]
  | unfit named unfit => simp [unfit]
  | nameless nameless => simp [nameless.isUnfit]
  | unknown states => exact iff_of_true ⟨_, rfl⟩ (.inr ⟨_, states⟩)

/-- A failure is one to register the target under its name, unless it has no name or states an unknown
type. -/
theorem Target.ComesTo.refusal_iff (h : t.ComesTo name? profiles r) :
    (∀ f, r = .error f → f.kind = .config .registration ∧
        ∃ name, t.IsNamed name? name ∧ f.identifier? = some name) ↔
      ¬ t.IsNameless name? ∧ ∀ unknown, ¬ t.StatesUnknown unknown := by
  cases h with
  | entered enters fit known =>
    exact iff_of_true (fun f hf => by cases hf) ⟨enters.named.not_isNameless, known⟩
  | unfit named unfit known kind about =>
    refine iff_of_true (fun f hf => ?_) ⟨named.not_isNameless, known⟩
    exact Except.error.inj hf ▸ ⟨kind, _, named, about⟩
  | nameless nameless =>
    refine iff_of_false (fun hk => ?_) fun hn => hn.1 nameless
    cases (hk _ rfl).1
  | unknown states =>
    refine iff_of_false (fun hk => ?_) fun hn => hn.2 _ states
    cases (hk _ rfl).1

theorem Target.ComesTo.of_nameless (h : t.ComesTo name? profiles r) (hn : t.IsNameless name?) :
    ∃ typeName, r = .error (.noAttribute typeName "__name__") := by
  cases h with
  | entered enters => exact absurd hn enters.named.not_isNameless
  | unfit named => exact absurd hn named.not_isNameless
  | nameless => exact ⟨_, rfl⟩
  | unknown states => exact absurd states (hn.not_statesUnknown _)

theorem Target.ComesTo.of_unknown (h : t.ComesTo name? profiles r) {unknown : String}
    (hu : t.StatesUnknown unknown) : r = .error (.undefinedName unknown) := by
  cases h with
  | entered enters fit known => exact absurd hu (known unknown)
  | unfit named unfit known => exact absurd hu (known unknown)
  | nameless nameless => exact absurd hu (nameless.not_statesUnknown unknown)
  | unknown states => rw [states.unique hu]

end Outcome

/-! ### Entering it -/

theorem take_enterTarget (s : Session) (shared : Bool) (t : Target) (name? : Option String)
    (profiles : List String) : s.take (.enterTarget shared t name? profiles) =
      match (Registration.target t name? profiles).made with
      | .ok e => (.ok .done, s.withCatalog shared (s.catalog shared ++ [e]))
      | .error f => (.error f, s) := by
  have hr := register_eq (s.catalog shared) (.target t name? profiles)
  simp only [Catalog.register] at hr
  simp only [Session.take, hr]
  cases (Registration.target t name? profiles).made <;> rfl

/-- Entering a target appends one entry for it to the catalog, or it fails and changes nothing. It fails
exactly for what is neither a class nor a function, for a function that states no result and for one that
states an unknown type. The failure is one to register the target under its name, except that a value
that no name is given for has none, and that an unknown type is reported as such. Functions state types
here, so that a text in quotes fails in no other way, and values bear no names of their own. -/
theorem enterTarget_all_or_nothing (s : Session) (shared : Bool) (t : Target)
    (name? : Option String) (profiles : List String) :
    ∃ answer after, s.take (.enterTarget shared t name? profiles) = (answer, after) ∧
      ((answer = .ok .done ∧ ∃ e, t.Enters name? profiles e ∧ s.Gains shared e after) ∨
        (∃ f, answer = .error f) ∧ after = s) ∧
      ((∃ f, answer = .error f) ↔ t.IsUnfit ∨ ∃ unknown, t.StatesUnknown unknown) ∧
      ((∀ f, answer = .error f → f.kind = .config .registration ∧
          ∃ name, t.IsNamed name? name ∧ f.identifier? = some name) ↔
        ¬ t.IsNameless name? ∧ ∀ unknown, ¬ t.StatesUnknown unknown) ∧
      (t.IsNameless name? → ∃ typeName, answer = .error (.noAttribute typeName "__name__")) ∧
      ∀ unknown, t.StatesUnknown unknown → answer = .error (.undefinedName unknown) := by
  have hc := made_comesTo t name? profiles
  rw [take_enterTarget]
  generalize (Registration.target t name? profiles).made = r at hc
  cases r with
  | ok e =>
    refine ⟨_, _, rfl, .inl ⟨rfl, e, ?_, withCatalog_gains s shared e⟩, ?_, ?_, ?_, ?_⟩
    · cases hc
      assumption
    · simpa using hc.error_iff
    · simpa using hc.refusal_iff
    · intro hn
      obtain ⟨typeName, h⟩ := hc.of_nameless hn
      cases h
    · intro unknown hu
      cases hc.of_unknown hu
  | error f =>
    refine ⟨_, _, rfl, .inr ⟨⟨f, rfl⟩, rfl⟩, ?_, ?_, ?_, ?_⟩
    · simpa using hc.error_iff
    · simpa using hc.refusal_iff
    · simpa using hc.of_nameless
    · intro unknown hu
      simpa using hc.of_unknown hu

/-- Neither failure is one to register: not that of a value without a name, nor that of a function which
states a result of an unknown type. -/
theorem enterTarget_fails_otherwise :
    (Session.start forwardWorld).take (.enterTarget false (.value (.integer 42)) none []) =
      (.error (.noAttribute "int" "__name__"), .start forwardWorld) ∧
    (Failure.noAttribute "int" "__name__").kind = .foreign "AttributeError" ∧
    (Session.start forwardWorld).take (.enterTarget false (.function forwardFunction) none []) =
      (.error (.undefinedName "Missing"), .start forwardWorld) ∧
    (Failure.undefinedName "Missing").kind = .foreign "NameError" ∧
    forwardFunction.returns? = some (.forward "Missing") := ⟨rfl, rfl, rfl, rfl, rfl⟩

/-! ### Over a whole session -/

/-- A session after steps in this order, each with a name for its object or with none. -/
def Session.after (s : Session) (steps : List (Step × Option String)) : Session :=
  steps.foldl (fun s step => (s.takeTraced step.1 step.2).2.2) s

theorem running_catalog {α : Type} (s : Session) (b : Build α) (answer : α → Answer)
    (shared : Bool) : (s.running b answer).2.catalog shared = s.catalog shared := by
  unfold Session.running
  rcases b.from s.state with ⟨r, t⟩
  cases shared <;> rfl

theorem assignSection_catalog (s : Session) (target : Value) (excluded? : Option String)
    (t : TreeText) (shared : Bool) :
    (s.assignSection target excluded? t).2.catalog shared = s.catalog shared := by
  unfold Session.assignSection
  split
  split
  cases shared <;> rfl

/-- A step leaves the entries of both catalogs where they are. -/
theorem catalog_take (s : Session) (step : Step) (shared : Bool) :
    s.catalog shared <+: (s.take step).2.catalog shared := by
  have appended (other : Bool) (e : Entry) :
      s.catalog shared <+: (s.withCatalog other (s.catalog other ++ [e])).catalog shared := by
    cases other <;> cases shared <;> simp [Session.catalog, Session.withCatalog]
  have kept {after : Session} (h : after.catalog shared = s.catalog shared) :
      s.catalog shared <+: after.catalog shared := ⟨[], by rw [List.append_nil, h]⟩
  cases step with
  | enter other e => exact appended other e
  | enterTarget other t name? profiles =>
    rw [take_enterTarget]
    cases (Registration.target t name? profiles).made with
    | ok e => exact appended other e
    | error f => exact List.prefix_rfl
  | entries | entryFor | suitableEntry => exact List.prefix_rfl
  | assignSection instanceName excluded? t =>
    rw [Session.take]
    exact kept (assignSection_catalog ..)
  | instanceFor | construct | assembleOnly | assembleComposite | assemble | setUpSection | setUpSelf
  | assign | assignUnexpected | activate =>
    rw [Session.take]
    exact kept (running_catalog ..)

/-- So do all steps of a session: an entry is never taken back, nor does another one come before it. -/
theorem catalog_after (s : Session) (steps : List (Step × Option String)) (shared : Bool) :
    s.catalog shared <+: (s.after steps).catalog shared := by
  induction steps generalizing s with
  | nil => exact List.prefix_rfl
  | cons step steps ih =>
    have first := catalog_take { s with state.trace := [] } step.1 shared
    exact first.trans (ih (s.takeTraced step.1 step.2).2.2)

end ComponentAssembly
