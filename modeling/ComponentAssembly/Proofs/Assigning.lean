import ComponentAssembly.Build.Assignment
import ComponentAssembly.Proofs.Run
import Mathlib.Data.List.Forall2

/-! Setting one parameter, and setting the parameters of a section in order. -/

namespace ComponentAssembly

open Build Markup

variable {w : World} {target v : Value} {m : Setter} {p : Param} {s t : State}
  {c : ClassRef} {d : ClassDecl} {parameter name : String} {value : ShapedText} {f : Failure}
  {params : List Parameter} {record : Settings} {es fs : List Event} {names others : List String}

/-- The event of a setter's body. -/
def Setter.event (m : Setter) (target v : Value) : Event := .set (m.instance? target) m.name v

/-- The state in which a setter that does not fail leaves its instance. -/
def State.keeping (s : State) (target : Value) (m : Setter) (v : Value) : State :=
  match m.instance? target with
  | some number =>
    { s with instances := s.instances.modify number fun i =>
        { i with settings := setEntry m.name v i.settings } }
  | none => s

theorem keeping_classes (s : State) (target : Value) (m : Setter) (v : Value) :
    (s.keeping target m v).classes = s.classes := by
  simp only [State.keeping]
  split
  · rename_i number hn
    apply List.ext_getElem?
    intro i
    simp only [State.classes, List.getElem?_map, List.getElem?_modify]
    cases s.instances[i]? with
    | none => rfl
    | some x => by_cases h : number = i <;> simp [h]
  · rfl

/-- A setter's body that raises nothing for a value remembers it in every state. -/
theorem callSetter_returns (h : raise m.raises? v = pure ()) (target : Value) (s : State) :
    (callSetter target m v).Runs s (.ok ()) [m.event target v]
      ((s.writing [m.event target v]).keeping target m v) := by
  have hr : Runs (raise m.raises? v) (s.writing [m.event target v]) _ _ _ := h ▸ runs_pure () _
  refine (runs_emit (m.event target v) s).bind (hr.bind_silent ?_)
  simp only [State.keeping]
  cases m.instance? target with
  | none => exact runs_pure () _
  | some number => exact ⟨rfl, by simp⟩

theorem callSetter_fails (h : raise m.raises? v = throw f) (target : Value) (s : State) :
    (callSetter target m v).Runs s (.error f) [m.event target v]
      (s.writing [m.event target v]) := by
  have hr : Runs (raise m.raises? v) (s.writing [m.event target v]) _ _ _ := h ▸ runs_throw f _
  exact (runs_emit (m.event target v) s).bind hr.bind_error

/-- A setter's body begins in every case, and one that fails changes no instance. -/
theorem callSetter_cases (target : Value) (m : Setter) (v : Value) (s : State) :
    (∃ f, (callSetter target m v).Runs s (.error f) [m.event target v]
      (s.writing [m.event target v])) ∨
    (callSetter target m v).Runs s (.ok ()) [m.event target v]
      ((s.writing [m.event target v]).keeping target m v) := by
  obtain h | ⟨f, h⟩ := raise_eq m.raises? v
  · exact .inr (callSetter_returns h target s)
  · exact .inl ⟨f, callSetter_fails h target s⟩

/-- Where no setter is found, nothing begins. -/
theorem assign_unfound (hm : w.findSetter s target parameter = .error f) :
    (w.assign target parameter value).Runs s (.error f) [] s :=
  (runs_get s).bind_silent (runs_ofExcept hm s).bind_error

/-- Where the setter takes no such value, nothing begins. -/
theorem assign_unfit (hm : w.findSetter s target parameter = .ok (m, p))
    (hv : argument s target parameter m p value = .error f) :
    (w.assign target parameter value).Runs s (.error f) [] s :=
  (runs_get s).bind_silent ((runs_ofExcept hm s).bind_silent (runs_ofExcept hv s).bind_error)

/-- Setting a parameter is calling its setter, whose failure is told as one of the parameter. -/
theorem assign_called (hm : w.findSetter s target parameter = .ok (m, p))
    (hv : argument s target parameter m p value = .ok v) {r : Except Failure Unit}
    (hr : (callSetter target m v).Runs s r es t) :
    (w.assign target parameter value).Runs s (r.mapError (.setterFailed parameter m.name)) es t :=
  (runs_get s).bind_silent ((runs_ofExcept hm s).bind_silent
    ((runs_ofExcept hv s).bind_silent (hr.wrapping _)))

/-- What setting one parameter can come to: there is no setter for it or no value, and nothing has
begun; or the body of its setter begins, and fails or not. -/
theorem assign_cases (w : World) (target : Value) (parameter : String) (value : ShapedText)
    (s : State) :
    (∃ f, (w.assign target parameter value).Runs s (.error f) [] s) ∨
    ∃ m p v, w.findSetter s target parameter = .ok (m, p) ∧
      argument s target parameter m p value = .ok v ∧
      ((∃ f, (w.assign target parameter value).Runs s (.error f) [m.event target v]
        (s.writing [m.event target v])) ∨
      (w.assign target parameter value).Runs s (.ok ()) [m.event target v]
        ((s.writing [m.event target v]).keeping target m v)) := by
  cases hm : w.findSetter s target parameter with
  | error f => exact .inl ⟨f, assign_unfound hm⟩
  | ok mp =>
    obtain ⟨m, p⟩ := mp
    cases hv : argument s target parameter m p value with
    | error f => exact .inl ⟨f, assign_unfit hm hv⟩
    | ok v =>
      refine .inr ⟨m, p, v, rfl, hv, ?_⟩
      obtain ⟨f, hf⟩ | hc := callSetter_cases target m v s
      · exact .inl ⟨_, assign_called hm hv hf⟩
      · exact .inr (assign_called hm hv hc)

theorem setter?_eq_some (h : w.setter? s target name = some m) :
    ∃ c, s.classOf? target = some c ∧ w.member? c name = some (.setter m) := by
  unfold World.setter? at h
  split at h
  · rename_i n hm
    obtain ⟨c, hc, hm⟩ := Option.bind_eq_some_iff.1 hm
    simp only [Option.some.injEq] at h
    exact ⟨c, hc, h ▸ hm⟩
  · simp at h

theorem classDecl_member?_setter (h : d.member? name = some (.setter m)) : m.name = name := by
  unfold ClassDecl.member? at h
  cases hs : d.setter? name with
  | some n =>
    have he : n = m := by simpa [hs] using h
    simpa [he] using List.find?_some hs
  | none => simp [hs, Option.or_eq_some_iff] at h

theorem classDecl?_mem {n : DottedName} {d : ClassDecl} (h : w.classDecl? n = some d) :
    d ∈ w.classes :=
  List.mem_reverse.1 (List.mem_of_find?_eq_some h)

/-- What a class holds under a name is declared, or it is a method of a predefined class. -/
theorem member?_declared {name : String} {member : Member} (h : w.member? c name = some member) :
    member = .method ∨ ∃ d ∈ w.classes, d.member? name = some member := by
  obtain ⟨b, -, hb⟩ := List.exists_of_findSome?_eq_some h
  cases b with
  | predefined p =>
    simp only [World.ownMember?] at hb
    split at hb
    · exact .inl (Option.some.inj hb).symm
    · cases hb
  | own n =>
    obtain ⟨d, hd, hm⟩ := Option.bind_eq_some_iff.1 hb
    exact .inr ⟨d, classDecl?_mem hd, hm⟩

/-- A setter stands under its own name. -/
theorem member?_setter (h : w.member? c name = some (.setter m)) : m.name = name := by
  obtain hm | ⟨d, -, hd⟩ := member?_declared h
  · cases hm
  · exact classDecl_member?_setter hd

theorem usable?_receiver (h : m.usable? = .ok (some p)) : receiver? m.params = some p := by
  unfold Setter.usable? at h
  split at h
  · simp at h
  · simp at h
  · simp at h
  · split at h <;> simp at h
  all_goals simpa using h

/-- A setter that is found stands under the name for the parameter, and takes one value. -/
theorem findSetter_ok (h : w.findSetter s target parameter = .ok (m, p)) :
    w.setter? s target (setterName parameter) = some m ∧ receiver? m.params = some p := by
  simp only [World.findSetter] at h
  split at h
  · simp at h
  · cases hm : w.setter? s target (setterName parameter) with
    | none => simp [hm] at h
    | some n =>
      cases hu : n.usable? with
      | error f => simp [hm, hu] at h
      | ok p? =>
        cases p? with
        | none => simp [hm, hu] at h
        | some q =>
          obtain ⟨rfl, rfl⟩ : n = m ∧ q = p := by simpa [hm, hu] using h
          exact ⟨rfl, usable?_receiver hu⟩

theorem findSetter_name (h : w.findSetter s target parameter = .ok (m, p)) :
    m.name = setterName parameter := by
  obtain ⟨c, -, hc⟩ := setter?_eq_some (findSetter_ok h).1
  exact member?_setter hc

/-- The instance that the setter under a name of a value knows. -/
def World.knownBy? (w : World) (s : State) (target : Value) (name : String) : Option Nat :=
  (w.setter? s target name).bind fun m => m.instance? target

/-- These events begin the bodies of the setters of these names, in order. -/
def World.Begin (w : World) (s : State) (target : Value) (names : List String) (es : List Event) :
    Prop :=
  List.Forall₂ (fun name e => ∃ v, e = .set (w.knownBy? s target name) name v) names es

/-- The name of the setter whose body an event begins. -/
def Event.setter? : Event → Option String
  | .set _ name _ => some name
  | _ => none

theorem World.Begin.setters (h : w.Begin s target names es) :
    es.map Event.setter? = names.map some := by
  induction h with
  | nil => rfl
  | cons he _ ih =>
    obtain ⟨v, rfl⟩ := he
    simp [Event.setter?, ih]

theorem World.Begin.sets (h : w.Begin s target names es) :
    ∀ e ∈ es, ∃ number? name v, e = .set number? name v := by
  induction h with
  | nil => simp
  | cons he _ ih =>
    obtain ⟨v, rfl⟩ := he
    intro e hm
    rcases List.mem_cons.1 hm with rfl | hm
    · exact ⟨_, _, v, rfl⟩
    · exact ih e hm

theorem World.Begin.append (h : w.Begin s target names es) (k : w.Begin s target others fs) :
    w.Begin s target (names ++ others) (es ++ fs) := List.rel_append h k

theorem World.Begin.of_classes (hc : t.classes = s.classes) (h : w.Begin t target names es) :
    w.Begin s target names es := by
  have hk : w.knownBy? t target = w.knownBy? s target := by
    funext name
    simp only [World.knownBy?, World.setter?, State.classOf?_of_classes hc]
  simpa only [World.Begin, hk] using h

theorem findSetter_begin (h : w.findSetter s target parameter = .ok (m, p)) (v : Value) :
    w.Begin s target [setterName parameter] [m.event target v] := by
  refine .cons ⟨v, ?_⟩ .nil
  simp [Setter.event, World.knownBy?, (findSetter_ok h).1, findSetter_name h]

/-- A parameter that is set begins the body of its setter, once. -/
theorem assign_ok (h : (w.assign target parameter value).Runs s (.ok ()) es t) :
    t.classes = s.classes ∧ w.Begin s target [setterName parameter] es := by
  obtain ⟨f, hf⟩ | ⟨m, p, v, hm, -, ⟨f, hf⟩ | hd⟩ := assign_cases w target parameter value s
  · simpa using (h.unique hf).1
  · simpa using (h.unique hf).1
  · obtain ⟨-, rfl, rfl⟩ := h.unique hd
    exact ⟨keeping_classes .., findSetter_begin hm v⟩

/-- A parameter that fails begins no other body than that of its setter, and changes no instance. -/
theorem assign_error (h : (w.assign target parameter value).Runs s (.error f) es t) :
    t.instances = s.instances ∧ (es = [] ∨ w.Begin s target [setterName parameter] es) := by
  obtain ⟨g, hf⟩ | ⟨m, p, v, hm, -, ⟨g, hf⟩ | hd⟩ := assign_cases w target parameter value s
  · obtain ⟨-, rfl, rfl⟩ := h.unique hf
    exact ⟨rfl, .inl rfl⟩
  · obtain ⟨-, rfl, rfl⟩ := h.unique hf
    exact ⟨rfl, .inr (findSetter_begin hm v)⟩
  · simpa using (h.unique hd).1

theorem assign_writes (w : World) (target : Value) (parameter : String) (value : ShapedText) :
    (w.assign target parameter value).Writes := by
  intro s
  obtain ⟨f, hf⟩ | ⟨m, p, v, -, -, ⟨f, hf⟩ | hd⟩ := assign_cases w target parameter value s
  · exact ⟨_, _, _, hf⟩
  · exact ⟨_, _, _, hf⟩
  · exact ⟨_, _, _, hd⟩

/-- Parameters are set in order, and none fails. -/
abbrev World.AssignsEach (w : World) (target : Value) :
    List Parameter → State → List Unit → List Event → State → Prop :=
  RunsEach fun p => w.assign target p.name p.value

/-- All parameters are set, or those before the first one that fails. -/
theorem assignsEach_or_fails (w : World) (target : Value) (params : List Parameter) (s : State) :
    (∃ us es t, w.AssignsEach target params s us es t) ∨
    ∃ pre p post us es t f fs u, params = pre ++ p :: post ∧ w.AssignsEach target pre s us es t ∧
      (w.assign target p.name p.value).Runs t (.error f) fs u := by
  have hw (p : Parameter) : (w.assign target p.name p.value).Writes :=
    assign_writes w target p.name p.value
  exact runsEach_or_fails hw params s

/-- The record of the parameters that are set after some others. -/
def Settings.addAll (record : Settings) (params : List Parameter) : Settings :=
  params.foldl (fun r p => r.add p.name) record

theorem assignsEach_begin {us : List Unit} (h : w.AssignsEach target params s us es t) :
    t.classes = s.classes ∧ w.Begin s target (params.map fun p => setterName p.name) es := by
  induction h with
  | nil => exact ⟨rfl, .nil⟩
  | cons first _ ih =>
    obtain ⟨hc, he⟩ := assign_ok first
    obtain ⟨hd, hf⟩ := ih
    exact ⟨hd.trans hc, he.append (hf.of_classes hc)⟩

theorem assignAll_of_each {us : List Unit} (h : w.AssignsEach target params s us es t)
    (record : Settings) :
    (w.assignAll target params record).Runs s (.ok (record.addAll params, none)) es t := by
  induction h generalizing record with
  | nil s => exact runs_pure _ s
  | cons first _ ih => exact first.outcome.bind (ih _)

theorem assignAll_of_failing {us : List Unit} {q : Parameter} {post : List Parameter} {u : State}
    {fs : List Event} (h : w.AssignsEach target params s us es t)
    (hq : (w.assign target q.name q.value).Runs t (.error f) fs u) (record : Settings) :
    (w.assignAll target (params ++ q :: post) record).Runs s (.ok (record.addAll params, some f))
      (es ++ fs) u := by
  induction h generalizing record with
  | nil s =>
    exact hq.outcome.then_silent (runs_pure _ u)
  | cons first _ ih =>
    rw [List.append_assoc]
    exact first.outcome.bind (ih hq _)

theorem assignSection_unread {node : Markup.Element} {excluded? : Option String}
    (hp : parametersOf node excluded? = .error f) (w : World) (target : Value) (record : Settings)
    (s : State) :
    (w.assignSection target node excluded? record).Runs s (.ok (record, some f)) [] s := by
  simp only [World.assignSection, hp]
  exact runs_pure _ s

theorem assignSection_read {node : Markup.Element} {excluded? : Option String}
    (hp : parametersOf node excluded? = .ok params) (w : World) (target : Value)
    (record : Settings) :
    w.assignSection target node excluded? record = w.assignAll target params record := by
  simp only [World.assignSection, hp]

end ComponentAssembly
