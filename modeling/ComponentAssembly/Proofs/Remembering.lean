import ComponentAssembly.Proofs.Life

/-! What an instance remembers after parameters were set: under each of its methods the value of the
last parameter for it. -/

namespace ComponentAssembly

open Build Markup

variable {w : World} {target v : Value} {m : Setter} {s t u : State} {c : ClassRef}
  {name key : String} {p : Parameter} {params others : List Parameter} {es : List Event}
  {number : Nat}

/-- The last of some parameters that are set through a setter of this name. -/
def lastFor (name : String) (params : List Parameter) : Option Parameter :=
  (params.filter fun p => setterName p.name = name).getLast?

/-- The value that the setter for a parameter gets for it. -/
def World.Takes (w : World) (s : State) (target : Value) (p : Parameter) (v : Value) : Prop :=
  ∃ m q, w.findSetter s target p.name = .ok (m, q) ∧ argument s target p.name m q p.value = .ok v

/-- Under each of its methods an instance remembers the value of the last of these parameters for it,
and what it remembered before if there is none. -/
def World.Remembers (w : World) (target : Value) (c : ClassRef) (s : State)
    (params : List Parameter) (t : State) : Prop :=
  ∀ name, w.hasMethod c name = true →
    (lastFor name params = none ∧ t.remembered target name = s.remembered target name) ∨
    ∃ p, lastFor name params = some p ∧ w.Takes s target p (t.remembered target name)

theorem lastFor_append (name : String) (params others : List Parameter) :
    lastFor name (params ++ others) = (lastFor name others).or (lastFor name params) := by
  rw [lastFor, List.filter_append, List.getLast?_append]
  rfl

theorem lastFor_self (p : Parameter) : lastFor (setterName p.name) [p] = some p := by
  simp [lastFor]

theorem lastFor_other (h : setterName p.name ≠ name) : lastFor name [p] = none := by
  simp [lastFor, h]

theorem find?_setEntry {α : Type} (key name : String) (a : α) (entries : List (String × α)) :
    (setEntry key a entries).find? (fun e => e.1 = name) =
      if key = name then some (key, a) else entries.find? fun e => e.1 = name := by
  induction entries with
  | nil => by_cases h : key = name <;> simp [setEntry, h]
  | cons e entries ih =>
    obtain ⟨k, b⟩ := e
    by_cases hk : k = key
    · subst hk
      by_cases h : k = name <;> simp [setEntry, h]
    · by_cases h : k = name
      · subst h
        simp [setEntry, hk, Ne.symm hk]
      · simp [setEntry, hk, h, ih]

/-- A setter changes what is remembered under its own name only. -/
theorem remembered_keeping_other (s : State) (target v : Value) (h : m.name ≠ name) :
    (s.keeping target m v).remembered target name = s.remembered target name := by
  cases target with
  | object number =>
    rw [State.keeping, instance?_object]
    by_cases hm : m.isMethod = true
    · simp only [hm, if_true, State.remembered, List.getElem?_modify]
      cases s.instances[number]? with
      | none => rfl
      | some i => simp [find?_setEntry, h]
    · simp [hm]
  | _ => rfl

theorem remembered_keeping_self (v : Value) (hm : m.isMethod = true)
    (hn : number < s.instances.length) :
    (s.keeping (.object number) m v).remembered (.object number) m.name = v := by
  rw [State.keeping, instance?_object]
  simp [hm, State.remembered, hn, find?_setEntry]

theorem hasMethod_predefined (w : World) (p : Predefined) (name : String) :
    w.hasMethod (.predefined p) name = false := by
  have hl : w.lineage (.predefined p) = [.predefined p] := rfl
  unfold World.hasMethod World.member?
  rw [hl]
  by_cases h : name ∈ p.methods <;> simp [World.ownMember?, h]

/-- Only instances of a world's own classes have methods. -/
theorem object_of_hasMethod (hc : s.classOf? target = some c) (hm : w.hasMethod c name = true) :
    ∃ number, target = .object number ∧ number < s.instances.length := by
  cases target with
  | object number =>
    refine ⟨number, rfl, ?_⟩
    obtain ⟨i, hi, -⟩ := Option.map_eq_some_iff.1 hc
    exact (List.getElem?_eq_some_iff.1 hi).1
  | plain p =>
    obtain rfl := Option.some.inj hc
    rw [hasMethod_predefined] at hm
    cases hm
  | _ => cases hc

theorem quotedType_of_classes (h : t.classes = s.classes) (v : Value) :
    t.quotedType v = s.quotedType v := by
  rw [State.quotedType, State.quotedType, State.classOf?_of_classes h]

/-- Which setter is found and which value it gets are matters of the classes alone. -/
theorem findSetter_of_classes (h : t.classes = s.classes) (parameter : String) :
    w.findSetter t target parameter = w.findSetter s target parameter := by
  have hs : w.setter? t target = w.setter? s target := by
    funext name
    simp only [World.setter?, State.classOf?_of_classes h]
  simp only [World.findSetter, quotedType_of_classes h, hs]

theorem argument_of_classes (h : t.classes = s.classes) (parameter : String) (m : Setter)
    (p : Param) (value : ShapedText) :
    argument t target parameter m p value = argument s target parameter m p value := by
  simp only [argument, quotedType_of_classes h]

theorem takes_of_classes (h : t.classes = s.classes) :
    w.Takes t target p v ↔ w.Takes s target p v := by
  simp only [World.Takes, findSetter_of_classes h, argument_of_classes h]

theorem remembers_nil (w : World) (target : Value) (c : ClassRef)
    (h : t.instances = s.instances) : w.Remembers target c s [] t := by
  intro name _
  exact .inl ⟨rfl, by cases target <;> simp [State.remembered, h]⟩

theorem World.Remembers.append (h : w.Remembers target c s params t)
    (k : w.Remembers target c t others u) (hc : t.classes = s.classes) :
    w.Remembers target c s (params ++ others) u := by
  intro name hm
  rw [lastFor_append]
  obtain ⟨hl, he⟩ | ⟨p, hl, hp⟩ := k name hm
  · rw [hl, he]
    exact h name hm
  · rw [hl]
    exact .inr ⟨p, rfl, (takes_of_classes hc).1 hp⟩

/-- A parameter that is set is remembered under the name of its setter. -/
theorem assign_remembers (hc : s.classOf? target = some c)
    (h : (w.assign target p.name p.value).Runs s (.ok ()) es t) :
    w.Remembers target c s [p] t := by
  intro name hm
  obtain ⟨f, hf⟩ | ⟨m, q, v, hf, hv, ⟨f, hr⟩ | hr⟩ := assign_cases w target p.name p.value s
  · cases (h.unique hf).1
  · cases (h.unique hr).1
  obtain ⟨-, -, rfl⟩ := h.unique hr
  have hn := findSetter_name hf
  by_cases hp : setterName p.name = name
  · subst hp
    obtain ⟨d, hd, hset⟩ := setter?_eq_some (findSetter_ok hf).1
    obtain rfl := Option.some.inj (hc.symm.trans hd)
    have hmethod : m.isMethod = true := by simpa [World.hasMethod, hset] using hm
    obtain ⟨number, rfl, hlt⟩ := object_of_hasMethod hc hm
    refine .inr ⟨p, lastFor_self p, m, q, hf, ?_⟩
    rw [← hn, remembered_keeping_self v hmethod (by simpa using hlt)]
    exact hv
  · refine .inl ⟨lastFor_other hp, ?_⟩
    rw [remembered_keeping_other _ _ _ (hn ▸ hp), remembered_writing]

theorem assignsEach_remembers {us : List Unit} (hc : s.classOf? target = some c)
    (h : w.AssignsEach target params s us es t) : w.Remembers target c s params t := by
  induction h with
  | nil s => exact remembers_nil w target c rfl
  | @cons p params _ _ s t u _ _ first others ih =>
    have hs := (assign_ok first).1
    have hr := ih (by rw [State.classOf?_of_classes hs, hc])
    exact (assign_remembers hc first).append hr hs

end ComponentAssembly
