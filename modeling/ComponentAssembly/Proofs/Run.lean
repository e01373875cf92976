import ComponentAssembly.Build.State

/-! Runs of building steps: the outcome, the events written on the way and the state left. -/

namespace ComponentAssembly

/-- The state with more events behind it. -/
def State.writing (s : State) (es : List Event) : State := { s with trace := s.trace ++ es }

@[simp] theorem State.writing_instances (s : State) (es : List Event) :
    (s.writing es).instances = s.instances := rfl

@[simp] theorem State.writing_nil (s : State) : s.writing [] = s := by simp [State.writing]

theorem State.writing_append (s : State) (es fs : List Event) :
    s.writing (es ++ fs) = (s.writing es).writing fs := by simp [State.writing]

/-- The state in which these constructors were taken over. -/
def State.adopting (s : State) (adopted : Adoptions) : State := { s with adopted := adopted }

@[simp] theorem State.adopting_instances (s : State) (adopted : Adoptions) :
    (s.adopting adopted).instances = s.instances := rfl

@[simp] theorem State.adopting_trace (s : State) (adopted : Adoptions) :
    (s.adopting adopted).trace = s.trace := rfl

@[simp] theorem State.adopting_self (s : State) : s.adopting s.adopted = s := rfl

/-- The classes of the instances in the order of their construction. -/
def State.classes (s : State) : List ClassRef := s.instances.map Instance.ofClass

@[simp] theorem State.classes_writing (s : State) (es : List Event) :
    (s.writing es).classes = s.classes := rfl

@[simp] theorem State.classes_adopting (s : State) (adopted : Adoptions) :
    (s.adopting adopted).classes = s.classes := rfl

theorem State.length_classes (s : State) : s.classes.length = s.instances.length := by
  simp [State.classes]

theorem State.classOf?_object (s : State) (number : Nat) :
    s.classOf? (.object number) = s.classes[number]? := by
  simp [State.classOf?, State.classes]

theorem State.classOf?_of_classes {s t : State} (h : t.classes = s.classes) (v : Value) :
    t.classOf? v = s.classOf? v := by
  cases v with
  | object number => rw [State.classOf?_object, State.classOf?_object, h]
  | _ => rfl

@[simp] theorem remembered_writing (s : State) (es : List Event) (v : Value) (name : String) :
    (s.writing es).remembered v name = s.remembered v name := rfl

/-- The failure of whatever raises this error. -/
def Raise.failure (r : Raise) : Failure := .raised r.kind r.text r.identifier

/-- A body that may raise an error raises it, or returns because there is none for this value. -/
def RaisesFor (r? : Option Raise) (v : Value) : Except Failure Unit → Prop
  | .ok () => ∀ r, r? = some r → r.applies v = false
  | .error f => ∃ r, r? = some r ∧ r.applies v = true ∧ f = r.failure

theorem RaisesFor.returns {r? : Option Raise} {v : Value} {r : Except Failure Unit}
    (h : RaisesFor r? v (.ok ())) (k : RaisesFor r? v r) : r = .ok () := by
  cases r with
  | ok => rfl
  | error f =>
    obtain ⟨e, he, ha, -⟩ := k
    cases (h e he).symm.trans ha

namespace Build

/-- A step takes a state to another one with an outcome. These are the events that it writes. -/
structure Runs {α : Type} (b : Build α) (s : State) (r : Except Failure α) (es : List Event)
    (t : State) : Prop where
  from_eq : b.from s = (r, t)
  trace_eq : t.trace = s.trace ++ es

/-- A step never takes an event back. -/
def Writes {α : Type} (b : Build α) : Prop := ∀ s, ∃ r es t, b.Runs s r es t

/-- A step writes these events and changes nothing else. -/
def OnlyWrites {α : Type} (b : Build α) (s : State) (r : Except Failure α) (es : List Event) :
    Prop := b.Runs s r es (s.writing es)

/-- Steps run in order, each from the state that the one before left, and none fails. These are what
they give and the events that they write. -/
inductive RunsEach {ι α : Type} (step : ι → Build α) :
    List ι → State → List α → List Event → State → Prop
  | nil (s : State) : RunsEach step [] s [] [] s
  | cons {i : ι} {is : List ι} {a : α} {as : List α} {s t u : State} {es fs : List Event}
      (first : (step i).Runs s (.ok a) es t) (others : RunsEach step is t as fs u) :
      RunsEach step (i :: is) s (a :: as) (es ++ fs) u

variable {ι α β : Type} {b : Build α} {g : α → Build β} {s t u : State} {r q : Except Failure α}
  {p : Except Failure β} {a : α} {f : Failure} {es fs : List Event} {step : ι → Build α}
  {is : List ι} {as : List α}

/-- A run is determined by where it starts. -/
theorem Runs.unique (h : b.Runs s r es t) (k : b.Runs s q fs u) : r = q ∧ es = fs ∧ t = u := by
  have he := h.from_eq.symm.trans k.from_eq
  simp only [Prod.mk.injEq] at he
  obtain ⟨rfl, rfl⟩ := he
  exact ⟨rfl, List.append_cancel_left (h.trace_eq.symm.trans k.trace_eq), rfl⟩

theorem runs_pure (a : α) (s : State) : Runs (pure a : Build α) s (.ok a) [] s := ⟨rfl, by simp⟩

theorem runs_throw (f : Failure) (s : State) : Runs (throw f : Build α) s (.error f) [] s :=
  ⟨rfl, by simp⟩

theorem runs_ofExcept (h : q = r) (s : State) : Runs (ofExcept q : Build α) s r [] s := by
  subst h
  exact ⟨from_ofExcept, by simp⟩

theorem runs_emit (e : Event) (s : State) : Runs (emit e) s (.ok ()) [e] (s.writing [e]) :=
  ⟨rfl, rfl⟩

theorem runs_get (s : State) : Runs (get : Build State) s (.ok s) [] s := ⟨rfl, by simp⟩

/-- A step that begins with a look at the state runs as it does with that state. -/
theorem runs_get_bind {g : State → Build α} :
    (get >>= g : Build α).Runs s r es t ↔ (g s).Runs s r es t :=
  ⟨fun h => ⟨h.from_eq, h.trace_eq⟩, fun h => ⟨h.from_eq, h.trace_eq⟩⟩

/-- What a body does that may raise an error depends on nothing else. -/
theorem raise_eq (r? : Option Raise) (v : Value) :
    raise r? v = pure () ∨ ∃ f, raise r? v = throw f := by
  cases r? with
  | none => exact .inl rfl
  | some e =>
    simp only [raise]
    split
    · exact .inr ⟨_, rfl⟩
    · exact .inl rfl

/-- What a body that may raise an error comes to depends on its first value alone. -/
theorem runs_raise_for (r? : Option Raise) (v : Value) :
    ∃ r, RaisesFor r? v r ∧ ∀ s, Runs (raise r? v) s r [] s := by
  cases r? with
  | none => exact ⟨.ok (), by simp [RaisesFor], runs_pure ()⟩
  | some e =>
    cases ha : e.applies v with
    | false =>
      refine ⟨.ok (), by simpa [RaisesFor] using ha, fun s => ?_⟩
      simpa [raise, ha] using runs_pure () s
    | true =>
      refine ⟨.error e.failure, ⟨e, rfl, ha, rfl⟩, fun s => ?_⟩
      simpa [raise, ha, Raise.failure] using runs_throw e.failure s

theorem runs_raise (r? : Option Raise) (v : Value) (s : State) :
    ∃ r, Runs (raise r? v) s r [] s := by
  obtain ⟨r, -, h⟩ := runs_raise_for r? v
  exact ⟨r, h s⟩

theorem Runs.bind (h : b.Runs s (.ok a) es t) (k : (g a).Runs t p fs u) :
    Runs (b >>= g) s p (es ++ fs) u := by
  refine ⟨?_, ?_⟩
  · rw [from_bind, h.from_eq]
    exact k.from_eq
  · rw [k.trace_eq, h.trace_eq, List.append_assoc]

theorem Runs.bind_error (h : b.Runs s (.error f) es t) : Runs (b >>= g) s (.error f) es t := by
  refine ⟨?_, h.trace_eq⟩
  rw [from_bind, h.from_eq]

/-- A step that only looks at the state or at a value hands it on. -/
theorem Runs.bind_silent (h : b.Runs s (.ok a) [] s) (k : (g a).Runs s p es t) :
    Runs (b >>= g) s p es t := h.bind k

/-- After a step comes one that writes nothing. -/
theorem Runs.then_silent (h : b.Runs s (.ok a) es t) (k : (g a).Runs t p [] u) :
    Runs (b >>= g) s p es u := by
  have hr := h.bind k
  rwa [List.append_nil] at hr

theorem Runs.wrapping (wrap : Failure → Failure) (h : b.Runs s r es t) :
    Runs (wrapping wrap b) s (r.mapError wrap) es t := by
  refine ⟨?_, h.trace_eq⟩
  rw [from_wrapping, h.from_eq]

/-- A step returns with its failures told in another way exactly if it returns. -/
theorem runs_wrapping_ok {wrap : Failure → Failure} :
    (Build.wrapping wrap b).Runs s (.ok a) es t ↔ b.Runs s (.ok a) es t := by
  refine ⟨fun h => ⟨?_, h.trace_eq⟩, fun h => h.wrapping wrap⟩
  have he := h.from_eq
  rw [from_wrapping] at he
  rcases hb : b.from s with ⟨r, u⟩
  rw [hb] at he
  obtain ⟨hr, rfl⟩ := Prod.mk.inj he
  cases r with
  | error f => cases hr
  | ok a' =>
    cases hr
    rfl

theorem Runs.outcome (h : b.Runs s r es t) : Runs (outcome b) s (.ok r) es t := by
  refine ⟨?_, h.trace_eq⟩
  rw [from_outcome, h.from_eq]

theorem Runs.onlyWrites (h : b.Runs s r [] s) : b.OnlyWrites s r [] := by
  simpa [OnlyWrites] using h

theorem OnlyWrites.bind (h : b.OnlyWrites s (.ok a) es)
    (k : (g a).OnlyWrites (s.writing es) p fs) : OnlyWrites (b >>= g) s p (es ++ fs) := by
  have hr := Runs.bind h k
  rwa [← State.writing_append] at hr

theorem OnlyWrites.bind_error (h : b.OnlyWrites s (.error f) es) :
    OnlyWrites (b >>= g) s (.error f) es := Runs.bind_error h

/-- All steps run, or those before the first one that fails. -/
theorem runsEach_or_fails (hw : ∀ i, (step i).Writes) (is : List ι) (s : State) :
    (∃ as es t, RunsEach step is s as es t) ∨
    ∃ pre i post as es t f fs u, is = pre ++ i :: post ∧ RunsEach step pre s as es t ∧
      (step i).Runs t (.error f) fs u := by
  induction is generalizing s with
  | nil => exact .inl ⟨[], [], s, .nil s⟩
  | cons i is ih =>
    obtain ⟨r, es, t, h⟩ := hw i s
    cases r with
    | error f => exact .inr ⟨[], i, is, [], [], s, f, es, t, rfl, .nil s, h⟩
    | ok a =>
      obtain ⟨as, fs, u, hr⟩ | ⟨pre, j, post, as, fs, u, f, gs, x, rfl, hr, hj⟩ := ih t
      · exact .inl ⟨a :: as, es ++ fs, u, .cons h hr⟩
      · exact .inr ⟨i :: pre, j, post, a :: as, es ++ fs, u, f, gs, x, rfl, .cons h hr, hj⟩

end Build

end ComponentAssembly
