import ComponentAssembly.Build.Construction
import ComponentAssembly.Proofs.Run

/-! Making an instance: at most one is added, and it is the one that is given. -/

namespace ComponentAssembly

open Build

variable {w : World} {c : ClassRef} {s t : State} {r : Except Failure Value}
  {es cs : List Event} {wrap : Failure → Failure}

/-- The state with one more instance, which remembers nothing yet. -/
def State.adding (s : State) (c : ClassRef) : State :=
  { s with instances := s.instances ++ [⟨c, []⟩] }

/-- The event of the constructor of the next instance. -/
def State.constructing (s : State) (c : ClassRef) (first : Value) : Event :=
  .constructed c.name s.instances.length first

/-- What making an instance can come to once these calls of functions have begun: none is added, and
what is given is none; or one is added, and nothing else is given. A class may have taken over a
constructor on the way. -/
inductive Makes (s : State) (cs : List Event) : Except Failure Value → List Event → State → Prop
  | nothing {r : Except Failure Value} (adopted : Adoptions)
      (plain : ∀ v, r = .ok v → v.isPlain = true) :
      Makes s cs r cs ((s.writing cs).adopting adopted)
  | one {r : Except Failure Value} (adopted : Adoptions) (c : ClassRef) (first : Value)
      (given : ∀ v, r = .ok v → v = .object s.instances.length) :
      Makes s cs r (cs ++ [s.constructing c first])
        (((s.adding c).writing (cs ++ [s.constructing c first])).adopting adopted)

/-- At most one function is called. -/
def AtMostCall (cs : List Event) : Prop := cs = [] ∨ ∃ name first, cs = [.called name first]

theorem Makes.unchanged (plain : ∀ v, r = .ok v → v.isPlain = true) : Makes s [] r [] s := by
  have h : Makes s [] r [] ((s.writing []).adopting s.adopted) := .nothing s.adopted plain
  simpa using h

theorem Makes.after (h : Makes (s.writing cs) [] r es t) : Makes s cs r (cs ++ es) t := by
  cases h with
  | nothing adopted plain =>
    have h : Makes s cs r cs ((s.writing cs).adopting adopted) := .nothing adopted plain
    simpa using h
  | one adopted c first given =>
    have h : Makes s cs r _ _ := .one adopted c first given
    simpa [State.writing, State.adding, State.constructing, State.adopting] using h

theorem Makes.mapError (h : Makes s cs r es t) : Makes s cs (r.mapError wrap) es t := by
  have ok_of_mapError {v : Value} (hv : r.mapError wrap = .ok v) : r = .ok v := by
    cases r with
    | error f => cases hv
    | ok v => exact hv
  cases h with
  | nothing adopted plain => exact .nothing adopted fun v hv => plain v (ok_of_mapError hv)
  | one adopted c first given => exact .one adopted c first fun v hv => given v (ok_of_mapError hv)

/-- A class either has no instances of its own, or constructing them goes on. -/
theorem refuseInstances_eq (w : World) (adopted : Adoptions) (c : ClassRef) :
    w.refuseInstances adopted c = pure () ∨ ∃ f, w.refuseInstances adopted c = throw f := by
  simp only [World.refuseInstances]
  split
  · exact .inr ⟨_, rfl⟩
  · split
    · exact .inr ⟨_, rfl⟩
    · exact .inl rfl

theorem runs_adopt (adopted : Adoptions) (s : State) :
    (adopt adopted).Runs s (.ok ()) [] (s.adopting adopted) :=
  ⟨rfl, by simp⟩

/-- The values of a call are received if they are bound to the parameters, else the call is refused. -/
theorem received_cases (ps : List Param) (arguments : List Value) (s : State) :
    (∃ bound, bind ps arguments = .ok bound ∧ (received ps arguments).Runs s (.ok bound) [] s) ∨
      ∃ m f, bind ps arguments = .error m ∧ (received ps arguments).Runs s (.error f) [] s := by
  unfold received
  cases hb : bind ps arguments with
  | ok bound => exact .inl ⟨bound, rfl, runs_pure _ s⟩
  | error m => exact .inr ⟨m, _, rfl, runs_throw _ s⟩

/-- The state in which an instance of a class is constructed with this first value. -/
def State.constructed (s : State) (w : World) (n : DottedName) (first : Value) : State :=
  ((s.adding (.own n)).writing [s.constructing (.own n) first]).adopting (w.adopting s.adopted n)

/-- Once its values are received, a constructor begins. -/
theorem construct_of_bind {n : DottedName} {arguments bound : List Value}
    (hr : w.refuseInstances s.adopted (.own n) = pure ())
    (hb : bind (w.constructor s.adopted (.own n)).params arguments = .ok bound) :
    ∃ r, (w.construct (.own n) arguments).Runs s r [s.constructing (.own n) (firstValue bound)]
        (s.constructed w n (firstValue bound)) ∧ ∀ v, r = .ok v → v = .object s.instances.length := by
  have hc : (received (w.constructor s.adopted (.own n)).params arguments) = pure bound := by
    rw [received, hb]
  simp only [World.construct, runs_get_bind, hr, hc, pure_bind]
  have hal : (allocate (.own n)).Runs (s.adopting (w.adopting s.adopted n))
      (.ok s.instances.length) [] ((s.adding (.own n)).adopting (w.adopting s.adopted n)) :=
    ⟨from_allocate, by simp [State.adding]⟩
  have he := runs_emit (s.constructing (.own n) (firstValue bound))
    ((s.adding (.own n)).adopting (w.adopting s.adopted n))
  obtain ⟨r, hx⟩ := runs_raise (w.constructor s.adopted (.own n)).raises? (firstValue bound)
    (s.constructed w n (firstValue bound))
  cases r with
  | error f => exact ⟨_, (runs_adopt _ s).bind (hal.bind (he.bind hx.bind_error)), by simp⟩
  | ok =>
    exact ⟨_, (runs_adopt _ s).bind (hal.bind (he.bind (hx.bind_silent (runs_pure _ _)))),
      by simp⟩

/-- A call that a constructor refuses begins nothing, but the constructor is taken over. -/
theorem construct_of_misfit {n : DottedName} {arguments : List Value} {m : Misfit}
    (hr : w.refuseInstances s.adopted (.own n) = pure ())
    (hb : bind (w.constructor s.adopted (.own n)).params arguments = .error m) :
    (w.construct (.own n) arguments).Runs s
      (.error (.noCall (.refused (refusal (w.constructor s.adopted (.own n)).params arguments)))) []
      (s.adopting (w.adopting s.adopted n)) := by
  simp only [World.construct, runs_get_bind, hr, received, hb, pure_bind]
  exact (runs_adopt _ s).bind (runs_throw _ _).bind_error

theorem construct_of_refused {c : ClassRef} {f : Failure}
    (hr : w.refuseInstances s.adopted c = throw f) (arguments : List Value) :
    (w.construct c arguments).Runs s (.error f) [] s := by
  simp only [World.construct, runs_get_bind, hr]
  exact (runs_throw f s).bind_error

/-- What constructing an instance can come to: no body begins, and only an instance of a predefined
class is given; or the constructor of the next instance begins, and nothing else is given. -/
theorem construct_cases (w : World) (c : ClassRef) (arguments : List Value) (s : State) :
    (∃ r adopted, (w.construct c arguments).Runs s r [] (s.adopting adopted) ∧
      ∀ v, r = .ok v → ∃ p, c = .predefined p ∧ v = .plain p) ∨
    ∃ r first adopted, (w.construct c arguments).Runs s r [s.constructing c first]
        (((s.adding c).writing [s.constructing c first]).adopting adopted) ∧
      ∀ v, r = .ok v → v = .object s.instances.length := by
  obtain hr | ⟨f, hr⟩ := refuseInstances_eq w s.adopted c
  · cases c with
    | predefined p =>
      refine .inl ⟨if arguments.isEmpty then .ok (.plain p) else
        .error (.noCall (.takesNothing (ClassRef.predefined p).name)), s.adopted, ?_, ?_⟩
      · simp only [World.construct, runs_get_bind, hr, pure_bind]
        cases arguments with
        | nil => exact runs_pure _ s
        | cons v vs => exact runs_throw _ s
      · cases arguments <;> simp
    | own n =>
      cases hb : bind (w.constructor s.adopted (.own n)).params arguments with
      | ok bound =>
        obtain ⟨r, hk, hg⟩ := construct_of_bind hr hb
        exact .inr ⟨r, firstValue bound, _, hk, hg⟩
      | error m => exact .inl ⟨_, _, construct_of_misfit hr hb, by simp⟩
  · exact .inl ⟨_, s.adopted, construct_of_refused hr arguments, by simp⟩

theorem construct_makes (w : World) (c : ClassRef) (arguments : List Value) (s : State) :
    ∃ r es t, (w.construct c arguments).Runs s r es t ∧ Makes s [] r es t := by
  obtain ⟨r, adopted, hr, hp⟩ | ⟨r, first, adopted, hr, hg⟩ := construct_cases w c arguments s
  · have hm : Makes s [] r [] ((s.writing []).adopting adopted) := .nothing adopted fun v hv => by
      obtain ⟨p, -, rfl⟩ := hp v hv
      rfl
    exact ⟨r, [], _, hr, by simpa using hm⟩
  · exact ⟨r, _, _, hr, .one adopted c first hg⟩

/-- What calling a function comes to once its values are received: its body begins and gives no
instance; or it begins and then constructs an instance. -/
theorem callFunction_of_received {f : FunctionDecl} {arguments bound : List Value}
    (hb : (received f.params arguments).Runs s (.ok bound) [] s) :
    (∃ r, (w.callFunction f arguments).Runs s r [.called f.name.name (firstValue bound)]
        (s.writing [.called f.name.name (firstValue bound)]) ∧ ∀ v, r = .ok v → v.isPlain = true) ∨
    ∃ c passing passed r es t, f.outcome = .creates c passing ∧
      (w.construct c passed).Runs (s.writing [.called f.name.name (firstValue bound)]) r es t ∧
      (w.callFunction f arguments).Runs s r
        ([.called f.name.name (firstValue bound)] ++ es) t := by
  unfold World.callFunction
  have he := runs_emit (.called f.name.name (firstValue bound)) s
  obtain ⟨r, hx⟩ := runs_raise f.raises? (firstValue bound)
    (s.writing [.called f.name.name (firstValue bound)])
  cases r with
  | error g => exact .inl ⟨_, hb.bind_silent (he.bind hx.bind_error), by simp⟩
  | ok =>
    cases ho : f.outcome with
    | gives v =>
      refine .inl ⟨_, hb.bind_silent (he.bind (hx.bind_silent (runs_pure _ _))), ?_⟩
      intro u hu
      simpa [← Except.ok.inj hu] using v.plain
    | creates c passing =>
      obtain ⟨r, es, t, hk, -⟩ := construct_makes w c
        (if passing then positionalValues f.params bound else [])
        (s.writing [.called f.name.name (firstValue bound)])
      exact .inr ⟨c, passing, _, r, es, t, rfl, hk,
        hb.bind_silent (he.bind (hx.bind_silent hk))⟩

/-- What calling a function can come to: its body does not begin; or it begins and gives no instance;
or it begins and then constructs an instance. -/
theorem callFunction_cases (w : World) (f : FunctionDecl) (arguments : List Value) (s : State) :
    (∃ g, (w.callFunction f arguments).Runs s (.error g) [] s) ∨
    (∃ r first, (w.callFunction f arguments).Runs s r [.called f.name.name first]
        (s.writing [.called f.name.name first]) ∧ ∀ v, r = .ok v → v.isPlain = true) ∨
    ∃ c passing first passed r es t, f.outcome = .creates c passing ∧
      (w.construct c passed).Runs (s.writing [.called f.name.name first]) r es t ∧
      (w.callFunction f arguments).Runs s r ([.called f.name.name first] ++ es) t := by
  obtain ⟨bound, -, hb⟩ | ⟨m, g, -, hb⟩ := received_cases f.params arguments s
  · obtain ⟨r, hr, hp⟩ | ⟨c, passing, passed, r, es, t, ho, hk, hr⟩ := callFunction_of_received hb
    · exact .inr (.inl ⟨r, _, hr, hp⟩)
    · exact .inr (.inr ⟨c, passing, _, passed, r, es, t, ho, hk, hr⟩)
  · unfold World.callFunction
    exact .inl ⟨g, hb.bind_error⟩

theorem construct_makes_of_runs {c : ClassRef} {arguments : List Value}
    (h : (w.construct c arguments).Runs s r es t) : Makes s [] r es t := by
  obtain ⟨q, fs, u, hr, hm⟩ := construct_makes w c arguments s
  obtain ⟨rfl, rfl, rfl⟩ := h.unique hr
  exact hm

theorem callFunction_makes (w : World) (f : FunctionDecl) (arguments : List Value) (s : State) :
    ∃ cs r es t, AtMostCall cs ∧ (w.callFunction f arguments).Runs s r es t ∧
      Makes s cs r es t := by
  obtain ⟨g, hr⟩ | ⟨r, first, hr, hp⟩ | ⟨c, passing, first, passed, r, es, t, -, hk, hr⟩ :=
    callFunction_cases w f arguments s
  · exact ⟨[], _, [], s, .inl rfl, hr, .unchanged (by simp)⟩
  · exact ⟨_, r, _, _, .inr ⟨_, first, rfl⟩, hr, .nothing s.adopted hp⟩
  · exact ⟨_, r, _, t, .inr ⟨_, first, rfl⟩, hr, (construct_makes_of_runs hk).after⟩

/-- Making an instance calls at most one function and adds at most one instance. -/
theorem make_makes (w : World) (factory : Factory) (arguments : List Value) (s : State) :
    ∃ cs r es t, AtMostCall cs ∧ (w.make factory arguments).Runs s r es t ∧
      Makes s cs r es t := by
  cases factory with
  | cls c =>
    obtain ⟨r, es, t, hr, hm⟩ := construct_makes w c arguments s
    exact ⟨[], r, es, t, .inl rfl, hr, hm⟩
  | function f => exact callFunction_makes w f arguments s

theorem makeChecked_makes (w : World) (misfit : Misfit → Failure) (wrap : Failure → Failure)
    (factory : Factory) (arguments : List Value) (s : State) :
    ∃ cs r es t, AtMostCall cs ∧ (w.makeChecked misfit wrap factory arguments).Runs s r es t ∧
      Makes s cs r es t := by
  simp only [World.makeChecked, runs_get_bind]
  split
  · exact ⟨[], _, [], s, .inl rfl, runs_throw _ s, .unchanged (by simp)⟩
  · obtain ⟨cs, r, es, t, hc, hr, hm⟩ := make_makes w factory arguments s
    exact ⟨cs, _, es, t, hc, hr.wrapping wrap, hm.mapError⟩

theorem makeChecked_writes (w : World) (misfit : Misfit → Failure) (wrap : Failure → Failure)
    (factory : Factory) (arguments : List Value) :
    (w.makeChecked misfit wrap factory arguments).Writes := by
  intro s
  obtain ⟨cs, r, es, t, -, hr, -⟩ := makeChecked_makes w misfit wrap factory arguments s
  exact ⟨r, es, t, hr⟩

end ComponentAssembly
