import ComponentAssembly.Proofs.Completing

/-! The life of an instance: it is constructed, set, prepared and checked, in this order. -/

namespace ComponentAssembly

open Build Markup

variable {w : World} {c : ClassRef} {node : Element} {excluded? : Option String} {number : Nat}
  {v : Value} {s t u x : State} {r : Except Failure Value} {cs es fs gs : List Event}
  {name : String} {names : List String} {built : Prop}

/-- The instance that an event is about. -/
def Event.subject? : Event → Option Nat
  | .constructed _ number _ | .prepared number _ | .checked number _ | .settingsHandled number _ =>
    some number
  | .set number? _ _ => number?
  | _ => none

/-- The events about an instance. -/
def eventsAbout (number : Nat) (es : List Event) : List Event :=
  es.filter fun e => e.subject? = some number

/-- Events that are about this instance or about none. -/
def OnlyAbout (number : Nat) (es : List Event) : Prop :=
  ∀ e ∈ es, e.subject? = none ∨ e.subject? = some number

/-- Events that are about no instance. -/
def AboutNone (es : List Event) : Prop := ∀ e ∈ es, e.subject? = none

/-- Whether a setter is called on an instance that it knows. -/
def Setter.isMethod (m : Setter) : Bool :=
  match m.attachment with
  | .method => true
  | _ => false

/-- Whether the instances of a class have a setter of that name that is a method. -/
def World.hasMethod (w : World) (c : ClassRef) (name : String) : Bool :=
  match w.member? c name with
  | some (.setter m) => m.isMethod
  | _ => false

/-- How the life of an instance ends: it is prepared, and if that returns, it is checked. Once it is
built, this was done just as its class asks for. -/
structure Ending (w : World) (c : ClassRef) (number : Nat) (built : Prop)
    (prepared checked : List Event) : Prop where
  preparedOnce : prepared = [] ∨ prepared = [.prepared number (.map [])]
  checkedOnce : checked = [] ∨ checked = [.checked number .strict]
  returned : checked ≠ [] → ∀ s, (w.prepare c number (.map [])).OnlyWrites s (.ok ()) prepared
  whole : built →
    prepared = (if w.isInitializable c then w.preparation c number (.map []) else []) ∧
    checked = (if w.isInitializable c then w.checking c number .strict else [])

/-- The events about an instance that is built from a section. It is constructed. Then its methods
are called for first parameters of the section, in document order, and for all of them once it is
built. Then its life ends. -/
inductive Life (w : World) (c : ClassRef) (node : Element) (excluded? : Option String)
    (number : Nat) (built : Prop) : List Event → Prop
  | mk {first : Value} {begun : List Element} {sets prepared checked : List Event}
      (begins : begun <+: parameterNodes node excluded?)
      (methods : List.Forall₂ (fun name e => ∃ v, e = .set (some number) name v)
        ((setterNames begun).filter (w.hasMethod c)) sets)
      (whole : built → begun = parameterNodes node excluded?)
      (ending : Ending w c number built prepared checked) :
      Life w c node excluded? number built
        (.constructed c.name number first :: (sets ++ (prepared ++ checked)))

/-- What building from a section leaves behind: no instance and no event about one, or one more
instance and the events of its life. -/
inductive Lives (w : World) (node : Element) (excluded? : Option String) (s : State)
    (built : Prop) (es : List Event) (t : State) : Prop
  | nobody (same : t.classes = s.classes) (silent : AboutNone es)
  | one (c : ClassRef) (added : t.classes = s.classes ++ [c])
      (only : OnlyAbout s.classes.length es)
      (life : Life w c node excluded? s.classes.length built (eventsAbout s.classes.length es))

theorem eventsAbout_append (number : Nat) (es fs : List Event) :
    eventsAbout number (es ++ fs) = eventsAbout number es ++ eventsAbout number fs :=
  List.filter_append ..

theorem AboutNone.nil (h : AboutNone es) (number : Nat) : eventsAbout number es = [] := by
  rw [eventsAbout, List.filter_eq_nil_iff]
  intro e he
  simp [h e he]

theorem AboutNone.only (h : AboutNone es) (number : Nat) : OnlyAbout number es :=
  fun e he => .inl (h e he)

theorem AboutNone.append (h : AboutNone es) (k : AboutNone fs) : AboutNone (es ++ fs) := by
  intro e he
  exact (List.mem_append.1 he).elim (h e) (k e)

theorem OnlyAbout.append (h : OnlyAbout number es) (k : OnlyAbout number fs) :
    OnlyAbout number (es ++ fs) := by
  intro e he
  exact (List.mem_append.1 he).elim (h e) (k e)

theorem AtMostCall.aboutNone (h : AtMostCall cs) : AboutNone cs := by
  rcases h with rfl | ⟨name, first, rfl⟩ <;> simp [AboutNone, Event.subject?]

theorem OnlyLogs.aboutNone (h : OnlyLogs es) : AboutNone es := by
  intro e he
  obtain ⟨policy, text, rfl⟩ := h e he
  rfl

theorem onlyAbout_constructing (s : State) (c : ClassRef) (first : Value) :
    OnlyAbout s.instances.length [s.constructing c first] := by
  simp [OnlyAbout, State.constructing, Event.subject?]

theorem eventsAbout_constructing (s : State) (c : ClassRef) (first : Value) :
    eventsAbout s.instances.length [s.constructing c first] =
      [.constructed c.name s.instances.length first] := by
  simp [eventsAbout, State.constructing, Event.subject?]

theorem instance?_object (m : Setter) (number : Nat) :
    m.instance? (.object number) = if m.isMethod then some number else none := by
  unfold Setter.instance? Setter.isMethod
  cases m.attachment <;> rfl

theorem instance?_plain (m : Setter) (h : v.isPlain = true) : m.instance? v = none := by
  unfold Setter.instance?
  cases v with
  | object number => simp [Value.isPlain] at h
  | _ => simp

theorem knownBy?_object (h : s.classOf? (.object number) = some c) :
    w.knownBy? s (.object number) name = if w.hasMethod c name then some number else none := by
  unfold World.knownBy? World.setter? World.hasMethod
  rw [h, Option.bind_some]
  cases w.member? c name with
  | none => rfl
  | some m =>
    cases m with
    | setter m => exact instance?_object m number
    | _ => rfl

theorem knownBy?_plain (h : v.isPlain = true) : w.knownBy? s v name = none := by
  unfold World.knownBy?
  cases w.setter? s v name with
  | none => rfl
  | some m => exact instance?_plain m h

/-- Setting what is no instance is about none. -/
theorem begin_plain (hv : v.isPlain = true) (h : w.Begin s v names es) : AboutNone es := by
  induction h with
  | nil => simp [AboutNone]
  | @cons name e names es he _ ih =>
    obtain ⟨x, rfl⟩ := he
    have hs : AboutNone [.set (w.knownBy? s v name) name x] := by
      simp [AboutNone, Event.subject?, knownBy?_plain hv]
    exact hs.append ih

/-- Setting an instance is about it where its methods are called. -/
theorem begin_object (hc : s.classOf? (.object number) = some c)
    (h : w.Begin s (.object number) names es) :
    OnlyAbout number es ∧ List.Forall₂ (fun name e => ∃ v, e = .set (some number) name v)
      (names.filter (w.hasMethod c)) (eventsAbout number es) := by
  induction h with
  | nil => exact ⟨by simp [OnlyAbout], .nil⟩
  | @cons name e names es he _ ih =>
    obtain ⟨x, rfl⟩ := he
    rw [knownBy?_object hc]
    by_cases hm : w.hasMethod c name = true
    · have ho : OnlyAbout number [.set (some number) name x] := by
        simp [OnlyAbout, Event.subject?]
      refine ⟨by simpa [hm] using ho.append ih.1, ?_⟩
      simp only [hm, if_true, List.filter_cons, eventsAbout, Event.subject?, decide_true]
      exact .cons ⟨x, rfl⟩ ih.2
    · have ho : OnlyAbout number [.set none name x] := by simp [OnlyAbout, Event.subject?]
      refine ⟨by simpa [hm] using ho.append ih.1, ?_⟩
      simpa [hm, eventsAbout, Event.subject?] using ih.2

theorem ending_early (w : World) (c : ClassRef) (number : Nat) (h : ¬ built) :
    Ending w c number built [] [] :=
  ⟨.inl rfl, .inl rfl, fun hc => absurd rfl hc, fun hb => absurd hb h⟩

theorem Ending.imp {other : Prop} {prepared checked : List Event}
    (h : Ending w c number built prepared checked) (k : other → built) :
    Ending w c number other prepared checked :=
  ⟨h.preparedOnce, h.checkedOnce, h.returned, fun ho => h.whole (k ho)⟩

theorem eventsAbout_preparation (w : World) (c : ClassRef) (number : Nat) (settings : Value) :
    eventsAbout number (w.preparation c number settings) = w.preparation c number settings := by
  rcases preparation_eq w c number settings with h | h <;> simp [h, eventsAbout, Event.subject?]

theorem eventsAbout_checking (w : World) (c : ClassRef) (number : Nat) (policy : Policy) :
    eventsAbout number (w.checking c number policy) = w.checking c number policy := by
  rcases checking_eq w c number policy with h | h <;> simp [h, eventsAbout, Event.subject?]

theorem onlyAbout_preparation (w : World) (c : ClassRef) (number : Nat) (settings : Value) :
    OnlyAbout number (w.preparation c number settings) := by
  rcases preparation_eq w c number settings with h | h <;> simp [h, OnlyAbout, Event.subject?]

theorem onlyAbout_checking (w : World) (c : ClassRef) (number : Nat) (policy : Policy) :
    OnlyAbout number (w.checking c number policy) := by
  rcases checking_eq w c number policy with h | h <;> simp [h, OnlyAbout, Event.subject?]

/-- Activating an instance ends its life as its class asks for. -/
theorem activates_object {q : Except Failure Unit} (hc : s.classOf? (.object number) = some c)
    (h : Activates w s (.object number) q gs) :
    OnlyAbout number gs ∧ ∃ prepared checked, eventsAbout number gs = prepared ++ checked ∧
      Ending w c number (q = .ok ()) prepared checked := by
  cases h with
  | passed indifferent =>
    have hi : w.isInitializable c = false := indifferent number c rfl hc
    refine ⟨by simp [OnlyAbout], [], [], rfl, .inl rfl, .inl rfl, fun h => absurd rfl h, ?_⟩
    simp [hi]
  | @unprepared d n f g target known wanted prepared =>
    obtain rfl := Value.object.inj target
    obtain rfl := Option.some.inj (hc.symm.trans known)
    refine ⟨onlyAbout_preparation w c number _, w.preparation c number (.map []), [], ?_,
      preparation_eq w c number _, .inl rfl, fun h => absurd rfl h, fun h => by cases h⟩
    rw [eventsAbout_preparation, List.append_nil]
  | @checked d n r logs target known wanted prepared only =>
    obtain rfl := Value.object.inj target
    obtain rfl := Option.some.inj (hc.symm.trans known)
    have hl := only.aboutNone
    have hend := (onlyAbout_checking w c number .strict).append (hl.only number)
    refine ⟨(onlyAbout_preparation w c number _).append hend, w.preparation c number (.map []),
      w.checking c number .strict, ?_, preparation_eq w c number _,
      checking_eq w c number .strict, fun _ => prepare_returns prepared, fun _ => by simp [wanted]⟩
    rw [eventsAbout_append, eventsAbout_append, eventsAbout_preparation, eventsAbout_checking,
      hl.nil, List.append_nil]

theorem activates_plain {q : Except Failure Unit} (hv : v.isPlain = true)
    (h : Activates w s v q gs) : gs = [] := by
  cases h with
  | passed => rfl
  | unprepared target | checked target => simp [target, Value.isPlain] at hv

/-- An instance that is made and then set, and then activated or not, has its life. -/
theorem lives_of_made {q : Except Failure Settings} (hcs : AtMostCall cs)
    (hm : Makes s cs (.ok v) es t) (hs : SetsFirst w v node excluded? t q fs u)
    (plain : v.isPlain = true → gs = [])
    (ends : ∀ number c, v = .object number → u.classOf? v = some c →
      OnlyAbout number gs ∧ ∃ prepared checked, eventsAbout number gs = prepared ++ checked ∧
        Ending w c number built prepared checked)
    (all : built → ∃ record, q = .ok record) (hx : x.classes = u.classes) :
    Lives w node excluded? s built (es ++ (fs ++ gs)) x := by
  obtain ⟨hclasses, begun, hbegun, hb, hwhole⟩ := hs
  cases hm with
  | nothing adopted hp =>
    have hv := hp v rfl
    have hn : gs = [] := plain hv
    subst hn
    have hf : AboutNone (fs ++ []) := (begin_plain hv hb).append (by simp [AboutNone])
    exact .nobody (hx.trans hclasses) (hcs.aboutNone.append hf)
  | one adopted c first given =>
    obtain rfl : v = .object s.instances.length := given v rfl
    have hu : u.classes = s.classes ++ [c] := by rw [hclasses]; simp [State.classes, State.adding]
    have hlen := s.length_classes
    have hcu : u.classOf? (.object s.instances.length) = some c := by
      rw [State.classOf?_object, hu, ← hlen]
      simp
    have hct := State.classOf?_of_classes hclasses (.object s.instances.length)
    rw [hcu] at hct
    obtain ⟨hfo, hff⟩ := begin_object hct.symm hb
    obtain ⟨hgo, prepared, checked, hg, he⟩ := ends s.instances.length c rfl hcu
    have hko := onlyAbout_constructing s c first
    refine .one c (hx.trans hu) ?_ ?_
    · rw [hlen]
      exact ((hcs.aboutNone.only _).append hko).append (hfo.append hgo)
    · have hlife : Life w c node excluded? s.instances.length built
          (.constructed c.name s.instances.length first ::
            (eventsAbout s.instances.length fs ++ (prepared ++ checked))) :=
        .mk hbegun hff (fun hd => hwhole (all hd)) he
      rw [hlen, eventsAbout_append, eventsAbout_append, eventsAbout_append, hcs.aboutNone.nil,
        eventsAbout_constructing, hg]
      exact hlife

theorem lives_of_unmade {f : Failure} (hcs : AtMostCall cs) (hm : Makes s cs (.error f) es t)
    (hb : ¬ built) : Lives w node excluded? s built es t := by
  cases hm with
  | nothing => exact .nobody rfl hcs.aboutNone
  | one adopted c first given =>
    have hlen := s.length_classes
    have hko := onlyAbout_constructing s c first
    have hlife : Life w c node excluded? s.instances.length built
        [.constructed c.name s.instances.length first] :=
      .mk List.nil_prefix .nil (fun hd => absurd hd hb) (ending_early w c _ hb)
    refine .one c (by simp [State.classes, State.adding]) ?_ ?_
    · rw [hlen]
      exact (hcs.aboutNone.only _).append hko
    · rw [hlen, eventsAbout_append, hcs.aboutNone.nil, eventsAbout_constructing]
      exact hlife

/-- Completing a component leaves behind one life, or none. -/
theorem Completes.lives {misfit : Misfit → Failure} {wrap : Failure → Failure} {f : Factory}
    {arguments : List Value}
    (h : Completes w (w.makeChecked misfit wrap f arguments) node excluded? s r es t) :
    Lives w node excluded? s (∃ v, r = .ok v) es t := by
  obtain ⟨cs, q, es, t, hcs, hr, hm⟩ := makeChecked_makes w misfit wrap f arguments s
  cases h with
  | unmade made =>
    obtain ⟨rfl, rfl, rfl⟩ := hr.unique made
    exact lives_of_unmade hcs hm (by simp)
  | @unset v g _ fs _ u made set =>
    obtain ⟨rfl, rfl, rfl⟩ := hr.unique made
    rw [← List.append_nil fs]
    refine lives_of_made hcs hm (.of_runs set) (fun _ => rfl) ?_ (by simp) rfl
    exact fun n c _ _ => ⟨by simp [OnlyAbout], [], [], rfl, ending_early w c n (by simp)⟩
  | @activated v record q _ fs gs _ u x made set active =>
    obtain ⟨rfl, rfl, rfl⟩ := hr.unique made
    obtain ⟨rfl, ha⟩ := Activates.of_runs active
    have hq : (∃ x, q.map (fun _ => v) = .ok x) → q = .ok () := by
      cases q <;> simp [Except.map]
    refine lives_of_made hcs hm (.of_runs set) (fun hv => activates_plain hv ha) ?_
      (fun _ => ⟨record, rfl⟩) rfl
    rintro n c rfl hc
    obtain ⟨ho, prepared, checked, hg, he⟩ := activates_object hc ha
    exact ⟨ho, prepared, checked, hg, he.imp hq⟩

end ComponentAssembly
