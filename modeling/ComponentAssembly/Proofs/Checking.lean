import ComponentAssembly.Build.Activation
import ComponentAssembly.Proofs.Assigning
import ComponentAssembly.Proofs.Reading

/-! What the two calls of the lifecycle come to: preparing an instance with the empty map, and checking
it under a policy. That either returns depends on the class and on the settings that are required. -/

namespace ComponentAssembly

open Build

variable {w : World} {c : ClassRef} {number : Nat} {name className problem : String} {v : Value}
  {m : Member} {s t : State} {r q : Except Failure Unit} {es fs : List Event} {f : Failure}
  {policy : Policy} {b : Check}

/-- The value of a member that is there in the place of a method. -/
def Member.constant? : Member → Option Value
  | .preparation .hidden | .check .hidden => some .nothing
  | .preparation (.constant v) | .check (.constant v) => some v
  | _ => none

/-- Whether a member is a method that does nothing. -/
def Member.isIdle : Member → Bool
  | .preparation _ | .check _ => false
  | _ => true

/-- What is under a name cannot be called, because it is not there or is no method. -/
inductive World.Uncallable (w : World) (s : State) (c : ClassRef) (name : String) : Failure → Prop
  | absent (missing : w.member? c name = none) : Uncallable w s c name (.noAttribute c.name name)
  | constant {m : Member} {v : Value} (found : w.member? c name = some m)
      (holds : m.constant? = some v) : Uncallable w s c name (.noCall (.notCallable (s.typeName v)))

/-- What a problem comes to that is reported under a policy. -/
inductive Policy.Reports (className problem : String) :
    Policy → Except Failure Unit → List Event → Prop
  | ignored : Reports className problem .ignore (.ok ()) []
  | logged {p : Policy} (mild : p = .info ∨ p = .warn) :
      Reports className problem p (.ok ()) [.logged p (className ++ ": " ++ problem)]
  | thrown : Reports className problem .strict (.error (.problemFound className problem)) []

/-- The settings that a check requires of an instance are made. -/
def Check.Met (b : Check) (s : State) (number : Nat) : Prop :=
  ∀ name ∈ b.required, (s.remembered (.object number) (setterName name)).isUnset = false

/-- What the body of a check comes to that is handed a policy: it raises, the first required setting
that is not made is missing, or its problem is reported under the policy or one of its own. -/
inductive Check.Ends (b : Check) (s : State) (className : String) (number : Nat) (policy : Policy) :
    Except Failure Unit → List Event → Prop
  | raised {f : Failure} (raises : RaisesFor b.raises? .nothing (.error f)) :
      Ends b s className number policy (.error f) []
  | unset {pre post : List String} {name : String} (quiet : RaisesFor b.raises? .nothing (.ok ()))
      (split : b.required = pre ++ name :: post)
      (before : ∀ p ∈ pre, (s.remembered (.object number) (setterName p)).isUnset = false)
      (missing : (s.remembered (.object number) (setterName name)).isUnset = true) :
      Ends b s className number policy (.error (.missingSetting name)) []
  | sound (quiet : RaisesFor b.raises? .nothing (.ok ())) (met : b.Met s number)
      (none : b.problem? = none) : Ends b s className number policy (.ok ()) []
  | reported {problem : String} {r : Except Failure Unit} {es : List Event}
      (quiet : RaisesFor b.raises? .nothing (.ok ())) (met : b.Met s number)
      (found : b.problem? = some problem)
      (reports : (b.policy?.getD policy).Reports className problem r es) :
      Ends b s className number policy r es

/-- What calling the method that prepares an instance comes to. It is handed some settings. -/
inductive World.Prepares (w : World) (s : State) (c : ClassRef) (number : Nat) (settings : Value) :
    Except Failure Unit → List Event → Prop
  | uncallable {f : Failure} (refused : w.Uncallable s c initializeName f) :
      Prepares w s c number settings (.error f) []
  | idle {m : Member} (found : w.member? c initializeName = some m) (idle : m.isIdle = true) :
      Prepares w s c number settings (.ok ()) []
  | body {raises? : Option Raise} {r : Except Failure Unit}
      (found : w.member? c initializeName = some (.preparation (.body raises?)))
      (ends : RaisesFor raises? settings r) :
      Prepares w s c number settings r [.prepared number settings]

/-- What calling the method that checks an instance comes to. It is handed a policy. -/
inductive World.Checks (w : World) (s : State) (c : ClassRef) (number : Nat) (policy : Policy) :
    Except Failure Unit → List Event → Prop
  | uncallable {f : Failure} (refused : w.Uncallable s c checkName f) :
      Checks w s c number policy (.error f) []
  | idle {m : Member} (found : w.member? c checkName = some m) (idle : m.isIdle = true) :
      Checks w s c number policy (.ok ()) []
  | body {b : Check} {r : Except Failure Unit} {es : List Event}
      (found : w.member? c checkName = some (.check (.body b)))
      (ends : b.Ends s c.name number policy r es) :
      Checks w s c number policy r (.checked number policy :: es)

/-! ### Each call comes to one of these -/

/-- What prepares instances stands under its own name, … -/
theorem name_of_preparation {slot : Slot (Option Raise)}
    (h : w.member? c name = some (.preparation slot)) : name = initializeName := by
  obtain hm | ⟨d, -, hd⟩ := member?_declared h
  · cases hm
  · have hs : d.setter? name = none ∧ name = initializeName ∧ d.preparation? = some slot := by
      simpa [ClassDecl.member?, Option.or_eq_some_iff] using hd
    exact hs.2.1

/-- … and so does what checks them. -/
theorem name_of_check {slot : Slot Check} (h : w.member? c name = some (.check slot)) :
    name = checkName := by
  obtain hm | ⟨d, -, hd⟩ := member?_declared h
  · cases hm
  · have hs : d.setter? name = none ∧ (name = initializeName → d.preparation? = none) ∧
        name = checkName ∧ d.check? = some slot := by
      simpa [ClassDecl.member?, Option.or_eq_some_iff] using hd
    exact hs.2.2.1

theorem report_reports (p : Policy) (className problem : String) :
    ∃ r es, p.Reports className problem r es ∧
      ∀ s, (p.report className problem).OnlyWrites s r es := by
  cases p with
  | ignore => exact ⟨_, [], .ignored, fun s => (runs_pure () s).onlyWrites⟩
  | strict => exact ⟨_, [], .thrown, fun s => (runs_throw _ s).onlyWrites⟩
  | info => exact ⟨_, _, .logged (.inl rfl), fun s => runs_emit _ s⟩
  | warn => exact ⟨_, _, .logged (.inr rfl), fun s => runs_emit _ s⟩

theorem mustBeSet_ok_iff : mustBeSet name v = .ok () ↔ v.isUnset = false := by
  unfold mustBeSet
  cases v.isUnset <;> simp

theorem met_iff : b.Met s number ↔ b.required.forM (fun name =>
    mustBeSet name (s.remembered (.object number) (setterName name))) = .ok () := by
  simp only [forM_ok_iff, mustBeSet_ok_iff, Check.Met]

theorem met_writing : b.Met (s.writing es) number ↔ b.Met s number := by simp [Check.Met]

/-- The settings that a check requires are made, or one is the first that is not. -/
theorem met_or_unset (b : Check) (s : State) (number : Nat) : b.Met s number ∨
    ∃ pre name post, b.required = pre ++ name :: post ∧
      (∀ p ∈ pre, (s.remembered (.object number) (setterName p)).isUnset = false) ∧
      (s.remembered (.object number) (setterName name)).isUnset = true := by
  by_cases h : b.Met s number
  · exact .inl h
  · have hu : ∃ name ∈ b.required,
        (s.remembered (.object number) (setterName name)).isUnset = true := by
      simpa [Check.Met] using h
    obtain ⟨pre, name, post, hr, hpre, hn⟩ := exists_first hu
    exact .inr ⟨pre, name, post, hr, by simpa using hpre, hn⟩

/-- Steps in order end with the failure of the first one that fails. -/
theorem forM_error_of_first {ε α : Type} {k : α → Except ε Unit} {pre post : List α} {x : α} {e : ε}
    (hpre : ∀ y ∈ pre, k y = .ok ()) (hx : k x = .error e) :
    (pre ++ x :: post).forM k = .error e := by
  induction pre with
  | nil =>
    show (k x >>= fun _ => post.forM k) = .error e
    rw [hx]
    rfl
  | cons y pre ih =>
    show (k y >>= fun _ => (pre ++ x :: post).forM k) = .error e
    rw [hpre y (by simp)]
    exact ih fun z hz => hpre z (by simp [hz])

theorem checkBody_ends (className : String) (number : Nat) (policy : Policy) (b : Check)
    (s : State) : ∃ r es, b.Ends s className number policy r es ∧
      (checkBody className number policy b).OnlyWrites s r (.checked number policy :: es) := by
  have he : OnlyWrites (emit (.checked number policy)) s (.ok ()) [.checked number policy] :=
    runs_emit _ s
  unfold checkBody
  obtain ⟨q, hq, hraise⟩ := runs_raise_for b.raises? .nothing
  cases q with
  | error f => exact ⟨_, [], .raised hq, he.bind (hraise _).bind_error.onlyWrites⟩
  | ok =>
    obtain hm | ⟨pre, name, post, hr, hpre, hn⟩ := met_or_unset b s number
    · have hwriting : b.Met (s.writing [.checked number policy]) number := met_writing.2 hm
      have hok := met_iff.1 hwriting
      cases hp : b.problem? with
      | none =>
        exact ⟨_, [], .sound hq hm hp, he.bind ((hraise _).bind_silent ((runs_get _).bind_silent
          ((runs_ofExcept hok _).bind_silent (runs_pure () _).onlyWrites)))⟩
      | some problem =>
        obtain ⟨r, es, hreports, hw⟩ := report_reports (b.policy?.getD policy) className problem
        exact ⟨r, es, .reported hq hm hp hreports, he.bind ((hraise _).bind_silent
          ((runs_get _).bind_silent ((runs_ofExcept hok _).bind_silent (hw _))))⟩
    · have hfails : b.required.forM (fun name => mustBeSet name
          ((s.writing [.checked number policy]).remembered (.object number) (setterName name))) =
            .error (.missingSetting name) := by
        simp only [remembered_writing, hr]
        exact forM_error_of_first (fun p hp => mustBeSet_ok_iff.2 (hpre p hp))
          (by rw [mustBeSet, if_pos hn])
      exact ⟨_, [], .unset hq hr hpre hn, he.bind ((hraise _).bind_silent
        ((runs_get _).bind_silent (runs_ofExcept hfails _).bind_error)).onlyWrites⟩

theorem prepare_prepares (w : World) (c : ClassRef) (number : Nat) (settings : Value) (s : State) :
    ∃ r es, w.Prepares s c number settings r es ∧
      (w.prepare c number settings).OnlyWrites s r es := by
  unfold World.prepare OnlyWrites
  simp only [runs_get_bind]
  cases hm : w.member? c initializeName with
  | none => exact ⟨_, [], .uncallable (.absent hm), (runs_throw _ s).onlyWrites⟩
  | some m =>
    cases m with
    | preparation slot =>
      cases slot with
      | body raises? =>
        obtain ⟨r, hr, hraise⟩ := runs_raise_for raises? settings
        exact ⟨r, _, .body hm hr, OnlyWrites.bind (runs_emit (.prepared number settings) s)
          (hraise _).onlyWrites⟩
      | hidden | constant v =>
        exact ⟨_, [], .uncallable (.constant hm rfl), (runs_throw _ s).onlyWrites⟩
    | check slot => exact absurd (name_of_check hm) (by decide)
    | setter m | settingsHook raises? | method | abstractMethod | data =>
      exact ⟨_, [], .idle hm rfl, (runs_pure () s).onlyWrites⟩

theorem check_checks (w : World) (c : ClassRef) (number : Nat) (policy : Policy) (s : State) :
    ∃ r es, w.Checks s c number policy r es ∧ (w.check c number policy).OnlyWrites s r es := by
  unfold World.check OnlyWrites
  simp only [runs_get_bind]
  cases hm : w.member? c checkName with
  | none => exact ⟨_, [], .uncallable (.absent hm), (runs_throw _ s).onlyWrites⟩
  | some m =>
    cases m with
    | check slot =>
      cases slot with
      | body b =>
        obtain ⟨r, es, he, hw⟩ := checkBody_ends c.name number policy b s
        exact ⟨r, _, .body hm he, hw⟩
      | hidden | constant v =>
        exact ⟨_, [], .uncallable (.constant hm rfl), (runs_throw _ s).onlyWrites⟩
    | preparation slot => exact absurd (name_of_preparation hm) (by decide)
    | setter m | settingsHook raises? | method | abstractMethod | data =>
      exact ⟨_, [], .idle hm rfl, (runs_pure () s).onlyWrites⟩

/-! ### Calls that return -/

theorem Member.constant?_of_isIdle (h : m.isIdle = true) : m.constant? = none := by
  cases m with
  | preparation slot | check slot => cases h
  | setter m | settingsHook raises? | method | abstractMethod | data => rfl

theorem World.Uncallable.not_found (h : w.Uncallable s c name f) (hm : m.constant? = none) :
    w.member? c name ≠ some m := by
  intro found
  cases h with
  | absent missing => cases missing.symm.trans found
  | constant other holds =>
    obtain rfl := Option.some.inj (other.symm.trans found)
    cases hm.symm.trans holds

theorem Policy.Reports.unique (h : policy.Reports className problem r es)
    (k : policy.Reports className problem q fs) : q = r ∧ fs = es := by
  cases h with
  | ignored => cases k with
    | ignored => exact ⟨rfl, rfl⟩
    | logged mild => simp at mild
  | thrown => cases k with
    | thrown => exact ⟨rfl, rfl⟩
    | logged mild => simp at mild
  | logged mild => cases k with
    | logged => exact ⟨rfl, rfl⟩
    | ignored | thrown => simp at mild

/-- Where preparing an instance returns in one state, it does so in all. -/
theorem World.Prepares.returns (h : w.Prepares s c number v (.ok ()) es)
    (k : w.Prepares t c number v r fs) : r = .ok () ∧ fs = es := by
  cases h with
  | idle found idle =>
    cases k with
    | uncallable refused =>
      exact absurd found (refused.not_found (Member.constant?_of_isIdle idle))
    | idle => exact ⟨rfl, rfl⟩
    | body body =>
      obtain rfl := Option.some.inj (found.symm.trans body)
      cases idle
  | body found ends =>
    cases k with
    | uncallable refused => exact absurd found (refused.not_found rfl)
    | idle other idle =>
      obtain rfl := Option.some.inj (found.symm.trans other)
      cases idle
    | body other raises =>
      cases Option.some.inj (found.symm.trans other)
      exact ⟨ends.returns raises, rfl⟩

theorem Check.Ends.met (h : b.Ends s className number policy (.ok ()) es) : b.Met s number := by
  cases h with
  | sound _ met => exact met
  | reported _ met => exact met

/-- Where a check returns in one state, it does so wherever the settings that it requires are made. -/
theorem Check.Ends.returns (h : b.Ends s className number policy (.ok ()) es) (hm : b.Met t number)
    (k : b.Ends t className number policy r fs) : r = .ok () ∧ fs = es := by
  cases k with
  | raised raises => cases h with
    | sound quiet | reported quiet => cases quiet.returns raises
  | unset quiet split before missing =>
    cases (hm _ (by simp [split])).symm.trans missing
  | sound quiet met none => cases h with
    | sound => exact ⟨rfl, rfl⟩
    | reported _ _ found => cases none.symm.trans found
  | reported quiet met found reports => cases h with
    | sound _ _ none => cases none.symm.trans found
    | reported _ _ other first =>
      obtain rfl := Option.some.inj (found.symm.trans other)
      exact first.unique reports

theorem World.Checks.met (h : w.Checks s c number policy (.ok ()) es)
    (hk : w.member? c checkName = some (.check (.body b))) : b.Met s number := by
  cases h with
  | idle found idle =>
    obtain rfl := Option.some.inj (found.symm.trans hk)
    cases idle
  | body found ends =>
    cases Option.some.inj (found.symm.trans hk)
    exact ends.met

theorem World.Checks.returns (h : w.Checks s c number policy (.ok ()) es)
    (hm : ∀ b, w.member? c checkName = some (.check (.body b)) → b.Met t number)
    (k : w.Checks t c number policy r fs) : r = .ok () ∧ fs = es := by
  cases h with
  | idle found idle =>
    cases k with
    | uncallable refused =>
      exact absurd found (refused.not_found (Member.constant?_of_isIdle idle))
    | idle => exact ⟨rfl, rfl⟩
    | body body =>
      obtain rfl := Option.some.inj (found.symm.trans body)
      cases idle
  | body found ends =>
    cases k with
    | uncallable refused => exact absurd found (refused.not_found rfl)
    | idle other idle =>
      obtain rfl := Option.some.inj (found.symm.trans other)
      cases idle
    | body other ends' =>
      cases Option.some.inj (found.symm.trans other)
      obtain ⟨rfl, rfl⟩ := ends.returns (hm _ found) ends'
      exact ⟨rfl, rfl⟩

/-- Whether preparing an instance returns is a matter of its class. -/
theorem prepare_returns (h : (w.prepare c number v).OnlyWrites s (.ok ()) es) (t : State) :
    (w.prepare c number v).OnlyWrites t (.ok ()) es := by
  obtain ⟨r, fs, hr, hw⟩ := prepare_prepares w c number v s
  obtain ⟨rfl, rfl, -⟩ := h.unique hw
  obtain ⟨q, gs, hq, hk⟩ := prepare_prepares w c number v t
  obtain ⟨rfl, rfl⟩ := hr.returns hq
  exact hk

theorem met_of_check (hk : w.member? c checkName = some (.check (.body b)))
    (h : (w.check c number policy).Runs s (.ok ()) es t) : b.Met s number := by
  obtain ⟨r, fs, hr, hw⟩ := check_checks w c number policy s
  obtain ⟨rfl, -, -⟩ := h.unique hw
  exact hr.met hk

/-- A check that returned does so again where the settings that it requires are made. -/
theorem check_again (hb : ∀ b, w.member? c checkName = some (.check (.body b)) → b.Met t number)
    (h : (w.check c number policy).OnlyWrites s (.ok ()) es) :
    (w.check c number policy).OnlyWrites t (.ok ()) es := by
  obtain ⟨r, fs, hr, hw⟩ := check_checks w c number policy s
  obtain ⟨rfl, rfl, -⟩ := h.unique hw
  obtain ⟨q, gs, hq, hk⟩ := check_checks w c number policy t
  obtain ⟨rfl, rfl⟩ := hr.returns hb hq
  exact hk

end ComponentAssembly
