import ComponentAssembly.Proofs.Binding
import ComponentAssembly.Proofs.Making

/-! Which failure it is when no instance is made, and whether a body has begun: the signature decides
where it can be read, and the call itself where it allows the call or cannot be read. The signature of a
class that comes upon a stand-in allows every call, whatever the constructor behind it takes. -/

namespace ComponentAssembly

open Build

variable {w : World} {adopted : Adoptions} {c : ClassRef} {f : Factory} {ps : List Param}
  {arguments bound : List Value} {misfit : Misfit → Failure} {wrap : Failure → Failure} {s t : State}
  {r : Except Failure Value} {es : List Event} {g : Failure} {count : Nat}

/-- A class is abstract: it leaves methods to its descendants, and that keeps it from being
constructed. -/
def World.IsAbstract (w : World) (c : ClassRef) : Prop :=
  w.isOpen c = true ∧ w.unwrittenNames c ≠ []

/-- A class is only a protocol: it has not got a constructor. -/
def World.IsOnlyProtocol (w : World) (adopted : Adoptions) (c : ClassRef) : Prop :=
  (w.protocol? c).isSome = true ∧ w.awaitsConstructor adopted c = true

/-- A factory is a function, or a class that is neither abstract nor only a protocol. -/
def World.MayMake (w : World) (adopted : Adoptions) (f : Factory) : Prop :=
  ∀ c, f = .cls c → ¬ w.IsAbstract c ∧ ¬ w.IsOnlyProtocol adopted c

/-- The signature of a factory can be read, and it cannot be called with so many values. -/
def World.Misfits (w : World) (adopted : Adoptions) (f : Factory) (count : Nat) : Prop :=
  ∃ ps, w.signature? adopted f = some ps ∧ ¬ Takes ps count

/-- The signature of a class is that of a stand-in, and the constructor behind it cannot be called with
so many values. -/
def World.HidesMisfit (w : World) (adopted : Adoptions) (f : Factory) (count : Nat) : Prop :=
  ∃ c, f = .cls c ∧ w.awaitsConstructor adopted c = true ∧
    ¬ Takes (w.constructor adopted c).params count

/-- The parameters of the body that a factory begins with. -/
def World.bodyParams (w : World) (adopted : Adoptions) : Factory → List Param
  | .cls c => (w.constructor adopted c).params
  | .function f => f.params

/-- The event with which the body of a factory begins. -/
def Factory.opening (f : Factory) (s : State) (first : Value) : Event :=
  match f with
  | .cls c => s.constructing c first
  | .function g => .called g.name.name first

/-- The body of a factory begins with the value of its first parameter. Predefined classes have no body:
their instance is given at once. -/
def World.BodyBegins (w : World) (f : Factory) (arguments : List Value) (s : State)
    (r : Except Failure Value) (es : List Event) : Prop :=
  (∃ bound others, bind (w.bodyParams s.adopted f) arguments = .ok bound ∧
    es = f.opening s (firstValue bound) :: others) ∨
  ∃ p, f = .cls (.predefined p) ∧ r = .ok (.plain p) ∧ es = []

/-- The call of a factory decides: what it gives is given, and what it fails with is the cause of a
failed instantiation. If the signature could be read, the body begins, except that of a class that is
abstract or only a protocol, which is refused before, and that of a constructor behind a stand-in which
refuses the call itself. -/
structure World.CallDecides (w : World) (f : Factory) (arguments : List Value)
    (wrap : Failure → Failure) (s : State) (r : Except Failure Value) (es : List Event)
    (t : State) : Prop where
  called : ∃ q, (w.make f arguments).Runs s q es t ∧ (∀ v, q = .ok v → r = .ok v) ∧
    ∀ g, q = .error g → r = .error (wrap g) ∧ (wrap g).kind = .config .instantiation ∧
      (wrap g).causeKind? = some g.kind
  begins : (w.signature? s.adopted f).isSome = true → w.MayMake s.adopted f →
    ¬ w.HidesMisfit s.adopted f arguments.length → w.BodyBegins f arguments s r es
  refused : ¬ w.MayMake s.adopted f → es = [] ∧ ∃ g, r = .error g
  hidden : w.HidesMisfit s.adopted f arguments.length → es = [] ∧ ∃ g, r = .error g

theorem refuseInstances_eq_pure (ha : ¬ w.IsAbstract c) (hp : ¬ w.IsOnlyProtocol adopted c) :
    w.refuseInstances adopted c = pure () := by
  have ho : (w.isOpen c && !(w.unwrittenNames c).isEmpty) = false := by
    simpa [World.IsAbstract] using ha
  have hn : (w.awaitsConstructor adopted c && (w.protocol? c).isSome) = false := by
    rw [Bool.and_comm, Bool.eq_false_iff, ne_eq, Bool.and_eq_true]
    exact hp
  simp only [World.refuseInstances, ho, hn, Bool.false_eq_true, if_false]

theorem refuseInstances_eq_throw (h : w.IsAbstract c ∨ w.IsOnlyProtocol adopted c) :
    ∃ g, w.refuseInstances adopted c = throw g := by
  simp only [World.refuseInstances]
  split
  · exact ⟨_, rfl⟩
  · rename_i ha
    rcases h with h | h
    · exact absurd (by simpa [World.IsAbstract] using h) ha
    · exact ⟨_, if_pos (by simp [h.1, h.2])⟩

/-- A class that is abstract or only a protocol is refused before its body begins. -/
theorem make_refused (h : ¬ w.MayMake s.adopted f) (arguments : List Value) :
    ∃ g, (w.make f arguments).Runs s (.error g) [] s := by
  obtain ⟨c, rfl, hc⟩ : ∃ c, f = .cls c ∧ (w.IsAbstract c ∨ w.IsOnlyProtocol s.adopted c) := by
    simpa [World.MayMake, imp_iff_not_or, not_and_or] using h
  obtain ⟨g, hg⟩ := refuseInstances_eq_throw hc
  exact ⟨g, construct_of_refused hg arguments⟩

/-- The predefined classes have the constructor without parameters. -/
theorem constructor_predefined (w : World) (adopted : Adoptions) (p : Predefined) :
    w.constructor adopted (.predefined p) = ⟨[], none⟩ := rfl

theorem received_of_bind (h : bind ps arguments = .ok bound) (s : State) :
    (received ps arguments).Runs s (.ok bound) [] s := by
  rw [received, h]
  exact runs_pure bound s

/-- A body that takes the values begins. -/
theorem make_begins_body (hm : w.MayMake s.adopted f)
    (hb : bind (w.bodyParams s.adopted f) arguments = .ok bound) :
    ∃ r es t, (w.make f arguments).Runs s r es t ∧ w.BodyBegins f arguments s r es := by
  have opens {r : Except Failure Value} {others : List Event} {t : State}
      (h : (w.make f arguments).Runs s r (f.opening s (firstValue bound) :: others) t) :
      ∃ r es t, (w.make f arguments).Runs s r es t ∧ w.BodyBegins f arguments s r es :=
    ⟨r, _, t, h, .inl ⟨bound, others, hb, rfl⟩⟩
  cases f with
  | function g =>
    obtain ⟨r, hr, -⟩ | ⟨c, passing, passed, r, es, t, -, -, hr⟩ :=
      callFunction_of_received (w := w) (received_of_bind hb s)
    · exact opens hr
    · exact opens hr
  | cls c =>
    obtain ⟨ha, hp⟩ := hm c rfl
    have hr := refuseInstances_eq_pure ha hp
    cases c with
    | own n =>
      obtain ⟨r, hk, -⟩ := construct_of_bind hr hb
      exact opens hk
    | predefined p =>
      obtain rfl : arguments = [] := by
        have ht := binds_iff.1 ⟨bound, hb⟩
        rw [World.bodyParams, constructor_predefined, takes_nil] at ht
        exact List.length_eq_zero_iff.1 ht
      refine ⟨.ok (.plain p), [], s, ?_, .inr ⟨p, rfl, rfl, rfl⟩⟩
      show (w.construct (.predefined p) []).Runs s (.ok (.plain p)) [] s
      simp only [World.construct, runs_get_bind, hr, pure_bind]
      exact runs_pure _ s

/-- A constructor behind a stand-in may refuse the call itself. -/
theorem make_hidden (h : w.HidesMisfit s.adopted f arguments.length) :
    ∃ g t, (w.make f arguments).Runs s (.error g) [] t := by
  by_cases hm : w.MayMake s.adopted f
  · obtain ⟨c, rfl, -, ht⟩ := h
    obtain ⟨ha, hp⟩ := hm c rfl
    have hr := refuseInstances_eq_pure ha hp
    cases c with
    | own n =>
      cases hb : bind (w.constructor s.adopted (.own n)).params arguments with
      | ok bound => exact absurd (binds_iff.1 ⟨bound, hb⟩) ht
      | error m => exact ⟨_, _, construct_of_misfit hr hb⟩
    | predefined p =>
      obtain ⟨v, vs, rfl⟩ : ∃ v vs, arguments = v :: vs := by
        rw [constructor_predefined, takes_nil] at ht
        exact List.exists_cons_of_ne_nil fun hn => ht (by simp [hn])
      refine ⟨.noCall (.takesNothing (ClassRef.predefined p).name), s, ?_⟩
      show (w.construct (.predefined p) (v :: vs)).Runs s _ [] s
      simp only [World.construct, runs_get_bind, hr, pure_bind]
      exact runs_throw _ s
  · obtain ⟨g, hg⟩ := make_refused hm arguments
    exact ⟨g, s, hg⟩

/-- A stand-in allows every call. -/
theorem takes_standInParams (count : Nat) : Takes standInParams count := by
  have hleft : ∀ p ∈ standInParams, p.mayBeLeftOut = true := by decide
  cases count with
  | zero => exact takes_zero.2 hleft
  | succ count => exact takes_cons_succ.2 (.inr ⟨rfl, (List.forall_mem_cons.1 hleft).2⟩)

/-- Unless a stand-in hides it, a misfit shows in a signature that can be read. -/
theorem takes_of_fits (hread : (w.signature? adopted f).isSome = true)
    (hm : ¬ w.Misfits adopted f count) (hh : ¬ w.HidesMisfit adopted f count) :
    Takes (w.bodyParams adopted f) count := by
  by_contra ht
  cases f with
  | function g => exact hm ⟨g.params, rfl, ht⟩
  | cls c =>
    have hw : w.awaitsConstructor adopted c = false :=
      Bool.eq_false_iff.2 fun hw => hh ⟨c, rfl, hw, ht⟩
    refine hm ⟨_, ?_, ht⟩
    unfold World.signature? at hread ⊢
    simp only [hw] at hread ⊢
    split
    · rename_i hu
      simp [hu] at hread
    · rfl

/-- Where a signature does not allow a call, it is that of the body. -/
theorem misfits_iff : w.Misfits adopted f count ↔
    w.signature? adopted f = some (w.bodyParams adopted f) ∧
      ¬ Takes (w.bodyParams adopted f) count := by
  refine ⟨?_, fun ⟨hs, ht⟩ => ⟨_, hs, ht⟩⟩
  rintro ⟨ps, hs, ht⟩
  cases f with
  | function g =>
    obtain rfl := Option.some.inj hs
    exact ⟨rfl, ht⟩
  | cls c =>
    simp only [World.signature?] at hs ⊢
    cases hu : w.isUnreadable c with
    | true => simp [hu] at hs
    | false =>
      cases ha : w.awaitsConstructor adopted c with
      | true =>
        obtain rfl : standInParams = ps := by simpa [hu, ha] using hs
        exact absurd (takes_standInParams count) ht
      | false =>
        obtain rfl : (w.constructor adopted c).params = ps := by simpa [hu, ha] using hs
        exact ⟨by simp [World.bodyParams], ht⟩

theorem misfit?_of_misfits (h : w.Misfits adopted f arguments.length) :
    ∃ m, w.misfit? adopted f arguments = some m ∧
      bind (w.bodyParams adopted f) arguments = .error m := by
  obtain ⟨hs, ht⟩ := misfits_iff.1 h
  cases hb : bind (w.bodyParams adopted f) arguments with
  | ok bound => exact absurd (binds_iff.1 ⟨bound, hb⟩) ht
  | error m => exact ⟨m, by simp only [World.misfit?, hs, Option.map_some, hb], rfl⟩

theorem misfit?_eq_none (h : ¬ w.Misfits adopted f arguments.length) :
    w.misfit? adopted f arguments = none := by
  unfold World.misfit?
  split
  · rename_i m hm
    obtain ⟨ps, hs, hb⟩ := Option.map_eq_some_iff.1 hm
    refine absurd ⟨ps, hs, fun ht => ?_⟩ h
    obtain ⟨bound, hok⟩ := binds_iff.2 ht
    cases hok.symm.trans hb
  · rfl

/-- A signature that can be read and does not allow the call is all that is looked at. -/
theorem makeChecked_misfits (h : w.Misfits s.adopted f arguments.length) :
    ∃ m, (w.makeChecked misfit wrap f arguments).Runs s (.error (misfit m)) [] s := by
  obtain ⟨m, hm, -⟩ := misfit?_of_misfits h
  simp only [World.makeChecked, runs_get_bind, hm]
  exact ⟨m, runs_throw (misfit m) s⟩

/-- In every other case the factory is called. -/
theorem makeChecked_of_make (h : ¬ w.Misfits s.adopted f arguments.length)
    (hr : (w.make f arguments).Runs s r es t) :
    (w.makeChecked misfit wrap f arguments).Runs s (r.mapError wrap) es t := by
  simp only [World.makeChecked, runs_get_bind, misfit?_eq_none h]
  exact hr.wrapping wrap

/-- Where the signature allows the call or cannot be read, the call decides. -/
theorem makeChecked_called (misfit : Misfit → Failure)
    (hk : ∀ g, (wrap g).kind = .config .instantiation ∧ (wrap g).causeKind? = some g.kind)
    (h : ¬ w.Misfits s.adopted f arguments.length) :
    ∃ r es t, (w.makeChecked misfit wrap f arguments).Runs s r es t ∧
      w.CallDecides f arguments wrap s r es t := by
  obtain ⟨-, q, es, t, -, hq, -⟩ := make_makes w f arguments s
  refine ⟨q.mapError wrap, es, t, makeChecked_of_make h hq, ⟨q, hq, ?_, ?_⟩, ?_, ?_, ?_⟩
  · rintro v rfl
    rfl
  · rintro g rfl
    exact ⟨rfl, hk g⟩
  · intro hread hm hh
    obtain ⟨bound, hb⟩ := binds_iff.2 (takes_of_fits hread h hh)
    obtain ⟨q, fs, u, hr, hbody⟩ := make_begins_body hm hb
    obtain ⟨rfl, rfl, rfl⟩ := hq.unique hr
    exact hbody.imp id fun ⟨p, hf, hv, he⟩ => ⟨p, hf, by rw [hv]; rfl, he⟩
  · intro hm
    obtain ⟨g, hg⟩ := make_refused hm arguments
    obtain ⟨rfl, rfl, -⟩ := hq.unique hg
    exact ⟨rfl, wrap g, rfl⟩
  · intro hh
    obtain ⟨g, u, hg⟩ := make_hidden hh
    obtain ⟨rfl, rfl, -⟩ := hq.unique hg
    exact ⟨rfl, wrap g, rfl⟩

/-- The signature decides where it can be read and does not allow the call; else the call does. -/
theorem makeChecked_decided (misfit : Misfit → Failure) (wrap : Failure → Failure)
    (hk : ∀ g, (wrap g).kind = .config .instantiation ∧ (wrap g).causeKind? = some g.kind)
    (w : World) (f : Factory) (arguments : List Value) (s : State) :
    ∃ r es t, (w.makeChecked misfit wrap f arguments).Runs s r es t ∧
      (w.Misfits s.adopted f arguments.length →
        (∃ m, r = .error (misfit m)) ∧ es = [] ∧ t = s) ∧
      (¬ w.Misfits s.adopted f arguments.length → w.CallDecides f arguments wrap s r es t) := by
  by_cases h : w.Misfits s.adopted f arguments.length
  · obtain ⟨m, hr⟩ := makeChecked_misfits h
    exact ⟨_, [], s, hr, fun _ => ⟨⟨m, rfl⟩, rfl, rfl⟩, fun hn => absurd h hn⟩
  · obtain ⟨r, es, t, hr, hd⟩ := makeChecked_called misfit hk h
    exact ⟨r, es, t, hr, fun hm => absurd hm h, fun _ => hd⟩

theorem World.CallDecides.error (h : w.CallDecides f arguments wrap s (.error g) es t) :
    ∃ cause, g = wrap cause ∧ g.kind = .config .instantiation := by
  obtain ⟨q, -, hok, herror⟩ := h.called
  cases q with
  | ok v => cases hok v rfl
  | error cause =>
    obtain ⟨hg, hk, -⟩ := herror cause rfl
    obtain rfl := Except.error.inj hg
    exact ⟨cause, rfl, hk⟩

/-- An instance is made without arguments, or around its children as the only argument. Either step
fails in its own way exactly if the signature can be read and does not allow that call, and then nothing
has begun. In every other case the call decides: the step gives what it gives, or a failed instantiation
is caused by what it fails with. -/
theorem signature_decides_making (w : World) (f : Factory) (identifier : String)
    (children : List Value) (s : State) :
    (∃ r es t,
      (w.makeChecked (.needsArguments identifier) (.constructionFailed identifier) f []).Runs
        s r es t ∧
      (∀ g, r = .error g → g.kind = .config .instantiation) ∧
      ((∃ m, r = .error (.needsArguments identifier m)) ↔ w.Misfits s.adopted f 0) ∧
      (w.Misfits s.adopted f 0 → es = [] ∧ t = s) ∧
      (¬ w.Misfits s.adopted f 0 → w.CallDecides f [] (.constructionFailed identifier) s r es t)) ∧
    ∃ r es t,
      (w.makeChecked (.takesNoChildren identifier) (.compositionFailed identifier) f
        [.list children]).Runs s r es t ∧
      ((∃ g, r = .error g ∧ g.kind = .config .incompatibleComposite) ↔ w.Misfits s.adopted f 1) ∧
      (w.Misfits s.adopted f 1 → es = [] ∧ t = s) ∧
      (¬ w.Misfits s.adopted f 1 →
        w.CallDecides f [.list children] (.compositionFailed identifier) s r es t) := by
  constructor
  · obtain ⟨r, es, t, hr, hmisfit, hcall⟩ := makeChecked_decided (.needsArguments identifier)
      (.constructionFailed identifier) (fun g => ⟨rfl, rfl⟩) w f [] s
    refine ⟨r, es, t, hr, ?_, ⟨?_, fun hm => (hmisfit hm).1⟩, fun hm => (hmisfit hm).2, hcall⟩
    · rintro g rfl
      by_cases hm : w.Misfits s.adopted f 0
      · obtain ⟨⟨m, he⟩, -⟩ := hmisfit hm
        obtain rfl := Except.error.inj he
        rfl
      · obtain ⟨cause, -, hk⟩ := (hcall hm).error
        exact hk
    · rintro ⟨m, rfl⟩
      by_contra hm
      obtain ⟨cause, hc, -⟩ := (hcall hm).error
      cases hc
  · obtain ⟨r, es, t, hr, hmisfit, hcall⟩ := makeChecked_decided (.takesNoChildren identifier)
      (.compositionFailed identifier) (fun g => ⟨rfl, rfl⟩) w f [.list children] s
    refine ⟨r, es, t, hr, ⟨?_, ?_⟩, fun hm => (hmisfit hm).2, hcall⟩
    · rintro ⟨g, rfl, hg⟩
      by_contra hm
      obtain ⟨cause, -, hk⟩ := (hcall hm).error
      cases hg.symm.trans hk
    · intro hm
      obtain ⟨⟨m, he⟩, -⟩ := hmisfit hm
      exact ⟨_, he, rfl⟩

/-- A class without members that descends from the root. -/
def plainClass (name : String) : ClassDecl where
  name := ⟨"shop", name⟩
  bases := [.predefined .root]
  methods := []
  abstractMethods := []
  registeredWith := []
  constructor? := none
  setters := []
  preparation? := none
  check? := none
  settingsHook? := none
  unreadable := false
  protocol? := none

/-- Two classes: the second one inherits its constructor from the first one, but comes upon a stand-in
before. -/
def lateWorld (ps : List Param) : World :=
  ⟨[{ plainClass "Base" with constructor? := some ⟨ps, none⟩ },
    { plainClass "Late" with bases := [.predefined .initializable, .own ⟨"shop", "Base"⟩] }],
    [], [], []⟩

/-- The signature of a stand-in allows the call around children, the constructor behind it does not:
nothing has begun then, though the class is neither abstract nor a protocol and the failure is another
one than where the signature does not allow the call. -/
theorem makeChecked_late :
    let w := lateWorld []
    let late : ClassRef := .own ⟨"shop", "Late"⟩
    w.signature? [] (.cls late) = some standInParams ∧ ¬ w.Misfits [] (.cls late) 1 ∧
      ¬ w.IsAbstract late ∧ w.protocol? late = none ∧
      (w.constructor [] late).params = [] ∧
      ∃ f t, (w.makeChecked (.takesNoChildren "Late") (.compositionFailed "Late") (.cls late)
          [.list []]).Runs .empty (.error f) [] t ∧
        f = .compositionFailed "Late" (.noCall (.refused (.wrongCount 1 1 2))) ∧
        f.kind = .config .instantiation := by
  intro w late
  have hs : w.signature? [] (.cls late) = some standInParams := rfl
  refine ⟨hs, ?_, ?_, rfl, rfl, _, _, ⟨rfl, rfl⟩, rfl, rfl⟩
  · rintro ⟨ps, hps, ht⟩
    obtain rfl := Option.some.inj (hs.symm.trans hps)
    exact ht (takes_standInParams 1)
  · exact fun ha => ha.2 rfl

end ComponentAssembly
