import ComponentAssembly.Build.Assembly
import ComponentAssembly.Proofs.Assigning
import ComponentAssembly.Proofs.Constructing
import ComponentAssembly.Proofs.Following

/-! Making instances above older ones: unless what is declared holds an instance itself, they are made
there as they are made without these, whatever else was taken over that makes no difference to them. -/

namespace ComponentAssembly

open Build

variable {a : Assembler} {w : World} {c : ClassRef} {f : FunctionDecl} {ps : List Param}
  {arguments bound : List Value} {old : List Instance} {adopted : Adoptions} {factory : Factory}
  {alike : Adoptions → Adoptions → Prop}

/-- No default is an instance or holds one. -/
def DefaultsAreData (ps : List Param) : Prop := ∀ p ∈ ps, ∀ v, p.default? = some v → v.IsData

/-- A function that building may call: one of the world or one that was entered. -/
def Assembler.Knows (a : Assembler) (f : FunctionDecl) : Prop :=
  f ∈ a.world.functions ∨ ∃ e ∈ a.catalog, e.factory = .function f

/-- No default, no attribute of the lifecycle and no result that is declared holds an instance: what
is declared is there before anything is built. -/
structure Assembler.NamesNoInstance (a : Assembler) : Prop where
  constructors : ∀ d ∈ a.world.classes, ∀ k, d.constructor? = some k → DefaultsAreData k.params
  preparations : ∀ d ∈ a.world.classes, ∀ v, d.preparation? = some (.constant v) → v.IsData
  checks : ∀ d ∈ a.world.classes, ∀ v, d.check? = some (.constant v) → v.IsData
  functions : ∀ f, a.Knows f → DefaultsAreData f.params
  results : ∀ f, a.Knows f → ∀ v, f.outcome = .gives v → v.value.IsData

/-- What was taken over makes no difference to constructing instances of a class: it has the same
constructor, it is refused or not, and constructing one takes over what makes no difference again. -/
structure World.ConstructsAlike (w : World) (alike : Adoptions → Adoptions → Prop) (c : ClassRef) :
    Prop where
  constructor : ∀ x y, alike x y → w.constructor x c = w.constructor y c
  refusing : ∀ x y, alike x y → w.refuseInstances x c = w.refuseInstances y c
  adopting : ∀ x y, alike x y → ∀ n, c = .own n → w.refuseInstances x c = pure () →
    alike (w.adopting x n) (w.adopting y n)

/-- The class whose instances a factory gives, unless it gives a value of its own. -/
def Factory.made? : Factory → Option ClassRef
  | .cls c => some c
  | .function f =>
    match f.outcome with
    | .creates c _ => some c
    | .gives _ => none

/-- What was taken over makes no difference to making an instance with a factory and so many values:
its class is constructed alike, and its signature allows the call or not. -/
structure World.MakesAlike (w : World) (alike : Adoptions → Adoptions → Prop) (factory : Factory)
    (count : Nat) : Prop where
  constructs : ∀ c, factory.made? = some c → w.ConstructsAlike alike c
  misfits : ∀ x y, alike x y → (w.Misfits x factory count ↔ w.Misfits y factory count)

/-- Constructors and functions that raise an error for one value only compare with no instance. -/
structure Assembler.ComparesNoInstance (a : Assembler) : Prop where
  constructors : ∀ d ∈ a.world.classes, ∀ k, d.constructor? = some k →
    ∀ e, k.raises? = some e → e.ComparesNoInstance
  functions : ∀ f, a.Knows f → ∀ e, f.raises? = some e → e.ComparesNoInstance

/-! ### What is declared -/

/-- The constructor of a class is one that is declared, or the one without parameters. -/
theorem constructor_declared (w : World) (adopted : Adoptions) (c : ClassRef) :
    w.constructor adopted c = ⟨[], none⟩ ∨
      ∃ d ∈ w.classes, d.constructor? = some (w.constructor adopted c) := by
  unfold World.constructor
  cases hk : w.ownConstructor? (w.constructorSource adopted c) with
  | none => exact .inl rfl
  | some k =>
    cases hc : w.constructorSource adopted c with
    | predefined p =>
      rw [hc] at hk
      cases hk
    | own n =>
      rw [hc] at hk
      obtain ⟨d, hd, hdk⟩ := Option.bind_eq_some_iff.1 hk
      exact .inr ⟨d, classDecl?_mem hd, hdk⟩

theorem constructor_defaults (h : a.NamesNoInstance) (adopted : Adoptions) (c : ClassRef) :
    DefaultsAreData (a.world.constructor adopted c).params := by
  obtain hk | ⟨d, hd, hk⟩ := constructor_declared a.world adopted c
  · simp [hk, DefaultsAreData]
  · exact h.constructors d hd _ hk

theorem constructor_compares (h : a.ComparesNoInstance) (adopted : Adoptions) (c : ClassRef) :
    ∀ e, (a.world.constructor adopted c).raises? = some e → e.ComparesNoInstance := by
  obtain hk | ⟨d, hd, hk⟩ := constructor_declared a.world adopted c
  · simp [hk]
  · exact h.constructors d hd _ hk

theorem member?_preparation {name : String} {d : ClassDecl} {slot : Slot (Option Raise)}
    (h : d.member? name = some (.preparation slot)) : d.preparation? = some slot := by
  have hs : d.setter? name = none ∧ name = initializeName ∧ d.preparation? = some slot := by
    simpa [ClassDecl.member?, Option.or_eq_some_iff] using h
  exact hs.2.2

theorem member?_check {name : String} {d : ClassDecl} {slot : Slot Check}
    (h : d.member? name = some (.check slot)) : d.check? = some slot := by
  have hs : d.setter? name = none ∧ (name = initializeName → d.preparation? = none) ∧
      name = checkName ∧ d.check? = some slot := by
    simpa [ClassDecl.member?, Option.or_eq_some_iff] using h
  exact hs.2.2.2

/-! ### Making -/

/-- Values are bound in the same way wherever instances are. -/
theorem bind_shift (k : Nat) (hp : DefaultsAreData ps) (arguments : List Value) :
    bind ps (shiftItems k arguments) = (bind ps arguments).map (shiftItems k) := by
  have map_cons (v : Value) (r : Except Misfit (List Value)) :
      ((v :: ·) <$> r).map (shiftItems k) = (v.shift k :: ·) <$> r.map (shiftItems k) := by
    cases r <;> rfl
  fun_induction bind ps arguments with
  | case1 => rfl
  | case2 v vs => rfl
  | case3 p ps arguments hk ih =>
    simp only [bind, hk, map_cons, ← ih (List.forall_mem_cons.1 hp).2, Value.shift]
    rfl
  | case4 p ps hk ih =>
    simp only [bind, hk, map_cons, ← ih (List.forall_mem_cons.1 hp).2, Value.shift, shiftItems,
      shiftEntries]
  | case5 p ps v vs hk | case6 p ps v vs hk =>
    simp only [bind, hk, shiftItems]
    rfl
  | case7 p ps v hv hr hn ih =>
    have hd : v.shift k = v := shift_of_isData k v ((List.forall_mem_cons.1 hp).1 v hv)
    simp only [bind, hv, map_cons, ← ih (List.forall_mem_cons.1 hp).2, hd, shiftItems]
  | case8 p ps hv hr hn =>
    simp only [bind, hv, shiftItems]
    rfl
  | case9 p ps v vs hr hk hn ih =>
    simp only [bind, map_cons, ← ih (List.forall_mem_cons.1 hp).2, shiftItems]

theorem positionalValues_shift (k : Nat) (ps : List Param) (vs : List Value) :
    positionalValues ps (shiftItems k vs) = shiftItems k (positionalValues ps vs) := by
  have append (vs us : List Value) : shiftItems k (vs ++ us) = shiftItems k vs ++ shiftItems k us := by
    simp only [shiftItems_eq, List.map_append]
  fun_induction positionalValues ps vs with
  | case1 p ps vs v hk ih | case2 p ps vs v hk ih => simp only [shiftItems, positionalValues, hk, ih]
  | case3 p ps vs items hk ih =>
    simp only [shiftItems, Value.shift, positionalValues, hk, ih, append]
  | case4 p ps v vs hp ho hr ih =>
    have hs (items : List Value) : p.kind = .positionalRest → v.shift k = .tuple items → False := by
      intro hk hv
      cases v with
      | tuple items => exact hr items hk rfl
      | _ => cases hv
    simp only [shiftItems, positionalValues, ih]
  | case5 ps vs h =>
    cases ps with
    | nil => rfl
    | cons p ps =>
      cases vs with
      | nil => rfl
      | cons v vs => exact (h p ps v vs rfl rfl).elim

theorem firstValue_shift (k : Nat) (bound : List Value) :
    firstValue (shiftItems k bound) = (firstValue bound).shift k := by
  cases bound <;> rfl

/-- What parameters get holds no instance if what is handed over holds none: binding would otherwise
notice one more instance. -/
theorem bind_areData (hp : DefaultsAreData ps) (ha : ItemsAreData arguments)
    (h : bind ps arguments = .ok bound) : ItemsAreData bound := by
  have hs := bind_shift 1 hp arguments
  rw [shiftItems_of_areData 1 arguments ha, h] at hs
  exact itemsAreData_of_shift (Except.ok.inj hs).symm

theorem positionalValues_areData (ps : List Param) (hb : ItemsAreData bound) :
    ItemsAreData (positionalValues ps bound) := by
  have hs := positionalValues_shift 1 ps bound
  rw [shiftItems_of_areData 1 bound hb] at hs
  exact itemsAreData_of_shift hs.symm

theorem itemsAreData_nil : ItemsAreData [] := rfl

theorem firstValue_isData (hb : ItemsAreData bound) : (firstValue bound).IsData := by
  cases bound with
  | nil => rfl
  | cons v vs => exact (List.append_eq_nil_iff.1 hb).1

/-- A call that is refused is refused in the same way wherever instances are. -/
theorem received_eq (k : Nat) (hp : DefaultsAreData ps) (arguments : List Value) :
    (∃ f, received ps arguments = throw f ∧ received ps (shiftItems k arguments) = throw f) ∨
    ∃ bound, bind ps arguments = .ok bound ∧ received ps arguments = pure bound ∧
      received ps (shiftItems k arguments) = pure (shiftItems k bound) := by
  have hs := bind_shift k hp arguments
  unfold received
  rw [hs]
  cases hb : bind ps arguments with
  | ok bound => exact .inr ⟨bound, rfl, rfl, rfl⟩
  | error m =>
    refine .inl ⟨_, rfl, ?_⟩
    simp only [refusal, shiftItems_eq, List.length_map]
    rfl

/-- Whether a factory is called or its signature does not allow that, what was taken over makes no
difference if it is the same. -/
theorem World.makesAlike_of_eq (w : World) (factory : Factory) (count : Nat) :
    w.MakesAlike Eq factory count where
  constructs c _ := {
    constructor := by rintro x _ rfl; rfl
    refusing := by rintro x _ rfl; rfl
    adopting := by rintro x _ rfl n _ _; rfl }
  misfits := by rintro x _ rfl; rfl

/-- Instances are constructed above older ones as without them, if bodies compare with none or get
none. -/
theorem construct_follows (hn : a.NamesNoInstance)
    (ha : a.ComparesNoInstance ∨ ItemsAreData arguments) (hw : a.world.ConstructsAlike alike c) :
    Follows alike old (Value.shift old.length) (a.world.construct c arguments)
      (a.world.construct c (shiftItems old.length arguments)) := by
  unfold World.construct
  refine Follows.get_bind fun s adopted hs => ?_
  simp only [State.above, ← hw.refusing s.adopted adopted hs]
  obtain hr | ⟨f, hr⟩ := refuseInstances_eq a.world s.adopted c
  · simp only [hr, pure_bind]
    cases c with
    | predefined p =>
      cases arguments with
      | nil => exact follows_pure _
      | cons v vs => exact follows_throw _
    | own n =>
      have hd := constructor_defaults hn s.adopted (.own n)
      simp only [← hw.constructor s.adopted adopted hs]
      refine (adopt_follows (hw.adopting s.adopted adopted hs n rfl hr)).bind fun _ => ?_
      obtain ⟨f, hr, hs⟩ | ⟨bound, hb, hr, hs⟩ := received_eq old.length hd arguments
      · simp only [hr, hs]
        exact follows_throw f
      · have hx : (∀ e, (a.world.constructor s.adopted (.own n)).raises? = some e →
            e.ComparesNoInstance) ∨ (firstValue bound).IsData :=
          ha.imp (constructor_compares · s.adopted (.own n)) fun h =>
            firstValue_isData (bind_areData hd h hb)
        simp only [hr, hs, pure_bind, firstValue_shift]
        refine (allocate_follows _).bind fun number => ?_
        refine (emit_follows _).bind fun _ => ?_
        exact (raise_follows hx).bind fun _ => follows_pure _
  · simp only [hr]
    exact follows_throw f

theorem callFunction_follows (hn : a.NamesNoInstance)
    (ha : a.ComparesNoInstance ∨ ItemsAreData arguments) (hf : a.Knows f)
    (hw : ∀ c, (Factory.function f).made? = some c → a.world.ConstructsAlike alike c) :
    Follows alike old (Value.shift old.length) (a.world.callFunction f arguments)
      (a.world.callFunction f (shiftItems old.length arguments)) := by
  have hd := hn.functions f hf
  unfold World.callFunction
  obtain ⟨g, hr, hs⟩ | ⟨bound, hb, hr, hs⟩ := received_eq old.length hd arguments
  · simp only [hr, hs]
    exact follows_throw g
  · have hbound : a.ComparesNoInstance ∨ ItemsAreData bound :=
      ha.imp id fun h => bind_areData hd h hb
    have hx : (∀ e, f.raises? = some e → e.ComparesNoInstance) ∨ (firstValue bound).IsData :=
      hbound.imp (·.functions f hf) firstValue_isData
    simp only [hr, hs, pure_bind, firstValue_shift]
    refine (emit_follows _).bind fun _ => ?_
    refine (raise_follows hx).bind fun _ => ?_
    cases ho : f.outcome with
    | gives v =>
      have hv : Follows alike old (Value.shift old.length) (pure v.value) _ := follows_pure v.value
      rwa [shift_of_isData _ _ (hn.results f hf v ho)] at hv
    | creates c passing =>
      have hc := hw c (by simp only [Factory.made?, ho])
      cases passing with
      | false => exact construct_follows hn (.inr itemsAreData_nil) hc
      | true =>
        have hp := hbound.imp id (positionalValues_areData f.params)
        simp only [if_true, positionalValues_shift]
        exact construct_follows hn hp hc

theorem make_follows (hn : a.NamesNoInstance)
    (ha : a.ComparesNoInstance ∨ ItemsAreData arguments)
    (hf : ∀ f, factory = .function f → a.Knows f)
    (hw : ∀ c, factory.made? = some c → a.world.ConstructsAlike alike c) :
    Follows alike old (Value.shift old.length) (a.world.make factory arguments)
      (a.world.make factory (shiftItems old.length arguments)) := by
  cases factory with
  | cls c => exact construct_follows hn ha (hw c rfl)
  | function f => exact callFunction_follows hn ha (hf f rfl) hw

theorem bodyParams_defaults (hn : a.NamesNoInstance)
    (hf : ∀ f, factory = .function f → a.Knows f) (adopted : Adoptions) :
    DefaultsAreData (a.world.bodyParams adopted factory) := by
  cases factory with
  | function f => exact hn.functions f (hf f rfl)
  | cls c => exact constructor_defaults hn adopted c

theorem bodyParams_eq (hw : ∀ c, factory.made? = some c → w.ConstructsAlike alike c)
    {x y : Adoptions} (h : alike x y) : w.bodyParams x factory = w.bodyParams y factory := by
  cases factory with
  | function f => rfl
  | cls c => exact congrArg Constructor.params ((hw c rfl).constructor x y h)

theorem makeChecked_follows (hn : a.NamesNoInstance)
    (ha : a.ComparesNoInstance ∨ ItemsAreData arguments)
    (hf : ∀ f, factory = .function f → a.Knows f)
    (hw : a.world.MakesAlike alike factory arguments.length) (misfit : Misfit → Failure)
    (wrap : Failure → Failure) :
    Follows alike old (Value.shift old.length) (a.world.makeChecked misfit wrap factory arguments)
      (a.world.makeChecked misfit wrap factory (shiftItems old.length arguments)) := by
  have hm : Follows alike old _ (wrapping wrap (a.world.make factory arguments)) (wrapping wrap _) :=
    (make_follows hn ha hf hw.constructs).wrapping
  have hlength : (shiftItems old.length arguments).length = arguments.length := by
    rw [shiftItems_eq, List.length_map]
  refine Follows.get_bind fun s adopted hs => ?_
  by_cases h : a.world.Misfits s.adopted factory arguments.length
  · have h' := (hw.misfits s.adopted adopted hs).1 h
    rw [← hlength] at h'
    obtain ⟨m, hi, hb⟩ := misfit?_of_misfits h
    obtain ⟨m', hi', hb'⟩ := misfit?_of_misfits h'
    rw [← bodyParams_eq hw.constructs hs, bind_shift _ (bodyParams_defaults hn hf s.adopted), hb]
      at hb'
    obtain rfl := Except.error.inj hb'
    simp only [State.above, hi, hi']
    exact follows_throw _
  · have h' := mt (hw.misfits s.adopted adopted hs).2 h
    rw [← hlength] at h'
    simpa only [State.above, misfit?_eq_none h, misfit?_eq_none h'] using hm

end ComponentAssembly
