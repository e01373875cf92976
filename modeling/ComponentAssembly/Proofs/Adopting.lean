import ComponentAssembly.Proofs.Repeating

/-! Constructors that classes take over: a class that comes upon a stand-in takes one over at the first
attempt to make an instance, and no later attempt changes that. What is taken over on the way makes no
difference to a factory, unless the stand-in hid that the call would be refused, or another class comes
between a class and its constructor. -/

namespace ComponentAssembly

open Build Markup

variable {a : Assembler} {w : World} {adopted later : Adoptions} {n : DottedName} {b c : ClassRef}
  {made : ClassRef → Prop} {factory : Factory} {count : Nat}

/-- What may have been taken over after some attempts to make instances of these classes. -/
inductive World.MayAdopt (w : World) (made : ClassRef → Prop) (adopted : Adoptions) :
    Adoptions → Prop
  | nothing : MayAdopt w made adopted adopted
  | another {later : Adoptions} {n : DottedName} (earlier : MayAdopt w made adopted later)
      (attempted : made (.own n)) (constructed : w.refuseInstances later (.own n) = pure ()) :
      MayAdopt w made adopted (w.adopting later n)

/-- Whatever is taken over in attempts to make instances of these classes makes no difference to a
factory that is called with so many values. -/
structure World.StaysAlike (w : World) (made : ClassRef → Prop) (adopted : Adoptions)
    (factory : Factory) (count : Nat) : Prop where
  constructor : ∀ later, w.MayAdopt made adopted later → ∀ c, factory.made? = some c →
    w.constructor later c = w.constructor adopted c
  refusing : ∀ later, w.MayAdopt made adopted later → ∀ c, factory.made? = some c →
    w.refuseInstances later c = w.refuseInstances adopted c
  misfits : ∀ later, w.MayAdopt made adopted later →
    (w.Misfits later factory count ↔ w.Misfits adopted factory count)

/-- The signature that can be read of a class is that of a stand-in, and the constructor that an attempt
to make an instance takes over refuses so many values: this attempt fails in the call, and later ones
because of the signature. -/
structure World.TakesOverMisfit (w : World) (adopted : Adoptions) (factory : Factory) (count : Nat) :
    Prop where
  readable : (w.signature? adopted factory).isSome = true
  makes : w.MayMake adopted factory
  hides : w.HidesMisfit adopted factory count

/-- A class holds a constructor of its own, or neither it nor an ancestor holds one but that of the
root. -/
inductive World.IsPlain (w : World) (adopted : Adoptions) (c : ClassRef) : Prop
  | own (holds : w.constructorHolder? adopted c = some c)
  | bare (concrete : w.protocol? c = none)
      (alone : ∀ b ∈ w.lineage c, ∀ h, w.constructorHolder? adopted b = some h →
        h = .predefined .root)

/-! ### The line of a class -/

/-- Whatever is known of a class, its line begins with it. -/
theorem lineageIn_head? {table : List (DottedName × List ClassRef)}
    (h : ∀ row ∈ table, row.2.head? = some (.own row.1)) (c : ClassRef) :
    (lineageIn table c).head? = some c := by
  cases c with
  | predefined p => rfl
  | own n =>
    cases hf : table.find? fun row => row.1 = n with
    | none => simp [lineageIn, hf]
    | some row =>
      have hn : row.1 = n := by simpa using List.find?_some hf
      simpa [lineageIn, hf, hn] using h row (List.mem_of_find?_eq_some hf)

theorem lineages_head? (w : World) : ∀ row ∈ w.lineages, row.2.head? = some (.own row.1) := by
  -- The rows are added one by one, and each begins with the class that it is added for.
  suffices h : ∀ (ds : List ClassDecl) (table : List (DottedName × List ClassRef)),
      (∀ row ∈ table, row.2.head? = some (.own row.1)) →
      ∀ row ∈ ds.foldl (fun table d =>
        let rows := d.bases.map (lineageIn table) ++ [d.bases]
        (d.name, .own d.name :: mergeRows rows.flatten.length rows) :: table) table,
        row.2.head? = some (.own row.1) from h w.classes [] (by simp)
  intro ds
  induction ds with
  | nil => exact fun table h => h
  | cons d ds ih => exact fun table h => ih _ (List.forall_mem_cons.2 ⟨rfl, h⟩)

/-- A class comes before its ancestors. -/
theorem lineage_eq_cons (w : World) (c : ClassRef) : ∃ ancestors, w.lineage c = c :: ancestors := by
  have h : (w.lineage c).head? = some c := lineageIn_head? (lineages_head? w) c
  obtain ⟨ancestors, hs⟩ := List.head?_eq_some_iff.1 h
  exact ⟨ancestors, hs⟩

/-! ### Taking a constructor over -/

theorem adopting_of_not_awaits (h : w.awaitsConstructor adopted (.own n) = false) :
    w.adopting adopted n = adopted := by
  simp [World.adopting, h]

theorem constructorHolder?_adopting_self (h : w.awaitsConstructor adopted (.own n) = true) :
    w.constructorHolder? (w.adopting adopted n) (.own n) =
      some (w.constructorSource adopted (.own n)) := by
  simp [World.adopting, World.constructorHolder?, h]

theorem constructorHolder?_adopting_of_ne (h : b ≠ .own n) :
    w.constructorHolder? (w.adopting adopted n) b = w.constructorHolder? adopted b := by
  unfold World.adopting
  split
  · cases b with
    | predefined p => rfl
    | own m =>
      have hm : n ≠ m := fun hn => h (by rw [hn])
      simp [World.constructorHolder?, hm]
  · rfl

/-- A class that holds a constructor has it and comes upon no stand-in before. -/
theorem awaitsConstructor_of_holder (h : w.constructorHolder? adopted c = some b) :
    w.awaitsConstructor adopted c = false := by
  obtain ⟨ancestors, hs⟩ := lineage_eq_cons w c
  simp [World.awaitsConstructor, hs, h]

theorem constructorSource_of_holder (h : w.constructorHolder? adopted c = some b) :
    w.constructorSource adopted c = b := by
  obtain ⟨ancestors, hs⟩ := lineage_eq_cons w c
  simp [World.constructorSource, hs, h]

/-- After an attempt a class comes upon no stand-in any more. -/
theorem awaitsConstructor_adopting_self (w : World) (adopted : Adoptions) (n : DottedName) :
    w.awaitsConstructor (w.adopting adopted n) (.own n) = false := by
  cases h : w.awaitsConstructor adopted (.own n) with
  | false => rwa [adopting_of_not_awaits h]
  | true => exact awaitsConstructor_of_holder (constructorHolder?_adopting_self h)

theorem adopting_adopting (w : World) (adopted : Adoptions) (n : DottedName) :
    w.adopting (w.adopting adopted n) n = w.adopting adopted n :=
  adopting_of_not_awaits (awaitsConstructor_adopting_self w adopted n)

/-- The constructor that a class takes over is the one that makes its instances anyway. -/
theorem constructor_adopting_self (w : World) (adopted : Adoptions) (n : DottedName) :
    w.constructor (w.adopting adopted n) (.own n) = w.constructor adopted (.own n) := by
  cases h : w.awaitsConstructor adopted (.own n) with
  | false => rw [adopting_of_not_awaits h]
  | true =>
    simp only [World.constructor,
      constructorSource_of_holder (constructorHolder?_adopting_self h)]

/-- Where no class of a line holds another constructor, the one of the root makes the instances. -/
theorem constructorSource_eq_root (h : ∀ b ∈ w.lineage c, ∀ k, w.constructorHolder? adopted b = some k →
    k = .root) : w.constructorSource adopted c = .root := by
  unfold World.constructorSource
  cases hs : (w.lineage c).findSome? (w.constructorHolder? adopted) with
  | none => rfl
  | some k =>
    obtain ⟨b, hb, hk⟩ := List.exists_of_findSome?_eq_some hs
    exact h b hb k hk

theorem refuseInstances_eq_pure_iff : w.refuseInstances adopted c = pure () ↔
    ¬ w.IsAbstract c ∧ ¬ w.IsOnlyProtocol adopted c := by
  refine ⟨fun h => not_or.1 fun hc => ?_, fun ⟨ha, hp⟩ => refuseInstances_eq_pure ha hp⟩
  obtain ⟨f, hf⟩ := refuseInstances_eq_throw hc
  cases congrArg (fun b : Build Unit => (b.from .empty).1) (h.symm.trans hf)

/-- A class that was not refused is not refused later. -/
theorem refuseInstances_adopting_self (h : w.refuseInstances adopted (.own n) = pure ()) :
    w.refuseInstances (w.adopting adopted n) (.own n) = pure () := by
  rw [refuseInstances_eq_pure_iff] at h ⊢
  refine ⟨h.1, fun hp => ?_⟩
  cases hp.2.symm.trans (awaitsConstructor_adopting_self w adopted n)

/-! ### One class -/

/-- Attempts at one class change at most once what was taken over. -/
theorem World.MayAdopt.alone (h : w.MayAdopt made adopted later)
    (hm : ∀ m n, made (.own m) → made (.own n) → m = n) : later = adopted ∨
      ∃ n, made (.own n) ∧ w.refuseInstances adopted (.own n) = pure () ∧
        later = w.adopting adopted n := by
  induction h with
  | nothing => exact .inl rfl
  | @another later n _ attempted constructed ih =>
    obtain rfl | ⟨m, hmade, hr, rfl⟩ := ih
    · exact .inr ⟨n, attempted, constructed, rfl⟩
    · obtain rfl := hm m n hmade attempted
      exact .inr ⟨m, hmade, hr, adopting_adopting w adopted m⟩

/-- The signature of a stand-in allows every call. -/
theorem not_misfits_of_awaits (h : w.awaitsConstructor adopted c = true) :
    ¬ w.Misfits adopted (.cls c) count := by
  rintro ⟨ps, hs, ht⟩
  simp only [World.signature?, h, if_true] at hs
  split at hs
  · cases hs
  · obtain rfl := Option.some.inj hs
    exact ht (takes_standInParams count)

/-- Once a class took over what it takes over, its signature is that of its constructor. -/
theorem misfits_adopting_self (h : w.awaitsConstructor adopted (.own n) = true) :
    w.Misfits (w.adopting adopted n) (.cls (.own n)) count ↔
      (w.signature? adopted (.cls (.own n))).isSome = true ∧
        ¬ Takes (w.constructor adopted (.own n)).params count := by
  simp only [World.Misfits, World.signature?, awaitsConstructor_adopting_self, h,
    constructor_adopting_self]
  cases w.isUnreadable (.own n) <;> simp

/-- What attempts with a factory take over makes no difference to that factory, unless it takes over a
misfit. -/
theorem staysAlike_alone (h : ¬ w.TakesOverMisfit adopted factory count) :
    w.StaysAlike (fun c => factory.made? = some c) adopted factory count := by
  have cases_later {later : Adoptions}
      (hl : w.MayAdopt (fun c => factory.made? = some c) adopted later) :=
    hl.alone fun m n hm hn => by simpa using hm.symm.trans hn
  refine ⟨fun later hl c hc => ?_, fun later hl c hc => ?_, fun later hl => ?_⟩
  · obtain rfl | ⟨n, hn, -, rfl⟩ := cases_later hl
    · rfl
    · obtain rfl := Option.some.inj (hc.symm.trans hn)
      exact constructor_adopting_self w adopted n
  · obtain rfl | ⟨n, hn, hr, rfl⟩ := cases_later hl
    · rfl
    · obtain rfl := Option.some.inj (hc.symm.trans hn)
      rw [refuseInstances_adopting_self hr, hr]
  · obtain rfl | ⟨n, hn, hr, rfl⟩ := cases_later hl
    · rfl
    · cases factory with
      | function f => rfl
      | cls c =>
        obtain rfl := Option.some.inj hn
        cases ha : w.awaitsConstructor adopted (.own n) with
        | false => rw [adopting_of_not_awaits ha]
        | true =>
          refine iff_of_false (fun hm => h ?_) (not_misfits_of_awaits ha)
          obtain ⟨hread, ht⟩ := (misfits_adopting_self ha).1 hm
          refine ⟨hread, fun c hc => ?_, .own n, rfl, ha, ht⟩
          obtain rfl := Factory.cls.inj hc
          exact refuseInstances_eq_pure_iff.1 hr

/-- Where a class takes over a misfit, the first attempt fails in the call and takes the constructor
over, and later ones fail because of the signature. -/
theorem makeChecked_takesOver {s : State} (arguments : List Value)
    (h : w.TakesOverMisfit s.adopted factory arguments.length) (misfit : Misfit → Failure)
    (wrap : Failure → Failure) :
    ∃ n g, (w.makeChecked misfit wrap factory arguments).Runs s (.error (wrap g)) []
        (s.adopting (w.adopting s.adopted n)) ∧
      ∀ t : State, t.adopted = w.adopting s.adopted n →
        ∃ m, (w.makeChecked misfit wrap factory arguments).Runs t (.error (misfit m)) [] t := by
  obtain ⟨hread, hmay, c, rfl, ha, ht⟩ := h
  obtain ⟨habstract, hprotocol⟩ := hmay c rfl
  have hr := refuseInstances_eq_pure habstract hprotocol
  cases c with
  | predefined p =>
    -- The only one that comes upon a stand-in is a protocol itself.
    cases p with
    | root | configurable => cases ha
    | initializable => exact absurd ⟨rfl, ha⟩ hprotocol
  | own n =>
    cases hb : bind (w.constructor s.adopted (.own n)).params arguments with
    | ok bound => exact absurd (binds_iff.1 ⟨bound, hb⟩) ht
    | error m =>
      refine ⟨n, _, makeChecked_of_make (not_misfits_of_awaits ha) (construct_of_misfit hr hb), ?_⟩
      intro t hadopted
      refine makeChecked_misfits ?_
      rw [hadopted]
      exact (misfits_adopting_self ha).2 ⟨hread, ht⟩

/-! ### Several classes -/

/-- Only a plain class without a constructor of its own comes upon a stand-in. -/
theorem World.IsPlain.not_awaits (h : w.IsPlain adopted c)
    (hs : w.constructorSource adopted c ≠ .root) : w.awaitsConstructor adopted c = false := by
  cases h with
  | own holds => exact awaitsConstructor_of_holder holds
  | bare concrete alone => exact absurd (constructorSource_eq_root alone) hs

theorem World.IsPlain.not_isOnlyProtocol (h : w.IsPlain adopted c) :
    ¬ w.IsOnlyProtocol adopted c := by
  rintro ⟨hp, ha⟩
  cases h with
  | own holds => cases ha.symm.trans (awaitsConstructor_of_holder holds)
  | bare concrete alone => simp [concrete] at hp

/-- An attempt at a plain class leaves plain classes so, and with the constructors that they had. -/
theorem World.IsPlain.adopting (h : w.IsPlain adopted c) (hn : w.IsPlain adopted (.own n)) :
    w.IsPlain (w.adopting adopted n) c ∧
      w.constructorSource (w.adopting adopted n) c = w.constructorSource adopted c := by
  cases ha : w.awaitsConstructor adopted (.own n) with
  | false =>
    rw [adopting_of_not_awaits ha]
    exact ⟨h, rfl⟩
  | true =>
    cases h with
    | own holds =>
      have hne : c ≠ .own n := by
        rintro rfl
        cases ha.symm.trans (awaitsConstructor_of_holder holds)
      have holds' := (constructorHolder?_adopting_of_ne hne).trans holds
      exact ⟨.own holds',
        (constructorSource_of_holder holds').trans (constructorSource_of_holder holds).symm⟩
    | bare concrete alone =>
      have hroot : w.constructorSource adopted (.own n) = .root := by
        by_contra hne
        cases ha.symm.trans (hn.not_awaits hne)
      have alone' : ∀ b ∈ w.lineage c, ∀ k,
          w.constructorHolder? (w.adopting adopted n) b = some k → k = .root := by
        intro b hb k hk
        by_cases hbn : b = .own n
        · rw [hbn, constructorHolder?_adopting_self ha, hroot] at hk
          exact (Option.some.inj hk).symm
        · rw [constructorHolder?_adopting_of_ne hbn] at hk
          exact alone b hb k hk
      exact ⟨.bare concrete alone',
        (constructorSource_eq_root alone').trans (constructorSource_eq_root alone).symm⟩

/-- Attempts at plain classes leave them so, and with the constructors that they had. -/
theorem World.MayAdopt.isPlain (h : w.MayAdopt made adopted later)
    (hp : ∀ c, made c → w.IsPlain adopted c) : ∀ c, made c → w.IsPlain later c ∧
      w.constructorSource later c = w.constructorSource adopted c := by
  induction h with
  | nothing => exact fun c hc => ⟨hp c hc, rfl⟩
  | another earlier attempted constructed ih =>
    intro c hc
    obtain ⟨hplain, hs⟩ := (ih c hc).1.adopting (ih _ attempted).1
    exact ⟨hplain, hs.trans (ih c hc).2⟩

theorem refuseInstances_congr (h : ¬ w.IsOnlyProtocol adopted c) (h' : ¬ w.IsOnlyProtocol later c) :
    w.refuseInstances later c = w.refuseInstances adopted c := by
  have hoff {x : Adoptions} (hx : ¬ w.IsOnlyProtocol x c) :
      (w.awaitsConstructor x c && (w.protocol? c).isSome) = false := by
    rw [Bool.and_comm, Bool.eq_false_iff, ne_eq, Bool.and_eq_true]
    exact hx
  simp only [World.refuseInstances, hoff h, hoff h']

theorem misfits_congr (ha : w.awaitsConstructor adopted c = false)
    (hl : w.awaitsConstructor later c = false)
    (hk : w.constructor later c = w.constructor adopted c) :
    w.Misfits later (.cls c) count ↔ w.Misfits adopted (.cls c) count := by
  have hs : w.signature? later (.cls c) = w.signature? adopted (.cls c) := by
    simp only [World.signature?, ha, hl, hk]
  simp only [World.Misfits, hs]

/-- The constructor of the root can be called without values. -/
theorem not_misfits_of_root (h : w.constructorSource adopted c = .root) :
    ¬ w.Misfits adopted (.cls c) 0 := by
  intro hm
  have hk : w.bodyParams adopted (.cls c) = [] := by
    simp only [World.bodyParams, World.constructor, h]
    rfl
  exact (misfits_iff.1 hm).2 (hk ▸ takes_nil.2 rfl)

/-- Attempts at plain classes make no difference to factories that make instances of these without
values, or whose class holds its own constructor. -/
theorem staysAlike_of_plain (hp : ∀ c, made c → w.IsPlain adopted c)
    (hm : ∀ c, factory.made? = some c → made c)
    (hc : count = 0 ∨ ∀ c, factory = .cls c → w.constructorSource adopted c ≠ .root) :
    w.StaysAlike made adopted factory count := by
  have hconstructor {later : Adoptions} (hl : w.MayAdopt made adopted later) {c : ClassRef}
      (hmade : made c) : w.constructor later c = w.constructor adopted c := by
    simp only [World.constructor, (hl.isPlain hp c hmade).2]
  refine ⟨fun later hl c hmade => hconstructor hl (hm c hmade), fun later hl c hmade => ?_,
    fun later hl => ?_⟩
  · exact refuseInstances_congr (hp c (hm c hmade)).not_isOnlyProtocol
      (hl.isPlain hp c (hm c hmade)).1.not_isOnlyProtocol
  · cases factory with
    | function f => rfl
    | cls c =>
      obtain ⟨hplain, hs⟩ := hl.isPlain hp c (hm c rfl)
      by_cases hroot : w.constructorSource adopted c = .root
      · obtain rfl := hc.resolve_right fun h => h c rfl hroot
        exact iff_of_false (not_misfits_of_root (hs.trans hroot)) (not_misfits_of_root hroot)
      · exact misfits_congr ((hp c (hm c rfl)).not_awaits hroot)
          (hplain.not_awaits (hs ▸ hroot)) (hconstructor hl (hm c rfl))

/-! ### Builds -/

/-- The classes that a composite component of an entry and the children in its section are made of. -/
def Assembler.MadeFrom (a : Assembler) (childTag : String) (childRequired : Capability)
    (node : Element) (e : Entry) (c : ClassRef) : Prop :=
  e.factory.made? = some c ∨ ∃ child ∈ node.childrenNamed childTag, ∃ identifier e',
    statedClass child = .ok identifier ∧
    a.world.Admits a.catalog a.profiles? identifier childRequired e' ∧ e'.factory.made? = some c

/-- What is taken over on the way makes no difference to a composite component and its children. -/
structure Assembler.ComposesSteadily (a : Assembler) (adopted : Adoptions) (childTag : String)
    (childRequired : Capability) (node : Element) (e : Entry) : Prop where
  children : ∀ child ∈ node.childrenNamed childTag, ∀ identifier e',
    statedClass child = .ok identifier →
    a.world.Admits a.catalog a.profiles? identifier childRequired e' →
    a.world.StaysAlike (a.MadeFrom childTag childRequired node e) adopted e'.factory 0
  composite : a.world.StaysAlike (a.MadeFrom childTag childRequired node e) adopted e.factory 1

/-- What was taken over in two states is among these. -/
def AreAmong (possible : Adoptions → Prop) (x y : Adoptions) : Prop := possible x ∧ possible y

theorem World.StaysAlike.makesAlike (h : w.StaysAlike made adopted factory count)
    (hm : ∀ c, factory.made? = some c → made c) :
    w.MakesAlike (AreAmong (w.MayAdopt made adopted)) factory count where
  constructs c hc := {
    constructor := fun x y ⟨hx, hy⟩ => (h.constructor x hx c hc).trans (h.constructor y hy c hc).symm
    refusing := fun x y ⟨hx, hy⟩ => (h.refusing x hx c hc).trans (h.refusing y hy c hc).symm
    adopting := by
      rintro x y ⟨hx, hy⟩ n rfl hr
      have hr' : w.refuseInstances y (.own n) = pure () := by
        rw [h.refusing y hy _ hc, ← h.refusing x hx _ hc, hr]
      exact ⟨.another hx (hm _ hc) hr, .another hy (hm _ hc) hr'⟩ }
  misfits x y := fun ⟨hx, hy⟩ => (h.misfits x hx).trans (h.misfits y hy).symm

theorem Assembler.ComposesSteadily.composesAlike {childTag : String} {childRequired : Capability}
    {node : Element} {e : Entry} (h : a.ComposesSteadily adopted childTag childRequired node e) :
    a.ComposesAlike (AreAmong (a.world.MayAdopt (a.MadeFrom childTag childRequired node e) adopted))
      childTag childRequired node e where
  children child hc identifier e' hi he := (h.children child hc identifier e' hi he).makesAlike
    fun _ hm => .inr ⟨child, hc, identifier, e', hi, he, hm⟩
  composite := h.composite.makesAlike fun _ hm => .inl hm

/-- A composite component stays as it is if it and its children are made of plain classes, and its own
class, if it has one, holds a constructor. -/
theorem composesSteadily_of_plain {childTag : String} {childRequired : Capability} {node : Element}
    {e : Entry} (hp : ∀ c, a.MadeFrom childTag childRequired node e c → a.world.IsPlain adopted c)
    (hc : ∀ c, e.factory = .cls c → a.world.constructorSource adopted c ≠ .root) :
    a.ComposesSteadily adopted childTag childRequired node e where
  children child hm identifier e' hi he := staysAlike_of_plain hp
    (fun _ hc => .inr ⟨child, hm, identifier, e', hi, he, hc⟩) (.inl rfl)
  composite := staysAlike_of_plain hp (fun _ hm => .inl hm) (.inr hc)

end ComponentAssembly
