import ComponentAssembly.Proofs.Activating
import ComponentAssembly.Proofs.Staging

/-! What activating a component comes to: whether its class counts as one that is prepared and checked,
what either call gives, and under which failure the first one that fails leaves. -/

namespace ComponentAssembly

open Build

variable {w : World} {c : ClassRef} {number : Nat} {name : String} {s : State}
  {r : Except Failure Unit} {es fs : List Event} {policy : Policy}

/-! ### The classes that are prepared and checked -/

/-- A class lacks a member: there is nothing under the name, or what is there holds nothing. -/
def World.Lacks (w : World) (c : ClassRef) (name : String) : Prop :=
  ∀ m, w.member? c name = some m → m.isVoid = true

/-- A class is declared to be one that is prepared and checked, whatever it bears: that is among its
ancestors, or it counts among the descendants of a class that has it as its base or is registered with
it. -/
def World.IsInitializableByName (w : World) (c : ClassRef) : Prop :=
  .predefined .initializable ∈ w.lineage c ∨
    ∃ d ∈ w.linked (.predefined .initializable),
      w.countsAmong (.cls c) (w.classes.length + 1) d = true

theorem bears_eq_true_iff : w.bears c name = true ↔ ¬ w.Lacks c name := by
  unfold World.bears World.Lacks
  cases w.member? c name <;> simp

/-- A class that bears both members counts as one that is prepared and checked, and so does one that is
declared so. -/
theorem isInitializable_iff : w.isInitializable c = true ↔
    (¬ w.Lacks c initializeName ∧ ¬ w.Lacks c checkName) ∨ w.IsInitializableByName c := by
  have hconforms : w.conforms (.cls c) (.predefined .initializable) =
      (w.bears c initializeName && w.bears c checkName) := by
    have hnames : w.protocolNames (.predefined .initializable) = [initializeName, checkName] := rfl
    have hcheckable : w.isUncheckable (.predefined .initializable) = false := rfl
    rw [World.conforms, hnames, hcheckable]
    simp [World.protocol?]
  have hopen : w.isOpen (.predefined .initializable) = true := by
    have hlineage : w.lineage (.predefined .initializable) = [.predefined .initializable] := rfl
    simp [World.isOpen, hlineage]
  rw [World.isInitializable, World.countsAmong, hopen, hconforms, World.IsInitializableByName]
  simp only [← bears_eq_true_iff, ClassRef.predefined.injEq, reduceCtorEq, decide_false,
    List.contains_eq_mem, Bool.false_or, Bool.true_and, Bool.or_eq_true, decide_eq_true_eq,
    Bool.and_eq_true, List.any_eq_true]
  tauto

/-! ### The whole of it -/

/-- How a failure leaves: a failure of the lifecycle as it is, any other one as the cause of a new
failure of the lifecycle about the class. -/
structure Failure.LeavesAs (f : Failure) (className : String) (g : Failure) : Prop where
  kind : g.kind = .config .lifecycle
  own : f.kind = .config .lifecycle → g = f
  other : f.kind ≠ .config .lifecycle → g = .initializationFailed className f ∧
    g.identifier? = some className ∧ g.causeKind? = some f.kind

/-- What activating an instance comes to that is prepared and checked: preparing it fails, or checking
it strictly fails, or both return. -/
inductive World.PreparesAndChecks (w : World) (s : State) (c : ClassRef) (number : Nat) :
    Except Failure Unit → List Event → Prop
  | unprepared {f g : Failure} {es : List Event}
      (prepares : w.Prepares s c number (.map []) (.error f) es)
      (leaves : f.LeavesAs c.name g) : PreparesAndChecks w s c number (.error g) es
  | refused {f g : Failure} {es fs : List Event}
      (prepares : w.Prepares s c number (.map []) (.ok ()) es)
      (checks : w.Checks s c number .strict (.error f) fs) (leaves : f.LeavesAs c.name g) :
      PreparesAndChecks w s c number (.error g) (es ++ fs)
  | passed {es fs : List Event} (prepares : w.Prepares s c number (.map []) (.ok ()) es)
      (checks : w.Checks s c number .strict (.ok ()) fs) :
      PreparesAndChecks w s c number (.ok ()) (es ++ fs)

theorem lifecycleFailure_leaves (className : String) (f : Failure) :
    f.LeavesAs className (lifecycleFailure className f) := by
  unfold lifecycleFailure
  split
  · rename_i h
    exact ⟨h, fun _ => rfl, fun hn => absurd h hn⟩
  · rename_i h
    exact ⟨rfl, fun hk => absurd hk h, fun _ => ⟨rfl, rfl, rfl⟩⟩

/-- What a check gives does not depend on the events before it. -/
theorem World.Checks.of_writing (h : w.Checks (s.writing fs) c number policy r es) :
    w.Checks s c number policy r es := by
  have hname (v : Value) : (s.writing fs).typeName v = s.typeName v := by
    simp [State.typeName, State.classOf?_of_classes (State.classes_writing s fs)]
  cases h with
  | uncallable refused =>
    cases refused with
    | absent missing => exact .uncallable (.absent missing)
    | constant found holds => exact .uncallable (hname _ ▸ .constant found holds)
  | idle found idle => exact .idle found idle
  | body found ends =>
    refine .body found ?_
    cases ends with
    | raised raises => exact .raised raises
    | unset quiet split before missing =>
      exact .unset quiet split (by simpa using before) (by simpa using missing)
    | sound quiet met none => exact .sound quiet (met_writing.1 met) none
    | reported quiet met found reports => exact .reported quiet (met_writing.1 met) found reports

theorem activate_prepares (hc : s.classOf? (.object number) = some c)
    (hi : w.isInitializable c = true) :
    ∃ r es, (w.activate (.object number)).OnlyWrites s r es ∧
      w.PreparesAndChecks s c number r es := by
  obtain ⟨p, es, hp, hprepare⟩ := prepare_prepares w c number (.map []) s
  cases p with
  | error f =>
    exact ⟨_, es, activate_of_wanted hc hi hprepare.bind_error,
      .unprepared hp (lifecycleFailure_leaves c.name f)⟩
  | ok =>
    obtain ⟨q, fs, hq, hcheck⟩ := check_checks w c number .strict (s.writing es)
    refine ⟨_, es ++ fs, activate_of_wanted hc hi (hprepare.bind hcheck), ?_⟩
    cases q with
    | error f => exact .refused hp hq.of_writing (lifecycleFailure_leaves c.name f)
    | ok => exact .passed hp hq.of_writing

/-- Activating passes over every value that is no instance of a class that is prepared and checked. Any
other instance is prepared, and then checked strictly if that returned; a failure of either leaves as a
failure of the lifecycle. The classes that are prepared and checked are those that bear both members and
those that are declared so: any other class that lacks a member is passed over. -/
theorem activate_prepares_and_checks (w : World) (v : Value) (s : State) :
    ∃ r es, (w.activate v).OnlyWrites s r es ∧
      ((∀ number c, v = .object number → s.classOf? v = some c → w.isInitializable c = false) →
        r = .ok () ∧ es = []) ∧
      ∀ number c, v = .object number → s.classOf? v = some c →
        (w.isInitializable c = true → w.PreparesAndChecks s c number r es) ∧
        (w.isInitializable c = true ↔
          (¬ w.Lacks c initializeName ∧ ¬ w.Lacks c checkName) ∨ w.IsInitializableByName c) ∧
        (w.Lacks c initializeName ∨ w.Lacks c checkName → ¬ w.IsInitializableByName c →
          r = .ok () ∧ es = []) := by
  obtain ⟨number, c, rfl, hc, hi⟩ | hn := wanted_or_indifferent w s v
  · obtain ⟨r, es, hr, hp⟩ := activate_prepares hc hi
    refine ⟨r, es, hr, fun hn => ?_, ?_⟩
    · cases hi.symm.trans (hn number c rfl hc)
    · intro _ d hv hd
      obtain rfl := Value.object.inj hv
      obtain rfl := Option.some.inj (hc.symm.trans hd)
      refine ⟨fun _ => hp, isInitializable_iff, fun hl hb => ?_⟩
      obtain ⟨hprepare, hcheck⟩ | hname := isInitializable_iff.1 hi
      · exact absurd hl (not_or.2 ⟨hprepare, hcheck⟩)
      · exact absurd hname hb
  · refine ⟨_, _, activate_of_indifferent hn, fun _ => ⟨rfl, rfl⟩, fun number c hv hc => ?_⟩
    refine ⟨fun hi => ?_, isInitializable_iff, fun _ _ => ⟨rfl, rfl⟩⟩
    cases hi.symm.trans (hn number c hv hc)

/-- A class that is registered as one that is prepared and checked. It can be prepared, and nothing
checks it. -/
def uncheckedClass : ClassDecl :=
  { plainClass "Half" with
    bases := [], registeredWith := [.predefined .initializable], preparation? := some (.body none) }

/-- One instance of that class. -/
def uncheckedHalf : State := ⟨[⟨.own uncheckedClass.name, []⟩], [], []⟩

/-- An instance of a class that lacks a member can be prepared all the same. -/
theorem activate_prepares_unchecked :
    World.Lacks ⟨[uncheckedClass], [], [], []⟩ (.own uncheckedClass.name) checkName ∧
    ∃ f, (World.activate ⟨[uncheckedClass], [], [], []⟩ (.object 0)).OnlyWrites uncheckedHalf
        (.error f) [.prepared 0 (.map [])] ∧
      f = .initializationFailed "Half" (.noAttribute "Half" checkName) := by
  have hm : World.member? ⟨[uncheckedClass], [], [], []⟩ (.own uncheckedClass.name) checkName =
      none := rfl
  refine ⟨by simp [World.Lacks, hm], _, ⟨?_, ?_⟩, rfl⟩
  · rfl
  · rfl

end ComponentAssembly
