import ComponentAssembly.Proofs.Treating

/-! What a setter accepts is decided by the set of leaves of the type that it states for its value. How
often a leaf stands there, in which order, and inside how many choices and notes, does not count. -/

namespace ComponentAssembly

open Build

variable {m m' : Setter} {p p' : Param} {type : TypeExpr} {scalar : ScalarType}
  {leaf : Option TypeExpr} {leaves : List TypeExpr} {names : List String} {count : Nat}
  {parameter : String} {value : ShapedText}

/-- A leaf of what a setter states for its value, looked up as far as it can be. None is the leaf of a
type that is not stated, or that is all in quotes and cannot be looked up. -/
inductive Setter.HasLeaf (m : Setter) (p : Param) : Option TypeExpr → Prop
  | unstated (opened : m.LeavesOpen p) : m.HasLeaf p none
  | stated {type l : TypeExpr} (typed : p.type? = some type) (closed : ¬ m.LeavesOpen p)
      (member : l ∈ type.members m.typesKnown) : m.HasLeaf p (some (l.normal m.typesKnown))

/-- A leaf that allows any value: none is stated, or the one for any value or for any object. -/
def IsUntypedLeaf (leaf : Option TypeExpr) : Prop :=
  leaf = none ∨ leaf = some .anything ∨ leaf = some (.instanceOf .root)

/-- A leaf with one of these names: by itself, or with so many arguments, each of which is text. -/
def IsNamedLeaf (names : List String) (count : Nat) (leaf : Option TypeExpr) : Prop :=
  ∃ name ∈ names, leaf = some (.bare name) ∨ leaf = some (.applied name []) ∨
    leaf = some (.applied name (List.replicate count (.scalar .text)))

namespace Setter

/-- A setter accepts any value: one of its leaves does. -/
def HasUntypedLeaf (m : Setter) (p : Param) : Prop := ∃ leaf, m.HasLeaf p leaf ∧ IsUntypedLeaf leaf

/-- A scalar type is a leaf, and none that is preferred to it is. -/
def HasFirstLeaf (m : Setter) (p : Param) (scalar : ScalarType) : Prop :=
  m.HasLeaf p (some (.scalar scalar)) ∧
    ∃ before after, ScalarType.all = before ++ scalar :: after ∧
      ∀ other ∈ before, ¬ m.HasLeaf p (some (.scalar other))

/-- Two setters have the same leaves, apart from the leaf for nothing. -/
def SameLeaves (m : Setter) (p : Param) (m' : Setter) (p' : Param) : Prop :=
  ∀ leaf, leaf ≠ some .nothing → (m.HasLeaf p leaf ↔ m'.HasLeaf p' leaf)

end Setter

/-! ### Leaves -/

theorem isUntyped_iff_leaf : type.isUntyped = true ↔ IsUntypedLeaf (some type) := by
  rw [isUntyped_iff, IsUntypedLeaf]
  simp

theorem isNamed_iff_leaf :
    type.isNamed names count = true ↔ IsNamedLeaf names count (some type) := by
  unfold TypeExpr.isNamed IsNamedLeaf
  cases type with
  | bare name => simp
  | applied name arguments =>
    simp only [Bool.and_eq_true, Bool.or_eq_true, decide_eq_true_eq, List.isEmpty_iff,
      List.all_eq_true, isText_iff, ← List.eq_replicate_iff, Option.some.injEq, reduceCtorEq,
      TypeExpr.applied.injEq, false_or, ← and_or_left]
    constructor
    · rintro ⟨hn, ha⟩
      exact ⟨name, hn, rfl, ha⟩
    · rintro ⟨_, hn, rfl, ha⟩
      exact ⟨hn, ha⟩
  | _ => simp

theorem isScalar_iff : type.isScalar scalar = true ↔ type = .scalar scalar := by
  cases type <;> simp [TypeExpr.isScalar]

theorem hasLeaf_of_leavesOpen (ho : m.LeavesOpen p) : m.HasLeaf p leaf ↔ leaf = none := by
  constructor
  · intro hl
    cases hl with
    | unstated => rfl
    | stated typed closed => exact absurd ho closed
  · rintro rfl
    exact .unstated ho

theorem hasLeaf_of_stated (ht : p.type? = some type) (ho : ¬ m.LeavesOpen p) :
    m.HasLeaf p leaf ↔ ∃ l ∈ type.members m.typesKnown, leaf = some (l.normal m.typesKnown) := by
  constructor
  · intro hl
    cases hl with
    | unstated opened => exact absurd opened ho
    | stated typed closed member =>
      obtain rfl := Option.some.inj (ht.symm.trans typed)
      exact ⟨_, member, rfl⟩
  · rintro ⟨l, hl, rfl⟩
    exact .stated ht ho hl

/-- Either everything is accepted, or what is accepted is read off the leaves. -/
theorem acceptance_of_leaves (m : Setter) (p : Param) :
    (m.acceptance p = .all ∧ ∀ leaf, m.HasLeaf p leaf ↔ leaf = none) ∨
    ∃ leaves, m.acceptance p = .ofLeaves leaves ∧
      ∀ leaf, m.HasLeaf p leaf ↔ ∃ l ∈ leaves, leaf = some l := by
  by_cases ho : m.LeavesOpen p
  · refine .inl ⟨?_, fun leaf => hasLeaf_of_leavesOpen ho⟩
    rw [Setter.acceptance_eq, knownType?_of_leavesOpen ho]
  · cases ht : p.type? with
    | none => exact absurd (.inl ht) ho
    | some type =>
      refine .inr ⟨(type.normal m.typesKnown).leaves, ?_, fun leaf => ?_⟩
      · rw [Setter.acceptance_eq, knownType?_of_stated ht ho]
      · rw [hasLeaf_of_stated ht ho]
        constructor
        · rintro ⟨l, hl, rfl⟩
          exact ⟨_, (TypeExpr.mem_leaves_normal type _).2 ⟨l, hl, rfl⟩, rfl⟩
        · rintro ⟨l, hl, rfl⟩
          obtain ⟨n, hn, rfl⟩ := (TypeExpr.mem_leaves_normal type l).1 hl
          exact ⟨n, hn, rfl⟩

/-- What holds of some leaf is what is found among the leaves. -/
theorem exists_leaf_iff {q : TypeExpr → Bool} {P : Option TypeExpr → Prop}
    (hq : ∀ l, q l = true ↔ P (some l))
    (hl : ∀ leaf, m.HasLeaf p leaf ↔ ∃ l ∈ leaves, leaf = some l) :
    leaves.any q = true ↔ ∃ leaf, m.HasLeaf p leaf ∧ P leaf := by
  rw [List.any_eq_true]
  constructor
  · rintro ⟨l, hmem, h⟩
    exact ⟨some l, (hl _).2 ⟨l, hmem, rfl⟩, (hq l).1 h⟩
  · rintro ⟨leaf, hleaf, h⟩
    obtain ⟨l, hmem, rfl⟩ := (hl leaf).1 hleaf
    exact ⟨l, hmem, (hq l).2 h⟩

theorem mem_scalarTypes (t : ScalarType) : t ∈ ScalarType.all := by
  cases t <;> decide

theorem hasUntypedLeaf_of_all (hl : ∀ leaf, m.HasLeaf p leaf ↔ leaf = none) : m.HasUntypedLeaf p :=
  ⟨none, (hl none).2 rfl, .inl rfl⟩

theorem list_iff_leaf : (m.acceptance p).list = true ↔
    ∃ leaf, m.HasLeaf p leaf ∧ (IsUntypedLeaf leaf ∨ IsNamedLeaf listTypeNames 1 leaf) := by
  obtain ⟨ha, hl⟩ | ⟨leaves, ha, hl⟩ := acceptance_of_leaves m p
  · simp only [ha, Acceptance.all, true_iff]
    exact ⟨none, (hl none).2 rfl, .inl (.inl rfl)⟩
  · simp only [ha, Acceptance.ofLeaves, isListType_eq, Bool.or_eq_true, and_or_left, exists_or]
    exact or_congr (exists_leaf_iff (fun _ => isUntyped_iff_leaf) hl)
      (exists_leaf_iff (fun _ => isNamed_iff_leaf) hl)

theorem map_iff_leaf : (m.acceptance p).map = true ↔
    ∃ leaf, m.HasLeaf p leaf ∧ (IsUntypedLeaf leaf ∨ IsNamedLeaf mapTypeNames 2 leaf) := by
  obtain ⟨ha, hl⟩ | ⟨leaves, ha, hl⟩ := acceptance_of_leaves m p
  · simp only [ha, Acceptance.all, true_iff]
    exact ⟨none, (hl none).2 rfl, .inl (.inl rfl)⟩
  · simp only [ha, Acceptance.ofLeaves, isMapType_eq, Bool.or_eq_true, and_or_left, exists_or]
    exact or_congr (exists_leaf_iff (fun _ => isUntyped_iff_leaf) hl)
      (exists_leaf_iff (fun _ => isNamed_iff_leaf) hl)

theorem scalar?_of_untyped (h : m.HasUntypedLeaf p) : (m.acceptance p).scalar? = some .text := by
  obtain ⟨ha, -⟩ | ⟨leaves, ha, hl⟩ := acceptance_of_leaves m p
  · rw [ha]
    rfl
  · have hu := (exists_leaf_iff (fun _ => isUntyped_iff_leaf) hl).2 h
    simp only [ha, Acceptance.ofLeaves, hu, if_true]

theorem scalar?_of_typed (h : ¬ m.HasUntypedLeaf p) :
    (m.acceptance p).scalar? = some scalar ↔ m.HasFirstLeaf p scalar := by
  obtain ⟨-, hl⟩ | ⟨leaves, ha, hl⟩ := acceptance_of_leaves m p
  · exact absurd (hasUntypedLeaf_of_all hl) h
  have hu : leaves.any TypeExpr.isUntyped = false := by
    by_contra hu
    rw [Bool.not_eq_false] at hu
    exact h ((exists_leaf_iff (fun _ => isUntyped_iff_leaf) hl).1 hu)
  have hs (t : ScalarType) : leaves.any (TypeExpr.isScalar t) = true ↔
      m.HasLeaf p (some (.scalar t)) := by
    rw [exists_leaf_iff (P := fun leaf => leaf = some (.scalar t)) (by simp [isScalar_iff]) hl]
    simp
  have hn (t : ScalarType) : (!leaves.any (TypeExpr.isScalar t)) = true ↔
      ¬ m.HasLeaf p (some (.scalar t)) := by
    rw [← hs, Bool.not_eq_true', Bool.not_eq_true]
  simp only [ha, Acceptance.ofLeaves, hu, Bool.false_eq_true, if_false,
    List.find?_eq_some_iff_append, hs, hn, Setter.HasFirstLeaf]

theorem exists_scalar_iff_leaf : (∃ scalar, (m.acceptance p).scalar? = some scalar) ↔
    ∃ leaf, m.HasLeaf p leaf ∧ (IsUntypedLeaf leaf ∨ ∃ scalar, leaf = some (.scalar scalar)) := by
  by_cases hu : m.HasUntypedLeaf p
  · obtain ⟨leaf, hl, hleaf⟩ := hu
    exact ⟨fun _ => ⟨leaf, hl, .inl hleaf⟩, fun _ => ⟨_, scalar?_of_untyped ⟨leaf, hl, hleaf⟩⟩⟩
  · constructor
    · rintro ⟨scalar, hs⟩
      exact ⟨_, ((scalar?_of_typed hu).1 hs).1, .inr ⟨scalar, rfl⟩⟩
    · rintro ⟨leaf, hl, hleaf | ⟨scalar, rfl⟩⟩
      · exact absurd ⟨leaf, hl, hleaf⟩ hu
      · -- the first of the scalar types that are leaves
        classical
        obtain ⟨before, first, after, hs, hbefore, hfirst⟩ :=
          exists_first (P := fun t => m.HasLeaf p (some (.scalar t)))
            ⟨scalar, mem_scalarTypes scalar, hl⟩
        exact ⟨first, (scalar?_of_typed hu).2 ⟨hfirst, before, after, hs, hbefore⟩⟩

/-! ### The same leaves -/

/-- Where the leaf for nothing does not count, the others decide. -/
theorem exists_leaf_congr {P : Option TypeExpr → Prop} (h : m.SameLeaves p m' p')
    (hP : ¬ P (some .nothing)) :
    (∃ leaf, m'.HasLeaf p' leaf ∧ P leaf) ↔ ∃ leaf, m.HasLeaf p leaf ∧ P leaf := by
  have hne {leaf : Option TypeExpr} (hl : P leaf) : leaf ≠ some .nothing := by
    rintro rfl
    exact hP hl
  constructor
  · rintro ⟨leaf, hl, hleaf⟩
    exact ⟨leaf, (h leaf (hne hleaf)).2 hl, hleaf⟩
  · rintro ⟨leaf, hl, hleaf⟩
    exact ⟨leaf, (h leaf (hne hleaf)).1 hl, hleaf⟩

theorem hasFirstLeaf_congr (h : m.SameLeaves p m' p') :
    m'.HasFirstLeaf p' scalar ↔ m.HasFirstLeaf p scalar := by
  have hs (t : ScalarType) : m.HasLeaf p (some (.scalar t)) ↔ m'.HasLeaf p' (some (.scalar t)) :=
    h _ (by simp)
  simp only [Setter.HasFirstLeaf, hs]

theorem not_isUntypedLeaf_nothing : ¬ IsUntypedLeaf (some .nothing) := by
  simp [IsUntypedLeaf]

theorem not_isNamedLeaf_nothing : ¬ IsNamedLeaf names count (some .nothing) := by
  simp [IsNamedLeaf]

theorem acceptance_ext {accepted accepted' : Acceptance} (list : accepted'.list = accepted.list)
    (map : accepted'.map = accepted.map) (scalar : accepted'.scalar? = accepted.scalar?) :
    accepted' = accepted := by
  obtain ⟨l, k, s⟩ := accepted
  obtain ⟨l', k', s'⟩ := accepted'
  simp_all

theorem acceptance_eq_of_sameLeaves (h : m.SameLeaves p m' p') :
    m'.acceptance p' = m.acceptance p := by
  have hlist : (m'.acceptance p').list = (m.acceptance p).list := by
    rw [Bool.eq_iff_iff, list_iff_leaf, list_iff_leaf]
    exact exists_leaf_congr h fun hn =>
      hn.elim not_isUntypedLeaf_nothing not_isNamedLeaf_nothing
  have hmap : (m'.acceptance p').map = (m.acceptance p).map := by
    rw [Bool.eq_iff_iff, map_iff_leaf, map_iff_leaf]
    exact exists_leaf_congr h fun hn =>
      hn.elim not_isUntypedLeaf_nothing not_isNamedLeaf_nothing
  have huntyped : m'.HasUntypedLeaf p' ↔ m.HasUntypedLeaf p :=
    exists_leaf_congr h not_isUntypedLeaf_nothing
  have hscalar : (m'.acceptance p').scalar? = (m.acceptance p).scalar? := by
    by_cases hu : m.HasUntypedLeaf p
    · rw [scalar?_of_untyped hu, scalar?_of_untyped (huntyped.2 hu)]
    · refine Option.ext fun scalar => ?_
      rw [scalar?_of_typed hu,
        scalar?_of_typed fun hu' => hu (huntyped.1 hu'), hasFirstLeaf_congr h]
  exact acceptance_ext hlist hmap hscalar

/-- What a setter accepts, by the leaves of the type that it states. Lists are accepted if a leaf allows
any value or is a type of lists of text, maps if one allows any value or is a type of maps of text, texts
if one allows any value or is a scalar type. A text stays as it is where a leaf allows any value, and is
else converted to the most preferred scalar type among the leaves. So setters with the same leaves apart
from nothing, and no other difference, come to the same outcome for every value. -/
theorem accepts_by_leaves (m : Setter) (p : Param) :
    ((m.acceptance p).list = true ↔
      ∃ leaf, m.HasLeaf p leaf ∧ (IsUntypedLeaf leaf ∨ IsNamedLeaf listTypeNames 1 leaf)) ∧
    ((m.acceptance p).map = true ↔
      ∃ leaf, m.HasLeaf p leaf ∧ (IsUntypedLeaf leaf ∨ IsNamedLeaf mapTypeNames 2 leaf)) ∧
    ((∃ scalar, (m.acceptance p).scalar? = some scalar) ↔
      ∃ leaf, m.HasLeaf p leaf ∧ (IsUntypedLeaf leaf ∨ ∃ scalar, leaf = some (.scalar scalar))) ∧
    (m.HasUntypedLeaf p → (m.acceptance p).scalar? = some .text) ∧
    (¬ m.HasUntypedLeaf p →
      ∀ scalar, (m.acceptance p).scalar? = some scalar ↔ m.HasFirstLeaf p scalar) ∧
    ∀ (a b : Holder) (m' : Setter) (p' : Param) (parameter : String) (value : ShapedText),
      a.Offers parameter m p → b.Offers parameter m' p' → m.AlikeButTypes m' →
        m.SameLeaves p m' p' → a.SameOutcome b m m' parameter value := by
  refine ⟨list_iff_leaf, map_iff_leaf, exists_scalar_iff_leaf, scalar?_of_untyped,
    fun hu scalar => scalar?_of_typed hu, ?_⟩
  intro a b m' p' parameter value ho ho' h hl
  exact sameOutcome_of_acceptance ho ho' h (acceptance_eq_of_sameLeaves hl) value

/-- A size as in `sizeParam`, written in another order, with a choice inside a note, with the flag
repeated and with nothing as a third choice. -/
def notedSizeParam : Param := ⟨"value", .positional, some (.oneOf
  [.annotated (.oneOf [.scalar .flag, .nothing]) "given", .oneOf [.scalar .flag, .scalar .integer]]),
  none⟩

/-- A setter of such a size. -/
def notedSizeSetter : Setter := ⟨"set_size", .method, [notedSizeParam], none, none⟩

/-- An instance with a size, in a world where this is the setter of the size. -/
def sizeHolder (m : Setter) : Holder :=
  ⟨⟨[{ plainClass "Box" with setters := [m] }], [], [], []⟩, sizeState, .object 0⟩

/-- A flag is read alike through both setters. -/
theorem accepts_by_leaves_size :
    sizeSetter.SameLeaves sizeParam notedSizeSetter notedSizeParam ∧
      (sizeHolder sizeSetter).SameOutcome (sizeHolder notedSizeSetter) sizeSetter notedSizeSetter
        "size" (.scalar "true") := by
  have same : sizeSetter.SameLeaves sizeParam notedSizeSetter notedSizeParam := by
    intro leaf hne
    have hs : ¬ sizeSetter.LeavesOpen sizeParam := by
      rintro (h | ⟨h, -⟩) <;> cases h
    have hn : ¬ notedSizeSetter.LeavesOpen notedSizeParam := by
      rintro (h | ⟨h, -⟩) <;> cases h
    have hsize : (TypeExpr.oneOf [.scalar .integer, .scalar .flag]).members sizeSetter.typesKnown =
        [.scalar .integer, .scalar .flag] := rfl
    have hnoted : (TypeExpr.oneOf [.annotated (.oneOf [.scalar .flag, .nothing]) "given",
        .oneOf [.scalar .flag, .scalar .integer]]).members notedSizeSetter.typesKnown =
        [.scalar .flag, .nothing, .scalar .flag, .scalar .integer] := rfl
    rw [hasLeaf_of_stated rfl hs, hasLeaf_of_stated rfl hn, hsize, hnoted]
    simp only [List.mem_cons, List.not_mem_nil, or_false, exists_eq_or_imp, exists_eq_left,
      TypeExpr.normal, hne, false_or]
    tauto
  have hm : (sizeHolder sizeSetter).Offers "size" sizeSetter sizeParam :=
    ⟨rfl, setter?_eq_some rfl, .inl rfl, [], rfl, rfl, by simp⟩
  have hm' : (sizeHolder notedSizeSetter).Offers "size" notedSizeSetter notedSizeParam :=
    ⟨rfl, setter?_eq_some rfl, .inl rfl, [], rfl, rfl, by simp⟩
  have alike : sizeSetter.AlikeButTypes notedSizeSetter :=
    ⟨rfl, rfl, .cons ⟨rfl, rfl, rfl⟩ .nil, rfl⟩
  exact ⟨same, (accepts_by_leaves sizeSetter sizeParam).2.2.2.2.2 _ _ _ _ _ _ hm hm' alike same⟩

end ComponentAssembly
