import ComponentAssembly.Parameter.Acceptance

/-! Between which types a stated type leaves the choice. Its normal form has the same leaves, and going
through it finds what its leaves allow. -/

namespace ComponentAssembly

namespace TypeExpr

variable {known : Bool} {t l m : TypeExpr} {ts : List TypeExpr} {name : String}

mutual

/-- The types between which a type leaves the choice, its notes put aside. -/
def leaves : TypeExpr → List TypeExpr
  | .oneOf members => leavesOf members
  | .annotated t _ => t.leaves
  | t => [t]

/-- The leaves of a row of types. -/
def leavesOf : List TypeExpr → List TypeExpr
  | [] => []
  | t :: ts => t.leaves ++ leavesOf ts

end

mutual

/-- The types between which a type leaves the choice as it is written, its notes put aside. Quoted
parts are looked into if they are known. -/
def members (known : Bool) : TypeExpr → List TypeExpr
  | .oneOf ts => membersOf known ts
  | .annotated t _ => t.members known
  | .quoted t => if known then t.members known else [.quoted t]
  | t => [t]

/-- The members of a row of types. -/
def membersOf (known : Bool) : List TypeExpr → List TypeExpr
  | [] => []
  | t :: ts => t.members known ++ membersOf known ts

end

mutual

theorem same_eq {a b : TypeExpr} (h : a.same b = true) : a = b := by
  cases a <;> cases b <;> simp only [same, Bool.and_eq_true, decide_eq_true_eq] at h
  case scalar.scalar | instanceOf.instanceOf | bare.bare | forward.forward => rw [h]
  case anything.anything | nothing.nothing => rfl
  case applied.applied => rw [h.1, sameTypes_eq h.2]
  case oneOf.oneOf => rw [sameTypes_eq h]
  case annotated.annotated => rw [same_eq h.1, h.2]
  case quoted.quoted => rw [same_eq h]
  all_goals cases h

theorem sameTypes_eq {as bs : List TypeExpr} (h : sameTypes as bs = true) : as = bs := by
  cases as <;> cases bs <;> simp only [sameTypes, Bool.and_eq_true] at h
  case nil.nil => rfl
  case cons.cons => rw [same_eq h.1, sameTypes_eq h.2]
  all_goals cases h

end

theorem mem_insertNew : l ∈ insertNew t ts ↔ l = t ∨ l ∈ ts := by
  unfold insertNew
  split
  · rename_i h
    obtain ⟨u, hu, hs⟩ := List.any_eq_true.1 h
    obtain rfl := same_eq hs
    constructor
    · exact .inr
    · rintro (rfl | hl)
      · exact hu
      · exact hl
  · exact List.mem_cons

theorem mem_foldr_insertNew : l ∈ ts.foldr insertNew [] ↔ l ∈ ts := by
  induction ts with
  | nil => rfl
  | cons t ts ih => rw [List.foldr_cons, mem_insertNew, ih, List.mem_cons]

theorem mem_leavesOf : l ∈ leavesOf ts ↔ ∃ t ∈ ts, l ∈ t.leaves := by
  induction ts with
  | nil => simp [leavesOf]
  | cons t ts ih => simp [leavesOf, ih]

theorem mem_normals : l ∈ normals known ts ↔ ∃ t ∈ ts, l = t.normal known := by
  induction ts with
  | nil => simp [normals]
  | cons t ts ih => simp [normals, ih]

/-- A choice leaves the choice that its members leave. -/
theorem mem_leaves_choice : l ∈ (choice ts).leaves ↔ ∃ t ∈ ts, l ∈ t.leaves := by
  have hk : l ∈ leavesOf (ts.foldr insertNew []) ↔ ∃ t ∈ ts, l ∈ t.leaves := by
    simp only [mem_leavesOf, mem_foldr_insertNew]
  rw [← hk]
  unfold choice
  split
  · rename_i t ht
    simp [ht, leavesOf]
  · rfl

theorem mem_leaves_alternatives : l ∈ t.leaves ↔ ∃ a ∈ t.alternatives, l ∈ a.leaves := by
  cases t with
  | oneOf ts => simp only [alternatives, leaves, mem_leavesOf]
  | _ => simp only [alternatives, List.mem_singleton, exists_eq_left]

theorem mem_leaves_normal_oneOf :
    l ∈ ((TypeExpr.oneOf ts).normal known).leaves ↔ ∃ t ∈ ts, l ∈ (t.normal known).leaves := by
  rw [normal, mem_leaves_choice]
  constructor
  · rintro ⟨a, ha, hl⟩
    obtain ⟨n, hn, ha⟩ := List.mem_flatMap.1 ha
    obtain ⟨t, ht, rfl⟩ := mem_normals.1 hn
    exact ⟨t, ht, mem_leaves_alternatives.2 ⟨a, ha, hl⟩⟩
  · rintro ⟨t, ht, hl⟩
    obtain ⟨a, ha, hl⟩ := mem_leaves_alternatives.1 hl
    exact ⟨a, List.mem_flatMap.2 ⟨_, mem_normals.2 ⟨t, ht, rfl⟩, ha⟩, hl⟩

mutual

/-- The leaves of a normal form are the normal forms of the members. -/
theorem mem_leaves_normal (t l : TypeExpr) :
    l ∈ (t.normal known).leaves ↔ ∃ m ∈ t.members known, l = m.normal known := by
  cases t with
  | oneOf ts =>
    rw [mem_leaves_normal_oneOf, members]
    exact exists_leaves_normal ts l
  | annotated t note =>
    rw [normal, leaves, members]
    exact mem_leaves_normal t l
  | quoted t =>
    rw [normal, members]
    split
    · exact mem_leaves_normal t l
    · rename_i hk
      simp [normal, leaves, hk]
  | _ => simp [normal, members, leaves]

theorem exists_leaves_normal (ts : List TypeExpr) (l : TypeExpr) :
    (∃ t ∈ ts, l ∈ (t.normal known).leaves) ↔ ∃ m ∈ membersOf known ts, l = m.normal known := by
  cases ts with
  | nil => simp [membersOf]
  | cons t ts =>
    simp only [List.mem_cons, membersOf, List.mem_append, or_and_right, exists_or, exists_eq_left,
      mem_leaves_normal t l, exists_leaves_normal ts l]

end

mutual

/-- A member is its own normal form, but for the arguments that it is applied to. -/
theorem normal_member (t : TypeExpr) (h : m ∈ t.members known) :
    m.normal known = m ∨ ∃ name arguments, m = .applied name arguments := by
  cases t with
  | oneOf ts => exact normal_membersOf ts h
  | annotated t note => exact normal_member t h
  | quoted t =>
    rw [members] at h
    split at h
    · exact normal_member t h
    · rename_i hk
      obtain rfl := List.mem_singleton.1 h
      exact .inl (by rw [normal, if_neg hk])
  | applied name arguments => exact .inr ⟨name, arguments, List.mem_singleton.1 h⟩
  | _ =>
    obtain rfl := List.mem_singleton.1 h
    exact .inl rfl

theorem normal_membersOf (ts : List TypeExpr) (h : m ∈ membersOf known ts) :
    m.normal known = m ∨ ∃ name arguments, m = .applied name arguments := by
  cases ts with
  | nil => cases h
  | cons t ts =>
    rcases List.mem_append.1 h with h | h
    · exact normal_member t h
    · exact normal_membersOf ts h

end

/-- No type is that of lists and that of maps. -/
theorem isMapType_of_isListType (h : t.isListType = true) : t.isMapType = false := by
  have hnames : ∀ name ∈ listTypeNames, name ∉ mapTypeNames := by decide
  cases t with
  | bare name =>
    have hl : name ∈ listTypeNames := by simpa [isListType] using h
    simp [isMapType, hnames name hl]
  | applied name arguments =>
    have hl : name ∈ listTypeNames := by
      simp only [isListType, Bool.and_eq_true, decide_eq_true_eq] at h
      exact h.1
    simp [isMapType, hnames name hl]
  | _ => cases h

/-- What allows any value is no other type. -/
theorem others_of_isUntyped (h : t.isUntyped = true) :
    t.isListType = false ∧ t.isMapType = false ∧ ∀ u, t.isScalar u = false := by
  cases t <;> simp_all [isUntyped, isListType, isMapType, isScalar]

theorem isScalar_of_isListType (h : t.isListType = true) (u : ScalarType) : t.isScalar u = false := by
  cases t <;> simp_all [isListType, isScalar]

theorem isScalar_of_isMapType (h : t.isMapType = true) (u : ScalarType) : t.isScalar u = false := by
  cases t <;> simp_all [isMapType, isScalar]

end TypeExpr

/-- What is accepted where one of some types may be given. -/
def Acceptance.ofLeaves (leaves : List TypeExpr) : Acceptance :=
  let untyped := leaves.any TypeExpr.isUntyped
  { list := untyped || leaves.any TypeExpr.isListType
    map := untyped || leaves.any TypeExpr.isMapType
    scalar? :=
      if untyped then some .text
      else ScalarType.all.find? fun t => leaves.any (TypeExpr.isScalar t) }

namespace Shapes

variable {s : Shapes} {t : TypeExpr} {ls : List TypeExpr}

/-- What was found is what these leaves allow. -/
structure Covers (s : Shapes) (ls : List TypeExpr) : Prop where
  untyped : s.untyped = ls.any TypeExpr.isUntyped
  list : s.list = ls.any TypeExpr.isListType
  map : s.map = ls.any TypeExpr.isMapType
  scalars : ∀ t, s.others.any (TypeExpr.isScalar t) = ls.any (TypeExpr.isScalar t)

theorem covers_empty : empty.Covers [] := ⟨rfl, rfl, rfl, fun _ => rfl⟩

theorem Covers.addLeaf (h : s.Covers ls) (t : TypeExpr) : (s.addLeaf t).Covers (ls ++ [t]) := by
  obtain ⟨hu, hl, hm, hs⟩ := h
  unfold Shapes.addLeaf
  split
  · rename_i h
    obtain ⟨hl', hm', hs'⟩ := TypeExpr.others_of_isUntyped h
    constructor <;> simp [h, hl, hm, hs, hl', hm', hs']
  · rename_i hu'
    split
    · rename_i h
      have hs' := TypeExpr.isScalar_of_isListType h
      constructor <;> simp [h, hu, hm, hs, hu', TypeExpr.isMapType_of_isListType h, hs']
    · rename_i hl'
      split
      · rename_i h
        have hs' := TypeExpr.isScalar_of_isMapType h
        constructor <;> simp [h, hu, hl, hs, hu', hl', hs']
      · rename_i hm'
        constructor <;> simp [hu, hl, hm, hs, hu', hl', hm', Bool.or_comm]

/-- The member for nothing allows nothing by itself. -/
theorem Covers.nothing (h : s.Covers ls) : s.Covers (ls ++ [.nothing]) := by
  obtain ⟨hu, hl, hm, hs⟩ := h
  constructor <;> simp [hu, hl, hm, hs, TypeExpr.isUntyped, TypeExpr.isListType,
    TypeExpr.isMapType, TypeExpr.isScalar]

mutual

/-- Going through a type finds what its leaves allow. -/
theorem Covers.add {s : Shapes} {ls : List TypeExpr} (h : s.Covers ls) (t : TypeExpr) :
    (s.add t).Covers (ls ++ t.leaves) := by
  cases t with
  | oneOf members => exact h.addMembers members
  | annotated t note => exact h.add t
  | _ => exact h.addLeaf _

theorem Covers.addMembers {s : Shapes} {ls : List TypeExpr} (h : s.Covers ls)
    (ts : List TypeExpr) :
    (s.addMembers ts).Covers (ls ++ TypeExpr.leavesOf ts) := by
  cases ts with
  | nil => simpa [Shapes.addMembers, TypeExpr.leavesOf] using h
  | cons t ts =>
    rw [TypeExpr.leavesOf, ← List.append_assoc]
    have hother : ((s.add t).addMembers ts).Covers (ls ++ t.leaves ++ TypeExpr.leavesOf ts) :=
      (h.add t).addMembers ts
    cases t with
    | nothing => exact h.nothing.addMembers ts
    | _ => exact hother

end

theorem Covers.acceptance_eq (h : s.Covers ls) : s.acceptance = .ofLeaves ls := by
  simp only [acceptance, scalar?, Acceptance.ofLeaves, h.untyped, h.list, h.map, h.scalars]

end Shapes

/-- What a setter accepts by the type that it states, and where it states none. -/
theorem Setter.acceptance_eq (m : Setter) (p : Param) : m.acceptance p =
    match m.knownType? p with
    | none => .all
    | some type => .ofLeaves type.leaves := by
  unfold Setter.acceptance
  cases m.knownType? p with
  | none => rfl
  | some type => exact (Shapes.covers_empty.add type).acceptance_eq

end ComponentAssembly
