import ComponentAssembly.Proofs.Assigning
import ComponentAssembly.Proofs.Leaves
import ComponentAssembly.Proofs.Rounding

/-! What a setter is called with is a value of the type that it states. -/

namespace ComponentAssembly

open Build Numeral

variable {w : World} {target v : Value} {m : Setter} {p : Param} {s t : State} {known : Bool}
  {type l a : TypeExpr} {scalar : ScalarType} {parameter text : String} {value : ShapedText}
  {names : List String} {count : Nat} {ts : List TypeExpr}

/-- The names of the types of maps that remember more than plain maps. -/
def orderedMapNames : List String := ["collections.OrderedDict", "typing.OrderedDict"]

/-- The names of the types that plain maps belong to. -/
def plainMapNames : List String := mapTypeNames.filter fun name => name ∉ orderedMapNames

namespace TypeExpr

/-- A type that is nothing but text, whichever way it is written. -/
def StandsForText (known : Bool) (t : TypeExpr) : Prop :=
  t.members known ≠ [] ∧ ∀ m ∈ t.members known, m = .scalar .text

/-- A type with one of these names: by itself, or with so many arguments, all of them text. -/
def IsOf (known : Bool) (names : List String) (count : Nat) : TypeExpr → Prop
  | .bare name => name ∈ names
  | .applied name arguments => name ∈ names ∧
    (arguments = [] ∨ arguments.length = count ∧ ∀ a ∈ arguments, a.StandsForText known)
  | _ => False

end TypeExpr

/-- A value is one of those that a member of a type stands for. -/
inductive Value.Inhabits (known : Bool) : TypeExpr → Value → Prop
  | anything (v : Value) : Inhabits known .anything v
  | root (v : Value) : Inhabits known (.instanceOf .root) v
  | text (s : String) : Inhabits known (.scalar .text) (.text s)
  | flag (b : Bool) : Inhabits known (.scalar .flag) (.flag b)
  | integer {n : Int} (lower : -2 ^ 63 ≤ n) (upper : n ≤ 2 ^ 63 - 1) :
      Inhabits known (.scalar .integer) (.integer n)
  | narrowInteger {n : Int} (lower : -2 ^ 31 ≤ n) (upper : n ≤ 2 ^ 31 - 1) :
      Inhabits known (.scalar .narrowInteger) (.integer n)
  | real {b : Binary} (double : Format.double.Has b) : Inhabits known (.scalar .real) (.real b)
  | narrowReal {b : Binary} (double : Format.double.Has b) (single : Format.single.Has b) :
      Inhabits known (.scalar .narrowReal) (.real b)
  | list {l : TypeExpr} (items : List String) (named : l.IsOf known listTypeNames 1) :
      Inhabits known l (listValue items)
  | map {l : TypeExpr} (entries : List (String × String)) (named : l.IsOf known plainMapNames 2) :
      Inhabits known l (mapValue entries)

/-- A value that a type which allows anything gets: what is written, unconverted. -/
def ShapedText.raw : ShapedText → Value
  | .scalar text => .text text
  | .list items => listValue items
  | .map entries => mapValue entries

/-- A setter states no type for its value, or one in quotes which it cannot look up. -/
def Setter.LeavesOpen (m : Setter) (p : Param) : Prop :=
  p.type? = none ∨ m.typesKnown = false ∧
    ((∃ t, p.type? = some (.quoted t)) ∨ ∃ name, p.type? = some (.forward name))

/-- The flaw of maps: a plain one where only maps that remember more may be given. -/
def OnlyOrdered (known : Bool) (type : TypeExpr) (v : Value) : Prop :=
  (∃ entries, v = mapValue entries) ∧
    (∃ l ∈ type.members known, l.IsOf known orderedMapNames 2) ∧
    ∀ l ∈ type.members known, l.isUntyped = false ∧ ¬ l.IsOf known plainMapNames 2

theorem isUntyped_member (hl : l ∈ type.members known) (h : (l.normal known).isUntyped = true) :
    l.isUntyped = true := by
  rcases TypeExpr.normal_member type hl with hn | ⟨name, arguments, rfl⟩
  · rwa [hn] at h
  · cases h

theorem inhabits_of_isUntyped (h : l.isUntyped = true) (v : Value) : v.Inhabits known l := by
  unfold TypeExpr.isUntyped at h
  split at h
  · exact .anything v
  · exact .root v
  · cases h

theorem isScalar_member (hl : l ∈ type.members known)
    (h : (l.normal known).isScalar scalar = true) : l = .scalar scalar := by
  rcases TypeExpr.normal_member type hl with hn | ⟨name, arguments, rfl⟩
  · rw [hn] at h
    cases l with
    | scalar c => rw [of_decide_eq_true h]
    | _ => cases h
  · cases h

theorem standsForText_of_isText (h : (a.normal known).isText = true) : a.StandsForText known := by
  have ha : a.normal known = .scalar .text := by
    generalize a.normal known = n at h
    unfold TypeExpr.isText at h
    split at h
    · rfl
    · cases h
  have hl (l : TypeExpr) : l = .scalar .text ↔ ∃ m ∈ a.members known, l = m.normal known := by
    rw [← TypeExpr.mem_leaves_normal, ha]
    simp [TypeExpr.leaves]
  constructor
  · obtain ⟨m, hm, -⟩ := (hl _).1 rfl
    exact List.ne_nil_of_mem hm
  · intro m hm
    have hn := (hl (m.normal known)).2 ⟨m, hm, rfl⟩
    exact isScalar_member hm (by rw [hn]; rfl)

theorem normals_eq_map (known : Bool) (ts : List TypeExpr) :
    TypeExpr.normals known ts = ts.map fun t => t.normal known := by
  induction ts with
  | nil => rfl
  | cons t ts ih => rw [TypeExpr.normals, ih, List.map_cons]

/-- Whether a type has one of these names, by itself or with so many texts as its arguments. -/
def TypeExpr.isNamed (names : List String) (count : Nat) : TypeExpr → Bool
  | .bare name => name ∈ names
  | .applied name arguments =>
    name ∈ names && (arguments.isEmpty || arguments.length = count && arguments.all isText)
  | _ => false

theorem isListType_eq : TypeExpr.isListType = TypeExpr.isNamed listTypeNames 1 := by
  funext t
  cases t <;> rfl

theorem isMapType_eq : TypeExpr.isMapType = TypeExpr.isNamed mapTypeNames 2 := by
  funext t
  cases t <;> rfl

theorem isOf_of_isNamed (hl : l ∈ type.members known)
    (h : (l.normal known).isNamed names count = true) : l.IsOf known names count := by
  have hn := TypeExpr.normal_member type hl
  cases l with
  | bare name => exact of_decide_eq_true (p := name ∈ names) h
  | applied name arguments =>
    simp only [TypeExpr.normal, TypeExpr.isNamed, normals_eq_map, Bool.and_eq_true,
      Bool.or_eq_true, decide_eq_true_eq, List.isEmpty_iff, List.map_eq_nil_iff, List.length_map,
      List.all_map, List.all_eq_true] at h
    obtain ⟨hname, rfl | ⟨hlength, htext⟩⟩ := h
    · exact ⟨hname, .inl rfl⟩
    · exact ⟨hname, .inr ⟨hlength, fun a ha => standsForText_of_isText (htext a ha)⟩⟩
  | _ =>
    obtain hn | ⟨name, arguments, hn⟩ := hn
    · rw [hn] at h
      cases h
    · cases hn

theorem isOf_mapType (h : l.IsOf known mapTypeNames 2) :
    l.IsOf known plainMapNames 2 ∨ l.IsOf known orderedMapNames 2 := by
  have hsplit {name : String} (hn : name ∈ mapTypeNames) :
      name ∈ plainMapNames ∨ name ∈ orderedMapNames := by
    by_cases ho : name ∈ orderedMapNames
    · exact .inr ho
    · exact .inl (List.mem_filter.2 ⟨hn, by simpa using ho⟩)
  cases l with
  | bare name => exact hsplit h
  | applied name arguments =>
    obtain ⟨hn, ha⟩ := h
    exact (hsplit hn).imp (⟨·, ha⟩) (⟨·, ha⟩)
  | _ => cases h

theorem readBounded_ok {bounds : Bounds} (h : readBounded bounds text = .ok v) :
    ∃ n, v = .integer n ∧ bounds.lower ≤ n ∧ n ≤ bounds.upper := by
  unfold readBounded at h
  split at h
  · cases h
  · rename_i n _
    split at h
    · rename_i hb
      obtain rfl := Except.ok.inj h
      simp only [Bounds.holds, Bool.and_eq_true, decide_eq_true_eq] at hb
      exact ⟨n, rfl, hb⟩
    · cases h

theorem orNoNumber_ok {b? : Option Binary} (h : orNoNumber b? = .ok v) :
    ∃ b, b? = some b ∧ v = .real b := by
  cases b? with
  | none => cases h
  | some b => exact ⟨b, rfl, (Except.ok.inj h).symm⟩

/-- Conversion to a scalar type gives a value of that type. -/
theorem parse_inhabits (known : Bool) (h : scalar.parse text = .ok v) :
    v.Inhabits known (.scalar scalar) := by
  cases scalar with
  | text =>
    obtain rfl := Except.ok.inj h
    exact .text text
  | flag =>
    unfold ScalarType.parse at h
    cases hf : readFlag? text with
    | none => simp [hf] at h
    | some b =>
      obtain rfl : Value.flag b = v := by simpa [hf] using h
      exact .flag b
  | integer =>
    obtain ⟨n, rfl, hl, hu⟩ := readBounded_ok h
    exact .integer hl hu
  | narrowInteger =>
    obtain ⟨n, rfl, hl, hu⟩ := readBounded_ok h
    exact .narrowInteger hl hu
  | real =>
    obtain ⟨b, hb, rfl⟩ := orNoNumber_ok h
    exact .real (readDouble?_has hb)
  | narrowReal =>
    obtain ⟨b, hb, rfl⟩ := orNoNumber_ok h
    obtain ⟨hd, hs⟩ := readSingle?_has hb
    exact .narrowReal hd hs

theorem knownType?_of_leavesOpen (h : m.LeavesOpen p) : m.knownType? p = none := by
  unfold Setter.knownType?
  rcases h with ht | ⟨hk, ⟨t, ht⟩ | ⟨name, ht⟩⟩
  · rw [ht]
  · rw [ht, hk]
  · rw [ht, hk]

theorem knownType?_of_stated (ht : p.type? = some type) (h : ¬ m.LeavesOpen p) :
    m.knownType? p = some (type.normal m.typesKnown) := by
  unfold Setter.knownType?
  rw [ht]
  cases hk : m.typesKnown with
  | true => cases type <;> rfl
  | false =>
    cases type with
    | quoted t => exact absurd (.inr ⟨hk, .inl ⟨t, ht⟩⟩) h
    | forward name => exact absurd (.inr ⟨hk, .inr ⟨name, ht⟩⟩) h
    | _ => rfl

theorem argument?_all (parameter : String) (value : ShapedText) :
    argument? .all parameter value = some (.ok value.raw) := by
  cases value <;> rfl

theorem parseFor_ok (h : scalar.parseFor parameter text = .ok v) : scalar.parse text = .ok v := by
  rw [ScalarType.parseFor] at h
  cases hp : scalar.parse text with
  | error e =>
    rw [hp] at h
    cases h
  | ok u =>
    rw [hp] at h
    obtain rfl : u = v := Except.ok.inj h
    rfl

/-- Where some member allows any value, the value is one of that member. -/
theorem inhabits_of_untyped
    (h : (type.normal known).leaves.any TypeExpr.isUntyped = true) (v : Value) :
    ∃ l ∈ type.members known, v.Inhabits known l := by
  obtain ⟨l, hl, hu⟩ := List.any_eq_true.1 h
  obtain ⟨n, hn, rfl⟩ := (TypeExpr.mem_leaves_normal type l).1 hl
  exact ⟨n, hn, inhabits_of_isUntyped (isUntyped_member hn hu) v⟩

theorem member_of_isNamed
    (h : (type.normal known).leaves.any (TypeExpr.isNamed names count) = true) :
    ∃ l ∈ type.members known, l.IsOf known names count := by
  obtain ⟨l, hl, hu⟩ := List.any_eq_true.1 h
  obtain ⟨n, hn, rfl⟩ := (TypeExpr.mem_leaves_normal type l).1 hl
  exact ⟨n, hn, isOf_of_isNamed hn hu⟩

/-- What is accepted under a type is a value of one of its members, but for the flaw of maps. -/
theorem argument?_inhabits
    (h : argument? (.ofLeaves (type.normal known).leaves) parameter value = some (.ok v)) :
    (∃ l ∈ type.members known, v.Inhabits known l) ∨ OnlyOrdered known type v := by
  by_cases hu : (type.normal known).leaves.any TypeExpr.isUntyped = true
  · exact .inl (inhabits_of_untyped hu v)
  simp only [Bool.not_eq_true] at hu
  cases value with
  | scalar text =>
    simp only [argument?, Acceptance.ofLeaves, hu, Bool.false_eq_true, if_false,
      Option.map_eq_some_iff] at h
    obtain ⟨scalar, hs, hv⟩ := h
    have hf := List.find?_some hs
    obtain ⟨l, hl, hi⟩ := List.any_eq_true.1 hf
    obtain ⟨n, hn, rfl⟩ := (TypeExpr.mem_leaves_normal type l).1 hl
    have he := isScalar_member hn hi
    exact .inl ⟨n, hn, he ▸ parse_inhabits known (parseFor_ok hv)⟩
  | list items =>
    simp only [argument?, Acceptance.ofLeaves, hu, Bool.false_or, isListType_eq] at h
    split at h
    · rename_i hn
      obtain rfl : listValue items = v := by simpa using h
      obtain ⟨l, hl, ho⟩ := member_of_isNamed hn
      exact .inl ⟨l, hl, .list items ho⟩
    · cases h
  | map entries =>
    simp only [argument?, Acceptance.ofLeaves, hu, Bool.false_or, isMapType_eq] at h
    split at h
    · rename_i hn
      obtain rfl : mapValue entries = v := by simpa using h
      obtain ⟨l, hl, ho⟩ := member_of_isNamed hn
      by_cases hi : ∃ k ∈ type.members known, (mapValue entries).Inhabits known k
      · exact .inl hi
      · have hnone {k : TypeExpr} (hk : k ∈ type.members known) :
            ¬ (mapValue entries).Inhabits known k := fun hin => hi ⟨k, hk, hin⟩
        refine .inr ⟨⟨entries, rfl⟩, ⟨l, hl, ?_⟩, ?_⟩
        · exact (isOf_mapType ho).resolve_left fun hp => hnone hl (.map entries hp)
        · intro k hk
          refine ⟨?_, fun hp => hnone hk (.map entries hp)⟩
          by_contra hku
          exact hnone hk (inhabits_of_isUntyped (by simpa using hku) _)
    · cases h

/-- The flaw is real: a plain map is a value of none of the members then. -/
theorem not_inhabits_of_onlyOrdered (h : OnlyOrdered known type v) :
    ¬ ∃ l ∈ type.members known, v.Inhabits known l := by
  obtain ⟨⟨entries, rfl⟩, -, hall⟩ := h
  rintro ⟨l, hl, hin⟩
  obtain ⟨hu, hp⟩ := hall l hl
  generalize hv : mapValue entries = v at hin
  cases hin with
  | anything | root => cases hu
  | list items => cases hv
  | map entries named => exact hp named
  | _ => cases hv

theorem argument_ok (h : argument s target parameter m p value = .ok v) :
    argument? (m.acceptance p) parameter value = some (.ok v) := by
  unfold argument at h
  cases ha : argument? (m.acceptance p) parameter value with
  | none => simp [ha] at h
  | some r => simpa [ha] using h

theorem argument_of_leavesOpen (ho : m.LeavesOpen p)
    (h : argument s target parameter m p value = .ok v) : v = value.raw := by
  have ha := argument_ok h
  rw [Setter.acceptance_eq, knownType?_of_leavesOpen ho, argument?_all] at ha
  exact (Except.ok.inj (Option.some.inj ha)).symm

theorem argument_inhabits_iff (ht : p.type? = some type) (ho : ¬ m.LeavesOpen p)
    (h : argument s target parameter m p value = .ok v) :
    (∃ l ∈ type.members m.typesKnown, v.Inhabits m.typesKnown l) ↔
      ¬ OnlyOrdered m.typesKnown type v := by
  have ha := argument_ok h
  rw [Setter.acceptance_eq, knownType?_of_stated ht ho] at ha
  constructor
  · intro hi hf
    exact not_inhabits_of_onlyOrdered hf hi
  · intro hf
    exact (argument?_inhabits ha).resolve_right hf

/-- What the body of a setter is begun with is a value of the type that the setter states for it. If
the setter states none, or one in quotes that it cannot look up, the value is what is written.
Otherwise it is a value of a member of the type, with one exact exception: where only maps that
remember more may be given, a plain map is. -/
theorem assign_inhabits_unless_ordered (w : World) (target : Value) (parameter : String)
    (value : ShapedText) (s : State) :
    ∃ r es t, (w.assign target parameter value).Runs s r es t ∧
      ∀ number? name v, Event.set number? name v ∈ es →
        ∃ m p, w.setter? s target (setterName parameter) = some m ∧
          receiver? m.params = some p ∧ name = setterName parameter ∧
          (m.LeavesOpen p → v = value.raw) ∧
          ∀ type, p.type? = some type → ¬ m.LeavesOpen p →
            ((∃ l ∈ type.members m.typesKnown, v.Inhabits m.typesKnown l) ↔
              ¬ OnlyOrdered m.typesKnown type v) := by
  obtain ⟨f, hf⟩ | ⟨m, p, v, hm, hv, hrun⟩ := assign_cases w target parameter value s
  · exact ⟨_, _, _, hf, by simp⟩
  have hevent (number? : Option Nat) (name : String) (u : Value)
      (he : Event.set number? name u ∈ [m.event target v]) : m.name = name ∧ v = u := by
    simp only [List.mem_singleton, Setter.event, Event.set.injEq] at he
    exact ⟨he.2.1.symm, he.2.2.symm⟩
  obtain ⟨hs, hr⟩ := findSetter_ok hm
  obtain ⟨r, t, hrun⟩ : ∃ r t, (w.assign target parameter value).Runs s r [m.event target v] t := by
    obtain ⟨f, hf⟩ | hd := hrun
    · exact ⟨_, _, hf⟩
    · exact ⟨_, _, hd⟩
  refine ⟨r, _, t, hrun, ?_⟩
  intro number? name u he
  obtain ⟨rfl, rfl⟩ := hevent number? name u he
  exact ⟨m, p, hs, hr, findSetter_name hm, fun ho => argument_of_leavesOpen ho hv,
    fun type ht ho => argument_inhabits_iff ht ho hv⟩

/-- A class whose instances want an ordered map. -/
def orderedOptions : ClassDecl where
  name := ⟨"shop", "Box"⟩
  bases := [.predefined .root]
  methods := []
  abstractMethods := []
  registeredWith := []
  constructor? := none
  setters := [⟨"set_options", .method,
    [⟨"value", .positional, some (.bare "collections.OrderedDict"), none⟩], none, none⟩]
  preparation? := none
  check? := none
  settingsHook? := none
  unreadable := false
  protocol? := none

/-- An ordered map is wanted, and a plain one is what the body gets. -/
theorem assign_plain_for_ordered :
    (∃ t, (World.assign ⟨[orderedOptions], [], [], []⟩ (.object 0) "options"
        (.map [("a", "1")])).Runs ⟨[⟨.own orderedOptions.name, []⟩], [], []⟩ (.ok ())
        [.set (some 0) "set_options" (mapValue [("a", "1")])] t) ∧
      ∀ known, ¬ ∃ l ∈ (TypeExpr.bare "collections.OrderedDict").members known,
        (mapValue [("a", "1")]).Inhabits known l := by
  refine ⟨⟨_, rfl, rfl⟩, ?_⟩
  intro known
  apply not_inhabits_of_onlyOrdered
  have hm : (TypeExpr.bare "collections.OrderedDict").members known =
      [.bare "collections.OrderedDict"] := rfl
  have hordered : "collections.OrderedDict" ∈ orderedMapNames := by decide
  have hplain : "collections.OrderedDict" ∉ plainMapNames := by decide
  refine ⟨⟨_, rfl⟩, ⟨.bare "collections.OrderedDict", by simp [hm], hordered⟩, ?_⟩
  intro l hl
  rw [hm, List.mem_singleton] at hl
  subst hl
  exact ⟨rfl, hplain⟩

end ComponentAssembly
