import ComponentAssembly.Proofs.Inhabiting
import ComponentAssembly.Proofs.Refusing

/-! Exactly when the body of a setter begins for a parameter, with which value, and what is reported
otherwise. -/

namespace ComponentAssembly

open Build

variable {w : World} {target v : Value} {m : Setter} {p : Param} {s t : State} {known : Bool}
  {type l : TypeExpr} {scalar : ScalarType} {parameter text : String} {value : ShapedText}
  {names : List String} {count : Nat} {f : Failure} {e : ConversionProblem}

/-- A type with one of these names: by itself, or with so many arguments, each of which is text and
nothing else once it is looked up. -/
def TypeExpr.Bears (known : Bool) (names : List String) (count : Nat) : TypeExpr → Prop
  | .bare name => name ∈ names
  | .applied name arguments => name ∈ names ∧
    (arguments = [] ∨ arguments.length = count ∧ ∀ a ∈ arguments, a.normal known = .scalar .text)
  | _ => False

namespace Setter

/-- The types between which a setter leaves the choice for its value. -/
def choices (m : Setter) (p : Param) : List TypeExpr :=
  (p.type?.map fun type => type.members m.typesKnown).getD []

/-- A setter takes any value: it states no type, or none that it can look up, or it leaves the choice
of any value or object. -/
def AllowsAnything (m : Setter) (p : Param) : Prop :=
  m.LeavesOpen p ∨ .anything ∈ m.choices p ∨ .instanceOf .root ∈ m.choices p

/-- The type that text is converted to: text where any value may be given, else the most preferred
scalar type among the choices. -/
inductive Converts (m : Setter) (p : Param) : ScalarType → Prop
  | unconverted (anything : m.AllowsAnything p) : m.Converts p .text
  | preferred {type : ScalarType} {before after : List ScalarType}
      (typed : ¬ m.AllowsAnything p) (order : ScalarType.all = before ++ type :: after)
      (stated : .scalar type ∈ m.choices p)
      (first : ∀ other ∈ before, .scalar other ∉ m.choices p) : m.Converts p type

/-- The shapes that a setter accepts for its value. -/
def Accepts (m : Setter) (p : Param) : Shape → Prop
  | .scalar => ∃ type, m.Converts p type
  | .list => m.AllowsAnything p ∨ ∃ l ∈ m.choices p, l.Bears m.typesKnown listTypeNames 1
  | .map => m.AllowsAnything p ∨ ∃ l ∈ m.choices p, l.Bears m.typesKnown mapTypeNames 2

/-- The value that a setter gets for a parameter: what its text is converted to, all its texts in
order, or all its entries in order. -/
inductive Gets (m : Setter) (p : Param) : ShapedText → Value → Prop
  | scalar {text : String} {type : ScalarType} {v : Value} (chosen : m.Converts p type)
      (parsed : type.parse text = .ok v) : m.Gets p (.scalar text) v
  | list {items : List String} (accepted : m.Accepts p .list) :
      m.Gets p (.list items) (.list (items.map .text))
  | map {entries : List (String × String)} (accepted : m.Accepts p .map) :
      m.Gets p (.map entries) (.map (entries.map fun e => (e.1, .text e.2)))

/-- An attribute can be called and has a signature that can be read. -/
def IsReadable (m : Setter) : Prop :=
  m.attachment = .method ∨ m.attachment = .static ∨ m.attachment = .classwide ∨
    m.attachment = .callable

end Setter

/-- A value has a setter for a parameter: its name is an identifier, the class has it, it can be called
and read, and its first parameter takes the value by position while all others may be left out. -/
structure World.Offers (w : World) (s : State) (target : Value) (parameter : String) (m : Setter)
    (p : Param) : Prop where
  named : Text.isIdentifier (setterName parameter).toList = true
  found : ∃ c, s.classOf? target = some c ∧ w.member? c (setterName parameter) = some (.setter m)
  readable : m.IsReadable
  takes : ∃ others, m.params = p :: others ∧ p.takesPosition = true ∧
    ∀ q ∈ others, q.mayBeLeftOut = true

/-! ### The type of the value -/

theorem any_leaves_normal (q : TypeExpr → Bool) :
    (type.normal known).leaves.any q = true ↔ ∃ l ∈ type.members known, q (l.normal known) = true := by
  rw [List.any_eq_true]
  constructor
  · rintro ⟨l, hl, hq⟩
    obtain ⟨n, hn, rfl⟩ := (TypeExpr.mem_leaves_normal type l).1 hl
    exact ⟨n, hn, hq⟩
  · rintro ⟨n, hn, hq⟩
    exact ⟨_, (TypeExpr.mem_leaves_normal type _).2 ⟨n, hn, rfl⟩, hq⟩

theorem isUntyped_iff : l.isUntyped = true ↔ l = .anything ∨ l = .instanceOf .root := by
  unfold TypeExpr.isUntyped
  split <;> simp_all

theorem isUntyped_normal_iff (hl : l ∈ type.members known) :
    (l.normal known).isUntyped = true ↔ l = .anything ∨ l = .instanceOf .root := by
  rw [← isUntyped_iff]
  refine ⟨isUntyped_member hl, fun h => ?_⟩
  obtain rfl | rfl := isUntyped_iff.1 h <;> rfl

theorem isScalar_normal_iff (hl : l ∈ type.members known) :
    (l.normal known).isScalar scalar = true ↔ l = .scalar scalar := by
  refine ⟨isScalar_member hl, ?_⟩
  rintro rfl
  exact decide_eq_true rfl

theorem isText_iff : l.isText = true ↔ l = .scalar .text := by
  unfold TypeExpr.isText
  split <;> simp_all

theorem isNamed_normal_iff (hl : l ∈ type.members known) :
    (l.normal known).isNamed names count = true ↔ l.Bears known names count := by
  have hn := TypeExpr.normal_member type hl
  cases l with
  | bare name => exact decide_eq_true_iff
  | applied name arguments =>
    simp only [TypeExpr.normal, TypeExpr.isNamed, TypeExpr.Bears, normals_eq_map, Bool.and_eq_true,
      Bool.or_eq_true, decide_eq_true_eq, List.isEmpty_iff, List.map_eq_nil_iff, List.length_map,
      List.all_map, List.all_eq_true, Function.comp_apply, isText_iff]
  | _ =>
    obtain hn | ⟨name, arguments, hn⟩ := hn
    · rw [hn]
      simp [TypeExpr.isNamed, TypeExpr.Bears]
    · cases hn

/-- What is accepted is decided by the choices that are left. -/
theorem acceptance_cases (m : Setter) (p : Param) :
    (m.LeavesOpen p ∧ m.acceptance p = .all) ∨ ¬ m.LeavesOpen p ∧ ∃ type : TypeExpr,
      m.choices p = type.members m.typesKnown ∧
        m.acceptance p = .ofLeaves (type.normal m.typesKnown).leaves := by
  by_cases ho : m.LeavesOpen p
  · exact .inl ⟨ho, by rw [Setter.acceptance_eq, knownType?_of_leavesOpen ho]⟩
  · cases ht : p.type? with
    | none => exact absurd (.inl ht) ho
    | some type =>
      refine .inr ⟨ho, type, by rw [Setter.choices, ht]; rfl, ?_⟩
      rw [Setter.acceptance_eq, knownType?_of_stated ht ho]

theorem any_isUntyped_iff (ho : ¬ m.LeavesOpen p) (hc : m.choices p = type.members m.typesKnown) :
    (type.normal m.typesKnown).leaves.any TypeExpr.isUntyped = true ↔ m.AllowsAnything p := by
  rw [any_leaves_normal, Setter.AllowsAnything, hc]
  constructor
  · rintro ⟨l, hl, hu⟩
    obtain rfl | rfl := (isUntyped_normal_iff hl).1 hu
    · exact .inr (.inl hl)
    · exact .inr (.inr hl)
  · rintro (h | hl | hl)
    · exact absurd h ho
    · exact ⟨_, hl, rfl⟩
    · exact ⟨_, hl, rfl⟩

theorem any_isScalar_iff (hc : m.choices p = type.members m.typesKnown) :
    (type.normal m.typesKnown).leaves.any (TypeExpr.isScalar scalar) = true ↔
      .scalar scalar ∈ m.choices p := by
  rw [any_leaves_normal, hc]
  constructor
  · rintro ⟨l, hl, hs⟩
    exact (isScalar_normal_iff hl).1 hs ▸ hl
  · intro hl
    exact ⟨_, hl, (isScalar_normal_iff hl).2 rfl⟩

theorem any_isNamed_iff (hc : m.choices p = type.members m.typesKnown) :
    (type.normal m.typesKnown).leaves.any (TypeExpr.isNamed names count) = true ↔
      ∃ l ∈ m.choices p, l.Bears m.typesKnown names count := by
  rw [any_leaves_normal, hc]
  constructor
  · rintro ⟨l, hl, hn⟩
    exact ⟨l, hl, (isNamed_normal_iff hl).1 hn⟩
  · rintro ⟨l, hl, hb⟩
    exact ⟨l, hl, (isNamed_normal_iff hl).2 hb⟩

theorem converts_of_allowsAnything (h : m.AllowsAnything p) : m.Converts p scalar ↔ scalar = .text := by
  constructor
  · intro hc
    cases hc with
    | unconverted => rfl
    | preferred typed => exact absurd h typed
  · rintro rfl
    exact .unconverted h

/-- The scalar type that is accepted is the one that text is converted to. -/
theorem scalar?_eq_some_iff : (m.acceptance p).scalar? = some scalar ↔ m.Converts p scalar := by
  obtain ⟨ho, ha⟩ | ⟨ho, type, hc, ha⟩ := acceptance_cases m p
  · rw [ha, converts_of_allowsAnything (.inl ho)]
    simp [Acceptance.all, eq_comm]
  have hany := any_isUntyped_iff ho hc
  by_cases hu : m.AllowsAnything p
  · rw [ha, converts_of_allowsAnything hu]
    simp [Acceptance.ofLeaves, hany.2 hu, eq_comm]
  · have hf : (type.normal m.typesKnown).leaves.any TypeExpr.isUntyped = false := by
      simpa using fun h => hu (hany.1 h)
    simp only [ha, Acceptance.ofLeaves, hf, Bool.false_eq_true, if_false,
      List.find?_eq_some_iff_append]
    constructor
    · rintro ⟨hs, before, after, horder, hfirst⟩
      refine .preferred hu horder ((any_isScalar_iff hc).1 hs) fun other ho => ?_
      rw [← any_isScalar_iff hc]
      simpa using hfirst other ho
    · intro h
      cases h with
      | unconverted anything => exact absurd anything hu
      | preferred typed order stated first =>
        refine ⟨(any_isScalar_iff hc).2 stated, _, _, order, fun other ho => ?_⟩
        have hn := first other ho
        rw [← any_isScalar_iff hc] at hn
        simpa using hn

theorem list_iff : (m.acceptance p).list = true ↔ m.Accepts p .list := by
  obtain ⟨ho, ha⟩ | ⟨ho, type, hc, ha⟩ := acceptance_cases m p
  · rw [ha]
    exact ⟨fun _ => .inl (.inl ho), fun _ => rfl⟩
  · rw [ha, Setter.Accepts, ← any_isUntyped_iff ho hc, ← any_isNamed_iff hc, ← isListType_eq,
      ← Bool.or_eq_true]
    rfl

theorem map_iff : (m.acceptance p).map = true ↔ m.Accepts p .map := by
  obtain ⟨ho, ha⟩ | ⟨ho, type, hc, ha⟩ := acceptance_cases m p
  · rw [ha]
    exact ⟨fun _ => .inl (.inl ho), fun _ => rfl⟩
  · rw [ha, Setter.Accepts, ← any_isUntyped_iff ho hc, ← any_isNamed_iff hc, ← isMapType_eq,
      ← Bool.or_eq_true]
    rfl

/-! ### The value -/

/-- The chosen type decides what becomes of a text; no other one that is stated is tried. -/
theorem argument_scalar (hc : m.Converts p scalar) :
    argument s target parameter m p (.scalar text) = scalar.parseFor parameter text := by
  simp only [argument, argument?, scalar?_eq_some_iff.2 hc, Option.map_some, Option.getD_some]

theorem argument_of_gets (h : m.Gets p value v) :
    argument s target parameter m p value = .ok v := by
  cases h with
  | scalar chosen parsed =>
    rw [argument_scalar chosen, ScalarType.parseFor, parsed]
    rfl
  | list accepted =>
    simp only [argument, argument?, list_iff.2 accepted]
    rfl
  | map accepted =>
    simp only [argument, argument?, map_iff.2 accepted]
    rfl

theorem gets_of_argument (h : argument s target parameter m p value = .ok v) : m.Gets p value v := by
  have ha := argument_ok h
  cases value with
  | scalar text =>
    obtain ⟨type, hs, hv⟩ := Option.map_eq_some_iff.1 ha
    exact .scalar (scalar?_eq_some_iff.1 hs) (parseFor_ok hv)
  | list items =>
    simp only [argument?] at ha
    split at ha
    · rename_i hl
      obtain rfl := Except.ok.inj (Option.some.inj ha)
      exact .list (list_iff.1 hl)
    · cases ha
  | map entries =>
    simp only [argument?] at ha
    split at ha
    · rename_i hm
      obtain rfl := Except.ok.inj (Option.some.inj ha)
      exact .map (map_iff.1 hm)
    · cases ha

theorem converts_unique {other : ScalarType} (h : m.Converts p scalar) (k : m.Converts p other) :
    scalar = other :=
  Option.some.inj ((scalar?_eq_some_iff.2 h).symm.trans (scalar?_eq_some_iff.2 k))

/-- Where text is not converted, a setter gets what is written. -/
theorem raw_of_gets (h : m.Gets p value v) (hc : m.Converts p .text) : v = value.raw := by
  cases h with
  | scalar chosen parsed =>
    obtain rfl := converts_unique chosen hc
    exact (Except.ok.inj parsed).symm
  | list => rfl
  | map => rfl

theorem argument_of_not_accepts (h : ¬ m.Accepts p value.shape) :
    argument s target parameter m p value =
      .error (.noSetter parameter m.name (some value.shape) (s.quotedType target)) := by
  have ha : argument? (m.acceptance p) parameter value = none := by
    cases value with
    | scalar text =>
      have hs : (m.acceptance p).scalar? = none := by
        rw [Option.eq_none_iff_forall_not_mem]
        intro type ht
        exact h ⟨type, scalar?_eq_some_iff.1 ht⟩
      rw [argument?, hs, Option.map_none]
    | list items =>
      have hl : ¬ (m.acceptance p).list = true := fun hl => h (list_iff.1 hl)
      rw [argument?, if_neg hl]
    | map entries =>
      have hm : ¬ (m.acceptance p).map = true := fun hm => h (map_iff.1 hm)
      rw [argument?, if_neg hm]
  rw [argument, ha, Option.getD_none]

theorem argument_of_unparsed (hc : m.Converts p scalar) (he : scalar.parse text = .error e) :
    argument s target parameter m p (.scalar text) =
      .error (.unconvertible parameter text scalar e) := by
  rw [argument_scalar hc, ScalarType.parseFor, he]
  rfl

/-- If the shape is accepted, only a text can fail, by being no value of the chosen type. -/
theorem gets_or_unparsed (h : m.Accepts p value.shape) : (∃ v, m.Gets p value v) ∨
    ∃ text type e, value = .scalar text ∧ m.Converts p type ∧ type.parse text = .error e := by
  cases value with
  | scalar text =>
    obtain ⟨type, hc⟩ := h
    cases hp : type.parse text with
    | ok v => exact .inl ⟨v, .scalar hc hp⟩
    | error e => exact .inr ⟨text, type, e, rfl, hc, hp⟩
  | list items => exact .inl ⟨_, .list h⟩
  | map entries => exact .inl ⟨_, .map h⟩

/-! ### The setter -/

theorem receiver?_eq_some_iff {params : List Param} : receiver? params = some p ↔
    ∃ others, params = p :: others ∧ p.takesPosition = true ∧
      ∀ q ∈ others, q.mayBeLeftOut = true := by
  cases params with
  | nil => simp [receiver?]
  | cons q others =>
    simp only [receiver?, Option.ite_none_right_eq_some, Bool.and_eq_true, List.all_eq_true,
      Option.some.injEq, List.cons.injEq]
    constructor
    · rintro ⟨⟨hq, ho⟩, rfl⟩
      exact ⟨others, ⟨rfl, rfl⟩, hq, ho⟩
    · rintro ⟨_, ⟨rfl, rfl⟩, hq, ho⟩
      exact ⟨⟨hq, ho⟩, rfl⟩

theorem usable?_eq_some_iff :
    m.usable? = .ok (some p) ↔ m.IsReadable ∧ receiver? m.params = some p := by
  unfold Setter.usable? Setter.IsReadable
  cases m.attachment with
  | property raises? =>
    cases raises? with
    | none => simp
    | some r =>
      dsimp only
      split <;> simp
  | _ => simp

theorem setter?_eq_some_iff {name : String} : w.setter? s target name = some m ↔
    ∃ c, s.classOf? target = some c ∧ w.member? c name = some (.setter m) := by
  refine ⟨setter?_eq_some, ?_⟩
  rintro ⟨c, hc, hm⟩
  rw [World.setter?, hc, Option.bind_some, hm]

/-- A setter is found exactly if the value has one for the parameter. -/
theorem findSetter_ok_iff :
    w.findSetter s target parameter = .ok (m, p) ↔ w.Offers s target parameter m p := by
  constructor
  · intro h
    obtain ⟨hs, hr⟩ := findSetter_ok h
    have hn : Text.isIdentifier (setterName parameter).toList = true := by
      by_contra hn
      rw [Bool.not_eq_true] at hn
      simp [World.findSetter, hn] at h
    have hu : m.usable? = .ok (some p) := by
      simp only [World.findSetter, hn, hs] at h
      cases hu : m.usable? with
      | error f => simp [hu] at h
      | ok p? => cases p? <;> simp_all
    exact ⟨hn, setter?_eq_some hs, (usable?_eq_some_iff.1 hu).1, receiver?_eq_some_iff.1 hr⟩
  · rintro ⟨hn, hf, hr, ht⟩
    have hu := usable?_eq_some_iff.2 ⟨hr, receiver?_eq_some_iff.2 ht⟩
    simp [World.findSetter, hn, setter?_eq_some_iff.2 hf, hu]

/-- Without a setter none is found, unless reading the attribute raises. -/
theorem assign_unoffered (hr : ∀ r, ¬ w.ReadingRaises s target parameter r)
    (h : ¬ ∃ m p, w.Offers s target parameter m p) :
    (w.assign target parameter value).Runs s
      (.error (.noSetter parameter (setterName parameter) none (s.quotedType target))) [] s := by
  cases hm : w.findSetter s target parameter with
  | error f =>
    obtain rfl | ⟨r, hread, -⟩ := findSetter_error_cases hm
    · exact assign_unfound hm
    · exact absurd hread (hr r)
  | ok found => exact absurd ⟨found.1, found.2, findSetter_ok_iff.1 hm⟩ h

theorem assign_unaccepted (ho : w.Offers s target parameter m p)
    (h : ¬ m.Accepts p value.shape) :
    (w.assign target parameter value).Runs s (.error (.noSetter parameter (setterName parameter)
      (some value.shape) (s.quotedType target))) [] s := by
  have hm := findSetter_ok_iff.2 ho
  rw [← findSetter_name hm]
  exact assign_unfit hm (argument_of_not_accepts h)

theorem assign_unconverted (ho : w.Offers s target parameter m p) (hc : m.Converts p scalar)
    (he : scalar.parse text = .error e) :
    (w.assign target parameter (.scalar text)).Runs s
      (.error (.unconvertible parameter text scalar e)) [] s :=
  assign_unfit (findSetter_ok_iff.2 ho) (argument_of_unparsed hc he)

/-- What the body of a setter raises is the cause of a failure about the parameter. -/
theorem assign_raises {r : Raise} (ho : w.Offers s target parameter m p) (hg : m.Gets p value v)
    (hr : m.raises? = some r) (ha : r.applies v = true) :
    (w.assign target parameter value).Runs s
      (.error (.setterFailed parameter (setterName parameter) r.failure)) [m.event target v]
      (s.writing [m.event target v]) := by
  have hm := findSetter_ok_iff.2 ho
  have hthrow : raise m.raises? v = throw r.failure := by
    rw [hr, raise, if_pos ha, Raise.failure]
  rw [← findSetter_name hm]
  exact assign_called hm (argument_of_gets hg) (callSetter_fails hthrow target s)

theorem assign_returns (ho : w.Offers s target parameter m p) (hg : m.Gets p value v)
    (hn : ∀ r, m.raises? = some r → r.applies v = false) :
    (w.assign target parameter value).Runs s (.ok ()) [m.event target v]
      ((s.writing [m.event target v]).keeping target m v) := by
  have hpure : raise m.raises? v = pure () := by
    cases hr : m.raises? with
    | none => rfl
    | some r => rw [raise, if_neg (by simp [hn r hr])]
  exact assign_called (findSetter_ok_iff.2 ho) (argument_of_gets hg)
    (callSetter_returns hpure target s)

/-- In either case its body begins with the value that it gets. -/
theorem assign_begins (ho : w.Offers s target parameter m p) (hg : m.Gets p value v) :
    ∃ q t, (w.assign target parameter value).Runs s q
      [.set (m.instance? target) (setterName parameter) v] t := by
  have hm := findSetter_ok_iff.2 ho
  rw [← findSetter_name hm]
  obtain ⟨f, hf⟩ | hd := callSetter_cases target m v s
  · exact ⟨_, _, assign_called hm (argument_of_gets hg) hf⟩
  · exact ⟨_, _, assign_called hm (argument_of_gets hg) hd⟩

/-- Otherwise nothing begins and nothing changes. -/
theorem assign_begins_nothing (hr : ∀ r, ¬ w.ReadingRaises s target parameter r)
    (h : ¬ ∃ m p v, w.Offers s target parameter m p ∧ m.Gets p value v) :
    ∃ f, (w.assign target parameter value).Runs s (.error f) [] s := by
  by_cases hm : ∃ m p, w.Offers s target parameter m p
  · obtain ⟨m, p, ho⟩ := hm
    by_cases ha : m.Accepts p value.shape
    · obtain ⟨v, hg⟩ | ⟨text, type, e, rfl, hc, he⟩ := gets_or_unparsed ha
      · exact absurd ⟨m, p, v, ho, hg⟩ h
      · exact ⟨_, assign_unconverted ho hc he⟩
    · exact ⟨_, assign_unaccepted ho ha⟩
  · exact ⟨_, assign_unoffered hr hm⟩

/-- Exactly when the body of a setter begins for a parameter, and with what, where reading the
attribute raises nothing. If the value has a setter for the parameter and the setter gets a value, its
body begins exactly once, with that value, which is what is written unless the setter states a type
that text is converted to. What the body raises is the cause of a failure about the parameter; if it
raises nothing, the parameter is set. In every other case no body begins, nothing changes and there is
a failure: that no setter is found, or none that accepts the shape; or, whatever other types are
stated, that a text is no value of the chosen one. -/
theorem assign_calls_exactly (value : ShapedText)
    (hr : ∀ r, ¬ w.ReadingRaises s target parameter r) :
    ∃ q es t, (w.assign target parameter value).Runs s q es t ∧
      (∀ m p v, w.Offers s target parameter m p → m.Gets p value v →
        es = [.set (m.instance? target) (setterName parameter) v] ∧
        (m.Converts p .text → v = value.raw) ∧
        (∀ r, m.raises? = some r → r.applies v = true →
          q = .error (.setterFailed parameter (setterName parameter) r.failure) ∧
            t = s.writing es) ∧
        ((∀ r, m.raises? = some r → r.applies v = false) →
          q = .ok () ∧ t = (s.writing es).keeping target m v)) ∧
      ((¬ ∃ m p v, w.Offers s target parameter m p ∧ m.Gets p value v) →
        (∃ f, q = .error f) ∧ es = [] ∧ t = s) ∧
      ((¬ ∃ m p, w.Offers s target parameter m p) →
        q = .error (.noSetter parameter (setterName parameter) none (s.quotedType target))) ∧
      (∀ m p, w.Offers s target parameter m p → ¬ m.Accepts p value.shape →
        q = .error (.noSetter parameter (setterName parameter) (some value.shape)
          (s.quotedType target))) ∧
      ∀ m p type text e, w.Offers s target parameter m p → m.Converts p type →
        value = .scalar text → type.parse text = .error e →
          q = .error (.unconvertible parameter text type e) := by
  obtain ⟨q, es, t, hq⟩ := assign_writes w target parameter value s
  refine ⟨q, es, t, hq, ?_, ?_, ?_, ?_, ?_⟩
  · intro m p v ho hg
    obtain ⟨_, _, hbegins⟩ := assign_begins ho hg
    refine ⟨(hq.unique hbegins).2.1, raw_of_gets hg, fun r hr ha => ?_, fun hn => ?_⟩
    · obtain ⟨rfl, rfl, rfl⟩ := hq.unique (assign_raises ho hg hr ha)
      exact ⟨rfl, rfl⟩
    · obtain ⟨rfl, rfl, rfl⟩ := hq.unique (assign_returns ho hg hn)
      exact ⟨rfl, rfl⟩
  · intro hn
    obtain ⟨f, hf⟩ := assign_begins_nothing hr hn
    obtain ⟨rfl, hsame⟩ := hq.unique hf
    exact ⟨⟨f, rfl⟩, hsame⟩
  · intro hn
    exact (hq.unique (assign_unoffered hr hn)).1
  · intro m p ho hn
    exact (hq.unique (assign_unaccepted ho hn)).1
  · rintro m p type text e ho hc rfl he
    exact (hq.unique (assign_unconverted ho hc he)).1

/-- A size that is an integer or a flag. -/
def sizeParam : Param :=
  ⟨"value", .positional, some (.oneOf [.scalar .integer, .scalar .flag]), none⟩

/-- A setter of such a size. -/
def sizeSetter : Setter := ⟨"set_size", .method, [sizeParam], none, none⟩

/-- A world with one class, whose instances have a size. -/
def sizeWorld : World := ⟨[{ plainClass "Box" with setters := [sizeSetter] }], [], [], []⟩

/-- One instance of that class. -/
def sizeState : State := ⟨[⟨.own (plainClass "Box").name, []⟩], [], []⟩

/-- A flag is preferred to an integer, also where the text writes an integer. -/
theorem assign_calls_exactly_box :
    (∃ t, (sizeWorld.assign (.object 0) "size" (.scalar "true")).Runs sizeState (.ok ())
        [.set (some 0) "set_size" (.flag true)] t) ∧
      ∃ es t, (sizeWorld.assign (.object 0) "size" (.scalar "5")).Runs sizeState
        (.error (.unconvertible "size" "5" .flag (.noFlag "5"))) es t := by
  have hs : sizeWorld.setter? sizeState (.object 0) (setterName "size") = some sizeSetter := rfl
  have hr : ∀ r, ¬ sizeWorld.ReadingRaises sizeState (.object 0) "size" r := by
    rintro r ⟨-, ⟨m, hm, ha⟩, -, -⟩
    obtain rfl := Option.some.inj (hm.symm.trans hs)
    cases ha
  have ho : sizeWorld.Offers sizeState (.object 0) "size" sizeSetter sizeParam :=
    ⟨rfl, setter?_eq_some hs, .inl rfl, [], rfl, rfl, by simp⟩
  have hchoices : sizeSetter.choices sizeParam = [.scalar .integer, .scalar .flag] := rfl
  have typed : ¬ sizeSetter.AllowsAnything sizeParam := by
    rintro ((ht | ⟨hk, -⟩) | ha | ha)
    · cases ht
    · cases hk
    · simp [hchoices] at ha
    · simp [hchoices] at ha
  have order : ScalarType.all =
      [.text] ++ .flag :: [.integer, .narrowInteger, .real, .narrowReal] := rfl
  have hc : sizeSetter.Converts sizeParam .flag :=
    .preferred typed order (by simp [hchoices]) (by simp [hchoices])
  constructor
  · obtain ⟨q, es, t, hq, hgets, -⟩ := assign_calls_exactly (.scalar "true") hr
    obtain ⟨rfl, -, -, hreturns⟩ := hgets _ _ (.flag true) ho (.scalar hc rfl)
    obtain ⟨rfl, -⟩ := hreturns nofun
    exact ⟨t, hq⟩
  · obtain ⟨q, es, t, hq, -, -, -, -, hfails⟩ := assign_calls_exactly (.scalar "5") hr
    obtain rfl := hfails _ _ _ _ (.noFlag "5") ho hc rfl rfl
    exact ⟨es, t, hq⟩

end ComponentAssembly
