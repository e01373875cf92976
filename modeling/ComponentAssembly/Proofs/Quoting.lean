import ComponentAssembly.Proofs.Accepting

/-! The types that a setter states beside that of its value matter in one way only: where one of them
cannot be looked up, the quoted parts of the type of the value are not looked up either. -/

namespace ComponentAssembly

open Build

variable {a b : Holder} {m m' : Setter} {p p' : Param} {type : TypeExpr} {x y : Verdict}
  {scalar other : ScalarType} {scalar? other? : Option ScalarType} {parameter : String}
  {value : ShapedText}

mutual

/-- Whether nothing in a type stands in quotes. -/
def TypeExpr.isUnquoted : TypeExpr → Bool
  | .applied _ arguments => areUnquoted arguments
  | .oneOf members => areUnquoted members
  | .annotated t _ => t.isUnquoted
  | .quoted _ | .forward _ => false
  | _ => true

/-- Whether nothing in a row of types stands in quotes. -/
def areUnquoted : List TypeExpr → Bool
  | [] => true
  | t :: ts => t.isUnquoted && areUnquoted ts

end

mutual

/-- A type as it is written without quotes. -/
def TypeExpr.unquoted : TypeExpr → TypeExpr
  | .applied name arguments => .applied name (allUnquoted arguments)
  | .oneOf members => .oneOf (allUnquoted members)
  | .annotated t note => .annotated t.unquoted note
  | .quoted t => t.unquoted
  | t => t

/-- The types of a row as they are written without quotes. -/
def allUnquoted : List TypeExpr → List TypeExpr
  | [] => []
  | t :: ts => t.unquoted :: allUnquoted ts

end

/-- Nothing in the type that is stated for a parameter stands in quotes. -/
def Param.IsUnquoted (p : Param) : Prop := ∀ type, p.type? = some type → type.isUnquoted = true

/-! ### The same type, looked up or not -/

mutual

/-- Without quotes there is nothing to look up. -/
theorem normal_of_isUnquoted (t : TypeExpr) (h : t.isUnquoted = true) (known known' : Bool) :
    t.normal known = t.normal known' := by
  cases t with
  | applied name arguments =>
    rw [TypeExpr.normal, TypeExpr.normal, normals_of_areUnquoted arguments h known known']
  | oneOf members =>
    rw [TypeExpr.normal, TypeExpr.normal, normals_of_areUnquoted members h known known']
  | annotated t note =>
    rw [TypeExpr.normal, TypeExpr.normal, normal_of_isUnquoted t h known known']
  | quoted t => cases h
  | forward name => cases h
  | _ => rfl

theorem normals_of_areUnquoted (ts : List TypeExpr) (h : areUnquoted ts = true)
    (known known' : Bool) : TypeExpr.normals known ts = TypeExpr.normals known' ts := by
  cases ts with
  | nil => rfl
  | cons t ts =>
    rw [areUnquoted, Bool.and_eq_true] at h
    rw [TypeExpr.normals, TypeExpr.normals, normal_of_isUnquoted t h.1 known known',
      normals_of_areUnquoted ts h.2 known known']

end

mutual

/-- A type that is looked up is the same with and without quotes. -/
theorem normal_unquoted (t : TypeExpr) : t.unquoted.normal true = t.normal true := by
  cases t with
  | applied name arguments =>
    rw [TypeExpr.unquoted, TypeExpr.normal, TypeExpr.normal, normals_allUnquoted arguments]
  | oneOf members =>
    rw [TypeExpr.unquoted, TypeExpr.normal, TypeExpr.normal, normals_allUnquoted members]
  | annotated t note =>
    rw [TypeExpr.unquoted, TypeExpr.normal, TypeExpr.normal, normal_unquoted t]
  | quoted t =>
    rw [TypeExpr.unquoted, TypeExpr.normal, if_pos rfl]
    exact normal_unquoted t
  | _ => rfl

theorem normals_allUnquoted (ts : List TypeExpr) :
    TypeExpr.normals true (allUnquoted ts) = TypeExpr.normals true ts := by
  cases ts with
  | nil => rfl
  | cons t ts =>
    rw [allUnquoted, TypeExpr.normals, TypeExpr.normals, normal_unquoted t, normals_allUnquoted ts]

end

theorem knownType?_of_isUnquoted (m : Setter) (h : p.IsUnquoted) :
    m.knownType? p = p.type?.map fun type => type.normal true := by
  cases ht : p.type? with
  | none => rw [Setter.knownType?, ht, Option.map_none]
  | some type =>
    have hu := h type ht
    have closed : ¬ m.LeavesOpen p := by
      rintro (hn | ⟨-, ⟨t, hq⟩ | ⟨name, hq⟩⟩)
      · cases ht.symm.trans hn
      · obtain rfl := Option.some.inj (ht.symm.trans hq)
        cases hu
      · obtain rfl := Option.some.inj (ht.symm.trans hq)
        cases hu
    rw [knownType?_of_stated ht closed, Option.map_some, normal_of_isUnquoted type hu]

/-- A setter that can look up its types, or need not, knows the type of a parameter. -/
theorem knownType?_of_known (h : m.typesKnown = true ∨ p.IsUnquoted) :
    m.knownType? p = p.type?.map fun type => type.normal true := by
  obtain hk | hu := h
  · rw [Setter.knownType?, hk]
    cases p.type? with
    | none => rfl
    | some type => cases type <;> rfl
  · exact knownType?_of_isUnquoted m hu

/-- A setter knows or does not know the type of its value as another one does: both know it, and it is
the same up to quotes; or it is written alike, and both can look up their types or neither can. -/
def KnowsAlike (m m' : Setter) (p p' : Param) : Prop :=
  ((m.typesKnown = true ∨ p.IsUnquoted) ∧ (m'.typesKnown = true ∨ p'.IsUnquoted)) ∨
    p'.type? = p.type? ∧ m.typesKnown = m'.typesKnown

theorem knownType?_congr (ht : p'.type?.map TypeExpr.unquoted = p.type?.map TypeExpr.unquoted)
    (h : KnowsAlike m m' p p') : m'.knownType? p' = m.knownType? p := by
  have looked (q : Param) : (q.type?.map fun type => type.normal true) =
      (q.type?.map TypeExpr.unquoted).map fun type => type.normal true := by
    rw [Option.map_map]
    exact congrFun (congrArg _ (funext fun type => (normal_unquoted type).symm)) q.type?
  obtain ⟨hk, hk'⟩ | ⟨hsame, hk⟩ := h
  · rw [knownType?_of_known hk, knownType?_of_known hk', looked p, looked p', ht]
  · rw [Setter.knownType?, Setter.knownType?, hsame, hk]

theorem acceptance_congr (ht : p'.type?.map TypeExpr.unquoted = p.type?.map TypeExpr.unquoted)
    (h : KnowsAlike m m' p p') : m'.acceptance p' = m.acceptance p := by
  rw [Setter.acceptance_eq, Setter.acceptance_eq, knownType?_congr ht h]

/-! ### What is treated alike is accepted alike -/

/-- A text that a scalar type reads, and that no type to which it is preferred reads the same. -/
def ScalarType.sample : ScalarType → String
  | .text => "x"
  | .flag => "true"
  | .integer => "2147483648"
  | .narrowInteger => "5"
  | .real => "1e39"
  | .narrowReal => "0"

/-- Some text is read by one of two scalar types and not read the same by the other. -/
def ToldApart (scalar other : ScalarType) : Prop :=
  ∃ text, (scalar.parse text).toOption ≠ (other.parse text).toOption

/-- The sample of each type tells it apart from those after it, already by the type of what is read. -/
theorem toldApart_in_order : ScalarType.all.Pairwise ToldApart := by
  have hnames : ScalarType.all.Pairwise fun scalar other =>
      (scalar.parse scalar.sample).toOption.map Value.typeName? ≠
        (other.parse scalar.sample).toOption.map Value.typeName? := by
    decide +kernel
  refine hnames.imp fun {scalar other} hne => ⟨scalar.sample, fun he => hne ?_⟩
  rw [he]

theorem toldApart_of_ne (h : scalar ≠ other) : ToldApart scalar other := by
  have : Std.Symm ToldApart := ⟨fun _ _ ⟨text, hne⟩ => ⟨text, hne.symm⟩⟩
  exact toldApart_in_order.forall (mem_scalarTypes scalar) (mem_scalarTypes other) h

/-- Each scalar type reads some text. -/
theorem exists_parsed (scalar : ScalarType) :
    ∃ text v, scalar.parse text = .ok v := by
  refine ⟨scalar.sample, ?_⟩
  cases scalar <;> exact ⟨_, rfl⟩

/-- The scalar type that texts are converted to, if there is one, shows in what becomes of them. -/
theorem eq_of_same_parsed
    (h : ∀ text, scalar?.bind (fun t => (t.parse text).toOption) =
      other?.bind fun t => (t.parse text).toOption) : scalar? = other? := by
  cases scalar? with
  | none =>
    cases other? with
    | none => rfl
    | some other =>
      obtain ⟨text, v, hv⟩ := exists_parsed other
      have ht := h text
      simp [hv, Except.toOption] at ht
  | some scalar =>
    cases other? with
    | none =>
      obtain ⟨text, v, hv⟩ := exists_parsed scalar
      have ht := h text
      simp [hv, Except.toOption] at ht
    | some other =>
      by_contra hne
      obtain ⟨text, ht⟩ := toldApart_of_ne fun he => hne (congrArg some he)
      exact ht (h text)

/-- The value that the body of a setter begins with, by what the setter accepts. -/
theorem value?_verdict (a : Holder) (m : Setter) (p : Param) (parameter : String)
    (value : ShapedText) : (a.verdict m p parameter value).value? =
      (argument? (m.acceptance p) parameter value).bind Except.toOption := by
  unfold Holder.verdict argument
  cases argument? (m.acceptance p) parameter value with
  | none => rfl
  | some r =>
    cases r with
    | error f => rfl
    | ok v =>
      simp only [Option.getD_some, Option.bind_some]
      cases m.raises?.filter fun r => r.applies v <;> rfl

theorem argument?_of_treatAlike (ho : a.Offers parameter m p) (ho' : b.Offers parameter m' p')
    (h : a.TreatAlike b m m' parameter value) :
    (argument? (m.acceptance p) parameter value).bind Except.toOption =
      (argument? (m'.acceptance p') parameter value).bind Except.toOption := by
  obtain ⟨x, y, hx, hy, hvalue, -⟩ := h
  rw [← value?_verdict a, ← value?_verdict b,
    (comesTo_unique (comesTo_verdict ho value) hx).1, hvalue,
    (comesTo_unique hy (comesTo_verdict ho' value)).1]

theorem toOption_parseFor (scalar : ScalarType) (parameter text : String) :
    (scalar.parseFor parameter text).toOption = (scalar.parse text).toOption := by
  rw [ScalarType.parseFor]
  cases scalar.parse text <;> rfl

theorem acceptance_of_treatAlike (ho : a.Offers parameter m p) (ho' : b.Offers parameter m' p')
    (h : ∀ value, a.TreatAlike b m m' parameter value) : m'.acceptance p' = m.acceptance p := by
  have hargument (value : ShapedText) := argument?_of_treatAlike ho ho' (h value)
  generalize m.acceptance p = accepted at hargument
  generalize m'.acceptance p' = accepted' at hargument
  obtain ⟨list, map, scalar?⟩ := accepted
  obtain ⟨list', map', scalar?'⟩ := accepted'
  have hlist : list = list' := by
    have hl := hargument (.list [])
    cases list <;> cases list' <;> simp [argument?, Except.toOption] at hl ⊢
  have hmap : map = map' := by
    have hm := hargument (.map [])
    cases map <;> cases map' <;> simp [argument?, Except.toOption] at hm ⊢
  have hscalar : scalar? = scalar?' := by
    refine eq_of_same_parsed fun text => ?_
    have ht := hargument (.scalar text)
    simpa only [argument?, Option.bind_map, Function.comp_def, toOption_parseFor] using ht
  rw [hlist, hmap, hscalar]

theorem treatAlike_of_acceptance (ho : a.Offers parameter m p) (ho' : b.Offers parameter m' p')
    (h : m.AlikeButTypes m') (ha : m'.acceptance p' = m.acceptance p) (value : ShapedText) :
    a.TreatAlike b m m' parameter value :=
  treatAlike_of_sameOutcome (sameOutcome_of_acceptance ho ho' h ha value)

theorem acceptance_eq_iff : m'.acceptance p' = m.acceptance p ↔
    (∀ shape, m.Accepts p shape ↔ m'.Accepts p' shape) ∧
      ∀ type, m.Converts p type ↔ m'.Converts p' type := by
  constructor
  · intro ha
    have hconverts (type : ScalarType) : m.Converts p type ↔ m'.Converts p' type := by
      rw [← scalar?_eq_some_iff, ← scalar?_eq_some_iff, ha]
    refine ⟨fun shape => ?_, hconverts⟩
    cases shape with
    | scalar => exact exists_congr hconverts
    | list => rw [← list_iff, ← list_iff, ha]
    | map => rw [← map_iff, ← map_iff, ha]
  · rintro ⟨haccepts, hconverts⟩
    have hlist : (m'.acceptance p').list = (m.acceptance p).list := by
      rw [Bool.eq_iff_iff, list_iff, list_iff, haccepts]
    have hmap : (m'.acceptance p').map = (m.acceptance p).map := by
      rw [Bool.eq_iff_iff, map_iff, map_iff, haccepts]
    have hscalar : (m'.acceptance p').scalar? = (m.acceptance p).scalar? := by
      refine Option.ext fun type => ?_
      rw [scalar?_eq_some_iff, scalar?_eq_some_iff, hconverts]
    exact acceptance_ext hlist hmap hscalar

/-- Of two setters that state the same type for their values, in quotes or not, and differ in the other
types that they state at most. If each of them knows that type, because its types can be looked up or
nothing in it stands in quotes, then both treat every value alike; also if it is written alike and
neither can look it up. Exactly they do so if they accept the same shapes and convert texts to the same
type. If all of the type of the second one stands in quotes and cannot be looked up, then that setter
takes every value as it is written, and both treat all values alike exactly if the first one takes
lists, maps and texts as they are. -/
theorem treatAlike_iff_of_same_type (ho : a.Offers parameter m p) (ho' : b.Offers parameter m' p')
    (h : m.AlikeButTypes m')
    (ht : p'.type?.map TypeExpr.unquoted = p.type?.map TypeExpr.unquoted) :
    (KnowsAlike m m' p p' → ∀ value, a.TreatAlike b m m' parameter value) ∧
    ((∀ value, a.TreatAlike b m m' parameter value) ↔
      (∀ shape, m.Accepts p shape ↔ m'.Accepts p' shape) ∧
        ∀ type, m.Converts p type ↔ m'.Converts p' type) ∧
    ∀ t, p'.type? = some (.quoted t) → m'.typesKnown = false →
      (∀ value, ∃ y, b.ComesTo m' parameter value y ∧ y.value? = some value.raw) ∧
      ((∀ value, a.TreatAlike b m m' parameter value) ↔
        m.Accepts p .list ∧ m.Accepts p .map ∧ m.Converts p .text) := by
  have hiff : (∀ value, a.TreatAlike b m m' parameter value) ↔
      m'.acceptance p' = m.acceptance p :=
    ⟨acceptance_of_treatAlike ho ho', treatAlike_of_acceptance ho ho' h⟩
  refine ⟨fun hk => hiff.2 (acceptance_congr ht hk), hiff.trans acceptance_eq_iff, ?_⟩
  intro t hquoted hk'
  have hopen : m'.acceptance p' = .all := by
    rw [Setter.acceptance_eq, knownType?_of_leavesOpen (.inr ⟨hk', .inl ⟨t, hquoted⟩⟩)]
  constructor
  · intro value
    refine ⟨_, comesTo_verdict ho' value, ?_⟩
    rw [value?_verdict, hopen, argument?_all]
    rfl
  · rw [hiff, hopen, ← list_iff, ← map_iff, ← scalar?_eq_some_iff]
    constructor
    · intro ha
      rw [← ha]
      exact ⟨rfl, rfl, rfl⟩
    · rintro ⟨hlist, hmap, hscalar⟩
      exact acceptance_ext hlist.symm hmap.symm hscalar.symm

/-- A size of a type. -/
def typedSizeParam (type : TypeExpr) : Param := ⟨"value", .positional, some type, none⟩

/-- A setter of a size of that type, with the type that it states for its result. -/
def typedSizeSetter (type : TypeExpr) (returns? : Option TypeExpr) : Setter :=
  ⟨"set_size", .method, [typedSizeParam type], returns?, none⟩

/-- An integer, which is written in quotes. -/
def quotedInteger : TypeExpr := .quoted (.scalar .integer)

theorem typedSizeSetter_offered (type : TypeExpr) (returns? : Option TypeExpr) :
    (sizeHolder (typedSizeSetter type returns?)).Offers "size" (typedSizeSetter type returns?)
      (typedSizeParam type) :=
  ⟨rfl, setter?_eq_some rfl, .inl rfl, [], rfl, rfl, by simp⟩

theorem typedSizeSetter_alike (type type' : TypeExpr) (returns? returns?' : Option TypeExpr) :
    (typedSizeSetter type returns?).AlikeButTypes (typedSizeSetter type' returns?') :=
  ⟨rfl, rfl, .cons ⟨rfl, rfl, rfl⟩ .nil, rfl⟩

/-- Quotes make no difference, and neither does a stated result, if both can be looked up. -/
theorem treatAlike_iff_of_same_type_size :
    KnowsAlike (typedSizeSetter quotedInteger none) (typedSizeSetter (.scalar .integer) (some .nothing))
        (typedSizeParam quotedInteger) (typedSizeParam (.scalar .integer)) ∧
      (sizeHolder (typedSizeSetter quotedInteger none)).TreatAlike
        (sizeHolder (typedSizeSetter (.scalar .integer) (some .nothing)))
        (typedSizeSetter quotedInteger none) (typedSizeSetter (.scalar .integer) (some .nothing))
        "size" (.scalar "5") := by
  have hknows : KnowsAlike (typedSizeSetter quotedInteger none)
      (typedSizeSetter (.scalar .integer) (some .nothing)) (typedSizeParam quotedInteger)
      (typedSizeParam (.scalar .integer)) := .inl ⟨.inl rfl, .inl rfl⟩
  have hiff := treatAlike_iff_of_same_type (typedSizeSetter_offered quotedInteger none)
    (typedSizeSetter_offered (.scalar .integer) (some .nothing))
    (typedSizeSetter_alike quotedInteger (.scalar .integer) none (some .nothing)) rfl
  exact ⟨hknows, hiff.1 hknows (.scalar "5")⟩

/-- A stated result that cannot be looked up makes one: the text is no longer converted. -/
theorem not_treatAlike_of_unknown_result :
    (sizeHolder (typedSizeSetter quotedInteger none)).ComesTo (typedSizeSetter quotedInteger none)
        "size" (.scalar "5") (.set (.integer 5)) ∧
      (sizeHolder (typedSizeSetter quotedInteger (some (.forward "Missing")))).ComesTo
        (typedSizeSetter quotedInteger (some (.forward "Missing"))) "size" (.scalar "5")
        (.set (.text "5")) ∧
      ¬ (sizeHolder (typedSizeSetter quotedInteger none)).TreatAlike
        (sizeHolder (typedSizeSetter quotedInteger (some (.forward "Missing"))))
        (typedSizeSetter quotedInteger none)
        (typedSizeSetter quotedInteger (some (.forward "Missing"))) "size" (.scalar "5") := by
  have hknown : (sizeHolder (typedSizeSetter quotedInteger none)).ComesTo
      (typedSizeSetter quotedInteger none) "size" (.scalar "5") (.set (.integer 5)) := ⟨rfl, rfl⟩
  have hunknown : (sizeHolder (typedSizeSetter quotedInteger (some (.forward "Missing")))).ComesTo
      (typedSizeSetter quotedInteger (some (.forward "Missing"))) "size" (.scalar "5")
      (.set (.text "5")) := ⟨rfl, rfl⟩
  refine ⟨hknown, hunknown, ?_⟩
  rintro ⟨x, y, hx, hy, hvalue, -⟩
  rw [← (comesTo_unique hknown hx).1, ← (comesTo_unique hunknown hy).1] at hvalue
  cases hvalue

end ComponentAssembly
