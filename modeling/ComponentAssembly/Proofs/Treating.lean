import ComponentAssembly.Proofs.Calling

/-! What becomes of a value at a setter, apart from the object whose setter it is. It is the same at two
setters that accept the same and differ in the types that they state at most. -/

namespace ComponentAssembly

open Build

/-- An object in a state of a world. -/
structure Holder where
  world : World
  state : State
  target : Value

/-- What setting a parameter comes to: it is refused before the body of the setter begins, the body
begins with a value and raises, or it begins with a value and returns. -/
inductive Verdict where
  | refused (f : Failure)
  | raised (v : Value) (f : Failure)
  | set (v : Value)

variable {a b : Holder} {m m' : Setter} {p p' : Param} {v : Value} {f : Failure} {x y : Verdict}
  {parameter text : String} {value : ShapedText} {accepted : Acceptance}

/-- A failure as it is told about another object. -/
def Failure.showing (object : String) : Failure → Failure
  | .noSetter parameter setter shape? _ => .noSetter parameter setter shape? object
  | f => f

namespace Verdict

/-- A verdict as it is told about another object. -/
def showing (object : String) : Verdict → Verdict
  | .refused f => .refused (f.showing object)
  | x => x

/-- The value that the body of the setter begins with. -/
def value? : Verdict → Option Value
  | .refused _ => none
  | .raised v _ => some v
  | .set v => some v

/-- The class of the failure. -/
def kind? : Verdict → Option ErrorKind
  | .refused f => some f.kind
  | .raised _ f => some f.kind
  | .set _ => none

theorem value?_showing (object : String) (x : Verdict) : (x.showing object).value? = x.value? := by
  cases x <;> rfl

theorem kind?_showing (object : String) (x : Verdict) : (x.showing object).kind? = x.kind? := by
  cases x with
  | refused f => cases f <;> rfl
  | _ => rfl

end Verdict

/-- A parameter is the same as another one, but for the type that it states. -/
structure Param.AlikeButType (p p' : Param) : Prop where
  name : p'.name = p.name
  kind : p'.kind = p.kind
  default : p'.default? = p.default?

/-- A setter is the same as another one, but for the types that it states for its parameters and its
result. -/
structure Setter.AlikeButTypes (m m' : Setter) : Prop where
  name : m'.name = m.name
  attachment : m'.attachment = m.attachment
  params : List.Forall₂ Param.AlikeButType m.params m'.params
  raises : m'.raises? = m.raises?

namespace Holder

/-- An object has a setter for a parameter, which takes its value through a parameter of its own. -/
def Offers (a : Holder) (parameter : String) (m : Setter) (p : Param) : Prop :=
  a.world.Offers a.state a.target parameter m p

/-- What setting a parameter through a setter of an object comes to. Only a body that returns changes
anything. -/
def ComesTo (a : Holder) (m : Setter) (parameter : String) (value : ShapedText) : Verdict → Prop
  | .refused f => (a.world.assign a.target parameter value).Runs a.state (.error f) [] a.state
  | .raised v f => (a.world.assign a.target parameter value).Runs a.state (.error f)
      [m.event a.target v] (a.state.writing [m.event a.target v])
  | .set v => (a.world.assign a.target parameter value).Runs a.state (.ok ()) [m.event a.target v]
      ((a.state.writing [m.event a.target v]).keeping a.target m v)

/-- What setting a parameter through a setter of an object comes to, by the value that the setter gets
and what its body raises for it. -/
def verdict (a : Holder) (m : Setter) (p : Param) (parameter : String) (value : ShapedText) :
    Verdict :=
  match argument a.state a.target parameter m p value with
  | .error f => .refused f
  | .ok v =>
    match m.raises?.filter fun r => r.applies v with
    | some r => .raised v (.setterFailed parameter (setterName parameter) r.failure)
    | none => .set v

/-- Setters of two objects treat a value alike: their bodies begin with the same value or neither does,
and both return or fail with failures of one class. -/
def TreatAlike (a b : Holder) (m m' : Setter) (parameter : String) (value : ShapedText) : Prop :=
  ∃ x y, a.ComesTo m parameter value x ∧ b.ComesTo m' parameter value y ∧
    x.value? = y.value? ∧ x.kind? = y.kind?

/-- The outcome at a setter of another object is the same, told about that object. -/
def SameOutcome (a b : Holder) (m m' : Setter) (parameter : String) (value : ShapedText) : Prop :=
  ∃ x, a.ComesTo m parameter value x ∧
    b.ComesTo m' parameter value (x.showing (b.state.quotedType b.target))

end Holder

/-! ### The verdict -/

theorem comesTo_verdict (ho : a.Offers parameter m p) (value : ShapedText) :
    a.ComesTo m parameter value (a.verdict m p parameter value) := by
  unfold Holder.verdict
  cases hv : argument a.state a.target parameter m p value with
  | error f => exact assign_unfit (findSetter_ok_iff.2 ho) hv
  | ok v =>
    have hg := gets_of_argument hv
    dsimp only
    cases hr : m.raises?.filter fun r => r.applies v with
    | some r =>
      obtain ⟨hr, ha⟩ := Option.filter_eq_some_iff.1 hr
      exact assign_raises ho hg hr ha
    | none =>
      rw [Option.filter_eq_none_iff] at hr
      exact assign_returns ho hg fun r h => by simpa using hr r h

/-- Setting a parameter comes to one verdict only, as far as bodies and failures are concerned. -/
theorem comesTo_unique (hx : a.ComesTo m parameter value x) (hy : a.ComesTo m parameter value y) :
    x.value? = y.value? ∧ x.kind? = y.kind? := by
  have hrun {z : Verdict} (hz : a.ComesTo m parameter value z) : ∃ r t,
      (a.world.assign a.target parameter value).Runs a.state r
        (z.value?.toList.map (m.event a.target)) t ∧
      z.kind? = match r with | .error f => some f.kind | .ok _ => none := by
    cases z with
    | refused f => exact ⟨_, _, hz, rfl⟩
    | raised v f => exact ⟨_, _, hz, rfl⟩
    | set v => exact ⟨_, _, hz, rfl⟩
  obtain ⟨r, t, hr, hrk⟩ := hrun hx
  obtain ⟨q, u, hq, hqk⟩ := hrun hy
  obtain ⟨rfl, he, rfl⟩ := hr.unique hq
  refine ⟨?_, hrk.trans hqk.symm⟩
  cases hxv : x.value? <;> cases hyv : y.value? <;> simp_all [Setter.event]

theorem argument?_error (h : argument? accepted parameter value = some (.error f)) (object : String) :
    f.showing object = f := by
  cases value with
  | scalar text =>
    obtain ⟨type, -, ht⟩ := Option.map_eq_some_iff.1 h
    rw [ScalarType.parseFor] at ht
    cases hp : type.parse text with
    | ok v =>
      rw [hp] at ht
      cases ht
    | error e =>
      rw [hp] at ht
      obtain rfl := Except.error.inj ht
      rfl
  | list items => simp [argument?] at h
  | map entries => simp [argument?] at h

/-- Setters that accept the same get the same value, or are refused alike. -/
theorem argument_showing (hn : m'.name = m.name) (ha : m'.acceptance p' = m.acceptance p)
    (value : ShapedText) : argument b.state b.target parameter m' p' value =
      (argument a.state a.target parameter m p value).mapError
        (Failure.showing (b.state.quotedType b.target)) := by
  unfold argument
  rw [ha, hn]
  cases hv : argument? (m.acceptance p) parameter value with
  | none => rfl
  | some r =>
    cases r with
    | ok v => rfl
    | error f =>
      change Except.error f = Except.error (f.showing _)
      rw [argument?_error hv]

/-- Setters that accept the same come to the same outcome for every value. -/
theorem verdict_showing (h : m.AlikeButTypes m') (ha : m'.acceptance p' = m.acceptance p)
    (value : ShapedText) : b.verdict m' p' parameter value =
      (a.verdict m p parameter value).showing (b.state.quotedType b.target) := by
  unfold Holder.verdict
  rw [argument_showing (a := a) h.name ha, h.raises]
  cases argument a.state a.target parameter m p value with
  | error f => rfl
  | ok v =>
    dsimp only [Except.mapError]
    cases m.raises?.filter fun r => r.applies v <;> rfl

theorem sameOutcome_of_acceptance (ho : a.Offers parameter m p) (ho' : b.Offers parameter m' p')
    (h : m.AlikeButTypes m') (ha : m'.acceptance p' = m.acceptance p) (value : ShapedText) :
    a.SameOutcome b m m' parameter value := by
  refine ⟨a.verdict m p parameter value, comesTo_verdict ho value, ?_⟩
  rw [← verdict_showing h ha]
  exact comesTo_verdict ho' value

theorem treatAlike_of_sameOutcome (h : a.SameOutcome b m m' parameter value) :
    a.TreatAlike b m m' parameter value := by
  obtain ⟨x, hx, hy⟩ := h
  exact ⟨x, _, hx, hy, (x.value?_showing _).symm, (x.kind?_showing _).symm⟩

end ComponentAssembly
