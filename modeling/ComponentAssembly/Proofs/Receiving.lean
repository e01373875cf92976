import ComponentAssembly.Proofs.Calling
import ComponentAssembly.Proofs.Constructing

/-! The parameter through which a setter takes its value is the one that a call with this value binds it
to, so that the call of a setter that was found always finds its parameters. -/

namespace ComponentAssembly

open Build

variable {m : Setter} {p : Param} {ps : List Param}

/-- The value of a parameter that a call leaves out. -/
def Param.leftOut (p : Param) : Value :=
  match p.kind with
  | .positionalRest => .tuple []
  | .namedRest => .map []
  | _ => p.default?.getD .nothing

/-- Calls a setter through its signature: its parameters are bound first, and its body begins with the
value of the first one. -/
def callBound (target : Value) (m : Setter) (v : Value) : Build Unit := do
  let bound ← received m.params [v]
  callSetter target m (firstValue bound)

/-- Sets a parameter of a component by calling its setter through the signature. -/
def World.assignBound (w : World) (target : Value) (parameter : String) (value : ShapedText) :
    Build Unit := do
  let s ← get
  let (m, p) ← ofExcept (w.findSetter s target parameter)
  let v ← ofExcept (argument s target parameter m p value)
  wrapping (.setterFailed parameter m.name) (callBound target m v)

/-! ### Binding one value -/

theorem takesPosition_iff :
    p.takesPosition = true ↔ p.kind = .positionalOnly ∨ p.kind = .positional := by
  simp [Param.takesPosition, or_comm]

/-- Where no value is left, a parameter that may be left out has its value for that. -/
theorem bind_leftOut (hp : p.mayBeLeftOut = true) :
    bind (p :: ps) [] = (p.leftOut :: ·) <$> bind ps [] := by
  rw [Param.mayBeLeftOut, Bool.or_eq_true, takesRest_iff] at hp
  obtain hd | hk | hk := hp
  · obtain ⟨d, hd⟩ := Option.isSome_iff_exists.1 hd
    cases hk : p.kind <;> simp [bind, Param.leftOut, hk, hd]
  · simp [bind, Param.leftOut, hk]
  · simp [bind, Param.leftOut, hk]

theorem bind_nil (h : ∀ q ∈ ps, q.mayBeLeftOut = true) : bind ps [] = .ok (ps.map Param.leftOut) := by
  induction ps with
  | nil => rfl
  | cons q ps ih =>
    rw [List.forall_mem_cons] at h
    rw [bind_leftOut h.1, ih h.2]
    rfl

theorem bind_position (hp : p.takesPosition = true) (v : Value) (vs : List Value) :
    bind (p :: ps) (v :: vs) = (v :: ·) <$> bind ps vs := by
  obtain hk | hk := takesPosition_iff.1 hp
  · simp [bind, hk]
  · simp [bind, hk]

/-- The parameter that is chosen is the first one, and it receives the value; all others are left
out. -/
theorem bind_of_receiver (h : receiver? ps = some p) :
    ∃ others, ps = p :: others ∧ ∀ v, bind ps [v] = .ok (v :: others.map Param.leftOut) := by
  obtain ⟨others, rfl, hp, ho⟩ := receiver?_eq_some_iff.1 h
  refine ⟨others, rfl, fun v => ?_⟩
  rw [bind_position hp, bind_nil ho]
  rfl

example (v : Value) :
    bind [⟨"value", .positionalOnly, none, none⟩, ⟨"rest", .positionalRest, none, none⟩,
      ⟨"checked", .namedOnly, none, some (.flag true)⟩, ⟨"others", .namedRest, none, none⟩] [v] =
        .ok [v, .tuple [], .flag true, .map []] := rfl

/-- A parameter is chosen exactly if the first one takes a value by position and the signature can be
called with one value. -/
theorem exists_receiver_iff (ps : List Param) (v : Value) : (∃ p, receiver? ps = some p) ↔
    (∃ p ∈ ps.head?, p.takesPosition = true) ∧ Binds ps [v] := by
  rw [binds_iff, List.length_singleton]
  cases ps with
  | nil => simp [receiver?]
  | cons q others =>
    rw [takes_cons_succ, takes_zero]
    constructor
    · rintro ⟨p, h⟩
      obtain ⟨_, hps, hp, ho⟩ := receiver?_eq_some_iff.1 h
      obtain ⟨rfl, rfl⟩ := List.cons.inj hps
      exact ⟨⟨q, rfl, hp⟩, .inl ⟨hp, ho⟩⟩
    · rintro ⟨⟨p, hhead, hp⟩, ht⟩
      obtain rfl := Option.some.inj hhead
      obtain ⟨-, ho⟩ | ⟨hrest, -⟩ := ht
      · exact ⟨q, receiver?_eq_some_iff.2 ⟨others, rfl, hp, ho⟩⟩
      · rw [takesPosition_iff, hrest] at hp
        simp at hp

/-! ### Calling a setter -/

/-- The call of a setter whose signature chooses a parameter finds its parameters. -/
theorem callBound_eq (h : receiver? m.params = some p) (target v : Value) :
    callBound target m v = callSetter target m v := by
  obtain ⟨others, -, hb⟩ := bind_of_receiver h
  rw [callBound, received, hb]
  rfl

/-- To set a parameter is to call its setter through its signature: binding its parameters never
fails. -/
theorem assignBound_eq (w : World) (target : Value) (parameter : String) (value : ShapedText) :
    w.assignBound target parameter value = w.assign target parameter value := by
  rw [World.assignBound, World.assign]
  refine bind_congr fun s => ?_
  cases hm : w.findSetter s target parameter with
  | error f => rfl
  | ok found =>
    obtain ⟨m, p⟩ := found
    show (do
      let v ← ofExcept (argument s target parameter m p value)
      wrapping (.setterFailed parameter m.name) (callBound target m v)) = do
      let v ← ofExcept (argument s target parameter m p value)
      wrapping (.setterFailed parameter m.name) (callSetter target m v)
    refine bind_congr fun v => ?_
    rw [callBound_eq (findSetter_ok hm).2]

/-- A parameter of a signature is chosen exactly if the first one takes a value by position and the
signature can be called with one value in order. It is then the first one, and in that call it has the
value, while every other parameter has what it has when it is left out. So the parameters of a setter
that is found are always bound when it is called, and to set a parameter never fails for want of that. -/
theorem receiver_agrees_with_calling (ps : List Param) (w : World) (target : Value)
    (parameter : String) (value : ShapedText) :
    (∀ v, (∃ p, receiver? ps = some p) ↔
      (∃ p ∈ ps.head?, p.kind = .positionalOnly ∨ p.kind = .positional) ∧
        ∃ bound, bind ps [v] = .ok bound) ∧
    (∀ p, receiver? ps = some p →
      ∃ others, ps = p :: others ∧ ∀ v, bind ps [v] = .ok (v :: others.map Param.leftOut)) ∧
    (∀ s m p, w.findSetter s target parameter = .ok (m, p) →
      ∃ others, m.params = p :: others ∧
        ∀ v, (received m.params [v]).Runs s (.ok (v :: others.map Param.leftOut)) [] s) ∧
    w.assignBound target parameter value = w.assign target parameter value := by
  refine ⟨fun v => ?_, fun p h => bind_of_receiver h, fun s m p hm => ?_,
    assignBound_eq w target parameter value⟩
  · simp only [← takesPosition_iff]
    exact exists_receiver_iff ps v
  · obtain ⟨others, hps, hb⟩ := bind_of_receiver (findSetter_ok hm).2
    exact ⟨others, hps, fun v => received_of_bind (hb v) s⟩

end ComponentAssembly
