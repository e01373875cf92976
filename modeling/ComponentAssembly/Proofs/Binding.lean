import ComponentAssembly.World.Signature
import Mathlib.Data.List.Basic

/-! Which calls a signature allows: values handed over in order are bound to its parameters exactly if
the first parameters take them and the others may be left out. -/

namespace ComponentAssembly

variable {p : Param} {ps others : List Param} {arguments : List Value} {count : Nat}

/-- A signature can be called with so many values in order: each of its first parameters takes one of
them by position, a parameter for all that are left takes the remaining ones if there are any, and the
others may be left out. -/
def Takes (ps : List Param) (count : Nat) : Prop :=
  ∃ taking others, ps = taking ++ others ∧ (∀ p ∈ taking, p.takesPosition = true) ∧
    (∀ p ∈ others, p.mayBeLeftOut = true) ∧
    (taking.length = count ∨
      taking.length < count ∧ ∃ rest ∈ others.head?, rest.kind = .positionalRest)

theorem takesRest_iff : p.takesRest = true ↔ p.kind = .positionalRest ∨ p.kind = .namedRest := by
  simp [Param.takesRest]

theorem takes_nil : Takes [] count ↔ count = 0 := by
  constructor
  · rintro ⟨taking, others, hs, -, -, hc⟩
    obtain ⟨rfl, rfl⟩ := List.append_eq_nil_iff.1 hs.symm
    simpa [eq_comm] using hc
  · rintro rfl
    exact ⟨[], [], rfl, by simp, by simp, .inl rfl⟩

/-- Without values all parameters have to be left out. -/
theorem takes_zero : Takes ps 0 ↔ ∀ p ∈ ps, p.mayBeLeftOut = true := by
  constructor
  · rintro ⟨taking, others, rfl, -, ho, hc⟩
    obtain rfl : taking = [] := by simpa using hc
    exact ho
  · intro h
    exact ⟨[], ps, rfl, by simp, h, .inl rfl⟩

/-- The first of some values goes to the first parameter, or that one takes them all. -/
theorem takes_cons_succ : Takes (p :: ps) (count + 1) ↔
    (p.takesPosition = true ∧ Takes ps count) ∨
      (p.kind = .positionalRest ∧ ∀ q ∈ ps, q.mayBeLeftOut = true) := by
  constructor
  · rintro ⟨taking, others, hs, ht, ho, hc⟩
    cases taking with
    | nil =>
      obtain rfl : p :: ps = others := hs
      rw [List.forall_mem_cons] at ho
      exact .inr ⟨by simpa using hc, ho.2⟩
    | cons q taking =>
      obtain ⟨rfl, rfl⟩ := List.cons.inj hs
      rw [List.forall_mem_cons] at ht
      exact .inl ⟨ht.1, taking, others, rfl, ht.2, ho, by simpa using hc⟩
  · rintro (⟨hp, taking, others, rfl, ht, ho, hc⟩ | ⟨hp, ho⟩)
    · exact ⟨p :: taking, others, rfl, List.forall_mem_cons.2 ⟨hp, ht⟩, ho, by simpa using hc⟩
    · have hleft : p.mayBeLeftOut = true := by simp [Param.mayBeLeftOut, takesRest_iff, hp]
      exact ⟨[], p :: ps, rfl, by simp, List.forall_mem_cons.2 ⟨hleft, ho⟩,
        .inr ⟨Nat.succ_pos count, p, rfl, hp⟩⟩

theorem exists_map_cons_ok {v : Value} {r : Except Misfit (List Value)} :
    (∃ bound, (v :: ·) <$> r = .ok bound) ↔ ∃ bound, r = .ok bound := by
  cases r with
  | ok bound => exact ⟨fun _ => ⟨bound, rfl⟩, fun _ => ⟨v :: bound, rfl⟩⟩
  | error m => exact ⟨nofun, nofun⟩

/-- Values can be bound to a signature. -/
def Binds (ps : List Param) (arguments : List Value) : Prop := ∃ bound, bind ps arguments = .ok bound

theorem binds_cons_nil : Binds (p :: ps) [] ↔ p.mayBeLeftOut = true ∧ Binds ps [] := by
  unfold Binds
  cases hk : p.kind <;> cases hd : p.default? <;>
    simp [bind, hk, hd, exists_map_cons_ok, Param.mayBeLeftOut, Param.takesRest]

theorem binds_cons_cons {v : Value} {vs : List Value} : Binds (p :: ps) (v :: vs) ↔
    (p.takesPosition = true ∧ Binds ps vs) ∨ (p.kind = .positionalRest ∧ Binds ps []) := by
  unfold Binds
  cases hk : p.kind <;> simp [bind, hk, exists_map_cons_ok, Param.takesPosition]

/-- Values handed over in order are bound exactly if the signature can be called with so many. -/
theorem binds_iff : Binds ps arguments ↔ Takes ps arguments.length := by
  induction ps generalizing arguments with
  | nil =>
    rw [takes_nil]
    cases arguments with
    | nil => exact iff_of_true ⟨[], rfl⟩ rfl
    | cons v vs => exact iff_of_false (fun ⟨_, h⟩ => by cases h) (Nat.succ_ne_zero _)
  | cons p ps ih =>
    cases arguments with
    | nil => rw [binds_cons_nil, ih, List.length_nil, takes_zero, takes_zero, List.forall_mem_cons]
    | cons v vs => rw [binds_cons_cons, ih, ih, List.length_nil, takes_zero, List.length_cons,
        takes_cons_succ]

end ComponentAssembly
