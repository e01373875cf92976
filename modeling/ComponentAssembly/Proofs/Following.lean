import ComponentAssembly.Proofs.Numbering
import ComponentAssembly.Proofs.Run

/-! Steps above older instances: what a step does there is what it does without them, only that the
numbers of its own instances come after theirs. By then classes may have taken over other constructors,
if these are alike for the step. -/

namespace ComponentAssembly

open Build

/-- A state whose instances come after some older ones and in which these constructors were taken
over. -/
def State.above (s : State) (old : List Instance) (adopted : Adoptions) : State :=
  ⟨old ++ s.instances, s.trace.map (Event.shift old.length), adopted⟩

/-- What the second step does above some older instances is what the first one does without them, and
it gives what that one gives, moved. The constructors that were taken over before may be others that
are alike, and they are alike again after the steps. -/
def Build.Follows {α : Type} (alike : Adoptions → Adoptions → Prop) (old : List Instance)
    (move : α → α) (b c : Build α) : Prop :=
  ∀ s adopted, alike s.adopted adopted → ∃ after, alike (b.from s).2.adopted after ∧
    c.from (s.above old adopted) = ((b.from s).1.map move, (b.from s).2.above old after)

/-- An error that is raised always, or only for one value without instances. -/
def Raise.ComparesNoInstance (r : Raise) : Prop :=
  ∀ trigger, r.only? = some trigger → trigger.IsData

variable {α β : Type} {alike : Adoptions → Adoptions → Prop} {old : List Instance} {b c : Build α}
  {g h : α → Build β} {move : α → α} {shifting : β → β} {wrap : Failure → Failure} {v : Value}
  {adopted : Adoptions}

/-! ### What a state says of a value -/

theorem instances_above (s : State) (old : List Instance) (adopted : Adoptions) (number : Nat) :
    (s.above old adopted).instances[number + old.length]? = s.instances[number]? := by
  rw [State.above, List.getElem?_append_right (Nat.le_add_left _ _), Nat.add_sub_cancel]

@[simp] theorem classOf?_above (s : State) (old : List Instance) (adopted : Adoptions) (v : Value) :
    (s.above old adopted).classOf? (v.shift old.length) = s.classOf? v := by
  cases v <;> simp only [State.classOf?, Value.shift, instances_above]

theorem typeName?_shift (k : Nat) (v : Value) : (v.shift k).typeName? = v.typeName? := by
  cases v <;> rfl

@[simp] theorem typeName_above (s : State) (old : List Instance) (adopted : Adoptions) (v : Value) :
    (s.above old adopted).typeName (v.shift old.length) = s.typeName v := by
  simp only [State.typeName, classOf?_above, typeName?_shift]

@[simp] theorem quotedType_above (s : State) (old : List Instance) (adopted : Adoptions) (v : Value) :
    (s.above old adopted).quotedType (v.shift old.length) = s.quotedType v := by
  simp only [State.quotedType, classOf?_above, typeName?_shift]

@[simp] theorem remembered_above (s : State) (old : List Instance) (adopted : Adoptions) (v : Value)
    (setter : String) :
    (s.above old adopted).remembered (v.shift old.length) setter = s.remembered v setter := by
  cases v <;> simp only [State.remembered, Value.shift, instances_above]

/-- The older instances remember what they remembered. -/
theorem remembered_old (s t : State) (adopted : Adoptions) {number : Nat}
    (h : number < s.instances.length) (setter : String) :
    (t.above s.instances adopted).remembered (.object number) setter =
      s.remembered (.object number) setter := by
  simp only [State.remembered, State.above, List.getElem?_append_left h]

/-! ### Steps in order -/

namespace Build

theorem follows_pure (a : α) : Follows alike old move (pure a : Build α) (pure (move a)) :=
  fun _ adopted h => ⟨adopted, h, rfl⟩

theorem follows_throw (f : Failure) : Follows alike old move (throw f : Build α) (throw f) :=
  fun _ adopted h => ⟨adopted, h, rfl⟩

theorem Follows.bind (hb : Follows alike old move b c)
    (hg : ∀ a, Follows alike old shifting (g a) (h (move a))) :
    Follows alike old shifting (b >>= g) (c >>= h) := by
  intro s adopted ha
  obtain ⟨later, hl, hc⟩ := hb s adopted ha
  rw [from_bind, from_bind, hc]
  cases hr : b.from s with
  | mk r t =>
    rw [hr] at hl
    cases r with
    | ok a => exact hg a t later hl
    | error f => exact ⟨later, hl, rfl⟩

/-- Steps that begin with the same outcome may depend on what it is. -/
theorem Follows.ofExcept_bind {γ : Type} {r : Except Failure γ} {g h : γ → Build β}
    (hg : ∀ a, r = .ok a → Follows alike old shifting (g a) (h a)) :
    Follows alike old shifting (ofExcept r >>= g) (ofExcept r >>= h) := by
  cases r with
  | ok a => exact hg a rfl
  | error f => exact follows_throw f

/-- Steps that begin with a look at the state agree if they agree whatever it is. -/
theorem Follows.get_bind {g h : State → Build β}
    (hg : ∀ (s : State) (adopted : Adoptions), alike s.adopted adopted →
      Follows alike old shifting (g s) (h (s.above old adopted))) :
    Follows alike old shifting (get >>= g) (get >>= h) := by
  intro s adopted ha
  rw [from_bind, from_bind, from_get, from_get]
  exact hg s adopted ha s adopted ha

theorem Follows.wrapping (hb : Follows alike old move b c) :
    Follows alike old move (wrapping wrap b) (wrapping wrap c) := by
  intro s adopted ha
  obtain ⟨later, hl, hc⟩ := hb s adopted ha
  refine ⟨later, hl, ?_⟩
  rw [from_wrapping, from_wrapping, hc]
  cases (b.from s).1 <;> rfl

theorem Follows.outcome (hb : Follows alike old move b c) :
    Follows alike old (Except.map move) (outcome b) (outcome c) := by
  intro s adopted ha
  obtain ⟨later, hl, hc⟩ := hb s adopted ha
  refine ⟨later, hl, ?_⟩
  rw [from_outcome, from_outcome, hc]
  rfl

theorem emit_follows (e : Event) :
    Follows alike old id (emit e) (emit (e.shift old.length)) := by
  intro s adopted h
  exact ⟨adopted, h, by simp [State.above, Except.map]⟩

theorem allocate_follows (c : ClassRef) :
    Follows alike old (· + old.length) (allocate c) (allocate c) := by
  intro s adopted h
  exact ⟨adopted, h, by simp [State.above, Nat.add_comm, Except.map]⟩

theorem adopt_follows {x y : Adoptions} (h : alike x y) :
    Follows alike old id (adopt x) (adopt y) :=
  fun _ _ _ => ⟨y, h, rfl⟩

theorem modify_above {γ : Type} (f : γ → γ) (number : Nat) (older others : List γ) :
    (older ++ others).modify (number + older.length) f = older ++ others.modify number f := by
  induction older with
  | nil => rfl
  | cons a older ih =>
    rw [List.length_cons, ← Nat.add_assoc, List.cons_append, List.modify_succ_cons, ih,
      List.cons_append]

theorem remember_follows (number : Nat) (setter : String) (v : Value) :
    Follows alike old id (remember number setter v) (remember (number + old.length) setter v) := by
  intro s adopted h
  refine ⟨adopted, h, ?_⟩
  show (Except.ok (), State.mk ((old ++ s.instances).modify _ _) _ _) = _
  rw [modify_above]
  rfl

theorem applies_shift {e : Raise} (k : Nat) (he : e.ComparesNoInstance ∨ v.IsData) :
    e.applies (v.shift k) = e.applies v := by
  rcases he with he | hv
  · simp only [Raise.applies]
    cases ho : e.only? with
    | none => rfl
    | some trigger => exact same_shift k trigger v (he trigger ho)
  · rw [shift_of_isData k v hv]

/-- A body raises its error wherever instances are, if it receives none or compares with none. -/
theorem raise_follows {r? : Option Raise}
    (h : (∀ e, r? = some e → e.ComparesNoInstance) ∨ v.IsData) :
    Follows alike old id (raise r? v) (raise r? (v.shift old.length)) := by
  cases r? with
  | none => exact follows_pure ()
  | some e =>
    have he := applies_shift (v := v) old.length (h.imp (· e rfl) id)
    simp only [raise, he]
    split
    · exact follows_throw _
    · exact follows_pure ()

end Build

end ComponentAssembly
