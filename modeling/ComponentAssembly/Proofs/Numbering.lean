import ComponentAssembly.Build.State

/-! The numbers of the instances that values and events carry, and the same values and events with
other instances before theirs. -/

namespace ComponentAssembly

mutual

/-- The numbers of the instances in a value. -/
def Value.numbers : Value → List Nat
  | .object number => [number]
  | .list items | .tuple items => numbersOfItems items
  | .map entries => numbersOfEntries entries
  | _ => []

/-- The numbers of the instances in a row of values. -/
def numbersOfItems : List Value → List Nat
  | [] => []
  | v :: vs => v.numbers ++ numbersOfItems vs

/-- The numbers of the instances under the keys of a map. -/
def numbersOfEntries : List (String × Value) → List Nat
  | [] => []
  | (_, v) :: entries => v.numbers ++ numbersOfEntries entries

end

mutual

/-- A value in which every instance comes after `k` more instances. -/
def Value.shift (k : Nat) : Value → Value
  | .object number => .object (number + k)
  | .list items => .list (shiftItems k items)
  | .tuple items => .tuple (shiftItems k items)
  | .map entries => .map (shiftEntries k entries)
  | v => v

/-- A row of values in which every instance comes after `k` more instances. -/
def shiftItems (k : Nat) : List Value → List Value
  | [] => []
  | v :: vs => v.shift k :: shiftItems k vs

/-- A map in which every instance comes after `k` more instances. -/
def shiftEntries (k : Nat) : List (String × Value) → List (String × Value)
  | [] => []
  | (key, v) :: entries => (key, v.shift k) :: shiftEntries k entries

end

/-- A value without instances. -/
def Value.IsData (v : Value) : Prop := v.numbers = []

/-- A row of values without instances. -/
def ItemsAreData (vs : List Value) : Prop := numbersOfItems vs = []

/-- The numbers of the instances that an event carries. -/
def Event.numbers : Event → List Nat
  | .constructed _ number first => number :: first.numbers
  | .called _ first => first.numbers
  | .set number? _ v => number?.toList ++ v.numbers
  | .prepared number settings => number :: settings.numbers
  | .checked number _ | .settingsHandled number _ => [number]
  | .logged _ _ | .recorded _ => []

/-- An event in which every instance comes after `k` more instances. -/
def Event.shift (k : Nat) : Event → Event
  | .constructed className number first => .constructed className (number + k) (first.shift k)
  | .called function first => .called function (first.shift k)
  | .set number? setter v => .set (number?.map (· + k)) setter (v.shift k)
  | .prepared number settings => .prepared (number + k) (settings.shift k)
  | .checked number policy => .checked (number + k) policy
  | .settingsHandled number names => .settingsHandled (number + k) names
  | .logged policy text => .logged policy text
  | .recorded names => .recorded names

variable {vs : List Value}

theorem shiftItems_eq (k : Nat) (vs : List Value) : shiftItems k vs = vs.map (Value.shift k) := by
  induction vs with
  | nil => rfl
  | cons v vs ih => rw [shiftItems, ih, List.map_cons]

mutual

theorem numbers_shift (k : Nat) : ∀ v : Value, (v.shift k).numbers = v.numbers.map (· + k)
  | .object _ => rfl
  | .list items | .tuple items => numbersOfItems_shift k items
  | .map entries => numbersOfEntries_shift k entries
  | .nothing | .flag _ | .integer _ | .real _ | .text _ | .plain _ => rfl

theorem numbersOfItems_shift (k : Nat) :
    ∀ vs, numbersOfItems (shiftItems k vs) = (numbersOfItems vs).map (· + k)
  | [] => rfl
  | v :: vs => by
    simp only [shiftItems, numbersOfItems, numbers_shift k v, numbersOfItems_shift k vs,
      List.map_append]

theorem numbersOfEntries_shift (k : Nat) :
    ∀ entries, numbersOfEntries (shiftEntries k entries) = (numbersOfEntries entries).map (· + k)
  | [] => rfl
  | (_, v) :: entries => by
    simp only [shiftEntries, numbersOfEntries, numbers_shift k v, numbersOfEntries_shift k entries,
      List.map_append]

end

mutual

theorem shift_shift (k l : Nat) : ∀ v : Value, (v.shift k).shift l = v.shift (k + l)
  | .object number => by simp only [Value.shift, Nat.add_assoc]
  | .list items => congrArg Value.list (shiftItems_shift k l items)
  | .tuple items => congrArg Value.tuple (shiftItems_shift k l items)
  | .map entries => congrArg Value.map (shiftEntries_shift k l entries)
  | .nothing | .flag _ | .integer _ | .real _ | .text _ | .plain _ => rfl

theorem shiftItems_shift (k l : Nat) :
    ∀ vs, shiftItems l (shiftItems k vs) = shiftItems (k + l) vs
  | [] => rfl
  | v :: vs => by simp only [shiftItems, shift_shift k l v, shiftItems_shift k l vs]

theorem shiftEntries_shift (k l : Nat) :
    ∀ entries, shiftEntries l (shiftEntries k entries) = shiftEntries (k + l) entries
  | [] => rfl
  | (_, v) :: entries => by
    simp only [shiftEntries, shift_shift k l v, shiftEntries_shift k l entries]

end

mutual

/-- What holds no instance is the same wherever instances are. -/
theorem shift_of_isData (k : Nat) : ∀ v : Value, v.IsData → v.shift k = v
  | .object _, h => by simp [Value.IsData, Value.numbers] at h
  | .list items, h => congrArg Value.list (shiftItems_of_areData k items h)
  | .tuple items, h => congrArg Value.tuple (shiftItems_of_areData k items h)
  | .map entries, h => congrArg Value.map (shiftEntries_of_nil k entries h)
  | .nothing, _ | .flag _, _ | .integer _, _ | .real _, _ | .text _, _ | .plain _, _ => rfl

theorem shiftItems_of_areData (k : Nat) : ∀ vs, ItemsAreData vs → shiftItems k vs = vs
  | [], _ => rfl
  | v :: vs, h => by
    obtain ⟨hv, hvs⟩ := List.append_eq_nil_iff.1 h
    rw [shiftItems, shift_of_isData k v hv, shiftItems_of_areData k vs hvs]

theorem shiftEntries_of_nil (k : Nat) :
    ∀ entries, numbersOfEntries entries = [] → shiftEntries k entries = entries
  | [], _ => rfl
  | (_, v) :: entries, h => by
    obtain ⟨hv, hvs⟩ := List.append_eq_nil_iff.1 h
    rw [shiftEntries, shift_of_isData k v hv, shiftEntries_of_nil k entries hvs]

end

mutual

/-- What holds no instance is compared in the same way wherever instances are. -/
theorem same_shift (k : Nat) :
    ∀ a b : Value, a.IsData → a.same (b.shift k) = a.same b
  | .object _, _, h => by simp [Value.IsData, Value.numbers] at h
  | .list as, b, h => by
    cases b with
    | list bs => exact sameItems_shift k as bs h
    | _ => rfl
  | .tuple as, b, h => by
    cases b with
    | tuple bs => exact sameItems_shift k as bs h
    | _ => rfl
  | .map as, b, h => by
    cases b with
    | map bs => exact sameEntries_shift k as bs h
    | _ => rfl
  | .nothing, b, _ | .flag _, b, _ | .integer _, b, _ | .real _, b, _ | .text _, b, _
  | .plain _, b, _ => by cases b <;> rfl

theorem sameItems_shift (k : Nat) : ∀ as bs : List Value, numbersOfItems as = [] →
    sameItems as (shiftItems k bs) = sameItems as bs
  | [], bs, _ => by cases bs <;> rfl
  | _ :: _, [], _ => rfl
  | a :: as, b :: bs, h => by
    obtain ⟨ha, has⟩ := List.append_eq_nil_iff.1 h
    simp only [shiftItems, sameItems, same_shift k a b ha, sameItems_shift k as bs has]

theorem sameEntries_shift (k : Nat) : ∀ as bs : List (String × Value),
    numbersOfEntries as = [] → sameEntries as (shiftEntries k bs) = sameEntries as bs
  | [], bs, _ => by cases bs <;> rfl
  | _ :: _, [], _ => rfl
  | (_, a) :: as, (_, b) :: bs, h => by
    obtain ⟨ha, has⟩ := List.append_eq_nil_iff.1 h
    simp only [shiftEntries, sameEntries, same_shift k a b ha, sameEntries_shift k as bs has]

end

/-- A row that does not notice one more instance holds none. -/
theorem itemsAreData_of_shift (h : shiftItems 1 vs = vs) : ItemsAreData vs := by
  have hn := numbersOfItems_shift 1 vs
  rw [h] at hn
  unfold ItemsAreData
  cases hs : numbersOfItems vs with
  | nil => rfl
  | cons n ns =>
    have hh : n = n + 1 := by simpa [hs] using congrArg List.head? hn
    omega

theorem event_numbers_shift (k : Nat) (e : Event) :
    (e.shift k).numbers = e.numbers.map (· + k) := by
  cases e with
  | set number? setter v => cases number? <;> simp [Event.shift, Event.numbers, numbers_shift]
  | _ => simp [Event.shift, Event.numbers, numbers_shift]

theorem event_shift_shift (k l : Nat) (e : Event) : (e.shift k).shift l = e.shift (k + l) := by
  cases e with
  | set number? setter v =>
    cases number? <;> simp [Event.shift, shift_shift, Nat.add_assoc]
  | _ => simp [Event.shift, shift_shift, Nat.add_assoc]

end ComponentAssembly
