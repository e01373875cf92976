import ComponentAssembly.Text.Quoted

/-! Which parameters were applied. -/

namespace ComponentAssembly

/-- The names of applied parameters, each once, in the order in which they were first applied. -/
structure Settings where
  names : List String
  distinct : names.Nodup := by decide

namespace Settings

/-- No parameters. -/
def empty : Settings := ⟨[], by simp⟩

/-- Adds a name at the end unless it is there already. -/
def add (s : Settings) (name : String) : Settings :=
  if h : name ∈ s.names then s
  else ⟨s.names ++ [name], List.nodup_append.2 ⟨s.distinct, by simp, by
    intro a ha b hb he
    exact h (by simp_all)⟩⟩

/-- Whether a parameter was applied. -/
def contains (s : Settings) (name : String) : Bool := name ∈ s.names

/-- How many parameters were applied. -/
def size (s : Settings) : Nat := s.names.length

/-- The names in the order of code points. -/
def sorted (s : Settings) : List String := s.names.mergeSort fun a b => decide (a ≤ b)

/-- A record as it is quoted inside messages. -/
def quoted (s : Settings) : String :=
  "SettingsRecord([" ++ ", ".intercalate (s.names.map Text.quoted) ++ "])"

@[simp] theorem names_empty : empty.names = [] := rfl

theorem names_add_of_mem {s : Settings} {name : String} (h : name ∈ s.names) :
    (s.add name).names = s.names := by
  simp [add, h]

theorem names_add_of_not_mem {s : Settings} {name : String} (h : name ∉ s.names) :
    (s.add name).names = s.names ++ [name] := by
  simp [add, h]

end Settings

end ComponentAssembly
