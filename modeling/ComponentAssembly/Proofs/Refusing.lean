import ComponentAssembly.Proofs.Assigning
import ComponentAssembly.Proofs.Staging

/-! How a parameter fails to be set: with a failure about that parameter, unless reading the attribute
that would be its setter raises. -/

namespace ComponentAssembly

open Build

variable {w : World} {target : Value} {m : Setter} {p : Param} {s t : State}
  {parameter : String} {value : ShapedText} {f : Failure} {r : Raise} {es : List Event}

/-- A failure to set this parameter: it has no setter, its text cannot be converted, or its setter
raises. -/
structure Failure.IsRefusal (f : Failure) (parameter : String) : Prop where
  kind : f.kind = .config .noMatchingMutator ∨ f.kind = .config .coercion ∨
    f.kind = .config .mutatorInvocation
  about : f.identifier? = some parameter

/-- Where the setter for a parameter would be there is a property, and reading it raises an error that
does not count as absence. -/
structure World.ReadingRaises (w : World) (s : State) (target : Value) (parameter : String)
    (r : Raise) : Prop where
  named : Text.isIdentifier (setterName parameter).toList = true
  found : ∃ m, w.setter? s target (setterName parameter) = some m ∧
    m.attachment = .property (some r)
  raises : r.applies .nothing = true
  present : r.kind.isAbsence = false

theorem isRefusal_noSetter (parameter setter : String) (shape? : Option Shape) (object : String) :
    (Failure.noSetter parameter setter shape? object).IsRefusal parameter := ⟨.inl rfl, rfl⟩

/-- Only a property whose reading raises keeps an attribute from being looked at. -/
theorem usable?_error (h : m.usable? = .error f) :
    ∃ r, m.attachment = .property (some r) ∧ r.applies .nothing = true ∧
      r.kind.isAbsence = false ∧ f = r.failure := by
  unfold Setter.usable? at h
  split at h
  · cases h
  · cases h
  · cases h
  · rename_i r ha
    split at h
    · rename_i hr
      obtain ⟨hr, hk⟩ : r.applies .nothing = true ∧ r.kind.isAbsence = false := by simpa using hr
      exact ⟨r, ha, hr, hk, (Except.error.inj h).symm⟩
    · cases h
  all_goals cases h

/-- No setter is found for a parameter, or reading the attribute that would be it raises. -/
theorem findSetter_error_cases (h : w.findSetter s target parameter = .error f) :
    f = .noSetter parameter (setterName parameter) none (s.quotedType target) ∨
      ∃ r, w.ReadingRaises s target parameter r ∧ f = r.failure := by
  simp only [World.findSetter] at h
  split at h
  · exact .inl (Except.error.inj h).symm
  rename_i hn
  have named : Text.isIdentifier (setterName parameter).toList = true := by simpa using hn
  split at h
  · exact .inl (Except.error.inj h).symm
  rename_i m hm
  split at h
  · rename_i g hu
    obtain rfl := Except.error.inj h
    obtain ⟨r, ha, hr, hk, rfl⟩ := usable?_error hu
    exact .inr ⟨r, ⟨named, ⟨m, hm, ha⟩, hr, hk⟩, rfl⟩
  · exact .inl (Except.error.inj h).symm
  · cases h

/-- There is no setter for a parameter, or reading it raises. -/
theorem findSetter_error (h : w.findSetter s target parameter = .error f) :
    f.IsRefusal parameter ∨ ∃ r, w.ReadingRaises s target parameter r ∧ f = r.failure := by
  obtain rfl | hr := findSetter_error_cases h
  · exact .inl (isRefusal_noSetter ..)
  · exact .inr hr

/-- What reading an attribute raises is what the search for a setter fails with. -/
theorem findSetter_of_readingRaises (h : w.ReadingRaises s target parameter r) :
    w.findSetter s target parameter = .error r.failure := by
  obtain ⟨hn, ⟨m, hm, ha⟩, hr, hk⟩ := h
  simp [World.findSetter, hn, hm, Setter.usable?, ha, hr, hk, Raise.failure]

/-- A setter that is found may not accept the shape, or not the text. -/
theorem argument_error (h : argument s target parameter m p value = .error f) :
    f.IsRefusal parameter := by
  unfold argument at h
  cases ha : argument? (m.acceptance p) parameter value with
  | none =>
    rw [ha, Option.getD_none] at h
    exact Except.error.inj h ▸ isRefusal_noSetter ..
  | some q =>
    rw [ha, Option.getD_some] at h
    subst h
    cases value with
    | scalar text =>
      obtain ⟨type, -, ht⟩ := Option.map_eq_some_iff.1 ha
      unfold ScalarType.parseFor at ht
      cases hp : type.parse text with
      | ok v =>
        rw [hp] at ht
        cases ht
      | error problem =>
        rw [hp] at ht
        exact Except.error.inj ht ▸ ⟨.inr (.inl rfl), rfl⟩
    | list items => simp [argument?] at ha
    | map entries => simp [argument?] at ha

/-- A parameter fails to be set because no setter for it is found, or with a failure about it. -/
theorem assign_refusal (h : (w.assign target parameter value).Runs s (.error f) es t) :
    w.findSetter s target parameter = .error f ∨ f.IsRefusal parameter := by
  cases hm : w.findSetter s target parameter with
  | error g =>
    obtain rfl := Except.error.inj (h.unique (assign_unfound hm)).1
    exact .inl rfl
  | ok found =>
    obtain ⟨m, p⟩ := found
    right
    cases hv : argument s target parameter m p value with
    | error g =>
      obtain rfl := Except.error.inj (h.unique (assign_unfit hm hv)).1
      exact argument_error hv
    | ok v =>
      obtain ⟨g, hf⟩ | hd := callSetter_cases target m v s
      · obtain rfl := Except.error.inj (h.unique (assign_called hm hv hf)).1
        exact ⟨.inr (.inr rfl), rfl⟩
      · cases (h.unique (assign_called hm hv hd)).1

/-- Setting a parameter returns or fails with a failure about that parameter: it has no setter, its
text cannot be converted, or its setter raises. The only exception is a property under the setter's
name whose reading raises an error that does not count as absence: then this very error is the outcome,
and nothing has begun. That goes for setters that state types: texts in quotes which fail otherwise than
by naming nothing are none. -/
theorem assign_fails_as_refusal_iff (w : World) (target : Value) (parameter : String)
    (value : ShapedText) (s : State) :
    ∃ q es t, (w.assign target parameter value).Runs s q es t ∧
      ((∀ f, q = .error f → f.IsRefusal parameter) ↔
        ∀ r, w.ReadingRaises s target parameter r → r.failure.IsRefusal parameter) ∧
      ∀ r, w.ReadingRaises s target parameter r → q = .error r.failure ∧ es = [] ∧ t = s := by
  have raised {r : Raise} (h : w.ReadingRaises s target parameter r) :
      (w.assign target parameter value).Runs s (.error r.failure) [] s :=
    assign_unfound (findSetter_of_readingRaises h)
  obtain ⟨q, es, t, hq⟩ := assign_writes w target parameter value s
  refine ⟨q, es, t, hq, ⟨fun hf r hr => hf _ (hq.unique (raised hr)).1, ?_⟩,
    fun r hr => hq.unique (raised hr)⟩
  rintro hr f rfl
  obtain hm | hf := assign_refusal hq
  · obtain hf | ⟨r, hread, rfl⟩ := findSetter_error hm
    · exact hf
    · exact hr r hread
  · exact hf

/-- A class with a property where a setter would be; reading it raises an error. -/
def closedSize : ClassDecl :=
  { plainClass "Box" with setters := [⟨"set_size",
      .property (some ⟨.foreign "ValueError", "closed", none, none⟩), [], none, none⟩] }

/-- One instance of that class. -/
def closedBox : State := ⟨[⟨.own closedSize.name, []⟩], [], []⟩

/-- Setting a parameter can fail otherwise than by a failure about it. -/
theorem assign_error_of_property :
    ∃ f, (World.assign ⟨[closedSize], [], [], []⟩ (.object 0) "size" (.scalar "5")).Runs
        closedBox (.error f) [] closedBox ∧
      f.kind = .foreign "ValueError" ∧ ¬ f.IsRefusal "size" := by
  refine ⟨.raised (.foreign "ValueError") "closed" none, ⟨rfl, rfl⟩, rfl, ?_⟩
  rintro ⟨-, ha⟩
  cases ha

end ComponentAssembly
