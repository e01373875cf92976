import ComponentAssembly.Catalog
import ComponentAssembly.Proofs.Making
import ComponentAssembly.Proofs.Reading

/-! How making an instance of what an identifier stands for fails: with a failure of resolution about
that identifier, unless the identifier names a function that states an unknown type. -/

namespace ComponentAssembly

open Build

variable {w : World} {catalog : Catalog} {profiles? : Option (List String)} {name : String}
  {identifier : String} {required : Capability} {t : Target} {e : Entry} {f : Failure}
  {profiles : List String} {factory : Factory} {s u : State} {es : List Event}

/-- A failure to resolve this identifier. -/
structure Failure.IsResolution (f : Failure) (identifier : String) : Prop where
  kind : ∃ k : ConfigKind, f.kind = .config k ∧ .resolution ∈ k.withAncestors
  about : f.identifier? = some identifier

/-- An identifier that no active entry bears names a function, and this is the first unknown name
among the types that the function states. -/
structure World.UnknownType (w : World) (catalog : Catalog) (profiles? : Option (List String))
    (identifier name : String) : Prop where
  unlisted : (catalog.active profiles?).filter (fun e => e.name = identifier) = []
  dotted : isDottedName identifier = true
  imported : w.importModule (splitLast identifier).1 = .ok ()
  stated : ∃ f, w.target? ⟨(splitLast identifier).1, (splitLast identifier).2⟩ = some (.function f) ∧
    (TypeExpr.unknownNamesOf f.statedTypes).head? = some name

/-- An undefined name is no failure of resolution. -/
theorem not_isResolution_undefinedName (name identifier : String) :
    ¬ (Failure.undefinedName name).IsResolution identifier := by
  rintro ⟨⟨k, hk, -⟩, -⟩
  cases hk

theorem entry_name (h : t.entry name profiles = .ok e) : e.name = name := by
  cases t with
  | cls c =>
    obtain rfl := Except.ok.inj h
    rfl
  | function f =>
    obtain ⟨type, -, rfl⟩ := map_ok_iff.1 h
    rfl
  | value v => cases h

/-- A target is not entered because it is none that can be, or because its types are unknown. -/
theorem entry_error (h : t.entry name profiles = .error f) :
    f.kind = .config .registration ∨
      ∃ g unknown, t = .function g ∧ f = .undefinedName unknown ∧
        (TypeExpr.unknownNamesOf g.statedTypes).head? = some unknown := by
  cases t with
  | cls c => cases h
  | value v =>
    obtain rfl := Except.error.inj h
    exact .inl rfl
  | function g =>
    simp only [Target.entry, FunctionDecl.result] at h
    cases hu : TypeExpr.unknownNamesOf g.statedTypes with
    | cons unknown others =>
      simp only [hu] at h
      obtain rfl := Except.error.inj h
      exact .inr ⟨g, unknown, rfl, rfl, by rw [hu]; rfl⟩
    | nil =>
      cases hr : g.returns? with
      | none =>
        simp only [hu, hr] at h
        obtain rfl := Except.error.inj h
        exact .inl rfl
      | some type =>
        simp only [hu, hr] at h
        cases h

/-- An unknown type of a function is always reported. -/
theorem entry_of_unknown {g : FunctionDecl}
    (h : (TypeExpr.unknownNamesOf g.statedTypes).head? = some name) (identifier : String)
    (profiles : List String) :
    (Target.function g).entry identifier profiles = .error (.undefinedName name) := by
  obtain ⟨others, ho⟩ := List.head?_eq_some_iff.1 h
  simp only [Target.entry, FunctionDecl.result, ho]
  rfl

/-- An entry that a dotted name stands for is one for what the module holds under the name. -/
theorem importEntry_ok (h : w.importEntry identifier = .ok e) :
    ∃ t, w.target? ⟨(splitLast identifier).1, (splitLast identifier).2⟩ = some t ∧
      t.entry identifier [] = .ok e := by
  unfold World.importEntry at h
  split at h
  · cases h
  simp only at h
  split at h
  · cases h
  split at h
  · cases h
  · rename_i t ht
    split at h
    · rename_i he
      exact ⟨t, ht, he.trans h⟩
    · split at h <;> cases h

/-- An entry that an identifier stands for is in the catalog, or a dotted name stands for it. -/
theorem entryFor_ok (h : w.entryFor catalog identifier profiles? = .ok e) :
    e ∈ catalog ∨ w.importEntry identifier = .ok e := by
  unfold World.entryFor at h
  split at h
  · exact .inr h
  · rename_i d hd
    obtain rfl := Except.ok.inj h
    have hm : d ∈ (catalog.active profiles?).filter fun e => e.name = identifier := by
      rw [hd]
      exact List.mem_singleton_self d
    have ha : d ∈ catalog.active profiles? := (List.mem_filter.1 hm).1
    cases profiles? with
    | none => exact .inl ha
    | some selected => exact .inl (List.mem_filter.1 ha).1
  · cases h

/-- What a dotted name comes to: an entry of that name, a failure to resolve it, or an unknown type of
the function that it names. -/
theorem importEntry_cases (w : World) (identifier : String) :
    (∃ e, w.importEntry identifier = .ok e ∧ e.name = identifier) ∨
    (∃ f, w.importEntry identifier = .error f ∧ f.IsResolution identifier) ∨
    ∃ g name, isDottedName identifier = true ∧
      w.importModule (splitLast identifier).1 = .ok () ∧
      w.target? ⟨(splitLast identifier).1, (splitLast identifier).2⟩ = some (.function g) ∧
      (TypeExpr.unknownNamesOf g.statedTypes).head? = some name ∧
      w.importEntry identifier = .error (.undefinedName name) := by
  have refused (f : Failure) (hi : w.importEntry identifier = .error f)
      (hk : f.kind = .config .resolution) (ha : f.identifier? = some identifier) :
      ∃ f, w.importEntry identifier = .error f ∧ f.IsResolution identifier :=
    ⟨f, hi, ⟨.resolution, hk, by decide⟩, ha⟩
  cases hd : isDottedName identifier with
  | false =>
    exact .inr (.inl (refused (.unknownClass identifier false)
      (by simp [World.importEntry, hd]) rfl rfl))
  | true =>
    cases hm : w.importModule (splitLast identifier).1 with
    | error f =>
      exact .inr (.inl (refused (.importFailed identifier f)
        (by simp [World.importEntry, hd, hm]) rfl rfl))
    | ok =>
      cases ht : w.target? ⟨(splitLast identifier).1, (splitLast identifier).2⟩ with
      | none =>
        exact .inr (.inl (refused (.unknownClass identifier true)
          (by simp [World.importEntry, hd, hm, ht]) rfl rfl))
      | some t =>
        cases he : t.entry identifier [] with
        | ok e => exact .inl ⟨e, by simp [World.importEntry, hd, hm, ht, he], entry_name he⟩
        | error f =>
          obtain hk | ⟨g, name, rfl, rfl, hu⟩ := entry_error he
          · exact .inr (.inl (refused (.misregistered identifier f)
              (by simp [World.importEntry, hd, hm, ht, he, hk]) rfl rfl))
          · exact .inr (.inr ⟨g, name, rfl, rfl, rfl, hu,
              by simp [World.importEntry, hd, hm, ht, he, Failure.kind]⟩)

/-- What an identifier comes to. -/
theorem entryFor_cases (w : World) (catalog : Catalog) (identifier : String)
    (profiles? : Option (List String)) :
    (∃ e, w.entryFor catalog identifier profiles? = .ok e ∧ e.name = identifier) ∨
    (∃ f, w.entryFor catalog identifier profiles? = .error f ∧ f.IsResolution identifier) ∨
    ∃ name, w.UnknownType catalog profiles? identifier name ∧
      w.entryFor catalog identifier profiles? = .error (.undefinedName name) := by
  unfold World.entryFor
  cases hc : (catalog.active profiles?).filter fun e => e.name = identifier with
  | nil =>
    obtain ⟨e, he, hn⟩ | ⟨f, hf, hr⟩ | ⟨g, name, hd, hm, ht, hu, hf⟩ :=
      importEntry_cases w identifier
    · exact .inl ⟨e, he, hn⟩
    · exact .inr (.inl ⟨f, hf, hr⟩)
    · exact .inr (.inr ⟨name, ⟨hc, hd, hm, g, ht, hu⟩, hf⟩)
  | cons e others =>
    have he : e ∈ (catalog.active profiles?).filter fun e => e.name = identifier := by simp [hc]
    cases others with
    | nil => exact .inl ⟨e, rfl, by simpa using (List.mem_filter.1 he).2⟩
    | cons d others => exact .inr (.inl ⟨_, rfl, ⟨.resolution, rfl, by decide⟩, rfl⟩)

/-- Once its entry is found, an identifier is resolved as the requirement decides. -/
theorem suitableEntry_of_entry (h : w.entryFor catalog identifier profiles? = .ok e)
    (required : Capability) :
    w.suitableEntry catalog identifier required profiles? =
      match w.meets? e.provided required with
      | some true => .ok e
      | some false => .error (.unmetRequirement identifier required)
      | none => .error (.uncheckable e.name required) := by
  rw [World.suitableEntry, h]
  rfl

theorem suitableEntry_of_error (h : w.entryFor catalog identifier profiles? = .error f)
    (required : Capability) :
    w.suitableEntry catalog identifier required profiles? = .error f := by
  rw [World.suitableEntry, h]
  rfl

/-- An identifier is resolved to an entry, or it fails to be resolved, or a type is unknown. -/
theorem suitableEntry_cases (w : World) (catalog : Catalog) (identifier : String)
    (required : Capability) (profiles? : Option (List String)) :
    (∃ e, w.suitableEntry catalog identifier required profiles? = .ok e) ∨
    (∃ f, w.suitableEntry catalog identifier required profiles? = .error f ∧
      f.IsResolution identifier) ∨
    ∃ name, w.UnknownType catalog profiles? identifier name ∧
      w.suitableEntry catalog identifier required profiles? = .error (.undefinedName name) := by
  obtain ⟨e, he, hn⟩ | ⟨f, hf, hr⟩ | ⟨name, hu, hf⟩ :=
    entryFor_cases w catalog identifier profiles?
  · rw [suitableEntry_of_entry he]
    cases w.meets? e.provided required with
    | none => exact .inr (.inl ⟨_, rfl, ⟨.resolution, rfl, by decide⟩, congrArg some hn⟩)
    | some met =>
      cases met with
      | true => exact .inl ⟨e, rfl⟩
      | false => exact .inr (.inl ⟨_, rfl, ⟨.typeConstraint, rfl, by decide⟩, rfl⟩)
  · exact .inr (.inl ⟨f, suitableEntry_of_error hf required, hr⟩)
  · exact .inr (.inr ⟨name, hu, suitableEntry_of_error hf required⟩)

theorem suitableEntry_of_unknown (h : w.UnknownType catalog profiles? identifier name)
    (required : Capability) :
    w.suitableEntry catalog identifier required profiles? = .error (.undefinedName name) := by
  obtain ⟨hc, hd, hm, g, ht, hu⟩ := h
  have he : w.entryFor catalog identifier profiles? = .error (.undefinedName name) := by
    unfold World.entryFor World.importEntry
    simp [hc, hd, hm, ht, entry_of_unknown hu, Failure.kind]
  exact suitableEntry_of_error he required

/-- Whatever a constructor or a function raises, making an instance fails as such. -/
theorem makeChecked_instantiation
    (h : (w.makeChecked (.needsArguments identifier) (.constructionFailed identifier) factory
      []).Runs s (.error f) es u) :
    f.kind = .config .instantiation ∧ f.identifier? = some identifier := by
  simp only [World.makeChecked, runs_get_bind] at h
  split at h
  · obtain rfl := Except.error.inj (h.unique (runs_throw _ s)).1
    exact ⟨rfl, rfl⟩
  · obtain ⟨cs, r, fs, x, -, hr, -⟩ := make_makes w factory [] s
    have he := (h.unique (hr.wrapping (.constructionFailed identifier))).1
    cases r with
    | ok v => cases he
    | error g =>
      obtain rfl := Except.error.inj he
      exact ⟨rfl, rfl⟩

/-- Making an instance of what an identifier stands for gives a value or fails to resolve that
identifier, whatever modules, constructors and functions raise. The only exception is a function that
is found as a dotted name and states an unknown type: then that name is undefined. Other ways for a text
in quotes to fail are left out: a function states types, and of these only unknown names fail. -/
theorem instanceFor_fails_as_resolution_iff (w : World) (catalog : Catalog) (identifier : String)
    (required : Capability) (profiles? : Option (List String)) (s : State) :
    ∃ r es t, (w.instanceFor catalog identifier required profiles?).Runs s r es t ∧
      ((∀ f, r = .error f → f.IsResolution identifier) ↔
        ∀ name, ¬ w.UnknownType catalog profiles? identifier name) ∧
      ∀ name, w.UnknownType catalog profiles? identifier name →
        r = .error (.undefinedName name) ∧ es = [] ∧ t = s := by
  have unknown {name : String} (h : w.UnknownType catalog profiles? identifier name) :
      (w.instanceFor catalog identifier required profiles?).Runs s (.error (.undefinedName name))
        [] s :=
    (runs_ofExcept (suitableEntry_of_unknown h required) s).bind_error
  have settle {r : Except Failure Value} {es : List Event} {t : State}
      (hr : (w.instanceFor catalog identifier required profiles?).Runs s r es t)
      (hf : ∀ f, r = .error f → f.IsResolution identifier) :
      ∀ name, ¬ w.UnknownType catalog profiles? identifier name := by
    intro name hu
    have he := (hr.unique (unknown hu)).1
    exact not_isResolution_undefinedName name identifier (hf _ he)
  obtain ⟨e, he⟩ | ⟨f, hf, hres⟩ | ⟨name, hu, -⟩ :=
    suitableEntry_cases w catalog identifier required profiles?
  · obtain ⟨r, es, t, hm⟩ := makeChecked_writes w (.needsArguments identifier)
      (.constructionFailed identifier) e.factory [] s
    have hr : (w.instanceFor catalog identifier required profiles?).Runs s r es t :=
      (runs_ofExcept he s).bind_silent hm
    have hf : ∀ f, r = .error f → f.IsResolution identifier := by
      rintro f rfl
      obtain ⟨hk, hi⟩ := makeChecked_instantiation hm
      exact ⟨⟨.instantiation, hk, by decide⟩, hi⟩
    have hn := settle hr hf
    exact ⟨r, es, t, hr, ⟨fun _ => hn, fun _ => hf⟩, fun name hu => absurd hu (hn name)⟩
  · have hr : (w.instanceFor catalog identifier required profiles?).Runs s (.error f) [] s :=
      (runs_ofExcept hf s).bind_error
    have hf : ∀ g, (.error f : Except Failure Value) = .error g → g.IsResolution identifier := by
      rintro g hg
      exact Except.error.inj hg ▸ hres
    have hn := settle hr hf
    exact ⟨_, _, _, hr, ⟨fun _ => hn, fun _ => hf⟩, fun name hu => absurd hu (hn name)⟩
  · refine ⟨_, _, _, unknown hu, ⟨settle (unknown hu), fun hn => absurd hu (hn name)⟩, ?_⟩
    intro other ho
    exact ⟨((unknown hu).unique (unknown ho)).1, rfl, rfl⟩

/-- A function that states for its result a type of a name that nothing bears. -/
def forwardFunction : FunctionDecl where
  name := ⟨"m", "f"⟩
  params := []
  returns? := some (.forward "Missing")
  raises? := none
  outcome := .gives (.ofValue .nothing)

/-- A world with such a function and nothing else. -/
def forwardWorld : World := ⟨[], [forwardFunction], [], []⟩

theorem splitOn_m : "m".splitOn "." = ["m"] := by
  simp only [String.splitOn, show ("." == "") = false by decide]
  rw [if_neg (by decide), String.splitOnAux, if_neg (by decide), if_neg (by decide),
    String.splitOnAux, if_pos (by decide)]
  decide

theorem splitLast_m_f : splitLast "m.f" = ("m", "f") := by
  have hs : "m.f".splitOn "." = ["m", "f"] := by
    simp only [String.splitOn, show ("." == "") = false by decide]
    rw [if_neg (by decide), String.splitOnAux, if_neg (by decide), if_neg (by decide),
      String.splitOnAux, if_neg (by decide), if_pos (by decide)]
    simp only
    rw [if_pos (by decide), String.splitOnAux, if_neg (by decide), if_neg (by decide),
      String.splitOnAux, if_pos (by decide)]
    decide
  rw [splitLast, hs]
  rfl

theorem forwardWorld_unknown : forwardWorld.UnknownType [] none "m.f" "Missing" where
  unlisted := rfl
  dotted := by
    rw [isDottedName, splitLast_m_f]
    decide
  imported := by
    rw [splitLast_m_f, World.importModule, beginnings, splitOn_m]
    simp [World.importInside, World.hasModule, World.moduleNames, forwardWorld, forwardFunction,
      beginnings, splitOn_m]
  stated := ⟨forwardFunction, by rw [splitLast_m_f]; rfl, rfl⟩

/-- An identifier can fail otherwise than by a failure to resolve it. -/
theorem instanceFor_undefined_name :
    ∃ f, (forwardWorld.instanceFor [] "m.f" (.cls .root) none).Runs .empty (.error f) [] .empty ∧
      ¬ f.IsResolution "m.f" :=
  ⟨.undefinedName "Missing",
    (runs_ofExcept (suitableEntry_of_unknown forwardWorld_unknown (.cls .root)) .empty).bind_error,
    not_isResolution_undefinedName "Missing" "m.f"⟩

end ComponentAssembly
