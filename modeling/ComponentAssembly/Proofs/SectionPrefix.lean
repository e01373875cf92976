import ComponentAssembly.Proofs.Assigning
import ComponentAssembly.Proofs.Reading

/-! A section is read as a whole before its first parameter is set, and what is set of it is exactly
the parameters before the first failing one. -/

namespace ComponentAssembly

open Build Markup

variable {w : World} {target : Value} {s t u : State} {parameter : String} {value : ShapedText}
  {f : Failure} {params : List Parameter} {record : Settings} {es fs : List Event}
  {name : String} {names : List String}

theorem eraseDups_of_nodup (h : names.Nodup) : names.eraseDups = names := by
  induction names with
  | nil => rfl
  | cons a names ih =>
    obtain ⟨ha, hn⟩ := List.nodup_cons.1 h
    have hf : names.filter (fun b => !b == a) = names := by
      rw [List.filter_eq_self]
      intro b hb
      have hne : b ≠ a := fun he => ha (he ▸ hb)
      simpa using hne
    rw [List.eraseDups_cons, hf, ih hn]

theorem eraseDups_names_add (record : Settings) (name : String) (names : List String) :
    ((record.add name).names ++ names).eraseDups = (record.names ++ name :: names).eraseDups := by
  by_cases h : name ∈ record.names
  · rw [Settings.names_add_of_mem h, List.eraseDups_append, List.eraseDups_append]
    simp [List.removeAll, h]
  · rw [Settings.names_add_of_not_mem h]
    simp

/-- Names are kept in the order in which they were first added, each once. -/
theorem names_addAll (record : Settings) (params : List Parameter) :
    (record.addAll params).names = (record.names ++ params.map Parameter.name).eraseDups := by
  induction params generalizing record with
  | nil => simpa [Settings.addAll] using (eraseDups_of_nodup record.distinct).symm
  | cons p params ih =>
    calc ((record.add p.name).addAll params).names
        = ((record.add p.name).names ++ params.map Parameter.name).eraseDups := ih _
      _ = (record.names ++ p.name :: params.map Parameter.name).eraseDups :=
        eraseDups_names_add ..

theorem assignsEach_setters {us : List Unit} (h : w.AssignsEach target params s us es t) :
    es.map Event.setter? = params.map fun p => some (setterName p.name) := by
  rw [(assignsEach_begin h).2.setters, List.map_map]
  rfl

theorem assign_error_setters (h : (w.assign target parameter value).Runs s (.error f) es t) :
    t.instances = s.instances ∧
      (es = [] ∨ es.map Event.setter? = [some (setterName parameter)]) := by
  obtain ⟨hi, he | hb⟩ := assign_error h
  · exact ⟨hi, .inl he⟩
  · exact ⟨hi, .inr hb.setters⟩

/-- Setting the parameters of a section. If one of them is a malformed map, nothing is done but to
report the first such one. Otherwise they are set in document order until one fails: then that
failure is the outcome, no later setter has begun, and recorded are exactly those before. -/
theorem assignSection_exact_prefix (w : World) (target : Value) (node : Element)
    (excluded? : Option String) (record : Settings) (s : State) :
    ((∃ n ∈ parameterNodes node excluded?, IsMalformedMap n) →
      ∃ pre bad post problem, parameterNodes node excluded? = pre ++ bad :: post ∧
        (∀ n ∈ pre, ¬ IsMalformedMap n) ∧ IsMalformedMap bad ∧ MapFault bad problem ∧
        (Failure.document problem).kind = .config .malformedMapEntry ∧
        (Failure.document problem).identifier? = some bad.localName ∧
        (w.assignSection target node excluded? record).Runs s
          (.ok (record, some (.document problem))) [] s) ∧
    ((∀ n ∈ parameterNodes node excluded?, ¬ IsMalformedMap n) →
      ∃ params, parametersOf node excluded? = .ok params ∧
        params.map Parameter.name = (parameterNodes node excluded?).map Element.localName ∧
        ((∃ us es t after, w.AssignsEach target params s us es t ∧
          es.map Event.setter? = (params.map fun p => some (setterName p.name)) ∧
          after.names = (record.names ++ params.map Parameter.name).eraseDups ∧
          (w.assignSection target node excluded? record).Runs s (.ok (after, none)) es t) ∨
        ∃ pre p post us es t f fs u after, params = pre ++ p :: post ∧
          w.AssignsEach target pre s us es t ∧
          es.map Event.setter? = (pre.map fun p => some (setterName p.name)) ∧
          (w.assign target p.name p.value).Runs t (.error f) fs u ∧
          u.instances = t.instances ∧
          (fs = [] ∨ fs.map Event.setter? = [some (setterName p.name)]) ∧
          after.names = (record.names ++ pre.map Parameter.name).eraseDups ∧
          (w.assignSection target node excluded? record).Runs s (.ok (after, some f)) (es ++ fs)
            u)) := by
  constructor
  · intro h
    classical
    obtain ⟨pre, bad, post, hs, hpre, hbad⟩ := exists_first h
    obtain ⟨problem, hp, he⟩ := parametersOf_malformed hs hpre hbad
    exact ⟨pre, bad, post, problem, hs, hpre, hbad, hp, hp.kind_eq, hp.identifier_eq,
      assignSection_unread he w target record s⟩
  · intro h
    obtain ⟨params, hp⟩ := parametersOf_wellFormed h
    refine ⟨params, hp, parametersOf_names hp, ?_⟩
    rw [assignSection_read hp]
    obtain ⟨us, es, t, ha⟩ | ⟨pre, p, post, us, es, t, f, fs, u, rfl, ha, hf⟩ :=
      assignsEach_or_fails w target params s
    · have hn := names_addAll record params
      have hr := assignAll_of_each ha record
      have he := assignsEach_setters ha
      exact .inl ⟨us, es, t, record.addAll params, ha, he, hn, hr⟩
    · obtain ⟨hi, he⟩ := assign_error_setters hf
      have hn := names_addAll record pre
      have hp := assignsEach_setters ha
      have hr : (w.assignAll target (pre ++ p :: post) record).Runs s _ _ u :=
        assignAll_of_failing ha hf record
      exact .inr ⟨pre, p, post, us, es, t, f, fs, u, record.addAll pre, rfl, ha, hp, hf, hi, he,
        hn, hr⟩

end ComponentAssembly
