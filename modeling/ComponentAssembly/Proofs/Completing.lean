import ComponentAssembly.Build.Assembly
import ComponentAssembly.Proofs.Activating
import ComponentAssembly.Proofs.Assigning
import ComponentAssembly.Proofs.Making
import ComponentAssembly.Proofs.Reading

/-! How one component is built: it is made, set from its section and activated. -/

namespace ComponentAssembly

open Build Markup

variable {a : Assembler} {w : World} {making : Build Value} {node : Element}
  {excluded? : Option String} {target : Value} {record after : Settings} {s t u : State}
  {r : Except Failure Value} {es fs : List Event} {required : Capability}
  {nodes : List Element} {vs : List Value}

/-- The names of the setters for parameters. -/
def setterNames (nodes : List Element) : List String := nodes.map fun n => setterName n.localName

/-- What setting a section can come to: the setters of some first parameters begin, of all of them
if nothing fails, and no instance is added. -/
structure SetsFirst (w : World) (target : Value) (node : Element) (excluded? : Option String)
    (s : State) (r : Except Failure Settings) (es : List Event) (t : State) : Prop where
  classes_eq : t.classes = s.classes
  first : ∃ begun, begun <+: parameterNodes node excluded? ∧
    w.Begin s target (setterNames begun) es ∧
    ((∃ record, r = .ok record) → begun = parameterNodes node excluded?)

/-- Makes a component, sets it from its section and activates it. -/
def World.completing (w : World) (making : Build Value) (node : Element)
    (excluded? : Option String) : Build Value := do
  let v ← making
  let _ ← w.assignOrFail v node excluded? .empty
  w.activate v
  return v

/-- The steps by which one component is built. Each is taken only if the one before did not fail. -/
inductive Completes (w : World) (making : Build Value) (node : Element)
    (excluded? : Option String) (s : State) : Except Failure Value → List Event → State → Prop
  | unmade {f : Failure} {es : List Event} {t : State} (made : making.Runs s (.error f) es t) :
      Completes w making node excluded? s (.error f) es t
  | unset {v : Value} {f : Failure} {es fs : List Event} {t u : State}
      (made : making.Runs s (.ok v) es t)
      (set : (w.assignOrFail v node excluded? .empty).Runs t (.error f) fs u) :
      Completes w making node excluded? s (.error f) (es ++ fs) u
  | activated {v : Value} {record : Settings} {r : Except Failure Unit} {es fs gs : List Event}
      {t u x : State} (made : making.Runs s (.ok v) es t)
      (set : (w.assignOrFail v node excluded? .empty).Runs t (.ok record) fs u)
      (active : (w.activate v).Runs u r gs x) :
      Completes w making node excluded? s (r.map fun _ => v) (es ++ (fs ++ gs)) x

theorem setterNames_of_names {params : List Parameter} {nodes : List Element}
    (h : params.map Parameter.name = nodes.map Element.localName) :
    (params.map fun p => setterName p.name) = setterNames nodes := by
  calc (params.map fun p => setterName p.name)
      = (params.map Parameter.name).map setterName := by rw [List.map_map]; rfl
    _ = setterNames nodes := by rw [h, List.map_map]; rfl

theorem split_of_names {pre post : List Parameter} {p : Parameter} {nodes : List Element}
    (h : (pre ++ p :: post).map Parameter.name = nodes.map Element.localName) :
    ∃ before node behind, nodes = before ++ node :: behind ∧
      pre.map Parameter.name = before.map Element.localName ∧ p.name = node.localName := by
  rw [List.map_append, List.map_cons] at h
  obtain ⟨before, others, rfl, hpre, ho⟩ := List.map_eq_append_iff.1 h.symm
  obtain ⟨node, behind, rfl, hn, -⟩ := List.map_eq_cons_iff.1 ho
  exact ⟨before, node, behind, rfl, hpre.symm, hn.symm⟩

theorem assignOrFail_error {f : Failure}
    (h : (w.assignSection target node excluded? record).Runs s (.ok (after, some f)) es t) :
    (w.assignOrFail target node excluded? record).Runs s (.error f) es t :=
  h.then_silent (runs_throw f t)

theorem assignOrFail_ok
    (h : (w.assignSection target node excluded? record).Runs s (.ok (after, none)) es t) :
    (w.assignOrFail target node excluded? record).Runs s (.ok after) es t :=
  h.then_silent (runs_pure after t)

theorem assignOrFail_setsFirst (w : World) (target : Value) (node : Element)
    (excluded? : Option String) (record : Settings) (s : State) :
    ∃ r es t, (w.assignOrFail target node excluded? record).Runs s r es t ∧
      SetsFirst w target node excluded? s r es t := by
  cases hp : parametersOf node excluded? with
  | error f =>
    have hr := assignSection_unread hp w target record s
    exact ⟨_, _, _, assignOrFail_error hr, rfl, [], List.nil_prefix, .nil, by simp⟩
  | ok params =>
    have hn := parametersOf_names hp
    have hsec := assignSection_read hp w target record
    obtain ⟨us, es, t, ha⟩ | ⟨pre, p, post, us, es, t, f, fs, u, rfl, ha, hf⟩ :=
      assignsEach_or_fails w target params s
    · have hr := assignAll_of_each ha record
      rw [← hsec] at hr
      obtain ⟨hc, hb⟩ := assignsEach_begin ha
      rw [setterNames_of_names hn] at hb
      exact ⟨_, _, _, assignOrFail_ok hr, hc, _, List.prefix_refl _, hb, fun _ => rfl⟩
    · have hr : (w.assignAll target (pre ++ p :: post) record).Runs s _ _ u :=
        assignAll_of_failing ha hf record
      rw [← hsec] at hr
      obtain ⟨hc, hb⟩ := assignsEach_begin ha
      obtain ⟨hi, he⟩ := assign_error hf
      have hd : u.classes = s.classes := by rw [← hc, State.classes, hi, State.classes]
      obtain ⟨before, node, behind, hs, hpre, hnode⟩ := split_of_names hn
      rw [setterNames_of_names hpre] at hb
      rcases he with rfl | he
      · refine ⟨_, _, _, assignOrFail_error hr, hd, before, ⟨_, hs.symm⟩, ?_, by simp⟩
        simpa using hb
      · refine ⟨_, _, _, assignOrFail_error hr, hd, before ++ [node], ⟨behind, by simp [hs]⟩, ?_,
          by simp⟩
        rw [hnode] at he
        simpa [setterNames] using hb.append (he.of_classes hc)

theorem SetsFirst.of_runs {q : Except Failure Settings}
    (h : (w.assignOrFail target node excluded? record).Runs s q es t) :
    SetsFirst w target node excluded? s q es t := by
  obtain ⟨q', es', t', hr, hs⟩ := assignOrFail_setsFirst w target node excluded? record s
  obtain ⟨rfl, rfl, rfl⟩ := h.unique hr
  exact hs

/-- Completing a component goes through its steps, whatever they come to. -/
theorem completing_completes (hm : making.Writes) (w : World) (node : Element)
    (excluded? : Option String) (s : State) :
    ∃ r es t, (w.completing making node excluded?).Runs s r es t ∧
      Completes w making node excluded? s r es t := by
  obtain ⟨r, es, t, hm⟩ := hm s
  cases r with
  | error f => exact ⟨_, _, _, hm.bind_error, .unmade hm⟩
  | ok v =>
    obtain ⟨r, fs, u, hs, -⟩ := assignOrFail_setsFirst w v node excluded? .empty t
    cases r with
    | error f => exact ⟨_, _, _, hm.bind hs.bind_error, .unset hm hs⟩
    | ok record =>
      obtain ⟨r, gs, ha, -⟩ := activate_activates w v u
      refine ⟨_, _, _, hm.bind (hs.bind ?_), .activated hm hs ha⟩
      cases r with
      | error f => exact Runs.bind_error ha
      | ok =>
        exact Runs.then_silent ha (runs_pure v _)

theorem compose_eq (a : Assembler) (childTag : String) (node : Element) (identifier : String)
    (f : Factory) (children : List Value) :
    a.compose childTag node identifier f children = a.world.completing
      (a.world.makeChecked (.takesNoChildren identifier) (.compositionFailed identifier) f
        [.list children]) node (some childTag) := rfl

theorem assemble_eq (a : Assembler) (node : Element) (required : Capability) :
    a.assemble node required = (do
      let identifier ← ofExcept (statedClass node)
      let e ← ofExcept (a.world.suitableEntry a.catalog identifier required a.profiles?)
      a.world.completing (a.world.makeChecked (.needsArguments identifier)
        (.constructionFailed identifier) e.factory []) node none) := by
  simp only [Assembler.assemble, World.instanceFor, World.setUp, World.completing, bind_assoc,
    pure_bind]

/-- A section whose class cannot be made has no effect, and any other one is completed. -/
theorem assemble_completes (a : Assembler) (node : Element) (required : Capability) (s : State) :
    ∃ r es t, (a.assemble node required).Runs s r es t ∧
      ((∃ f, r = .error f ∧ es = [] ∧ t = s) ∨ ∃ misfit wrap factory,
        Completes a.world (a.world.makeChecked misfit wrap factory []) node none s r es t) := by
  rw [assemble_eq]
  cases hi : statedClass node with
  | error f =>
    exact ⟨.error f, [], s, (runs_ofExcept rfl s).bind_error, .inl ⟨f, rfl, rfl, rfl⟩⟩
  | ok identifier =>
    cases he : a.world.suitableEntry a.catalog identifier required a.profiles? with
    | error f =>
      exact ⟨.error f, [], s, (runs_ofExcept rfl s).bind_silent (runs_ofExcept he s).bind_error,
        .inl ⟨f, rfl, rfl, rfl⟩⟩
    | ok e =>
      obtain ⟨r, es, t, hr, hc⟩ := completing_completes (makeChecked_writes a.world
        (.needsArguments identifier) (.constructionFailed identifier) e.factory []) a.world node
        none s
      exact ⟨r, es, t, (runs_ofExcept rfl s).bind_silent ((runs_ofExcept he s).bind_silent hr),
        .inr ⟨_, _, _, hc⟩⟩

theorem assemble_writes (a : Assembler) (node : Element) (required : Capability) :
    (a.assemble node required).Writes := by
  intro s
  obtain ⟨r, es, t, hr, -⟩ := assemble_completes a node required s
  exact ⟨r, es, t, hr⟩

/-- Sections are built in order, and none fails. -/
abbrev Assembler.AssemblesEach (a : Assembler) (required : Capability) :
    List Element → State → List Value → List Event → State → Prop :=
  RunsEach fun node => a.assemble node required

theorem assembleEach_of_each (h : a.AssemblesEach required nodes s vs es t) :
    (a.assembleEach required nodes).Runs s (.ok vs) es t := by
  induction h with
  | nil s => exact runs_pure _ s
  | cons first _ ih => exact first.bind (ih.then_silent (runs_pure _ _))

theorem assembleEach_of_failing {child : Element} {post : List Element} {f : Failure}
    (h : a.AssemblesEach required nodes s vs es t)
    (hc : (a.assemble child required).Runs t (.error f) fs u) :
    (a.assembleEach required (nodes ++ child :: post)).Runs s (.error f) (es ++ fs) u := by
  induction h with
  | nil s => exact hc.bind_error
  | cons first _ ih =>
    rw [List.append_assoc]
    exact first.bind (ih hc).bind_error

theorem assemblesEach_or_fails (a : Assembler) (required : Capability) (nodes : List Element)
    (s : State) :
    (∃ vs es t, a.AssemblesEach required nodes s vs es t) ∨
    ∃ pre child post vs es t f fs u, nodes = pre ++ child :: post ∧
      a.AssemblesEach required pre s vs es t ∧
      (a.assemble child required).Runs t (.error f) fs u :=
  runsEach_or_fails (fun node => assemble_writes a node required) nodes s

theorem compose_completes (a : Assembler) (childTag : String) (node : Element)
    (identifier : String) (f : Factory) (children : List Value) (s : State) :
    ∃ r es t, (a.compose childTag node identifier f children).Runs s r es t ∧
      Completes a.world (a.world.makeChecked (.takesNoChildren identifier)
        (.compositionFailed identifier) f [.list children]) node (some childTag) s r es t := by
  rw [compose_eq]
  exact completing_completes (makeChecked_writes _ _ _ _ _) _ _ _ s

end ComponentAssembly
