import ComponentAssembly.Proofs.Remembering
import ComponentAssembly.Proofs.SectionPrefix

/-! A component that sets itself up goes through the sections with its tag in order, and is told once,
at the end, which settings were made. -/

namespace ComponentAssembly

open Build Markup

variable {w : World} {target : Value} {node : Element} {nodes : List Element} {c : ClassRef}
  {s t u : State} {es fs gs : List Event} {params : List Parameter}
  {paramss : List (List Parameter)} {record : Settings} {f : Failure} {tag : String}
  {d : Configuration} {source : ConfigurationSource}

/-- A component is told which settings were made. -/
def Event.isTelling : Event → Bool
  | .settingsHandled _ _ => true
  | _ => false

/-- The event of telling an instance these settings, if its class has a body for it. -/
def World.telling (w : World) (c : ClassRef) (target : Value) (names : List String) : List Event :=
  match w.member? c settingsHookName, target with
  | some (.settingsHook _), .object number => [.settingsHandled number names]
  | _, _ => []

/-- The local names of the parameters of sections, in document order. -/
def statedNames (nodes : List Element) : List String :=
  (nodes.flatMap fun node => ((parameterList? node).map Element.children).getD []).map
    Element.localName

/-- A component is set up from a section: all parameters are read, then set in document order, and
then it is activated. -/
inductive World.SetsUp (w : World) (target : Value) (node : Element) :
    List Parameter → State → List Event → State → Prop
  | mk {params : List Parameter} {us : List Unit} {s t u : State} {es fs : List Event}
      (read : parametersOf node none = .ok params) (set : w.AssignsEach target params s us es t)
      (activated : (w.activate target).Runs t (.ok ()) fs u) :
      w.SetsUp target node params s (es ++ fs) u

/-- Setting up a component from a section fails: its parameters cannot be read, or one of them cannot
be set after those before it were, or it cannot be activated after all of them were. -/
inductive World.FailsToSetUp (w : World) (target : Value) (node : Element) :
    State → Failure → List Event → State → Prop
  | unread {s : State} {f : Failure} (read : parametersOf node none = .error f) :
      w.FailsToSetUp target node s f [] s
  | unset {pre post : List Parameter} {p : Parameter} {us : List Unit} {s t u : State}
      {f : Failure} {es fs : List Event} (read : parametersOf node none = .ok (pre ++ p :: post))
      (set : w.AssignsEach target pre s us es t)
      (failed : (w.assign target p.name p.value).Runs t (.error f) fs u) :
      w.FailsToSetUp target node s f (es ++ fs) u
  | inactive {params : List Parameter} {us : List Unit} {s t u : State} {f : Failure}
      {es fs : List Event} (read : parametersOf node none = .ok params)
      (set : w.AssignsEach target params s us es t)
      (failed : (w.activate target).Runs t (.error f) fs u) :
      w.FailsToSetUp target node s f (es ++ fs) u

/-- A component is set up from sections in order, with these parameters in each. -/
inductive World.SetsUpEach (w : World) (target : Value) :
    List Element → List (List Parameter) → State → List Event → State → Prop
  | nil (s : State) : w.SetsUpEach target [] [] s [] s
  | cons {node : Element} {nodes : List Element} {params : List Parameter}
      {paramss : List (List Parameter)} {s t u : State} {es fs : List Event}
      (first : w.SetsUp target node params s es t)
      (others : w.SetsUpEach target nodes paramss t fs u) :
      w.SetsUpEach target (node :: nodes) (params :: paramss) s (es ++ fs) u

theorem addAll_append (record : Settings) (params others : List Parameter) :
    record.addAll (params ++ others) = (record.addAll params).addAll others :=
  List.foldl_append ..

theorem parameterNodes_none (node : Element) :
    parameterNodes node none = ((parameterList? node).map Element.children).getD [] := by
  simp [parameterNodes]

theorem setUp_ok (h : w.SetsUp target node params s es t) (record : Settings) :
    (w.setUp target node record).Runs s (.ok (record.addAll params)) es t := by
  cases h with
  | mk read set activated =>
    have hs : (w.assignSection target node none record).Runs s _ _ _ :=
      assignSection_read read w target record ▸ assignAll_of_each set record
    exact (assignOrFail_ok hs).bind (activated.then_silent (runs_pure _ _))

theorem setUp_error (h : w.FailsToSetUp target node s f es t) (record : Settings) :
    (w.setUp target node record).Runs s (.error f) es t := by
  cases h with
  | unread read =>
    exact (assignOrFail_error (assignSection_unread read w target record s)).bind_error
  | unset read set failed =>
    have hs : (w.assignSection target node none record).Runs s _ _ _ :=
      assignSection_read read w target record ▸ assignAll_of_failing set failed record
    exact (assignOrFail_error hs).bind_error
  | inactive read set failed =>
    have hs : (w.assignSection target node none record).Runs s _ _ _ :=
      assignSection_read read w target record ▸ assignAll_of_each set record
    exact (assignOrFail_ok hs).bind failed.bind_error

theorem setUpEach_ok (h : w.SetsUpEach target nodes paramss s es t) (record : Settings) :
    (w.setUpEach target nodes record).Runs s (.ok (record.addAll paramss.flatten)) es t := by
  induction h generalizing record with
  | nil s => exact runs_pure record s
  | cons first _ ih =>
    rw [List.flatten_cons, addAll_append]
    exact (setUp_ok first record).bind (ih _)

/-- A component is set up from a section or this fails, whatever was set before. -/
theorem setsUp_or_fails (w : World) (target : Value) (node : Element) (s : State) :
    (∃ params es t, w.SetsUp target node params s es t) ∨
    ∃ f es t, w.FailsToSetUp target node s f es t := by
  cases hp : parametersOf node none with
  | error f => exact .inr ⟨f, [], s, .unread hp⟩
  | ok params =>
    obtain ⟨us, es, t, ha⟩ | ⟨pre, p, post, us, es, t, f, fs, u, rfl, ha, hf⟩ :=
      assignsEach_or_fails w target params s
    · obtain ⟨r, fs, hr, -⟩ := activate_activates w target t
      cases r with
      | ok => exact .inl ⟨params, _, _, .mk hp ha hr⟩
      | error f => exact .inr ⟨f, _, _, .inactive hp ha hr⟩
    · exact .inr ⟨f, _, u, .unset hp ha hf⟩

/-- Sections are gone through in order until setting up from one of them fails. -/
theorem setUpEach_cases (w : World) (target : Value) (nodes : List Element) (s : State) :
    (∃ paramss es t, w.SetsUpEach target nodes paramss s es t ∧ ∀ record,
      (w.setUpEach target nodes record).Runs s (.ok (record.addAll paramss.flatten)) es t) ∨
    ∃ pre node post paramss es t f fs u, nodes = pre ++ node :: post ∧
      w.SetsUpEach target pre paramss s es t ∧ w.FailsToSetUp target node t f fs u ∧
      ∀ record, (w.setUpEach target nodes record).Runs s (.error f) (es ++ fs) u := by
  induction nodes generalizing s with
  | nil => exact .inl ⟨[], [], s, .nil s, fun record => runs_pure record s⟩
  | cons node nodes ih =>
    obtain ⟨params, es, t, h⟩ | ⟨f, es, t, h⟩ := setsUp_or_fails w target node s
    · obtain ⟨paramss, fs, u, hs, hr⟩ | ⟨pre, n, post, paramss, fs, u, f, gs, x, rfl, hs, hf, hr⟩ :=
        ih t
      · exact .inl ⟨params :: paramss, es ++ fs, u, .cons h hs, setUpEach_ok (.cons h hs)⟩
      · refine .inr ⟨node :: pre, n, post, params :: paramss, es ++ fs, u, f, gs, x, rfl,
          .cons h hs, hf, fun record => ?_⟩
        rw [List.append_assoc]
        exact (setUp_ok h record).bind (hr _)
    · exact .inr ⟨[], node, nodes, [], [], s, f, es, t, rfl, .nil s, h,
        fun record => (setUp_error h record).bind_error⟩

theorem assignsEach_no_telling {us : List Unit} (h : w.AssignsEach target params s us es t) :
    ∀ e ∈ es, e.isTelling = false := by
  intro e he
  obtain ⟨number?, name, v, rfl⟩ := (assignsEach_begin h).2.sets e he
  rfl

theorem activate_no_telling {r : Except Failure Unit} (h : (w.activate target).Runs s r es t) :
    ∀ e ∈ es, e.isTelling = false := by
  intro e he
  obtain ⟨n, rfl⟩ | ⟨n, p, rfl⟩ | ⟨p, text, rfl⟩ := (Activates.of_runs h).2.events e he <;> rfl

theorem no_telling_append (h : ∀ e ∈ es, e.isTelling = false)
    (k : ∀ e ∈ fs, e.isTelling = false) : ∀ e ∈ es ++ fs, e.isTelling = false := by
  intro e he
  exact (List.mem_append.1 he).elim (h e) (k e)

theorem setsUp_no_telling (h : w.SetsUp target node params s es t) :
    ∀ e ∈ es, e.isTelling = false := by
  cases h with
  | mk read set activated =>
    exact no_telling_append (assignsEach_no_telling set) (activate_no_telling activated)

theorem failsToSetUp_no_telling (h : w.FailsToSetUp target node s f es t) :
    ∀ e ∈ es, e.isTelling = false := by
  cases h with
  | unread => simp
  | unset read set failed =>
    refine no_telling_append (assignsEach_no_telling set) ?_
    rcases (assign_error failed).2 with rfl | hb
    · simp
    · intro e he
      obtain ⟨number?, name, v, rfl⟩ := hb.sets e he
      rfl
  | inactive read set failed =>
    exact no_telling_append (assignsEach_no_telling set) (activate_no_telling failed)

theorem setsUpEach_no_telling (h : w.SetsUpEach target nodes paramss s es t) :
    ∀ e ∈ es, e.isTelling = false := by
  induction h with
  | nil => simp
  | cons first _ ih => exact no_telling_append (setsUp_no_telling first) ih

theorem setsUp_classes (h : w.SetsUp target node params s es t) : t.classes = s.classes := by
  cases h with
  | mk read set activated =>
    rw [(Activates.of_runs activated).1, State.classes_writing]
    exact (assignsEach_begin set).1

theorem setsUpEach_classes (h : w.SetsUpEach target nodes paramss s es t) :
    t.classes = s.classes := by
  induction h with
  | nil => rfl
  | cons first _ ih => exact ih.trans (setsUp_classes first)

/-- Setting up from one section sets its parameters and no others. -/
theorem setsUp_remembers (hc : s.classOf? target = some c)
    (h : w.SetsUp target node params s es t) :
    t.classes = s.classes ∧ w.Remembers target c s params t ∧
      params.map Parameter.name = statedNames [node] := by
  cases h with
  | mk read set activated =>
    have ht := (Activates.of_runs activated).1
    have hs := (assignsEach_begin set).1
    have hr : w.Remembers target c s (params ++ []) t :=
      (assignsEach_remembers hc set).append (remembers_nil w target c (by rw [ht]; rfl)) hs
    have hn := parametersOf_names read
    rw [parameterNodes_none] at hn
    exact ⟨by rw [ht]; exact hs, by simpa using hr, by simpa [statedNames] using hn⟩

theorem setsUpEach_remembers (hc : s.classOf? target = some c)
    (h : w.SetsUpEach target nodes paramss s es t) :
    t.classes = s.classes ∧ w.Remembers target c s paramss.flatten t ∧
      paramss.flatten.map Parameter.name = statedNames nodes := by
  induction h with
  | nil s => exact ⟨rfl, remembers_nil w target c rfl, rfl⟩
  | cons first _ ih =>
    obtain ⟨hs, hr, hn⟩ := setsUp_remembers hc first
    obtain ⟨ht, hq, hm⟩ := ih (by rw [State.classOf?_of_classes hs, hc])
    exact ⟨ht.trans hs, hr.append hq hs, by simp_all [statedNames]⟩

/-- Telling a component its settings writes at most one event, and gives what its class raises. -/
theorem tellSettings_writes (hc : s.classOf? target = some c) (record : Settings) :
    ∃ r, (w.tellSettings target record).OnlyWrites s r (w.telling c target record.names) := by
  unfold World.tellSettings World.telling
  have quiet {b : State → Build Unit} (hb : b s = pure ()) :
      ∃ r, Build.OnlyWrites (do let s ← get; b s) s r [] :=
    ⟨.ok (), ((runs_get s).bind_silent (hb ▸ runs_pure () s)).onlyWrites⟩
  cases hm : w.member? c settingsHookName with
  | none => exact quiet (by simp [hc, hm])
  | some m =>
    cases m with
    | settingsHook raises? =>
      cases target with
      | object number =>
        obtain ⟨r, hr⟩ := runs_raise raises? .nothing
          (s.writing [.settingsHandled number record.names])
        refine ⟨r, (runs_get s).bind_silent ?_⟩
        simp only [hc, Option.bind_some, hm]
        exact (runs_emit _ s).then_silent hr
      | _ => exact quiet (by simp)
    | _ => exact quiet (by simp [hc, hm])

theorem member?_setUp (h : .predefined .configurable ∈ w.lineage c) :
    ∃ m, w.member? c setUpName = some m := by
  rw [← Option.isSome_iff_exists, World.member?, List.findSome?_isSome_iff]
  exact ⟨_, h, rfl⟩

/-- How a component sets itself up from a document. It goes through the sections with its tag in
order; in each, all parameters are set in document order and then it is activated once. The first
failure is the outcome, and the component is told nothing. If there is none, the component is told
once, at the end, which settings were made, and whatever that raises is the outcome. The record holds
the names of the parameters in all sections, each once, in the order in which they first occur, and
each method remembers the value of the last parameter for it. -/
theorem setUpSelf_sections_in_order (w : World) (tag : String)
    (hd : Configuration.load source = .ok d) (hc : s.classOf? target = some c)
    (hb : .predefined .configurable ∈ w.lineage c) :
    (∃ pre node post paramss es t f fs u, d.sectionsNamed tag = pre ++ node :: post ∧
      w.SetsUpEach target pre paramss s es t ∧ w.FailsToSetUp target node t f fs u ∧
      (∀ e ∈ es ++ fs, e.isTelling = false) ∧
      (w.setUpSelf target tag source).Runs s (.error f) (es ++ fs) u) ∨
    ∃ paramss es t record r u, w.SetsUpEach target (d.sectionsNamed tag) paramss s es t ∧
      (∀ e ∈ es, e.isTelling = false) ∧ (d.sectionsNamed tag = [] → es = []) ∧
      record.names = (statedNames (d.sectionsNamed tag)).eraseDups ∧
      (w.tellSettings target record).Runs t r (w.telling c target record.names) u ∧
      w.Remembers target c s paramss.flatten u ∧
      (w.setUpSelf target tag source).Runs s (r.map fun _ => record)
        (es ++ w.telling c target record.names) u := by
  obtain ⟨m, hm⟩ := member?_setUp hb
  have begin {r : Except Failure Settings} {es : List Event} {u : State}
      (h : Build.Runs (do
        let record ← w.setUpEach target (d.sectionsNamed tag) .empty
        w.tellSettings target record
        return record) s r es u) : (w.setUpSelf target tag source).Runs s r es u := by
    refine (runs_get s).bind_silent ?_
    simp only [hc, Option.bind_some, hm]
    exact (runs_ofExcept hd s).bind_silent h
  obtain ⟨paramss, es, t, hs, hr⟩ | ⟨pre, node, post, paramss, es, t, f, fs, u, hn, hs, hf, hr⟩ :=
    setUpEach_cases w target (d.sectionsNamed tag) s
  · obtain ⟨ht, hq, hnames⟩ := setsUpEach_remembers hc hs
    obtain ⟨r, htell⟩ := tellSettings_writes (w := w)
      ((State.classOf?_of_classes ht target).trans hc) (Settings.empty.addAll paramss.flatten)
    have hrec := names_addAll .empty paramss.flatten
    rw [hnames, Settings.names_empty, List.nil_append] at hrec
    refine .inr ⟨paramss, es, t, _, r, _, hs, setsUpEach_no_telling hs, ?_, hrec, htell, ?_,
      begin ?_⟩
    · intro hk
      rw [hk] at hs
      cases hs
      rfl
    · intro name hname
      exact hq name hname
    · cases r with
      | ok => exact (hr .empty).bind (Runs.then_silent htell (runs_pure _ _))
      | error f => exact (hr .empty).bind (Runs.bind_error htell)
  · exact .inl ⟨pre, node, post, paramss, es, t, f, fs, u, hn, hs, hf,
      no_telling_append (setsUpEach_no_telling hs) (failsToSetUp_no_telling hf),
      begin (hr .empty).bind_error⟩

/-- A world with a class that sets itself up and wants to know its settings: it is prepared, and then
checked to have a size. -/
def pipelineWorld : World where
  classes := [{
    name := ⟨"shop", "Pipeline"⟩
    bases := [.predefined .configurable]
    methods := []
    abstractMethods := []
    registeredWith := []
    constructor? := none
    setters := [⟨"set_size", .method, [⟨"value", .positional, none, none⟩], none, none⟩]
    preparation? := some (.body none)
    check? := some (.body ⟨none, ["size"], none, none⟩)
    settingsHook? := some none
    unreadable := false
    protocol? := none }]
  functions := []
  values := []
  brokenModules := []

/-- One instance, which remembers nothing yet. -/
def pipelineState : State := ⟨[⟨.own ⟨"shop", "Pipeline"⟩, []⟩], [], []⟩

/-- A section with one parameter. -/
def pipelineSection (size : String) : Element :=
  .mk ⟨none, "pipeline"⟩ [] [.element (.mk ⟨none, "params"⟩ []
    [.element (.mk ⟨none, "size"⟩ [] [.text size])])]

def pipelineDocument : Configuration where
  root := .mk ⟨none, "properties"⟩ [] [.element (pipelineSection "1"),
    .element (pipelineSection "2")]
  root_named := rfl

theorem setUpSelf_sections_in_order_pipeline :
    Configuration.load (.tree pipelineDocument.root) = .ok pipelineDocument ∧
    pipelineState.classOf? (.object 0) = some (.own ⟨"shop", "Pipeline"⟩) ∧
    .predefined .configurable ∈ pipelineWorld.lineage (.own ⟨"shop", "Pipeline"⟩) ∧
    ∃ record u, record.names = ["size"] ∧
      (pipelineWorld.setUpSelf (.object 0) "pipeline" (.tree pipelineDocument.root)).Runs
        pipelineState (.ok record) [.set (some 0) "set_size" (.text "1"), .prepared 0 (.map []),
          .checked 0 .strict, .set (some 0) "set_size" (.text "2"), .prepared 0 (.map []),
          .checked 0 .strict, .settingsHandled 0 ["size"]] u ∧
      u.remembered (.object 0) "set_size" = .text "2" := by
  have hd : Configuration.load (.tree pipelineDocument.root) = .ok pipelineDocument := rfl
  have hc : pipelineState.classOf? (.object 0) = some (.own ⟨"shop", "Pipeline"⟩) := rfl
  have hb : .predefined .configurable ∈ pipelineWorld.lineage (.own ⟨"shop", "Pipeline"⟩) := by
    decide
  have hr : (pipelineWorld.setUpSelf (.object 0) "pipeline" (.tree pipelineDocument.root)).Runs
      pipelineState (.ok ⟨["size"], by simp⟩) _
      ⟨[⟨.own ⟨"shop", "Pipeline"⟩, [("set_size", .text "2")]⟩], _, []⟩ := ⟨rfl, rfl⟩
  refine ⟨hd, hc, hb, ?_⟩
  obtain ⟨pre, node, post, paramss, es, t, f, fs, u, -, -, -, -, he⟩ |
      ⟨paramss, es, t, record, r, u, -, -, -, hn, -, -, he⟩ :=
    setUpSelf_sections_in_order pipelineWorld "pipeline" hd hc hb
  · cases (he.unique hr).1
  · obtain ⟨hok, hes, hu⟩ := he.unique hr
    rw [hok, hes] at he
    refine ⟨_, u, ?_, he, by rw [hu]; rfl⟩
    obtain ⟨-, -, hrecord⟩ := map_ok_iff.1 hok
    rw [← hrecord, hn]
    rfl

end ComponentAssembly
