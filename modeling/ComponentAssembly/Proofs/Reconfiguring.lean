import ComponentAssembly.Proofs.SettingUp

/-! Setting up a component once more from the same document changes nothing: each check sees values
of the earlier run at the same point or of its end, and both were checked. -/

namespace ComponentAssembly

open Build Markup

variable {w : World} {target v x : Value} {m : Setter} {c : ClassRef} {number : Nat} {name : String}
  {s t u s' last : State} {es fs : List Event} {params : List Parameter} {p : Parameter}
  {paramss : List (List Parameter)} {node : Element} {nodes : List Element} {record : Settings}
  {b : Check} {tag : String} {source : ConfigurationSource}

/-- A state has the same instances as another one, and each remembers under each name what it does
there or what it does in a last state. -/
structure State.Blends (s' s last : State) : Prop where
  classes : s'.classes = s.classes
  remembered : ∀ v name, s'.remembered v name = s.remembered v name ∨
    s'.remembered v name = last.remembered v name

/-- The settings that are required when a component is activated are made. -/
def World.IsReady (w : World) (s : State) (target : Value) : Prop :=
  ∀ number c b, target = .object number → s.classOf? target = some c →
    w.isInitializable c = true → w.member? c checkName = some (.check (.body b)) → b.Met s number

/-! ### Setting parameters -/

/-- What a setter does to a remembered value is the same in all states with the same instances. -/
theorem remembered_keeping_cases (target : Value) (m : Setter) (x v : Value) (name : String)
    (classes : List ClassRef) :
    (∀ s : State, s.classes = classes → (s.keeping target m x).remembered v name = x) ∨
    ∀ s : State, s.classes = classes →
      (s.keeping target m x).remembered v name = s.remembered v name := by
  cases hi : m.instance? target with
  | none =>
    refine .inr fun s _ => ?_
    rw [State.keeping, hi]
  | some number =>
    by_cases hv : v = .object number ∧ m.name = name ∧ number < classes.length
    · obtain ⟨rfl, rfl, hlt⟩ := hv
      refine .inl fun s hs => ?_
      have hl : number < s.instances.length := by rwa [← State.length_classes, hs]
      simp [State.keeping, hi, State.remembered, hl, find?_setEntry]
    · refine .inr fun s hs => ?_
      rw [State.keeping, hi]
      cases v with
      | object n =>
        simp only [State.remembered, List.getElem?_modify]
        cases hn : s.instances[n]? with
        | none => rfl
        | some i =>
          have hl : n < classes.length := by
            rw [← hs, State.length_classes]
            exact (List.getElem?_eq_some_iff.1 hn).1
          by_cases he : number = n
          · subst he
            have hne : m.name ≠ name := fun hname => hv ⟨rfl, hname, hl⟩
            simp [find?_setEntry, hne]
          · simp [he]
      | _ => rfl

theorem State.Blends.keeping (h : s'.Blends s last) (target : Value) (m : Setter) (x : Value) :
    (s'.keeping target m x).Blends (s.keeping target m x) last := by
  refine ⟨by rw [keeping_classes, keeping_classes, h.classes], fun v name => ?_⟩
  obtain hk | hk := remembered_keeping_cases target m x v name s.classes
  · exact .inl (by rw [hk s' h.classes, hk s rfl])
  · rw [hk s' h.classes, hk s rfl]
    exact h.remembered v name

theorem State.Blends.writing (h : s'.Blends s last) (es fs : List Event) :
    (s'.writing es).Blends (s.writing fs) last :=
  ⟨h.classes, h.remembered⟩

/-- A parameter that was set is set again, to the same value. -/
theorem assign_again (hb : s'.Blends s last)
    (h : (w.assign target p.name p.value).Runs s (.ok ()) es t) :
    ∃ t', (w.assign target p.name p.value).Runs s' (.ok ()) es t' ∧ t'.Blends t last := by
  obtain ⟨f, hf⟩ | ⟨m, q, v, hm, hv, -⟩ := assign_cases w target p.name p.value s
  · cases (h.unique hf).1
  have hm' := (findSetter_of_classes hb.classes p.name).trans hm
  have hv' := (argument_of_classes hb.classes p.name m q p.value).trans hv
  obtain hr | ⟨f, hr⟩ := raise_eq m.raises? v
  · obtain ⟨-, rfl, rfl⟩ := h.unique (assign_called hm hv (callSetter_returns hr target s))
    exact ⟨_, assign_called hm' hv' (callSetter_returns hr target s'),
      (hb.writing _ _).keeping target m v⟩
  · cases (h.unique (assign_called hm hv (callSetter_fails hr target s))).1

theorem assignsEach_again {us : List Unit} (hb : s'.Blends s last)
    (h : w.AssignsEach target params s us es t) :
    ∃ t', w.AssignsEach target params s' us es t' ∧ t'.Blends t last := by
  induction h generalizing s' with
  | nil s => exact ⟨s', .nil s', hb⟩
  | cons first _ ih =>
    obtain ⟨t', hfirst, ht⟩ := assign_again hb first
    obtain ⟨u', hothers, hu⟩ := ih ht
    exact ⟨u', .cons hfirst hothers, hu⟩

/-! ### Activating -/

/-- Activating an instance that wants it returns if preparing it and then checking it do. -/
theorem activate_ok_iff (hc : s.classOf? (.object number) = some c)
    (hi : w.isInitializable c = true) :
    (w.activate (.object number)).Runs s (.ok ()) es t ↔
      (w.prepare c number (.map [])).OnlyWrites s (.ok ()) (w.preparation c number (.map [])) ∧
      ∃ gs, (w.check c number .strict).OnlyWrites (s.writing (w.preparation c number (.map [])))
          (.ok ()) gs ∧
        es = w.preparation c number (.map []) ++ gs ∧ t = s.writing es := by
  unfold World.activate
  simp only [runs_get_bind, hc, hi, if_true, runs_wrapping_ok]
  constructor
  · intro h
    obtain ⟨p, hp⟩ := prepare_writes w c number (.map []) s
    cases p with
    | error f => cases (h.unique (Runs.bind_error hp)).1
    | ok =>
      obtain ⟨q, logs, hq, -⟩ := check_writes w c number .strict
        (s.writing (w.preparation c number (.map [])))
      obtain ⟨rfl, rfl, rfl⟩ := h.unique (Runs.bind hp hq)
      exact ⟨hp, _, hq, rfl, (s.writing_append _ _).symm⟩
  · rintro ⟨hp, gs, hq, rfl, rfl⟩
    exact hp.bind hq

/-- An activated component has all settings that are required of it. -/
theorem isReady_of_activate (h : (w.activate target).Runs s (.ok ()) es t) : w.IsReady s target := by
  rintro number c b rfl hc hi hk
  obtain ⟨-, gs, hq, -, -⟩ := (activate_ok_iff hc hi).1 h
  have hm : b.Met (s.writing (w.preparation c number (.map []))) number := met_of_check hk hq
  exact hm

/-- A component that was activated is activated again where it has all settings required of it. -/
theorem activate_again (hc : s'.classes = s.classes) (hr : w.IsReady s' target)
    (h : (w.activate target).Runs s (.ok ()) es t) :
    (w.activate target).Runs s' (.ok ()) es (s'.writing es) := by
  have hclass := State.classOf?_of_classes hc target
  obtain ⟨number, c, rfl, hcs, hi⟩ | hi := wanted_or_indifferent w s target
  · rw [hcs] at hclass
    obtain ⟨hp, gs, hq, rfl, -⟩ := (activate_ok_iff hcs hi).1 h
    have hq' : (w.check c number .strict).OnlyWrites
        (s'.writing (w.preparation c number (.map []))) (.ok ()) gs := check_again (fun b hk => hr number c b rfl hclass hi hk) hq
    exact (activate_ok_iff hclass hi).2 ⟨prepare_returns hp s', gs, hq', rfl, rfl⟩
  · obtain ⟨-, rfl, -⟩ := h.unique (activate_of_indifferent hi)
    exact activate_of_indifferent fun number c hv hcs => hi number c hv (hclass ▸ hcs)

/-! ### Sections -/

theorem State.Blends.isReady (hb : s'.Blends s last) (hc : last.classes = s.classes)
    (hs : w.IsReady s target) (hl : w.IsReady last target) : w.IsReady s' target := by
  rintro number c b rfl hcs hi hk name hn
  rw [State.classOf?_of_classes hb.classes] at hcs
  obtain he | he := hb.remembered (.object number) (setterName name)
  · rw [he]
    exact hs number c b rfl hcs hi hk name hn
  · rw [he]
    rw [← State.classOf?_of_classes hc] at hcs
    exact hl number c b rfl hcs hi hk name hn

/-- A component that was set up from a section has all settings that are required of it. -/
theorem isReady_of_setsUp (h : w.SetsUp target node params s es t) : w.IsReady t target := by
  cases h with
  | mk read set activated =>
    have hr := isReady_of_activate activated
    rw [(Activates.of_runs activated).1]
    exact hr

theorem setsUp_again (hb : s'.Blends s last) (hc : last.classes = s.classes)
    (hl : w.IsReady last target) (h : w.SetsUp target node params s es t) :
    ∃ t', w.SetsUp target node params s' es t' ∧ t'.Blends t last := by
  cases h with
  | mk read set activated =>
    obtain ⟨u', hset, hu⟩ := assignsEach_again hb set
    have hready := hu.isReady (hc.trans (assignsEach_begin set).1.symm)
      (isReady_of_activate activated) hl
    rw [(Activates.of_runs activated).1]
    exact ⟨_, .mk read hset (activate_again hu.classes hready activated), hu.writing _ _⟩

/-- After the last section a component has all settings that are required of it. -/
theorem isReady_of_setsUpEach (hn : nodes ≠ []) (h : w.SetsUpEach target nodes paramss s es t) :
    w.IsReady t target := by
  induction h with
  | nil => exact absurd rfl hn
  | cons first others ih =>
    cases others with
    | nil => exact isReady_of_setsUp first
    | cons => exact ih (by simp)

/-- Each section that was gone through is gone through again. -/
theorem setsUpEach_again (hb : s'.Blends s last) (hc : last.classes = s.classes)
    (hl : w.IsReady last target) (h : w.SetsUpEach target nodes paramss s es t) :
    ∃ t', w.SetsUpEach target nodes paramss s' es t' ∧ t'.Blends t last := by
  induction h generalizing s' with
  | nil s => exact ⟨s', .nil s', hb⟩
  | cons first _ ih =>
    obtain ⟨t', hfirst, ht⟩ := setsUp_again hb hc hl first
    obtain ⟨u', hothers, hu⟩ := ih ht (hc.trans (setsUp_classes first).symm)
    exact ⟨u', .cons hfirst hothers, hu⟩

/-- Going through all sections once more, from where what is remembered is what it was at the end of
the first time, leaves it so. -/
theorem setsUpEach_repeats (h : w.SetsUpEach target nodes paramss s es t)
    (hc : s'.classes = t.classes) (hr : ∀ v name, s'.remembered v name = t.remembered v name) :
    ∃ u, w.SetsUpEach target nodes paramss s' es u ∧ u.classes = t.classes ∧
      ∀ v name, u.remembered v name = t.remembered v name := by
  by_cases hn : nodes = []
  · subst hn
    cases h
    exact ⟨s', .nil s', hc, hr⟩
  have ht := setsUpEach_classes h
  have hb : s'.Blends s t := ⟨hc.trans ht, fun v name => .inr (hr v name)⟩
  obtain ⟨u, hu, hbu⟩ := setsUpEach_again hb ht (isReady_of_setsUpEach hn h) h
  exact ⟨u, hu, hbu.classes, fun v name => (hbu.remembered v name).elim id id⟩

/-! ### Whole runs -/

/-- A component that took being told its settings takes it again. -/
theorem tellSettings_again (hc : s'.classes = s.classes)
    (h : (w.tellSettings target record).Runs s (.ok ()) es t) :
    t = s.writing es ∧ (w.tellSettings target record).OnlyWrites s' (.ok ()) es := by
  unfold World.tellSettings OnlyWrites at *
  rw [runs_get_bind] at h ⊢
  rw [State.classOf?_of_classes hc]
  generalize (s.classOf? target).bind (fun c => w.member? c settingsHookName) = m? at h ⊢
  split at h
  · rename_i raises? number
    obtain hr | ⟨f, hr⟩ := raise_eq raises? .nothing
    · rw [hr] at h ⊢
      obtain ⟨-, rfl, rfl⟩ := h.unique ((runs_emit _ s).bind (runs_pure () _))
      exact ⟨rfl, (runs_emit _ s').bind (runs_pure () _)⟩
    · rw [hr] at h
      cases (h.unique ((runs_emit _ s).bind (runs_throw f _))).1
  · obtain ⟨-, rfl, rfl⟩ := h.unique (runs_pure () s)
    exact ⟨(State.writing_nil _).symm, (runs_pure () s').onlyWrites⟩

/-- What a component's setting itself up has come to if it returned: all sections were gone through,
and it was told its settings. -/
theorem setUpSelf_ok_iff :
    (w.setUpSelf target tag source).Runs s (.ok record) es t ↔
      ∃ c m d paramss fs u gs, s.classOf? target = some c ∧ w.member? c setUpName = some m ∧
        Configuration.load source = .ok d ∧
        w.SetsUpEach target (d.sectionsNamed tag) paramss s fs u ∧
        record = Settings.empty.addAll paramss.flatten ∧
        (w.tellSettings target record).Runs u (.ok ()) gs t ∧ es = fs ++ gs := by
  unfold World.setUpSelf
  rw [runs_get_bind]
  constructor
  · intro h
    cases hm : (s.classOf? target).bind fun c => w.member? c setUpName with
    | none =>
      rw [hm] at h
      cases (h.unique (runs_throw _ s)).1
    | some m =>
      obtain ⟨c, hc, hcm⟩ := Option.bind_eq_some_iff.1 hm
      rw [hm] at h
      cases hd : Configuration.load source with
      | error f => cases (h.unique (runs_ofExcept hd s).bind_error).1
      | ok d =>
        obtain ⟨paramss, fs, u, hs, hr⟩ | ⟨pre, node, post, paramss, fs, u, f, gs, x, -, -, -, hr⟩ :=
          setUpEach_cases w target (d.sectionsNamed tag) s
        · have hcu : u.classOf? target = some c :=
            (State.classOf?_of_classes (setsUpEach_classes hs) target).trans hc
          obtain ⟨r, hq⟩ := tellSettings_writes (w := w) hcu (Settings.empty.addAll paramss.flatten)
          cases r with
          | error f =>
            cases (h.unique ((runs_ofExcept hd s).bind_silent
              ((hr .empty).bind (Runs.bind_error hq)))).1
          | ok =>
            obtain ⟨hrec, rfl, rfl⟩ := h.unique ((runs_ofExcept hd s).bind_silent
              ((hr .empty).bind (Runs.then_silent hq (runs_pure _ _))))
            obtain rfl := Except.ok.inj hrec
            exact ⟨c, m, d, paramss, fs, u, _, hc, hcm, rfl, hs, rfl, hq, rfl⟩
        · cases (h.unique ((runs_ofExcept hd s).bind_silent (hr .empty).bind_error)).1
  · rintro ⟨c, m, d, paramss, fs, u, gs, hc, hm, hd, hs, rfl, htell, rfl⟩
    have hcm : ((s.classOf? target).bind fun c => w.member? c setUpName) = some m := by
      rw [hc, Option.bind_some, hm]
    rw [hcm]
    exact (runs_ofExcept hd s).bind_silent
      ((setUpEach_ok hs .empty).bind (htell.then_silent (runs_pure _ t)))

/-- Setting a component up once more from the same document: if this returned, it returns again at
once, with the same record and the same events, and what every instance remembers stays as it was. -/
theorem setUpSelf_repeats (h : (w.setUpSelf target tag source).Runs s (.ok record) es t) :
    ∃ u, (w.setUpSelf target tag source).Runs t (.ok record) es u ∧ u.classes = t.classes ∧
      ∀ v name, u.remembered v name = t.remembered v name := by
  obtain ⟨c, m, d, paramss, fs, x, gs, hc, hm, hd, hs, rfl, htell, rfl⟩ := setUpSelf_ok_iff.1 h
  obtain ⟨rfl, -⟩ := tellSettings_again rfl htell
  have hxs : (x.writing gs).classes = x.classes := rfl
  obtain ⟨u, hu, huc, hur⟩ := setsUpEach_repeats hs hxs fun _ _ => rfl
  obtain ⟨-, htell'⟩ := tellSettings_again huc htell
  have hxc : (x.writing gs).classOf? target = some c :=
    (State.classOf?_of_classes (setsUpEach_classes hs) target).trans hc
  exact ⟨_, setUpSelf_ok_iff.2 ⟨c, m, d, paramss, fs, u, gs, hxc, hm, hd, hu, rfl, htell', rfl⟩,
    huc, hur⟩

theorem setUpSelf_repeats_pipeline :
    ∃ record t u, record.names = ["size"] ∧
      (pipelineWorld.setUpSelf (.object 0) "pipeline" (.tree pipelineDocument.root)).Runs
        pipelineState (.ok record) [.set (some 0) "set_size" (.text "1"), .prepared 0 (.map []),
          .checked 0 .strict, .set (some 0) "set_size" (.text "2"), .prepared 0 (.map []),
          .checked 0 .strict, .settingsHandled 0 ["size"]] t ∧
      (pipelineWorld.setUpSelf (.object 0) "pipeline" (.tree pipelineDocument.root)).Runs
        t (.ok record) [.set (some 0) "set_size" (.text "1"), .prepared 0 (.map []),
          .checked 0 .strict, .set (some 0) "set_size" (.text "2"), .prepared 0 (.map []),
          .checked 0 .strict, .settingsHandled 0 ["size"]] u ∧
      t.remembered (.object 0) "set_size" = .text "2" ∧
      u.remembered (.object 0) "set_size" = .text "2" := by
  have hr : (pipelineWorld.setUpSelf (.object 0) "pipeline" (.tree pipelineDocument.root)).Runs
      pipelineState (.ok ⟨["size"], by simp⟩) _
      ⟨[⟨.own ⟨"shop", "Pipeline"⟩, [("set_size", .text "2")]⟩], _, []⟩ := ⟨rfl, rfl⟩
  obtain ⟨u, hu, -, hur⟩ := setUpSelf_repeats hr
  exact ⟨_, _, u, rfl, hr, hu, rfl, hur _ _⟩

end ComponentAssembly
