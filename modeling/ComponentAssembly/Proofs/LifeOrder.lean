import ComponentAssembly.Proofs.Life
import ComponentAssembly.Proofs.Staging

/-! The lives of all instances that a build makes: each is one piece of the trace, in the order of
their numbers. -/

namespace ComponentAssembly

open Build Markup

variable {a : Assembler} {w : World} {node child : Element} {excluded? : Option String}
  {number other lo hi : Nat} {s t u x y : State} {r : Except Failure Value}
  {es fs gs : List Event} {built : Prop} {nodes : List Element} {vs : List Value}
  {required : Capability}

/-- Events that are about none but instances of these numbers. -/
def OnlyWithin (lo hi : Nat) (es : List Event) : Prop :=
  ∀ e ∈ es, ∀ number, e.subject? = some number → lo ≤ number ∧ number < hi

/-- The section that an instance is built from when a composite component is built from a node: a
child, or the node itself. All sections before were built, the number of the instance was the next
one, and it was taken. -/
inductive Assembler.BuiltFrom (a : Assembler) (childTag : String) (required : Capability)
    (node : Element) (s : State) (number : Nat) : Element → Option String → Prop
  | child {pre post : List Element} {child : Element} {vs : List Value} {es fs : List Event}
      {t u : State} {r : Except Failure Value}
      (split : node.childrenNamed childTag = pre ++ child :: post)
      (before : a.AssemblesEach required pre s vs es t) (next : t.classes.length = number)
      (own : (a.assemble child required).Runs t r fs u) (taken : number < u.classes.length) :
      a.BuiltFrom childTag required node s number child none
  | whole {identifier : String} {f : Factory} {vs : List Value} {es fs : List Event}
      {t u : State} {r : Except Failure Value}
      (before : a.AssemblesEach required (node.childrenNamed childTag) s vs es t)
      (next : t.classes.length = number)
      (own : (a.compose childTag node identifier f vs).Runs t r fs u)
      (taken : number < u.classes.length) :
      a.BuiltFrom childTag required node s number node (some childTag)

theorem onlyWithin_nil (lo hi : Nat) : OnlyWithin lo hi [] := by simp [OnlyWithin]

theorem OnlyWithin.append (h : OnlyWithin lo hi es) (k : OnlyWithin lo hi fs) :
    OnlyWithin lo hi (es ++ fs) := by
  intro e he
  exact (List.mem_append.1 he).elim (h e) (k e)

theorem OnlyWithin.mono {lo' hi' : Nat} (h : OnlyWithin lo hi es) (hl : lo' ≤ lo) (hh : hi ≤ hi') :
    OnlyWithin lo' hi' es := by
  intro e he n hn
  obtain ⟨hlo, hhi⟩ := h e he n hn
  omega

/-- Events about instances of these numbers are about no other one. -/
theorem OnlyWithin.nil (h : OnlyWithin lo hi es) (hn : number < lo ∨ hi ≤ number) :
    eventsAbout number es = [] := by
  rw [eventsAbout, List.filter_eq_nil_iff]
  intro e he hs
  obtain ⟨hlo, hhi⟩ := h e he number (by simpa using hs)
  omega

theorem Lives.classes_prefix (h : Lives w node excluded? s built es t) :
    s.classes <+: t.classes := by
  cases h with
  | nobody same => exact same ▸ List.prefix_refl _
  | one c added => exact ⟨[c], added.symm⟩

theorem Lives.within (h : Lives w node excluded? s built es t) :
    OnlyWithin s.classes.length t.classes.length es := by
  intro e he n hn
  cases h with
  | nobody same silent => simp [silent e he] at hn
  | one c added only =>
    rw [added, List.length_append, List.length_singleton]
    rcases only e he with h | h
    · simp [h] at hn
    · obtain rfl : s.classes.length = n := by simpa [h] using hn
      omega

theorem Life.imp {c : ClassRef} {other : Prop} (h : Life w c node excluded? number built es)
    (k : other → built) : Life w c node excluded? number other es := by
  cases h with
  | mk begins methods whole ending =>
    exact .mk begins methods (fun ho => whole (k ho)) (ending.imp k)

/-- What is known of an instance after a whole run: its class, its life, and that the events about
it come after those about all instances before it. -/
def HasLife (w : World) (node : Element) (excluded? : Option String) (number : Nat) (built : Prop)
    (es : List Event) (t : State) : Prop :=
  ∃ c, t.classes[number]? = some c ∧ Life w c node excluded? number built (eventsAbout number es) ∧
    ∃ before after, es = before ++ after ∧ eventsAbout number before = [] ∧
      ∀ other < number, eventsAbout other after = []

theorem HasLife.imp {other : Prop} (h : HasLife w node excluded? number built es t)
    (k : other → built) : HasLife w node excluded? number other es t := by
  obtain ⟨c, hc, hl, hb⟩ := h
  exact ⟨c, hc, hl.imp k, hb⟩

/-- An instance has its life in the piece of a run in which it is built. -/
theorem Lives.hasLife (h : Lives w node excluded? x built fs y) (hn : x.classes.length = number)
    (hy : number < y.classes.length) (hb : OnlyWithin lo number es)
    (ha : OnlyWithin y.classes.length hi gs) (hp : y.classes <+: t.classes) :
    HasLife w node excluded? number built (es ++ (fs ++ gs)) t := by
  have hw := h.within
  cases h with
  | nobody same =>
    rw [same] at hy
    omega
  | one c added only life =>
    rw [hn] at only life hw
    have hlen : y.classes.length = number + 1 := by simp [added, hn]
    have hc : y.classes[number]? = some c := by simp [added, ← hn]
    have hz : t.classes[number]? = some c := by
      obtain ⟨z, hz⟩ := hp
      rw [← hz, List.getElem?_append_left hy, hc]
    refine ⟨c, hz, ?_, es, fs ++ gs, rfl, hb.nil (by omega), ?_⟩
    · rw [eventsAbout_append, eventsAbout_append, hb.nil (by omega), ha.nil (by omega),
        List.append_nil, List.nil_append]
      exact life
    · intro m hm
      rw [eventsAbout_append, hw.nil (by omega), ha.nil (by omega), List.append_nil]

theorem Lives.hasLife_last (h : Lives w node excluded? x built fs t)
    (hn : x.classes.length = number) (ht : number < t.classes.length)
    (hb : OnlyWithin lo number es) : HasLife w node excluded? number built (es ++ fs) t := by
  have hg : OnlyWithin t.classes.length t.classes.length [] := onlyWithin_nil _ _
  have hl := h.hasLife hn ht hb hg (List.prefix_refl _)
  rwa [List.append_nil] at hl

/-- At most one instance is added, and its number was the next one. -/
theorem Lives.number_eq (h : Lives w node excluded? s built es t)
    (hs : s.classes.length ≤ number) (ht : number < t.classes.length) :
    s.classes.length = number := by
  cases h with
  | nobody same =>
    rw [same] at ht
    omega
  | one c added =>
    rw [added, List.length_append, List.length_singleton] at ht
    omega

theorem assemble_lives (h : (a.assemble node required).Runs s r es t) :
    Lives a.world node none s (∃ v, r = .ok v) es t := by
  obtain ⟨q, fs, u, hr, hc⟩ := assemble_completes a node required s
  obtain ⟨rfl, rfl, rfl⟩ := h.unique hr
  obtain ⟨f, rfl, rfl, rfl⟩ | ⟨misfit, wrap, factory, hc⟩ := hc
  · exact .nobody rfl (by simp [AboutNone])
  · exact hc.lives

theorem compose_lives {childTag identifier : String} {f : Factory}
    (h : (a.compose childTag node identifier f vs).Runs s r es t) :
    Lives a.world node (some childTag) s (∃ v, r = .ok v) es t := by
  obtain ⟨q, fs, u, hr, hc⟩ := compose_completes a childTag node identifier f vs s
  obtain ⟨rfl, rfl, rfl⟩ := h.unique hr
  exact hc.lives

theorem assemblesEach_within (h : a.AssemblesEach required nodes s vs es t) :
    s.classes <+: t.classes ∧ OnlyWithin s.classes.length t.classes.length es := by
  induction h with
  | nil s => exact ⟨List.prefix_refl _, onlyWithin_nil _ _⟩
  | cons first _ ih =>
    have hl := assemble_lives first
    have hp := hl.classes_prefix
    obtain ⟨hq, hw⟩ := ih
    have hle := hp.length_le
    have hle' := hq.length_le
    exact ⟨hp.trans hq, (hl.within.mono (Nat.le_refl _) hle').append
      (hw.mono hle (Nat.le_refl _))⟩

/-- Each instance that is made while sections are built in order was made for one of them. -/
theorem assemblesEach_owner (h : a.AssemblesEach required nodes s vs es t)
    (hs : s.classes.length ≤ number) (ht : number < t.classes.length) :
    ∃ pre child post ws before x v own y after, nodes = pre ++ child :: post ∧
      a.AssemblesEach required pre s ws before x ∧ x.classes.length = number ∧
      (a.assemble child required).Runs x (.ok v) own y ∧ number < y.classes.length ∧
      es = before ++ (own ++ after) ∧ y.classes <+: t.classes ∧
      OnlyWithin y.classes.length t.classes.length after := by
  induction h with
  | nil s => omega
  | @cons node nodes v vs s x t es fs first others ih =>
    obtain ⟨hq, hw⟩ := assemblesEach_within others
    by_cases hx : number < x.classes.length
    · exact ⟨[], node, nodes, [], [], s, v, es, x, fs, rfl, .nil s,
        (assemble_lives first).number_eq hs hx, first, hx, rfl, hq, hw⟩
    · obtain ⟨pre, child, post, ws, before, z, u, own, y, after, rfl, hpre, hz, hown, hy, rfl, hp,
        hafter⟩ := ih (by omega) ht
      exact ⟨node :: pre, child, post, v :: ws, es ++ before, z, u, own, y, after, rfl,
        .cons first hpre, hz, hown, hy, (List.append_assoc ..).symm, hp, hafter⟩

/-- The children that are built for a composite component have their lives, whatever comes after. -/
theorem children_haveLives {childTag : String} {post : List Element}
    (hn : node.childrenNamed childTag = nodes ++ post)
    (h : a.AssemblesEach required nodes s vs es t) (hs : s.classes.length ≤ number)
    (ht : number < t.classes.length) (hp : t.classes <+: u.classes)
    (ha : OnlyWithin t.classes.length u.classes.length fs) (built : Prop) :
    ∃ own excluded?, a.BuiltFrom childTag required node s number own excluded? ∧
      HasLife a.world own excluded? number built (es ++ fs) u := by
  obtain ⟨pre, child, rest, ws, before, x, v, own, y, after, rfl, hpre, hx, hown, hy, rfl, hq,
    hafter⟩ := assemblesEach_owner h hs ht
  have hb := (assemblesEach_within hpre).2
  rw [hx] at hb
  refine ⟨child, none, .child (by simpa using hn) hpre hx hown hy, ?_⟩
  have hg := (hafter.mono (Nat.le_refl _) hp.length_le).append
    (ha.mono hq.length_le (Nat.le_refl _))
  rw [List.append_assoc, List.append_assoc]
  exact ((assemble_lives hown).hasLife hx hy hb hg (hq.trans hp)).imp fun _ => ⟨v, rfl⟩

/-- The life of every instance, in every build and whatever becomes of it. A single component is
built from its section. When a composite component is built, its children are built from theirs, and
it is built after them from its own, without the parameters that bear the tag of the children. -/
theorem builds_life_order (a : Assembler) (childTag tag : String)
    (childRequired required : Capability) (source : ConfigurationSource) (s : State) :
    (∃ r es t, (a.assembleOnly tag required source).Runs s r es t ∧
      ∀ number, s.classes.length ≤ number → number < t.classes.length →
        ∃ d node, Configuration.load source = .ok d ∧ d.sectionsNamed tag = [node] ∧
          HasLife a.world node none number (∃ v, r = .ok v) es t) ∧
    ∃ r es t, (a.assembleComposite childTag childRequired tag required source).Runs s r es t ∧
      ∀ number, s.classes.length ≤ number → number < t.classes.length →
        ∃ d node, Configuration.load source = .ok d ∧ d.sectionsNamed tag = [node] ∧
          ∃ own excluded?, a.BuiltFrom childTag childRequired node s number own excluded? ∧
            HasLife a.world own excluded? number (∃ v, r = .ok v) es t := by
  constructor
  · cases hd : Configuration.load source with
    | error f =>
      refine ⟨.error f, [], s, (runs_ofExcept hd s).bind_error, ?_⟩
      intro n hs ht
      omega
    | ok d =>
      cases hn : d.onlySection tag with
      | error f =>
        refine ⟨.error f, [], s, (runs_ofExcept hd s).bind_silent (runs_ofExcept hn s).bind_error,
          ?_⟩
        intro n hs ht
        omega
      | ok node =>
        obtain ⟨r, es, t, hr⟩ := assemble_writes a node required s
        refine ⟨r, es, t,
          (runs_ofExcept hd s).bind_silent ((runs_ofExcept hn s).bind_silent hr), ?_⟩
        intro n hs ht
        have hl := assemble_lives hr
        exact ⟨d, node, rfl, onlySection_ok_iff.1 hn,
          hl.hasLife_last (hl.number_eq hs ht) ht (onlyWithin_nil 0 _)⟩
  · cases he : a.compositeEntry tag required source with
    | error f =>
      refine ⟨.error f, [], s, (runs_ofExcept he s).bind_error, ?_⟩
      intro n hs ht
      omega
    | ok found =>
      obtain ⟨node, identifier, e⟩ := found
      obtain ⟨d, hd, hdesc⟩ := compositeEntry_describes he
      obtain ⟨pre, child, post, vs, es, t, f, fs, u, hsplit, hk, hf, hrun⟩ |
          ⟨vs, es, t, r, fs, u, hk, hr, hrun⟩ := assembleComposite_cases he childTag childRequired s
      · have hl := assemble_lives hf
        have hw := (assemblesEach_within hk).2
        refine ⟨.error f, es ++ fs, u, hrun, ?_⟩
        intro n hs hu
        refine ⟨d, node, hd, hdesc.only, ?_⟩
        by_cases ht : n < t.classes.length
        · exact children_haveLives hsplit hk hs ht hl.classes_prefix hl.within _
        · have hn := hl.number_eq (by omega) hu
          exact ⟨child, none, .child hsplit hk hn hf hu, hl.hasLife_last hn hu (hn ▸ hw)⟩
      · have hl := compose_lives hr
        have hw := (assemblesEach_within hk).2
        refine ⟨r, es ++ fs, u, hrun, ?_⟩
        intro n hs hu
        refine ⟨d, node, hd, hdesc.only, ?_⟩
        by_cases ht : n < t.classes.length
        · exact children_haveLives (List.append_nil _).symm hk hs ht hl.classes_prefix hl.within _
        · have hn := hl.number_eq (by omega) hu
          exact ⟨node, some childTag, .whole hk hn hr hu, hl.hasLife_last hn hu (hn ▸ hw)⟩

end ComponentAssembly
