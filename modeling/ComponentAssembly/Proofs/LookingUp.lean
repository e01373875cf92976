import ComponentAssembly.Proofs.Resolving
import Mathlib.Data.List.Perm.Basic

/-! What an identifier stands for depends on nothing but the active entries that bear it: not on the
order in which entries were made, nor on any other entry. -/

namespace ComponentAssembly

/-- What is entered in a catalog: an entry as it is, or one for a target. -/
inductive Registration where
  | entry (e : Entry)
  | target (t : Target) (name? : Option String) (profiles : List String)
deriving Repr

/-- A catalog after one more registration, which can fail. -/
def Catalog.register (catalog : Catalog) : Registration → Except Failure Catalog
  | .entry e => .ok (catalog ++ [e])
  | .target t name? profiles => catalog.enter t name? profiles

/-- The catalog that registrations make in this order, if none fails. -/
def Catalog.ofRegistrations (rs : List Registration) : Except Failure Catalog :=
  rs.foldlM Catalog.register []

/-- The entry that a registration makes. -/
def Registration.made : Registration → Except Failure Entry
  | .entry e => .ok e
  | .target t name? profiles => (t.nameFor name?).bind fun name => t.entry name profiles

/-- A statement says that a profile must not be selected. -/
def Excludes (statement p : String) : Prop := statement = "!" ++ p

/-- An entry with these profiles is active under the selected ones: none that it excludes is among
them, and one that it names is, unless all that it states are exclusions. -/
def ActiveUnder (stated selected : List String) : Prop :=
  (∀ statement ∈ stated, ∀ p ∈ selected, ¬ Excludes statement p) ∧
    ((∀ statement ∈ stated, ∃ p, Excludes statement p) ∨
      ∃ p ∈ stated, p ∈ selected ∧ ∀ q, ¬ Excludes p q)

/-- An entry bears a name and is active. Without a selection of profiles every entry is. -/
def Entry.Bears (e : Entry) (identifier : String) (profiles? : Option (List String)) : Prop :=
  e.name = identifier ∧ ∀ selected, profiles? = some selected → ActiveUnder e.profiles selected

variable {w : World} {catalog rest others : Catalog} {identifier : String}
  {profiles? : Option (List String)} {e d : Entry} {statement p : String}
  {stated selected : List String} {rs qs : List Registration}

theorem register_eq (catalog : Catalog) (r : Registration) :
    catalog.register r = r.made.map fun e => catalog ++ [e] := by
  cases r with
  | entry e => rfl
  | target t name? profiles =>
    simp only [Catalog.register, Catalog.enter, Registration.made]
    cases t.nameFor name? with
    | error f => rfl
    | ok name =>
      show (t.entry name profiles >>= fun e => pure (catalog ++ [e])) =
        (t.entry name profiles).map fun e => catalog ++ [e]
      cases t.entry name profiles <;> rfl

theorem foldlM_register (catalog : Catalog) (rs : List Registration) :
    rs.foldlM Catalog.register catalog = (rs.mapM Registration.made).map (catalog ++ ·) := by
  induction rs generalizing catalog with
  | nil => simp [pure, Except.pure, Except.map]
  | cons r rs ih =>
    rw [List.foldlM_cons, register_eq]
    cases hr : r.made with
    | error f =>
      rw [mapM_cons_error hr]
      rfl
    | ok e =>
      show rs.foldlM Catalog.register (catalog ++ [e]) = _
      rw [ih, mapM_cons_ok hr]
      cases rs.mapM Registration.made <;> simp [Except.map]

/-- A catalog holds the entries of its registrations, in their order. -/
theorem ofRegistrations_ok_iff :
    Catalog.ofRegistrations rs = .ok catalog ↔
      List.Forall₂ (fun r e => r.made = .ok e) rs catalog := by
  rw [Catalog.ofRegistrations, foldlM_register, ← mapM_ok_iff]
  simp [map_ok_iff]

/-- The same registrations in another order make the same entries in another order. -/
theorem ofRegistrations_perm (hp : rs.Perm qs) (h : Catalog.ofRegistrations rs = .ok catalog) :
    ∃ other, Catalog.ofRegistrations qs = .ok other ∧ other.Perm catalog := by
  obtain ⟨other, hq, ho⟩ := List.perm_comp_forall₂ hp.symm (ofRegistrations_ok_iff.1 h)
  exact ⟨other, ofRegistrations_ok_iff.2 hq, ho⟩

theorem excludedProfile?_eq_some : excludedProfile? statement = some p ↔ Excludes statement p := by
  unfold excludedProfile? Excludes
  rw [← String.toList_inj, String.toList_append, show "!".toList = ['!'] from rfl]
  constructor
  · intro h
    split at h
    · rename_i rest hs
      obtain rfl := Option.some.inj h
      rw [hs, String.toList_ofList]
      rfl
    · cases h
  · intro h
    rw [h]
    simp

theorem excludedProfile?_eq_none :
    excludedProfile? statement = none ↔ ∀ p, ¬ Excludes statement p := by
  simp only [Option.eq_none_iff_forall_ne_some, ne_eq, excludedProfile?_eq_some]

theorem isActiveUnder_iff : isActiveUnder stated selected = true ↔ ActiveUnder stated selected := by
  have excluding : (stated.filterMap excludedProfile?).any (· ∈ selected) = false ↔
      ∀ statement ∈ stated, ∀ p ∈ selected, ¬ Excludes statement p := by
    simp only [List.any_eq_false, List.mem_filterMap, excludedProfile?_eq_some, decide_eq_true_eq]
    constructor
    · intro h statement hs p hp he
      exact h p ⟨statement, hs, he⟩ hp
    · rintro h p ⟨statement, hs, he⟩ hp
      exact h statement hs p hp he
  have unwanted : (stated.filter fun p => (excludedProfile? p).isNone).isEmpty = true ↔
      ∀ statement ∈ stated, ∃ p, Excludes statement p := by
    simp only [List.isEmpty_iff, List.filter_eq_nil_iff, Option.isNone_iff_eq_none,
      excludedProfile?_eq_none, not_forall, not_not]
  have wanting : (stated.filter fun p => (excludedProfile? p).isNone).any (· ∈ selected) = true ↔
      ∃ p ∈ stated, p ∈ selected ∧ ∀ q, ¬ Excludes p q := by
    simp only [List.any_eq_true, List.mem_filter, Option.isNone_iff_eq_none,
      excludedProfile?_eq_none, decide_eq_true_eq, and_assoc]
    simp only [and_comm]
  simp only [isActiveUnder, Bool.and_eq_true, Bool.not_eq_true', Bool.or_eq_true, excluding,
    unwanted, wanting, ActiveUnder]

instance (identifier : String) (profiles? : Option (List String)) (e : Entry) :
    Decidable (e.Bears identifier profiles?) :=
  match profiles? with
  | none => decidable_of_iff (e.name = identifier) (by simp [Entry.Bears])
  | some selected =>
    decidable_of_iff (e.name = identifier ∧ isActiveUnder e.profiles selected = true)
      (by simp [Entry.Bears, isActiveUnder_iff])

/-- The entries among which an identifier is looked up are those that bear it. -/
theorem entryFor_eq (w : World) (catalog : Catalog) (identifier : String)
    (profiles? : Option (List String)) :
    w.entryFor catalog identifier profiles? =
      match catalog.filter fun e => e.Bears identifier profiles? with
      | [] => w.importEntry identifier
      | [e] => .ok e
      | _ => .error (.ambiguousClass identifier profiles?) := by
  have hb : (catalog.active profiles?).filter (fun e => e.name = identifier) =
      catalog.filter fun e => e.Bears identifier profiles? := by
    cases profiles? with
    | none => simp [Catalog.active, Entry.Bears]
    | some selected =>
      simp [Catalog.active, Entry.Bears, List.filter_filter, ← isActiveUnder_iff]
  rewrite [World.entryFor, hb]
  rfl

/-- Catalogs in which the same entries bear an identifier agree on what it stands for. -/
theorem entryFor_of_perm
    (h : (catalog.filter fun e => e.Bears identifier profiles?).Perm
      (rest.filter fun e => e.Bears identifier profiles?)) (w : World) :
    w.entryFor catalog identifier profiles? = w.entryFor rest identifier profiles? := by
  rw [entryFor_eq, entryFor_eq]
  generalize catalog.filter _ = found at h ⊢
  generalize rest.filter _ = others at h ⊢
  match others, h with
  | [], h => rw [List.perm_nil.1 h]
  | [e], h => rw [List.perm_singleton.1 h]
  | d :: e :: others, h =>
    -- Which entries they are makes no difference here, only that there are several.
    match found, h.length_eq with
    | _ :: _ :: _, _ => rfl

/-- Entries that do not bear an identifier make no difference to it, wherever they stand. -/
theorem entryFor_of_unrelated (hp : catalog.Perm (rest ++ others))
    (hn : ∀ e ∈ others, ¬ e.Bears identifier profiles?) (w : World) :
    w.entryFor catalog identifier profiles? = w.entryFor rest identifier profiles? := by
  have hnil : others.filter (fun e => e.Bears identifier profiles?) = [] := by
    simpa [List.filter_eq_nil_iff] using hn
  apply entryFor_of_perm
  have hf := hp.filter fun e => e.Bears identifier profiles?
  rwa [List.filter_append, hnil, List.append_nil] at hf

/-- The only entry that bears an identifier is the one it stands for. -/
theorem entryFor_of_only (hp : catalog.Perm (e :: others)) (he : e.Bears identifier profiles?)
    (hn : ∀ d ∈ others, ¬ d.Bears identifier profiles?) (w : World) :
    w.entryFor catalog identifier profiles? = .ok e := by
  have hr : catalog.Perm ([e] ++ others) := hp
  rw [entryFor_of_unrelated hr hn, entryFor_eq]
  simp [he]

/-- An identifier that two entries bear is ambiguous. -/
theorem entryFor_of_two (hp : catalog.Perm (e :: d :: others)) (he : e.Bears identifier profiles?)
    (hd : d.Bears identifier profiles?) (w : World) :
    w.entryFor catalog identifier profiles? = .error (.ambiguousClass identifier profiles?) := by
  rw [entryFor_of_perm (hp.filter _), entryFor_eq]
  simp [he, hd]

/-- An identifier that no entry bears is taken for a dotted name. -/
theorem entryFor_of_none (hn : ∀ e ∈ catalog, ¬ e.Bears identifier profiles?) (w : World) :
    w.entryFor catalog identifier profiles? = w.importEntry identifier := by
  have hr : catalog.Perm ([] ++ catalog) := List.Perm.refl _
  rw [entryFor_of_unrelated hr hn, entryFor_eq]
  rfl

theorem activeUnder_wanted (hp : ∀ q, ¬ Excludes p q) :
    ActiveUnder [p] selected ↔ p ∈ selected := by
  simp [ActiveUnder, hp]

theorem activeUnder_excluded : ActiveUnder ["!" ++ p] selected ↔ p ∉ selected := by
  have he (q : String) : Excludes ("!" ++ p) q ↔ p = q := by
    simp [Excludes, ← String.toList_inj]
  simp only [ActiveUnder, List.mem_singleton, forall_eq, he, exists_eq', true_or, and_true]
  exact ⟨fun h hp => h p hp rfl, fun h q hq hpq => h (hpq ▸ hq)⟩

/-- Of two entries one of which wants the profile that the other one excludes, exactly one is active
under any selection. -/
theorem entryFor_of_complement (hp : ∀ q, ¬ Excludes p q) (he : e.name = identifier)
    (hep : e.profiles = [p]) (hd : d.name = identifier) (hdp : d.profiles = ["!" ++ p])
    (hperm : catalog.Perm (e :: d :: others)) (hn : ∀ c ∈ others, c.name ≠ identifier) (w : World)
    (selected : List String) :
    w.entryFor catalog identifier (some selected) = .ok (if p ∈ selected then e else d) := by
  have ebears : e.Bears identifier (some selected) ↔ p ∈ selected := by
    simp [Entry.Bears, he, hep, activeUnder_wanted hp]
  have dbears : d.Bears identifier (some selected) ↔ p ∉ selected := by
    simp [Entry.Bears, hd, hdp, activeUnder_excluded]
  have unnamed (c : Entry) (hc : c ∈ others) : ¬ c.Bears identifier (some selected) :=
    fun h => hn c hc h.1
  by_cases hs : p ∈ selected
  · rw [if_pos hs]
    refine entryFor_of_only hperm (ebears.2 hs) (List.forall_mem_cons.2 ⟨?_, unnamed⟩) w
    exact fun h => dbears.1 h hs
  · rw [if_neg hs]
    refine entryFor_of_only (hperm.trans (.swap d e others)) (dbears.2 hs)
      (List.forall_mem_cons.2 ⟨?_, unnamed⟩) w
    exact fun h => hs (ebears.1 h)

/-- What an identifier stands for, whatever was registered and in whatever order. If exactly one
active entry bears it, it is that entry; if several do, it is ambiguous; if none does, it is what the
identifier is as a dotted name. So it remains the same when the registrations come in another order,
and when entries are added or taken away that do not bear the identifier. If its only entries are one
for a profile and one for all but this profile, then under any selection it is one of these two, the
first one if the profile is selected. -/
theorem entryFor_depends_on_bearers_alone (w : World) (hr : Catalog.ofRegistrations rs = .ok catalog)
    (identifier : String) (profiles? : Option (List String)) :
    (∀ e others, catalog.Perm (e :: others) → e.Bears identifier profiles? →
      (∀ d ∈ others, ¬ d.Bears identifier profiles?) →
      w.entryFor catalog identifier profiles? = .ok e) ∧
    (∀ e d others, catalog.Perm (e :: d :: others) → e.Bears identifier profiles? →
      d.Bears identifier profiles? →
      w.entryFor catalog identifier profiles? = .error (.ambiguousClass identifier profiles?) ∧
      (Failure.ambiguousClass identifier profiles?).IsResolution identifier) ∧
    ((∀ e ∈ catalog, ¬ e.Bears identifier profiles?) →
      w.entryFor catalog identifier profiles? = w.importEntry identifier) ∧
    (∀ qs, rs.Perm qs → ∃ other, Catalog.ofRegistrations qs = .ok other ∧
      w.entryFor other identifier profiles? = w.entryFor catalog identifier profiles?) ∧
    (∀ kept taken other added, catalog.Perm (kept ++ taken) → other.Perm (kept ++ added) →
      (∀ e ∈ taken ++ added, ¬ e.Bears identifier profiles?) →
      w.entryFor other identifier profiles? = w.entryFor catalog identifier profiles?) ∧
    ∀ p e d others, (∀ q, ¬ Excludes p q) → e.name = identifier → e.profiles = [p] →
      d.name = identifier → d.profiles = ["!" ++ p] → catalog.Perm (e :: d :: others) →
      (∀ c ∈ others, c.name ≠ identifier) → ∀ selected,
      w.entryFor catalog identifier (some selected) = .ok (if p ∈ selected then e else d) := by
  refine ⟨?only, ?several, ?none, ?order, ?unrelated, ?complement⟩
  case only =>
    intro e others hp he hn
    exact entryFor_of_only hp he hn w
  case several =>
    intro e d others hp he hd
    exact ⟨entryFor_of_two hp he hd w, ⟨.resolution, rfl, by decide⟩, rfl⟩
  case none =>
    intro hn
    exact entryFor_of_none hn w
  case order =>
    intro qs hq
    obtain ⟨other, ho, hp⟩ := ofRegistrations_perm hq hr
    exact ⟨other, ho, entryFor_of_perm (hp.filter _) w⟩
  case unrelated =>
    intro kept taken other added hc ho hn
    rw [entryFor_of_unrelated hc fun e he => hn e (List.mem_append_left added he),
      entryFor_of_unrelated ho fun e he => hn e (List.mem_append_right taken he)]
  case complement =>
    intro p e d others hp he hep hd hdp hperm hn selected
    exact entryFor_of_complement hp he hep hd hdp hperm hn w selected

/-- An entry of a class under a name. -/
def storeEntry (className : String) (profiles : List String) : Entry :=
  ⟨"store", .cls (.own ⟨"shop", className⟩), profiles, .cls (.own ⟨"shop", className⟩)⟩

theorem entryFor_depends_on_bearers_alone_store :
    Catalog.ofRegistrations [.target (.cls (.own ⟨"shop", "Disk"⟩)) (some "store") ["prod"],
        .entry (storeEntry "Memory" ["!prod"])] =
      .ok [storeEntry "Disk" ["prod"], storeEntry "Memory" ["!prod"]] ∧
    forwardWorld.entryFor [storeEntry "Disk" ["prod"], storeEntry "Memory" ["!prod"]] "store"
      (some ["dev", "prod"]) = .ok (storeEntry "Disk" ["prod"]) ∧
    forwardWorld.entryFor [storeEntry "Disk" ["prod"], storeEntry "Memory" ["!prod"]] "store"
      (some []) = .ok (storeEntry "Memory" ["!prod"]) ∧
    forwardWorld.entryFor [storeEntry "Disk" ["prod"], storeEntry "Memory" ["!prod"]] "store" none =
      .error (.ambiguousClass "store" none) := by
  have hr : Catalog.ofRegistrations
      [.target (.cls (.own ⟨"shop", "Disk"⟩)) (some "store") ["prod"],
        .entry (storeEntry "Memory" ["!prod"])] =
      .ok [storeEntry "Disk" ["prod"], storeEntry "Memory" ["!prod"]] := rfl
  obtain ⟨-, several, -, -, -, complement⟩ :=
    entryFor_depends_on_bearers_alone forwardWorld hr "store" none
  have named (q : String) : ¬ Excludes "prod" q := by
    simp [Excludes, ← String.toList_inj]
  have found (selected : List String) := complement "prod" (storeEntry "Disk" ["prod"])
    (storeEntry "Memory" ["!prod"]) [] named rfl rfl rfl rfl (.refl _) (by simp) selected
  have both := several _ _ [] (.refl _) (by decide) (by decide)
  exact ⟨hr, found ["dev", "prod"], found [], both.1⟩

end ComponentAssembly
