import ComponentAssembly.Proofs.Reading
import Mathlib.Data.List.Induction

/-! The children of a parameter decide its shape all at once: a text without any, a list where none
gives an entry, a map where each one does, and a malformed map where some do and some do not. -/

namespace ComponentAssembly

open Markup Text

variable {node child : Element} {children pre post : List Element} {key text parameter : String}
  {pair : String × String} {pairs entries others : List (String × String)} {f : Failure}

namespace Markup.Element

/-- The key that a child gives: its attribute `from`, or else its attribute `key`. -/
def GivesKey (node : Element) (key : String) : Prop :=
  node.attribute? "from" = some key ∨
    node.attribute? "from" = none ∧ node.attribute? "key" = some key

/-- The text that a child gives: its attribute `to`, or else its attribute `value`. -/
def GivesText (node : Element) (text : String) : Prop :=
  node.attribute? "to" = some text ∨
    node.attribute? "to" = none ∧ node.attribute? "value" = some text

/-- A child gives both parts of an entry. An attribute counts also where its value is empty. -/
def IsComplete (node : Element) : Prop :=
  (∃ key, node.GivesKey key) ∧ ∃ text, node.GivesText text

/-- The entry that a child gives. -/
def GivesEntry (node : Element) (pair : String × String) : Prop :=
  node.GivesKey pair.1 ∧ node.GivesText pair.2

end Markup.Element

/-- The map that texts under keys come to: its keys are theirs, each once and in the order in which
they first occur, and each has the text of the last one with this key. -/
structure CollectsTo (pairs entries : List (String × String)) : Prop where
  keys : entries.map Prod.fst = (pairs.map Prod.fst).eraseDups
  last : ∀ key text, (key, text) ∈ entries ↔
    ∃ before after, pairs = before ++ (key, text) :: after ∧ ∀ p ∈ after, p.1 ≠ key

/-! ### Collecting entries -/

theorem map_fst_setEntry (key text : String) (entries : List (String × String)) :
    (setEntry key text entries).map Prod.fst =
      if key ∈ entries.map Prod.fst then entries.map Prod.fst else entries.map Prod.fst ++ [key] := by
  induction entries with
  | nil => rfl
  | cons e entries ih =>
    by_cases h : e.1 = key
    · simp [setEntry, h]
    · simp only [setEntry, h, if_false, List.map_cons, ih, List.mem_cons, Ne.symm h, false_or]
      split <;> rfl

/-- Setting an entry leaves those with other keys. -/
theorem mem_setEntry (h : (entries.map Prod.fst).Nodup) : pair ∈ setEntry key text entries ↔
    pair = (key, text) ∨ pair.1 ≠ key ∧ pair ∈ entries := by
  induction entries with
  | nil => simp [setEntry]
  | cons e entries ih =>
    rw [List.map_cons, List.nodup_cons] at h
    obtain ⟨he, hn⟩ := h
    by_cases hk : e.1 = key
    · have hother : pair ∈ entries → pair.1 ≠ key := by
        rintro hp rfl
        exact he (hk ▸ List.mem_map_of_mem hp)
      simp only [setEntry, hk, if_true, List.mem_cons]
      constructor
      · rintro (rfl | hp)
        · exact .inl rfl
        · exact .inr ⟨hother hp, .inr hp⟩
      · rintro (rfl | ⟨hne, rfl | hp⟩)
        · exact .inl rfl
        · exact absurd hk hne
        · exact .inr hp
    · simp only [setEntry, hk, if_false, List.mem_cons, ih hn]
      constructor
      · rintro (rfl | rfl | ⟨hne, hp⟩)
        · exact .inr ⟨hk, .inl rfl⟩
        · exact .inl rfl
        · exact .inr ⟨hne, .inr hp⟩
      · rintro (rfl | ⟨hne, rfl | hp⟩)
        · exact .inr (.inl rfl)
        · exact .inl rfl
        · exact .inr (.inr ⟨hne, hp⟩)

theorem entriesOf_concat (pairs : List (String × String)) (pair : String × String) :
    entriesOf (pairs ++ [pair]) = setEntry pair.1 pair.2 (entriesOf pairs) := by
  rw [entriesOf, entriesOf, List.foldl_concat]

theorem nodup_entriesOf (pairs : List (String × String)) :
    ((entriesOf pairs).map Prod.fst).Nodup := by
  induction pairs using List.reverseRecOn with
  | nil => exact List.nodup_nil
  | append_singleton pairs pair ih =>
    rw [entriesOf_concat, map_fst_setEntry]
    split
    · exact ih
    · rename_i hk
      refine List.nodup_append.2 ⟨ih, by simp, ?_⟩
      rintro a ha b hb rfl
      exact hk (List.mem_singleton.1 hb ▸ ha)

theorem map_fst_entriesOf (pairs : List (String × String)) :
    (entriesOf pairs).map Prod.fst = (pairs.map Prod.fst).eraseDups := by
  induction pairs using List.reverseRecOn with
  | nil => rfl
  | append_singleton pairs pair ih =>
    rw [entriesOf_concat, map_fst_setEntry, ih, List.map_append, List.eraseDups_append]
    by_cases hk : pair.1 ∈ pairs.map Prod.fst
    · simp [List.removeAll, hk]
    · simp [List.removeAll, hk, List.eraseDups_cons]

theorem mem_entriesOf (pairs : List (String × String)) (key text : String) :
    (key, text) ∈ entriesOf pairs ↔
      ∃ before after, pairs = before ++ (key, text) :: after ∧ ∀ p ∈ after, p.1 ≠ key := by
  induction pairs using List.reverseRecOn with
  | nil => simp [entriesOf]
  | append_singleton pairs pair ih =>
    rw [entriesOf_concat, mem_setEntry (nodup_entriesOf pairs), ih]
    constructor
    · rintro (hp | ⟨hne, before, after, rfl, hafter⟩)
      · exact ⟨pairs, [], by rw [hp], by simp⟩
      · refine ⟨before, after ++ [pair], by simp, ?_⟩
        intro p hp
        rcases List.mem_append.1 hp with hp | hp
        · exact hafter p hp
        · rw [List.mem_singleton.1 hp]
          exact Ne.symm hne
    · rintro ⟨before, after, hs, hafter⟩
      obtain rfl | ⟨after, last, rfl⟩ := List.eq_nil_or_concat' after
      · exact .inl (List.append_singleton_inj.1 hs).2.symm
      · rw [← List.cons_append, ← List.append_assoc, List.append_singleton_inj] at hs
        obtain ⟨rfl, rfl⟩ := hs
        exact .inr ⟨Ne.symm (hafter pair (by simp)), before, after, rfl,
          fun p hp => hafter p (by simp [hp])⟩

theorem collectsTo_entriesOf (pairs : List (String × String)) : CollectsTo pairs (entriesOf pairs) :=
  ⟨map_fst_entriesOf pairs, mem_entriesOf pairs⟩

/-- Maps with the same keys in order, each of them once, and the same entries are the same. -/
theorem eq_of_same_keys (hk : entries.map Prod.fst = others.map Prod.fst)
    (hn : (entries.map Prod.fst).Nodup) (hm : ∀ p, p ∈ entries ↔ p ∈ others) :
    entries = others := by
  induction entries generalizing others with
  | nil => exact (List.map_eq_nil_iff.1 hk.symm).symm
  | cons e entries ih =>
    cases others with
    | nil => simp at hk
    | cons o others =>
      rw [List.map_cons, List.map_cons, List.cons.injEq] at hk
      obtain ⟨hkey, hkeys⟩ := hk
      rw [List.map_cons, List.nodup_cons] at hn
      obtain ⟨he, hn⟩ := hn
      have fresh {p : String × String} (hp : p ∈ entries) : p ≠ e := by
        rintro rfl
        exact he (List.mem_map_of_mem hp)
      have freshOther {p : String × String} (hp : p ∈ others) : p ≠ e := by
        rintro rfl
        exact he (hkeys ▸ List.mem_map_of_mem hp)
      have heo : e = o := by
        have hmem := (hm e).1 List.mem_cons_self
        rcases List.mem_cons.1 hmem with h | h
        · exact h
        · exact absurd rfl (freshOther h)
      subst heo
      rw [ih hkeys hn]
      intro p
      have hp := hm p
      simp only [List.mem_cons] at hp
      constructor
      · intro h
        exact (hp.1 (.inr h)).resolve_left (fresh h)
      · intro h
        exact (hp.2 (.inr h)).resolve_left (freshOther h)

/-- What texts under keys come to is determined. -/
theorem collectsTo_iff : CollectsTo pairs entries ↔ entries = entriesOf pairs := by
  constructor
  · rintro ⟨hkeys, hlast⟩
    refine eq_of_same_keys (hkeys.trans (map_fst_entriesOf pairs).symm) ?_ ?_
    · rw [hkeys, ← map_fst_entriesOf]
      exact nodup_entriesOf pairs
    · rintro ⟨key, text⟩
      rw [hlast, mem_entriesOf]
  · rintro rfl
    exact collectsTo_entriesOf pairs

/-! ### What a child gives -/

theorem orElse_eq_some_iff {a? b? : Option String} {s : String} :
    (a? <|> b?) = some s ↔ a? = some s ∨ a? = none ∧ b? = some s := by
  cases a? <;> simp

theorem entryKey?_eq_some_iff : entryKey? child = some key ↔ child.GivesKey key :=
  orElse_eq_some_iff

theorem entryText?_eq_some_iff : entryText? child = some text ↔ child.GivesText text :=
  orElse_eq_some_iff

theorem entryKey?_eq_none_iff : entryKey? child = none ↔ ∀ key, ¬ child.GivesKey key := by
  simp only [Option.eq_none_iff_forall_not_mem, Option.mem_def, entryKey?_eq_some_iff]

theorem entryText?_eq_none_iff : entryText? child = none ↔ ∀ text, ¬ child.GivesText text := by
  simp only [Option.eq_none_iff_forall_not_mem, Option.mem_def, entryText?_eq_some_iff]

theorem isEntry_iff : isEntry child = true ↔ child.IsComplete := by
  simp only [isEntry, Bool.and_eq_true, Option.isSome_iff_exists, entryKey?_eq_some_iff,
    entryText?_eq_some_iff, Element.IsComplete]

theorem entry_ok_iff : entry parameter child = .ok pair ↔ child.GivesEntry pair := by
  rw [Element.GivesEntry, ← entryKey?_eq_some_iff, ← entryText?_eq_some_iff]
  cases hk : entryKey? child with
  | none => simp [entry, hk]
  | some key =>
    cases ht : entryText? child with
    | none => simp [entry, hk, ht]
    | some text => simp [entry, hk, ht, Prod.ext_iff]

theorem mapM_entry_ok_iff : children.mapM (entry parameter) = .ok pairs ↔
    List.Forall₂ Element.GivesEntry children pairs := by
  simp only [mapM_ok_iff, entry_ok_iff]

theorem any_isEntry_iff : node.children.any isEntry = true ↔ ∃ c ∈ node.children, c.IsComplete := by
  simp only [List.any_eq_true, isEntry_iff]

/-! ### The shape -/

/-- What becomes of a parameter, by its children. Without any it is its whole text. Where none is
complete it is a list of their texts in order, without the blank ones. Where each is complete it is a
map of their entries. Where some are and some are not it is malformed, and the first one that is not
decides what is complained about: that it gives no key, or that it gives a key and no text. -/
inductive Classified (node : Element) : Except Failure ShapedText → Prop
  | scalar (childless : node.children = []) : Classified node (.ok (.scalar node.fullText))
  | list (children : node.children ≠ []) (incomplete : ∀ c ∈ node.children, ¬ c.IsComplete) :
      Classified node
        (.ok (.list ((node.children.map Element.fullText).filter fun text => !isBlankText text)))
  | map {pairs entries : List (String × String)} (children : node.children ≠ [])
      (complete : List.Forall₂ Element.GivesEntry node.children pairs)
      (collected : CollectsTo pairs entries) : Classified node (.ok (.map entries))
  | keyless {pre post : List Element} {c : Element} (split : node.children = pre ++ c :: post)
      (mapped : ∃ d ∈ node.children, d.IsComplete) (complete : ∀ d ∈ pre, d.IsComplete)
      (without : ∀ key, ¬ c.GivesKey key) :
      Classified node (.error (.document (.entryWithoutKey node.localName)))
  | textless {pre post : List Element} {c : Element} {key : String}
      (split : node.children = pre ++ c :: post) (mapped : ∃ d ∈ node.children, d.IsComplete)
      (complete : ∀ d ∈ pre, d.IsComplete) (keyed : c.GivesKey key)
      (without : ∀ text, ¬ c.GivesText text) :
      Classified node (.error (.document (.entryWithoutValue node.localName)))

theorem ofElement_of_nil (h : node.children = []) :
    ShapedText.ofElement node = .ok (.scalar node.fullText) := by
  simp [ShapedText.ofElement, h]

theorem ofElement_of_incomplete (hne : node.children ≠ [])
    (h : ∀ c ∈ node.children, ¬ c.IsComplete) : ShapedText.ofElement node =
      .ok (.list ((node.children.map Element.fullText).filter fun text => !isBlankText text)) := by
  have hany : ¬ node.children.any isEntry = true := by
    rintro ha
    obtain ⟨c, hc, he⟩ := any_isEntry_iff.1 ha
    exact h c hc he
  simp [ShapedText.ofElement, hne, hany]

/-- As soon as one child is complete, each one has to give an entry. -/
theorem ofElement_of_mapped (h : ∃ c ∈ node.children, c.IsComplete) :
    ShapedText.ofElement node =
      (node.children.mapM (entry node.localName)).map fun pairs => .map (entriesOf pairs) := by
  have hne : node.children ≠ [] := by
    obtain ⟨c, hc, -⟩ := h
    exact List.ne_nil_of_mem hc
  simp only [ShapedText.ofElement, List.isEmpty_iff, hne, any_isEntry_iff.2 h, if_false, if_true]

theorem complete_of_gives (h : List.Forall₂ Element.GivesEntry children pairs) :
    ∀ c ∈ children, c.IsComplete := by
  induction h with
  | nil => simp
  | cons first _ ih => exact List.forall_mem_cons.2 ⟨⟨⟨_, first.1⟩, _, first.2⟩, ih⟩

theorem ofElement_of_split (hs : node.children = pre ++ child :: post)
    (hm : ∃ c ∈ node.children, c.IsComplete) (hpre : ∀ c ∈ pre, c.IsComplete)
    (hc : entry node.localName child = .error f) : ShapedText.ofElement node = .error f := by
  have hfirst : node.children.mapM (entry node.localName) = .error f := by
    rw [hs]
    exact mapM_error_of_first (fun c hc => entry_of_isEntry (isEntry_iff.2 (hpre c hc))) hc
  rw [ofElement_of_mapped hm, hfirst]
  rfl

theorem entry_of_keyless (h : ∀ key, ¬ child.GivesKey key) :
    entry parameter child = .error (.document (.entryWithoutKey parameter)) := by
  rw [entry, entryKey?_eq_none_iff.2 h]

theorem entry_of_textless (hk : child.GivesKey key) (ht : ∀ text, ¬ child.GivesText text) :
    entry parameter child = .error (.document (.entryWithoutValue parameter)) := by
  rw [entry, entryKey?_eq_some_iff.2 hk, entryText?_eq_none_iff.2 ht]

theorem ofElement_of_classified {r : Except Failure ShapedText} (h : Classified node r) :
    ShapedText.ofElement node = r := by
  cases h with
  | scalar childless => exact ofElement_of_nil childless
  | list children incomplete => exact ofElement_of_incomplete children incomplete
  | map children complete collected =>
    obtain ⟨c, hc⟩ := List.exists_mem_of_ne_nil _ children
    rw [ofElement_of_mapped ⟨c, hc, complete_of_gives complete c hc⟩,
      mapM_entry_ok_iff.2 complete, collectsTo_iff.1 collected]
    rfl
  | keyless split mapped complete without =>
    exact ofElement_of_split split mapped complete (entry_of_keyless without)
  | textless split mapped complete keyed without =>
    exact ofElement_of_split split mapped complete (entry_of_textless keyed without)

/-- There is no other case. -/
theorem exists_classified (node : Element) : ∃ r, Classified node r := by
  by_cases hc : node.children = []
  · exact ⟨_, .scalar hc⟩
  by_cases hall : ∀ c ∈ node.children, c.IsComplete
  · have hread : ∀ c ∈ node.children, ∃ pair, entry node.localName c = .ok pair :=
      fun c hc => entry_of_isEntry (isEntry_iff.2 (hall c hc))
    obtain ⟨pairs, hp⟩ := mapM_exists_ok hread
    exact ⟨_, .map hc (mapM_entry_ok_iff.1 hp) (collectsTo_entriesOf pairs)⟩
  by_cases hsome : ∃ c ∈ node.children, c.IsComplete
  · classical
    obtain ⟨pre, c, post, hs, hpre, hnot⟩ := exists_first (by simpa using hall)
    have hpre : ∀ d ∈ pre, d.IsComplete := fun d hd => not_not.1 (hpre d hd)
    by_cases hk : ∃ key, c.GivesKey key
    · obtain ⟨key, hkey⟩ := hk
      exact ⟨_, .textless hs hsome hpre hkey fun text ht => hnot ⟨⟨key, hkey⟩, text, ht⟩⟩
    · exact ⟨_, .keyless hs hsome hpre fun key hkey => hk ⟨key, hkey⟩⟩
  · exact ⟨_, .list hc fun c hm he => hsome ⟨c, hm, he⟩⟩

/-- What a parameter is read as is what its children make of it, at whatever places those stand that
give an entry, in whichever spelling, and those that give none. Whatever complaint there is, it is about
a malformed entry and names the parameter. -/
theorem ofElement_eq_iff_classified (node : Element) :
    (∀ r, ShapedText.ofElement node = r ↔ Classified node r) ∧
      ∀ f, ShapedText.ofElement node = .error f →
        f.kind = .config .malformedMapEntry ∧ f.identifier? = some node.localName := by
  have hiff (r : Except Failure ShapedText) : ShapedText.ofElement node = r ↔ Classified node r := by
    constructor
    · rintro rfl
      obtain ⟨r, hr⟩ := exists_classified node
      rwa [ofElement_of_classified hr]
    · exact ofElement_of_classified
  refine ⟨hiff, fun f hf => ?_⟩
  cases (hiff _).1 hf with
  | keyless => exact ⟨rfl, rfl⟩
  | textless => exact ⟨rfl, rfl⟩

end ComponentAssembly
