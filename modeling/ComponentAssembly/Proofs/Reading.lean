import ComponentAssembly.Failure.Message
import ComponentAssembly.Parameter.Section
import Mathlib.Data.List.Forall2

/-! What is read of a section: all of its parameters, or the fault of the first malformed one. -/

namespace ComponentAssembly

open Markup

section Sequence

variable {ε α β : Type} {f : α → Except ε β} {x : α} {xs pre post : List α} {ys : List β} {e : ε}

theorem map_ok_iff {g : α → β} {r : Except ε α} {y : β} :
    r.map g = .ok y ↔ ∃ x, r = .ok x ∧ g x = y := by
  cases r <;> simp [Except.map]

theorem bind_ok_iff {r : Except ε α} {g : α → Except ε β} {y : β} :
    (r >>= g) = .ok y ↔ ∃ x, r = .ok x ∧ g x = .ok y := by
  cases r with
  | error e => simp [show (Except.error e >>= g) = .error e from rfl]
  | ok x => simp [show (Except.ok x >>= g) = g x from rfl]

theorem mapM_cons_error (h : f x = .error e) : (x :: xs).mapM f = .error e := by
  rw [List.mapM_cons, h]
  rfl

theorem mapM_cons_ok {y : β} (h : f x = .ok y) :
    (x :: xs).mapM f = (xs.mapM f).map (y :: ·) := by
  rw [List.mapM_cons, h]
  cases xs.mapM f <;> rfl

theorem mapM_ok_iff : xs.mapM f = .ok ys ↔ List.Forall₂ (fun x y => f x = .ok y) xs ys := by
  induction xs generalizing ys with
  | nil => cases ys <;> simp [pure, Except.pure]
  | cons x xs ih =>
    cases hx : f x with
    | error e => cases ys <;> simp [mapM_cons_error hx, hx]
    | ok y => cases ys <;> simp [mapM_cons_ok hx, map_ok_iff, ih, hx, and_comm]

/-- Reading in order gives the same of two rows whose pieces are read the same. -/
theorem mapM_eq_of_related {γ : Type} {g : γ → Except ε β} {zs : List γ}
    (h : List.Forall₂ (fun x z => f x = g z) xs zs) : xs.mapM f = zs.mapM g := by
  induction h with
  | nil => rfl
  | cons first _ ih => rw [List.mapM_cons, List.mapM_cons, first, ih]

/-- Steps in order succeed if each one does. -/
theorem forM_ok_iff {g : α → Except ε Unit} : xs.forM g = .ok () ↔ ∀ x ∈ xs, g x = .ok () := by
  induction xs with
  | nil => simp [List.forM, pure, Except.pure]
  | cons x xs ih =>
    have hc : (x :: xs).forM g = g x >>= fun _ => xs.forM g := rfl
    rw [hc, bind_ok_iff, ih, List.forall_mem_cons]
    exact ⟨fun ⟨_, hx, hs⟩ => ⟨hx, hs⟩, fun ⟨hx, hs⟩ => ⟨(), hx, hs⟩⟩

/-- Reading in order succeeds where each piece can be read. -/
theorem mapM_exists_ok (h : ∀ x ∈ xs, ∃ y, f x = .ok y) : ∃ ys, xs.mapM f = .ok ys := by
  induction xs with
  | nil => exact ⟨[], rfl⟩
  | cons x xs ih =>
    obtain ⟨y, hy⟩ := h x (by simp)
    obtain ⟨ys, hys⟩ := ih fun z hz => h z (by simp [hz])
    exact ⟨y :: ys, mapM_ok_iff.2 (.cons hy (mapM_ok_iff.1 hys))⟩

/-- Reading in order fails with the fault of the first piece that cannot be read. -/
theorem mapM_error_of_first (hpre : ∀ y ∈ pre, ∃ z, f y = .ok z) (hx : f x = .error e) :
    (pre ++ x :: post).mapM f = .error e := by
  induction pre with
  | nil => exact mapM_cons_error hx
  | cons y pre ih =>
    obtain ⟨z, hz⟩ := hpre y (by simp)
    have hr := ih fun y hy => hpre y (by simp [hy])
    rw [List.cons_append, mapM_cons_ok hz, hr, Except.map]

theorem exists_first {P : α → Prop} [DecidablePred P] (h : ∃ x ∈ xs, P x) :
    ∃ pre x post, xs = pre ++ x :: post ∧ (∀ y ∈ pre, ¬ P y) ∧ P x := by
  induction xs with
  | nil => simp at h
  | cons y xs ih =>
    by_cases hy : P y
    · exact ⟨[], y, xs, rfl, by simp, hy⟩
    · have hr : ∃ x ∈ xs, P x := by simpa [hy] using h
      obtain ⟨pre, x, post, rfl, hpre, hx⟩ := ih hr
      exact ⟨y :: pre, x, post, rfl, by simpa [hy] using hpre, hx⟩

end Sequence

variable {node bad : Element} {pre post : List Element} {excluded? : Option String}
  {problem : DocumentProblem} {params : List Parameter}

/-- A parameter is a malformed map if some of its children give an entry and some do not. -/
def IsMalformedMap (node : Element) : Prop :=
  (∃ c ∈ node.children, isEntry c = true) ∧ ∃ c ∈ node.children, isEntry c = false

/-- What is wrong with a malformed map: its first child that gives no entry lacks a key, or has a
key and lacks a text. -/
inductive MapFault (node : Element) : DocumentProblem → Prop
  | key {pre : List Element} {c : Element} {post : List Element}
      (split : node.children = pre ++ c :: post) (complete : ∀ d ∈ pre, isEntry d = true)
      (without : entryKey? c = none) : MapFault node (.entryWithoutKey node.localName)
  | text {pre : List Element} {c : Element} {post : List Element}
      (split : node.children = pre ++ c :: post) (complete : ∀ d ∈ pre, isEntry d = true)
      (keyed : entryKey? c ≠ none) (without : entryText? c = none) :
      MapFault node (.entryWithoutValue node.localName)

theorem MapFault.kind_eq (h : MapFault node problem) :
    (Failure.document problem).kind = .config .malformedMapEntry := by
  cases h <;> rfl

theorem MapFault.identifier_eq (h : MapFault node problem) :
    (Failure.document problem).identifier? = some node.localName := by
  cases h <;> rfl

theorem entry_of_isEntry {parameter : String} (h : isEntry node = true) :
    ∃ pair, entry parameter node = .ok pair := by
  simp only [isEntry, Bool.and_eq_true, Option.isSome_iff_exists] at h
  obtain ⟨⟨key, hk⟩, text, ht⟩ := h
  exact ⟨(key, text), by simp [entry, hk, ht]⟩

theorem ofElement_malformed (h : IsMalformedMap node) :
    ∃ problem, MapFault node problem ∧ ShapedText.ofElement node = .error (.document problem) := by
  obtain ⟨⟨d, hd, hde⟩, hi⟩ := h
  have hne : node.children.isEmpty = false := by cases hc : node.children <;> simp_all
  have hany : node.children.any isEntry = true := List.any_eq_true.2 ⟨d, hd, hde⟩
  obtain ⟨pre, c, post, hs, hpre, hc⟩ := exists_first hi
  have hcomplete : ∀ d ∈ pre, isEntry d = true := fun d hd => by simpa using hpre d hd
  have hread {f : Failure} (hf : entry node.localName c = .error f) :
      ShapedText.ofElement node = .error f := by
    have hm : node.children.mapM (entry node.localName) = .error f := by
      rw [hs]
      exact mapM_error_of_first (fun d hd => entry_of_isEntry (hcomplete d hd)) hf
    simp [ShapedText.ofElement, hne, hany, hm, Except.map]
  cases hk : entryKey? c with
  | none => exact ⟨_, .key hs hcomplete hk, hread (by simp [entry, hk])⟩
  | some key =>
    have ht : entryText? c = none := by simpa [isEntry, hk] using hc
    exact ⟨_, .text hs hcomplete (by simp [hk]) ht, hread (by simp [entry, hk, ht])⟩

theorem ofElement_wellFormed (h : ¬ IsMalformedMap node) :
    ∃ value, ShapedText.ofElement node = .ok value := by
  unfold ShapedText.ofElement
  by_cases he : node.children.isEmpty = true
  · simp [he]
  by_cases ha : node.children.any isEntry = true
  · have hall : ∀ c ∈ node.children, ∃ pair, entry node.localName c = .ok pair := by
      intro c hc
      apply entry_of_isEntry
      by_contra hn
      exact h ⟨List.any_eq_true.1 ha, c, hc, by simpa using hn⟩
    obtain ⟨pairs, hp⟩ := mapM_exists_ok hall
    simp [he, ha, hp, Except.map]
  · simp [he, ha]

/-- A malformed map anywhere in a section is found before anything else is done with the section. -/
theorem parametersOf_malformed (hs : parameterNodes node excluded? = pre ++ bad :: post)
    (hpre : ∀ n ∈ pre, ¬ IsMalformedMap n) (hbad : IsMalformedMap bad) :
    ∃ problem, MapFault bad problem ∧
      parametersOf node excluded? = .error (.document problem) := by
  obtain ⟨problem, hp, he⟩ := ofElement_malformed hbad
  refine ⟨problem, hp, ?_⟩
  rw [parametersOf, hs]
  apply mapM_error_of_first
  · intro n hn
    obtain ⟨value, hv⟩ := ofElement_wellFormed (hpre n hn)
    exact ⟨⟨n.localName, value⟩, by rw [Parameter.ofElement, hv, Except.map]⟩
  · rw [Parameter.ofElement, he, Except.map]

theorem parametersOf_wellFormed (h : ∀ n ∈ parameterNodes node excluded?, ¬ IsMalformedMap n) :
    ∃ params, parametersOf node excluded? = .ok params := by
  apply mapM_exists_ok
  intro n hn
  obtain ⟨value, hv⟩ := ofElement_wellFormed (h n hn)
  exact ⟨⟨n.localName, value⟩, by rw [Parameter.ofElement, hv, Except.map]⟩

/-- The parameters of a section stand in document order and have the names of their elements. -/
theorem parametersOf_names (h : parametersOf node excluded? = .ok params) :
    params.map Parameter.name = (parameterNodes node excluded?).map Element.localName := by
  rw [parametersOf, mapM_ok_iff] at h
  generalize parameterNodes node excluded? = nodes at h ⊢
  induction h with
  | nil => rfl
  | cons hn _ ih =>
    obtain ⟨value, _, rfl⟩ := map_ok_iff.1 hn
    simp [ih]

end ComponentAssembly
