import ComponentAssembly.Proofs.Checking

/-! Preparing and checking a component: which bodies begin is a matter of its class alone. -/

namespace ComponentAssembly

open Build

variable {w : World} {c : ClassRef} {number : Nat} {v : Value} {s t : State}
  {r : Except Failure Unit} {es : List Event}

/-- The event of preparing an instance with some settings, if its class describes a body for it. -/
def World.preparation (w : World) (c : ClassRef) (number : Nat) (settings : Value) : List Event :=
  match w.member? c initializeName with
  | some (.preparation (.body _)) => [.prepared number settings]
  | _ => []

/-- The event of checking an instance, if its class describes a body for it. -/
def World.checking (w : World) (c : ClassRef) (number : Nat) (policy : Policy) : List Event :=
  match w.member? c checkName with
  | some (.check (.body _)) => [.checked number policy]
  | _ => []

/-- Nothing but records for a log. -/
def OnlyLogs (es : List Event) : Prop := ∀ e ∈ es, ∃ policy text, e = .logged policy text

theorem preparation_eq (w : World) (c : ClassRef) (number : Nat) (settings : Value) :
    w.preparation c number settings = [] ∨
      w.preparation c number settings = [.prepared number settings] := by
  unfold World.preparation
  split <;> simp

theorem checking_eq (w : World) (c : ClassRef) (number : Nat) (policy : Policy) :
    w.checking c number policy = [] ∨ w.checking c number policy = [.checked number policy] := by
  unfold World.checking
  split <;> simp

theorem onlyLogs_nil : OnlyLogs [] := by simp [OnlyLogs]

theorem Policy.Reports.onlyLogs {policy : Policy} {className problem : String}
    (h : policy.Reports className problem r es) : OnlyLogs es := by
  cases h with
  | ignored | thrown => exact onlyLogs_nil
  | logged => simp [OnlyLogs]

theorem Check.Ends.onlyLogs {b : Check} {className : String} {policy : Policy}
    (h : b.Ends s className number policy r es) : OnlyLogs es := by
  cases h with
  | raised | unset | sound => exact onlyLogs_nil
  | reported _ _ _ reports => exact reports.onlyLogs

/-- The only event of preparing an instance is that of a body. -/
theorem World.Prepares.events (h : w.Prepares s c number v r es) :
    es = w.preparation c number v := by
  unfold World.preparation
  cases h with
  | body found => rw [found]
  | uncallable refused =>
    split
    · rename_i hm
      exact absurd hm (refused.not_found rfl)
    · rfl
  | idle found idle =>
    split
    · rename_i hm
      obtain rfl := Option.some.inj (found.symm.trans hm)
      cases idle
    · rfl

/-- Nothing but records for a log follows the event of a body. -/
theorem World.Checks.events {policy : Policy} (h : w.Checks s c number policy r es) :
    ∃ logs, es = w.checking c number policy ++ logs ∧ OnlyLogs logs := by
  unfold World.checking
  cases h with
  | body found ends =>
    rw [found]
    exact ⟨_, rfl, ends.onlyLogs⟩
  | uncallable refused =>
    refine ⟨[], ?_, onlyLogs_nil⟩
    split
    · rename_i hm
      exact absurd hm (refused.not_found rfl)
    · rfl
  | idle found idle =>
    refine ⟨[], ?_, onlyLogs_nil⟩
    split
    · rename_i hm
      obtain rfl := Option.some.inj (found.symm.trans hm)
      cases idle
    · rfl

theorem prepare_writes (w : World) (c : ClassRef) (number : Nat) (settings : Value) (s : State) :
    ∃ r, (w.prepare c number settings).OnlyWrites s r (w.preparation c number settings) := by
  obtain ⟨r, es, hr, hw⟩ := prepare_prepares w c number settings s
  exact ⟨r, hr.events ▸ hw⟩

theorem check_writes (w : World) (c : ClassRef) (number : Nat) (policy : Policy) (s : State) :
    ∃ r logs, (w.check c number policy).OnlyWrites s r (w.checking c number policy ++ logs) ∧
      OnlyLogs logs := by
  obtain ⟨r, es, hr, hw⟩ := check_checks w c number policy s
  obtain ⟨logs, rfl, hl⟩ := hr.events
  exact ⟨r, logs, hw, hl⟩

/-- What activating a value can come to: it is no instance that wants it, or it is prepared without any
settings and that fails, or it is prepared so and then checked. -/
inductive Activates (w : World) (s : State) (v : Value) : Except Failure Unit → List Event → Prop
  | passed (indifferent : ∀ number c, v = .object number → s.classOf? v = some c →
      w.isInitializable c = false) : Activates w s v (.ok ()) []
  | unprepared {c : ClassRef} {number : Nat} {f g : Failure} (target : v = .object number)
      (known : s.classOf? v = some c) (wanted : w.isInitializable c = true)
      (prepared : (w.prepare c number (.map [])).OnlyWrites s (.error f)
        (w.preparation c number (.map []))) :
      Activates w s v (.error g) (w.preparation c number (.map []))
  | checked {c : ClassRef} {number : Nat} {r : Except Failure Unit} {logs : List Event}
      (target : v = .object number) (known : s.classOf? v = some c)
      (wanted : w.isInitializable c = true)
      (prepared : (w.prepare c number (.map [])).OnlyWrites s (.ok ())
        (w.preparation c number (.map [])))
      (only : OnlyLogs logs) :
      Activates w s v r (w.preparation c number (.map []) ++ (w.checking c number .strict ++ logs))

/-- Activating a value prepares, checks and logs, and nothing else. -/
theorem Activates.events (h : Activates w s v r es) :
    ∀ e ∈ es, (∃ n, e = .prepared n (.map [])) ∨ (∃ n p, e = .checked n p) ∨
      ∃ p text, e = .logged p text := by
  have hp (c : ClassRef) (n : Nat) :
      ∀ e ∈ w.preparation c n (.map []), e = .prepared n (.map []) := by
    rcases preparation_eq w c n (.map []) with h | h <;> simp [h]
  have hc (c : ClassRef) (n : Nat) : ∀ e ∈ w.checking c n .strict, e = .checked n .strict := by
    rcases checking_eq w c n .strict with h | h <;> simp [h]
  intro e he
  cases h with
  | passed => simp at he
  | unprepared => exact .inl ⟨_, hp _ _ e he⟩
  | checked _ _ _ _ only =>
    rcases List.mem_append.1 he with he | he
    · exact .inl ⟨_, hp _ _ e he⟩
    rcases List.mem_append.1 he with he | he
    · exact .inr (.inl ⟨_, _, hc _ _ e he⟩)
    · exact .inr (.inr (only e he))

/-- A value is an instance that wants to be prepared and checked, or it is none. -/
theorem wanted_or_indifferent (w : World) (s : State) (v : Value) :
    (∃ number c, v = .object number ∧ s.classOf? v = some c ∧ w.isInitializable c = true) ∨
      ∀ number c, v = .object number → s.classOf? v = some c → w.isInitializable c = false := by
  by_cases ht : ∃ number c, v = .object number ∧ s.classOf? v = some c ∧ w.isInitializable c = true
  · exact .inl ht
  · refine .inr fun number c hv hc => ?_
    simpa using fun hi => ht ⟨number, c, hv, hc, hi⟩

/-- A value that is no instance, or one that does not want it, is passed over. -/
theorem activate_of_indifferent
    (h : ∀ number c, v = .object number → s.classOf? v = some c → w.isInitializable c = false) :
    (w.activate v).OnlyWrites s (.ok ()) [] := by
  unfold World.activate
  refine ((runs_get s).bind_silent ?_).onlyWrites
  split
  · rename_i c number hc
    rw [if_neg (by simp [h number c rfl hc])]
    exact runs_pure () s
  · exact runs_pure () s

/-- An instance that wants it is prepared and checked, and a failure leaves as one of the lifecycle. -/
theorem activate_of_wanted {number : Nat} (hc : s.classOf? (.object number) = some c)
    (hi : w.isInitializable c = true)
    (h : OnlyWrites (do w.prepare c number (.map []); w.check c number .strict) s r es) :
    (w.activate (.object number)).OnlyWrites s (r.mapError (lifecycleFailure c.name)) es := by
  unfold World.activate OnlyWrites
  rw [runs_get_bind]
  simp only [hc, hi, if_true]
  exact Runs.wrapping _ h

theorem activate_activates (w : World) (v : Value) (s : State) :
    ∃ r es, (w.activate v).OnlyWrites s r es ∧ Activates w s v r es := by
  obtain ⟨number, c, rfl, hc, hi⟩ | hi := wanted_or_indifferent w s v
  · obtain ⟨p, hp⟩ := prepare_writes w c number (.map []) s
    cases p with
    | error f => exact ⟨_, _, activate_of_wanted hc hi hp.bind_error, .unprepared rfl hc hi hp⟩
    | ok =>
      obtain ⟨r, logs, hk, hl⟩ := check_writes w c number .strict
        (s.writing (w.preparation c number (.map [])))
      exact ⟨_, _, activate_of_wanted hc hi (hp.bind hk), .checked rfl hc hi hp hl⟩
  · exact ⟨_, _, activate_of_indifferent hi, .passed hi⟩

theorem Activates.of_runs (h : (w.activate v).Runs s r es t) :
    t = s.writing es ∧ Activates w s v r es := by
  obtain ⟨q, fs, hr, ha⟩ := activate_activates w v s
  obtain ⟨rfl, rfl, rfl⟩ := h.unique hr
  exact ⟨rfl, ha⟩

end ComponentAssembly
