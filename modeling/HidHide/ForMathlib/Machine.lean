import Mathlib.Data.List.Infix

/-!
# Runs of a deterministic machine

A machine is a partial step function `step : σ → ε → Option σ`; `none` means that the event
is not enabled in the state. `Machine.run` performs a list of events. The induction rules that
carry every result about runs:

* `run_invariant`: what each step preserves holds after each run;
* `run_invariant_of_along`: the same for the runs whose steps all meet a condition on the
  state before the step and the event (`Along`);
* `run_budget`: what the steps bring nearer, some of them by one, is reached after as many;
* `forall_prefix_iff_along`: when in addition a step that does not meet the condition breaks the
  property, the condition is exact;
* `forall_prefix_iff_along_total`: the same for a machine in which each event is enabled;
* `forall_prefix_iff_forall`: the same for a relation to a reference and a condition on the events;
* `run_history`: what each step preserves of a relation between the events so far and the
  state holds of each run and the state it reaches. Taking for the relation
  `fun es s => R s (es.foldl next t₀)` makes it a simulation rule;
* `exists_run_of_refinement`: a run of an abstract machine is one of a machine that refines it, on
  the events that meet a condition.

A machine may also reply to each event (`replies`). Two such machines reply alike when their states
are related and each step keeps the relation (`replies_eq_of_simulation`).
-/

namespace Machine

variable {σ ε : Type*} (step : σ → ε → Option σ)

/-- Perform the events in order. -/
def run (s : σ) (es : List ε) : Option σ := es.foldlM step s

@[simp] theorem run_nil (s : σ) : run step s [] = some s := rfl

@[simp] theorem run_cons (s : σ) (e : ε) (es : List ε) :
    run step s (e :: es) = (step s e).bind fun s' => run step s' es := rfl

theorem run_append (s : σ) (es es' : List ε) :
    run step s (es ++ es') = (run step s es).bind fun s' => run step s' es' :=
  List.foldlM_append

/-- A run with a last event is a run, then a step. -/
theorem run_concat_eq_some {s s' : σ} {es : List ε} {e : ε} :
    run step s (es ++ [e]) = some s' ↔ ∃ t, run step s es = some t ∧ step t e = some s' := by
  rw [run_append, Option.bind_eq_some_iff]
  refine exists_congr fun t => and_congr_right fun _ => ?_
  rw [run_cons, Option.bind_eq_some_iff]
  simp

/-- A prefix of a run is a run. -/
theorem exists_run_of_prefix {s s' : σ} {es pre : List ε} (h : run step s es = some s')
    (hpre : pre <+: es) : ∃ t, run step s pre = some t := by
  obtain ⟨suf, rfl⟩ := hpre
  rw [run_append, Option.bind_eq_some_iff] at h
  exact h.imp fun t ht => ht.1

/-- Each step of the run meets `C`, a condition on the state before it and the event. -/
def Along (C : σ → ε → Prop) : σ → List ε → Prop
  | _, [] => True
  | s, e :: es => C s e ∧ ∀ s', step s e = some s' → Along C s' es

instance decidableAlong (C : σ → ε → Prop) [∀ s e, Decidable (C s e)] :
    ∀ (s : σ) (es : List ε), Decidable (Along step C s es)
  | _, [] => .isTrue trivial
  | s, e :: es =>
      match h : step s e with
      | none =>
          decidable_of_iff (C s e) ⟨fun hC => ⟨hC, fun s' hs' => by simp [h] at hs'⟩, And.left⟩
      | some t =>
          haveI := decidableAlong C t es
          decidable_of_iff (C s e ∧ Along step C t es)
            ⟨fun hC => ⟨hC.1, fun s' hs' => by
              obtain rfl : t = s' := by simpa [h] using hs'
              exact hC.2⟩, fun hC => ⟨hC.1, hC.2 t h⟩⟩

variable {step}

/-- A condition on the events alone. -/
theorem along_of_forall {C : ε → Prop} {es : List ε} (h : ∀ e ∈ es, C e) (s : σ) :
    Along step (fun _ => C) s es := by
  induction es generalizing s with
  | nil => trivial
  | cons e es ih =>
    obtain ⟨he, hes⟩ := List.forall_mem_cons.mp h
    exact ⟨he, fun s' _ => ih hes s'⟩

/-- **Invariants under a condition**: what the steps that meet `C` preserve holds after each
run whose steps all meet `C`. -/
theorem run_invariant_of_along {I : σ → Prop} {C : σ → ε → Prop}
    (hstep : ∀ s e s', I s → C s e → step s e = some s' → I s') {s s' : σ} {es : List ε}
    (hs : I s) (hC : Along step C s es) (hrun : run step s es = some s') : I s' := by
  induction es generalizing s with
  | nil =>
    obtain rfl : s = s' := by simpa using hrun
    exact hs
  | cons e es ih =>
    obtain ⟨hCe, hC⟩ := hC
    rw [run_cons, Option.bind_eq_some_iff] at hrun
    obtain ⟨t, ht, hrun⟩ := hrun
    exact ih (hstep s e t hs hCe ht) (hC t ht) hrun

/-- Each step that counts uses up some of the budget, if there is any left. -/
theorem run_budget {W : ℕ → σ → Prop} {C : σ → ε → Prop} {counts : ε → Bool}
    (hstep : ∀ n s e s', W n s → C s e → step s e = some s' →
      W (if counts e then n - 1 else n) s')
    {n : ℕ} {s s' : σ} {es : List ε} (hs : W n s) (hC : Along step C s es)
    (hrun : run step s es = some s') : W (n - es.countP counts) s' := by
  induction es generalizing n s with
  | nil =>
    obtain rfl : s = s' := by simpa using hrun
    exact hs
  | cons e es ih =>
    obtain ⟨t, ht, hrest⟩ := Option.bind_eq_some_iff.mp hrun
    have hnext := ih (hstep n s e t hs hC.1 ht) (hC.2 t ht) hrest
    by_cases hcounts : counts e = true
    · rw [if_pos hcounts] at hnext
      rwa [List.countP_cons_of_pos hcounts, Nat.add_comm, ← Nat.sub_sub]
    · rw [if_neg hcounts] at hnext
      rwa [List.countP_cons_of_neg hcounts]

/-- **Invariants**: what each step preserves holds after each run. -/
theorem run_invariant {I : σ → Prop} (hstep : ∀ s e s', I s → step s e = some s' → I s')
    {s s' : σ} {es : List ε} (hs : I s) (hrun : run step s es = some s') : I s' := by
  induction es generalizing s with
  | nil =>
    obtain rfl : s = s' := by simpa using hrun
    exact hs
  | cons e es ih =>
    rw [run_cons, Option.bind_eq_some_iff] at hrun
    obtain ⟨t, ht, hrun⟩ := hrun
    exact ih (hstep s e t hs ht) hrun

/-- **Exact conditions**: when the steps that meet `C` preserve the invariant `I`, and a step that
does not meet `C` breaks the property `P` that `I` implies, then `P` holds in every state of a run
exactly when all its steps meet `C`. -/
theorem forall_prefix_iff_along {I P : σ → Prop} {C : σ → ε → Prop} (hIP : ∀ s, I s → P s)
    (hstep : ∀ s e s', I s → step s e = some s' → (C s e → I s') ∧ (¬C s e → ¬P s'))
    {s s' : σ} {es : List ε} (hs : I s) (hrun : run step s es = some s') :
    (∀ done, done <+: es → ∀ t, run step s done = some t → P t) ↔ Along step C s es := by
  induction es generalizing s with
  | nil =>
    refine iff_of_true (fun done hdone t ht => ?_) trivial
    obtain rfl := List.prefix_nil.mp hdone
    obtain rfl : s = t := by simpa using ht
    exact hIP s hs
  | cons e es ih =>
    rw [run_cons, Option.bind_eq_some_iff] at hrun
    obtain ⟨u, hu, hrun⟩ := hrun
    obtain ⟨hmeets, hbreaks⟩ := hstep s e u hs hu
    have hlater : ∀ done t, run step s (e :: done) = some t ↔ run step u done = some t := by
      intro done t
      rw [run_cons, hu]
      rfl
    constructor
    · intro h
      -- the prefix that ends with `e` already refutes a step that does not meet `C`
      have hC : C s e := by
        by_contra hC
        exact hbreaks hC (h [e] (by simp) u ((hlater [] u).mpr rfl))
      refine ⟨hC, fun u' hu' => ?_⟩
      obtain rfl : u = u' := Option.some.inj (hu.symm.trans hu')
      refine (ih (hmeets hC) hrun).mp fun done hdone t ht => ?_
      exact h (e :: done) (by simpa using hdone) t ((hlater done t).mpr ht)
    · rintro ⟨hC, hrest⟩ done hdone t ht
      cases done with
      | nil =>
        obtain rfl : s = t := by simpa using ht
        exact hIP s hs
      | cons e' done =>
        obtain ⟨rfl, hpre⟩ := List.cons_prefix_cons.mp hdone
        exact (ih (hmeets hC) hrun).mpr (hrest u hu) done hpre t ((hlater done t).mp ht)

/-- **Exact refinement**: `R` relates the state to a reference, on which the events act by `next`.
When an event that meets `C` can be performed and keeps the relation, and one that does not breaks
it, then every prefix of the events can be performed and keeps the relation exactly when all events
meet `C`. -/
theorem forall_prefix_iff_forall {τ : Type*} {R : σ → τ → Prop} {next : τ → ε → τ} {C : ε → Prop}
    (hstep : ∀ s t e, R s t → (C e → ∃ s', step s e = some s' ∧ R s' (next t e)) ∧
      (¬C e → ∀ s', step s e = some s' → ¬R s' (next t e)))
    {s : σ} {t : τ} (h : R s t) (es : List ε) :
    (∀ done, done <+: es → ∃ s', run step s done = some s' ∧ R s' (done.foldl next t)) ↔
      ∀ e ∈ es, C e := by
  induction es generalizing s t with
  | nil =>
    refine iff_of_true (fun done hdone => ?_) (by simp)
    obtain rfl := List.prefix_nil.mp hdone
    exact ⟨s, rfl, h⟩
  | cons e es ih =>
    obtain ⟨hmeets, hbreaks⟩ := hstep s t e h
    constructor
    · intro hall
      -- as before, by the prefix that ends with `e`
      have hC : C e := by
        by_contra hC
        obtain ⟨s', hs', hR⟩ := hall [e] (by simp)
        exact hbreaks hC s' (by simpa using hs') hR
      obtain ⟨u, hu, hR⟩ := hmeets hC
      refine List.forall_mem_cons.mpr ⟨hC, (ih hR).mp fun done hdone => ?_⟩
      obtain ⟨s', hs', hR'⟩ := hall (e :: done) (by simpa using hdone)
      rw [run_cons, hu] at hs'
      exact ⟨s', hs', hR'⟩
    · intro hall done hdone
      obtain ⟨hCe, hrest⟩ := List.forall_mem_cons.mp hall
      cases done with
      | nil => exact ⟨s, rfl, h⟩
      | cons e' done =>
        obtain ⟨rfl, hpre⟩ := List.cons_prefix_cons.mp hdone
        obtain ⟨u, hu, hR⟩ := hmeets hCe
        obtain ⟨s', hs', hR'⟩ := (ih hR).mpr hrest done hpre
        exact ⟨s', by rw [run_cons, hu]; exact hs', hR'⟩

/-- A machine in which each event is enabled: a run is a fold. -/
theorem run_total (f : σ → ε → σ) (s : σ) (es : List ε) :
    run (fun s e => some (f s e)) s es = some (es.foldl f s) := by
  induction es generalizing s with
  | nil => rfl
  | cons e es ih =>
    rw [run_cons, Option.bind_some, ih]
    rfl

/-- **Exact conditions** for a machine in which each event is enabled. -/
theorem forall_prefix_iff_along_total {f : σ → ε → σ} {P : σ → Prop} {C : σ → ε → Prop}
    (hstep : ∀ s e, P s → (C s e ↔ P (f s e))) {s : σ} (hs : P s) (es : List ε) :
    (∀ done, done <+: es → P (done.foldl f s)) ↔ Along (fun s e => some (f s e)) C s es := by
  rw [← forall_prefix_iff_along (I := P) (P := P) (C := C) (fun _ h => h) ?_ hs
    (run_total f s es)]
  · refine forall_congr' fun done => forall_congr' fun _ => ?_
    rw [run_total]
    simp
  · rintro s e s' hs hstep'
    obtain rfl : f s e = s' := by simpa using hstep'
    exact ⟨(hstep s e hs).mp, fun hC hP => hC ((hstep s e hs).mpr hP)⟩

/-- **Histories**: a relation between the events so far and the state that each step
preserves holds of each run. -/
theorem run_history {R : List ε → σ → Prop} {s : σ} (hs : R [] s)
    (hstep : ∀ es t e t', R es t → step t e = some t' → R (es ++ [e]) t') {es : List ε} {s' : σ}
    (hrun : run step s es = some s') : R es s' := by
  -- from the end, since the relation speaks of the events before the last one
  induction es using List.reverseRecOn generalizing s' with
  | nil =>
    obtain rfl : s = s' := by simpa using hrun
    exact hs
  | append_singleton es e ih =>
    obtain ⟨t, ht, he⟩ := (run_concat_eq_some step).mp hrun
    exact hstep es t e s' (ih ht) he

/-- **Refinement**: when an event that meets `C` can be performed whenever its interpretation `f`
can be on a related state of an abstract machine, so can a run of such events. -/
theorem exists_run_of_refinement {τ ζ : Type*} {step' : τ → ζ → Option τ} {f : ε → ζ}
    {R : σ → τ → Prop} {C : ε → Prop}
    (hstep : ∀ s t e t', R s t → C e → step' t (f e) = some t' →
      ∃ s', step s e = some s' ∧ R s' t')
    {s : σ} {t t' : τ} {es : List ε} (h : R s t) (hes : ∀ e ∈ es, C e)
    (hrun : run step' t (es.map f) = some t') : ∃ s', run step s es = some s' ∧ R s' t' := by
  induction es generalizing s t with
  | nil =>
    obtain rfl : t = t' := by simpa using hrun
    exact ⟨s, rfl, h⟩
  | cons e es ih =>
    obtain ⟨he, hes⟩ := List.forall_mem_cons.mp hes
    rw [List.map_cons, run_cons, Option.bind_eq_some_iff] at hrun
    obtain ⟨u, hu, hrun⟩ := hrun
    obtain ⟨v, hv, hR⟩ := hstep s t e u h he hu
    obtain ⟨s', hs', hR'⟩ := ih hR hes hrun
    exact ⟨s', by rw [run_cons, hv]; exact hs', hR'⟩

/-! ### Replies -/

/-- The replies to the events of a run, where each step replies. -/
def replies {σ ε ρ : Type*} (serve : σ → ε → ρ × σ) : σ → List ε → List ρ
  | _, [] => []
  | s, e :: es => (serve s e).1 :: replies serve (serve s e).2 es

/-- **Simulation**: machines whose steps from related states reply alike and keep the relation give
the same replies to all events that meet `C`. -/
theorem replies_eq_of_simulation {σ τ ε ρ : Type*} {f : σ → ε → ρ × σ} {g : τ → ε → ρ × τ}
    {R : σ → τ → Prop} {C : ε → Prop}
    (hstep : ∀ s t e, R s t → C e → (f s e).1 = (g t e).1 ∧ R (f s e).2 (g t e).2)
    {s : σ} {t : τ} (h : R s t) {es : List ε} (hes : ∀ e ∈ es, C e) :
    replies f s es = replies g t es := by
  induction es generalizing s t with
  | nil => rfl
  | cons e es ih =>
    obtain ⟨he, hes⟩ := List.forall_mem_cons.mp hes
    obtain ⟨hreply, hR⟩ := hstep s t e h he
    rw [replies, replies, hreply, ih hR hes]

end Machine
