import HidHide.ForMathlib.Machine

/-!
# A reader of a machine

A reader looks at the state of a machine piece by piece, while the machine goes on: the steps of the
two come in any order. What the reader finds need never hold in one state. But of two booleans of
which each step of the machine changes at most one, if one is read earlier and the other later, then
some state in between has them compare as they were read (`sometime_xor`).
-/

namespace Machine

variable {σ π ε : Type*} (step : σ → ε → Option σ) (read : σ → π → Option (σ × π))

/-- Some state of the run has the property. -/
def Sometime (P : σ → Prop) (s : σ) (es : List ε) : Prop :=
  ∃ done, done <+: es ∧ ∃ t, run step s done = some t ∧ P t

/-- The machine takes a step, or the reader does. -/
def readerStep (x : σ × π) : Option ε → Option (σ × π)
  | some e => (step x.1 e).map (·, x.2)
  | none => read x.1 x.2

variable {step read} {P Q : σ → Prop} {s t : σ} {es : List ε}

theorem Sometime.here (h : P s) : Sometime step P s es := ⟨[], List.nil_prefix, s, rfl, h⟩

theorem Sometime.last (hrun : run step s es = some t) (h : P t) : Sometime step P s es :=
  ⟨es, List.prefix_refl es, t, hrun, h⟩

theorem Sometime.mono (hPQ : ∀ t, P t → Q t) : Sometime step P s es → Sometime step Q s es := by
  rintro ⟨done, hdone, t, ht, hP⟩
  exact ⟨done, hdone, t, ht, hPQ t hP⟩

theorem Sometime.append {es' : List ε} : Sometime step P s es → Sometime step P s (es ++ es') := by
  rintro ⟨done, hdone, t, ht, hP⟩
  exact ⟨done, hdone.trans (List.prefix_append es es'), t, ht, hP⟩

/-- A state of a run that goes on is a state of the whole run. -/
theorem Sometime.after {es' : List ε} (hrun : run step s es = some t) :
    Sometime step P t es' → Sometime step P s (es ++ es') := by
  rintro ⟨done, ⟨rest, rfl⟩, u, hu, hP⟩
  refine ⟨es ++ done, ⟨rest, by rw [List.append_assoc]⟩, u, ?_, hP⟩
  rw [run_append, hrun]
  exact hu

/-- **What is read at two moments holds at one**: if no step changes both `x` and `y`, some state of
the run has them compare as the first `x` and the last `y` do. -/
theorem sometime_xor {x y : σ → Bool} {I : σ → Prop}
    (hone : ∀ s e t, I s → step s e = some t → x t = x s ∨ y t = y s)
    (hI : ∀ s e t, I s → step s e = some t → I t) (hs : I s) (hrun : run step s es = some t) :
    Sometime step (fun u => (x u ^^ y u) = (x s ^^ y t)) s es := by
  induction es using List.reverseRecOn generalizing t with
  | nil =>
    obtain rfl := Option.some.inj hrun
    exact .here rfl
  | append_singleton es e ih =>
    obtain ⟨u, hu, hlast⟩ := (run_concat_eq_some step).mp hrun
    have hIu : I u := run_invariant hI hs hu
    by_cases hy : y t = y u
    · rw [hy]
      exact (ih hu).append
    · have hx : x t = x u := (hone u e t hIu hlast).resolve_right hy
      by_cases hxs : x t = x s
      · refine .last hrun ?_
        rw [hxs]
      · -- `x` was already another one, and `y` is only now
        refine (Sometime.last hu ?_).append
        rw [← hx, Bool.eq_not_of_ne hxs, Bool.eq_not_of_ne hy]
        simp

/-- The reader takes a step only after some of the machine. -/
theorem run_until_read {x y : σ × π} {es : List (Option ε)}
    (hrun : run (readerStep step read) x es = some y) (hne : y.2 ≠ x.2) :
    ∃ before after s z, es = before.map some ++ none :: after ∧ run step x.1 before = some s ∧
      read s x.2 = some z ∧ run (readerStep step read) z after = some y := by
  induction es generalizing x with
  | nil =>
    obtain rfl := Option.some.inj hrun
    exact absurd rfl hne
  | cons e es ih =>
    obtain ⟨x', hx', hrest⟩ := Option.bind_eq_some_iff.mp hrun
    cases e with
    | none => exact ⟨[], es, x.1, x', rfl, rfl, hx', hrest⟩
    | some e =>
      obtain ⟨t, ht, rfl⟩ := Option.map_eq_some_iff.mp hx'
      obtain ⟨before, after, s, z, rfl, hbefore, hread, hafter⟩ := ih hrest hne
      refine ⟨e :: before, after, s, z, rfl, ?_, hread, hafter⟩
      rw [run_cons, ht]
      exact hbefore

section Stage

variable {x z : σ × π} {before : List ε} {after : List (Option ε)}

/-- The machine goes on alone. -/
theorem run_map_some (hbefore : run step x.1 before = some s) :
    run (readerStep step read) x (before.map some) = some (s, x.2) := by
  induction before generalizing x with
  | nil =>
    obtain rfl := Option.some.inj hbefore
    rfl
  | cons e before ih =>
    obtain ⟨t, ht, hrest⟩ := Option.bind_eq_some_iff.mp hbefore
    rw [List.map_cons, run_cons, readerStep, ht]
    exact @ih (t, x.2) hrest

/-- A state of the machine before the reader takes its step. -/
theorem Sometime.map_some {Q : σ × π → Prop}
    (h : Sometime step (fun t => Q (t, x.2)) x.1 before) :
    Sometime (readerStep step read) Q x (before.map some ++ after) := by
  obtain ⟨done, hdone, t, ht, hQ⟩ := h
  exact ⟨done.map some, (hdone.map some).trans (List.prefix_append _ after), (t, x.2),
    run_map_some ht, hQ⟩

/-- A state after the reader has taken its step. -/
theorem Sometime.of_read {Q : σ × π → Prop} (hbefore : run step x.1 before = some s)
    (hread : read s x.2 = some z) (h : Sometime (readerStep step read) Q z after) :
    Sometime (readerStep step read) Q x (before.map some ++ none :: after) := by
  refine .after (run_map_some hbefore) ?_
  have hstep : run (readerStep step read) (s, x.2) [none] = some z := by
    rw [run_cons, readerStep, hread]
    rfl
  exact .after hstep h

/-- What is met along the run is met by the machine, by the step of the reader, and along what
follows. -/
theorem along_until_read {C : σ × π → Option ε → Prop} (hbefore : run step x.1 before = some s)
    (hread : read s x.2 = some z)
    (h : Along (readerStep step read) C x (before.map some ++ none :: after)) :
    Along step (fun t e => C (t, x.2) (some e)) x.1 before ∧ C (s, x.2) none ∧
      Along (readerStep step read) C z after := by
  induction before generalizing x with
  | nil =>
    obtain rfl := Option.some.inj hbefore
    exact ⟨trivial, h.1, h.2 z hread⟩
  | cons e before ih =>
    obtain ⟨t, ht, hrest⟩ := Option.bind_eq_some_iff.mp hbefore
    have hnext : readerStep step read x (some e) = some (t, x.2) := by
      rw [readerStep, ht]
      rfl
    obtain ⟨hbefore', hread', hafter⟩ := @ih (t, x.2) hrest hread (h.2 _ hnext)
    refine ⟨⟨h.1, fun t' ht' => ?_⟩, hread', hafter⟩
    obtain rfl : t = t' := Option.some.inj (ht.symm.trans ht')
    exact hbefore'

end Stage

end Machine
