import Mathlib.Data.List.Infix

/-!
# What has happened since

A machine in which each event is enabled, `f : σ → ε → σ`, and what has happened in a run of it
since the last of certain events: `OnceSince f P reset s es` says that after the run of `es` from
`s` an event has met `P`, in the state that it came to, and no `reset` has followed it.

* `onceSince_concat`: how it goes on with one more event;
* `iff_onceSince`: a property of states that each step sets for `P`, clears for `reset` and keeps
  otherwise is what has happened.
-/

namespace Machine

variable {σ ε : Type*} (f : σ → ε → σ) (P : σ → ε → Prop) (reset : ε → Prop)

/-- An event has met `P` since the last `reset`. -/
def OnceSince (s : σ) (es : List ε) : Prop :=
  ∃ done e rest, es = done ++ e :: rest ∧ P (done.foldl f s) e ∧ ∀ e' ∈ rest, ¬reset e'

variable {f P reset}

theorem not_onceSince_nil (s : σ) : ¬OnceSince f P reset s [] := by
  rintro ⟨done, e, rest, heq, -⟩
  simp at heq

/-- With one more event, it is that event, or one before that it does not reset. -/
theorem onceSince_concat {s : σ} {es : List ε} {e : ε} :
    OnceSince f P reset s (es ++ [e]) ↔
      P (es.foldl f s) e ∨ ¬reset e ∧ OnceSince f P reset s es := by
  constructor
  · rintro ⟨done, e', rest, heq, hP, hrest⟩
    rcases List.eq_nil_or_concat rest with rfl | ⟨rest, last, rfl⟩
    · obtain ⟨rfl, hlast⟩ := List.append_inj' heq rfl
      obtain rfl := List.singleton_inj.mp hlast
      exact .inl hP
    · rw [List.concat_eq_append] at heq hrest
      rw [← List.cons_append, ← List.append_assoc] at heq
      obtain ⟨rfl, hlast⟩ := List.append_inj' heq rfl
      obtain rfl := List.singleton_inj.mp hlast
      have hbefore : ∀ e'' ∈ rest, ¬reset e'' := fun e'' hmem => hrest e'' (by simp [hmem])
      exact .inr ⟨hrest e (by simp), done, e', rest, rfl, hP, hbefore⟩
  · rintro (hP | ⟨hreset, done, e', rest, rfl, hP, hrest⟩)
    · exact ⟨es, e, [], rfl, hP, by simp⟩
    · refine ⟨done, e', rest ++ [e], by simp, hP, fun last hlast => ?_⟩
      rcases List.mem_append.mp hlast with hmem | hmem
      · exact hrest last hmem
      · rwa [List.mem_singleton.mp hmem]

/-- **What a state remembers.** When each event that meets `C` sets `Q` if it meets `P`, clears it
if it is a `reset`, and keeps it otherwise, then `Q` says what has happened. -/
theorem iff_onceSince {I Q : σ → Prop} {C : ε → Prop}
    (hstep : ∀ s e, I s → C e → I (f s e) ∧ (Q (f s e) ↔ P s e ∨ ¬reset e ∧ Q s))
    {s : σ} (hI : I s) (hQ : ¬Q s) {es : List ε} (hC : ∀ e ∈ es, C e) :
    Q (es.foldl f s) ↔ OnceSince f P reset s es := by
  suffices I (es.foldl f s) ∧ (Q (es.foldl f s) ↔ OnceSince f P reset s es) from this.2
  induction es using List.reverseRecOn with
  | nil => exact ⟨hI, iff_of_false hQ (not_onceSince_nil s)⟩
  | append_singleton es e ih =>
    obtain ⟨hIes, hQes⟩ := ih fun e hmem => hC e (List.mem_append_left _ hmem)
    obtain ⟨hIe, hQe⟩ := hstep _ e hIes (hC e (by simp))
    rw [List.foldl_concat, hQe, onceSince_concat, hQes]
    exact ⟨hIe, Iff.rfl⟩

end Machine
