import Mathlib.Logic.Function.Basic
import Mathlib.Data.Nat.Basic
import Mathlib.Tactic.SplitIfs

/-!
# Settings kept in two stores

A family of settings is kept in a persistent store and in memory. A call that changes a setting
first writes the persistent store and then, in a step of its own, updates the memory: it either
reads back what is persisted by then, or assigns the value it has written itself. Calls overlap,
so between the two steps of one call any number of steps of others can happen.

`Settles i` is the invariant: the memory agrees on setting `i`, or some call in progress is still
going to bring the persisted value. A call that reads back keeps it unconditionally; a call that
assigns its own value keeps it exactly when it is `Timely`, that is when its value is still the
persisted one or another call in progress is going to bring that. Once lost, it stays lost until
the setting is written again (`not_settles_step`).
-/

/-- The settings, and for each setting how many calls in progress are going to read it back
(`none`) or to assign a value of their own. -/
@[ext]
structure WriteThrough (ι α : Type*) where
  persisted : ι → α
  memory : ι → α
  pending : ι × Option α → ℕ

namespace WriteThrough

variable {ι α : Type*} {s s' : WriteThrough ι α}

/-- A call writes the persistent store; a call updates the memory. -/
inductive Event (ι α : Type*) where
  | write (i : ι) (value : α) (own : Bool)
  | update (i : ι) (value : Option α)

/-- What a call that has written `value` is going to do. -/
def intent (value : α) (own : Bool) : Option α := if own then some value else none

/-- Some call in progress is going to bring the persisted value of the setting. -/
def Brings (persisted : ι → α) (pending : ι × Option α → ℕ) (i : ι) : Prop :=
  0 < pending (i, none) ∨ 0 < pending (i, some (persisted i))

/-- The memory agrees on the setting, or some call in progress is going to bring its persisted
value. -/
def Settles (s : WriteThrough ι α) (i : ι) : Prop :=
  s.memory i = s.persisted i ∨ Brings s.persisted s.pending i

/-- Without a call in progress on the setting, a setting that settles agrees. -/
theorem Settles.agree {i : ι} (h : s.Settles i) (hidle : ∀ value, s.pending (i, value) = 0) :
    s.memory i = s.persisted i := by
  rcases h with h | h | h
  · exact h
  · exact absurd (hidle none) (Nat.ne_of_gt h)
  · exact absurd (hidle _) (Nat.ne_of_gt h)

/-- Whether a setting settles depends on what the state says of it only. -/
theorem settles_congr {j : ι} (hpersisted : s'.persisted j = s.persisted j)
    (hmemory : s'.memory j = s.memory j)
    (hpending : ∀ value, s'.pending (j, value) = s.pending (j, value)) :
    s'.Settles j ↔ s.Settles j := by
  simp only [Settles, Brings, hpersisted, hmemory, hpending]

variable [DecidableEq ι] [DecidableEq α]

/-- One step. An update needs a call in progress that is going to make it. -/
def step (s : WriteThrough ι α) : Event ι α → Option (WriteThrough ι α)
  | .write i value own =>
      some { s with
        persisted := Function.update s.persisted i value
        pending := Function.update s.pending (i, intent value own)
          (s.pending (i, intent value own) + 1) }
  | .update i value =>
      if 0 < s.pending (i, value) then
        some { s with
          memory := Function.update s.memory i (value.getD (s.persisted i))
          pending := Function.update s.pending (i, value) (s.pending (i, value) - 1) }
      else none

/-- An assignment of a value of its own is timely when the value is the persisted one, or some
other call in progress is going to bring that. -/
def Timely (s : WriteThrough ι α) : Event ι α → Prop
  | .update i (some value) =>
      value = s.persisted i ∨ Brings s.persisted
        (Function.update s.pending (i, some value) (s.pending (i, some value) - 1)) i
  | _ => True

/-- A write settles its setting: the call that made it is going to bring the value. -/
theorem settles_write {i : ι} {value : α} {own : Bool} (h : s.step (.write i value own) = some s') :
    s'.Settles i ∧ ∀ j ≠ i, (s'.Settles j ↔ s.Settles j) := by
  obtain rfl := Option.some.inj h
  refine ⟨.inr ?_, fun j hj => settles_congr ?_ rfl fun value => ?_⟩
  -- the call itself is counted now, under either of its intents
  · cases own
    · left
      simp [intent]
    · right
      simp [intent]
  · exact Function.update_of_ne hj _ _
  · exact Function.update_of_ne (by simp [hj]) _ _

/-- An update settles its setting exactly when it is timely. -/
theorem settles_update {i : ι} {value : Option α} (h : s.step (.update i value) = some s') :
    (s'.Settles i ↔ s.Timely (.update i value)) ∧ ∀ j ≠ i, (s'.Settles j ↔ s.Settles j) := by
  rw [step] at h
  split_ifs at h
  obtain rfl := Option.some.inj h
  refine ⟨?_, fun j hj => settles_congr rfl ?_ fun value => ?_⟩
  · cases value with
    | none => exact iff_of_true (.inl (by simp)) trivial
    | some value => simp only [Settles, Timely, Function.update_self, Option.getD_some]
  · exact Function.update_of_ne hj _ _
  · exact Function.update_of_ne (by simp [hj]) _ _

/-- **A step keeps what settles** when it is timely, and only then. -/
theorem settles_step {e : Event ι α} (h : s.step e = some s') (hs : ∀ i, s.Settles i) :
    (∀ i, s'.Settles i) ↔ s.Timely e := by
  cases e with
  | write i value own =>
    obtain ⟨hi, hother⟩ := settles_write h
    refine iff_of_true (fun j => ?_) trivial
    rcases eq_or_ne j i with rfl | hj
    · exact hi
    · exact (hother j hj).mpr (hs j)
  | update i value =>
    obtain ⟨hi, hother⟩ := settles_update h
    refine ⟨fun h => hi.mp (h i), fun htimely j => ?_⟩
    rcases eq_or_ne j i with rfl | hj
    · exact hi.mpr htimely
    · exact (hother j hj).mpr (hs j)

/-- A setting that does not settle has no call in progress that brings its value, so no update
of it is timely: it does not settle before it is written again. -/
theorem not_settles_step {e : Event ι α} {i : ι} (h : s.step e = some s') (hi : ¬s.Settles i)
    (he : ∀ value own, e ≠ .write i value own) : ¬s'.Settles i := by
  have hbrings : ¬Brings s.persisted s.pending i := fun hb => hi (.inr hb)
  cases e with
  | write j value own =>
    have hij : i ≠ j := fun hij => he value own (by rw [hij])
    exact fun hsettles => hi (((settles_write h).2 i hij).mp hsettles)
  | update j value =>
    rcases eq_or_ne i j with rfl | hij
    · have hpending : 0 < s.pending (i, value) := by
        rw [step] at h
        by_contra hzero
        rw [if_neg hzero] at h
        exact Option.some_ne_none _ h.symm
      rw [(settles_update h).1]
      -- by `hbrings` the updating call, which is in progress, brings another value, as do the rest
      cases value with
      | none => exact absurd (Or.inl hpending) hbrings
      | some value =>
        rintro (rfl | hother)
        · exact hbrings (.inr hpending)
        · refine hbrings (hother.imp (fun hnone => ?_) fun hsome => ?_)
          · rwa [Function.update_of_ne (by simp)] at hnone
          · rw [Function.update_apply] at hsome
            split_ifs at hsome with heq
            · rw [heq]
              exact hpending
            · exact hsome
    · exact fun hsettles => hi (((settles_update h).2 i hij).mp hsettles)

end WriteThrough
