import Mathlib.Data.Finset.Basic
import HidHide.ForMathlib.Machine

/-!
# Calls on handles

A function that acquires handles and releases them makes calls on a set of handles.
`HandleCall.perform` is the machine of that set: a handle that is held is not given out again, and
one that is not held cannot be released. That the calls can be run therefore says more than the set
at the end: no handle is released twice.

* `count_of_run`: what has been acquired is released or still held;
* `run_self_iff`: the set is as before exactly when each handle is released as often as it is
  acquired.
-/

/-- A call on a handle. -/
inductive HandleCall (η : Type*) where
  | acquire (handle : η)
  | release (handle : η)
  deriving DecidableEq

namespace HandleCall

variable {η : Type*} [DecidableEq η]

/-- What a call does to the handles that are held. -/
def perform (handles : Finset η) : HandleCall η → Option (Finset η)
  | .acquire handle => if handle ∈ handles then none else some (insert handle handles)
  | .release handle => if handle ∈ handles then some (handles.erase handle) else none

/-- Whether the handle is held, as a number. -/
def held (handles : Finset η) (handle : η) : ℕ := if handle ∈ handles then 1 else 0

theorem held_injective {handles handles' : Finset η} (h : held handles' = held handles) :
    handles' = handles := by
  ext handle
  have hsame := congrFun h handle
  rw [held, held] at hsame
  by_cases hmem : handle ∈ handles
  · exact iff_of_true (by simpa [hmem] using hsame) hmem
  · exact iff_of_false (by simpa [hmem] using hsame) hmem

theorem held_of_perform_acquire {handles handles' : Finset η} {handle : η}
    (h : perform handles (.acquire handle) = some handles') (other : η) :
    held handles' other = held handles other + if handle = other then 1 else 0 := by
  rw [perform] at h
  split_ifs at h with hmem
  obtain rfl := Option.some.inj h
  rcases eq_or_ne handle other with rfl | hne
  · simp [held, hmem]
  · simp [held, hne, hne.symm]

theorem held_of_perform_release {handles handles' : Finset η} {handle : η}
    (h : perform handles (.release handle) = some handles') (other : η) :
    held handles' other + (if handle = other then 1 else 0) = held handles other := by
  rw [perform] at h
  split_ifs at h with hmem
  obtain rfl := Option.some.inj h
  rcases eq_or_ne handle other with rfl | hne
  · simp [held, hmem]
  · simp [held, hne, hne.symm]

/-- **The balance of a handle**: what is acquired is released or still held. -/
theorem count_of_run {handles handles' : Finset η} {calls : List (HandleCall η)}
    (h : Machine.run perform handles calls = some handles') (handle : η) :
    held handles handle + calls.count (.acquire handle) =
      held handles' handle + calls.count (.release handle) := by
  induction calls generalizing handles with
  | nil =>
    obtain rfl := Option.some.inj h
    simp
  | cons call calls ih =>
    rw [Machine.run_cons, Option.bind_eq_some_iff] at h
    obtain ⟨between, hcall, h⟩ := h
    have hrest := ih h
    cases call with
    | acquire acquired =>
      have hheld := held_of_perform_acquire hcall handle
      simp only [List.count_cons, beq_iff_eq, HandleCall.acquire.injEq, reduceCtorEq, if_false]
      omega
    | release released =>
      have hheld := held_of_perform_release hcall handle
      simp only [List.count_cons, beq_iff_eq, HandleCall.release.injEq, reduceCtorEq, if_false]
      omega

/-- **The set is as before** exactly when each handle is released as often as it is acquired. -/
theorem run_self_iff {handles handles' : Finset η} {calls : List (HandleCall η)}
    (h : Machine.run perform handles calls = some handles') :
    handles' = handles ↔
      ∀ handle, calls.count (.release handle) = calls.count (.acquire handle) := by
  constructor
  · rintro rfl handle
    exact (Nat.add_left_cancel (count_of_run h handle)).symm
  · intro hcount
    refine held_injective (funext fun handle => ?_)
    have hbalance := count_of_run h handle
    rw [hcount handle] at hbalance
    exact (Nat.add_right_cancel hbalance).symm

end HandleCall
