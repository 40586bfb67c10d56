import Mathlib.Data.List.Basic
import Mathlib.Tactic.SplitIfs

/-!
# A cached value

A client caches a value that is kept in a store. `write` says what the store holds of a value that
is written to it, and `read` what is read back of what the store holds; that need not be the value
that was written. Values are compared by an equivalence `r`.

The client changes the value either through the cache, so that each change is written at once, or
in the cache only; then `flush` writes the cached value at the end, unless that is what is read
back. `read_flush` says that both ways leave values that are read back as equivalent ones.
-/

/-- What the client caches and what the store holds. -/
structure CachedCell (α σ : Type*) where
  writeThrough : Bool
  cached : α
  stored : σ

namespace CachedCell

variable {α σ ε : Type*} (read : σ → α) (write : α → σ) (r : α → α → Prop)

/-- Change the value, if there is anything to change. -/
def assign (c : CachedCell α σ) (value : Option α) : CachedCell α σ :=
  match value with
  | none => c
  | some value =>
      { c with cached := value, stored := if c.writeThrough then write value else c.stored }

/-- Perform changes in order; what a change comes to depends on the cached value. -/
def run (change : ε → α → Option α) (c : CachedCell α σ) (changes : List ε) : CachedCell α σ :=
  changes.foldl (fun c e => c.assign write (change e c.cached)) c

/-- Write the cached value, unless that is what is read back. -/
def flush [DecidableRel r] (c : CachedCell α σ) : CachedCell α σ :=
  if r (read c.stored) c.cached then c else { c with stored := write c.cached }

/-- The cached value is what is read back, or what has been written. -/
def InStep (c : CachedCell α σ) : Prop :=
  r (read c.stored) c.cached ∨ c.stored = write c.cached

variable {read write r} {change : ε → α → Option α}

@[simp] theorem assign_none (c : CachedCell α σ) : c.assign write none = c := rfl

@[simp] theorem assign_some (c : CachedCell α σ) (value : α) :
    c.assign write (some value) = { c with
      cached := value
      stored := if c.writeThrough then write value else c.stored } := rfl

@[simp] theorem run_nil (c : CachedCell α σ) : c.run write change [] = c := rfl

@[simp] theorem run_cons (c : CachedCell α σ) (e : ε) (changes : List ε) :
    c.run write change (e :: changes) =
      (c.assign write (change e c.cached)).run write change changes := rfl

@[simp] theorem writeThrough_assign (c : CachedCell α σ) (value : Option α) :
    (c.assign write value).writeThrough = c.writeThrough := by cases value <;> rfl

@[simp] theorem writeThrough_run (c : CachedCell α σ) (changes : List ε) :
    (c.run write change changes).writeThrough = c.writeThrough := by
  induction changes generalizing c with
  | nil => rfl
  | cons e changes ih => rw [run_cons, ih, writeThrough_assign]

/-- **The two ways keep pace**: they cache the same values, and without write-through the store is
left alone. With it the store holds what was cached last, unless nothing has changed. -/
theorem run_writeThrough (write : α → σ) (change : ε → α → Option α) (a : α) (s : σ)
    (changes : List ε) :
    let through := run write change ⟨true, a, s⟩ changes
    let deferred := run write change ⟨false, a, s⟩ changes
    deferred.stored = s ∧ through.cached = deferred.cached ∧
      (through.stored = write through.cached ∨ through.stored = s ∧ through.cached = a) := by
  -- the store of the first way may already be ahead
  have hpace : ∀ (changes : List ε) (b : α) (t : σ), (t = write b ∨ t = s ∧ b = a) →
      let through := run write change ⟨true, b, t⟩ changes
      let deferred := run write change ⟨false, b, s⟩ changes
      deferred.stored = s ∧ through.cached = deferred.cached ∧
        (through.stored = write through.cached ∨ through.stored = s ∧ through.cached = a) := by
    intro changes
    induction changes with
    | nil => exact fun b t ht => ⟨rfl, rfl, ht⟩
    | cons e changes ih =>
      intro b t ht
      rw [run_cons, run_cons]
      cases hchange : change e b with
      | none => exact ih b t ht
      | some value => exact ih value (write value) (.inl rfl)
  exact hpace changes a s (.inr ⟨rfl, rfl⟩)

/-- A cell that is flushed reads back what is cached, if what is written does. -/
theorem read_stored_flush [DecidableRel r] {c : CachedCell α σ}
    (h : r (read (write c.cached)) c.cached) :
    r (read (c.flush read write r).stored) c.cached := by
  rw [flush]
  split_ifs with hsame
  · exact hsame
  · exact h

/-- **Writing through and writing at the end** leave the store with values that are read back as
equivalent ones, if writing a value equivalent to one that has been read back loses nothing. -/
theorem read_flush [DecidableRel r] (hr : Equivalence r)
    (hwrite : ∀ s a, r (read s) a → r (read (write a)) a) {a : α} {s : σ} {changes : List ε}
    {through deferred : CachedCell α σ} (h : InStep read write r ⟨false, a, s⟩)
    (hwritten : through = run write change ⟨true, a, s⟩ changes)
    (hflushed : deferred = (run write change ⟨false, a, s⟩ changes).flush read write r) :
    r (read through.stored) (read deferred.stored) := by
  obtain ⟨hstored, hcached, hthrough⟩ := run_writeThrough write change a s changes
  subst hwritten hflushed
  rw [flush, hstored, ← hcached]
  split_ifs with hsame
  · -- nothing is written at the end, as the store already reads back as the cached value
    rw [hstored]
    rcases hthrough with hwritten | ⟨hsame', -⟩
    · rw [hwritten]
      exact hr.trans (hwrite s _ hsame) (hr.symm hsame)
    · rw [hsame']
      exact hr.refl _
  · rcases hthrough with hwritten | ⟨hsame', hunchanged⟩
    · rw [hwritten]
      exact hr.refl _
    · -- nothing has changed, so the store holds what was written before
      rw [hunchanged] at hsame ⊢
      have hinit : s = write a := h.resolve_left hsame
      rw [hsame', hinit]
      exact hr.refl _

end CachedCell
