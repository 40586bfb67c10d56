import Mathlib.Data.List.Basic

/-!
# Memory of cells

A memory is a function from addresses to cells. `write` puts a list of cells at an address and
leaves the others as they are; `read` takes a number of cells from an address on.

Two writes of which the second begins where the first ends are one (`write_write`).
-/

namespace CellMemory

variable {α : Type*}

/-- The memory with the cells `cs` from the address `p` on. -/
def write (m : ℕ → α) (p : ℕ) (cs : List α) : ℕ → α := fun a =>
  if p ≤ a then cs.getD (a - p) (m a) else m a

/-- The `n` cells from the address `p` on. -/
def read (m : ℕ → α) (p n : ℕ) : List α := (List.range n).map fun i => m (p + i)

@[simp] theorem length_read (m : ℕ → α) (p n : ℕ) : (read m p n).length = n := by
  simp [read]

theorem getElem_read (m : ℕ → α) (p : ℕ) {n i : ℕ} (h : i < (read m p n).length) :
    (read m p n)[i] = m (p + i) := by
  simp [read]

/-- Nothing is written outside of the cells. -/
theorem write_frame (m : ℕ → α) {p a : ℕ} {cs : List α} (h : a < p ∨ p + cs.length ≤ a) :
    write m p cs a = m a := by
  rw [write]
  split_ifs with hp
  · rw [List.getD_eq_getElem?_getD, List.getElem?_eq_none (by omega), Option.getD_none]
  · rfl

/-- Inside, the memory has the cells. -/
theorem write_add (m : ℕ → α) (p : ℕ) {i : ℕ} {cs : List α} (h : i < cs.length) :
    write m p cs (p + i) = cs[i] := by
  rw [write, if_pos (Nat.le_add_right p i), Nat.add_sub_cancel_left, List.getD_eq_getElem?_getD,
    List.getElem?_eq_getElem h, Option.getD_some]

/-- Reading a part that begins with what has been written. -/
theorem read_write_of_le (m : ℕ → α) (p : ℕ) {n : ℕ} {cs : List α} (h : cs.length ≤ n) :
    read (write m p cs) p n = cs ++ (read m p n).drop cs.length := by
  refine List.ext_getElem ?_ fun i hi hi' => ?_
  · rw [length_read, List.length_append, List.length_drop, length_read]
    omega
  · rw [getElem_read, List.getElem_append]
    split_ifs with hcs
    · exact write_add m p hcs
    · rw [write_frame m (.inr (by omega)), List.getElem_drop, getElem_read]
      congr 2
      omega

/-- **What has been written is read back.** -/
theorem read_write (m : ℕ → α) (p : ℕ) (cs : List α) : read (write m p cs) p cs.length = cs := by
  rw [read_write_of_le m p (Nat.le_refl _), List.drop_of_length_le (by simp),
    List.append_nil]

/-- **Adjacent writes** are one. -/
theorem write_write (m : ℕ → α) (p : ℕ) (as bs : List α) :
    write (write m p as) (p + as.length) bs = write m p (as ++ bs) := by
  funext a
  by_cases hfront : a < p
  · rw [write_frame _ (.inl (by omega)), write_frame _ (.inl hfront), write_frame _ (.inl hfront)]
  obtain ⟨i, rfl⟩ := Nat.exists_eq_add_of_le (Nat.not_lt.mp hfront)
  by_cases has : i < as.length
  · rw [write_frame _ (.inl (by omega)), write_add m p has,
      write_add m p (by rw [List.length_append]; omega), List.getElem_append_left has]
  obtain ⟨j, rfl⟩ := Nat.exists_eq_add_of_le (Nat.not_lt.mp has)
  by_cases hbs : j < bs.length
  · rw [← Nat.add_assoc, write_add _ _ hbs, Nat.add_assoc,
      write_add m p (by rw [List.length_append]; omega), List.getElem_append_right (by omega)]
    simp
  · rw [write_frame _ (.inr (by omega)), write_frame _ (.inr (by omega)),
      write_frame _ (.inr (by rw [List.length_append]; omega))]

end CellMemory
