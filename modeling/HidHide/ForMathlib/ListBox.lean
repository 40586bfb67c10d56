import Mathlib.Data.List.Nodup
import Mathlib.Data.List.Perm.Basic

/-!
# List boxes

A list box holds entries, and several of them may be selected. It may sort them, so that an entry
is added at a position of its own choice and those behind it move; an entry is selected and deleted
by its index.

An entry that is selected where it has been added is one more entry with a selection of its own,
wherever that is (`setSel_addString_perm`). Deleting the selected entries one by one, from the last
to the first, leaves those that are not selected (`deleteSelected_eq`).
-/

/-- Entries, each with whether it is selected. -/
abbrev ListBox (α : Type*) := List (α × Bool)

namespace ListBox

variable {α : Type*}

/-- Add an entry at a position or at the end, and the index where it is. -/
def addString (position : ℕ) (a : α) (l : ListBox α) : ListBox α × ℕ :=
  (l.insertIdx (min position l.length) (a, false), min position l.length)

/-- Select an entry, or take it from the selection. -/
def setSel (index : ℕ) (selected : Bool) (l : ListBox α) : ListBox α :=
  l.modify index fun x => (x.1, selected)

/-- Clear the selection. -/
def clearSel (l : ListBox α) : ListBox α := l.map fun x => (x.1, false)

/-- The indices of the selected entries, in ascending order. -/
def selItems : ListBox α → List ℕ
  | [] => []
  | x :: l => (if x.2 then [0] else []) ++ (selItems l).map (· + 1)

/-- Delete the entry at an index, if there is one. -/
def deleteString (l : ListBox α) (index : ℕ) : Option (ListBox α) :=
  if index < l.length then some (l.eraseIdx index) else none

/-- Delete the selected entries, from the last to the first. -/
def deleteSelected (l : ListBox α) : Option (ListBox α) :=
  (selItems l).reverse.foldlM deleteString l

/-- The entries, in order. -/
def texts (l : ListBox α) : List α := l.map Prod.fst

/-! ### Adding -/

theorem addString_perm (position : ℕ) (a : α) (l : ListBox α) :
    (l.addString position a).1.Perm ((a, false) :: l) :=
  List.perm_insertIdx _ _ (Nat.min_le_right ..)

/-- To change an entry where it has been inserted is to insert the changed one. -/
theorem modify_insertIdx {β : Type*} (f : β → β) (b : β) {l : List β} {i : ℕ}
    (h : i ≤ l.length) : (l.insertIdx i b).modify i f = l.insertIdx i (f b) := by
  induction l generalizing i with
  | nil =>
    obtain rfl : i = 0 := by simpa using h
    rfl
  | cons c l ih =>
    cases i with
    | zero => rfl
    | succ i =>
      rw [List.insertIdx_succ_cons, List.insertIdx_succ_cons, List.modify_succ_cons,
        ih (by simpa using h)]

theorem setSel_addString_perm (position : ℕ) (a : α) (selected : Bool) (l : ListBox α) :
    (setSel (l.addString position a).2 selected (l.addString position a).1).Perm
      ((a, selected) :: l) := by
  dsimp only [setSel, addString]
  rw [modify_insertIdx _ _ (Nat.min_le_right ..)]
  exact List.perm_insertIdx _ _ (Nat.min_le_right ..)

@[simp] theorem texts_clearSel (l : ListBox α) : l.clearSel.texts = l.texts := by
  simp [texts, clearSel, Function.comp_def]

@[simp] theorem texts_setSel (index : ℕ) (selected : Bool) (l : ListBox α) :
    (l.setSel index selected).texts = l.texts := by
  induction l generalizing index with
  | nil => cases index <;> rfl
  | cons x l ih =>
    cases index with
    | zero => rfl
    | succ index => exact congrArg (x.1 :: ·) (ih index)

/-! ### Deleting -/

/-- Deleting behind the first entry. -/
theorem foldlM_deleteString_cons (x : α × Bool) (l : ListBox α) (indices : List ℕ) :
    (indices.map (· + 1)).foldlM deleteString (x :: l) =
      (indices.foldlM deleteString l).map (x :: ·) := by
  induction indices generalizing l with
  | nil => rfl
  | cons i indices ih =>
    have hone : deleteString (x :: l) (i + 1) = (deleteString l i).map (x :: ·) := by
      rw [deleteString, deleteString]
      by_cases hi : i < l.length
      · rw [if_pos (by simpa using hi), if_pos hi]
        rfl
      · rw [if_neg (by simpa using hi), if_neg hi]
        rfl
    rw [List.map_cons, List.foldlM_cons, List.foldlM_cons, hone]
    cases deleteString l i with
    | none => rfl
    | some l' => exact ih l'

/-- **Deleting the selection** leaves the entries that are not selected. -/
theorem deleteSelected_eq (l : ListBox α) : l.deleteSelected = some (l.filter fun x => !x.2) := by
  induction l with
  | nil => rfl
  | cons x l ih =>
    rw [deleteSelected] at ih ⊢
    rw [selItems, List.reverse_append, ← List.map_reverse, List.foldlM_append,
      foldlM_deleteString_cons, ih]
    cases hx : x.2 with
    | true => simp [hx, deleteString]
    | false => simp [hx]

/-- The texts that are left are those that are not selected, if no text is there twice. -/
theorem texts_filter_not_selected {l : ListBox α} (h : l.texts.Nodup) {p : α → Bool}
    (hp : ∀ a, p a ↔ (a, true) ∉ l) : texts (l.filter fun x => !x.2) = l.texts.filter p := by
  have hselected : ∀ x ∈ l, (!x.2) = p x.1 := by
    rintro ⟨a, selected⟩ hx
    rw [Bool.eq_iff_iff, hp]
    cases selected with
    | true => simpa using hx
    | false =>
      -- the other entry would have the same text
      refine iff_of_true rfl fun htrue => ?_
      exact absurd (List.inj_on_of_nodup_map h htrue hx rfl) (by simp)
  rw [texts, texts, List.filter_map, List.filter_congr hselected]
  rfl

end ListBox
