import Mathlib.Data.Finset.Card
import Mathlib.Data.Set.Card
import Mathlib.Order.Basic

/-!
# Binary search trees over a key, with deletion by regrafting

`SearchTree α` is the type of binary trees with a value of type `α` at each node; a function
`key : α → κ` into a linear order says where a value belongs. The order invariant
`Ordered key` bounds both subtrees of each node by its key, and is the same as the in-order
list being strictly increasing (`ordered_iff_pairwise`).

Deletion is by **regrafting**: the left subtree of the deleted node is hung below the
leftmost node of its right subtree, and the right subtree moves up. No key is copied, so the
in-order list of what remains is the old one with one element left out
(`toList_graft`, `toList_erase_perm`).

An ordered tree is a finite map from keys to values: `find` is the map, and `find_insert`
and `find_erase` say that the two updates are the pointwise updates of it.
-/

/-- Binary trees with a value at each node. -/
inductive SearchTree (α : Type*) where
  /-- The empty tree. -/
  | nil : SearchTree α
  /-- A value with a left and a right subtree. -/
  | node (value : α) (left right : SearchTree α) : SearchTree α
  deriving DecidableEq, Repr

namespace SearchTree

variable {α β κ : Type*}

/-- The values of a tree, in order. -/
def toList : SearchTree α → List α
  | nil => []
  | node a l r => l.toList ++ a :: r.toList

/-- Apply a function to each value, keeping the shape. -/
def map (f : α → β) : SearchTree α → SearchTree β
  | nil => nil
  | node a l r => node (f a) (l.map f) (r.map f)

/-- Hang `l` below the leftmost node of a tree. -/
def graft (l : SearchTree α) : SearchTree α → SearchTree α
  | nil => l
  | node a left right => node a (graft l left) right

@[simp] theorem toList_nil : (nil : SearchTree α).toList = [] := rfl

@[simp] theorem toList_node (a : α) (l r : SearchTree α) :
    (node a l r).toList = l.toList ++ a :: r.toList := rfl

@[simp] theorem toList_map (f : α → β) (t : SearchTree α) :
    (t.map f).toList = t.toList.map f := by
  induction t with
  | nil => rfl
  | node a l r ihl ihr => simp [map, ihl, ihr]

/-- Grafting puts the grafted values first. -/
@[simp] theorem toList_graft (l t : SearchTree α) :
    (graft l t).toList = l.toList ++ t.toList := by
  induction t with
  | nil => simp [graft]
  | node a left right ihl _ => simp [graft, ihl]

/-! ### The order invariant -/

section Ordered

variable [LinearOrder κ] (key : α → κ)

/-- Each node's key bounds its left subtree from above and its right subtree from below. -/
def Ordered : SearchTree α → Prop
  | nil => True
  | node a l r =>
      (∀ b ∈ l.toList, key b < key a) ∧ (∀ b ∈ r.toList, key a < key b) ∧
        l.Ordered ∧ r.Ordered

/-- **The order invariant, on the in-order list**: it is strictly increasing. -/
theorem ordered_iff_pairwise (t : SearchTree α) :
    t.Ordered key ↔ t.toList.Pairwise (key · < key ·) := by
  induction t with
  | nil => simp [Ordered]
  | node a l r ihl ihr =>
    simp only [Ordered, toList_node, List.pairwise_append, List.pairwise_cons, ihl, ihr,
      List.mem_cons]
    constructor
    · rintro ⟨hl, hr, hol, hor⟩
      refine ⟨hol, ⟨hr, hor⟩, ?_⟩
      rintro b hb c (rfl | hc)
      · exact hl b hb
      · exact (hl b hb).trans (hr c hc)
    · rintro ⟨hol, ⟨hr, hor⟩, hlt⟩
      exact ⟨fun b hb => hlt b hb a (Or.inl rfl), hr, hol, hor⟩

variable {key} in
/-- In an ordered tree no key occurs twice. -/
theorem Ordered.nodup_keys {t : SearchTree α} (h : t.Ordered key) :
    (t.toList.map key).Nodup := by
  rw [List.nodup_iff_pairwise_ne, List.pairwise_map]
  exact ((ordered_iff_pairwise key t).mp h).imp fun hlt => hlt.ne

/-! ### The map of an ordered tree -/

/-- Look a key up. -/
def find (k : κ) : SearchTree α → Option α
  | nil => none
  | node a l r => if key a < k then r.find k else if k < key a then l.find k else some a

/-- Insert a value; a value whose key is present leaves the tree as it is. -/
def insert (b : α) : SearchTree α → SearchTree α
  | nil => node b nil nil
  | node a l r =>
      if key b < key a then node a (l.insert b) r
      else if key a < key b then node a l (r.insert b)
      else node a l r

/-- Delete a key, regrafting the subtrees of its node. -/
def erase (k : κ) : SearchTree α → SearchTree α
  | nil => nil
  | node a l r =>
      if k < key a then node a (l.erase k) r
      else if key a < k then node a l (r.erase k)
      else graft l r

variable {key}

theorem mem_of_find_eq_some {t : SearchTree α} {k : κ} {a : α} (h : t.find key k = some a) :
    a ∈ t.toList ∧ key a = k := by
  induction t with
  | nil => simp [find] at h
  | node b l r ihl ihr =>
    rw [find] at h
    split_ifs at h with hlt hgt
    · exact ⟨by simp [(ihr h).1], (ihr h).2⟩
    · exact ⟨by simp [(ihl h).1], (ihl h).2⟩
    · obtain rfl : b = a := by simpa using h
      exact ⟨by simp, le_antisymm (not_lt.mp hgt) (not_lt.mp hlt)⟩

/-- **Lookup is exact**: it returns the value of the tree with the wanted key, if any. -/
theorem Ordered.find_eq_some_iff {t : SearchTree α} (h : t.Ordered key) {k : κ} {a : α} :
    t.find key k = some a ↔ a ∈ t.toList ∧ key a = k := by
  refine ⟨mem_of_find_eq_some, ?_⟩
  rintro ⟨ha, rfl⟩
  induction t with
  | nil => simp at ha
  | node b l r ihl ihr =>
    obtain ⟨hl, hr, hol, hor⟩ := h
    simp only [toList_node, List.mem_append, List.mem_cons] at ha
    -- the invariant at `b` sends the lookup to the subtree that holds `a`
    rcases ha with ha | rfl | ha
    · rw [find, if_neg (hl a ha).le.not_gt, if_pos (hl a ha)]
      exact ihl hol ha
    · simp [find]
    · rw [find, if_pos (hr a ha)]
      exact ihr hor ha

theorem Ordered.find_eq_none_iff {t : SearchTree α} (h : t.Ordered key) {k : κ} :
    t.find key k = none ↔ ∀ a ∈ t.toList, key a ≠ k := by
  rw [Option.eq_none_iff_forall_ne_some]
  exact forall_congr' fun a => by rw [ne_eq, h.find_eq_some_iff, not_and]

/-- Two ordered trees with the same values are the same map. -/
theorem Ordered.find_congr {t u : SearchTree α} (ht : t.Ordered key) (hu : u.Ordered key) {k : κ}
    (h : ∀ a, key a = k → (a ∈ t.toList ↔ a ∈ u.toList)) : t.find key k = u.find key k :=
  Option.ext fun a => by
    rw [ht.find_eq_some_iff, hu.find_eq_some_iff]
    exact and_congr_left (h a)

/-! ### Insertion -/

/-- Inserting a new key adds its value, and nothing else, to the in-order list. -/
theorem toList_insert_perm {t : SearchTree α} {b : α} (hb : t.find key (key b) = none) :
    (t.insert key b).toList.Perm (b :: t.toList) := by
  induction t with
  | nil => rfl
  | node a l r ihl ihr =>
    rw [find] at hb
    rw [insert]
    split_ifs at hb ⊢ with hlt hgt
    · exact absurd hlt hgt.not_gt
    · exact (ihl hb).append_right (a :: r.toList)
    · -- the new value moves past the left subtree and the node
      have hmid : (l.toList ++ [a] ++ b :: r.toList).Perm (b :: (l.toList ++ [a] ++ r.toList)) :=
        List.perm_middle
      exact (((ihr hb).cons a).append_left l.toList).trans (by simpa using hmid)

/-- Inserting a present key changes nothing. -/
theorem insert_of_find_ne_none {t : SearchTree α} {b : α} (hb : t.find key (key b) ≠ none) :
    t.insert key b = t := by
  induction t with
  | nil => simp [find] at hb
  | node a l r ihl ihr =>
    rw [find] at hb
    rw [insert]
    split_ifs at hb ⊢ with hlt hgt
    · exact absurd hlt hgt.not_gt
    · rw [ihl hb]
    · rw [ihr hb]
    · rfl

theorem mem_toList_insert {t : SearchTree α} {a b : α} (h : a ∈ (t.insert key b).toList) :
    a = b ∨ a ∈ t.toList := by
  by_cases hb : t.find key (key b) = none
  · simpa using (toList_insert_perm hb).mem_iff.mp h
  · rw [insert_of_find_ne_none hb] at h
    exact Or.inr h

/-- Insertion keeps the order invariant. -/
theorem Ordered.insert {t : SearchTree α} (h : t.Ordered key) (b : α) :
    (t.insert key b).Ordered key := by
  induction t with
  | nil => simp [SearchTree.insert, Ordered]
  | node a l r ihl ihr =>
    obtain ⟨hl, hr, hol, hor⟩ := h
    rw [SearchTree.insert]
    split_ifs with hlt hgt
    · refine ⟨fun c hc => ?_, hr, ihl hol, hor⟩
      rcases mem_toList_insert hc with rfl | hc
      · exact hlt
      · exact hl c hc
    · refine ⟨hl, fun c hc => ?_, hol, ihr hor⟩
      rcases mem_toList_insert hc with rfl | hc
      · exact hgt
      · exact hr c hc
    · exact ⟨hl, hr, hol, hor⟩

/-- **Insertion updates the map** at the new key. -/
theorem Ordered.find_insert {t : SearchTree α} (h : t.Ordered key) {b : α}
    (hb : t.find key (key b) = none) (k : κ) :
    (t.insert key b).find key k = if k = key b then some b else t.find key k := by
  have hmem : ∀ a, a ∈ (t.insert key b).toList ↔ a = b ∨ a ∈ t.toList := fun a => by
    simpa using (toList_insert_perm hb).mem_iff (a := a)
  split_ifs with hk
  · rw [(h.insert b).find_eq_some_iff, hmem]
    exact ⟨Or.inl rfl, hk.symm⟩
  · refine (h.insert b).find_congr h fun a ha => ?_
    rw [hmem, or_iff_right]
    rintro rfl
    exact hk ha.symm

/-! ### Deletion -/

/-- Deleting a present key takes its value, and nothing else, out of the in-order list. -/
theorem toList_erase_perm {t : SearchTree α} {k : κ} {b : α} (hb : t.find key k = some b) :
    t.toList.Perm (b :: (t.erase key k).toList) := by
  induction t with
  | nil => simp [find] at hb
  | node a l r ihl ihr =>
    rw [find] at hb
    rw [erase]
    split_ifs at hb ⊢ with hlt hgt
    · exact absurd hlt hgt.not_gt
    · exact (ihl hb).append_right (a :: r.toList)
    · have hmid : (l.toList ++ [a] ++ b :: (r.erase key k).toList).Perm
          (b :: (l.toList ++ [a] ++ (r.erase key k).toList)) := List.perm_middle
      exact (((ihr hb).cons a).append_left l.toList).trans (by simpa using hmid)
    · -- the deleted node stands between the two subtrees that are grafted
      obtain rfl : a = b := by simpa using hb
      rw [toList_graft, toList_node]
      exact List.perm_middle

/-- Deleting an absent key changes nothing. -/
theorem erase_of_find_eq_none {t : SearchTree α} {k : κ} (hk : t.find key k = none) :
    t.erase key k = t := by
  induction t with
  | nil => rfl
  | node a l r ihl ihr =>
    rw [find] at hk
    rw [erase]
    split_ifs at hk ⊢ with hlt hgt
    · exact absurd hlt hgt.not_gt
    · rw [ihl hk]
    · rw [ihr hk]

/-- The in-order list after a deletion is a sublist of the one before. -/
theorem toList_erase_sublist (t : SearchTree α) (k : κ) :
    (t.erase key k).toList.Sublist t.toList := by
  induction t with
  | nil => rfl
  | node a l r ihl ihr =>
    rw [erase]
    split_ifs with hlt hgt
    · exact ihl.append_right _
    · exact (ihr.cons_cons a).append_left _
    · rw [toList_graft, toList_node]
      exact (List.sublist_cons_self a r.toList).append_left l.toList

/-- Deletion keeps the order invariant. -/
theorem Ordered.erase {t : SearchTree α} (h : t.Ordered key) (k : κ) :
    (t.erase key k).Ordered key :=
  (ordered_iff_pairwise key _).mpr
    (((ordered_iff_pairwise key t).mp h).sublist (toList_erase_sublist t k))

/-- **Deletion updates the map** at the deleted key. -/
theorem Ordered.find_erase {t : SearchTree α} (h : t.Ordered key) (k k' : κ) :
    (t.erase key k).find key k' = if k' = k then none else t.find key k' := by
  rcases hb : t.find key k with _ | b
  · rw [erase_of_find_eq_none hb]
    split_ifs with hk
    · rw [hk, hb]
    · rfl
  · have hmem : ∀ a, a ∈ t.toList ↔ a = b ∨ a ∈ (t.erase key k).toList := fun a => by
      simpa using (toList_erase_perm hb).mem_iff (a := a)
    have hkb : key b = k := (mem_of_find_eq_some hb).2
    -- no key occurs twice before the deletion, so none of those left is `k`
    have hnodup := (((toList_erase_perm hb).map key).nodup_iff.mp h.nodup_keys)
    rw [List.map_cons, List.nodup_cons] at hnodup
    split_ifs with hk
    · rw [(h.erase k).find_eq_none_iff]
      intro a ha hak
      refine hnodup.1 (List.mem_map.mpr ⟨a, ha, ?_⟩)
      rw [hak, hkb, hk]
    · refine (h.erase k).find_congr h fun a ha => ?_
      rw [hmem, or_iff_right]
      rintro rfl
      exact hk (ha.symm.trans hkb)

/-! ### Relabelling and counting -/

/-- A relabelling that keeps the keys keeps the order invariant. -/
theorem Ordered.map {t : SearchTree α} (h : t.Ordered key) {f : α → α}
    (hf : ∀ a, key (f a) = key a) : (t.map f).Ordered key := by
  rw [ordered_iff_pairwise, toList_map, List.pairwise_map]
  simpa only [hf] using (ordered_iff_pairwise key t).mp h

/-- Lookup after a relabelling that keeps the keys. -/
theorem find_map (t : SearchTree α) {f : α → α} (hf : ∀ a, key (f a) = key a) (k : κ) :
    (t.map f).find key k = (t.find key k).map f := by
  induction t with
  | nil => rfl
  | node a l r ihl ihr =>
    simp only [SearchTree.map, find, hf, ihl, ihr]
    split_ifs <;> rfl

/-- **Counting**: the nodes of an ordered tree are as many as the keys of its map. -/
theorem Ordered.length_toList {t : SearchTree α} (h : t.Ordered key) :
    t.toList.length = {k | (t.find key k).isSome}.ncard := by
  classical
  have hset : {k | (t.find key k).isSome} = ((t.toList.map key).toFinset : Set κ) := by
    ext k
    simp only [Set.mem_ofPred_eq, List.coe_toFinset, List.mem_map, Option.isSome_iff_exists]
    exact exists_congr fun a => h.find_eq_some_iff
  rw [hset, Set.ncard_coe_finset, List.toFinset_card_of_nodup h.nodup_keys, List.length_map]

end Ordered

end SearchTree
