import Mathlib.Data.List.Range
import Mathlib.Data.List.Infix
import Mathlib.Logic.Relation

/-!
# Forests as lists of parents

A finite forest whose nodes are positions of a list: the list has the parent of each node, which
comes before it. A program that has no more of it than the parent, the first child and the next
sibling of a node goes over it in loops:

* `climb` goes up as long as a test holds of the parent, and `climb_eq_some_iff` says where it
  stops;
* `nearest` goes up to the first node that meets a test (`nearest_eq_some_iff`);
* `countChildren` counts the children of a node (`countChildren_eq`).

The two walks are for any parent function along which a rank goes down. All loops run on fuel, and
these results say how much is enough.
-/

/-- The parents of the nodes of a forest. -/
structure ParentList where
  parents : List (Option ℕ)
  parent_lt : ∀ i (h : i < parents.length), ∀ p ∈ parents[i], p < i

namespace ParentList

/-! ### Children -/

variable (t : ParentList)

/-- The parent of a node. -/
def parent (i : ℕ) : Option ℕ := t.parents[i]?.join

/-- The first child of a node that is at `start` or behind it. -/
def nextChild (p start : ℕ) : Option ℕ :=
  ((t.parents.drop start).findIdx? (· = some p)).map (start + ·)

/-- The first child of a node. -/
def firstChild (p : ℕ) : Option ℕ := t.nextChild p 0

/-- The next child of the parent of a node. -/
def nextSibling (i : ℕ) : Option ℕ := (t.parent i).bind fun p => t.nextChild p (i + 1)

/-- Counts on from a node over its siblings. -/
def countSiblings : ℕ → ℕ → ℕ → Option ℕ
  | 0, _, _ => none
  | fuel + 1, i, count =>
      match t.nextSibling i with
      | none => some count
      | some j => countSiblings fuel j (count + 1)

/-- Counts the children of a node. -/
def countChildren (fuel p : ℕ) : Option ℕ :=
  match t.firstChild p with
  | none => some 0
  | some i => t.countSiblings fuel i 1

/-- The children of a node that are at `start` or behind it. -/
def childrenFrom (p start : ℕ) : List ℕ :=
  (List.range' start (t.parents.length - start)).filter (t.parent · = some p)

/-- The children of a node. -/
def children (p : ℕ) : List ℕ := (List.range t.parents.length).filter (t.parent · = some p)

variable {t}

theorem lt_of_parent_eq {i p : ℕ} (h : t.parent i = some p) : p < i := by
  rw [parent, Option.join_eq_some_iff] at h
  obtain ⟨hi, hp⟩ := List.getElem?_eq_some_iff.mp h
  exact t.parent_lt i hi p hp

theorem lt_length_of_parent_eq {i p : ℕ} (h : t.parent i = some p) : i < t.parents.length := by
  rw [parent, Option.join_eq_some_iff] at h
  exact (List.getElem?_eq_some_iff.mp h).1

theorem childrenFrom_zero (p : ℕ) : t.childrenFrom p 0 = t.children p := by
  rw [childrenFrom, children, Nat.sub_zero, List.range_eq_range']

theorem childrenFrom_of_lt (p : ℕ) {start : ℕ} (h : start < t.parents.length) :
    t.childrenFrom p start = if t.parent start = some p then start :: t.childrenFrom p (start + 1)
      else t.childrenFrom p (start + 1) := by
  obtain ⟨rest, hrest⟩ : ∃ rest, t.parents.length - start = rest + 1 :=
    Nat.exists_eq_add_one.mpr (by omega)
  have hnext : t.parents.length - (start + 1) = rest := by omega
  rw [childrenFrom, childrenFrom, hrest, hnext, List.range'_succ, List.filter_cons]
  simp only [decide_eq_true_eq]

theorem childrenFrom_of_le (p : ℕ) {start : ℕ} (h : t.parents.length ≤ start) :
    t.childrenFrom p start = [] := by
  rw [childrenFrom, Nat.sub_eq_zero_of_le h]
  rfl

theorem nextChild_of_lt (p : ℕ) {start : ℕ} (h : start < t.parents.length) :
    t.nextChild p start = if t.parent start = some p then some start
      else t.nextChild p (start + 1) := by
  have hparent : t.parent start = t.parents[start] := by
    rw [parent, List.getElem?_eq_getElem h]
    rfl
  rw [nextChild, nextChild, List.drop_eq_getElem_cons h, List.findIdx?_cons, hparent]
  simp only [decide_eq_true_eq]
  split_ifs with hchild
  · rfl
  · rw [Option.map_map]
    congr 1
    funext j
    rw [Function.comp_apply]
    omega

/-- **The next child** is the first of those that are left. -/
theorem childrenFrom_eq (p start : ℕ) : t.childrenFrom p start =
    match t.nextChild p start with
    | none => []
    | some j => j :: t.childrenFrom p (j + 1) := by
  induction hrest : t.parents.length - start generalizing start with
  | zero =>
    have hend : t.nextChild p start = none := by
      rw [nextChild, List.drop_eq_nil_of_le (by omega)]
      rfl
    rw [childrenFrom_of_le p (by omega), hend]
  | succ rest ih =>
    rw [childrenFrom_of_lt p (by omega), nextChild_of_lt p (by omega)]
    split_ifs
    · rfl
    · exact ih (start + 1) (by omega)

theorem of_nextChild_eq {p start j : ℕ} (h : t.nextChild p start = some j) :
    start ≤ j ∧ t.parent j = some p := by
  have hmem : j ∈ t.childrenFrom p start := by
    rw [childrenFrom_eq, h]
    exact List.mem_cons_self
  rw [childrenFrom, List.mem_filter, List.mem_range'_1, decide_eq_true_eq] at hmem
  exact ⟨hmem.1.1, hmem.2⟩

theorem countSiblings_eq {fuel i p : ℕ} (hparent : t.parent i = some p)
    (hfuel : t.parents.length ≤ fuel + i) (count : ℕ) :
    t.countSiblings fuel i count = some (count + (t.childrenFrom p (i + 1)).length) := by
  induction fuel generalizing i count with
  | zero =>
    have hlt := lt_length_of_parent_eq hparent
    omega
  | succ fuel ih =>
    have hsibling : t.nextSibling i = t.nextChild p (i + 1) := by
      rw [nextSibling, hparent]
      rfl
    rw [countSiblings, hsibling, childrenFrom_eq]
    rcases hnext : t.nextChild p (i + 1) with _ | j
    · rfl
    · obtain ⟨hle, hj⟩ := of_nextChild_eq hnext
      dsimp only
      rw [ih hj (by omega), List.length_cons, Nat.add_assoc, Nat.add_comm 1]

/-- **Counting the children**, sibling by sibling, gives their number. -/
theorem countChildren_eq {fuel : ℕ} (hfuel : t.parents.length ≤ fuel) (p : ℕ) :
    t.countChildren fuel p = some (t.children p).length := by
  rw [countChildren, firstChild, ← childrenFrom_zero, childrenFrom_eq]
  rcases hfirst : t.nextChild p 0 with _ | i
  · rfl
  · dsimp only
    rw [countSiblings_eq (of_nextChild_eq hfirst).2 (by omega), List.length_cons, Nat.add_comm]

/-! ### Walks -/

section Walk

open Relation

variable {α : Type*} (parent : α → Option α)

/-- Goes up as long as the test holds of the parent. Without a parent, or when the test fails,
there is no result. -/
def climb (test : α → Option Bool) : ℕ → α → Option α
  | 0, _ => none
  | fuel + 1, a =>
      match parent a with
      | none => none
      | some b =>
          match test b with
          | none => none
          | some true => climb test fuel b
          | some false => some a

/-- Goes up to the first that meets the test, if there is one. -/
def nearest (test : α → Bool) : ℕ → α → Option (Option α)
  | 0, _ => none
  | fuel + 1, a =>
      if test a then some (some a)
      else
        match parent a with
        | none => some none
        | some b => nearest test fuel b

variable {parent} {rank : α → ℕ} (hrank : ∀ a b, parent a = some b → rank b < rank a)
include hrank

/-- **Where the climb stops**: the test has held of every parent on the way, and does not of the
next. -/
theorem climb_eq_some_iff {test : α → Option Bool} {fuel : ℕ} {a b : α} (hfuel : rank a < fuel) :
    climb parent test fuel a = some b ↔
      ReflTransGen (fun x y => parent x = some y ∧ test y = some true) a b ∧
        ∃ c, parent b = some c ∧ test c = some false := by
  induction fuel generalizing a with
  | zero => omega
  | succ fuel ih =>
    rw [climb, ReflTransGen.cases_head_iff]
    rcases hparent : parent a with _ | c
    · refine iff_of_false (by simp) ?_
      rintro ⟨rfl | ⟨c, ⟨hc, -⟩, -⟩, d, hd, -⟩
      · simp [hparent] at hd
      · simp at hc
    · have hrest := ih (a := c) (by have := hrank a c hparent; omega)
      dsimp only
      rcases htest : test c with _ | _ | _
      · refine iff_of_false (by simp) ?_
        rintro ⟨rfl | ⟨d, ⟨hd, htrue⟩, -⟩, d', hd', hfalse⟩
        · simp_all
        · simp_all
      · constructor
        · rintro ⟨⟩
          exact ⟨.inl rfl, c, hparent, htest⟩
        · rintro ⟨rfl | ⟨d, ⟨hd, htrue⟩, -⟩, -⟩
          · rfl
          · simp_all
      · dsimp only
        rw [hrest]
        refine and_congr_left ?_
        rintro ⟨d, hd, hfalse⟩
        constructor
        · exact fun h => .inr ⟨c, ⟨rfl, htest⟩, h⟩
        · rintro (rfl | ⟨c', ⟨hc', -⟩, h⟩)
          · simp_all
          · rwa [Option.some.inj hc']

/-- **The nearest that meets the test** is one that none below it on the way meets. -/
theorem nearest_eq_some_iff {test : α → Bool} {fuel : ℕ} {a b : α} (hfuel : rank a < fuel) :
    nearest parent test fuel a = some (some b) ↔
      ReflTransGen (fun x y => parent x = some y ∧ test x = false) a b ∧ test b = true := by
  induction fuel generalizing a with
  | zero => omega
  | succ fuel ih =>
    rw [nearest, ReflTransGen.cases_head_iff]
    by_cases htest : test a
    · rw [if_pos htest, Option.some.injEq, Option.some.injEq]
      constructor
      · rintro rfl
        exact ⟨.inl rfl, htest⟩
      · rintro ⟨rfl | ⟨c, ⟨-, hfalse⟩, -⟩, -⟩
        · rfl
        · simp [htest] at hfalse
    · rw [if_neg htest]
      rcases hparent : parent a with _ | c
      · refine iff_of_false (by simp) ?_
        rintro ⟨rfl | ⟨c, ⟨hc, -⟩, -⟩, htrue⟩
        · exact htest htrue
        · simp at hc
      · dsimp only
        rw [ih (by have := hrank a c hparent; omega)]
        refine and_congr_left fun htrue => ?_
        constructor
        · exact fun h => .inr ⟨c, ⟨rfl, Bool.eq_false_iff.mpr htest⟩, h⟩
        · rintro (rfl | ⟨c', ⟨hc', -⟩, h⟩)
          · exact absurd htrue htest
          · rwa [Option.some.inj hc']

/-- The walk to the nearest returns. -/
theorem isSome_nearest (test : α → Bool) {fuel : ℕ} {a : α} (hfuel : rank a < fuel) :
    (nearest parent test fuel a).isSome := by
  induction fuel generalizing a with
  | zero => omega
  | succ fuel ih =>
    rw [nearest]
    split_ifs
    · rfl
    · rcases hparent : parent a with _ | b
      · rfl
      · exact ih (by have := hrank a b hparent; omega)

end Walk

end ParentList
