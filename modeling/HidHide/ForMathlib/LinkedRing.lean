import Mathlib.Data.List.Chain
import Mathlib.Data.List.Nodup
import Mathlib.Logic.Function.Basic

/-!
# Circular doubly linked lists

A `LinkMemory α` gives every address of `α` a forward and a backward link. `IsRing m h xs`
says that the memory holds a circular doubly linked list with head `h` and members `xs`, in
forward order: consecutive addresses of `h, x₁, …, xₙ, h` are linked both ways and no address
occurs twice.

The four classical list operations (`initializeListHead`, `insertTailList`,
`removeEntryList`, `appendTailList`) are sequences of link writes. Each has its ring law:

* `isRing_initializeListHead`: the empty ring;
* `IsRing.appendTailList`: appending a ring with head `l` to a ring with head `h` splices the
  *whole* cycle of `l` in, **the head `l` included**, as a member of the ring of `h`;
* `IsRing.insertTailList`: inserting at the tail is appending the one-node cycle;
* `IsRing.removeEntryList`: removing a member keeps the order of the others.

A ring is determined by its memory (`IsRing.unique`) and by the links of its own addresses
(`IsRing.congr`), and the forward walk from the head lists its members (`IsRing.walk_eq`).
-/

/-- A forward and a backward link for each address. -/
@[ext]
structure LinkMemory (α : Type*) where
  /-- The forward link. -/
  flink : α → α
  /-- The backward link. -/
  blink : α → α

namespace LinkMemory

variable {α : Type*} [DecidableEq α]

/-- Write a forward link. -/
def setFlink (m : LinkMemory α) (x y : α) : LinkMemory α :=
  { m with flink := Function.update m.flink x y }

/-- Write a backward link. -/
def setBlink (m : LinkMemory α) (x y : α) : LinkMemory α :=
  { m with blink := Function.update m.blink x y }

/-- Make `h` the head of an empty list. -/
def initializeListHead (m : LinkMemory α) (h : α) : LinkMemory α :=
  (m.setBlink h h).setFlink h h

/-- Insert `x` before the head `h`, that is at the tail. -/
def insertTailList (m : LinkMemory α) (h x : α) : LinkMemory α :=
  let prev := m.blink h
  let m := m.setFlink x h
  let m := m.setBlink x prev
  let m := m.setFlink prev x
  m.setBlink h x

/-- Unlink `x` from its neighbours. -/
def removeEntryList (m : LinkMemory α) (x : α) : LinkMemory α :=
  let next := m.flink x
  let prev := m.blink x
  let m := m.setFlink prev next
  m.setBlink next prev

/-- Append the list with head `l` to the tail of the list with head `h`. -/
def appendTailList (m : LinkMemory α) (h l : α) : LinkMemory α :=
  let listEnd := m.blink h
  let m := m.setFlink (m.blink h) l
  let m := m.setBlink h (m.blink l)
  let m := m.setFlink (m.blink l) h
  m.setBlink l listEnd

@[simp] theorem setFlink_flink (m : LinkMemory α) (x y : α) :
    (m.setFlink x y).flink = Function.update m.flink x y := rfl

@[simp] theorem setFlink_blink (m : LinkMemory α) (x y : α) :
    (m.setFlink x y).blink = m.blink := rfl

@[simp] theorem setBlink_flink (m : LinkMemory α) (x y : α) :
    (m.setBlink x y).flink = m.flink := rfl

@[simp] theorem setBlink_blink (m : LinkMemory α) (x y : α) :
    (m.setBlink x y).blink = Function.update m.blink x y := rfl

/-! ### Rings -/

/-- The forward link of `x` is `y` and the backward link of `y` is `x`. -/
def Linked (m : LinkMemory α) (x y : α) : Prop := m.flink x = y ∧ m.blink y = x

/-- The circular list with head `h` and members `xs`, in forward order. -/
structure IsRing (m : LinkMemory α) (h : α) (xs : List α) : Prop where
  nodup : (h :: xs).Nodup
  chain : (h :: xs ++ [h]).IsChain m.Linked

variable {m m' : LinkMemory α} {h l x : α} {xs ys : List α}

omit [DecidableEq α] in
/-- A chain of links reads the forward link of every address but the last and the backward
link of every address but the first. -/
theorem isChain_congr {zs : List α} (hf : ∀ z ∈ zs.dropLast, m'.flink z = m.flink z)
    (hb : ∀ z ∈ zs.tail, m'.blink z = m.blink z) (hzs : zs.IsChain m.Linked) :
    zs.IsChain m'.Linked := by
  induction zs with
  | nil => exact .nil
  | cons a zs ih =>
    cases zs with
    | nil => exact .singleton a
    | cons b zs =>
      rw [List.isChain_cons_cons] at hzs ⊢
      obtain ⟨⟨hab, hba⟩, hzs⟩ := hzs
      refine ⟨⟨?_, ?_⟩, ih (fun z hz => hf z ?_) (fun z hz => hb z ?_) hzs⟩
      · rw [hf a (by simp), hab]
      · rw [hb b (by simp), hba]
      · simpa using Or.inr hz
      · exact List.mem_of_mem_tail hz

omit [DecidableEq α] in
/-- A ring depends on the links of its own addresses only. -/
theorem IsRing.congr (hr : m.IsRing h xs) (hf : ∀ z ∈ h :: xs, m'.flink z = m.flink z)
    (hb : ∀ z ∈ h :: xs, m'.blink z = m.blink z) : m'.IsRing h xs := by
  refine ⟨hr.nodup, isChain_congr (fun z hz => hf z ?_) (fun z hz => hb z ?_) hr.chain⟩
  · rwa [List.dropLast_concat] at hz
  · simpa [or_comm] using hz

omit [DecidableEq α] in
theorem IsRing.head_notMem (hr : m.IsRing h xs) : h ∉ xs := (List.nodup_cons.mp hr.nodup).1

omit [DecidableEq α] in
/-- The ring, cut open before the head: `p` is the last address of `h :: xs`, and it is the
backward link of the head. -/
theorem IsRing.exists_last (hr : m.IsRing h xs) :
    ∃ as p, h :: xs = as ++ [p] ∧ m.flink p = h ∧ m.blink h = p ∧
      (as ++ [p]).IsChain m.Linked := by
  have hsplit : (h :: xs).dropLast ++ [(h :: xs).getLast (List.cons_ne_nil h xs)] = h :: xs :=
    List.dropLast_append_getLast (List.cons_ne_nil h xs)
  have hchain := hr.chain
  rw [← hsplit, List.append_assoc, List.singleton_append, List.isChain_split,
    List.isChain_pair] at hchain
  exact ⟨_, _, hsplit.symm, hchain.2.1, hchain.2.2, hchain.1⟩

omit [DecidableEq α] in
/-- The neighbours of a member: `p` is the last address before it and `q` the first one after it,
the head counting on both sides. -/
theorem IsRing.exists_neighbours (hr : m.IsRing h (xs ++ x :: ys)) :
    ∃ as p q bs, h :: xs = as ++ [p] ∧ ys ++ [h] = q :: bs ∧ m.blink x = p ∧ m.flink x = q ∧
      (as ++ [p]).IsChain m.Linked ∧ (q :: bs).IsChain m.Linked := by
  have hsplit : (h :: xs).dropLast ++ [(h :: xs).getLast (List.cons_ne_nil h xs)] = h :: xs :=
    List.dropLast_append_getLast (List.cons_ne_nil h xs)
  obtain ⟨q, bs, hq⟩ : ∃ q bs, ys ++ [h] = q :: bs := List.exists_cons_of_ne_nil (by simp)
  have hchain := hr.chain
  have hlist : h :: (xs ++ x :: ys) ++ [h] = (h :: xs) ++ x :: (ys ++ [h]) := by simp
  rw [hlist, ← hsplit, hq, List.append_assoc, List.singleton_append,
    List.isChain_append_cons_cons, List.isChain_cons_cons] at hchain
  obtain ⟨hca, ⟨-, hbx⟩, ⟨hfx, -⟩, hcb⟩ := hchain
  exact ⟨_, _, q, bs, hsplit.symm, hq, hbx, hfx, hca, hcb⟩

/-- The empty ring. -/
theorem isRing_initializeListHead (m : LinkMemory α) (h : α) :
    (m.initializeListHead h).IsRing h [] := by
  refine ⟨List.nodup_singleton h, ?_⟩
  simp [initializeListHead, Linked]

/-- **Splicing.** Appending the ring of `l` to the ring of `h` makes one ring of all of them,
in which the head `l` is a member. -/
theorem IsRing.appendTailList (hh : m.IsRing h xs) (hl : m.IsRing l ys)
    (hdisj : (h :: xs).Disjoint (l :: ys)) :
    (m.appendTailList h l).IsRing h (xs ++ l :: ys) := by
  obtain ⟨as, p, hp, -, hbh, hca⟩ := hh.exists_last
  obtain ⟨bs, q, hq, -, hbl, hcb⟩ := hl.exists_last
  have hna : (as ++ [p]).Nodup := hp ▸ hh.nodup
  have hnb : (bs ++ [q]).Nodup := hq ▸ hl.nodup
  have hpmem : p ∈ h :: xs := by rw [hp]; simp
  have hqmem : q ∈ l :: ys := by rw [hq]; simp
  have hne : ∀ {a b}, a ∈ h :: xs → b ∈ l :: ys → a ≠ b := fun ha hb hab =>
    hdisj ha (hab ▸ hb)
  have hlh : l ≠ h := (hne List.mem_cons_self List.mem_cons_self).symm
  -- of the four writes the first two go to `p` and `h`, the last two to `q` and `l`
  have hflink : (m.appendTailList h l).flink =
      Function.update (Function.update m.flink p l) q h := by
    simp [LinkMemory.appendTailList, hbh, hbl, hlh]
  have hblink : (m.appendTailList h l).blink =
      Function.update (Function.update m.blink h q) l p := by
    simp [LinkMemory.appendTailList, hbh, hbl]
  constructor
  · have : h :: (xs ++ l :: ys) = (h :: xs) ++ (l :: ys) := rfl
    rw [this, List.nodup_append]
    exact ⟨hh.nodup, hl.nodup, fun a ha b hb => hne ha hb⟩
  · have hlist : h :: (xs ++ l :: ys) ++ [h] = as ++ p :: l :: (ys ++ [h]) := by
      calc h :: (xs ++ l :: ys) ++ [h] = (h :: xs) ++ (l :: ys) ++ [h] := rfl
        _ = as ++ p :: l :: (ys ++ [h]) := by rw [hp]; simp
    rw [hlist, List.isChain_append_cons_cons]
    have hrest : l :: (ys ++ [h]) = bs ++ q :: [h] := by
      calc l :: (ys ++ [h]) = (l :: ys) ++ [h] := rfl
        _ = bs ++ q :: [h] := by rw [hq]; simp
    -- the old chain up to `p`, the new link from `p` to `l`, and what comes after it
    refine ⟨isChain_congr (fun z hz => ?_) (fun z hz => ?_) hca, ⟨?_, ?_⟩, ?_⟩
    · have hzas : z ∈ as := by simpa using hz
      have hzp : z ≠ p := by
        rintro rfl
        exact (List.disjoint_of_nodup_append hna) hzas (by simp)
      have hzq : z ≠ q := hne (by rw [hp]; simp [hzas]) hqmem
      rw [hflink, Function.update_of_ne hzq, Function.update_of_ne hzp]
    · have hzxs : z ∈ xs := by rwa [← hp, List.tail_cons] at hz
      have hzh : z ≠ h := fun hzh => hh.head_notMem (hzh ▸ hzxs)
      have hzl : z ≠ l := hne (by simp [hzxs]) List.mem_cons_self
      rw [hblink, Function.update_of_ne hzl, Function.update_of_ne hzh]
    · rw [hflink, Function.update_of_ne (hne hpmem hqmem), Function.update_self]
    · rw [hblink, Function.update_self]
    · rw [hrest, List.isChain_split, List.isChain_pair]
      -- the old chain of `l` up to `q`, and the new link from `q` back to `h`
      refine ⟨isChain_congr (fun z hz => ?_) (fun z hz => ?_) hcb, ?_, ?_⟩
      · have hzbs : z ∈ bs := by simpa using hz
        have hzq : z ≠ q := by
          rintro rfl
          exact (List.disjoint_of_nodup_append hnb) hzbs (by simp)
        have hzp : z ≠ p := (hne hpmem (by rw [hq]; simp [hzbs])).symm
        rw [hflink, Function.update_of_ne hzq, Function.update_of_ne hzp]
      · have hzys : z ∈ ys := by rwa [← hq, List.tail_cons] at hz
        have hzl : z ≠ l := fun hzl => hl.head_notMem (hzl ▸ hzys)
        have hzh : z ≠ h := (hne List.mem_cons_self (by simp [hzys])).symm
        rw [hblink, Function.update_of_ne hzl, Function.update_of_ne hzh]
      · rw [hflink, Function.update_self]
      · rw [hblink, Function.update_of_ne hlh.symm, Function.update_self]

/-- Inserting at the tail is appending the one-node cycle. -/
theorem insertTailList_eq (hxh : x ≠ h) (hxp : x ≠ m.blink h) :
    m.insertTailList h x = (m.initializeListHead x).appendTailList h x := by
  have hinit : (m.initializeListHead x).blink h = m.blink h := by
    simp [initializeListHead, hxh.symm]
  ext z
  · simp only [insertTailList, LinkMemory.appendTailList, hinit]
    rcases eq_or_ne z x with rfl | hzx
    · simp [initializeListHead, hxp, hxh]
    · rcases eq_or_ne z (m.blink h) with rfl | hzp
      · simp [initializeListHead, hzx, hxh]
      · simp [initializeListHead, hzx, hzp, hxh]
  · simp only [insertTailList, LinkMemory.appendTailList, hinit]
    rcases eq_or_ne z x with rfl | hzx
    · simp [initializeListHead, hxh]
    · rcases eq_or_ne z h with rfl | hzh
      · simp [initializeListHead, hzx]
      · simp [initializeListHead, hzx, hzh]

/-- **Inserting at the tail** adds the new address as the last member. -/
theorem IsRing.insertTailList (hr : m.IsRing h xs) (hx : x ∉ h :: xs) :
    (m.insertTailList h x).IsRing h (xs ++ [x]) := by
  obtain ⟨as, p, hp, -, hbh, -⟩ := hr.exists_last
  have hxh : x ≠ h := fun hxh => hx (by simp [hxh])
  have hxp : x ≠ m.blink h := fun hxp => hx (by rw [hp, hxp, hbh]; simp)
  rw [insertTailList_eq hxh hxp]
  -- initializing the links of `x` leaves the ring of `h` alone
  have hne : ∀ z ∈ h :: xs, z ≠ x := fun z hz hzx => hx (hzx ▸ hz)
  refine IsRing.appendTailList (hr.congr (fun z hz => ?_) fun z hz => ?_)
    (isRing_initializeListHead m x) (by simpa using hx)
  · simp [initializeListHead, hne z hz]
  · simp [initializeListHead, hne z hz]

/-- Inserting at the tail touches the links of the ring and of the new address only. -/
theorem IsRing.insertTailList_frame {z : α} (hr : m.IsRing h xs) (hzr : z ∉ h :: xs)
    (hzx : z ≠ x) :
    (m.insertTailList h x).flink z = m.flink z ∧ (m.insertTailList h x).blink z = m.blink z := by
  obtain ⟨as, p, hp, -, hbh, -⟩ := hr.exists_last
  have hzp : z ≠ p := fun hz => hzr (by rw [hp]; simp [hz])
  have hzh : z ≠ h := fun hz => hzr (by simp [hz])
  simp [LinkMemory.insertTailList, hbh, hzx, hzp, hzh]

/-- **Removing a member** keeps the others, in their order. -/
theorem IsRing.removeEntryList (hr : m.IsRing h (xs ++ x :: ys)) :
    (m.removeEntryList x).IsRing h (xs ++ ys) := by
  obtain ⟨as, p, q, bs, hp, hq, hbx, hfx, hca, hcb⟩ := hr.exists_neighbours
  have hnodup : (h :: (xs ++ ys)).Nodup :=
    hr.nodup.sublist (((List.sublist_cons_self x ys).append_left xs).cons_cons h)
  have hnx : (h :: xs).Nodup :=
    hnodup.sublist ((List.sublist_append_left xs ys).cons_cons h)
  have hpxs : p ∈ h :: xs := by rw [hp]; simp
  have hqys : q = h ∨ q ∈ ys := by
    have : q ∈ ys ++ [h] := by rw [hq]; simp
    simpa [or_comm] using this
  have hnodup' : (h :: xs ++ ys).Nodup := hnodup
  have hdisj : (h :: xs).Disjoint ys := List.disjoint_of_nodup_append hnodup'
  -- the two writes link `p` and `q`, and the chains on both sides stay
  have hflink : (m.removeEntryList x).flink = Function.update m.flink p q := by
    simp [LinkMemory.removeEntryList, hbx, hfx]
  have hblink : (m.removeEntryList x).blink = Function.update m.blink q p := by
    simp [LinkMemory.removeEntryList, hbx, hfx]
  refine ⟨hnodup, ?_⟩
  have hlist' : h :: (xs ++ ys) ++ [h] = as ++ p :: q :: bs := by
    calc h :: (xs ++ ys) ++ [h] = (h :: xs) ++ (ys ++ [h]) := by simp
      _ = as ++ p :: q :: bs := by rw [hp, hq]; simp
  rw [hlist', List.isChain_append_cons_cons]
  refine ⟨isChain_congr (fun z hz => ?_) (fun z hz => ?_) hca, ⟨?_, ?_⟩,
    isChain_congr (fun z hz => ?_) (fun z hz => ?_) hcb⟩
  · have hzas : z ∈ as := by simpa using hz
    have hzp : z ≠ p := by
      rintro rfl
      exact (List.disjoint_of_nodup_append (hp ▸ hnx)) hzas (by simp)
    rw [hflink, Function.update_of_ne hzp]
  · have hzxs : z ∈ xs := by rwa [← hp, List.tail_cons] at hz
    have hzq : z ≠ q := by
      rintro rfl
      rcases hqys with hzh | hzys
      · exact (List.nodup_cons.mp hnx).1 (hzh ▸ hzxs)
      · exact hdisj (by simp [hzxs]) hzys
    rw [hblink, Function.update_of_ne hzq]
  · rw [hflink, Function.update_self]
  · rw [hblink, Function.update_self]
  · have hzys : z ∈ ys := by rwa [← hq, List.dropLast_concat] at hz
    have hzp : z ≠ p := fun hzp => hdisj hpxs (hzp ▸ hzys)
    rw [hflink, Function.update_of_ne hzp]
  · have hzq : z ≠ q := by
      -- the list `q :: bs` is the rest of the ring, turned so that the head comes last
      have hnq : (q :: bs).Nodup := by
        rw [← hq, List.nodup_append_comm, List.singleton_append]
        exact hnodup.sublist ((List.sublist_append_right xs ys).cons_cons h)
      rintro rfl
      exact (List.nodup_cons.mp hnq).1 hz
    rw [hblink, Function.update_of_ne hzq]

/-- Removing touches the links of the ring only. -/
theorem IsRing.removeEntryList_frame {z : α} (hr : m.IsRing h (xs ++ x :: ys))
    (hz : z ∉ h :: (xs ++ x :: ys)) :
    (m.removeEntryList x).flink z = m.flink z ∧ (m.removeEntryList x).blink z = m.blink z := by
  obtain ⟨as, p, q, bs, hp, hq, hbx, hfx, -, -⟩ := hr.exists_neighbours
  have hpr : p ∈ h :: xs := by rw [hp]; simp
  have hqr : q ∈ ys ++ [h] := by rw [hq]; simp
  have hzp : z ≠ p := by
    rintro rfl
    exact hz (by rw [← List.cons_append]; exact List.mem_append_left _ hpr)
  have hzq : z ≠ q := by
    rintro rfl
    rcases List.mem_append.mp hqr with hqys | hqh
    · exact hz (by simp [hqys])
    · exact hz (by simp [List.mem_singleton.mp hqh])
  simp [LinkMemory.removeEntryList, hbx, hfx, hzp, hzq]

omit [DecidableEq α] in
/-- The forward link of the removed address is still the next address. -/
theorem IsRing.flink_eq_headD (hr : m.IsRing h (xs ++ x :: ys)) : m.flink x = ys.headD h := by
  have hchain := hr.chain
  have hlist : h :: (xs ++ x :: ys) ++ [h] = (h :: xs) ++ x :: (ys ++ [h]) := by simp
  rw [hlist, List.isChain_split] at hchain
  cases ys with
  | nil => exact (List.isChain_pair.mp hchain.2).1
  | cons y ys => exact (List.isChain_cons_cons.mp hchain.2).1.1

omit [DecidableEq α] in
/-- The forward link of the head is the first member. -/
theorem IsRing.flink_head (hr : m.IsRing h xs) : m.flink h = xs.headD h := by
  have hchain := hr.chain
  cases xs with
  | nil => exact (List.isChain_pair.mp hchain).1
  | cons x xs => exact (List.isChain_cons_cons.mp hchain).1.1

/-! ### The forward walk -/

/-- Follow the forward links from `x` until the head `h`, listing the addresses visited;
`none` when the fuel does not suffice. -/
def walk (m : LinkMemory α) (h : α) : ℕ → α → Option (List α)
  | 0, _ => none
  | n + 1, x => if x = h then some [] else (m.walk h n (m.flink x)).map (x :: ·)

/-- The walk along a chain of links that ends in the head. -/
theorem walk_of_isChain {n : ℕ} (hh : h ∉ xs) (hn : xs.length < n)
    (hchain : (x :: xs ++ [h]).IsChain m.Linked) : m.walk h n (m.flink x) = some xs := by
  induction xs generalizing n x with
  | nil =>
    obtain ⟨n, rfl⟩ := Nat.exists_eq_succ_of_ne_zero hn.ne'
    simp [walk, (List.isChain_pair.mp hchain).1]
  | cons y ys ih =>
    obtain ⟨n, rfl⟩ := Nat.exists_eq_succ_of_ne_zero (Nat.zero_lt_of_lt hn).ne'
    obtain ⟨⟨hxy, -⟩, hchain⟩ := List.isChain_cons_cons.mp hchain
    have hyh : y ≠ h := fun hyh => hh (by simp [hyh])
    rw [hxy, walk, if_neg hyh, ih (fun hmem => hh (by simp [hmem])) (by simpa using hn) hchain]
    rfl

/-- **The forward walk from the head** lists exactly the members of the ring and returns. -/
theorem IsRing.walk_eq (hr : m.IsRing h xs) {n : ℕ} (hn : xs.length < n) :
    m.walk h n (m.flink h) = some xs :=
  walk_of_isChain hr.head_notMem hn hr.chain

/-- The memory determines the ring of a head. -/
theorem IsRing.unique (hx : m.IsRing h xs) (hy : m.IsRing h ys) : xs = ys := by
  have hxw := hx.walk_eq (n := max xs.length ys.length + 1) (by omega)
  have hyw := hy.walk_eq (n := max xs.length ys.length + 1) (by omega)
  exact Option.some.inj (hxw.symm.trans hyw)

end LinkMemory
