import Mathlib.Algebra.GroupWithZero.Nat
import Mathlib.Algebra.Order.BigOperators.Group.List
import Mathlib.Algebra.Order.Group.Nat
import Mathlib.Data.List.Pairwise
import Mathlib.Data.List.Perm.Subperm
import Mathlib.Order.RelClasses
import Mathlib.Tactic.SplitIfs

/-!
# Sets kept in order

A set whose elements are kept in a strictly increasing list, as an ordered container keeps them:
`emplace` adds an element in its place, unless one that is equivalent to it (neither is less than
the other) is there already, and `erase` takes such an element out. The order is a parameter; it
need not be total, and two sets are `Equiv` when their elements are equivalent one by one.

Reading back the elements in order rebuilds the set (`ofList_toList`).
-/

/-- A strictly increasing list. -/
@[ext]
structure OrderedSet {α : Type*} (lt : α → α → Prop) where
  toList : List α
  sorted : toList.Pairwise lt

namespace OrderedSet

variable {α : Type*} {lt : α → α → Prop}

instance : EmptyCollection (OrderedSet lt) := ⟨⟨[], .nil⟩⟩

instance : Membership α (OrderedSet lt) := ⟨fun s a => a ∈ s.toList⟩

@[simp] theorem mem_toList {s : OrderedSet lt} {a : α} : a ∈ s.toList ↔ a ∈ s := Iff.rfl

@[simp] theorem toList_empty : (∅ : OrderedSet lt).toList = [] := rfl

instance [DecidableEq α] : DecidableEq (OrderedSet lt) := fun _ _ =>
  decidable_of_iff _ OrderedSet.ext_iff.symm

instance [DecidableEq α] (s : OrderedSet lt) (a : α) : Decidable (a ∈ s) :=
  inferInstanceAs (Decidable (a ∈ s.toList))

theorem nodup_toList [Std.Irrefl lt] (s : OrderedSet lt) : s.toList.Nodup :=
  s.sorted.imp fun h => ne_of_irrefl h

/-- A list that has every element of the set weighs no less. -/
theorem sum_map_le_of_forall_mem [Std.Irrefl lt] {s : OrderedSet lt} {l : List α}
    (h : ∀ a ∈ s, a ∈ l) (f : α → ℕ) : (s.toList.map f).sum ≤ (l.map f).sum := by
  obtain ⟨l', hperm, hsub⟩ := s.nodup_toList.subperm h
  calc (s.toList.map f).sum = (l'.map f).sum := (hperm.map f).sum_eq.symm
    _ ≤ (l.map f).sum := (hsub.map f).sum_le_sum fun _ _ => Nat.zero_le _

section Insert

variable [DecidableRel lt]

/-- Insert an element in its place. -/
def insertList (lt : α → α → Prop) [DecidableRel lt] (a : α) : List α → List α
  | [] => [a]
  | b :: l => if lt a b then a :: b :: l else if lt b a then b :: insertList lt a l else b :: l

theorem mem_of_mem_insertList {a x : α} {l : List α} (h : x ∈ insertList lt a l) :
    x = a ∨ x ∈ l := by
  induction l with
  | nil => exact .inl (List.mem_singleton.mp h)
  | cons b l ih =>
    rw [insertList] at h
    split_ifs at h
    · exact List.mem_cons.mp h
    · rcases List.mem_cons.mp h with rfl | h
      · exact .inr List.mem_cons_self
      · exact (ih h).imp_right (List.mem_cons_of_mem b)
    · exact .inr h

/-- In a total order an element is where it was inserted. -/
theorem self_mem_insertList [Std.Trichotomous lt] (a : α) (l : List α) : a ∈ insertList lt a l := by
  induction l with
  | nil => exact List.mem_singleton_self a
  | cons b l ih =>
    rw [insertList]
    split_ifs with hab hba
    · exact List.mem_cons_self
    · exact List.mem_cons_of_mem b ih
    · obtain rfl := Std.Trichotomous.trichotomous a b hab hba
      exact List.mem_cons_self

theorem pairwise_insertList [IsTrans α lt] (a : α) {l : List α} (h : l.Pairwise lt) :
    (insertList lt a l).Pairwise lt := by
  induction l with
  | nil => exact List.pairwise_singleton lt a
  | cons b l ih =>
    obtain ⟨hb, hl⟩ := List.pairwise_cons.mp h
    rw [insertList]
    split_ifs with hab hba
    · refine List.pairwise_cons.mpr ⟨fun x hx => ?_, h⟩
      rcases List.mem_cons.mp hx with rfl | hx
      · exact hab
      · exact IsTrans.trans a b x hab (hb x hx)
    · refine List.pairwise_cons.mpr ⟨fun x hx => ?_, ih hl⟩
      rcases mem_of_mem_insertList hx with rfl | hx
      · exact hba
      · exact hb x hx
    · exact h

/-- An element that is greater than all others is the new last one. -/
theorem insertList_eq_append [IsStrictOrder α lt] {a : α} {l : List α} (h : ∀ b ∈ l, lt b a) :
    insertList lt a l = l ++ [a] := by
  induction l with
  | nil => rfl
  | cons b l ih =>
    obtain ⟨hb, hl⟩ := List.forall_mem_cons.mp h
    rw [insertList, if_neg (asymm hb), if_pos hb, ih hl, List.cons_append]

variable [IsTrans α lt]

/-- Add an element, unless an equivalent one is there. -/
def emplace (s : OrderedSet lt) (a : α) : OrderedSet lt where
  toList := insertList lt a s.toList
  sorted := pairwise_insertList a s.sorted

theorem self_mem_emplace [Std.Trichotomous lt] (s : OrderedSet lt) (a : α) : a ∈ s.emplace a :=
  self_mem_insertList a s.toList

/-- The elements of a list, added one after the other. -/
def ofList (lt : α → α → Prop) [DecidableRel lt] [IsTrans α lt] (l : List α) : OrderedSet lt :=
  l.foldl emplace ∅

end Insert

section StrictOrder

variable [DecidableRel lt] [IsStrictOrder α lt]

theorem toList_foldl_emplace {l : List α} {s : OrderedSet lt}
    (h : (s.toList ++ l).Pairwise lt) : (l.foldl emplace s).toList = s.toList ++ l := by
  induction l generalizing s with
  | nil => simp
  | cons a l ih =>
    -- the element is greater than those added before it
    have hlast : (s.emplace a).toList = s.toList ++ [a] :=
      insertList_eq_append fun b hb => (List.pairwise_append.mp h).2.2 b hb a List.mem_cons_self
    rw [List.foldl_cons, ih (by simpa [hlast] using h), hlast]
    simp

/-- **Reading back** the elements in order rebuilds the set. -/
theorem ofList_toList (s : OrderedSet lt) : ofList lt s.toList = s :=
  OrderedSet.ext (toList_foldl_emplace (s := ∅) (by simpa using s.sorted))

end StrictOrder

/-! ### Equivalent elements -/

section Equivalent

/-- Neither is less than the other. -/
def Equivalent (lt : α → α → Prop) (a b : α) : Prop := ¬lt a b ∧ ¬lt b a

instance [DecidableRel lt] : DecidableRel (Equivalent lt) := fun a b =>
  inferInstanceAs (Decidable (¬lt a b ∧ ¬lt b a))

theorem Equivalent.refl [Std.Irrefl lt] (a : α) : Equivalent lt a a := ⟨irrefl a, irrefl a⟩

theorem Equivalent.symm {a b : α} (h : Equivalent lt a b) : Equivalent lt b a := And.symm h

theorem Equivalent.trans [IsStrictWeakOrder α lt] {a b c : α} (hab : Equivalent lt a b)
    (hbc : Equivalent lt b c) : Equivalent lt a c :=
  IsStrictWeakOrder.incomp_trans a b c hab hbc

theorem equivalent_iff_eq [Std.Irrefl lt] [Std.Trichotomous lt] {a b : α} :
    Equivalent lt a b ↔ a = b := by
  constructor
  · exact fun h => Std.Trichotomous.trichotomous a b h.1 h.2
  · rintro rfl
    exact .refl a

variable [DecidableRel lt]

/-- An element equivalent to this one is in the set. -/
def Contains (s : OrderedSet lt) (a : α) : Prop := ∃ b ∈ s.toList, Equivalent lt a b

instance (s : OrderedSet lt) (a : α) : Decidable (s.Contains a) :=
  inferInstanceAs (Decidable (∃ b ∈ s.toList, _))

omit [DecidableRel lt] in
theorem contains_iff_mem [Std.Irrefl lt] [Std.Trichotomous lt] {s : OrderedSet lt} {a : α} :
    s.Contains a ↔ a ∈ s := by
  simp only [Contains, equivalent_iff_eq, exists_eq_right', mem_toList]

/-- An element is not inserted when an equivalent one is there. -/
theorem insertList_of_equivalent [IsStrictOrder α lt] {a b : α} {l : List α} (hl : l.Pairwise lt)
    (hb : b ∈ l) (hab : Equivalent lt a b) : insertList lt a l = l := by
  induction l with
  | nil => exact absurd hb List.not_mem_nil
  | cons c l ih =>
    obtain ⟨hc, hl⟩ := List.pairwise_cons.mp hl
    rw [insertList]
    split_ifs with hac hca
    · -- the equivalent element is not less than the first one
      rcases List.mem_cons.mp hb with rfl | hb
      · exact absurd hac hab.1
      · exact absurd (IsTrans.trans a c b hac (hc b hb)) hab.1
    · rcases List.mem_cons.mp hb with rfl | hb
      · exact absurd hca hab.2
      · rw [ih hl hb]
    · rfl

/-- An element is inserted when no equivalent one is there. -/
theorem insertList_perm {a : α} {l : List α} (h : ∀ b ∈ l, ¬Equivalent lt a b) :
    (insertList lt a l).Perm (a :: l) := by
  induction l with
  | nil => exact .refl _
  | cons c l ih =>
    obtain ⟨hc, hl⟩ := List.forall_mem_cons.mp h
    rw [insertList]
    split_ifs with hac hca
    · exact .refl _
    · exact ((ih hl).cons c).trans (.swap a c l)
    · exact absurd ⟨hac, hca⟩ hc

section Emplace

variable [IsStrictOrder α lt] {s : OrderedSet lt} {a b : α}

theorem emplace_of_contains (h : s.Contains a) : s.emplace a = s := by
  obtain ⟨b, hb, hab⟩ := h
  exact OrderedSet.ext (insertList_of_equivalent s.sorted hb hab)

theorem mem_emplace_of_not_contains (h : ¬s.Contains a) : b ∈ s.emplace a ↔ b = a ∨ b ∈ s := by
  have hperm : (insertList lt a s.toList).Perm (a :: s.toList) :=
    insertList_perm fun c hc hac => h ⟨c, hc, hac⟩
  exact hperm.mem_iff.trans List.mem_cons

theorem mem_of_mem_emplace (h : b ∈ s.emplace a) : b = a ∨ b ∈ s := mem_of_mem_insertList h

theorem mem_emplace_of_mem (h : b ∈ s) : b ∈ s.emplace a := by
  by_cases ha : s.Contains a
  · rwa [emplace_of_contains ha]
  · exact (mem_emplace_of_not_contains ha).mpr (.inr h)

theorem contains_emplace_self : (s.emplace a).Contains a := by
  by_cases ha : s.Contains a
  · rwa [emplace_of_contains ha]
  · exact ⟨a, (mem_emplace_of_not_contains ha).mpr (.inl rfl), .refl a⟩

theorem mem_of_mem_ofList {l : List α} (h : a ∈ ofList lt l) : a ∈ l := by
  have hfold : ∀ (l : List α) (s : OrderedSet lt), a ∈ l.foldl emplace s → a ∈ s ∨ a ∈ l := by
    intro l
    induction l with
    | nil => exact fun s ha => .inl ha
    | cons b l ih =>
      intro s ha
      rcases ih (s.emplace b) ha with hs | hl
      · rcases mem_of_mem_emplace hs with rfl | hs
        · exact .inr List.mem_cons_self
        · exact .inl hs
      · exact .inr (List.mem_cons_of_mem b hl)
  exact (hfold l ∅ h).resolve_left List.not_mem_nil

/-- Each element of the list is in the set, or one equivalent to it is. -/
theorem contains_ofList {l : List α} (h : a ∈ l) : (ofList lt l).Contains a := by
  have hkeep : ∀ (l : List α) (s : OrderedSet lt), s.Contains a →
      (l.foldl emplace s).Contains a := by
    intro l
    induction l with
    | nil => exact fun s hs => hs
    | cons b l ih =>
      rintro s ⟨c, hc, hac⟩
      exact ih _ ⟨c, mem_emplace_of_mem hc, hac⟩
  have hfold : ∀ (l : List α) (s : OrderedSet lt), a ∈ l → (l.foldl emplace s).Contains a := by
    intro l
    induction l with
    | nil => exact fun s ha => absurd ha List.not_mem_nil
    | cons b l ih =>
      intro s ha
      rcases List.mem_cons.mp ha with rfl | ha
      · exact hkeep l _ contains_emplace_self
      · exact ih _ ha
  exact hfold l ∅ h

/-- When the order is total, the elements of the list are those of the set. -/
theorem mem_ofList [Std.Trichotomous lt] {l : List α} : a ∈ ofList lt l ↔ a ∈ l :=
  ⟨mem_of_mem_ofList, fun h => contains_iff_mem.mp (contains_ofList h)⟩

end Emplace

/-- What is equivalent to an element of the list is in the set, and nothing else. -/
theorem contains_ofList_iff [IsStrictWeakOrder α lt] {l : List α} {a : α} :
    (ofList lt l).Contains a ↔ ∃ b ∈ l, Equivalent lt a b := by
  constructor
  · rintro ⟨b, hb, hab⟩
    exact ⟨b, mem_of_mem_ofList hb, hab⟩
  · rintro ⟨b, hb, hab⟩
    obtain ⟨c, hc, hbc⟩ := @contains_ofList _ lt _ _ _ _ hb
    exact ⟨c, hc, hab.trans hbc⟩

/-- What is equivalent to an element that has been added is in the set, and what has been. -/
theorem contains_foldl_emplace [IsStrictWeakOrder α lt] {l : List α} {s : OrderedSet lt} {a : α} :
    (l.foldl emplace s).Contains a ↔ s.Contains a ∨ ∃ b ∈ l, Equivalent lt a b := by
  induction l generalizing s with
  | nil => simp
  | cons b l ih =>
    have hone : (s.emplace b).Contains a ↔ s.Contains a ∨ Equivalent lt a b := by
      constructor
      · rintro ⟨c, hc, hac⟩
        rcases mem_of_mem_emplace hc with rfl | hc
        · exact .inr hac
        · exact .inl ⟨c, hc, hac⟩
      · rintro (⟨c, hc, hac⟩ | hab)
        · exact ⟨c, mem_emplace_of_mem hc, hac⟩
        · obtain ⟨c, hc, hbc⟩ := @contains_emplace_self _ lt _ _ s b
          exact ⟨c, hc, hab.trans hbc⟩
    simp only [List.foldl_cons, ih, hone, or_assoc, List.mem_cons, exists_eq_or_imp]

/-- When the order is total, the elements are those that were there and those that are added. -/
theorem mem_foldl_emplace [IsStrictOrder α lt] [Std.Trichotomous lt] {l : List α}
    {s : OrderedSet lt} {a : α} : a ∈ l.foldl emplace s ↔ a ∈ s ∨ a ∈ l := by
  have hweak : IsStrictWeakOrder α lt :=
    { incomp_trans := fun a b c hab hbc => by
        obtain rfl : a = b := equivalent_iff_eq.mp hab
        exact hbc }
  rw [← contains_iff_mem, contains_foldl_emplace, contains_iff_mem]
  simp only [equivalent_iff_eq, exists_eq_right']

omit [DecidableRel lt] in
/-- No two elements of a set are equivalent. -/
theorem eq_of_equivalent {s : OrderedSet lt} {a b : α} (ha : a ∈ s) (hb : b ∈ s)
    (h : Equivalent lt a b) : a = b := by
  have hsorted : s.toList.Pairwise fun a b => ¬Equivalent lt a b :=
    s.sorted.imp fun hab hequivalent => hequivalent.1 hab
  have hsymm : Std.Symm fun a b : α => ¬Equivalent lt a b :=
    ⟨fun _ _ hab hba => hab hba.symm⟩
  by_contra hne
  exact hsorted.forall ha hb hne h

/-- Elements of which no two are equivalent are all added. -/
theorem perm_foldl_emplace [IsStrictOrder α lt] {l : List α} {s : OrderedSet lt}
    (h : (s.toList ++ l).Pairwise fun a b => ¬Equivalent lt a b) :
    (l.foldl emplace s).toList.Perm (s.toList ++ l) := by
  induction l generalizing s with
  | nil => simp
  | cons b l ih =>
    have hone : (s.emplace b).toList.Perm (b :: s.toList) :=
      insertList_perm fun c hc hbc =>
        (List.pairwise_append.mp h).2.2 c hc b List.mem_cons_self hbc.symm
    have hperm : ((s.emplace b).toList ++ l).Perm (s.toList ++ b :: l) :=
      (hone.append_right l).trans List.perm_middle.symm
    rw [List.foldl_cons]
    exact (ih (hperm.symm.pairwise h fun hab hba => hab hba.symm)).trans hperm

/-- The elements of a set can be added in any order. -/
theorem ofList_eq_of_perm [IsStrictOrder α lt] {l : List α} {s : OrderedSet lt}
    (h : l.Perm s.toList) : ofList lt l = s := by
  have hsorted : s.toList.Pairwise fun a b => ¬Equivalent lt a b :=
    s.sorted.imp fun hab hequivalent => hequivalent.1 hab
  have hperm : (ofList lt l).toList.Perm l :=
    perm_foldl_emplace (h.symm.pairwise hsorted fun hab hba => hab hba.symm)
  refine OrderedSet.ext (List.Perm.eq_of_pairwise ?_ (ofList lt l).sorted s.sorted
    (hperm.trans h))
  exact fun a b _ _ hab hba => absurd hba (asymm_of lt hab)

/-- Take out the element that is equivalent to this one. -/
def erase (s : OrderedSet lt) (a : α) : OrderedSet lt where
  toList := s.toList.filter fun b => ¬Equivalent lt a b
  sorted := s.sorted.filter _

theorem mem_erase {s : OrderedSet lt} {a b : α} : b ∈ s.erase a ↔ b ∈ s ∧ ¬Equivalent lt a b := by
  rw [← mem_toList, erase, List.mem_filter, decide_eq_true_iff, mem_toList]

theorem erase_of_not_contains {s : OrderedSet lt} {a : α} (h : ¬s.Contains a) : s.erase a = s :=
  OrderedSet.ext (List.filter_eq_self.mpr fun b hb => decide_eq_true fun hab => h ⟨b, hb, hab⟩)

theorem not_contains_erase {s : OrderedSet lt} (a : α) : ¬(s.erase a).Contains a := by
  rintro ⟨b, hb, hab⟩
  exact (mem_erase.mp hb).2 hab

end Equivalent

/-! ### Equivalent sets -/

section Equiv

/-- The elements are equivalent one by one. -/
def Equiv (s t : OrderedSet lt) : Prop := List.Forall₂ (Equivalent lt) s.toList t.toList

instance [DecidableRel lt] (s t : OrderedSet lt) : Decidable (s.Equiv t) :=
  inferInstanceAs (Decidable (List.Forall₂ _ _ _))

theorem Equiv.refl [Std.Irrefl lt] (s : OrderedSet lt) : s.Equiv s :=
  List.forall₂_same.mpr fun a _ => .refl a

theorem Equiv.symm {s t : OrderedSet lt} (h : s.Equiv t) : t.Equiv s :=
  List.Forall₂.flip (h.imp fun _ _ hab => hab.symm)

theorem Equiv.trans [IsStrictWeakOrder α lt] {s t u : OrderedSet lt} (hst : s.Equiv t)
    (htu : t.Equiv u) : s.Equiv u := by
  rw [Equiv, List.forall₂_iff_get] at hst htu ⊢
  refine ⟨hst.1.trans htu.1, fun i hs hu => ?_⟩
  have ht : i < t.toList.length := hst.1 ▸ hs
  exact (hst.2 i hs ht).trans (htu.2 i ht hu)

theorem equiv_iff_eq [Std.Irrefl lt] [Std.Trichotomous lt] {s t : OrderedSet lt} :
    s.Equiv t ↔ s = t := by
  have heq : Equivalent lt = Eq := by
    funext a b
    exact propext equivalent_iff_eq
  rw [Equiv, heq, List.forall₂_eq_eq_eq, OrderedSet.ext_iff]

/-- Each element has an equivalent one in an equivalent set. -/
theorem Equiv.exists_mem {s t : OrderedSet lt} (h : s.Equiv t) {a : α} (ha : a ∈ s) :
    ∃ b ∈ t, Equivalent lt a b := by
  obtain ⟨i, hi, rfl⟩ := List.mem_iff_getElem.mp ha
  obtain ⟨hlength, hget⟩ := List.forall₂_iff_get.mp h
  have hi' : i < t.toList.length := hlength ▸ hi
  exact ⟨t.toList.get ⟨i, hi'⟩, List.get_mem _ _, hget i hi hi'⟩

section Congr

variable [IsStrictWeakOrder α lt] {s t : OrderedSet lt} (a : α)

/-- Equivalent elements are greater than the same ones. -/
theorem Equivalent.lt_iff {b c : α} (h : Equivalent lt b c) : lt a b ↔ lt a c := by
  have hlt : ∀ {b c : α}, Equivalent lt b c → lt a b → lt a c := by
    intro b c hbc hab
    by_contra hac
    by_cases hca : lt c a
    · exact hbc.2 (IsTrans.trans c a b hca hab)
    · exact (Equivalent.trans ⟨hac, hca⟩ hbc.symm).1 hab
  exact ⟨hlt h, hlt h.symm⟩

theorem Equivalent.gt_iff {b c : α} (h : Equivalent lt b c) : lt b a ↔ lt c a := by
  have hgt : ∀ {b c : α}, Equivalent lt b c → lt b a → lt c a := by
    intro b c hbc hba
    by_contra hca
    by_cases hac : lt a c
    · exact hbc.1 (IsTrans.trans b a c hba hac)
    · exact (Equivalent.trans hbc ⟨hca, hac⟩).1 hba
  exact ⟨hgt h, hgt h.symm⟩

theorem Equiv.contains_iff (h : s.Equiv t) : s.Contains a ↔ t.Contains a := by
  have hmem : ∀ {s t : OrderedSet lt}, s.Equiv t → s.Contains a → t.Contains a := by
    rintro s t hst ⟨b, hb, hab⟩
    obtain ⟨c, hc, hbc⟩ := hst.exists_mem hb
    exact ⟨c, hc, hab.trans hbc⟩
  exact ⟨hmem h, hmem h.symm⟩

variable [DecidableRel lt]

/-- An element is put in the same place. -/
theorem Equiv.emplace (h : s.Equiv t) : (s.emplace a).Equiv (t.emplace a) := by
  have hinsert : ∀ {l l' : List α}, List.Forall₂ (Equivalent lt) l l' →
      List.Forall₂ (Equivalent lt) (insertList lt a l) (insertList lt a l') := by
    intro l l' hl
    induction hl with
    | nil => exact .cons (.refl a) .nil
    | cons hbc hl ih =>
      rw [insertList, insertList]
      simp only [hbc.lt_iff a, hbc.gt_iff a]
      split_ifs
      · exact .cons (.refl a) (.cons hbc hl)
      · exact .cons hbc ih
      · exact .cons hbc hl
  exact hinsert h

/-- An element is taken out of both. -/
theorem Equiv.erase (h : s.Equiv t) : (s.erase a).Equiv (t.erase a) := by
  refine List.rel_filter (fun b c hbc => ?_) h
  have hiff : Equivalent lt a b ↔ Equivalent lt a c :=
    ⟨fun hab => hab.trans hbc, fun hac => hac.trans hbc.symm⟩
  simp only [decide_eq_true_eq, hiff]

end Congr

end Equiv

end OrderedSet
