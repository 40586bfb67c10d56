import Mathlib.Data.List.SplitBy
import Mathlib.Data.List.TakeWhile
import Mathlib.Order.RelClasses
import Mathlib.Tactic.SplitIfs

/-!
# Multimaps kept in order

A multimap keeps its entries in a list in which no key is less than one before it: `emplace` adds
an entry behind all entries whose key is not greater. So the entries of one key stay in the order in
which they were added (`filter_key_ofList`), and leaving out entries before or after they are added
makes no difference (`ofList_filter`).

The runs of equal keys of a multimap are its groups (`filter_runs`): a key has at most one run.
-/

/-- A list of entries in the order of their keys. -/
@[ext]
structure OrderedMultimap {κ : Type*} (lt : κ → κ → Prop) (α : Type*) where
  toList : List (κ × α)
  sorted : toList.Pairwise fun a b => ¬lt b.1 a.1

namespace OrderedMultimap

variable {κ α : Type*} {lt : κ → κ → Prop}

instance : EmptyCollection (OrderedMultimap lt α) := ⟨⟨[], .nil⟩⟩

section Insert

variable [DecidableRel lt]

/-- Insert an entry in front of the first whose key is greater. -/
def insertList (lt : κ → κ → Prop) [DecidableRel lt] (a : κ × α) : List (κ × α) → List (κ × α)
  | [] => [a]
  | b :: l => if lt a.1 b.1 then a :: b :: l else b :: insertList lt a l

theorem perm_insertList (a : κ × α) (l : List (κ × α)) : (insertList lt a l).Perm (a :: l) := by
  induction l with
  | nil => exact .refl _
  | cons b l ih =>
    rw [insertList]
    split_ifs
    · exact .refl _
    · exact (ih.cons b).trans (.swap a b l)

theorem pairwise_insertList [IsStrictOrder κ lt] (a : κ × α) {l : List (κ × α)}
    (h : l.Pairwise fun a b => ¬lt b.1 a.1) :
    (insertList lt a l).Pairwise fun a b => ¬lt b.1 a.1 := by
  induction l with
  | nil => exact List.pairwise_singleton _ a
  | cons b l ih =>
    obtain ⟨hb, hl⟩ := List.pairwise_cons.mp h
    rw [insertList]
    split_ifs with hab
    · refine List.pairwise_cons.mpr ⟨fun x hx hxa => ?_, h⟩
      rcases List.mem_cons.mp hx with rfl | hx
      · exact asymm hab hxa
      · exact hb x hx (IsTrans.trans _ _ _ hxa hab)
    · refine List.pairwise_cons.mpr ⟨fun x hx => ?_, ih hl⟩
      rcases List.mem_cons.mp ((perm_insertList a l).mem_iff.mp hx) with rfl | hx
      · exact hab
      · exact hb x hx

/-- The entries of one key stay in the order in which they are added. -/
theorem filter_key_insertList [DecidableEq κ] [IsStrictOrder κ lt] (a : κ × α) {l : List (κ × α)}
    (h : l.Pairwise fun a b => ¬lt b.1 a.1) (k : κ) :
    (insertList lt a l).filter (·.1 = k) =
      l.filter (·.1 = k) ++ [a].filter (·.1 = k) := by
  induction l with
  | nil => rfl
  | cons b l ih =>
    obtain ⟨hb, hl⟩ := List.pairwise_cons.mp h
    rw [insertList]
    split_ifs with hab
    · by_cases hak : a.1 = k
      · -- the keys behind the place are greater
        have hnone : (b :: l).filter (·.1 = k) = [] := by
          rw [List.filter_eq_nil_iff]
          intro x hx hxk
          have hxa : x.1 = a.1 := (of_decide_eq_true hxk).trans hak.symm
          rcases List.mem_cons.mp hx with rfl | hx
          · exact irrefl a.1 (hxa ▸ hab)
          · exact hb x hx (hxa ▸ hab)
        rw [List.filter_cons, hnone, List.nil_append, List.filter_cons, List.filter_nil]
      · simp [List.filter_cons, hak]
    · rw [List.filter_cons, List.filter_cons, ih hl]
      split_ifs <;> rfl

/-- Entries may be left out before or after another one is added. -/
theorem filter_insertList [IsStrictOrder κ lt] [Std.Trichotomous lt] (a : κ × α)
    {l : List (κ × α)} (h : l.Pairwise fun a b => ¬lt b.1 a.1) (p : κ × α → Bool) :
    (insertList lt a l).filter p = if p a then insertList lt a (l.filter p) else l.filter p := by
  induction l with
  | nil => by_cases ha : p a <;> simp [insertList, ha]
  | cons b l ih =>
    obtain ⟨hb, hl⟩ := List.pairwise_cons.mp h
    rw [insertList]
    by_cases hab : lt a.1 b.1
    · rw [if_pos hab, List.filter_cons]
      split_ifs with ha
      · -- what is not left out is behind the place, too
        rcases hrest : (b :: l).filter p with _ | ⟨c, rest⟩
        · rfl
        · have hc : c ∈ b :: l := List.mem_of_mem_filter (hrest ▸ List.mem_cons_self)
          have hac : lt a.1 c.1 := by
            rcases List.mem_cons.mp hc with rfl | hc
            · exact hab
            · by_contra hnot
              rcases trichotomous_of lt a.1 c.1 with hlt | heq | hlt
              · exact hnot hlt
              · exact hb c hc (heq ▸ hab)
              · exact hb c hc (IsTrans.trans _ _ _ hlt hab)
          rw [insertList, if_pos hac]
      · rfl
    · rw [if_neg hab, List.filter_cons, List.filter_cons, ih hl]
      by_cases hpb : p b
      · simp [hpb, insertList, hab]
        split_ifs <;> rfl
      · simp [hpb]

variable [IsStrictOrder κ lt]

/-- Add an entry behind those of the same key. -/
def emplace (m : OrderedMultimap lt α) (a : κ × α) : OrderedMultimap lt α where
  toList := insertList lt a m.toList
  sorted := pairwise_insertList a m.sorted

/-- The entries of a list, added one after the other. -/
def ofList (lt : κ → κ → Prop) [DecidableRel lt] [IsStrictOrder κ lt] (l : List (κ × α)) :
    OrderedMultimap lt α :=
  l.foldl emplace ∅

theorem perm_foldl_emplace (m : OrderedMultimap lt α) (l : List (κ × α)) :
    (l.foldl emplace m).toList.Perm (m.toList ++ l) := by
  induction l generalizing m with
  | nil => simp
  | cons a l ih =>
    have hmiddle : (a :: m.toList ++ l).Perm (m.toList ++ a :: l) := List.perm_middle.symm
    exact (ih (m.emplace a)).trans (((perm_insertList a m.toList).append_right l).trans hmiddle)

/-- Every entry is there once. -/
theorem perm_ofList (l : List (κ × α)) : (ofList lt l).toList.Perm l :=
  perm_foldl_emplace ∅ l

theorem filter_key_foldl_emplace [DecidableEq κ] (m : OrderedMultimap lt α) (l : List (κ × α))
    (k : κ) : (l.foldl emplace m).toList.filter (·.1 = k) =
      m.toList.filter (·.1 = k) ++ l.filter (·.1 = k) := by
  induction l generalizing m with
  | nil => simp
  | cons a l ih =>
    have hfirst : (a :: l).filter (·.1 = k) = [a].filter (·.1 = k) ++ l.filter (·.1 = k) := by
      rw [← List.filter_append, List.singleton_append]
    rw [List.foldl_cons, ih, hfirst, ← List.append_assoc]
    exact congrArg (· ++ l.filter (·.1 = k)) (filter_key_insertList a m.sorted k)

/-- **The entries of a key** are in the order in which they were added. -/
theorem filter_key_ofList [DecidableEq κ] (l : List (κ × α)) (k : κ) :
    (ofList lt l).toList.filter (·.1 = k) = l.filter (·.1 = k) :=
  filter_key_foldl_emplace ∅ l k

/-- The entries that satisfy a predicate. -/
def filter (p : κ × α → Bool) (m : OrderedMultimap lt α) : OrderedMultimap lt α where
  toList := m.toList.filter p
  sorted := m.sorted.filter p

theorem foldl_emplace_filter [Std.Trichotomous lt] (p : κ × α → Bool) (m : OrderedMultimap lt α)
    (l : List (κ × α)) :
    (l.filter p).foldl emplace (m.filter p) = (l.foldl emplace m).filter p := by
  induction l generalizing m with
  | nil => rfl
  | cons a l ih =>
    have hinsert := filter_insertList a m.sorted p
    by_cases ha : p a
    · have hstep : (m.filter p).emplace a = (m.emplace a).filter p := by
        rw [if_pos ha] at hinsert
        exact OrderedMultimap.ext hinsert.symm
      rw [List.filter_cons_of_pos ha, List.foldl_cons, hstep, ih, List.foldl_cons]
    · have hstep : m.filter p = (m.emplace a).filter p := by
        rw [if_neg ha] at hinsert
        exact OrderedMultimap.ext hinsert.symm
      rw [List.filter_cons_of_neg ha, hstep, ih, List.foldl_cons]

/-- **Leaving out entries** before they are added, or after, is the same. -/
theorem ofList_filter [Std.Trichotomous lt] (p : κ × α → Bool) (l : List (κ × α)) :
    ofList lt (l.filter p) = (ofList lt l).filter p :=
  foldl_emplace_filter p ∅ l

end Insert

/-! ### Runs -/

section Runs

variable [DecidableEq κ]

/-- Two neighbours are in one run: their keys are equal, and of a kind that makes runs. -/
def sameRun (together : κ → Bool) (a b : κ × α) : Bool := a.1 = b.1 && together a.1

/-- The runs of a multimap. An entry whose key makes no runs is a run of its own. -/
def runs (together : κ → Bool) (m : OrderedMultimap lt α) : List (List (κ × α)) :=
  m.toList.splitBy (sameRun together)

/-- Entries of one key that makes runs are a run. -/
theorem isChain_sameRun {together : κ → Bool} {l : List (κ × α)} {k : κ} (h : ∀ a ∈ l, a.1 = k)
    (hk : together k) : l.IsChain fun a b => sameRun together a b := by
  refine List.Pairwise.isChain (List.pairwise_iff_forall_sublist.mpr fun {a b} hab => ?_)
  simp [sameRun, h a (hab.subset (by simp)), h b (hab.subset (by simp)), hk]

/-- The first run: the entry, and those behind it that it makes a run with. -/
theorem splitBy_sameRun_cons (together : κ → Bool) (a : κ × α) (l : List (κ × α)) :
    (a :: l).splitBy (sameRun together) =
      (a :: l.takeWhile (sameRun together a)) ::
        (l.dropWhile (sameRun together a)).splitBy (sameRun together) := by
  have hsame : ∀ b ∈ l.takeWhile (sameRun together a), a.1 = b.1 ∧ together a.1 := fun b hb => by
    simpa [sameRun] using List.mem_takeWhile_imp hb
  have hkey : ∀ b ∈ a :: l.takeWhile (sameRun together a), b.1 = a.1 := by
    intro b hb
    rcases List.mem_cons.mp hb with rfl | hb
    · rfl
    · exact (hsame b hb).1.symm
  have hrun : (a :: l.takeWhile (sameRun together a)).IsChain fun a b => sameRun together a b := by
    by_cases hk : together a.1
    · exact isChain_sameRun hkey hk
    · -- the entry is on its own
      have hnil : l.takeWhile (sameRun together a) = [] :=
        List.eq_nil_iff_forall_not_mem.mpr fun b hb => hk (hsame b hb).2
      rw [hnil]
      exact List.isChain_singleton a
  have hmeet : ∀ x ∈ (a :: l.takeWhile (sameRun together a)).getLast?,
      ∀ y ∈ (l.dropWhile (sameRun together a)).head?, sameRun together x y = false := by
    intro x hx y hy
    have hfirst := List.head?_dropWhile_not (sameRun together a) l
    rw [Option.mem_def.mp hy] at hfirst
    rw [sameRun, hkey x (List.mem_of_mem_getLast? hx)]
    simpa [sameRun] using hfirst
  calc (a :: l).splitBy (sameRun together)
      = (a :: l.takeWhile (sameRun together a) ++
          l.dropWhile (sameRun together a)).splitBy (sameRun together) := by
        rw [List.cons_append, List.takeWhile_append_dropWhile]
    _ = _ := by
        rw [List.splitBy_append hmeet, List.splitBy_of_isChain (List.cons_ne_nil _ _) hrun]
        rfl

/-- The entries of a key are behind those of the lesser keys and in front of those of the greater
ones. -/
theorem eq_append_of_sorted [DecidableRel lt] [IsStrictOrder κ lt] [Std.Trichotomous lt]
    {l : List (κ × α)} (h : l.Pairwise fun a b => ¬lt b.1 a.1) (k : κ) :
    l = l.filter (lt ·.1 k) ++ (l.filter (·.1 = k) ++ l.filter (lt k ·.1)) := by
  induction l with
  | nil => rfl
  | cons a l ih =>
    obtain ⟨ha, hl⟩ := List.pairwise_cons.mp h
    rcases trichotomous_of lt a.1 k with hlt | heq | hgt
    · have hne : a.1 ≠ k := fun h => irrefl k (h ▸ hlt)
      have hnot : ¬lt k a.1 := asymm hlt
      simpa [List.filter_cons, hlt, hne, hnot] using ih hl
    · have hless : l.filter (lt ·.1 k) = [] := by
        rw [List.filter_eq_nil_iff]
        exact fun x hx hxk => ha x hx (heq ▸ of_decide_eq_true hxk)
      have hrest := ih hl
      rw [hless, List.nil_append] at hrest
      simpa [List.filter_cons, heq, hless, irrefl] using hrest
    · have hgreater : ∀ x ∈ a :: l, lt k x.1 := by
        intro x hx
        rcases List.mem_cons.mp hx with rfl | hx
        · exact hgt
        · rcases trichotomous_of lt k x.1 with hlt | heq | hxk
          · exact hlt
          · exact absurd (heq ▸ hgt) (ha x hx)
          · exact absurd (IsTrans.trans _ _ _ hxk hgt) (ha x hx)
      have hless : (a :: l).filter (lt ·.1 k) = [] := by
        rw [List.filter_eq_nil_iff]
        exact fun x hx hxk => asymm (hgreater x hx) (of_decide_eq_true hxk)
      have heq : (a :: l).filter (·.1 = k) = [] := by
        rw [List.filter_eq_nil_iff]
        exact fun x hx hxk => irrefl k (of_decide_eq_true hxk ▸ hgreater x hx)
      have hall : (a :: l).filter (lt k ·.1) = a :: l := by
        rw [List.filter_eq_self]
        exact fun x hx => decide_eq_true (hgreater x hx)
      rw [hless, heq, hall]
      rfl

theorem flatten_runs (together : κ → Bool) (m : OrderedMultimap lt α) :
    (m.runs together).flatten = m.toList :=
  List.flatten_splitBy _ _

theorem key_eq_of_mem_filter {l : List (κ × α)} {k : κ} {a : κ × α}
    (h : a ∈ l.filter (·.1 = k)) : a.1 = k :=
  of_decide_eq_true (List.mem_filter.mp h).2

/-- No run of a list without a key has the key. -/
theorem filter_splitBy_eq_nil {together : κ → Bool} {l : List (κ × α)} {k : κ}
    (h : ∀ a ∈ l, a.1 ≠ k) :
    (l.splitBy (sameRun together)).filter (·.any (·.1 = k)) = [] := by
  rw [List.filter_eq_nil_iff]
  intro run hrun hany
  obtain ⟨a, ha, hak⟩ := List.any_eq_true.mp hany
  have hmem : a ∈ (l.splitBy (sameRun together)).flatten := List.mem_flatten_of_mem hrun ha
  rw [List.flatten_splitBy] at hmem
  exact h a hmem (of_decide_eq_true hak)

/-- The runs with a key are those of its entries. -/
theorem filter_runs [DecidableRel lt] [IsStrictOrder κ lt] [Std.Trichotomous lt]
    (together : κ → Bool) (m : OrderedMultimap lt α) (k : κ) :
    (m.runs together).filter (·.any (·.1 = k)) =
      (m.toList.filter (·.1 = k)).splitBy (sameRun together) := by
  have hless : ∀ a ∈ m.toList.filter (lt ·.1 k), a.1 ≠ k := fun a ha heq =>
    irrefl k (heq ▸ of_decide_eq_true (List.mem_filter.mp ha).2)
  have hgreater : ∀ a ∈ m.toList.filter (lt k ·.1), a.1 ≠ k := fun a ha heq =>
    irrefl k (heq ▸ of_decide_eq_true (List.mem_filter.mp ha).2)
  have hkey : ∀ a ∈ m.toList.filter (·.1 = k), a.1 = k := fun _ => key_eq_of_mem_filter
  have hself : (m.toList.filter (·.1 = k)).splitBy (sameRun together) =
      ((m.toList.filter (·.1 = k)).splitBy (sameRun together)).filter (·.any (·.1 = k)) := by
    refine (List.filter_eq_self.mpr fun run hrun => ?_).symm
    obtain ⟨a, ha⟩ := List.exists_mem_of_ne_nil _ (List.ne_nil_of_mem_splitBy hrun)
    have hmem := List.mem_flatten_of_mem hrun ha
    rw [List.flatten_splitBy] at hmem
    exact List.any_eq_true.mpr ⟨a, ha, decide_eq_true (hkey a hmem)⟩
  -- the key changes where the parts meet
  have hsplit : m.runs together = (m.toList.filter (lt ·.1 k)).splitBy (sameRun together) ++
      ((m.toList.filter (·.1 = k)).splitBy (sameRun together) ++
        (m.toList.filter (lt k ·.1)).splitBy (sameRun together)) := by
    have hmeet : ∀ a b : κ × α, a.1 ≠ b.1 → sameRun together a b = false := fun a b hne => by
      simp [sameRun, hne]
    rw [runs, ← List.splitBy_append, ← List.splitBy_append, ← eq_append_of_sorted m.sorted k]
    · intro a ha b hb
      have hak := hless a (List.mem_of_mem_getLast? ha)
      have halt : lt a.1 k := of_decide_eq_true (List.mem_filter.mp (List.mem_of_mem_getLast? ha)).2
      refine hmeet a b fun heq => ?_
      rcases List.mem_append.mp (List.mem_of_mem_head? hb) with hb | hb
      · exact hak (heq.trans (hkey b hb))
      · exact asymm halt (heq ▸ of_decide_eq_true (List.mem_filter.mp hb).2)
    · intro a ha b hb
      exact hmeet a b fun heq => hgreater b (List.mem_of_mem_head? hb)
        (heq ▸ hkey a (List.mem_of_mem_getLast? ha))
  rw [hsplit, List.filter_append, List.filter_append, filter_splitBy_eq_nil hless,
    filter_splitBy_eq_nil hgreater, List.nil_append, List.append_nil, ← hself]

/-- **A key that makes runs** has one run: all of its entries. -/
theorem filter_runs_of_together [DecidableRel lt] [IsStrictOrder κ lt] [Std.Trichotomous lt]
    {together : κ → Bool} (m : OrderedMultimap lt α) {k : κ} (hk : together k) :
    (m.runs together).filter (·.any (·.1 = k)) =
      if m.toList.filter (·.1 = k) = [] then [] else [m.toList.filter (·.1 = k)] := by
  have hkey : ∀ a ∈ m.toList.filter (·.1 = k), a.1 = k := fun _ => key_eq_of_mem_filter
  rw [filter_runs]
  split_ifs with hnil
  · rw [hnil, List.splitBy_nil]
  · exact List.splitBy_of_isChain hnil (isChain_sameRun hkey hk)

/-- **A key that makes no runs**: each of its entries is on its own. -/
theorem filter_runs_of_alone [DecidableRel lt] [IsStrictOrder κ lt] [Std.Trichotomous lt]
    {together : κ → Bool} (m : OrderedMultimap lt α) {k : κ} (hk : together k = false) :
    (m.runs together).filter (·.any (·.1 = k)) = (m.toList.filter (·.1 = k)).map ([·]) := by
  have hkey : ∀ a ∈ m.toList.filter (·.1 = k), a.1 = k := fun _ => key_eq_of_mem_filter
  rw [filter_runs, List.splitBy_eq_iff]
  refine ⟨by rw [← List.flatMap_def, List.flatMap_singleton'], by simp, ?_, ?_⟩
  · intro run hrun
    obtain ⟨a, -, rfl⟩ := List.mem_map.mp hrun
    exact List.isChain_singleton a
  · rw [List.isChain_map]
    refine List.Pairwise.isChain (List.pairwise_iff_forall_sublist.mpr fun {a b} hab => ?_)
    refine ⟨List.cons_ne_nil _ _, List.cons_ne_nil _ _, ?_⟩
    simp [sameRun, hkey a (hab.subset (by simp)), hk]

end Runs

end OrderedMultimap
