import HidHide.Driver.AccessDecision

/-!
# The executable of a process

The first image loaded into a process is its executable, and the ones after it are modules. The
driver knows the two apart only by whether the process already has a node, so when the first
notification of a process leaves no node behind (it carries no name, or no node can be made for
it), the name of a module is registered as that of the process.

`firstNotified` is what the first notification of a process says, `firstRegistered` the first
name for which a node can be made; both are functions of the operations alone, and the second one
is what the tree holds (`names_foldl_next`). `judgedByExecutable_iff` says in which runs the two
agree throughout.
-/

namespace HidHide

namespace Operation

/-- What is known of the first notification of a process since its last exit, after one more
operation. -/
def notify (pid : UInt32) (first : Option (Option UnicodeString)) :
    Operation → Option (Option UnicodeString)
  | loadImage _ fullImageName pid' =>
      if pid' = pid then first.or (some (fullImageName.map ImageName.chars)) else first
  | processExit pid' => if pid' = pid then none else first
  | _ => first

/-- The first notification of a process since its last exit: the name it carries, if any. -/
def firstNotified (operations : List Operation) (pid : UInt32) : Option (Option UnicodeString) :=
  operations.foldl (notify pid) none

/-- What is known of the first notification for which a node can be made, after one more
operation. -/
def register (pid : UInt32) (first : Option UnicodeString) : Operation → Option UnicodeString
  | loadImage o (some fullImageName) pid' =>
      if pid' = pid ∧ pid ≠ 0 ∧ o.Registers fullImageName.chars then
        first.or (some fullImageName.chars)
      else first
  | processExit pid' => if pid' = pid then none else first
  | _ => first

/-- The name in the first notification of a process, since its last exit, for which a node can be
made. -/
def firstRegistered (operations : List Operation) (pid : UInt32) : Option UnicodeString :=
  operations.foldl (register pid) none

/-- After these operations, the next one keeps a process with its executable: for a process that
has had a notification but has no node yet, a node is made only under the name in the first
notification. -/
def KeepsExecutable (operations : List Operation) : Operation → Prop
  | loadImage o (some fullImageName) pid =>
      pid ≠ 0 → o.Registers fullImageName.chars → firstRegistered operations pid = none →
        ∀ first ∈ firstNotified operations pid, first = some fullImageName.chars
  | _ => True

theorem firstNotified_concat (operations : List Operation) (operation : Operation)
    (pid : UInt32) :
    firstNotified (operations ++ [operation]) pid =
      notify pid (firstNotified operations pid) operation := List.foldl_concat ..

theorem firstRegistered_concat (operations : List Operation) (operation : Operation)
    (pid : UInt32) :
    firstRegistered (operations ++ [operation]) pid =
      register pid (firstRegistered operations pid) operation := List.foldl_concat ..

end Operation

open Operation

theorem names_next (r : Reference) (operation : Operation) (pid : UInt32) :
    (r.next operation).names pid = register pid (r.names pid) operation := by
  cases operation with
  | loadImage o fullImageName pid' =>
    rcases fullImageName with _ | name
    · rfl
    rw [Reference.next, register]
    -- only the name of the process itself can change, and only when it has none
    rcases eq_or_ne pid' pid with rfl | hne
    · rcases hnames : r.names pid' with _ | present
      · by_cases hreg : pid' ≠ 0 ∧ o.Registers name.chars
        · simp [hreg]
        · simp [hreg, hnames]
      · simp [hnames]
    · have hsame : (if pid' = pid ∧ pid ≠ 0 ∧ o.Registers name.chars then
          (r.names pid).or (some name.chars) else r.names pid) = r.names pid :=
        if_neg fun h => hne h.1
      rw [hsame]
      split_ifs
      · exact Function.update_of_ne hne.symm _ _
      · rfl
  | processExit pid' => simp only [Reference.next, register, Function.update_apply, eq_comm]
  | _ => rfl

/-- The tree holds the first name for which a node can be made. -/
theorem names_foldl_next {r : Reference} {pid : UInt32} (hr : r.names pid = none)
    (operations : List Operation) :
    (operations.foldl Reference.next r).names pid = firstRegistered operations pid := by
  induction operations using List.reverseRecOn with
  | nil => exact hr
  | append_singleton operations operation ih =>
    rw [List.foldl_concat, firstRegistered_concat, names_next, ih]

/-- Every process in the tree is there under the name in its first notification. -/
def JudgedByExecutable (operations : List Operation) (d : Driver) : Prop :=
  ∀ pid node, bstLookup d.processIdTree pid = some node →
    firstNotified operations pid = some (some node.fullImageName)

/-- What a state shows of this is decided by the operations. -/
theorem judgedByExecutable_iff_firstRegistered {operations : List Operation} {d : Driver}
    {r : Reference} (hr : ∀ pid, r.names pid = none)
    (href : d.reference = operations.foldl Reference.next r) :
    JudgedByExecutable operations d ↔
      ∀ pid name, firstRegistered operations pid = some name →
        firstNotified operations pid = some (some name) := by
  have hnames : ∀ pid, (bstLookup d.processIdTree pid).map ProcessIdNode.fullImageName =
      firstRegistered operations pid := by
    intro pid
    rw [← names_foldl_next (hr pid) operations, ← href]
    rfl
  constructor
  · intro h pid name hname
    obtain ⟨node, hnode, rfl⟩ := Option.map_eq_some_iff.mp ((hnames pid).trans hname)
    exact h pid node hnode
  · intro h pid node hnode
    refine h pid node.fullImageName ?_
    rw [← hnames, hnode, Option.map_some]

/-- One more operation keeps the names that are registered the first ones exactly when it keeps
each process with its executable. -/
theorem keepsExecutable_iff {operations : List Operation} {operation : Operation}
    (h : ∀ pid name, firstRegistered operations pid = some name →
      firstNotified operations pid = some (some name)) :
    (∀ pid name, firstRegistered (operations ++ [operation]) pid = some name →
        firstNotified (operations ++ [operation]) pid = some (some name)) ↔
      KeepsExecutable operations operation := by
  simp only [firstNotified_concat, firstRegistered_concat]
  cases operation with
  | loadImage o fullImageName pid =>
    rcases fullImageName with _ | executable
    · -- a notification without a name comes first, or comes too late
      refine iff_of_true (fun pid' name hname => ?_) trivial
      rw [notify]
      split_ifs
      · rw [h pid' name hname]
        rfl
      · exact h pid' name hname
    · constructor
      -- a registration under another name than the first would show in the process itself
      · intro hnext hpid hregisters hnone first hfirst
        rw [Option.mem_def] at hfirst
        have hname := hnext pid executable.chars
        simp only [register, notify, hnone, hfirst, hpid, hregisters, ne_eq, not_false_eq_true,
          and_self, if_true, Option.none_or, Option.some_or, forall_const] at hname
        exact Option.some.inj hname
      · intro hkeeps pid' name hname
        rw [register] at hname
        rw [notify]
        -- a process that has a node keeps its name; one that has none gets it from this operation
        rcases hpresent : firstRegistered operations pid' with _ | present
        · rw [hpresent, Option.none_or] at hname
          split_ifs at hname with hreg
          obtain ⟨rfl, hpid, hregisters⟩ := hreg
          rw [if_pos rfl, ← hname]
          rcases hfirst : firstNotified operations pid with _ | first
          · rfl
          · rw [hkeeps hpid hregisters hpresent first hfirst]
            rfl
        · obtain rfl : present = name := by simpa [hpresent] using hname
          rw [h pid' present hpresent]
          split_ifs <;> rfl
  | processExit pid =>
    refine iff_of_true (fun pid' name => ?_) trivial
    rw [register, notify]
    split_ifs
    · simp
    · exact h pid' name
  | _ => exact iff_of_true h trivial

/-- **A process is judged by its executable.** In every state of a run of a started driver, the
processes in the tree are there under the names in their first notifications, exactly when each
operation of the run keeps the processes with their executables. -/
theorem judgedByExecutable_iff (upcase : WChar → WChar) {o : CreateOutcome} {fw : Framework}
    (hstart : NTSuccess (onDriverCreate o fw).1) {operations : List Operation} {d : Driver}
    (hrun : Machine.run (Driver.perform upcase) (onDriverCreate o fw).2 operations = some d) :
    (∀ done, done <+: operations → ∀ d',
        Machine.run (Driver.perform upcase) (onDriverCreate o fw).2 done = some d' →
          JudgedByExecutable done d') ↔
      ∀ done operation, done ++ [operation] <+: operations → KeepsExecutable done operation := by
  have hnone : ∀ pid, (onDriverCreate o fw).2.reference.names pid = none := fun _ => rfl
  have hjudged : ∀ done, done <+: operations →
      ((∀ d', Machine.run (Driver.perform upcase) (onDriverCreate o fw).2 done = some d' →
        JudgedByExecutable done d') ↔
          ∀ pid name, firstRegistered done pid = some name →
            firstNotified done pid = some (some name)) := by
    intro done hdone
    obtain ⟨t, ht⟩ := Machine.exists_run_of_prefix (Driver.perform upcase) hrun hdone
    have href := ((onDriverCreate_sound upcase hstart).run ht).2
    rw [← judgedByExecutable_iff_firstRegistered hnone href]
    refine ⟨fun h => h t ht, fun h d' hd' => ?_⟩
    obtain rfl : t = d' := Option.some.inj (ht.symm.trans hd')
    exact h
  -- by induction on the prefix, each operation being the last one of a prefix of the run
  constructor
  · intro h done operation hprefix
    have hdone : done <+: operations := (List.prefix_append done [operation]).trans hprefix
    exact (keepsExecutable_iff ((hjudged done hdone).mp (h done hdone))).mp
      ((hjudged _ hprefix).mp (h _ hprefix))
  · intro h done hdone
    rw [hjudged done hdone]
    induction done using List.reverseRecOn with
    | nil => simp [firstRegistered]
    | append_singleton done operation ih =>
      exact (keepsExecutable_iff (ih ((List.prefix_append done [operation]).trans hdone))).mpr
        (h done operation hdone)

/-- The executable `A` and the module `B` of one process are loaded; a node can be made for the
executable, or not. -/
def executableAndModule (allocated : Bool) : List Operation :=
  [.loadImage ⟨allocated, statusSuccess, statusSuccess⟩ (some (.letter 0)) 8,
    .loadImage ⟨true, statusSuccess, statusSuccess⟩ (some (.letter 1)) 8]

/-- The module does not change the name of a registered process. -/
theorem judgedByExecutable_module :
    ∃ d, Machine.run (Driver.perform id) firstDriver (executableAndModule true) = some d ∧
      JudgedByExecutable (executableAndModule true) d := by
  have hstart : NTSuccess (onDriverCreate .success .empty).1 := by decide
  refine ⟨_, rfl, (judgedByExecutable_iff id hstart rfl).mpr ?_ _ (List.prefix_refl _) _ rfl⟩
  intro done operation hprefix
  rcases done with _ | ⟨first, _ | ⟨second, done⟩⟩
  · obtain ⟨rfl, -⟩ := List.cons_prefix_cons.mp hprefix
    intro _ _ _ first hfirst
    simp [firstNotified] at hfirst
  · obtain ⟨rfl, hrest⟩ := List.cons_prefix_cons.mp hprefix
    obtain ⟨rfl, -⟩ := List.cons_prefix_cons.mp hrest
    intro _ _ hnone
    exact absurd hnone (by decide)
  · have hlength := hprefix.length_le
    simp [executableAndModule] at hlength

/-- Without a node for the executable, the process is registered as its module. -/
theorem registered_as_module :
    ∃ d, Machine.run (Driver.perform id) firstDriver (executableAndModule false) = some d ∧
      ¬JudgedByExecutable (executableAndModule false) d := by
  refine ⟨_, rfl, fun h => ?_⟩
  have hmodule := h 8 ⟨8, [0x42], .empty⟩ (by decide)
  exact absurd hmodule (by decide)

end HidHide
