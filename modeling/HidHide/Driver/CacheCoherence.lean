import HidHide.Driver.Interleaving

/-!
# The evaluation cache under interleaving

A check of `Whitelisted` is made with the handle that was read before the lock was taken. When a
`SetWhitelist` comes and goes in between, the check evaluates the image name against the list that
has been replaced, and stores the verdict after the flush.

`cache_coherent` says exactly when the cached verdicts are those of the whitelist whenever no
`SetWhitelist` is in progress: when every check that is made in such a state, and has to evaluate
a name, comes to the verdict of the whitelist in force. A verdict that is stored while a
`SetWhitelist` is in progress does not matter, as its flush is still to come.
-/

namespace HidHide

/-- Evaluation against another list keeps a coherent node coherent exactly when nothing was
evaluated or the two lists agree on its name. -/
theorem ProcessIdNode.coherent_evaluated_iff {upcase : WChar → WChar}
    {strings strings' : List UnicodeString} {node : ProcessIdNode}
    (h : node.Coherent upcase strings) :
    (node.evaluated upcase strings').Coherent upcase strings ↔
      (node.evaluationCache = .empty →
        (ListMatches upcase strings' node.fullImageName ↔
          ListMatches upcase strings node.fullImageName)) := by
  by_cases hcache : node.evaluationCache = .empty
  · rw [evaluated_of_empty upcase strings' hcache]
    simp only [ProcessIdNode.Coherent, whitelistVerdict, hcache, true_implies]
    split_ifs with hmatch
    · simp [hmatch]
    · simp [hmatch]
  · rw [evaluated_of_ne_empty upcase strings' hcache]
    exact iff_of_true h fun hempty => absurd hempty hcache

namespace Concurrent

variable {upcase : WChar → WChar} {s s' : Concurrent}

/-- No `SetWhitelist` is in progress. -/
def NoSetWhitelist (s : Concurrent) : Prop :=
  .replaceList .whitelist ∉ s.calls ∧ .flushCache ∉ s.calls

/-- A check that has to evaluate the image name comes to the verdict of the whitelist in force,
unless a `SetWhitelist` is in progress. -/
def UpToDate (upcase : WChar → WChar) (s : Concurrent) : AtomicStep → Prop
  | .checkWhitelist processId whitelistedFullImageNames =>
      s.NoSetWhitelist →
        ∀ node ∈ bstLookup s.driver.processIdTree (processHandleToProcessId processId),
          node.evaluationCache = .empty →
            (ListMatches upcase (s.driver.framework.contents whitelistedFullImageNames)
                node.fullImageName ↔
              ListMatches upcase (s.driver.list .whitelist) node.fullImageName)
  | _ => True

/-- No `SetWhitelist` and no `Whitelisted` is in progress. -/
def Idle (s : Concurrent) : Prop :=
  s.NoSetWhitelist ∧ ∀ processId handle, .checkWhitelist processId handle ∉ s.calls

instance (s : Concurrent) : Decidable s.NoSetWhitelist := inferInstanceAs (Decidable (_ ∧ _))

instance (upcase : WChar → WChar) (s : Concurrent) : DecidablePred (s.UpToDate upcase)
  | .checkWhitelist _ _ => inferInstanceAs (Decidable (s.NoSetWhitelist → ∀ node ∈ _, _))
  | .persistList _ _ _ => .isTrue trivial
  | .replaceList _ _ => .isTrue trivial
  | .flushCache => .isTrue trivial
  | .persistSwitch _ _ _ => .isTrue trivial
  | .assignSwitch _ _ => .isTrue trivial
  | .readWhitelist _ => .isTrue trivial
  | .register _ _ _ => .isTrue trivial
  | .unregister _ => .isTrue trivial

/-- Without a `SetWhitelist` in progress, the cached verdicts are those of the whitelist. -/
def CacheCoherent (upcase : WChar → WChar) (s : Concurrent) : Prop :=
  s.NoSetWhitelist → s.driver.processIdTree.Coherent upcase (s.driver.list .whitelist)

/-- A started driver knows no process, so it has cached no verdict. -/
theorem start_cacheCoherent {o : CreateOutcome} {fw : Framework} :
    (start o fw).CacheCoherent upcase := by
  intro _ node hnode
  simp [start, onDriverCreate] at hnode

/-! ### What each step does to the cache -/

theorem noSetWhitelist_cons {call : Call} (hcalls : s'.calls = call :: s.calls)
    (hreplace : call ≠ .replaceList .whitelist) (hflush : call ≠ .flushCache) :
    s'.NoSetWhitelist ↔ s.NoSetWhitelist := by
  simp [NoSetWhitelist, hcalls, hreplace.symm, hflush.symm]

theorem noSetWhitelist_erase {call : Call} (hcalls : s'.calls = s.calls.erase call)
    (hreplace : call ≠ .replaceList .whitelist) (hflush : call ≠ .flushCache) :
    s'.NoSetWhitelist ↔ s.NoSetWhitelist := by
  rw [NoSetWhitelist, hcalls, List.mem_erase_of_ne hreplace.symm, List.mem_erase_of_ne hflush.symm,
    NoSetWhitelist]

/-- A step that changes neither the process tree nor the whitelist, and ends no `SetWhitelist`. -/
theorem CacheCoherent.of_same (h : s.CacheCoherent upcase)
    (htree : s'.driver.processIdTree = s.driver.processIdTree)
    (hlist : s'.driver.list .whitelist = s.driver.list .whitelist)
    (hcalls : s'.NoSetWhitelist → s.NoSetWhitelist) : s'.CacheCoherent upcase := by
  intro hidle
  rw [htree, hlist]
  exact h (hcalls hidle)

/-- What a check makes of a coherent cache. -/
theorem cacheCoherent_check_iff (hs : s.Valid) (hcoherent : s.CacheCoherent upcase)
    {processId : Handle} {handle : WdfCollection}
    (h : s.step upcase (.checkWhitelist processId handle) = some s') :
    s'.CacheCoherent upcase ↔ s.UpToDate upcase (.checkWhitelist processId handle) := by
  obtain ⟨-, rfl⟩ := resume_eq_some h
  obtain ⟨hord, hlookup⟩ :=
    hs.ordered.check upcase (s.driver.framework.contents handle) processId
  refine imp_congr_ctx (noSetWhitelist_erase rfl (by simp) (by simp)) fun hidle => ?_
  have hnodes := (hs.ordered.coherent_iff upcase _).mp (hcoherent hidle)
  -- only the node of the process is evaluated; the others are coherent before and after
  refine (hord.coherent_iff upcase _).trans ⟨fun h node hnode => ?_, fun h pid node hnode => ?_⟩
  · refine (ProcessIdNode.coherent_evaluated_iff (hnodes _ node hnode)).mp
      (h (processHandleToProcessId processId) _ ?_)
    rw [hlookup, if_pos rfl, hnode, Option.map_some]
  · rw [hlookup] at hnode
    split_ifs at hnode with hpid
    · obtain ⟨node', hnode', rfl⟩ := Option.map_eq_some_iff.mp hnode
      rw [hpid] at hnode'
      exact (ProcessIdNode.coherent_evaluated_iff (hnodes _ node' hnode')).mpr (h node' hnode')
    · exact hnodes pid node hnode

/-- A step on the tree whose nodes are coherent ones of before, or have no verdict. -/
theorem CacheCoherent.of_nodes (h : s.CacheCoherent upcase) (hs : s.Valid) {tree : ProcessIdTree}
    (hord : tree.Ordered)
    (hnodes : ∀ pid node, bstLookup tree pid = some node →
      node.evaluationCache = .empty ∨ bstLookup s.driver.processIdTree pid = some node) :
    CacheCoherent upcase { s with driver := { s.driver with processIdTree := tree } } := by
  intro hidle
  refine (hord.coherent_iff upcase _).mpr fun pid node hnode => ?_
  rcases hnodes pid node hnode with hempty | hbefore
  · exact coherent_of_empty upcase _ hempty
  · exact (hs.ordered.coherent_iff upcase _).mp (h hidle) pid node hbefore

/-- **A step keeps the cache coherent** when it is up to date, and only then. -/
theorem cacheCoherent_step (hs : s.Valid) (hcoherent : s.CacheCoherent upcase) {e : AtomicStep}
    (h : s.step upcase e = some s') : s'.CacheCoherent upcase ↔ s.UpToDate upcase e := by
  cases e with
  | checkWhitelist processId handle => exact cacheCoherent_check_iff hs hcoherent h
  | persistList kind o buffer =>
    obtain ⟨hcalls, -, hctx, htree, hcontents, -⟩ := step_persistList h
    refine iff_of_true (fun hidle => ?_) trivial
    cases kind with
    -- `SetWhitelist` is in progress from its write to its flush, and nothing is claimed meanwhile
    | whitelist => exact absurd (by rw [hcalls]; exact List.mem_cons_self) hidle.1
    | blacklist =>
      refine hcoherent.of_same htree (Driver.list_congr hctx hcontents .whitelist)
        (noSetWhitelist_cons hcalls (by simp) (by simp)).mp hidle
  | replaceList kind o =>
    obtain ⟨-, hcalls, -, -, htree, -⟩ := step_replaceList h
    refine iff_of_true (fun hidle => ?_) trivial
    cases kind with
    | whitelist =>
      exact absurd (by rw [hcalls]; exact List.mem_append_left _ List.mem_cons_self) hidle.2
    | blacklist =>
      refine hcoherent.of_same htree ((hs.list_replaceList h).2 .whitelist (by simp))
        (noSetWhitelist_erase hcalls (by simp) (by simp)).mp hidle
  | flushCache =>
    obtain ⟨-, rfl⟩ := resume_eq_some h
    refine iff_of_true (fun _ => ?_) trivial
    exact coherent_bstFlushEvaluationCache upcase _ s.driver.processIdTree
  | persistSwitch kind o value =>
    obtain ⟨hcalls, -, hctx, htree, hcontents, -⟩ := step_persistSwitch h
    exact iff_of_true (hcoherent.of_same htree (Driver.list_congr hctx hcontents .whitelist)
      (noSetWhitelist_cons hcalls (by simp) (by simp)).mp) trivial
  | assignSwitch kind value =>
    obtain ⟨-, rfl⟩ := resume_eq_some h
    refine iff_of_true (hcoherent.of_same rfl ?_
      (noSetWhitelist_erase rfl (by simp) (by simp)).mp) trivial
    exact congrArg s.driver.framework.contents (SwitchKind.collection_setValue _ kind _ _)
  | readWhitelist processId =>
    obtain rfl := Option.some.inj h
    exact iff_of_true (hcoherent.of_same rfl rfl
      (noSetWhitelist_cons rfl (by simp) (by simp)).mp) trivial
  | register o processId fullImageName =>
    obtain rfl := Option.some.inj h
    obtain ⟨hord, hlookup⟩ := hs.ordered.register o processId fullImageName
    refine iff_of_true (hcoherent.of_nodes hs hord fun pid node hnode => ?_) trivial
    rw [hlookup] at hnode
    split_ifs at hnode
    · obtain rfl := Option.some.inj hnode
      exact .inl rfl
    · exact .inr hnode
  | unregister processId =>
    obtain rfl := Option.some.inj h
    obtain ⟨hord, hlookup⟩ := hs.ordered.unregister processId
    refine iff_of_true (hcoherent.of_nodes hs hord fun pid node hnode => ?_) trivial
    rw [hlookup] at hnode
    split_ifs at hnode
    exact .inr hnode

end Concurrent

/-! ### Whole runs -/

open Concurrent

/-- **The evaluation cache under interleaving.** In a run whose checks are all up to date, the
cached verdicts are those of the whitelist whenever no `SetWhitelist` and no `Whitelisted` is in
progress; and they are so whenever no `SetWhitelist` is in progress in no other run. -/
theorem cache_coherent (upcase : WChar → WChar) {o : CreateOutcome} {fw : Framework}
    (hstart : NTSuccess (onDriverCreate o fw).1) {steps : List AtomicStep} {s : Concurrent}
    (hrun : Machine.run (step upcase) (start o fw) steps = some s) :
    (Machine.Along (step upcase) (UpToDate upcase) (start o fw) steps → s.Idle →
      s.driver.processIdTree.Coherent upcase (s.driver.list .whitelist)) ∧
    ((∀ done, done <+: steps → ∀ t, Machine.run (step upcase) (start o fw) done = some t →
        t.CacheCoherent upcase) ↔
      Machine.Along (step upcase) (UpToDate upcase) (start o fw) steps) := by
  have hexact := Machine.forall_prefix_iff_along
    (I := fun s => s.Valid ∧ s.CacheCoherent upcase) (P := CacheCoherent upcase)
    (C := UpToDate upcase) (fun _ h => h.2)
    (fun s e s' hs h => ⟨fun hC => ⟨hs.1.step h, (cacheCoherent_step hs.1 hs.2 h).mpr hC⟩,
      fun hC hcoherent => hC ((cacheCoherent_step hs.1 hs.2 h).mp hcoherent)⟩)
    ⟨start_valid hstart, start_cacheCoherent⟩ hrun
  exact ⟨fun halong hidle => hexact.mpr halong steps (List.prefix_refl _) s hrun hidle.1, hexact⟩

/-- A whitelist of one name, and a check of the process of that name. -/
def promptCheck : List AtomicStep :=
  [.register ⟨true, statusSuccess, statusSuccess⟩ (processHandle 8) [0x41],
    .persistList .whitelist .success [0x41, nul, nul], .replaceList .whitelist .success,
    .flushCache, .readWhitelist (processHandle 8), .checkWhitelist (processHandle 8) 3]

theorem cache_coherent_promptCheck :
    ∃ s, Machine.run (step id) (start .success .empty) promptCheck = some s ∧
      s.driver.processIdTree.Coherent id (s.driver.list .whitelist) := by
  obtain ⟨s, hs, hcalls⟩ := Option.map_eq_some_iff.mp
    (show (Machine.run (step id) (start .success .empty) promptCheck).map calls = some [] by decide)
  have hidle : s.Idle := by simp [Idle, NoSetWhitelist, hcalls]
  exact ⟨s, hs, (cache_coherent id (by decide) hs).1 (by decide) hidle⟩

/-- The whitelist is replaced between the read of its handle and the check. -/
def staleCheck : List AtomicStep :=
  [.register ⟨true, statusSuccess, statusSuccess⟩ (processHandle 8) [0x41],
    .persistList .whitelist .success [0x41, nul, nul], .replaceList .whitelist .success,
    .flushCache, .readWhitelist (processHandle 8),
    .persistList .whitelist .success [0x42, nul, nul], .replaceList .whitelist .success,
    .flushCache, .checkWhitelist (processHandle 8) 3]

/-- No call is in progress, and the process is found on a whitelist that no longer lists it. -/
theorem staleCheck_found :
    (Machine.run (step id) (start .success .empty) staleCheck).map (fun s =>
        (s.calls, bstLookup s.driver.processIdTree 8, s.driver.list .whitelist)) =
      some ([], some ⟨8, [0x41], .found⟩, [[0x42]]) ∧
    ¬ListMatches id [[0x42]] [0x41] := by
  decide

end HidHide
