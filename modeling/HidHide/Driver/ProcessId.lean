import HidHide.Driver.ProcessTree

/-!
# Process ids

The functions of `Config.c` over the process tree that the rest of the driver calls:
registration with an image name, unregistration, the whitelist check with its cached verdict, and
the flush of the cache. All of them run under the driver's lock, so each is one function of the
tree.

Each has one lemma that says which node a process id has afterwards
(`ProcessIdTree.Ordered.register`, …); the verdict of the check is described by
`whitelistVerdict`, and `Coherent` says that a cached verdict is the one the list gives.
-/

namespace HidHide

/-! ### The functions of `Config.c` -/

/-- `HidHideProcessIdRegister`. -/
def hidHideProcessIdRegister (o : NewNodeOutcome) (tree : ProcessIdTree) (processId : Handle)
    (fullImageName : UnicodeString) : NTStatus × ProcessIdTree :=
  let pid := processHandleToProcessId processId
  match bstLookup tree pid with
  -- do nothing when the process id is already registered
  | some _ => (statusProcessInJob, tree)
  | none =>
      match bstNewNode o pid fullImageName with
      | (ntstatus, none) => (ntstatus, tree)
      | (_, some node) =>
          let (ntstatus, tree') := bstInsert tree node
          -- on failure the node is freed
          if ¬NTSuccess ntstatus then (ntstatus, tree) else (statusSuccess, tree')

/-- `HidHideProcessIdUnregister`. -/
def hidHideProcessIdUnregister (tree : ProcessIdTree) (processId : Handle) :
    NTStatus × ProcessIdTree :=
  let (ntstatus, tree) := bstDelete tree (processHandleToProcessId processId)
  if ¬NTSuccess ntstatus then (ntstatus, tree) else (statusSuccess, tree)

/-- Some entry of the list equals the image name, ignoring case. -/
def ListMatches (upcase : WChar → WChar) (strings : List UnicodeString)
    (fullImageName : UnicodeString) : Prop :=
  ∃ s ∈ strings, RtlCompareEqual upcase s fullImageName

instance (upcase : WChar → WChar) (strings : List UnicodeString) (fullImageName : UnicodeString) :
    Decidable (ListMatches upcase strings fullImageName) :=
  inferInstanceAs (Decidable (∃ s ∈ strings, _))

/-- `HidHideProcessIdCheckFullImageNameAgainstWhitelist`, against the strings of the collection:
the status, the value of `*cacheHit`, and the tree with the verdict stored. -/
def hidHideProcessIdCheckFullImageNameAgainstWhitelist (upcase : WChar → WChar)
    (tree : ProcessIdTree) (processId : Handle) (strings : List UnicodeString) :
    NTStatus × Bool × ProcessIdTree :=
  let pid := processHandleToProcessId processId
  match bstLookup tree pid with
  | none => (statusSuccess, false, tree)
  | some node =>
      match node.evaluationCache with
      | .found => (statusProcessInJob, true, tree)
      | .notFound => (statusProcessNotInJob, true, tree)
      -- the loop over the collection, up to the first entry that matches
      | .empty =>
          if ListMatches upcase strings node.fullImageName then
            (statusProcessInJob, false, bstStoreEvaluationCache tree pid .found)
          else (statusProcessNotInJob, false, bstStoreEvaluationCache tree pid .notFound)

/-- `HidHideProcessIdsFlushWhitelistEvaluationCache`. -/
def hidHideProcessIdsFlushWhitelistEvaluationCache (tree : ProcessIdTree) : ProcessIdTree :=
  bstFlushEvaluationCache tree

/-! ### Registration -/

/-- `BstNewNode` succeeds: the memory is there, the name fits, and no call fails. -/
def NewNodeOutcome.Registers (o : NewNodeOutcome) (fullImageName : UnicodeString) : Prop :=
  o.allocated = true ∧ fullImageName.length < maxImageNameChars ∧ NTSuccess o.copy ∧
    NTSuccess o.init

instance (o : NewNodeOutcome) : DecidablePred o.Registers := fun _ =>
  inferInstanceAs (Decidable (_ ∧ _ ∧ _ ∧ _))

theorem bstNewNode_snd (o : NewNodeOutcome) (pid : UInt32) (fullImageName : UnicodeString) :
    (bstNewNode o pid fullImageName).2 =
      if o.Registers fullImageName then some ⟨pid, cString fullImageName, .empty⟩ else none := by
  rw [bstNewNode]
  unfold NewNodeOutcome.Registers
  by_cases halloc : o.allocated = true
  · by_cases hlen : fullImageName.length < maxImageNameChars
    · by_cases hcopy : NTSuccess o.copy
      · by_cases hinit : NTSuccess o.init
        · simp [halloc, hlen, hcopy, hinit]
        · simp [halloc, hlen, hcopy, hinit]
      · simp [halloc, hlen, hcopy]
    · simp [halloc, hlen]
  · simp [halloc]

section Ordered

variable {tree : ProcessIdTree} (h : tree.Ordered)
include h

/-- A registration of an absent process id that finds the memory and a name that fits adds a node
with an empty cache; any other one changes nothing. -/
theorem ProcessIdTree.Ordered.register (o : NewNodeOutcome) (processId : Handle)
    (fullImageName : UnicodeString) :
    ProcessIdTree.Ordered (hidHideProcessIdRegister o tree processId fullImageName).2 ∧
      ∀ pid, HidHide.bstLookup (hidHideProcessIdRegister o tree processId fullImageName).2 pid =
        if pid = processHandleToProcessId processId ∧ HidHide.bstLookup tree pid = none ∧
            o.Registers fullImageName then
          some ⟨pid, cString fullImageName, .empty⟩
        else HidHide.bstLookup tree pid := by
  have hnew := bstNewNode_snd o (processHandleToProcessId processId) fullImageName
  rw [hidHideProcessIdRegister]
  rcases hlookup : HidHide.bstLookup tree (processHandleToProcessId processId) with _ | present
  · rcases hnode : bstNewNode o (processHandleToProcessId processId) fullImageName with
      ⟨ntstatus, _ | node⟩
    · -- no node is made
      rw [hnode] at hnew
      have hreg : ¬o.Registers fullImageName := fun hreg => by simp [hreg] at hnew
      exact ⟨h, fun pid => by simp [hreg]⟩
    · -- the node is made, and its insertion cannot fail as the process id is absent
      rw [hnode] at hnew
      have hreg : o.Registers fullImageName := by
        by_contra hreg
        simp [hreg] at hnew
      obtain rfl : node = ⟨processHandleToProcessId processId, cString fullImageName, .empty⟩ := by
        simpa [hreg] using hnew
      have hstatus : NTSuccess (HidHide.bstInsert tree
          ⟨processHandleToProcessId processId, cString fullImageName, .empty⟩).1 := by
        rw [bstInsert_eq, if_pos hlookup]
        exact ntSuccess_statusSuccess
      simp only [hstatus, not_true, if_false]
      refine ⟨h.bstInsert _, fun pid => ?_⟩
      rw [h.bstLookup_bstInsert hlookup]
      rcases eq_or_ne pid (processHandleToProcessId processId) with rfl | hne
      · simp [hlookup, hreg]
      · simp [hne]
  · refine ⟨h, fun pid => ?_⟩
    rcases eq_or_ne pid (processHandleToProcessId processId) with rfl | hne
    · simp [hlookup]
    · simp [hne]

/-- Unregistration removes the node of the process id. -/
theorem ProcessIdTree.Ordered.unregister (processId : Handle) :
    ProcessIdTree.Ordered (hidHideProcessIdUnregister tree processId).2 ∧
      ∀ pid, HidHide.bstLookup (hidHideProcessIdUnregister tree processId).2 pid =
        if pid = processHandleToProcessId processId then none
        else HidHide.bstLookup tree pid := by
  have hsnd : (hidHideProcessIdUnregister tree processId).2 =
      (HidHide.bstDelete tree (processHandleToProcessId processId)).2 := by
    simp only [hidHideProcessIdUnregister]
    split_ifs <;> rfl
  rw [hsnd]
  exact ⟨h.bstDelete _, h.bstLookup_bstDelete _⟩

end Ordered

/-! ### The whitelist check -/

/-- The verdict a list gives on an image name. -/
def whitelistVerdict (upcase : WChar → WChar) (strings : List UnicodeString)
    (fullImageName : UnicodeString) : EvaluationCache :=
  if ListMatches upcase strings fullImageName then .found else .notFound

/-- The cached verdict, if there is one, is the verdict of the list. -/
def ProcessIdNode.Coherent (upcase : WChar → WChar) (strings : List UnicodeString)
    (node : ProcessIdNode) : Prop :=
  (node.evaluationCache = .found → ListMatches upcase strings node.fullImageName) ∧
    (node.evaluationCache = .notFound → ¬ListMatches upcase strings node.fullImageName)

/-- Every node of the tree is coherent. -/
def ProcessIdTree.Coherent (upcase : WChar → WChar) (strings : List UnicodeString)
    (tree : ProcessIdTree) : Prop :=
  ∀ node ∈ tree.toList, node.Coherent upcase strings

section Check

variable (upcase : WChar → WChar) (strings : List UnicodeString) {tree : ProcessIdTree}

theorem coherent_iff {node : ProcessIdNode} :
    node.Coherent upcase strings ↔
      node.evaluationCache = .empty ∨
        node.evaluationCache = whitelistVerdict upcase strings node.fullImageName := by
  rw [ProcessIdNode.Coherent, whitelistVerdict]
  cases node.evaluationCache <;> split_ifs with hmatch <;> simp [hmatch]

/-- A node without a verdict is coherent with every list. -/
theorem coherent_of_empty {node : ProcessIdNode} (h : node.evaluationCache = .empty) :
    node.Coherent upcase strings := (coherent_iff upcase strings).mpr (.inl h)

/-- A flush leaves no verdict that could be wrong. -/
theorem coherent_bstFlushEvaluationCache (tree : ProcessIdTree) :
    ProcessIdTree.Coherent upcase strings (bstFlushEvaluationCache tree) := by
  intro node hnode
  rw [bstFlushEvaluationCache_eq, SearchTree.toList_map] at hnode
  obtain ⟨node', -, rfl⟩ := List.mem_map.mp hnode
  exact coherent_of_empty upcase strings rfl

theorem ProcessIdTree.Ordered.coherent_iff (h : tree.Ordered) :
    tree.Coherent upcase strings ↔
      ∀ pid node, HidHide.bstLookup tree pid = some node → node.Coherent upcase strings := by
  constructor
  · intro hcoherent pid node hnode
    obtain rfl := bstLookup_pid hnode
    exact hcoherent node (h.mem_toList_iff.mpr hnode)
  · intro hcoherent node hnode
    exact hcoherent node.pid node (h.mem_toList_iff.mp hnode)

/-- The node after a check: a node without a verdict gets the one of the list. -/
def ProcessIdNode.evaluated (node : ProcessIdNode) : ProcessIdNode :=
  match node.evaluationCache with
  | .empty =>
      { node with evaluationCache := whitelistVerdict upcase strings node.fullImageName }
  | _ => node

theorem ProcessIdNode.evaluated_of_ne_empty {node : ProcessIdNode}
    (h : node.evaluationCache ≠ .empty) : node.evaluated upcase strings = node := by
  rw [evaluated]
  cases hcache : node.evaluationCache
  · exact absurd hcache h
  · rfl
  · rfl

theorem ProcessIdNode.evaluated_of_empty {node : ProcessIdNode}
    (h : node.evaluationCache = .empty) :
    node.evaluated upcase strings =
      { node with evaluationCache := whitelistVerdict upcase strings node.fullImageName } := by
  rw [evaluated, h]

@[simp] theorem ProcessIdNode.evaluated_fullImageName (node : ProcessIdNode) :
    (node.evaluated upcase strings).fullImageName = node.fullImageName := by
  rw [evaluated]
  split <;> rfl

/-- Evaluation keeps a node coherent. -/
theorem ProcessIdNode.Coherent.evaluated {upcase : WChar → WChar} {strings : List UnicodeString}
    {node : ProcessIdNode} (h : node.Coherent upcase strings) :
    (node.evaluated upcase strings).Coherent upcase strings := by
  by_cases hcache : node.evaluationCache = .empty
  · rw [ProcessIdNode.evaluated_of_empty upcase strings hcache, HidHide.coherent_iff]
    exact .inr rfl
  · rwa [ProcessIdNode.evaluated_of_ne_empty upcase strings hcache]

theorem check_none {processId : Handle}
    (hnode : HidHide.bstLookup tree (processHandleToProcessId processId) = none) :
    hidHideProcessIdCheckFullImageNameAgainstWhitelist upcase tree processId strings =
      (statusSuccess, false, tree) := by
  simp only [hidHideProcessIdCheckFullImageNameAgainstWhitelist, hnode]

/-- A cached verdict is returned without a look at the list. -/
theorem check_cached {processId : Handle} {node : ProcessIdNode}
    (hnode : HidHide.bstLookup tree (processHandleToProcessId processId) = some node)
    (hcache : node.evaluationCache ≠ .empty) :
    hidHideProcessIdCheckFullImageNameAgainstWhitelist upcase tree processId strings =
      (if node.evaluationCache = .found then statusProcessInJob else statusProcessNotInJob, true,
        tree) := by
  simp only [hidHideProcessIdCheckFullImageNameAgainstWhitelist, hnode]
  rcases hc : node.evaluationCache
  · exact absurd hc hcache
  · rfl
  · rfl

/-- Without a cached verdict, the one of the list is stored. -/
theorem check_empty {processId : Handle} {node : ProcessIdNode}
    (hnode : HidHide.bstLookup tree (processHandleToProcessId processId) = some node)
    (hcache : node.evaluationCache = .empty) :
    hidHideProcessIdCheckFullImageNameAgainstWhitelist upcase tree processId strings =
      (if whitelistVerdict upcase strings node.fullImageName = .found then statusProcessInJob
        else statusProcessNotInJob, false,
        bstStoreEvaluationCache tree (processHandleToProcessId processId)
          (whitelistVerdict upcase strings node.fullImageName)) := by
  simp only [hidHideProcessIdCheckFullImageNameAgainstWhitelist, hnode, hcache, whitelistVerdict]
  split_ifs <;> simp_all

/-- The check evaluates the node of the process. -/
theorem ProcessIdTree.Ordered.check (h : tree.Ordered) (processId : Handle) :
    let tree' :=
      (hidHideProcessIdCheckFullImageNameAgainstWhitelist upcase tree processId strings).2.2
    ProcessIdTree.Ordered tree' ∧
      ∀ pid, HidHide.bstLookup tree' pid =
        if pid = processHandleToProcessId processId then
          (HidHide.bstLookup tree pid).map (ProcessIdNode.evaluated upcase strings)
        else HidHide.bstLookup tree pid := by
  rcases hnode : HidHide.bstLookup tree (processHandleToProcessId processId) with _ | node
  · rw [check_none upcase strings hnode]
    refine ⟨h, fun pid => ?_⟩
    split_ifs with hpid
    · rw [hpid, hnode, Option.map_none]
    · rfl
  · by_cases hcache : node.evaluationCache = .empty
    · rw [check_empty upcase strings hnode hcache]
      refine ⟨h.bstStoreEvaluationCache _ _, fun pid => ?_⟩
      rw [bstLookup_bstStoreEvaluationCache]
      split_ifs with hpid
      · rw [hpid, hnode, Option.map_some, Option.map_some,
          ProcessIdNode.evaluated_of_empty upcase strings hcache]
      · rfl
    · rw [check_cached upcase strings hnode hcache]
      refine ⟨h, fun pid => ?_⟩
      change HidHide.bstLookup tree pid = _
      split_ifs with hpid
      · rw [hpid, hnode, Option.map_some,
          ProcessIdNode.evaluated_of_ne_empty upcase strings hcache]
      · rfl

/-- The status of the check is the verdict of the evaluated node. -/
theorem check_status (processId : Handle) :
    (hidHideProcessIdCheckFullImageNameAgainstWhitelist upcase tree processId strings).1 =
        statusProcessInJob ↔
      ∃ node, HidHide.bstLookup tree (processHandleToProcessId processId) = some node ∧
        (node.evaluated upcase strings).evaluationCache = .found := by
  have hne : statusSuccess ≠ statusProcessInJob := by decide
  have hne' : statusProcessNotInJob ≠ statusProcessInJob := by decide
  rcases hnode : HidHide.bstLookup tree (processHandleToProcessId processId) with _ | node
  · rw [check_none upcase strings hnode]
    simp [hne]
  · by_cases hcache : node.evaluationCache = .empty
    · rw [check_empty upcase strings hnode hcache]
      simp [ProcessIdNode.evaluated_of_empty upcase strings hcache, hne']
    · rw [check_cached upcase strings hnode hcache]
      simp [ProcessIdNode.evaluated_of_ne_empty upcase strings hcache, hne']

/-- The check of a coherent tree decides whether the name of the process is on the list. -/
theorem ProcessIdTree.Ordered.check_status_of_coherent (h : tree.Ordered)
    (hcoherent : tree.Coherent upcase strings) (processId : Handle) :
    (hidHideProcessIdCheckFullImageNameAgainstWhitelist upcase tree processId strings).1 =
        statusProcessInJob ↔
      ∃ node, HidHide.bstLookup tree (processHandleToProcessId processId) = some node ∧
        ListMatches upcase strings node.fullImageName := by
  rw [check_status]
  refine exists_congr fun node => and_congr_right fun hnode => ?_
  have hverdict : (node.evaluated upcase strings).evaluationCache =
      whitelistVerdict upcase strings node.fullImageName := by
    -- a cached verdict is the one an evaluation would come to
    rcases (HidHide.coherent_iff upcase strings).mp
      ((h.coherent_iff upcase strings).mp hcoherent _ node hnode) with hempty | hcache
    · rw [ProcessIdNode.evaluated_of_empty _ _ hempty]
    · have hne : node.evaluationCache ≠ .empty := by
        rw [hcache, whitelistVerdict]
        split_ifs <;> simp
      rw [ProcessIdNode.evaluated_of_ne_empty _ _ hne, hcache]
  rw [hverdict, whitelistVerdict]
  split_ifs with hmatch <;> simp [hmatch]

end Check

end HidHide
