import HidHide.ForMathlib.SearchTree
import HidHide.Driver.Basic

/-!
# The process tree

The driver maps process ids to the image name of their executable in a binary tree, with the
verdict of the last whitelist evaluation cached at each node. `bstInsert`, `bstDelete`,
`bstNewNode`, `bstLookup`, `bstAddCount`, `bstCleanup` and `bstFlushEvaluationCache` are the
functions of `Config.c`; a subtree pointer is a `ProcessIdTree`, the `NULL` pointer `nil`, and
the writes through `PPROCESSIDTREE*` are the returned trees. The `NULL` argument checks have no
counterpart: the callers always pass the address of a tree and a node.

Each function is an operation of the search tree library (`bstInsert_eq`, `bstDelete_eq`,
`bstLookup_eq`, …). The specification is the finite map `ProcessMap`, and `IsFiniteMap` relates
the two: `processTree_isFiniteMap` carries the relation over every sequence of requests.
-/

namespace HidHide

/-- `EvaluationCache`: the cached verdict of a node. -/
inductive EvaluationCache where
  | empty
  | found
  | notFound
  deriving DecidableEq, Repr

/-- `PROCESSIDTREE` without its subtree pointers. The name is stored once: the
`UNICODE_STRING` of the source refers to the characters next to it. -/
structure ProcessIdNode where
  pid : UInt32
  fullImageName : UnicodeString
  evaluationCache : EvaluationCache
  deriving DecidableEq, Repr

/-- `PPROCESSIDTREE`. -/
abbrev ProcessIdTree := SearchTree ProcessIdNode

/-! ### The functions of `Config.c` -/

/-- `BstInsert`: the new node comes with empty subtrees. -/
def bstInsert : ProcessIdTree → ProcessIdNode → NTStatus × ProcessIdTree
  | .nil, node => (statusSuccess, .node node .nil .nil)
  | .node root left right, node =>
      if node.pid < root.pid then
        let (ntstatus, left) := bstInsert left node
        (ntstatus, .node root left right)
      else if node.pid > root.pid then
        let (ntstatus, right) := bstInsert right node
        (ntstatus, .node root left right)
      else (statusAlreadyInitialized, .node root left right)

/-- The loop of `BstDelete` to the lowest node of the right tree, with the assignment
`node->left = (*tree)->left` after it. -/
def attachToLowest (left : ProcessIdTree) : ProcessIdTree → ProcessIdTree
  | .nil => left
  | .node node .nil right => .node node left right
  | .node node (.node low lowLeft lowRight) right =>
      .node node (attachToLowest left (.node low lowLeft lowRight)) right

/-- `BstDelete`. -/
def bstDelete : ProcessIdTree → UInt32 → NTStatus × ProcessIdTree
  | .nil, _ => (statusProcessNotInJob, .nil)
  | .node root left right, pid =>
      if pid < root.pid then
        let (ntstatus, left) := bstDelete left pid
        (ntstatus, .node root left right)
      else if pid > root.pid then
        let (ntstatus, right) := bstDelete right pid
        (ntstatus, .node root left right)
      else
        match left, right with
        | .nil, right => (statusProcessInJob, right)
        | left, .nil => (statusProcessInJob, left)
        | left, right => (statusProcessInJob, attachToLowest left right)

/-- What the calls of `BstNewNode` report: whether the pool has the memory, and the status of
the string copy (when the name fits) and of the string initialisation. -/
structure NewNodeOutcome where
  allocated : Bool
  copy : NTStatus
  init : NTStatus

/-- `NTSTRSAFE_UNICODE_STRING_MAX_CCH`: the characters of the name buffer of a node. -/
def maxImageNameChars : ℕ := 32767

/-- `BstNewNode`. The copy needs room for the terminator it appends, and the string is then
read back up to its first terminator. -/
def bstNewNode (o : NewNodeOutcome) (pid : UInt32) (fullImageName : UnicodeString) :
    NTStatus × Option ProcessIdNode :=
  if o.allocated = false then (statusNoMemory, none)
  else
    let copy := if fullImageName.length < maxImageNameChars then o.copy else statusBufferOverflow
    if ¬NTSuccess copy then (copy, none)
    else if ¬NTSuccess o.init then (o.init, none)
    else (statusSuccess, some ⟨pid, cString fullImageName, .empty⟩)

/-- `BstLookup`. -/
def bstLookup : ProcessIdTree → UInt32 → Option ProcessIdNode
  | .nil, _ => none
  | .node root left right, pid =>
      if root.pid < pid then bstLookup right pid
      else if root.pid > pid then bstLookup left pid
      else some root

/-- `BstAddCount`: the counter after the nodes have been added to it. -/
def bstAddCount : ProcessIdTree → ℕ → ℕ
  | .nil, count => count
  | .node _ left right, count => bstAddCount right (bstAddCount left (count + 1))

/-- `BstCleanup`: the nodes in the order in which they are freed, and the tree left. -/
def bstCleanup : ProcessIdTree → List ProcessIdNode × ProcessIdTree
  | .nil => ([], .nil)
  | .node root left right => ((bstCleanup left).1 ++ (bstCleanup right).1 ++ [root], .nil)

/-- `BstFlushEvaluationCache`. -/
def bstFlushEvaluationCache : ProcessIdTree → ProcessIdTree
  | .nil => .nil
  | .node root left right =>
      .node { root with evaluationCache := .empty } (bstFlushEvaluationCache left)
        (bstFlushEvaluationCache right)

/-- The assignment `node->evaluationCache = evaluationCache` through the pointer that
`BstLookup` returned for `pid`. -/
def bstStoreEvaluationCache : ProcessIdTree → UInt32 → EvaluationCache → ProcessIdTree
  | .nil, _, _ => .nil
  | .node root left right, pid, evaluationCache =>
      if root.pid < pid then .node root left (bstStoreEvaluationCache right pid evaluationCache)
      else if root.pid > pid then
        .node root (bstStoreEvaluationCache left pid evaluationCache) right
      else .node { root with evaluationCache } left right

/-! ### The functions as search tree operations -/

/-- The strict order of the tree by process id. -/
abbrev ProcessIdTree.Ordered (tree : ProcessIdTree) : Prop :=
  SearchTree.Ordered ProcessIdNode.pid tree

theorem bstLookup_eq (tree : ProcessIdTree) (pid : UInt32) :
    bstLookup tree pid = tree.find ProcessIdNode.pid pid := by
  induction tree with
  | nil => rfl
  | node root left right ihl ihr => simp only [bstLookup, SearchTree.find, ihl, ihr, gt_iff_lt]

theorem bstInsert_eq (tree : ProcessIdTree) (node : ProcessIdNode) :
    bstInsert tree node =
      (if bstLookup tree node.pid = none then statusSuccess else statusAlreadyInitialized,
        tree.insert ProcessIdNode.pid node) := by
  induction tree with
  | nil => rfl
  | node root left right ihl ihr =>
    simp only [bstInsert, SearchTree.insert, bstLookup, ihl, ihr, gt_iff_lt]
    rcases lt_trichotomy node.pid root.pid with h | h | h
    · simp [h, h.not_gt]
    · simp [h]
    · simp [h, h.not_gt]

theorem attachToLowest_eq (left tree : ProcessIdTree) :
    attachToLowest left tree = SearchTree.graft left tree := by
  induction tree using attachToLowest.induct with
  | case1 => rfl
  | case2 => rfl
  | case3 => simp_all [attachToLowest, SearchTree.graft]

theorem bstDelete_eq (tree : ProcessIdTree) (pid : UInt32) :
    bstDelete tree pid =
      (if bstLookup tree pid = none then statusProcessNotInJob else statusProcessInJob,
        tree.erase ProcessIdNode.pid pid) := by
  induction tree with
  | nil => rfl
  | node root left right ihl ihr =>
    simp only [bstDelete, SearchTree.erase, bstLookup, ihl, ihr, gt_iff_lt]
    rcases lt_trichotomy pid root.pid with h | h | h
    · simp [h, h.not_gt]
    · -- the two cases with an empty subtree are the general one: nothing is regrafted
      cases left with
      | nil =>
        have hgraft : SearchTree.graft SearchTree.nil right = right := by
          clear ihl ihr
          induction right with
          | nil => rfl
          | node a l r ihl _ => rw [SearchTree.graft, ihl]
        simp [h, hgraft]
      | node a l r =>
        cases right with
        | nil => simp [h, SearchTree.graft]
        | node b l' r' => simp [h, attachToLowest_eq]
    · simp [h, h.not_gt]

theorem bstAddCount_eq (tree : ProcessIdTree) (count : ℕ) :
    bstAddCount tree count = count + tree.toList.length := by
  induction tree generalizing count with
  | nil => rfl
  | node root left right ihl ihr =>
    rw [bstAddCount, ihl, ihr, SearchTree.toList_node, List.length_append, List.length_cons]
    omega

theorem bstFlushEvaluationCache_eq (tree : ProcessIdTree) :
    bstFlushEvaluationCache tree =
      tree.map fun node => { node with evaluationCache := .empty } := by
  induction tree with
  | nil => rfl
  | node root left right ihl ihr => rw [bstFlushEvaluationCache, SearchTree.map, ihl, ihr]

/-- Storing a verdict relabels the node of the process, if there is one. -/
theorem bstLookup_bstStoreEvaluationCache (tree : ProcessIdTree) (pid pid' : UInt32)
    (evaluationCache : EvaluationCache) :
    bstLookup (bstStoreEvaluationCache tree pid evaluationCache) pid' =
      if pid' = pid then (bstLookup tree pid).map fun node => { node with evaluationCache }
      else bstLookup tree pid' := by
  induction tree with
  | nil => simp [bstLookup, bstStoreEvaluationCache]
  | node root left right ihl ihr =>
    simp only [bstStoreEvaluationCache, gt_iff_lt]
    -- where the root stands to `pid` decides which branch both functions take
    rcases lt_trichotomy root.pid pid with h | h | h
    · simp only [if_pos h, bstLookup, ihr, gt_iff_lt]
      rcases eq_or_ne pid' pid with rfl | hne
      · simp [h]
      · simp [hne]
    · subst h
      simp only [lt_irrefl, if_false, bstLookup, gt_iff_lt]
      rcases lt_trichotomy root.pid pid' with h | h | h
      · simp [h, h.ne']
      · simp [h]
      · simp [h, h.ne, h.not_gt]
    · simp only [if_neg h.not_gt, if_pos h, bstLookup, ihl, gt_iff_lt]
      rcases eq_or_ne pid' pid with rfl | hne
      · simp [h, h.not_gt]
      · simp [hne]

theorem map_pid_toList_bstStoreEvaluationCache (tree : ProcessIdTree) (pid : UInt32)
    (evaluationCache : EvaluationCache) :
    (bstStoreEvaluationCache tree pid evaluationCache).toList.map ProcessIdNode.pid =
      tree.toList.map ProcessIdNode.pid := by
  induction tree with
  | nil => rfl
  | node root left right ihl ihr =>
    rw [bstStoreEvaluationCache]
    split_ifs <;> simp [ihl, ihr]

/-! ### What the functions do to an ordered tree -/

section Ordered

variable {tree : ProcessIdTree}

theorem ProcessIdTree.Ordered.bstInsert (h : tree.Ordered) (node : ProcessIdNode) :
    ProcessIdTree.Ordered (bstInsert tree node).2 := by
  rw [bstInsert_eq]
  exact SearchTree.Ordered.insert h node

theorem ProcessIdTree.Ordered.bstDelete (h : tree.Ordered) (pid : UInt32) :
    ProcessIdTree.Ordered (bstDelete tree pid).2 := by
  rw [bstDelete_eq]
  exact SearchTree.Ordered.erase h pid

theorem ProcessIdTree.Ordered.bstFlushEvaluationCache (h : tree.Ordered) :
    ProcessIdTree.Ordered (bstFlushEvaluationCache tree) := by
  rw [bstFlushEvaluationCache_eq]
  exact SearchTree.Ordered.map h fun _ => rfl

theorem ProcessIdTree.Ordered.bstStoreEvaluationCache (h : tree.Ordered) (pid : UInt32)
    (evaluationCache : EvaluationCache) :
    ProcessIdTree.Ordered (bstStoreEvaluationCache tree pid evaluationCache) := by
  -- the order is one of the list of process ids, which the store does not change
  rw [ProcessIdTree.Ordered, SearchTree.ordered_iff_pairwise] at h ⊢
  rw [← List.pairwise_map (R := (· < ·)), map_pid_toList_bstStoreEvaluationCache,
    List.pairwise_map]
  exact h

theorem ProcessIdTree.Ordered.mem_toList_iff (h : tree.Ordered) {node : ProcessIdNode} :
    node ∈ tree.toList ↔ HidHide.bstLookup tree node.pid = some node := by
  rw [bstLookup_eq, SearchTree.Ordered.find_eq_some_iff h]
  simp

/-- An insertion of an absent process id succeeds and adds the node to the map. -/
theorem ProcessIdTree.Ordered.bstLookup_bstInsert (h : tree.Ordered) {node : ProcessIdNode}
    (hnode : HidHide.bstLookup tree node.pid = none) (pid : UInt32) :
    HidHide.bstLookup (HidHide.bstInsert tree node).2 pid =
      if pid = node.pid then some node else HidHide.bstLookup tree pid := by
  rw [bstInsert_eq]
  simp only [bstLookup_eq] at hnode ⊢
  exact SearchTree.Ordered.find_insert h hnode pid

theorem ProcessIdTree.Ordered.bstLookup_bstDelete (h : tree.Ordered) (pid pid' : UInt32) :
    HidHide.bstLookup (HidHide.bstDelete tree pid).2 pid' =
      if pid' = pid then none else HidHide.bstLookup tree pid' := by
  rw [bstDelete_eq]
  simp only [bstLookup_eq]
  exact SearchTree.Ordered.find_erase h pid pid'

theorem bstLookup_bstFlushEvaluationCache (tree : ProcessIdTree) (pid : UInt32) :
    bstLookup (bstFlushEvaluationCache tree) pid =
      (bstLookup tree pid).map fun node => { node with evaluationCache := .empty } := by
  have hpid : ∀ node : ProcessIdNode, ({ node with evaluationCache := .empty } : ProcessIdNode).pid
      = node.pid := fun _ => rfl
  rw [bstFlushEvaluationCache_eq, bstLookup_eq, bstLookup_eq]
  exact SearchTree.find_map tree hpid pid

end Ordered

theorem bstLookup_pid {tree : ProcessIdTree} {pid : UInt32} {node : ProcessIdNode}
    (h : bstLookup tree pid = some node) : node.pid = pid :=
  (SearchTree.mem_of_find_eq_some (bstLookup_eq tree pid ▸ h)).2

/-- `BstCleanup` frees each node exactly once and leaves the empty tree. -/
theorem bstCleanup_perm (tree : ProcessIdTree) :
    (bstCleanup tree).1.Perm tree.toList ∧ (bstCleanup tree).2 = .nil := by
  induction tree with
  | nil => exact ⟨.nil, rfl⟩
  | node root left right ihl ihr =>
    refine ⟨?_, rfl⟩
    -- the root is freed after both subtrees and stands between them in the tree
    rw [bstCleanup, SearchTree.toList_node, List.append_assoc]
    exact ihl.1.append ((List.perm_append_singleton root _).trans (ihr.1.cons root))

/-! ### The process tree is a finite map -/

/-- The specification: which node, if any, a process id has. -/
abbrev ProcessMap := UInt32 → Option ProcessIdNode

/-- The requests the tree serves. -/
inductive TreeRequest where
  | insert (node : ProcessIdNode)
  | delete (pid : UInt32)
  | lookup (pid : UInt32)
  | flush

/-- The tree after a request. -/
def TreeRequest.onTree (tree : ProcessIdTree) : TreeRequest → ProcessIdTree
  | insert node => (bstInsert tree node).2
  | delete pid => (bstDelete tree pid).2
  | lookup _ => tree
  | flush => bstFlushEvaluationCache tree

/-- The map after a request: an insertion takes effect on an absent process id only. -/
def TreeRequest.onMap (map : ProcessMap) : TreeRequest → ProcessMap
  | insert node =>
      if map node.pid = none then Function.update map node.pid (some node) else map
  | delete pid => Function.update map pid none
  | lookup _ => map
  | flush => fun pid => (map pid).map fun node => { node with evaluationCache := .empty }

/-- The tree is strictly ordered, each of its nodes is reachable once, and it holds exactly the
nodes of the map: lookup and the node count read them off. -/
structure IsFiniteMap (tree : ProcessIdTree) (map : ProcessMap) : Prop where
  ordered : tree.Ordered
  once : (tree.toList.map ProcessIdNode.pid).Nodup
  mem_iff : ∀ node, node ∈ tree.toList ↔ map node.pid = some node
  lookup : ∀ pid, bstLookup tree pid = map pid
  addCount : ∀ count, bstAddCount tree count = count + {pid | (map pid).isSome}.ncard

/-- What each function returns and does to the nodes of the tree, the other nodes being left as
they are. -/
structure ServesExactly (tree : ProcessIdTree) : Prop where
  insert_absent : ∀ node, bstLookup tree node.pid = none →
    (bstInsert tree node).1 = statusSuccess ∧
      (bstInsert tree node).2.toList.Perm (node :: tree.toList)
  insert_present : ∀ node, bstLookup tree node.pid ≠ none →
    bstInsert tree node = (statusAlreadyInitialized, tree)
  delete_present : ∀ pid node, bstLookup tree pid = some node →
    (bstDelete tree pid).1 = statusProcessInJob ∧
      tree.toList.Perm (node :: (bstDelete tree pid).2.toList)
  delete_absent : ∀ pid, bstLookup tree pid = none →
    bstDelete tree pid = (statusProcessNotInJob, tree)
  flush : bstFlushEvaluationCache tree =
    tree.map fun node => { node with evaluationCache := .empty }

theorem servesExactly (tree : ProcessIdTree) : ServesExactly tree where
  insert_absent node hnode := by
    rw [bstInsert_eq, if_pos hnode]
    rw [bstLookup_eq] at hnode
    exact ⟨rfl, SearchTree.toList_insert_perm hnode⟩
  insert_present node hnode := by
    rw [bstInsert_eq, if_neg hnode]
    rw [bstLookup_eq] at hnode
    rw [SearchTree.insert_of_find_ne_none hnode]
  delete_present pid node hnode := by
    rw [bstDelete_eq, if_neg (by simp [hnode])]
    rw [bstLookup_eq] at hnode
    exact ⟨rfl, SearchTree.toList_erase_perm hnode⟩
  delete_absent pid hpid := by
    rw [bstDelete_eq, if_pos hpid]
    rw [bstLookup_eq] at hpid
    rw [SearchTree.erase_of_find_eq_none hpid]
  flush := bstFlushEvaluationCache_eq tree

/-- An ordered tree with the lookups of a map is that finite map. -/
theorem IsFiniteMap.of_lookup {tree : ProcessIdTree} {map : ProcessMap} (h : tree.Ordered)
    (hlookup : ∀ pid, bstLookup tree pid = map pid) : IsFiniteMap tree map where
  ordered := h
  once := h.nodup_keys
  mem_iff node := by rw [h.mem_toList_iff, hlookup]
  lookup := hlookup
  addCount count := by
    rw [bstAddCount_eq, h.length_toList]
    simp only [← bstLookup_eq, hlookup]

/-- Each request keeps the tree and the map in step. -/
theorem IsFiniteMap.serve {tree : ProcessIdTree} {map : ProcessMap} (h : IsFiniteMap tree map)
    (request : TreeRequest) : IsFiniteMap (request.onTree tree) (request.onMap map) := by
  cases request with
  | insert node =>
    refine .of_lookup (h.ordered.bstInsert node) fun pid => ?_
    rw [TreeRequest.onTree, TreeRequest.onMap]
    split_ifs with hnode
    · rw [h.ordered.bstLookup_bstInsert ((h.lookup _).trans hnode), h.lookup,
        Function.update_apply]
    · have hpresent : bstLookup tree node.pid ≠ none := by rwa [h.lookup]
      rw [(servesExactly tree).insert_present node hpresent, h.lookup]
  | delete pid =>
    refine .of_lookup (h.ordered.bstDelete pid) fun pid' => ?_
    rw [TreeRequest.onTree, TreeRequest.onMap, h.ordered.bstLookup_bstDelete, h.lookup,
      Function.update_apply]
  | lookup pid => exact h
  | flush =>
    refine .of_lookup h.ordered.bstFlushEvaluationCache fun pid => ?_
    rw [TreeRequest.onTree, TreeRequest.onMap, bstLookup_bstFlushEvaluationCache, h.lookup]

/-- **The process tree is a correct finite map.** After every sequence of requests served from
the empty tree, the tree is the finite map that the same requests make of the empty map, and
each further request returns and does exactly what it should. -/
theorem processTree_isFiniteMap (requests : List TreeRequest) :
    IsFiniteMap (requests.foldl TreeRequest.onTree .nil)
        (requests.foldl TreeRequest.onMap fun _ => none) ∧
      ServesExactly (requests.foldl TreeRequest.onTree .nil) := by
  refine ⟨?_, servesExactly _⟩
  have hnil : IsFiniteMap .nil fun _ => none := .of_lookup trivial fun _ => rfl
  -- from the end: the last request is served by the tree that the others have made
  induction requests using List.reverseRecOn with
  | nil => exact hnil
  | append_singleton requests request ih =>
    rw [List.foldl_concat, List.foldl_concat]
    exact ih.serve request

end HidHide
