import HidHide.ForMathlib.Machine
import HidHide.Driver.Requests

/-!
# Whole operations

The driver as a machine whose steps are whole operations: notifications, successful setters,
session requests, the flush at system shutdown, and device opens. A setter is enabled when it
succeeds. A session request is given by the paths of the entries it adds; what becomes of the
pointers that link them is the subject of `HidHide.Driver.SessionBlacklist`.

`Driver.Sound` is the invariant that every operation keeps (`Driver.Sound.perform`): the context
refers to collections that exist, the process tree is ordered, and each cached verdict is the one
that the whitelist gives.
-/

namespace HidHide

/-- An operation of the driver, with the outcomes of the calls it makes. Processes are given by
their 32-bit ids. -/
inductive Operation where
  | loadImage (o : NewNodeOutcome) (fullImageName : Option ImageName) (pid : UInt32)
  | processExit (pid : UInt32)
  | setList (kind : ListKind) (o : ListOutcome) (buffer : List WChar)
  | setSwitch (kind : SwitchKind) (o : WriteOutcome) (value : Bool)
  | addSession (pid : UInt32) (paths : List UnicodeString)
  | clearSession (pid : UInt32)
  | shutdown
  | openDevice (deviceInstancePath : UnicodeString) (pid : UInt32) (sessionId : UInt32)

namespace Operation

/-- The operation succeeds: it is a setter whose calls succeed, or no setter. -/
def Succeeds : Operation → Prop
  | setList _ o buffer => o.write.Ok ∧ o.read.Ok (some (.regMultiSz (storedChars buffer))) ∧
      Loadable (some (.regMultiSz (storedChars buffer)))
  | setSwitch _ o _ => o.Ok
  | _ => True

instance : DecidablePred Succeeds
  | setList .. => inferInstanceAs (Decidable (_ ∧ _ ∧ _))
  | setSwitch _ o _ => inferInstanceAs (Decidable o.Ok)
  | loadImage .. => .isTrue trivial
  | processExit .. => .isTrue trivial
  | addSession .. => .isTrue trivial
  | clearSession .. => .isTrue trivial
  | shutdown => .isTrue trivial
  | openDevice .. => .isTrue trivial

/-- The operation is a device open. -/
def IsOpen : Operation → Prop
  | openDevice .. => True
  | _ => False

instance : DecidablePred IsOpen
  | openDevice .. => .isTrue trivial
  | loadImage .. => .isFalse id
  | processExit .. => .isFalse id
  | setList .. => .isFalse id
  | setSwitch .. => .isFalse id
  | addSession .. => .isFalse id
  | clearSession .. => .isFalse id
  | shutdown => .isFalse id

end Operation

/-- Perform an operation; a setter that fails is not performed. -/
def Driver.perform (upcase : WChar → WChar) (d : Driver) : Operation → Option Driver
  | .loadImage o fullImageName pid =>
      some (onSystemLoadImage o d fullImageName (processHandle pid))
  | .processExit pid => some (onSystemProcessChange d (processHandle pid) false)
  | .setList kind o buffer =>
      if NTSuccess (HidHide.setList kind o buffer d).1 then
        some (HidHide.setList kind o buffer d).2
      else none
  | .setSwitch kind o value =>
      if NTSuccess (HidHide.setSwitch kind o value d).1 then
        some (HidHide.setSwitch kind o value d).2.2
      else none
  | .addSession pid paths => some (appendSessionBlacklist d (processHandle pid) paths)
  | .clearSession pid => some (sessionBlacklistCleanupForPid d (processHandle pid))
  | .shutdown => some (flushEvaluationCache d)
  | .openDevice deviceInstancePath pid sessionId =>
      some (onDeviceFileCreate upcase d deviceInstancePath (processHandle pid) sessionId).2.2

/-- Whether an operation is enabled does not depend on the state. -/
theorem Driver.perform_isSome_iff (upcase : WChar → WChar) (d : Driver) (operation : Operation) :
    (d.perform upcase operation).isSome ↔ operation.Succeeds := by
  cases operation with
  | setList kind o buffer =>
    rw [Driver.perform, Operation.Succeeds, ← setList_success_iff kind buffer o d]
    split_ifs with h <;> simp [h]
  | setSwitch kind o value =>
    rw [Driver.perform, Operation.Succeeds, ← setSwitch_success_iff kind o value d]
    split_ifs with h <;> simp [h]
  | _ => simp [Driver.perform, Operation.Succeeds]

/-! ### The cache-free reference -/

/-- The state without process tree and cache: the image name of each process, the lists, the
switches and the session blacklist. -/
@[ext]
structure Reference where
  names : UInt32 → Option UnicodeString
  list : ListKind → List UnicodeString
  switch : SwitchKind → Bool
  sessionBlacklist : List SessionBlacklistEntry

/-- The reference state of the driver. -/
def Driver.reference (d : Driver) : Reference where
  names pid := (bstLookup d.processIdTree pid).map ProcessIdNode.fullImageName
  list := d.list
  switch kind := kind.value d.context
  sessionBlacklist := d.context.sessionBlacklist

/-- What an operation does to the reference state. A process gets its image name at its first
registration since its last exit; a device open changes nothing. -/
def Reference.next (r : Reference) : Operation → Reference
  | .loadImage o (some fullImageName) pid =>
      if pid ≠ 0 ∧ r.names pid = none ∧ o.Registers fullImageName.chars then
        { r with names := Function.update r.names pid (some fullImageName.chars) }
      else r
  | .loadImage _ none _ => r
  | .processExit pid =>
      { r with
        names := Function.update r.names pid none
        sessionBlacklist := r.sessionBlacklist.filter (·.ownerPid ≠ processHandle pid) }
  | .setList kind _ buffer =>
      let strings := decodedValue (some (.regMultiSz (storedChars buffer)))
      { r with list := Function.update r.list kind (strings.getD []) }
  | .setSwitch kind _ value => { r with switch := Function.update r.switch kind value }
  | .addSession pid paths =>
      { r with sessionBlacklist :=
          r.sessionBlacklist ++ paths.map (⟨processHandle pid, ·⟩) }
  | .clearSession pid =>
      { r with sessionBlacklist :=
          r.sessionBlacklist.filter (·.ownerPid ≠ processHandle pid) }
  | .shutdown => r
  | .openDevice .. => r

/-! ### The invariant -/

/-- The context refers to collections that exist, the process tree is ordered, and the cached
verdicts are those of the whitelist. -/
structure Driver.Sound (upcase : WChar → WChar) (d : Driver) : Prop where
  wellFormed : d.WellFormed
  ordered : d.processIdTree.Ordered
  coherent : d.processIdTree.Coherent upcase (d.list .whitelist)

namespace Driver.Sound

variable {upcase : WChar → WChar} {d d' : Driver}

/-- A node of a sound driver is coherent with the whitelist. -/
theorem coherent_node (h : d.Sound upcase) {pid : UInt32} {node : ProcessIdNode}
    (hnode : bstLookup d.processIdTree pid = some node) :
    node.Coherent upcase (d.list .whitelist) :=
  (h.ordered.coherent_iff upcase _).mp h.coherent pid node hnode

/-- Only the process tree has changed, and its nodes are coherent. -/
theorem of_tree (h : d.Sound upcase) {tree : ProcessIdTree} (hord : tree.Ordered)
    (hcoherent : ∀ pid node, bstLookup tree pid = some node →
      node.Coherent upcase (d.list .whitelist)) :
    Driver.Sound upcase { d with processIdTree := tree } where
  wellFormed := h.wellFormed
  ordered := hord
  coherent := (hord.coherent_iff upcase _).mpr hcoherent

/-- Only the session blacklist has changed. -/
theorem withSessionBlacklist (h : d.Sound upcase) (entries : List SessionBlacklistEntry) :
    (d.withSessionBlacklist entries).Sound upcase where
  wellFormed kind := by
    rw [collection_withSessionBlacklist]
    exact h.wellFormed kind
  ordered := h.ordered
  coherent := by
    rw [list_withSessionBlacklist]
    exact h.coherent

theorem reference_withSessionBlacklist (d : Driver) (entries : List SessionBlacklistEntry) :
    (d.withSessionBlacklist entries).reference =
      { d.reference with sessionBlacklist := entries } :=
  Reference.ext rfl (funext fun kind => list_withSessionBlacklist _ _ kind)
    (funext fun kind => value_withSessionBlacklist _ _ kind) rfl

theorem loadImage (h : d.Sound upcase) (o : NewNodeOutcome) (fullImageName : Option ImageName)
    (pid : UInt32) :
    (onSystemLoadImage o d fullImageName (processHandle pid)).Sound upcase ∧
      (onSystemLoadImage o d fullImageName (processHandle pid)).reference =
        d.reference.next (.loadImage o fullImageName pid) := by
  rcases fullImageName with _ | name
  · exact ⟨h, rfl⟩
  rw [onSystemLoadImage]
  by_cases hpid : pid = 0
  · rw [if_neg (not_not.mpr (processHandle_eq_zero_iff.mpr hpid)), Reference.next,
      if_neg fun hp => hp.1 hpid]
    exact ⟨h, rfl⟩
  rw [if_pos fun hp => hpid (processHandle_eq_zero_iff.mp hp)]
  obtain ⟨hord, hlookup⟩ := h.ordered.register o (processHandle pid) name.chars
  rw [processHandleToProcessId_processHandle, ImageName.cString_chars] at hlookup
  refine ⟨h.of_tree hord fun pid' node hnode => ?_, ?_⟩
  · rw [hlookup] at hnode
    split_ifs at hnode
    -- a node that has just been registered has no verdict
    · obtain rfl := Option.some.inj hnode
      exact coherent_of_empty upcase _ rfl
    · exact h.coherent_node hnode
  · have hnone : d.reference.names pid = none ↔ bstLookup d.processIdTree pid = none :=
      Option.map_eq_none_iff
    rw [Reference.next]
    split_ifs with hreg
    · refine Reference.ext (funext fun pid' => ?_) rfl rfl rfl
      change (bstLookup _ pid').map _ = Function.update d.reference.names pid _ pid'
      rw [hlookup, Function.update_apply]
      rcases eq_or_ne pid' pid with rfl | hne
      · simp [hnone.mp hreg.2.1, hreg.2.2]
      · simp [hne, Driver.reference]
    · -- no registration is due in the reference, so none has taken place
      refine Reference.ext (funext fun pid' => ?_) rfl rfl rfl
      change (bstLookup _ pid').map _ = (bstLookup _ pid').map _
      rw [hlookup, if_neg]
      rintro ⟨rfl, hlookup, hregisters⟩
      exact hreg ⟨hpid, hnone.mpr hlookup, hregisters⟩

theorem processExit (h : d.Sound upcase) (pid : UInt32) :
    (onSystemProcessChange d (processHandle pid) false).Sound upcase ∧
      (onSystemProcessChange d (processHandle pid) false).reference =
        d.reference.next (.processExit pid) := by
  obtain ⟨hord, hlookup⟩ := h.ordered.unregister (processHandle pid)
  rw [processHandleToProcessId_processHandle] at hlookup
  rw [onSystemProcessChange, if_pos rfl, sessionBlacklistCleanupForPid]
  refine ⟨withSessionBlacklist (h.of_tree hord fun pid' node hnode => ?_) _, ?_⟩
  · rw [hlookup] at hnode
    split_ifs at hnode
    exact h.coherent_node hnode
  · rw [reference_withSessionBlacklist]
    refine Reference.ext (funext fun pid' => ?_) rfl rfl rfl
    change (bstLookup (hidHideProcessIdUnregister d.processIdTree (processHandle pid)).2 pid').map
      ProcessIdNode.fullImageName = Function.update d.reference.names pid none pid'
    rw [hlookup, Function.update_apply]
    split_ifs <;> rfl

/-- A flush keeps the names. -/
theorem map_fullImageName_flush (tree : ProcessIdTree) (pid : UInt32) :
    (bstLookup (bstFlushEvaluationCache tree) pid).map ProcessIdNode.fullImageName =
      (bstLookup tree pid).map ProcessIdNode.fullImageName := by
  rw [bstLookup_bstFlushEvaluationCache, Option.map_map]
  rfl

theorem flush (h : d.Sound upcase) : (flushEvaluationCache d).Sound upcase ∧
    (flushEvaluationCache d).reference = d.reference := by
  refine ⟨⟨h.wellFormed, h.ordered.bstFlushEvaluationCache, ?_⟩,
    Reference.ext (funext fun pid => map_fullImageName_flush _ _) rfl rfl rfl⟩
  exact coherent_bstFlushEvaluationCache upcase _ d.processIdTree

theorem setList (h : d.Sound upcase) (kind : ListKind) (o : ListOutcome) (buffer : List WChar)
    (hok : NTSuccess (HidHide.setList kind o buffer d).1) :
    (HidHide.setList kind o buffer d).2.Sound upcase ∧
      (HidHide.setList kind o buffer d).2.reference =
        d.reference.next (.setList kind o buffer) := by
  have hset := listSet_of_success kind buffer hok
  obtain ⟨d', hd'⟩ : ∃ d', d' = (HidHide.setList kind o buffer d).2 := ⟨_, rfl⟩
  rw [← hd'] at hset ⊢
  have hlist : d'.list = Function.update d.list kind
      ((decodedValue (some (.regMultiSz (storedChars buffer)))).getD []) := by
    funext kind'
    rw [Function.update_apply, hset.decoded, Option.getD_some]
    split_ifs with hkind
    · rw [hkind]
    · exact hset.other h.wellFormed kind' hkind
  refine ⟨⟨hset.wellFormed h.wellFormed, ?_, ?_⟩, Reference.ext ?_ hlist ?_ ?_⟩
  · rw [hset.processIdTree]
    cases kind
    · exact h.ordered.bstFlushEvaluationCache
    · exact h.ordered
  · -- the flush is what makes the tree coherent with the new whitelist
    cases kind
    · rw [hset.processIdTree]
      exact coherent_bstFlushEvaluationCache upcase _ d.processIdTree
    · rw [hset.processIdTree, hset.other h.wellFormed .whitelist (by simp)]
      exact h.coherent
  · funext pid
    change (bstLookup d'.processIdTree pid).map _ = (bstLookup d.processIdTree pid).map _
    rw [hset.processIdTree]
    cases kind
    · exact map_fullImageName_flush d.processIdTree pid
    · rfl
  · funext kind'
    simp only [Driver.reference, Reference.next, hset.context, SwitchKind.value_setCollection]
  · simp only [Driver.reference, Reference.next, hset.context,
      ListKind.setCollection_sessionBlacklist]

theorem setSwitch (h : d.Sound upcase) (kind : SwitchKind) (o : WriteOutcome) (value : Bool)
    (ho : o.Ok) :
    (HidHide.setSwitch kind o value d).2.2.Sound upcase ∧
      (HidHide.setSwitch kind o value d).2.2.reference =
        d.reference.next (.setSwitch kind o value) := by
  obtain ⟨hctx, htree, hcontents, hnext⟩ := setSwitch_of_ok kind o value d ho
  obtain ⟨d', hd'⟩ : ∃ d', d' = (HidHide.setSwitch kind o value d).2.2 := ⟨_, rfl⟩
  rw [← hd'] at hctx htree hcontents hnext ⊢
  have hlist : d'.list = d.list := by
    funext kind'
    rw [Driver.list, hcontents, hctx, SwitchKind.collection_setValue, Driver.list]
  refine ⟨⟨fun kind' => ?_, ?_, ?_⟩, Reference.ext ?_ hlist ?_ ?_⟩
  · rw [hctx, hnext, SwitchKind.collection_setValue]
    exact h.wellFormed kind'
  · rw [htree]
    exact h.ordered
  · rw [htree, hlist]
    exact h.coherent
  · simp only [Driver.reference, Reference.next, htree]
  · funext kind'
    simp only [Driver.reference, Reference.next, hctx, SwitchKind.value_setValue,
      Function.update_apply]
  · simp only [Driver.reference, Reference.next, hctx, SwitchKind.setValue_sessionBlacklist]

/-- A getter of a list leaves the driver as it is, but for the collections it has deleted. -/
theorem getList (h : d.Sound upcase) (kind : ListKind) (o : ReadOutcome)
    (buffer : Option (List WChar)) :
    let d' := (HidHide.getList kind o buffer d).2.2.2
    d'.Sound upcase ∧ d'.reference = d.reference ∧
      d'.framework.registry = d.framework.registry := by
  obtain ⟨fw, hfw⟩ : ∃ fw, fw = (hidHideDriverCreateCollectionForMultiStringProperty o
    kind.property d.framework).2.2 := ⟨_, rfl⟩
  -- whether or not a collection has been created, those that existed are as before
  have hframe : fw.registry = d.framework.registry ∧
      (∀ c ≠ d.framework.nextCollection, fw.contents c = d.framework.contents c) ∧
      d.framework.nextCollection ≤ fw.nextCollection := by
    rw [hfw]
    by_cases hread : o.Ok (d.framework.registry kind.property) ∧
        Loadable (d.framework.registry kind.property)
    · obtain ⟨strings, hv⟩ := Option.isSome_iff_exists.mp hread.2
      obtain ⟨-, -, hcreated⟩ := createCollection_success hread.1 hv
      refine ⟨hcreated.registry, fun c hc => ?_, ?_⟩
      · rw [hcreated.contents, Function.update_of_ne hc]
      · rw [hcreated.nextCollection]
        exact Nat.le_succ _
    · obtain ⟨-, -, hnot⟩ := createCollection_failure hread
      exact ⟨hnot.registry, hnot.contents, hnot.le_nextCollection⟩
  obtain ⟨hregistry, hcontents, hnext⟩ := hframe
  have hdriver : ∃ fw', (HidHide.getList kind o buffer d).2.2.2 = { d with framework := fw' } ∧
      fw'.registry = fw.registry ∧ fw'.contents = fw.contents ∧
      fw'.nextCollection = fw.nextCollection := by
    simp only [HidHide.getList, ← hfw]
    split_ifs
    · exact ⟨_, rfl, rfl, rfl, rfl⟩
    · exact ⟨_, rfl, rfl, rfl, rfl⟩
  obtain ⟨fw', hd', hregistry', hcontents', hnext'⟩ := hdriver
  intro d'
  have hlist : d'.list = d.list := by
    funext kind'
    simp only [d', hd', Driver.list, hcontents']
    exact hcontents _ (h.wellFormed kind').ne
  refine ⟨⟨fun kind' => ?_, ?_, ?_⟩, Reference.ext ?_ hlist ?_ ?_, ?_⟩
  · simp only [d', hd', hnext']
    exact (h.wellFormed kind').trans_le hnext
  · simp only [d', hd']
    exact h.ordered
  · rw [hlist]
    simp only [d', hd']
    exact h.coherent
  · simp only [d', hd', Driver.reference]
  · simp only [d', hd', Driver.reference]
  · simp only [d', hd', Driver.reference]
  · simp only [d', hd', hregistry', hregistry]

/-- A device open evaluates the node of the process and changes nothing else. -/
theorem openDevice (h : d.Sound upcase) (deviceInstancePath : UnicodeString) (processId : Handle)
    (sessionId : UInt32) :
    (onDeviceFileCreate upcase d deviceInstancePath processId sessionId).2.2.Sound upcase ∧
      (onDeviceFileCreate upcase d deviceInstancePath processId sessionId).2.2.reference =
        d.reference := by
  rcases onDeviceFileCreate_state upcase d deviceInstancePath processId sessionId with hd | hd
  · rw [hd]
    exact ⟨h, rfl⟩
  · -- the open ran a check, made with the whitelist the driver is coherent with
    obtain ⟨hord, hlookup⟩ := h.ordered.check upcase (d.list .whitelist) processId
    rw [hd]
    refine ⟨h.of_tree hord fun pid node hnode => ?_,
      Reference.ext (funext fun pid => ?_) rfl rfl rfl⟩
    · rw [hlookup] at hnode
      split_ifs at hnode with hpid
      · obtain ⟨node', hnode', rfl⟩ := Option.map_eq_some_iff.mp hnode
        exact (h.coherent_node hnode').evaluated
      · exact h.coherent_node hnode
    · change (bstLookup _ pid).map _ = (bstLookup d.processIdTree pid).map _
      rw [hlookup]
      split_ifs
      · rw [Option.map_map]
        exact congrFun (congrArg Option.map (funext fun node =>
          ProcessIdNode.evaluated_fullImageName upcase _ node)) _
      · rfl

/-- **Each operation keeps the driver sound** and does to it what it does to the reference. -/
theorem perform (h : d.Sound upcase) {operation : Operation}
    (hstep : d.perform upcase operation = some d') :
    d'.Sound upcase ∧ d'.reference = d.reference.next operation := by
  cases operation with
  | loadImage o fullImageName pid =>
    obtain rfl := Option.some.inj hstep
    exact h.loadImage o fullImageName pid
  | processExit pid =>
    obtain rfl := Option.some.inj hstep
    exact h.processExit pid
  | setList kind o buffer =>
    rw [Driver.perform] at hstep
    split_ifs at hstep with hok
    obtain rfl := Option.some.inj hstep
    exact h.setList kind o buffer hok
  | setSwitch kind o value =>
    rw [Driver.perform] at hstep
    split_ifs at hstep with hok
    obtain rfl := Option.some.inj hstep
    exact h.setSwitch kind o value ((setSwitch_success_iff kind o value d).mp hok)
  | addSession pid paths =>
    obtain rfl := Option.some.inj hstep
    exact ⟨h.withSessionBlacklist _, reference_withSessionBlacklist d _⟩
  | clearSession pid =>
    obtain rfl := Option.some.inj hstep
    exact ⟨h.withSessionBlacklist _, reference_withSessionBlacklist d _⟩
  | shutdown =>
    obtain rfl := Option.some.inj hstep
    exact h.flush
  | openDevice deviceInstancePath pid sessionId =>
    obtain rfl := Option.some.inj hstep
    exact h.openDevice deviceInstancePath (processHandle pid) sessionId

end Driver.Sound

end HidHide
