import HidHide.ForMathlib.PastTime
import HidHide.Driver.SessionHiding

/-!
# The log of grants

`OnDeviceFileCreate` is to log the first time that a process is granted access to a blacklisted
device. It does not keep what it has logged: a grant is logged when the verdict of `Whitelisted` has
not been in the evaluation cache of the process. What the cache remembers is another event, that an
open of the process has been challenged since it was registered (`cached_iff_onceSince`): a process
without a node has no cache, and a denial fills the cache as well as a grant does.

`logsFirstGrant_iff` says in which runs the first grant is logged, and no later open. The runs have
no request that adds an entry to the session blacklist: after such a request an open may walk into
what is no entry (`linkedDecision_eq_uncached`).
-/

namespace HidHide

open Machine

/-! ### Challenges, grants and exits -/

/-- An open is up to `Whitelisted`: the process is not the system, the service is active, and the
device is on the blacklist. -/
def Driver.Challenges (upcase : WChar → WChar) (d : Driver) (deviceInstancePath : UnicodeString)
    (processId : Handle) (sessionId : UInt32) : Prop :=
  systemPid ≠ processHandleToProcessId processId ∧ d.context.active = true ∧
    blacklisted upcase (d.list .blacklist) d.context.sessionBlacklist deviceInstancePath
      sessionId = true

instance (upcase : WChar → WChar) (d : Driver) (deviceInstancePath : UnicodeString)
    (processId : Handle) (sessionId : UInt32) :
    Decidable (d.Challenges upcase deviceInstancePath processId sessionId) :=
  inferInstanceAs (Decidable (_ ∧ _ ∧ _))

/-- The process is registered. -/
def Driver.Registered (d : Driver) (pid : UInt32) : Prop :=
  ∃ node, bstLookup d.processIdTree pid = some node

/-- The process has a verdict in its evaluation cache. -/
def Driver.Cached (d : Driver) (pid : UInt32) : Prop :=
  ∃ node, bstLookup d.processIdTree pid = some node ∧ node.evaluationCache ≠ .empty

/-- Only a registered process has a cache. -/
theorem Driver.Cached.registered {d : Driver} {pid : UInt32} (h : d.Cached pid) :
    d.Registered pid := by
  obtain ⟨node, hnode, -⟩ := h
  exact ⟨node, hnode⟩

theorem Driver.not_cached_of_lookup_eq_none {d : Driver} {pid : UInt32}
    (h : bstLookup d.processIdTree pid = none) : ¬d.Cached pid := by
  intro hcached
  obtain ⟨node, hnode⟩ := hcached.registered
  rw [h] at hnode
  cases hnode

namespace DriverEvent

variable (upcase : WChar → WChar) (pid : UInt32)

/-- An open of the process that is challenged. -/
def IsChallenge (d : Driver) : DriverEvent → Prop
  | fileCreate _ deviceInstancePath processId sessionId =>
      processHandleToProcessId processId = pid ∧
        d.Challenges upcase deviceInstancePath processId sessionId
  | _ => False

/-- An open of the process that is granted access to a blacklisted device. -/
def IsGrant (d : Driver) : DriverEvent → Prop
  | fileCreate _ deviceInstancePath processId sessionId =>
      processHandleToProcessId processId = pid ∧
        d.Challenges upcase deviceInstancePath processId sessionId ∧
        (whitelisted upcase d processId).1 = true
  | _ => False

/-- The process exits. -/
def IsExit : DriverEvent → Prop
  | processChange processId create =>
      processHandleToProcessId processId = pid ∧ create = false
  | _ => False

/-- The event changes no whitelist and flushes no cache. -/
def KeepsWhitelist : DriverEvent → Prop
  | ioControl _ _ ioControlCode _ _ => ioControlCode ≠ ioctlSetWhitelist
  | shutdown => False
  | _ => True

instance (d : Driver) : DecidablePred (IsChallenge upcase pid d)
  | fileCreate .. => inferInstanceAs (Decidable (_ ∧ _))
  | ioControl .. => .isFalse id
  | processChange .. => .isFalse id
  | loadImage .. => .isFalse id
  | shutdown => .isFalse id

instance (d : Driver) : DecidablePred (IsGrant upcase pid d)
  | fileCreate .. => inferInstanceAs (Decidable (_ ∧ _ ∧ _))
  | ioControl .. => .isFalse id
  | processChange .. => .isFalse id
  | loadImage .. => .isFalse id
  | shutdown => .isFalse id

instance : DecidablePred (IsExit pid)
  | processChange .. => inferInstanceAs (Decidable (_ ∧ _))
  | ioControl .. => .isFalse id
  | fileCreate .. => .isFalse id
  | loadImage .. => .isFalse id
  | shutdown => .isFalse id

instance : DecidablePred KeepsWhitelist
  | ioControl .. => inferInstanceAs (Decidable (_ ≠ _))
  | processChange .. => .isTrue trivial
  | fileCreate .. => .isTrue trivial
  | loadImage .. => .isTrue trivial
  | shutdown => .isFalse id

/-- The events that are logged. -/
def logged (d : Driver) : DriverEvent → List LogEvent
  | ioControl o callerPid ioControlCode input output =>
      (hidHideControlDeviceEvtIoDeviceControl o callerPid ioControlCode (.arrived input output)
        d).2.1
  | fileCreate o deviceInstancePath processId sessionId =>
      ((WdfRequest.arrived [] []).onDeviceFileCreate o upcase d deviceInstancePath processId
        sessionId).2.1
  | _ => []

end DriverEvent

/-- **The first grant is logged.** Each open of the process logs the event of a grant exactly when
it is the first grant since the process was created. -/
def LogsFirstGrant (upcase : WChar → WChar) (pid : UInt32) (d : Driver)
    (events : List DriverEvent) : Prop :=
  ∀ done o deviceInstancePath processId sessionId rest,
    events = done ++ .fileCreate o deviceInstancePath processId sessionId :: rest →
    processHandleToProcessId processId = pid →
    (LogEvent.whitelisted pid sessionId ∈
        (DriverEvent.fileCreate o deviceInstancePath processId sessionId).logged upcase
          (done.foldl (Driver.handle upcase) d) ↔
      (DriverEvent.fileCreate o deviceInstancePath processId sessionId).IsGrant upcase pid
          (done.foldl (Driver.handle upcase) d) ∧
        ¬OnceSince (Driver.handle upcase) (DriverEvent.IsGrant upcase pid)
          (DriverEvent.IsExit pid) d done)

/-! ### What an open logs -/

section Open

variable {upcase : WChar → WChar} {d : Driver} {deviceInstancePath : UnicodeString}
  {processId : Handle} {sessionId : UInt32}

/-- An open that is challenged is decided by `Whitelisted`, whose verdict is kept. -/
theorem onDeviceFileCreate_of_challenges
    (h : d.Challenges upcase deviceInstancePath processId sessionId) :
    onDeviceFileCreate upcase d deviceInstancePath processId sessionId =
      (!(whitelisted upcase d processId).1,
        if (whitelisted upcase d processId).1 = true ∧
            (whitelisted upcase d processId).2.1 = false then
          [.whitelisted (processHandleToProcessId processId) sessionId] else [],
        (whitelisted upcase d processId).2.2) := by
  refine (if_pos h).trans ?_
  rcases whitelisted upcase d processId with ⟨_ | _, _ | _, d'⟩ <;> rfl

/-- Any other open is passed on, and changes nothing. -/
theorem onDeviceFileCreate_of_not_challenges
    (h : ¬d.Challenges upcase deviceInstancePath processId sessionId) :
    onDeviceFileCreate upcase d deviceInstancePath processId sessionId = (false, [], d) :=
  if_neg h

/-- A verdict comes from the cache exactly when there is one. -/
theorem cacheHit_iff_cached : (whitelisted upcase d processId).2.1 = true ↔
    d.Cached (processHandleToProcessId processId) := by
  change (hidHideProcessIdCheckFullImageNameAgainstWhitelist upcase d.processIdTree processId
    (d.list .whitelist)).2.1 = true ↔ _
  rcases hnode : bstLookup d.processIdTree (processHandleToProcessId processId) with _ | node
  · rw [check_none upcase _ hnode]
    exact iff_of_false (by simp) (Driver.not_cached_of_lookup_eq_none hnode)
  · by_cases hcache : node.evaluationCache = .empty
    · rw [check_empty upcase _ hnode hcache]
      refine iff_of_false (by simp) ?_
      rintro ⟨node', hnode', hne⟩
      obtain rfl := Option.some.inj (hnode.symm.trans hnode')
      exact hne hcache
    · rw [check_cached upcase _ hnode hcache]
      exact iff_of_true rfl ⟨node, hnode, hcache⟩

theorem isGrant_imp_isChallenge {pid : UInt32} {e : DriverEvent} (h : e.IsGrant upcase pid d) :
    e.IsChallenge upcase pid d := by
  cases e with
  | fileCreate => exact ⟨h.1, h.2.1⟩
  | _ => exact absurd h id

/-- **An open logs** a grant whose verdict has not been in the cache. -/
theorem mem_logged_iff {pid : UInt32} {o : ForwardOutcome}
    (hpid : processHandleToProcessId processId = pid) :
    LogEvent.whitelisted pid sessionId ∈
        (DriverEvent.fileCreate o deviceInstancePath processId sessionId).logged upcase d ↔
      (DriverEvent.fileCreate o deviceInstancePath processId sessionId).IsGrant upcase pid d ∧
        ¬d.Cached pid := by
  have hlogged : (DriverEvent.fileCreate o deviceInstancePath processId sessionId).logged upcase d =
      (onDeviceFileCreate upcase d deviceInstancePath processId sessionId).2.1 := by
    simp only [DriverEvent.logged, WdfRequest.onDeviceFileCreate]
    split_ifs <;> rfl
  subst hpid
  rw [hlogged, ← @cacheHit_iff_cached upcase, DriverEvent.IsGrant, Bool.not_eq_true]
  by_cases hchallenged : d.Challenges upcase deviceInstancePath processId sessionId
  · rw [onDeviceFileCreate_of_challenges hchallenged]
    simp [hchallenged]
  · rw [onDeviceFileCreate_of_not_challenges hchallenged]
    exact iff_of_false List.not_mem_nil fun h => hchallenged h.1.2.1

end Open

/-! ### What an event does to the process tree -/

section ProcessTree

variable (o : IoOutcome) (r : WdfRequest) (d : Driver)

/-- Setting a list keeps the process tree, or flushes it when the whitelist has been set. -/
theorem setList_processIdTree (kind : ListKind) (o : ListOutcome) (buffer : List WChar) :
    (setList kind o buffer d).2.processIdTree = d.processIdTree ∨
      kind = .whitelist ∧
        (setList kind o buffer d).2.processIdTree = bstFlushEvaluationCache d.processIdTree := by
  rw [setList_eq]
  split_ifs
  · cases kind
    · exact .inr ⟨rfl, rfl⟩
    · exact .inl rfl
  · exact .inl rfl
  · exact .inl rfl

theorem getListRequest_processIdTree (kind : ListKind) :
    (r.onControlDeviceIoGetList o d kind).2.2.processIdTree = d.processIdTree := by
  simp only [WdfRequest.onControlDeviceIoGetList, getList]
  split_ifs <;> rfl

theorem setListRequest_processIdTree (kind : ListKind) :
    (r.onControlDeviceIoSetList o d kind).2.2.processIdTree = d.processIdTree ∨
      kind = .whitelist ∧ (r.onControlDeviceIoSetList o d kind).2.2.processIdTree =
        bstFlushEvaluationCache d.processIdTree := by
  simp only [WdfRequest.onControlDeviceIoSetList]
  split_ifs
  all_goals first
    | exact .inl rfl
    | exact setList_processIdTree d kind _ _

/-- A request keeps the process tree, or flushes it when it sets the whitelist. -/
theorem deviceControl_processIdTree (callerPid : Handle) (ioControlCode : UInt32) :
    (onControlDeviceIoDeviceControl o callerPid ioControlCode r d).2.2.2.processIdTree =
        d.processIdTree ∨
      ioControlCode = ioctlSetWhitelist ∧
        (onControlDeviceIoDeviceControl o callerPid ioControlCode r d).2.2.2.processIdTree =
          bstFlushEvaluationCache d.processIdTree := by
  let Treed (result : NTStatus × WdfRequest × List LogEvent × Driver) : Prop :=
    result.2.2.2.processIdTree = d.processIdTree ∨ ioControlCode = ioctlSetWhitelist ∧
      result.2.2.2.processIdTree = bstFlushEvaluationCache d.processIdTree
  refine @dispatch_cases Treed o callerPid ioControlCode r d (fun kind => .inl ?_)
    (fun hcode => ?_) (fun _ => ?_) (fun kind => .inl ?_) (fun kind => .inl ?_)
    (fun _ => .inl ?_) (fun _ => .inl ?_) (.inl rfl)
  · exact getListRequest_processIdTree o r d kind
  · exact (setListRequest_processIdTree o r d .whitelist).imp_right fun h => ⟨hcode, h.2⟩
  · exact .inl ((setListRequest_processIdTree o r d .blacklist).resolve_right fun h => by
      cases h.1)
  · simp only [withoutEvents, WdfRequest.onControlDeviceIoGetSwitch]
    split_ifs <;> rfl
  · simp only [WdfRequest.onControlDeviceIoSetSwitch, setSwitch]
    split_ifs <;> rfl
  · change (r.onControlDeviceIoAddSessionBlacklist o d callerPid).2.2.processIdTree = _
    rw [addSessionBlacklist_driver]
    split_ifs <;> rfl
  · rw [withoutEvents, WdfRequest.onControlDeviceIoClearSessionBlacklist]
    split_ifs <;> rfl

end ProcessTree

/-- Every event keeps the process tree ordered. -/
theorem handle_ordered (upcase : WChar → WChar) {d : Driver} (h : d.processIdTree.Ordered)
    (e : DriverEvent) : (d.handle upcase e).processIdTree.Ordered := by
  cases e with
  | ioControl o callerPid ioControlCode input output =>
    rw [handle_ioControl]
    rcases deviceControl_processIdTree o (.arrived input output) d callerPid ioControlCode with
      htree | ⟨-, htree⟩
    · rwa [htree]
    · rw [htree]
      exact h.bstFlushEvaluationCache
  | fileCreate o deviceInstancePath processId sessionId =>
    rw [handle_fileCreate]
    rcases onDeviceFileCreate_state upcase d deviceInstancePath processId sessionId with hd | hd
    · rwa [hd]
    · rw [hd]
      exact (h.check upcase _ processId).1
  | processChange processId create =>
    cases create with
    | false => exact (h.unregister processId).1
    | true => exact h
  | loadImage o fullImageName processId =>
    rcases fullImageName with _ | fullImageName
    · exact h
    · rw [Driver.handle, onSystemLoadImage]
      split_ifs
      · exact (h.register o processId fullImageName.chars).1
      · exact h
  | shutdown => exact h.bstFlushEvaluationCache

/-- A check leaves a verdict in the cache. -/
theorem evaluated_ne_empty (upcase : WChar → WChar) (strings : List UnicodeString)
    (node : ProcessIdNode) : (node.evaluated upcase strings).evaluationCache ≠ .empty := by
  by_cases hcache : node.evaluationCache = .empty
  · rw [ProcessIdNode.evaluated_of_empty upcase strings hcache, whitelistVerdict]
    split_ifs <;> simp
  · rwa [ProcessIdNode.evaluated_of_ne_empty upcase strings hcache]

/-- Where the node of the process is as before, so is its cache. -/
theorem cached_congr {d d' : Driver} {pid : UInt32}
    (h : bstLookup d'.processIdTree pid = bstLookup d.processIdTree pid) :
    d'.Cached pid ↔ d.Cached pid := by
  rw [Driver.Cached, h, Driver.Cached]

/-- A challenged open of the process leaves a verdict, if the process is registered. -/
theorem cached_fileCreate_iff {upcase : WChar → WChar} {d : Driver}
    (h : d.processIdTree.Ordered) {deviceInstancePath : UnicodeString} {processId : Handle}
    {sessionId : UInt32}
    (hchallenged : d.Challenges upcase deviceInstancePath processId sessionId) :
    (∀ pid ≠ processHandleToProcessId processId,
      (onDeviceFileCreate upcase d deviceInstancePath processId sessionId).2.2.Cached pid ↔
        d.Cached pid) ∧
    ((onDeviceFileCreate upcase d deviceInstancePath processId sessionId).2.2.Cached
        (processHandleToProcessId processId) ↔
      d.Registered (processHandleToProcessId processId)) := by
  have hlookup := (h.check upcase (d.list .whitelist) processId).2
  rw [onDeviceFileCreate_of_challenges hchallenged]
  refine ⟨fun pid hpid => cached_congr ((hlookup pid).trans (if_neg hpid)), ?_⟩
  have hnode := (hlookup (processHandleToProcessId processId)).trans (if_pos rfl)
  constructor
  · rintro ⟨node, hevaluated, -⟩
    obtain ⟨node', hnode', -⟩ := Option.map_eq_some_iff.mp (hnode.symm.trans hevaluated)
    exact ⟨node', hnode'⟩
  · rintro ⟨node, hregistered⟩
    refine ⟨node.evaluated upcase (d.list .whitelist), hnode.trans ?_, evaluated_ne_empty _ _ _⟩
    rw [hregistered]
    rfl

/-- **What the cache of a process remembers**: an open fills it when it is challenged and the
process is registered, and it is gone when the process exits. -/
theorem cached_handle_iff (upcase : WChar → WChar) {d : Driver} (h : d.processIdTree.Ordered)
    (pid : UInt32) {e : DriverEvent} (hkeeps : e.KeepsWhitelist) :
    (d.handle upcase e).Cached pid ↔
      (e.IsChallenge upcase pid d ∧ d.Registered pid) ∨ ¬e.IsExit pid ∧ d.Cached pid := by
  have hsame : ∀ {e : DriverEvent}, ((d.handle upcase e).Cached pid ↔ d.Cached pid) →
      ¬e.IsChallenge upcase pid d → ¬e.IsExit pid →
      ((d.handle upcase e).Cached pid ↔
        (e.IsChallenge upcase pid d ∧ d.Registered pid) ∨ ¬e.IsExit pid ∧ d.Cached pid) := by
    intro e hcached hchallenge hexit
    rw [hcached, or_iff_right fun h => hchallenge h.1, and_iff_right hexit]
  cases e with
  | ioControl o callerPid ioControlCode input output =>
    refine hsame (cached_congr ?_) id id
    rw [handle_ioControl]
    exact congrArg (bstLookup · pid) ((deviceControl_processIdTree o (.arrived input output) d
      callerPid ioControlCode).resolve_right fun htree => hkeeps htree.1)
  | fileCreate o deviceInstancePath processId sessionId =>
    by_cases hchallenged : d.Challenges upcase deviceInstancePath processId sessionId
    · obtain ⟨hother, hown⟩ := cached_fileCreate_iff h hchallenged
      rcases eq_or_ne pid (processHandleToProcessId processId) with rfl | hne
      · rw [handle_fileCreate, hown]
        constructor
        · exact fun hregistered => .inl ⟨⟨rfl, hchallenged⟩, hregistered⟩
        · rintro (⟨-, hregistered⟩ | ⟨-, hcached⟩)
          · exact hregistered
          · exact hcached.registered
      · refine hsame ?_ (fun hchallenge => hne hchallenge.1.symm) id
        rw [handle_fileCreate]
        exact hother pid hne
    · refine hsame ?_ (fun hchallenge => hchallenged hchallenge.2) id
      rw [handle_fileCreate, onDeviceFileCreate_of_not_challenges hchallenged]
  | processChange processId create =>
    cases create with
    | false =>
      have hlookup := (h.unregister processId).2 pid
      rcases eq_or_ne pid (processHandleToProcessId processId) with rfl | hne
      · rw [if_pos rfl] at hlookup
        refine iff_of_false (Driver.not_cached_of_lookup_eq_none hlookup) ?_
        rintro (⟨hchallenge, -⟩ | ⟨hexit, -⟩)
        · exact hchallenge
        · exact hexit ⟨rfl, rfl⟩
      · rw [if_neg hne] at hlookup
        exact hsame (cached_congr hlookup) id fun hexit => hne hexit.1.symm
    | true => exact hsame Iff.rfl id fun hexit => by simp [DriverEvent.IsExit] at hexit
  | loadImage o fullImageName processId =>
    refine hsame ?_ id id
    rcases fullImageName with _ | fullImageName
    · rfl
    · rw [Driver.handle, onSystemLoadImage]
      split_ifs
      · have hlookup := (h.register o processId fullImageName.chars).2 pid
        split_ifs at hlookup with hnew
        · -- a node that has just been made has an empty cache
          refine iff_of_false ?_ (Driver.not_cached_of_lookup_eq_none hnew.2.1)
          rintro ⟨node, hnode, hne⟩
          obtain rfl := Option.some.inj (hlookup.symm.trans hnode)
          exact hne rfl
        · exact cached_congr hlookup
      · rfl
  | shutdown => exact absurd hkeeps id

/-! ### In which runs the first grant is logged -/

/-- **What the cache remembers of a run**: since the process was created, an open has been
challenged while it was registered. -/
theorem cached_iff_onceSince (upcase : WChar → WChar) (pid : UInt32) {d : Driver}
    (h : d.processIdTree.Ordered) (hnew : bstLookup d.processIdTree pid = none)
    {events : List DriverEvent} (hkeeps : ∀ e ∈ events, e.KeepsWhitelist) :
    (events.foldl (Driver.handle upcase) d).Cached pid ↔
      OnceSince (Driver.handle upcase)
        (fun d e => e.IsChallenge upcase pid d ∧ d.Registered pid) (DriverEvent.IsExit pid) d
        events := by
  have hnone : ¬d.Cached pid := Driver.not_cached_of_lookup_eq_none hnew
  exact @iff_onceSince _ _ _ _ _ (fun d => d.processIdTree.Ordered) (fun d => d.Cached pid)
    DriverEvent.KeepsWhitelist
    (fun d e hord he => ⟨handle_ordered upcase hord e, cached_handle_iff upcase hord pid he⟩)
    d h hnone events hkeeps

/-- The process tree is ordered after every run of a started driver. -/
theorem foldl_handle_ordered (upcase : WChar → WChar) {d : Driver} (h : d.processIdTree.Ordered)
    (events : List DriverEvent) :
    (events.foldl (Driver.handle upcase) d).processIdTree.Ordered := by
  induction events generalizing d with
  | nil => exact h
  | cons e events ih => exact ih (handle_ordered upcase h e)

/-- **The first grant of a process is logged, and no later open**, exactly in the runs in which each
grant is to a process that has been granted access before if and only if it has been challenged
before while it was registered, since it was created. The process is created in the run, which may
start in any state that the driver comes to, and the whitelist is not changed in the run. No request
adds an entry to the session blacklist, so that the list of its entries stands for the ring. -/
theorem logsFirstGrant_iff (upcase : WChar → WChar) (pid : UInt32) (o : CreateOutcome)
    (fw : Framework) (links : LinkMemory Address) (earlier : List DriverEvent) {d : Driver}
    (hd : d = earlier.foldl (Driver.handle upcase) (onDriverCreate o fw).2)
    (hnew : bstLookup d.processIdTree pid = none) {events : List DriverEvent}
    (hkeeps : ∀ e ∈ events, e.KeepsWhitelist)
    (hnothing : ∀ e ∈ earlier ++ events, e.AddsNothing) :
    (∀ done, done <+: events → ∃ s,
      Machine.run SessionEvent.step (.start links)
          ((earlier ++ done).filterMap (·.sessionEvent)) = some s ∧
        s.Represents (done.foldl (Driver.handle upcase) d).context.sessionBlacklist) ∧
    (LogsFirstGrant upcase pid d events ↔
      ∀ done e rest, events = done ++ e :: rest →
        e.IsGrant upcase pid (done.foldl (Driver.handle upcase) d) →
        (OnceSince (Driver.handle upcase) (DriverEvent.IsGrant upcase pid)
            (DriverEvent.IsExit pid) d done ↔
          OnceSince (Driver.handle upcase)
            (fun d e => e.IsChallenge upcase pid d ∧ d.Registered pid) (DriverEvent.IsExit pid) d
            done)) := by
  have hstart : (onDriverCreate o fw).2.processIdTree.Ordered := trivial
  have hord : d.processIdTree.Ordered := by
    rw [hd]
    exact foldl_handle_ordered upcase hstart earlier
  have hcached : ∀ done e rest, events = done ++ e :: rest → _ := fun done e rest heq =>
    @cached_iff_onceSince upcase pid d hord hnew done fun e' he' =>
      hkeeps e' (heq ▸ List.mem_append_left _ he')
  refine ⟨fun done hdone => ?_, ?_⟩
  · have hempty : (SessionMemory.start links).Represents
        (onDriverCreate o fw).2.context.sessionBlacklist := by
      rw [(onDriverCreate_frame o fw).2]
      exact SessionMemory.start_represents links
    rw [hd, ← List.foldl_append]
    refine hempty.foldl_handle upcase fun e he => hnothing e ?_
    exact (List.mem_append.mp he).elim (List.mem_append_left _)
      fun hmem => List.mem_append_right _ (hdone.subset hmem)
  constructor
  · intro hlogs done e rest heq hgrant
    cases e with
    | fileCreate o deviceInstancePath processId sessionId =>
      have hpid : processHandleToProcessId processId = pid := hgrant.1
      have hopen := hlogs done o deviceInstancePath processId sessionId rest heq hpid
      rw [mem_logged_iff hpid, hcached done _ rest heq, and_iff_right hgrant,
        and_iff_right hgrant, not_iff_not] at hopen
      exact hopen.symm
    | _ => exact absurd hgrant id
  · intro hgrants done o deviceInstancePath processId sessionId rest heq hpid
    rw [mem_logged_iff hpid, hcached done _ rest heq]
    exact and_congr_right fun hgrant => not_congr (hgrants done _ rest heq hgrant).symm

/-- The service is switched on, and the device `A` is hidden from the processes on the whitelist. -/
def switchOn : List DriverEvent :=
  [.ioControl .success 4 ioctlSetActive [1] [],
    .ioControl .success 4 ioctlSetBlacklist [0x41, 0, 0, 0, 0, 0] [],
    .ioControl .success 4 ioctlSetWlinverse [1] []]

/-- The device is opened by a process. -/
def openOne : DriverEvent :=
  .fileCreate ⟨statusSuccess, .completed statusSuccess⟩ [0x41] (processHandle 12) 1

/-- The process opens the device for the first time. -/
theorem logsFirstGrant_openOne : LogsFirstGrant id 12 firstDriver (switchOn ++ [openOne]) := by
  have hcontrols : ∀ e ∈ switchOn, ∀ d, ¬e.IsChallenge id 12 d := by
    simp [switchOn, DriverEvent.IsChallenge]
  refine (logsFirstGrant_iff id 12 .success .empty ⟨id, id⟩ [] rfl rfl (by decide)
    (by decide)).2.mpr fun done e rest heq hgrant => ?_
  -- the grant is the last event, and no open is before it
  rcases List.eq_nil_or_concat rest with rfl | ⟨rest, last, rfl⟩
  · obtain ⟨rfl, -⟩ := List.append_inj' heq rfl
    refine iff_of_false ?_ ?_
    · rintro ⟨done, e, rest, heq, hgrant, -⟩
      exact hcontrols e (by simp [heq]) _ (isGrant_imp_isChallenge hgrant)
    · rintro ⟨done, e, rest, heq, hchallenge, -⟩
      exact hcontrols e (by simp [heq]) _ hchallenge.1
  · rw [List.concat_eq_append, ← List.cons_append, ← List.append_assoc] at heq
    obtain ⟨hinit, -⟩ := List.append_inj' heq rfl
    exact absurd (isGrant_imp_isChallenge hgrant) (hcontrols e (by simp [hinit]) _)

/-- A process that is not registered opens the device twice, and is logged twice. -/
theorem openOne_logged_twice :
    let events := switchOn ++ [openOne, openOne]
    (∀ e ∈ events, e.KeepsWhitelist ∧ e.AddsNothing) ∧
      ¬LogsFirstGrant id 12 firstDriver events := by
  refine ⟨by decide, fun h => ?_⟩
  have hopen := (h (switchOn ++ [openOne]) _ _ _ _ [] rfl (by decide)).mp (by decide)
  exact hopen.2 ⟨switchOn, openOne, [], rfl, by decide, by simp⟩

end HidHide
