import HidHide.Driver.AccessDecision
import HidHide.Driver.SessionBlacklist

/-!
# The driver with its linked session blacklist

The operations of the driver on the state that the code has: the session blacklist is the ring of
`SessionMemory`, which requests build and splice, exits clean up and `Blacklisted` walks. A walk
that comes to a node that is no entry reads what is not there, and has no result.

`LinkedDriver.Refines` relates this state to the driver of `HidHide.Driver.Operations`, whose
session blacklist is a list. An operation that adds nothing keeps the relation
(`LinkedDriver.Refines.perform`), so in the runs of such operations the cached decision is the
uncached one (`linkedDecision_eq_uncached`). After a request that succeeds and carries a string, the
next open that gets to the session blacklist reads the local head of the request, as
`hidesForSession_reads_localHead` shows of one.
-/

namespace HidHide

/-- The driver, with the memory of its session blacklist. The list of entries in its context is not
in use. -/
structure LinkedDriver where
  driver : Driver
  memory : SessionMemory

/-- An operation of the driver, where a request to add entries is given by its buffers. -/
inductive LinkedOperation where
  | loadImage (o : NewNodeOutcome) (fullImageName : Option ImageName) (pid : UInt32)
  | processExit (pid : UInt32)
  | setList (kind : ListKind) (o : ListOutcome) (buffer : List WChar)
  | setSwitch (kind : SwitchKind) (o : WriteOutcome) (value : Bool)
  | addSession (o : AddOutcome) (pid : UInt32) (outputBufferLength : ℕ) (input : List UInt8)
  | clearSession (pid : UInt32)
  | shutdown
  | openDevice (deviceInstancePath : UnicodeString) (pid : UInt32) (sessionId : UInt32)

namespace LinkedOperation

/-- The operation on the list of entries. A request to add entries appends its own, if it
succeeds. -/
def onList : LinkedOperation → Operation
  | loadImage o fullImageName pid => .loadImage o fullImageName pid
  | processExit pid => .processExit pid
  | setList kind o buffer => .setList kind o buffer
  | setSwitch kind o value => .setSwitch kind o value
  | addSession o pid outputBufferLength input =>
      let r : AddRequest := ⟨o, processHandle pid, outputBufferLength, input⟩
      .addSession pid (if r.Succeeds then r.entries.map (·.deviceInstancePath) else [])
  | clearSession pid => .clearSession pid
  | shutdown => .shutdown
  | openDevice deviceInstancePath pid sessionId => .openDevice deviceInstancePath pid sessionId

/-- The operation is no request to add entries that succeeds and carries a string. -/
def AddsNothing : LinkedOperation → Prop
  | addSession o pid outputBufferLength input =>
      SessionEvent.AddsNothing (.add ⟨o, processHandle pid, outputBufferLength, input⟩)
  | _ => True

instance : DecidablePred AddsNothing
  | addSession o pid outputBufferLength input => inferInstanceAs (Decidable
      (SessionEvent.AddsNothing (.add ⟨o, processHandle pid, outputBufferLength, input⟩)))
  | loadImage .. => .isTrue trivial
  | processExit .. => .isTrue trivial
  | setList .. => .isTrue trivial
  | setSwitch .. => .isTrue trivial
  | clearSession .. => .isTrue trivial
  | shutdown => .isTrue trivial
  | openDevice .. => .isTrue trivial

end LinkedOperation

namespace LinkedDriver

variable (upcase : WChar → WChar) (s : LinkedDriver)

/-- A started driver, whose list head has been initialized. -/
def start (o : CreateOutcome) (fw : Framework) (links : LinkMemory Address) : LinkedDriver where
  driver := (onDriverCreate o fw).2
  memory := .start links

/-- `Blacklisted`. -/
def blacklisted (deviceInstancePath : UnicodeString) (sessionId : UInt32) : Option Bool :=
  match checkPersistentBlacklist upcase deviceInstancePath sessionId (s.driver.list .blacklist) with
  | some verdict => some verdict
  | none => s.memory.checkSessionBlacklist upcase deviceInstancePath (s.memory.nextBlock + 1)
      (s.memory.links.flink .sessionBlacklistHead)

/-- `OnDeviceFileCreate`: the value of `accessDenied`, the events logged, and the state. -/
def onDeviceFileCreate (deviceInstancePath : UnicodeString) (processId : Handle)
    (sessionId : UInt32) : Option (Bool × List LogEvent × LinkedDriver) :=
  if systemPid ≠ processHandleToProcessId processId ∧ s.driver.context.active = true then
    (s.blacklisted upcase deviceInstancePath sessionId).map fun hidden =>
      if hidden then
        let (granted, cacheHit, driver) := whitelisted upcase s.driver processId
        if granted then
          -- the first time only
          (false,
            if cacheHit then [] else [.whitelisted (processHandleToProcessId processId) sessionId],
            { s with driver })
        else (true, [], { s with driver })
      else (false, [], s)
  else some (false, [], s)

/-- The decision on an open, if there is one. -/
def accessDenied (deviceInstancePath : UnicodeString) (pid sessionId : UInt32) : Option Bool :=
  (s.onDeviceFileCreate upcase deviceInstancePath (processHandle pid) sessionId).map (·.1)

/-- `OnSystemProcessChange`. -/
def onSystemProcessChange (processId : Handle) (create : Bool) : Option LinkedDriver :=
  if create = false then
    let tree := (hidHideProcessIdUnregister s.driver.processIdTree processId).2
    (s.memory.sessionBlacklistCleanupForPid processId).map fun memory =>
      { driver := { s.driver with processIdTree := tree }, memory }
  else some s

/-- Perform an operation; a setter that fails is not performed, and neither is an operation that
comes to a node of the ring that is no entry. -/
def perform : LinkedOperation → Option LinkedDriver
  | .loadImage o fullImageName pid =>
      some { s with driver := onSystemLoadImage o s.driver fullImageName (processHandle pid) }
  | .processExit pid => s.onSystemProcessChange (processHandle pid) false
  | .setList kind o buffer =>
      (s.driver.perform upcase (.setList kind o buffer)).map fun driver => { s with driver }
  | .setSwitch kind o value =>
      (s.driver.perform upcase (.setSwitch kind o value)).map fun driver => { s with driver }
  | .addSession o pid outputBufferLength input =>
      (s.memory.onControlDeviceIoAddSessionBlacklist o (processHandle pid) outputBufferLength
        input).map fun r => { s with memory := r.2 }
  | .clearSession pid =>
      (s.memory.onControlDeviceIoClearSessionBlacklist (processHandle pid) 0 0).map fun r =>
        { s with memory := r.2 }
  | .shutdown => some { s with driver := flushEvaluationCache s.driver }
  | .openDevice deviceInstancePath pid sessionId =>
      (s.onDeviceFileCreate upcase deviceInstancePath (processHandle pid) sessionId).map (·.2.2)

/-- **The linked driver refines the one with a list**: the ring represents the list, and everything
else is the same. -/
structure Refines (d : Driver) : Prop where
  memory : s.memory.Represents d.context.sessionBlacklist
  driver : s.driver.withSessionBlacklist d.context.sessionBlacklist = d

end LinkedDriver

/-- An open gets as far as the session blacklist: the process is not the system, the service is
active, and no persistent entry has the path of the device. -/
def Reference.ReadsSessionBlacklist (upcase : WChar → WChar) (r : Reference)
    (deviceInstancePath : UnicodeString) (pid sessionId : UInt32) : Prop :=
  systemPid ≠ pid ∧ r.switch .active = true ∧
    checkPersistentBlacklist upcase deviceInstancePath sessionId (r.list .blacklist) = none

instance (upcase : WChar → WChar) (r : Reference) (deviceInstancePath : UnicodeString)
    (pid sessionId : UInt32) :
    Decidable (r.ReadsSessionBlacklist upcase deviceInstancePath pid sessionId) :=
  inferInstanceAs (Decidable (_ ∧ _ ∧ _))

/-! ### The session blacklist and the rest of the driver -/

section WithSessionBlacklist

variable (upcase : WChar → WChar) (d : Driver) (entries : List SessionBlacklistEntry)

/-- A list setter leaves the session blacklist alone. -/
theorem setList_withSessionBlacklist (kind : ListKind) (o : ListOutcome) (buffer : List WChar) :
    setList kind o buffer (d.withSessionBlacklist entries) =
      ((setList kind o buffer d).1, (setList kind o buffer d).2.withSessionBlacklist entries) := by
  have hreplace : ∀ d : Driver, replaceList kind o.read (d.withSessionBlacklist entries) =
      ((replaceList kind o.read d).1,
        (replaceList kind o.read d).2.withSessionBlacklist entries) := by
    intro d
    cases kind <;> rfl
  have hpersist : persistList kind o.write buffer (d.withSessionBlacklist entries) =
      ((persistList kind o.write buffer d).1,
        (persistList kind o.write buffer d).2.withSessionBlacklist entries) := rfl
  have hfinish : ∀ d : Driver, kind.finish (d.withSessionBlacklist entries) =
      (kind.finish d).withSessionBlacklist entries := by
    intro d
    cases kind <;> rfl
  simp only [setList_eq, hpersist, hreplace, hfinish]
  split_ifs <;> rfl

/-- So does a switch setter. -/
theorem setSwitch_withSessionBlacklist (kind : SwitchKind) (o : WriteOutcome) (value : Bool) :
    setSwitch kind o value (d.withSessionBlacklist entries) =
      ((setSwitch kind o value d).1, (setSwitch kind o value d).2.1,
        (setSwitch kind o value d).2.2.withSessionBlacklist entries) := by
  have hpersist : persistSwitch kind o value (d.withSessionBlacklist entries) =
      ((persistSwitch kind o value d).1,
        (persistSwitch kind o value d).2.withSessionBlacklist entries) := rfl
  have hassign : ∀ d : Driver, assignSwitch kind value (d.withSessionBlacklist entries) =
      ((assignSwitch kind value d).1,
        (assignSwitch kind value d).2.withSessionBlacklist entries) := by
    intro d
    cases kind <;> rfl
  simp only [setSwitch, hpersist, hassign]
  split_ifs <;> rfl

theorem onSystemLoadImage_withSessionBlacklist (o : NewNodeOutcome)
    (fullImageName : Option ImageName) (processId : Handle) :
    onSystemLoadImage o (d.withSessionBlacklist entries) fullImageName processId =
      (onSystemLoadImage o d fullImageName processId).withSessionBlacklist entries := by
  rcases fullImageName with _ | fullImageName
  · rfl
  · simp only [onSystemLoadImage]
    split_ifs <;> rfl

end WithSessionBlacklist

/-! ### Refinement -/

namespace LinkedDriver.Refines

variable {upcase : WChar → WChar} {s : LinkedDriver} {d d' : Driver}

theorem start (o : CreateOutcome) (fw : Framework) (links : LinkMemory Address) :
    (LinkedDriver.start o fw links).Refines (onDriverCreate o fw).2 where
  memory := by
    rw [(onDriverCreate_frame o fw).2]
    exact SessionMemory.start_represents links
  driver := rfl

/-- The list of the persistent entries. -/
theorem list_eq (h : s.Refines d) (kind : ListKind) : s.driver.list kind = d.list kind := by
  rw [← h.driver, list_withSessionBlacklist]

/-- **`Blacklisted`** finds in the ring what it finds in the list. -/
theorem blacklisted (h : s.Refines d) (deviceInstancePath : UnicodeString) (sessionId : UInt32) :
    s.blacklisted upcase deviceInstancePath sessionId =
      some (HidHide.blacklisted upcase (d.list .blacklist) d.context.sessionBlacklist
        deviceInstancePath sessionId) := by
  rw [LinkedDriver.blacklisted, HidHide.blacklisted, h.list_eq]
  rcases checkPersistentBlacklist upcase deviceInstancePath sessionId (d.list .blacklist) with
    _ | verdict
  · exact h.memory.checkSessionBlacklist upcase deviceInstancePath
  · rfl

/-- **An open** is decided, and logged, as with the list. -/
theorem onDeviceFileCreate (h : s.Refines d) (deviceInstancePath : UnicodeString)
    (processId : Handle) (sessionId : UInt32) :
    let result := HidHide.onDeviceFileCreate upcase d deviceInstancePath processId sessionId
    ∃ s', s.onDeviceFileCreate upcase deviceInstancePath processId sessionId =
      some (result.1, result.2.1, s') ∧ s'.Refines result.2.2 := by
  have hwhitelisted : whitelisted upcase d processId =
      ((whitelisted upcase s.driver processId).1, (whitelisted upcase s.driver processId).2.1,
        (whitelisted upcase s.driver processId).2.2.withSessionBlacklist
          d.context.sessionBlacklist) := by
    conv_lhs => rw [← h.driver]
    rfl
  have hactive : d.context.active = s.driver.context.active := by
    conv_lhs => rw [← h.driver]
    rfl
  rw [LinkedDriver.onDeviceFileCreate, h.blacklisted, HidHide.onDeviceFileCreate, hactive]
  by_cases hreads : systemPid ≠ processHandleToProcessId processId ∧
      s.driver.context.active = true
  · rw [if_pos hreads, Option.map_some]
    by_cases hhidden : HidHide.blacklisted upcase (d.list .blacklist) d.context.sessionBlacklist
        deviceInstancePath sessionId = true
    · rw [if_pos hhidden, if_pos ⟨hreads.1, hreads.2, hhidden⟩, hwhitelisted]
      dsimp only
      have hnext : LinkedDriver.Refines
          { s with driver := (whitelisted upcase s.driver processId).2.2 }
          ((whitelisted upcase s.driver processId).2.2.withSessionBlacklist
            d.context.sessionBlacklist) := ⟨h.memory, rfl⟩
      split_ifs
      · exact ⟨_, rfl, hnext⟩
      · exact ⟨_, rfl, hnext⟩
      · exact ⟨_, rfl, hnext⟩
    · rw [if_neg hhidden, if_neg fun hall => hhidden hall.2.2]
      exact ⟨s, rfl, h⟩
  · rw [if_neg hreads, if_neg fun hall => hreads ⟨hall.1, hall.2.1⟩]
    exact ⟨s, rfl, h⟩

theorem accessDenied (h : s.Refines d) (deviceInstancePath : UnicodeString)
    (pid sessionId : UInt32) :
    s.accessDenied upcase deviceInstancePath pid sessionId =
      some (HidHide.onDeviceFileCreate upcase d deviceInstancePath (processHandle pid)
        sessionId).1 := by
  obtain ⟨s', hs', -⟩ := @onDeviceFileCreate upcase _ _ h deviceInstancePath
    (processHandle pid) sessionId
  rw [LinkedDriver.accessDenied, hs']
  rfl

/-- The ring keeps up with the list, and so does the rest. -/
theorem of_driver (h : s.Refines d) {driver : Driver}
    (hd : d' = driver.withSessionBlacklist d.context.sessionBlacklist) :
    LinkedDriver.Refines { s with driver } d' := by
  subst hd
  exact ⟨h.memory, rfl⟩

/-- Another memory, for another session blacklist. -/
theorem of_memory (h : s.Refines d) {memory : SessionMemory}
    {entries : List SessionBlacklistEntry} (hmemory : memory.Represents entries) :
    LinkedDriver.Refines { s with memory } (d.withSessionBlacklist entries) where
  memory := hmemory
  driver := by
    conv_rhs => rw [← h.driver]
    rfl

/-- **Each operation that adds nothing** does to the linked driver what it does to the list. -/
theorem perform (h : s.Refines d) {operation : LinkedOperation} (hnothing : operation.AddsNothing)
    (hstep : d.perform upcase operation.onList = some d') :
    ∃ s', s.perform upcase operation = some s' ∧ s'.Refines d' := by
  cases operation with
  | loadImage o fullImageName pid =>
    obtain rfl := Option.some.inj hstep
    refine ⟨_, rfl, h.of_driver ?_⟩
    conv_lhs => rw [← h.driver]
    exact onSystemLoadImage_withSessionBlacklist s.driver _ o fullImageName (processHandle pid)
  | processExit pid =>
    obtain rfl := Option.some.inj hstep
    obtain ⟨memory, hmemory, hrepresents⟩ :=
      h.memory.sessionBlacklistCleanupForPid (processHandle pid)
    refine ⟨_, by rw [LinkedDriver.perform, onSystemProcessChange, if_pos rfl, hmemory]; rfl, ?_⟩
    refine ⟨hrepresents, ?_⟩
    conv_rhs => rw [← h.driver]
    rfl
  | setList kind o buffer =>
    rw [LinkedOperation.onList, Driver.perform, ← h.driver, setList_withSessionBlacklist] at hstep
    split_ifs at hstep with hok
    obtain rfl := Option.some.inj hstep
    exact ⟨_, by rw [LinkedDriver.perform, Driver.perform, if_pos hok]; rfl, h.of_driver rfl⟩
  | setSwitch kind o value =>
    rw [LinkedOperation.onList, Driver.perform, ← h.driver, setSwitch_withSessionBlacklist] at hstep
    split_ifs at hstep with hok
    obtain rfl := Option.some.inj hstep
    exact ⟨_, by rw [LinkedDriver.perform, Driver.perform, if_pos hok]; rfl, h.of_driver rfl⟩
  | addSession o pid outputBufferLength input =>
    obtain rfl := Option.some.inj hstep
    obtain ⟨r, hr⟩ : ∃ r : AddRequest, r = ⟨o, processHandle pid, outputBufferLength, input⟩ :=
      ⟨_, rfl⟩
    have hnothing : r.Succeeds → r.strings = [] := hr ▸ hnothing
    -- the list is as before, and so is what the ring represents
    obtain ⟨ntstatus, memory, hhandle, -, hkeep, -⟩ := r.handle_represents h.memory
    have hrepresents : memory.Represents d.context.sessionBlacklist :=
      hkeep (by tauto)
    have hempty : (if r.Succeeds then r.entries.map (·.deviceInstancePath) else []) = [] := by
      split_ifs with hsucceeds
      · rw [AddRequest.entries, hnothing hsucceeds]
        rfl
      · rfl
    refine ⟨{ s with memory }, ?_, ?_⟩
    · rw [hr] at hhandle
      rw [LinkedDriver.perform]
      exact congrArg (Option.map _) hhandle
    · rw [← hr, hempty, appendSessionBlacklist, List.map_nil, List.append_nil]
      exact h.of_memory hrepresents
  | clearSession pid =>
    obtain rfl := Option.some.inj hstep
    obtain ⟨memory, hmemory, hrepresents⟩ :=
      h.memory.sessionBlacklistCleanupForPid (processHandle pid)
    refine ⟨{ s with memory }, ?_, h.of_memory hrepresents⟩
    rw [LinkedDriver.perform, SessionMemory.onControlDeviceIoClearSessionBlacklist,
      if_neg (by omega), hmemory]
    rfl
  | shutdown =>
    obtain rfl := Option.some.inj hstep
    refine ⟨_, rfl, h.of_driver ?_⟩
    conv_lhs => rw [← h.driver]
    rfl
  | openDevice deviceInstancePath pid sessionId =>
    obtain rfl := Option.some.inj hstep
    obtain ⟨s', hs', hrefines⟩ := @onDeviceFileCreate upcase _ _ h deviceInstancePath
      (processHandle pid) sessionId
    exact ⟨s', by rw [LinkedDriver.perform, hs']; rfl, hrefines⟩

/-- **The first request that adds entries** leaves its local head in the ring in front of them, and
an open that gets to the session blacklist has no decision. -/
theorem accessDenied_of_adds (h : s.Refines d) (hempty : d.context.sessionBlacklist = [])
    {operation : LinkedOperation} (hadds : ¬operation.AddsNothing) :
    ∃ s', s.perform upcase operation = some s' ∧ ∀ deviceInstancePath pid sessionId,
      d.reference.ReadsSessionBlacklist upcase deviceInstancePath pid sessionId →
        s'.accessDenied upcase deviceInstancePath pid sessionId = none := by
  cases operation with
  | addSession o pid outputBufferLength input =>
    obtain ⟨hsucceeds, hstrings⟩ := Classical.not_imp.mp hadds
    obtain ⟨ntstatus, memory, hhandle, -, -, hbreak⟩ :=
      AddRequest.handle_represents _ h.memory
    obtain ⟨⟨blocks, new, hring, hblocks, -⟩, -⟩ := hbreak hsucceeds hstrings
    obtain rfl : blocks = [] := by simpa [hempty] using hblocks
    refine ⟨{ s with memory }, congrArg (Option.map _) hhandle, fun path pid sessionId hreads => ?_⟩
    obtain ⟨hpid, hactive, hnone⟩ := hreads
    have hactive' : s.driver.context.active = true := by
      rw [← h.driver] at hactive
      exact hactive
    have hhead : memory.links.flink .sessionBlacklistHead = .localHead s.memory.invocations :=
      hring.flink_head
    have hlist : s.driver.list .blacklist = d.reference.list .blacklist := h.list_eq .blacklist
    rw [LinkedDriver.accessDenied, LinkedDriver.onDeviceFileCreate,
      processHandleToProcessId_processHandle, if_pos ⟨hpid, hactive'⟩, LinkedDriver.blacklisted,
      hlist, hnone, hhead]
    rfl
  | _ => exact absurd trivial hadds

/-- A run of operations that add nothing goes through on the linked driver when it does on the
list. -/
theorem run (h : s.Refines d) {operations : List LinkedOperation}
    (hnothing : ∀ operation ∈ operations, operation.AddsNothing)
    (hrun : Machine.run (Driver.perform upcase) d (operations.map (·.onList)) = some d') :
    ∃ s', Machine.run (LinkedDriver.perform upcase) s operations = some s' ∧ s'.Refines d' :=
  Machine.exists_run_of_refinement (fun _ _ _ _ h hC hstep => h.perform hC hstep) h hnothing hrun

end LinkedDriver.Refines

/-! ### The decision -/

/-- An operation that adds nothing leaves an empty session blacklist empty. -/
theorem sessionBlacklist_next {r : Reference} (hr : r.sessionBlacklist = [])
    {operation : LinkedOperation} (hnothing : operation.AddsNothing) :
    (r.next operation.onList).sessionBlacklist = [] := by
  cases operation with
  | loadImage o fullImageName pid =>
    rcases fullImageName with _ | fullImageName
    · exact hr
    · rw [LinkedOperation.onList, Reference.next]
      split_ifs <;> exact hr
  | addSession o pid outputBufferLength input =>
    rw [LinkedOperation.onList, Reference.next, hr]
    dsimp only
    split_ifs with hsucceeds
    · rw [AddRequest.entries, hnothing hsucceeds]
      rfl
    · rfl
  | processExit pid | clearSession pid =>
    rw [LinkedOperation.onList, Reference.next, hr]
    rfl
  | _ => exact hr

/-- So do the operations of a run. -/
theorem sessionBlacklist_foldl_next {r : Reference} (hr : r.sessionBlacklist = [])
    {operations : List LinkedOperation}
    (hnothing : ∀ operation ∈ operations, operation.AddsNothing) :
    ((operations.map (·.onList)).foldl Reference.next r).sessionBlacklist = [] := by
  induction operations generalizing r with
  | nil => exact hr
  | cons operation operations ih =>
    obtain ⟨hoperation, hoperations⟩ := List.forall_mem_cons.mp hnothing
    exact ih (sessionBlacklist_next hr hoperation) hoperations

/-- **The cached decision is the uncached one** in the runs in which no request that succeeds adds
an entry. The driver gets through the run, and then access is denied exactly when the cache-free
reference denies it; the run without its device opens leads to the same decisions. The first request
that adds an entry costs the next open that gets to the session blacklist its decision. -/
theorem linkedDecision_eq_uncached (upcase : WChar → WChar) {o : CreateOutcome} {fw : Framework}
    (hstart : NTSuccess (onDriverCreate o fw).1) (links : LinkMemory Address)
    {operations : List LinkedOperation}
    (hsucceeds : ∀ operation ∈ operations, operation.onList.Succeeds)
    (hnothing : ∀ operation ∈ operations, operation.AddsNothing) :
    ∃ s, Machine.run (LinkedDriver.perform upcase) (.start o fw links) operations = some s ∧
      (∀ deviceInstancePath pid sessionId,
        s.accessDenied upcase deviceInstancePath pid sessionId =
          some (decide (((operations.map (·.onList)).foldl Reference.next
            (onDriverCreate o fw).2.reference).AccessDenied upcase deviceInstancePath pid
              sessionId))) ∧
      (∃ s', Machine.run (LinkedDriver.perform upcase) (.start o fw links)
          (operations.filter (¬·.onList.IsOpen)) = some s' ∧
        ∀ deviceInstancePath pid sessionId,
          s'.accessDenied upcase deviceInstancePath pid sessionId =
            s.accessDenied upcase deviceInstancePath pid sessionId) ∧
      ∀ operation : LinkedOperation, ¬operation.AddsNothing →
        ∃ s', s.perform upcase operation = some s' ∧ ∀ deviceInstancePath pid sessionId,
          ((operations.map (·.onList)).foldl Reference.next
            (onDriverCreate o fw).2.reference).ReadsSessionBlacklist upcase deviceInstancePath pid
              sessionId →
          s'.accessDenied upcase deviceInstancePath pid sessionId = none := by
  have hstarted := LinkedDriver.Refines.start o fw links
  obtain ⟨d, hrun⟩ := @exists_run_of_succeeds upcase (onDriverCreate o fw).2
    (operations.map (·.onList)) (by simpa using hsucceeds)
  obtain ⟨hdecides, d', hrun', hsame⟩ := accessDenied_eq_uncached upcase hstart hrun
  -- both runs on the list are runs on the ring
  obtain ⟨s, hs, hrefines⟩ := hstarted.run hnothing hrun
  rw [List.filter_map] at hrun'
  obtain ⟨s', hs', hrefines'⟩ := hstarted.run
    (fun operation hmem => hnothing operation (List.mem_of_mem_filter hmem)) hrun'
  have href : d.reference = (operations.map (·.onList)).foldl Reference.next
      (onDriverCreate o fw).2.reference := ((onDriverCreate_sound upcase hstart).run hrun).2
  have hempty : d.reference.sessionBlacklist = [] := by
    rw [href]
    exact sessionBlacklist_foldl_next (onDriverCreate_frame o fw).2 hnothing
  refine ⟨s, hs, fun path pid sessionId => ?_, ⟨s', hs', fun path pid sessionId => ?_⟩,
    fun operation hadds => href ▸ hrefines.accessDenied_of_adds hempty hadds⟩
  · rw [hrefines.accessDenied]
    exact congrArg some (Bool.eq_iff_iff.mpr ((hdecides path pid sessionId).trans
      decide_eq_true_iff.symm))
  · rw [hrefines'.accessDenied, hrefines.accessDenied, hsame]

/-- A whitelist of one name, a process of that name, and a hidden device. A request to hide another
device runs out of memory. -/
def hidesOnBlacklist : List LinkedOperation :=
  [.setList .whitelist ⟨⟨statusSuccess, statusSuccess⟩, .success⟩ [0x41, nul, nul],
    .loadImage ⟨true, statusSuccess, statusSuccess⟩ (some (.letter 0)) 8,
    .setSwitch .active ⟨statusSuccess, statusSuccess⟩ true,
    .setList .blacklist ⟨⟨statusSuccess, statusSuccess⟩, .success⟩ [0x42, nul, nul],
    .addSession ⟨statusSuccess, fun _ => ⟨false, statusSuccess⟩⟩ 8 0 [0x43, 0, 0, 0, 0, 0],
    .openDevice [0x42] 8 1, .clearSession 8, .processExit 16]

/-- The process may open the device, another one may not. -/
theorem linkedDecision_hidesOnBlacklist :
    ∃ s, Machine.run (LinkedDriver.perform id) (.start .success .empty ⟨id, id⟩)
        hidesOnBlacklist = some s ∧
      s.accessDenied id [0x42] 8 1 = some false ∧ s.accessDenied id [0x42] 12 1 = some true := by
  obtain ⟨s, hs, hdecides, -, -⟩ := linkedDecision_eq_uncached id
    (show NTSuccess (onDriverCreate .success .empty).1 by decide) ⟨id, id⟩
    (show ∀ operation ∈ hidesOnBlacklist, operation.onList.Succeeds by decide) (by decide)
  exact ⟨s, hs, (hdecides _ _ _).trans (by decide), (hdecides _ _ _).trans (by decide)⟩

/-- The service is active, and a process asks for a device to be hidden. -/
def hidesForSession : List LinkedOperation :=
  [.setSwitch .active ⟨statusSuccess, statusSuccess⟩ true,
    .addSession oneString.o 8 oneString.outputBufferLength oneString.input]

/-- The next open of the device reads the local head of the request, which is no entry, when the
cache-free reference denies access. -/
theorem hidesForSession_reads_localHead :
    (∀ operation ∈ hidesForSession, operation.onList.Succeeds) ∧
      ((hidesForSession.map (·.onList)).foldl Reference.next firstDriver.reference).AccessDenied
        id [0x41] 12 1 ∧
      ∀ links, ∃ s,
        Machine.run (LinkedDriver.perform id) (.start .success .empty links) hidesForSession =
          some s ∧
        s.memory.links.flink .sessionBlacklistHead = .localHead 0 ∧
        s.accessDenied id [0x41] 12 1 = none :=
  ⟨by decide, by decide, fun _ => ⟨_, rfl, rfl, rfl⟩⟩

end HidHide
