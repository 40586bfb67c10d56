import HidHide.Driver.Property
import HidHide.Driver.ProcessId

/-!
# The driver's logic

The functions of `Logic.c`: the decision on a file open (`onDeviceFileCreate`), the notification
routines, and the setters of the lists and the switches. The state is the framework, the control
device context and the process tree.

The two lists and the two switches are kept by two families of functions that differ in the
property and the context field only; `ListKind` and `SwitchKind` are the parameters. A setter is
cut where it takes the lock: `persistList` and `persistSwitch` are the registry writes outside of
it, `replaceList`, `assignSwitch` and the flush of the evaluation cache the critical sections.

The session blacklist is kept here as the list of its entries; the circular list of pointers that
holds it is modelled in `HidHide.Driver.SessionBlacklist`. The two part with the first request that
adds an entry, and from then on the functions here say what the code is to do, on the list.
-/

namespace HidHide

/-! ### The state -/

/-- `SESSION_BLACKLIST_ENTRY` without its links. -/
structure SessionBlacklistEntry where
  ownerPid : Handle
  deviceInstancePath : UnicodeString
  deriving DecidableEq, Repr

/-- `CONTROL_DEVICE_CONTEXT`. -/
structure ControlDeviceContext where
  whitelistedFullImageNames : WdfCollection
  blacklistedDeviceInstancePaths : WdfCollection
  active : Bool
  whitelistedInverse : Bool
  sessionBlacklist : List SessionBlacklistEntry
  shutdownPending : Bool
  numberOfDevicesCreated : Int32

/-- The state of the driver. -/
structure Driver where
  framework : Framework
  context : ControlDeviceContext
  processIdTree : ProcessIdTree

/-- What the driver writes to the event log. -/
inductive LogEvent where
  | enabled
  | disabled
  | whitelisted (pid : UInt32) (sessionId : UInt32)
  deriving DecidableEq, Repr

/-- The two lists. -/
inductive ListKind where
  | whitelist
  | blacklist
  deriving DecidableEq, Repr

namespace ListKind

/-- The registry value of the list. -/
def property : ListKind → DriverProperty
  | whitelist => .whitelistedFullImageNames
  | blacklist => .blacklistedDeviceInstancePaths

/-- The collection that the context refers to. -/
def collection : ListKind → ControlDeviceContext → WdfCollection
  | whitelist, ctx => ctx.whitelistedFullImageNames
  | blacklist, ctx => ctx.blacklistedDeviceInstancePaths

/-- Let the context refer to another collection. -/
def setCollection : ListKind → ControlDeviceContext → WdfCollection → ControlDeviceContext
  | whitelist, ctx, value => { ctx with whitelistedFullImageNames := value }
  | blacklist, ctx, value => { ctx with blacklistedDeviceInstancePaths := value }

@[simp] theorem collection_setCollection (kind kind' : ListKind) (ctx : ControlDeviceContext)
    (value : WdfCollection) :
    kind.collection (kind'.setCollection ctx value) =
      if kind = kind' then value else kind.collection ctx := by
  cases kind <;> cases kind' <;> rfl

@[simp] theorem setCollection_sessionBlacklist (kind : ListKind) (ctx : ControlDeviceContext)
    (value : WdfCollection) :
    (kind.setCollection ctx value).sessionBlacklist = ctx.sessionBlacklist := by
  cases kind <;> rfl

theorem property_injective : Function.Injective property := by
  intro kind kind' h
  cases kind <;> cases kind' <;> simp_all [property]

end ListKind

/-- The two switches. -/
inductive SwitchKind where
  | active
  | whitelistedInverse
  deriving DecidableEq, Repr

namespace SwitchKind

/-- The registry value of the switch. -/
def property : SwitchKind → DriverProperty
  | active => .active
  | whitelistedInverse => .whitelistedInverse

/-- The value in the context. -/
def value : SwitchKind → ControlDeviceContext → Bool
  | active, ctx => ctx.active
  | whitelistedInverse, ctx => ctx.whitelistedInverse

/-- Assign the value in the context. -/
def setValue : SwitchKind → ControlDeviceContext → Bool → ControlDeviceContext
  | active, ctx, value => { ctx with active := value }
  | whitelistedInverse, ctx, value => { ctx with whitelistedInverse := value }

@[simp] theorem value_setCollection (kind : SwitchKind) (list : ListKind)
    (ctx : ControlDeviceContext) (value : WdfCollection) :
    kind.value (list.setCollection ctx value) = kind.value ctx := by
  cases kind <;> cases list <;> rfl

@[simp] theorem value_setValue (kind kind' : SwitchKind) (ctx : ControlDeviceContext)
    (value : Bool) :
    kind.value (kind'.setValue ctx value) = if kind = kind' then value else kind.value ctx := by
  cases kind <;> cases kind' <;> rfl

@[simp] theorem setValue_sessionBlacklist (kind : SwitchKind) (ctx : ControlDeviceContext)
    (value : Bool) : (kind.setValue ctx value).sessionBlacklist = ctx.sessionBlacklist := by
  cases kind <;> rfl

@[simp] theorem collection_setValue (list : ListKind) (kind : SwitchKind)
    (ctx : ControlDeviceContext) (value : Bool) :
    list.collection (kind.setValue ctx value) = list.collection ctx := by
  cases list <;> cases kind <;> rfl

theorem property_injective : Function.Injective property := by
  intro kind kind' h
  cases kind <;> cases kind' <;> simp_all [property]

/-- Lists and switches are kept under different names. -/
theorem property_ne (kind : SwitchKind) (list : ListKind) : kind.property ≠ list.property := by
  cases kind <;> cases list <;> simp [property, ListKind.property]

end SwitchKind

/-- The strings of a list, as the driver reads them. -/
def Driver.list (d : Driver) (kind : ListKind) : List UnicodeString :=
  d.framework.contents (kind.collection d.context)

theorem Driver.list_congr {d d' : Driver} (hctx : d'.context = d.context)
    (hcontents : d'.framework.contents = d.framework.contents) (kind : ListKind) :
    d'.list kind = d.list kind := by
  rw [Driver.list, hctx, hcontents, Driver.list]

/-! ### The blacklist -/

/-- `L'!'`, which separates an instance path from a session. -/
def delimiter : WChar := 0x21

/-- The value of the decimal digits at the front of the string. -/
def leadingDigits (s : UnicodeString) : UInt32 :=
  (s.takeWhile fun c => 0x30 ≤ c ∧ c ≤ 0x39).foldl
    (fun value c => 10 * value + (c - 0x30).toUInt32) 0

/-- `RtlUnicodeStringToInteger` with base 10: white space and a sign may precede the digits, and
the number ends at the first other character. -/
def rtlUnicodeStringToInteger (s : UnicodeString) : UInt32 :=
  match s.dropWhile (· ≤ 0x20) with
  | [] => 0
  | c :: cs =>
      if c = 0x2D then 0 - leadingDigits cs
      else if c = 0x2B then leadingDigits cs
      else leadingDigits (c :: cs)

/-- `SplitDeviceData`: the part before the first delimiter and the session after it. A delimiter
in front counts as none. -/
def splitDeviceData (input : UnicodeString) : UnicodeString × UInt32 :=
  let delimiterPosition := (input.findIdx? (· = delimiter)).getD 0
  if delimiterPosition > 0 then
    (input.take delimiterPosition, rtlUnicodeStringToInteger (input.drop (delimiterPosition + 1)))
  else (input, 0)

/-- The first loop of `Blacklisted`: the first entry with the path of the device decides. -/
def checkPersistentBlacklist (upcase : WChar → WChar) (deviceInstancePath : UnicodeString)
    (sessionId : UInt32) : List UnicodeString → Option Bool
  | [] => none
  | inputFilter :: rest =>
      let (blacklistedDeviceInstancePath, jailSessionId) := splitDeviceData inputFilter
      if RtlCompareEqual upcase blacklistedDeviceInstancePath deviceInstancePath then
        -- an entry for the session of the caller does not hide the device from it
        if sessionId ≠ 0 ∧ jailSessionId ≠ 0 ∧ sessionId = jailSessionId then some false
        else some true
      else checkPersistentBlacklist upcase deviceInstancePath sessionId rest

/-- `Blacklisted`, of the strings of the persistent list and the entries of the session list. -/
def blacklisted (upcase : WChar → WChar) (blacklistedDeviceInstancePaths : List UnicodeString)
    (sessionBlacklist : List SessionBlacklistEntry) (deviceInstancePath : UnicodeString)
    (sessionId : UInt32) : Bool :=
  match checkPersistentBlacklist upcase deviceInstancePath sessionId
    blacklistedDeviceInstancePaths with
  | some verdict => verdict
  | none => sessionBlacklist.any fun entry =>
      RtlCompareEqual upcase entry.deviceInstancePath deviceInstancePath

/-! ### The decision on a file open -/

/-- `SYSTEM_PID`. -/
def systemPid : UInt32 := 4

/-- `Whitelisted`: the result, the value of `*cacheHit`, and the state. -/
def whitelisted (upcase : WChar → WChar) (d : Driver) (processId : Handle) :
    Bool × Bool × Driver :=
  let (ntstatus, cacheHit, tree) := hidHideProcessIdCheckFullImageNameAgainstWhitelist upcase
    d.processIdTree processId (d.list .whitelist)
  let result : Bool := statusProcessInJob = ntstatus
  (if d.context.whitelistedInverse then !result else result, cacheHit,
    { d with processIdTree := tree })

/-- `OnDeviceFileCreate` by a process in a session, on the device with the instance path: the
value of `accessDenied`, the events logged, and the state. -/
def onDeviceFileCreate (upcase : WChar → WChar) (d : Driver) (deviceInstancePath : UnicodeString)
    (processId : Handle) (sessionId : UInt32) : Bool × List LogEvent × Driver :=
  if systemPid ≠ processHandleToProcessId processId ∧ d.context.active = true ∧
      blacklisted upcase (d.list .blacklist) d.context.sessionBlacklist deviceInstancePath
        sessionId = true then
    let (granted, cacheHit, d) := whitelisted upcase d processId
    if granted then
      -- the first time only
      (false,
        if cacheHit then [] else [.whitelisted (processHandleToProcessId processId) sessionId], d)
    else (true, [], d)
  else (false, [], d)

section FileCreate

variable (upcase : WChar → WChar) (d : Driver) (deviceInstancePath : UnicodeString)
  (processId : Handle) (sessionId : UInt32)

/-- The inverse switch turns the verdict of the check around. -/
theorem whitelisted_fst :
    (whitelisted upcase d processId).1 =
      (decide (statusProcessInJob = (hidHideProcessIdCheckFullImageNameAgainstWhitelist upcase
        d.processIdTree processId (d.list .whitelist)).1) ^^ d.context.whitelistedInverse) := by
  simp only [whitelisted]
  cases d.context.whitelistedInverse
  · rw [if_neg Bool.false_ne_true, Bool.xor_false]
  · rw [if_pos rfl, Bool.xor_true]

/-- Access is denied to a process that is not whitelisted, on a blacklisted device, while the
service is active. -/
theorem onDeviceFileCreate_accessDenied :
    (onDeviceFileCreate upcase d deviceInstancePath processId sessionId).1 = true ↔
      processHandleToProcessId processId ≠ systemPid ∧ d.context.active = true ∧
        blacklisted upcase (d.list .blacklist) d.context.sessionBlacklist deviceInstancePath
          sessionId = true ∧
        (whitelisted upcase d processId).1 = false := by
  rw [onDeviceFileCreate]
  split_ifs with hchallenged
  · obtain ⟨hpid, hactive, hblack⟩ := hchallenged
    rcases hgranted : (whitelisted upcase d processId).1
    · simp [hgranted, hactive, hblack, hpid.symm]
    · simp [hgranted]
  · refine iff_of_false (by simp) fun h => hchallenged ⟨h.1.symm, h.2.1, h.2.2.1⟩

/-- A device open changes nothing but the verdict cached for the process. -/
theorem onDeviceFileCreate_state :
    let d' := (onDeviceFileCreate upcase d deviceInstancePath processId sessionId).2.2
    d' = d ∨ d' = { d with processIdTree :=
      (hidHideProcessIdCheckFullImageNameAgainstWhitelist upcase d.processIdTree processId
        (d.list .whitelist)).2.2 } := by
  rw [onDeviceFileCreate]
  split_ifs with hchallenged
  · right
    rcases hgranted : (whitelisted upcase d processId).1
    · simp only [hgranted, Bool.false_eq_true, if_false]
      rfl
    · simp only [hgranted, if_true]
      rfl
  · exact .inl rfl

end FileCreate

/-! ### The notification routines -/

/-- Another session blacklist. -/
def Driver.withSessionBlacklist (d : Driver) (entries : List SessionBlacklistEntry) : Driver :=
  { d with context := { d.context with sessionBlacklist := entries } }

/-- `SessionBlacklistCleanupForPid`. -/
def sessionBlacklistCleanupForPid (d : Driver) (processId : Handle) : Driver :=
  d.withSessionBlacklist (d.context.sessionBlacklist.filter (·.ownerPid ≠ processId))

/-- The splice of `OnControlDeviceIoAddSessionBlacklist` on the list of entries: those for the
strings of the request are appended. The code also leaves the local head of the request in the
ring, so that a ring with entries is not the list of them (`ring_represents_iff`). -/
def appendSessionBlacklist (d : Driver) (callerPid : Handle) (paths : List UnicodeString) :
    Driver :=
  d.withSessionBlacklist (d.context.sessionBlacklist ++ paths.map (⟨callerPid, ·⟩))

/-- `OnSystemProcessChange`. -/
def onSystemProcessChange (d : Driver) (processId : Handle) (create : Bool) : Driver :=
  if create = false then
    sessionBlacklistCleanupForPid
      { d with processIdTree := (hidHideProcessIdUnregister d.processIdTree processId).2 } processId
  else d

/-- `OnSystemLoadImage`. -/
def onSystemLoadImage (o : NewNodeOutcome) (d : Driver) (fullImageName : Option ImageName)
    (processId : Handle) : Driver :=
  match fullImageName with
  | none => d
  | some fullImageName =>
      -- the process id is zero when a driver is loaded
      if processId ≠ 0 then
        { d with processIdTree :=
            (hidHideProcessIdRegister o d.processIdTree processId fullImageName.chars).2 }
      else d

/-! ### The setters of the lists -/

/-- What the calls of a list setter come back with. -/
structure ListOutcome where
  write : WriteOutcome
  read : ReadOutcome

/-- The registry write of a list setter. -/
def persistList (kind : ListKind) (o : WriteOutcome) (buffer : List WChar) (d : Driver) :
    NTStatus × Driver :=
  let (ntstatus, fw) := hidHideDriverSetMultiStringProperty o kind.property buffer d.framework
  (ntstatus, { d with framework := fw })

/-- The critical section of a list setter: the collection is deleted and read again. -/
def replaceList (kind : ListKind) (o : ReadOutcome) (d : Driver) : NTStatus × Driver :=
  let fw := d.framework.wdfObjectDelete (kind.collection d.context)
  let (ntstatus, value, fw) :=
    hidHideDriverCreateCollectionForMultiStringProperty o kind.property fw
  (ntstatus,
    { d with
      framework := fw
      context := kind.setCollection d.context (value.getD (kind.collection d.context)) })

/-- The critical section of the flush. -/
def flushEvaluationCache (d : Driver) : Driver :=
  { d with processIdTree := hidHideProcessIdsFlushWhitelistEvaluationCache d.processIdTree }

/-- `SetWhitelist`. -/
def setWhitelist (o : ListOutcome) (buffer : List WChar) (d : Driver) : NTStatus × Driver :=
  let (ntstatus, d) := persistList .whitelist o.write buffer d
  if ¬NTSuccess ntstatus then (ntstatus, d)
  else
    let (ntstatus, d) := replaceList .whitelist o.read d
    if ¬NTSuccess ntstatus then (ntstatus, d)
    else (statusSuccess, flushEvaluationCache d)

/-- `SetBlacklist`. -/
def setBlacklist (o : ListOutcome) (buffer : List WChar) (d : Driver) : NTStatus × Driver :=
  let (ntstatus, d) := persistList .blacklist o.write buffer d
  if ¬NTSuccess ntstatus then (ntstatus, d)
  else
    let (ntstatus, d) := replaceList .blacklist o.read d
    if ¬NTSuccess ntstatus then (ntstatus, d)
    else (statusSuccess, d)

/-- The setter of a list. -/
def setList : ListKind → ListOutcome → List WChar → Driver → NTStatus × Driver
  | .whitelist => setWhitelist
  | .blacklist => setBlacklist

/-! ### The setters of the switches -/

/-- The registry write of a switch setter. -/
def persistSwitch (kind : SwitchKind) (o : WriteOutcome) (value : Bool) (d : Driver) :
    NTStatus × Driver :=
  let (ntstatus, fw) := hidHideDriverSetBooleanProperty o kind.property value d.framework
  (ntstatus, { d with framework := fw })

/-- The critical section of a switch setter, with the events logged after it. -/
def assignSwitch (kind : SwitchKind) (value : Bool) (d : Driver) : List LogEvent × Driver :=
  let changed : Bool := kind.value d.context ≠ value
  ((if changed && value then [.enabled] else []) ++ (if changed && !value then [.disabled] else []),
    { d with context := kind.setValue d.context value })

/-- The setter of a switch. -/
def setSwitch (kind : SwitchKind) (o : WriteOutcome) (value : Bool) (d : Driver) :
    NTStatus × List LogEvent × Driver :=
  let (ntstatus, d) := persistSwitch kind o value d
  if ¬NTSuccess ntstatus then (ntstatus, [], d)
  else (statusSuccess, assignSwitch kind value d)

/-- `SetActive`. -/
def setActive (o : WriteOutcome) (active : Bool) (d : Driver) : NTStatus × List LogEvent × Driver :=
  setSwitch .active o active d

/-- `SetInverse`. -/
def setInverse (o : WriteOutcome) (inverse : Bool) (d : Driver) :
    NTStatus × List LogEvent × Driver :=
  setSwitch .whitelistedInverse o inverse d

/-! ### The session blacklist is a field of its own -/

section Session

variable (d : Driver) (entries : List SessionBlacklistEntry)

@[simp] theorem withSessionBlacklist_sessionBlacklist :
    (d.withSessionBlacklist entries).context.sessionBlacklist = entries := rfl

@[simp] theorem withSessionBlacklist_framework :
    (d.withSessionBlacklist entries).framework = d.framework := rfl

@[simp] theorem withSessionBlacklist_processIdTree :
    (d.withSessionBlacklist entries).processIdTree = d.processIdTree := rfl

@[simp] theorem collection_withSessionBlacklist (kind : ListKind) :
    kind.collection (d.withSessionBlacklist entries).context = kind.collection d.context := by
  cases kind <;> rfl

@[simp] theorem value_withSessionBlacklist (kind : SwitchKind) :
    kind.value (d.withSessionBlacklist entries).context = kind.value d.context := by
  cases kind <;> rfl

@[simp] theorem list_withSessionBlacklist (kind : ListKind) :
    (d.withSessionBlacklist entries).list kind = d.list kind := by
  rw [Driver.list, collection_withSessionBlacklist, withSessionBlacklist_framework, Driver.list]

end Session

/-! ### What the list setters do -/

/-- The context refers to collections that have been created. -/
def Driver.WellFormed (d : Driver) : Prop :=
  ∀ kind : ListKind, kind.collection d.context < d.framework.nextCollection

section ListSetters

variable (kind : ListKind) (buffer : List WChar) {d : Driver}

theorem persistList_fst (o : WriteOutcome) : NTSuccess (persistList kind o buffer d).1 ↔ o.Ok :=
  (assignProperty_success o kind.property _ d.framework).1

theorem persistList_registry {o : WriteOutcome} (ho : o.Ok) :
    (persistList kind o buffer d).2.framework.registry =
      Function.update d.framework.registry kind.property
        (some (.regMultiSz (storedChars buffer))) := by
  have h := (assignProperty_success o kind.property (.regMultiSz (storedChars buffer))
    d.framework).2
  rwa [if_pos ho] at h

theorem persistList_of_not_ok {o : WriteOutcome} (ho : ¬o.Ok) :
    (persistList kind o buffer d).2.framework.registry = d.framework.registry := by
  have h := (assignProperty_success o kind.property (.regMultiSz (storedChars buffer))
    d.framework).2
  rwa [if_neg ho] at h

/-- The registry write leaves everything in memory as it is. -/
theorem persistList_frame (o : WriteOutcome) :
    (persistList kind o buffer d).2.context = d.context ∧
      (persistList kind o buffer d).2.processIdTree = d.processIdTree ∧
      (persistList kind o buffer d).2.framework.contents = d.framework.contents ∧
      (persistList kind o buffer d).2.framework.liveCollections = d.framework.liveCollections ∧
      (persistList kind o buffer d).2.framework.nextCollection = d.framework.nextCollection :=
  ⟨rfl, rfl, assignProperty_collections o kind.property _ d.framework⟩

/-- **A successful replacement**: the context refers to a new collection with the list that is
persisted. -/
theorem replaceList_success {o : ReadOutcome} {strings : List UnicodeString}
    (ho : o.Ok (d.framework.registry kind.property))
    (hv : decodedValue (d.framework.registry kind.property) = some strings) :
    let r := replaceList kind o d
    NTSuccess r.1 ∧
      r.2.context = kind.setCollection d.context d.framework.nextCollection ∧
      r.2.processIdTree = d.processIdTree ∧
      (d.framework.wdfObjectDelete (kind.collection d.context)).Created r.2.framework
        d.framework.nextCollection strings := by
  obtain ⟨hstatus, hvalue, hcreated⟩ := @createCollection_success o kind.property
    (d.framework.wdfObjectDelete (kind.collection d.context)) strings ho hv
  refine ⟨hstatus, ?_, rfl, hcreated⟩
  simp only [replaceList, hvalue, Option.getD_some]
  rfl

/-- **A failed replacement**: the context refers to a deleted collection. -/
theorem replaceList_failure {o : ReadOutcome}
    (h : ¬(o.Ok (d.framework.registry kind.property) ∧
      Loadable (d.framework.registry kind.property))) :
    let r := replaceList kind o d
    ¬NTSuccess r.1 ∧
      (r.2.context = d.context ∨
        r.2.context = kind.setCollection d.context d.framework.nextCollection) ∧
      kind.collection r.2.context ∉ r.2.framework.liveCollections ∧
      r.2.processIdTree = d.processIdTree ∧
      (d.framework.wdfObjectDelete (kind.collection d.context)).NotCreated r.2.framework := by
  obtain ⟨hstatus, hvalue, hnot⟩ := @createCollection_failure o kind.property
    (d.framework.wdfObjectDelete (kind.collection d.context)) h
  have hold : kind.setCollection d.context (kind.collection d.context) = d.context := by
    cases kind <;> rfl
  have hlive : (replaceList kind o d).2.framework.liveCollections =
      d.framework.liveCollections.erase (kind.collection d.context) := hnot.liveCollections
  have hctx : (replaceList kind o d).2.context = d.context ∨
      (replaceList kind o d).2.context =
        kind.setCollection d.context d.framework.nextCollection := by
    -- the output argument is written as soon as a collection has been created
    rcases hr : (hidHideDriverCreateCollectionForMultiStringProperty o kind.property
      (d.framework.wdfObjectDelete (kind.collection d.context))).2.1 with _ | value
    · left
      simp only [replaceList, hr, Option.getD_none]
      exact hold
    · right
      obtain rfl := hvalue value hr
      simp only [replaceList, hr, Option.getD_some]
      rfl
  refine ⟨hstatus, hctx, ?_, rfl, hnot⟩
  -- in both cases the collection is one that the function has deleted
  rw [hlive]
  rcases hctx with hctx | hctx
  · rw [hctx]
    exact Finset.notMem_erase _ _
  · rw [hctx, ListKind.collection_setCollection, if_pos rfl]
    exact fun hmem => d.framework.nextCollection_notMem (Finset.mem_of_mem_erase hmem)

/-- What a list setter does after the replacement. -/
def ListKind.finish : ListKind → Driver → Driver
  | .whitelist => flushEvaluationCache
  | .blacklist => id

@[simp] theorem ListKind.finish_framework (kind : ListKind) (d : Driver) :
    (kind.finish d).framework = d.framework := by
  cases kind <;> rfl

@[simp] theorem ListKind.finish_context (kind : ListKind) (d : Driver) :
    (kind.finish d).context = d.context := by
  cases kind <;> rfl

/-- A list setter is the registry write, the replacement and what follows it. -/
theorem setList_eq (o : ListOutcome) (d : Driver) :
    setList kind o buffer d =
      if ¬NTSuccess (persistList kind o.write buffer d).1 then persistList kind o.write buffer d
      else if ¬NTSuccess (replaceList kind o.read (persistList kind o.write buffer d).2).1 then
        replaceList kind o.read (persistList kind o.write buffer d).2
      else (statusSuccess,
        kind.finish (replaceList kind o.read (persistList kind o.write buffer d).2).2) := by
  cases kind <;> rfl

/-- What a list setter does when it succeeds: the list is the one decoded from the request, the
other list and the other fields of the context are as before. -/
structure ListSet (kind : ListKind) (buffer : List WChar) (d d' : Driver) : Prop where
  registry : d'.framework.registry = Function.update d.framework.registry kind.property
    (some (.regMultiSz (storedChars buffer)))
  decoded : decodedValue (some (.regMultiSz (storedChars buffer))) = some (d'.list kind)
  other : d.WellFormed → ∀ kind' ≠ kind, d'.list kind' = d.list kind'
  context : d'.context = kind.setCollection d.context d.framework.nextCollection
  processIdTree : d'.processIdTree = (kind.finish d).processIdTree
  live : d'.framework.liveCollections = insert d.framework.nextCollection
    (d.framework.liveCollections.erase (kind.collection d.context))
  wellFormed : d.WellFormed → d'.WellFormed

/-- The lists after the registry write and a successful replacement: the new collection takes the
place of no other list's. -/
theorem list_after_replace {d' : Driver} {strings : List UnicodeString}
    (hctx : d'.context = kind.setCollection d.context d.framework.nextCollection)
    (hcontents : d'.framework.contents =
      Function.update d.framework.contents d.framework.nextCollection strings) :
    d'.list kind = strings ∧
      (d.WellFormed → ∀ kind' ≠ kind, d'.list kind' = d.list kind') := by
  simp only [Driver.list, hctx, hcontents, ListKind.collection_setCollection]
  refine ⟨by rw [if_pos trivial, Function.update_self], fun hwf kind' hkind => ?_⟩
  rw [if_neg hkind, Function.update_of_ne (hwf kind').ne]

theorem wellFormed_after_replace (hwf : d.WellFormed) {d' : Driver}
    (hctx : d'.context = kind.setCollection d.context d.framework.nextCollection)
    (hnext : d'.framework.nextCollection = d.framework.nextCollection + 1) : d'.WellFormed := by
  intro kind'
  -- one list refers to the new collection, the other to one of those that existed
  rw [hctx, hnext, ListKind.collection_setCollection]
  split_ifs
  · exact Nat.lt_succ_self _
  · exact Nat.lt_succ_of_lt (hwf kind')

/-- The value that the replacement finds is the one of the request. -/
theorem persistList_property {o : WriteOutcome} (ho : o.Ok) :
    (persistList kind o buffer d).2.framework.registry kind.property =
      some (.regMultiSz (storedChars buffer)) := by
  rw [persistList_registry kind buffer ho, Function.update_self]

/-- A list setter succeeds exactly when its calls do and what the request stores can be loaded. -/
theorem setList_success_iff (o : ListOutcome) (d : Driver) :
    NTSuccess (setList kind o buffer d).1 ↔
      o.write.Ok ∧ o.read.Ok (some (.regMultiSz (storedChars buffer))) ∧
        Loadable (some (.regMultiSz (storedChars buffer))) := by
  rw [setList_eq]
  have hpersist := persistList_fst kind buffer o.write (d := d)
  by_cases hwrite : o.write.Ok
  · have hread : NTSuccess (replaceList kind o.read (persistList kind o.write buffer d).2).1 ↔
        o.read.Ok (some (.regMultiSz (storedChars buffer))) ∧
          Loadable (some (.regMultiSz (storedChars buffer))) := by
      rw [← persistList_property kind buffer (d := d) hwrite]
      exact createCollection_success_iff
    rw [if_neg (not_not.mpr (hpersist.mpr hwrite))]
    split_ifs with hstatus
    · exact iff_of_true ntSuccess_statusSuccess ⟨hwrite, hread.mp hstatus⟩
    · exact iff_of_false hstatus fun h => hstatus (hread.mpr h.2)
  · have hfail : ¬NTSuccess (persistList kind o.write buffer d).1 := fun h =>
      hwrite (hpersist.mp h)
    rw [if_pos hfail]
    exact iff_of_false hfail fun h => hwrite h.1

/-- **A successful list setter** puts the list of the request in force. -/
theorem listSet_of_success {o : ListOutcome}
    (h : NTSuccess (setList kind o buffer d).1) :
    ListSet kind buffer d (setList kind o buffer d).2 := by
  obtain ⟨hwrite, hread, hload⟩ := (setList_success_iff kind buffer o d).mp h
  obtain ⟨strings, hv⟩ := Option.isSome_iff_exists.mp hload
  -- `d₁` is the driver between the registry write and the replacement
  obtain ⟨d₁, hd₁⟩ : ∃ d₁, d₁ = (persistList kind o.write buffer d).2 := ⟨_, rfl⟩
  have hreg : d₁.framework.registry = Function.update d.framework.registry kind.property
      (some (.regMultiSz (storedChars buffer))) := by
    rw [hd₁, persistList_registry kind buffer hwrite]
  have hreg₁ : d₁.framework.registry kind.property = some (.regMultiSz (storedChars buffer)) := by
    rw [hd₁, persistList_property kind buffer hwrite]
  obtain ⟨hctx₁, htree₁, hcontents₁, hlive₁, hnext₁⟩ :=
    persistList_frame kind buffer (d := d) o.write
  rw [← hd₁] at hctx₁ htree₁ hcontents₁ hlive₁ hnext₁
  obtain ⟨hstatus, hctx, htree, hcreated⟩ := replaceList_success kind (d := d₁) (o := o.read)
    (hreg₁ ▸ hread) (hreg₁ ▸ hv)
  have hset : setList kind o buffer d =
      (statusSuccess, kind.finish (replaceList kind o.read d₁).2) := by
    rw [setList_eq, ← hd₁,
      if_neg (not_not.mpr ((persistList_fst kind buffer o.write).mpr hwrite)),
      if_neg (not_not.mpr hstatus)]
  rw [hset]
  rw [hctx₁, hnext₁] at hctx
  have hcontents : (replaceList kind o.read d₁).2.framework.contents =
      Function.update d.framework.contents d.framework.nextCollection strings := by
    rw [hcreated.contents, hnext₁, ← hcontents₁]
    rfl
  have hafter : (kind.finish (replaceList kind o.read d₁).2).context =
      kind.setCollection d.context d.framework.nextCollection := by
    rw [ListKind.finish_context, hctx]
  obtain ⟨hlist, hother⟩ := list_after_replace kind hafter
    (by rw [ListKind.finish_framework, hcontents])
  refine ⟨?_, by rw [hv, hlist], hother, hafter, ?_, ?_, fun hwf => ?_⟩
  · rw [ListKind.finish_framework, hcreated.registry, ← hreg]
    rfl
  · have htree' : (replaceList kind o.read d₁).2.processIdTree = d.processIdTree := by
      rw [htree, htree₁]
    cases kind
    · simp only [ListKind.finish, flushEvaluationCache, htree']
    · exact htree'
  · rw [ListKind.finish_framework, hcreated.liveCollections, hnext₁]
    change insert _ (d₁.framework.liveCollections.erase (kind.collection d₁.context)) = _
    rw [hlive₁, hctx₁]
  · refine wellFormed_after_replace kind hwf hafter ?_
    rw [ListKind.finish_framework, hcreated.nextCollection, hnext₁]

end ListSetters

/-! ### What the switch setters do -/

section SwitchSetters

variable (kind : SwitchKind) (o : WriteOutcome) (value : Bool) (d : Driver)

/-- A switch setter succeeds exactly when its registry write does. -/
theorem setSwitch_success_iff : NTSuccess (setSwitch kind o value d).1 ↔ o.Ok := by
  have h : NTSuccess (persistSwitch kind o value d).1 ↔ o.Ok :=
    (assignProperty_success o kind.property _ d.framework).1
  rw [setSwitch]
  by_cases ho : o.Ok
  · simp [h.mpr ho, ho]
  · simp [mt h.mp ho, ho]

/-- **A successful switch setter** puts the value in force and changes nothing else in memory. -/
theorem setSwitch_of_ok (ho : o.Ok) :
    let d' := (setSwitch kind o value d).2.2
    d'.context = kind.setValue d.context value ∧ d'.processIdTree = d.processIdTree ∧
      d'.framework.contents = d.framework.contents ∧
      d'.framework.nextCollection = d.framework.nextCollection := by
  have h : NTSuccess (persistSwitch kind o value d).1 :=
    (assignProperty_success o kind.property _ d.framework).1.mpr ho
  obtain ⟨hcontents, -, hnext⟩ := assignProperty_collections o kind.property
    (.regDword (if value then 1 else 0)) d.framework
  simp only [setSwitch, h, not_true, if_false]
  exact ⟨rfl, rfl, hcontents, hnext⟩

/-- It persists the value, and no other one. -/
theorem setSwitch_registry (ho : o.Ok) :
    (setSwitch kind o value d).2.2.framework.registry = Function.update d.framework.registry
      kind.property (some (.regDword (if value then 1 else 0))) := by
  obtain ⟨hstatus, hregistry⟩ := assignProperty_success o kind.property
    (.regDword (if value then 1 else 0)) d.framework
  have h : NTSuccess (persistSwitch kind o value d).1 := hstatus.mpr ho
  rw [if_pos ho] at hregistry
  simp only [setSwitch, h, not_true, if_false]
  exact hregistry

end SwitchSetters

end HidHide
