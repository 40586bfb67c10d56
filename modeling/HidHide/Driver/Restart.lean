import HidHide.Driver.AccessDecision
import HidHide.Driver.ListUpdate
import HidHide.Driver.RegistryKeys

/-!
# Restarts

The service of the driver: it starts, which may fail, and while it is loaded it handles whatever
reaches it. A start forgets the processes and the session blacklist and reads the lists and the
switches from the registry. `DriverEvent.operation` says what an event comes to, from the bytes of a
request on, and `Reference.serve` what becomes of the settings, without a registry or a cache.

The settings outlive the driver: after each run, restarts included, access is denied as the
reference denies it, and the registry has the lists and the switches of the reference
(`settings_outlive_restarts`). What is assumed of a run is that no list is written that is not read
back, since such a failure leaves its trace in the registry.

The session blacklist is the list of its entries here, and not the ring of `SessionBlacklist`, which
is no longer intact after a request that adds an entry. Without such requests the list is empty.
-/

namespace HidHide

/-! ### What an event comes to -/

/-- The handle is a process id, which has 32 bits. -/
def IsProcessId (processId : Handle) : Prop :=
  processHandle (processHandleToProcessId processId) = processId

instance : DecidablePred IsProcessId := fun _ => inferInstanceAs (Decidable (_ = _))

/-- A request to set a list. -/
def WdfRequest.setListRequest (r : WdfRequest) (o : IoOutcome) (kind : ListKind) :
    SetListRequest :=
  ⟨kind, ⟨o.retrieve, o.write, o.read⟩, r.output.length, r.input⟩

instance (r : SetListRequest) : Decidable r.Persists :=
  inferInstanceAs (Decidable (_ ∧ _ ∧ _))

/-- What a request to set a list comes to: nothing, if it does not get as far as the registry. -/
def SetListRequest.operation (r : SetListRequest) : Option Operation :=
  if r.Persists then some (.setList r.kind r.o.list r.chars) else none

/-- What a request to set a switch comes to. -/
def WdfRequest.setSwitchOperation (r : WdfRequest) (o : IoOutcome) (kind : SwitchKind) :
    Option Operation :=
  if r.input.length = 1 ∧ r.output.length = 0 ∧ NTSuccess o.retrieve ∧ o.write.Ok then
    some (.setSwitch kind o.write (0 ≠ r.input.headD 0))
  else none

/-- What a request to add entries comes to. -/
def AddRequest.operation (a : AddRequest) : Option Operation :=
  if a.Succeeds then
    some (.addSession (processHandleToProcessId a.callerPid)
      (a.entries.map (·.deviceInstancePath)))
  else none

namespace DriverEvent

/-- What an event comes to, if it changes anything. -/
def operation : DriverEvent → Option Operation
  | ioControl o callerPid ioControlCode input output =>
      let r := WdfRequest.arrived input output
      if ioControlCode = ioctlSetWhitelist then (r.setListRequest o .whitelist).operation
      else if ioControlCode = ioctlSetBlacklist then (r.setListRequest o .blacklist).operation
      else if ioControlCode = ioctlSetActive then r.setSwitchOperation o .active
      else if ioControlCode = ioctlSetWlinverse then r.setSwitchOperation o .whitelistedInverse
      else if ioControlCode = ioctlAddSessionBlacklist then (r.addRequest o callerPid).operation
      else if ioControlCode = ioctlClrSessionBlacklist ∧ output.length = 0 ∧ input.length = 0 then
        some (.clearSession (processHandleToProcessId callerPid))
      else none
  | fileCreate _ deviceInstancePath processId sessionId =>
      some (.openDevice deviceInstancePath (processHandleToProcessId processId) sessionId)
  | processChange processId create =>
      if create then none else some (.processExit (processHandleToProcessId processId))
  | loadImage o fullImageName processId =>
      some (.loadImage o fullImageName (processHandleToProcessId processId))
  | shutdown => some .shutdown

/-- The process that an event is about. -/
def processId : DriverEvent → Handle
  | ioControl _ callerPid _ _ _ => callerPid
  | fileCreate _ _ processId _ => processId
  | processChange processId _ => processId
  | loadImage _ _ processId => processId
  | shutdown => 0

/-- The event is about a process id, and a list that it writes is read back. -/
structure Regular (e : DriverEvent) : Prop where
  isProcessId : IsProcessId e.processId
  succeeds : ∀ operation ∈ e.operation, operation.Succeeds

end DriverEvent

/-! ### An event is an operation, or it changes nothing -/

/-- Nothing has changed that the driver goes by, nor what is persisted. -/
structure Unchanged (upcase : WChar → WChar) (d d' : Driver) : Prop where
  sound : d'.Sound upcase
  reference : d'.reference = d.reference
  registry : d'.framework.registry = d.framework.registry

/-- The driver has performed the operation, if there is one. -/
def Performed (upcase : WChar → WChar) (d d' : Driver) : Option Operation → Prop
  | some operation => d.perform upcase operation = some d'
  | none => Unchanged upcase d d'

variable {upcase : WChar → WChar} {d : Driver}

theorem Unchanged.refl (h : d.Sound upcase) : Unchanged upcase d d := ⟨h, rfl, rfl⟩

/-- A driver with the same memory and registry is unchanged. -/
theorem Unchanged.of_eq {d' : Driver} (h : d.Sound upcase) (hctx : d'.context = d.context)
    (htree : d'.processIdTree = d.processIdTree)
    (hcontents : d'.framework.contents = d.framework.contents)
    (hnext : d'.framework.nextCollection = d.framework.nextCollection)
    (hregistry : d'.framework.registry = d.framework.registry) : Unchanged upcase d d' := by
  have hlist : d'.list = d.list := funext (Driver.list_congr hctx hcontents)
  refine ⟨⟨fun kind => ?_, ?_, ?_⟩, ?_, hregistry⟩
  · rw [hctx, hnext]
    exact h.wellFormed kind
  · rw [htree]
    exact h.ordered
  · rw [htree, hlist]
    exact h.coherent
  · simp only [Driver.reference, htree, hlist, hctx]

/-! ### The handlers -/

section Handlers

variable (o : IoOutcome) (r : WdfRequest)

/-- A request to set a list. -/
theorem performed_setList (h : d.Sound upcase) (kind : ListKind)
    (hop : ∀ operation ∈ (r.setListRequest o kind).operation, operation.Succeeds) :
    Performed upcase d (r.onControlDeviceIoSetList o d kind).2.2
      (r.setListRequest o kind).operation := by
  have hserve : (r.onControlDeviceIoSetList o d kind).2.2 =
      SetListRequest.serve d (r.setListRequest o kind) := (r.onControlDeviceIoSetList_eq o d kind).1
  rw [hserve, SetListRequest.serve_eq]
  generalize r.setListRequest o kind = request at hop ⊢
  rw [SetListRequest.operation] at hop ⊢
  by_cases hpersists : request.Persists
  · rw [if_pos hpersists] at hop ⊢
    have hsucceeds := (setList_success_iff request.kind request.chars request.o.list d).mpr
      (hop _ rfl)
    rw [if_pos ⟨hpersists.1, hpersists.2.1⟩]
    exact if_pos hsucceeds
  · rw [if_neg hpersists]
    split_ifs with hvalid
    · -- the registry write has failed
      have hwrite : ¬request.o.list.write.Ok := fun hwrite =>
        hpersists ⟨hvalid.1, hvalid.2, hwrite⟩
      obtain ⟨hctx, htree, hcontents, -, hnext⟩ :=
        persistList_frame request.kind request.chars (d := d) request.o.list.write
      rw [setList_eq, if_pos fun hok => hwrite ((persistList_fst _ _ _).mp hok)]
      exact .of_eq h hctx htree hcontents hnext (persistList_of_not_ok _ _ hwrite)
    · exact .refl h

/-- A switch setter that fails changes nothing. -/
theorem unchanged_setSwitch (h : d.Sound upcase) (kind : SwitchKind) {write : WriteOutcome}
    (hwrite : ¬write.Ok) (value : Bool) :
    Unchanged upcase d (setSwitch kind write value d).2.2 := by
  obtain ⟨hstatus, hregistry⟩ := assignProperty_success write kind.property
    (.regDword (if value then 1 else 0)) d.framework
  obtain ⟨hcontents, -, hnext⟩ := assignProperty_collections write kind.property
    (.regDword (if value then 1 else 0)) d.framework
  have hfails : ¬NTSuccess (persistSwitch kind write value d).1 := mt hstatus.mp hwrite
  rw [if_neg hwrite] at hregistry
  simp only [setSwitch, hfails, not_false_iff, if_true]
  exact .of_eq h rfl rfl hcontents hnext hregistry

/-- A request to set a switch. -/
theorem performed_setSwitch (h : d.Sound upcase) (kind : SwitchKind) :
    Performed upcase d (r.onControlDeviceIoSetSwitch o d kind).2.2.2
      (r.setSwitchOperation o kind) := by
  by_cases hvalid : r.input.length = 1 ∧ r.output.length = 0 ∧ NTSuccess o.retrieve
  · obtain ⟨hinput, houtput, hretrieve⟩ := hvalid
    have hset : (r.onControlDeviceIoSetSwitch o d kind).2.2.2 =
        (setSwitch kind o.write (0 ≠ r.input.headD 0) d).2.2 := by
      simp only [WdfRequest.onControlDeviceIoSetSwitch, WdfRequest.inputBufferLength,
        WdfRequest.outputBufferLength]
      rw [if_neg (by omega), if_neg (not_not.mpr hretrieve)]
      split_ifs <;> rfl
    rw [hset, WdfRequest.setSwitchOperation]
    by_cases hwrite : o.write.Ok
    · rw [if_pos ⟨hinput, houtput, hretrieve, hwrite⟩]
      exact if_pos ((setSwitch_success_iff kind o.write _ d).mpr hwrite)
    · rw [if_neg fun hall => hwrite hall.2.2.2]
      exact unchanged_setSwitch h kind hwrite _
  · rw [WdfRequest.setSwitchOperation, if_neg fun hall => hvalid ⟨hall.1, hall.2.1, hall.2.2.1⟩]
    have hrefused : (r.onControlDeviceIoSetSwitch o d kind).2.2.2 = d := by
      simp only [WdfRequest.onControlDeviceIoSetSwitch]
      by_cases hlength : 1 ≠ r.input.length ∨ 0 ≠ r.output.length
      · rw [if_pos hlength]
      · rw [if_neg hlength, if_pos fun hretrieve => hvalid ⟨by omega, by omega, hretrieve⟩]
    rw [hrefused]
    exact .refl h

/-- A request to get a list. -/
theorem unchanged_getList (h : d.Sound upcase) (kind : ListKind) :
    Unchanged upcase d (r.onControlDeviceIoGetList o d kind).2.2 := by
  simp only [WdfRequest.onControlDeviceIoGetList]
  split_ifs
  all_goals first
    | exact .refl h
    | (obtain ⟨hsound, hreference, hregistry⟩ := h.getList kind o.read _
       exact ⟨hsound, hreference, hregistry⟩)

/-- A request to get a switch. -/
theorem unchanged_getSwitch (h : d.Sound upcase) (kind : SwitchKind) :
    Unchanged upcase d (r.onControlDeviceIoGetSwitch o d kind).2.2 := by
  simp only [WdfRequest.onControlDeviceIoGetSwitch]
  split_ifs <;> exact .refl h

/-- A request to add entries. -/
theorem performed_addSession {callerPid : Handle} (hpid : IsProcessId callerPid)
    (h : d.Sound upcase) :
    Performed upcase d (r.onControlDeviceIoAddSessionBlacklist o d callerPid).2.2
      (r.addRequest o callerPid).operation := by
  have hcaller : (r.addRequest o callerPid).callerPid = callerPid := rfl
  rw [addSessionBlacklist_driver, AddRequest.operation]
  split_ifs with hsucceeds
  · -- the entries are those of the caller
    have hentries : ((r.addRequest o callerPid).entries.map (·.deviceInstancePath)).map
        (⟨processHandle (processHandleToProcessId callerPid), ·⟩) =
          (r.addRequest o callerPid).entries := by
      rw [hpid, AddRequest.entries, List.map_map, List.map_map, hcaller]
      rfl
    rw [hcaller, Performed, Driver.perform, appendSessionBlacklist, hentries]
  · exact .refl h

/-- A request to clear entries. -/
theorem performed_clearSession {callerPid : Handle} (hpid : IsProcessId callerPid)
    (h : d.Sound upcase) :
    Performed upcase d (r.onControlDeviceIoClearSessionBlacklist d callerPid).2.2
      (if r.output.length = 0 ∧ r.input.length = 0 then
        some (.clearSession (processHandleToProcessId callerPid)) else none) := by
  simp only [WdfRequest.onControlDeviceIoClearSessionBlacklist, WdfRequest.inputBufferLength,
    WdfRequest.outputBufferLength]
  split_ifs with hvalid hclears
  · omega
  · exact .refl h
  · rw [Performed, Driver.perform, hpid]
  · omega

/-- The dispatcher. -/
theorem performed_dispatch {callerPid : Handle} (hpid : IsProcessId callerPid)
    (h : d.Sound upcase) (ioControlCode : UInt32) (input output : List UInt8)
    (hop : ∀ operation ∈ (DriverEvent.ioControl o callerPid ioControlCode input
      output).operation, operation.Succeeds) :
    Performed upcase d (onControlDeviceIoDeviceControl o callerPid ioControlCode
        (.arrived input output) d).2.2.2
      (DriverEvent.ioControl o callerPid ioControlCode input output).operation := by
  rw [DriverEvent.operation] at hop ⊢
  rw [onControlDeviceIoDeviceControl]
  by_cases hgetWhitelist : ioControlCode = ioctlGetWhitelist
  · subst hgetWhitelist
    exact unchanged_getList o _ h .whitelist
  by_cases hsetWhitelist : ioControlCode = ioctlSetWhitelist
  · subst hsetWhitelist
    exact performed_setList o _ h .whitelist hop
  by_cases hgetBlacklist : ioControlCode = ioctlGetBlacklist
  · subst hgetBlacklist
    exact unchanged_getList o _ h .blacklist
  by_cases hsetBlacklist : ioControlCode = ioctlSetBlacklist
  · subst hsetBlacklist
    exact performed_setList o _ h .blacklist hop
  by_cases hgetActive : ioControlCode = ioctlGetActive
  · subst hgetActive
    exact unchanged_getSwitch o _ h .active
  by_cases hsetActive : ioControlCode = ioctlSetActive
  · subst hsetActive
    exact performed_setSwitch o _ h .active
  by_cases hgetWlinverse : ioControlCode = ioctlGetWlinverse
  · subst hgetWlinverse
    exact unchanged_getSwitch o _ h .whitelistedInverse
  by_cases hsetWlinverse : ioControlCode = ioctlSetWlinverse
  · subst hsetWlinverse
    exact performed_setSwitch o _ h .whitelistedInverse
  by_cases hadd : ioControlCode = ioctlAddSessionBlacklist
  · subst hadd
    exact performed_addSession o _ hpid h
  simp only [hgetWhitelist, hsetWhitelist, hgetBlacklist, hsetBlacklist, hgetActive, hsetActive,
    hgetWlinverse, hsetWlinverse, hadd, if_false]
  by_cases hclear : ioControlCode = ioctlClrSessionBlacklist
  · simp only [hclear, if_true, true_and]
    exact performed_clearSession _ hpid h
  · simp only [hclear, if_false, false_and]
    exact .refl h

end Handlers

/-- **An event is the operation that it comes to**, or it changes nothing. -/
theorem performed_handle (h : d.Sound upcase) {e : DriverEvent} (he : e.Regular) :
    Performed upcase d (d.handle upcase e) e.operation := by
  obtain ⟨hpid, hop⟩ := he
  cases e with
  | ioControl o callerPid ioControlCode input output =>
    rw [handle_ioControl]
    exact performed_dispatch o hpid h ioControlCode input output hop
  | fileCreate o deviceInstancePath processId sessionId =>
    rw [handle_fileCreate]
    change some (onDeviceFileCreate upcase d deviceInstancePath
      (processHandle (processHandleToProcessId processId)) sessionId).2.2 = _
    rw [show processHandle (processHandleToProcessId processId) = processId from hpid]
  | processChange processId create =>
    cases create with
    | false =>
      change some (onSystemProcessChange d
        (processHandle (processHandleToProcessId processId)) false) = _
      rw [show processHandle (processHandleToProcessId processId) = processId from hpid]
      rfl
    | true => exact .refl h
  | loadImage o fullImageName processId =>
    change some (onSystemLoadImage o d fullImageName
      (processHandle (processHandleToProcessId processId))) = _
    rw [show processHandle (processHandleToProcessId processId) = processId from hpid]
    rfl
  | shutdown => rfl

/-! ### The service -/

/-- The service of the driver: its driver, and whether it is loaded. -/
structure Service where
  driver : Driver
  loaded : Bool

/-- The service starts its driver, which may fail, and a driver that is loaded handles an event. -/
def Service.step (upcase : WChar → WChar) (s : Service) : ServiceEvent → Option Service
  | .start o =>
      let (ntstatus, driver) := onDriverCreate o s.driver.framework.unloaded
      some ⟨driver, NTSuccess ntstatus⟩
  | .driver e =>
      if s.loaded then some { s with driver := s.driver.handle upcase e } else none

/-- The service before its first start, with what is persisted. -/
def Service.installed (registry : DriverProperty → Option RegistryValue) : Service :=
  ⟨.absent registry, false⟩

/-- The settings that are persisted, with no process known. -/
def Reference.installed (registry : DriverProperty → Option RegistryValue) : Reference where
  names _ := none
  list kind := (decodedValue (registry kind.property)).getD []
  switch kind := switchValue (registry kind.property)
  sessionBlacklist := []

/-- What an event does to the reference. A start forgets the processes and the session blacklist,
whether or not it succeeds. -/
def Reference.serve (r : Reference) : ServiceEvent → Reference
  | .start _ => { r with names := fun _ => none, sessionBlacklist := [] }
  | .driver e => e.operation.elim r r.next

/-- The registry has the settings of the reference. -/
structure Reference.Stored (registry : DriverProperty → Option RegistryValue) (r : Reference) :
    Prop where
  list : ∀ kind : ListKind, decodedValue (registry kind.property) = some (r.list kind)
  isSwitchValue : ∀ kind : SwitchKind, IsSwitchValue (registry kind.property)
  switch : ∀ kind : SwitchKind, switchValue (registry kind.property) = r.switch kind

/-- The registry has the settings of the reference, and a driver that is loaded goes by it. -/
structure Service.Follows (upcase : WChar → WChar) (s : Service) (r : Reference) : Prop where
  stored : r.Stored s.driver.framework.registry
  sound : s.loaded → s.driver.Sound upcase
  reference : s.loaded → s.driver.reference = r

/-- What is stored can be loaded. -/
theorem Reference.Stored.persisted {registry : DriverProperty → Option RegistryValue}
    {r : Reference} (h : r.Stored registry) : Persisted registry where
  list kind := by
    rw [Loadable, h.list kind]
    rfl
  switch := h.isSwitchValue

theorem Reference.installed_stored {registry : DriverProperty → Option RegistryValue}
    (h : Persisted registry) : (Reference.installed registry).Stored registry where
  list kind := by
    obtain ⟨strings, hstrings⟩ := Option.isSome_iff_exists.mp (h.list kind)
    simp only [Reference.installed, hstrings, Option.getD_some]
  isSwitchValue := h.switch
  switch _ := rfl

/-! ### Operations and the registry -/

/-- The operation is not a setter. -/
def Operation.SetsNothing : Operation → Prop
  | .setList .. => False
  | .setSwitch .. => False
  | _ => True

/-- An operation that is not a setter is nothing to the lists and the switches. -/
theorem Operation.SetsNothing.next {operation : Operation} (hop : operation.SetsNothing)
    (r : Reference) : (r.next operation).list = r.list ∧ (r.next operation).switch = r.switch := by
  cases operation with
  | loadImage o fullImageName pid =>
    rcases fullImageName with _ | fullImageName
    · exact ⟨rfl, rfl⟩
    · rw [Reference.next]
      split_ifs <;> exact ⟨rfl, rfl⟩
  | setList => exact hop.elim
  | setSwitch => exact hop.elim
  | _ => exact ⟨rfl, rfl⟩

/-- Nor does it write to the registry. -/
theorem Operation.SetsNothing.registry {d' : Driver} {operation : Operation}
    (hop : operation.SetsNothing) (hstep : d.perform upcase operation = some d') :
    d'.framework.registry = d.framework.registry := by
  cases operation with
  | loadImage o fullImageName pid =>
    obtain rfl := Option.some.inj hstep
    rcases fullImageName with _ | fullImageName
    · rfl
    · rw [onSystemLoadImage]
      split_ifs <;> rfl
  | setList => exact hop.elim
  | setSwitch => exact hop.elim
  | openDevice deviceInstancePath pid sessionId =>
    obtain rfl := Option.some.inj hstep
    rcases onDeviceFileCreate_state upcase d deviceInstancePath (processHandle pid) sessionId with
      heq | heq <;> rw [heq]
  | _ =>
    obtain rfl := Option.some.inj hstep
    rfl

/-- What is stored does not depend on the processes or the session blacklist. -/
theorem Reference.Stored.congr {registry : DriverProperty → Option RegistryValue}
    {r r' : Reference} (h : r.Stored registry) (hlist : r'.list = r.list)
    (hswitch : r'.switch = r.switch) : r'.Stored registry where
  list := by
    rw [hlist]
    exact h.list
  isSwitchValue := h.isSwitchValue
  switch := by
    rw [hswitch]
    exact h.switch

theorem Reference.Stored.setList {r : Reference} (h : r.Stored d.framework.registry)
    {kind : ListKind} {o : ListOutcome} {buffer : List WChar}
    (hok : NTSuccess (HidHide.setList kind o buffer d).1) :
    (r.next (.setList kind o buffer)).Stored
      (HidHide.setList kind o buffer d).2.framework.registry := by
  have hset := listSet_of_success kind buffer hok
  rw [hset.registry, Reference.next]
  refine ⟨fun kind' => ?_, fun kind' => ?_, fun kind' => ?_⟩
  · dsimp only
    rcases eq_or_ne kind' kind with rfl | hkind
    · rw [Function.update_self, Function.update_self, hset.decoded, Option.getD_some]
    · rw [Function.update_of_ne hkind,
        Function.update_of_ne fun heq => hkind (ListKind.property_injective heq)]
      exact h.list kind'
  · rw [Function.update_of_ne (kind'.property_ne kind)]
    exact h.isSwitchValue kind'
  · rw [Function.update_of_ne (kind'.property_ne kind)]
    exact h.switch kind'

theorem Reference.Stored.setSwitch {r : Reference} (h : r.Stored d.framework.registry)
    {kind : SwitchKind} {o : WriteOutcome} {value : Bool} (ho : o.Ok) :
    (r.next (.setSwitch kind o value)).Stored
      (HidHide.setSwitch kind o value d).2.2.framework.registry := by
  rw [setSwitch_registry kind o value d ho, Reference.next]
  refine ⟨fun kind' => ?_, fun kind' => ?_, fun kind' => ?_⟩
  · rw [Function.update_of_ne (kind.property_ne kind').symm]
    exact h.list kind'
  · rcases eq_or_ne kind' kind with rfl | hkind
    · rw [Function.update_self]
      trivial
    · rw [Function.update_of_ne fun heq => hkind (SwitchKind.property_injective heq)]
      exact h.isSwitchValue kind'
  · dsimp only
    rcases eq_or_ne kind' kind with rfl | hkind
    · rw [Function.update_self, Function.update_self]
      cases value <;> rfl
    · rw [Function.update_of_ne hkind,
        Function.update_of_ne fun heq => hkind (SwitchKind.property_injective heq)]
      exact h.switch kind'

/-- **What is set is stored**: after each operation the registry has the settings that the reference
comes to. -/
theorem Reference.Stored.perform {d' : Driver} {operation : Operation} {r : Reference}
    (h : r.Stored d.framework.registry) (hstep : d.perform upcase operation = some d') :
    (r.next operation).Stored d'.framework.registry := by
  have hother (hop : operation.SetsNothing) :
      (r.next operation).Stored d'.framework.registry := by
    obtain ⟨hlist, hswitch⟩ := hop.next r
    rw [hop.registry hstep]
    exact h.congr hlist hswitch
  cases operation with
  | setList kind o buffer =>
    rw [Driver.perform] at hstep
    split_ifs at hstep with hok
    obtain rfl := Option.some.inj hstep
    exact h.setList hok
  | setSwitch kind o value =>
    rw [Driver.perform] at hstep
    split_ifs at hstep with hok
    obtain rfl := Option.some.inj hstep
    exact h.setSwitch ((setSwitch_success_iff kind o value d).mp hok)
  | _ => exact hother trivial

/-! ### Runs of the service -/

namespace Service.Follows

variable {s s' : Service} {r : Reference}

/-- A start that succeeds loads what is stored. -/
theorem start (h : s.Follows upcase r) (o : CreateOutcome)
    (hstep : s.step upcase (.start o) = some s') : s'.Follows upcase (r.serve (.start o)) := by
  obtain rfl := Option.some.inj hstep
  obtain ⟨hregistry, hsession⟩ := onDriverCreate_frame o s.driver.framework.unloaded
  have hstored : (r.serve (.start o)).Stored
      (onDriverCreate o s.driver.framework.unloaded).2.framework.registry := by
    rw [hregistry]
    exact h.stored.congr rfl rfl
  refine ⟨hstored, fun hloaded => ?_, fun hloaded => ?_⟩
  · exact onDriverCreate_sound upcase (of_decide_eq_true hloaded)
  · obtain ⟨-, hlist, hswitch⟩ := onDriverCreate_loads (of_decide_eq_true hloaded)
    refine Reference.ext rfl (funext fun kind => ?_) (funext fun kind => ?_) hsession
    · exact Option.some.inj ((hlist kind).symm.trans (h.stored.list kind))
    · exact (hswitch kind).trans (h.stored.switch kind)

/-- A loaded driver goes by the reference. -/
theorem handle (h : s.Follows upcase r) {e : DriverEvent} (he : e.Regular)
    (hstep : s.step upcase (.driver e) = some s') : s'.Follows upcase (r.serve (.driver e)) := by
  rw [Service.step] at hstep
  split_ifs at hstep with hloaded
  obtain rfl := Option.some.inj hstep
  have hperformed := performed_handle (h.sound hloaded) he
  rw [Reference.serve]
  rcases hop : e.operation with _ | operation
  · rw [hop] at hperformed
    obtain ⟨hsound, hreference, hregistry⟩ := hperformed
    refine ⟨?_, fun _ => hsound, fun _ => hreference.trans (h.reference hloaded)⟩
    rw [hregistry]
    exact h.stored
  · rw [hop] at hperformed
    obtain ⟨hsound, hreference⟩ := (h.sound hloaded).perform hperformed
    refine ⟨h.stored.perform hperformed, fun _ => hsound, fun _ => ?_⟩
    rw [hreference, h.reference hloaded]
    rfl

end Service.Follows

/-- The events of a run of the service are regular. -/
def ServiceEvent.Regular : ServiceEvent → Prop
  | .start _ => True
  | .driver e => e.Regular

/-- **Each run**: the service follows what the events make of the reference. -/
theorem Service.Follows.run {s s' : Service} {r : Reference} (h : s.Follows upcase r)
    {events : List ServiceEvent} (hregular : ∀ e ∈ events, e.Regular)
    (hrun : Machine.run (Service.step upcase) s events = some s') :
    s'.Follows upcase (events.foldl Reference.serve r) := by
  induction events generalizing s r with
  | nil =>
    obtain rfl : s = s' := by simpa using hrun
    exact h
  | cons e events ih =>
    obtain ⟨he, hregular⟩ := List.forall_mem_cons.mp hregular
    rw [Machine.run_cons, Option.bind_eq_some_iff] at hrun
    obtain ⟨t, ht, hrun⟩ := hrun
    refine ih ?_ hregular hrun
    cases e with
    | start o => exact h.start o ht
    | driver e => exact h.handle he ht

/-- The event sets no list and no switch. -/
def ServiceEvent.SetsNothing : ServiceEvent → Prop
  | .start _ => True
  | .driver e => ∀ operation ∈ e.operation, operation.SetsNothing

/-- Nothing else is anything to the lists and the switches. -/
theorem Reference.serve_settings {events : List ServiceEvent}
    (h : ∀ e ∈ events, e.SetsNothing) (r : Reference) :
    (events.foldl serve r).list = r.list ∧ (events.foldl serve r).switch = r.switch := by
  induction events generalizing r with
  | nil => exact ⟨rfl, rfl⟩
  | cons e events ih =>
    obtain ⟨he, hevents⟩ := List.forall_mem_cons.mp h
    obtain ⟨hlist, hswitch⟩ := ih hevents (r.serve e)
    have hone : (r.serve e).list = r.list ∧ (r.serve e).switch = r.switch := by
      cases e with
      | start o => exact ⟨rfl, rfl⟩
      | driver e =>
        rw [serve]
        rcases hop : e.operation with _ | operation
        · exact ⟨rfl, rfl⟩
        · exact (he operation hop).next r
    exact ⟨hlist.trans hone.1, hswitch.trans hone.2⟩

theorem Service.installed_follows {registry : DriverProperty → Option RegistryValue}
    (h : Persisted registry) :
    (Service.installed registry).Follows upcase (Reference.installed registry) :=
  ⟨Reference.installed_stored h, fun hloaded => absurd hloaded Bool.false_ne_true,
    fun hloaded => absurd hloaded Bool.false_ne_true⟩

/-- The event is no request to add entries that succeeds and carries a string. -/
def ServiceEvent.AddsNothing : ServiceEvent → Prop
  | .start _ => True
  | .driver e => e.AddsNothing

instance : DecidablePred ServiceEvent.AddsNothing
  | .start _ => .isTrue trivial
  | .driver e => inferInstanceAs (Decidable e.AddsNothing)

/-- The session blacklist is empty as long as nothing is added to it. -/
theorem Service.sessionBlacklist_of_addsNothing {s s' : Service}
    (h : s.driver.context.sessionBlacklist = []) {events : List ServiceEvent}
    (hnothing : ∀ e ∈ events, e.AddsNothing)
    (hrun : Machine.run (Service.step upcase) s events = some s') :
    s'.driver.context.sessionBlacklist = [] := by
  have hstep : ∀ (s : Service) (e : ServiceEvent) (s' : Service),
      s.driver.context.sessionBlacklist = [] → e.AddsNothing → s.step upcase e = some s' →
      s'.driver.context.sessionBlacklist = [] := by
    intro s e s' hempty he hs
    cases e with
    | start o =>
      obtain rfl := Option.some.inj hs
      exact (onDriverCreate_frame o s.driver.framework.unloaded).2
    | driver e =>
      obtain ⟨-, hs⟩ := Option.ite_none_right_eq_some.mp hs
      obtain rfl := Option.some.inj hs
      dsimp only
      rw [sessionBlacklist_handle, hempty]
      rcases hsession : e.sessionEvent with _ | event
      · rfl
      · exact SessionEvent.next_nil (he event hsession)
  exact Machine.run_invariant_of_along hstep h (Machine.along_of_forall hnothing s) hrun

/-- **The settings outlive the driver.** In each state of each run of the service, with starts that
may fail, events of any kind and requests with any bytes: the registry has the lists and the
switches that the requests have come to, the driver can start with them, and while it is loaded
access is denied exactly as the reference denies it, whose processes and session entries are those
since the last start. There are no such entries as long as requests add none. -/
theorem settings_outlive_restarts (upcase : WChar → WChar)
    {registry : DriverProperty → Option RegistryValue} (hregistry : Persisted registry)
    {events : List ServiceEvent} (hregular : ∀ e ∈ events, e.Regular) {s : Service}
    (hrun : Machine.run (Service.step upcase) (.installed registry) events = some s) :
    let r := events.foldl Reference.serve (.installed registry)
    r.Stored s.driver.framework.registry ∧ s.driver.framework.LoadsAgain ∧
      (s.loaded → ∀ deviceInstancePath pid sessionId,
        (onDeviceFileCreate upcase s.driver deviceInstancePath (processHandle pid)
            sessionId).1 = true ↔ r.AccessDenied upcase deviceInstancePath pid sessionId) ∧
      ((∀ e ∈ events, e.AddsNothing) → s.driver.context.sessionBlacklist = []) := by
  intro r
  have hfollows : s.Follows upcase r := (Service.installed_follows hregistry).run hregular hrun
  refine ⟨hfollows.stored, (Framework.loadsAgain_iff _).mpr hfollows.stored.persisted,
    fun hloaded deviceInstancePath pid sessionId => ?_,
    fun hnothing => Service.sessionBlacklist_of_addsNothing rfl hnothing hrun⟩
  rw [← hfollows.reference hloaded]
  exact (hfollows.sound hloaded).accessDenied_iff deviceInstancePath pid sessionId

/-- A device is put on the blacklist and hiding is switched on, between two starts. -/
def hideAndRestart : List ServiceEvent :=
  [.start .success, .driver (.ioControl .success 4 ioctlSetBlacklist [0x41, 0, 0, 0, 0, 0] []),
    .driver (.ioControl .success 4 ioctlSetActive [1] []), .start .success]

/-- The device is still hidden after the restart. -/
theorem settings_outlive_restarts_hideAndRestart :
    ∃ s, Machine.run (Service.step id) (.installed installedRegistry) hideAndRestart = some s ∧
      s.driver.framework.LoadsAgain ∧ s.driver.context.sessionBlacklist = [] ∧
      (onDeviceFileCreate id s.driver [0x41] (processHandle 8) 1).1 = true := by
  obtain ⟨s, hs⟩ := Option.isSome_iff_exists.mp (show (Machine.run (Service.step id)
    (.installed installedRegistry) hideAndRestart).isSome from rfl)
  have hloaded : s.loaded = true := by
    rw [← Option.some.inj ((show Machine.run (Service.step id) (.installed installedRegistry)
      hideAndRestart = some _ from rfl).symm.trans hs)]
    rfl
  obtain ⟨-, hagain, hdenied, hempty⟩ := settings_outlive_restarts id
    (show Persisted installedRegistry from
      ⟨fun kind => by cases kind <;> decide, fun kind => by cases kind <;> decide⟩)
    (show ∀ e ∈ hideAndRestart, e.Regular by
      simp only [hideAndRestart, List.forall_mem_cons]
      exact ⟨trivial, ⟨by decide, by decide⟩, ⟨by decide, by decide⟩, trivial, by simp⟩) hs
  exact ⟨s, hs, hagain, hempty (by decide), (hdenied hloaded _ _ _).mpr (by decide)⟩

end HidHide
