import HidHide.ForMathlib.HandleCalls
import HidHide.Driver.SessionHiding

/-!
# Registry keys

The four functions of `Config.c` that access the registry open a key, and are to close it on every
path. What they do with the key is their list of calls (`getBooleanKeyCalls`, …), which runs on the
open keys of the framework. Two paths return with the key still open: that of a boolean value that
is missing, which is turned into a success, and that of a collection that cannot be created.

`registryKeys_iff` says that these two paths are the only ones, for each function and for each run
of driver starts and events. The collections are released on every path.
-/

namespace HidHide

open Framework

/-! ### The calls on keys -/

/-- A call on a registry key. -/
abbrev KeyCall := HandleCall WdfKey

/-- The calls of `HidHideDriverGetBooleanProperty`. -/
def getBooleanKeyCalls (o : ReadOutcome) (valueName : DriverProperty) (fw : Framework) :
    List KeyCall :=
  let (ntstatus, wdfKey, fw) := fw.wdfDriverOpenParametersRegistryKey o.openKey
  if ¬NTSuccess ntstatus then []
  else
    let (ntstatus, _) := fw.wdfRegistryQueryULong o.queryValue valueName
    if ¬NTSuccess ntstatus then
      if statusObjectNameNotFound = ntstatus then [.acquire wdfKey]
      else [.acquire wdfKey, .release wdfKey]
    else [.acquire wdfKey, .release wdfKey]

/-- The calls of the functions that assign a property. -/
def assignKeyCalls (o : WriteOutcome) (valueName : DriverProperty) (value : RegistryValue)
    (fw : Framework) : List KeyCall :=
  let (ntstatus, wdfKey, fw) := fw.wdfDriverOpenParametersRegistryKey o.openKey
  if ¬NTSuccess ntstatus then []
  else
    let (ntstatus, _) := fw.wdfRegistryAssignValue o.assignValue valueName value
    if ¬NTSuccess ntstatus then [.acquire wdfKey, .release wdfKey]
    else [.acquire wdfKey, .release wdfKey]

/-- The calls of `HidHideDriverSetBooleanProperty`. -/
def setBooleanKeyCalls (o : WriteOutcome) (valueName : DriverProperty) (value : Bool)
    (fw : Framework) : List KeyCall :=
  assignKeyCalls o valueName (.regDword (if value then 1 else 0)) fw

/-- The calls of `HidHideDriverSetMultiStringProperty`. -/
def setMultiStringKeyCalls (o : WriteOutcome) (valueName : DriverProperty) (value : List WChar)
    (fw : Framework) : List KeyCall :=
  assignKeyCalls o valueName (.regMultiSz (storedChars value)) fw

/-- The calls after the collection has been created. -/
def fillCollectionKeyCalls (o : ReadOutcome) (valueName : DriverProperty) (wdfKey : WdfKey)
    (value : WdfCollection) (fw : Framework) : List KeyCall :=
  let (ntstatus, sizeNeededInBytes, isMultiSz) := fw.wdfRegistryQueryValue o.queryValue valueName
  let ntstatus := if statusBufferOverflow = ntstatus then statusSuccess else ntstatus
  if ¬NTSuccess ntstatus then
    if statusObjectNameNotFound = ntstatus then [.release wdfKey] else [.release wdfKey]
  else if isMultiSz = false then [.release wdfKey]
  else if sizeNeededInBytes ≤ 4 then [.release wdfKey]
  else
    let (ntstatus, _) := fw.wdfRegistryQueryMultiString o.queryMultiString valueName value
    if ¬NTSuccess ntstatus then [.release wdfKey] else [.release wdfKey]

/-- The calls of `HidHideDriverCreateCollectionForMultiStringProperty`. -/
def createCollectionKeyCalls (o : ReadOutcome) (valueName : DriverProperty) (fw : Framework) :
    List KeyCall :=
  let (ntstatus, wdfKey, fw) := fw.wdfDriverOpenParametersRegistryKey o.openKey
  if ¬NTSuccess ntstatus then []
  else
    let (ntstatus, value, fw) := fw.wdfCollectionCreate o.collectionCreate
    if ¬NTSuccess ntstatus then [.acquire wdfKey]
    else .acquire wdfKey :: fillCollectionKeyCalls o valueName wdfKey value fw

/-! ### The paths that lose the key -/

/-- `HidHideDriverGetBooleanProperty` finds no value under the key that it has opened. -/
def ReadOutcome.SwitchKeyLost (o : ReadOutcome) (value : Option RegistryValue) : Prop :=
  NTSuccess o.openKey ∧ QueryAnswers o.queryValue ∧ value = none

/-- `HidHideDriverCreateCollectionForMultiStringProperty` cannot create the collection after it has
opened the key. -/
def ReadOutcome.ListKeyLost (o : ReadOutcome) : Prop :=
  NTSuccess o.openKey ∧ ¬NTSuccess o.collectionCreate

instance (o : ReadOutcome) : DecidablePred o.SwitchKeyLost := fun _ =>
  inferInstanceAs (Decidable (_ ∧ _ ∧ _))

instance : DecidablePred ReadOutcome.ListKeyLost := fun _ => inferInstanceAs (Decidable (_ ∧ _))

/-- The accessor leaves the keys that are open as they were, and each key that it has opened it has
closed once. -/
structure ReleasesKeys (fw fw' : Framework) (calls : List KeyCall) : Prop where
  openKeys : fw'.openKeys = fw.openKeys
  once : ∀ key, calls.count (.release key) = calls.count (.acquire key) ∧
    calls.count (.acquire key) ≤ 1

theorem Framework.nextKey_notMem (fw : Framework) : fw.nextKey ∉ fw.openKeys := fun h =>
  (fw.lt_nextKey _ h).false

section Accessors

variable (o : ReadOutcome) (w : WriteOutcome) (valueName : DriverProperty) (value : RegistryValue)
  (fw : Framework)

/-- The key is opened, and not closed. -/
theorem run_acquire : Machine.run HandleCall.perform fw.openKeys [.acquire fw.nextKey] =
    some (insert fw.nextKey fw.openKeys) := by
  simp [HandleCall.perform, fw.nextKey_notMem]

/-- The key is opened, and closed. -/
theorem run_acquire_release :
    Machine.run HandleCall.perform fw.openKeys [.acquire fw.nextKey, .release fw.nextKey] =
      some fw.openKeys := by
  simp [HandleCall.perform, fw.nextKey_notMem]

/-- The open keys after a function that opens a key and may lose it. -/
def keysAfter (lost : Prop) [Decidable lost] : Finset WdfKey :=
  if lost then insert fw.nextKey fw.openKeys else fw.openKeys

theorem keysAfter_eq_iff (lost : Prop) [Decidable lost] :
    keysAfter fw lost = fw.openKeys ↔ ¬lost := by
  rw [keysAfter]
  split_ifs with h
  · refine iff_of_false (fun heq => fw.nextKey_notMem ?_) (not_not.mpr h)
    rw [← heq]
    exact Finset.mem_insert_self _ _
  · exact iff_of_true rfl h

/-- A function opens the key and closes it, or loses it, or does not come to open it. -/
def KeyCallsOf (lost : Prop) (calls : List KeyCall) : Prop :=
  lost ∧ calls = [.acquire fw.nextKey] ∨
    ¬lost ∧ (calls = [] ∨ calls = [.acquire fw.nextKey, .release fw.nextKey])

variable {fw} in
/-- The calls can be run on the open keys: no key is closed twice. -/
theorem KeyCallsOf.run {lost : Prop} [Decidable lost] {calls : List KeyCall}
    (h : KeyCallsOf fw lost calls) :
    Machine.run HandleCall.perform fw.openKeys calls = some (keysAfter fw lost) := by
  rcases h with ⟨hlost, rfl⟩ | ⟨hlost, rfl | rfl⟩
  · rw [keysAfter, if_pos hlost, run_acquire]
  · rw [keysAfter, if_neg hlost, Machine.run_nil]
  · rw [keysAfter, if_neg hlost, run_acquire_release]

variable {fw} in
/-- The key is released exactly when it is not lost. -/
theorem releasesKeys_iff {lost : Prop} [Decidable lost] {calls : List KeyCall} {fw' : Framework}
    (hcalls : KeyCallsOf fw lost calls) (hkeys : fw'.openKeys = keysAfter fw lost) :
    ReleasesKeys fw fw' calls ↔ ¬lost := by
  rw [← keysAfter_eq_iff fw, ← hkeys]
  refine ⟨ReleasesKeys.openKeys, fun hsame => ⟨hsame, fun key => ?_⟩⟩
  have hrun := hcalls.run
  rw [← hkeys] at hrun
  refine ⟨(HandleCall.run_self_iff hrun).mp hsame key, ?_⟩
  rcases hcalls with ⟨-, rfl⟩ | ⟨-, rfl | rfl⟩
  · exact List.count_le_length
  · exact Nat.zero_le _
  · rw [List.count_cons, List.count_singleton, if_neg (by simp), Nat.zero_add]
    split_ifs
    · exact le_refl 1
    · exact Nat.zero_le 1

/-! ### What each function does with the key -/

/-- The key that has been opened. -/
theorem openKey_of_success {ntstatus : NTStatus} (h : NTSuccess ntstatus) :
    ∃ fw₁ : Framework,
      fw.wdfDriverOpenParametersRegistryKey ntstatus = (ntstatus, fw.nextKey, fw₁) ∧
        fw₁.registry = fw.registry ∧ fw₁.openKeys = insert fw.nextKey fw.openKeys := by
  rw [wdfDriverOpenParametersRegistryKey, if_pos h]
  exact ⟨_, rfl, rfl, rfl⟩

variable {fw} in
/-- Closing the key leaves the keys as they were before it was opened. -/
theorem openKeys_wdfRegistryClose {fw₁ : Framework}
    (h : fw₁.openKeys = insert fw.nextKey fw.openKeys) :
    (fw₁.wdfRegistryClose fw.nextKey).openKeys = fw.openKeys := by
  change fw₁.openKeys.erase fw.nextKey = fw.openKeys
  rw [h, Finset.erase_insert fw.nextKey_notMem]

/-- A query that does not answer fails with its own error. -/
theorem queryULong_of_not_answers {ntstatus : NTStatus} (h : ¬QueryAnswers ntstatus) :
    (fw.wdfRegistryQueryULong ntstatus valueName).1 = ntstatus := by
  rw [wdfRegistryQueryULong]
  split
  · exact if_neg h
  · exact foundStatus_of_not_queryAnswers h _
  · exact if_neg h

/-- The query reports a missing value exactly when it answers and the value is missing. -/
theorem queryULong_eq_notFound_iff (ntstatus : NTStatus) :
    statusObjectNameNotFound = (fw.wdfRegistryQueryULong ntstatus valueName).1 ↔
      QueryAnswers ntstatus ∧ fw.registry valueName = none := by
  have hmismatch : statusObjectNameNotFound ≠ statusObjectTypeMismatch := by decide
  have hfail : ¬NTSuccess statusObjectNameNotFound := by decide
  by_cases hquery : QueryAnswers ntstatus
  · rcases hreg : fw.registry valueName with _ | value | chars | size
    · simp [wdfRegistryQueryULong, hreg, queryStatus, hquery]
    · have hfound : statusObjectNameNotFound ≠ foundStatus ntstatus statusSuccess := fun h =>
        hfail (h ▸ ntSuccess_foundStatus hquery)
      simp [wdfRegistryQueryULong, hreg, hfound]
    · simp [wdfRegistryQueryULong, hreg, queryStatus, hquery, hmismatch]
    · simp [wdfRegistryQueryULong, hreg, queryStatus, hquery, hmismatch]
  · -- the status is the error of the query, which is none that a query answers with
    have hne : statusObjectNameNotFound ≠ ntstatus := fun h => hquery (.inr (.inl h.symm))
    rw [queryULong_of_not_answers valueName fw hquery]
    exact iff_of_false hne fun h => hquery h.1

/-- **`HidHideDriverGetBooleanProperty`** loses the key when the value is missing. -/
theorem getBooleanProperty_keys :
    KeyCallsOf fw (o.SwitchKeyLost (fw.registry valueName)) (getBooleanKeyCalls o valueName fw) ∧
      (hidHideDriverGetBooleanProperty o valueName fw).2.2.openKeys =
        keysAfter fw (o.SwitchKeyLost (fw.registry valueName)) := by
  by_cases hopen : NTSuccess o.openKey
  · obtain ⟨fw₁, heq, hreg, hkeys⟩ := openKey_of_success fw hopen
    have hlost : o.SwitchKeyLost (fw.registry valueName) ↔
        statusObjectNameNotFound = (fw₁.wdfRegistryQueryULong o.queryValue valueName).1 := by
      rw [queryULong_eq_notFound_iff, hreg, ReadOutcome.SwitchKeyLost, and_iff_right hopen]
    have hclose := openKeys_wdfRegistryClose hkeys
    simp only [getBooleanKeyCalls, hidHideDriverGetBooleanProperty, heq, hopen, not_true, if_false,
      KeyCallsOf, keysAfter, hlost]
    split_ifs with hsuccess hnotFound hnotFound
    · -- a missing value is no success
      rw [← hnotFound] at hsuccess
      exact absurd hsuccess not_ntSuccess_statusObjectNameNotFound
    · exact ⟨.inr ⟨hnotFound, .inr rfl⟩, hclose⟩
    · exact ⟨.inl ⟨hnotFound, rfl⟩, hkeys⟩
    · exact ⟨.inr ⟨hnotFound, .inr rfl⟩, hclose⟩
  · have hlost : ¬o.SwitchKeyLost (fw.registry valueName) := fun h => hopen h.1
    simp [getBooleanKeyCalls, hidHideDriverGetBooleanProperty, wdfDriverOpenParametersRegistryKey,
      KeyCallsOf, keysAfter, hopen, hlost]

/-- **The functions that assign a property** close the key. -/
theorem assignProperty_keys :
    KeyCallsOf fw False (assignKeyCalls w valueName value fw) ∧
      (assignProperty w valueName value fw).2.openKeys = keysAfter fw False := by
  by_cases hopen : NTSuccess w.openKey
  · -- whether or not the value is assigned
    by_cases hassign : NTSuccess w.assignValue <;>
      simp [assignKeyCalls, assignProperty, wdfDriverOpenParametersRegistryKey,
        wdfRegistryAssignValue, wdfRegistryClose, KeyCallsOf, keysAfter, hopen, hassign,
        fw.nextKey_notMem]
  · simp [assignKeyCalls, assignProperty, wdfDriverOpenParametersRegistryKey, KeyCallsOf,
      keysAfter, hopen]

/-- The collection is filled, or deleted, and the key is closed. -/
theorem fillCollection_keys (wdfKey : WdfKey) (c : WdfCollection) :
    fillCollectionKeyCalls o valueName wdfKey c fw = [.release wdfKey] ∧
      (fillCollection o valueName wdfKey c fw).2.openKeys = fw.openKeys.erase wdfKey := by
  have hmulti : (fw.wdfRegistryQueryMultiString o.queryMultiString valueName c).2.openKeys =
      fw.openKeys := by
    rw [wdfRegistryQueryMultiString]
    split_ifs
    · split
      · split_ifs <;> rfl
      · rfl
      · rfl
    · rfl
  simp only [fillCollectionKeyCalls, fillCollection, ite_self]
  refine ⟨trivial, ?_⟩
  split_ifs
  all_goals first
    | rfl
    | exact congrArg (Finset.erase · wdfKey) hmulti

/-- **`HidHideDriverCreateCollectionForMultiStringProperty`** loses the key when the collection
cannot be created. -/
theorem createCollection_keys :
    KeyCallsOf fw o.ListKeyLost (createCollectionKeyCalls o valueName fw) ∧
      (hidHideDriverCreateCollectionForMultiStringProperty o valueName fw).2.2.openKeys =
        keysAfter fw o.ListKeyLost := by
  by_cases hopen : NTSuccess o.openKey
  · obtain ⟨fw₁, heq, -, hkeys⟩ := openKey_of_success fw hopen
    by_cases hcreate : NTSuccess o.collectionCreate
    · have hlost : ¬o.ListKeyLost := fun h => h.2 hcreate
      obtain ⟨fw₂, heq₂, hkeys₂⟩ : ∃ fw₂ : Framework,
          fw₁.wdfCollectionCreate o.collectionCreate =
            (o.collectionCreate, fw₁.nextCollection, fw₂) ∧ fw₂.openKeys = fw₁.openKeys := by
        rw [wdfCollectionCreate, if_pos hcreate]
        exact ⟨_, rfl, rfl⟩
      obtain ⟨hcalls, hfill⟩ := fillCollection_keys o valueName fw₂ fw.nextKey fw₁.nextCollection
      rw [hkeys₂, hkeys, Finset.erase_insert fw.nextKey_notMem] at hfill
      simp only [createCollectionKeyCalls, hidHideDriverCreateCollectionForMultiStringProperty,
        heq, heq₂, hopen, hcreate, not_true, if_false, hcalls, hfill, KeyCallsOf, keysAfter, hlost]
      exact ⟨.inr ⟨not_false, .inr trivial⟩, trivial⟩
    · have hlost : o.ListKeyLost := ⟨hopen, hcreate⟩
      simp [createCollectionKeyCalls, hidHideDriverCreateCollectionForMultiStringProperty, heq,
        wdfCollectionCreate, hopen, hcreate, KeyCallsOf, keysAfter, hlost, hkeys]
  · have hlost : ¬o.ListKeyLost := fun h => hopen h.1
    simp [createCollectionKeyCalls, hidHideDriverCreateCollectionForMultiStringProperty,
      wdfDriverOpenParametersRegistryKey, KeyCallsOf, keysAfter, hopen, hlost]

/-- **The collections**: there is one more when the function succeeds, and none more when it
fails. -/
theorem createCollection_liveCollections :
    let r := hidHideDriverCreateCollectionForMultiStringProperty o valueName fw
    (NTSuccess r.1 → ∃ c ∈ r.2.1, c ∉ fw.liveCollections ∧
        r.2.2.liveCollections = insert c fw.liveCollections) ∧
      (¬NTSuccess r.1 → r.2.2.liveCollections = fw.liveCollections) := by
  intro r
  have hiff : NTSuccess r.1 ↔ _ := @createCollection_success_iff o valueName fw
  refine ⟨fun hsuccess => ?_, fun hfail => (createCollection_failure (mt hiff.mpr hfail)).2.2.2⟩
  obtain ⟨ho, hv⟩ := hiff.mp hsuccess
  obtain ⟨strings, hstrings⟩ := Option.isSome_iff_exists.mp hv
  obtain ⟨-, hvalue, hcreated⟩ := createCollection_success ho hstrings
  exact ⟨_, hvalue, fw.nextCollection_notMem, hcreated.liveCollections⟩

end Accessors

/-! ### Driver starts and events -/

/-- The framework when the driver has been unloaded: its objects are deleted with it. -/
def Framework.unloaded (fw : Framework) : Framework :=
  { fw with
    openKeys := ∅
    liveCollections := ∅
    lt_nextKey := by simp
    lt_nextCollection := by simp }

/-- What happens to the service: its driver starts, or handles an event. -/
inductive ServiceEvent where
  | start (o : CreateOutcome)
  | driver (e : DriverEvent)

/-- The driver starts, or handles an event. -/
def Driver.serve (upcase : WChar → WChar) (d : Driver) : ServiceEvent → Driver
  | .start o => (onDriverCreate o d.framework.unloaded).2
  | .driver e => d.handle upcase e

/-- The service before its first start, with what is persisted. -/
def Driver.absent (registry : DriverProperty → Option RegistryValue) : Driver where
  framework := { Framework.empty with registry }
  context := .zero
  processIdTree := .nil

/-- A list is read, and can be loaded. -/
def ReadOutcome.Loads (o : ReadOutcome) (value : Option RegistryValue) : Prop :=
  o.Ok value ∧ Loadable value

/-- A switch is read, and can be loaded. -/
def ReadOutcome.SwitchLoads (o : ReadOutcome) (value : Option RegistryValue) : Prop :=
  o.SwitchOk ∧ IsSwitchValue value

/-- A start comes to a read that loses its key: the reads before it have succeeded. -/
def CreateOutcome.KeyLost (o : CreateOutcome)
    (registry : DriverProperty → Option RegistryValue) : Prop :=
  o.whitelist.ListKeyLost ∨ o.whitelist.Loads (registry .whitelistedFullImageNames) ∧
    (o.blacklist.ListKeyLost ∨ o.blacklist.Loads (registry .blacklistedDeviceInstancePaths) ∧
      (o.active.SwitchKeyLost (registry .active) ∨ o.active.SwitchLoads (registry .active) ∧
        o.whitelistedInverse.SwitchKeyLost (registry .whitelistedInverse)))

/-- A request to get a list comes to a read that loses its key. -/
def IoOutcome.GetKeyLost (o : IoOutcome) (r : WdfRequest) : Prop :=
  r.input = [] ∧ (r.output = [] ∨ NTSuccess o.retrieve) ∧ o.read.ListKeyLost

/-- A request to set a list comes to a read that loses its key: the value has been assigned. -/
def IoOutcome.SetKeyLost (o : IoOutcome) (r : WdfRequest) : Prop :=
  r.output = [] ∧ (r.input = [] ∨ NTSuccess o.retrieve) ∧ o.write.Ok ∧ o.read.ListKeyLost

/-- A request comes to a read that loses its key. -/
def IoOutcome.KeyLost (o : IoOutcome) (ioControlCode : UInt32) (r : WdfRequest) : Prop :=
  if ioControlCode = ioctlGetWhitelist then o.GetKeyLost r
  else if ioControlCode = ioctlSetWhitelist then o.SetKeyLost r
  else if ioControlCode = ioctlGetBlacklist then o.GetKeyLost r
  else if ioControlCode = ioctlSetBlacklist then o.SetKeyLost r
  else False

/-- An event comes to a read that loses its key. -/
def ServiceEvent.KeyLost (d : Driver) : ServiceEvent → Prop
  | .start o => o.KeyLost d.framework.registry
  | .driver (.ioControl o _ ioControlCode input output) =>
      o.KeyLost ioControlCode (.arrived input output)
  | .driver _ => False

/-! ### What a start and an event do with keys -/

theorem keysAfter_eq_empty_iff (fw : Framework) (lost : Prop) [Decidable lost] :
    keysAfter fw lost = ∅ ↔ fw.openKeys = ∅ ∧ ¬lost := by
  rw [keysAfter]
  split_ifs with h
  · exact iff_of_false (Finset.insert_ne_empty _ _) fun hne => hne.2 h
  · exact (and_iff_left h).symm

/-- A switch is read successfully exactly when it loads. -/
theorem getBooleanProperty_success_iff (o : ReadOutcome) (valueName : DriverProperty)
    (fw : Framework) : NTSuccess (hidHideDriverGetBooleanProperty o valueName fw).1 ↔
      o.SwitchLoads (fw.registry valueName) := by
  by_cases ho : o.SwitchOk
  · rw [(getBooleanProperty_success ho valueName fw).1, ReadOutcome.SwitchLoads, and_iff_right ho]
  · refine iff_of_false ?_ fun h => ho h.1
    by_cases hopen : NTSuccess o.openKey
    · obtain ⟨fw₁, heq, -, -⟩ := openKey_of_success fw hopen
      have hquery : ¬QueryAnswers o.queryValue := fun h => ho ⟨hopen, h⟩
      have hfail : ¬NTSuccess o.queryValue := fun h => hquery (.inl h)
      have hne : statusObjectNameNotFound ≠ o.queryValue := fun h => hquery (.inr (.inl h.symm))
      have hstatus := queryULong_of_not_answers valueName fw₁ hquery
      simp [hidHideDriverGetBooleanProperty, heq, hopen, hstatus, hfail, hne]
    · simp [hidHideDriverGetBooleanProperty, wdfDriverOpenParametersRegistryKey, hopen]

/-- **A start** leaves no key open exactly when none of its reads loses one. -/
theorem onControlDeviceCreate_openKeys_iff {o : CreateOutcome} {fw : Framework}
    (h : fw.openKeys = ∅) :
    (onControlDeviceCreate o fw).2.2.openKeys = ∅ ↔ ¬o.KeyLost fw.registry := by
  -- the framework after each of the four reads
  obtain ⟨fw₁, hfw₁⟩ : ∃ fw₁, fw₁ = (hidHideDriverCreateCollectionForMultiStringProperty
    o.whitelist .whitelistedFullImageNames fw).2.2 := ⟨_, rfl⟩
  obtain ⟨fw₂, hfw₂⟩ : ∃ fw₂, fw₂ = (hidHideDriverCreateCollectionForMultiStringProperty
    o.blacklist .blacklistedDeviceInstancePaths fw₁).2.2 := ⟨_, rfl⟩
  obtain ⟨fw₃, hfw₃⟩ : ∃ fw₃, fw₃ =
    (hidHideDriverGetBooleanProperty o.active .active fw₂).2.2 := ⟨_, rfl⟩
  obtain ⟨fw₄, hfw₄⟩ : ∃ fw₄, fw₄ = (hidHideDriverGetBooleanProperty o.whitelistedInverse
    .whitelistedInverse fw₃).2.2 := ⟨_, rfl⟩
  have hreg₁ : fw₁.registry = fw.registry := by rw [hfw₁, createCollection_registry]
  have hreg₂ : fw₂.registry = fw.registry := by rw [hfw₂, createCollection_registry, hreg₁]
  have hreg₃ : fw₃.registry = fw.registry := by
    rw [hfw₃, (getBooleanProperty_frame _ _ _).1, hreg₂]
  have hkeys₁ : fw₁.openKeys = ∅ ↔ ¬o.whitelist.ListKeyLost := by
    rw [hfw₁, (createCollection_keys _ _ _).2, keysAfter_eq_empty_iff, and_iff_right h]
  have hkeys₂ : fw₂.openKeys = ∅ ↔ fw₁.openKeys = ∅ ∧ ¬o.blacklist.ListKeyLost := by
    rw [hfw₂, (createCollection_keys _ _ _).2, keysAfter_eq_empty_iff]
  have hkeys₃ : fw₃.openKeys = ∅ ↔
      fw₂.openKeys = ∅ ∧ ¬o.active.SwitchKeyLost (fw.registry .active) := by
    rw [hfw₃, (getBooleanProperty_keys _ _ _).2, keysAfter_eq_empty_iff, hreg₂]
  have hkeys₄ : fw₄.openKeys = ∅ ↔ fw₃.openKeys = ∅ ∧
      ¬o.whitelistedInverse.SwitchKeyLost (fw.registry .whitelistedInverse) := by
    rw [hfw₄, (getBooleanProperty_keys _ _ _).2, keysAfter_eq_empty_iff, hreg₃]
  have hloads₁ : _ ↔ o.whitelist.Loads (fw.registry .whitelistedFullImageNames) :=
    @createCollection_success_iff o.whitelist .whitelistedFullImageNames fw
  have hloads₂ : _ ↔ o.blacklist.Loads (fw₁.registry .blacklistedDeviceInstancePaths) :=
    @createCollection_success_iff o.blacklist .blacklistedDeviceInstancePaths fw₁
  have hloads₃ := getBooleanProperty_success_iff o.active .active fw₂
  rw [hreg₁] at hloads₂
  rw [hreg₂] at hloads₃
  -- a list that is read has been created
  have hcreated₁ : o.whitelist.Loads (fw.registry .whitelistedFullImageNames) →
      ¬o.whitelist.ListKeyLost := fun h hlost => hlost.2 h.1.2.1
  have hcreated₂ : o.blacklist.Loads (fw.registry .blacklistedDeviceInstancePaths) →
      ¬o.blacklist.ListKeyLost := fun h hlost => hlost.2 h.1.2.1
  rw [CreateOutcome.KeyLost]
  simp only [onControlDeviceCreate, ← hfw₁, ← hfw₂, ← hfw₃, ← hfw₄]
  split_ifs with h₁ h₂ h₃ h₄
  iterate 2
    -- whether the last value is there does not matter for what has been opened
    have hload₁ := hloads₁.mp h₁
    have hload₂ := hloads₂.mp h₂
    simp only [hkeys₄, hkeys₃, hkeys₂, hkeys₁, hcreated₁ hload₁, hcreated₂ hload₂, hload₁, hload₂,
      hloads₃.mp h₃, not_false_eq_true, true_and, false_or, not_or]
  · have hload₁ := hloads₁.mp h₁
    have hload₂ := hloads₂.mp h₂
    simp only [hkeys₃, hkeys₂, hkeys₁, hcreated₁ hload₁, hcreated₂ hload₂, hload₁, hload₂,
      mt hloads₃.mpr h₃, not_false_eq_true, true_and, false_and, false_or, or_false]
  · have hload₁ := hloads₁.mp h₁
    simp only [hkeys₂, hkeys₁, hcreated₁ hload₁, hload₁, mt hloads₂.mpr h₂, not_false_eq_true,
      true_and, false_and, false_or, or_false]
  · simp only [hkeys₁, mt hloads₁.mpr h₁, false_and, or_false]

theorem getList_openKeys (kind : ListKind) (o : ReadOutcome) (buffer : Option (List WChar))
    (d : Driver) : (getList kind o buffer d).2.2.2.framework.openKeys =
      keysAfter d.framework o.ListKeyLost := by
  have hkeys := (createCollection_keys o kind.property d.framework).2
  simp only [getList]
  split_ifs
  · exact hkeys
  · exact hkeys

theorem setSwitch_openKeys (kind : SwitchKind) (o : WriteOutcome) (value : Bool) (d : Driver) :
    (setSwitch kind o value d).2.2.framework.openKeys = d.framework.openKeys := by
  have hkeys : (assignProperty o kind.property (.regDword (if value then 1 else 0))
      d.framework).2.openKeys = d.framework.openKeys :=
    (assignProperty_keys o kind.property _ d.framework).2
  simp only [setSwitch]
  split_ifs
  · exact hkeys
  · exact hkeys

theorem setList_openKeys_eq_empty_iff (kind : ListKind) (o : ListOutcome) (buffer : List WChar)
    {d : Driver} (h : d.framework.openKeys = ∅) :
    (setList kind o buffer d).2.framework.openKeys = ∅ ↔ ¬(o.write.Ok ∧ o.read.ListKeyLost) := by
  obtain ⟨d₁, hd₁⟩ : ∃ d₁, d₁ = (persistList kind o.write buffer d).2 := ⟨_, rfl⟩
  have hkeys₁ : d₁.framework.openKeys = ∅ := by
    rw [hd₁]
    exact (assignProperty_keys o.write kind.property _ d.framework).2.trans h
  have hkeys₂ : (replaceList kind o.read d₁).2.framework.openKeys = ∅ ↔ ¬o.read.ListKeyLost := by
    change (hidHideDriverCreateCollectionForMultiStringProperty o.read kind.property
      (d₁.framework.wdfObjectDelete (kind.collection d₁.context))).2.2.openKeys = ∅ ↔ _
    rw [(createCollection_keys _ _ _).2, keysAfter_eq_empty_iff]
    exact and_iff_right hkeys₁
  have hpersist := persistList_fst kind buffer o.write (d := d)
  rw [setList_eq]
  by_cases hwrite : o.write.Ok
  · rw [if_neg (not_not.mpr (hpersist.mpr hwrite)), ← hd₁, and_iff_right hwrite, ← hkeys₂]
    split_ifs
    · rw [ListKind.finish_framework]
    · rfl
  · rw [if_pos (mt hpersist.mp hwrite), ← hd₁]
    exact iff_of_true hkeys₁ fun h => hwrite h.1

/-- A buffer without a byte. -/
theorem zero_eq_length_iff {bytes : List UInt8} : 0 = bytes.length ↔ bytes = [] := by
  rw [eq_comm, List.length_eq_zero_iff]

section Requests

variable {o : IoOutcome} {r : WdfRequest} {d : Driver} (h : d.framework.openKeys = ∅)
include h

theorem getListRequest_openKeys_iff (kind : ListKind) :
    (r.onControlDeviceIoGetList o d kind).2.2.framework.openKeys = ∅ ↔ ¬o.GetKeyLost r := by
  have hread : ∀ buffer, (getList kind o.read buffer d).2.2.2.framework.openKeys = ∅ ↔
      ¬o.read.ListKeyLost := fun buffer => by
    rw [getList_openKeys, keysAfter_eq_empty_iff, and_iff_right h]
  rw [IoOutcome.GetKeyLost, WdfRequest.onControlDeviceIoGetList]
  by_cases hinput : r.input = []
  · have hnoInput : 0 = r.inputBufferLength := zero_eq_length_iff.mpr hinput
    rw [if_neg (not_not.mpr hnoInput), and_iff_right hinput]
    by_cases houtput : r.output = []
    · have hnoOutput : 0 = r.outputBufferLength := zero_eq_length_iff.mpr houtput
      rw [if_pos hnoOutput, and_iff_right (.inl houtput), ← hread none]
      dsimp only
      split_ifs <;> rfl
    · rw [if_neg fun h => houtput (zero_eq_length_iff.mp h), or_iff_right houtput]
      by_cases hretrieve : NTSuccess o.retrieve
      · rw [if_neg (not_not.mpr hretrieve), and_iff_right hretrieve,
          ← hread (some (wideChars r.output))]
        dsimp only
        split_ifs <;> rfl
      · rw [if_pos hretrieve]
        exact iff_of_true h fun hlost => hretrieve hlost.1
  · rw [if_pos fun h => hinput (zero_eq_length_iff.mp h)]
    exact iff_of_true h fun hlost => hinput hlost.1

theorem setListRequest_openKeys_iff (kind : ListKind) :
    (r.onControlDeviceIoSetList o d kind).2.2.framework.openKeys = ∅ ↔ ¬o.SetKeyLost r := by
  have hset := fun buffer => setList_openKeys_eq_empty_iff kind ⟨o.write, o.read⟩ buffer h
  rw [IoOutcome.SetKeyLost, WdfRequest.onControlDeviceIoSetList]
  by_cases houtput : r.output = []
  · have hnoOutput : 0 = r.outputBufferLength := zero_eq_length_iff.mpr houtput
    rw [if_neg (not_not.mpr hnoOutput), and_iff_right houtput]
    by_cases hinput : r.input = []
    · have hnoInput : 0 = r.inputBufferLength := zero_eq_length_iff.mpr hinput
      rw [if_pos hnoInput, and_iff_right (.inl hinput), ← hset [nul, nul]]
      dsimp only
      split_ifs <;> rfl
    · rw [if_neg fun h => hinput (zero_eq_length_iff.mp h), or_iff_right hinput]
      by_cases hretrieve : NTSuccess o.retrieve
      · rw [if_neg (not_not.mpr hretrieve), and_iff_right hretrieve, ← hset (wideChars r.input)]
        dsimp only
        split_ifs <;> rfl
      · rw [if_pos hretrieve]
        exact iff_of_true h fun hlost => hretrieve hlost.1
  · rw [if_pos fun h => houtput (zero_eq_length_iff.mp h)]
    exact iff_of_true h fun hlost => houtput hlost.1

theorem setSwitchRequest_openKeys (kind : SwitchKind) :
    (r.onControlDeviceIoSetSwitch o d kind).2.2.2.framework.openKeys = ∅ := by
  simp only [WdfRequest.onControlDeviceIoSetSwitch]
  split_ifs
  all_goals first
    | exact h
    | exact (setSwitch_openKeys kind o.write _ d).trans h

theorem getSwitchRequest_openKeys (kind : SwitchKind) :
    (r.onControlDeviceIoGetSwitch o d kind).2.2.framework.openKeys = ∅ := by
  simp only [WdfRequest.onControlDeviceIoGetSwitch]
  split_ifs <;> exact h

theorem addSessionBlacklist_openKeys (callerPid : Handle) :
    (r.onControlDeviceIoAddSessionBlacklist o d callerPid).2.2.framework.openKeys = ∅ := by
  rw [addSessionBlacklist_driver]
  split_ifs
  · exact h
  · exact h

omit h in
/-- Two handlers of which the dispatcher chooses. -/
private theorem openKeys_ite {p : Prop} [Decidable p] {lost lost' : Prop}
    {result result' : NTStatus × WdfRequest × List LogEvent × Driver}
    (hresult : result.2.2.2.framework.openKeys = ∅ ↔ ¬lost)
    (hresult' : result'.2.2.2.framework.openKeys = ∅ ↔ ¬lost') :
    (if p then result else result').2.2.2.framework.openKeys = ∅ ↔
      ¬(if p then lost else lost') := by
  split_ifs
  · exact hresult
  · exact hresult'

/-- **A request** leaves no key open exactly when its read, if it comes to one, loses none. -/
theorem deviceControl_openKeys_iff (callerPid : Handle) (ioControlCode : UInt32) :
    (onControlDeviceIoDeviceControl o callerPid ioControlCode r d).2.2.2.framework.openKeys = ∅ ↔
      ¬o.KeyLost ioControlCode r := by
  refine openKeys_ite (getListRequest_openKeys_iff h .whitelist) ?_
  refine openKeys_ite (setListRequest_openKeys_iff h .whitelist) ?_
  refine openKeys_ite (getListRequest_openKeys_iff h .blacklist) ?_
  refine openKeys_ite (setListRequest_openKeys_iff h .blacklist) ?_
  -- the other requests do not read the registry
  refine iff_of_true ?_ not_false
  split_ifs
  · exact getSwitchRequest_openKeys h .active
  · exact setSwitchRequest_openKeys h .active
  · exact getSwitchRequest_openKeys h .whitelistedInverse
  · exact setSwitchRequest_openKeys h .whitelistedInverse
  · exact addSessionBlacklist_openKeys h callerPid
  · rw [withoutEvents, WdfRequest.onControlDeviceIoClearSessionBlacklist]
    split_ifs <;> exact h
  · exact h

end Requests

/-- **A start or an event** leaves no key open exactly when it loses none. -/
theorem serve_openKeys_iff (upcase : WChar → WChar) {d : Driver} (h : d.framework.openKeys = ∅)
    (e : ServiceEvent) : (d.serve upcase e).framework.openKeys = ∅ ↔ ¬e.KeyLost d := by
  cases e with
  | start o => exact onControlDeviceCreate_openKeys_iff rfl
  | driver e =>
    cases e with
    | ioControl o callerPid ioControlCode input output =>
      rw [Driver.serve, handle_ioControl, deviceControl_openKeys_iff h]
      rfl
    | fileCreate o deviceInstancePath processId sessionId =>
      refine iff_of_true ?_ not_false
      rw [Driver.serve, handle_fileCreate]
      rcases onDeviceFileCreate_state upcase d deviceInstancePath processId sessionId with hd | hd
      · rwa [hd]
      · rwa [hd]
    | processChange processId create =>
      cases create <;> exact iff_of_true h not_false
    | loadImage o fullImageName processId =>
      refine iff_of_true ?_ not_false
      rcases fullImageName with _ | fullImageName
      · exact h
      · rw [Driver.serve, Driver.handle, onSystemLoadImage]
        split_ifs <;> exact h
    | shutdown => exact iff_of_true h not_false

/-! ### Which runs lose no key -/

/-- The calls of each function run on the keys that are open, and leave those that it leaves. -/
theorem keyCalls_run (fw : Framework) (valueName : DriverProperty) :
    (∀ o, Machine.run HandleCall.perform fw.openKeys (getBooleanKeyCalls o valueName fw) =
      some (hidHideDriverGetBooleanProperty o valueName fw).2.2.openKeys) ∧
    (∀ o value, Machine.run HandleCall.perform fw.openKeys (assignKeyCalls o valueName value fw) =
      some (assignProperty o valueName value fw).2.openKeys) ∧
    ∀ o, Machine.run HandleCall.perform fw.openKeys (createCollectionKeyCalls o valueName fw) =
      some (hidHideDriverCreateCollectionForMultiStringProperty o valueName
        fw).2.2.openKeys := by
  refine ⟨fun o => ?_, fun o value => ?_, fun o => ?_⟩
  · rw [(getBooleanProperty_keys o valueName fw).2]
    exact (getBooleanProperty_keys o valueName fw).1.run
  · rw [(assignProperty_keys o valueName value fw).2]
    exact (assignProperty_keys o valueName value fw).1.run
  · rw [(createCollection_keys o valueName fw).2]
    exact (createCollection_keys o valueName fw).1.run

/-- **Registry keys are released** except on two paths. `HidHideDriverGetBooleanProperty` releases
its key exactly when the value is not missing,
`HidHideDriverCreateCollectionForMultiStringProperty` exactly when the collection can be created,
and the functions that assign a property always do. The collections are released on every path. No
key is open between the starts and events of a run exactly when none of them comes to one of the
two paths. -/
theorem registryKeys_iff (upcase : WChar → WChar) :
    (∀ o valueName fw,
      ReleasesKeys fw (hidHideDriverGetBooleanProperty o valueName fw).2.2
          (getBooleanKeyCalls o valueName fw) ↔
        ¬o.SwitchKeyLost (fw.registry valueName)) ∧
    (∀ o valueName value fw,
      ReleasesKeys fw (hidHideDriverSetBooleanProperty o valueName value fw).2
        (setBooleanKeyCalls o valueName value fw)) ∧
    (∀ o valueName value fw,
      ReleasesKeys fw (hidHideDriverSetMultiStringProperty o valueName value fw).2
        (setMultiStringKeyCalls o valueName value fw)) ∧
    (∀ o valueName fw,
      ReleasesKeys fw (hidHideDriverCreateCollectionForMultiStringProperty o valueName fw).2.2
          (createCollectionKeyCalls o valueName fw) ↔ ¬o.ListKeyLost) ∧
    (∀ o valueName fw,
      let r := hidHideDriverCreateCollectionForMultiStringProperty o valueName fw
      (NTSuccess r.1 → ∃ c ∈ r.2.1, c ∉ fw.liveCollections ∧
          r.2.2.liveCollections = insert c fw.liveCollections) ∧
        (¬NTSuccess r.1 → r.2.2.liveCollections = fw.liveCollections)) ∧
    ∀ registry events,
      (∀ done, done <+: events →
        (done.foldl (Driver.serve upcase) (.absent registry)).framework.openKeys = ∅) ↔
      Machine.Along (fun d e => some (d.serve upcase e)) (fun d e => ¬e.KeyLost d)
        (.absent registry) events := by
  refine ⟨fun o valueName fw => ?_, fun o valueName value fw => ?_,
    fun o valueName value fw => ?_, fun o valueName fw => ?_, createCollection_liveCollections,
    fun registry events => ?_⟩
  · obtain ⟨hcalls, hkeys⟩ := getBooleanProperty_keys o valueName fw
    exact releasesKeys_iff hcalls hkeys
  · obtain ⟨hcalls, hkeys⟩ := assignProperty_keys o valueName
      (.regDword (if value then 1 else 0)) fw
    exact (releasesKeys_iff hcalls hkeys).mpr not_false
  · obtain ⟨hcalls, hkeys⟩ := assignProperty_keys o valueName (.regMultiSz (storedChars value)) fw
    exact (releasesKeys_iff hcalls hkeys).mpr not_false
  · obtain ⟨hcalls, hkeys⟩ := createCollection_keys o valueName fw
    exact releasesKeys_iff hcalls hkeys
  · exact @Machine.forall_prefix_iff_along_total _ _ (Driver.serve upcase)
      (fun d => d.framework.openKeys = ∅) _
      (fun d e hd => (serve_openKeys_iff upcase hd e).symm) _ rfl events

/-! ### What the installation leaves out -/

/-- The values that `HidHide.inf` adds: there is none for `WhitelistedInverse`. -/
def installedRegistry : DriverProperty → Option RegistryValue
  | .whitelistedFullImageNames => some (.regMultiSz [nul])
  | .blacklistedDeviceInstancePaths => some (.regMultiSz [nul])
  | .active => some (.regDword 0)
  | .whitelistedInverse => none

/-- The first start of an installed driver loses a key, though every call succeeds. -/
theorem installedRegistry_keyLost :
    NTSuccess (onDriverCreate .success (Driver.absent installedRegistry).framework).1 ∧
      ((Driver.absent installedRegistry).serve id (.start .success)).framework.openKeys = {4} ∧
      ¬ReleasesKeys (Driver.absent installedRegistry).framework
        (hidHideDriverGetBooleanProperty .success .whitelistedInverse
          (Driver.absent installedRegistry).framework).2.2
        (getBooleanKeyCalls .success .whitelistedInverse
          (Driver.absent installedRegistry).framework) := by
  refine ⟨by decide, by decide, fun h => ?_⟩
  exact absurd h.openKeys (by decide)

end HidHide
