import HidHide.Driver.Logic

/-!
# Requests to the control device

The handlers of the control device for the two lists, from the bytes of the client's buffers on,
and the creation of the control device, which loads what is persisted.

A request to set a list takes any bytes: `onControlDeviceIoSetList` reads them as wide characters
and hands them to the setter without a look at them. A request to get a list reads it from the
registry, not from memory.
-/

namespace HidHide

/-! ### The creation of the control device -/

/-- What the calls of `OnControlDeviceCreate` come back with. -/
structure CreateOutcome where
  whitelist : ReadOutcome
  blacklist : ReadOutcome
  active : ReadOutcome
  whitelistedInverse : ReadOutcome

/-- The context of a new device object. -/
def ControlDeviceContext.zero : ControlDeviceContext where
  whitelistedFullImageNames := 0
  blacklistedDeviceInstancePaths := 0
  active := false
  whitelistedInverse := false
  sessionBlacklist := []
  shutdownPending := false
  numberOfDevicesCreated := 0

/-- `OnControlDeviceCreate`, without the events it logs. -/
def onControlDeviceCreate (o : CreateOutcome) (fw : Framework) :
    NTStatus × ControlDeviceContext × Framework :=
  let ctx := ControlDeviceContext.zero
  let (ntstatus, value, fw) :=
    hidHideDriverCreateCollectionForMultiStringProperty o.whitelist .whitelistedFullImageNames fw
  let ctx := { ctx with whitelistedFullImageNames := value.getD ctx.whitelistedFullImageNames }
  if ¬NTSuccess ntstatus then (ntstatus, ctx, fw)
  else
    let (ntstatus, value, fw) := hidHideDriverCreateCollectionForMultiStringProperty o.blacklist
      .blacklistedDeviceInstancePaths fw
    let ctx := { ctx with
      blacklistedDeviceInstancePaths := value.getD ctx.blacklistedDeviceInstancePaths }
    if ¬NTSuccess ntstatus then (ntstatus, ctx, fw)
    else
      let (ntstatus, active, fw) := hidHideDriverGetBooleanProperty o.active .active fw
      let ctx := { ctx with active }
      if ¬NTSuccess ntstatus then (ntstatus, ctx, fw)
      else
        let (ntstatus, whitelistedInverse, fw) :=
          hidHideDriverGetBooleanProperty o.whitelistedInverse .whitelistedInverse fw
        let ctx := { ctx with whitelistedInverse }
        if ¬NTSuccess ntstatus then (ntstatus, ctx, fw)
        else (statusSuccess, ctx, fw)

/-- The driver after its creation: no process is known yet. -/
def onDriverCreate (o : CreateOutcome) (fw : Framework) : NTStatus × Driver :=
  let (ntstatus, context, framework) := onControlDeviceCreate o fw
  (ntstatus, { framework, context, processIdTree := .nil })

/-! ### Setting a list -/

/-- The bytes of a buffer as wide characters, the low byte first. An odd last byte is dropped. -/
def wideChars : List UInt8 → List WChar
  | low :: high :: bytes => (low.toUInt16 ||| high.toUInt16 <<< 8) :: wideChars bytes
  | _ => []

/-- What the calls of a request to set a list come back with. -/
structure SetListOutcome where
  retrieve : NTStatus
  list : ListOutcome

/-- The requests to set a list: they differ in the list. -/
def onControlDeviceIoSetList (kind : ListKind) (o : SetListOutcome) (outputBufferLength : ℕ)
    (input : List UInt8) (d : Driver) : NTStatus × Driver :=
  if 0 ≠ outputBufferLength then (statusInvalidParameter, d)
  -- without a buffer the list is emptied
  else if 0 = input.length then setList kind o.list [nul, nul] d
  else if ¬NTSuccess o.retrieve then (o.retrieve, d)
  else setList kind o.list (wideChars input) d

/-- `OnControlDeviceIoSetWhitelist`. -/
def onControlDeviceIoSetWhitelist : SetListOutcome → ℕ → List UInt8 → Driver → NTStatus × Driver :=
  onControlDeviceIoSetList .whitelist

/-- `OnControlDeviceIoSetBlacklist`. -/
def onControlDeviceIoSetBlacklist : SetListOutcome → ℕ → List UInt8 → Driver → NTStatus × Driver :=
  onControlDeviceIoSetList .blacklist

/-! ### Getting a list -/

/-- `NTSTRSAFE_MAX_CCH`. -/
def ntstrsafeMaxCch : ℕ := 2147483647

/-- The second loop of `HidHideCollectionToMultiString` and the terminator after it: `buffer` is
what is left of the output buffer. -/
def copyStrings : List UnicodeString → List WChar → NTStatus × List WChar
  | [], buffer => (statusSuccess, nul :: buffer.drop 1)
  -- `RtlStringCchCopyUnicodeStringEx`, which appends a terminator
  | string :: strings, buffer =>
      if buffer.length = 0 ∨ ntstrsafeMaxCch < buffer.length then (statusInvalidParameter, buffer)
      else if buffer.length ≤ string.length then (statusBufferOverflow, buffer)
      else
        let (ntstatus, rest) := copyStrings strings (buffer.drop (string.length + 1))
        (ntstatus, string ++ nul :: rest)

/-- `HidHideCollectionToMultiString`, of the strings of the collection: the status, the size
needed in characters, and the output buffer, if there is one. -/
def hidHideCollectionToMultiString (strings : List UnicodeString) (buffer : Option (List WChar)) :
    NTStatus × ℕ × Option (List WChar) :=
  let neededSizeInCharacters := (strings.map (·.length + 1)).sum + 1
  match buffer with
  | none => (statusSuccess, neededSizeInCharacters, none)
  | some buffer =>
      if buffer.length < neededSizeInCharacters then
        (statusBufferTooSmall, neededSizeInCharacters, some buffer)
      else
        let (ntstatus, buffer) := copyStrings strings buffer
        (ntstatus, neededSizeInCharacters, some buffer)

/-- The getters of the lists, `GetWhitelist` and `GetBlacklist`: they differ in the list. -/
def getList (kind : ListKind) (o : ReadOutcome) (buffer : Option (List WChar)) (d : Driver) :
    NTStatus × ℕ × Option (List WChar) × Driver :=
  match hidHideDriverCreateCollectionForMultiStringProperty o kind.property d.framework with
  | (ntstatus, value, fw) =>
      if NTSuccess ntstatus then
        let wdfCollection := value.getD 0
        let (ntstatus, neededSizeInCharacters, buffer) :=
          hidHideCollectionToMultiString (fw.contents wdfCollection) buffer
        (ntstatus, neededSizeInCharacters, buffer,
          { d with framework := fw.wdfObjectDelete wdfCollection })
      else (ntstatus, 0, buffer, { d with framework := fw })

/-- What the calls of a request to get a list come back with. -/
structure GetListOutcome where
  retrieve : NTStatus
  read : ReadOutcome

/-- The requests to get a list: they differ in the list. The result is the status, the number of
bytes reported, and the output buffer as wide characters. -/
def onControlDeviceIoGetList (kind : ListKind) (o : GetListOutcome) (inputBufferLength : ℕ)
    (output : List UInt8) (d : Driver) : NTStatus × ℕ × List WChar × Driver :=
  let buffer := wideChars output
  if 0 ≠ inputBufferLength then (statusInvalidParameter, 0, buffer, d)
  else if 0 = output.length then
    let (ntstatus, neededSizeInCharacters, _, d) := getList kind o.read none d
    if ¬NTSuccess ntstatus then (ntstatus, 0, buffer, d)
    else (statusSuccess, neededSizeInCharacters * 2, buffer, d)
  else if ¬NTSuccess o.retrieve then (o.retrieve, 0, buffer, d)
  else
    let (ntstatus, neededSizeInCharacters, filled, d) := getList kind o.read (some buffer) d
    if ¬NTSuccess ntstatus then (ntstatus, 0, filled.getD buffer, d)
    else (statusSuccess, neededSizeInCharacters * 2, filled.getD buffer, d)

/-- `OnControlDeviceIoGetWhitelist`. -/
def onControlDeviceIoGetWhitelist :
    GetListOutcome → ℕ → List UInt8 → Driver → NTStatus × ℕ × List WChar × Driver :=
  onControlDeviceIoGetList .whitelist

/-- `OnControlDeviceIoGetBlacklist`. -/
def onControlDeviceIoGetBlacklist :
    GetListOutcome → ℕ → List UInt8 → Driver → NTStatus × ℕ × List WChar × Driver :=
  onControlDeviceIoGetList .blacklist

/-- **The encoder** writes the multi-string of the strings and leaves the rest of the buffer as it
is, if the buffer is large enough for it and not too large for the copies. -/
theorem copyStrings_of_le {strings : List UnicodeString} {buffer : List WChar}
    (hsize : (MultiString.encode nul strings).length ≤ buffer.length)
    (hmax : buffer.length ≤ ntstrsafeMaxCch) :
    copyStrings strings buffer = (statusSuccess, MultiString.encode nul strings ++
      buffer.drop (MultiString.encode nul strings).length) := by
  induction strings generalizing buffer with
  | nil => rfl
  | cons string strings ih =>
    rw [MultiString.encode_cons, List.length_append, List.length_cons] at hsize ⊢
    have hrest : (MultiString.encode nul strings).length ≤
        (buffer.drop (string.length + 1)).length := by
      rw [List.length_drop]
      omega
    have hmax' : (buffer.drop (string.length + 1)).length ≤ ntstrsafeMaxCch := by
      rw [List.length_drop]
      omega
    rw [copyStrings, if_neg (by omega), if_neg (by omega), ih hrest hmax', List.drop_drop]
    simp [Nat.add_assoc, Nat.add_comm 1]

/-- The size needed for a list, in characters. -/
theorem neededSizeInCharacters_eq (strings : List UnicodeString) :
    (strings.map (·.length + 1)).sum + 1 = (MultiString.encode nul strings).length :=
  (MultiString.length_encode strings).symm

/-- A getter that succeeds in reading the registry returns what is persisted, and leaves it as it
is. -/
theorem getList_of_ok {kind : ListKind} {o : ReadOutcome} {d : Driver}
    {strings : List UnicodeString} (ho : o.Ok (d.framework.registry kind.property))
    (hv : decodedValue (d.framework.registry kind.property) = some strings)
    (buffer : Option (List WChar)) :
    let r := hidHideCollectionToMultiString strings buffer
    (getList kind o buffer d).1 = r.1 ∧ (getList kind o buffer d).2.1 = r.2.1 ∧
      (getList kind o buffer d).2.2.1 = r.2.2 ∧
      (getList kind o buffer d).2.2.2.framework.registry = d.framework.registry := by
  obtain ⟨hstatus, hvalue, hcreated⟩ := createCollection_success ho hv
  have hcontents : (hidHideDriverCreateCollectionForMultiStringProperty o kind.property
      d.framework).2.2.contents d.framework.nextCollection = strings := by
    rw [hcreated.contents, Function.update_self]
  simp only [getList, hstatus, if_true, hvalue, Option.getD_some, hcontents]
  exact ⟨trivial, trivial, trivial, hcreated.registry⟩

/-- No call of a request to get a list fails of its own accord, for the value that is persisted. -/
structure GetListOutcome.Ok (o : GetListOutcome) (value : Option RegistryValue) : Prop where
  retrieve : NTSuccess o.retrieve
  read : o.read.Ok value

section GetList

variable {kind : ListKind} {o : GetListOutcome} {d : Driver} {strings : List UnicodeString}
  (ho : o.Ok (d.framework.registry kind.property))
  (hv : decodedValue (d.framework.registry kind.property) = some strings)
include ho hv

/-- A request without an output buffer reports the size needed, in bytes. -/
theorem getList_size :
    let r := onControlDeviceIoGetList kind o 0 [] d
    r.1 = statusSuccess ∧ r.2.1 = 2 * (MultiString.encode nul strings).length ∧
      r.2.2.2.framework.registry = d.framework.registry := by
  obtain ⟨hstatus, hneeded, -, hregistry⟩ := getList_of_ok ho.read hv none
  have hok : NTSuccess (getList kind o.read none d).1 := by
    rw [hstatus]
    exact ntSuccess_statusSuccess
  simp only [onControlDeviceIoGetList, ne_eq, not_true, if_false, List.length_nil, if_true, hok]
  refine ⟨trivial, ?_, hregistry⟩
  rw [hneeded]
  change ((strings.map (·.length + 1)).sum + 1) * 2 = _
  rw [neededSizeInCharacters_eq, Nat.mul_comm]

/-- A request with an output buffer of that size fills it. -/
theorem getList_fill {output : List UInt8} (houtput : output ≠ [])
    (hlength : (wideChars output).length = (MultiString.encode nul strings).length)
    (hmax : (MultiString.encode nul strings).length ≤ ntstrsafeMaxCch) :
    let r := onControlDeviceIoGetList kind o 0 output d
    r.1 = statusSuccess ∧ r.2.2.1 = MultiString.encode nul strings := by
  have hcopy : copyStrings strings (wideChars output) =
      (statusSuccess, MultiString.encode nul strings) := by
    rw [copyStrings_of_le hlength.ge (hlength.trans_le hmax), List.drop_of_length_le hlength.le,
      List.append_nil]
  have hcollection : hidHideCollectionToMultiString strings (some (wideChars output)) =
      (statusSuccess, (strings.map (·.length + 1)).sum + 1,
        some (MultiString.encode nul strings)) := by
    rw [hidHideCollectionToMultiString, neededSizeInCharacters_eq]
    simp only [if_neg hlength.not_lt, hcopy]
  obtain ⟨hstatus, -, hbuffer, -⟩ := getList_of_ok ho.read hv (some (wideChars output))
  rw [hcollection] at hstatus hbuffer
  have hok : NTSuccess (getList kind o.read (some (wideChars output)) d).1 := by
    rw [hstatus]
    exact ntSuccess_statusSuccess
  have hne : 0 ≠ output.length := (List.length_pos_iff.mpr houtput).ne
  simp only [onControlDeviceIoGetList, ne_eq, not_true, if_false, hne, ho.retrieve, hok,
    hbuffer, Option.getD_some, and_self]

end GetList

/-! ### What can be loaded -/

/-- The value of a switch: a number, or none for the default. -/
def IsSwitchValue : Option RegistryValue → Prop
  | none => True
  | some (.regDword _) => True
  | some _ => False

instance : DecidablePred IsSwitchValue
  | none => .isTrue trivial
  | some (.regDword _) => .isTrue trivial
  | some (.regMultiSz _) => .isFalse id
  | some (.regOther _) => .isFalse id

/-- The values that the driver keeps can be loaded at its next start. -/
structure Persisted (registry : DriverProperty → Option RegistryValue) : Prop where
  list : ∀ kind : ListKind, Loadable (registry kind.property)
  switch : ∀ kind : SwitchKind, IsSwitchValue (registry kind.property)

/-- No call of `HidHideDriverGetBooleanProperty` fails of its own accord. -/
def ReadOutcome.SwitchOk (o : ReadOutcome) : Prop :=
  NTSuccess o.openKey ∧ Framework.QueryAnswers o.queryValue

/-- No call of `OnControlDeviceCreate` fails of its own accord. -/
structure CreateOutcome.Ok (o : CreateOutcome) (registry : DriverProperty → Option RegistryValue) :
    Prop where
  whitelist : o.whitelist.Ok (registry .whitelistedFullImageNames)
  blacklist : o.blacklist.Ok (registry .blacklistedDeviceInstancePaths)
  active : o.active.SwitchOk
  whitelistedInverse : o.whitelistedInverse.SwitchOk

/-- The outcome in which every call succeeds. -/
def ReadOutcome.success : ReadOutcome :=
  ⟨statusSuccess, statusSuccess, statusSuccess, statusSuccess⟩

/-- The outcome in which every call succeeds. -/
def WriteOutcome.success : WriteOutcome := ⟨statusSuccess, statusSuccess⟩

/-- The creation in which every call succeeds. -/
def CreateOutcome.success : CreateOutcome :=
  ⟨.success, .success, .success, .success⟩

theorem ReadOutcome.success_ok (value : Option RegistryValue) : ReadOutcome.success.Ok value :=
  ⟨by decide, by decide, by decide, fun _ => by decide⟩

theorem CreateOutcome.success_ok (registry : DriverProperty → Option RegistryValue) :
    CreateOutcome.success.Ok registry :=
  ⟨ReadOutcome.success_ok _, ReadOutcome.success_ok _, ⟨by decide, by decide⟩,
    ⟨by decide, by decide⟩⟩

theorem getBooleanProperty_success {o : ReadOutcome} (ho : o.SwitchOk)
    (valueName : DriverProperty) (fw : Framework) :
    (NTSuccess (hidHideDriverGetBooleanProperty o valueName fw).1 ↔
        IsSwitchValue (fw.registry valueName)) ∧
      (hidHideDriverGetBooleanProperty o valueName fw).2.2.registry = fw.registry := by
  obtain ⟨hopen, hquery⟩ := ho
  rcases hreg : fw.registry valueName with _ | value | chars | size
  · simp [hidHideDriverGetBooleanProperty, Framework.wdfDriverOpenParametersRegistryKey,
      Framework.wdfRegistryQueryULong, Framework.queryStatus, hopen, hquery, hreg, IsSwitchValue]
  · have hfound := Framework.ntSuccess_foundStatus hquery
    simp [hidHideDriverGetBooleanProperty, Framework.wdfDriverOpenParametersRegistryKey,
      Framework.wdfRegistryQueryULong, Framework.wdfRegistryClose, hopen, hfound, hreg,
      IsSwitchValue]
  all_goals
    have hne : statusObjectNameNotFound ≠ statusObjectTypeMismatch := by decide
    simp [hidHideDriverGetBooleanProperty, Framework.wdfDriverOpenParametersRegistryKey,
      Framework.wdfRegistryQueryULong, Framework.queryStatus, Framework.wdfRegistryClose, hopen,
      hquery, hreg, IsSwitchValue, hne]

/-- The value of a switch that a registry value stands for. -/
def switchValue : Option RegistryValue → Bool
  | some (.regDword value) => value ≠ 0
  | _ => false

/-- A successful read of a switch yields its value. -/
theorem getBooleanProperty_value {o : ReadOutcome} {valueName : DriverProperty} {fw : Framework}
    (h : NTSuccess (hidHideDriverGetBooleanProperty o valueName fw).1) :
    (hidHideDriverGetBooleanProperty o valueName fw).2.1 = switchValue (fw.registry valueName) := by
  by_cases hopen : NTSuccess o.openKey
  · rcases hreg : fw.registry valueName with _ | value | chars | size
    case some.regDword =>
      by_cases hquery : Framework.QueryAnswers o.queryValue
      · have hfound := Framework.ntSuccess_foundStatus hquery
        simp [hidHideDriverGetBooleanProperty, Framework.wdfDriverOpenParametersRegistryKey,
          Framework.wdfRegistryQueryULong, hopen, hreg, hfound, switchValue]
      · -- the status is the error of the query, so there is no success
        have hfail : ¬NTSuccess o.queryValue := fun hok => hquery (.inl hok)
        have hnotFound : statusObjectNameNotFound ≠ o.queryValue := fun heq =>
          hquery (.inr (.inl heq.symm))
        simp [hidHideDriverGetBooleanProperty, Framework.wdfDriverOpenParametersRegistryKey,
          Framework.wdfRegistryQueryULong, Framework.foundStatus_of_not_queryAnswers hquery, hopen,
          hreg, hfail, hnotFound] at h
    all_goals
      simp only [hidHideDriverGetBooleanProperty, Framework.wdfDriverOpenParametersRegistryKey,
        Framework.wdfRegistryQueryULong, hopen, hreg, switchValue, if_true, not_true, if_false]
      split_ifs <;> rfl
  · simp [hidHideDriverGetBooleanProperty, Framework.wdfDriverOpenParametersRegistryKey, hopen] at h

/-- Reading a switch changes neither the registry nor the collections. -/
theorem getBooleanProperty_frame (o : ReadOutcome) (valueName : DriverProperty) (fw : Framework) :
    (hidHideDriverGetBooleanProperty o valueName fw).2.2.registry = fw.registry ∧
      (hidHideDriverGetBooleanProperty o valueName fw).2.2.contents = fw.contents := by
  simp only [hidHideDriverGetBooleanProperty, Framework.wdfDriverOpenParametersRegistryKey]
  split_ifs <;> exact ⟨rfl, rfl⟩

/-- Reading a switch creates no collection. -/
theorem getBooleanProperty_nextCollection (o : ReadOutcome) (valueName : DriverProperty)
    (fw : Framework) :
    (hidHideDriverGetBooleanProperty o valueName fw).2.2.nextCollection = fw.nextCollection := by
  simp only [hidHideDriverGetBooleanProperty, Framework.wdfDriverOpenParametersRegistryKey]
  split_ifs <;> rfl

/-- The creation of a collection leaves the registry alone. -/
theorem createCollection_registry (o : ReadOutcome) (valueName : DriverProperty)
    (fw : Framework) :
    (hidHideDriverCreateCollectionForMultiStringProperty o valueName fw).2.2.registry =
      fw.registry := by
  by_cases h : o.Ok (fw.registry valueName) ∧ Loadable (fw.registry valueName)
  · obtain ⟨strings, hv⟩ := Option.isSome_iff_exists.mp h.2
    exact (createCollection_success h.1 hv).2.2.registry
  · exact (createCollection_failure h).2.2.registry

/-- **The driver starts again** exactly when what is persisted can be loaded. -/
theorem onControlDeviceCreate_success_iff {o : CreateOutcome} {fw : Framework}
    (ho : o.Ok fw.registry) :
    NTSuccess (onControlDeviceCreate o fw).1 ↔ Persisted fw.registry := by
  obtain ⟨hw, hb, ha, hi⟩ := ho
  -- the framework after each of the four reads, none of which changes the registry
  obtain ⟨fw₁, hfw₁⟩ : ∃ fw₁, fw₁ = (hidHideDriverCreateCollectionForMultiStringProperty
    o.whitelist .whitelistedFullImageNames fw).2.2 := ⟨_, rfl⟩
  obtain ⟨fw₂, hfw₂⟩ : ∃ fw₂, fw₂ = (hidHideDriverCreateCollectionForMultiStringProperty
    o.blacklist .blacklistedDeviceInstancePaths fw₁).2.2 := ⟨_, rfl⟩
  obtain ⟨fw₃, hfw₃⟩ : ∃ fw₃, fw₃ =
    (hidHideDriverGetBooleanProperty o.active .active fw₂).2.2 := ⟨_, rfl⟩
  have hreg₁ : fw₁.registry = fw.registry := by rw [hfw₁, createCollection_registry]
  have hreg₂ : fw₂.registry = fw.registry := by rw [hfw₂, createCollection_registry, hreg₁]
  have hreg₃ : fw₃.registry = fw.registry := by
    rw [hfw₃, (getBooleanProperty_success ha .active fw₂).2, hreg₂]
  have hwhite : NTSuccess (hidHideDriverCreateCollectionForMultiStringProperty o.whitelist
      .whitelistedFullImageNames fw).1 ↔ Loadable (fw.registry .whitelistedFullImageNames) := by
    rw [createCollection_success_iff, and_iff_right hw]
  have hblack : NTSuccess (hidHideDriverCreateCollectionForMultiStringProperty o.blacklist
      .blacklistedDeviceInstancePaths fw₁).1 ↔
        Loadable (fw.registry .blacklistedDeviceInstancePaths) := by
    rw [createCollection_success_iff, hreg₁, and_iff_right hb]
  have hactive : NTSuccess (hidHideDriverGetBooleanProperty o.active .active fw₂).1 ↔
      IsSwitchValue (fw.registry .active) := by
    rw [(getBooleanProperty_success ha .active fw₂).1, hreg₂]
  have hinverse : NTSuccess (hidHideDriverGetBooleanProperty o.whitelistedInverse
      .whitelistedInverse fw₃).1 ↔ IsSwitchValue (fw.registry .whitelistedInverse) := by
    rw [(getBooleanProperty_success hi .whitelistedInverse fw₃).1, hreg₃]
  have hpersisted : Persisted fw.registry ↔
      Loadable (fw.registry .whitelistedFullImageNames) ∧
        Loadable (fw.registry .blacklistedDeviceInstancePaths) ∧
        IsSwitchValue (fw.registry .active) ∧
        IsSwitchValue (fw.registry .whitelistedInverse) := by
    constructor
    · exact fun h => ⟨h.list .whitelist, h.list .blacklist, h.switch .active,
        h.switch .whitelistedInverse⟩
    · rintro ⟨hw, hb, ha, hi⟩
      exact ⟨fun kind => by cases kind <;> assumption, fun kind => by cases kind <;> assumption⟩
  rw [hpersisted, ← hwhite, ← hblack, ← hactive, ← hinverse]
  simp only [onControlDeviceCreate, ← hfw₁, ← hfw₂, ← hfw₃]
  split_ifs with h₁ h₂ h₃ h₄
  · exact iff_of_true ntSuccess_statusSuccess ⟨h₁, h₂, h₃, h₄⟩
  · exact iff_of_false h₄ fun h => h₄ h.2.2.2
  · exact iff_of_false h₃ fun h => h₃ h.2.2.1
  · exact iff_of_false h₂ fun h => h₂ h.2.1
  · exact iff_of_false h₁ fun h => h₁ h.1

/-- A start writes nothing, and begins without session entries. -/
theorem onDriverCreate_frame (o : CreateOutcome) (fw : Framework) :
    (onDriverCreate o fw).2.framework.registry = fw.registry ∧
      (onDriverCreate o fw).2.context.sessionBlacklist = [] := by
  simp only [onDriverCreate, onControlDeviceCreate]
  split_ifs
  all_goals
    simp only [(getBooleanProperty_frame _ _ _).1, createCollection_registry]
    exact ⟨trivial, rfl⟩

/-- **The driver starts well formed**, with no process known. -/
theorem onDriverCreate_wellFormed {o : CreateOutcome} {fw : Framework}
    (h : NTSuccess (onDriverCreate o fw).1) : (onDriverCreate o fw).2.WellFormed := by
  simp only [onDriverCreate, onControlDeviceCreate] at h ⊢
  split_ifs at h ⊢ with h₁ h₂ h₃ h₄
  · obtain ⟨ho₁, hv₁⟩ := createCollection_success_iff.mp h₁
    obtain ⟨ho₂, hv₂⟩ := createCollection_success_iff.mp h₂
    obtain ⟨strings₁, hs₁⟩ := Option.isSome_iff_exists.mp hv₁
    obtain ⟨strings₂, hs₂⟩ := Option.isSome_iff_exists.mp hv₂
    obtain ⟨-, hvalue₁, hcreated₁⟩ := createCollection_success ho₁ hs₁
    obtain ⟨-, hvalue₂, hcreated₂⟩ := createCollection_success ho₂ hs₂
    intro kind
    -- the two collections are the last ones created
    simp only [getBooleanProperty_nextCollection, hcreated₂.nextCollection, hvalue₁, hvalue₂,
      hcreated₁.nextCollection, Option.getD_some]
    cases kind
    · exact Nat.lt_succ_of_lt (Nat.lt_succ_self _)
    · exact Nat.lt_succ_self _
  all_goals exact absurd h ‹_›

/-- **The driver starts with what is persisted**: the lists and the switches are those of the
registry. -/
theorem onDriverCreate_loads {o : CreateOutcome} {fw : Framework}
    (h : NTSuccess (onDriverCreate o fw).1) :
    (onDriverCreate o fw).2.framework.registry = fw.registry ∧
      (∀ kind : ListKind,
        decodedValue (fw.registry kind.property) = some ((onDriverCreate o fw).2.list kind)) ∧
      ∀ kind : SwitchKind,
        kind.value (onDriverCreate o fw).2.context = switchValue (fw.registry kind.property) := by
  simp only [onDriverCreate, onControlDeviceCreate] at h ⊢
  split_ifs at h ⊢ with h₁ h₂ h₃ h₄
  · obtain ⟨ho₁, hv₁⟩ := createCollection_success_iff.mp h₁
    obtain ⟨ho₂, hv₂⟩ := createCollection_success_iff.mp h₂
    obtain ⟨strings₁, hs₁⟩ := Option.isSome_iff_exists.mp hv₁
    obtain ⟨strings₂, hs₂⟩ := Option.isSome_iff_exists.mp hv₂
    obtain ⟨-, hvalue₁, hcreated₁⟩ := createCollection_success ho₁ hs₁
    obtain ⟨-, hvalue₂, hcreated₂⟩ := createCollection_success ho₂ hs₂
    have hactive := getBooleanProperty_value h₃
    have hinverse := getBooleanProperty_value h₄
    rw [hcreated₁.registry] at hs₂
    refine ⟨?_, fun kind => ?_, fun kind => ?_⟩
    · simp only [(getBooleanProperty_frame _ _ _).1, hcreated₂.registry, hcreated₁.registry]
    · cases kind
      all_goals
        simp only [Driver.list, ListKind.collection, (getBooleanProperty_frame _ _ _).2,
          hcreated₂.contents, hvalue₁, hvalue₂, hcreated₁.contents, hcreated₁.nextCollection,
          Option.getD_some]
      · -- the second collection does not touch the first
        rw [Function.update_of_ne (Nat.lt_succ_self _).ne, Function.update_self]
        exact hs₁
      · rw [Function.update_self]
        exact hs₂
    · rw [(getBooleanProperty_frame _ _ _).1, hcreated₂.registry, hcreated₁.registry] at hinverse
      rw [hcreated₂.registry, hcreated₁.registry] at hactive
      cases kind
      · exact hactive
      · exact hinverse
  all_goals exact absurd h ‹_›

/-! ### A first start -/

/-- The driver at its first start, with nothing persisted. -/
def firstDriver : Driver := (onDriverCreate .success .empty).2

end HidHide
