import HidHide.Driver.Framework

/-!
# Persistent properties

The property functions of `Config.c`, with the framework as an explicit state. Each call into
the framework comes back with a status of its own, so the functions take these statuses in a
record: `WriteOutcome` for the functions that assign a value and `ReadOutcome` for those that
query one.

A multi-string property reads back as `decodedValue` says, when it can be read back at all
(`Loadable`): a missing value and a value of at most two characters are the empty list, a longer
one has to end in two terminators. `createCollection_success` and `createCollection_failure` say
what `HidHideDriverCreateCollectionForMultiStringProperty` does in the two cases; nothing else
about it is used later.
-/

namespace HidHide

open Framework

/-- What the calls of a function that assigns a property come back with. -/
structure WriteOutcome where
  openKey : NTStatus
  assignValue : NTStatus

/-- What the calls of a function that queries a property come back with. -/
structure ReadOutcome where
  openKey : NTStatus
  collectionCreate : NTStatus
  queryValue : NTStatus
  queryMultiString : NTStatus

/-! ### The functions of `Config.c` -/

/-- `HidHideDriverGetBooleanProperty`. -/
def hidHideDriverGetBooleanProperty (o : ReadOutcome) (valueName : DriverProperty)
    (fw : Framework) : NTStatus × Bool × Framework :=
  let (ntstatus, wdfKey, fw) := fw.wdfDriverOpenParametersRegistryKey o.openKey
  if ¬NTSuccess ntstatus then (ntstatus, false, fw)
  else
    let (ntstatus, unsignedLong) := fw.wdfRegistryQueryULong o.queryValue valueName
    if ¬NTSuccess ntstatus then
      -- a missing value is the default; the key is not closed on this path
      if statusObjectNameNotFound = ntstatus then (statusProcessNotInJob, false, fw)
      else (ntstatus, false, fw.wdfRegistryClose wdfKey)
    else (statusProcessInJob, unsignedLong ≠ 0, fw.wdfRegistryClose wdfKey)

/-- The functions that assign a property: they differ in the value. -/
def assignProperty (o : WriteOutcome) (valueName : DriverProperty) (value : RegistryValue)
    (fw : Framework) : NTStatus × Framework :=
  let (ntstatus, wdfKey, fw) := fw.wdfDriverOpenParametersRegistryKey o.openKey
  if ¬NTSuccess ntstatus then (ntstatus, fw)
  else
    let (ntstatus, fw) := fw.wdfRegistryAssignValue o.assignValue valueName value
    if ¬NTSuccess ntstatus then (ntstatus, fw.wdfRegistryClose wdfKey)
    else (statusSuccess, fw.wdfRegistryClose wdfKey)

/-- `HidHideDriverSetBooleanProperty`. -/
def hidHideDriverSetBooleanProperty (o : WriteOutcome) (valueName : DriverProperty)
    (value : Bool) (fw : Framework) : NTStatus × Framework :=
  assignProperty o valueName (.regDword (if value then 1 else 0)) fw

/-- The characters that `valueInCharacters * sizeof(WCHAR)`, converted to a `ULONG`, covers. -/
def storedChars (value : List WChar) : List WChar := value.take (2 * value.length % 2 ^ 32 / 2)

/-- `HidHideDriverSetMultiStringProperty`. -/
def hidHideDriverSetMultiStringProperty (o : WriteOutcome) (valueName : DriverProperty)
    (value : List WChar) (fw : Framework) : NTStatus × Framework :=
  assignProperty o valueName (.regMultiSz (storedChars value)) fw

/-- The part of `HidHideDriverCreateCollectionForMultiStringProperty` after the collection
`value` has been created: it is filled, or deleted again. -/
def fillCollection (o : ReadOutcome) (valueName : DriverProperty) (wdfKey : WdfKey)
    (value : WdfCollection) (fw : Framework) : NTStatus × Framework :=
  let (ntstatus, sizeNeededInBytes, isMultiSz) := fw.wdfRegistryQueryValue o.queryValue valueName
  let ntstatus := if statusBufferOverflow = ntstatus then statusSuccess else ntstatus
  if ¬NTSuccess ntstatus then
    let fw := fw.wdfRegistryClose wdfKey
    -- a missing value is the empty set
    if statusObjectNameNotFound = ntstatus then (statusProcessNotInJob, fw)
    else (ntstatus, fw.wdfObjectDelete value)
  else if isMultiSz = false then
    (statusObjectTypeMismatch, (fw.wdfRegistryClose wdfKey).wdfObjectDelete value)
  -- two terminators or less are the empty set, without a look at them
  else if sizeNeededInBytes ≤ 4 then (statusProcessNotInJob, fw.wdfRegistryClose wdfKey)
  else
    let (ntstatus, fw) := fw.wdfRegistryQueryMultiString o.queryMultiString valueName value
    if ¬NTSuccess ntstatus then (ntstatus, (fw.wdfRegistryClose wdfKey).wdfObjectDelete value)
    else (statusProcessInJob, fw.wdfRegistryClose wdfKey)

/-- `HidHideDriverCreateCollectionForMultiStringProperty`. The second component is what the call
writes to its output argument: a handle as soon as the collection has been created, also when it
is deleted again. -/
def hidHideDriverCreateCollectionForMultiStringProperty (o : ReadOutcome)
    (valueName : DriverProperty) (fw : Framework) : NTStatus × Option WdfCollection × Framework :=
  let (ntstatus, wdfKey, fw) := fw.wdfDriverOpenParametersRegistryKey o.openKey
  if ¬NTSuccess ntstatus then (ntstatus, none, fw)
  else
    let (ntstatus, value, fw) := fw.wdfCollectionCreate o.collectionCreate
    -- the key is not closed on this path
    if ¬NTSuccess ntstatus then (ntstatus, none, fw)
    else
      let (ntstatus, fw) := fillCollection o valueName wdfKey value fw
      (ntstatus, some value, fw)

/-! ### Assigning a property -/

/-- All calls of the function succeed. -/
def WriteOutcome.Ok (o : WriteOutcome) : Prop := NTSuccess o.openKey ∧ NTSuccess o.assignValue

instance : DecidablePred WriteOutcome.Ok := fun o =>
  inferInstanceAs (Decidable (NTSuccess o.openKey ∧ NTSuccess o.assignValue))

/-- The function succeeds exactly when its calls do, and then the value is the registry's. -/
theorem assignProperty_success (o : WriteOutcome) (valueName : DriverProperty)
    (value : RegistryValue) (fw : Framework) :
    (NTSuccess (assignProperty o valueName value fw).1 ↔ o.Ok) ∧
      (assignProperty o valueName value fw).2.registry =
        if o.Ok then Function.update fw.registry valueName (some value) else fw.registry := by
  by_cases hopen : NTSuccess o.openKey
  · by_cases hassign : NTSuccess o.assignValue
    · simp [assignProperty, wdfDriverOpenParametersRegistryKey, wdfRegistryAssignValue,
        wdfRegistryClose, WriteOutcome.Ok, hopen, hassign]
    · simp [assignProperty, wdfDriverOpenParametersRegistryKey, wdfRegistryAssignValue,
        wdfRegistryClose, WriteOutcome.Ok, hopen, hassign]
  · simp [assignProperty, wdfDriverOpenParametersRegistryKey, WriteOutcome.Ok, hopen]

/-- Assigning a property leaves the collections alone. -/
theorem assignProperty_collections (o : WriteOutcome) (valueName : DriverProperty)
    (value : RegistryValue) (fw : Framework) :
    (assignProperty o valueName value fw).2.contents = fw.contents ∧
      (assignProperty o valueName value fw).2.liveCollections = fw.liveCollections ∧
      (assignProperty o valueName value fw).2.nextCollection = fw.nextCollection := by
  simp only [assignProperty, wdfDriverOpenParametersRegistryKey, wdfRegistryAssignValue]
  split_ifs <;> exact ⟨rfl, rfl, rfl⟩

/-- The steps of a function that assigns a property. -/
def WriteOutcome.steps (o : WriteOutcome) : List NTStatus := [o.openKey, o.assignValue]

/-- Assigning a property fails with the error of the step that failed. -/
theorem assignProperty_status (o : WriteOutcome) (valueName : DriverProperty)
    (value : RegistryValue) (fw : Framework) :
    (assignProperty o valueName value fw).1 = firstError o.steps := by
  by_cases hopen : NTSuccess o.openKey
  · by_cases hassign : NTSuccess o.assignValue
    · simp [assignProperty, WriteOutcome.steps, wdfDriverOpenParametersRegistryKey,
        wdfRegistryAssignValue, hopen, hassign]
    · simp [assignProperty, WriteOutcome.steps, wdfDriverOpenParametersRegistryKey,
        wdfRegistryAssignValue, hopen, hassign]
  · simp [assignProperty, WriteOutcome.steps, wdfDriverOpenParametersRegistryKey, hopen]

theorem storedChars_eq_self {value : List WChar} (h : 2 * value.length < 2 ^ 32) :
    storedChars value = value := by
  rw [storedChars, Nat.mod_eq_of_lt h, Nat.mul_div_cancel_left _ (by decide), List.take_length]

/-! ### Reading a multi-string property -/

/-- The list a property value denotes, if it can be loaded. -/
def decodedValue : Option RegistryValue → Option (List UnicodeString)
  | none => some []
  | some (.regMultiSz chars) =>
      if 2 * chars.length ≤ 4 then some []
      else if MultiString.EndsInTwo nul chars then some (MultiString.decode nul chars) else none
  | some _ => none

/-- The value can be loaded by
`HidHideDriverCreateCollectionForMultiStringProperty`. -/
def Loadable (value : Option RegistryValue) : Prop := (decodedValue value).isSome = true

instance : DecidablePred Loadable := fun value =>
  inferInstanceAs (Decidable ((decodedValue value).isSome = true))

theorem loadable_regMultiSz_iff {chars : List WChar} :
    Loadable (some (.regMultiSz chars)) ↔
      2 * chars.length ≤ 4 ∨ MultiString.EndsInTwo nul chars := by
  rw [Loadable, decodedValue]
  split_ifs with hsize hends
  · simp [hsize]
  · simp [hends]
  · simp [hsize, hends]

/-- **A multi-string that is read back** yields its strings before the first empty one. -/
theorem decodedValue_encode {strings : List UnicodeString} (h : ∀ string ∈ strings, nul ∉ string) :
    decodedValue (some (.regMultiSz (MultiString.encode nul strings))) =
      some (strings.takeWhile (· ≠ [])) := by
  rw [decodedValue]
  by_cases hsize : 2 * (MultiString.encode nul strings).length ≤ 4
  · -- the driver does not look at these, and there is no string to find
    have hlength : (MultiString.encode nul strings).length ≤ 2 := by omega
    rw [if_pos hsize, MultiString.takeWhile_eq_nil_of_length_encode_le hlength]
  · have hne : strings ≠ [] := by
      rintro rfl
      exact hsize (by decide)
    rw [if_neg hsize, if_pos (MultiString.endsInTwo_encode hne), MultiString.decode_encode h]

/-- The strings that are read back are no longer than the value. -/
theorem sum_length_of_decodedValue {chars : List WChar} {strings : List UnicodeString}
    (h : decodedValue (some (.regMultiSz chars)) = some strings) :
    (strings.map (·.length + 1)).sum ≤ chars.length + 1 := by
  rw [decodedValue] at h
  split_ifs at h
  · obtain rfl := Option.some.inj h
    exact Nat.zero_le _
  · obtain rfl := Option.some.inj h
    exact MultiString.sum_length_decode_le chars

/-- `WdfRegistryQueryMultiString` is reached: the value takes more than two characters. -/
def NeedsQuery : Option RegistryValue → Prop
  | some (.regMultiSz chars) => 4 < 2 * chars.length
  | _ => False

instance : DecidablePred NeedsQuery
  | some (.regMultiSz chars) => inferInstanceAs (Decidable (4 < 2 * chars.length))
  | some (.regDword _) => .isFalse id
  | some (.regOther _) => .isFalse id
  | none => .isFalse id

/-- No call that the function makes on this value fails of its own accord. -/
def ReadOutcome.Ok (o : ReadOutcome) (value : Option RegistryValue) : Prop :=
  NTSuccess o.openKey ∧ NTSuccess o.collectionCreate ∧ QueryAnswers o.queryValue ∧
    (NeedsQuery value → NTSuccess o.queryMultiString)

instance (o : ReadOutcome) : DecidablePred o.Ok := fun _ =>
  inferInstanceAs (Decidable (_ ∧ _ ∧ _ ∧ _))

/-- The collection `c` has been created and filled with `strings`. -/
structure Framework.Created (fw fw' : Framework) (c : WdfCollection)
    (strings : List UnicodeString) : Prop where
  registry : fw'.registry = fw.registry
  liveCollections : fw'.liveCollections = insert c fw.liveCollections
  contents : fw'.contents = Function.update fw.contents c strings
  nextCollection : fw'.nextCollection = c + 1

/-- No collection has been created: what is left of one is below `nextCollection`. -/
structure Framework.NotCreated (fw fw' : Framework) : Prop where
  registry : fw'.registry = fw.registry
  liveCollections : fw'.liveCollections = fw.liveCollections
  contents : ∀ c ≠ fw.nextCollection, fw'.contents c = fw.contents c
  le_nextCollection : fw.nextCollection ≤ fw'.nextCollection

section CreateCollection

variable {o : ReadOutcome} {valueName : DriverProperty} {fw : Framework} {wdfKey : WdfKey}
  {value : WdfCollection}

/-- The size query of a present value succeeds, once the overflow has been taken for a
success: what is left are the type and the size. -/
private theorem fillCollection_some (hquery : QueryAnswers o.queryValue) {v : RegistryValue}
    (hreg : fw.registry valueName = some v) :
    fillCollection o valueName wdfKey value fw =
      if v.isMultiSz = false then
        (statusObjectTypeMismatch, (fw.wdfRegistryClose wdfKey).wdfObjectDelete value)
      else if v.sizeInBytes ≤ 4 then (statusProcessNotInJob, fw.wdfRegistryClose wdfKey)
      else
        let (ntstatus, fw) := fw.wdfRegistryQueryMultiString o.queryMultiString valueName value
        if ¬NTSuccess ntstatus then
          (ntstatus, (fw.wdfRegistryClose wdfKey).wdfObjectDelete value)
        else (statusProcessInJob, fw.wdfRegistryClose wdfKey) := by
  -- the status of the query, whichever success code or overflow it is
  obtain ⟨ntstatus, hstatus⟩ : ∃ ntstatus, ntstatus = foundStatus o.queryValue
    (if v.sizeInBytes = 0 then statusSuccess else statusBufferOverflow) := ⟨_, rfl⟩
  have hsuccess :
      NTSuccess (if statusBufferOverflow = ntstatus then statusSuccess else ntstatus) := by
    split_ifs with hover
    · exact ntSuccess_statusSuccess
    · rcases foundStatus_of_queryAnswers hquery
        (if v.sizeInBytes = 0 then statusSuccess else statusBufferOverflow) with h | h
      · rw [← hstatus] at h
        split_ifs at h
        · rw [h]
          exact ntSuccess_statusSuccess
        · exact absurd h.symm hover
      · rwa [hstatus]
  rw [fillCollection, wdfRegistryQueryValue, hreg]
  simp only [← hstatus, hsuccess, not_true, if_false]

/-- A value that can be loaded fills the collection. -/
private theorem fillCollection_success {strings : List UnicodeString}
    (hempty : fw.contents value = []) (hquery : QueryAnswers o.queryValue)
    (hmulti : NeedsQuery (fw.registry valueName) → NTSuccess o.queryMultiString)
    (hv : decodedValue (fw.registry valueName) = some strings) :
    let r := fillCollection o valueName wdfKey value fw
    NTSuccess r.1 ∧ r.2.registry = fw.registry ∧ r.2.liveCollections = fw.liveCollections ∧
      r.2.contents = Function.update fw.contents value strings ∧
      r.2.nextCollection = fw.nextCollection := by
  have hsame : Function.update fw.contents value [] = fw.contents := by
    rw [← hempty, Function.update_eq_self]
  rcases hreg : fw.registry valueName with _ | dword | chars | size
  · obtain rfl : [] = strings := by simpa [hreg, decodedValue] using hv
    have hne : statusBufferOverflow ≠ statusObjectNameNotFound := by decide
    simp [fillCollection, wdfRegistryQueryValue, hreg, queryStatus, hquery, hne, hsame,
      wdfRegistryClose]
  · simp [hreg, decodedValue] at hv
  · rw [hreg] at hv hmulti
    rw [decodedValue] at hv
    rw [fillCollection_some hquery hreg]
    simp only [RegistryValue.sizeInBytes, RegistryValue.isMultiSz, Bool.true_eq_false, if_false]
    split_ifs at hv with hsize hends
    · obtain rfl : [] = strings := by simpa using hv
      simp [hsize, hsame, wdfRegistryClose]
    · have hmulti : NTSuccess o.queryMultiString := hmulti (not_le.mp hsize)
      obtain rfl : MultiString.decode nul chars = strings := by simpa using hv
      simp [hsize, wdfRegistryQueryMultiString, hmulti, hreg, hends, hempty, wdfRegistryClose]
  · simp [hreg, decodedValue] at hv

/-- Any other value, and any failing call, leaves the collection deleted. -/
private theorem fillCollection_failure
    (h : ¬(QueryAnswers o.queryValue ∧
      (NeedsQuery (fw.registry valueName) → NTSuccess o.queryMultiString) ∧
      Loadable (fw.registry valueName))) :
    let r := fillCollection o valueName wdfKey value fw
    ¬NTSuccess r.1 ∧ r.2.registry = fw.registry ∧
      r.2.liveCollections = fw.liveCollections.erase value ∧
      (∀ c ≠ value, r.2.contents c = fw.contents c) ∧
      r.2.nextCollection = fw.nextCollection := by
  by_cases hquery : QueryAnswers o.queryValue
  · rcases hreg : fw.registry valueName with _ | dword | chars | size
    · exact absurd ⟨hquery, by simp [hreg, NeedsQuery], by simp [hreg, Loadable, decodedValue]⟩ h
    · have hkind : (RegistryValue.regDword dword).isMultiSz = false := rfl
      rw [fillCollection_some hquery hreg, if_pos hkind]
      exact ⟨not_ntSuccess_statusObjectTypeMismatch, rfl, rfl, fun _ _ => rfl, rfl⟩
    · rw [hreg, loadable_regMultiSz_iff] at h
      have hsize : ¬(RegistryValue.regMultiSz chars).sizeInBytes ≤ 4 := fun hsize =>
        h ⟨hquery, fun hneeds => absurd hneeds (not_lt.mpr hsize), .inl hsize⟩
      have hkind : ¬(RegistryValue.regMultiSz chars).isMultiSz = false := by
        simp [RegistryValue.isMultiSz]
      rw [fillCollection_some hquery hreg, if_neg hkind, if_neg hsize, wdfRegistryQueryMultiString]
      by_cases hmulti : NTSuccess o.queryMultiString
      · have hends : ¬MultiString.EndsInTwo nul chars := fun hends =>
          h ⟨hquery, fun _ => hmulti, .inr hends⟩
        simp [hmulti, hreg, hends, wdfRegistryClose, wdfObjectDelete]
      · simp [hmulti, wdfRegistryClose, wdfObjectDelete]
    · have hkind : (RegistryValue.regOther size).isMultiSz = false := rfl
      rw [fillCollection_some hquery hreg, if_pos hkind]
      exact ⟨not_ntSuccess_statusObjectTypeMismatch, rfl, rfl, fun _ _ => rfl, rfl⟩
  · -- the size query fails, with an error that is neither mapped nor taken for a missing value
    have hstatus : ∀ reported, queryStatus o.queryValue reported = o.queryValue := fun _ =>
      if_neg hquery
    have hfound := foundStatus_of_not_queryAnswers hquery
    have hover : statusBufferOverflow ≠ o.queryValue := fun h => hquery (.inr (.inr h.symm))
    have hnotFound : statusObjectNameNotFound ≠ o.queryValue := fun h =>
      hquery (.inr (.inl h.symm))
    have hfail : ¬NTSuccess o.queryValue := fun h => hquery (.inl h)
    rcases hreg : fw.registry valueName with _ | v
    · simp [fillCollection, wdfRegistryQueryValue, hreg, hstatus, hover, hnotFound, hfail,
        wdfRegistryClose, wdfObjectDelete]
    · simp [fillCollection, wdfRegistryQueryValue, hreg, hfound, hover, hnotFound, hfail,
        wdfRegistryClose, wdfObjectDelete]

/-- The collection is filled once the key is open and the collection created. -/
private theorem createCollection_eq (hopen : NTSuccess o.openKey)
    (hcreate : NTSuccess o.collectionCreate) :
    ∃ fw₁ : Framework, fw.Created fw₁ fw.nextCollection [] ∧
      hidHideDriverCreateCollectionForMultiStringProperty o valueName fw =
        ((fillCollection o valueName fw.nextKey fw.nextCollection fw₁).1, some fw.nextCollection,
          (fillCollection o valueName fw.nextKey fw.nextCollection fw₁).2) := by
  let fw₁ := ((fw.wdfDriverOpenParametersRegistryKey o.openKey).2.2.wdfCollectionCreate
    o.collectionCreate).2.2
  refine ⟨fw₁, ⟨?_, ?_, ?_, ?_⟩, ?_⟩
  all_goals simp [fw₁, hidHideDriverCreateCollectionForMultiStringProperty,
    wdfDriverOpenParametersRegistryKey, wdfCollectionCreate, hopen, hcreate]

/-- **A successful read** creates the collection of the list that the value denotes. -/
theorem createCollection_success {strings : List UnicodeString}
    (ho : o.Ok (fw.registry valueName))
    (hv : decodedValue (fw.registry valueName) = some strings) :
    let r := hidHideDriverCreateCollectionForMultiStringProperty o valueName fw
    NTSuccess r.1 ∧ r.2.1 = some fw.nextCollection ∧
      fw.Created r.2.2 fw.nextCollection strings := by
  obtain ⟨hopen, hcreate, hquery, hmulti⟩ := ho
  obtain ⟨fw₁, hfw₁, heq⟩ := createCollection_eq hopen hcreate
  have hempty : fw₁.contents fw.nextCollection = [] := by rw [hfw₁.contents, Function.update_self]
  rw [← hfw₁.registry] at hmulti hv
  obtain ⟨hstatus, hregistry, hlive, hcontents, hnext⟩ :=
    fillCollection_success hempty hquery hmulti hv
  rw [heq]
  refine ⟨hstatus, rfl, hregistry.trans hfw₁.registry, hlive.trans hfw₁.liveCollections, ?_,
    hnext.trans hfw₁.nextCollection⟩
  rw [hcontents, hfw₁.contents, Function.update_idem]

/-- **A failed read** creates nothing. -/
theorem createCollection_failure
    (h : ¬(o.Ok (fw.registry valueName) ∧ Loadable (fw.registry valueName))) :
    let r := hidHideDriverCreateCollectionForMultiStringProperty o valueName fw
    ¬NTSuccess r.1 ∧ (∀ c, r.2.1 = some c → c = fw.nextCollection) ∧ fw.NotCreated r.2.2 := by
  by_cases hopen : NTSuccess o.openKey
  · by_cases hcreate : NTSuccess o.collectionCreate
    · obtain ⟨fw₁, hfw₁, heq⟩ := createCollection_eq hopen hcreate
      have hfill : ¬(QueryAnswers o.queryValue ∧
          (NeedsQuery (fw₁.registry valueName) → NTSuccess o.queryMultiString) ∧
          Loadable (fw₁.registry valueName)) := by
        rw [hfw₁.registry]
        rintro ⟨hquery, hmulti, hv⟩
        exact h ⟨⟨hopen, hcreate, hquery, hmulti⟩, hv⟩
      obtain ⟨hstatus, hregistry, hlive, hcontents, hnext⟩ := fillCollection_failure hfill
      rw [heq]
      refine ⟨hstatus, fun c hc => (Option.some.inj hc).symm, hregistry.trans hfw₁.registry, ?_,
        fun c hc => ?_, ?_⟩
      · rw [hlive, hfw₁.liveCollections, Finset.erase_insert fw.nextCollection_notMem]
      · rw [hcontents c hc, hfw₁.contents, Function.update_of_ne hc]
      · rw [hnext, hfw₁.nextCollection]
        exact Nat.le_succ _
    · simp only [hidHideDriverCreateCollectionForMultiStringProperty,
        wdfDriverOpenParametersRegistryKey, wdfCollectionCreate, hopen, hcreate, if_true, if_false,
        not_true, not_false_eq_true]
      exact ⟨trivial, fun c hc => by simp at hc, rfl, rfl, fun _ _ => rfl, le_rfl⟩
  · simp only [hidHideDriverCreateCollectionForMultiStringProperty,
      wdfDriverOpenParametersRegistryKey, hopen, if_true, if_false, not_false_eq_true]
    exact ⟨trivial, fun c hc => by simp at hc, rfl, rfl, fun _ _ => rfl, le_rfl⟩

/-- The read succeeds exactly when its calls do and the value can be loaded. -/
theorem createCollection_success_iff :
    NTSuccess (hidHideDriverCreateCollectionForMultiStringProperty o valueName fw).1 ↔
      o.Ok (fw.registry valueName) ∧ Loadable (fw.registry valueName) := by
  by_cases h : o.Ok (fw.registry valueName) ∧ Loadable (fw.registry valueName)
  · obtain ⟨strings, hv⟩ := Option.isSome_iff_exists.mp h.2
    exact iff_of_true (createCollection_success h.1 hv).1 h
  · exact iff_of_false (createCollection_failure h).1 h

/-- The steps of reading a multi-string property once its size is known: the type, and for more
than two characters the query and its two terminators. -/
def valueSteps (o : ReadOutcome) : Option RegistryValue → List NTStatus
  | none => []
  | some (.regMultiSz chars) =>
      if 2 * chars.length ≤ 4 then []
      else [o.queryMultiString,
        if MultiString.EndsInTwo nul chars then statusSuccess else statusObjectTypeMismatch]
  | some _ => [statusObjectTypeMismatch]

/-- The steps of `HidHideDriverCreateCollectionForMultiStringProperty`. A missing value and an
overflow are answers to the query of the size. -/
def ReadOutcome.steps (o : ReadOutcome) (v : Option RegistryValue) : List NTStatus :=
  o.openKey :: o.collectionCreate ::
    (if QueryAnswers o.queryValue then statusSuccess else o.queryValue) :: valueSteps o v

/-- The collection is filled, or the first error is reported. -/
private theorem fillCollection_status :
    let ntstatus := (fillCollection o valueName wdfKey value fw).1
    (if NTSuccess ntstatus then statusSuccess else ntstatus) =
      firstError ((if QueryAnswers o.queryValue then statusSuccess else o.queryValue) ::
        valueSteps o (fw.registry valueName)) := by
  by_cases hquery : QueryAnswers o.queryValue
  · rw [if_pos hquery, firstError_cons_of_success ntSuccess_statusSuccess]
    rcases hreg : fw.registry valueName with _ | dword | chars | size
    · have hne : statusBufferOverflow ≠ statusObjectNameNotFound := by decide
      simp [fillCollection, wdfRegistryQueryValue, hreg, queryStatus, hquery, hne, valueSteps]
    · simp [fillCollection_some hquery hreg, RegistryValue.isMultiSz, valueSteps]
    · rw [fillCollection_some hquery hreg]
      simp only [RegistryValue.sizeInBytes, RegistryValue.isMultiSz, Bool.true_eq_false, if_false,
        valueSteps]
      by_cases hsize : 2 * chars.length ≤ 4
      · simp [hsize]
      · by_cases hmulti : NTSuccess o.queryMultiString
        · by_cases hends : MultiString.EndsInTwo nul chars
          · simp [hsize, hmulti, hends, hreg, wdfRegistryQueryMultiString]
          · simp [hsize, hmulti, hends, hreg, wdfRegistryQueryMultiString]
        · simp [hsize, hmulti, wdfRegistryQueryMultiString]
    · simp [fillCollection_some hquery hreg, RegistryValue.isMultiSz, valueSteps]
  · -- the error of the query is neither an overflow nor a missing value
    have hfail : ¬NTSuccess o.queryValue := fun h => hquery (.inl h)
    have hover : statusBufferOverflow ≠ o.queryValue := fun h => hquery (.inr (.inr h.symm))
    have hnotFound : statusObjectNameNotFound ≠ o.queryValue := fun h =>
      hquery (.inr (.inl h.symm))
    rw [if_neg hquery, firstError_cons_of_error hfail]
    rcases hreg : fw.registry valueName with _ | v
    · simp [fillCollection, wdfRegistryQueryValue, hreg, queryStatus, hquery, hover, hnotFound,
        hfail]
    · simp [fillCollection, wdfRegistryQueryValue, hreg, foundStatus_of_not_queryAnswers hquery,
        hover, hnotFound, hfail]

/-- **Reading a multi-string property fails with the error of the step that failed.** -/
theorem createCollection_status :
    let ntstatus := (hidHideDriverCreateCollectionForMultiStringProperty o valueName fw).1
    (if NTSuccess ntstatus then statusSuccess else ntstatus) =
      firstError (o.steps (fw.registry valueName)) := by
  by_cases hopen : NTSuccess o.openKey
  · by_cases hcreate : NTSuccess o.collectionCreate
    · obtain ⟨fw₁, hfw₁, heq⟩ := @createCollection_eq o valueName fw hopen hcreate
      rw [heq, ReadOutcome.steps, firstError_cons_of_success hopen,
        firstError_cons_of_success hcreate, ← hfw₁.registry]
      exact fillCollection_status
    · simp [hidHideDriverCreateCollectionForMultiStringProperty, ReadOutcome.steps,
        wdfDriverOpenParametersRegistryKey, wdfCollectionCreate, hopen, hcreate]
  · simp [hidHideDriverCreateCollectionForMultiStringProperty, ReadOutcome.steps,
      wdfDriverOpenParametersRegistryKey, hopen]

end CreateCollection

end HidHide
