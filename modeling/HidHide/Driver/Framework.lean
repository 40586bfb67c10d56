import Mathlib.Data.Finset.Basic
import HidHide.ForMathlib.MultiString
import HidHide.Driver.Basic

/-!
# The driver framework

The part of the framework the driver calls for its persistent settings: the values under the
`Parameters` registry key, the registry keys that are open, and the collections of strings with
the ones among them that are alive. Handles are numbers given out in order, so a handle is never
given out twice.

Each call takes the status it comes back with as an argument, so that a statement over all
arguments is a statement over all outcomes: an error status leaves the framework as it is, a
success status (whichever it is) has the documented effect. The two query calls report what the
registry holds; `queryStatus` lets them fail with any other error instead.

Deleting a collection takes it out of the live ones and keeps its strings, so that a handle read
before the deletion still denotes the strings it denoted.
-/

namespace HidHide

/-- The values the driver keeps under its `Parameters` key, `DRIVER_PROPERTY_*`. -/
inductive DriverProperty where
  | whitelistedFullImageNames
  | blacklistedDeviceInstancePaths
  | active
  | whitelistedInverse
  deriving DecidableEq, Repr

/-- A registry value: its type with its data. -/
inductive RegistryValue where
  | regDword (value : UInt32)
  | regMultiSz (chars : List WChar)
  | regOther (sizeInBytes : ℕ)
  deriving DecidableEq, Repr

namespace RegistryValue

/-- The size of the data. -/
def sizeInBytes : RegistryValue → ℕ
  | regDword _ => 4
  | regMultiSz chars => 2 * chars.length
  | regOther sizeInBytes => sizeInBytes

/-- `REG_MULTI_SZ == valueType`. -/
def isMultiSz : RegistryValue → Bool
  | regMultiSz _ => true
  | _ => false

end RegistryValue

/-- `WDFKEY`. -/
abbrev WdfKey := ℕ

/-- `WDFCOLLECTION`. -/
abbrev WdfCollection := ℕ

/-- The registry, the open keys and the collections. -/
structure Framework where
  registry : DriverProperty → Option RegistryValue
  openKeys : Finset WdfKey
  nextKey : WdfKey
  contents : WdfCollection → List UnicodeString
  liveCollections : Finset WdfCollection
  nextCollection : WdfCollection
  /-- Keys are given out in order. -/
  lt_nextKey : ∀ k ∈ openKeys, k < nextKey
  /-- Collections are given out in order. -/
  lt_nextCollection : ∀ c ∈ liveCollections, c < nextCollection

namespace Framework

/-- Nothing is persisted, open or alive. -/
def empty : Framework where
  registry _ := none
  openKeys := ∅
  nextKey := 1
  contents _ := []
  liveCollections := ∅
  nextCollection := 1
  lt_nextKey := by simp
  lt_nextCollection := by simp

variable (fw : Framework)

theorem nextCollection_notMem : fw.nextCollection ∉ fw.liveCollections := fun h =>
  (fw.lt_nextCollection _ h).false

/-! ### Registry keys -/

/-- `WdfDriverOpenParametersRegistryKey`. -/
def wdfDriverOpenParametersRegistryKey (ntstatus : NTStatus) : NTStatus × WdfKey × Framework :=
  if NTSuccess ntstatus then
    (ntstatus, fw.nextKey,
      { fw with
        openKeys := insert fw.nextKey fw.openKeys
        nextKey := fw.nextKey + 1
        lt_nextKey := fun k hk => by
          rcases Finset.mem_insert.mp hk with rfl | hk
          · exact Nat.lt_succ_self _
          · exact Nat.lt_succ_of_lt (fw.lt_nextKey k hk) })
  else (ntstatus, 0, fw)

/-- `WdfRegistryClose`. -/
def wdfRegistryClose (wdfKey : WdfKey) : Framework :=
  { fw with
    openKeys := fw.openKeys.erase wdfKey
    lt_nextKey := fun k hk => fw.lt_nextKey k (Finset.mem_of_mem_erase hk) }

/-- `WdfRegistryAssignValue`: any value is stored, or the call fails without effect. -/
def wdfRegistryAssignValue (ntstatus : NTStatus) (valueName : DriverProperty)
    (value : RegistryValue) : NTStatus × Framework :=
  if NTSuccess ntstatus then
    (ntstatus, { fw with registry := Function.update fw.registry valueName (some value) })
  else (ntstatus, fw)

/-- The call does not fail of its own accord, and reports what the registry holds. -/
def QueryAnswers (ntstatus : NTStatus) : Prop :=
  NTSuccess ntstatus ∨ ntstatus = statusObjectNameNotFound ∨ ntstatus = statusBufferOverflow

instance : DecidablePred QueryAnswers := fun ntstatus =>
  inferInstanceAs (Decidable (NTSuccess ntstatus ∨ _ ∨ _))

/-- The status of a query: the one the registry calls for, or the error of the call. -/
def queryStatus (ntstatus reported : NTStatus) : NTStatus :=
  if QueryAnswers ntstatus then reported else ntstatus

/-- The status of a query that finds the value: as above, or another success code of the call. -/
def foundStatus (ntstatus reported : NTStatus) : NTStatus :=
  if NTSuccess ntstatus ∧ ntstatus ≠ statusSuccess then ntstatus else queryStatus ntstatus reported

theorem foundStatus_of_queryAnswers {ntstatus : NTStatus} (h : QueryAnswers ntstatus)
    (reported : NTStatus) :
    foundStatus ntstatus reported = reported ∨ NTSuccess (foundStatus ntstatus reported) := by
  rw [foundStatus]
  split_ifs with hother
  · exact .inr hother.1
  · exact .inl (if_pos h)

theorem ntSuccess_foundStatus {ntstatus : NTStatus} (h : QueryAnswers ntstatus) :
    NTSuccess (foundStatus ntstatus statusSuccess) := by
  rcases foundStatus_of_queryAnswers h statusSuccess with hfound | hfound
  · rw [hfound]
    exact ntSuccess_statusSuccess
  · exact hfound

theorem foundStatus_of_not_queryAnswers {ntstatus : NTStatus} (h : ¬QueryAnswers ntstatus)
    (reported : NTStatus) : foundStatus ntstatus reported = ntstatus := by
  rw [foundStatus, if_neg fun hother => h (.inl hother.1), queryStatus, if_neg h]

/-- `WdfRegistryQueryULong`. -/
def wdfRegistryQueryULong (ntstatus : NTStatus) (valueName : DriverProperty) : NTStatus × UInt32 :=
  match fw.registry valueName with
  | none => (queryStatus ntstatus statusObjectNameNotFound, 0)
  | some (.regDword value) => (foundStatus ntstatus statusSuccess, value)
  | some _ => (queryStatus ntstatus statusObjectTypeMismatch, 0)

/-- `WdfRegistryQueryValue` without a buffer: the size needed, and whether the type is
`REG_MULTI_SZ`. A value of any size overflows the buffer. -/
def wdfRegistryQueryValue (ntstatus : NTStatus) (valueName : DriverProperty) :
    NTStatus × ℕ × Bool :=
  match fw.registry valueName with
  | none => (queryStatus ntstatus statusObjectNameNotFound, 0, false)
  | some value =>
      (foundStatus ntstatus (if value.sizeInBytes = 0 then statusSuccess else statusBufferOverflow),
        value.sizeInBytes, value.isMultiSz)

/-! ### Collections -/

/-- `WdfCollectionCreate`. -/
def wdfCollectionCreate (ntstatus : NTStatus) : NTStatus × WdfCollection × Framework :=
  if NTSuccess ntstatus then
    (ntstatus, fw.nextCollection,
      { fw with
        contents := Function.update fw.contents fw.nextCollection []
        liveCollections := insert fw.nextCollection fw.liveCollections
        nextCollection := fw.nextCollection + 1
        lt_nextCollection := fun c hc => by
          rcases Finset.mem_insert.mp hc with rfl | hc
          · exact Nat.lt_succ_self _
          · exact Nat.lt_succ_of_lt (fw.lt_nextCollection c hc) })
  else (ntstatus, 0, fw)

/-- `WdfObjectDelete` of a collection. -/
def wdfObjectDelete (wdfCollection : WdfCollection) : Framework :=
  { fw with
    liveCollections := fw.liveCollections.erase wdfCollection
    lt_nextCollection := fun c hc => fw.lt_nextCollection c (Finset.mem_of_mem_erase hc) }

/-- `WdfRegistryQueryMultiString`: the strings before the first empty one are added to the
collection. A value that does not end in two terminators is refused. -/
def wdfRegistryQueryMultiString (ntstatus : NTStatus) (valueName : DriverProperty)
    (wdfCollection : WdfCollection) : NTStatus × Framework :=
  if ¬NTSuccess ntstatus then (ntstatus, fw)
  else
    match fw.registry valueName with
    | some (.regMultiSz chars) =>
        if MultiString.EndsInTwo nul chars then
          (ntstatus,
            { fw with
              contents := Function.update fw.contents wdfCollection
                (fw.contents wdfCollection ++ MultiString.decode nul chars) })
        else (statusObjectTypeMismatch, fw)
    | some _ => (statusObjectTypeMismatch, fw)
    | none => (statusObjectNameNotFound, fw)

end Framework

end HidHide
