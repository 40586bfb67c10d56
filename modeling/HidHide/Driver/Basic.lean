import Mathlib.Data.List.TakeWhile
import Mathlib.Order.Defs.LinearOrder

/-!
# Kernel types

The kernel's scalar types and the handful of runtime library facts the driver relies on:
status codes with `NT_SUCCESS`, wide characters and `UNICODE_STRING`s, the case-insensitive
string comparison, and the conversion from a process handle to a process id.

The case mapping `upcase` of `RtlCompareUnicodeString` is a table of the operating system. It
is a parameter wherever names are compared, and nothing is assumed of it.
-/

namespace HidHide

/-! ### Status codes -/

/-- A kernel status code. -/
abbrev NTStatus := UInt32

/-- `NT_SUCCESS`: the status, read as a signed number, is not negative. -/
def NTSuccess (ntstatus : NTStatus) : Prop := ntstatus < 0x80000000

instance : DecidablePred NTSuccess := fun ntstatus =>
  inferInstanceAs (Decidable (ntstatus < 0x80000000))

def statusSuccess : NTStatus := 0x00000000
def statusProcessNotInJob : NTStatus := 0x00000123
def statusProcessInJob : NTStatus := 0x00000124
def statusBufferOverflow : NTStatus := 0x80000005
def statusInvalidParameter : NTStatus := 0xC000000D
def statusNoMemory : NTStatus := 0xC0000017
def statusAccessDenied : NTStatus := 0xC0000022
def statusBufferTooSmall : NTStatus := 0xC0000023
def statusObjectTypeMismatch : NTStatus := 0xC0000024
def statusObjectNameNotFound : NTStatus := 0xC0000034
def statusInsufficientResources : NTStatus := 0xC000009A
def statusAlreadyInitialized : NTStatus := 0xC0000510

@[simp] theorem ntSuccess_statusSuccess : NTSuccess statusSuccess := by decide
@[simp] theorem ntSuccess_statusProcessNotInJob : NTSuccess statusProcessNotInJob := by decide
@[simp] theorem ntSuccess_statusProcessInJob : NTSuccess statusProcessInJob := by decide
@[simp] theorem not_ntSuccess_statusBufferOverflow : ¬NTSuccess statusBufferOverflow := by decide
@[simp] theorem not_ntSuccess_statusInvalidParameter : ¬NTSuccess statusInvalidParameter := by
  decide
@[simp] theorem not_ntSuccess_statusNoMemory : ¬NTSuccess statusNoMemory := by decide
@[simp] theorem not_ntSuccess_statusBufferTooSmall : ¬NTSuccess statusBufferTooSmall := by decide
@[simp] theorem not_ntSuccess_statusObjectTypeMismatch :
    ¬NTSuccess statusObjectTypeMismatch := by decide
@[simp] theorem not_ntSuccess_statusObjectNameNotFound :
    ¬NTSuccess statusObjectNameNotFound := by decide
@[simp] theorem not_ntSuccess_statusInsufficientResources :
    ¬NTSuccess statusInsufficientResources := by decide
@[simp] theorem not_ntSuccess_statusAlreadyInitialized :
    ¬NTSuccess statusAlreadyInitialized := by decide

/-- The outcome of a sequence of calls that ends at the first error: that error, or
`STATUS_SUCCESS` when each of them succeeds, with whichever success code. -/
def firstError (steps : List NTStatus) : NTStatus :=
  (steps.find? fun ntstatus => ¬NTSuccess ntstatus).getD statusSuccess

@[simp] theorem firstError_nil : firstError [] = statusSuccess := rfl

theorem firstError_cons (ntstatus : NTStatus) (steps : List NTStatus) :
    firstError (ntstatus :: steps) = if NTSuccess ntstatus then firstError steps else ntstatus := by
  rw [firstError, List.find?_cons]
  by_cases h : NTSuccess ntstatus
  · rw [if_pos h]
    simp [h, firstError]
  · rw [if_neg h]
    simp [h]

@[simp] theorem firstError_cons_of_success {ntstatus : NTStatus} (h : NTSuccess ntstatus)
    (steps : List NTStatus) : firstError (ntstatus :: steps) = firstError steps := by
  rw [firstError_cons, if_pos h]

@[simp] theorem firstError_cons_of_error {ntstatus : NTStatus} (h : ¬NTSuccess ntstatus)
    (steps : List NTStatus) : firstError (ntstatus :: steps) = ntstatus := by
  rw [firstError_cons, if_neg h]

theorem ntSuccess_firstError_iff {steps : List NTStatus} :
    NTSuccess (firstError steps) ↔ ∀ ntstatus ∈ steps, NTSuccess ntstatus := by
  induction steps with
  | nil => simp
  | cons ntstatus steps ih =>
    by_cases h : NTSuccess ntstatus
    · simp [h, ih]
    · simp [h]

/-- Without an error the outcome is `STATUS_SUCCESS`, whichever success codes there were. -/
theorem firstError_eq_statusSuccess {steps : List NTStatus} (h : NTSuccess (firstError steps)) :
    firstError steps = statusSuccess := by
  have hnone : (steps.find? fun ntstatus => ¬NTSuccess ntstatus) = none := by
    rw [List.find?_eq_none]
    intro ntstatus hmem
    simpa using ntSuccess_firstError_iff.mp h ntstatus hmem
  rw [firstError, hnone, Option.getD_none]

/-- A status whose success codes have been replaced by `STATUS_SUCCESS`. -/
theorem ntSuccess_ite_iff {ntstatus : NTStatus} :
    NTSuccess (if NTSuccess ntstatus then statusSuccess else ntstatus) ↔ NTSuccess ntstatus := by
  split_ifs with h
  · exact iff_of_true ntSuccess_statusSuccess h
  · exact Iff.rfl

theorem ite_firstError (steps : List NTStatus) :
    (if NTSuccess (firstError steps) then statusSuccess else firstError steps) =
      firstError steps := by
  split_ifs with h
  · exact (firstError_eq_statusSuccess h).symm
  · rfl

theorem firstError_append (steps steps' : List NTStatus) :
    firstError (steps ++ steps') =
      if NTSuccess (firstError steps) then firstError steps' else firstError steps := by
  induction steps with
  | nil => simp
  | cons ntstatus steps ih =>
    by_cases h : NTSuccess ntstatus
    · simp [h, ih]
    · simp [h]

/-- An error is that of the step that failed, and those before it succeeded. -/
theorem exists_of_firstError {steps : List NTStatus} (h : ¬NTSuccess (firstError steps)) :
    ∃ before after, steps = before ++ firstError steps :: after ∧
      ∀ ntstatus ∈ before, NTSuccess ntstatus := by
  induction steps with
  | nil => exact absurd ntSuccess_statusSuccess h
  | cons ntstatus steps ih =>
    by_cases hfirst : NTSuccess ntstatus
    · rw [firstError_cons_of_success hfirst] at h ⊢
      obtain ⟨before, after, heq, hbefore⟩ := ih h
      refine ⟨ntstatus :: before, after, ?_, List.forall_mem_cons.mpr ⟨hfirst, hbefore⟩⟩
      rw [List.cons_append, ← heq]
    · rw [firstError_cons_of_error hfirst]
      exact ⟨[], steps, rfl, by simp⟩

/-! ### Characters and strings -/

/-- A wide character: one 16-bit code unit. -/
abbrev WChar := UInt16

/-- Wide characters are ordered as numbers. -/
instance instLinearOrderUInt16 : LinearOrder UInt16 where
  le_refl a := UInt16.le_refl a
  le_trans _ _ _ := UInt16.le_trans
  lt_iff_le_not_ge a b := by rw [UInt16.lt_iff_toNat_lt, UInt16.le_iff_toNat_le,
    UInt16.le_iff_toNat_le, ← Nat.lt_iff_le_and_not_ge]
  le_antisymm _ _ := UInt16.le_antisymm
  le_total := UInt16.le_total
  toDecidableEq := inferInstance
  toDecidableLE := inferInstance
  toDecidableLT := inferInstance

/-- The string terminator. -/
def nul : WChar := 0

/-- The characters of a `UNICODE_STRING`. -/
abbrev UnicodeString := List WChar

/-- What is read of a string through a pointer to its first character: the characters before
the first terminator. -/
def cString (s : UnicodeString) : UnicodeString := s.takeWhile (· ≠ nul)

theorem cString_eq_self {s : UnicodeString} (hs : nul ∉ s) : cString s = s :=
  List.takeWhile_eq_self_iff.mpr fun c hc => by
    simpa using fun h : c = nul => hs (h ▸ hc)

/-- `0 == RtlCompareUnicodeString(a, b, TRUE)`: the strings are the same after each character
has been mapped to upper case. -/
def RtlCompareEqual (upcase : WChar → WChar) (a b : UnicodeString) : Prop :=
  a.map upcase = b.map upcase

instance (upcase : WChar → WChar) (a b : UnicodeString) :
    Decidable (RtlCompareEqual upcase a b) :=
  inferInstanceAs (Decidable (a.map upcase = b.map upcase))

/-- The name of an image file, as the kernel reports it: file names contain no terminator. -/
structure ImageName where
  chars : UnicodeString
  nul_notMem : nul ∉ chars

/-- The image name of one letter, `A` and those that follow. -/
def ImageName.letter (i : ℕ) : ImageName where
  chars := [UInt16.ofNat (0x41 + i % 26)]
  nul_notMem h := by
    have hzero := congrArg UInt16.toNat (List.mem_singleton.mp h)
    rw [UInt16.toNat_ofNat', Nat.mod_eq_of_lt (by omega)] at hzero
    change 0 = _ at hzero
    omega

@[simp] theorem ImageName.cString_chars (name : ImageName) : cString name.chars = name.chars :=
  cString_eq_self name.nul_notMem

/-! ### Processes -/

/-- Process ids are ordered as numbers. -/
instance instLinearOrderUInt32 : LinearOrder UInt32 where
  le_refl a := UInt32.le_refl a
  le_trans _ _ _ := UInt32.le_trans
  lt_iff_le_not_ge a b := by rw [UInt32.lt_iff_toNat_lt, UInt32.le_iff_toNat_le,
    UInt32.le_iff_toNat_le, ← Nat.lt_iff_le_and_not_ge]
  le_antisymm _ _ := UInt32.le_antisymm
  le_total := UInt32.le_total
  toDecidableEq := inferInstance
  toDecidableLE := inferInstance
  toDecidableLT := inferInstance

/-- A process handle, as passed to the notification routines. -/
abbrev Handle := UInt64

/-- `PROCESS_HANDLE_TO_PROCESS_ID`: the low 32 bits of the handle. -/
def processHandleToProcessId (handle : Handle) : UInt32 := handle.toUInt32

/-- The handle of a process whose id fits 32 bits. -/
def processHandle (pid : UInt32) : Handle := pid.toUInt64

@[simp] theorem processHandleToProcessId_processHandle (pid : UInt32) :
    processHandleToProcessId (processHandle pid) = pid := by
  simp [processHandleToProcessId, processHandle]

theorem processHandle_eq_zero_iff {pid : UInt32} : processHandle pid = 0 ↔ pid = 0 := by
  constructor
  · intro h
    rw [← processHandleToProcessId_processHandle pid, h]
    rfl
  · rintro rfl
    rfl

end HidHide
