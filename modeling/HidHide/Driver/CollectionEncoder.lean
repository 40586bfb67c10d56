import HidHide.ForMathlib.CellMemory
import HidHide.Driver.Requests

/-!
# The encoder of a list, down to its pointer

`HidHideCollectionToMultiString` as it moves through memory: a first loop adds up the size, a second
one copies the strings with a pointer that moves on and a count that shrinks. Between the two stands
`RtlStringCchCopyUnicodeStringEx`, of which only the case of a string that fits is known.

Pointer and count move against each other: after each string the pointer has advanced by what the
count has lost (`copyStringsAt_eq`). The encoder therefore writes the multi-string of the list and
nothing else (`collectionToMultiStringAt_fill`), which is what the one of `HidHide.Driver.Requests`
does to the characters of the buffer (`collectionToMultiStringAt_read`).
-/

namespace HidHide

open CellMemory

/-- The memory of the wide characters. -/
abbrev CharMemory := ℕ → WChar

/-- What a copy comes back with: the status, the end of the destination, the number of characters
that remain from there on, and the memory. -/
structure CopyResult where
  ntstatus : NTStatus
  destinationEnd : ℕ
  remaining : ℕ
  memory : CharMemory

/-- `RtlStringCchCopyUnicodeStringEx` with `STRSAFE_NO_TRUNCATION`, of a string to a pointer with
a number of characters: it copies a string that fits and its terminator. The end is the terminator,
which is one of the characters that remain. -/
structure StringCchCopy where
  copy : UnicodeString → ℕ → ℕ → CharMemory → CopyResult
  copy_of_fits : ∀ string buffer size memory, string.length < size → size ≤ ntstrsafeMaxCch →
    copy string buffer size memory =
      ⟨statusSuccess, buffer + string.length, size - string.length,
        write memory buffer (string ++ [nul])⟩

section Encoder

variable (rtl : StringCchCopy)

/-- The second loop of `HidHideCollectionToMultiString` and the terminator after it. -/
def copyStringsAt : List UnicodeString → ℕ → ℕ → CharMemory → NTStatus × CharMemory
  | [], buffer, _, memory => (statusSuccess, write memory buffer [nul])
  | string :: strings, buffer, bufferSizeInCharacters, memory =>
      let result := rtl.copy string buffer bufferSizeInCharacters memory
      if ¬NTSuccess result.ntstatus then (result.ntstatus, result.memory)
      else
        -- past the terminator of the string, which is kept
        copyStringsAt strings (result.destinationEnd + 1) (result.remaining - 1) result.memory

/-- `HidHideCollectionToMultiString`, of the strings of the collection, with a pointer to the buffer
if there is one: the status, the size needed in characters, and the memory. -/
def collectionToMultiStringAt (strings : List UnicodeString) (buffer : Option ℕ)
    (bufferSizeInCharacters : ℕ) (memory : CharMemory) : NTStatus × ℕ × CharMemory :=
  let neededSizeInCharacters :=
    strings.foldl (fun needed string => needed + string.length + 1) 0 + 1
  match buffer with
  | none => (statusSuccess, neededSizeInCharacters, memory)
  | some buffer =>
      if bufferSizeInCharacters < neededSizeInCharacters then
        (statusBufferTooSmall, neededSizeInCharacters, memory)
      else
        let (ntstatus, memory) := copyStringsAt rtl strings buffer bufferSizeInCharacters memory
        (ntstatus, neededSizeInCharacters, memory)

/-- The first loop adds up the size of the multi-string. -/
theorem foldl_neededSize (strings : List UnicodeString) (needed : ℕ) :
    strings.foldl (fun needed string => needed + string.length + 1) needed + 1 =
      needed + (MultiString.encode nul strings).length := by
  induction strings generalizing needed with
  | nil => rfl
  | cons string strings ih =>
    rw [List.foldl_cons, ih, MultiString.encode_cons, List.length_append, List.length_cons]
    omega

/-- On every path the encoder reports the size of the multi-string. -/
theorem collectionToMultiStringAt_needed (strings : List UnicodeString) (buffer : Option ℕ)
    (size : ℕ) (memory : CharMemory) :
    (collectionToMultiStringAt rtl strings buffer size memory).2.1 =
      (MultiString.encode nul strings).length := by
  have hneeded := foldl_neededSize strings 0
  rw [Nat.zero_add] at hneeded
  simp only [collectionToMultiStringAt, hneeded]
  cases buffer with
  | none => rfl
  | some buffer => split_ifs <;> rfl

/-- **The second loop** writes the multi-string of the strings at the pointer. Where it is between
two strings, the characters that remain are those of the buffer from the pointer on. -/
theorem copyStringsAt_eq {strings : List UnicodeString} {buffer size : ℕ} {memory : CharMemory}
    (hsize : (MultiString.encode nul strings).length ≤ size) (hmax : size ≤ ntstrsafeMaxCch) :
    copyStringsAt rtl strings buffer size memory =
      (statusSuccess, write memory buffer (MultiString.encode nul strings)) := by
  induction strings generalizing buffer size memory with
  | nil => rfl
  | cons string strings ih =>
    rw [MultiString.encode_cons, List.length_append, List.length_cons] at hsize
    have hrest : (MultiString.encode nul strings).length ≤ size - string.length - 1 := by omega
    rw [copyStringsAt, rtl.copy_of_fits string buffer size memory (by omega) hmax]
    simp only [ntSuccess_statusSuccess, not_true, if_false]
    rw [ih hrest (by omega), MultiString.encode_cons]
    -- the rest is written where the terminator of the string ends
    have hend : buffer + string.length + 1 = buffer + (string ++ [nul]).length := by
      rw [List.length_append, List.length_singleton, Nat.add_assoc]
    rw [hend, write_write, List.append_assoc, List.singleton_append]

section

variable {strings : List UnicodeString} {size : ℕ} (memory : CharMemory)

/-- Without a buffer nothing is written. -/
theorem collectionToMultiStringAt_none :
    collectionToMultiStringAt rtl strings none size memory =
      (statusSuccess, (MultiString.encode nul strings).length, memory) := by
  rw [← collectionToMultiStringAt_needed rtl strings none size memory]
  rfl

/-- Nor is anything written to a buffer that is too small. -/
theorem collectionToMultiStringAt_of_lt (buffer : ℕ)
    (hsize : size < (MultiString.encode nul strings).length) :
    collectionToMultiStringAt rtl strings (some buffer) size memory =
      (statusBufferTooSmall, (MultiString.encode nul strings).length, memory) := by
  have hneeded := foldl_neededSize strings 0
  rw [Nat.zero_add] at hneeded
  simp only [collectionToMultiStringAt, hneeded, if_pos hsize]

/-- **A buffer that is large enough** gets the multi-string; what is not part of it stays as it
is. -/
theorem collectionToMultiStringAt_fill (buffer : ℕ)
    (hsize : (MultiString.encode nul strings).length ≤ size) (hmax : size ≤ ntstrsafeMaxCch) :
    collectionToMultiStringAt rtl strings (some buffer) size memory =
      (statusSuccess, (MultiString.encode nul strings).length,
        write memory buffer (MultiString.encode nul strings)) := by
  have hneeded := foldl_neededSize strings 0
  rw [Nat.zero_add] at hneeded
  simp only [collectionToMultiStringAt, hneeded, if_neg hsize.not_gt,
    copyStringsAt_eq rtl hsize hmax]

/-- **The encoder of a buffer of characters** does to them what this one does to the memory. -/
theorem collectionToMultiStringAt_read (buffer : ℕ) (hmax : size ≤ ntstrsafeMaxCch) :
    let result := collectionToMultiStringAt rtl strings (some buffer) size memory
    hidHideCollectionToMultiString strings (some (read memory buffer size)) =
      (result.1, result.2.1, some (read result.2.2 buffer size)) := by
  rw [hidHideCollectionToMultiString, neededSizeInCharacters_eq]
  by_cases hsize : size < (MultiString.encode nul strings).length
  · rw [collectionToMultiStringAt_of_lt rtl memory buffer hsize]
    simp only [length_read, if_pos hsize]
  · have hle := not_lt.mp hsize
    rw [collectionToMultiStringAt_fill rtl memory buffer hle hmax]
    simp only [length_read, if_neg hsize]
    rw [copyStrings_of_le (by rwa [length_read]) (by rwa [length_read]), read_write_of_le _ _ hle]

end

end Encoder

/-- A copy that fails, and writes nothing, unless the string fits. -/
def StringCchCopy.ofFits : StringCchCopy where
  copy string buffer size memory :=
    if string.length < size ∧ size ≤ ntstrsafeMaxCch then
      ⟨statusSuccess, buffer + string.length, size - string.length,
        write memory buffer (string ++ [nul])⟩
    else ⟨statusInvalidParameter, buffer, size, memory⟩
  copy_of_fits _ _ _ _ hfits hmax := if_pos ⟨hfits, hmax⟩

end HidHide
