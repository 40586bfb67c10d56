import Mathlib.Algebra.Order.BigOperators.Group.List
import HidHide.Client.Utils

/-!
# The requests of the filter driver proxy

The client's side of the two lists: the functions of `FilterDriverProxy.cpp` that send a list to
the driver and get it back. A list is a set, kept in the order `lt` of its type; the two lists
have different orders, and only their being strict orders matters.

`deviceSetList_stores` says what the driver has of a list that it accepted, and
`deviceGetList_of_ok` what the client gets back.
-/

namespace HidHide

section Device

variable {lt : WString → WString → Prop}

/-- The request that sends a multi-string to the device. -/
def deviceSetMultiString (kind : ListKind) (o : SetListOutcome) (buffer : List WChar) (d : Driver) :
    NTStatus × Driver :=
  onControlDeviceIoSetList kind o 0 ((bytes buffer).take (dword (2 * buffer.length))) d

/-- The requests that get a multi-string from the device. The first one asks for the size. The size
of the buffer is at most the `DWORD` reported, so its conversion to a `DWORD` changes nothing. -/
def deviceGetMultiString (kind : ListKind) (query fill : GetListOutcome) (d : Driver) :
    Except NTStatus (List WChar) × Driver :=
  let (ntstatus, needed, _, d) := onControlDeviceIoGetList kind query 0 [] d
  if ¬NTSuccess ntstatus then (.error ntstatus, d)
  else
    let buffer := List.replicate (dword needed / 2) nul
    let (ntstatus, _, buffer, d) := onControlDeviceIoGetList kind fill 0 (bytes buffer) d
    if ¬NTSuccess ntstatus then (.error ntstatus, d) else (.ok buffer, d)

/-- The functions that send a list to the device, `SetBlacklist` and `SetWhitelist`: they differ
in the list. They throw when the status is an error. -/
def deviceSetList (kind : ListKind) (o : SetListOutcome) (strings : OrderedSet lt) :
    Driver → NTStatus × Driver :=
  deviceSetMultiString kind o (stringListToMultiString strings.toList)

/-- The functions that get a list from the device, `GetBlacklist` and `GetWhitelist`: they differ
in the list. -/
def deviceGetList [DecidableRel lt] [IsTrans WString lt] (kind : ListKind)
    (query fill : GetListOutcome) (d : Driver) : Except NTStatus (OrderedSet lt) × Driver :=
  let (buffer, d) := deviceGetMultiString kind query fill d
  (buffer.map fun buffer => OrderedSet.ofList lt (multiStringToStringList buffer), d)

/-! ### What the driver is sent -/

/-- The characters of a request, as the setter of the driver is handed them. -/
def sentChars (strings : List WString) : List WChar :=
  let buffer := stringListToMultiString strings
  let chars := buffer.take (dword (2 * buffer.length) / 2)
  if chars = [] then [nul, nul] else chars

/-- A list that is accepted is set to the characters sent. -/
theorem deviceSetList_of_success {kind : ListKind} {o : SetListOutcome} {S : OrderedSet lt}
    {d : Driver} (h : NTSuccess (deviceSetList kind o S d).1) :
    deviceSetList kind o S d = setList kind o.list (sentChars S.toList) d := by
  obtain ⟨chars, hchars⟩ : ∃ chars, chars = (stringListToMultiString S.toList).take
    (dword (2 * (stringListToMultiString S.toList).length) / 2) := ⟨_, rfl⟩
  have heven : dword (2 * (stringListToMultiString S.toList).length) =
      2 * (dword (2 * (stringListToMultiString S.toList).length) / 2) := by
    rw [dword]
    omega
  -- the conversion to a `DWORD` keeps the size even, so whole characters are sent
  have hinput : (bytes (stringListToMultiString S.toList)).take
      (dword (2 * (stringListToMultiString S.toList).length)) = bytes chars := by
    rw [heven, take_bytes, ← hchars]
  rw [deviceSetList, deviceSetMultiString] at h ⊢
  rw [sentChars]
  simp only [hinput, ← hchars] at h ⊢
  rw [onControlDeviceIoSetList, if_neg (by simp)] at h ⊢
  rcases eq_or_ne chars [] with rfl | hne
  -- a request without bytes empties the list, as the driver takes it for one without a buffer
  · rfl
  · have hpos : 0 ≠ (bytes chars).length := by
      rw [length_bytes]
      have := List.length_pos_iff.mpr hne
      omega
    rw [if_neg hpos] at h ⊢
    split_ifs at h ⊢ with hretrieve
    · rw [wideChars_bytes]
    · exact absurd h hretrieve

/-- A multi-string whose size is a `DWORD` is sent as it is. -/
theorem sentChars_of_lt {strings : List WString} (h : ∀ string ∈ strings, nul ∉ string)
    (hsize : 2 * (stringListToMultiString strings).length < 2 ^ 32) :
    sentChars strings = MultiString.encode nul strings := by
  have hdword : dword (2 * (stringListToMultiString strings).length) / 2 =
      (stringListToMultiString strings).length := by
    rw [dword, Nat.mod_eq_of_lt hsize, Nat.mul_div_cancel_left _ (by decide)]
  have hne : MultiString.encode nul strings ≠ [] := by simp [MultiString.encode]
  rw [sentChars]
  simp only [hdword, List.take_length]
  rw [stringListToMultiString_eq_encode h, if_neg hne]

theorem length_sentChars_le (strings : List WString) :
    (sentChars strings).length ≤
      max 2 (dword (2 * (stringListToMultiString strings).length) / 2) := by
  rw [sentChars]
  split_ifs
  · exact le_max_left _ _
  · exact (List.length_take_le _ _).trans (le_max_right _ _)

/-- The driver stores what it is sent. -/
theorem storedChars_sentChars (strings : List WString) :
    storedChars (sentChars strings) = sentChars strings := by
  refine storedChars_eq_self ?_
  have hlength := length_sentChars_le strings
  rw [dword] at hlength
  omega

/-- What the driver has of a list that it accepted: what it persists is what it was sent, and what
it has in memory is decoded from that. -/
theorem deviceSetList_stores {kind : ListKind} {o : SetListOutcome} {S : OrderedSet lt}
    {d : Driver} (h : NTSuccess (deviceSetList kind o S d).1) :
    (deviceSetList kind o S d).2.framework.registry kind.property =
        some (.regMultiSz (sentChars S.toList)) ∧
      decodedValue (some (.regMultiSz (sentChars S.toList))) =
        some ((deviceSetList kind o S d).2.list kind) := by
  have heq := deviceSetList_of_success h
  rw [heq] at h ⊢
  have hset := listSet_of_success kind (sentChars S.toList) h
  have hdecoded := hset.decoded
  rw [storedChars_sentChars] at hdecoded
  rw [hset.registry, Function.update_self, storedChars_sentChars]
  exact ⟨rfl, hdecoded⟩

/-! ### What the client gets back -/

/-- **The two requests** of a client that gets a list return the nonempty strings of the list. -/
theorem deviceGetList_of_ok [DecidableRel lt] [IsTrans WString lt] {kind : ListKind}
    {query fill : GetListOutcome} {d : Driver} {strings : List UnicodeString}
    (hquery : query.Ok (d.framework.registry kind.property))
    (hfill : fill.Ok (d.framework.registry kind.property))
    (hv : decodedValue (d.framework.registry kind.property) = some strings)
    (hstrings : ∀ string ∈ strings, nul ∉ string)
    (hsize : 2 * (MultiString.encode nul strings).length < 2 ^ 32) :
    (deviceGetList kind query fill d).1 = .ok (OrderedSet.ofList lt (strings.filter (· ≠ []))) := by
  obtain ⟨hstatus, hneeded, hregistry⟩ := getList_size hquery hv
  obtain ⟨buffer, hbuffer⟩ : ∃ buffer, buffer =
      List.replicate (dword (2 * (MultiString.encode nul strings).length) / 2) nul := ⟨_, rfl⟩
  have hlength : buffer.length = (MultiString.encode nul strings).length := by
    rw [hbuffer, List.length_replicate, dword, Nat.mod_eq_of_lt hsize,
      Nat.mul_div_cancel_left _ (by decide)]
  have hpos : 0 < buffer.length := by
    rw [hlength, MultiString.length_encode]
    exact Nat.succ_pos _
  have hmax : (MultiString.encode nul strings).length ≤ ntstrsafeMaxCch := by
    rw [ntstrsafeMaxCch]
    omega
  -- the first request has left the registry as it was
  rw [← hregistry] at hfill hv
  have houtput : bytes buffer ≠ [] := by
    rw [← List.length_pos_iff, length_bytes]
    exact Nat.mul_pos (by decide) hpos
  obtain ⟨hstatus', hfilled⟩ :=
    getList_fill hfill hv houtput (by rw [wideChars_bytes, hlength]) hmax
  simp only [deviceGetList, deviceGetMultiString, hstatus, hneeded, ← hbuffer, hstatus', hfilled,
    ntSuccess_statusSuccess, not_true, if_false, Except.map,
    multiStringToStringList_encode hstrings]

end Device

end HidHide
