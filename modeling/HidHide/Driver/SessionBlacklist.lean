import HidHide.ForMathlib.Machine
import HidHide.Driver.Requests
import HidHide.Driver.SessionMemory

/-!
# Requests for the session blacklist

The handlers that add entries to the session blacklist and clear those of a process, down to the
links of the list. The handler that adds entries builds them in a local list first, so that a
failure leaves nothing behind; it then appends the local list to the one of the context without
taking its own local head out, which stays a member of the ring after the handler has returned.

`ring_represents_iff` says exactly when the ring is intact after every request: when no request
that succeeds carries a string.
-/

namespace HidHide

/-- What the calls for one entry come back with. -/
structure EntryOutcome where
  allocated : Bool
  stringCreate : NTStatus

/-- The entry can be made. -/
def EntryOutcome.Ok (o : EntryOutcome) : Prop := o.allocated = true ∧ NTSuccess o.stringCreate

instance : DecidablePred EntryOutcome.Ok := fun _ => inferInstanceAs (Decidable (_ ∧ _))

/-- What the calls of a request to add entries come back with. -/
structure AddOutcome where
  retrieve : NTStatus
  entry : ℕ → EntryOutcome

/-- The entry for a string: its path has the characters that `len * sizeof(WCHAR)`, converted to
a `USHORT`, covers. -/
def sessionEntry (callerPid : Handle) (string : UnicodeString) : SessionBlacklistEntry :=
  ⟨callerPid, string.take (2 * string.length % 2 ^ 16 / 2)⟩

/-! ### The entries of a request -/

/-- The statuses of the calls for one entry. -/
def EntryOutcome.steps (o : EntryOutcome) : List NTStatus :=
  [if o.allocated = false then statusInsufficientResources else statusSuccess, o.stringCreate]

theorem EntryOutcome.ok_iff (o : EntryOutcome) :
    o.Ok ↔ ∀ ntstatus ∈ o.steps, NTSuccess ntstatus := by
  rcases h : o.allocated
  · simp [EntryOutcome.Ok, EntryOutcome.steps, h]
  · simp [EntryOutcome.Ok, EntryOutcome.steps, h]

/-- The loop of `OnControlDeviceIoAddSessionBlacklist`, with the local list as a list of entries:
`current` is what is left of the buffer, and `index` counts the entries. Each iteration takes at
least one character, so it ends before the fuel does. -/
def buildEntries (o : ℕ → EntryOutcome) (callerPid : Handle) :
    ℕ → ℕ → List WChar → NTStatus → List SessionBlacklistEntry →
      NTStatus × List SessionBlacklistEntry
  | 0, _, _, ntstatus, localList => (ntstatus, localList)
  | fuel + 1, index, current, ntstatus, localList =>
      if current.length = 0 ∨ current.headD nul = nul then (ntstatus, localList)
      else
        let remaining := current.length
        let len := (cString current).length
        -- the string must end within the buffer
        if remaining ≤ len then (statusInvalidParameter, localList)
        else
          let path := current.take (2 * len % 2 ^ 16 / 2)
          if (o index).allocated = false then (statusInsufficientResources, localList)
          else if ¬NTSuccess (o index).stringCreate then ((o index).stringCreate, localList)
          else
            buildEntries o callerPid fuel (index + 1) (current.drop (len + 1))
              (o index).stringCreate (localList ++ [⟨callerPid, path⟩])

private theorem cString_append_nul {string : UnicodeString} (hnul : nul ∉ string)
    (rest : List WChar) : cString (string ++ nul :: rest) = string := by
  rw [cString, List.takeWhile_append_of_pos]
  · simp
  · intro c hc
    simpa using fun h : c = nul => hnul (h ▸ hc)

/-- Where the loop does not end, the buffer goes on with a terminated string. -/
private theorem exists_string_of_not_end {current : List WChar}
    (hend : ¬(current.length = 0 ∨ current.headD nul = nul))
    (hlast : ∀ c ∈ current.getLast?, c = nul) :
    ∃ string rest, current = string ++ nul :: rest ∧ nul ∉ string ∧ string ≠ [] := by
  cases current with
  | nil => simp at hend
  | cons c current =>
    have hc : c ≠ nul := fun hc => hend (.inr hc)
    have hmem : nul ∈ c :: current := by
      have hget := List.getLast?_eq_some_getLast (List.cons_ne_nil c current)
      rw [← hlast _ hget]
      exact List.getLast_mem _
    obtain ⟨rest, hrest⟩ := MultiString.exists_eq_append_nul hmem
    refine ⟨_, rest, hrest, fun hnul => ?_, ?_⟩
    · simpa using List.mem_takeWhile_imp hnul
    · rw [List.takeWhile_cons_of_pos (by simpa using hc)]
      exact List.cons_ne_nil _ _

/-- **What the loop builds**: entries for the strings of the buffer, and for all of them unless a
call fails. The outcome is the first error of the calls for the entries. -/
theorem buildEntries_eq (o : ℕ → EntryOutcome) (callerPid : Handle) {fuel : ℕ} (index : ℕ)
    {current : List WChar} {ntstatus : NTStatus} (localList : List SessionBlacklistEntry)
    (hfuel : current.length ≤ fuel) (hlast : ∀ c ∈ current.getLast?, c = nul)
    (hstatus : NTSuccess ntstatus) :
    let r := buildEntries o callerPid fuel index current ntstatus localList
    ∃ built : List UnicodeString,
      r.2 = localList ++ built.map (sessionEntry callerPid) ∧
      (NTSuccess r.1 → built = MultiString.decode nul current) ∧
      (if NTSuccess r.1 then statusSuccess else r.1) =
        firstError ((List.range (MultiString.decode nul current).length).flatMap fun i =>
          (o (index + i)).steps) := by
  induction fuel generalizing index current ntstatus localList with
  | zero =>
    obtain rfl : current = [] := List.length_eq_zero_iff.mp (Nat.le_zero.mp hfuel)
    exact ⟨[], by simp [buildEntries], fun _ => rfl, by simp [buildEntries, hstatus]⟩
  | succ fuel ih =>
    by_cases hend : current.length = 0 ∨ current.headD nul = nul
    · have hdecode : MultiString.decode nul current = [] := by
        cases current with
        | nil => rfl
        | cons c current =>
          obtain rfl : c = nul := by simpa using hend
          exact MultiString.decode_nul_cons current
      rw [buildEntries, if_pos hend, hdecode]
      exact ⟨[], by simp, fun _ => rfl, by simp [hstatus]⟩
    · -- one iteration takes the string and its terminator, and goes on with the rest
      obtain ⟨string, rest, rfl, hnul, hne⟩ := exists_string_of_not_end hend hlast
      have hcString : cString (string ++ nul :: rest) = string := cString_append_nul hnul rest
      have hlen : ¬(string ++ nul :: rest).length ≤ string.length := by simp
      have hpath : (string ++ nul :: rest).take (2 * string.length % 2 ^ 16 / 2) =
          string.take (2 * string.length % 2 ^ 16 / 2) :=
        List.take_append_of_le_length (by omega)
      have hdrop : (string ++ nul :: rest).drop (string.length + 1) = rest := by
        simp [List.drop_append]
      have hrest : ∀ c ∈ rest.getLast?, c = nul := fun c hc => hlast c (by
        simp [List.getLast?_append, List.getLast?_cons, Option.mem_def.mp hc])
      have hsteps : firstError ((List.range (string :: MultiString.decode nul rest).length).flatMap
            fun i => (o (index + i)).steps) =
          if NTSuccess (firstError (o index).steps) then
            firstError ((List.range (MultiString.decode nul rest).length).flatMap fun i =>
              (o (index + 1 + i)).steps)
          else firstError (o index).steps := by
        rw [List.length_cons, List.range_succ_eq_map, List.flatMap_cons, firstError_append,
          List.flatMap_map]
        simp only [Nat.add_zero, Nat.succ_eq_add_one, Nat.add_assoc, Nat.add_comm 1]
      rw [buildEntries, if_neg hend, MultiString.decode_append_nul hnul hne, hsteps]
      simp only [hcString, if_neg hlen, hpath, hdrop]
      by_cases hok : (o index).Ok
      · obtain ⟨halloc, hcreate⟩ := hok
        rw [if_neg (by simp [halloc]), if_neg (not_not.mpr hcreate),
          if_pos (ntSuccess_firstError_iff.mpr ((o index).ok_iff.mp ⟨halloc, hcreate⟩))]
        obtain ⟨built, hbuilt, hall, hstatus⟩ := ih (index + 1)
          (localList ++ [sessionEntry callerPid string]) (by simp at hfuel; omega) hrest hcreate
        refine ⟨string :: built, hbuilt.trans (by simp), fun hstatus => ?_, hstatus⟩
        rw [hall hstatus]
      · -- the loop stops at the first entry that cannot be made
        rw [if_neg fun h => hok ((o index).ok_iff.mpr (ntSuccess_firstError_iff.mp h))]
        by_cases halloc : (o index).allocated = false
        · rw [if_pos halloc]
          refine ⟨[], by simp, fun h => absurd h not_ntSuccess_statusInsufficientResources, ?_⟩
          simp [EntryOutcome.steps, halloc]
        · have hcreate : ¬NTSuccess (o index).stringCreate := fun h =>
            hok ⟨by simpa using halloc, h⟩
          rw [if_neg halloc, if_pos hcreate]
          refine ⟨[], by simp, fun h => absurd h hcreate, ?_⟩
          simp [EntryOutcome.steps, halloc, hcreate]

/-- Every entry is made exactly when no call fails. -/
theorem forall_ok_iff (o : ℕ → EntryOutcome) (n : ℕ) :
    NTSuccess (firstError ((List.range n).flatMap fun i => (o i).steps)) ↔ ∀ i < n, (o i).Ok := by
  rw [ntSuccess_firstError_iff]
  simp only [List.mem_flatMap, List.mem_range, EntryOutcome.ok_iff]
  exact ⟨fun h i hi ntstatus hmem => h ntstatus ⟨i, hi, hmem⟩,
    fun h ntstatus ⟨i, hi, hmem⟩ => h i hi ntstatus hmem⟩

namespace SessionMemory

/-! ### The handlers -/

/-- The loop of `OnControlDeviceIoAddSessionBlacklist`, with the local list in memory. -/
def buildEntries (o : ℕ → EntryOutcome) (callerPid : Handle) (localHead : Address) :
    ℕ → ℕ → List WChar → NTStatus → SessionMemory → NTStatus × SessionMemory
  | 0, _, _, ntstatus, s => (ntstatus, s)
  | fuel + 1, index, current, ntstatus, s =>
      if current.length = 0 ∨ current.headD nul = nul then (ntstatus, s)
      else
        let remaining := current.length
        let len := (cString current).length
        -- the string must end within the buffer
        if remaining ≤ len then (statusInvalidParameter, s)
        else
          let path := current.take (2 * len % 2 ^ 16 / 2)
          if (o index).allocated = false then (statusInsufficientResources, s)
          else if ¬NTSuccess (o index).stringCreate then ((o index).stringCreate, s)
          else
            buildEntries o callerPid localHead fuel (index + 1) (current.drop (len + 1))
              (o index).stringCreate (s.insertEntry localHead ⟨callerPid, path⟩)

/-- `OnControlDeviceIoAddSessionBlacklist`. -/
def onControlDeviceIoAddSessionBlacklist (o : AddOutcome) (callerPid : Handle)
    (outputBufferLength : ℕ) (input : List UInt8) (s : SessionMemory) :
    Option (NTStatus × SessionMemory) :=
  if 0 ≠ outputBufferLength then some (statusInvalidParameter, s)
  else if input.length < 4 then some (statusInvalidParameter, s)
  else if 0 ≠ input.length % 2 then some (statusInvalidParameter, s)
  else if ¬NTSuccess o.retrieve then some (o.retrieve, s)
  else
    let buffer := wideChars input
    let totalChars := input.length / 2
    if buffer.getD (totalChars - 1) nul ≠ nul ∨ buffer.getD (totalChars - 2) nul ≠ nul then
      some (statusInvalidParameter, s)
    else
      let localHead := Address.localHead s.invocations
      let (ntstatus, s) :=
        buildEntries o.entry callerPid localHead totalChars 0 buffer statusSuccess s.enter
      if ¬NTSuccess ntstatus then
        (removeEntries localHead (fun _ => true) (s.nextBlock + 1) (s.links.flink localHead) s).map
          fun s => (ntstatus, s)
      else if s.links.flink localHead = localHead then some (statusSuccess, s)
      else some (statusSuccess, s.appendTailList localHead)

/-- `OnControlDeviceIoClearSessionBlacklist`. -/
def onControlDeviceIoClearSessionBlacklist (callerPid : Handle)
    (outputBufferLength inputBufferLength : ℕ) (s : SessionMemory) :
    Option (NTStatus × SessionMemory) :=
  if 0 ≠ outputBufferLength ∨ 0 ≠ inputBufferLength then some (statusInvalidParameter, s)
  else (s.sessionBlacklistCleanupForPid callerPid).map fun s => (statusSuccess, s)

/-- The memory follows the list: the entries of the local list are inserted one by one. -/
theorem buildEntries_eq_foldl (o : ℕ → EntryOutcome) (callerPid : Handle) (localHead : Address)
    (fuel index : ℕ) (current : List WChar) (ntstatus : NTStatus) (s : SessionMemory)
    (localList : List SessionBlacklistEntry) :
    let r := HidHide.buildEntries o callerPid fuel index current ntstatus localList
    buildEntries o callerPid localHead fuel index current ntstatus
        (localList.foldl (insertEntry · localHead) s) =
      (r.1, r.2.foldl (insertEntry · localHead) s) := by
  induction fuel generalizing index current ntstatus localList with
  | zero => rfl
  | succ fuel ih =>
    simp only [buildEntries, HidHide.buildEntries]
    by_cases hend : current.length = 0 ∨ current.headD nul = nul
    · simp only [if_pos hend]
    by_cases hremaining : current.length ≤ (cString current).length
    · simp only [if_neg hend, if_pos hremaining]
    by_cases halloc : (o index).allocated = false
    · simp only [if_neg hend, if_neg hremaining, if_pos halloc]
    by_cases hcreate : NTSuccess (o index).stringCreate
    · -- one more entry on both sides
      simp only [if_neg hend, if_neg hremaining, if_neg halloc, hcreate, not_true, if_false]
      rw [← ih, List.foldl_append]
      rfl
    · simp only [if_neg hend, if_neg hremaining, if_neg halloc, hcreate, not_false_eq_true, if_true]

end SessionMemory

/-! ### Requests -/

/-- A request to add entries, with the outcomes it meets. -/
structure AddRequest where
  o : AddOutcome
  callerPid : Handle
  outputBufferLength : ℕ
  input : List UInt8

namespace AddRequest

variable (r : AddRequest)

/-- The strings that the request carries: those before the first empty one. -/
def strings : List UnicodeString := MultiString.decode nul (wideChars r.input)

/-- The request passes the validation: it has no output buffer, and whole characters in its input
buffer, of which the last two are terminators. -/
def Valid : Prop :=
  r.outputBufferLength = 0 ∧ 4 ≤ r.input.length ∧ r.input.length % 2 = 0 ∧
    NTSuccess r.o.retrieve ∧ MultiString.EndsInTwo nul (wideChars r.input)

/-- The request succeeds: it is valid, and an entry can be made for each of its strings. -/
def Succeeds : Prop := r.Valid ∧ ∀ i < r.strings.length, (r.o.entry i).Ok

instance : Decidable r.Valid := inferInstanceAs (Decidable (_ ∧ _ ∧ _ ∧ _ ∧ _))

instance : Decidable r.Succeeds := inferInstanceAs (Decidable (_ ∧ _))

/-- The entries that the request is for. -/
def entries : List SessionBlacklistEntry := r.strings.map (sessionEntry r.callerPid)

/-- The handler of the request. -/
def handle (s : SessionMemory) : Option (NTStatus × SessionMemory) :=
  s.onControlDeviceIoAddSessionBlacklist r.o r.callerPid r.outputBufferLength r.input

/-- The test of the handler for the two terminators. -/
theorem endsInTwo_iff_getD {cs : List WChar} (h : 2 ≤ cs.length) :
    MultiString.EndsInTwo nul cs ↔
      ¬(cs.getD (cs.length - 1) nul ≠ nul ∨ cs.getD (cs.length - 2) nul ≠ nul) := by
  obtain ⟨pre, a, b, rfl⟩ : ∃ pre a b, cs = pre ++ [a, b] := by
    obtain ⟨b, l, hl⟩ := List.exists_cons_of_ne_nil (l := cs.reverse) (by
      rintro hnil
      simp [List.reverse_eq_nil_iff.mp hnil] at h)
    obtain ⟨a, l, rfl⟩ := List.exists_cons_of_ne_nil (l := l) (by
      rintro rfl
      have := congrArg List.length hl
      simp at this
      omega)
    exact ⟨l.reverse, a, b, by rw [← List.reverse_reverse cs, hl]; simp⟩
  rw [MultiString.EndsInTwo, List.suffix_iff_eq_drop]
  simp [List.getD_eq_getElem?_getD, and_comm, eq_comm]

theorem length_wideChars (bytes : List UInt8) : (wideChars bytes).length = bytes.length / 2 := by
  induction bytes using wideChars.induct with
  | case1 low high bytes ih =>
    rw [wideChars, List.length_cons, ih, List.length_cons, List.length_cons]
    omega
  | case2 bytes h =>
    rcases bytes with _ | ⟨low, _ | ⟨high, bytes⟩⟩
    · rfl
    · simp [wideChars]
    · exact absurd rfl (h low high bytes)

/-- A request that is not valid changes nothing. -/
theorem handle_of_not_valid (s : SessionMemory) (h : ¬r.Valid) :
    ∃ ntstatus, r.handle s = some (ntstatus, s) ∧ ¬NTSuccess ntstatus := by
  rw [handle, SessionMemory.onControlDeviceIoAddSessionBlacklist]
  by_cases hout : 0 ≠ r.outputBufferLength
  · exact ⟨_, by rw [if_pos hout], not_ntSuccess_statusInvalidParameter⟩
  by_cases hlen : r.input.length < 4
  · exact ⟨_, by rw [if_neg hout, if_pos hlen], not_ntSuccess_statusInvalidParameter⟩
  by_cases heven : 0 ≠ r.input.length % 2
  · exact ⟨_, by rw [if_neg hout, if_neg hlen, if_pos heven], not_ntSuccess_statusInvalidParameter⟩
  by_cases hretrieve : NTSuccess r.o.retrieve
  · have hends : ¬MultiString.EndsInTwo nul (wideChars r.input) := fun hends =>
      h ⟨by omega, by omega, by omega, hretrieve, hends⟩
    rw [endsInTwo_iff_getD (by rw [length_wideChars]; omega), not_not, length_wideChars] at hends
    exact ⟨_, by
      rw [if_neg hout, if_neg hlen, if_neg heven, if_neg (not_not.mpr hretrieve)]
      simp only [if_pos hends], not_ntSuccess_statusInvalidParameter⟩
  · exact ⟨_, by rw [if_neg hout, if_neg hlen, if_neg heven, if_pos hretrieve], hretrieve⟩

/-- A valid request: what follows the validation. -/
theorem handle_of_valid (s : SessionMemory) (h : r.Valid) :
    r.handle s =
      let localHead := Address.localHead s.invocations
      let (ntstatus, s) := SessionMemory.buildEntries r.o.entry r.callerPid localHead
        (r.input.length / 2) 0 (wideChars r.input) statusSuccess s.enter
      if ¬NTSuccess ntstatus then
        (SessionMemory.removeEntries localHead (fun _ => true) (s.nextBlock + 1)
          (s.links.flink localHead) s).map fun s => (ntstatus, s)
      else if s.links.flink localHead = localHead then some (statusSuccess, s)
      else some (statusSuccess, s.appendTailList localHead) := by
  obtain ⟨hout, hlen, heven, hretrieve, hends⟩ := h
  rw [endsInTwo_iff_getD (by rw [length_wideChars]; omega), length_wideChars] at hends
  rw [handle, SessionMemory.onControlDeviceIoAddSessionBlacklist, if_neg (by omega),
    if_neg (by omega), if_neg (by omega), if_neg (not_not.mpr hretrieve)]
  simp only [if_neg hends]

/-- The loop of a valid request, with the local list in any memory. -/
theorem Valid.buildEntries_eq {r : AddRequest} (h : r.Valid) (s : SessionMemory) :
    ∃ ntstatus built, SessionMemory.buildEntries r.o.entry r.callerPid (.localHead s.invocations)
          (r.input.length / 2) 0 (wideChars r.input) statusSuccess s.enter =
        (ntstatus, (built.map (sessionEntry r.callerPid)).foldl
          (SessionMemory.insertEntry · (.localHead s.invocations)) s.enter) ∧
      (NTSuccess ntstatus ↔ r.Succeeds) ∧ (NTSuccess ntstatus → built = r.strings) := by
  obtain ⟨built, hbuilt, hall, hfirst⟩ := HidHide.buildEntries_eq r.o.entry r.callerPid 0 []
    (length_wideChars r.input).le h.2.2.2.2.last ntSuccess_statusSuccess
  -- the memory has the entries of the local list
  have hmemory := SessionMemory.buildEntries_eq_foldl r.o.entry r.callerPid
    (.localHead s.invocations) (r.input.length / 2) 0 (wideChars r.input) statusSuccess s.enter []
  simp only [hbuilt, List.foldl_nil, List.nil_append] at hmemory
  refine ⟨_, built, hmemory, ?_, hall⟩
  rw [Succeeds, and_iff_right h, strings, ← forall_ok_iff, ← ntSuccess_ite_iff, hfirst]
  simp only [Nat.zero_add]

/-- **What a request does to an intact ring.** A request that does not succeed leaves the list as
it is, and so does one without a string. Any other request appends its entries, but leaves its
local head in the ring in front of them. -/
theorem handle_represents {s : SessionMemory} {list : List SessionBlacklistEntry}
    (h : s.Represents list) :
    ∃ ntstatus s', r.handle s = some (ntstatus, s') ∧ (NTSuccess ntstatus ↔ r.Succeeds) ∧
      (¬r.Succeeds ∨ r.strings = [] → s'.Represents list) ∧
      (r.Succeeds → r.strings ≠ [] →
        (∃ blocks new : List ℕ, s'.links.IsRing .sessionBlacklistHead
            (blocks.map .entry ++ .localHead s.invocations :: new.map .entry) ∧
          blocks.map s'.entries = list.map some ∧ new.map s'.entries = r.entries.map some) ∧
        ∀ list', ¬s'.Represents list') := by
  by_cases hvalid : r.Valid
  · obtain ⟨ntstatus, built, hb, hsucceeds, hall⟩ := hvalid.buildEntries_eq s
    obtain ⟨blocks, hbuilding⟩ := h.enter
    obtain ⟨new, hbuilding⟩ := hbuilding.foldl_insertEntry (built.map (sessionEntry r.callerPid))
    rw [List.nil_append] at hbuilding
    rw [handle_of_valid r s hvalid]
    simp only [hb]
    generalize (built.map (sessionEntry r.callerPid)).foldl _ _ = s₁ at hbuilding ⊢
    by_cases hstatus : NTSuccess ntstatus
    -- the local list has all the strings; it is appended unless it is empty
    · have hr := hsucceeds.mp hstatus
      obtain rfl : built = r.strings := hall hstatus
      have hempty : s₁.links.flink (.localHead s.invocations) = .localHead s.invocations ↔
          r.strings = [] := by
        rw [hbuilding.flink_localHead_iff, List.map_eq_nil_iff]
      rw [if_neg (not_not.mpr hstatus)]
      by_cases hstrings : r.strings = []
      · rw [if_pos (hempty.mpr hstrings)]
        obtain rfl : new = [] := by simpa [hstrings] using hbuilding.newEntries
        exact ⟨statusSuccess, s₁, rfl, iff_of_true ntSuccess_statusSuccess hr,
          fun _ => hbuilding.represents_of_nil, fun _ hne => absurd hstrings hne⟩
      · rw [if_neg fun h => hstrings (hempty.mp h)]
        exact ⟨statusSuccess, _, rfl, iff_of_true ntSuccess_statusSuccess hr,
          fun h => (h.elim (absurd hr) fun h => absurd h hstrings),
          fun _ _ => ⟨⟨blocks, new, hbuilding.splice, hbuilding.entries, hbuilding.newEntries⟩,
            hbuilding.not_represents_splice⟩⟩
    -- what has been built is rolled back
    · obtain ⟨s', hs', hrepresents⟩ := hbuilding.rollBack
      rw [if_pos hstatus, hs']
      exact ⟨ntstatus, s', rfl, hsucceeds, fun _ => hrepresents,
        fun hr => absurd (hsucceeds.mpr hr) hstatus⟩
  · obtain ⟨ntstatus, hhandle, hstatus⟩ := r.handle_of_not_valid s hvalid
    exact ⟨ntstatus, s, hhandle, iff_of_false hstatus fun hs => hvalid hs.1, fun _ => h,
      fun hs => absurd hs.1 hvalid⟩

end AddRequest

/-! ### Runs -/

/-- What happens to the session blacklist. -/
inductive SessionEvent where
  | add (r : AddRequest)
  | clear (callerPid : Handle) (outputBufferLength inputBufferLength : ℕ)
  | processExit (processId : Handle)

namespace SessionEvent

/-- One event. -/
def step (s : SessionMemory) : SessionEvent → Option SessionMemory
  | add r => (r.handle s).map Prod.snd
  | clear callerPid outputBufferLength inputBufferLength =>
      (s.onControlDeviceIoClearSessionBlacklist callerPid outputBufferLength
        inputBufferLength).map Prod.snd
  | processExit processId => s.sessionBlacklistCleanupForPid processId

/-- What the event should do to the list of entries: a request to add entries that succeeds
appends its own, in the order of its buffer; a request to clear them and an exit remove those of
the process. -/
def next (list : List SessionBlacklistEntry) :
    SessionEvent → List SessionBlacklistEntry
  | add r => if r.Succeeds then list ++ r.entries else list
  | clear callerPid outputBufferLength inputBufferLength =>
      if outputBufferLength = 0 ∧ inputBufferLength = 0 then
        list.filter (·.ownerPid ≠ callerPid)
      else list
  | processExit processId => list.filter (·.ownerPid ≠ processId)

/-- The event is no request that succeeds and carries a string. -/
def AddsNothing : SessionEvent → Prop
  | add r => r.Succeeds → r.strings = []
  | _ => True

instance : DecidablePred AddsNothing
  | add _ => inferInstanceAs (Decidable (_ → _))
  | clear .. => .isTrue trivial
  | processExit _ => .isTrue trivial

/-- What adds nothing leaves an empty session blacklist empty. -/
theorem next_nil {e : SessionEvent} (h : e.AddsNothing) : e.next [] = [] := by
  cases e with
  | add r =>
    rw [next]
    split_ifs with hr
    · rw [AddRequest.entries, h hr]
      rfl
    · rfl
  | clear callerPid outputBufferLength inputBufferLength =>
    rw [next]
    split_ifs <;> rfl
  | processExit processId => rfl

/-- **One event on an intact ring**: it stays intact exactly when the event adds nothing. -/
theorem step_represents {s : SessionMemory} {list : List SessionBlacklistEntry}
    (h : s.Represents list) (e : SessionEvent) :
    (e.AddsNothing → ∃ s', step s e = some s' ∧ s'.Represents (e.next list)) ∧
      (¬e.AddsNothing → ∀ s', step s e = some s' → ¬s'.Represents (e.next list)) := by
  cases e with
  | add r =>
    obtain ⟨ntstatus, s', hs', -, hkeep, hbreak⟩ := r.handle_represents h
    have hstep : step s (add r) = some s' := by rw [step, hs', Option.map_some]
    constructor
    · intro hnothing
      refine ⟨s', hstep, ?_⟩
      by_cases hr : r.Succeeds
      · have hstrings := hnothing hr
        rw [next, if_pos hr, AddRequest.entries, hstrings, List.map_nil, List.append_nil]
        exact hkeep (.inr hstrings)
      · rw [next, if_neg hr]
        exact hkeep (.inl hr)
    · intro hadds t ht
      obtain rfl : s' = t := Option.some.inj (hstep.symm.trans ht)
      obtain ⟨hr, hstrings⟩ := Classical.not_imp.mp hadds
      exact (hbreak hr hstrings).2 _
  | clear callerPid outputBufferLength inputBufferLength =>
    refine ⟨fun _ => ?_, fun hadds => absurd trivial hadds⟩
    by_cases hvalid : outputBufferLength = 0 ∧ inputBufferLength = 0
    · obtain ⟨s', hs', hrepresents⟩ := h.sessionBlacklistCleanupForPid callerPid
      refine ⟨s', ?_, by rwa [next, if_pos hvalid]⟩
      rw [step, SessionMemory.onControlDeviceIoClearSessionBlacklist, if_neg (by omega), hs']
      rfl
    · refine ⟨s, ?_, by rwa [next, if_neg hvalid]⟩
      rw [step, SessionMemory.onControlDeviceIoClearSessionBlacklist, if_pos (by omega)]
      rfl
  | processExit processId =>
    exact ⟨fun _ => h.sessionBlacklistCleanupForPid processId, fun hadds => absurd trivial hadds⟩

end SessionEvent

/-- **The ring of the session blacklist.** After each event of a run, the ring is intact and holds
exactly the entries in use in the order in which they were added, those of a process being gone
once it has cleared them or exited, if and only if no request of the run that succeeds carries a
string. -/
theorem ring_represents_iff (links : LinkMemory Address) (events : List SessionEvent) :
    (∀ done, done <+: events → ∃ s, Machine.run SessionEvent.step (.start links) done = some s ∧
        s.Represents (done.foldl (fun list e => e.next list) [])) ↔
      ∀ e ∈ events, e.AddsNothing :=
  Machine.forall_prefix_iff_forall (R := SessionMemory.Represents)
    (fun _ _ e h => SessionEvent.step_represents h e) (SessionMemory.start_represents links) events

/-- A request to add an entry for one string. -/
def oneString : AddRequest where
  o := ⟨statusSuccess, fun _ => ⟨true, statusSuccess⟩⟩
  callerPid := 8
  outputBufferLength := 0
  input := [0x41, 0, 0, 0, 0, 0]

/-- The walk from the head visits the local variable of a handler that has returned. -/
theorem oneString_visits_localHead :
    oneString.Succeeds ∧ ∀ links : LinkMemory Address,
      (Machine.run SessionEvent.step (.start links) [.add oneString]).map (fun s =>
          s.links.walk .sessionBlacklistHead 4 (s.links.flink .sessionBlacklistHead)) =
        some (some [.localHead 0, .entry 0]) :=
  ⟨by decide, fun _ => by rfl⟩

end HidHide
