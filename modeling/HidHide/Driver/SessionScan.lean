import HidHide.Driver.SessionHiding

/-!
# The scan of a request to add entries

`OnControlDeviceIoAddSessionBlacklist` with its buffer as memory: every character is read at an
index, and a read at or beyond the end has no result. The scan counts what it has allocated and
says why it ends.

The scan builds the same entries as the loop of `HidHide.Driver.SessionBlacklist`, in the local
list and in memory alike (`scan_eq`), so that the handler is the one of that module
(`AddRequest.handleScanning_eq`). The path of an entry is what a `USHORT` number of bytes covers:
`decodesExactly_iff` says exactly when the request adds the strings of its buffer.
-/

namespace HidHide

/-! ### The scan -/

/-- Why the scan ends. -/
inductive ScanExit where
  | endOfStrings (ntstatus : NTStatus)
  | noTerminator
  | noPool
  | noString (ntstatus : NTStatus)

/-- The status after the scan. -/
def ScanExit.ntstatus : ScanExit → NTStatus
  | endOfStrings ntstatus => ntstatus
  | noTerminator => statusInvalidParameter
  | noPool => statusInsufficientResources
  | noString ntstatus => ntstatus

/-- What a scan has allocated and not freed: blocks of the pool, and strings. -/
structure Allocated where
  blocks : ℕ
  strings : ℕ

/-- `wcsnlen`, of at most `remaining` characters from the index `current` on. -/
def wcsnlen (buffer : List WChar) : ℕ → ℕ → Option ℕ
  | _, 0 => some 0
  | current, remaining + 1 => do
      let c ← buffer[current]?
      if c = nul then some 0 else (wcsnlen buffer (current + 1) remaining).map (· + 1)

section Scan

variable {σ : Type} (insert : σ → SessionBlacklistEntry → σ) (o : ℕ → EntryOutcome)
  (callerPid : Handle) (buffer : List WChar) (totalChars : ℕ)

/-- The loop of `OnControlDeviceIoAddSessionBlacklist`: `current` is the index of the next
character, and `insert` inserts at the tail of the local list. The result is `none` when a character
that is read is not in the buffer, and when the fuel does not suffice. -/
def scan : ℕ → ℕ → ℕ → NTStatus → Allocated → σ → Option (ScanExit × Allocated × σ)
  | 0, _, _, _, _, _ => none
  | fuel + 1, index, current, ntstatus, allocated, localList =>
      if totalChars ≤ current then some (.endOfStrings ntstatus, allocated, localList)
      else do
        let c ← buffer[current]?
        if c = nul then some (.endOfStrings ntstatus, allocated, localList)
        else
          let remaining := totalChars - current
          let len ← wcsnlen buffer current remaining
          if remaining ≤ len then some (.noTerminator, allocated, localList)
          else
            let path := (buffer.drop current).take (2 * len % 2 ^ 16 / 2)
            if (o index).allocated = false then some (.noPool, allocated, localList)
            else
              let allocated := { allocated with blocks := allocated.blocks + 1 }
              if ¬NTSuccess (o index).stringCreate then
                -- the block is freed again
                some (.noString (o index).stringCreate,
                  { allocated with blocks := allocated.blocks - 1 }, localList)
              else
                scan fuel (index + 1) (current + (len + 1)) (o index).stringCreate
                  { allocated with strings := allocated.strings + 1 }
                  (insert localList ⟨callerPid, path⟩)

end Scan

/-- The characters counted are those before the first terminator; all that is read is in the
buffer. -/
theorem wcsnlen_eq {buffer : List WChar} {current remaining : ℕ}
    (h : current + remaining = buffer.length) :
    wcsnlen buffer current remaining = some (cString (buffer.drop current)).length := by
  induction remaining generalizing current with
  | zero =>
    rw [List.drop_eq_nil_of_le (by omega)]
    rfl
  | succ remaining ih =>
    have hlt : current < buffer.length := by omega
    rw [wcsnlen, List.getElem?_eq_getElem hlt, List.drop_eq_getElem_cons hlt, Option.bind_eq_bind,
      Option.bind_some, cString]
    by_cases hc : buffer[current] = nul
    · rw [if_pos hc, List.takeWhile_cons_of_neg (by simpa using hc), List.length_nil]
    · have hrest : current + 1 + remaining = buffer.length := by omega
      rw [if_neg hc, ih hrest, List.takeWhile_cons_of_pos (by simpa using hc), Option.map_some,
        List.length_cons, cString]

/-- A string in front of a last terminator ends before it. -/
theorem length_cString_lt {chars : List WChar} (hne : chars ≠ [])
    (hlast : ∀ c ∈ chars.getLast?, c = nul) : (cString chars).length < chars.length := by
  have hmem : nul ∈ chars := by
    rw [← hlast _ (List.getLast?_eq_some_getLast hne)]
    exact List.getLast_mem hne
  obtain ⟨rest, hrest⟩ := MultiString.exists_eq_append_nul hmem
  have hlength := congrArg List.length hrest
  rw [List.length_append, List.length_cons] at hlength
  rw [cString]
  omega

section Scan

variable {σ : Type} (insert : σ → SessionBlacklistEntry → σ) (o : ℕ → EntryOutcome)
  (callerPid : Handle) {buffer : List WChar}

/-- **The scan** reads nothing at or beyond the end of the buffer, ends before its fuel does, and
never at a string without terminator. It builds what the loop over a list builds, and what is
allocated when it ends are the entries of the local list. -/
theorem scan_eq (fuel index current : ℕ) (ntstatus : NTStatus) (allocated : Allocated)
    (localList : σ) (list : List SessionBlacklistEntry)
    (hcurrent : current ≤ buffer.length) (hfuel : buffer.length - current ≤ fuel)
    (hlast : ∀ c ∈ buffer.getLast?, c = nul) :
    ∃ exit built, scan insert o callerPid buffer buffer.length (fuel + 1) index current ntstatus
          allocated localList =
        some (exit, ⟨allocated.blocks + built.length, allocated.strings + built.length⟩,
          built.foldl insert localList) ∧
      exit ≠ .noTerminator ∧
      buildEntries o callerPid fuel index (buffer.drop current) ntstatus list =
        (exit.ntstatus, list ++ built) := by
  induction fuel generalizing index current ntstatus allocated localList list with
  | zero =>
    refine ⟨.endOfStrings ntstatus, [], ?_, by simp, by simp [buildEntries, ScanExit.ntstatus]⟩
    rw [scan, if_pos (by omega)]
    simp
  | succ fuel ih =>
    rw [scan, buildEntries]
    by_cases hdone : buffer.length ≤ current
    · rw [if_pos hdone, if_pos (.inl (by rw [List.length_drop]; omega))]
      exact ⟨.endOfStrings ntstatus, [], by simp, by simp, by simp [ScanExit.ntstatus]⟩
    have hlt : current < buffer.length := not_le.mp hdone
    have hhead : (buffer.drop current).headD nul = buffer[current] := by
      rw [List.drop_eq_getElem_cons hlt, List.headD_cons]
    rw [if_neg hdone, List.getElem?_eq_getElem hlt, Option.bind_eq_bind, Option.bind_some, hhead,
      List.length_drop]
    by_cases hc : buffer[current] = nul
    · rw [if_pos hc, if_pos (.inr hc)]
      exact ⟨.endOfStrings ntstatus, [], by simp, by simp, by simp [ScanExit.ntstatus]⟩
    -- the character is that of a string, which ends within the buffer
    have hcount : wcsnlen buffer current (buffer.length - current) =
        some (cString (buffer.drop current)).length := wcsnlen_eq (by omega)
    have hterminated : ¬buffer.length - current ≤ (cString (buffer.drop current)).length := by
      have hrest : ∀ c ∈ (buffer.drop current).getLast?, c = nul := by
        rwa [List.getLast?_drop, if_neg hdone]
      have hshorter := length_cString_lt (List.ne_nil_of_length_pos (by simpa using hlt)) hrest
      rwa [not_le, ← List.length_drop]
    rw [if_neg hc, if_neg (by rw [not_or]; exact ⟨by omega, hc⟩)]
    obtain ⟨len, hlen⟩ : ∃ len, (cString (buffer.drop current)).length = len := ⟨_, rfl⟩
    rw [hlen] at hcount hterminated
    simp only [hcount, hlen, Option.bind_eq_bind, Option.bind_some, if_neg hterminated]
    by_cases halloc : (o index).allocated = false
    · rw [if_pos halloc, if_pos halloc]
      exact ⟨.noPool, [], by simp, by simp, by simp [ScanExit.ntstatus]⟩
    rw [if_neg halloc, if_neg halloc]
    by_cases hcreate : NTSuccess (o index).stringCreate
    · -- one more entry on both sides
      rw [if_neg (not_not.mpr hcreate), if_neg (not_not.mpr hcreate), List.drop_drop]
      generalize (⟨callerPid, _⟩ : SessionBlacklistEntry) = entry
      obtain ⟨exit, built, hscan, hexit, hbuild⟩ := ih (index + 1) (current + (len + 1))
        (o index).stringCreate ⟨allocated.blocks + 1, allocated.strings + 1⟩
        (insert localList entry) (list ++ [entry]) (by omega) (by omega)
      refine ⟨exit, entry :: built, hscan.trans ?_, hexit, ?_⟩
      · simp [Nat.add_assoc, Nat.add_comm 1]
      · rw [hbuild, List.append_assoc, List.singleton_append]
    · rw [if_pos hcreate, if_pos hcreate]
      exact ⟨.noString (o index).stringCreate, [], by simp, by simp, by simp [ScanExit.ntstatus]⟩

end Scan

/-! ### The local list in any memory -/

namespace SessionMemory

/-- From the memory `s₀` on, an invocation has built a local list with the entries `added` in the
new blocks `new`. Nothing is asked of the list of the context. -/
structure BuiltLocally (s₀ s : SessionMemory) (added : List SessionBlacklistEntry)
    (new : List ℕ) : Prop where
  localRing : s.links.IsRing (.localHead s₀.invocations) (new.map .entry)
  newEntries : new.map s.entries = added.map some
  fresh : ∀ block ∈ new, s₀.nextBlock ≤ block
  nextBlock : s₀.nextBlock ≤ s.nextBlock
  entries : ∀ block ∉ new, s.entries block = s₀.entries block
  frame : ∀ z ∉ Address.localHead s₀.invocations :: new.map .entry,
    s.links.flink z = s₀.links.flink z ∧ s.links.blink z = s₀.links.blink z

variable {s₀ s : SessionMemory} {added : List SessionBlacklistEntry} {new : List ℕ}

theorem BuiltLocally.enter (s₀ : SessionMemory) : BuiltLocally s₀ s₀.enter [] [] where
  localRing := s₀.links.isRing_initializeListHead _
  newEntries := rfl
  fresh := by simp
  nextBlock := le_rfl
  entries _ _ := rfl
  frame z hz := by
    have hz : z ≠ .localHead s₀.invocations := by simpa using hz
    simp [SessionMemory.enter, LinkMemory.initializeListHead, hz]

theorem BuiltLocally.insertEntry (h : BuiltLocally s₀ s added new) (sbe : SessionBlacklistEntry) :
    BuiltLocally s₀ (s.insertEntry (.localHead s₀.invocations) sbe) (added ++ [sbe])
      (new ++ [s.nextBlock]) := by
  have hnew : s.nextBlock ∉ new := fun hmem =>
    (lt_nextBlock (ne_none_of_map_eq h.newEntries _ hmem)).false
  constructor
  · rw [List.map_append]
    exact h.localRing.insertTailList (by simp [hnew])
  · have hold : new.map (Function.update s.entries s.nextBlock (some sbe)) = new.map s.entries :=
      List.map_congr_left fun block hblock =>
        Function.update_of_ne (by rintro rfl; exact hnew hblock) _ _
    rw [insertEntry_entries, List.map_append, List.map_append, hold, h.newEntries]
    simp
  · intro block hblock
    rcases List.mem_append.mp hblock with hblock | hblock
    · exact h.fresh block hblock
    · exact (List.mem_singleton.mp hblock).symm ▸ h.nextBlock
  · exact h.nextBlock.trans (Nat.le_succ _)
  · intro block hblock
    rw [List.mem_append, List.mem_singleton, not_or] at hblock
    rw [insertEntry_entries, Function.update_of_ne hblock.2, h.entries block hblock.1]
  · intro z hz
    rw [List.map_append, ← List.cons_append, List.mem_append, not_or] at hz
    have hframe := h.localRing.insertTailList_frame hz.1 (by simpa using hz.2)
    exact ⟨hframe.1.trans (h.frame z hz.1).1, hframe.2.trans (h.frame z hz.1).2⟩

theorem BuiltLocally.foldl_insertEntry (h : BuiltLocally s₀ s added new)
    (more : List SessionBlacklistEntry) :
    ∃ new', BuiltLocally s₀
      (more.foldl (SessionMemory.insertEntry · (.localHead s₀.invocations)) s) (added ++ more)
      new' := by
  induction more generalizing s added new with
  | nil => exact ⟨new, by simpa using h⟩
  | cons sbe more ih =>
    obtain ⟨new', hnew⟩ := ih (h.insertEntry sbe)
    exact ⟨new', by simpa using hnew⟩

/-- **The roll back** frees every block of the local list. All blocks are as before the request,
and so are all links but those of the local list. -/
theorem BuiltLocally.rollBack (h : BuiltLocally s₀ s added new) :
    ∃ s', removeEntries (.localHead s₀.invocations) (fun _ => true) (s.nextBlock + 1)
        (s.links.flink (.localHead s₀.invocations)) s = some s' ∧ s'.entries = s₀.entries ∧
      ∀ z, z ≠ .localHead s₀.invocations → (∀ block, s₀.nextBlock ≤ block → z ≠ .entry block) →
        s'.links.flink z = s₀.links.flink z ∧ s'.links.blink z = s₀.links.blink z := by
  have hlive := ne_none_of_map_eq h.newEntries
  obtain ⟨s', hs', hremoved⟩ :=
    removeEntries_all (fun _ => true) h.localRing hlive (Nat.lt_succ_self _)
  refine ⟨s', hs', funext fun block => ?_, fun z hhead hblocks => ?_⟩
  · rw [hremoved.entries]
    by_cases hblock : block ∈ new
    · obtain ⟨sbe, hsbe⟩ := Option.ne_none_iff_exists'.mp (hlive block hblock)
      rw [if_pos ⟨hblock, by simp [keeps, hsbe]⟩, s₀.entries_eq_none block (h.fresh block hblock)]
    · rw [if_neg fun hgone => hblock hgone.1, h.entries block hblock]
  · have hz : z ∉ Address.localHead s₀.invocations :: new.map .entry := by
      rw [List.mem_cons, not_or]
      refine ⟨hhead, fun hmem => ?_⟩
      obtain ⟨block, hblock, rfl⟩ := List.mem_map.mp hmem
      exact hblocks block (h.fresh block hblock) rfl
    have hframe := hremoved.frame z (by simpa using hz)
    exact ⟨hframe.1.trans (h.frame z hz).1, hframe.2.trans (h.frame z hz).2⟩

end SessionMemory

/-! ### The handler -/

namespace AddRequest

variable (r : AddRequest)

/-- `OnControlDeviceIoAddSessionBlacklist`, with its reads of the buffer. -/
def handleScanning (s : SessionMemory) : Option (NTStatus × SessionMemory) :=
  if 0 ≠ r.outputBufferLength then some (statusInvalidParameter, s)
  else if r.input.length < 4 then some (statusInvalidParameter, s)
  else if 0 ≠ r.input.length % 2 then some (statusInvalidParameter, s)
  else if ¬NTSuccess r.o.retrieve then some (r.o.retrieve, s)
  else do
    let buffer := wideChars r.input
    let totalChars := r.input.length / 2
    let last ← buffer[totalChars - 1]?
    let secondLast ← buffer[totalChars - 2]?
    if last ≠ nul ∨ secondLast ≠ nul then some (statusInvalidParameter, s)
    else
      let localHead := Address.localHead s.invocations
      let (exit, _, s) ← scan (SessionMemory.insertEntry · localHead) r.o.entry r.callerPid buffer
        totalChars (totalChars + 1) 0 0 statusSuccess ⟨0, 0⟩ s.enter
      if ¬NTSuccess exit.ntstatus then
        (SessionMemory.removeEntries localHead (fun _ => true) (s.nextBlock + 1)
          (s.links.flink localHead) s).map fun s => (exit.ntstatus, s)
      else if s.links.flink localHead = localHead then some (statusSuccess, s)
      else some (statusSuccess, s.appendTailList localHead)

/-- The scan of a valid request, into any kind of local list. -/
theorem Valid.scan_eq {r : AddRequest} (h : r.Valid) {σ : Type}
    (insert : σ → SessionBlacklistEntry → σ) (localList : σ) :
    let totalChars := r.input.length / 2
    ∃ exit built, scan insert r.o.entry r.callerPid (wideChars r.input) totalChars (totalChars + 1)
          0 0 statusSuccess ⟨0, 0⟩ localList =
        some (exit, ⟨built.length, built.length⟩, built.foldl insert localList) ∧
      exit ≠ .noTerminator ∧
      buildEntries r.o.entry r.callerPid totalChars 0 (wideChars r.input) statusSuccess [] =
        (exit.ntstatus, built) := by
  have hlast := h.2.2.2.2.last
  have hscan := HidHide.scan_eq insert r.o.entry r.callerPid (r.input.length / 2) 0 0
    statusSuccess ⟨0, 0⟩ localList [] (Nat.zero_le _) (by rw [length_wideChars, Nat.sub_zero]) hlast
  simpa [length_wideChars] using hscan

/-- **The reads stay within the buffer**: with them the handler does what it does without. -/
theorem handleScanning_eq (s : SessionMemory) : r.handleScanning s = r.handle s := by
  rw [handleScanning, handle, SessionMemory.onControlDeviceIoAddSessionBlacklist]
  by_cases hout : 0 ≠ r.outputBufferLength
  · rw [if_pos hout, if_pos hout]
  by_cases hlen : r.input.length < 4
  · rw [if_neg hout, if_neg hout, if_pos hlen, if_pos hlen]
  by_cases heven : 0 ≠ r.input.length % 2
  · simp only [if_neg hout, if_neg hlen, if_pos heven]
  by_cases hretrieve : ¬NTSuccess r.o.retrieve
  · simp only [if_neg hout, if_neg hlen, if_neg heven, if_pos hretrieve]
  -- both of the last characters are in the buffer
  have hlength := length_wideChars r.input
  have hread : ∀ i < (wideChars r.input).length,
      (wideChars r.input)[i]? = some ((wideChars r.input).getD i nul) := fun i hi => by
    rw [List.getD_eq_getElem?_getD, List.getElem?_eq_getElem hi, Option.getD_some]
  have hlast := hread (r.input.length / 2 - 1) (by omega)
  have hsecondLast := hread (r.input.length / 2 - 2) (by omega)
  simp only [if_neg hout, if_neg hlen, if_neg heven, if_neg hretrieve, hlast, hsecondLast,
    Option.bind_eq_bind, Option.bind_some]
  by_cases hends : (wideChars r.input).getD (r.input.length / 2 - 1) nul ≠ nul ∨
      (wideChars r.input).getD (r.input.length / 2 - 2) nul ≠ nul
  · rw [if_pos hends, if_pos hends]
  -- the scan inserts what the loop inserts
  have hvalid : r.Valid := by
    refine ⟨by omega, by omega, by omega, not_not.mp hretrieve, ?_⟩
    rwa [endsInTwo_iff_getD (by omega), hlength]
  obtain ⟨exit, built, hscan, -, hbuilt⟩ := hvalid.scan_eq
    (SessionMemory.insertEntry · (.localHead s.invocations)) s.enter
  have hmemory := SessionMemory.buildEntries_eq_foldl r.o.entry r.callerPid
    (.localHead s.invocations) (r.input.length / 2) 0 (wideChars r.input) statusSuccess s.enter []
  rw [List.foldl_nil, hbuilt] at hmemory
  simp only [if_neg hends, hscan, hmemory, Option.bind_some]

/-- **What a request does to any memory.** If it fails, every block is as before, and so are all
links but those of the local list; if it succeeds, there are new blocks with its entries. -/
theorem handleScanning_spec (s : SessionMemory) :
    ∃ ntstatus s', r.handleScanning s = some (ntstatus, s') ∧ (NTSuccess ntstatus ↔ r.Succeeds) ∧
      (¬r.Succeeds → s'.entries = s.entries ∧ ∀ z, z ≠ .localHead s.invocations →
        (∀ block, s.nextBlock ≤ block → z ≠ .entry block) →
          s'.links.flink z = s.links.flink z ∧ s'.links.blink z = s.links.blink z) ∧
      (r.Succeeds → ∃ new : List ℕ, new.map s'.entries = r.entries.map some ∧
        (∀ block ∈ new, s.nextBlock ≤ block) ∧
        ∀ block ∉ new, s'.entries block = s.entries block) := by
  rw [handleScanning_eq]
  by_cases hvalid : r.Valid
  · obtain ⟨ntstatus, built, hmemory, hsucceeds, hall⟩ := hvalid.buildEntries_eq s
    obtain ⟨new, hnew⟩ := (SessionMemory.BuiltLocally.enter s).foldl_insertEntry
      (built.map (sessionEntry r.callerPid))
    rw [handle_of_valid r s hvalid]
    simp only [hmemory]
    by_cases hstatus : NTSuccess ntstatus
    · have hr := hsucceeds.mp hstatus
      obtain rfl : built = r.strings := hall hstatus
      have hentries := hnew.newEntries
      rw [List.nil_append] at hentries
      -- the splice changes links only
      rw [if_neg (not_not.mpr hstatus)]
      split_ifs
      · exact ⟨_, _, rfl, iff_of_true ntSuccess_statusSuccess hr, fun h => absurd hr h,
          fun _ => ⟨new, hentries, hnew.fresh, hnew.entries⟩⟩
      · exact ⟨_, _, rfl, iff_of_true ntSuccess_statusSuccess hr, fun h => absurd hr h,
          fun _ => ⟨new, hentries, hnew.fresh, hnew.entries⟩⟩
    · obtain ⟨s', hs', hrolledBack⟩ := hnew.rollBack
      rw [if_pos hstatus, hs']
      exact ⟨ntstatus, s', rfl, hsucceeds, fun _ => hrolledBack,
        fun hr => absurd (hsucceeds.mpr hr) hstatus⟩
  · obtain ⟨ntstatus, hhandle, hstatus⟩ := r.handle_of_not_valid s hvalid
    exact ⟨ntstatus, s, hhandle, iff_of_false hstatus fun hr => hvalid hr.1,
      fun _ => ⟨rfl, fun _ _ _ => ⟨rfl, rfl⟩⟩, fun hr => absurd hr.1 hvalid⟩

end AddRequest

/-! ### Exactness -/

section Exactness

variable (o : IoOutcome) (callerPid : Handle) (input : List UInt8)

/-- A request to add entries, with this input and no output buffer. -/
def addSession (d : Driver) : NTStatus × WdfRequest × Driver :=
  (WdfRequest.arrived input []).onControlDeviceIoAddSessionBlacklist o d callerPid

/-- The same request to the memory. -/
def addSessionRequest : AddRequest := (WdfRequest.arrived input []).addRequest o callerPid

/-- The entries that the strings of the input stand for. -/
def exactEntries : List SessionBlacklistEntry :=
  (MultiString.decode nul (wideChars input)).map (⟨callerPid, ·⟩)

/-- What a request with this input and no output buffer is to do, in every state of the driver and
of its memory. -/
structure DecodesExactly : Prop where
  /-- It succeeds only if its input is a multi-string. -/
  multiString : ∀ d, NTSuccess (addSession o callerPid input d).1 →
    4 ≤ input.length ∧ input.length % 2 = 0 ∧ MultiString.EndsInTwo nul (wideChars input)
  /-- Then it adds the strings of its input. -/
  added : ∀ d, NTSuccess (addSession o callerPid input d).1 → (addSession o callerPid input d).2.2 =
    d.withSessionBlacklist (d.context.sessionBlacklist ++ exactEntries callerPid input)
  /-- It succeeds for a multi-string when no call fails. -/
  success : 4 ≤ input.length → input.length % 2 = 0 →
    MultiString.EndsInTwo nul (wideChars input) → NTSuccess o.retrieve →
    (∀ i < (MultiString.decode nul (wideChars input)).length, (o.entry i).Ok) →
      ∀ d, NTSuccess (addSession o callerPid input d).1
  /-- When it fails, no entry is added. -/
  failed : ∀ d, ¬NTSuccess (addSession o callerPid input d).1 →
    (addSession o callerPid input d).2.2 = d
  /-- With its buffer in memory it returns: it reads nothing at or beyond the end. -/
  returns : ∀ s, ∃ ntstatus s', (addSessionRequest o callerPid input).handleScanning s =
      some (ntstatus, s') ∧
    (∀ d, NTSuccess ntstatus ↔ NTSuccess (addSession o callerPid input d).1) ∧
    -- what has been built is freed, and no list but the local one is touched
    (¬NTSuccess ntstatus → s'.entries = s.entries ∧ ∀ z, z ≠ .localHead s.invocations →
      (∀ block, s.nextBlock ≤ block → z ≠ .entry block) →
        s'.links.flink z = s.links.flink z ∧ s'.links.blink z = s.links.blink z) ∧
    (NTSuccess ntstatus → ∃ new : List ℕ,
      new.map s'.entries = (exactEntries callerPid input).map some ∧
      (∀ block ∈ new, s.nextBlock ≤ block) ∧ ∀ block ∉ new, s'.entries block = s.entries block)
  /-- The scan of a valid request ends, never at a string without terminator, and what is allocated
  then are the entries of the local list. -/
  scan : (addSessionRequest o callerPid input).Valid →
    ∃ exit, ∃ localList : List SessionBlacklistEntry,
      scan (fun list sbe => list ++ [sbe]) o.entry callerPid (wideChars input) (input.length / 2)
          (input.length / 2 + 1) 0 0 statusSuccess ⟨0, 0⟩ [] =
        some (exit, ⟨localList.length, localList.length⟩, localList) ∧ exit ≠ .noTerminator

/-- The entry for a string has its characters exactly when they fit a `UNICODE_STRING`. -/
theorem sessionEntry_eq_iff (callerPid : Handle) (string : UnicodeString) :
    sessionEntry callerPid string = ⟨callerPid, string⟩ ↔ string.length < 2 ^ 15 := by
  constructor
  · intro h
    have hlength := congrArg (·.deviceInstancePath.length) h
    simp only [sessionEntry, List.length_take] at hlength
    omega
  · intro h
    have hpath := sessionEntry_deviceInstancePath callerPid h
    exact congrArg (SessionBlacklistEntry.mk callerPid) hpath

theorem addSessionRequest_entries_eq_iff :
    (addSessionRequest o callerPid input).entries = exactEntries callerPid input ↔
      ∀ string ∈ (addSessionRequest o callerPid input).strings, string.length < 2 ^ 15 := by
  simp only [← sessionEntry_eq_iff callerPid]
  exact List.map_inj_left

theorem succeeds_iff_ntSuccess (d : Driver) :
    (addSessionRequest o callerPid input).Succeeds ↔
      NTSuccess (addSession o callerPid input d).1 := by
  rw [addSession, (handled_addSessionBlacklist o _ d callerPid).status, addSessionRequest,
    AddRequest.succeeds_iff_steps]

theorem addSession_driver (d : Driver) : (addSession o callerPid input d).2.2 =
    if (addSessionRequest o callerPid input).Succeeds then
      d.withSessionBlacklist
        (d.context.sessionBlacklist ++ (addSessionRequest o callerPid input).entries)
    else d :=
  addSessionBlacklist_driver o (.arrived input []) d callerPid

variable {o callerPid input} in
/-- A request that adds the strings of its buffer adds its own entries for them. -/
theorem DecodesExactly.entries_eq (h : DecodesExactly o callerPid input)
    (hsucceeds : (addSessionRequest o callerPid input).Succeeds) :
    (addSessionRequest o callerPid input).entries = exactEntries callerPid input := by
  have hadded := h.added firstDriver
    ((succeeds_iff_ntSuccess o callerPid input firstDriver).mp hsucceeds)
  rw [addSession_driver, if_pos hsucceeds] at hadded
  exact List.append_cancel_left (congrArg (·.context.sessionBlacklist) hadded)

/-- **A request adds the strings of its buffer, all of them or none**, if and only if it fails or
each of them has fewer than `2 ^ 15` characters. -/
theorem decodesExactly_iff : DecodesExactly o callerPid input ↔
    ((addSessionRequest o callerPid input).Succeeds →
      ∀ string ∈ (addSessionRequest o callerPid input).strings, string.length < 2 ^ 15) := by
  have hiff := succeeds_iff_ntSuccess o callerPid input
  rw [← forall_congr' fun _ => addSessionRequest_entries_eq_iff o callerPid input]
  constructor
  · exact fun h hsucceeds => h.entries_eq hsucceeds
  · intro hentries
    constructor
    · intro d hstatus
      obtain ⟨-, hlen, heven, -, hends⟩ := ((hiff d).mpr hstatus).1
      exact ⟨hlen, heven, hends⟩
    · intro d hstatus
      have hsucceeds := (hiff d).mpr hstatus
      rw [addSession_driver, if_pos hsucceeds, hentries hsucceeds]
    · intro hlen heven hends hretrieve hcalls d
      exact (hiff d).mp ⟨⟨rfl, hlen, heven, hretrieve, hends⟩, hcalls⟩
    · intro d hstatus
      rw [addSession_driver, if_neg (mt (hiff d).mp hstatus)]
    · intro s
      obtain ⟨ntstatus, s', hs', hstatus, hfails, hadds⟩ :=
        (addSessionRequest o callerPid input).handleScanning_spec s
      refine ⟨ntstatus, s', hs', fun d => hstatus.trans (hiff d),
        fun h => hfails (mt hstatus.mpr h), fun h => ?_⟩
      rw [← hentries (hstatus.mp h)]
      exact hadds (hstatus.mp h)
    · intro hvalid
      obtain ⟨exit, built, hscan, hexit, -⟩ := hvalid.scan_eq (fun list sbe => list ++ [sbe]) []
      have hlist : built.foldl (fun list sbe => list ++ [sbe]) [] = built := by
        rw [List.foldl_append_eq_append, List.nil_append, ← List.flatMap_def,
          List.flatMap_singleton']
      rw [hlist] at hscan
      exact ⟨exit, built, hscan, hexit⟩

/-! ### A string of `2 ^ 15` characters -/

/-- The bytes of a multi-string with one string, of the letter A. -/
def longInput (n : ℕ) : List UInt8 := (List.replicate n [0x41, 0]).flatten ++ [0, 0, 0, 0]

theorem wideChars_longInput (n : ℕ) :
    wideChars (longInput n) = List.replicate n 0x41 ++ [nul, nul] := by
  induction n with
  | zero => rfl
  | succ n ih =>
    have hinput : longInput (n + 1) = 0x41 :: 0 :: longInput n := by
      simp [longInput, List.replicate_succ]
    rw [hinput, wideChars, ih]
    rfl

theorem strings_longInput (n : ℕ) :
    (addSessionRequest .success 8 (longInput (n + 1))).strings =
      [List.replicate (n + 1) 0x41] := by
  have hnul : nul ∉ List.replicate (n + 1) (0x41 : WChar) := by
    simp [List.mem_replicate, nul]
  rw [AddRequest.strings]
  change MultiString.decode nul (wideChars (longInput (n + 1))) = _
  rw [wideChars_longInput, MultiString.decode_append_nul hnul (by simp),
    MultiString.decode_nul_cons]

theorem succeeds_longInput (n : ℕ) :
    (addSessionRequest .success 8 (longInput (n + 1))).Succeeds := by
  have hlength : (longInput (n + 1)).length = 2 * n + 6 := by
    simp [longInput]
    omega
  refine ⟨⟨rfl, ?_, ?_, ntSuccess_statusSuccess, ?_⟩, fun _ _ => ⟨rfl, ntSuccess_statusSuccess⟩⟩
  · exact hlength ▸ by omega
  · exact hlength ▸ by omega
  · exact ⟨_, (wideChars_longInput (n + 1)).symm⟩

/-- The first string that does not fit: its entry has the empty path. -/
theorem not_decodesExactly_longInput : ¬DecodesExactly .success 8 (longInput (2 ^ 15)) := by
  intro h
  obtain ⟨n, hn⟩ : ∃ n, 2 ^ 15 = n + 1 := ⟨32767, rfl⟩
  rw [hn] at h
  have hfits := (addSessionRequest_entries_eq_iff _ _ _).mp (h.entries_eq (succeeds_longInput n))
  rw [strings_longInput n, List.forall_mem_singleton, List.length_replicate] at hfits
  omega

end Exactness

end HidHide
