import HidHide.ForMathlib.LinkedRing
import HidHide.Driver.Logic

/-!
# The memory of the session blacklist

The session blacklist at the level of its pointers: the links of the list heads and of the
entries, and the blocks of the pool that are in use. The heads are the one in the control device
context and, for each invocation of the handler that adds entries, its local variable.

`Represents` connects this memory to the list of entries of `HidHide.Driver.Logic`: the ring of
the context's head consists of exactly the blocks in use, in the order of the list. The loops over
the ring are one function, `removeEntries`, with one law; `Building` is what holds while a handler
builds its local ring next to the one of the context.
-/

namespace HidHide

/-- Where a `LIST_ENTRY` can be. -/
inductive Address where
  | sessionBlacklistHead
  | localHead (invocation : ℕ)
  | entry (block : ℕ)
  deriving DecidableEq, Repr

/-- The links, and the blocks in use with their entries. Blocks and invocations are numbered as
they come. -/
structure SessionMemory where
  links : LinkMemory Address
  entries : ℕ → Option SessionBlacklistEntry
  nextBlock : ℕ
  invocations : ℕ
  /-- The blocks to come are not in use. -/
  entries_eq_none : ∀ block, nextBlock ≤ block → entries block = none

namespace SessionMemory

variable (s : SessionMemory)

/-- The memory after the initialization of the head, whatever the links were before. -/
def start (links : LinkMemory Address) : SessionMemory where
  links := links.initializeListHead .sessionBlacklistHead
  entries _ := none
  nextBlock := 0
  invocations := 0
  entries_eq_none _ _ := rfl

/-- The local head of an invocation is initialized. -/
def enter : SessionMemory :=
  { s with
    links := s.links.initializeListHead (.localHead s.invocations)
    invocations := s.invocations + 1 }

/-- A new block with the entry is inserted at the tail of the list. -/
def insertEntry (head : Address) (sbe : SessionBlacklistEntry) : SessionMemory :=
  { s with
    links := s.links.insertTailList head (.entry s.nextBlock)
    entries := Function.update s.entries s.nextBlock (some sbe)
    nextBlock := s.nextBlock + 1
    entries_eq_none := fun block hblock => by
      rw [Function.update_of_ne (Nat.ne_of_gt hblock), s.entries_eq_none block (by omega)] }

/-- The entry is removed from its list, its string deleted and its block freed. -/
def removeEntry (block : ℕ) : SessionMemory :=
  { s with
    links := s.links.removeEntryList (.entry block)
    entries := Function.update s.entries block none
    entries_eq_none := fun block' hblock => by
      rw [Function.update_apply, s.entries_eq_none block' hblock, ite_self] }

/-- The list is appended to the one of the context, with its head. -/
def appendTailList (localHead : Address) : SessionMemory :=
  { s with links := s.links.appendTailList .sessionBlacklistHead localHead }

/-- The loops over a list that remove entries: they differ in the head, and in the entries that
they remove. The loop is at `entry`; a node that is not a block in use has no entry to look at, and
the result is `none`, as it is when the fuel does not suffice. -/
def removeEntries (head : Address) (remove : SessionBlacklistEntry → Bool) :
    ℕ → Address → SessionMemory → Option SessionMemory
  | 0, _, _ => none
  | fuel + 1, entry, s =>
      if entry = head then some s
      else
        match entry with
        | .entry block =>
            match s.entries block with
            | none => none
            | some sbe =>
                let next := s.links.flink entry
                removeEntries head remove fuel next (if remove sbe then s.removeEntry block else s)
        | _ => none

/-- `SessionBlacklistCleanupForPid`. -/
def sessionBlacklistCleanupForPid (processId : Handle) : Option SessionMemory :=
  removeEntries .sessionBlacklistHead (·.ownerPid = processId) (s.nextBlock + 1)
    (s.links.flink .sessionBlacklistHead) s

/-- `OnControlDeviceContextCleanup`. -/
def onControlDeviceContextCleanup : Option SessionMemory :=
  removeEntries .sessionBlacklistHead (fun _ => true) (s.nextBlock + 1)
    (s.links.flink .sessionBlacklistHead) s

/-- The loop over the session blacklist in `Blacklisted`. -/
def checkSessionBlacklist (upcase : WChar → WChar) (deviceInstancePath : UnicodeString) :
    ℕ → Address → Option Bool
  | 0, _ => none
  | fuel + 1, entry =>
      if entry = .sessionBlacklistHead then some false
      else
        match entry with
        | .entry block =>
            match s.entries block with
            | none => none
            | some sbe =>
                if RtlCompareEqual upcase sbe.deviceInstancePath deviceInstancePath then some true
                else checkSessionBlacklist upcase deviceInstancePath fuel (s.links.flink entry)
        | _ => none

/-! ### The ring and the list -/

/-- **The memory represents the list**: the ring of the context's head consists of exactly the
blocks in use, and their entries are those of the list, in its order. -/
def Represents (list : List SessionBlacklistEntry) : Prop :=
  ∃ blocks : List ℕ, s.links.IsRing .sessionBlacklistHead (blocks.map .entry) ∧
    blocks.map s.entries = list.map some ∧ ∀ block, s.entries block ≠ none → block ∈ blocks

variable {s} {s' : SessionMemory} {head : Address} {list : List SessionBlacklistEntry}

theorem start_represents (links : LinkMemory Address) : (start links).Represents [] :=
  ⟨[], links.isRing_initializeListHead _, rfl, fun _ h => absurd rfl h⟩

/-- The blocks of a represented list are in use. -/
theorem ne_none_of_map_eq {f : ℕ → Option SessionBlacklistEntry} {blocks : List ℕ}
    (h : blocks.map f = list.map some) : ∀ block ∈ blocks, f block ≠ none := by
  intro block hblock
  have hmem : f block ∈ list.map some := h ▸ List.mem_map_of_mem hblock
  obtain ⟨sbe, -, heq⟩ := List.mem_map.mp hmem
  rw [← heq]
  exact Option.some_ne_none sbe

/-- Blocks in use have been handed out. -/
theorem lt_nextBlock {block : ℕ} (h : s.entries block ≠ none) : block < s.nextBlock := by
  by_contra hlt
  exact h (s.entries_eq_none block (not_lt.mp hlt))

/-- A ring of blocks in use is no longer than the number of blocks handed out. -/
theorem length_le_nextBlock {blocks : List ℕ} (hring : s.links.IsRing head (blocks.map .entry))
    (hlive : ∀ block ∈ blocks, s.entries block ≠ none) : blocks.length ≤ s.nextBlock := by
  have hnodup : blocks.Nodup := (List.nodup_cons.mp hring.nodup).2.of_map
  have hsub : blocks ⊆ List.range s.nextBlock := fun block hblock =>
    List.mem_range.mpr (lt_nextBlock (hlive block hblock))
  simpa using (hnodup.subperm hsub).length_le

/-- **The walk from the head** visits the blocks in use, in the order of the list, and returns. -/
theorem Represents.walk (h : s.Represents list) : ∃ blocks : List ℕ,
    s.links.walk .sessionBlacklistHead (s.nextBlock + 1) (s.links.flink .sessionBlacklistHead) =
      some (blocks.map .entry) ∧
    blocks.map s.entries = list.map some ∧ ∀ block, s.entries block ≠ none ↔ block ∈ blocks := by
  obtain ⟨blocks, hring, hentries, hall⟩ := h
  have hlive := ne_none_of_map_eq hentries
  refine ⟨blocks, hring.walk_eq ?_, hentries, fun block => ⟨hall block, hlive block⟩⟩
  rw [List.length_map]
  exact Nat.lt_succ_of_le (length_le_nextBlock hring hlive)

/-! ### Removing entries from a ring -/

@[simp] theorem removeEntry_links (block : ℕ) :
    (s.removeEntry block).links = s.links.removeEntryList (.entry block) := rfl

@[simp] theorem removeEntry_entries (block : ℕ) :
    (s.removeEntry block).entries = Function.update s.entries block none := rfl

/-- The loop leaves the block in its list. -/
def keeps (s : SessionMemory) (remove : SessionBlacklistEntry → Bool) (block : ℕ) : Bool :=
  (s.entries block).all fun sbe => !remove sbe

/-- What a removing loop does: the blocks it passes in `todo` are removed, or kept in their order,
and everything else is as before. -/
structure Removed (s s' : SessionMemory) (head : Address)
    (remove : SessionBlacklistEntry → Bool) (visited todo : List ℕ) : Prop where
  ring : s'.links.IsRing head ((visited ++ todo.filter (s.keeps remove)).map .entry)
  entries : ∀ block, s'.entries block =
    if block ∈ todo ∧ s.keeps remove block = false then none else s.entries block
  frame : ∀ z ∉ head :: (visited ++ todo).map Address.entry,
    s'.links.flink z = s.links.flink z ∧ s'.links.blink z = s.links.blink z
  invocations : s'.invocations = s.invocations

/-- **The law of the removing loops.** The loop is at the first of the blocks `todo`, with the
blocks `visited` behind it. -/
theorem removeEntries_eq {remove : SessionBlacklistEntry → Bool} {fuel : ℕ} (visited : List ℕ)
    {todo : List ℕ} (hring : s.links.IsRing head ((visited ++ todo).map .entry))
    (hlive : ∀ block ∈ todo, s.entries block ≠ none) (hfuel : todo.length < fuel) :
    ∃ s', removeEntries head remove fuel ((todo.map .entry).headD head) s = some s' ∧
      Removed s s' head remove visited todo := by
  induction todo generalizing s visited fuel with
  | nil =>
    obtain ⟨fuel, rfl⟩ := Nat.exists_eq_succ_of_ne_zero hfuel.ne'
    exact ⟨s, by simp [removeEntries], by simpa using hring, by simp, by simp, rfl⟩
  | cons block todo ih =>
    obtain ⟨fuel, rfl⟩ := Nat.exists_eq_succ_of_ne_zero (Nat.zero_lt_of_lt hfuel).ne'
    obtain ⟨sbe, hsbe⟩ := Option.ne_none_iff_exists'.mp (hlive block List.mem_cons_self)
    rw [List.map_append, List.map_cons] at hring
    have hhead : Address.entry block ≠ head := by
      rintro rfl
      exact hring.head_notMem (by simp)
    have hnext : s.links.flink (.entry block) = (todo.map .entry).headD head :=
      hring.flink_eq_headD
    have hstep : removeEntries head remove (fuel + 1) (((block :: todo).map .entry).headD head) s =
        removeEntries head remove fuel ((todo.map .entry).headD head)
          (if remove sbe then s.removeEntry block else s) := by
      simp [removeEntries, hhead, hsbe, hnext]
    have hfuel : todo.length < fuel := by simpa using hfuel
    rw [hstep]
    have hnotMem : block ∉ todo := by
      have hnodup := (List.nodup_cons.mp hring.nodup).2.of_append_right
      exact fun hmem => (List.nodup_cons.mp hnodup).1 (List.mem_map_of_mem hmem)
    by_cases hremove : remove sbe = true
    · -- the next entry was read before the removal, and the rest goes on without the block
      rw [if_pos hremove]
      have hring' : (s.removeEntry block).links.IsRing head ((visited ++ todo).map .entry) := by
        rw [removeEntry_links, List.map_append]
        exact hring.removeEntryList
      have hentries : ∀ other, other ≠ block →
          (s.removeEntry block).entries other = s.entries other := fun other hother => by
        rw [removeEntry_entries, Function.update_of_ne hother]
      have hkeeps : ∀ other, other ≠ block →
          (s.removeEntry block).keeps remove other = s.keeps remove other := fun other hother => by
        rw [keeps, hentries other hother, keeps]
      have hblock : s.keeps remove block = false := by simp [keeps, hsbe, hremove]
      obtain ⟨s', hs', hrest⟩ := ih visited hring' (fun other hother => by
        rw [hentries other fun h => hnotMem (h ▸ hother)]
        exact hlive other (List.mem_cons_of_mem _ hother)) hfuel
      refine ⟨s', hs', ?_, fun other => ?_, fun z hz => ?_, hrest.invocations⟩
      · rw [List.filter_cons_of_neg (by simp [hblock]), List.filter_congr fun other hother =>
          (hkeeps other fun h => hnotMem (h ▸ hother)).symm]
        exact hrest.ring
      · rw [hrest.entries]
        rcases eq_or_ne other block with rfl | hother
        · simp [hnotMem, hblock]
        · simp [hkeeps other hother, hentries other hother, hother]
      · have hremoved := hring.removeEntryList_frame (z := z) (by simpa using hz)
        obtain ⟨hflink, hblink⟩ := hrest.frame z fun hmem => hz (by
          simp only [List.map_append, List.mem_cons, List.mem_append, List.map_cons] at hmem ⊢
          tauto)
        exact ⟨hflink.trans hremoved.1, hblink.trans hremoved.2⟩
    · -- the block joins those behind the loop
      rw [if_neg hremove]
      have hblock : s.keeps remove block = true := by simp [keeps, hsbe, hremove]
      obtain ⟨s', hs', hrest⟩ := ih (visited ++ [block]) (by simpa using hring)
        (fun other hother => hlive other (List.mem_cons_of_mem _ hother)) hfuel
      refine ⟨s', hs', ?_, fun other => ?_, fun z hz => ?_, hrest.invocations⟩
      · rw [List.filter_cons_of_pos hblock]
        simpa using hrest.ring
      · rw [hrest.entries]
        rcases eq_or_ne other block with rfl | hother
        · simp [hblock]
        · simp [hother]
      · exact hrest.frame z (by simpa using hz)

/-- The loops over a whole ring. -/
theorem removeEntries_all (remove : SessionBlacklistEntry → Bool) {fuel : ℕ} {blocks : List ℕ}
    (hring : s.links.IsRing head (blocks.map .entry))
    (hlive : ∀ block ∈ blocks, s.entries block ≠ none) (hfuel : s.nextBlock < fuel) :
    ∃ s', removeEntries head remove fuel (s.links.flink head) s = some s' ∧
      Removed s s' head remove [] blocks := by
  rw [hring.flink_head]
  exact removeEntries_eq [] hring hlive
    (lt_of_le_of_lt (length_le_nextBlock hring hlive) hfuel)

/-- The kept blocks have the kept entries. -/
theorem map_filter_keeps {remove : SessionBlacklistEntry → Bool} {blocks : List ℕ}
    (hentries : blocks.map s.entries = list.map some) :
    (blocks.filter (s.keeps remove)).map s.entries = (list.filter (!remove ·)).map some := by
  induction blocks generalizing list with
  | nil =>
    obtain rfl : list = [] := by simpa using hentries.symm
    rfl
  | cons block blocks ih =>
    obtain ⟨sbe, list, rfl, hblock, hblocks⟩ := List.map_eq_cons_iff.mp hentries.symm
    rw [List.filter_cons, List.filter_cons, keeps, ← hblock, Option.all_some]
    cases remove sbe
    · simp [← hblock, ih hblocks.symm]
    · simp [ih hblocks.symm]

/-- **Removing from a represented list** removes exactly the entries in question and keeps the
others in their order. -/
theorem Represents.removeEntries (h : s.Represents list) (remove : SessionBlacklistEntry → Bool) :
    ∃ s', SessionMemory.removeEntries .sessionBlacklistHead remove (s.nextBlock + 1)
        (s.links.flink .sessionBlacklistHead) s = some s' ∧
      s'.Represents (list.filter (!remove ·)) := by
  obtain ⟨blocks, hring, hentries, hall⟩ := h
  obtain ⟨s', hs', hremoved⟩ :=
    removeEntries_all remove hring (ne_none_of_map_eq hentries) (Nat.lt_succ_self _)
  refine ⟨s', hs', blocks.filter (s.keeps remove), by simpa using hremoved.ring, ?_,
    fun block hblock => ?_⟩
  · rw [← map_filter_keeps hentries]
    refine List.map_congr_left fun block hblock => ?_
    rw [hremoved.entries, if_neg (by simp [(List.mem_filter.mp hblock).2])]
  · rw [hremoved.entries] at hblock
    split_ifs at hblock with hgone
    · exact absurd rfl hblock
    · have hmem := hall block hblock
      exact List.mem_filter.mpr ⟨hmem, by simpa [hmem] using hgone⟩

/-- **`SessionBlacklistCleanupForPid`** removes exactly the entries of the process. -/
theorem Represents.sessionBlacklistCleanupForPid (h : s.Represents list) (processId : Handle) :
    ∃ s', s.sessionBlacklistCleanupForPid processId = some s' ∧
      s'.Represents (list.filter (·.ownerPid ≠ processId)) := by
  obtain ⟨s', hs', hrepresents⟩ := h.removeEntries (·.ownerPid = processId)
  exact ⟨s', hs', by simpa using hrepresents⟩

/-- The pointers follow the list of the driver through the end of a process. -/
theorem Represents.onSystemProcessChange {d : Driver}
    (h : s.Represents d.context.sessionBlacklist) (processId : Handle) :
    ∃ s', s.sessionBlacklistCleanupForPid processId = some s' ∧
      s'.Represents (onSystemProcessChange d processId false).context.sessionBlacklist := by
  rw [HidHide.onSystemProcessChange, if_pos rfl]
  exact h.sessionBlacklistCleanupForPid processId

/-- **`OnControlDeviceContextCleanup`** leaves no entry behind. -/
theorem Represents.onControlDeviceContextCleanup (h : s.Represents list) :
    ∃ s', s.onControlDeviceContextCleanup = some s' ∧ s'.Represents [] := by
  obtain ⟨s', hs', hrepresents⟩ := h.removeEntries fun _ => true
  exact ⟨s', hs', by simpa using hrepresents⟩

/-! ### Looking for an entry -/

/-- The loop of `Blacklisted` over the part of a ring that is still ahead. -/
private theorem checkSessionBlacklist_eq (upcase : WChar → WChar)
    (deviceInstancePath : UnicodeString) {fuel : ℕ} (visited : List ℕ) {todo : List ℕ}
    (hring : s.links.IsRing .sessionBlacklistHead ((visited ++ todo).map .entry))
    (hentries : todo.map s.entries = list.map some) (hfuel : todo.length < fuel) :
    s.checkSessionBlacklist upcase deviceInstancePath fuel
        ((todo.map .entry).headD .sessionBlacklistHead) =
      some (list.any fun sbe => RtlCompareEqual upcase sbe.deviceInstancePath
        deviceInstancePath) := by
  induction todo generalizing visited list fuel with
  | nil =>
    obtain ⟨fuel, rfl⟩ := Nat.exists_eq_succ_of_ne_zero hfuel.ne'
    obtain rfl : list = [] := by simpa using hentries.symm
    simp [checkSessionBlacklist]
  | cons block todo ih =>
    obtain ⟨fuel, rfl⟩ := Nat.exists_eq_succ_of_ne_zero (Nat.zero_lt_of_lt hfuel).ne'
    obtain ⟨sbe, list, rfl, hblock, hblocks⟩ := List.map_eq_cons_iff.mp hentries.symm
    have hnext : s.links.flink (.entry block) =
        (todo.map .entry).headD .sessionBlacklistHead := by
      rw [List.map_append, List.map_cons] at hring
      exact hring.flink_eq_headD
    have hrest := ih (visited ++ [block]) (by simpa using hring) hblocks.symm
      (by simpa using hfuel)
    simp only [List.map_cons, List.headD_cons, checkSessionBlacklist, reduceCtorEq, if_false,
      ← hblock, hnext, List.any_cons, hrest]
    split_ifs with hequal <;> simp [hequal]

/-- **The loop of `Blacklisted`** finds an entry exactly when the list has one. -/
theorem Represents.checkSessionBlacklist (h : s.Represents list) (upcase : WChar → WChar)
    (deviceInstancePath : UnicodeString) :
    s.checkSessionBlacklist upcase deviceInstancePath (s.nextBlock + 1)
        (s.links.flink .sessionBlacklistHead) =
      some (list.any fun sbe => RtlCompareEqual upcase sbe.deviceInstancePath
        deviceInstancePath) := by
  obtain ⟨blocks, hring, hentries, -⟩ := h
  rw [hring.flink_head]
  exact checkSessionBlacklist_eq upcase deviceInstancePath [] hring hentries
    (Nat.lt_succ_of_le (length_le_nextBlock hring (ne_none_of_map_eq hentries)))

/-! ### Building a local list -/

/-- A handler has built a local list with the entries `added` next to the list of the context. -/
structure Building (s : SessionMemory) (invocation : ℕ) (list added : List SessionBlacklistEntry)
    (blocks new : List ℕ) : Prop where
  ring : s.links.IsRing .sessionBlacklistHead (blocks.map .entry)
  localRing : s.links.IsRing (.localHead invocation) (new.map .entry)
  entries : blocks.map s.entries = list.map some
  newEntries : new.map s.entries = added.map some
  disjoint : blocks.Disjoint new
  live : ∀ block, s.entries block ≠ none → block ∈ blocks ++ new

variable {invocation : ℕ} {added : List SessionBlacklistEntry} {blocks new : List ℕ}

/-- The local ring and the one of the context have no address in common. -/
theorem Building.rings_disjoint (h : s.Building invocation list added blocks new) :
    (Address.sessionBlacklistHead :: blocks.map .entry).Disjoint
      (.localHead invocation :: new.map .entry) := by
  intro z hz hz'
  rcases List.mem_cons.mp hz with rfl | hz
  · simp at hz'
  · obtain ⟨block, hblock, rfl⟩ := List.mem_map.mp hz
    have hnotMem : block ∉ new := fun hnew => h.disjoint hblock hnew
    simp [hnotMem] at hz'

/-- The local head of a new invocation starts an empty list. -/
theorem Represents.enter (h : s.Represents list) :
    ∃ blocks, s.enter.Building s.invocations list [] blocks [] := by
  obtain ⟨blocks, hring, hentries, hall⟩ := h
  refine ⟨blocks, ?_, s.links.isRing_initializeListHead _, hentries, rfl,
    List.disjoint_nil_right _, fun block hblock => by simpa using hall block hblock⟩
  -- the local head of a new invocation is outside of the ring of the context
  have hother : ∀ z ∈ Address.sessionBlacklistHead :: blocks.map .entry,
      z ≠ .localHead s.invocations := by
    rintro z hz rfl
    simp at hz
  refine hring.congr (fun z hz => ?_) fun z hz => ?_
  · simp [SessionMemory.enter, LinkMemory.initializeListHead, hother z hz]
  · simp [SessionMemory.enter, LinkMemory.initializeListHead, hother z hz]

@[simp] theorem insertEntry_entries (head : Address) (sbe : SessionBlacklistEntry) :
    (s.insertEntry head sbe).entries = Function.update s.entries s.nextBlock (some sbe) := rfl

/-- One more entry is inserted at the tail of the local list. -/
theorem Building.insertEntry (h : s.Building invocation list added blocks new)
    (sbe : SessionBlacklistEntry) :
    (s.insertEntry (.localHead invocation) sbe).Building invocation list (added ++ [sbe]) blocks
      (new ++ [s.nextBlock]) := by
  have hfresh : s.nextBlock ∉ blocks ∧ s.nextBlock ∉ new := by
    constructor
    · exact fun hmem => (lt_nextBlock (ne_none_of_map_eq h.entries _ hmem)).false
    · exact fun hmem => (lt_nextBlock (ne_none_of_map_eq h.newEntries _ hmem)).false
  have hold : ∀ blocks : List ℕ, s.nextBlock ∉ blocks →
      blocks.map (Function.update s.entries s.nextBlock (some sbe)) = blocks.map s.entries :=
    fun blocks hblocks => List.map_congr_left fun block hblock =>
      Function.update_of_ne (by rintro rfl; exact hblocks hblock) _ _
  constructor
  · -- the new links are outside of the ring of the context
    have houtside : ∀ z ∈ Address.sessionBlacklistHead :: blocks.map .entry,
        z ∉ Address.localHead invocation :: new.map .entry ∧ z ≠ .entry s.nextBlock := by
      intro z hz
      refine ⟨fun hz' => h.rings_disjoint hz hz', ?_⟩
      rintro rfl
      simp [hfresh.1] at hz
    exact h.ring.congr
      (fun z hz => (h.localRing.insertTailList_frame (houtside z hz).1 (houtside z hz).2).1)
      (fun z hz => (h.localRing.insertTailList_frame (houtside z hz).1 (houtside z hz).2).2)
  · rw [List.map_append]
    exact h.localRing.insertTailList (by simp [hfresh.2])
  · exact (hold blocks hfresh.1).trans h.entries
  · rw [insertEntry_entries, List.map_append, List.map_append, ← h.newEntries, hold new hfresh.2]
    simp
  · rw [List.disjoint_append_right]
    exact ⟨h.disjoint, by simpa using hfresh.1⟩
  · intro block hblock
    rcases eq_or_ne block s.nextBlock with rfl | hne
    · simp
    · have hbefore : s.entries block ≠ none := by
        rwa [insertEntry_entries, Function.update_of_ne hne] at hblock
      have hmem := h.live block hbefore
      simp only [List.mem_append] at hmem ⊢
      tauto

/-- The local list with all the entries of a request. -/
theorem Building.foldl_insertEntry (h : s.Building invocation list added blocks new)
    (more : List SessionBlacklistEntry) :
    ∃ new', (more.foldl (SessionMemory.insertEntry · (.localHead invocation)) s).Building invocation
      list (added ++ more) blocks new' := by
  induction more generalizing s added new with
  | nil => exact ⟨new, by simpa using h⟩
  | cons sbe more ih =>
    obtain ⟨new', hnew⟩ := ih (h.insertEntry sbe)
    exact ⟨new', by simpa using hnew⟩

/-- **The roll back** frees the local list and leaves the list of the context as it is. -/
theorem Building.rollBack (h : s.Building invocation list added blocks new) :
    ∃ s', removeEntries (.localHead invocation) (fun _ => true) (s.nextBlock + 1)
        (s.links.flink (.localHead invocation)) s = some s' ∧ s'.Represents list := by
  obtain ⟨s', hs', hremoved⟩ := removeEntries_all (fun _ => true) h.localRing
    (ne_none_of_map_eq h.newEntries) (Nat.lt_succ_self _)
  have hkeeps : ∀ block, s.entries block ≠ none → s.keeps (fun _ => true) block = false := by
    intro block hblock
    obtain ⟨sbe, hsbe⟩ := Option.ne_none_iff_exists'.mp hblock
    simp [keeps, hsbe]
  -- the local ring is apart from the one of the context, whose links therefore stay
  have hframe : ∀ z ∈ Address.sessionBlacklistHead :: blocks.map .entry,
      z ∉ Address.localHead invocation :: ([] ++ new).map .entry := by
    intro z hz hz'
    rw [List.nil_append] at hz'
    exact h.rings_disjoint hz hz'
  refine ⟨s', hs', blocks, h.ring.congr (fun z hz => (hremoved.frame z (hframe z hz)).1)
    (fun z hz => (hremoved.frame z (hframe z hz)).2), ?_, fun block hblock => ?_⟩
  · rw [← h.entries]
    refine List.map_congr_left fun block hblock => ?_
    rw [hremoved.entries, if_neg fun hnew => h.disjoint hblock hnew.1]
  · rw [hremoved.entries] at hblock
    split_ifs at hblock with hgone
    · exact absurd rfl hblock
    · rcases List.mem_append.mp (h.live block hblock) with hmem | hmem
      · exact hmem
      · exact absurd ⟨hmem, hkeeps block hblock⟩ hgone

/-- **The splice** makes the local head a member of the ring of the context. -/
theorem Building.splice (h : s.Building invocation list added blocks new) :
    (s.appendTailList (.localHead invocation)).links.IsRing .sessionBlacklistHead
      (blocks.map .entry ++ .localHead invocation :: new.map .entry) :=
  h.ring.appendTailList h.localRing h.rings_disjoint

/-- A ring with a local head in it represents no list. -/
theorem Building.not_represents_splice (h : s.Building invocation list added blocks new)
    (list' : List SessionBlacklistEntry) :
    ¬(s.appendTailList (.localHead invocation)).Represents list' := by
  rintro ⟨blocks', hring, -⟩
  -- the memory has one ring for the head, and the members of a represented list are entries
  have hmem : Address.localHead invocation ∈ blocks'.map .entry := by
    rw [hring.unique h.splice]
    simp
  simp at hmem

/-- An empty local list is left behind without a trace. -/
theorem Building.represents_of_nil (h : s.Building invocation list added blocks []) :
    s.Represents list :=
  ⟨blocks, h.ring, h.entries, by simpa using h.live⟩

/-- `IsListEmpty` of the local list. -/
theorem Building.flink_localHead_iff (h : s.Building invocation list added blocks new) :
    s.links.flink (.localHead invocation) = .localHead invocation ↔ added = [] := by
  have hlength : new.length = added.length := by
    simpa using congrArg List.length h.newEntries
  rw [h.localRing.flink_head]
  cases new with
  | nil => simpa using (List.length_eq_zero_iff.mp hlength.symm)
  | cons block new =>
    have hadded : added ≠ [] := by
      rintro rfl
      simp at hlength
    simp [hadded]

end SessionMemory

end HidHide
