import HidHide.Driver.Requests

/-!
# Failed list updates

A list setter writes the registry before it knows whether what it wrote can be read back. When
the re-read fails, the setter returns an error with the new value persisted, the old collection
deleted and the context referring to no collection that is alive.

`setList_leavesNoTrace_iff` says exactly when a failed update leaves no trace: when it is the
registry write that fails. `persisted_along_requests_iff` says what the requests of a client,
with any bytes in their buffers, do to the next start of the driver: it can load what is persisted
exactly as long as every value stored is at most two characters long or ends in two terminators.
-/

namespace HidHide

/-- The update has left no trace: the registry, the list in memory and every cached verdict are
what they were, and the context refers to a collection that is alive. -/
structure LeavesNoTrace (kind : ListKind) (d d' : Driver) : Prop where
  registry : d'.framework.registry = d.framework.registry
  list : d'.list kind = d.list kind
  processIdTree : d'.processIdTree = d.processIdTree
  live : kind.collection d'.context ∈ d'.framework.liveCollections

/-- What a setter stores for the buffer can be loaded: it is at most two characters long, or ends
in two terminators. -/
def StoresLoadable (buffer : List WChar) : Prop :=
  (storedChars buffer).length ≤ 2 ∨ MultiString.EndsInTwo nul (storedChars buffer)

instance : DecidablePred StoresLoadable := fun _ => inferInstanceAs (Decidable (_ ∨ _))

theorem storesLoadable_iff {buffer : List WChar} :
    StoresLoadable buffer ↔ Loadable (some (.regMultiSz (storedChars buffer))) := by
  rw [loadable_regMultiSz_iff, StoresLoadable]
  have hsize : 2 * (storedChars buffer).length ≤ 4 ↔ (storedChars buffer).length ≤ 2 := by omega
  rw [hsize]

/-- A failed registry write leaves no trace. -/
theorem LeavesNoTrace.of_write_failure {kind : ListKind} {d : Driver} {o : ListOutcome}
    (hlive : kind.collection d.context ∈ d.framework.liveCollections) (ho : ¬o.write.Ok)
    (buffer : List WChar) : LeavesNoTrace kind d (setList kind o buffer d).2 := by
  have hfail : ¬NTSuccess (persistList kind o.write buffer d).1 := fun h =>
    ho ((persistList_fst kind buffer o.write).mp h)
  obtain ⟨hctx, htree, hcontents, hlives, -⟩ := persistList_frame kind buffer (d := d) o.write
  rw [setList_eq, if_pos hfail]
  refine ⟨persistList_of_not_ok kind buffer ho, Driver.list_congr hctx hcontents kind, htree, ?_⟩
  rwa [hctx, hlives]

/-- A re-read that fails leaves the context with a deleted collection. -/
theorem not_leavesNoTrace_of_read_failure {kind : ListKind} {d : Driver} {o : ListOutcome}
    {buffer : List WChar} (hwrite : o.write.Ok)
    (hread : ¬(o.read.Ok (some (.regMultiSz (storedChars buffer))) ∧
      Loadable (some (.regMultiSz (storedChars buffer))))) :
    ¬NTSuccess (setList kind o buffer d).1 ∧
      ¬LeavesNoTrace kind d (setList kind o buffer d).2 := by
  have hok : NTSuccess (persistList kind o.write buffer d).1 :=
    (persistList_fst kind buffer o.write).mpr hwrite
  rw [← persistList_property kind buffer (d := d) hwrite] at hread
  obtain ⟨hstatus, -, hdead, -⟩ := replaceList_failure kind hread
  rw [setList_eq, if_neg (not_not.mpr hok), if_pos hstatus]
  exact ⟨hstatus, fun h => hdead h.live⟩

/-- **A failed update leaves no trace** exactly when the write fails, or nothing does. -/
theorem setList_leavesNoTrace_iff (kind : ListKind) (o : ListOutcome) (buffer : List WChar)
    {d : Driver} (hlive : kind.collection d.context ∈ d.framework.liveCollections) :
    (¬NTSuccess (setList kind o buffer d).1 → LeavesNoTrace kind d (setList kind o buffer d).2) ↔
      ¬o.write.Ok ∨
        (o.read.Ok (some (.regMultiSz (storedChars buffer))) ∧ StoresLoadable buffer) := by
  rw [storesLoadable_iff]
  by_cases hwrite : o.write.Ok
  · by_cases hread : o.read.Ok (some (.regMultiSz (storedChars buffer))) ∧
        Loadable (some (.regMultiSz (storedChars buffer)))
    · -- nothing fails, so there is no failed update to speak of
      have hok := (setList_success_iff kind buffer o d).mpr ⟨hwrite, hread⟩
      exact iff_of_true (fun h => absurd hok h) (.inr hread)
    · obtain ⟨hstatus, htrace⟩ := @not_leavesNoTrace_of_read_failure kind d o buffer hwrite hread
      exact iff_of_false (fun h => htrace (h hstatus)) (not_or.mpr ⟨not_not.mpr hwrite, hread⟩)
  · exact iff_of_true (fun _ => .of_write_failure hlive hwrite buffer) (.inl hwrite)

/-! ### The next start of the driver -/

/-- A request of a client to set a list, with the outcomes it meets. -/
structure SetListRequest where
  kind : ListKind
  o : SetListOutcome
  outputBufferLength : ℕ
  input : List UInt8

namespace SetListRequest

variable (r : SetListRequest)

/-- The driver after the request. -/
def serve (d : Driver) (r : SetListRequest) : Driver :=
  (onControlDeviceIoSetList r.kind r.o r.outputBufferLength r.input d).2

/-- The request gets as far as the registry. -/
def Persists : Prop :=
  r.outputBufferLength = 0 ∧ (r.input = [] ∨ NTSuccess r.o.retrieve) ∧ r.o.list.write.Ok

/-- The characters that the request hands to the setter. -/
def chars : List WChar := if r.input = [] then [nul, nul] else wideChars r.input

/-- A list setter, whatever comes of it, changes the registry by its write only. -/
theorem setList_registry (kind : ListKind) (o : ListOutcome) (buffer : List WChar) (d : Driver) :
    (setList kind o buffer d).2.framework.registry =
      (persistList kind o.write buffer d).2.framework.registry := by
  have hreplace :
      (replaceList kind o.read (persistList kind o.write buffer d).2).2.framework.registry =
        (persistList kind o.write buffer d).2.framework.registry := createCollection_registry ..
  rw [setList_eq]
  split_ifs
  · rw [ListKind.finish_framework, hreplace]
  · exact hreplace
  · rfl

/-- A request that passes the validation is handed to the setter. -/
theorem serve_eq (d : Driver) :
    serve d r =
      if r.outputBufferLength = 0 ∧ (r.input = [] ∨ NTSuccess r.o.retrieve) then
        (setList r.kind r.o.list r.chars d).2
      else d := by
  rw [serve, onControlDeviceIoSetList, chars]
  by_cases hout : r.outputBufferLength = 0
  · rw [if_neg (by simp [hout])]
    rcases hinput : r.input with _ | ⟨byte, bytes⟩
    · simp [hout]
    · by_cases hretrieve : NTSuccess r.o.retrieve
      · simp [hout, hretrieve]
      · simp [hretrieve]
  · rw [if_pos (Ne.symm hout), if_neg fun h => hout h.1]

/-- What a request does to the registry. -/
theorem serve_registry (d : Driver) :
    (r.Persists → (serve d r).framework.registry = Function.update d.framework.registry
      r.kind.property (some (.regMultiSz (storedChars r.chars)))) ∧
    (¬r.Persists → (serve d r).framework.registry = d.framework.registry) := by
  rw [serve_eq]
  constructor
  · rintro ⟨hout, hretrieve, hwrite⟩
    rw [if_pos ⟨hout, hretrieve⟩, setList_registry, persistList_registry r.kind r.chars hwrite]
  · intro hr
    split_ifs with hvalid
    · have hwrite : ¬r.o.list.write.Ok := fun hwrite => hr ⟨hvalid.1, hvalid.2, hwrite⟩
      rw [setList_registry, persistList_of_not_ok r.kind r.chars hwrite]
    · rfl

/-- A request keeps what is persisted loadable exactly when what it stores, if it stores
anything, is loadable. -/
theorem persisted_serve_iff {d : Driver} (hd : Persisted d.framework.registry) :
    Persisted (serve d r).framework.registry ↔ (r.Persists → StoresLoadable r.chars) := by
  rw [storesLoadable_iff]
  constructor
  · intro hpersisted hr
    have hlist := hpersisted.list r.kind
    rwa [(r.serve_registry d).1 hr, Function.update_self] at hlist
  · intro hload
    by_cases hr : r.Persists
    -- the request writes one list, and leaves the other one and the switches
    · rw [(r.serve_registry d).1 hr]
      refine ⟨fun kind => ?_, fun kind => ?_⟩
      · rcases eq_or_ne kind r.kind with rfl | hkind
        · rw [Function.update_self]
          exact hload hr
        · rw [Function.update_of_ne fun h => hkind (ListKind.property_injective h)]
          exact hd.list kind
      · rw [Function.update_of_ne (kind.property_ne r.kind)]
        exact hd.switch kind
    · rw [(r.serve_registry d).2 hr]
      exact hd

end SetListRequest

/-- **What clients may store.** From a driver that can start again, it can start again after each
of the requests exactly when each request that stores a value stores a loadable one. -/
theorem persisted_along_requests_iff {d : Driver} (hd : Persisted d.framework.registry)
    (requests : List SetListRequest) :
    (∀ served, served <+: requests →
        Persisted (served.foldl SetListRequest.serve d).framework.registry) ↔
      ∀ r ∈ requests, r.Persists → StoresLoadable r.chars := by
  induction requests generalizing d with
  | nil => simp [hd]
  | cons r requests ih =>
    constructor
    · intro h
      have hr : Persisted (SetListRequest.serve d r).framework.registry :=
        h [r] ⟨requests, rfl⟩
      have hrest := (ih hr).mp fun served hserved => h (r :: served) (by simpa using hserved)
      exact List.forall_mem_cons.mpr ⟨(r.persisted_serve_iff hd).mp hr, hrest⟩
    · intro h served hserved
      obtain ⟨hr, hrest⟩ := List.forall_mem_cons.mp h
      cases served with
      | nil => exact hd
      | cons r' served =>
        obtain ⟨rfl, hpre⟩ := List.cons_prefix_cons.mp hserved
        exact (ih ((r'.persisted_serve_iff hd).mpr hr)).mpr hrest served hpre

/-- The driver can start again: its creation fails only when one of its calls does. -/
def Framework.LoadsAgain (fw : Framework) : Prop :=
  ∀ o : CreateOutcome, o.Ok fw.registry → NTSuccess (onControlDeviceCreate o fw).1

theorem Framework.loadsAgain_iff (fw : Framework) : fw.LoadsAgain ↔ Persisted fw.registry := by
  have hok : CreateOutcome.success.Ok fw.registry := CreateOutcome.success_ok fw.registry
  exact ⟨fun h => (onControlDeviceCreate_success_iff hok).mp (h _ hok),
    fun h o ho => (onControlDeviceCreate_success_iff ho).mpr h⟩

/-- **Failed list updates.** A failed update leaves no trace exactly when it is the registry write
that fails (an update whose re-read succeeds does not fail at all); and the driver can start again
after each request of a client exactly when each value stored is loadable. -/
theorem failed_list_updates (d : Driver) :
    (∀ (kind : ListKind) (o : ListOutcome) (buffer : List WChar),
      kind.collection d.context ∈ d.framework.liveCollections →
        ((¬NTSuccess (setList kind o buffer d).1 →
            LeavesNoTrace kind d (setList kind o buffer d).2) ↔
          ¬o.write.Ok ∨
            (o.read.Ok (some (.regMultiSz (storedChars buffer))) ∧ StoresLoadable buffer))) ∧
    (d.framework.LoadsAgain → ∀ requests : List SetListRequest,
      (∀ served, served <+: requests →
          (served.foldl SetListRequest.serve d).framework.LoadsAgain) ↔
        ∀ r ∈ requests, r.Persists → StoresLoadable r.chars) := by
  refine ⟨fun kind o buffer hlive => setList_leavesNoTrace_iff kind o buffer hlive,
    fun hd requests => ?_⟩
  simp only [Framework.loadsAgain_iff] at hd ⊢
  exact persisted_along_requests_iff hd requests

theorem firstDriver_loadsAgain : firstDriver.framework.LoadsAgain :=
  firstDriver.framework.loadsAgain_iff.mpr
    ⟨fun kind => by cases kind <;> decide, fun kind => by cases kind <;> decide⟩

/-- The list setter whose calls all succeed. -/
def ListOutcome.success : ListOutcome := ⟨⟨statusSuccess, statusSuccess⟩, .success⟩

/-- A driver with the application `B` on its whitelist. -/
def storedListDriver : Driver := (setWhitelist .success [0x42, 0, 0] firstDriver).2

theorem storedListDriver_loadsAgain : storedListDriver.framework.LoadsAgain :=
  storedListDriver.framework.loadsAgain_iff.mpr
    ⟨fun kind => by cases kind <;> decide, fun kind => by cases kind <;> decide⟩

/-- A failed write leaves the list that is stored, and another list can be set beside it. -/
theorem failed_list_updates_storedList :
    storedListDriver.list .whitelist = [[0x42]] ∧
      LeavesNoTrace .whitelist storedListDriver
        (setWhitelist ⟨⟨statusSuccess, statusAccessDenied⟩, .success⟩ [0x41, 0, 0]
          storedListDriver).2 ∧
      (SetListRequest.serve storedListDriver
        ⟨.blacklist, ⟨statusSuccess, .success⟩, 0, [0x41, 0, 0, 0, 0, 0]⟩).framework.LoadsAgain :=
  ⟨by decide,
    ((failed_list_updates storedListDriver).1 .whitelist _ _ (by decide)).mpr (.inl (by decide))
      (by decide),
    ((failed_list_updates storedListDriver).2 storedListDriver_loadsAgain _).mpr
      (List.forall_mem_singleton.mpr fun _ => by decide) [_] (List.prefix_refl _)⟩

/-- The whitelist `ABC`, without terminators, is refused after it has been persisted: the context
is left with a deleted collection, and the driver cannot start again. -/
theorem setWhitelist_unterminated :
    let r := setWhitelist .success [0x41, 0x42, 0x43] firstDriver
    ListKind.whitelist.collection firstDriver.context ∈ firstDriver.framework.liveCollections ∧
      firstDriver.framework.LoadsAgain ∧ ¬NTSuccess r.1 ∧
      ¬LeavesNoTrace .whitelist firstDriver r.2 ∧ ¬r.2.framework.LoadsAgain := by
  refine ⟨by decide, firstDriver_loadsAgain, by decide, fun h => ?_, fun h => ?_⟩
  · exact absurd h.live (by decide)
  · exact absurd (((Framework.loadsAgain_iff _).mp h).list .whitelist) (by decide)

end HidHide
