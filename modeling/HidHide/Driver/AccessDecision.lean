import HidHide.Driver.Operations

/-!
# The cached access decision

The decision on a file open reads a verdict that was cached at an earlier open. The reference
decision `Reference.AccessDenied` evaluates the image name against the whitelist anew each time.
`accessDenied_eq_uncached` shows that the two are the same after every run of whole operations,
and that leaving out all earlier opens changes no decision. The session blacklist is the list of its
entries here; `HidHide.Driver.LinkedDriver` says in which runs the ring of the code stands for it.
-/

namespace HidHide

namespace Reference

variable (upcase : WChar → WChar) (r : Reference)

/-- The image name of the process, if one is registered, equals an entry of the whitelist. -/
def Whitelisted (pid : UInt32) : Prop :=
  ∃ fullImageName ∈ r.names pid, ListMatches upcase (r.list .whitelist) fullImageName

instance (pid : UInt32) : Decidable (r.Whitelisted upcase pid) :=
  inferInstanceAs (Decidable (∃ fullImageName ∈ r.names pid, _))

/-- The decision without a cache. -/
def AccessDenied (deviceInstancePath : UnicodeString) (pid : UInt32) (sessionId : UInt32) : Prop :=
  pid ≠ systemPid ∧ r.switch .active = true ∧
    blacklisted upcase (r.list .blacklist) r.sessionBlacklist deviceInstancePath sessionId = true ∧
    (decide (r.Whitelisted upcase pid) ^^ r.switch .whitelistedInverse) = false

instance (deviceInstancePath : UnicodeString) (pid : UInt32) (sessionId : UInt32) :
    Decidable (r.AccessDenied upcase deviceInstancePath pid sessionId) :=
  inferInstanceAs (Decidable (_ ∧ _ ∧ _ ∧ _))

/-- Device opens leave the reference as it is. -/
theorem foldl_filter_isOpen (operations : List Operation) :
    (operations.filter (¬·.IsOpen)).foldl next r = operations.foldl next r := by
  induction operations generalizing r with
  | nil => rfl
  | cons operation operations ih =>
    cases operation with
    | openDevice deviceInstancePath pid sessionId =>
      rw [List.filter_cons_of_neg (by simp [Operation.IsOpen]), List.foldl_cons, ih]
      rfl
    | _ =>
      rw [List.filter_cons_of_pos (by simp [Operation.IsOpen]), List.foldl_cons, List.foldl_cons,
        ih]

end Reference

namespace Driver.Sound

variable {upcase : WChar → WChar} {d : Driver}

/-- A sound driver takes a process for whitelisted exactly when its reference does. -/
theorem whitelisted_fst (h : d.Sound upcase) (pid : UInt32) :
    (whitelisted upcase d (processHandle pid)).1 =
      (decide (d.reference.Whitelisted upcase pid) ^^ d.reference.switch .whitelistedInverse) := by
  -- the one place where the cache enters the decision
  have hcheck := h.ordered.check_status_of_coherent upcase _ h.coherent (processHandle pid)
  rw [processHandleToProcessId_processHandle] at hcheck
  have hwhite : d.reference.Whitelisted upcase pid ↔
      statusProcessInJob = (hidHideProcessIdCheckFullImageNameAgainstWhitelist upcase
        d.processIdTree (processHandle pid) (d.list .whitelist)).1 := by
    rw [eq_comm, hcheck]
    simp [Reference.Whitelisted, Driver.reference]
  rw [decide_eq_decide.mpr hwhite, HidHide.whitelisted_fst]
  rfl

/-- The decision of a sound driver is that of its reference. -/
theorem accessDenied_iff (h : d.Sound upcase) (deviceInstancePath : UnicodeString) (pid : UInt32)
    (sessionId : UInt32) :
    (onDeviceFileCreate upcase d deviceInstancePath (processHandle pid) sessionId).1 = true ↔
      d.reference.AccessDenied upcase deviceInstancePath pid sessionId := by
  rw [onDeviceFileCreate_accessDenied, h.whitelisted_fst, processHandleToProcessId_processHandle]
  rfl

/-- A run keeps the driver sound, and its reference is what the run makes of the first one. -/
theorem run (h : d.Sound upcase) {operations : List Operation} {d' : Driver}
    (hrun : Machine.run (Driver.perform upcase) d operations = some d') :
    d'.Sound upcase ∧ d'.reference = operations.foldl Reference.next d.reference := by
  refine Machine.run_history
    (R := fun operations d' => d'.Sound upcase ∧
      d'.reference = operations.foldl Reference.next d.reference) ⟨h, rfl⟩ ?_ hrun
  rintro operations t operation t' ⟨ht, href⟩ hstep
  obtain ⟨ht', href'⟩ := ht.perform hstep
  rw [List.foldl_concat, ← href]
  exact ⟨ht', href'⟩

end Driver.Sound

/-- Operations that succeed can be performed from any state. -/
theorem exists_run_of_succeeds (upcase : WChar → WChar) (d : Driver) {operations : List Operation}
    (h : ∀ operation ∈ operations, operation.Succeeds) :
    ∃ d', Machine.run (Driver.perform upcase) d operations = some d' := by
  induction operations generalizing d with
  | nil => exact ⟨d, rfl⟩
  | cons operation operations ih =>
    obtain ⟨hop, hops⟩ := List.forall_mem_cons.mp h
    obtain ⟨t, ht⟩ := Option.isSome_iff_exists.mp ((d.perform_isSome_iff upcase operation).mpr hop)
    obtain ⟨d', hd'⟩ := ih t hops
    exact ⟨d', by rw [Machine.run_cons, ht]; exact hd'⟩

/-- The operations of a run succeed. -/
theorem succeeds_of_run {upcase : WChar → WChar} {d d' : Driver} {operations : List Operation}
    (hrun : Machine.run (Driver.perform upcase) d operations = some d') :
    ∀ operation ∈ operations, operation.Succeeds := by
  induction operations generalizing d with
  | nil => simp
  | cons operation operations ih =>
    rw [Machine.run_cons, Option.bind_eq_some_iff] at hrun
    obtain ⟨t, ht, hrun⟩ := hrun
    refine List.forall_mem_cons.mpr ⟨?_, ih hrun⟩
    exact (d.perform_isSome_iff upcase operation).mp (by rw [ht]; rfl)

/-- A started driver is sound: it knows no process yet. -/
theorem onDriverCreate_sound (upcase : WChar → WChar) {o : CreateOutcome} {fw : Framework}
    (h : NTSuccess (onDriverCreate o fw).1) : (onDriverCreate o fw).2.Sound upcase where
  wellFormed := onDriverCreate_wellFormed h
  ordered := trivial
  coherent := by simp [ProcessIdTree.Coherent, onDriverCreate]

/-- **The cached decision is the uncached one.** After every run of whole operations of a started
driver, access is denied exactly when the cache-free reference denies it, and the run without its
device opens leads to the same decisions. -/
theorem accessDenied_eq_uncached (upcase : WChar → WChar) {o : CreateOutcome} {fw : Framework}
    (hstart : NTSuccess (onDriverCreate o fw).1) {operations : List Operation} {d : Driver}
    (hrun : Machine.run (Driver.perform upcase) (onDriverCreate o fw).2 operations = some d) :
    (∀ deviceInstancePath pid sessionId,
      (onDeviceFileCreate upcase d deviceInstancePath (processHandle pid) sessionId).1 = true ↔
        (operations.foldl Reference.next (onDriverCreate o fw).2.reference).AccessDenied upcase
          deviceInstancePath pid sessionId) ∧
    ∃ d', Machine.run (Driver.perform upcase) (onDriverCreate o fw).2
        (operations.filter (¬·.IsOpen)) = some d' ∧
      ∀ deviceInstancePath pid sessionId,
        (onDeviceFileCreate upcase d' deviceInstancePath (processHandle pid) sessionId).1 =
          (onDeviceFileCreate upcase d deviceInstancePath (processHandle pid) sessionId).1 := by
  have hsound := onDriverCreate_sound upcase hstart
  obtain ⟨hd, href⟩ := hsound.run hrun
  obtain ⟨d', hrun'⟩ := exists_run_of_succeeds upcase (onDriverCreate o fw).2
    fun operation hmem => succeeds_of_run hrun operation (List.mem_of_mem_filter hmem)
  -- both runs lead to the same reference, and the reference decides
  obtain ⟨hd', href'⟩ := hsound.run hrun'
  rw [Reference.foldl_filter_isOpen, ← href] at href'
  refine ⟨fun path pid sessionId => href ▸ hd.accessDenied_iff path pid sessionId, d', hrun',
    fun path pid sessionId => Bool.eq_iff_iff.mpr ?_⟩
  rw [hd'.accessDenied_iff, hd.accessDenied_iff, href']

end HidHide
