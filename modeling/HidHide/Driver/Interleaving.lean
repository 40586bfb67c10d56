import HidHide.ForMathlib.Machine
import HidHide.Driver.Requests

/-!
# Calls in progress

The control queue dispatches in parallel, and notifications and file opens arrive at any time, so
calls overlap. Here the steps are the atomic ones: a registry write, a critical section, or a read
outside of the lock. `Concurrent.calls` holds what the calls in progress still have to do; two
calls that have the same left to do need not be told apart.

A list setter writes the registry, then replaces the collection, and the one of the whitelist then
flushes the cache. A switch setter writes the registry, then assigns the context. `Whitelisted`
reads the handle of the whitelist before it takes the lock, then checks the process; the switch it
reads after that changes nothing. As the steps of failed calls are not at issue here, a step is
enabled when it succeeds.

The last section connects the atomic steps to the functions of `HidHide.Driver.Logic`: a call that
is not interrupted does what its function does.
-/

namespace HidHide

/-- What a call in progress still has to do. -/
inductive Call where
  | replaceList (kind : ListKind)
  | flushCache
  | assignSwitch (kind : SwitchKind) (value : Bool)
  | checkWhitelist (processId : Handle) (whitelistedFullImageNames : WdfCollection)
  deriving DecidableEq, Repr

/-- The driver and the calls in progress. -/
structure Concurrent where
  driver : Driver
  calls : List Call

/-- An atomic step: the first of a call, a further one, or a notification. -/
inductive AtomicStep where
  | persistList (kind : ListKind) (o : WriteOutcome) (buffer : List WChar)
  | replaceList (kind : ListKind) (o : ReadOutcome)
  | flushCache
  | persistSwitch (kind : SwitchKind) (o : WriteOutcome) (value : Bool)
  | assignSwitch (kind : SwitchKind) (value : Bool)
  | readWhitelist (processId : Handle)
  | checkWhitelist (processId : Handle) (whitelistedFullImageNames : WdfCollection)
  | register (o : NewNodeOutcome) (processId : Handle) (fullImageName : UnicodeString)
  | unregister (processId : Handle)

/-- What a list setter has to do after the replacement. -/
def ListKind.callsAfter : ListKind → List Call
  | .whitelist => [.flushCache]
  | .blacklist => []

/-- The steps of a list setter after the replacement. -/
def ListKind.stepsAfter : ListKind → List AtomicStep
  | .whitelist => [.flushCache]
  | .blacklist => []

/-- The step changes nothing but the process tree. -/
def AtomicStep.OnTree : AtomicStep → Prop
  | .flushCache => True
  | .readWhitelist _ => True
  | .checkWhitelist _ _ => True
  | .register _ _ _ => True
  | .unregister _ => True
  | _ => False

namespace Concurrent

/-- A call in progress takes its next step. -/
def resume (s : Concurrent) (call : Call) (driver : Driver) (next : List Call) :
    Option Concurrent :=
  if call ∈ s.calls then some { driver, calls := next ++ s.calls.erase call } else none

/-- Perform an atomic step. -/
def step (upcase : WChar → WChar) (s : Concurrent) : AtomicStep → Option Concurrent
  | .persistList kind o buffer =>
      let (ntstatus, driver) := HidHide.persistList kind o buffer s.driver
      if NTSuccess ntstatus then some { driver, calls := .replaceList kind :: s.calls } else none
  | .replaceList kind o =>
      let (ntstatus, driver) := HidHide.replaceList kind o s.driver
      if NTSuccess ntstatus then s.resume (.replaceList kind) driver kind.callsAfter else none
  | .flushCache => s.resume .flushCache (flushEvaluationCache s.driver) []
  | .persistSwitch kind o value =>
      let (ntstatus, driver) := HidHide.persistSwitch kind o value s.driver
      if NTSuccess ntstatus then some { driver, calls := .assignSwitch kind value :: s.calls }
      else none
  | .assignSwitch kind value =>
      s.resume (.assignSwitch kind value) (HidHide.assignSwitch kind value s.driver).2 []
  -- `Whitelisted` reads the handle before it takes the lock
  | .readWhitelist processId =>
      some { s with calls :=
        .checkWhitelist processId s.driver.context.whitelistedFullImageNames :: s.calls }
  | .checkWhitelist processId whitelistedFullImageNames =>
      let tree := (hidHideProcessIdCheckFullImageNameAgainstWhitelist upcase
        s.driver.processIdTree processId
        (s.driver.framework.contents whitelistedFullImageNames)).2.2
      s.resume (.checkWhitelist processId whitelistedFullImageNames)
        { s.driver with processIdTree := tree } []
  | .register o processId fullImageName =>
      let tree := (hidHideProcessIdRegister o s.driver.processIdTree processId fullImageName).2
      some { s with driver := { s.driver with processIdTree := tree } }
  | .unregister processId =>
      let tree := (hidHideProcessIdUnregister s.driver.processIdTree processId).2
      some { s with driver := { s.driver with processIdTree := tree } }

/-- The started driver, with no call in progress. -/
def start (o : CreateOutcome) (fw : Framework) : Concurrent where
  driver := (onDriverCreate o fw).2
  calls := []

variable {upcase : WChar → WChar} {s s' : Concurrent}

/-! ### What each step does -/

/-- A call that takes its next step is in progress; what it still has to do replaces it. -/
theorem resume_eq_some {call : Call} {driver : Driver} {next : List Call}
    (h : s.resume call driver next = some s') :
    call ∈ s.calls ∧ s' = { driver, calls := next ++ s.calls.erase call } := by
  rw [resume] at h
  split_ifs at h with hmem
  exact ⟨hmem, (Option.some.inj h).symm⟩

/-- The registry write of a list setter: nothing changes in memory. -/
theorem step_persistList {kind : ListKind} {o : WriteOutcome} {buffer : List WChar}
    (h : s.step upcase (.persistList kind o buffer) = some s') :
    s'.calls = .replaceList kind :: s.calls ∧
      s'.driver.framework.registry = Function.update s.driver.framework.registry kind.property
        (some (.regMultiSz (storedChars buffer))) ∧
      s'.driver.context = s.driver.context ∧
      s'.driver.processIdTree = s.driver.processIdTree ∧
      s'.driver.framework.contents = s.driver.framework.contents ∧
      s'.driver.framework.nextCollection = s.driver.framework.nextCollection := by
  simp only [step] at h
  split_ifs at h with hstatus
  obtain rfl := Option.some.inj h
  obtain ⟨hctx, htree, hcontents, -, hnext⟩ := persistList_frame kind buffer (d := s.driver) o
  exact ⟨rfl, persistList_registry kind buffer ((persistList_fst kind buffer o).mp hstatus), hctx,
    htree, hcontents, hnext⟩

/-- The critical section of a list setter: the context refers to a new collection with the list
that is persisted. -/
theorem step_replaceList {kind : ListKind} {o : ReadOutcome}
    (h : s.step upcase (.replaceList kind o) = some s') :
    Call.replaceList kind ∈ s.calls ∧
      s'.calls = kind.callsAfter ++ s.calls.erase (.replaceList kind) ∧
      s'.driver.framework.registry = s.driver.framework.registry ∧
      s'.driver.context =
        kind.setCollection s.driver.context s.driver.framework.nextCollection ∧
      s'.driver.processIdTree = s.driver.processIdTree ∧
      s'.driver.framework.nextCollection = s.driver.framework.nextCollection + 1 ∧
      ∃ strings, decodedValue (s.driver.framework.registry kind.property) = some strings ∧
        s'.driver.framework.contents = Function.update s.driver.framework.contents
          s.driver.framework.nextCollection strings := by
  simp only [step] at h
  split_ifs at h with hstatus
  obtain ⟨hmem, rfl⟩ := resume_eq_some h
  obtain ⟨ho, hload⟩ := createCollection_success_iff.mp hstatus
  obtain ⟨strings, hv⟩ := Option.isSome_iff_exists.mp hload
  obtain ⟨-, hctx, htree, hcreated⟩ := replaceList_success kind (d := s.driver) ho hv
  exact ⟨hmem, rfl, hcreated.registry, hctx, htree, hcreated.nextCollection, strings, hv,
    hcreated.contents⟩

/-- The registry write of a switch setter: nothing changes in memory. -/
theorem step_persistSwitch {kind : SwitchKind} {o : WriteOutcome} {value : Bool}
    (h : s.step upcase (.persistSwitch kind o value) = some s') :
    s'.calls = .assignSwitch kind value :: s.calls ∧
      s'.driver.framework.registry = Function.update s.driver.framework.registry kind.property
        (some (.regDword (if value then 1 else 0))) ∧
      s'.driver.context = s.driver.context ∧
      s'.driver.processIdTree = s.driver.processIdTree ∧
      s'.driver.framework.contents = s.driver.framework.contents ∧
      s'.driver.framework.nextCollection = s.driver.framework.nextCollection := by
  simp only [step] at h
  split_ifs at h with hstatus
  obtain rfl := Option.some.inj h
  obtain ⟨hok, hreg⟩ := assignProperty_success o kind.property (.regDword (if value then 1 else 0))
    s.driver.framework
  obtain ⟨hcontents, -, hnext⟩ := assignProperty_collections o kind.property
    (.regDword (if value then 1 else 0)) s.driver.framework
  rw [if_pos (hok.mp hstatus)] at hreg
  exact ⟨rfl, hreg, rfl, rfl, hcontents, hnext⟩

/-- The steps that change the process tree only: the driver is as before, but for the tree. -/
theorem step_tree {e : AtomicStep} (h : s.step upcase e = some s') (he : e.OnTree) :
    s'.driver = { s.driver with processIdTree := s'.driver.processIdTree } := by
  cases e with
  | flushCache =>
    obtain ⟨-, rfl⟩ := resume_eq_some h
    rfl
  | checkWhitelist processId whitelistedFullImageNames =>
    obtain ⟨-, rfl⟩ := resume_eq_some h
    rfl
  | readWhitelist processId =>
    obtain rfl := Option.some.inj h
    rfl
  | register o processId fullImageName =>
    obtain rfl := Option.some.inj h
    rfl
  | unregister processId =>
    obtain rfl := Option.some.inj h
    rfl
  | persistList | replaceList | persistSwitch | assignSwitch => exact absurd he id

/-- They leave the pending steps of the setters alone, but for the flush. -/
theorem step_tree_count {e : AtomicStep} (h : s.step upcase e = some s') (he : e.OnTree)
    {call : Call} (hflush : call ≠ .flushCache)
    (hcheck : ∀ processId handle, call ≠ .checkWhitelist processId handle) :
    s'.calls.count call = s.calls.count call := by
  cases e with
  | flushCache =>
    obtain ⟨-, rfl⟩ := resume_eq_some h
    exact List.count_erase_of_ne hflush
  | checkWhitelist processId whitelistedFullImageNames =>
    obtain ⟨-, rfl⟩ := resume_eq_some h
    exact List.count_erase_of_ne (hcheck _ _)
  | readWhitelist processId =>
    obtain rfl := Option.some.inj h
    exact List.count_cons_of_ne (hcheck _ _).symm
  | register o processId fullImageName =>
    obtain rfl := Option.some.inj h
    rfl
  | unregister processId =>
    obtain rfl := Option.some.inj h
    rfl
  | persistList | replaceList | persistSwitch | assignSwitch => exact absurd he id

/-! ### What holds in every state -/

/-- The context refers to collections that exist, and the process tree is ordered. -/
structure Valid (s : Concurrent) : Prop where
  wellFormed : s.driver.WellFormed
  ordered : s.driver.processIdTree.Ordered

theorem start_valid {o : CreateOutcome} {fw : Framework} (h : NTSuccess (onDriverCreate o fw).1) :
    (start o fw).Valid where
  wellFormed := onDriverCreate_wellFormed h
  ordered := trivial

/-- A step that neither creates a collection nor lets the context refer to another one. -/
private theorem wellFormed_of_same (hs : s.driver.WellFormed)
    (hctx : ∀ kind : ListKind, kind.collection s'.driver.context = kind.collection s.driver.context)
    (hnext : s'.driver.framework.nextCollection = s.driver.framework.nextCollection) :
    s'.driver.WellFormed := by
  intro kind
  rw [hctx, hnext]
  exact hs kind

/-- Each step keeps the state valid. -/
theorem Valid.step (hs : s.Valid) {e : AtomicStep} (h : s.step upcase e = some s') :
    s'.Valid := by
  cases e with
  | persistList kind o buffer =>
    obtain ⟨-, -, hctx, htree, -, hnext⟩ := step_persistList h
    exact ⟨wellFormed_of_same hs.wellFormed (fun _ => by rw [hctx]) hnext, htree ▸ hs.ordered⟩
  | replaceList kind o =>
    obtain ⟨-, -, -, hctx, htree, hnext, -⟩ := step_replaceList h
    exact ⟨wellFormed_after_replace kind hs.wellFormed hctx hnext, htree ▸ hs.ordered⟩
  | persistSwitch kind o value =>
    obtain ⟨-, -, hctx, htree, -, hnext⟩ := step_persistSwitch h
    exact ⟨wellFormed_of_same hs.wellFormed (fun _ => by rw [hctx]) hnext, htree ▸ hs.ordered⟩
  | assignSwitch kind value =>
    obtain ⟨-, rfl⟩ := resume_eq_some h
    refine ⟨wellFormed_of_same hs.wellFormed (fun kind' => ?_) rfl, hs.ordered⟩
    exact SwitchKind.collection_setValue kind' kind _ _
  | flushCache =>
    obtain ⟨-, rfl⟩ := resume_eq_some h
    exact ⟨hs.wellFormed, hs.ordered.bstFlushEvaluationCache⟩
  | readWhitelist processId =>
    obtain rfl := Option.some.inj h
    exact ⟨hs.wellFormed, hs.ordered⟩
  | checkWhitelist processId whitelistedFullImageNames =>
    obtain ⟨-, rfl⟩ := resume_eq_some h
    exact ⟨hs.wellFormed, (hs.ordered.check upcase _ processId).1⟩
  | register o processId fullImageName =>
    obtain rfl := Option.some.inj h
    exact ⟨hs.wellFormed, (hs.ordered.register o processId fullImageName).1⟩
  | unregister processId =>
    obtain rfl := Option.some.inj h
    exact ⟨hs.wellFormed, (hs.ordered.unregister processId).1⟩

/-- The list in force after a replacement is the one that is persisted; the other list and the
switches stay. -/
theorem Valid.list_replaceList (hs : s.Valid) {kind : ListKind} {o : ReadOutcome}
    (h : s.step upcase (.replaceList kind o) = some s') :
    decodedValue (s.driver.framework.registry kind.property) = some (s'.driver.list kind) ∧
      ∀ kind' ≠ kind, s'.driver.list kind' = s.driver.list kind' := by
  obtain ⟨-, -, -, hctx, -, -, strings, hv, hcontents⟩ := step_replaceList h
  obtain ⟨hlist, hother⟩ := list_after_replace kind hctx hcontents
  exact ⟨by rw [hv, hlist], hother hs.wellFormed⟩

/-! ### Calls that are not interrupted -/

section Uninterrupted

variable (upcase : WChar → WChar) (s : Concurrent)

/-- A list setter that is not interrupted. -/
theorem run_setList (kind : ListKind) (o : ListOutcome) (buffer : List WChar)
    (hok : NTSuccess (setList kind o buffer s.driver).1) :
    Machine.run (step upcase) s
        (.persistList kind o.write buffer :: .replaceList kind o.read :: kind.stepsAfter) =
      some { s with driver := (setList kind o buffer s.driver).2 } := by
  -- the setter succeeds only when both of its steps do
  have hwrite : NTSuccess (persistList kind o.write buffer s.driver).1 := by
    by_contra hwrite
    rw [setList_eq, if_pos hwrite] at hok
    exact hwrite hok
  have hread :
      NTSuccess (replaceList kind o.read (persistList kind o.write buffer s.driver).2).1 := by
    by_contra hread
    rw [setList_eq, if_neg (not_not.mpr hwrite), if_pos hread] at hok
    exact hread hok
  rw [setList_eq, if_neg (not_not.mpr hwrite), if_neg (not_not.mpr hread)]
  cases kind
  all_goals
    simp [Machine.run_cons, step, resume, hwrite, hread, ListKind.stepsAfter, ListKind.callsAfter,
      ListKind.finish]

/-- A switch setter that is not interrupted. -/
theorem run_setSwitch (kind : SwitchKind) (o : WriteOutcome) (value : Bool)
    (hok : NTSuccess (setSwitch kind o value s.driver).1) :
    Machine.run (step upcase) s [.persistSwitch kind o value, .assignSwitch kind value] =
      some { s with driver := (setSwitch kind o value s.driver).2.2 } := by
  rw [setSwitch] at hok ⊢
  by_cases hwrite : NTSuccess (persistSwitch kind o value s.driver).1
  · simp [Machine.run_cons, step, resume, hwrite]
  · simp [hwrite] at hok

/-- `Whitelisted` that is not interrupted. -/
theorem run_whitelisted (processId : Handle) :
    Machine.run (step upcase) s [.readWhitelist processId,
        .checkWhitelist processId s.driver.context.whitelistedFullImageNames] =
      some { s with driver := (whitelisted upcase s.driver processId).2.2 } := by
  simp [Machine.run_cons, step, resume, whitelisted, Driver.list, ListKind.collection]

end Uninterrupted

end Concurrent

end HidHide
