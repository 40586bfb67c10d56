import HidHide.ForMathlib.Reader
import HidHide.Driver.AccessDecision
import HidHide.Driver.CacheCoherence

/-!
# Opens that overlap other calls

`OnDeviceFileCreate` reads what it decides on piece by piece, each in a critical section of its own:
the switch, the blacklist, the verdict of the check, the inverse switch. Other calls take their
steps in between, so what it has read need never have been in force together.

Nonetheless access is granted only if, at some moment of the call, the settings of that moment grant
it; and each reason for which it is denied holds at some moment (`decision_of_moments`). This takes
that checks are up to date, as without that the cache is wrong later on, and that no `SetWhitelist`
is in progress when the name of the process is checked.

The session blacklist is the list of its entries here: an addition is one more list of entries, even
though the ring of `SessionBlacklist` is no longer intact after one.
-/

namespace HidHide

/-- What happens in between: an atomic step of a call or a notification, or a change of the list of
session entries by a request or by the exit of a process. -/
inductive Interference where
  | step (e : AtomicStep)
  | session (entries : List SessionBlacklistEntry)

/-- How far `OnDeviceFileCreate` has got: `GetActive` and `Blacklisted` have returned `TRUE`,
`Whitelisted` has the handle of the whitelist, or has checked the process. -/
inductive OpenProgress where
  | entered
  | active
  | blacklisted
  | handle (whitelistedFullImageNames : WdfCollection)
  | checked (found : Bool)
  | decided (accessDenied : Bool)
  deriving DecidableEq, Repr

namespace Concurrent

/-- Something happens in between. -/
def interfere (upcase : WChar → WChar) (s : Concurrent) : Interference → Option Concurrent
  | .step e => s.step upcase e
  | .session entries => some { s with driver := s.driver.withSessionBlacklist entries }

section Open

variable (upcase : WChar → WChar) (deviceInstancePath : UnicodeString) (pid sessionId : UInt32)

/-- The next step of `OnDeviceFileCreate`. -/
def openStep (s : Concurrent) : OpenProgress → Option (Concurrent × OpenProgress)
  | .entered =>
      if systemPid ≠ pid ∧ s.driver.context.active = true then some (s, .active)
      else some (s, .decided false)
  | .active =>
      if HidHide.blacklisted upcase (s.driver.list .blacklist) s.driver.context.sessionBlacklist
          deviceInstancePath sessionId then some (s, .blacklisted)
      else some (s, .decided false)
  | .blacklisted =>
      (s.step upcase (.readWhitelist (processHandle pid))).map
        (·, .handle s.driver.context.whitelistedFullImageNames)
  | .handle whitelistedFullImageNames =>
      (s.step upcase (.checkWhitelist (processHandle pid) whitelistedFullImageNames)).map
        (·, .checked (statusProcessInJob =
          (hidHideProcessIdCheckFullImageNameAgainstWhitelist upcase s.driver.processIdTree
            (processHandle pid) (s.driver.framework.contents whitelistedFullImageNames)).1))
  | .checked found =>
      let granted := if s.driver.context.whitelistedInverse then !found else found
      some (s, .decided (!granted))
  | .decided _ => none

/-- The call takes a step, or something happens in between. -/
abbrev overlapStep : Concurrent × OpenProgress → Option Interference →
    Option (Concurrent × OpenProgress) :=
  Machine.readerStep (interfere upcase) (openStep upcase deviceInstancePath pid sessionId)

/-- What happens is prompt, as a check that it makes is up to date. -/
def InterferesPromptly (s : Concurrent) : Interference → Prop
  | .step e => s.UpToDate upcase e
  | .session _ => True

/-- So is the check of the call, and no `SetWhitelist` is in progress when it is made. -/
def Prompt (x : Concurrent × OpenProgress) : Option Interference → Prop
  | some i => x.1.InterferesPromptly upcase i
  | none =>
      match x.2 with
      | .handle whitelistedFullImageNames => x.1.NoSetWhitelist ∧
          x.1.UpToDate upcase (.checkWhitelist (processHandle pid) whitelistedFullImageNames)
      | _ => True

instance (s : Concurrent) : DecidablePred (s.InterferesPromptly upcase)
  | .step e => inferInstanceAs (Decidable (s.UpToDate upcase e))
  | .session _ => .isTrue trivial

instance (x : Concurrent × OpenProgress) : DecidablePred (Prompt upcase pid x)
  | some i => inferInstanceAs (Decidable (x.1.InterferesPromptly upcase i))
  | none =>
      match x with
      | (_, .handle _) => inferInstanceAs (Decidable (_ ∧ _))
      | (_, .entered) => .isTrue trivial
      | (_, .active) => .isTrue trivial
      | (_, .blacklisted) => .isTrue trivial
      | (_, .checked _) => .isTrue trivial
      | (_, .decided _) => .isTrue trivial

/-- The decision on the settings of one moment. -/
abbrev DeniedAt (s : Concurrent) : Prop :=
  s.driver.reference.AccessDenied upcase deviceInstancePath pid sessionId

/-- The name of the process is on the whitelist of one moment. -/
def listedAt (s : Concurrent) : Bool := decide (s.driver.reference.Whitelisted upcase pid)

/-- The process is whitelisted by the settings of one moment. -/
def whitelistedAt (s : Concurrent) : Bool :=
  s.listedAt upcase pid ^^ s.driver.context.whitelistedInverse

/-- The device is blacklisted by the settings of one moment. -/
def blacklistedAt (s : Concurrent) : Bool :=
  HidHide.blacklisted upcase (s.driver.list .blacklist) s.driver.context.sessionBlacklist
    deviceInstancePath sessionId

end Open

/-- The call has not decided yet, and the state has the property. -/
def Meanwhile (P : Concurrent → Prop) (x : Concurrent × OpenProgress) : Prop :=
  (∀ accessDenied, x.2 ≠ .decided accessDenied) ∧ P x.1

/-- The state is valid, and its cache is coherent. -/
structure Steady (upcase : WChar → WChar) (s : Concurrent) : Prop where
  valid : s.Valid
  coherent : s.CacheCoherent upcase

variable {upcase : WChar → WChar} {deviceInstancePath : UnicodeString} {pid sessionId : UInt32}
  {s s' : Concurrent}

/-- Nothing in between: the steps are those of `onDeviceFileCreate`. -/
theorem run_uninterrupted (upcase : WChar → WChar) (deviceInstancePath : UnicodeString)
    (pid sessionId : UInt32) (s : Concurrent) :
    let result :=
      onDeviceFileCreate upcase s.driver deviceInstancePath (processHandle pid) sessionId
    ∃ n, Machine.run (overlapStep upcase deviceInstancePath pid sessionId) (s, .entered)
      (List.replicate n none) = some ({ s with driver := result.2.2 }, .decided result.1) := by
  rw [onDeviceFileCreate, processHandleToProcessId_processHandle]
  by_cases hactive : systemPid ≠ pid ∧ s.driver.context.active = true
  · by_cases hblack : HidHide.blacklisted upcase (s.driver.list .blacklist)
        s.driver.context.sessionBlacklist deviceInstancePath sessionId = true
    · refine ⟨5, ?_⟩
      rw [if_pos ⟨hactive.1, hactive.2, hblack⟩]
      simp only [List.replicate, Machine.run_cons, Machine.readerStep, openStep, if_pos hactive,
        if_pos hblack, step, resume, Option.bind_some, Option.map_some, List.mem_cons_self, if_true,
        List.erase_cons_head, List.nil_append, Machine.run_nil]
      change some (Concurrent.mk (whitelisted upcase s.driver (processHandle pid)).2.2 s.calls,
        OpenProgress.decided (!(whitelisted upcase s.driver (processHandle pid)).1)) = _
      cases (whitelisted upcase s.driver (processHandle pid)).1 <;> rfl
    · refine ⟨2, ?_⟩
      rw [if_neg fun h => hblack h.2.2]
      simp only [List.replicate, Machine.run_cons, Machine.readerStep, openStep, if_pos hactive,
        if_neg hblack, Option.bind_some, Machine.run_nil]
  · refine ⟨1, ?_⟩
    rw [if_neg fun h => hactive ⟨h.1, h.2.1⟩]
    simp only [List.replicate, Machine.run_cons, Machine.readerStep, openStep, if_neg hactive,
      Option.bind_some, Machine.run_nil]

/-! ### What happens in between -/

theorem Steady.step (h : s.Steady upcase) {e : AtomicStep} (hprompt : s.UpToDate upcase e)
    (hstep : s.step upcase e = some s') : s'.Steady upcase :=
  ⟨h.valid.step hstep, (cacheCoherent_step h.valid h.coherent hstep).mpr hprompt⟩

theorem Steady.interfere (h : s.Steady upcase) {i : Interference}
    (hprompt : s.InterferesPromptly upcase i) (hstep : s.interfere upcase i = some s') :
    s'.Steady upcase := by
  cases i with
  | step e => exact h.step hprompt hstep
  | session entries =>
    obtain rfl := Option.some.inj hstep
    refine ⟨⟨fun kind => ?_, h.valid.ordered⟩, h.coherent⟩
    rw [collection_withSessionBlacklist]
    exact h.valid.wellFormed kind

/-- Nothing that happens changes both the whitelist verdict and the inverse switch. -/
theorem interfere_one {i : Interference} (hstep : s.interfere upcase i = some s') :
    s'.listedAt upcase pid = s.listedAt upcase pid ∨
      s'.driver.context.whitelistedInverse = s.driver.context.whitelistedInverse := by
  have hsame : s'.driver.context = s.driver.context →
      s'.driver.context.whitelistedInverse = s.driver.context.whitelistedInverse :=
    congrArg ControlDeviceContext.whitelistedInverse
  cases i with
  | session entries =>
    obtain rfl := Option.some.inj hstep
    exact .inr rfl
  | step e =>
    have hstep : s.step upcase e = some s' := hstep
    cases e with
    | persistList kind o buffer => exact .inr (hsame (step_persistList hstep).2.2.1)
    | persistSwitch kind o value => exact .inr (hsame (step_persistSwitch hstep).2.2.1)
    | replaceList kind o =>
      obtain ⟨-, -, -, hctx, -⟩ := step_replaceList hstep
      rw [hctx]
      cases kind <;> exact .inr rfl
    | assignSwitch kind value =>
      obtain ⟨-, rfl⟩ := resume_eq_some hstep
      cases kind <;> exact .inl rfl
    | flushCache | readWhitelist | checkWhitelist | register | unregister =>
      refine .inr (hsame ?_)
      rw [step_tree hstep trivial]

/-- A check leaves the reference as it is. -/
theorem reference_checkWhitelist (hs : s.Valid) {processId : Handle} {handle : WdfCollection}
    (hstep : s.step upcase (.checkWhitelist processId handle) = some s') :
    s'.driver.reference = s.driver.reference := by
  obtain ⟨-, rfl⟩ := resume_eq_some hstep
  obtain ⟨-, hlookup⟩ :=
    hs.ordered.check upcase (s.driver.framework.contents handle) processId
  refine Reference.ext (funext fun pid => ?_) rfl rfl rfl
  dsimp only [Driver.reference]
  rw [hlookup]
  split_ifs with hpid
  · rw [hpid, Option.map_map]
    exact congrArg (Option.map · _)
      (funext (ProcessIdNode.evaluated_fullImageName upcase (s.driver.framework.contents handle)))
  · rfl

/-- A check that is up to date finds the process if its name is on the whitelist. -/
theorem check_found (hs : s.Steady upcase) (hno : s.NoSetWhitelist) {handle : WdfCollection}
    (hprompt : s.UpToDate upcase (.checkWhitelist (processHandle pid) handle)) :
    decide (statusProcessInJob = (hidHideProcessIdCheckFullImageNameAgainstWhitelist upcase
      s.driver.processIdTree (processHandle pid) (s.driver.framework.contents handle)).1) =
        s.listedAt upcase pid := by
  have huptodate := hprompt hno
  have hcoherent := (hs.valid.ordered.coherent_iff upcase _).mp (hs.coherent hno) pid
  rw [processHandleToProcessId_processHandle] at huptodate
  refine decide_eq_decide.mpr ?_
  rw [eq_comm, check_status, processHandleToProcessId_processHandle]
  simp only [Reference.Whitelisted, Driver.reference, Option.mem_def, Option.map_eq_some_iff,
    exists_exists_and_eq_and]
  refine exists_congr fun node => and_congr_right fun hnode => ?_
  by_cases hcache : node.evaluationCache = .empty
  · rw [ProcessIdNode.evaluated_of_empty _ _ hcache, whitelistVerdict,
      ← huptodate node hnode hcache]
    split_ifs with hmatch <;> simp [hmatch]
  · rw [ProcessIdNode.evaluated_of_ne_empty _ _ hcache,
      ((coherent_iff upcase _).mp (hcoherent node hnode)).resolve_left hcache, whitelistVerdict]
    split_ifs with hmatch <;> simp [hmatch]

/-! ### The decision -/

section Decision

variable {events : List (Option Interference)} {d : Bool}

theorem Steady.run {history : List Interference} (h : s.Steady upcase)
    (hprompt : Machine.Along (Concurrent.interfere upcase) (InterferesPromptly upcase) s history)
    (hrun : Machine.run (Concurrent.interfere upcase) s history = some s') : s'.Steady upcase :=
  Machine.run_invariant_of_along (fun _ _ _ hs hC hstep => hs.interfere hC hstep) h hprompt hrun

/-- A decision is final. -/
theorem decided_stays {d' : Bool}
    (hrun : Machine.run (overlapStep upcase deviceInstancePath pid sessionId) (s, .decided d)
      events = some (s', .decided d')) : d' = d := by
  by_contra hne
  obtain ⟨_, _, _, _, -, -, hread, -⟩ := Machine.run_until_read hrun (by simpa using hne)
  cases hread

/-- The verdict of the check and the inverse switch are as at some moment between their reads. -/
theorem decided_of_checked {found : Bool} (hfound : s.listedAt upcase pid = found)
    (hrun : Machine.run (overlapStep upcase deviceInstancePath pid sessionId) (s, .checked found)
      events = some (s', .decided d)) :
    Machine.Sometime (overlapStep upcase deviceInstancePath pid sessionId)
      (Meanwhile fun t => t.whitelistedAt upcase pid = !d) (s, .checked found) events := by
  obtain ⟨before, after, t, z, rfl, hbefore, hread, hafter⟩ := Machine.run_until_read hrun (by simp)
  obtain rfl := Option.some.inj hread
  have hd := decided_stays hafter
  have hboth := Machine.sometime_xor (x := listedAt upcase pid)
    (y := fun t => t.driver.context.whitelistedInverse) (I := fun _ => True)
    (fun _ _ _ _ hstep => interfere_one hstep) (fun _ _ _ _ _ => trivial) trivial hbefore
  refine Machine.Sometime.map_some (hboth.mono fun u hu => ⟨nofun, ?_⟩)
  dsimp only [whitelistedAt]
  rw [hu, hfound, hd]
  cases t.driver.context.whitelistedInverse <;> simp

/-- The check finds whether the name is on the whitelist. -/
theorem decided_of_handle (hs : s.Steady upcase) {handle : WdfCollection}
    (hprompt : Machine.Along (overlapStep upcase deviceInstancePath pid sessionId)
      (Prompt upcase pid) (s, .handle handle) events)
    (hrun : Machine.run (overlapStep upcase deviceInstancePath pid sessionId) (s, .handle handle)
      events = some (s', .decided d)) :
    Machine.Sometime (overlapStep upcase deviceInstancePath pid sessionId)
      (Meanwhile fun t => t.whitelistedAt upcase pid = !d) (s, .handle handle) events := by
  obtain ⟨before, after, t, z, rfl, hbefore, hread, hafter⟩ := Machine.run_until_read hrun (by simp)
  obtain ⟨halong, ⟨hno, huptodate⟩, -⟩ := Machine.along_until_read hbefore hread hprompt
  have ht : t.Steady upcase := hs.run halong hbefore
  obtain ⟨u, hu, rfl⟩ := Option.map_eq_some_iff.mp hread
  refine .of_read hbefore hread (decided_of_checked ?_ hafter)
  rw [check_found ht hno huptodate, listedAt, listedAt, reference_checkWhitelist ht.valid hu]

/-- So does the call that has yet to read the handle. -/
theorem decided_of_blacklisted (hs : s.Steady upcase)
    (hprompt : Machine.Along (overlapStep upcase deviceInstancePath pid sessionId)
      (Prompt upcase pid) (s, .blacklisted) events)
    (hrun : Machine.run (overlapStep upcase deviceInstancePath pid sessionId) (s, .blacklisted)
      events = some (s', .decided d)) :
    Machine.Sometime (overlapStep upcase deviceInstancePath pid sessionId)
      (Meanwhile fun t => t.whitelistedAt upcase pid = !d) (s, .blacklisted) events := by
  obtain ⟨before, after, t, z, rfl, hbefore, hread, hafter⟩ := Machine.run_until_read hrun (by simp)
  obtain ⟨halong, -, hrest⟩ := Machine.along_until_read hbefore hread hprompt
  obtain rfl := Option.some.inj hread
  have hnext := (hs.run halong hbefore).step (e := .readWhitelist (processHandle pid)) trivial rfl
  exact .of_read hbefore hread (decided_of_handle hnext hrest hafter)

/-- A whitelisted process is not denied access. -/
theorem not_deniedAt_of_whitelistedAt (h : s.whitelistedAt upcase pid = true) :
    ¬s.DeniedAt upcase deviceInstancePath pid sessionId := by
  rintro ⟨-, -, -, hwhite⟩
  exact Bool.false_ne_true (hwhite.symm.trans h)

/-- The call that has found the service active. -/
theorem decided_of_active (hs : s.Steady upcase)
    (hprompt : Machine.Along (overlapStep upcase deviceInstancePath pid sessionId)
      (Prompt upcase pid) (s, .active) events)
    (hrun : Machine.run (overlapStep upcase deviceInstancePath pid sessionId) (s, .active)
      events = some (s', .decided d)) :
    (d = false → Machine.Sometime (overlapStep upcase deviceInstancePath pid sessionId)
      (Meanwhile fun t => ¬t.DeniedAt upcase deviceInstancePath pid sessionId)
      (s, .active) events) ∧
    (d = true →
      Machine.Sometime (overlapStep upcase deviceInstancePath pid sessionId)
        (Meanwhile fun t => t.blacklistedAt upcase deviceInstancePath sessionId = true)
        (s, .active) events ∧
      Machine.Sometime (overlapStep upcase deviceInstancePath pid sessionId)
        (Meanwhile fun t => t.whitelistedAt upcase pid = false) (s, .active) events) := by
  obtain ⟨before, after, t, z, rfl, hbefore, hread, hafter⟩ := Machine.run_until_read hrun (by simp)
  obtain ⟨halong, -, hrest⟩ := Machine.along_until_read hbefore hread hprompt
  have hread' := hread
  simp only [openStep] at hread'
  split_ifs at hread' with hblack
  · obtain rfl := Option.some.inj hread'
    have hwhite := Machine.Sometime.of_read hbefore hread
      (decided_of_blacklisted (hs.run halong hbefore) hrest hafter)
    constructor
    · rintro rfl
      exact hwhite.mono fun u hu => ⟨hu.1, not_deniedAt_of_whitelistedAt hu.2⟩
    · rintro rfl
      exact ⟨.map_some (.last hbefore ⟨nofun, hblack⟩), hwhite⟩
  · obtain rfl := Option.some.inj hread'
    obtain rfl := decided_stays hafter
    refine ⟨fun _ => .map_some (.last hbefore ⟨nofun, ?_⟩), nofun⟩
    exact fun hdenied => hblack hdenied.2.2.1

end Decision

end Concurrent

open Concurrent

/-- **Each open is decided by moments of its own.** Access is granted only if the settings of some
moment of the call grant it. It is denied only if, each at some moment of the call, the service is
active, the device blacklisted, and the process not whitelisted. -/
theorem decision_of_moments (upcase : WChar → WChar) {o : CreateOutcome} {fw : Framework}
    (hstart : NTSuccess (onDriverCreate o fw).1) {history : List Interference} {s : Concurrent}
    (hhistory : Machine.Along (interfere upcase) (InterferesPromptly upcase) (start o fw) history)
    (hs : Machine.run (interfere upcase) (start o fw) history = some s)
    {deviceInstancePath : UnicodeString} {pid sessionId : UInt32}
    {events : List (Option Interference)} {s' : Concurrent} {accessDenied : Bool}
    (hprompt : Machine.Along (overlapStep upcase deviceInstancePath pid sessionId)
      (Prompt upcase pid) (s, .entered) events)
    (hrun : Machine.run (overlapStep upcase deviceInstancePath pid sessionId) (s, .entered) events =
      some (s', .decided accessDenied)) :
    (accessDenied = false → Machine.Sometime (overlapStep upcase deviceInstancePath pid sessionId)
      (Meanwhile fun t => ¬t.DeniedAt upcase deviceInstancePath pid sessionId)
      (s, .entered) events) ∧
    (accessDenied = true → pid ≠ systemPid ∧
      Machine.Sometime (overlapStep upcase deviceInstancePath pid sessionId)
        (Meanwhile fun t => t.driver.context.active = true) (s, .entered) events ∧
      Machine.Sometime (overlapStep upcase deviceInstancePath pid sessionId)
        (Meanwhile fun t => t.blacklistedAt upcase deviceInstancePath sessionId = true)
        (s, .entered) events ∧
      Machine.Sometime (overlapStep upcase deviceInstancePath pid sessionId)
        (Meanwhile fun t => t.whitelistedAt upcase pid = false) (s, .entered) events) := by
  have hsteady : s.Steady upcase :=
    Steady.run ⟨start_valid hstart, start_cacheCoherent⟩ hhistory hs
  obtain ⟨before, after, t, z, rfl, hbefore, hread, hafter⟩ := Machine.run_until_read hrun (by simp)
  obtain ⟨halong, -, hrest⟩ := Machine.along_until_read hbefore hread hprompt
  have hread' := hread
  simp only [openStep] at hread'
  split_ifs at hread' with hactive
  · obtain rfl := Option.some.inj hread'
    obtain ⟨hgranted, hdenied⟩ := decided_of_active (hsteady.run halong hbefore) hrest hafter
    refine ⟨fun h => .of_read hbefore hread (hgranted h), fun h => ?_⟩
    obtain ⟨hblack, hwhite⟩ := hdenied h
    exact ⟨hactive.1.symm, .map_some (.last hbefore ⟨nofun, hactive.2⟩),
      .of_read hbefore hread hblack, .of_read hbefore hread hwhite⟩
  · obtain rfl := Option.some.inj hread'
    obtain rfl := decided_stays hafter
    refine ⟨fun _ => .map_some (.last hbefore ⟨nofun, ?_⟩), nofun⟩
    exact fun hdenied => hactive ⟨hdenied.1.symm, hdenied.2.1⟩

/-- A started driver that is active, and hides one device from a process with a name. -/
def hiddenDevice : List Interference :=
  [.step (.register ⟨true, statusSuccess, statusSuccess⟩ (processHandle 8) [0x41]),
    .step (.persistList .blacklist .success [0x42, nul, nul]),
    .step (.replaceList .blacklist .success),
    .step (.persistSwitch .active .success true), .step (.assignSwitch .active true)]

/-- The list is inverted after the check, before the inverse switch is read. -/
def invertedMeanwhile : List (Option Interference) :=
  [none, none, none, none, some (.step (.persistSwitch .whitelistedInverse .success true)),
    some (.step (.assignSwitch .whitelistedInverse true)), none]

/-- Access is granted, and at some moment the settings grant it. -/
theorem decision_of_moments_invertedMeanwhile :
    ∃ s s', Machine.run (interfere id) (start .success .empty) hiddenDevice = some s ∧
      s.DeniedAt id [0x42] 8 1 ∧
      Machine.run (overlapStep id [0x42] 8 1) (s, .entered) invertedMeanwhile =
        some (s', .decided false) ∧
      Machine.Sometime (overlapStep id [0x42] 8 1)
        (Meanwhile fun t => ¬t.DeniedAt id [0x42] 8 1) (s, .entered) invertedMeanwhile := by
  obtain ⟨s, hs⟩ := Option.isSome_iff_exists.mp
    (show (Machine.run (interfere id) (start .success .empty) hiddenDevice).isSome by decide)
  have hdenied : ∀ t, Machine.run (interfere id) (start .success .empty) hiddenDevice = some t →
      t.DeniedAt id [0x42] 8 1 ∧
      Machine.Along (overlapStep id [0x42] 8 1) (Prompt id 8) (t, .entered) invertedMeanwhile ∧
      (Machine.run (overlapStep id [0x42] 8 1) (t, .entered) invertedMeanwhile).map Prod.snd =
        some (.decided false) := by decide
  obtain ⟨hdenied, hprompt, hdecided⟩ := hdenied s hs
  obtain ⟨⟨s', progress⟩, hrun, rfl⟩ := Option.map_eq_some_iff.mp hdecided
  exact ⟨s, s', hs, hdenied, hrun,
    (decision_of_moments id (by decide) (by decide) hs hprompt hrun).1 rfl⟩

/-- The service is switched off, and only then the device is hidden. -/
def hiddenMeanwhile : List (Option Interference) :=
  [none, some (.step (.persistSwitch .active .success false)),
    some (.step (.assignSwitch .active false)),
    some (.step (.persistList .blacklist .success [0x43, nul, nul])),
    some (.step (.replaceList .blacklist .success)), none, none, none, none]

/- Access is denied, though the settings of no moment deny it. -/
example : ∀ s ∈ Machine.run (interfere id) (start .success .empty) hiddenDevice,
    (Machine.run (overlapStep id [0x43] 8 1) (s, .entered) hiddenMeanwhile).map Prod.snd =
      some (.decided true) ∧
    ∀ done ∈ hiddenMeanwhile.inits,
      ∀ x ∈ Machine.run (overlapStep id [0x43] 8 1) (s, .entered) done,
        ¬x.1.DeniedAt id [0x43] 8 1 := by
  decide

end HidHide
