import HidHide.ForMathlib.Machine
import Mathlib.Logic.Function.Basic

/-!
# The watchdog and the upper filters

While the driver does not run, its entry among the upper filters of a device class keeps the devices
of the class from starting. The watchdog looks every five seconds whether the driver runs, and
removes its entries or adds the missing ones. In between, the driver starts and stops, other
programs change the filters, and each call may fail; what the watchdog does then rests on what it
saw before.

Once the driver stays as it is, and no other program touches its entries, 17 steps of the watchdog
that succeed are enough: from then on each device class has the entry exactly if the driver runs,
whatever the calls come to (`filters_settle`).
-/

namespace HidHide

/-- The device classes with the filter: `GUID_DEVCLASS_HIDCLASS`, `GUID_DEVCLASS_XNACOMPOSITE` and
`GUID_DEVCLASS_XBOXCOMPOSITE`. -/
inductive DeviceClass where
  | hidClass
  | xnaComposite
  | xboxComposite
  deriving DecidableEq, Repr

/-- The device classes, in the order of the task. -/
def DeviceClass.all : List DeviceClass := [.hidClass, .xnaComposite, .xboxComposite]

theorem DeviceClass.mem_all (cls : DeviceClass) : cls ∈ all := by cases cls <;> decide

/-- The calls of the device library on the upper filters of a class: `HasDeviceClassFilter`,
`AddDeviceClassFilter` and `RemoveDeviceClassFilter`. -/
structure DeviceClassFilters (Filters : Type*) where
  hasDeviceClassFilter : Filters → String → Bool
  addDeviceClassFilter : Filters → String → Filters
  removeDeviceClassFilter : Filters → String → Filters

/-- The filter that was added is there, the one that was removed is not. -/
structure DeviceClassFilters.Lawful {Filters : Type*} (calls : DeviceClassFilters Filters) :
    Prop where
  has_add (filters : Filters) (name : String) :
    calls.hasDeviceClassFilter (calls.addDeviceClassFilter filters name) name = true
  has_remove (filters : Filters) (name : String) :
    calls.hasDeviceClassFilter (calls.removeDeviceClassFilter filters name) name = false

namespace WatchdogTask

/-- `serviceName`. -/
def serviceName : String := "HidHide"

/-- `SERVICE_RUNNING`. -/
def serviceRunning : UInt32 := 4

/-- Where `runTask` stands: before the query of the service status, at the classes of which the
filter is still to be removed or still to be checked, at a class with the filter missing, in the
sleep, or past the loop. -/
inductive Phase where
  | querying
  | removing (classes : List DeviceClass)
  | checking (classes : List DeviceClass)
  | adding (cls : DeviceClass) (classes : List DeviceClass)
  | sleeping
  | stopped
  deriving DecidableEq, Repr

/-- The status of the driver service, the upper filters of the classes, and the task. -/
structure State (Filters : Type*) where
  dwCurrentState : UInt32
  upperFilters : DeviceClass → Filters
  phase : Phase
  cancelled : Bool

/-- The task goes on, its call succeeds or fails; the task is cancelled; the service changes its
state; another program changes the filters of a class. -/
inductive Event (Filters : Type*) where
  | task (ok : Bool)
  | cancel
  | service (dwCurrentState : UInt32)
  | other (cls : DeviceClass) (filters : Filters)

/-- The task goes on. -/
def Event.isTask {Filters : Type*} : Event Filters → Bool
  | .task _ => true
  | _ => false

section Step

variable {Filters : Type*} (calls : DeviceClassFilters Filters)

/-- `runTask` goes on, and its call succeeds or fails. -/
def runTask (s : State Filters) (ok : Bool) : Option (State Filters) :=
  match s.phase with
  | .querying =>
      if !ok then some { s with phase := .sleeping }
      else if s.dwCurrentState ≠ serviceRunning then
        some { s with phase := .removing DeviceClass.all }
      else some { s with phase := .checking DeviceClass.all }
  | .removing (cls :: classes) =>
      let filters := s.upperFilters cls
      let filters' := if ok then calls.removeDeviceClassFilter filters serviceName else filters
      some { s with upperFilters := Function.update s.upperFilters cls filters',
                    phase := .removing classes }
  | .checking (cls :: classes) =>
      -- `value_or(false)`: a filter that cannot be looked up counts as missing
      if ok && calls.hasDeviceClassFilter (s.upperFilters cls) serviceName then
        some { s with phase := .checking classes }
      else some { s with phase := .adding cls classes }
  | .adding cls classes =>
      let filters := s.upperFilters cls
      let filters' := if ok then calls.addDeviceClassFilter filters serviceName else filters
      some { s with upperFilters := Function.update s.upperFilters cls filters',
                    phase := .checking classes }
  | .removing [] | .checking [] => some { s with phase := .sleeping }
  | .sleeping => some { s with phase := if s.cancelled then .stopped else .querying }
  | .stopped => none

/-- What happens next. -/
def step (s : State Filters) : Event Filters → Option (State Filters)
  | .task ok => runTask calls s ok
  | .cancel => some { s with cancelled := true }
  | .service dwCurrentState => some { s with dwCurrentState }
  | .other cls filters =>
      some { s with upperFilters := Function.update s.upperFilters cls filters }

/-- The task starts, whatever the service and the filters are. -/
def start (dwCurrentState : UInt32) (upperFilters : DeviceClass → Filters) : State Filters where
  dwCurrentState
  upperFilters
  phase := .querying
  cancelled := false

variable (s : State Filters)

/-- The class has the filter exactly if the driver runs. -/
def Settled (cls : DeviceClass) : Prop :=
  calls.hasDeviceClassFilter (s.upperFilters cls) serviceName = true ↔
    s.dwCurrentState = serviceRunning

/-- The event leaves alone whether the driver runs, and the entries of the driver. -/
def Undisturbed (s : State Filters) : Event Filters → Prop
  | .service dwCurrentState =>
      dwCurrentState = serviceRunning ↔ s.dwCurrentState = serviceRunning
  | .other cls filters =>
      calls.hasDeviceClassFilter filters serviceName =
        calls.hasDeviceClassFilter (s.upperFilters cls) serviceName
  | _ => True

/-- So it does, and no call of the task fails. -/
def Succeeds (s : State Filters) : Event Filters → Prop
  | .task ok => ok = true
  | e => Undisturbed calls s e

instance (s : State Filters) : DecidablePred (Succeeds calls s)
  | .task ok => inferInstanceAs (Decidable (ok = true))
  | .cancel => .isTrue trivial
  | .service _ => inferInstanceAs (Decidable (_ ↔ _))
  | .other _ _ => inferInstanceAs (Decidable (_ = _))

end Step

/-! ### The invariant -/

/-- The task does what is called for while the driver runs, or does not. -/
def Phase.Fits (running : Prop) : Phase → Prop
  | .removing _ => ¬running
  | .checking _ => running
  | .adding _ _ => running
  | _ => True

/-- The classes that the iteration has still to deal with. -/
def Phase.classes : Phase → Option (List DeviceClass)
  | .removing classes => some classes
  | .checking classes => some classes
  | .adding cls classes => some (cls :: classes)
  | _ => none

/-- The steps up to the next query of the service status. -/
def Phase.stepsLeft : Phase → ℕ
  | .removing classes => classes.length + 2
  | .checking classes => 2 * classes.length + 2
  | .adding _ classes => 2 * classes.length + 3
  | .sleeping => 1
  | .querying | .stopped => 0

section Invariant

variable {Filters : Type*} (calls : DeviceClassFilters Filters) (s : State Filters)

/-- The filters are as the driver calls for, and the task leaves them so. -/
structure Steady : Prop where
  fits : s.phase.Fits (s.dwCurrentState = serviceRunning)
  settled : ∀ cls, Settled calls s cls

/-- The iteration is one that fits, and the classes that it has dealt with are settled. -/
structure Sweeping : Prop where
  fits : s.phase.Fits (s.dwCurrentState = serviceRunning)
  settled : ∃ classes ∈ s.phase.classes, ∀ cls ∉ classes, Settled calls s cls

/-- At most `n` steps of the task are left until the filters are settled: those of an iteration that
fits, or those of one that does not and of the whole next one. -/
def SettledWithin (n : ℕ) : Prop :=
  Steady calls s ∨ Sweeping calls s ∧ s.phase.stepsLeft ≤ n ∨ s.phase.stepsLeft + 9 ≤ n

end Invariant

variable {Filters : Type*} {calls : DeviceClassFilters Filters} {s s' : State Filters}

/-- What others do leaves the task alone, and what it has achieved. -/
theorem step_undisturbed {e : Event Filters} (he : Undisturbed calls s e) (htask : e.isTask = false)
    (hstep : step calls s e = some s') :
    s'.phase = s.phase ∧
      (s'.dwCurrentState = serviceRunning ↔ s.dwCurrentState = serviceRunning) ∧
      ∀ cls, Settled calls s' cls ↔ Settled calls s cls := by
  cases e with
  | task ok => cases htask
  | cancel =>
    obtain rfl := Option.some.inj hstep
    exact ⟨rfl, Iff.rfl, fun _ => Iff.rfl⟩
  | service dwCurrentState =>
    obtain rfl := Option.some.inj hstep
    exact ⟨rfl, he, fun cls => iff_congr Iff.rfl he⟩
  | other cls filters =>
    obtain rfl := Option.some.inj hstep
    refine ⟨rfl, Iff.rfl, fun cls' => iff_congr ?_ Iff.rfl⟩
    dsimp only
    by_cases hcls : cls' = cls
    · rw [hcls, Function.update_self, he]
    · rw [Function.update_of_ne hcls]

/-- A class whose filter is what the driver calls for is settled; the others are as before. -/
theorem settled_update {cls cls' : DeviceClass} {filters : Filters} {phase : Phase}
    (hfilters : cls' = cls → (calls.hasDeviceClassFilter filters serviceName = true ↔
      s.dwCurrentState = serviceRunning))
    (h : cls' ≠ cls → Settled calls s cls') :
    Settled calls { s with upperFilters := Function.update s.upperFilters cls filters,
                           phase := phase } cls' := by
  dsimp only [Settled]
  by_cases hcls : cls' = cls
  · rw [hcls, Function.update_self]
    exact hfilters hcls
  · rw [Function.update_of_ne hcls]
    exact h hcls

/-- The filter of a class after a removal that fails or not, if the driver does not run. -/
theorem has_removed (hcalls : calls.Lawful) (hrunning : s.dwCurrentState ≠ serviceRunning)
    {cls : DeviceClass} {ok : Bool} (h : ok = true ∨ Settled calls s cls) :
    calls.hasDeviceClassFilter (if ok = true then
        calls.removeDeviceClassFilter (s.upperFilters cls) serviceName
      else s.upperFilters cls) serviceName = true ↔ s.dwCurrentState = serviceRunning := by
  split_ifs with hok
  · rw [hcalls.has_remove]
    exact iff_of_false Bool.false_ne_true hrunning
  · exact h.resolve_left hok

/-- The filter of a class after an addition that fails or not, if the driver runs. -/
theorem has_added (hcalls : calls.Lawful) (hrunning : s.dwCurrentState = serviceRunning)
    {cls : DeviceClass} {ok : Bool} (h : ok = true ∨ Settled calls s cls) :
    calls.hasDeviceClassFilter (if ok = true then
        calls.addDeviceClassFilter (s.upperFilters cls) serviceName
      else s.upperFilters cls) serviceName = true ↔ s.dwCurrentState = serviceRunning := by
  split_ifs with hok
  · rw [hcalls.has_add]
    exact iff_of_true rfl hrunning
  · exact h.resolve_left hok

/-- A step of an iteration that fits keeps it so, and what is settled, whatever its call comes
to. -/
theorem runTask_keeps (hcalls : calls.Lawful)
    (hfits : s.phase.Fits (s.dwCurrentState = serviceRunning)) {ok : Bool}
    (hstep : runTask calls s ok = some s') :
    s'.phase.Fits (s'.dwCurrentState = serviceRunning) ∧
      ∀ cls, Settled calls s cls → Settled calls s' cls := by
  obtain ⟨dwCurrentState, upperFilters, phase, cancelled⟩ := s
  cases phase with
  | querying =>
    dsimp only [runTask] at hstep
    split_ifs at hstep with hok hrunning
    · obtain rfl := Option.some.inj hstep
      exact ⟨trivial, fun _ h => h⟩
    · obtain rfl := Option.some.inj hstep
      exact ⟨hrunning, fun _ h => h⟩
    · obtain rfl := Option.some.inj hstep
      exact ⟨not_not.mp hrunning, fun _ h => h⟩
  | removing classes =>
    rcases classes with _ | ⟨cls, classes⟩
    · obtain rfl := Option.some.inj hstep
      exact ⟨trivial, fun _ h => h⟩
    · obtain rfl := Option.some.inj hstep
      refine ⟨hfits, fun cls' h => settled_update (fun hcls => ?_) fun _ => h⟩
      exact has_removed hcalls hfits (.inr (hcls ▸ h))
  | checking classes =>
    rcases classes with _ | ⟨cls, classes⟩
    · obtain rfl := Option.some.inj hstep
      exact ⟨trivial, fun _ h => h⟩
    · dsimp only [runTask] at hstep
      split_ifs at hstep
      · obtain rfl := Option.some.inj hstep
        exact ⟨hfits, fun _ h => h⟩
      · obtain rfl := Option.some.inj hstep
        exact ⟨hfits, fun _ h => h⟩
  | adding cls classes =>
    obtain rfl := Option.some.inj hstep
    refine ⟨hfits, fun cls' h => settled_update (fun hcls => ?_) fun _ => h⟩
    exact has_added hcalls hfits (.inr (hcls ▸ h))
  | sleeping =>
    obtain rfl := Option.some.inj hstep
    refine ⟨?_, fun _ h => h⟩
    dsimp only
    split_ifs <;> trivial
  | stopped => cases hstep

/-- **What is settled stays settled**, whatever the calls of the task come to. -/
theorem Steady.step (hcalls : calls.Lawful) (h : Steady calls s) {e : Event Filters}
    (he : Undisturbed calls s e) (hstep : step calls s e = some s') : Steady calls s' := by
  cases e with
  | task ok =>
    obtain ⟨hfits, hkeeps⟩ := runTask_keeps hcalls h.fits hstep
    exact ⟨hfits, fun cls => hkeeps cls (h.settled cls)⟩
  | cancel | service | other =>
    obtain ⟨hphase, hrunning, hsettled⟩ := step_undisturbed he rfl hstep
    refine ⟨?_, fun cls => (hsettled cls).mpr (h.settled cls)⟩
    rw [hphase, propext hrunning]
    exact h.fits

/-- An iteration that fits goes on to the next class, or is through with all of them. -/
theorem Sweeping.runTask (hcalls : calls.Lawful) (h : Sweeping calls s)
    (hstep : runTask calls s true = some s') : Steady calls s' ∨ Sweeping calls s' := by
  obtain ⟨hfits', hkeeps⟩ := runTask_keeps hcalls h.fits hstep
  obtain ⟨hfits, todo, htodo, hsettled⟩ := h
  obtain ⟨dwCurrentState, upperFilters, phase, cancelled⟩ := s
  cases phase with
  | querying | sleeping | stopped => cases htodo
  | removing classes =>
    obtain rfl := Option.some.inj htodo
    rcases classes with _ | ⟨cls, classes⟩
    · exact .inl ⟨hfits', fun cls => hkeeps cls (hsettled cls List.not_mem_nil)⟩
    · obtain rfl := Option.some.inj hstep
      refine .inr ⟨hfits', classes, rfl, fun cls' hcls' =>
        settled_update (fun _ => ?_) fun hne => ?_⟩
      · exact has_removed hcalls hfits (.inl rfl)
      · exact hsettled cls' (List.not_mem_cons_of_ne_of_not_mem hne hcls')
  | checking classes =>
    obtain rfl := Option.some.inj htodo
    rcases classes with _ | ⟨cls, classes⟩
    · exact .inl ⟨hfits', fun cls => hkeeps cls (hsettled cls List.not_mem_nil)⟩
    · dsimp only [WatchdogTask.runTask] at hstep
      split_ifs at hstep with hhas
      · obtain rfl := Option.some.inj hstep
        refine .inr ⟨hfits', classes, rfl, fun cls' hcls' => ?_⟩
        by_cases hcls : cls' = cls
        · rw [Bool.true_and, ← hcls] at hhas
          exact iff_of_true hhas hfits
        · exact hsettled cls' (List.not_mem_cons_of_ne_of_not_mem hcls hcls')
      · obtain rfl := Option.some.inj hstep
        exact .inr ⟨hfits', cls :: classes, rfl, hsettled⟩
  | adding cls classes =>
    obtain rfl := Option.some.inj htodo
    obtain rfl := Option.some.inj hstep
    refine .inr ⟨hfits', classes, rfl, fun cls' hcls' => settled_update (fun _ => ?_) fun hne => ?_⟩
    · exact has_added hcalls hfits (.inl rfl)
    · exact hsettled cls' (List.not_mem_cons_of_ne_of_not_mem hne hcls')

/-- What others do leaves it so. -/
theorem Sweeping.undisturbed (h : Sweeping calls s) {e : Event Filters}
    (he : Undisturbed calls s e) (htask : e.isTask = false) (hstep : step calls s e = some s') :
    Sweeping calls s' := by
  obtain ⟨hphase, hrunning, hsettled⟩ := step_undisturbed he htask hstep
  obtain ⟨hfits, todo, htodo, hdone⟩ := h
  rw [← hphase] at hfits htodo
  rw [← propext hrunning] at hfits
  exact ⟨hfits, todo, htodo, fun cls hcls => (hsettled cls).mpr (hdone cls hcls)⟩

/-- Each step up to the next query brings it nearer. -/
theorem stepsLeft_runTask {ok : Bool} (hphase : s.phase ≠ .querying)
    (hstep : runTask calls s ok = some s') : s'.phase.stepsLeft + 1 ≤ s.phase.stepsLeft := by
  obtain ⟨dwCurrentState, upperFilters, phase, cancelled⟩ := s
  cases phase with
  | querying => exact absurd rfl hphase
  | removing classes =>
    rcases classes with _ | ⟨cls, classes⟩
    · obtain rfl := Option.some.inj hstep
      simp [Phase.stepsLeft]
    · obtain rfl := Option.some.inj hstep
      simp [Phase.stepsLeft]
  | checking classes =>
    rcases classes with _ | ⟨cls, classes⟩
    · obtain rfl := Option.some.inj hstep
      simp [Phase.stepsLeft]
    · dsimp only [runTask] at hstep
      split_ifs at hstep
      · obtain rfl := Option.some.inj hstep
        simp only [Phase.stepsLeft, List.length_cons]
        omega
      · obtain rfl := Option.some.inj hstep
        simp only [Phase.stepsLeft, List.length_cons]
        omega
  | adding cls classes =>
    obtain rfl := Option.some.inj hstep
    simp [Phase.stepsLeft]
  | sleeping =>
    obtain rfl := Option.some.inj hstep
    dsimp only
    split_ifs <;> simp [Phase.stepsLeft]
  | stopped => cases hstep

/-- The query starts an iteration that fits. -/
theorem sweeping_of_query (hphase : s.phase = .querying)
    (hstep : runTask calls s true = some s') :
    Sweeping calls s' ∧ s'.phase.stepsLeft ≤ 8 := by
  obtain ⟨dwCurrentState, upperFilters, phase, cancelled⟩ := s
  obtain rfl : phase = .querying := hphase
  have hnone : ∀ cls ∉ DeviceClass.all, Settled calls s' cls :=
    fun cls hcls => absurd cls.mem_all hcls
  dsimp only [runTask] at hstep
  split_ifs at hstep with hok hrunning
  · cases hok
  · obtain rfl := Option.some.inj hstep
    exact ⟨⟨hrunning, DeviceClass.all, rfl, hnone⟩, by simp [Phase.stepsLeft, DeviceClass.all]⟩
  · obtain rfl := Option.some.inj hstep
    exact ⟨⟨not_not.mp hrunning, DeviceClass.all, rfl, hnone⟩,
      by simp [Phase.stepsLeft, DeviceClass.all]⟩

/-- An iteration has at most eight steps after its query. -/
theorem stepsLeft_le (hs : s.phase.stepsLeft ≤ 8) {e : Event Filters}
    (hstep : step calls s e = some s') : s'.phase.stepsLeft ≤ 8 := by
  cases e with
  | task ok =>
    by_cases hphase : s.phase = .querying
    · cases ok with
      | true => exact (sweeping_of_query hphase hstep).2
      | false =>
        simp only [step, runTask, hphase] at hstep
        obtain rfl := Option.some.inj hstep
        simp [Phase.stepsLeft]
    · have hless := stepsLeft_runTask hphase hstep
      omega
  | cancel | service | other =>
    obtain rfl := Option.some.inj hstep
    exact hs

/-- **Each step that succeeds brings the filters nearer to be settled.** -/
theorem SettledWithin.step (hcalls : calls.Lawful) {n : ℕ} (h : SettledWithin calls s n)
    {e : Event Filters} (he : Succeeds calls s e) (hstep : step calls s e = some s') :
    SettledWithin calls s' (if e.isTask then n - 1 else n) := by
  have hundisturbed : Undisturbed calls s e := by
    cases e with
    | task => trivial
    | cancel | service | other => exact he
  rcases h with hsteady | hrest
  · exact .inl (hsteady.step hcalls hundisturbed hstep)
  · cases e with
    | task ok =>
      obtain rfl : ok = true := he
      change SettledWithin calls s' (n - 1)
      rcases hrest with ⟨hsweeping, hn⟩ | hn
      · have hphase : s.phase ≠ .querying := by
          obtain ⟨-, todo, htodo, -⟩ := hsweeping
          rintro hphase
          rw [hphase] at htodo
          cases htodo
        have hless := stepsLeft_runTask hphase hstep
        exact (hsweeping.runTask hcalls hstep).imp_right fun h => .inl ⟨h, by omega⟩
      · by_cases hphase : s.phase = .querying
        · obtain ⟨hsweeping, hle⟩ := sweeping_of_query hphase hstep
          exact .inr (.inl ⟨hsweeping, by omega⟩)
        · have hless := stepsLeft_runTask hphase hstep
          exact .inr (.inr (by omega))
    | cancel | service | other =>
      change SettledWithin calls s' n
      rw [SettledWithin, (step_undisturbed hundisturbed rfl hstep).1]
      exact .inr (hrest.imp_left fun h => ⟨h.1.undisturbed hundisturbed rfl hstep, h.2⟩)

/-- No steps are left. -/
theorem SettledWithin.steady (h : SettledWithin calls s 0) : Steady calls s := by
  rcases h with hsteady | ⟨⟨-, todo, htodo, -⟩, hn⟩ | hn
  · exact hsteady
  · rcases hphase : s.phase <;> rw [hphase] at htodo hn <;> simp [Phase.stepsLeft] at hn <;>
      cases htodo
  · omega

end WatchdogTask

open WatchdogTask

/-- **The filters settle.** After any history, let the driver stay as it is and its entries be left
alone by others. Once the watchdog has taken 17 steps that succeed, each device class has the filter
exactly if the driver runs, for as long as this lasts, whatever the calls come to. -/
theorem filters_settle {Filters : Type*} {calls : DeviceClassFilters Filters}
    (hcalls : calls.Lawful) {dwCurrentState : UInt32} {upperFilters : DeviceClass → Filters}
    {history : List (Event Filters)} {s : State Filters}
    (hs : Machine.run (step calls) (start dwCurrentState upperFilters) history = some s)
    {sweep : List (Event Filters)} {t : State Filters}
    (hsweep : Machine.Along (step calls) (Succeeds calls) s sweep)
    (ht : Machine.run (step calls) s sweep = some t)
    (hcount : 17 ≤ sweep.countP Event.isTask) {rest : List (Event Filters)} {u : State Filters}
    (hrest : Machine.Along (step calls) (Undisturbed calls) t rest)
    (hu : Machine.run (step calls) t rest = some u) (cls : DeviceClass) :
    calls.hasDeviceClassFilter (u.upperFilters cls) serviceName = true ↔
      u.dwCurrentState = serviceRunning := by
  -- the iteration under way, and the next one
  have hleft : s.phase.stepsLeft ≤ 8 :=
    Machine.run_invariant (I := fun s => s.phase.stepsLeft ≤ 8)
      (fun _ _ _ h hstep => stepsLeft_le h hstep) (Nat.zero_le 8) hs
  have hwithin : SettledWithin calls s 17 := .inr (.inr (by omega))
  have hnone := Machine.run_budget (W := fun n s => SettledWithin calls s n)
    (fun _ _ _ _ h he hstep => h.step hcalls he hstep) hwithin hsweep ht
  rw [Nat.sub_eq_zero_of_le hcount] at hnone
  have hsteady : Steady calls u := Machine.run_invariant_of_along
    (fun _ _ _ h he hstep => h.step hcalls he hstep) hnone.steady hrest hu
  exact hsteady.settled cls

/-- The filters of a class as a list of names. -/
def nameFilters : DeviceClassFilters (List String) where
  hasDeviceClassFilter filters name := filters.contains name
  addDeviceClassFilter filters name := if filters.contains name then filters else filters ++ [name]
  removeDeviceClassFilter filters name := filters.filter (· != name)

theorem nameFilters_lawful : nameFilters.Lawful where
  has_add filters name := by
    simp only [nameFilters]
    split_ifs with h
    · exact h
    · simp
  has_remove filters name := by simp [nameFilters]

/-- The driver stops right after the query, and the task goes on to its sleep. -/
def stoppedAfterQuery : List (Event (List String)) :=
  [.task true, .service 1] ++ List.replicate 7 (.task true)

/- One iteration is not enough: it has added the filter of a driver that does not run. -/
example : (Machine.run (step nameFilters) (start serviceRunning fun _ => [])
    stoppedAfterQuery).map (fun s => (s.phase, s.upperFilters .hidClass)) =
      some (.sleeping, [serviceName]) := by
  decide

/-- The driver stays stopped: no class has the filter. -/
theorem filters_settle_stoppedAfterQuery :
    ∃ s t, Machine.run (step nameFilters) (start serviceRunning fun _ => []) stoppedAfterQuery =
        some s ∧
      Machine.run (step nameFilters) s (List.replicate 17 (.task true)) = some t ∧
      ∀ cls, nameFilters.hasDeviceClassFilter (t.upperFilters cls) serviceName = true ↔
        t.dwCurrentState = serviceRunning := by
  obtain ⟨s, hs⟩ := Option.isSome_iff_exists.mp (show (Machine.run (step nameFilters)
    (start serviceRunning fun _ => []) stoppedAfterQuery).isSome by decide)
  have hsweep : ∀ s, Machine.run (step nameFilters) (start serviceRunning fun _ => [])
      stoppedAfterQuery = some s →
        Machine.Along (step nameFilters) (Succeeds nameFilters) s
          (List.replicate 17 (.task true)) ∧
        (Machine.run (step nameFilters) s (List.replicate 17 (.task true))).isSome := by
    decide
  obtain ⟨hsucceeds, hsome⟩ := hsweep s hs
  obtain ⟨t, ht⟩ := Option.isSome_iff_exists.mp hsome
  have hrest : Machine.Along (step nameFilters) (Undisturbed nameFilters) t [] := trivial
  exact ⟨s, t, hs, ht, filters_settle nameFilters_lawful hs hsucceeds ht (by decide) hrest rfl⟩

end HidHide
