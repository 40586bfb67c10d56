import HidHide.ForMathlib.Machine
import HidHide.Driver.Requests

/-!
# The lifetime of the control device

The driver counts its filter devices by hand, in `numberOfDevicesCreated`, and deletes the control
device when the count reaches zero during a shutdown. The count goes up at the end of
`OnDeviceCreate`, which is reached only when everything has succeeded; it goes down in
`OnDeviceContextCleanup`, which the framework calls for every device object, also for one that it
deletes because its addition failed after `WdfDeviceCreate`.

`tracksDevices_iff` says exactly in which runs the count is the number of devices and the control
device is deleted when it should be. The deletion of the device's string in
`OnDeviceContextCleanup` has no effect on what is counted and is left out.
-/

namespace HidHide

/-- The control device, the live filter device objects, and each deletion of the control device
with the value of `shutdownPending` and the number of live devices it happened at. -/
structure Lifetime where
  controlDevice : Option ControlDeviceContext
  liveDevices : ℕ
  deletions : List (Bool × ℕ)

/-- The driver after the creation of its control device. -/
def Lifetime.start (o : CreateOutcome) (fw : Framework) : Lifetime where
  controlDevice := some (onControlDeviceCreate o fw).2.1
  liveDevices := 0
  deletions := []

/-! ### The functions of `Logic.c` and `Device.c` -/

/-- `UpdateDataForControlDeviceDeletionAndDeleteControlDeviceWhenNeeded`. Without a control device
there is no context to update: `none`. -/
def updateDataForControlDeviceDeletionAndDeleteControlDeviceWhenNeeded (increment : Int32)
    (s : Lifetime) : Option Lifetime :=
  match s.controlDevice with
  | none => none
  | some ctx =>
      let ctx := if 0 = increment then { ctx with shutdownPending := true } else ctx
      let ctx := { ctx with numberOfDevicesCreated := ctx.numberOfDevicesCreated + increment }
      -- `deleteControlDevice`
      if 0 = ctx.numberOfDevicesCreated ∧ ctx.shutdownPending = true then
        some { s with
          controlDevice := none
          deletions := s.deletions ++ [(ctx.shutdownPending, s.liveDevices)] }
      else some { s with controlDevice := some ctx }

/-- What the calls of `HidHideCreateDevice` come back with. -/
structure DeviceAddOutcome where
  deviceCreate : NTStatus
  createDeviceInterface : NTStatus
  deviceInstancePath : NTStatus

/-- `OnDeviceCreate`. -/
def onDeviceCreate (o : DeviceAddOutcome) (s : Lifetime) : NTStatus × Option Lifetime :=
  if ¬NTSuccess o.deviceInstancePath then (o.deviceInstancePath, some s)
  else
    (statusSuccess, updateDataForControlDeviceDeletionAndDeleteControlDeviceWhenNeeded 1 s)

/-- `HidHideCreateDevice`. -/
def hidHideCreateDevice (o : DeviceAddOutcome) (s : Lifetime) : NTStatus × Option Lifetime :=
  if ¬NTSuccess o.deviceCreate then (o.deviceCreate, some s)
  else
    let s := { s with liveDevices := s.liveDevices + 1 }
    if ¬NTSuccess o.createDeviceInterface then (o.createDeviceInterface, some s)
    else
      let (ntstatus, s) := onDeviceCreate o s
      if ¬NTSuccess ntstatus then (ntstatus, s) else (statusSuccess, s)

/-- `OnDeviceContextCleanup`. -/
def onDeviceContextCleanup (s : Lifetime) : Option Lifetime :=
  updateDataForControlDeviceDeletionAndDeleteControlDeviceWhenNeeded (-1) s

/-- `OnSystemShutdown`, for what it does to the control device. -/
def onSystemShutdown (s : Lifetime) : Option Lifetime :=
  updateDataForControlDeviceDeletionAndDeleteControlDeviceWhenNeeded 0 s

/-! ### The events -/

/-- What happens to the devices. -/
inductive LifetimeEvent where
  | deviceAdd (o : DeviceAddOutcome)
  | deviceRemove
  | shutdown

/-- The framework deletes a device object: it is no longer live when its cleanup callback runs. -/
def deleteDevice (s : Lifetime) : Option Lifetime :=
  onDeviceContextCleanup { s with liveDevices := s.liveDevices - 1 }

/-- The framework adds a device; when that fails after the device object has been created, it
deletes the object. -/
def addDevice (o : DeviceAddOutcome) (s : Lifetime) : Option Lifetime :=
  let (ntstatus, s) := hidHideCreateDevice o s
  if ¬NTSuccess ntstatus ∧ NTSuccess o.deviceCreate then s.bind deleteDevice else s

/-- One event. A device can be removed while there is one, and there is one shutdown. -/
def Lifetime.step (s : Lifetime) : LifetimeEvent → Option Lifetime
  | .deviceAdd o => addDevice o s
  | .deviceRemove => if 0 < s.liveDevices then deleteDevice s else none
  | .shutdown =>
      match s.controlDevice with
      | none => none
      | some ctx => if ctx.shutdownPending = true then none else onSystemShutdown s

/-! ### What should hold -/

/-- While there is a control device, its count is the number of live devices, and it is not due
for deletion; it is deleted at most once, and only when a shutdown is pending and no device is
live. -/
structure TracksDevices (s : Lifetime) : Prop where
  count : ∀ ctx ∈ s.controlDevice, ctx.numberOfDevicesCreated.toInt = s.liveDevices
  prompt : ∀ ctx ∈ s.controlDevice, ¬(ctx.shutdownPending = true ∧ s.liveDevices = 0)
  once : s.deletions.length ≤ 1
  idle : ∀ deletion ∈ s.deletions, deletion = (true, 0)

/-- An addition does not fail after the device object has been created, and the count does not
overflow. -/
def CountsRight (s : Lifetime) : LifetimeEvent → Prop
  | .deviceAdd o => ¬NTSuccess o.deviceCreate ∨
      (NTSuccess o.createDeviceInterface ∧ NTSuccess o.deviceInstancePath ∧
        s.liveDevices < 2147483647)
  | _ => True

/-- The invariant: the control device is alive with the right count, or it has been deleted once,
when no device was live. -/
def Tracked (s : Lifetime) : Prop :=
  (∃ ctx, s.controlDevice = some ctx ∧ ctx.numberOfDevicesCreated.toInt = s.liveDevices ∧
    ¬(ctx.shutdownPending = true ∧ s.liveDevices = 0) ∧ s.deletions = []) ∨
  (s.controlDevice = none ∧ s.liveDevices = 0 ∧ s.deletions = [(true, 0)])

theorem Tracked.tracksDevices {s : Lifetime} (h : Tracked s) : TracksDevices s := by
  rcases h with ⟨ctx, hctx, hcount, hprompt, hdel⟩ | ⟨hctx, -, hdel⟩
  · refine ⟨?_, ?_, by simp [hdel], by simp [hdel]⟩
    · rintro ctx' hctx'
      obtain rfl : ctx = ctx' := Option.some.inj (hctx.symm.trans hctx')
      exact hcount
    · rintro ctx' hctx'
      obtain rfl : ctx = ctx' := Option.some.inj (hctx.symm.trans hctx')
      exact hprompt
  · exact ⟨by simp [hctx], by simp [hctx], by simp [hdel], by simp [hdel]⟩

/-! ### One update of the count -/

/-- An update moves the count by the increment, and deletes the control device when that leaves
nothing and a shutdown is pending. -/
theorem update_cases {s s' : Lifetime} {ctx : ControlDeviceContext} {increment : Int32}
    (hctx : s.controlDevice = some ctx)
    (hs' : updateDataForControlDeviceDeletionAndDeleteControlDeviceWhenNeeded increment s =
      some s') :
    s'.liveDevices = s.liveDevices ∧
      ((0 = ctx.numberOfDevicesCreated + increment ∧ s'.controlDevice = none ∧
          s'.deletions = s.deletions ++ [(true, s.liveDevices)]) ∨
        ∃ ctx', s'.controlDevice = some ctx' ∧
          ctx'.numberOfDevicesCreated = ctx.numberOfDevicesCreated + increment ∧
          (0 = ctx'.numberOfDevicesCreated → ¬ctx'.shutdownPending = true) ∧
          s'.deletions = s.deletions) := by
  rw [updateDataForControlDeviceDeletionAndDeleteControlDeviceWhenNeeded, hctx] at hs'
  obtain ⟨ctx₁, hctx₁⟩ : ∃ ctx₁, ctx₁ = if 0 = increment then
    { ctx with shutdownPending := true } else ctx := ⟨_, rfl⟩
  have hcount : ctx₁.numberOfDevicesCreated = ctx.numberOfDevicesCreated := by
    rw [hctx₁]
    split_ifs <;> rfl
  simp only [← hctx₁, hcount] at hs'
  split_ifs at hs' with hdelete
  · obtain ⟨hzero, hpending⟩ := hdelete
    obtain rfl := Option.some.inj hs'
    exact ⟨rfl, .inl ⟨hzero, rfl, by rw [hpending]⟩⟩
  · obtain rfl := Option.some.inj hs'
    exact ⟨rfl, .inr ⟨_, rfl, rfl, fun hzero hpending =>
      hdelete ⟨hzero, hpending⟩, rfl⟩⟩

/-- After an update, the control device is tracked exactly when the count is right. -/
theorem update_tracked {s s' : Lifetime} {ctx : ControlDeviceContext} {increment : Int32}
    (hctx : s.controlDevice = some ctx) (hdel : s.deletions = [])
    (hs' : updateDataForControlDeviceDeletionAndDeleteControlDeviceWhenNeeded increment s =
      some s') :
    ((ctx.numberOfDevicesCreated + increment).toInt = s.liveDevices → Tracked s') ∧
      ((ctx.numberOfDevicesCreated + increment).toInt ≠ s.liveDevices → ¬TracksDevices s') := by
  obtain ⟨hlive, ⟨hzero, hnone, hdel'⟩ | ⟨ctx', hctx', hcount, hprompt, hdel'⟩⟩ :=
    update_cases hctx hs'
  · -- the count is zero and the control device is deleted: right exactly when no device is live
    rw [hdel, List.nil_append] at hdel'
    rw [← hzero]
    constructor
    · intro h
      have hidle : s.liveDevices = 0 := by simpa [eq_comm] using h
      exact .inr ⟨hnone, hlive.trans hidle, by rw [hdel', hidle]⟩
    · intro h htracks
      have hidle := htracks.idle (true, s.liveDevices) (by simp [hdel'])
      exact h (by simp [(Prod.mk.inj hidle).2])
  · rw [← hcount]
    constructor
    · intro h
      refine .inl ⟨ctx', hctx', h.trans (by rw [hlive]), fun hdue => ?_, hdel'.trans hdel⟩
      rw [← hlive, hdue.2] at h
      exact hprompt (Int32.toInt_inj.mp (by simpa using h.symm)) hdue.1
    · intro h htracks
      exact h ((htracks.count ctx' hctx').trans (by rw [hlive]))

/-! ### The counter as a number -/

theorem toInt_add_one_iff {count : Int32} {n : ℕ} (h : count.toInt = n) :
    (count + 1).toInt = (n + 1 : ℕ) ↔ n < 2147483647 := by
  have hlt := count.toInt_lt
  have hone : (1 : Int32).toInt = 1 := by decide
  -- the sum wraps around exactly at the largest count
  rw [Int32.toInt_add, h, hone, Int.bmod_def]
  split_ifs <;> omega

theorem toInt_add_neg_one {count : Int32} {n : ℕ} (h : count.toInt = n) :
    (count + -1).toInt = (n : ℤ) - 1 := by
  have hlt := count.toInt_lt
  have hneg : (-1 : Int32).toInt = -1 := by decide
  rw [Int32.toInt_add, h, hneg, Int.bmod_def]
  split_ifs <;> omega

/-! ### Steps and runs -/

/-- An addition that fails after the device object has been created lowers the count. -/
theorem addDevice_eq (o : DeviceAddOutcome) (s : Lifetime) :
    addDevice o s =
      if ¬NTSuccess o.deviceCreate then some s
      else if NTSuccess o.createDeviceInterface ∧ NTSuccess o.deviceInstancePath then
        updateDataForControlDeviceDeletionAndDeleteControlDeviceWhenNeeded 1
          { s with liveDevices := s.liveDevices + 1 }
      else updateDataForControlDeviceDeletionAndDeleteControlDeviceWhenNeeded (-1) s := by
  by_cases hcreate : NTSuccess o.deviceCreate
  · by_cases hinterface : NTSuccess o.createDeviceInterface
    · by_cases hpath : NTSuccess o.deviceInstancePath
      · simp [addDevice, hidHideCreateDevice, onDeviceCreate, hcreate, hinterface, hpath]
      · simp [addDevice, hidHideCreateDevice, onDeviceCreate, deleteDevice,
          onDeviceContextCleanup, hcreate, hinterface, hpath]
    · simp [addDevice, hidHideCreateDevice, deleteDevice, onDeviceContextCleanup, hcreate,
        hinterface]
  · simp [addDevice, hidHideCreateDevice, hcreate]

/-- **One event** keeps the control device tracked exactly when it counts right. -/
theorem step_tracked {s s' : Lifetime} {event : LifetimeEvent} (h : Tracked s)
    (hstep : s.step event = some s') :
    (CountsRight s event → Tracked s') ∧ (¬CountsRight s event → ¬TracksDevices s') := by
  rcases h with ⟨ctx, hctx, hcount, hprompt, hdel⟩ | ⟨hctx, hlive, hdel⟩
  · cases event with
    | deviceAdd o =>
      rw [Lifetime.step, addDevice_eq] at hstep
      split_ifs at hstep with hcreate hadded
      -- the addition succeeds: device and count go up together, unless the count overflows
      · have hadd := update_tracked
          (s := { s with liveDevices := s.liveDevices + 1 }) hctx hdel hstep
        simp only [ne_eq, toInt_add_one_iff hcount] at hadd
        refine ⟨fun hright => hadd.1 ?_, fun hwrong => hadd.2 fun hlt => hwrong ?_⟩
        · exact (hright.resolve_left (not_not.mpr hcreate)).2.2
        · exact .inr ⟨hadded.1, hadded.2, hlt⟩
      -- it fails with a device object made: the count goes down, the number of devices does not
      · have hfail := (update_tracked hctx hdel hstep).2
        rw [toInt_add_neg_one hcount] at hfail
        refine ⟨fun hright => absurd ?_ hadded, fun _ => hfail (by omega)⟩
        exact ⟨(hright.resolve_left (not_not.mpr hcreate)).1,
          (hright.resolve_left (not_not.mpr hcreate)).2.1⟩
      · obtain rfl := Option.some.inj hstep
        exact ⟨fun _ => .inl ⟨ctx, hctx, hcount, hprompt, hdel⟩,
          fun hwrong => absurd (.inl hcreate) hwrong⟩
    | deviceRemove =>
      rw [Lifetime.step] at hstep
      split_ifs at hstep with hpos
      rw [deleteDevice, onDeviceContextCleanup] at hstep
      have hremove := (update_tracked
        (s := { s with liveDevices := s.liveDevices - 1 }) hctx hdel hstep).1
      rw [toInt_add_neg_one hcount] at hremove
      refine ⟨fun _ => hremove ?_, fun hwrong => absurd trivial hwrong⟩
      rw [Nat.cast_pred hpos]
    | shutdown =>
      rw [Lifetime.step, hctx] at hstep
      simp only at hstep
      split_ifs at hstep with hpending
      -- the increment zero marks the shutdown and leaves the count
      have hshutdown := (update_tracked hctx hdel hstep).1
      rw [Int32.add_zero] at hshutdown
      exact ⟨fun _ => hshutdown hcount, fun hwrong => absurd trivial hwrong⟩
  · -- once the control device is gone, only an addition that creates no device can happen
    cases event with
    | deviceAdd o =>
      rw [Lifetime.step, addDevice_eq] at hstep
      split_ifs at hstep with hcreate hadded
      · simp [updateDataForControlDeviceDeletionAndDeleteControlDeviceWhenNeeded, hctx] at hstep
      · simp [updateDataForControlDeviceDeletionAndDeleteControlDeviceWhenNeeded, hctx] at hstep
      · obtain rfl := Option.some.inj hstep
        exact ⟨fun _ => .inr ⟨hctx, hlive, hdel⟩, fun hwrong => absurd (.inl hcreate) hwrong⟩
    | deviceRemove => simp [Lifetime.step, hlive] at hstep
    | shutdown => simp [Lifetime.step, hctx] at hstep

theorem tracked_start (o : CreateOutcome) (fw : Framework) : Tracked (.start o fw) := by
  have hzero : (onControlDeviceCreate o fw).2.1.numberOfDevicesCreated = 0 ∧
      (onControlDeviceCreate o fw).2.1.shutdownPending = false := by
    simp only [onControlDeviceCreate]
    split_ifs <;> exact ⟨rfl, rfl⟩
  refine .inl ⟨_, rfl, by rw [hzero.1]; rfl, by simp [hzero.2], rfl⟩

/-- **The control device tracks the devices** in every state of a run exactly when each event of
the run counts right: no addition fails after its device object has been created, and there are
never more than `2 ^ 31 - 1` devices. -/
theorem tracksDevices_iff (o : CreateOutcome) (fw : Framework) {events : List LifetimeEvent}
    {s : Lifetime} (hrun : Machine.run Lifetime.step (.start o fw) events = some s) :
    (∀ done, done <+: events → ∀ s', Machine.run Lifetime.step (.start o fw) done = some s' →
        TracksDevices s') ↔
      Machine.Along Lifetime.step CountsRight (.start o fw) events :=
  Machine.forall_prefix_iff_along (fun _ => Tracked.tracksDevices)
    (fun _ _ _ h hstep => step_tracked h hstep) (tracked_start o fw) hrun

/-- The addition of a device that succeeds, and one that fails after the device object has been
created. -/
def addedThenFailed : List LifetimeEvent :=
  [.deviceAdd ⟨statusSuccess, statusSuccess, statusSuccess⟩,
    .deviceAdd ⟨statusSuccess, statusInsufficientResources, statusSuccess⟩]

/-- A device comes and goes, and the shutdown deletes the control device. -/
theorem tracksDevices_oneDevice :
    ∃ s, Machine.run Lifetime.step (.start .success .empty)
        [.deviceAdd ⟨statusSuccess, statusSuccess, statusSuccess⟩, .deviceRemove, .shutdown]
          = some s ∧ TracksDevices s := by
  obtain ⟨s, hrun⟩ : ∃ s, Machine.run Lifetime.step (.start .success .empty)
      [.deviceAdd ⟨statusSuccess, statusSuccess, statusSuccess⟩, .deviceRemove, .shutdown] =
        some s := Option.isSome_iff_exists.mp (by decide)
  refine ⟨s, hrun, (tracksDevices_iff .success .empty hrun).mpr ?_ _ (List.prefix_refl _) s hrun⟩
  exact ⟨.inr ⟨by decide, by decide, by decide⟩, fun _ _ => ⟨trivial, fun _ _ =>
    ⟨trivial, fun _ _ => trivial⟩⟩⟩

/-- After a failed addition the count is too low, and a shutdown deletes the control device while a
device is live. -/
theorem controlDevice_deleted_early :
    (∃ s, Machine.run Lifetime.step (.start .success .empty) addedThenFailed = some s ∧
        ¬TracksDevices s) ∧
      ∃ s, Machine.run Lifetime.step (.start .success .empty) (addedThenFailed ++ [.shutdown]) =
        some s ∧ s.controlDevice.isNone ∧ s.liveDevices = 1 := by
  refine ⟨⟨_, rfl, fun h => ?_⟩, _, rfl, rfl, rfl⟩
  exact absurd (h.count _ rfl) (by decide)

end HidHide
