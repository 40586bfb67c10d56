import HidHide.Driver.ControlDevice

/-!
# Completion of requests

A request is completed once. For the requests to the control device, completion is split: a handler
that succeeds completes the request itself and returns a success, one that fails leaves it alone and
returns the error, upon which `HidHideControlDeviceEvtIoDeviceControl` completes it. `Handled` is
this contract, together with the status: the first error of the steps that the handler takes.

The steps of each handler are listed down to the calls of the framework and the registry, so the
statement says which failure is reported: `ioSteps` for a request to the control device.
-/

namespace HidHide

/-! ### The steps of a request -/

/-- A validation is a step: it fails with `STATUS_INVALID_PARAMETER`. -/
def validation (p : Prop) [Decidable p] : NTStatus :=
  if p then statusSuccess else statusInvalidParameter

@[simp] theorem ntSuccess_validation_iff {p : Prop} [Decidable p] :
    NTSuccess (validation p) ↔ p := by
  rw [validation]
  split_ifs with h
  · exact iff_of_true ntSuccess_statusSuccess h
  · exact iff_of_false not_ntSuccess_statusInvalidParameter h

theorem validation_of_not {p : Prop} [Decidable p] (h : ¬p) :
    validation p = statusInvalidParameter := if_neg h

/-- The steps of a list setter: what it writes is what it reads. -/
def setListSteps (o : IoOutcome) (buffer : List WChar) : List NTStatus :=
  o.write.steps ++ o.read.steps (some (.regMultiSz (storedChars buffer)))

/-- The steps of a list getter: the last one is the copy to the output buffer. -/
def getListSteps (o : IoOutcome) (value : Option RegistryValue) (buffer : Option (List WChar)) :
    List NTStatus :=
  o.read.steps value ++
    [(hidHideCollectionToMultiString ((decodedValue value).getD []) buffer).1]

/-- The steps of a request to add entries. -/
def AddRequest.steps (a : AddRequest) : List NTStatus :=
  [validation (0 = a.outputBufferLength), validation (4 ≤ a.input.length),
    validation (0 = a.input.length % 2), a.o.retrieve,
    validation (MultiString.EndsInTwo nul (wideChars a.input))] ++
    (List.range a.strings.length).flatMap fun i => (a.o.entry i).steps

/-- The request to add entries that a request to the control device makes. -/
def WdfRequest.addRequest (r : WdfRequest) (o : IoOutcome) (callerPid : Handle) : AddRequest :=
  ⟨⟨o.retrieve, o.entry⟩, callerPid, r.outputBufferLength, r.input⟩

/-- The steps of a request to the control device. -/
def ioSteps (o : IoOutcome) (callerPid : Handle) (ioControlCode : UInt32) (r : WdfRequest)
    (d : Driver) : List NTStatus :=
  let getList (kind : ListKind) : List NTStatus :=
    validation (0 = r.inputBufferLength) ::
      if 0 = r.outputBufferLength then getListSteps o (d.framework.registry kind.property) none
      else
        o.retrieve ::
          getListSteps o (d.framework.registry kind.property) (some (wideChars r.output))
  let setList : List NTStatus :=
    validation (0 = r.outputBufferLength) ::
      if 0 = r.inputBufferLength then setListSteps o [nul, nul]
      else o.retrieve :: setListSteps o (wideChars r.input)
  let getSwitch : List NTStatus :=
    [validation (0 = r.inputBufferLength ∧ 1 = r.outputBufferLength), o.retrieve]
  let setSwitch : List NTStatus :=
    validation (1 = r.inputBufferLength ∧ 0 = r.outputBufferLength) :: o.retrieve :: o.write.steps
  if ioControlCode = ioctlGetWhitelist then getList .whitelist
  else if ioControlCode = ioctlSetWhitelist then setList
  else if ioControlCode = ioctlGetBlacklist then getList .blacklist
  else if ioControlCode = ioctlSetBlacklist then setList
  else if ioControlCode = ioctlGetActive then getSwitch
  else if ioControlCode = ioctlSetActive then setSwitch
  else if ioControlCode = ioctlGetWlinverse then getSwitch
  else if ioControlCode = ioctlSetWlinverse then setSwitch
  else if ioControlCode = ioctlAddSessionBlacklist then (r.addRequest o callerPid).steps
  else if ioControlCode = ioctlClrSessionBlacklist then
    [validation (0 = r.outputBufferLength ∧ 0 = r.inputBufferLength)]
  else [statusInvalidParameter]

/-! ### The status of the setters and getters -/

section Status

variable (o : IoOutcome) (d : Driver)

/-- A list setter fails with the error of the step that failed. -/
theorem setList_status (kind : ListKind) (buffer : List WChar) :
    (setList kind ⟨o.write, o.read⟩ buffer d).1 = firstError (setListSteps o buffer) := by
  have hpersist : (persistList kind o.write buffer d).1 = firstError o.write.steps :=
    assignProperty_status o.write kind.property _ d.framework
  rw [setList_eq, setListSteps, firstError_append, ← hpersist]
  by_cases hwrite : NTSuccess (persistList kind o.write buffer d).1
  · -- the replacement reads what has been written
    have hreplace :
        (if NTSuccess (replaceList kind o.read (persistList kind o.write buffer d).2).1 then
          statusSuccess else (replaceList kind o.read (persistList kind o.write buffer d).2).1) =
        firstError (o.read.steps (some (.regMultiSz (storedChars buffer)))) := by
      rw [← persistList_property kind buffer (d := d) ((persistList_fst kind buffer _).mp hwrite)]
      exact createCollection_status
    rw [if_neg (not_not.mpr hwrite), if_pos hwrite, ← hreplace]
    split_ifs <;> rfl
  · rw [if_pos hwrite, if_neg hwrite]

/-- A list getter fails with the error of the step that failed. -/
theorem getList_status (kind : ListKind) (buffer : Option (List WChar)) :
    let ntstatus := (getList kind o.read buffer d).1
    (if NTSuccess ntstatus then statusSuccess else ntstatus) =
      firstError (getListSteps o (d.framework.registry kind.property) buffer) := by
  have hread := @createCollection_status o.read kind.property d.framework
  rw [getListSteps, firstError_append, ← hread]
  by_cases hsuccess : NTSuccess (hidHideDriverCreateCollectionForMultiStringProperty o.read
    kind.property d.framework).1
  · -- the collection has the strings of the value
    obtain ⟨hok, hload⟩ := createCollection_success_iff.mp hsuccess
    obtain ⟨strings, hv⟩ := Option.isSome_iff_exists.mp hload
    rw [(getList_of_ok hok hv buffer).1, hv, Option.getD_some]
    simp only [if_pos hsuccess, ntSuccess_statusSuccess, if_true, firstError_cons, firstError_nil]
  · simp only [getList, if_neg hsuccess]

/-- A switch setter fails with the error of the step that failed. -/
theorem setSwitch_status (kind : SwitchKind) (value : Bool) :
    (setSwitch kind o.write value d).1 = firstError o.write.steps := by
  have hpersist : (persistSwitch kind o.write value d).1 = firstError o.write.steps :=
    assignProperty_status o.write kind.property _ d.framework
  rw [setSwitch]
  simp only [hpersist]
  split_ifs with h
  · exact (firstError_eq_statusSuccess h).symm
  · rfl

end Status

/-! ### What a handler does with the request -/

/-- **The contract of a handler**: it returns the first error of its steps, and has completed the
request, with `STATUS_SUCCESS`, exactly when there is none. -/
structure Handled (r : WdfRequest) (steps : List NTStatus) (ntstatus : NTStatus)
    (r' : WdfRequest) : Prop where
  status : ntstatus = firstError steps
  completed : NTSuccess ntstatus →
    ∃ information, r'.completions = r.completions ++ [⟨statusSuccess, information⟩]
  untouched : ¬NTSuccess ntstatus → r'.completions = r.completions

namespace Handled

variable {δ : Type} {r : WdfRequest} {steps : List NTStatus} {d : δ}

/-- A step that fails ends the handler. -/
theorem step {ntstatus : NTStatus} {result : NTStatus × WdfRequest × δ}
    (h : NTSuccess ntstatus → Handled r steps result.1 result.2.1) :
    let result := if ¬NTSuccess ntstatus then (ntstatus, r, d) else result
    Handled r (ntstatus :: steps) result.1 result.2.1 := by
  by_cases hstatus : NTSuccess ntstatus
  · rw [if_neg (not_not.mpr hstatus)]
    obtain ⟨heq, hcompleted, huntouched⟩ := h hstatus
    exact ⟨by rw [firstError_cons_of_success hstatus, heq], hcompleted, huntouched⟩
  · rw [if_pos hstatus]
    exact ⟨(firstError_cons_of_error hstatus steps).symm, fun hsuccess => absurd hsuccess hstatus,
      fun _ => rfl⟩

/-- A validation that fails ends the handler. -/
theorem validate {p q : Prop} [Decidable p] [Decidable q] (hpq : p ↔ ¬q)
    {result : NTStatus × WdfRequest × δ} (h : q → Handled r steps result.1 result.2.1) :
    let result := if p then (statusInvalidParameter, r, d) else result
    Handled r (validation q :: steps) result.1 result.2.1 := by
  by_cases hq : q
  · rw [if_neg fun hp => hpq.mp hp hq]
    obtain ⟨heq, hcompleted, huntouched⟩ := h hq
    exact ⟨by rw [firstError_cons_of_success (ntSuccess_validation_iff.mpr hq), heq], hcompleted,
      huntouched⟩
  · rw [if_pos (hpq.mpr hq), validation_of_not hq]
    exact ⟨(firstError_cons_of_error not_ntSuccess_statusInvalidParameter steps).symm,
      fun hsuccess => absurd hsuccess not_ntSuccess_statusInvalidParameter, fun _ => rfl⟩

/-- The last part of a handler fails, or completes the request. -/
theorem finish {ntstatus : NTStatus} {r' : WdfRequest} {information : ℕ} {d' : δ}
    (hstatus : (if NTSuccess ntstatus then statusSuccess else ntstatus) = firstError steps)
    (hr' : r'.completions = r.completions) :
    let result :=
      if ¬NTSuccess ntstatus then (ntstatus, r', d)
      else (statusSuccess, r'.completeWithInformation statusSuccess information, d')
    Handled r steps result.1 result.2.1 := by
  by_cases h : NTSuccess ntstatus
  · rw [if_neg (not_not.mpr h)]
    rw [if_pos h] at hstatus
    refine ⟨hstatus, fun _ => ⟨information, ?_⟩, fun hfail => absurd ntSuccess_statusSuccess hfail⟩
    rw [WdfRequest.completions_completeWithInformation, hr']
  · rw [if_pos h]
    rw [if_neg h] at hstatus
    exact ⟨hstatus, fun hsuccess => absurd hsuccess h, fun _ => hr'⟩

/-- A choice between handlers. -/
theorem ite {p : Prop} [Decidable p] {steps' : List NTStatus}
    {result result' : NTStatus × WdfRequest × δ} (h : Handled r steps result.1 result.2.1)
    (h' : Handled r steps' result'.1 result'.2.1) :
    Handled r (if p then steps else steps') (if p then result else result').1
      (if p then result else result').2.1 := by
  split_ifs
  · exact h
  · exact h'

/-- A handler without further steps completes the request. -/
theorem complete {r' : WdfRequest} (information : ℕ) (hr' : r'.completions = r.completions) :
    Handled r [] statusSuccess (r'.completeWithInformation statusSuccess information) :=
  ⟨rfl, fun _ => ⟨information, by rw [WdfRequest.completions_completeWithInformation, hr']⟩,
    fun hfail => absurd ntSuccess_statusSuccess hfail⟩

end Handled

/-! ### The handlers -/

section Handlers

variable (o : IoOutcome) (r : WdfRequest) (d : Driver)

theorem handled_getList (kind : ListKind) :
    Handled r
      (validation (0 = r.inputBufferLength) ::
        if 0 = r.outputBufferLength then getListSteps o (d.framework.registry kind.property) none
        else
          o.retrieve ::
            getListSteps o (d.framework.registry kind.property) (some (wideChars r.output)))
      (r.onControlDeviceIoGetList o d kind).1 (r.onControlDeviceIoGetList o d kind).2.1 := by
  refine Handled.validate Iff.rfl fun _ => ?_
  by_cases hout : 0 = r.outputBufferLength
  · rw [if_pos hout, if_pos hout]
    exact Handled.finish (getList_status o d kind none) rfl
  · rw [if_neg hout, if_neg hout]
    exact Handled.step fun _ => Handled.finish (getList_status o d kind _) rfl

theorem handled_setList (kind : ListKind) :
    Handled r
      (validation (0 = r.outputBufferLength) ::
        if 0 = r.inputBufferLength then setListSteps o [nul, nul]
        else o.retrieve :: setListSteps o (wideChars r.input))
      (r.onControlDeviceIoSetList o d kind).1 (r.onControlDeviceIoSetList o d kind).2.1 := by
  have hset : ∀ buffer, (if NTSuccess (setList kind ⟨o.write, o.read⟩ buffer d).1 then statusSuccess
      else (setList kind ⟨o.write, o.read⟩ buffer d).1) = firstError (setListSteps o buffer) := by
    intro buffer
    rw [setList_status, ite_firstError]
  refine Handled.validate Iff.rfl fun _ => ?_
  by_cases hin : 0 = r.inputBufferLength
  · rw [if_pos hin, if_pos hin]
    exact Handled.finish (hset _) rfl
  · rw [if_neg hin, if_neg hin]
    exact Handled.step fun _ => Handled.finish (hset _) rfl

theorem handled_getSwitch (kind : SwitchKind) :
    Handled r [validation (0 = r.inputBufferLength ∧ 1 = r.outputBufferLength), o.retrieve]
      (r.onControlDeviceIoGetSwitch o d kind).1 (r.onControlDeviceIoGetSwitch o d kind).2.1 := by
  refine Handled.validate not_and_or.symm fun _ => ?_
  exact Handled.step fun _ => Handled.complete _ rfl

theorem handled_setSwitch (kind : SwitchKind) :
    Handled r
      (validation (1 = r.inputBufferLength ∧ 0 = r.outputBufferLength) :: o.retrieve ::
        o.write.steps)
      (r.onControlDeviceIoSetSwitch o d kind).1 (r.onControlDeviceIoSetSwitch o d kind).2.1 := by
  have hset : ∀ value, (if NTSuccess (setSwitch kind o.write value d).1 then statusSuccess
      else (setSwitch kind o.write value d).1) = firstError o.write.steps := by
    intro value
    rw [setSwitch_status, ite_firstError]
  exact Handled.validate not_and_or.symm fun _ => Handled.step fun _ => Handled.finish (hset _) rfl

/-- What the loop of a valid request to add entries comes to. -/
theorem addRequest_buildEntries (callerPid : Handle)
    (hends : MultiString.EndsInTwo nul (wideChars r.input)) :
    let a := r.addRequest o callerPid
    let built := buildEntries o.entry callerPid (r.inputBufferLength / 2) 0 (wideChars r.input)
      statusSuccess []
    (NTSuccess built.1 → built.2 = a.entries) ∧
      (if NTSuccess built.1 then statusSuccess else built.1) =
        firstError ((List.range a.strings.length).flatMap fun i => (a.o.entry i).steps) := by
  obtain ⟨built, hbuilt, hall, hfirst⟩ := buildEntries_eq o.entry callerPid 0 []
    (AddRequest.length_wideChars r.input).le hends.last ntSuccess_statusSuccess
  refine ⟨fun h => ?_, ?_⟩
  · rw [hbuilt, hall h]
    rfl
  · rw [hfirst]
    simp only [Nat.zero_add]
    rfl

theorem handled_addSessionBlacklist (callerPid : Handle) :
    let result := r.onControlDeviceIoAddSessionBlacklist o d callerPid
    Handled r (r.addRequest o callerPid).steps result.1 result.2.1 := by
  refine Handled.validate Iff.rfl fun _ => Handled.validate not_le.symm fun hlen =>
    Handled.validate Iff.rfl fun _ => Handled.step fun _ => ?_
  have hends := @AddRequest.endsInTwo_iff_getD (wideChars r.input) (by
    rw [AddRequest.length_wideChars]
    exact (Nat.le_div_iff_mul_le two_pos).mpr hlen)
  rw [AddRequest.length_wideChars] at hends
  refine Handled.validate (not_iff_comm.mp hends.symm).symm fun hends => ?_
  exact Handled.finish (addRequest_buildEntries o r callerPid hends).2 rfl

theorem handled_clearSessionBlacklist (callerPid : Handle) :
    let result := r.onControlDeviceIoClearSessionBlacklist d callerPid
    Handled r [validation (0 = r.outputBufferLength ∧ 0 = r.inputBufferLength)] result.1
      result.2.1 :=
  Handled.validate not_and_or.symm fun _ => Handled.complete _ rfl

end Handlers

/-! ### Completion -/

section Completion

variable (o : IoOutcome) (callerPid : Handle) (ioControlCode : UInt32) (r : WdfRequest) (d : Driver)

/-- The dispatcher keeps the contract of the handlers, for every code. -/
theorem handled_dispatch :
    let result := onControlDeviceIoDeviceControl o callerPid ioControlCode r d
    Handled r (ioSteps o callerPid ioControlCode r d) result.1 result.2.1 := by
  refine Handled.ite (handled_getList o r d .whitelist) ?_
  refine Handled.ite (handled_setList o r d .whitelist) ?_
  refine Handled.ite (handled_getList o r d .blacklist) ?_
  refine Handled.ite (handled_setList o r d .blacklist) ?_
  refine Handled.ite (handled_getSwitch o r d .active) ?_
  refine Handled.ite (handled_setSwitch o r d .active) ?_
  refine Handled.ite (handled_getSwitch o r d .whitelistedInverse) ?_
  refine Handled.ite (handled_setSwitch o r d .whitelistedInverse) ?_
  refine Handled.ite (handled_addSessionBlacklist o r d callerPid) ?_
  refine Handled.ite (handled_clearSessionBlacklist r d callerPid) ?_
  -- any other code
  exact ⟨(firstError_cons_of_error not_ntSuccess_statusInvalidParameter []).symm,
    fun h => absurd h not_ntSuccess_statusInvalidParameter, fun _ => rfl⟩

/-- **A request to the control device** is completed once more, with the first error of its
steps. -/
theorem completions_evtIoDeviceControl :
    ∃ information,
      (hidHideControlDeviceEvtIoDeviceControl o callerPid ioControlCode r d).1.completions =
        r.completions ++ [⟨firstError (ioSteps o callerPid ioControlCode r d), information⟩] := by
  obtain ⟨hstatus, hcompleted, huntouched⟩ := handled_dispatch o callerPid ioControlCode r d
  simp only [hidHideControlDeviceEvtIoDeviceControl]
  by_cases h : NTSuccess (onControlDeviceIoDeviceControl o callerPid ioControlCode r d).1
  · rw [if_neg (not_not.mpr h)]
    obtain ⟨information, hinformation⟩ := hcompleted h
    rw [hstatus] at h
    exact ⟨information, by rw [firstError_eq_statusSuccess h]; exact hinformation⟩
  · rw [if_pos h, ← hstatus]
    exact ⟨0, by rw [WdfRequest.completions_complete, huntouched h]⟩

end Completion

section FileCreate

variable (o : ForwardOutcome) (upcase : WChar → WChar) (r : WdfRequest) (d : Driver)
  (deviceInstancePath : UnicodeString) (processId : Handle) (sessionId : UInt32)

/-- The status that a file create is completed with. -/
def ForwardOutcome.status (o : ForwardOutcome) (accessDenied : Bool) : NTStatus :=
  if accessDenied then statusAccessDenied
  else if ¬NTSuccess o.allocateTimer then o.allocateTimer
  else WdfRequest.wdfRequestGetStatus o.send

/-- The request is sent on when access is granted and there is a timer for it. -/
def ForwardOutcome.Sends (o : ForwardOutcome) (accessDenied : Bool) : Prop :=
  accessDenied = false ∧ NTSuccess o.allocateTimer

instance (accessDenied : Bool) : Decidable (o.Sends accessDenied) :=
  inferInstanceAs (Decidable (_ ∧ _))

/-- **A file create** is completed once more, whether it is sent on or not. -/
theorem completions_onDeviceFileCreate :
    let accessDenied := (onDeviceFileCreate upcase d deviceInstancePath processId sessionId).1
    let r' := (r.onDeviceFileCreate o upcase d deviceInstancePath processId sessionId).1
    r'.completions = r.completions ++ [⟨o.status accessDenied, 0⟩] ∧
      r'.sends = if o.Sends accessDenied then r.sends + 1 else r.sends := by
  intro accessDenied r'
  have hr' : r' = if accessDenied then r.complete statusAccessDenied
      else if ¬NTSuccess o.allocateTimer then r.complete o.allocateTimer
      else if
          (r.wdfRequestSend WdfRequest.onDeviceFileCreateRequestCompletion o.send).1 = false then
        (r.wdfRequestSend WdfRequest.onDeviceFileCreateRequestCompletion o.send).2.complete
          (WdfRequest.wdfRequestGetStatus o.send)
      else (r.wdfRequestSend WdfRequest.onDeviceFileCreateRequestCompletion o.send).2 := by
    simp only [r', WdfRequest.onDeviceFileCreate]
    split_ifs <;> rfl
  rw [hr']
  simp only [ForwardOutcome.status, ForwardOutcome.Sends]
  by_cases hdenied : accessDenied = true
  · simp [hdenied]
  by_cases htimer : NTSuccess o.allocateTimer
  · -- the completion routine completes a request that is sent, the sender one that is not
    rcases hsend : o.send with ioStatus | ntstatus
    · simp [hdenied, htimer, WdfRequest.wdfRequestSend, WdfRequest.wdfRequestGetStatus,
        WdfRequest.onDeviceFileCreateRequestCompletion]
    · simp [hdenied, htimer, WdfRequest.wdfRequestSend, WdfRequest.wdfRequestGetStatus]
  · simp [hdenied, htimer]

end FileCreate

/-- The status of steps that end at the first error: a success of all of them, or the error of the
first one that failed. -/
def Reports (steps : List NTStatus) (ntstatus : NTStatus) : Prop :=
  (ntstatus = statusSuccess ∧ ∀ step ∈ steps, NTSuccess step) ∨
    ¬NTSuccess ntstatus ∧ ∃ before after, steps = before ++ ntstatus :: after ∧
      ∀ step ∈ before, NTSuccess step

theorem reports_firstError (steps : List NTStatus) : Reports steps (firstError steps) := by
  by_cases h : NTSuccess (firstError steps)
  · exact .inl ⟨firstError_eq_statusSuccess h, ntSuccess_firstError_iff.mp h⟩
  · exact .inr ⟨h, exists_of_firstError h⟩

/-- **Every request is completed exactly once.** A request to the control device is completed with
`STATUS_SUCCESS` or the error of the step that failed; a file create is denied without being sent
on, or completed with the status of the call that forwards it. The list of session entries stands
for a ring that is intact when the request arrives. -/
theorem completed_exactly_once :
    (∀ (o : IoOutcome) (callerPid : Handle) (ioControlCode : UInt32) (input output : List UInt8)
      (d : Driver), ∃ c,
        (hidHideControlDeviceEvtIoDeviceControl o callerPid ioControlCode
          (.arrived input output) d).1.completions = [c] ∧
        Reports (ioSteps o callerPid ioControlCode (.arrived input output) d) c.ntstatus) ∧
    ∀ (o : ForwardOutcome) (upcase : WChar → WChar) (input output : List UInt8) (d : Driver)
      (deviceInstancePath : UnicodeString) (processId : Handle) (sessionId : UInt32),
      let accessDenied := (onDeviceFileCreate upcase d deviceInstancePath processId sessionId).1
      let r := ((WdfRequest.arrived input output).onDeviceFileCreate o upcase d deviceInstancePath
        processId sessionId).1
      ∃ c, r.completions = [c] ∧
        (accessDenied = true → c.ntstatus = statusAccessDenied ∧ r.sends = 0) ∧
        (accessDenied = false → c.ntstatus = o.status false) := by
  refine ⟨fun o callerPid ioControlCode input output d => ?_,
    fun o upcase input output d deviceInstancePath processId sessionId => ?_⟩
  · obtain ⟨information, h⟩ :=
      completions_evtIoDeviceControl o callerPid ioControlCode (.arrived input output) d
    exact ⟨_, h, reports_firstError _⟩
  · intro accessDenied r
    obtain ⟨hcompletions, hsends⟩ := completions_onDeviceFileCreate o upcase
      (.arrived input output) d deviceInstancePath processId sessionId
    refine ⟨_, hcompletions, fun hdenied => ?_, fun hgranted => ?_⟩
    · rw [if_neg fun hsend => by simp [accessDenied, hsend.1] at hdenied] at hsends
      exact ⟨by simp [accessDenied, hdenied, ForwardOutcome.status], hsends⟩
    · simp only [accessDenied] at hgranted
      rw [hgranted]

end HidHide
