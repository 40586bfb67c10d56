import HidHide.Driver.SessionBlacklist

/-!
# The control device

The requests that reach the driver, with their completion: `HidHideControlDeviceEvtIoDeviceControl`
with the dispatcher and the ten handlers below it, and the forwarding of a file create.

A handler completes the request itself when it succeeds, and leaves it to the caller of the
dispatcher when it fails. The request therefore carries what it has been completed with so far; the
handlers of `HidHide.Driver.Requests` are those of this module without it
(`onControlDeviceIoSetList_eq`, `onControlDeviceIoGetList_eq`). The session blacklist is the list of
its entries: a request to add entries appends its local list.
-/

namespace HidHide

/-! ### Requests in the hands of the driver -/

/-- What a request is completed with. -/
structure Completion where
  ntstatus : NTStatus
  information : ℕ
  deriving DecidableEq, Repr

/-- `WDFREQUEST`: the two buffers, how often the request has been sent on, and what it has been
completed with, in order. -/
structure WdfRequest where
  input : List UInt8
  output : List UInt8
  sends : ℕ
  completions : List Completion

namespace WdfRequest

/-- The request as it arrives. -/
def arrived (input output : List UInt8) : WdfRequest := ⟨input, output, 0, []⟩

variable (r : WdfRequest)

abbrev inputBufferLength : ℕ := r.input.length
abbrev outputBufferLength : ℕ := r.output.length

/-- `WdfRequestCompleteWithInformation`. -/
def completeWithInformation (ntstatus : NTStatus) (information : ℕ) : WdfRequest :=
  { r with completions := r.completions ++ [⟨ntstatus, information⟩] }

/-- `WdfRequestComplete`. -/
def complete (ntstatus : NTStatus) : WdfRequest := r.completeWithInformation ntstatus 0

@[simp] theorem completions_completeWithInformation (ntstatus : NTStatus) (information : ℕ) :
    (r.completeWithInformation ntstatus information).completions =
      r.completions ++ [⟨ntstatus, information⟩] := rfl

@[simp] theorem completions_complete (ntstatus : NTStatus) :
    (r.complete ntstatus).completions = r.completions ++ [⟨ntstatus, 0⟩] := rfl

@[simp] theorem sends_complete (ntstatus : NTStatus) : (r.complete ntstatus).sends = r.sends := rfl

/-- The bytes of wide characters, the low byte first. -/
def charBytes (chars : List WChar) : List UInt8 :=
  chars.flatMap fun c : WChar => [c.toUInt8, (c >>> 8).toUInt8]

/-- The output buffer holds the wide characters; an odd last byte is not written. -/
def writeOutput (chars : List WChar) : WdfRequest :=
  { r with output := charBytes chars ++ r.output.drop (2 * chars.length) }

@[simp] theorem completions_writeOutput (chars : List WChar) :
    (r.writeOutput chars).completions = r.completions := rfl

end WdfRequest

/-- What the calls made for a request to the control device come back with. -/
structure IoOutcome where
  retrieve : NTStatus
  read : ReadOutcome
  write : WriteOutcome
  entry : ℕ → EntryOutcome

/-! ### The handlers -/

namespace WdfRequest

variable (o : IoOutcome) (r : WdfRequest) (d : Driver)

/-- The requests to get a list: they differ in the list. -/
def onControlDeviceIoGetList (kind : ListKind) : NTStatus × WdfRequest × Driver :=
  if 0 ≠ r.inputBufferLength then (statusInvalidParameter, r, d)
  else if 0 = r.outputBufferLength then
    let (ntstatus, neededSizeInCharacters, _, d) := getList kind o.read none d
    if ¬NTSuccess ntstatus then (ntstatus, r, d)
    else
      (statusSuccess, r.completeWithInformation statusSuccess (neededSizeInCharacters * 2), d)
  else if ¬NTSuccess o.retrieve then (o.retrieve, r, d)
  else
    let buffer := wideChars r.output
    let (ntstatus, neededSizeInCharacters, filled, d) := getList kind o.read (some buffer) d
    let r := r.writeOutput (filled.getD buffer)
    if ¬NTSuccess ntstatus then (ntstatus, r, d)
    else
      (statusSuccess, r.completeWithInformation statusSuccess (neededSizeInCharacters * 2), d)

/-- `OnControlDeviceIoGetWhitelist`. -/
def onControlDeviceIoGetWhitelist : NTStatus × WdfRequest × Driver :=
  onControlDeviceIoGetList o r d .whitelist

/-- `OnControlDeviceIoGetBlacklist`. -/
def onControlDeviceIoGetBlacklist : NTStatus × WdfRequest × Driver :=
  onControlDeviceIoGetList o r d .blacklist

/-- The requests to set a list: they differ in the list. -/
def onControlDeviceIoSetList (kind : ListKind) : NTStatus × WdfRequest × Driver :=
  if 0 ≠ r.outputBufferLength then (statusInvalidParameter, r, d)
  else if 0 = r.inputBufferLength then
    let (ntstatus, d) := setList kind ⟨o.write, o.read⟩ [nul, nul] d
    if ¬NTSuccess ntstatus then (ntstatus, r, d)
    else (statusSuccess, r.completeWithInformation statusSuccess r.inputBufferLength, d)
  else if ¬NTSuccess o.retrieve then (o.retrieve, r, d)
  else
    let (ntstatus, d) := setList kind ⟨o.write, o.read⟩ (wideChars r.input) d
    if ¬NTSuccess ntstatus then (ntstatus, r, d)
    else (statusSuccess, r.completeWithInformation statusSuccess r.inputBufferLength, d)

/-- `OnControlDeviceIoSetWhitelist`. -/
def onControlDeviceIoSetWhitelist : NTStatus × WdfRequest × Driver :=
  onControlDeviceIoSetList o r d .whitelist

/-- `OnControlDeviceIoSetBlacklist`. -/
def onControlDeviceIoSetBlacklist : NTStatus × WdfRequest × Driver :=
  onControlDeviceIoSetList o r d .blacklist

/-- The requests to get a switch: they differ in the switch. The driver is left as it is. -/
def onControlDeviceIoGetSwitch (kind : SwitchKind) : NTStatus × WdfRequest × Driver :=
  if 0 ≠ r.inputBufferLength ∨ 1 ≠ r.outputBufferLength then (statusInvalidParameter, r, d)
  else if ¬NTSuccess o.retrieve then (o.retrieve, r, d)
  else
    let buffer : UInt8 := if kind.value d.context then 1 else 0
    (statusSuccess,
      { r with output := [buffer] }.completeWithInformation statusSuccess r.outputBufferLength, d)

/-- `OnControlDeviceIoGetActive`. -/
def onControlDeviceIoGetActive : NTStatus × WdfRequest × Driver :=
  onControlDeviceIoGetSwitch o r d .active

/-- `OnControlDeviceIoGetInverse`. -/
def onControlDeviceIoGetInverse : NTStatus × WdfRequest × Driver :=
  onControlDeviceIoGetSwitch o r d .whitelistedInverse

/-- The requests to set a switch: they differ in the switch. -/
def onControlDeviceIoSetSwitch (kind : SwitchKind) :
    NTStatus × WdfRequest × List LogEvent × Driver :=
  if 1 ≠ r.inputBufferLength ∨ 0 ≠ r.outputBufferLength then (statusInvalidParameter, r, [], d)
  else if ¬NTSuccess o.retrieve then (o.retrieve, r, [], d)
  else
    let (ntstatus, events, d) := setSwitch kind o.write (0 ≠ r.input.headD 0) d
    if ¬NTSuccess ntstatus then (ntstatus, r, events, d)
    else
      (statusSuccess, r.completeWithInformation statusSuccess r.outputBufferLength, events, d)

/-- `OnControlDeviceIoSetActive`. -/
def onControlDeviceIoSetActive : NTStatus × WdfRequest × List LogEvent × Driver :=
  onControlDeviceIoSetSwitch o r d .active

/-- `OnControlDeviceIoSetInverse`. -/
def onControlDeviceIoSetInverse : NTStatus × WdfRequest × List LogEvent × Driver :=
  onControlDeviceIoSetSwitch o r d .whitelistedInverse

/-- `OnControlDeviceIoAddSessionBlacklist`. -/
def onControlDeviceIoAddSessionBlacklist (callerPid : Handle) : NTStatus × WdfRequest × Driver :=
  if 0 ≠ r.outputBufferLength then (statusInvalidParameter, r, d)
  else if r.inputBufferLength < 4 then (statusInvalidParameter, r, d)
  else if 0 ≠ r.inputBufferLength % 2 then (statusInvalidParameter, r, d)
  else if ¬NTSuccess o.retrieve then (o.retrieve, r, d)
  else
    let buffer := wideChars r.input
    let totalChars := r.inputBufferLength / 2
    if buffer.getD (totalChars - 1) nul ≠ nul ∨ buffer.getD (totalChars - 2) nul ≠ nul then
      (statusInvalidParameter, r, d)
    else
      let (ntstatus, localList) :=
        buildEntries o.entry callerPid totalChars 0 buffer statusSuccess []
      -- the local list is freed, and nothing has been committed
      if ¬NTSuccess ntstatus then (ntstatus, r, d)
      else
        let d :=
          if localList ≠ [] then
            d.withSessionBlacklist (d.context.sessionBlacklist ++ localList)
          else d
        (statusSuccess, r.completeWithInformation statusSuccess r.inputBufferLength, d)

/-- `OnControlDeviceIoClearSessionBlacklist`. -/
def onControlDeviceIoClearSessionBlacklist (callerPid : Handle) :
    NTStatus × WdfRequest × Driver :=
  if 0 ≠ r.outputBufferLength ∨ 0 ≠ r.inputBufferLength then (statusInvalidParameter, r, d)
  else
    (statusSuccess, r.completeWithInformation statusSuccess 0,
      sessionBlacklistCleanupForPid d callerPid)

end WdfRequest

/-! ### The dispatcher -/

/-- `CTL_CODE`. -/
def ctlCode (deviceType function method access : UInt32) : UInt32 :=
  deviceType <<< 16 ||| access <<< 14 ||| function <<< 2 ||| method

/-- The codes of the control device: `METHOD_BUFFERED` and `FILE_READ_DATA`. -/
def hidHideCode (function : UInt32) : UInt32 := ctlCode 32769 function 0 1

def ioctlGetWhitelist : UInt32 := hidHideCode 2048
def ioctlSetWhitelist : UInt32 := hidHideCode 2049
def ioctlGetBlacklist : UInt32 := hidHideCode 2050
def ioctlSetBlacklist : UInt32 := hidHideCode 2051
def ioctlGetActive : UInt32 := hidHideCode 2052
def ioctlSetActive : UInt32 := hidHideCode 2053
def ioctlGetWlinverse : UInt32 := hidHideCode 2054
def ioctlSetWlinverse : UInt32 := hidHideCode 2055
def ioctlAddSessionBlacklist : UInt32 := hidHideCode 2056
def ioctlClrSessionBlacklist : UInt32 := hidHideCode 2057

/-- The result of a handler that logs nothing. -/
def withoutEvents (result : NTStatus × WdfRequest × Driver) :
    NTStatus × WdfRequest × List LogEvent × Driver :=
  (result.1, result.2.1, [], result.2.2)

/-- `OnControlDeviceIoDeviceControl`, for a caller: the status, the request, the events logged and
the state. -/
def onControlDeviceIoDeviceControl (o : IoOutcome) (callerPid : Handle) (ioControlCode : UInt32)
    (r : WdfRequest) (d : Driver) : NTStatus × WdfRequest × List LogEvent × Driver :=
  if ioControlCode = ioctlGetWhitelist then withoutEvents (r.onControlDeviceIoGetWhitelist o d)
  else if ioControlCode = ioctlSetWhitelist then
    withoutEvents (r.onControlDeviceIoSetWhitelist o d)
  else if ioControlCode = ioctlGetBlacklist then
    withoutEvents (r.onControlDeviceIoGetBlacklist o d)
  else if ioControlCode = ioctlSetBlacklist then
    withoutEvents (r.onControlDeviceIoSetBlacklist o d)
  else if ioControlCode = ioctlGetActive then withoutEvents (r.onControlDeviceIoGetActive o d)
  else if ioControlCode = ioctlSetActive then r.onControlDeviceIoSetActive o d
  else if ioControlCode = ioctlGetWlinverse then withoutEvents (r.onControlDeviceIoGetInverse o d)
  else if ioControlCode = ioctlSetWlinverse then r.onControlDeviceIoSetInverse o d
  else if ioControlCode = ioctlAddSessionBlacklist then
    withoutEvents (r.onControlDeviceIoAddSessionBlacklist o d callerPid)
  else if ioControlCode = ioctlClrSessionBlacklist then
    withoutEvents (r.onControlDeviceIoClearSessionBlacklist d callerPid)
  else (statusInvalidParameter, r, [], d)

/-- **The dispatcher** does what one of the handlers does, or nothing. -/
theorem dispatch_cases {P : NTStatus × WdfRequest × List LogEvent × Driver → Prop}
    (o : IoOutcome) (callerPid : Handle) (ioControlCode : UInt32) (r : WdfRequest) (d : Driver)
    (hgetList : ∀ kind, P (withoutEvents (r.onControlDeviceIoGetList o d kind)))
    (hsetWhitelist : ioControlCode = ioctlSetWhitelist →
      P (withoutEvents (r.onControlDeviceIoSetList o d .whitelist)))
    (hsetBlacklist : ioControlCode = ioctlSetBlacklist →
      P (withoutEvents (r.onControlDeviceIoSetList o d .blacklist)))
    (hgetSwitch : ∀ kind, P (withoutEvents (r.onControlDeviceIoGetSwitch o d kind)))
    (hsetSwitch : ∀ kind, P (r.onControlDeviceIoSetSwitch o d kind))
    (hadd : ioControlCode = ioctlAddSessionBlacklist →
      P (withoutEvents (r.onControlDeviceIoAddSessionBlacklist o d callerPid)))
    (hclear : ioControlCode = ioctlClrSessionBlacklist →
      P (withoutEvents (r.onControlDeviceIoClearSessionBlacklist d callerPid)))
    (hother : P (statusInvalidParameter, r, [], d)) :
    P (onControlDeviceIoDeviceControl o callerPid ioControlCode r d) := by
  have hite : ∀ {p : Prop} [Decidable p] {result result'}, (p → P result) → P result' →
      P (if p then result else result') := fun {p} _ {result result'} h h' => by
    by_cases hp : p
    · rw [if_pos hp]
      exact h hp
    · rwa [if_neg hp]
  refine hite (fun _ => hgetList .whitelist) (hite hsetWhitelist ?_)
  refine hite (fun _ => hgetList .blacklist) (hite hsetBlacklist ?_)
  refine hite (fun _ => hgetSwitch .active) (hite (fun _ => hsetSwitch .active) ?_)
  refine hite (fun _ => hgetSwitch .whitelistedInverse)
    (hite (fun _ => hsetSwitch .whitelistedInverse) ?_)
  exact hite hadd (hite hclear hother)

/-- `HidHideControlDeviceEvtIoDeviceControl`. -/
def hidHideControlDeviceEvtIoDeviceControl (o : IoOutcome) (callerPid : Handle)
    (ioControlCode : UInt32) (r : WdfRequest) (d : Driver) : WdfRequest × List LogEvent × Driver :=
  let (ntstatus, r, events, d) := onControlDeviceIoDeviceControl o callerPid ioControlCode r d
  if ¬NTSuccess ntstatus then (r.complete ntstatus, events, d) else (r, events, d)

/-! ### Forwarding a file create -/

/-- What becomes of a request that is sent: the driver below completes it with a status, or it is
not sent and has a status of its own. -/
inductive SendOutcome where
  | completed (ioStatus : NTStatus)
  | refused (ntstatus : NTStatus)

/-- What the calls that forward a request come back with. -/
structure ForwardOutcome where
  allocateTimer : NTStatus
  send : SendOutcome

namespace WdfRequest

/-- `OnDeviceFileCreateRequestCompletion`, with the status of the completion parameters. -/
def onDeviceFileCreateRequestCompletion (r : WdfRequest) (ioStatus : NTStatus) : WdfRequest :=
  r.complete ioStatus

/-- `WdfRequestSend`: a request that is sent comes back to its completion routine once, one that is
not sent does not. -/
def wdfRequestSend (r : WdfRequest) (completionRoutine : WdfRequest → NTStatus → WdfRequest) :
    SendOutcome → Bool × WdfRequest
  | .completed ioStatus => (true, completionRoutine { r with sends := r.sends + 1 } ioStatus)
  | .refused _ => (false, { r with sends := r.sends + 1 })

/-- `WdfRequestGetStatus`. -/
def wdfRequestGetStatus : SendOutcome → NTStatus
  | .completed ioStatus => ioStatus
  | .refused ntstatus => ntstatus

/-- `OnDeviceFileCreate` from the access check on. -/
def onDeviceFileCreate (r : WdfRequest) (o : ForwardOutcome) (upcase : WChar → WChar) (d : Driver)
    (deviceInstancePath : UnicodeString) (processId : Handle) (sessionId : UInt32) :
    WdfRequest × List LogEvent × Driver :=
  let (accessDenied, events, d) :=
    HidHide.onDeviceFileCreate upcase d deviceInstancePath processId sessionId
  if accessDenied then (r.complete statusAccessDenied, events, d)
  else if ¬NTSuccess o.allocateTimer then (r.complete o.allocateTimer, events, d)
  else
    let (sent, r) := r.wdfRequestSend onDeviceFileCreateRequestCompletion o.send
    if sent = false then (r.complete (wdfRequestGetStatus o.send), events, d) else (r, events, d)

end WdfRequest

/-! ### The handlers without the request -/

namespace WdfRequest

variable (o : IoOutcome) (r : WdfRequest) (d : Driver) (kind : ListKind)

/-- A request to set a list does to the driver what the handler without the request does. -/
theorem onControlDeviceIoSetList_eq :
    let result := HidHide.onControlDeviceIoSetList kind ⟨o.retrieve, o.write, o.read⟩
      r.output.length r.input d
    (r.onControlDeviceIoSetList o d kind).2.2 = result.2 ∧
      (NTSuccess (r.onControlDeviceIoSetList o d kind).1 ↔ NTSuccess result.1) := by
  simp only [onControlDeviceIoSetList, HidHide.onControlDeviceIoSetList]
  by_cases hout : 0 = r.output.length
  · -- both branches end in the setter, whose success is reported as `STATUS_SUCCESS`
    simp only [← hout, ne_eq, not_true, if_false]
    by_cases hin : 0 = r.input.length
    · simp only [if_pos hin]
      by_cases hset : NTSuccess (setList kind ⟨o.write, o.read⟩ [nul, nul] d).1
      · simp [hset]
      · simp [hset]
    · simp only [if_neg hin]
      by_cases hretrieve : NTSuccess o.retrieve
      · by_cases hset : NTSuccess (setList kind ⟨o.write, o.read⟩ (wideChars r.input) d).1
        · simp [hretrieve, hset]
        · simp [hretrieve, hset]
      · simp [hretrieve]
  · simp [hout]

/-- So does a request to get one, and it fills the output buffer with the same characters. -/
theorem onControlDeviceIoGetList_eq :
    let result := HidHide.onControlDeviceIoGetList kind ⟨o.retrieve, o.read⟩ r.input.length
      r.output d
    (r.onControlDeviceIoGetList o d kind).1 = result.1 ∧
      (r.onControlDeviceIoGetList o d kind).2.2 = result.2.2.2 := by
  simp only [onControlDeviceIoGetList, HidHide.onControlDeviceIoGetList]
  split_ifs <;> exact ⟨rfl, rfl⟩

end WdfRequest

end HidHide
