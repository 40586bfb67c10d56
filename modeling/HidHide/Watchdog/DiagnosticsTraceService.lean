import Mathlib.Data.List.Infix
import Mathlib.Logic.Function.Basic
import HidHide.ForMathlib.Machine
import HidHide.Watchdog.EtwTraceSession

/-!
# The diagnostics trace service

`DiagnosticsTraceService.cpp`: the service starts and stops the trace session and tunes the event
channels meanwhile. Its calls exclude one another by a mutex, so a run is a sequence of calls. The
outcomes of all they call are arguments of each call.

The state has, besides the members of the service, what its last successful call on each channel
has made of the channel (`Watchdog.tuned`).
-/

namespace HidHide

/-! ### Channels -/

/-- The channels, `kChannelDriver`, `kChannelClient` and `kChannelCli`. -/
inductive Channel where
  | driver
  | client
  | cli
  deriving DecidableEq, Repr

/-- The outcomes of a call on each channel. -/
abbrev ChannelOutcomes := Channel → Except Win32Error Unit

/-- `InvokeTune`. -/
def invokeTune (channel : Channel) (restore : Bool) (o : ChannelOutcomes) (tuned : Channel → Bool) :
    Except Win32Error Unit × (Channel → Bool) :=
  match o channel with
  | .error e => (.error e, tuned)
  | .ok () => (.ok (), Function.update tuned channel !restore)

/-- The channels that `TuneScopeChannels` calls `InvokeTune` for, in order. -/
def scopeChannels : TraceScope → List Channel
  | .full => [.driver, .client, .cli]
  | .driver => [.driver]
  | .userspace => [.client, .cli]

/-- Calls of `InvokeTune`, up to the first that fails. -/
def invokeTunes (restore : Bool) (o : ChannelOutcomes) (tuned : Channel → Bool) :
    List Channel → Except Win32Error Unit × (Channel → Bool)
  | [] => (.ok (), tuned)
  | channel :: channels =>
      match invokeTune channel restore o tuned with
      | (.error e, tuned) => (.error e, tuned)
      | (.ok (), tuned) => invokeTunes restore o tuned channels

/-- `TuneScopeChannels`. -/
def tuneScopeChannels (scope : TraceScope) (restore : Bool) (o : ChannelOutcomes)
    (tuned : Channel → Bool) : Except Win32Error Unit × (Channel → Bool) :=
  invokeTunes restore o tuned (scopeChannels scope)

/-- The calls succeed on all channels, or on those before the first that fails. -/
theorem invokeTunes_cases (restore : Bool) (o : ChannelOutcomes) (tuned : Channel → Bool)
    (channels : List Channel) :
    ((∀ channel ∈ channels, o channel = .ok ()) ∧ invokeTunes restore o tuned channels =
        (.ok (), fun x => if x ∈ channels then !restore else tuned x)) ∨
      ∃ before channel after e, channels = before ++ channel :: after ∧
        (∀ x ∈ before, o x = .ok ()) ∧ o channel = .error e ∧
        invokeTunes restore o tuned channels =
          (.error e, fun x => if x ∈ before then !restore else tuned x) := by
  induction channels generalizing tuned with
  | nil => exact .inl ⟨by simp, by simp [invokeTunes]⟩
  | cons head channels ih =>
    rcases hhead : o head with e | _
    · refine .inr ⟨[], head, channels, e, rfl, by simp, hhead, ?_⟩
      simp [invokeTunes, invokeTune, hhead]
    · have hstep : invokeTunes restore o tuned (head :: channels) =
          invokeTunes restore o (Function.update tuned head !restore) channels := by
        simp [invokeTunes, invokeTune, hhead]
      -- a call on a channel is one on it and on those after it
      have hupdate : ∀ l : List Channel,
          (fun x => if x ∈ l then !restore else Function.update tuned head (!restore) x) =
            fun x => if x ∈ head :: l then !restore else tuned x := by
        intro l
        funext x
        by_cases hx : x = head
        · simp [hx]
        · simp [hx, List.mem_cons]
      rw [hstep]
      rcases ih (Function.update tuned head !restore) with
        ⟨hall, heq⟩ | ⟨before, channel, after, e, rfl, hbefore, hchannel, heq⟩
      · exact .inl ⟨List.forall_mem_cons.mpr ⟨hhead, hall⟩, by rw [heq, hupdate]⟩
      · exact .inr ⟨head :: before, channel, after, e, rfl,
          List.forall_mem_cons.mpr ⟨hhead, hbefore⟩, hchannel, by rw [heq, hupdate]⟩

/-! ### The service -/

/-- `TraceSessionState`. -/
inductive TraceSessionState where
  | idle
  | recording
  | ready
  deriving DecidableEq, Repr

/-- `TraceStartRequest`. -/
structure TraceStartRequest where
  scope : TraceScope := .full
  tuneChannels : Bool := true
  deriving DecidableEq, Repr

/-- `TraceStatusResponse`. -/
structure TraceStatusResponse where
  state : TraceSessionState := .idle
  startedAtEpoch : Option ℤ := none
  stoppedAtEpoch : Option ℤ := none
  suggestedFileName : Option String := none
  message : Option String := none
  deriving DecidableEq, Repr

/-- `TraceStopResponse`. -/
structure TraceStopResponse where
  suggestedFileName : String
  message : Option String
  deriving DecidableEq, Repr

/-- `ApiError`. -/
structure ApiError where
  code : String
  message : String
  win32 : Option UInt32
  deriving DecidableEq, Repr

/-- `MakeApiError`. Its callers here give no error code. -/
def makeApiError (code message : String) : ApiError := ⟨code, message, none⟩

/-- `DiagnosticsTraceService`. -/
structure DiagnosticsTraceService where
  state : TraceSessionState := .idle
  startedAtEpoch : Option ℤ := none
  stoppedAtEpoch : Option ℤ := none
  etlPath : String := ""
  suggestedFileName : String := ""
  scope : TraceScope := .full
  tuneChannels : Bool := true
  didTuneChannels : Bool := false
  trace : EtwTraceSession := {}
  deriving DecidableEq, Repr

/-- The service and the channels: a channel is tuned when the last successful call on it was
`ApplyReadmeMaximumDiagnosticVisibility`. -/
structure Watchdog where
  service : DiagnosticsTraceService := {}
  tuned : Channel → Bool := fun _ => false

/-- The outcomes of the calls of `Start`: the message of the error if the previous capture cannot
be removed, the directory and the name that are found for the new one, and the present time. -/
structure StartOutcome where
  removePrevious : Option String
  outputDirectory : String
  fileName : String
  tune : ChannelOutcomes
  trace : EtwStartOutcome
  restore : ChannelOutcomes
  nowEpochSeconds : ℤ

/-- The outcomes of the calls of `Stop`. -/
structure StopOutcome where
  controlTrace : UInt32
  restore : ChannelOutcomes
  nowEpochSeconds : ℤ

/-- The outcomes of the calls of `DiscardCapture`: `removeFile` is the message of the error if the
file cannot be removed. -/
structure DiscardOutcome where
  controlTrace : UInt32
  restore : ChannelOutcomes
  nowEpochSeconds : ℤ
  removeFile : Option String

namespace Watchdog

-- the texts of errors, `Win32Error::getErrorMessageA`
variable (getErrorMessageA : Win32Error → String)

/-- `ChannelTuneErrorToApi`. -/
def channelTuneErrorToApi (err : Win32Error) (context : String) : ApiError :=
  makeApiError "channel_tune_failed" (context ++ ": " ++ getErrorMessageA err)

/-- `GetStatus`. The file name has only ASCII characters, so `WideToUtf8` is the identity on it. -/
def getStatus (w : Watchdog) : TraceStatusResponse where
  state := w.service.state
  startedAtEpoch := w.service.startedAtEpoch
  stoppedAtEpoch := w.service.stoppedAtEpoch
  suggestedFileName :=
    if w.service.suggestedFileName ≠ "" then some w.service.suggestedFileName else none

/-- `GetEtlPathForDownload`. -/
def getEtlPathForDownload (fileExists : Bool) (w : Watchdog) : Except ApiError String :=
  if w.service.state ≠ .ready then
    .error (makeApiError "not_ready"
      "Trace capture is not ready for download. Stop recording first.")
  else if w.service.etlPath = "" then
    .error (makeApiError "missing_file" "Capture file path is unknown.")
  else if ¬fileExists then
    .error (makeApiError "missing_file" "Capture file is no longer on disk.")
  else .ok w.service.etlPath

/-- The first block of `Start`: it gives up the previous capture. -/
def dropPreviousCapture (removePrevious : Option String) (s : DiagnosticsTraceService) :
    Except ApiError DiagnosticsTraceService :=
  if s.state = .ready then
    match if s.etlPath ≠ "" then removePrevious else none with
    | some ec =>
        .error (makeApiError "previous_capture_delete_failed"
          ("Could not remove previous capture file: " ++ ec))
    | none =>
        .ok { s with
          stoppedAtEpoch := none
          startedAtEpoch := none
          suggestedFileName := ""
          state := .idle }
  else .ok s

/-- The end of `Start` when the trace session has not started and no channel is to be restored. -/
def startFailed (e : Win32Error) (w : Watchdog) : Except ApiError Unit × Watchdog :=
  (.error (makeApiError "trace_start_failed"
      ("Could not start trace session: " ++ getErrorMessageA e)),
    { w with
      service := { w.service with
        didTuneChannels := false
        etlPath := ""
        suggestedFileName := ""
        startedAtEpoch := none
        stoppedAtEpoch := none } })

/-- `Start` from the start of the trace session on. -/
def startTrace (o : StartOutcome) (w : Watchdog) : Except ApiError Unit × Watchdog :=
  match w.service.trace.start o.trace w.service.scope with
  | (.error e, trace) =>
      let s := { w.service with trace }
      if s.didTuneChannels then
        match tuneScopeChannels s.scope true o.restore w.tuned with
        | (.error e, tuned) =>
            (.error (channelTuneErrorToApi getErrorMessageA e
              "Restoring diagnostics channels after failed trace start"), ⟨s, tuned⟩)
        | (.ok (), tuned) => startFailed getErrorMessageA e ⟨s, tuned⟩
      else startFailed getErrorMessageA e ⟨s, w.tuned⟩
  | (.ok (), trace) =>
      (.ok (), { w with
        service := { w.service with
          trace
          startedAtEpoch := some o.nowEpochSeconds
          stoppedAtEpoch := none
          state := .recording } })

/-- `Start` from the request on. -/
def startCapture (req : TraceStartRequest) (o : StartOutcome) (w : Watchdog) :
    Except ApiError Unit × Watchdog :=
  let s := { w.service with
    scope := req.scope
    tuneChannels := req.tuneChannels
    didTuneChannels := false
    etlPath := o.outputDirectory ++ "\\" ++ o.fileName
    suggestedFileName := o.fileName }
  if s.tuneChannels then
    match tuneScopeChannels s.scope false o.tune w.tuned with
    | (.error e, tuned) =>
        (.error (channelTuneErrorToApi getErrorMessageA e "Diagnostics channel tune"),
          ⟨{ s with etlPath := "", suggestedFileName := "" }, tuned⟩)
    | (.ok (), tuned) => startTrace getErrorMessageA o ⟨{ s with didTuneChannels := true }, tuned⟩
  else startTrace getErrorMessageA o ⟨s, w.tuned⟩

/-- `Start`. -/
def start (req : TraceStartRequest) (o : StartOutcome) (w : Watchdog) :
    Except ApiError Unit × Watchdog :=
  if w.service.state = .recording then
    (.error (makeApiError "recording_in_progress" "A trace recording is already in progress."), w)
  else
    match dropPreviousCapture o.removePrevious w.service with
    | .error e => (.error e, w)
    | .ok s => startCapture getErrorMessageA req o { w with service := s }

/-- `Stop` and `DiscardCapture` when a channel cannot be restored. -/
def restoreFailed {α : Type} (e : Win32Error) (context : String) (now : ℤ) (w : Watchdog) :
    Except ApiError α × Watchdog :=
  (.error (channelTuneErrorToApi getErrorMessageA e context),
    { w with service := { w.service with stoppedAtEpoch := some now, state := .ready } })

/-- The error of `Stop` and `DiscardCapture` when the trace session cannot be stopped. -/
def traceStopFailed (e : Win32Error) : ApiError :=
  makeApiError "trace_stop_failed" ("Could not stop trace session: " ++ getErrorMessageA e)

/-- `Stop`. -/
def stop (o : StopOutcome) (w : Watchdog) : Except ApiError TraceStopResponse × Watchdog :=
  if w.service.state ≠ .recording then
    (.error (makeApiError "not_recording" "No trace recording is active."), w)
  else
    match w.service.trace.stop o.controlTrace with
    | (.error e, trace) =>
        (.error (traceStopFailed getErrorMessageA e),
          { w with service := { w.service with trace } })
    | (.ok (), trace) =>
        let s := { w.service with trace }
        let stopped (tuned : Channel → Bool) : Except ApiError TraceStopResponse × Watchdog :=
          (.ok ⟨s.suggestedFileName, some "Trace stopped; download the .etl file when ready."⟩,
            ⟨{ s with stoppedAtEpoch := some o.nowEpochSeconds, state := .ready }, tuned⟩)
        if s.didTuneChannels ∧ s.tuneChannels then
          match tuneScopeChannels s.scope true o.restore w.tuned with
          | (.error e, tuned) =>
              restoreFailed getErrorMessageA e "Restoring diagnostics channels after stop"
                o.nowEpochSeconds ⟨s, tuned⟩
          | (.ok (), tuned) => stopped tuned
        else stopped w.tuned

/-- The last block of `DiscardCapture`: it removes the file and forgets the capture. -/
def removeCapture (removeFile : Option String) (w : Watchdog) : Except ApiError Unit × Watchdog :=
  match if w.service.etlPath ≠ "" then removeFile else none with
  | some ec =>
      (.error (makeApiError "capture_delete_failed" ("Could not delete capture file: " ++ ec)), w)
  | none =>
      (.ok (), { w with
        service := { w.service with
          etlPath := ""
          suggestedFileName := ""
          startedAtEpoch := none
          stoppedAtEpoch := none
          didTuneChannels := false
          state := .idle } })

/-- `DiscardCapture`. -/
def discardCapture (o : DiscardOutcome) (w : Watchdog) : Except ApiError Unit × Watchdog :=
  if w.service.state = .recording then
    match w.service.trace.stop o.controlTrace with
    | (.error e, trace) =>
        (.error (traceStopFailed getErrorMessageA e),
          { w with service := { w.service with trace } })
    | (.ok (), trace) =>
        let s := { w.service with trace }
        let stopped : DiagnosticsTraceService :=
          { s with stoppedAtEpoch := some o.nowEpochSeconds, state := .ready }
        if s.didTuneChannels ∧ s.tuneChannels then
          match tuneScopeChannels s.scope true o.restore w.tuned with
          | (.error e, tuned) =>
              restoreFailed getErrorMessageA e "Restoring diagnostics channels before discard"
                o.nowEpochSeconds ⟨s, tuned⟩
          | (.ok (), tuned) => removeCapture o.removeFile ⟨stopped, tuned⟩
        else removeCapture o.removeFile ⟨stopped, w.tuned⟩
  else if w.service.state = .ready ∧ w.service.didTuneChannels ∧ w.service.tuneChannels then
    match tuneScopeChannels w.service.scope true o.restore w.tuned with
    | (.error e, tuned) =>
        restoreFailed getErrorMessageA e "Restoring diagnostics channels before discard"
          o.nowEpochSeconds ⟨w.service, tuned⟩
    | (.ok (), tuned) => removeCapture o.removeFile { w with tuned }
  else removeCapture o.removeFile w

end Watchdog

/-! ### What each call does -/

namespace Watchdog

/-- `Start` gets past its guards: no trace is recorded, and no previous capture stays. -/
def Proceeds (w : Watchdog) (o : StartOutcome) : Prop :=
  w.service.state ≠ .recording ∧
    (w.service.state = .ready → w.service.etlPath ≠ "" → o.removePrevious = none)

/-- What `Stop` and `DiscardCapture` make of the channels when they stop the trace. -/
def restored (restore : ChannelOutcomes) (w : Watchdog) :
    Except Win32Error Unit × (Channel → Bool) :=
  if w.service.didTuneChannels ∧ w.service.tuneChannels then
    tuneScopeChannels w.service.scope true restore w.tuned
  else (.ok (), w.tuned)

variable (getErrorMessageA : Win32Error → String)

/-- `Start` refuses, or it carries on as an idle service. -/
theorem start_cases (req : TraceStartRequest) (o : StartOutcome) (w : Watchdog) :
    (¬w.Proceeds o ∧ (w.start getErrorMessageA req o).2 = w) ∨
      w.Proceeds o ∧ ∃ s : DiagnosticsTraceService, s.state = .idle ∧ s.trace = w.service.trace ∧
        w.start getErrorMessageA req o = startCapture getErrorMessageA req o ⟨s, w.tuned⟩ := by
  rw [start, Proceeds]
  by_cases hrecording : w.service.state = .recording
  · rw [if_pos hrecording]
    exact .inl ⟨fun h => h.1 hrecording, rfl⟩
  rw [if_neg hrecording, dropPreviousCapture]
  by_cases hready : w.service.state = .ready
  · rw [if_pos hready]
    rcases hremove : (if w.service.etlPath ≠ "" then o.removePrevious else none) with _ | ec
    · refine .inr ⟨⟨hrecording, fun _ hpath => by rwa [if_pos hpath] at hremove⟩,
        { w.service with
          stoppedAtEpoch := none
          startedAtEpoch := none
          suggestedFileName := ""
          state := .idle }, rfl, rfl, rfl⟩
    · refine .inl ⟨fun h => ?_, rfl⟩
      split_ifs at hremove with hpath
      simp [h.2 hready hpath] at hremove
  · rw [if_neg hready]
    refine .inr ⟨⟨hrecording, fun h => absurd h hready⟩, w.service, ?_, rfl, rfl⟩
    -- neither recording nor ready
    rcases hstate : w.service.state
    · rfl
    · exact absurd hstate hrecording
    · exact absurd hstate hready

/-- From the request on, `Start` tunes no channels, or all channels of the scope, or those before
the first that cannot be tuned, which ends the call. -/
theorem startCapture_cases (req : TraceStartRequest) (o : StartOutcome) (w : Watchdog) :
    ∃ s : DiagnosticsTraceService, s.state = w.service.state ∧ s.trace = w.service.trace ∧
      s.scope = req.scope ∧ s.tuneChannels = req.tuneChannels ∧
      (req.tuneChannels = false ∧ s.didTuneChannels = false ∧
          startCapture getErrorMessageA req o w = startTrace getErrorMessageA o ⟨s, w.tuned⟩ ∨
        req.tuneChannels = true ∧ s.didTuneChannels = true ∧
          (∀ channel ∈ scopeChannels req.scope, o.tune channel = .ok ()) ∧
          startCapture getErrorMessageA req o w = startTrace getErrorMessageA o
            ⟨s, fun x => if x ∈ scopeChannels req.scope then true else w.tuned x⟩ ∨
        req.tuneChannels = true ∧ s.didTuneChannels = false ∧
          ∃ before channel after e, scopeChannels req.scope = before ++ channel :: after ∧
            (∀ x ∈ before, o.tune x = .ok ()) ∧ o.tune channel = .error e ∧
            (startCapture getErrorMessageA req o w).2 =
              ⟨s, fun x => if x ∈ before then true else w.tuned x⟩) := by
  rcases htune : req.tuneChannels
  · refine ⟨{ w.service with
      scope := req.scope
      tuneChannels := false
      didTuneChannels := false
      etlPath := o.outputDirectory ++ "\\" ++ o.fileName
      suggestedFileName := o.fileName }, rfl, rfl, rfl, rfl, .inl ⟨rfl, rfl, ?_⟩⟩
    simp [startCapture, htune]
  · rcases invokeTunes_cases false o.tune w.tuned (scopeChannels req.scope) with
      ⟨hall, heq⟩ | ⟨before, channel, after, e, hchannels, hbefore, hfails, heq⟩
    · refine ⟨{ w.service with
        scope := req.scope
        tuneChannels := true
        didTuneChannels := true
        etlPath := o.outputDirectory ++ "\\" ++ o.fileName
        suggestedFileName := o.fileName }, rfl, rfl, rfl, rfl, .inr (.inl ⟨rfl, rfl, hall, ?_⟩)⟩
      simp [startCapture, htune, tuneScopeChannels, heq]
    · refine ⟨{ w.service with
        scope := req.scope
        tuneChannels := true
        didTuneChannels := false
        etlPath := ""
        suggestedFileName := "" }, rfl, rfl, rfl, rfl, .inr (.inr ⟨rfl, rfl, before, channel,
          after, e, hchannels, hbefore, hfails, ?_⟩)⟩
      simp [startCapture, htune, tuneScopeChannels, heq]

/-- From the start of the trace session on, `Start` records, or it restores the channels of the
scope that it has tuned, or those before the first that cannot be restored. -/
theorem startTrace_cases (o : StartOutcome) (w : Watchdog) :
    (∃ s : DiagnosticsTraceService, s.state = .recording ∧
        w.service.trace.start o.trace w.service.scope = (.ok (), s.trace) ∧
        s.scope = w.service.scope ∧ s.tuneChannels = w.service.tuneChannels ∧
        s.didTuneChannels = w.service.didTuneChannels ∧
        (startTrace getErrorMessageA o w).2 = ⟨s, w.tuned⟩) ∨
      ∃ (s : DiagnosticsTraceService) (e : Win32Error), s.state = w.service.state ∧
        w.service.trace.start o.trace w.service.scope = (.error e, s.trace) ∧
        (w.service.didTuneChannels = false ∧ s.didTuneChannels = false ∧
            (startTrace getErrorMessageA o w).2 = ⟨s, w.tuned⟩ ∨
          w.service.didTuneChannels = true ∧ s.didTuneChannels = false ∧
            (∀ channel ∈ scopeChannels w.service.scope, o.restore channel = .ok ()) ∧
            (startTrace getErrorMessageA o w).2 =
              ⟨s, fun x => if x ∈ scopeChannels w.service.scope then false else w.tuned x⟩ ∨
          w.service.didTuneChannels = true ∧
            ∃ before channel after e, scopeChannels w.service.scope = before ++ channel :: after ∧
              (∀ x ∈ before, o.restore x = .ok ()) ∧ o.restore channel = .error e ∧
              (startTrace getErrorMessageA o w).2 =
                ⟨s, fun x => if x ∈ before then false else w.tuned x⟩) := by
  rcases htrace : w.service.trace.start o.trace w.service.scope with ⟨e | _, trace⟩
  · right
    rcases hdid : w.service.didTuneChannels
    · refine ⟨{ w.service with
        trace
        didTuneChannels := false
        etlPath := ""
        suggestedFileName := ""
        startedAtEpoch := none
        stoppedAtEpoch := none }, e, rfl, rfl, .inl ⟨rfl, rfl, ?_⟩⟩
      simp [startTrace, htrace, hdid, startFailed]
    · rcases invokeTunes_cases true o.restore w.tuned (scopeChannels w.service.scope) with
        ⟨hall, heq⟩ | ⟨before, channel, after, e', hchannels, hbefore, hfails, heq⟩
      · refine ⟨{ w.service with
          trace
          didTuneChannels := false
          etlPath := ""
          suggestedFileName := ""
          startedAtEpoch := none
          stoppedAtEpoch := none }, e, rfl, rfl, .inr (.inl ⟨rfl, rfl, hall, ?_⟩)⟩
        simp [startTrace, htrace, hdid, startFailed, tuneScopeChannels, heq]
      · refine ⟨{ w.service with trace }, e, rfl, rfl, .inr (.inr ⟨rfl, before, channel, after, e',
          hchannels, hbefore, hfails, ?_⟩)⟩
        simp [startTrace, htrace, hdid, tuneScopeChannels, heq]
  · refine .inl ⟨{ w.service with
      trace
      startedAtEpoch := some o.nowEpochSeconds
      stoppedAtEpoch := none
      state := .recording }, rfl, rfl, rfl, rfl, rfl, ?_⟩
    simp [startTrace, htrace]

/-- `Stop` stops the trace and restores the channels, or it leaves everything as it is. -/
theorem stop_cases (o : StopOutcome) (w : Watchdog) :
    (w.stop getErrorMessageA o).2 = w ∧
        (w.service.state = .recording → o.controlTrace ≠ errorSuccess) ∨
      w.service.state = .recording ∧ (w.stop getErrorMessageA o).2 =
        ⟨{ w.service with
            trace := ⟨0⟩
            stoppedAtEpoch := some o.nowEpochSeconds
            state := .ready }, (w.restored o.restore).2⟩ := by
  rw [stop, restored]
  by_cases hrecording : w.service.state = .recording
  · rw [if_neg (not_not.mpr hrecording)]
    rcases w.service.trace.stop_handle o.controlTrace with ⟨e, heq, -, hcontrol⟩ | heq
    · rw [heq]
      exact .inl ⟨rfl, fun _ => hcontrol⟩
    · rw [heq]
      refine .inr ⟨hrecording, ?_⟩
      dsimp only
      split_ifs
      · rcases tuneScopeChannels w.service.scope true o.restore w.tuned with ⟨e | _, tuned⟩ <;> rfl
      · rfl
  · rw [if_pos hrecording]
    exact .inl ⟨rfl, fun h => absurd h hrecording⟩

theorem removeCapture_cases (removeFile : Option String) (w : Watchdog) :
    (removeCapture removeFile w).2 = w ∨ ∃ s : DiagnosticsTraceService, s.state = .idle ∧
      s.trace = w.service.trace ∧ (removeCapture removeFile w).2 = ⟨s, w.tuned⟩ := by
  rw [removeCapture]
  split
  · exact .inl rfl
  · refine .inr ⟨{ w.service with
      etlPath := ""
      suggestedFileName := ""
      startedAtEpoch := none
      stoppedAtEpoch := none
      didTuneChannels := false
      state := .idle }, rfl, rfl, rfl⟩

/-- `DiscardCapture` of a service that is ready, from the outcome of restoring the channels on. -/
private def discardRestored (o : DiscardOutcome) (s : DiagnosticsTraceService) :
    Except Win32Error Unit × (Channel → Bool) → Except ApiError Unit × Watchdog
  | (.error e, tuned) =>
      restoreFailed getErrorMessageA e "Restoring diagnostics channels before discard"
        o.nowEpochSeconds ⟨s, tuned⟩
  | (.ok (), tuned) => removeCapture o.removeFile ⟨s, tuned⟩

/-- It stays ready with what it knows of the channels, or it is idle. -/
private theorem discardRestored_cases (o : DiscardOutcome) {s : DiagnosticsTraceService}
    (hready : s.state = .ready) (r : Except Win32Error Unit × (Channel → Bool)) :
    ∃ s' : DiagnosticsTraceService, s'.trace = s.trace ∧
      (discardRestored getErrorMessageA o s r).2 = ⟨s', r.2⟩ ∧
      (s'.state = .ready ∧ s'.scope = s.scope ∧ s'.didTuneChannels = s.didTuneChannels ∧
          s'.tuneChannels = s.tuneChannels ∨
        s'.state = .idle ∧ r.1 = .ok ()) := by
  rcases r with ⟨e | _, tuned⟩
  · exact ⟨{ s with stoppedAtEpoch := some o.nowEpochSeconds, state := .ready }, rfl, rfl,
      .inl ⟨rfl, rfl, rfl, rfl⟩⟩
  · rw [discardRestored]
    rcases removeCapture_cases o.removeFile ⟨s, tuned⟩ with heq | ⟨s', hidle, htrace, heq⟩
    · exact ⟨s, rfl, heq, .inl ⟨hready, rfl, rfl, rfl⟩⟩
    · exact ⟨s', htrace, heq, .inr ⟨hidle, rfl⟩⟩

/-- `DiscardCapture` leaves everything as it is, or it removes the capture of an idle service, or it
restores the channels, with the trace stopped. -/
theorem discardCapture_cases (o : DiscardOutcome) (w : Watchdog) :
    (w.discardCapture getErrorMessageA o).2 = w ∧
        (w.service.state = .recording → o.controlTrace ≠ errorSuccess) ∨
      ∃ s : DiagnosticsTraceService,
        (s.trace = ⟨0⟩ ∨ w.service.state ≠ .recording ∧ s.trace = w.service.trace) ∧
        (s.state = .idle ∧ w.service.state = .idle ∧
            (w.discardCapture getErrorMessageA o).2 = ⟨s, w.tuned⟩ ∨
          w.service.state ≠ .idle ∧
            (w.discardCapture getErrorMessageA o).2 = ⟨s, (w.restored o.restore).2⟩ ∧
            (s.state = .ready ∧ s.scope = w.service.scope ∧
                s.didTuneChannels = w.service.didTuneChannels ∧
                s.tuneChannels = w.service.tuneChannels ∨
              s.state = .idle ∧ (w.restored o.restore).1 = .ok ())) := by
  rcases hstate : w.service.state
  · -- idle: only the file is removed
    have heq : w.discardCapture getErrorMessageA o = removeCapture o.removeFile w := by
      simp [discardCapture, hstate]
    rw [heq]
    rcases removeCapture_cases o.removeFile w with hsame | ⟨s, hidle, htrace, hs⟩
    · exact .inl ⟨hsame, by simp⟩
    · exact .inr ⟨s, .inr ⟨by simp, htrace⟩, .inl ⟨hidle, rfl, hs⟩⟩
  · -- recording: the trace is stopped first
    rcases w.service.trace.stop_handle o.controlTrace with ⟨e, hstop, -, hcontrol⟩ | hstop
    · left
      rw [discardCapture, if_pos hstate, hstop]
      exact ⟨rfl, fun _ => hcontrol⟩
    · right
      have heq : w.discardCapture getErrorMessageA o = discardRestored getErrorMessageA o
          { w.service with
            trace := ⟨0⟩
            stoppedAtEpoch := some o.nowEpochSeconds
            state := .ready } (w.restored o.restore) := by
        rw [discardCapture, if_pos hstate, hstop, restored]
        dsimp only
        split_ifs
        · rcases tuneScopeChannels w.service.scope true o.restore w.tuned with ⟨e | _, tuned⟩ <;>
            rfl
        · rfl
      rw [heq]
      obtain ⟨s, htrace, hs, hcases⟩ := discardRestored_cases getErrorMessageA o
        (s := { w.service with
          trace := ⟨0⟩
          stoppedAtEpoch := some o.nowEpochSeconds
          state := .ready }) rfl (w.restored o.restore)
      exact ⟨s, .inl htrace, .inr ⟨by simp, hs, hcases⟩⟩
  · -- ready: the channels are restored if they were tuned
    right
    have heq : w.discardCapture getErrorMessageA o =
        discardRestored getErrorMessageA o w.service (w.restored o.restore) := by
      rw [discardCapture, if_neg (by simp [hstate]), restored]
      simp only [hstate, true_and]
      split_ifs
      · rcases tuneScopeChannels w.service.scope true o.restore w.tuned with ⟨e | _, tuned⟩ <;> rfl
      · rfl
    rw [heq]
    obtain ⟨s, htrace, hs, hcases⟩ :=
      discardRestored_cases getErrorMessageA o hstate (w.restored o.restore)
    exact ⟨s, .inr ⟨by simp, htrace⟩, .inr ⟨by simp, hs, hcases⟩⟩

end Watchdog

/-! ### Runs -/

/-- A call of the service, with the outcomes of what it calls. -/
inductive ServiceCall where
  | start (req : TraceStartRequest) (o : StartOutcome)
  | stop (o : StopOutcome)
  | getStatus
  | getEtlPathForDownload (fileExists : Bool)
  | discardCapture (o : DiscardOutcome)

/-- The state after a call. -/
def Watchdog.perform (getErrorMessageA : Win32Error → String) (w : Watchdog) :
    ServiceCall → Watchdog
  | .start req o => (w.start getErrorMessageA req o).2
  | .stop o => (w.stop getErrorMessageA o).2
  | .getStatus => w
  | .getEtlPathForDownload _ => w
  | .discardCapture o => (w.discardCapture getErrorMessageA o).2

end HidHide
