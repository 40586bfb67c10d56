import HidHide.Watchdog.DiagnosticsTraceService

/-!
# The service and its trace session

The service keeps its state in step with the handle of the trace session: it is recording exactly
when the handle is set. Each call keeps them in step but one: a start whose session starts, fails to
enable a provider and cannot be stopped again. The service then takes itself for idle, with a trace
that neither `Stop` nor `DiscardCapture` stops (`knowsTraceSession_iff_along`).
-/

namespace HidHide

/-- The service knows its trace session: the handle is set exactly while the service is recording.
So a trace that is running can be stopped, by `Stop` and by `DiscardCapture`, and when no recording
is in progress the session does not refuse to start because it is there already. -/
structure KnowsTraceSession (getErrorMessageA : Win32Error → String) (w : Watchdog) : Prop where
  handle_iff : w.service.trace.sessionHandle ≠ 0 ↔ w.service.state = .recording
  stop : w.service.trace.sessionHandle ≠ 0 → ∀ o : StopOutcome, o.controlTrace = errorSuccess →
    (w.stop getErrorMessageA o).2.service.trace.sessionHandle = 0
  discardCapture : w.service.trace.sessionHandle ≠ 0 → ∀ o : DiscardOutcome,
    o.controlTrace = errorSuccess →
      (w.discardCapture getErrorMessageA o).2.service.trace.sessionHandle = 0
  start : w.service.state ≠ .recording → w.service.trace.sessionHandle = 0

/-- `Start` reaches the trace session: its guards let it pass, and the channels are tuned. -/
def Watchdog.ReachesTrace (w : Watchdog) (req : TraceStartRequest) (o : StartOutcome) : Prop :=
  w.Proceeds o ∧ (req.tuneChannels → ∀ channel ∈ scopeChannels req.scope, o.tune channel = .ok ())

/-- The call is not a start that leaves a trace behind. -/
def ServiceCall.LeavesNoTrace (w : Watchdog) : ServiceCall → Prop
  | .start req o => ¬(w.ReachesTrace req o ∧ o.trace.LeavesTrace req.scope)
  | _ => True

variable (getErrorMessageA : Win32Error → String)

namespace Watchdog

/-! ### Stopping -/

/-- `Stop` keeps the state and the handle in step. -/
theorem stop_handle_iff (o : StopOutcome) {w : Watchdog}
    (h : w.service.trace.sessionHandle ≠ 0 ↔ w.service.state = .recording) :
    (w.stop getErrorMessageA o).2.service.trace.sessionHandle ≠ 0 ↔
      (w.stop getErrorMessageA o).2.service.state = .recording := by
  rcases w.stop_cases getErrorMessageA o with ⟨heq, -⟩ | ⟨-, heq⟩
  · rwa [heq]
  · rw [heq]
    exact iff_of_false (by simp) (by simp)

/-- `DiscardCapture` keeps the state and the handle in step. -/
theorem discardCapture_handle_iff (o : DiscardOutcome) {w : Watchdog}
    (h : w.service.trace.sessionHandle ≠ 0 ↔ w.service.state = .recording) :
    (w.discardCapture getErrorMessageA o).2.service.trace.sessionHandle ≠ 0 ↔
      (w.discardCapture getErrorMessageA o).2.service.state = .recording := by
  rcases w.discardCapture_cases getErrorMessageA o with ⟨heq, -⟩ | ⟨s, htrace, hcases⟩
  · rwa [heq]
  -- otherwise the service records no longer, and no handle is left
  have hzero : s.trace.sessionHandle = 0 := by
    rcases htrace with hs | ⟨hne, hs⟩
    · rw [hs]
    · rw [hs]
      exact not_not.mp fun hhandle => hne (h.mp hhandle)
  rcases hcases with ⟨hidle, -, heq⟩ | ⟨-, heq, ⟨hready, -⟩ | ⟨hidle, -⟩⟩ <;> rw [heq]
  · exact iff_of_false (not_not.mpr hzero) (by simp [hidle])
  · exact iff_of_false (not_not.mpr hzero) (by simp [hready])
  · exact iff_of_false (not_not.mpr hzero) (by simp [hidle])

/-- The service knows its trace session if the state and the handle are in step. -/
theorem knowsTraceSession_iff (w : Watchdog) : KnowsTraceSession getErrorMessageA w ↔
    (w.service.trace.sessionHandle ≠ 0 ↔ w.service.state = .recording) := by
  refine ⟨fun h => h.handle_iff, fun h => ⟨h, ?_, ?_, ?_⟩⟩
  · intro hhandle o ho
    rcases w.stop_cases getErrorMessageA o with ⟨-, hfails⟩ | ⟨-, heq⟩
    · exact absurd ho (hfails (h.mp hhandle))
    · rw [heq]
  · intro hhandle o ho
    rcases w.discardCapture_cases getErrorMessageA o with ⟨-, hfails⟩ | ⟨s, htrace, hcases⟩
    · exact absurd ho (hfails (h.mp hhandle))
    · have hzero : s.trace = ⟨0⟩ := htrace.resolve_right fun hs => hs.1 (h.mp hhandle)
      rcases hcases with ⟨-, -, heq⟩ | ⟨-, heq, -⟩ <;> rw [heq, hzero]
  · intro hstate
    exact not_not.mp fun hhandle => hstate (h.mp hhandle)

/-! ### Starting -/

/-- From the start of the trace session on, an idle service without a trace keeps the state and the
handle in step, unless the trace is left behind. -/
theorem startTrace_handle_iff (o : StartOutcome) {w : Watchdog} (hidle : w.service.state = .idle)
    (hzero : w.service.trace = ⟨0⟩) :
    ((startTrace getErrorMessageA o w).2.service.trace.sessionHandle ≠ 0 ↔
        (startTrace getErrorMessageA o w).2.service.state = .recording) ↔
      ¬o.trace.LeavesTrace w.service.scope := by
  rcases startTrace_cases getErrorMessageA o w with
    ⟨s, hrecording, hstart, -, -, -, heq⟩ | ⟨s, e, hstate, hstart, hcases⟩
  · rw [heq]
    rcases EtwTraceSession.start_handle o.trace w.service.scope with
      ⟨hleaves, handle, hne, hok⟩ | ⟨e, handle, herror, -⟩
    · have htrace : ⟨handle⟩ = s.trace := by simpa [hzero, hok] using hstart
      rw [← htrace]
      exact iff_of_true (iff_of_true hne hrecording) hleaves
    · simp [hzero, herror] at hstart
  · -- whichever channels are restored, the service is idle and has the handle that was left
    have hservice : (startTrace getErrorMessageA o w).2.service = s := by
      rcases hcases with ⟨_, _, heq⟩ | ⟨_, _, _, heq⟩ | ⟨_, _, _, _, _, _, _, _, heq⟩ <;> rw [heq]
    rw [hservice]
    rcases EtwTraceSession.start_handle o.trace w.service.scope with
      ⟨-, handle, -, hok⟩ | ⟨e', handle, herror, hleaves⟩
    · simp [hzero, hok] at hstart
    · obtain ⟨-, htrace⟩ : e' = e ∧ ⟨handle⟩ = s.trace := by simpa [hzero, herror] using hstart
      rw [← htrace, hstate, hidle, ← hleaves]
      simp

/-- The service tunes the channels before it starts the trace session. -/
theorem startCapture_handle_iff (req : TraceStartRequest) (o : StartOutcome) {w : Watchdog}
    (hidle : w.service.state = .idle) (hzero : w.service.trace = ⟨0⟩) :
    ((startCapture getErrorMessageA req o w).2.service.trace.sessionHandle ≠ 0 ↔
        (startCapture getErrorMessageA req o w).2.service.state = .recording) ↔
      ¬((req.tuneChannels → ∀ channel ∈ scopeChannels req.scope, o.tune channel = .ok ()) ∧
        o.trace.LeavesTrace req.scope) := by
  obtain ⟨s, hstate, htrace, hscope, -, hcases⟩ := startCapture_cases getErrorMessageA req o w
  rw [hidle] at hstate
  rw [hzero] at htrace
  rcases hcases with ⟨htune, -, heq⟩ | ⟨htune, -, hall, heq⟩ |
    ⟨htune, -, before, channel, after, e, hchannels, -, hfails, heq⟩
  · rw [heq, startTrace_handle_iff getErrorMessageA o hstate htrace, hscope]
    simp [htune]
  · rw [heq, startTrace_handle_iff getErrorMessageA o hstate htrace, hscope]
    exact not_congr (and_iff_right fun _ => hall).symm
  · -- the session is not started
    rw [heq]
    refine iff_of_true (by simp [hstate, htrace]) fun h => ?_
    have hok := h.1 htune channel (by simp [hchannels])
    simp [hfails] at hok

/-- `Start` keeps the state and the handle in step unless it leaves a trace behind. -/
theorem start_handle_iff (req : TraceStartRequest) (o : StartOutcome) {w : Watchdog}
    (h : w.service.trace.sessionHandle ≠ 0 ↔ w.service.state = .recording) :
    ((w.start getErrorMessageA req o).2.service.trace.sessionHandle ≠ 0 ↔
        (w.start getErrorMessageA req o).2.service.state = .recording) ↔
      ¬(w.ReachesTrace req o ∧ o.trace.LeavesTrace req.scope) := by
  rcases w.start_cases getErrorMessageA req o with
    ⟨hrefused, heq⟩ | ⟨hproceeds, s, hidle, htrace, heq⟩
  · rw [heq]
    exact iff_of_true h fun hreaches => hrefused hreaches.1.1
  · have hzero : s.trace = ⟨0⟩ := by
      have hhandle : w.service.trace.sessionHandle = 0 :=
        not_not.mp fun hne => hproceeds.1 (h.mp hne)
      rw [htrace, ← hhandle]
    rw [heq]
    refine (startCapture_handle_iff getErrorMessageA req o (w := ⟨s, w.tuned⟩) hidle hzero).trans ?_
    rw [ReachesTrace, and_iff_right hproceeds]

end Watchdog

/-! ### Runs -/

/-- Each call keeps the state and the handle in step exactly when it leaves no trace behind. -/
theorem knowsTraceSession_perform_iff {w : Watchdog} (call : ServiceCall)
    (h : KnowsTraceSession getErrorMessageA w) :
    call.LeavesNoTrace w ↔
      KnowsTraceSession getErrorMessageA (w.perform getErrorMessageA call) := by
  have hinv := h.handle_iff
  rw [Watchdog.knowsTraceSession_iff]
  cases call with
  | start req o => exact (Watchdog.start_handle_iff getErrorMessageA req o hinv).symm
  | stop o => exact iff_of_true trivial (Watchdog.stop_handle_iff getErrorMessageA o hinv)
  | getStatus => exact iff_of_true trivial hinv
  | getEtlPathForDownload fileExists => exact iff_of_true trivial hinv
  | discardCapture o =>
    exact iff_of_true trivial (Watchdog.discardCapture_handle_iff getErrorMessageA o hinv)

/-- **The service knows its trace session** after each call of a run exactly when no start leaves a
trace behind: when no start that has started its trace fails to enable a provider and then to stop
the trace again. -/
theorem knowsTraceSession_iff_along (calls : List ServiceCall) :
    (∀ done, done <+: calls →
        KnowsTraceSession getErrorMessageA (done.foldl (Watchdog.perform getErrorMessageA) {})) ↔
      Machine.Along (fun w call => some (Watchdog.perform getErrorMessageA w call))
        (fun w call => call.LeavesNoTrace w) {} calls := by
  refine Machine.forall_prefix_iff_along_total (P := KnowsTraceSession getErrorMessageA) ?_ ?_ calls
  · intro w call h
    exact knowsTraceSession_perform_iff getErrorMessageA call h
  · exact (Watchdog.knowsTraceSession_iff getErrorMessageA {}).mpr (by simp)

/-- A start whose clean-up fails: no provider can be enabled, nor the trace be stopped. -/
def startWithoutCleanUp : ServiceCall :=
  .start { scope := .driver, tuneChannels := false }
    { removePrevious := none
      outputDirectory := "C:\\ProgramData\\Nefarius\\HidHide\\ETW"
      fileName := "HidHide-trace.etl"
      tune := fun _ => .ok ()
      trace :=
        { fillProps := ⟨0, 0⟩
          startTrace := .started ⟨1, traceHandle_one_ne⟩
          tryStopStaleOurSession := false
          refillProps := ⟨0, 0⟩
          restartTrace := .started ⟨1, traceHandle_one_ne⟩
          enableTrace := fun _ => 5
          controlTrace := 5 }
      restore := fun _ => .ok ()
      nowEpochSeconds := 0 }

/-- Then the service is idle, and its session has a handle. -/
theorem startWithoutCleanUp_unknown :
    ¬KnowsTraceSession Win32Error.context
      ([startWithoutCleanUp].foldl (Watchdog.perform Win32Error.context) {}) := by
  intro h
  have hhandle : ([startWithoutCleanUp].foldl
      (Watchdog.perform Win32Error.context) {}).service.trace.sessionHandle = 1 := rfl
  have hstate : ([startWithoutCleanUp].foldl
      (Watchdog.perform Win32Error.context) {}).service.state = .idle := rfl
  have hrecording := h.handle_iff.mp (by rw [hhandle]; decide)
  rw [hstate] at hrecording
  cases hrecording

end HidHide
