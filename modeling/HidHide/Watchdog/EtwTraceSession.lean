import Mathlib.Data.List.Basic
import Mathlib.Tactic.SplitIfs

/-!
# The trace session

`EtwTraceSession.cpp`: the one trace session of the Watchdog, known by its handle. The outcomes of
the Windows calls are arguments.

`start` sets the handle when the trace starts, and stops the trace again when a provider cannot be
enabled. That stop can fail as well, and then the handle stays (`start_handle`).
-/

namespace HidHide

/-- `TraceScope`. -/
inductive TraceScope where
  | full
  | driver
  | userspace
  deriving DecidableEq, Repr

/-- `Win32Error`: the error, and the call that reported it. -/
structure Win32Error where
  code : UInt32
  context : String
  deriving DecidableEq, Repr

/-- `ERROR_SUCCESS`. -/
def errorSuccess : UInt32 := 0

/-- `ERROR_INVALID_PARAMETER`. -/
def errorInvalidParameter : UInt32 := 87

/-- `ERROR_ALREADY_EXISTS`. -/
def errorAlreadyExists : UInt32 := 183

/-- `TRACEHANDLE`. -/
abbrev TraceHandle := UInt64

theorem traceHandle_one_ne : (1 : TraceHandle) ≠ 0 := by decide

/-- The providers, by the names of their GUIDs. -/
inductive Provider where
  | driverLogging
  | driverTracing
  | clientLogging
  | clientTracing
  | cliLogging
  | cliTracing
  deriving DecidableEq, Repr

/-! ### Outcomes -/

/-- The outcome of `StartTraceW`. A trace that is started has a handle other than zero. -/
inductive StartTraceOutcome where
  | started (handle : {handle : TraceHandle // handle ≠ 0})
  | failed (status : {status : UInt32 // status ≠ errorSuccess})

/-- The outcomes of the two `StringCbCopyW` calls of `fillProps`, as `HRESULT`. -/
structure FillPropsOutcome where
  copyLogger : Int32
  copyLogPath : Int32

/-- The outcomes of the calls of `EtwTraceSession::Start`: `refillProps` and `restartTrace` belong
to the second attempt, `controlTrace` to the clean-up. `tryStopStaleOurSession` is what the function
of that name returns, which does not touch the session. -/
structure EtwStartOutcome where
  fillProps : FillPropsOutcome
  startTrace : StartTraceOutcome
  tryStopStaleOurSession : Bool
  refillProps : FillPropsOutcome
  restartTrace : StartTraceOutcome
  enableTrace : Provider → UInt32
  controlTrace : UInt32

/-! ### The session -/

/-- `EtwTraceSession`. -/
structure EtwTraceSession where
  sessionHandle : TraceHandle := 0
  deriving DecidableEq, Repr

namespace EtwTraceSession

/-- `ProvidersForScope`. -/
def providersForScope : TraceScope → List Provider
  | .full => [.driverLogging, .driverTracing, .clientLogging, .clientTracing, .cliLogging,
      .cliTracing]
  | .driver => [.driverLogging, .driverTracing]
  | .userspace => [.clientLogging, .clientTracing, .cliLogging, .cliTracing]

/-- `EnableProvider`. -/
def enableProvider (status : UInt32) : Except Win32Error Unit :=
  if status ≠ errorSuccess then .error ⟨status, "EnableTraceEx2"⟩ else .ok ()

/-- `EtwTraceSession::Stop`. -/
def stop (controlTrace : UInt32) (session : EtwTraceSession) :
    Except Win32Error Unit × EtwTraceSession :=
  if session.sessionHandle = 0 then (.ok (), session)
  else if controlTrace ≠ errorSuccess then (.error ⟨controlTrace, "ControlTrace STOP"⟩, session)
  else (.ok (), { session with sessionHandle := 0 })

/-- The lambda `fillProps` of `Start`. The path only goes into the properties. -/
def fillProps (o : FillPropsOutcome) : Except Win32Error Unit :=
  if o.copyLogger < 0 then .error ⟨errorInvalidParameter, "StringCbCopyW logger"⟩
  else if o.copyLogPath < 0 then .error ⟨errorInvalidParameter, "StringCbCopyW log path"⟩
  else .ok ()

/-- The calls of `StartTraceW` in `Start`. -/
def startTrace (o : EtwStartOutcome) (session : EtwTraceSession) :
    Except Win32Error Unit × EtwTraceSession :=
  match o.startTrace with
  | .started handle => (.ok (), { session with sessionHandle := handle })
  | .failed errStart =>
      let session := { session with sessionHandle := 0 }
      if errStart = errorAlreadyExists ∧ o.tryStopStaleOurSession then
        match fillProps o.refillProps with
        | .error e => (.error e, session)
        | .ok () =>
            match o.restartTrace with
            | .started handle => (.ok (), { session with sessionHandle := handle })
            | .failed errStart =>
                (.error ⟨errStart, "StartTraceW"⟩, { session with sessionHandle := 0 })
      else (.error ⟨errStart, "StartTraceW"⟩, session)

/-- The loop over the providers in `Start`. -/
def enableProviders (o : EtwStartOutcome) (session : EtwTraceSession) :
    List Provider → Except Win32Error Unit × EtwTraceSession
  | [] => (.ok (), session)
  | g :: providers =>
      match enableProvider (o.enableTrace g) with
      | .error e =>
          match session.stop o.controlTrace with
          | (.error stopErr, session) => (.error stopErr, session)
          | (.ok (), session) => (.error e, session)
      | .ok () => enableProviders o session providers

/-- `EtwTraceSession::Start`. -/
def start (o : EtwStartOutcome) (scope : TraceScope) (session : EtwTraceSession) :
    Except Win32Error Unit × EtwTraceSession :=
  if session.sessionHandle ≠ 0 then
    (.error ⟨errorAlreadyExists, "EtwTraceSession::Start"⟩, session)
  else
    match fillProps o.fillProps with
    | .error e => (.error e, session)
    | .ok () =>
        match session.startTrace o with
        | (.error e, session) => (.error e, session)
        | (.ok (), session) => session.enableProviders o (providersForScope scope)

end EtwTraceSession

/-! ### What becomes of the handle -/

/-- The trace is started, at the first or at the second attempt. -/
def EtwStartOutcome.TraceStarted (o : EtwStartOutcome) : Prop :=
  match o.startTrace with
  | .started _ => True
  | .failed errStart => errStart.1 = errorAlreadyExists ∧ o.tryStopStaleOurSession ∧
      EtwTraceSession.fillProps o.refillProps = .ok () ∧
      ∃ handle, o.restartTrace = .started handle

/-- The trace is started, a provider cannot be enabled and the trace cannot be stopped either. -/
def EtwStartOutcome.LeavesTrace (o : EtwStartOutcome) (scope : TraceScope) : Prop :=
  EtwTraceSession.fillProps o.fillProps = .ok () ∧ o.TraceStarted ∧
    (∃ g ∈ EtwTraceSession.providersForScope scope, o.enableTrace g ≠ errorSuccess) ∧
    o.controlTrace ≠ errorSuccess

namespace EtwTraceSession

theorem stop_of_success (session : EtwTraceSession) :
    session.stop errorSuccess = (.ok (), ⟨0⟩) := by
  rw [stop]
  split_ifs with hzero hstatus
  · rw [← hzero]
  · exact absurd rfl hstatus
  · rfl

/-- A stop that is reported as failed has left the handle, and one that is not has none. -/
theorem stop_handle (controlTrace : UInt32) (session : EtwTraceSession) :
    (∃ e, session.stop controlTrace = (.error e, session) ∧ session.sessionHandle ≠ 0 ∧
      controlTrace ≠ errorSuccess) ∨ session.stop controlTrace = (.ok (), ⟨0⟩) := by
  rw [stop]
  split_ifs with hzero hstatus
  · rw [← hzero]
    exact .inr rfl
  · exact .inl ⟨_, rfl, hzero, hstatus⟩
  · exact .inr rfl

/-- The handle is set if and only if the trace is started. -/
theorem startTrace_handle (o : EtwStartOutcome) (session : EtwTraceSession) :
    (o.TraceStarted ∧ ∃ handle ≠ 0, session.startTrace o = (.ok (), ⟨handle⟩)) ∨
      ¬o.TraceStarted ∧ ∃ e, session.startTrace o = (.error e, ⟨0⟩) := by
  rw [startTrace, EtwStartOutcome.TraceStarted]
  split
  · rename_i handle _
    exact .inl ⟨trivial, handle.1, handle.2, rfl⟩
  · rename_i errStart _
    by_cases hstale : errStart.1 = errorAlreadyExists ∧ o.tryStopStaleOurSession
    · -- the stale session is gone: the second attempt decides
      rw [if_pos hstale]
      rcases hfill : fillProps o.refillProps with e | _
      · exact .inr ⟨by simp, e, rfl⟩
      rcases hrestart : o.restartTrace with handle | errStart
      · exact .inl ⟨⟨hstale.1, hstale.2, rfl, handle, rfl⟩, handle.1, handle.2, rfl⟩
      · exact .inr ⟨by simp, _, rfl⟩
    · rw [if_neg hstale]
      exact .inr ⟨fun h => hstale ⟨h.1, h.2.1⟩, _, rfl⟩

/-- The loop leaves the session as it is if all providers can be enabled; otherwise its result is
an error, and the handle stays if and only if the session cannot be stopped. -/
theorem enableProviders_handle (o : EtwStartOutcome) (session : EtwTraceSession)
    (h : session.sessionHandle ≠ 0) (providers : List Provider) :
    ((∀ g ∈ providers, o.enableTrace g = errorSuccess) ∧
        session.enableProviders o providers = (.ok (), session)) ∨
      (∃ g ∈ providers, o.enableTrace g ≠ errorSuccess) ∧
        ∃ e s, session.enableProviders o providers = (.error e, s) ∧
          (s.sessionHandle ≠ 0 ↔ o.controlTrace ≠ errorSuccess) := by
  induction providers with
  | nil => exact .inl ⟨by simp, rfl⟩
  | cons g providers ih =>
    by_cases hg : o.enableTrace g = errorSuccess
    · have hhead : session.enableProviders o (g :: providers) =
          session.enableProviders o providers := by
        rw [enableProviders, enableProvider, if_neg (not_not.mpr hg)]
      rw [hhead]
      rcases ih with ⟨hall, heq⟩ | ⟨⟨g', hg', hfails⟩, herror⟩
      · exact .inl ⟨List.forall_mem_cons.mpr ⟨hg, hall⟩, heq⟩
      · exact .inr ⟨⟨g', List.mem_cons_of_mem g hg', hfails⟩, herror⟩
    · -- the first provider that cannot be enabled ends the loop
      refine .inr ⟨⟨g, List.mem_cons_self, hg⟩, ?_⟩
      rw [enableProviders, enableProvider, if_pos hg]
      by_cases hcontrol : o.controlTrace = errorSuccess
      · simp [hcontrol, stop_of_success]
      · simp [stop, h, hcontrol]

/-- **The handle after a start**: a session that starts has one, and a session that does not keeps
one exactly when the clean-up has failed. -/
theorem start_handle (o : EtwStartOutcome) (scope : TraceScope) :
    (¬o.LeavesTrace scope ∧ ∃ handle ≠ 0, start o scope ⟨0⟩ = (.ok (), ⟨handle⟩)) ∨
      ∃ e handle, start o scope ⟨0⟩ = (.error e, ⟨handle⟩) ∧
        (handle ≠ 0 ↔ o.LeavesTrace scope) := by
  rw [start, if_neg (by simp)]
  rcases hfill : fillProps o.fillProps with e | _
  · exact .inr ⟨e, 0, rfl, by simp [EtwStartOutcome.LeavesTrace, hfill]⟩
  dsimp only
  rcases startTrace_handle o ⟨0⟩ with ⟨hstarted, handle, hne, heq⟩ | ⟨hstarted, e, heq⟩
  · rw [heq]
    rcases enableProviders_handle o ⟨handle⟩ hne (providersForScope scope) with
      ⟨hall, heq⟩ | ⟨hfails, e, ⟨handle'⟩, heq, hhandle'⟩
    · refine .inl ⟨?_, handle, hne, heq⟩
      rintro ⟨-, -, ⟨g, hg, hfails⟩, -⟩
      exact hfails (hall g hg)
    · refine .inr ⟨e, handle', heq, hhandle'.trans ?_⟩
      exact ⟨fun hcontrol => ⟨hfill, hstarted, hfails, hcontrol⟩, fun hleaves => hleaves.2.2.2⟩
  · rw [heq]
    refine .inr ⟨e, 0, rfl, iff_of_false (by simp) ?_⟩
    rintro ⟨-, hleaves, -⟩
    exact hstarted hleaves

end EtwTraceSession

end HidHide
