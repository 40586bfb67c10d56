import HidHide.Watchdog.DiagnosticsTraceHandler

/-!
# What the replies tell of the trace

Seen from its interface, the trace service has a session: none, or a capture that is recorded, or
one that is ready (`TraceSession`). The replies of the service to the requests so far tell which
(`TraceSession.observe`), whatever the calls of the service come to, and what is reported and what
is offered for download is that session (`replies_describe`).

The replies tell the state. The file, its name and the times are those that the calls of the start
and the stop have come to. An idle service may still report a file name: a start whose channels
cannot be restored leaves it behind.
-/

namespace HidHide

/-! ### Routes -/

/-- What `handleRequest` tells apart. -/
inductive TraceRoute where
  | getStatus
  | delete
  | postStart
  | postStop
  | getEtl
  deriving DecidableEq

/-- The route of a request. -/
def HttpRequest.route (request : HttpRequest) : Option TraceRoute :=
  let p := normalizePath request.path
  if p = kApiTraceBase ∧ request.method = "GET" then some .getStatus
  else if p = kApiTraceBase ∧ request.method = "DELETE" then some .delete
  else if p = kApiTraceBase ++ "/start" ∧ request.method = "POST" then some .postStart
  else if p = kApiTraceBase ++ "/stop" ∧ request.method = "POST" then some .postStop
  else if p = kApiTraceBase ++ "/etl" ∧ request.method = "GET" then some .getEtl
  else none

/-- The reply to a request of no route. -/
def HttpRequest.unknownRoute (request : HttpRequest) : HttpResponse :=
  if "/api/v1/diagnostics/".toList <+: (normalizePath request.path).toList then
    sendError 404 ⟨"not_found", "Unknown diagnostics route.", none⟩
  else sendError 404 ⟨"not_found", "The requested resource was not found.", none⟩

/-- A request with a route gets to the handler of that route. -/
theorem serveRequest_eq (parse : PocoParser) (getErrorMessageA : Win32Error → String)
    (request : HttpRequest) (o : RequestOutcome) (w : Watchdog) :
    w.serveRequest parse getErrorMessageA request o =
      match request.route with
      | some .getStatus => (w.handleGetStatus, w)
      | some .delete => w.handleDelete getErrorMessageA o.discard
      | some .postStart => w.handlePostStart parse getErrorMessageA request o.start
      | some .postStop => w.handlePostStop getErrorMessageA o.stop
      | some .getEtl => (w.handleGetEtl o.fileExists o.opens, w)
      | none => (request.unknownRoute, w) := by
  rw [Watchdog.serveRequest, Watchdog.handleRequest, HttpRequest.route, HttpRequest.unknownRoute]
  by_cases hapi : "/api/v1/diagnostics/".toList <+: (normalizePath request.path).toList
  · simp only [if_pos hapi]
    split_ifs <;> rfl
  · -- each route is below the path of the interface
    have hne : ∀ p : String, "/api/v1/diagnostics/".toList <+: p.toList →
        normalizePath request.path ≠ p := fun p hp h => hapi (h ▸ hp)
    have hbase := hne kApiTraceBase (by decide)
    have hstart := hne (kApiTraceBase ++ "/start") (by decide)
    have hstop := hne (kApiTraceBase ++ "/stop") (by decide)
    have hetl := hne (kApiTraceBase ++ "/etl") (by decide)
    simp only [if_neg hapi, hbase, hstart, hstop, hetl, false_and, if_false]

/-! ### Sessions -/

/-- A capture: its file, the name that is suggested for it, and when it was started. -/
structure Capture where
  etlPath : String
  fileName : String
  startedAt : ℤ
  deriving DecidableEq

/-- What there is of a trace. -/
inductive TraceSession where
  | idle
  | recording (c : Capture)
  | ready (c : Capture) (stoppedAt : ℤ)
  deriving DecidableEq

/-- The capture that a successful `Start` begins. -/
def StartOutcome.capture (o : StartOutcome) : Capture where
  etlPath := o.outputDirectory ++ "\\" ++ o.fileName
  fileName := o.fileName
  startedAt := o.nowEpochSeconds

namespace TraceSession

def state : TraceSession → TraceSessionState
  | idle => .idle
  | recording _ => .recording
  | ready _ _ => .ready

def capture : TraceSession → Option Capture
  | idle => none
  | recording c => some c
  | ready c _ => some c

def stoppedAt : TraceSession → Option ℤ
  | ready _ t => some t
  | _ => none

/-- A trace that is recorded is stopped. -/
def stopped (now : ℤ) : TraceSession → TraceSession
  | recording c => ready c now
  | s => s

/-- What is left when the capture cannot be discarded, as the channels cannot be restored. -/
def kept (now : ℤ) : TraceSession → TraceSession
  | idle => idle
  | recording c => ready c now
  | ready c _ => ready c now

/-- The members of the service are those of the session. The file of an idle service may be left
over from a start that failed. -/
structure Describes (s : TraceSession) (d : DiagnosticsTraceService) : Prop where
  state : d.state = s.state
  startedAt : d.startedAtEpoch = s.capture.map Capture.startedAt
  stoppedAt : d.stoppedAtEpoch = s.stoppedAt
  capture : ∀ c ∈ s.capture, d.etlPath = c.etlPath ∧ d.suggestedFileName = c.fileName

theorem describes_idle {d : DiagnosticsTraceService} (hstate : d.state = .idle)
    (hstarted : d.startedAtEpoch = none) (hstopped : d.stoppedAtEpoch = none) : idle.Describes d :=
  ⟨hstate, hstarted, hstopped, by simp [TraceSession.capture]⟩

/-- The session after `Start`, by its result. -/
def afterStart (o : StartOutcome) (s : TraceSession) : Except ApiError Unit → TraceSession
  | .ok () => .recording o.capture
  | .error e =>
      if e.code = "channel_tune_failed" ∨ e.code = "trace_start_failed" then .idle else s

/-- The session after `Stop`. -/
def afterStop (now : ℤ) (s : TraceSession) : Except ApiError TraceStopResponse → TraceSession
  | .ok _ => s.stopped now
  | .error e => if e.code = "channel_tune_failed" then s.stopped now else s

/-- The session after `DiscardCapture`. -/
def afterDiscard (now : ℤ) (s : TraceSession) : Except ApiError Unit → TraceSession
  | .ok () => .idle
  | .error e =>
      if e.code = "channel_tune_failed" then s.kept now
      else if e.code = "capture_delete_failed" then s.stopped now
      else s

end TraceSession

/-! ### The service has the session that its results tell -/

open TraceSession

section Service

variable (getErrorMessageA : Win32Error → String)

/-- From the start of the trace session on. -/
theorem startTrace_describes (o : StartOutcome) {w : Watchdog} (h : idle.Describes w.service)
    (hpath : w.service.etlPath = o.capture.etlPath)
    (hname : w.service.suggestedFileName = o.capture.fileName) (s : TraceSession) :
    (s.afterStart o (w.startTrace getErrorMessageA o).1).Describes
      (w.startTrace getErrorMessageA o).2.service := by
  rw [Watchdog.startTrace]
  rcases w.service.trace.start o.trace w.service.scope with ⟨e | _, trace⟩
  · -- the trace has not started: the channels are restored if they have been tuned
    dsimp only
    split_ifs
    · rcases tuneScopeChannels w.service.scope true o.restore w.tuned with ⟨e' | _, tuned⟩
      · exact describes_idle h.state h.startedAt h.stoppedAt
      · exact describes_idle h.state rfl rfl
    · exact describes_idle h.state rfl rfl
  · refine ⟨rfl, rfl, rfl, fun c hc => ?_⟩
    obtain rfl : o.capture = c := by simpa [afterStart, capture] using hc
    exact ⟨hpath, hname⟩

/-- From the request on. -/
theorem startCapture_describes (req : TraceStartRequest) (o : StartOutcome) {w : Watchdog}
    (h : idle.Describes w.service) (s : TraceSession) :
    (s.afterStart o (w.startCapture getErrorMessageA req o).1).Describes
      (w.startCapture getErrorMessageA req o).2.service := by
  rw [Watchdog.startCapture]
  split_ifs
  · rcases tuneScopeChannels req.scope false o.tune w.tuned with ⟨e | _, tuned⟩
    · exact describes_idle h.state h.startedAt h.stoppedAt
    · refine startTrace_describes getErrorMessageA o ?_ rfl rfl s
      exact describes_idle h.state h.startedAt h.stoppedAt
  · refine startTrace_describes getErrorMessageA o ?_ rfl rfl s
    exact describes_idle h.state h.startedAt h.stoppedAt

theorem start_describes (req : TraceStartRequest) (o : StartOutcome) {s : TraceSession}
    {w : Watchdog} (h : s.Describes w.service) :
    (s.afterStart o (w.start getErrorMessageA req o).1).Describes
      (w.start getErrorMessageA req o).2.service := by
  rw [Watchdog.start]
  split_ifs with hrecording
  · exact h
  rw [Watchdog.dropPreviousCapture]
  split_ifs with hready hpath
  · -- the previous capture is given up, if its file can be removed
    rcases o.removePrevious with _ | ec
    · exact startCapture_describes getErrorMessageA req o (describes_idle rfl rfl rfl) s
    · exact h
  · exact startCapture_describes getErrorMessageA req o (describes_idle rfl rfl rfl) s
  · -- neither recording nor ready
    have hidle : s = idle := by
      have hstate := h.state
      rcases s with _ | c | ⟨c, t⟩
      · rfl
      · exact absurd hstate hrecording
      · exact absurd hstate hready
    subst hidle
    exact startCapture_describes getErrorMessageA req o h idle

theorem stop_describes (o : StopOutcome) {s : TraceSession} {w : Watchdog}
    (h : s.Describes w.service) :
    (s.afterStop o.nowEpochSeconds (w.stop getErrorMessageA o).1).Describes
      (w.stop getErrorMessageA o).2.service := by
  rw [Watchdog.stop]
  split_ifs with hrecording
  · exact h
  obtain ⟨c, rfl⟩ : ∃ c, s = recording c := by
    have hstate := h.state
    rw [not_not.mp hrecording] at hstate
    rcases s with _ | c | ⟨c, t⟩
    · cases hstate
    · exact ⟨c, rfl⟩
    · cases hstate
  rcases w.service.trace.stop o.controlTrace with ⟨e | _, trace⟩
  · exact ⟨h.state, h.startedAt, h.stoppedAt, h.capture⟩
  · dsimp only
    split_ifs
    · rcases tuneScopeChannels w.service.scope true o.restore w.tuned with ⟨e | _, tuned⟩
      · exact ⟨rfl, h.startedAt, rfl, h.capture⟩
      · exact ⟨rfl, h.startedAt, rfl, h.capture⟩
    · exact ⟨rfl, h.startedAt, rfl, h.capture⟩

/-- The last block of `DiscardCapture`, by the session that it finds. -/
theorem removeCapture_describes (removeFile : Option String) {s s' : TraceSession} {now : ℤ}
    {w : Watchdog} (h : s'.Describes w.service) (hs : s.stopped now = s') :
    (s.afterDiscard now (w.removeCapture removeFile).1).Describes
      (w.removeCapture removeFile).2.service := by
  rw [Watchdog.removeCapture]
  split
  · rw [← hs] at h
    exact h
  · exact describes_idle rfl rfl rfl

theorem discardCapture_describes (o : DiscardOutcome) {s : TraceSession} {w : Watchdog}
    (h : s.Describes w.service) :
    (s.afterDiscard o.nowEpochSeconds (w.discardCapture getErrorMessageA o).1).Describes
      (w.discardCapture getErrorMessageA o).2.service := by
  rw [Watchdog.discardCapture]
  rcases s with _ | c | ⟨c, t⟩
  · have hstate : w.service.state = .idle := h.state
    rw [if_neg (by simp [hstate]), if_neg (by simp [hstate])]
    exact removeCapture_describes o.removeFile h rfl
  · have hstate : w.service.state = .recording := h.state
    rw [if_pos hstate]
    rcases w.service.trace.stop o.controlTrace with ⟨e | _, trace⟩
    · exact ⟨h.state, h.startedAt, h.stoppedAt, h.capture⟩
    · -- the capture is ready before its file is removed
      have hready : ∀ tuned : Channel → Bool, (ready c o.nowEpochSeconds).Describes
          (⟨{ w.service with
              trace
              stoppedAtEpoch := some o.nowEpochSeconds
              state := .ready }, tuned⟩ : Watchdog).service :=
        fun _ => ⟨rfl, h.startedAt, rfl, h.capture⟩
      dsimp only
      split_ifs
      · rcases tuneScopeChannels w.service.scope true o.restore w.tuned with ⟨e | _, tuned⟩
        · exact hready tuned
        · exact removeCapture_describes o.removeFile (hready tuned) rfl
      · exact removeCapture_describes o.removeFile (hready w.tuned) rfl
  · have hstate : w.service.state = .ready := h.state
    rw [if_neg (by simp [hstate])]
    split_ifs
    · rcases tuneScopeChannels w.service.scope true o.restore w.tuned with ⟨e | _, tuned⟩
      · exact ⟨rfl, h.startedAt, rfl, h.capture⟩
      · exact removeCapture_describes o.removeFile (w := { w with tuned }) h rfl
    · exact removeCapture_describes o.removeFile h rfl

end Service

/-! ### Exchanges -/

/-- A request, with the outcomes of what it calls. -/
structure Exchange where
  request : HttpRequest
  outcome : RequestOutcome

/-- The reply to a request, and what the service is afterwards. -/
def Watchdog.exchange (parse : PocoParser) (getErrorMessageA : Win32Error → String) (w : Watchdog)
    (x : Exchange) : HttpResponse × Watchdog :=
  w.serveRequest parse getErrorMessageA x.request x.outcome

/-- The code in the object of an error. -/
def HttpResponse.errorCode (response : HttpResponse) : Option String :=
  match response.body with
  | .json members =>
      match members.lookup "error" with
      | some (.object err) =>
          match err.lookup "code" with
          | some (.string code) => some code
          | _ => none
      | _ => none
  | .file _ => none

@[simp] theorem errorCode_sendError (status : ℕ) (e : ApiError) :
    (sendError status e).errorCode = some e.code := rfl

@[simp] theorem status_sendError (status : ℕ) (e : ApiError) :
    (sendError status e).status = status := rfl

@[simp] theorem status_sendJson (status : ℕ) (members : List (String × ApiValue)) :
    (sendJson status members).status = status := rfl

namespace TraceSession

/-- What the reply to a request tells of the session. -/
def observe (s : TraceSession) (x : Exchange) (response : HttpResponse) : TraceSession :=
  match x.request.route with
  | some .postStart =>
      if response.status = 200 then .recording x.outcome.start.capture
      else if response.errorCode = some "channel_tune_failed" ∨
          response.errorCode = some "trace_start_failed" then .idle
      else s
  | some .postStop =>
      if response.status = 200 ∨ response.errorCode = some "channel_tune_failed" then
        s.stopped x.outcome.stop.nowEpochSeconds
      else s
  | some .delete =>
      if response.status = 200 then .idle
      else if response.errorCode = some "channel_tune_failed" then
        s.kept x.outcome.discard.nowEpochSeconds
      else if response.errorCode = some "capture_delete_failed" then
        s.stopped x.outcome.discard.nowEpochSeconds
      else s
  | _ => s

/-- What is reported of a session. `leftOver` is the file name of an idle service, if any. -/
def status (leftOver : Option String) (s : TraceSession) : TraceStatusResponse where
  state := s.state
  startedAtEpoch := s.capture.map Capture.startedAt
  stoppedAtEpoch := s.stoppedAt
  suggestedFileName := (s.capture.map Capture.fileName).or leftOver

/-- The reply to the request for the capture file. -/
def etl (fileExists opens : Bool) : TraceSession → HttpResponse
  | ready c _ =>
      if ¬fileExists then
        sendError 400 (makeApiError "missing_file" "Capture file is no longer on disk.")
      else if ¬opens then
        sendError 500 ⟨"open_failed", "Could not open capture file for reading.", none⟩
      else
        { status := 200
          contentType := "application/octet-stream"
          contentDisposition := some ("attachment; filename=\"" ++ c.fileName ++ "\"")
          body := .file c.etlPath }
  | _ => sendError 400 (makeApiError "not_ready"
      "Trace capture is not ready for download. Stop recording first.")

end TraceSession

/-- The reply to a request to stop that is met. -/
def Capture.stoppedReply (c : Capture) : HttpResponse :=
  sendJson 200 [("ok", .bool true), ("suggestedFileName", .string c.fileName),
    ("message", .string "Trace stopped; download the .etl file when ready.")]

section Exchanges

variable (parse : PocoParser) (getErrorMessageA : Win32Error → String)

/-- The service after an exchange, and the session that its reply tells. -/
def observeExchange (p : TraceSession × Watchdog) (x : Exchange) : TraceSession × Watchdog :=
  (p.1.observe x (p.2.exchange parse getErrorMessageA x).1,
    (p.2.exchange parse getErrorMessageA x).2)

/-- The service after exchanges from its start on, and the session that their replies tell. -/
def serveExchanges (xs : List Exchange) : TraceSession × Watchdog :=
  xs.foldl (observeExchange parse getErrorMessageA) (.idle, {})

theorem startErrorStatus_ne (code : String) : Watchdog.startErrorStatus code ≠ 200 := by
  rw [Watchdog.startErrorStatus]
  split_ifs <;> decide

/-- What a reply tells of the session is what the service makes of it. -/
theorem observe_describes {s : TraceSession} {w : Watchdog} (h : s.Describes w.service)
    (x : Exchange) :
    (s.observe x (w.exchange parse getErrorMessageA x).1).Describes
      (w.exchange parse getErrorMessageA x).2.service := by
  rw [Watchdog.exchange, serveRequest_eq, TraceSession.observe]
  rcases x.request.route with _ | ⟨_ | _ | _ | _ | _⟩
  · exact h
  · exact h
  · -- DELETE
    have hdiscard := discardCapture_describes getErrorMessageA x.outcome.discard h
    rcases hr : w.discardCapture getErrorMessageA x.outcome.discard with ⟨e | _, w'⟩
    · rw [hr] at hdiscard
      simpa [Watchdog.handleDelete, hr, TraceSession.afterDiscard] using hdiscard
    · rw [hr] at hdiscard
      simpa [Watchdog.handleDelete, hr, TraceSession.afterDiscard] using hdiscard
  · -- POST start
    have hpost := w.handlePostStart_cases parse getErrorMessageA x.request x.outcome.start
    by_cases hfits : x.request.Fits
    · rw [if_pos hfits, Watchdog.postStart] at hpost
      rcases hparse : parseStartBody parse x.request.stream with what | parsed
      · rw [hparse] at hpost
        simpa [hpost] using h
      · rw [hparse] at hpost
        have hstart := start_describes getErrorMessageA parsed x.outcome.start h
        rcases hr : w.start getErrorMessageA parsed x.outcome.start with ⟨e | _, w'⟩
        · rw [hr] at hstart
          simpa [hpost, hr, TraceSession.afterStart, startErrorStatus_ne] using hstart
        · rw [hr] at hstart
          simpa [hpost, hr, TraceSession.afterStart] using hstart
    · rw [if_neg hfits] at hpost
      simpa [hpost, payloadTooLarge] using h
  · -- POST stop
    have hstop := stop_describes getErrorMessageA x.outcome.stop h
    rcases hr : w.stop getErrorMessageA x.outcome.stop with ⟨e | stopped, w'⟩
    · have hstatus : (if e.code = "not_recording" then 400 else 500) ≠ 200 := by
        split_ifs <;> decide
      rw [hr] at hstop
      simpa [Watchdog.handlePostStop, hr, TraceSession.afterStop, hstatus] using hstop
    · rw [hr] at hstop
      simpa [Watchdog.handlePostStop, hr, TraceSession.afterStop] using hstop
  · exact h

/-- A start names its capture as `MakeUniqueEtlPath` does. -/
def StartOutcome.Named (o : StartOutcome) : Prop := ∃ st tick, o.fileName = etlFileName st tick

/-- The captures of a session have been started so. -/
def TraceSession.Named (s : TraceSession) : Prop :=
  ∀ c ∈ s.capture, ∃ o : StartOutcome, o.Named ∧ c = o.capture

/-- The capture of a session is that of an earlier one, unless it has just been started. -/
theorem capture_observe {s : TraceSession} {x : Exchange} {response : HttpResponse} {c : Capture}
    (h : c ∈ (s.observe x response).capture) : c ∈ s.capture ∨ c = x.outcome.start.capture := by
  have hstopped : ∀ now, (s.stopped now).capture = s.capture := by
    intro now
    cases s <;> rfl
  have hkept : ∀ now, (s.kept now).capture = s.capture := by
    intro now
    cases s <;> rfl
  rw [TraceSession.observe] at h
  split at h
  · split_ifs at h
    · exact .inr (by simpa [TraceSession.capture] using h.symm)
    · simp [TraceSession.capture] at h
    · exact .inl h
  · split_ifs at h
    · exact .inl (hstopped _ ▸ h)
    · exact .inl h
  · split_ifs at h
    · simp [TraceSession.capture] at h
    · exact .inl (hkept _ ▸ h)
    · exact .inl (hstopped _ ▸ h)
    · exact .inl h
  · exact .inl h

theorem named_observe {s : TraceSession} (h : s.Named) {x : Exchange}
    (hx : x.outcome.start.Named) (response : HttpResponse) : (s.observe x response).Named := by
  intro c hc
  rcases capture_observe hc with hc | rfl
  · exact h c hc
  · exact ⟨_, hx, rfl⟩

theorem StartOutcome.Named.pathFilename_eq {o : StartOutcome} (h : o.Named) :
    pathFilename o.capture.etlPath = o.capture.fileName := by
  obtain ⟨st, tick, hname⟩ := h
  rw [StartOutcome.capture, hname]
  exact pathFilename_etlFileName o.outputDirectory st tick

theorem StartOutcome.Named.fileName_ne {o : StartOutcome} (h : o.Named) :
    o.capture.fileName ≠ "" := by
  obtain ⟨st, tick, hname⟩ := h
  rw [StartOutcome.capture, hname]
  exact etlFileName_ne st tick

theorem etlPath_capture_ne (o : StartOutcome) : o.capture.etlPath ≠ "" := by
  simp [StartOutcome.capture]

/-- What is reported is the session. -/
theorem getStatus_eq {s : TraceSession} {w : Watchdog} (h : s.Describes w.service)
    (hnamed : s.Named) :
    w.getStatus = s.status
      (if w.service.suggestedFileName ≠ "" then some w.service.suggestedFileName else none) := by
  rw [Watchdog.getStatus, TraceSession.status, h.state, h.startedAt, h.stoppedAt]
  rcases hcapture : s.capture with _ | c
  · rfl
  · obtain ⟨o, ho, rfl⟩ := hnamed c hcapture
    rw [(h.capture _ hcapture).2, if_pos ho.fileName_ne]
    rfl

/-- What is offered for download is the capture of the session. -/
theorem handleGetEtl_eq (fileExists opens : Bool) {s : TraceSession} {w : Watchdog}
    (h : s.Describes w.service) (hnamed : s.Named) :
    w.handleGetEtl fileExists opens = s.etl fileExists opens := by
  rw [Watchdog.handleGetEtl, Watchdog.getEtlPathForDownload, h.state]
  rcases s with _ | c | ⟨c, t⟩
  · rfl
  · rfl
  · obtain ⟨o, ho, rfl⟩ := hnamed c rfl
    rw [if_neg (by simp [TraceSession.state]), (h.capture _ rfl).1,
      if_neg (etlPath_capture_ne o), TraceSession.etl]
    cases fileExists
    · rfl
    · cases opens
      · rfl
      · simp [Watchdog.sendEtl, ho.pathFilename_eq]

/-- Only a trace that is recorded is stopped, and the result has its file name. -/
theorem stop_ok {o : StopOutcome} {w w' : Watchdog} {stopped : TraceStopResponse}
    (h : w.stop getErrorMessageA o = (.ok stopped, w')) :
    w.service.state = .recording ∧ stopped =
      ⟨w.service.suggestedFileName, some "Trace stopped; download the .etl file when ready."⟩ := by
  rw [Watchdog.stop] at h
  split_ifs at h with hrecording
  · simp at h
  refine ⟨not_not.mp hrecording, ?_⟩
  rcases htrace : w.service.trace.stop o.controlTrace with ⟨e | _, trace⟩
  · simp [htrace] at h
  · rw [htrace] at h
    dsimp only at h
    split_ifs at h
    · rcases htuned : tuneScopeChannels w.service.scope true o.restore w.tuned with ⟨e | _, tuned⟩
      · simp [htuned, Watchdog.restoreFailed] at h
      · rw [htuned] at h
        simp only [Prod.mk.injEq, Except.ok.injEq] at h
        exact h.1.symm
    · simp only [Prod.mk.injEq, Except.ok.injEq] at h
      exact h.1.symm

/-- A stop that is met is one of the capture of the session. -/
theorem handlePostStop_met (o : StopOutcome) {s : TraceSession} {w : Watchdog}
    (h : s.Describes w.service) (hmet : (w.handlePostStop getErrorMessageA o).1.status = 200) :
    ∃ c, s = .recording c ∧ (w.handlePostStop getErrorMessageA o).1 = c.stoppedReply := by
  rw [Watchdog.handlePostStop] at hmet ⊢
  rcases hr : w.stop getErrorMessageA o with ⟨e | stopped, w'⟩
  · rw [hr] at hmet
    dsimp only at hmet
    split_ifs at hmet <;> simp at hmet
  · obtain ⟨hrecording, rfl⟩ := stop_ok getErrorMessageA hr
    rw [h.state] at hrecording
    rcases s with _ | c | ⟨c, t⟩
    · cases hrecording
    · refine ⟨c, rfl, ?_⟩
      dsimp only
      rw [(h.capture c rfl).2]
      rfl
    · cases hrecording

/-- The file name that the service has, if it has any, is one of these. -/
def Watchdog.NameIsOf (names : String → Prop) (w : Watchdog) : Prop :=
  w.service.suggestedFileName ≠ "" → names w.service.suggestedFileName

section NameIsOf

variable {names : String → Prop} {w : Watchdog}

theorem Watchdog.startTrace_nameIsOf (o : StartOutcome) (h : w.NameIsOf names) :
    (w.startTrace getErrorMessageA o).2.NameIsOf names := by
  rw [Watchdog.startTrace]
  rcases w.service.trace.start o.trace w.service.scope with ⟨e | _, trace⟩
  · dsimp only
    split_ifs
    · rcases tuneScopeChannels w.service.scope true o.restore w.tuned with ⟨e' | _, tuned⟩
      · exact h
      · exact fun hne => absurd rfl hne
    · exact fun hne => absurd rfl hne
  · exact h

/-- A start takes the name of its own file. -/
theorem Watchdog.start_nameIsOf (req : TraceStartRequest) {o : StartOutcome}
    (hname : names o.fileName) (h : w.NameIsOf names) :
    (w.start getErrorMessageA req o).2.NameIsOf names := by
  have hcapture : ∀ w' : Watchdog,
      (w'.startCapture getErrorMessageA req o).2.NameIsOf names := by
    intro w'
    rw [Watchdog.startCapture]
    split_ifs
    · rcases tuneScopeChannels req.scope false o.tune w'.tuned with ⟨e | _, tuned⟩
      · exact fun hne => absurd rfl hne
      · exact startTrace_nameIsOf getErrorMessageA o fun _ => hname
    · exact startTrace_nameIsOf getErrorMessageA o fun _ => hname
  rw [Watchdog.start]
  split_ifs
  · exact h
  · rcases dropPreviousCapture o.removePrevious w.service with e | s
    · exact h
    · exact hcapture _

theorem Watchdog.stop_nameIsOf (o : StopOutcome) (h : w.NameIsOf names) :
    (w.stop getErrorMessageA o).2.NameIsOf names := by
  rcases w.stop_cases getErrorMessageA o with ⟨heq, -⟩ | ⟨-, heq⟩
  · rw [heq]
    exact h
  · rw [heq]
    exact h

theorem Watchdog.removeCapture_nameIsOf (removeFile : Option String) (h : w.NameIsOf names) :
    (w.removeCapture removeFile).2.NameIsOf names := by
  rw [Watchdog.removeCapture]
  split
  · exact h
  · exact fun hne => absurd rfl hne

theorem Watchdog.discardCapture_nameIsOf (o : DiscardOutcome) (h : w.NameIsOf names) :
    (w.discardCapture getErrorMessageA o).2.NameIsOf names := by
  rw [Watchdog.discardCapture]
  split_ifs
  · rcases w.service.trace.stop o.controlTrace with ⟨e | _, trace⟩
    · exact h
    · dsimp only
      split_ifs
      · rcases tuneScopeChannels w.service.scope true o.restore w.tuned with ⟨e | _, tuned⟩
        · exact h
        · exact removeCapture_nameIsOf o.removeFile h
      · exact removeCapture_nameIsOf o.removeFile h
  · rcases tuneScopeChannels w.service.scope true o.restore w.tuned with ⟨e | _, tuned⟩
    · exact h
    · exact removeCapture_nameIsOf o.removeFile h
  · exact removeCapture_nameIsOf o.removeFile h

/-- **The name of the service** after an exchange is the one it had, or that of the start. -/
theorem Watchdog.exchange_nameIsOf {x : Exchange} (hname : names x.outcome.start.fileName)
    (h : w.NameIsOf names) : (w.exchange parse getErrorMessageA x).2.NameIsOf names := by
  rw [Watchdog.exchange, serveRequest_eq]
  rcases x.request.route with _ | ⟨_ | _ | _ | _ | _⟩
  · exact h
  · exact h
  · have hdiscard := discardCapture_nameIsOf getErrorMessageA x.outcome.discard h
    rcases hr : w.discardCapture getErrorMessageA x.outcome.discard with ⟨e | _, w'⟩
    · simpa [Watchdog.handleDelete, hr] using hdiscard
    · simpa [Watchdog.handleDelete, hr] using hdiscard
  · dsimp only
    rw [w.handlePostStart_cases parse getErrorMessageA x.request x.outcome.start]
    split_ifs
    · rw [Watchdog.postStart]
      rcases parseStartBody parse x.request.stream with what | parsed
      · exact h
      · have hstart := start_nameIsOf getErrorMessageA parsed hname h
        rcases hr : w.start getErrorMessageA parsed x.outcome.start with ⟨e | _, w'⟩
        · simpa [hr] using hstart
        · simpa [hr] using hstart
    · exact h
  · have hstop := stop_nameIsOf getErrorMessageA x.outcome.stop h
    rcases hr : w.stop getErrorMessageA x.outcome.stop with ⟨e | _, w'⟩
    · simpa [Watchdog.handlePostStop, hr] using hstop
    · simpa [Watchdog.handlePostStop, hr] using hstop
  · exact h

end NameIsOf

theorem serveExchanges_describes {xs : List Exchange}
    (hxs : ∀ x ∈ xs, x.outcome.start.Named) :
    (serveExchanges parse getErrorMessageA xs).1.Describes
        (serveExchanges parse getErrorMessageA xs).2.service ∧
      (serveExchanges parse getErrorMessageA xs).1.Named ∧
      (serveExchanges parse getErrorMessageA xs).2.NameIsOf
        fun name => ∃ x ∈ xs, name = x.outcome.start.fileName := by
  rw [serveExchanges]
  refine List.foldlRecOn (motive := fun p : TraceSession × Watchdog =>
    p.1.Describes p.2.service ∧ p.1.Named ∧ p.2.NameIsOf fun name =>
      ∃ x ∈ xs, name = x.outcome.start.fileName) xs _ ?_ fun p hp x hx => ?_
  · exact ⟨describes_idle rfl rfl rfl, by simp [TraceSession.Named, TraceSession.capture],
      fun hne => absurd rfl hne⟩
  · obtain ⟨hdescribes, hnamed, hname⟩ := hp
    dsimp only [observeExchange]
    exact ⟨observe_describes parse getErrorMessageA hdescribes x, named_observe hnamed (hxs x hx) _,
      Watchdog.exchange_nameIsOf parse getErrorMessageA ⟨x, hx, rfl⟩ hname⟩

/-- **The replies tell the trace**: whatever the calls of the service come to, each reply on the
status, each download and each stop that is met is about the session that the replies before it
tell: its state, and the times, the file and the name that its start and its stop have come to. If
there is a name on the status without a session, it is that of an earlier start. -/
theorem replies_describe {xs : List Exchange} (hxs : ∀ x ∈ xs, x.outcome.start.Named)
    (x : Exchange) :
    let p := serveExchanges parse getErrorMessageA xs
    let reply := (p.2.exchange parse getErrorMessageA x).1
    (x.request.route = some .getStatus → ∃ leftOver : Option String,
        (∀ name ∈ leftOver, ∃ y ∈ xs, name = y.outcome.start.fileName) ∧
          reply = sendJson 200 (writeStatusJson (p.1.status leftOver))) ∧
      (x.request.route = some .getEtl →
        reply = p.1.etl x.outcome.fileExists x.outcome.opens) ∧
      (x.request.route = some .postStop → reply.status = 200 →
        ∃ c, p.1 = .recording c ∧ reply = c.stoppedReply) := by
  obtain ⟨hdescribes, hnamed, hname⟩ := serveExchanges_describes parse getErrorMessageA hxs
  dsimp only [Watchdog.exchange]
  rw [serveRequest_eq]
  refine ⟨fun hroute => ?_, fun hroute => ?_, fun hroute => ?_⟩
  · rw [hroute]
    refine ⟨_, ?_, by rw [Watchdog.handleGetStatus, getStatus_eq hdescribes hnamed]⟩
    intro name hleft
    obtain ⟨hne, hleft⟩ := Option.ite_none_right_eq_some.mp hleft
    obtain rfl := Option.some.inj hleft
    exact hname hne
  · rw [hroute]
    exact handleGetEtl_eq _ _ hdescribes hnamed
  · rw [hroute]
    exact handlePostStop_met getErrorMessageA x.outcome.stop hdescribes

end Exchanges

/-- A start with the channels left alone, whose calls succeed. -/
def startExchange : Exchange where
  request :=
    { method := "POST"
      path := "/api/v1/diagnostics/trace/start"
      contentLength := 0 }
  outcome :=
    { start :=
        { removePrevious := none
          outputDirectory := "C:\\ProgramData\\Nefarius\\HidHide\\ETW"
          fileName := etlFileName ⟨2024, 5, 17, 9, 30, 0⟩ 0x1000
          tune := fun _ => .ok ()
          trace :=
            { fillProps := ⟨0, 0⟩
              startTrace := .started ⟨1, traceHandle_one_ne⟩
              tryStopStaleOurSession := false
              refillProps := ⟨0, 0⟩
              restartTrace := .started ⟨1, traceHandle_one_ne⟩
              enableTrace := fun _ => errorSuccess
              controlTrace := errorSuccess }
          restore := fun _ => .ok ()
          nowEpochSeconds := 1715938200 }
      stop := ⟨errorSuccess, fun _ => .ok (), 1715938260⟩
      discard := ⟨errorSuccess, fun _ => .ok (), 1715938320, none⟩
      fileExists := true
      opens := true }

/-- The request to stop, with the same outcomes. -/
def stopExchange : Exchange where
  request := { method := "POST", path := "/api/v1/diagnostics/trace/stop/" }
  outcome := startExchange.outcome

theorem startExchange_named : startExchange.outcome.start.Named := ⟨_, _, rfl⟩

theorem replies_describe_startStop :
    let p := serveExchanges (fun _ => .ok none) (fun _ => "") [startExchange]
    let reply := (p.2.exchange (fun _ => .ok none) (fun _ => "") stopExchange).1
    reply.status = 200 → ∃ c, p.1 = .recording c ∧ reply = c.stoppedReply :=
  (@replies_describe (fun _ => .ok none) (fun _ => "") [startExchange]
    (by simp [startExchange_named]) stopExchange).2.2 (by decide)

/-! ### Replies when no call fails -/

/-- Each call that a start of the trace session makes succeeds. A stale session may be in the
way, if it can be stopped. -/
structure EtwStartOutcome.Succeeds (o : EtwStartOutcome) : Prop where
  fillProps : EtwTraceSession.fillProps o.fillProps = .ok ()
  started : o.TraceStarted
  enableTrace : ∀ g, o.enableTrace g = errorSuccess

/-- Each call of the service succeeds. -/
structure RequestOutcome.Succeeds (o : RequestOutcome) : Prop where
  removePrevious : o.start.removePrevious = none
  tune : ∀ channel, o.start.tune channel = .ok ()
  trace : o.start.trace.Succeeds
  stop : o.stop.controlTrace = errorSuccess
  restoreOnStop : ∀ channel, o.stop.restore channel = .ok ()
  stopOnDiscard : o.discard.controlTrace = errorSuccess
  restoreOnDiscard : ∀ channel, o.discard.restore channel = .ok ()
  removeFile : o.discard.removeFile = none

/-- The reply to a request to start, with a body that can be read. -/
def TraceSession.respondStart (o : StartOutcome) : TraceSession → HttpResponse × TraceSession
  | .recording c =>
      (sendError 409 (makeApiError "recording_in_progress"
        "A trace recording is already in progress."), .recording c)
  | _ =>
      (sendJson 200 [("ok", .bool true), ("message", .string "Recording started.")],
        .recording o.capture)

/-- The reply to a request to stop. -/
def TraceSession.respondStop (now : ℤ) : TraceSession → HttpResponse × TraceSession
  | .recording c => (c.stoppedReply, .ready c now)
  | s => (sendError 400 (makeApiError "not_recording" "No trace recording is active."), s)

/-- The interface of a session. -/
def TraceSession.respond (parse : PocoParser) (s : TraceSession) (x : Exchange) :
    HttpResponse × TraceSession :=
  match x.request.route with
  | some .getStatus => (sendJson 200 (writeStatusJson (s.status none)), s)
  | some .delete =>
      (sendJson 200 [("ok", .bool true), ("message", .string "Capture discarded.")], .idle)
  | some .postStart =>
      if ¬x.request.Fits then (sendError 413 payloadTooLarge, s)
      else
        match parseStartBody parse x.request.stream with
        | .error what => (sendError 400 ⟨"bad_request", "Invalid JSON: " ++ what, none⟩, s)
        | .ok _ => s.respondStart x.outcome.start
  | some .postStop => s.respondStop x.outcome.stop.nowEpochSeconds
  | some .getEtl => (s.etl x.outcome.fileExists x.outcome.opens, s)
  | none => (x.request.unknownRoute, s)

theorem tuneScopeChannels_of_succeeds (scope : TraceScope) (restore : Bool) {o : ChannelOutcomes}
    (h : ∀ channel, o channel = .ok ()) (tuned : Channel → Bool) :
    ∃ tuned', tuneScopeChannels scope restore o tuned = (.ok (), tuned') := by
  rcases invokeTunes_cases restore o tuned (scopeChannels scope) with
    ⟨-, heq⟩ | ⟨_, channel, _, e, _, _, hfails, _⟩
  · exact ⟨_, heq⟩
  · rw [h channel] at hfails
    cases hfails

theorem EtwTraceSession.start_of_succeeds {o : EtwStartOutcome} (h : o.Succeeds)
    (scope : TraceScope) : ∃ trace, EtwTraceSession.start o scope ⟨0⟩ = (.ok (), trace) := by
  rw [EtwTraceSession.start, if_neg (by simp), h.fillProps]
  rcases EtwTraceSession.startTrace_handle o ⟨0⟩ with ⟨-, handle, hne, heq⟩ | ⟨hnot, -⟩
  · rcases EtwTraceSession.enableProviders_handle o ⟨handle⟩ hne
      (EtwTraceSession.providersForScope scope) with ⟨-, hall⟩ | ⟨⟨g, -, hfails⟩, -⟩
    · exact ⟨⟨handle⟩, by rw [heq]; exact hall⟩
    · exact absurd (h.enableTrace g) hfails
  · exact absurd h.started hnot

section Succeeds

variable (getErrorMessageA : Win32Error → String) {o : RequestOutcome} (h : o.Succeeds)
include h

theorem start_of_succeeds (req : TraceStartRequest) {w : Watchdog}
    (hstate : w.service.state ≠ .recording) (htrace : w.service.trace = ⟨0⟩) :
    (w.start getErrorMessageA req o.start).1 = .ok () := by
  have hproceeds : w.Proceeds o.start := ⟨hstate, fun _ _ => h.removePrevious⟩
  rcases Watchdog.start_cases getErrorMessageA req o.start w with ⟨hnot, -⟩ | ⟨-, s, -, hs, heq⟩
  · exact absurd hproceeds hnot
  rw [heq, Watchdog.startCapture]
  obtain ⟨trace, hstart⟩ := EtwTraceSession.start_of_succeeds h.trace req.scope
  rw [← htrace, ← hs] at hstart
  obtain ⟨tuned, htune⟩ := tuneScopeChannels_of_succeeds req.scope false h.tune w.tuned
  dsimp only
  split_ifs
  · simp only [htune, Watchdog.startTrace, hstart]
  · simp only [Watchdog.startTrace, hstart]

theorem stop_of_succeeds {w : Watchdog} (hstate : w.service.state = .recording) :
    (w.stop getErrorMessageA o.stop).1 =
        .ok ⟨w.service.suggestedFileName,
          some "Trace stopped; download the .etl file when ready."⟩ ∧
      (w.stop getErrorMessageA o.stop).2.service.trace = ⟨0⟩ := by
  obtain ⟨tuned, htune⟩ :=
    tuneScopeChannels_of_succeeds w.service.scope true h.restoreOnStop w.tuned
  rw [Watchdog.stop, if_neg (not_not.mpr hstate), h.stop, EtwTraceSession.stop_of_success]
  dsimp only
  split_ifs
  · simp only [htune, and_self]
  · exact ⟨rfl, rfl⟩

theorem removeCapture_of_succeeds (w : Watchdog) :
    (w.removeCapture o.discard.removeFile).1 = .ok () ∧
      (w.removeCapture o.discard.removeFile).2.service.trace = w.service.trace ∧
      (w.removeCapture o.discard.removeFile).2.service.suggestedFileName = "" := by
  rw [Watchdog.removeCapture, h.removeFile]
  simp only [ite_self, and_self]

theorem discardCapture_of_succeeds {w : Watchdog}
    (htrace : w.service.state ≠ .recording → w.service.trace = ⟨0⟩) :
    (w.discardCapture getErrorMessageA o.discard).1 = .ok () ∧
      (w.discardCapture getErrorMessageA o.discard).2.service.trace = ⟨0⟩ ∧
      (w.discardCapture getErrorMessageA o.discard).2.service.suggestedFileName = "" := by
  obtain ⟨tuned, htune⟩ :=
    tuneScopeChannels_of_succeeds w.service.scope true h.restoreOnDiscard w.tuned
  rw [Watchdog.discardCapture, h.stopOnDiscard, EtwTraceSession.stop_of_success]
  dsimp only
  by_cases hstate : w.service.state = .recording
  · rw [if_pos hstate]
    split_ifs
    · rw [htune]
      exact removeCapture_of_succeeds h _
    · exact removeCapture_of_succeeds h _
  · rw [if_neg hstate]
    split_ifs
    · rw [htune]
      have hremove := removeCapture_of_succeeds h { w with tuned }
      exact ⟨hremove.1, hremove.2.1.trans (htrace hstate), hremove.2.2⟩
    · have hremove := removeCapture_of_succeeds h w
      exact ⟨hremove.1, hremove.2.1.trans (htrace hstate), hremove.2.2⟩

end Succeeds

/-- The service has a session while no call fails: nothing is left over from another one. -/
structure TraceSession.Holds (s : TraceSession) (w : Watchdog) : Prop where
  describes : s.Describes w.service
  named : s.Named
  trace : w.service.state ≠ .recording → w.service.trace = ⟨0⟩
  leftOver : s = .idle → w.service.suggestedFileName = ""

namespace TraceSession.Holds

variable {s : TraceSession} {w : Watchdog} (h : s.Holds w)
include h

theorem getStatus : w.getStatus = s.status none := by
  rw [getStatus_eq h.describes h.named]
  rcases s with _ | c | ⟨c, t⟩
  · rw [if_neg (not_not.mpr (h.leftOver rfl))]
  · rfl
  · rfl

variable (getErrorMessageA : Win32Error → String) {o : RequestOutcome} (ho : o.Succeeds)
include ho

/-- Nothing but a recording keeps a trace from being started. -/
theorem start (req : TraceStartRequest) (hnamed : o.start.Named)
    (hstate : w.service.state ≠ .recording) :
    (w.start getErrorMessageA req o.start).1 = .ok () ∧
      (TraceSession.recording o.start.capture).Holds
        (w.start getErrorMessageA req o.start).2 := by
  have hok := start_of_succeeds getErrorMessageA ho req hstate (h.trace hstate)
  have hdescribes := start_describes getErrorMessageA req o.start h.describes
  rw [hok] at hdescribes
  have hrecording := hdescribes.state
  refine ⟨hok, hdescribes, fun c hc => ⟨o.start, hnamed, ?_⟩, ?_, ?_⟩
  · simpa [afterStart, capture] using hc.symm
  · exact fun hne => absurd hrecording hne
  · simp

theorem postStart (parse : PocoParser) {body : List UInt8} {req : TraceStartRequest}
    (hbody : parseStartBody parse body = .ok req) (hnamed : o.start.Named) :
    (w.postStart parse getErrorMessageA body o.start).1 = (s.respondStart o.start).1 ∧
      (s.respondStart o.start).2.Holds (w.postStart parse getErrorMessageA body o.start).2 := by
  rw [Watchdog.postStart, hbody]
  dsimp only
  by_cases hstate : w.service.state = .recording
  · have hrefused : w.start getErrorMessageA req o.start =
        (.error (makeApiError "recording_in_progress"
          "A trace recording is already in progress."), w) := by
      rw [Watchdog.start, if_pos hstate]
    rw [h.describes.state] at hstate
    rw [hrefused]
    rcases s with _ | c | ⟨c, t⟩
    · cases hstate
    · exact ⟨rfl, h⟩
    · cases hstate
  · obtain ⟨hok, hrecording⟩ := h.start getErrorMessageA ho req hnamed hstate
    have hrespond : s.respondStart o.start =
        (sendJson 200 [("ok", .bool true), ("message", .string "Recording started.")],
          .recording o.start.capture) := by
      rcases s with _ | c | ⟨c, t⟩
      · rfl
      · exact absurd h.describes.state hstate
      · rfl
    rw [hok, hrespond]
    exact ⟨rfl, hrecording⟩

theorem postStop :
    (w.handlePostStop getErrorMessageA o.stop).1 =
        (s.respondStop o.stop.nowEpochSeconds).1 ∧
      (s.respondStop o.stop.nowEpochSeconds).2.Holds
        (w.handlePostStop getErrorMessageA o.stop).2 := by
  rw [Watchdog.handlePostStop]
  by_cases hstate : w.service.state = .recording
  · obtain ⟨hok, htrace⟩ := stop_of_succeeds getErrorMessageA ho hstate
    have hdescribes := stop_describes getErrorMessageA o.stop h.describes
    rw [hok] at hdescribes
    rw [h.describes.state] at hstate
    rcases s with _ | c | ⟨c, t⟩
    · cases hstate
    · rw [hok, (h.describes.capture c rfl).2]
      exact ⟨rfl, hdescribes, h.named, fun _ => htrace, by simp [respondStop]⟩
    · cases hstate
  · have hrespond : s.respondStop o.stop.nowEpochSeconds =
        (sendError 400 (makeApiError "not_recording" "No trace recording is active."), s) := by
      rcases s with _ | c | ⟨c, t⟩
      · rfl
      · exact absurd h.describes.state hstate
      · rfl
    rw [Watchdog.stop, if_pos hstate, hrespond]
    exact ⟨rfl, h⟩

theorem discard :
    (w.discardCapture getErrorMessageA o.discard).1 = .ok () ∧
      TraceSession.idle.Holds (w.discardCapture getErrorMessageA o.discard).2 := by
  obtain ⟨hok, htrace, hname⟩ := discardCapture_of_succeeds getErrorMessageA ho h.trace
  have hdescribes := discardCapture_describes getErrorMessageA o.discard h.describes
  rw [hok] at hdescribes
  exact ⟨hok, hdescribes, by simp [TraceSession.Named, capture], fun _ => htrace, fun _ => hname⟩

end TraceSession.Holds

/-- One request. -/
theorem exchange_eq_respond (parse : PocoParser) (getErrorMessageA : Win32Error → String)
    {s : TraceSession} {w : Watchdog} (h : s.Holds w) {x : Exchange} (ho : x.outcome.Succeeds)
    (hnamed : x.outcome.start.Named) :
    (w.exchange parse getErrorMessageA x).1 = (s.respond parse x).1 ∧
      (s.respond parse x).2.Holds (w.exchange parse getErrorMessageA x).2 := by
  rw [Watchdog.exchange, serveRequest_eq, TraceSession.respond]
  rcases x.request.route with _ | ⟨_ | _ | _ | _ | _⟩
  · exact ⟨rfl, h⟩
  · exact ⟨by rw [Watchdog.handleGetStatus, h.getStatus], h⟩
  · obtain ⟨hok, hidle⟩ := h.discard getErrorMessageA ho
    dsimp only [Watchdog.handleDelete]
    rw [hok]
    exact ⟨rfl, hidle⟩
  · dsimp only
    rw [w.handlePostStart_cases parse getErrorMessageA x.request x.outcome.start]
    by_cases hfits : x.request.Fits
    · rw [if_pos hfits, if_neg (not_not.mpr hfits)]
      rcases hbody : parseStartBody parse x.request.stream with what | req
      · rw [Watchdog.postStart, hbody]
        exact ⟨rfl, h⟩
      · exact h.postStart getErrorMessageA ho parse hbody hnamed
    · rw [if_neg hfits, if_pos hfits]
      exact ⟨rfl, h⟩
  · exact h.postStop getErrorMessageA ho
  · exact ⟨handleGetEtl_eq _ _ h.describes h.named, h⟩

/-- **The interface of a session**: while no call of the service fails, its replies to any requests
are those of a session. In particular no request is refused but a start of a recording, a stop or a
download of nothing that is recorded or ready, and a body that is too large or no JSON. -/
theorem replies_eq_respond (parse : PocoParser) (getErrorMessageA : Win32Error → String)
    {xs : List Exchange} (hxs : ∀ x ∈ xs, x.outcome.Succeeds ∧ x.outcome.start.Named) :
    Machine.replies (Watchdog.exchange parse getErrorMessageA) {} xs =
      Machine.replies (TraceSession.respond parse) .idle xs := by
  refine Machine.replies_eq_of_simulation (R := fun w s => s.Holds w)
    (fun w s x h hx => exchange_eq_respond parse getErrorMessageA h hx.1 hx.2) ?_ hxs
  exact ⟨describes_idle rfl rfl rfl, by simp [TraceSession.Named, TraceSession.capture],
    fun _ => rfl, fun _ => rfl⟩

theorem startExchange_succeeds : startExchange.outcome.Succeeds where
  removePrevious := rfl
  tune := fun _ => rfl
  trace := ⟨by decide, trivial, fun _ => rfl⟩
  stop := rfl
  restoreOnStop := fun _ => rfl
  stopOnDiscard := rfl
  restoreOnDiscard := fun _ => rfl
  removeFile := rfl

theorem replies_eq_respond_startStop :
    Machine.replies (Watchdog.exchange (fun _ => .ok none) fun _ => "") {}
        [startExchange, stopExchange] =
      [sendJson 200 [("ok", .bool true), ("message", .string "Recording started.")],
        startExchange.outcome.start.capture.stoppedReply] := by
  rw [replies_eq_respond (fun _ => .ok none) (fun _ => "") (by
    simp [stopExchange, startExchange_succeeds, startExchange_named])]
  rfl

end HidHide
