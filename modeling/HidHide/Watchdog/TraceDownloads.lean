import HidHide.Watchdog.TraceSessions

/-!
# Downloads while other requests are served

The server has several threads. The calls of the service exclude one another, but `HandleGetEtl`
opens the capture file after its call, so that the capture may be discarded and another one be
started in between. The file that is opened is then gone, or it is not the one that is recorded:
this holds exactly as long as no capture is started with the file of a download that is still to
open it (`sparesRecording_iff_along`). Names that tell the time and the tick see to that.
-/

namespace HidHide

/-- The service, and for each thread the path that `HandleGetEtl` has been given and is still to
open. -/
structure DiagnosticsServer where
  watchdog : Watchdog := {}
  downloads : ℕ → Option String := fun _ => none

/-- What a thread does at once: it serves a request, or one part of a download. -/
inductive ServerEvent where
  | exchange (x : Exchange)
  | getEtlPath (thread : ℕ) (fileExists : Bool)
  | openEtl (thread : ℕ)

namespace DiagnosticsServer

variable (parse : PocoParser) (getErrorMessageA : Win32Error → String)

/-- The server after an event. -/
def serve (s : DiagnosticsServer) : ServerEvent → DiagnosticsServer
  | .exchange x => { s with watchdog := (s.watchdog.exchange parse getErrorMessageA x).2 }
  | .getEtlPath thread fileExists =>
      match s.watchdog.getEtlPathForDownload fileExists with
      | .error _ => s
      | .ok path => { s with downloads := Function.update s.downloads thread (some path) }
  | .openEtl thread => { s with downloads := Function.update s.downloads thread none }

/-- The file that is recorded is not one that a download is still to open. -/
def SparesRecording (s : DiagnosticsServer) : Prop :=
  s.watchdog.service.state = .recording →
    ∀ thread, s.downloads thread ≠ some s.watchdog.service.etlPath

/-- The event starts no capture with a file that a download is still to open. -/
def StartsApart (s : DiagnosticsServer) : ServerEvent → Prop
  | .exchange x =>
      x.request.route = some .postStart →
        (s.watchdog.exchange parse getErrorMessageA x).1.status = 200 →
          ∀ thread, s.downloads thread ≠ some x.outcome.start.capture.etlPath
  | _ => True

end DiagnosticsServer

/-! ### One event -/

/-- What is recorded after a request has been recorded before, unless it has just been started. -/
theorem observe_recording {s : TraceSession} {x : Exchange} {response : HttpResponse} {c : Capture}
    (hnot : ¬(x.request.route = some .postStart ∧ response.status = 200))
    (h : s.observe x response = .recording c) : s = .recording c := by
  have hstopped : ∀ now, s.stopped now ≠ .recording c := by
    intro now
    cases s <;> simp [TraceSession.stopped]
  have hkept : ∀ now, s.kept now ≠ .recording c := by
    intro now
    cases s <;> simp [TraceSession.kept]
  rw [TraceSession.observe] at h
  split at h
  · rename_i hroute
    rw [if_neg fun hstatus => hnot ⟨hroute, hstatus⟩] at h
    split_ifs at h
    · exact h
  · split_ifs at h
    · exact absurd h (hstopped _)
    · exact h
  · split_ifs at h
    · exact absurd h (hkept _)
    · exact absurd h (hstopped _)
    · exact h
  · exact h

namespace DiagnosticsServer

variable (parse : PocoParser) (getErrorMessageA : Win32Error → String)

/-- The service has a session. -/
def HasSession (s : DiagnosticsServer) : Prop :=
  ∃ session : TraceSession, session.Describes s.watchdog.service

theorem hasSession_serve {s : DiagnosticsServer} (h : s.HasSession) (e : ServerEvent) :
    (s.serve parse getErrorMessageA e).HasSession := by
  obtain ⟨session, hsession⟩ := h
  cases e with
  | exchange x =>
    rw [serve, HasSession]
    dsimp only
    exact ⟨_, observe_describes parse getErrorMessageA hsession x⟩
  | getEtlPath thread fileExists =>
    refine ⟨session, ?_⟩
    rw [serve]
    split <;> exact hsession
  | openEtl thread => exact ⟨session, hsession⟩

/-- A request keeps the recording apart from the downloads exactly when it does not start it with
the file of one. -/
theorem sparesRecording_exchange {s : DiagnosticsServer} (hsession : s.HasSession)
    (h : s.SparesRecording) (x : Exchange) :
    s.StartsApart parse getErrorMessageA (.exchange x) ↔
      (s.serve parse getErrorMessageA (.exchange x)).SparesRecording := by
  obtain ⟨session, hsession⟩ := hsession
  have hdescribes := observe_describes parse getErrorMessageA hsession x
  rw [StartsApart, serve]
  rcases hr : s.watchdog.exchange parse getErrorMessageA x with ⟨reply, w⟩
  rw [hr] at hdescribes
  dsimp only at hdescribes ⊢
  by_cases hstarts : x.request.route = some .postStart ∧ reply.status = 200
  · -- the capture that is started is what is recorded
    have hobserve : session.observe x reply = .recording x.outcome.start.capture := by
      rw [TraceSession.observe, hstarts.1]
      exact if_pos hstarts.2
    rw [hobserve] at hdescribes
    have hpath : w.service.etlPath = x.outcome.start.capture.etlPath :=
      (hdescribes.capture _ rfl).1
    rw [← hpath]
    constructor
    · exact fun happ _ => happ hstarts.1 hstarts.2
    · exact fun hspares _ _ => hspares hdescribes.state
  · refine iff_of_true (fun hroute hstatus => absurd ⟨hroute, hstatus⟩ hstarts) ?_
    intro hrecording
    obtain ⟨c, hc⟩ : ∃ c, session.observe x reply = .recording c := by
      have hstate : (session.observe x reply).state = .recording :=
        hdescribes.state.symm.trans hrecording
      rcases hobserve : session.observe x reply with _ | c | ⟨c, t⟩
      · rw [hobserve] at hstate
        cases hstate
      · exact ⟨c, rfl⟩
      · rw [hobserve] at hstate
        cases hstate
    obtain rfl := observe_recording hstarts hc
    rw [hc] at hdescribes
    have hpath : w.service.etlPath = s.watchdog.service.etlPath :=
      (hdescribes.capture c rfl).1.trans (hsession.capture c rfl).1.symm
    dsimp only
    rw [hpath]
    exact h hsession.state

/-- Each event keeps the recording apart from the downloads exactly when it does not start it with
the file of one. -/
theorem sparesRecording_serve {s : DiagnosticsServer} (hsession : s.HasSession)
    (h : s.SparesRecording) (e : ServerEvent) :
    s.StartsApart parse getErrorMessageA e ↔
      (s.serve parse getErrorMessageA e).SparesRecording := by
  cases e with
  | exchange x => exact sparesRecording_exchange parse getErrorMessageA hsession h x
  | getEtlPath thread fileExists =>
    refine iff_of_true trivial ?_
    rw [serve, Watchdog.getEtlPathForDownload]
    -- only a capture that is ready is given away
    by_cases hready : s.watchdog.service.state = .ready
    · have hnot : ∀ t : DiagnosticsServer, t.watchdog = s.watchdog → t.SparesRecording := by
        intro t ht hrecording
        rw [ht, hready] at hrecording
        cases hrecording
      split <;> exact hnot _ rfl
    · rw [if_pos hready]
      exact h
  | openEtl thread =>
    refine iff_of_true trivial fun hrecording thread' => ?_
    rw [serve]
    dsimp only
    by_cases hthread : thread' = thread
    · simp [hthread]
    · rw [Function.update_of_ne hthread]
      exact h hrecording thread'

/-! ### Runs -/

/-- **Downloads spare the recording**: however the requests overlap, and whatever the calls of the
service come to, no download is to open a file that is being recorded, exactly if no capture is
started with a file that a download is still to open. -/
theorem sparesRecording_iff_along (events : List ServerEvent) :
    (∀ done, done <+: events → (done.foldl (serve parse getErrorMessageA) {}).SparesRecording) ↔
      Machine.Along (fun s e => some (s.serve parse getErrorMessageA e))
        (StartsApart parse getErrorMessageA) {} events := by
  have hinit : ({} : DiagnosticsServer).HasSession :=
    ⟨.idle, TraceSession.describes_idle rfl rfl rfl⟩
  have hsession : ∀ done : List ServerEvent,
      (done.foldl (serve parse getErrorMessageA) {}).HasSession := fun done =>
    List.foldlRecOn done _ hinit fun s hs e _ => hasSession_serve parse getErrorMessageA hs e
  have hboth := Machine.forall_prefix_iff_along_total (f := serve parse getErrorMessageA)
    (P := fun s => s.HasSession ∧ s.SparesRecording) (C := StartsApart parse getErrorMessageA)
    (fun s e h => (sparesRecording_serve parse getErrorMessageA h.1 h.2 e).trans
      (and_iff_right (hasSession_serve parse getErrorMessageA h.1 e)).symm)
    ⟨hinit, fun h => by cases h⟩ events
  rw [← hboth]
  exact forall_congr' fun done => forall_congr' fun _ => (and_iff_right (hsession done)).symm

end DiagnosticsServer

end HidHide
