import HidHide.Watchdog.DiagnosticsTraceService

/-!
# The channels that are tuned

The service remembers in its members which channels it has to restore. `Stop` and `DiscardCapture`
keep account of all channels that are tuned. A start loses the account of those that an earlier call
has left tuned, as it overwrites the members, and of those that it cannot restore itself
(`accountsForTuned_iff_along`).
-/

namespace HidHide

/-- The service accounts for each channel that is tuned: a later `Stop` or `DiscardCapture` will try
to restore it. -/
def AccountsForTuned (w : Watchdog) : Prop :=
  ∀ channel, w.tuned channel →
    channel ∈ scopeChannels w.service.scope ∧ w.service.didTuneChannels ∧ w.service.tuneChannels ∧
      (w.service.state = .recording ∨ w.service.state = .ready)

/-- The start leaves no channel tuned that the service does not account for afterwards. -/
def Watchdog.StartAccounts (w : Watchdog) (req : TraceStartRequest) (o : StartOutcome) : Prop :=
  -- the channels that are tuned already are within the new scope, if that is tuned at all
  (∀ channel, w.tuned channel → req.tuneChannels ∧ channel ∈ scopeChannels req.scope) ∧
    (req.tuneChannels →
      -- the first channel cannot be tuned, and none is
      ((∃ channel e, (scopeChannels req.scope).head? = some channel ∧ o.tune channel = .error e) ∧
          ∀ channel, ¬w.tuned channel) ∨
        -- all channels are tuned, and restored if the trace does not start
        (∀ channel ∈ scopeChannels req.scope, o.tune channel = .ok ()) ∧
          ((w.service.trace.start o.trace req.scope).1 = .ok () ∨
            ∀ channel ∈ scopeChannels req.scope, o.restore channel = .ok ()))

/-- A start that gets past its guards accounts for the channels. -/
def ServiceCall.Accounts (w : Watchdog) : ServiceCall → Prop
  | .start req o => w.Proceeds o → w.StartAccounts req o
  | _ => True

/-- An idle service that accounts for the channels has left none tuned. -/
theorem AccountsForTuned.not_tuned_of_idle {w : Watchdog} (h : AccountsForTuned w)
    (hidle : w.service.state = .idle) (channel : Channel) : ¬w.tuned channel := by
  intro hchannel
  obtain ⟨-, -, -, hrecording | hready⟩ := h channel hchannel
  · simp [hidle] at hrecording
  · simp [hidle] at hready

variable (getErrorMessageA : Win32Error → String)

namespace Watchdog

/-! ### Restoring -/

/-- Restoring tunes no channel. -/
theorem tuned_of_restored {restore : ChannelOutcomes} {w : Watchdog} {channel : Channel}
    (h : (w.restored restore).2 channel) : w.tuned channel := by
  rw [restored] at h
  split_ifs at h
  · rw [tuneScopeChannels] at h
    rcases invokeTunes_cases true restore w.tuned (scopeChannels w.service.scope) with
      ⟨-, heq⟩ | ⟨before, _, _, _, _, _, _, heq⟩ <;> rw [heq] at h
    · simp only [Bool.not_true, Bool.if_false_left, Bool.and_eq_true] at h
      exact h.2
    · simp only [Bool.not_true, Bool.if_false_left, Bool.and_eq_true] at h
      exact h.2
  · exact h

/-- A service that accounts for the channels leaves none tuned when it restores them all. -/
theorem not_tuned_of_restored {restore : ChannelOutcomes} {w : Watchdog} (h : AccountsForTuned w)
    (hok : (w.restored restore).1 = .ok ()) (channel : Channel) :
    ¬(w.restored restore).2 channel := by
  intro hchannel
  obtain ⟨hscope, hdid, htune, -⟩ := h channel (tuned_of_restored hchannel)
  rw [restored, if_pos ⟨hdid, htune⟩, tuneScopeChannels] at hok hchannel
  rcases invokeTunes_cases true restore w.tuned (scopeChannels w.service.scope) with
    ⟨-, heq⟩ | ⟨before, _, _, _, _, _, _, heq⟩
  · rw [heq] at hchannel
    simp [hscope] at hchannel
  · simp [heq] at hok

/-- What the service accounts for when it is idle, or with its members as they were. -/
theorem accountsForTuned_restored {restore : ChannelOutcomes} {w : Watchdog}
    (h : AccountsForTuned w) {s : DiagnosticsTraceService}
    (hs : s.state = .ready ∧ s.scope = w.service.scope ∧
        s.didTuneChannels = w.service.didTuneChannels ∧ s.tuneChannels = w.service.tuneChannels ∨
      (w.restored restore).1 = .ok ()) : AccountsForTuned ⟨s, (w.restored restore).2⟩ := by
  intro channel hchannel
  rcases hs with ⟨hready, hscope, hdid, htune⟩ | hok
  · obtain ⟨h1, h2, h3, -⟩ := h channel (tuned_of_restored hchannel)
    exact ⟨by rwa [hscope], by rwa [hdid], by rwa [htune], .inr hready⟩
  · exact absurd hchannel (not_tuned_of_restored h hok channel)

theorem accountsForTuned_stop (o : StopOutcome) {w : Watchdog} (h : AccountsForTuned w) :
    AccountsForTuned (w.stop getErrorMessageA o).2 := by
  rcases w.stop_cases getErrorMessageA o with ⟨heq, -⟩ | ⟨-, heq⟩
  · rwa [heq]
  · rw [heq]
    exact accountsForTuned_restored h (.inl ⟨rfl, rfl, rfl, rfl⟩)

theorem accountsForTuned_discardCapture (o : DiscardOutcome) {w : Watchdog}
    (h : AccountsForTuned w) : AccountsForTuned (w.discardCapture getErrorMessageA o).2 := by
  rcases w.discardCapture_cases getErrorMessageA o with ⟨heq, -⟩ | ⟨s, -, hcases⟩
  · rwa [heq]
  rcases hcases with ⟨-, hidle, heq⟩ | ⟨-, heq, hready | ⟨-, hok⟩⟩ <;> rw [heq]
  · -- an idle service has none tuned
    intro channel hchannel
    exact absurd hchannel (h.not_tuned_of_idle hidle channel)
  · exact accountsForTuned_restored h (.inl hready)
  · exact accountsForTuned_restored h (.inr hok)

/-! ### Starting -/

/-- A service that has not tuned channels accounts for none. -/
theorem accountsForTuned_iff_of_didTuneChannels_eq_false {w : Watchdog}
    (h : w.service.didTuneChannels = false) :
    AccountsForTuned w ↔ ∀ channel, ¬w.tuned channel := by
  refine ⟨fun haccounts channel hchannel => ?_, fun hnone channel hchannel => ?_⟩
  · simpa [h] using (haccounts channel hchannel).2.1
  · exact absurd hchannel (hnone channel)

/-- From the start of the trace session on, a service that has not tuned the channels. -/
theorem startTrace_accounts_iff_of_not_tuned (o : StartOutcome) {w : Watchdog}
    (hdid : w.service.didTuneChannels = false) :
    AccountsForTuned (startTrace getErrorMessageA o w).2 ↔ ∀ channel, ¬w.tuned channel := by
  rcases startTrace_cases getErrorMessageA o w with
    ⟨s, -, -, -, -, hs, heq⟩ | ⟨s, e, -, -, ⟨-, hs, heq⟩ | ⟨htuned, -⟩ | ⟨htuned, -⟩⟩
  · rw [heq, accountsForTuned_iff_of_didTuneChannels_eq_false (hs.trans hdid)]
  · rw [heq, accountsForTuned_iff_of_didTuneChannels_eq_false hs]
  · simp [hdid] at htuned
  · simp [hdid] at htuned

/-- From the start of the trace session on, an idle service that has tuned the channels. -/
theorem startTrace_accounts_iff_of_tuned (o : StartOutcome) {s : DiagnosticsTraceService}
    (hidle : s.state = .idle) (hdid : s.didTuneChannels = true) (htune : s.tuneChannels = true)
    (tuned : Channel → Bool) :
    AccountsForTuned (startTrace getErrorMessageA o
        ⟨s, fun x => if x ∈ scopeChannels s.scope then true else tuned x⟩).2 ↔
      (∀ channel, tuned channel → channel ∈ scopeChannels s.scope) ∧
        ((s.trace.start o.trace s.scope).1 = .ok () ∨
          ∀ channel ∈ scopeChannels s.scope, o.restore channel = .ok ()) := by
  rcases startTrace_cases getErrorMessageA o
    ⟨s, fun x => if x ∈ scopeChannels s.scope then true else tuned x⟩ with
    ⟨s', hrecording, hstart, hscope, htune', hdid', heq⟩ | ⟨s', e, hstate, hstart, hcases⟩
  · -- recording, the service accounts for the channels of its scope
    have hstarted : (s.trace.start o.trace s.scope).1 = .ok () := by rw [hstart]
    rw [heq, and_iff_left (.inl hstarted), AccountsForTuned]
    refine forall_congr' fun channel => ?_
    by_cases hchannel : channel ∈ scopeChannels s.scope
    · simp [hchannel, hrecording, hscope, htune', hdid', hdid, htune]
    · simp [hchannel, hscope]
  have hfailed : ¬(s.trace.start o.trace s.scope).1 = .ok () := by rw [hstart]; simp
  rcases hcases with ⟨hnot, -⟩ | ⟨-, hs', hall, heq⟩ |
    ⟨-, before, channel, after, e', hchannels, hbefore, hfails, heq⟩
  · simp [hdid] at hnot
  · rw [heq, accountsForTuned_iff_of_didTuneChannels_eq_false hs', and_iff_left (.inr hall)]
    refine forall_congr' fun channel => ?_
    by_cases hchannel : channel ∈ scopeChannels s.scope <;> simp [hchannel]
  · -- the channel that cannot be restored is tuned, and the service is idle
    have hmem : channel ∈ scopeChannels s.scope := by simp [hchannels]
    have hnot : channel ∉ before := fun h => by simpa [hfails] using hbefore channel h
    refine iff_of_false (fun h => ?_) fun h => ?_
    · rw [heq] at h
      refine h.not_tuned_of_idle (hstate.trans hidle) channel ?_
      simp [hnot, hmem]
    · simpa [hfails] using h.2.resolve_left hfailed channel hmem

/-- From the request on, an idle service accounts for the channels exactly as `StartAccounts`
says. -/
theorem startCapture_accounts_iff (req : TraceStartRequest) (o : StartOutcome) {w : Watchdog}
    (hidle : w.service.state = .idle) :
    AccountsForTuned (startCapture getErrorMessageA req o w).2 ↔ w.StartAccounts req o := by
  obtain ⟨s, hstate, htrace, hscope, htune, hcases⟩ := startCapture_cases getErrorMessageA req o w
  rw [hidle] at hstate
  rw [StartAccounts]
  rcases hcases with ⟨hreq, hdid, heq⟩ | ⟨hreq, hdid, hall, heq⟩ |
    ⟨hreq, hdid, before, channel, after, e, hchannels, hbefore, hfails, heq⟩
  · rw [heq, startTrace_accounts_iff_of_not_tuned getErrorMessageA o hdid]
    simp [hreq]
  · rw [heq, ← hscope]
    rw [startTrace_accounts_iff_of_tuned getErrorMessageA o hstate hdid (htune.trans hreq), htrace,
      hscope]
    -- the first channel is tuned with the others
    have hhead : ¬∃ channel e, (scopeChannels req.scope).head? = some channel ∧
        o.tune channel = .error e := by
      rintro ⟨channel, e, hchannel, hfails⟩
      simpa [hfails] using hall channel (List.mem_of_mem_head? hchannel)
    simp only [hreq, true_and, forall_const]
    refine and_congr_right fun _ => ?_
    rw [or_iff_right (not_and_of_not_left _ hhead), and_iff_right hall]
  · rw [heq, accountsForTuned_iff_of_didTuneChannels_eq_false hdid]
    have hnotall : ¬∀ channel ∈ scopeChannels req.scope, o.tune channel = .ok () := by
      intro hall
      simpa [hfails] using hall channel (by simp [hchannels])
    constructor
    · intro hnone
      -- no channel has been tuned before the one that fails
      obtain rfl : before = [] := by
        refine List.eq_nil_iff_forall_not_mem.mpr fun x hx => hnone x ?_
        simp [hx]
      have hnone' : ∀ channel, ¬w.tuned channel := by simpa using hnone
      refine ⟨fun channel hchannel => absurd hchannel (hnone' channel), fun _ => .inl ⟨?_, hnone'⟩⟩
      exact ⟨channel, e, by simp [hchannels], hfails⟩
    · rintro ⟨-, h⟩
      rcases h hreq with ⟨⟨first, e', hfirst, hfails'⟩, hnone⟩ | ⟨hall, -⟩
      · obtain rfl : before = [] := by
          refine List.eq_nil_iff_forall_not_mem.mpr fun x hx => ?_
          obtain ⟨b, before, rfl⟩ := List.exists_cons_of_ne_nil (List.ne_nil_of_mem hx)
          obtain rfl : b = first := by simpa [hchannels] using hfirst
          simpa [hfails'] using hbefore b List.mem_cons_self
        simpa using hnone
      · exact absurd hall hnotall

theorem start_accounts_iff (req : TraceStartRequest) (o : StartOutcome) {w : Watchdog}
    (h : AccountsForTuned w) :
    AccountsForTuned (w.start getErrorMessageA req o).2 ↔
      (w.Proceeds o → w.StartAccounts req o) := by
  rcases w.start_cases getErrorMessageA req o with
    ⟨hrefused, heq⟩ | ⟨hproceeds, s, hidle, htrace, heq⟩
  · rw [heq]
    exact iff_of_true h fun hproceeds => absurd hproceeds hrefused
  · rw [heq, startCapture_accounts_iff getErrorMessageA req o (w := ⟨s, w.tuned⟩) hidle,
      forall_prop_of_true hproceeds, StartAccounts, StartAccounts, htrace]

end Watchdog

/-! ### Runs -/

/-- Each call keeps account of the channels exactly when it is not a start that loses it. -/
theorem accountsForTuned_perform_iff {w : Watchdog} (call : ServiceCall) (h : AccountsForTuned w) :
    call.Accounts w ↔ AccountsForTuned (w.perform getErrorMessageA call) := by
  cases call with
  | start req o => exact (Watchdog.start_accounts_iff getErrorMessageA req o h).symm
  | stop o => exact iff_of_true trivial (Watchdog.accountsForTuned_stop getErrorMessageA o h)
  | getStatus => exact iff_of_true trivial h
  | getEtlPathForDownload fileExists => exact iff_of_true trivial h
  | discardCapture o =>
    exact iff_of_true trivial (Watchdog.accountsForTuned_discardCapture getErrorMessageA o h)

/-- **No channel stays tuned unnoticed** in a run exactly when each of its starts that gets past its
guards accounts for the channels: those tuned before are in the scope that it tunes, and either its
first channel cannot be tuned and none was before, or all can be tuned, and be restored if the trace
does not start. -/
theorem accountsForTuned_iff_along (calls : List ServiceCall) :
    (∀ done, done <+: calls →
        AccountsForTuned (done.foldl (Watchdog.perform getErrorMessageA) {})) ↔
      Machine.Along (fun w call => some (Watchdog.perform getErrorMessageA w call))
        (fun w call => call.Accounts w) {} calls := by
  refine Machine.forall_prefix_iff_along_total (P := AccountsForTuned) ?_ ?_ calls
  · intro w call h
    exact accountsForTuned_perform_iff getErrorMessageA call h
  · intro channel hchannel
    exact absurd hchannel (by simp)

/-- A start that tunes the first channel of its scope and fails on the second. -/
def startHalfTuned : ServiceCall :=
  .start {}
    { removePrevious := none
      outputDirectory := "C:\\ProgramData\\Nefarius\\HidHide\\ETW"
      fileName := "HidHide-trace.etl"
      tune := fun channel =>
        if channel = .driver then .ok () else .error ⟨5, "EvtOpenChannelConfig"⟩
      trace :=
        { fillProps := ⟨0, 0⟩
          startTrace := .started ⟨1, traceHandle_one_ne⟩
          tryStopStaleOurSession := false
          refillProps := ⟨0, 0⟩
          restartTrace := .started ⟨1, traceHandle_one_ne⟩
          enableTrace := fun _ => errorSuccess
          controlTrace := errorSuccess }
      restore := fun _ => .ok ()
      nowEpochSeconds := 0 }

/-- Then the first channel is tuned, and the service is idle. -/
theorem startHalfTuned_unaccounted :
    ¬AccountsForTuned ([startHalfTuned].foldl (Watchdog.perform Win32Error.context) {}) := by
  intro h
  have hidle : ([startHalfTuned].foldl
      (Watchdog.perform Win32Error.context) {}).service.state = .idle := rfl
  exact h.not_tuned_of_idle hidle .driver rfl

end HidHide
