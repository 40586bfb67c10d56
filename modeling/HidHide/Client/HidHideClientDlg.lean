import HidHide.Client.BlacklistPage
import HidHide.Client.WhitelistDlg

/-!
# The main dialog

`CHidHideClientDlg`: two pages that share a proxy in write-through mode. An event reaches one of the
pages, which calls the proxy, and an exception is the end of the client. The device is any that
answers the requests of the proxy.

The pages do not get in each other's way: in each run, each page changes its own list as it says
(`whitelist_of_run`, `blacklist_of_run`). On a driver amid its traffic, the settings of the proxy
are in force after each event, and the driver keeps to them when the client is gone
(`settings_of_run_in_force`).
-/

namespace HidHide

/-- What is not said of the controls: where the list box puts a string, whether the tree control
notifies the changes of the handler, what else it keeps in the state of an item, and how it compares
texts. `strCmpLogical` is `StrCmpLogicalW`. -/
structure Controls where
  position : ListBox WString → WString → ℕ
  notifies : Bool
  otherState : TreeItem → UInt32
  textLe : WString → WString → Bool
  strCmpLogical : WString → WString → Bool

/-- The states of an item are among those that the handler knows. -/
def Controls.Relates (controls : Controls) : Prop :=
  ∀ hItem checked, relatesToChange (itemState (controls.otherState hItem) (!checked))
    (itemState (controls.otherState hItem) checked)

/-- `CHidHideClientDlg`, with the device behind the proxy. -/
structure HidHideClientDlg (δ : Type*) where
  blacklistDlg : BlacklistPage := {}
  whitelistDlg : WhitelistDlg := {}
  filterDriverProxy : Proxy
  device : δ

/-- What reaches either page. -/
inductive HidHideClientDlgEvent where
  | blacklist (e : BlacklistPageEvent)
  | whitelist (e : WhitelistDlgEvent)

namespace HidHideClientDlg

variable {δ : Type*} {controls : Controls} {io : DeviceRequests δ}
  {dlg dlg' : HidHideClientDlg δ}

/-- An event is handled by its page: what becomes of that, and what is called of the proxy. -/
def handle (controls : Controls) (dlg : HidHideClientDlg δ) :
    HidHideClientDlgEvent → Option (HidHideClientDlg δ × List Proxy.Call)
  | .blacklist e =>
      (dlg.blacklistDlg.step controls.notifies controls.otherState controls.textLe
        controls.strCmpLogical dlg.filterDriverProxy e).map fun r =>
          ({ dlg with blacklistDlg := r.1 }, r.2)
  | .whitelist e =>
      (dlg.whitelistDlg.step controls.position dlg.filterDriverProxy e).map fun r =>
        ({ dlg with whitelistDlg := r.1 }, r.2)

/-- The dialog after an event. -/
def step (controls : Controls) (io : DeviceRequests δ) (dlg : HidHideClientDlg δ)
    (e : HidHideClientDlgEvent) : Option (HidHideClientDlg δ) :=
  (dlg.handle controls e).bind fun r =>
    (Proxy.calls io (dlg.filterDriverProxy, dlg.device) r.2).map fun p =>
      { r.1 with filterDriverProxy := p.1, device := p.2 }

/-- An event is handled, and the proxy is called. -/
theorem step_eq_some {e : HidHideClientDlgEvent} (h : dlg.step controls io e = some dlg') :
    ∃ r, dlg.handle controls e = some r ∧ dlg'.blacklistDlg = r.1.blacklistDlg ∧
      dlg'.whitelistDlg = r.1.whitelistDlg ∧
      Proxy.calls io (dlg.filterDriverProxy, dlg.device) r.2 =
        some (dlg'.filterDriverProxy, dlg'.device) ∧
      dlg'.filterDriverProxy = r.2.foldl Proxy.after dlg.filterDriverProxy := by
  obtain ⟨r, hr, h⟩ := Option.bind_eq_some_iff.mp h
  obtain ⟨p, hp, rfl⟩ := Option.map_eq_some_iff.mp h
  exact ⟨r, hr, rfl, rfl, hp, Proxy.proxy_calls hp⟩

end HidHideClientDlg

/-! ### What the pages call -/

/-- The page of devices has nothing to do with the whitelist. -/
theorem BlacklistPage.whitelist_step {controls : Controls} {proxy : Proxy} {page : BlacklistPage}
    {e : BlacklistPageEvent} {r : BlacklistPage × List Proxy.Call}
    (h : page.step controls.notifies controls.otherState controls.textLe controls.strCmpLogical
      proxy e = some r) : (r.2.foldl Proxy.after proxy).whitelist = proxy.whitelist := by
  refine Proxy.whitelist_foldl_after (fun call hcall => ?_) proxy
  cases e with
  | showWindow | deviceInterfaceArrival =>
    obtain rfl := Option.some.inj h
    cases hcall
  | refresh devNodes api =>
    rw [step] at h
    split_ifs at h
    obtain ⟨all, -, rfl⟩ := Option.map_eq_some_iff.mp h
    cases hcall
  | click hItem =>
    rw [step] at h
    split_ifs at h
    obtain ⟨old, -, h⟩ := Option.bind_eq_some_iff.mp h
    obtain ⟨dlg, -, rfl⟩ := Option.map_eq_some_iff.mp h
    obtain ⟨paths, -, rfl⟩ := List.mem_map.mp hcall
    rfl
  | checkFilter checked | checkGaming checked =>
    rw [step] at h
    split_ifs at h
    obtain rfl := Option.some.inj h
    cases hcall
  | checkEnable checked =>
    rw [step] at h
    split_ifs at h
    obtain rfl := Option.some.inj h
    obtain rfl := List.mem_singleton.mp hcall
    rfl

/-- The page of applications has nothing to do with the blacklist. -/
theorem WhitelistDlg.blacklist_step {position : ListBox WString → WString → ℕ} {proxy : Proxy}
    {dlg : WhitelistDlg} {e : WhitelistDlgEvent} {r : WhitelistDlg × List Proxy.Call}
    (h : dlg.step position proxy e = some r) :
    (r.2.foldl Proxy.after proxy).blacklist = proxy.blacklist := by
  refine Proxy.blacklist_foldl_after (fun call hcall => ?_) proxy
  cases e with
  | showWindow =>
    obtain rfl := Option.some.inj h
    cases hcall
  | refresh env =>
    rw [step] at h
    split_ifs at h
    obtain ⟨dlg', -, rfl⟩ := Option.map_eq_some_iff.mp h
    cases hcall
  | insert env file =>
    rw [step] at h
    split_ifs at h
    cases file with
    | none =>
      obtain rfl := Option.some.inj h
      cases hcall
    | some file =>
      obtain ⟨fullImageName, -, rfl⟩ := Option.map_eq_some_iff.mp h
      split_ifs at hcall
      · cases hcall
      · obtain rfl := List.mem_singleton.mp hcall
        rfl
  | delete =>
    rw [step] at h
    split_ifs at h
    obtain ⟨listBox, -, rfl⟩ := Option.map_eq_some_iff.mp h
    obtain rfl := List.mem_singleton.mp hcall
    rfl
  | dragEnter env fileNames =>
    obtain ⟨dlg', -, rfl⟩ := Option.map_eq_some_iff.mp h
    cases hcall
  | drop mousePointerAtWhitelist =>
    obtain rfl := Option.some.inj h
    rw [onDropEx] at hcall
    split_ifs at hcall with hempty
    · cases hcall
    · dsimp only at hcall
      split_ifs at hcall
      · obtain rfl := List.mem_singleton.mp hcall
        rfl
      · cases hcall
  | checkInverse checked =>
    rw [step] at h
    split_ifs at h
    obtain rfl := Option.some.inj h
    obtain rfl := List.mem_singleton.mp hcall
    rfl
  | select index selected =>
    rw [step] at h
    split_ifs at h
    obtain rfl := Option.some.inj h
    cases hcall

/-! ### Runs -/

namespace HidHideClientDlg

variable {δ : Type*} {controls : Controls} {io : DeviceRequests δ}
  {dlg dlg' : HidHideClientDlg δ}

/-- What an event makes of the whitelist. -/
def WhitelistActs (dlg : HidHideClientDlg δ) (e : HidHideClientDlgEvent)
    (dlg' : HidHideClientDlg δ) : Prop :=
  match e with
  | .whitelist e => dlg.whitelistDlg.Acts dlg.filterDriverProxy.whitelist e
      dlg'.filterDriverProxy.whitelist dlg'.whitelistDlg
  | .blacklist _ => dlg'.filterDriverProxy.whitelist = dlg.filterDriverProxy.whitelist ∧
      dlg'.whitelistDlg = dlg.whitelistDlg

/-- What an event makes of the blacklist. -/
def BlacklistActs (controls : Controls) (dlg : HidHideClientDlg δ) (e : HidHideClientDlgEvent)
    (dlg' : HidHideClientDlg δ) : Prop :=
  match e with
  | .blacklist e => dlg.blacklistDlg.Acts controls.notifies controls.strCmpLogical
      dlg.filterDriverProxy.blacklist e dlg'.filterDriverProxy.blacklist dlg'.blacklistDlg
  | .whitelist _ => dlg'.filterDriverProxy.blacklist = dlg.filterDriverProxy.blacklist ∧
      dlg'.blacklistDlg = dlg.blacklistDlg

/-- **One event**, on the page of applications. -/
theorem step_whitelist (h : dlg.whitelistDlg.Shows dlg.filterDriverProxy.whitelist)
    {e : HidHideClientDlgEvent} (hstep : dlg.step controls io e = some dlg') :
    dlg'.whitelistDlg.Shows dlg'.filterDriverProxy.whitelist ∧ dlg.WhitelistActs e dlg' := by
  obtain ⟨r, hr, -, hwhitelist, -, hproxy⟩ := step_eq_some hstep
  cases e with
  | blacklist e =>
    obtain ⟨r, hpage, rfl⟩ := Option.map_eq_some_iff.mp hr
    have hsame := BlacklistPage.whitelist_step hpage
    rw [← hproxy] at hsame
    rw [hwhitelist, hsame]
    exact ⟨h, hsame, hwhitelist⟩
  | whitelist e =>
    obtain ⟨r, hpage, rfl⟩ := Option.map_eq_some_iff.mp hr
    obtain ⟨hshows, hacts⟩ := WhitelistDlg.step_leaves controls.position h hpage
    rw [← hproxy] at hshows hacts
    rw [hwhitelist]
    refine ⟨hshows, ?_⟩
    rw [WhitelistActs, hwhitelist]
    exact hacts

/-- **One event**, on the page of devices. -/
theorem step_blacklist (hrelates : controls.Relates)
    (h : BlacklistPage.WellMarked dlg.blacklistDlg.blacklist) {e : HidHideClientDlgEvent}
    (hstep : dlg.step controls io e = some dlg') :
    BlacklistPage.WellMarked dlg'.blacklistDlg.blacklist ∧ dlg.BlacklistActs controls e dlg' := by
  obtain ⟨r, hr, hblacklist, -, -, hproxy⟩ := step_eq_some hstep
  cases e with
  | blacklist e =>
    obtain ⟨r, hpage, rfl⟩ := Option.map_eq_some_iff.mp hr
    obtain ⟨hmarked, hacts⟩ := BlacklistPage.step_leaves hrelates h hpage
    rw [← hproxy] at hacts
    rw [hblacklist]
    refine ⟨hmarked, ?_⟩
    rw [BlacklistActs, hblacklist]
    exact hacts
  | whitelist e =>
    obtain ⟨r, hpage, rfl⟩ := Option.map_eq_some_iff.mp hr
    have hsame := WhitelistDlg.blacklist_step hpage
    rw [← hproxy] at hsame
    rw [hblacklist]
    exact ⟨h, hsame, hblacklist⟩

/-- **The page of applications** loses nothing: in each run of the client, however its list box is
sorted, each action adds the names that it says or takes away the entries that are selected, and
nothing else changes the whitelist. Of files that are dragged in, the names of all are dropped, or
none. When the page takes input, its list box shows the whitelist. -/
theorem whitelist_of_run {proxy : Proxy} {device : δ} {events : List HidHideClientDlgEvent}
    {e : HidHideClientDlgEvent}
    (hrun : Machine.run (step controls io) { filterDriverProxy := proxy, device } events =
      some dlg) (hstep : dlg.step controls io e = some dlg') :
    dlg.whitelistDlg.Shows dlg.filterDriverProxy.whitelist ∧ dlg.WhitelistActs e dlg' := by
  have hshows : dlg.whitelistDlg.Shows dlg.filterDriverProxy.whitelist := Machine.run_invariant
    (fun _ _ _ hs hnext => (step_whitelist hs hnext).1) (fun hnot => by cases hnot) hrun
  exact ⟨hshows, (step_whitelist hshows hstep).2⟩

/-- Controls that notify no changes of the handler. -/
def stillControls : Controls where
  position _ _ := 0
  notifies := false
  otherState _ := 0
  textLe a b := decide (a ≤ b)
  strCmpLogical a b := decide (a = b)

/-- A proxy that lists one application. -/
def whitelistsOne : Proxy where
  writeThrough := true
  active := true
  inverse := false
  blacklist := ∅
  whitelist := (∅ : OrderedSet pathLt).emplace [0x41]

/-- Its file is missing, so that deleting takes it away. -/
theorem whitelist_of_run_deletesMissing :
    ∃ dlg dlg' : HidHideClientDlg ConfigurationStore,
      Machine.run (step stillControls storeRequests)
          { filterDriverProxy := whitelistsOne, device := firstStore }
          [.whitelist (.refresh bareEnvironment)] = some dlg ∧
        dlg.step stillControls storeRequests (.whitelist .delete) = some dlg' ∧
        dlg'.filterDriverProxy.whitelist.toList = [] := by
  obtain ⟨dlg, hrun⟩ : ∃ dlg, Machine.run (step stillControls storeRequests)
      { filterDriverProxy := whitelistsOne, device := firstStore }
      [.whitelist (.refresh bareEnvironment)] = some dlg := ⟨_, rfl⟩
  obtain rfl : _ = dlg := Option.some.inj hrun
  obtain ⟨dlg', hstep⟩ : ∃ dlg', step stillControls storeRequests
      { whitelistDlg := { whitelist := [([0x41], true)], refreshPosted := false }
        filterDriverProxy := whitelistsOne, device := firstStore } (.whitelist .delete) =
          some dlg' := ⟨_, rfl⟩
  refine ⟨_, dlg', rfl, hstep, ?_⟩
  exact (whitelist_of_run hrun hstep).2

/-- **The page of devices**: in each run of the client, whatever devices come and go, a group is
checked exactly when all of its devices are. A refresh shows all devices that are hidden, and checks
them; a click changes the marks of its group only, as `clickedMarks` says, and leaves the proxy with
the list that the marks stand for; nothing else changes the blacklist. -/
theorem blacklist_of_run (hrelates : controls.Relates) {proxy : Proxy} {device : δ}
    {events : List HidHideClientDlgEvent} {e : HidHideClientDlgEvent}
    (hrun : Machine.run (step controls io) { filterDriverProxy := proxy, device } events =
      some dlg) (hstep : dlg.step controls io e = some dlg') :
    MarksConsistent dlg.blacklistDlg.blacklist ∧ dlg.BlacklistActs controls e dlg' := by
  have hmarked : BlacklistPage.WellMarked dlg.blacklistDlg.blacklist := Machine.run_invariant
    (fun _ _ _ hs hnext => (step_blacklist hrelates hs hnext).1)
    ⟨fun _ hitem => absurd hitem List.not_mem_nil, fun _ hitem => absurd hitem List.not_mem_nil⟩
    hrun
  exact ⟨hmarked.consistent, (step_blacklist hrelates hmarked hstep).2⟩

/-- The client after a refresh of the page of devices with the filters off. -/
def showsPad (text : WString) : HidHideClientDlg ConfigurationStore where
  blacklistDlg :=
    { blacklist := shownPad text, filter := false, gaming := false, refreshPosted := false }
  filterDriverProxy := whitelistsOne
  device := firstStore

/-- With the filters off, a pad is shown, and a click on it hides its base container. -/
theorem blacklist_of_run_padHidden :
    ∃ dlg dlg' : HidHideClientDlg ConfigurationStore,
      Machine.run (step stillControls storeRequests)
          { filterDriverProxy := whitelistsOne, device := firstStore }
          [.blacklist (.refresh purePad quietApi), .blacklist (.checkGaming false),
            .blacklist (.refresh purePad quietApi), .blacklist (.checkFilter false),
            .blacklist (.refresh purePad quietApi)] = some dlg ∧
        dlg.step stillControls storeRequests (.blacklist (.click (.group 0))) = some dlg' ∧
        [0x50] ∈ dlg'.filterDriverProxy.blacklist := by
  obtain ⟨all, text, hall, hrefresh⟩ := refresh_pad enumerateDevices_purePad
  have hfill : ∀ dlg : HidHideClientDlg ConfigurationStore,
      dlg.blacklistDlg.refreshPosted = true →
      dlg.step stillControls storeRequests (.blacklist (.refresh purePad quietApi)) =
        some { dlg with blacklistDlg := { dlg.blacklistDlg with
          blacklist := onUserMessageRefresh dlg.filterDriverProxy.blacklist
            (fun a b => decide (a ≤ b)) dlg.blacklistDlg.gaming dlg.blacklistDlg.filter all.toList
          refreshPosted := false } } := by
    intro dlg hposted
    rw [step, handle, BlacklistPage.step, if_pos hposted]
    change ((((purePad.hidDevices quietApi (fun a b => decide (a = b)) false).map _).map _).bind
      _) = _
    rw [hall]
    rfl
  have hrun : Machine.run (step stillControls storeRequests)
      { filterDriverProxy := whitelistsOne, device := firstStore }
      [.blacklist (.refresh purePad quietApi), .blacklist (.checkGaming false),
        .blacklist (.refresh purePad quietApi), .blacklist (.checkFilter false),
        .blacklist (.refresh purePad quietApi)] = some (showsPad text) := by
    rw [Machine.run_cons, hfill _ rfl, Option.bind_some, Machine.run_cons]
    change (Machine.run _ _ _) = _
    rw [Machine.run_cons, hfill _ rfl, Option.bind_some, Machine.run_cons]
    change (Machine.run _ _ _) = _
    rw [Machine.run_cons, hfill _ rfl, Option.bind_some, Machine.run_nil, showsPad, ← hrefresh]
    rfl
  obtain ⟨dlg', hstep, htree⟩ : ∃ dlg', (showsPad text).step stillControls storeRequests
      (.blacklist (.click (.group 0))) = some dlg' ∧
        dlg'.blacklistDlg.blacklist = (checkedPad text).blacklist := by
    have hclick : HidHide.click stillControls.notifies stillControls.otherState 3
        ⟨(showsPad text).blacklistDlg.blacklist, []⟩ (!false) (.group 0) =
          some (checkedPad text) := click_pad text
    have hmark : markOf (showsPad text).blacklistDlg.blacklist (.group 0) = some false := rfl
    obtain ⟨p, hcalls⟩ : ∃ p, Proxy.calls storeRequests (whitelistsOne, firstStore)
        [.setBlacklist (buildBlacklist (checkedPad text).blacklist)] = some p := ⟨_, rfl⟩
    refine ⟨{ showsPad text with
      blacklistDlg := { (showsPad text).blacklistDlg with blacklist := (checkedPad text).blacklist }
      filterDriverProxy := p.1, device := p.2 }, ?_, rfl⟩
    rw [step, handle, BlacklistPage.step, if_neg (by simp [showsPad]), hmark, Option.bind_some,
      hclick, Option.map_some, Option.map_some, Option.bind_some]
    exact congrArg (Option.map _) hcalls
  have hrelates : stillControls.Relates := fun _ =>
    (by decide : ∀ checked, relatesToChange (itemState 0 (!checked)) (itemState 0 checked))
  refine ⟨_, dlg', hrun, hstep, ?_⟩
  obtain ⟨-, -, -, hlist⟩ := blacklist_of_run hrelates hrun hstep
  rw [htree] at hlist
  refine (hlist [0x50]).mpr ⟨_, List.mem_cons_self, .inr ⟨⟨padDevice 0x41, true⟩, rfl, ?_, ?_, rfl⟩⟩
  · simp
  · exact (by decide : baseContainerCanBeBlocked 2 (padDevice 0x41) = true)

/-! ### The settings are in force -/

/-- The settings can be sent at each call of the proxy. -/
def Sendable (controls : Controls) (dlg : HidHideClientDlg δ) (e : HidHideClientDlgEvent) : Prop :=
  ∀ r ∈ dlg.handle controls e, ∀ done, done <+: r.2 →
    (done.foldl Proxy.after dlg.filterDriverProxy).configuration.Sendable

/-- On a device that answers as a store, the settings of the proxy are in force all the time. -/
theorem inForce_of_run {stands : ConfigurationStore → δ → Prop} (hio : io.AnswersAs stands)
    {proxy : Proxy} {device : δ} (h : Proxy.InForce stands (proxy, device))
    {events : List HidHideClientDlgEvent}
    (hsendable : Machine.Along (step controls io) (Sendable controls)
      { filterDriverProxy := proxy, device } events)
    (hrun : Machine.run (step controls io) { filterDriverProxy := proxy, device } events =
      some dlg) : Proxy.InForce stands (dlg.filterDriverProxy, dlg.device) := by
  refine Machine.run_invariant_of_along
    (I := fun dlg : HidHideClientDlg δ => Proxy.InForce stands (dlg.filterDriverProxy, dlg.device))
    (fun dlg e dlg' hs hsent hnext => ?_) h hsendable hrun
  obtain ⟨r, hr, -, -, hcalls, -⟩ := step_eq_some hnext
  exact hs.calls hio (hsent r hr) hcalls

/-- **The settings of the client are in force**: the client creates its proxy of a sound driver that
has stored its settings, and other notifications reach the driver between its requests. In each run
of the client the driver keeps to the settings of the proxy: whatever happens to the client, and
also when the driver is started again, until they are set to others. -/
theorem settings_of_run_in_force {upcase : WChar → WChar} {t t' : Traffic}
    (hsound : t.driver.Sound upcase) (hsized : t.driver.framework.Sized)
    (hstored : t.driver.reference.Stored t.driver.framework.registry) (hquiet : t.Quiet)
    {own : WString} (hown : nul ∉ own) (hfits : (t.driver.configuration.enroll own).deferred.Fits)
    {proxy : Proxy} (hcreate : Proxy.create (trafficRequests upcase) own true t = (.ok proxy, t'))
    {events : List HidHideClientDlgEvent} {dlg : HidHideClientDlg Traffic}
    (hsendable : Machine.Along (step controls (trafficRequests upcase)) (Sendable controls)
      { filterDriverProxy := proxy, device := t' } events)
    (hrun : Machine.run (step controls (trafficRequests upcase))
      { filterDriverProxy := proxy, device := t' } events = some dlg) :
    dlg.device.driver.KeepsTo upcase dlg.filterDriverProxy.configuration := by
  obtain ⟨hkeeps, hconfiguration⟩ := Driver.keeps_store hsound hsized hstored
  rw [← hconfiguration] at hfits
  have hstands : t.StoodFor upcase t.driver.store := ⟨hkeeps, hquiet⟩
  have hcreated := Proxy.InForce.create (trafficRequests_answersAs upcase) hstands hown
    hfits.whitelist hcreate
  obtain ⟨s, hs, hhas⟩ :=
    (inForce_of_run (trafficRequests_answersAs upcase) hcreated hsendable hrun).stored
  exact hs.keeps.keepsTo hhas

/-- A proxy with nothing on its lists. -/
def nothingListed (inverse : Bool) : Proxy :=
  { (Configuration.mk false inverse ∅ ∅).deferred with writeThrough := true }

theorem nothingListed_sendable (inverse : Bool) :
    (nothingListed inverse).configuration.Sendable where
  fits := by cases inverse <;> exact ⟨by decide, by decide⟩
  blacklist _ hmem := absurd hmem List.not_mem_nil
  whitelist _ hmem := absurd hmem List.not_mem_nil

/-- The inverse mode is switched on amid the traffic, and the driver keeps to that. -/
theorem settings_of_run_in_force_inverse :
    ∃ (t : Traffic) (dlg : HidHideClientDlg Traffic),
      Proxy.create (trafficRequests id) [] true busyTraffic = (.ok (nothingListed false), t) ∧
        Machine.run (step stillControls (trafficRequests id))
          { filterDriverProxy := nothingListed false, device := t }
          [.whitelist (.refresh bareEnvironment), .whitelist (.checkInverse true)] = some dlg ∧
        dlg.device.driver.KeepsTo id (nothingListed true).configuration := by
  have hstart : NTSuccess (onDriverCreate .success .empty).1 := by decide
  obtain ⟨t, dlg, hcreate, hrun, hproxy⟩ : ∃ (t : Traffic) (dlg : HidHideClientDlg Traffic),
      Proxy.create (trafficRequests id) [] true busyTraffic = (.ok (nothingListed false), t) ∧
        Machine.run (step stillControls (trafficRequests id))
          { filterDriverProxy := nothingListed false, device := t }
          [.whitelist (.refresh bareEnvironment), .whitelist (.checkInverse true)] = some dlg ∧
        dlg.filterDriverProxy = nothingListed true := ⟨_, _, rfl, rfl, rfl⟩
  refine ⟨t, dlg, hcreate, hrun, ?_⟩
  have hquiet : busyTraffic.Quiet := fun i e he => by
    obtain rfl := List.mem_singleton.mp he
    exact ⟨trivial, by decide, by decide⟩
  have hsendable : Machine.Along (step stillControls (trafficRequests id))
      (Sendable stillControls) { filterDriverProxy := nothingListed false, device := t }
      [.whitelist (.refresh bareEnvironment), .whitelist (.checkInverse true)] := by
    refine ⟨fun r hr done hdone => ?_, fun dlg₁ hdlg₁ => ⟨fun r hr done hdone => ?_, fun _ _ =>
      trivial⟩⟩
    · obtain rfl := Option.some.inj hr
      obtain rfl := List.prefix_nil.mp hdone
      exact nothingListed_sendable false
    · obtain ⟨r₁, hr₁, -, hwhitelist, -, hsame⟩ := step_eq_some hdlg₁
      obtain rfl := Option.some.inj hr₁
      rw [handle, hwhitelist, hsame] at hr
      obtain rfl := Option.some.inj hr
      rw [hsame]
      change done <+: [.setInverse true] at hdone
      rcases List.prefix_cons_iff.mp hdone with rfl | ⟨rest, rfl, hrest⟩
      · exact nothingListed_sendable false
      · obtain rfl := List.prefix_nil.mp hrest
        exact nothingListed_sendable true
  rw [← hproxy]
  exact settings_of_run_in_force (onDriverCreate_sound id hstart) sized_firstDriver
    ⟨fun kind => by cases kind <;> rfl, fun kind => by cases kind <;> trivial,
      fun kind => by cases kind <;> rfl⟩ hquiet (by decide) ⟨by decide, by decide⟩ hcreate
    hsendable hrun

end HidHideClientDlg

end HidHide
