import HidHide.Client.Proxy
import HidHide.Driver.AccessDecision
import HidHide.ForMathlib.Machine

/-!
# The driver behind the proxy

Results about a proxy are stated on a store (`storeRequests`). They carry over to the driver: as
long as its requests succeed and the lists fit into a request, a proxy of the driver caches what a
proxy of the store does, and the store stands for the driver (`Stands`) after the constructor, after
each setter, and after `ApplyConfigurationChanges`.
-/

namespace HidHide

/-- The store stands for a sound driver. -/
structure Stands (upcase : WChar → WChar) (s : ConfigurationStore) (d : Driver) : Prop
    extends Represents s d where
  sound : d.Sound upcase
  sized : d.framework.Sized

variable {upcase : WChar → WChar} {s : ConfigurationStore} {d : Driver} {o : RequestOutcomes}

namespace Stands

variable (h : Stands upcase s d)
include h

/-- After a list is set, the store still stands for the driver. -/
theorem setList {lt : WString → WString → Prop} {kind : ListKind} {S : OrderedSet lt}
    (hsize : 2 * (stringListToMultiString S.toList).length < 2 ^ 32)
    (hok : NTSuccess
      ((driverRequests o).setList kind (stringListToMultiString S.toList) d).1) :
    Stands upcase (storeRequests.setList kind (stringListToMultiString S.toList) s).2
      ((driverRequests o).setList kind (stringListToMultiString S.toList) d).2 where
  toRepresents := h.toRepresents.setList h.sound hsize hok
  sound := (h.sound.deviceSetList kind hok).1
  sized := (h.sized.deviceSetList hok).1

/-- After a switch is set, it does so too. -/
theorem setSwitch {kind : SwitchKind} {value : Bool}
    (hok : NTSuccess ((driverRequests o).setSwitch kind value d).1) :
    Stands upcase (storeRequests.setSwitch kind value s).2
      ((driverRequests o).setSwitch kind value d).2 := by
  obtain ⟨ho, heq⟩ := driverRequests_setSwitch o hok
  refine ⟨h.toRepresents.setSwitch h.sound hok, ?_, ?_⟩
  · rw [heq]
    exact (h.sound.setSwitch kind (o.setSwitch kind).write value ho).1
  · rw [heq]
    exact h.sized.setSwitch ho

/-- A switch that is got of the driver is the one of the store. -/
theorem getSwitch {kind : SwitchKind} {value : Bool} {d' : Driver}
    (hget : (driverRequests o).getSwitch kind d = (.ok value, d')) :
    s.switch kind = value ∧ Stands upcase s d' := by
  have hstore := (h.toRepresents.getSwitch (congrArg Prod.fst hget)).1
  rw [driverRequests_getSwitch] at hget
  obtain rfl : d = d' := congrArg Prod.snd hget
  exact ⟨Except.ok.inj hstore, h⟩

/-- A list that is got of the driver is the one of the store. -/
theorem getStrings {lt : WString → WString → Prop} [DecidableRel lt] [IsTrans WString lt]
    {kind : ListKind} {S : OrderedSet lt} {d' : Driver}
    (hget : (driverRequests o).getStrings lt kind d = (.ok S, d')) :
    OrderedSet.ofList lt (s.list kind) = S ∧ Stands upcase s d' := by
  obtain ⟨hstore, hrepresents⟩ :=
    h.toRepresents.getStrings h.sound h.sized (congrArg Prod.fst hget)
  obtain ⟨hsound, -, hregistry⟩ :=
    @Driver.Sound.deviceGetList kind lt _ _ (o.query kind) (o.fill kind) d upcase h.sound
  rw [← driverRequests_getStrings] at hsound hregistry
  rw [hget] at hrepresents hsound hregistry
  rw [storeRequests_getStrings] at hstore
  refine ⟨Except.ok.inj hstore, hrepresents, hsound, ?_⟩
  rw [Framework.Sized, hregistry]
  exact h.sized

end Stands

/-- A store of a first start stands for a driver of a first start. -/
theorem stands_firstStore (upcase : WChar → WChar) : Stands upcase firstStore firstDriver where
  list := by
    funext kind
    cases kind <;> rfl
  switch := by
    funext kind
    cases kind <;> rfl
  persisted kind := by cases kind <;> rfl
  sound := onDriverCreate_sound upcase (by decide)
  sized := sized_firstDriver

namespace Proxy

/-- The lists fit into a request. -/
structure Fits (proxy : Proxy) : Prop where
  blacklist : 2 * (writeSet proxy.blacklist).length < 2 ^ 32
  whitelist : 2 * (writeSet proxy.whitelist).length < 2 ^ 32

/-! ### The setters -/

/-- What a setter caches does not depend on the device. -/
theorem change_proxy {δ : Type*} {changed : Prop} [Decidable changed] {changedProxy proxy : Proxy}
    {send : δ → NTStatus × δ} {s : δ} :
    (change changed changedProxy send proxy s).2.1 = if changed then changedProxy else proxy := by
  rw [change]
  split_ifs <;> rfl

/-- A setter of a driver for which a store stands. -/
theorem change_stands {changed : Prop} [Decidable changed] {changedProxy proxy : Proxy}
    {send : ConfigurationStore → NTStatus × ConfigurationStore}
    {sendD : Driver → NTStatus × Driver} (h : Stands upcase s d)
    (hsend : changed → NTSuccess (sendD d).1 → Stands upcase (send s).2 (sendD d).2)
    (hok : NTSuccess (change changed changedProxy sendD proxy d).1) :
    Stands upcase (change changed changedProxy send proxy s).2.2
      (change changed changedProxy sendD proxy d).2.2 := by
  rw [change] at hok ⊢
  rw [change]
  split_ifs at hok ⊢ with hchanged hthrough
  · exact hsend hchanged hok
  · exact h
  · exact h

/-- **A call** of a proxy of the driver does what it does with the store. -/
theorem call_refines {proxy : Proxy} {call : Call} (h : Stands upcase s d)
    (hfits : (proxy.call (driverRequests o) call d).2.1.Fits)
    (hok : NTSuccess (proxy.call (driverRequests o) call d).1) :
    (step (proxy, s) call).1 = (proxy.call (driverRequests o) call d).2.1 ∧
      Stands upcase (step (proxy, s) call).2 (proxy.call (driverRequests o) call d).2.2 := by
  -- a list that is sent is the one that is cached then
  have hblacklist : ∀ {changed : Prop} [Decidable changed] (S : DeviceInstancePaths),
      (change changed { proxy with blacklist := S } ((driverRequests o).setBlacklist S) proxy
        d).2.1.Fits →
      changed → NTSuccess ((driverRequests o).setBlacklist S d).1 →
        Stands upcase (storeRequests.setBlacklist S s).2
          ((driverRequests o).setBlacklist S d).2 := by
    intro changed _ S hfits hchanged hok
    rw [change_proxy, if_pos hchanged] at hfits
    exact h.setList hfits.blacklist hok
  have hwhitelist : ∀ {changed : Prop} [Decidable changed] (S : OrderedSet pathLt),
      (change changed { proxy with whitelist := S } ((driverRequests o).setWhitelist S) proxy
        d).2.1.Fits →
      changed → NTSuccess ((driverRequests o).setWhitelist S d).1 →
        Stands upcase (storeRequests.setWhitelist S s).2
          ((driverRequests o).setWhitelist S d).2 := by
    intro changed _ S hfits hchanged hok
    rw [change_proxy, if_pos hchanged] at hfits
    exact h.setList hfits.whitelist hok
  cases call with
  | setActive value =>
    exact ⟨change_proxy.trans change_proxy.symm, change_stands h (fun _ => h.setSwitch) hok⟩
  | setInverse value =>
    exact ⟨change_proxy.trans change_proxy.symm, change_stands h (fun _ => h.setSwitch) hok⟩
  | setBlacklist S =>
    exact ⟨change_proxy.trans change_proxy.symm, change_stands h (hblacklist S hfits) hok⟩
  | blacklistAddEntry path =>
    exact ⟨change_proxy.trans change_proxy.symm, change_stands h (hblacklist _ hfits) hok⟩
  | blacklistDelEntry path =>
    exact ⟨change_proxy.trans change_proxy.symm, change_stands h (hblacklist _ hfits) hok⟩
  | setWhitelist S =>
    exact ⟨change_proxy.trans change_proxy.symm, change_stands h (hwhitelist S hfits) hok⟩
  | whitelistAddEntry name =>
    exact ⟨change_proxy.trans change_proxy.symm, change_stands h (hwhitelist _ hfits) hok⟩
  | whitelistDelEntry name =>
    exact ⟨change_proxy.trans change_proxy.symm, change_stands h (hwhitelist _ hfits) hok⟩

/-- A call on the driver, if its request succeeds. -/
def driverStep (p : Proxy × Driver) (request : RequestOutcomes × Call) : Option (Proxy × Driver) :=
  let r := p.1.call (driverRequests request.1) request.2 p.2
  if NTSuccess r.1 then some r.2 else none

/-- **A run of calls**: what the proxy of the driver caches is what the one of the store does. -/
theorem run_refines {p p' : Proxy × Driver} {requests : List (RequestOutcomes × Call)}
    (h : Stands upcase s p.2)
    (hfits : Machine.Along driverStep (fun p request =>
      (p.1.call (driverRequests request.1) request.2 p.2).2.1.Fits) p requests)
    (hrun : Machine.run driverStep p requests = some p') :
    let q := (requests.map Prod.snd).foldl step (p.1, s)
    q.1 = p'.1 ∧ Stands upcase q.2 p'.2 := by
  induction requests generalizing p s with
  | nil =>
    obtain rfl : p = p' := by simpa using hrun
    exact ⟨rfl, h⟩
  | cons request requests ih =>
    obtain ⟨hfirst, hrest⟩ := hfits
    rw [Machine.run_cons, Option.bind_eq_some_iff] at hrun
    obtain ⟨t, ht, hrun⟩ := hrun
    have hlater := hrest t ht
    rw [driverStep] at ht
    split_ifs at ht with hok
    obtain rfl := Option.some.inj ht
    obtain ⟨hproxy, hstands⟩ := call_refines h hfirst hok
    have hall := ih hstands hlater hrun
    rw [List.map_cons, List.foldl_cons]
    have hsplit : step (p.1, s) request.2 =
        ((p.1.call (driverRequests request.1) request.2 p.2).2.1,
          (step (p.1, s) request.2).2) := Prod.ext hproxy rfl
    rw [hsplit]
    exact hall

/-! ### Applying the changes -/

/-- If the driver comes to a success, the store has come to one, and stands for the driver. -/
def Follows (upcase : WChar → WChar) (r : NTStatus × ConfigurationStore)
    (rd : NTStatus × Driver) : Prop :=
  NTSuccess rd.1 → NTSuccess r.1 ∧ Stands upcase r.2 rd.2

/-- One setting. -/
theorem setIfChanged_follows {α : Type*} {same : α → Prop} [DecidablePred same]
    {get : ConfigurationStore → Except NTStatus α × ConfigurationStore}
    {getD : Driver → Except NTStatus α × Driver}
    {send : ConfigurationStore → NTStatus × ConfigurationStore}
    {sendD : Driver → NTStatus × Driver}
    (hget : ∀ value d', getD d = (.ok value, d') → get s = (.ok value, s) ∧ Stands upcase s d')
    (herror : ∀ ntstatus, (getD d).1 = .error ntstatus → ¬NTSuccess ntstatus)
    (hsend : ∀ d, Stands upcase s d → Follows upcase (send s) (sendD d)) :
    Follows upcase (setIfChanged get same send s) (setIfChanged getD same sendD d) := by
  intro hok
  obtain ⟨value, d', hgot, hresult⟩ := setIfChanged_of_success herror hok
  obtain ⟨hstore, hstands⟩ := hget value d' hgot
  rw [setIfChanged, hstore]
  dsimp only
  rcases hresult with ⟨hsame, heq⟩ | ⟨hsame, heq⟩
  · rw [heq, if_pos hsame]
    exact ⟨ntSuccess_statusSuccess, hstands⟩
  · rw [heq] at hok ⊢
    rw [if_neg hsame]
    exact hsend d' hstands hok

/-- One stage after another. -/
theorem andThen_follows {r : NTStatus × ConfigurationStore} {rd : NTStatus × Driver}
    {next : ConfigurationStore → NTStatus × ConfigurationStore}
    {nextD : Driver → NTStatus × Driver}
    (h : Follows upcase r rd)
    (hnext : ∀ s d, Stands upcase s d → Follows upcase (next s) (nextD d)) :
    Follows upcase (andThen r next) (andThen rd nextD) := by
  intro hok
  obtain ⟨hfirst, hsecond, heq⟩ := andThen_of_success hok
  obtain ⟨hstore, hstands⟩ := h hfirst
  rw [heq, andThen, if_pos hstore]
  exact hnext r.2 rd.2 hstands hsecond

/-- One list. -/
theorem setIfChanged_list_follows {lt : WString → WString → Prop} [DecidableRel lt]
    [IsTrans WString lt] {kind : ListKind} {same : OrderedSet lt → Prop} [DecidablePred same]
    {S : OrderedSet lt} (hsize : 2 * (stringListToMultiString S.toList).length < 2 ^ 32)
    (h : Stands upcase s d) :
    Follows upcase
      (setIfChanged (storeRequests.getStrings lt kind) same
        (storeRequests.setList kind (stringListToMultiString S.toList)) s)
      (setIfChanged ((driverRequests o).getStrings lt kind) same
        ((driverRequests o).setList kind (stringListToMultiString S.toList)) d) := by
  refine setIfChanged_follows (fun value d' hget => ?_) (fun _ => getStrings_error o kind) ?_
  · obtain ⟨rfl, hstands⟩ := h.getStrings hget
    exact ⟨storeRequests_getStrings lt kind s, hstands⟩
  · exact fun d h hok => ⟨ntSuccess_statusSuccess, h.setList hsize hok⟩

/-- One switch. -/
theorem setIfChanged_switch_follows {kind : SwitchKind} {value : Bool} (h : Stands upcase s d) :
    Follows upcase
      (setIfChanged (storeRequests.getSwitch kind) (· = value)
        (storeRequests.setSwitch kind value) s)
      (setIfChanged ((driverRequests o).getSwitch kind) (· = value)
        ((driverRequests o).setSwitch kind value) d) := by
  refine setIfChanged_follows (fun value' d' hget => ?_) (fun _ => getSwitch_error o) ?_
  · obtain ⟨rfl, hstands⟩ := h.getSwitch hget
    exact ⟨rfl, hstands⟩
  · exact fun d h hok => ⟨ntSuccess_statusSuccess, h.setSwitch hok⟩

/-- **`ApplyConfigurationChanges`** on the driver does what it does on the store. -/
theorem applyConfigurationChanges_refines {proxy : Proxy} (h : Stands upcase s d)
    (hfits : proxy.Fits)
    (hok : NTSuccess (proxy.applyConfigurationChanges (driverRequests o) d).1) :
    Stands upcase (proxy.applyConfigurationChanges storeRequests s).2
      (proxy.applyConfigurationChanges (driverRequests o) d).2 := by
  rw [applyConfigurationChanges] at hok ⊢
  rw [applyConfigurationChanges]
  split_ifs at hok ⊢
  · exact h
  · have hwhitelist := @setIfChanged_list_follows upcase s d o pathLt _ _ .whitelist
      (·.Equiv proxy.whitelist) _ proxy.whitelist hfits.whitelist h
    have hblacklist := @andThen_follows upcase _ _ _ _ hwhitelist fun s d h =>
      @setIfChanged_list_follows upcase s d o wstringLt _ _ .blacklist (· = proxy.blacklist) _
        proxy.blacklist hfits.blacklist h
    have hactive := @andThen_follows upcase _ _ _ _ hblacklist fun s d h =>
      @setIfChanged_switch_follows upcase s d o .active proxy.active h
    have hinverse := @andThen_follows upcase _ _ _ _ hactive fun s d h =>
      @setIfChanged_switch_follows upcase s d o .whitelistedInverse proxy.inverse h
    exact (hinverse hok).2

/-! ### The constructor -/

/-- **The constructor** on the driver does what it does on the store. -/
theorem create_refines {fullImageName : WString} {writeThrough : Bool} {proxy : Proxy} {d' : Driver}
    (h : Stands upcase s d)
    (hcreate : create (driverRequests o) fullImageName writeThrough d = (.ok proxy, d'))
    (hfits : proxy.Fits) :
    ∃ s', create storeRequests fullImageName writeThrough s = (.ok proxy, s') ∧
      Stands upcase s' d' := by
  -- what is got of the driver is what is got of the store
  rcases hactive : (driverRequests o).getActive d with ⟨ntstatus | active, d₁⟩
  · simp [create, hactive] at hcreate
  rcases hblacklist : (driverRequests o).getBlacklist d₁ with ⟨ntstatus | blacklist, d₂⟩
  · simp [create, hactive, hblacklist] at hcreate
  rcases hwhitelist : (driverRequests o).getWhitelist d₂ with ⟨ntstatus | whitelist, d₃⟩
  · simp [create, hactive, hblacklist, hwhitelist] at hcreate
  rcases hinverse : (driverRequests o).getInverse d₃ with ⟨ntstatus | inverse, d₄⟩
  · simp [create, hactive, hblacklist, hwhitelist, hinverse] at hcreate
  obtain ⟨rfl, h₁⟩ := h.getSwitch hactive
  obtain ⟨rfl, h₂⟩ := h₁.getStrings hblacklist
  obtain ⟨rfl, h₃⟩ := h₂.getStrings hwhitelist
  obtain ⟨rfl, h₄⟩ := h₃.getSwitch hinverse
  rw [create_store]
  simp only [create, hactive, hblacklist, hwhitelist, hinverse] at hcreate
  change (if Enrolls fullImageName s.inverse s.whitelist then _ else _) = _ at hcreate
  split_ifs at hcreate ⊢ with henrolls hset
  · obtain ⟨hproxy, hdriver⟩ := Prod.mk.inj hcreate
    obtain rfl := Except.ok.inj hproxy
    subst hdriver
    exact ⟨_, rfl, h₄.setList hfits.whitelist hset⟩
  · exact absurd (congrArg Prod.fst hcreate) (by simp)
  · obtain ⟨hproxy, hdriver⟩ := Prod.mk.inj hcreate
    obtain rfl := Except.ok.inj hproxy
    subst hdriver
    exact ⟨_, rfl, h₄⟩

/-! ### A client -/

/-- **A client of the driver** that creates a proxy, calls its setters and applies the changes does
what it does with the store. -/
theorem client_refines {fullImageName : WString} {writeThrough : Bool} {proxy : Proxy}
    {d₁ : Driver} {p : Proxy × Driver} {requests : List (RequestOutcomes × Call)}
    (h : Stands upcase s d)
    (hcreate : create (driverRequests o) fullImageName writeThrough d = (.ok proxy, d₁))
    (hfits : proxy.Fits)
    (hrequests : Machine.Along driverStep (fun p request =>
      (p.1.call (driverRequests request.1) request.2 p.2).2.1.Fits) (proxy, d₁) requests)
    (hrun : Machine.run driverStep (proxy, d₁) requests = some p) :
    ∃ s₁, create storeRequests fullImageName writeThrough s = (.ok proxy, s₁) ∧
      let q := (requests.map Prod.snd).foldl step (proxy, s₁)
      q.1 = p.1 ∧ Stands upcase q.2 p.2 ∧
        (p.1.Fits → NTSuccess (p.1.applyConfigurationChanges (driverRequests o) p.2).1 →
          Stands upcase (q.1.applyConfigurationChanges storeRequests q.2).2
            (p.1.applyConfigurationChanges (driverRequests o) p.2).2) := by
  obtain ⟨s₁, hstore, h₁⟩ := create_refines h hcreate hfits
  obtain ⟨hproxy, hstands⟩ := run_refines h₁ hrequests hrun
  refine ⟨s₁, hstore, hproxy, hstands, fun hfits hok => ?_⟩
  rw [hproxy]
  exact applyConfigurationChanges_refines hstands hfits hok

end Proxy

end HidHide
