import HidHide.Client.Scripts
import HidHide.Driver.AccessDecision
import HidHide.Driver.SessionHiding

/-!
# Revocation

What is left in force after `dev-unhide` or `app-unreg` and `ApplyConfigurationChanges`. The client
removes the one entry that equals the argument by its own order, while the driver compares without
case, and a device with the part of an entry before the delimiter. So an entry in other case, or
one for a session, stays in force (`revocation_iff`). Whether there is one can be told before the
command, from the cached list and the driver's own (`NamedByNoOther`).
-/

namespace HidHide

variable {upcase : WChar → WChar}

/-! ### What the driver has after the changes -/

/-- The list that the driver has persisted, as the client reads it back. -/
def persistedSet (lt : WString → WString → Prop) [DecidableRel lt] [IsTrans WString lt]
    (kind : ListKind) (d : Driver) : OrderedSet lt :=
  OrderedSet.ofList lt ((decodedValue (d.framework.registry kind.property)).getD [])

/-- The strings of a list after the client has seen to it that the driver has a set: its own ones,
if the client reads back the same set, and else those that reach it. -/
def keptStrings {lt : WString → WString → Prop} [DecidableRel lt] [IsTrans WString lt]
    (kind : ListKind) (same : OrderedSet lt → Prop) [DecidablePred same] (S : OrderedSet lt)
    (d : Driver) : List WString :=
  if same (persistedSet lt kind d) then d.list kind else arrivedStrings S.toList

section Stages

variable (o : RequestOutcomes) {d : Driver}

/-- **One list**: after a success the driver has the strings that are kept, and nothing else has
changed. -/
theorem setIfChanged_list (hd : d.Sound upcase) (hsized : d.framework.Sized)
    {lt : WString → WString → Prop} [DecidableRel lt] [IsTrans WString lt] {kind : ListKind}
    {same : OrderedSet lt → Prop} [DecidablePred same] {S : OrderedSet lt}
    (h : NTSuccess (Proxy.setIfChanged ((driverRequests o).getStrings lt kind) same
      ((driverRequests o).setList kind (stringListToMultiString S.toList)) d).1) :
    let d' := (Proxy.setIfChanged ((driverRequests o).getStrings lt kind) same
      ((driverRequests o).setList kind (stringListToMultiString S.toList)) d).2
    d'.Sound upcase ∧ d'.framework.Sized ∧
      d'.reference = { d.reference with
        list := Function.update d.reference.list kind (keptStrings kind same S d) } ∧
      ∀ kind' ≠ kind,
        d'.framework.registry kind'.property = d.framework.registry kind'.property := by
  obtain ⟨hd₁, hreference, hregistry⟩ :=
    @Driver.Sound.deviceGetList kind lt _ _ (o.query kind) (o.fill kind) d upcase hd
  rw [← driverRequests_getStrings] at hd₁ hreference hregistry
  obtain ⟨value, d₁, hget, hresult⟩ :=
    Proxy.setIfChanged_of_success (fun _ => getStrings_error o kind) h
  have hvalue : value = persistedSet lt kind d := by
    have hok := congrArg Prod.fst hget
    rw [driverRequests_getStrings] at hok
    obtain ⟨strings, hv, rfl⟩ := deviceGetList_eq_ok kind hsized hok
    rw [persistedSet, hv, Option.getD_some]
  rw [hget] at hd₁ hreference hregistry
  dsimp only at hd₁ hreference hregistry
  have hsized₁ : d₁.framework.Sized := by
    rw [Framework.Sized, hregistry]
    exact hsized
  rcases hresult with ⟨hsame, heq⟩ | ⟨hsame, heq⟩
  · have hkept : keptStrings kind same S d = d.list kind := if_pos (hvalue ▸ hsame)
    rw [heq, hkept]
    refine ⟨hd₁, hsized₁, ?_, fun kind' _ => by rw [hregistry]⟩
    rw [hreference]
    exact Reference.ext rfl (Function.update_eq_self kind d.list).symm rfl rfl
  · have hkept : keptStrings kind same S d = arrivedStrings S.toList := if_neg (hvalue ▸ hsame)
    rw [heq, driverRequests_setList] at h
    have haccepted : Loadable (some (.regMultiSz (sentChars S.toList))) :=
      Option.isSome_of_eq_some (deviceSetList_stores h).2
    rw [heq, hkept, driverRequests_setList, ← sentStrings_of_loadable haccepted]
    obtain ⟨hd', hreference'⟩ := hd₁.deviceSetList kind h
    obtain ⟨hsized', hother⟩ := hsized₁.deviceSetList h
    refine ⟨hd', hsized', ?_, fun kind' hkind => ?_⟩
    · rw [hreference', hreference]
    · rw [hother kind' hkind, hregistry]

/-- **One switch**: after a success the driver has the value, and nothing else has changed. -/
theorem setIfChanged_switch (hd : d.Sound upcase) (hsized : d.framework.Sized) {kind : SwitchKind}
    {value : Bool} (h : NTSuccess (Proxy.setIfChanged ((driverRequests o).getSwitch kind)
      (· = value) ((driverRequests o).setSwitch kind value) d).1) :
    let d' := (Proxy.setIfChanged ((driverRequests o).getSwitch kind) (· = value)
      ((driverRequests o).setSwitch kind value) d).2
    d'.Sound upcase ∧ d'.framework.Sized ∧
      d'.reference = { d.reference with
        switch := Function.update d.reference.switch kind value } ∧
      ∀ list : ListKind,
        d'.framework.registry list.property = d.framework.registry list.property := by
  obtain ⟨value', d₁, hget, hresult⟩ :=
    Proxy.setIfChanged_of_success (fun _ => getSwitch_error o) h
  rw [driverRequests_getSwitch] at hget
  obtain rfl : d = d₁ := congrArg Prod.snd hget
  rcases hresult with ⟨hsame, heq⟩ | ⟨-, heq⟩
  · rw [heq]
    refine ⟨hd, hsized, ?_, fun _ => rfl⟩
    have hswitch : d.reference.switch kind = value := by
      rw [← hsame]
      split_ifs at hget
      · exact Except.ok.inj (congrArg Prod.fst hget)
      · exact absurd (congrArg Prod.fst hget) (by simp)
    exact Reference.ext rfl rfl (by rw [← hswitch, Function.update_eq_self]) rfl
  · rw [heq] at h
    obtain ⟨ho, hset⟩ := driverRequests_setSwitch o h
    obtain ⟨hd', hreference⟩ := hd.setSwitch kind (o.setSwitch kind).write value ho
    have hregistry := setSwitch_registry kind (o.setSwitch kind).write value d ho
    rw [heq, hset]
    refine ⟨hd', hsized.setSwitch ho, hreference, fun list => ?_⟩
    rw [hregistry, Function.update_of_ne (kind.property_ne list).symm]

/-- The four stages together: the list of the second one is kept as if it were the first. -/
theorem reference_of_stages {d d₁ d₂ d₃ d₄ : Driver} {proxy : Proxy}
    (h₁ : d₁.reference = { d.reference with
      list := Function.update d.reference.list .whitelist
        (keptStrings .whitelist (·.Equiv proxy.whitelist) proxy.whitelist d) })
    (hregistry : ∀ kind ≠ ListKind.whitelist,
      d₁.framework.registry kind.property = d.framework.registry kind.property)
    (h₂ : d₂.reference = { d₁.reference with
      list := Function.update d₁.reference.list .blacklist
        (keptStrings .blacklist (· = proxy.blacklist) proxy.blacklist d₁) })
    (h₃ : d₃.reference = { d₂.reference with
      switch := Function.update d₂.reference.switch .active proxy.active })
    (h₄ : d₄.reference = { d₃.reference with
      switch := Function.update d₃.reference.switch .whitelistedInverse proxy.inverse }) :
    d₄.reference.names = d.reference.names ∧
      d₄.reference.sessionBlacklist = d.reference.sessionBlacklist ∧
      d₄.reference.list .whitelist =
        keptStrings .whitelist (·.Equiv proxy.whitelist) proxy.whitelist d ∧
      d₄.reference.list .blacklist =
        keptStrings .blacklist (· = proxy.blacklist) proxy.blacklist d ∧
      d₄.reference.switch .whitelistedInverse = proxy.inverse := by
  have hlist : d₁.list .blacklist = d.list .blacklist := by
    change d₁.reference.list .blacklist = d.reference.list .blacklist
    rw [h₁]
    dsimp only
    rw [Function.update_of_ne (by decide)]
  have hkept : keptStrings .blacklist (· = proxy.blacklist) proxy.blacklist d₁ =
      keptStrings .blacklist (· = proxy.blacklist) proxy.blacklist d := by
    rw [keptStrings, keptStrings, persistedSet, persistedSet, hlist,
      hregistry .blacklist (by decide)]
  rw [h₄, h₃, h₂, h₁, hkept]
  dsimp only
  refine ⟨rfl, rfl, ?_, ?_, ?_⟩
  · rw [Function.update_of_ne (by decide), Function.update_self]
  · rw [Function.update_self]
  · rw [Function.update_self]

/-- **`ApplyConfigurationChanges` on the driver.** After a success the driver is sound and has the
strings that are kept of each list and the switches of the proxy. -/
theorem applyConfigurationChanges_driver (hd : d.Sound upcase) (hsized : d.framework.Sized)
    {proxy : Proxy} (h : NTSuccess (proxy.applyConfigurationChanges (driverRequests o) d).1) :
    let d' := (proxy.applyConfigurationChanges (driverRequests o) d).2
    d'.Sound upcase ∧ d'.reference.names = d.reference.names ∧
      d'.reference.sessionBlacklist = d.reference.sessionBlacklist ∧
      d'.reference.list .whitelist =
        keptStrings .whitelist (·.Equiv proxy.whitelist) proxy.whitelist d ∧
      d'.reference.list .blacklist =
        keptStrings .blacklist (· = proxy.blacklist) proxy.blacklist d ∧
      d'.reference.switch .whitelistedInverse = proxy.inverse := by
  intro d'
  have hd' : d' = (proxy.applyConfigurationChanges (driverRequests o) d).2 := rfl
  rw [Proxy.applyConfigurationChanges] at h hd'
  by_cases hthrough : proxy.writeThrough = true
  · rw [if_pos hthrough] at h
    exact absurd (show NTSuccess statusInvalidParameter from h) (by decide)
  rw [if_neg hthrough] at h hd'
  -- the stages, from the last one back
  obtain ⟨hthree, hinverse, heq⟩ := Proxy.andThen_of_success h
  obtain ⟨htwo, hactive, heq'⟩ := Proxy.andThen_of_success hthree
  obtain ⟨hwhitelist, hblacklist, heq''⟩ := Proxy.andThen_of_success htwo
  rw [heq', heq''] at hinverse
  rw [heq''] at hactive
  rw [heq, heq', heq''] at hd'
  obtain ⟨hd₁, hsized₁, hreference₁, hregistry₁⟩ :=
    setIfChanged_list o hd hsized (S := proxy.whitelist) hwhitelist
  obtain ⟨hd₂, hsized₂, hreference₂, -⟩ :=
    setIfChanged_list o hd₁ hsized₁ (S := proxy.blacklist) hblacklist
  obtain ⟨hd₃, hsized₃, hreference₃, -⟩ := setIfChanged_switch o hd₂ hsized₂ hactive
  obtain ⟨hd₄, -, hreference₄, -⟩ := setIfChanged_switch o hd₃ hsized₃ hinverse
  rw [hd']
  exact ⟨hd₄, reference_of_stages hreference₁ hregistry₁ hreference₂ hreference₃ hreference₄⟩

end Stages

/-! ### What else names the argument -/

section Names

variable {lt : WString → WString → Prop} [DecidableRel lt] [IsStrictOrder WString lt]

/-- The entries of a list that differ from the argument. -/
def otherEntries (cached : OrderedSet lt) (argument : WString) : List WString :=
  cached.toList.filter fun entry => ¬OrderedSet.Equivalent lt argument entry

/-- Before a command takes an argument off a list: nothing but its own entry names it. If the driver
has persisted the other entries of the cached list, and no more, nothing will be sent, and it is the
driver's list that has no entry with the name. Otherwise it is the other entries, as far as they
reach the driver. -/
def NamedByNoOther (kind : ListKind) (names : WString → Prop) (cached : OrderedSet lt)
    (argument : WString) (d : Driver) : Prop :=
  let others := otherEntries cached argument
  (List.Forall₂ (OrderedSet.Equivalent lt) (persistedSet lt kind d).toList others →
      ∀ entry ∈ d.list kind, ¬names entry) ∧
    (¬List.Forall₂ (OrderedSet.Equivalent lt) (persistedSet lt kind d).toList others →
      ∀ entry ∈ others, Arrives lt others entry → ¬names (cString entry))

instance (kind : ListKind) (names : WString → Prop) [DecidablePred names] (cached : OrderedSet lt)
    (argument : WString) (d : Driver) : Decidable (NamedByNoOther kind names cached argument d) :=
  inferInstanceAs (Decidable ((_ → ∀ entry ∈ d.list kind, _) ∧
    (_ → ∀ entry ∈ otherEntries cached argument, _)))

/-- Then no entry that is kept has the name. -/
theorem forall_keptStrings_iff {kind : ListKind} {cached : OrderedSet lt} {argument : WString}
    {same : OrderedSet lt → Prop} [DecidablePred same]
    (hsame : ∀ S, same S ↔ S.Equiv (cached.erase argument)) {names : WString → Prop} {d : Driver} :
    (∀ entry ∈ keptStrings kind same (cached.erase argument) d, ¬names entry) ↔
      NamedByNoOther kind names cached argument d := by
  have hothers : (cached.erase argument).toList = otherEntries cached argument := rfl
  have hpersisted : same (persistedSet lt kind d) ↔ List.Forall₂ (OrderedSet.Equivalent lt)
      (persistedSet lt kind d).toList (otherEntries cached argument) := hsame _
  rw [NamedByNoOther, keptStrings, ← hpersisted]
  split_ifs with hkept
  · simp only [hkept, true_implies, not_true, false_implies, and_true]
  · simp only [hkept, false_implies, not_false_eq_true, true_implies, true_and, ← hothers]
    constructor
    · intro hnone entry hentry harrives
      exact hnone _ (mem_arrivedStrings.mpr ⟨entry, hentry, harrives, rfl⟩)
    · intro hnone string hstring
      obtain ⟨entry, hentry, harrives, rfl⟩ := mem_arrivedStrings.mp hstring
      exact hnone entry hentry harrives

end Names

/-! ### What is in force -/

/-- Without session entries, no session finds the device blacklisted exactly when no entry has its
path. -/
theorem forall_blacklisted_eq_false_iff {persistent : List UnicodeString}
    {deviceInstancePath : UnicodeString} :
    (∀ sessionId, blacklisted upcase persistent [] deviceInstancePath sessionId = false) ↔
      ∀ entry ∈ persistent,
        ¬RtlCompareEqual upcase (splitDeviceData entry).1 deviceInstancePath := by
  have hdecisive : (∀ entry ∈ persistent,
      ¬RtlCompareEqual upcase (splitDeviceData entry).1 deviceInstancePath) ↔
        decisiveEntry upcase persistent deviceInstancePath = none := by
    rw [decisiveEntry, List.find?_eq_none]
    simp only [decide_eq_true_eq]
  rw [hdecisive]
  constructor
  · intro h
    -- no entry exempts session 0
    have hzero := h 0
    rw [← Bool.not_eq_true, blacklisted_iff] at hzero
    by_contra hsome
    refine hzero ⟨?_, .inl (Option.isSome_iff_ne_none.mpr hsome)⟩
    rintro ⟨entry, -, hne, -⟩
    exact hne rfl
  · intro hnone sessionId
    rw [← Bool.not_eq_true, blacklisted_iff, hnone]
    rintro ⟨-, hpersistent | ⟨entry, hentry, -⟩⟩
    · exact absurd hpersistent (by simp)
    · exact absurd hentry List.not_mem_nil

/-- A process is not whitelisted if no entry matches its image name and the list is not inverse. -/
theorem whitelisted_eq_false {d : Driver} (hd : d.Sound upcase) {fullImageName : WString}
    (hnone : ∀ entry ∈ d.list .whitelist, ¬RtlCompareEqual upcase entry fullImageName)
    (hinverse : d.context.whitelistedInverse = false) {pid : UInt32} {name : UnicodeString}
    (hname : d.reference.names pid = some name)
    (hsame : RtlCompareEqual upcase name fullImageName) :
    (whitelisted upcase d (processHandle pid)).1 = false := by
  have hnot : ¬d.reference.Whitelisted upcase pid := by
    rintro ⟨name', hname', entry, hentry, hmatch⟩
    obtain rfl : name = name' := Option.some.inj (hname.symm.trans hname')
    exact hnone entry hentry (hmatch.trans hsame)
  have hswitch : d.reference.switch .whitelistedInverse = false := hinverse
  rw [hd.whitelisted_fst, decide_eq_false hnot, hswitch]
  rfl

namespace CommandInterpreter

/-- A call leaves the mode of the proxy as it is. -/
theorem invoke_writeThrough {δ : Type*} (io : DeviceRequests δ) (call : Proxy.Call)
    (interpreter : CommandInterpreter δ) :
    (invoke io call interpreter).2.filterDriverProxy.writeThrough =
      interpreter.filterDriverProxy.writeThrough := by
  have hchange : ∀ {changed : Prop} [Decidable changed] {changedProxy proxy : Proxy}
      {send : δ → NTStatus × δ} {s : δ}, changedProxy.writeThrough = proxy.writeThrough →
      (Proxy.change changed changedProxy send proxy s).2.1.writeThrough = proxy.writeThrough := by
    intro changed _ changedProxy proxy send s hsame
    rw [Proxy.change]
    split_ifs
    · exact hsame
    · exact hsame
    · rfl
  cases call <;> exact hchange rfl

/-- When the changes are applied without an exception, the requests have succeeded. -/
theorem applyConfigurationChanges_of_some {δ : Type*} {io : DeviceRequests δ}
    {interpreter : CommandInterpreter δ}
    (h : (applyConfigurationChanges io interpreter).1 = some ()) :
    NTSuccess (interpreter.filterDriverProxy.applyConfigurationChanges io interpreter.device).1 ∧
      (applyConfigurationChanges io interpreter).2.device =
        (interpreter.filterDriverProxy.applyConfigurationChanges io interpreter.device).2 := by
  refine ⟨?_, rfl⟩
  by_contra hfail
  simp only [applyConfigurationChanges, hfail, if_false] at h
  exact absurd h (by simp)

variable {o o' : RequestOutcomes} {interpreter : CommandInterpreter Driver}

/-- **A call and then `ApplyConfigurationChanges`.** After a success the proxy has deferred its
changes, so the driver has what is kept of the settings that the call leaves in the cache. -/
theorem applied_after_invoke {call : Proxy.Call} {c : Configuration} {d : Driver}
    (hsound : interpreter.device.Sound upcase) (hsized : interpreter.device.framework.Sized)
    (hcall : interpreter.filterDriverProxy.writeThrough = false →
      invoke (driverRequests o) call interpreter =
        (some (), interpreter.configured c interpreter.cancelled))
    (h : (applyConfigurationChanges (driverRequests o')
      (invoke (driverRequests o) call interpreter).2).1 = some ())
    (hd : d = (applyConfigurationChanges (driverRequests o')
      (invoke (driverRequests o) call interpreter).2).2.device) :
    d.Sound upcase ∧ d.reference.sessionBlacklist = interpreter.device.reference.sessionBlacklist ∧
      d.list .whitelist = keptStrings .whitelist (·.Equiv c.whitelist) c.whitelist
        interpreter.device ∧
      d.list .blacklist = keptStrings .blacklist (· = c.blacklist) c.blacklist
        interpreter.device := by
  obtain ⟨hok, hdevice⟩ := applyConfigurationChanges_of_some h
  have hdeferred : interpreter.filterDriverProxy.writeThrough = false := by
    rw [← Bool.not_eq_true, ← invoke_writeThrough (driverRequests o) call interpreter]
    intro hthrough
    rw [Proxy.applyConfigurationChanges, if_pos hthrough] at hok
    exact absurd (show NTSuccess statusInvalidParameter from hok) (by decide)
  rw [hdevice] at hd
  rw [hcall hdeferred] at hok hd
  change NTSuccess (c.deferred.applyConfigurationChanges _ interpreter.device).1 at hok
  change d = (c.deferred.applyConfigurationChanges _ interpreter.device).2 at hd
  obtain ⟨hsound', -, hsession, hwhitelist, hblacklist, -⟩ :=
    applyConfigurationChanges_driver o' hsound hsized hok
  rw [← hd] at hsound' hsession hwhitelist hblacklist
  exact ⟨hsound', hsession, hwhitelist, hblacklist⟩

/-- **Unhiding a device** that no session hides: what else names it decides. -/
theorem blacklisted_of_devUnhinde (hsound : interpreter.device.Sound upcase)
    (hsized : interpreter.device.framework.Sized) (keyword : WString) {device : WString}
    (hsession : interpreter.device.context.sessionBlacklist = []) :
    let r := applyConfigurationChanges (driverRequests o')
      (devUnhinde (driverRequests o) [keyword, device] interpreter).2
    r.1 = some () →
    ((∀ sessionId, blacklisted upcase (r.2.device.list .blacklist)
        r.2.device.context.sessionBlacklist device sessionId = false) ↔
      NamedByNoOther .blacklist
        (fun entry => RtlCompareEqual upcase (splitDeviceData entry).1 device)
        interpreter.filterDriverProxy.blacklist device interpreter.device) := by
  intro r hr
  obtain ⟨d, hd⟩ : ∃ d, d = r.2.device := ⟨_, rfl⟩
  have hcall : interpreter.filterDriverProxy.writeThrough = false →
      devUnhinde (driverRequests o) [keyword, device] interpreter =
        (some (), interpreter.configured
          { interpreter.filterDriverProxy.configuration with
            blacklist := interpreter.filterDriverProxy.blacklist.erase device }
          interpreter.cancelled) := by
    intro hdeferred
    conv_lhs => rw [← configured_configuration hdeferred]
    exact invoke_blacklistDelEntry (driverRequests o) interpreter _ _ device
  obtain ⟨-, hsession', -, hblacklist⟩ := applied_after_invoke hsound hsized hcall hr hd
  have hempty : d.context.sessionBlacklist = [] := hsession'.trans hsession
  rw [← hd, hempty, hblacklist]
  exact forall_blacklisted_eq_false_iff.trans
    (forall_keptStrings_iff fun _ => OrderedSet.equiv_iff_eq.symm)

/-- **Unregistering an application**: what else names it decides. -/
theorem whitelisted_of_appUnreg (hsound : interpreter.device.Sound upcase)
    (hsized : interpreter.device.framework.Sized) (env : Environment) (keyword : WString)
    {fileName fullImageName : WString}
    (hname : fileNameToFullImageName env.volumes fileName = some fullImageName) :
    let r := applyConfigurationChanges (driverRequests o')
      (appUnreg env (driverRequests o) [keyword, fileName] interpreter).2
    r.1 = some () →
    (((∀ entry ∈ r.2.device.list .whitelist, ¬RtlCompareEqual upcase entry fullImageName) ∧
        (r.2.device.context.whitelistedInverse = false →
          ∀ pid name, r.2.device.reference.names pid = some name →
            RtlCompareEqual upcase name fullImageName →
            (whitelisted upcase r.2.device (processHandle pid)).1 = false)) ↔
      NamedByNoOther .whitelist
        (fun entry => RtlCompareEqual upcase entry fullImageName)
        interpreter.filterDriverProxy.whitelist fullImageName interpreter.device) := by
  have hcommand : appUnreg env (driverRequests o) [keyword, fileName] interpreter =
      invoke (driverRequests o) (.whitelistDelEntry fullImageName) interpreter := by
    simp only [appUnreg, List.getD_cons_succ, List.getD_cons_zero, hname]
  rw [hcommand]
  intro r hr
  obtain ⟨d, hd⟩ : ∃ d, d = r.2.device := ⟨_, rfl⟩
  have hcall : interpreter.filterDriverProxy.writeThrough = false →
      invoke (driverRequests o) (.whitelistDelEntry fullImageName) interpreter =
        (some (), interpreter.configured
          { interpreter.filterDriverProxy.configuration with
            whitelist := interpreter.filterDriverProxy.whitelist.erase fullImageName }
          interpreter.cancelled) := by
    intro hdeferred
    conv_lhs => rw [← configured_configuration hdeferred]
    exact invoke_whitelistDelEntry (driverRequests o) interpreter _ _ fullImageName
  obtain ⟨hsound', -, hwhitelist, -⟩ := applied_after_invoke hsound hsized hcall hr hd
  rw [← hd, ← forall_keptStrings_iff fun _ => Iff.rfl, ← hwhitelist]
  refine and_iff_left_of_imp fun hnone hinverse pid name hpid hsame => ?_
  exact whitelisted_eq_false hsound' hnone hinverse hpid hsame

end CommandInterpreter

open CommandInterpreter

/-- **Revocation takes effect** exactly when nothing else has the same name to the driver. After
`dev-unhide` the device is blacklisted for no session, given no session entries, if and only if no
other entry of the blacklist has it as its path; after `app-unreg` the whitelist does not match the
image name, and a process with that image is not whitelisted while the list is not inverse, if and
only if no other entry of the whitelist matches it. The other entries are those of the cached list,
or the driver's own ones where there is nothing to send (`NamedByNoOther`). -/
theorem revocation_iff {o o' : RequestOutcomes} {interpreter : CommandInterpreter Driver}
    (hsound : interpreter.device.Sound upcase) (hsized : interpreter.device.framework.Sized)
    (env : Environment) (keyword : WString) :
    (∀ device : WString, interpreter.device.context.sessionBlacklist = [] →
      let r := applyConfigurationChanges (driverRequests o')
        (devUnhinde (driverRequests o) [keyword, device] interpreter).2
      r.1 = some () →
      ((∀ sessionId, blacklisted upcase (r.2.device.list .blacklist)
          r.2.device.context.sessionBlacklist device sessionId = false) ↔
        NamedByNoOther .blacklist
          (fun entry => RtlCompareEqual upcase (splitDeviceData entry).1 device)
          interpreter.filterDriverProxy.blacklist device interpreter.device)) ∧
      ∀ fileName fullImageName : WString,
        fileNameToFullImageName env.volumes fileName = some fullImageName →
        let r := applyConfigurationChanges (driverRequests o')
          (appUnreg env (driverRequests o) [keyword, fileName] interpreter).2
        r.1 = some () →
        (((∀ entry ∈ r.2.device.list .whitelist, ¬RtlCompareEqual upcase entry fullImageName) ∧
            (r.2.device.context.whitelistedInverse = false →
              ∀ pid name, r.2.device.reference.names pid = some name →
                RtlCompareEqual upcase name fullImageName →
                (whitelisted upcase r.2.device (processHandle pid)).1 = false)) ↔
          NamedByNoOther .whitelist
            (fun entry => RtlCompareEqual upcase entry fullImageName)
            interpreter.filterDriverProxy.whitelist fullImageName interpreter.device) :=
  ⟨fun _ hsession => blacklisted_of_devUnhinde hsound hsized keyword hsession,
    fun _ _ hname => whitelisted_of_appUnreg hsound hsized env keyword hname⟩

/-! ### One device in two spellings -/

/-- The upper case of the letters from `a` to `z`. -/
def latinUpcase (c : WChar) : WChar := if 0x61 ≤ c ∧ c ≤ 0x7A then c - 0x20 else c

/-- The blacklist of the devices `a` and `b`. -/
def hiddenInLowerCase : DeviceInstancePaths :=
  ((∅ : DeviceInstancePaths).emplace [0x61]).emplace [0x62]

/-- An interpreter that has read the blacklist of a driver on which both devices were hidden. -/
def lowerCaseInterpreter : CommandInterpreter Driver where
  scriptMode := false
  interactiveMode := false
  filterDriverProxy := Configuration.deferred ⟨false, false, hiddenInLowerCase, ∅⟩
  cancelled := false
  device := (deviceSetList .blacklist ⟨statusSuccess, .success, .success⟩ hiddenInLowerCase
    firstDriver).2

/-- Its driver has been started, and then the blacklist was set. -/
theorem lowerCaseInterpreter_device :
    lowerCaseInterpreter.device.Sound latinUpcase ∧
      lowerCaseInterpreter.device.framework.Sized := by
  have hstart : NTSuccess (onDriverCreate .success .empty).1 := by decide
  have hset : NTSuccess (deviceSetList .blacklist ⟨statusSuccess, .success, .success⟩
      hiddenInLowerCase firstDriver).1 := by decide
  exact ⟨((onDriverCreate_sound latinUpcase hstart).deviceSetList _ hset).1,
    (sized_firstDriver.deviceSetList hset).1⟩

/-- The device `a` is not hidden any more after it is unhidden as `a`. -/
theorem revocation_sameCase :
    let r := applyConfigurationChanges (driverRequests grantedRequests)
      (devUnhinde (driverRequests grantedRequests) [wide "dev-unhide", [0x61]]
        lowerCaseInterpreter).2
    ∀ sessionId, blacklisted latinUpcase (r.2.device.list .blacklist)
      r.2.device.context.sessionBlacklist [0x61] sessionId = false := by
  obtain ⟨hsound, hsized⟩ := lowerCaseInterpreter_device
  have hdevice := (@revocation_iff _ grantedRequests grantedRequests _ hsound hsized
    bareEnvironment (wide "dev-unhide")).1
  exact (hdevice [0x61] (by decide) (by decide)).mpr (by decide)

/-- After the device is unhidden as `A`, it is still hidden. -/
theorem devUnhide_otherCase :
    let r := applyConfigurationChanges (driverRequests grantedRequests)
      (devUnhinde (driverRequests grantedRequests) [wide "dev-unhide", [0x41]]
        lowerCaseInterpreter).2
    lowerCaseInterpreter.device.Sound latinUpcase ∧
      lowerCaseInterpreter.device.context.sessionBlacklist = [] ∧ r.1 = some () ∧
      r.2.device.context.sessionBlacklist = [] ∧
      blacklisted latinUpcase (r.2.device.list .blacklist)
        r.2.device.context.sessionBlacklist [0x41] 0 = true :=
  ⟨lowerCaseInterpreter_device.1, by decide, by decide, by decide, by decide⟩

end HidHide
