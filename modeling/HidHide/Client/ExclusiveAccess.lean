import HidHide.ForMathlib.SharedCopies
import HidHide.Client.ProxyCalls

/-!
# Exclusive access to the driver

Several clients may want to change the settings: the dialogs, which write each change through, and
the command line, which applies its changes at the end. Each has the settings cached in a proxy, and
writes whole lists. The control device is exclusive (`WdfDeviceInitSetExclusive`): while there is a
proxy, the constructor of another one cannot open the device, and throws.

So no change gets lost (`settings_of_clients`): the driver keeps to what the changes that have been
applied make of its settings, one after another, whichever client they come from. On a device that
is not exclusive, the second of two clients would undo what the first one has applied.
-/

namespace HidHide

/-! ### What a call makes of the settings -/

namespace Configuration

/-- The settings after a call. -/
def after (c : Configuration) (call : Proxy.Call) : Configuration :=
  (c.deferred.after call).configuration

/-- The settings are the same, up to the spelling of paths. -/
structure Same (c c' : Configuration) : Prop where
  active : c.active = c'.active
  inverse : c.inverse = c'.inverse
  blacklist : c.blacklist = c'.blacklist
  whitelist : c.whitelist.Equiv c'.whitelist

variable {c c' : Configuration}

theorem Same.symm (h : c.Same c') : c'.Same c where
  active := h.active.symm
  inverse := h.inverse.symm
  blacklist := h.blacklist.symm
  whitelist := h.whitelist.symm

/-- A call makes equivalent whitelists of equivalent ones. -/
theorem equiv_whitelist (call : Proxy.Call) {w w' : OrderedSet pathLt} (h : w.Equiv w') :
    ((call.whitelist w).getD w).Equiv ((call.whitelist w').getD w') := by
  cases call with
  | setActive | setInverse | setBlacklist | blacklistAddEntry | blacklistDelEntry => exact h
  | setWhitelist value =>
    have hset : ∀ w : OrderedSet pathLt, w.Equiv value ∧
        ((Proxy.Call.setWhitelist value).whitelist w).getD w = w ∨
          ((Proxy.Call.setWhitelist value).whitelist w).getD w = value := by
      intro w
      rw [Proxy.Call.whitelist]
      split_ifs with hequiv
      · exact .inl ⟨hequiv, rfl⟩
      · exact .inr rfl
    rcases hset w with ⟨hw, heq⟩ | heq <;> rcases hset w' with ⟨hw', heq'⟩ | heq' <;>
      rw [heq, heq']
    · exact h
    · exact hw
    · exact hw'.symm
    · exact .refl value
  | whitelistAddEntry name =>
    have hadd : ∀ w : OrderedSet pathLt,
        ((Proxy.Call.whitelistAddEntry name).whitelist w).getD w = w.emplace name := by
      intro w
      rw [Proxy.Call.whitelist]
      split_ifs with hcontains
      · exact (OrderedSet.emplace_of_contains hcontains).symm
      · rfl
    rw [hadd, hadd]
    exact h.emplace name
  | whitelistDelEntry name =>
    have hdel : ∀ w : OrderedSet pathLt,
        ((Proxy.Call.whitelistDelEntry name).whitelist w).getD w = w.erase name := by
      intro w
      rw [Proxy.Call.whitelist]
      split_ifs with hcontains
      · rfl
      · exact (OrderedSet.erase_of_not_contains hcontains).symm
    rw [hdel, hdel]
    exact h.erase name

theorem Same.after (h : c.Same c') (call : Proxy.Call) : (c.after call).Same (c'.after call) where
  active := congrArg (fun value => (call.active value).getD value) h.active
  inverse := congrArg (fun value => (call.inverse value).getD value) h.inverse
  blacklist := congrArg (fun value => (call.blacklist value).getD value) h.blacklist
  whitelist := equiv_whitelist call h.whitelist

theorem Same.enroll (h : c.Same c') (own : WString) : (c.enroll own).Same (c'.enroll own) where
  active := h.active
  inverse := h.inverse
  blacklist := h.blacklist
  whitelist := by
    rw [Configuration.enroll, Configuration.enroll]
    dsimp only
    rw [Proxy.enrolled, Proxy.enrolled, h.inverse]
    split_ifs
    · exact h.whitelist
    · exact h.whitelist.erase own
    · exact h.whitelist.emplace own

end Configuration

theorem ConfigurationStore.Has.same {s : ConfigurationStore} {c : Configuration} (h : s.Has c) :
    s.configuration.Same c := ⟨h.active, h.inverse, h.blacklist, h.whitelist⟩

theorem ConfigurationStore.Has.of_same {s : ConfigurationStore} {c c' : Configuration}
    (h : s.Has c) (hsame : c.Same c') : s.Has c' where
  active := h.active.trans hsame.active
  inverse := h.inverse.trans hsame.inverse
  blacklist := h.blacklist.trans hsame.blacklist
  whitelist := h.whitelist.trans hsame.whitelist

/-! ### The clients -/

/-- The full image name of a client. -/
abbrev OwnName := { own : WString // nul ∉ own }

/-- How a client goes about the settings: the constructor of its proxy, the setters, and
`ApplyConfigurationChanges`. There is no result when one of them throws. -/
def proxyEditor {δ : Type*} (io : DeviceRequests δ) : Editor δ Proxy OwnName Proxy.Call where
  writesThrough proxy := proxy.writeThrough
  take writeThrough own d :=
    match Proxy.create io own writeThrough d with
    | (.error _, _) => none
    | (.ok proxy, d) => some (proxy, d)
  edit call p := Proxy.callStep io p call
  write p :=
    let r := p.1.applyConfigurationChanges io p.2
    if NTSuccess r.1 then some r.2 else none

/-- What a client makes of the settings: it enrolls itself, and calls the setters. -/
def Configuration.edit (c : Configuration) : OwnName ⊕ Proxy.Call → Configuration
  | .inl own => c.enroll own
  | .inr call => c.after call

section Edits

variable {δ : Type*} {io : DeviceRequests δ} {stands : ConfigurationStore → δ → Prop}

/-- A call of a proxy that defers its changes leaves the device alone. -/
theorem Proxy.callStep_deferred {p p' : Proxy × δ} {call : Proxy.Call}
    (hdeferred : p.1.writeThrough = false) (h : Proxy.callStep io p call = some p') :
    p'.2 = p.2 := by
  have hchange : ∀ {changed : Prop} [Decidable changed] {changedProxy : Proxy}
      {send : δ → NTStatus × δ}, changedProxy.writeThrough = false →
        (change changed changedProxy send p.1 p.2).2.2 = p.2 := by
    intro changed _ changedProxy send hfalse
    rw [change, hfalse, if_neg Bool.false_ne_true]
    split_ifs <;> rfl
  rw [callStep] at h
  split_ifs at h
  obtain rfl := Option.some.inj h
  cases call <;> exact hchange hdeferred

/-- A call caches what it makes of the settings. -/
theorem Proxy.configuration_callStep {p p' : Proxy × δ} {call : Proxy.Call}
    (h : Proxy.callStep io p call = some p') :
    p'.1.configuration = p.1.configuration.after call ∧ p'.1.writeThrough = p.1.writeThrough := by
  rw [proxy_callStep h]
  exact ⟨rfl, rfl⟩

/-- **A proxy edits the settings**, as long as they can be sent. -/
theorem proxyEditor_edits (hio : io.AnswersAs stands) :
    (proxyEditor io).Edits (fun c d => ∃ s, stands s d ∧ s.Has c)
      (fun proxy c => proxy.configuration.Same c) Configuration.edit
      fun proxy => proxy.configuration.Sendable where
  take := by
    rintro c d writeThrough own r ⟨s, hs, hhas⟩ htake hok
    rcases hcreate : Proxy.create io own writeThrough d with ⟨ntstatus | proxy, d'⟩
    · simp [proxyEditor, hcreate] at htake
    obtain rfl : (proxy, d') = r := by simpa [proxyEditor, hcreate] using htake
    obtain ⟨rfl, -⟩ := hio.create_cases hs hcreate
    obtain ⟨s', hstore, hs'⟩ := hio.create hs hcreate hok.fits.whitelist
    rw [Proxy.create_store] at hstore
    obtain ⟨-, rfl⟩ := Prod.mk.inj hstore
    have hsame := hhas.same.enroll own
    exact ⟨⟨_, hs', (ConfigurationStore.Has.create own.2 s).of_same hsame⟩, hsame, rfl⟩
  edit := by
    intro c d proxy call r hshows hedit
    obtain ⟨hconfiguration, hmode⟩ := Proxy.configuration_callStep hedit
    exact ⟨hconfiguration ▸ hshows.after call, hmode⟩
  through := by
    rintro c d proxy call r hthrough ⟨s, hs, hhas⟩ hshows hedit hok
    obtain ⟨hconfiguration, -⟩ := Proxy.configuration_callStep hedit
    have hforce : Proxy.InForce stands (proxy, d) :=
      ⟨hthrough, s, hs, hhas.of_same hshows.symm⟩
    obtain ⟨hsent, hr⟩ := Option.ite_none_right_eq_some.mp hedit
    obtain rfl := Option.some.inj hr
    have hcalled : Proxy.InForce stands (proxy.call io call d).2 :=
      hforce.call hio (Proxy.call_proxy io proxy call d ▸ hok) hsent
    obtain ⟨s', hs', hhas'⟩ := hcalled.stored
    exact ⟨s', hs', hhas'.of_same (hconfiguration ▸ hshows.after call)⟩
  deferred := by
    rintro c d proxy call r hdeferred ⟨s, hs, hhas⟩ hedit
    rw [show r.2 = d from Proxy.callStep_deferred hdeferred hedit]
    exact ⟨s, hs, hhas⟩
  write := by
    rintro c w d proxy d' ⟨s, hs, -⟩ hshows hok hwrite
    obtain ⟨happlied, hd⟩ := Option.ite_none_right_eq_some.mp hwrite
    obtain rfl := Option.some.inj hd
    have hdeferred : proxy.configuration.deferred = proxy := by
      obtain ⟨writeThrough, blacklist, whitelist, active, inverse⟩ := proxy
      obtain rfl : writeThrough = false := Proxy.writeThrough_of_applied happlied
      rfl
    have hfits : proxy.Fits := ⟨hok.fits.blacklist, hok.fits.whitelist⟩
    have hhas := ConfigurationStore.Has.applied hok s
    rw [hdeferred] at hhas
    exact ⟨_, hio.applyConfigurationChanges hs hfits happlied, hhas.of_same hshows⟩

end Edits

instance (c : Configuration) : Decidable c.Sendable :=
  decidable_of_iff ((2 * (Proxy.writeSet c.blacklist).length < 2 ^ 32 ∧
      2 * (Proxy.writeSet c.whitelist).length < 2 ^ 32) ∧
      (∀ path ∈ c.blacklist.toList, path ≠ [] ∧ nul ∉ path) ∧
      ∀ name ∈ c.whitelist.toList, name ≠ [] ∧ nul ∉ name)
    ⟨fun h => ⟨⟨h.1.1, h.1.2⟩, h.2.1, h.2.2⟩, fun h => ⟨⟨h.fits.1, h.fits.2⟩, h.2, h.3⟩⟩

/-! ### Clients of the driver -/

section Driver

variable {ι : Type*} [DecidableEq ι] {upcase : WChar → WChar}

/-- What the clients do: they start with a proxy in one of the modes, call its setters, apply its
changes, and close. -/
abbrev ClientAction (ι : Type*) := ι × SharedCopies.Action OwnName Proxy.Call

/-- The clients of a driver amid its traffic. One that cannot open the device is left without a
proxy. -/
def clientsStep (upcase : WChar → WChar) (exclusive : Bool) :
    SharedCopies ι Traffic Proxy → ClientAction ι → Option (SharedCopies ι Traffic Proxy) :=
  SharedCopies.step (proxyEditor (trafficRequests upcase)) exclusive

/-- **No change is lost.** Clients come and go, of a sound driver that has stored its settings, and
other notifications reach the driver between their requests. In each run in which their lists can be
sent, the driver keeps to what the changes that have been applied make of its settings: those of a
client that writes through as it calls for them, those of another one when it applies them. A client
that writes through has these settings cached. -/
theorem settings_of_clients {t : Traffic} (hsound : t.driver.Sound upcase)
    (hsized : t.driver.framework.Sized)
    (hstored : t.driver.reference.Stored t.driver.framework.registry) (hquiet : t.Quiet)
    {actions : List (ClientAction ι)} {s : SharedCopies ι Traffic Proxy}
    (hsendable : Machine.Along (clientsStep upcase true)
      (SharedCopies.Fit (proxyEditor (trafficRequests upcase)) (·.configuration.Sendable)) ⟨[], t⟩
      actions)
    (hrun : Machine.run (clientsStep upcase true) ⟨[], t⟩ actions = some s) :
    let applied := (actions.foldl Ledger.step {}).written
    let c := applied.foldl Configuration.edit t.driver.configuration
    s.shared.driver.KeepsTo upcase c ∧
      ∀ client ∈ s.copies, client.2.writeThrough = true → client.2.configuration.Same c := by
  obtain ⟨hkeeps, hconfiguration⟩ := Driver.keeps_store hsound hsized hstored
  have hstands : t.StoodFor upcase t.driver.store := ⟨hkeeps, hquiet⟩
  have hstart : SharedCopies.Follows (proxyEditor (trafficRequests upcase))
      (fun c d => ∃ s, Traffic.StoodFor upcase s d ∧ s.Has c)
      (fun proxy c => proxy.configuration.Same c) Configuration.edit t.driver.configuration
      ⟨([] : List (ι × Proxy)), t⟩ {} := by
    refine ⟨⟨_, hstands, ?_⟩, fun _ => rfl, nofun⟩
    rw [← hconfiguration]
    exact ⟨rfl, rfl, rfl, .refl _⟩
  have hfollows := SharedCopies.follows_run
    (proxyEditor_edits (trafficRequests_answersAs upcase)) hstart hsendable hrun
  obtain ⟨s', hs', hhas⟩ := hfollows.stands
  exact ⟨hs'.keeps.keepsTo hhas, fun client hclient => hfollows.shows_of_writesThrough hclient⟩

/-- The dialogs write through, while the command line cannot open the device; then it does, and
applies its changes at the end. -/
def dialogsThenCommands : List (ClientAction Bool) :=
  [(true, .take true ⟨[0x41], by decide⟩), (false, .take false ⟨[0x42], by decide⟩),
    (true, .edit (.setActive true)), (true, .leave), (false, .take false ⟨[0x42], by decide⟩),
    (false, .edit (.blacklistAddEntry [0x50])), (false, .write), (false, .leave)]

/-- The changes of both are kept. -/
theorem settings_of_clients_both :
    ∃ s : SharedCopies Bool Traffic Proxy,
      Machine.run (clientsStep id true) ⟨[], busyTraffic⟩ dialogsThenCommands = some s ∧
        s.shared.driver.KeepsTo id ⟨true, false, (∅ : DeviceInstancePaths).emplace [0x50],
          ((∅ : OrderedSet pathLt).emplace [0x41]).emplace [0x42]⟩ := by
  have hstart : NTSuccess (onDriverCreate .success .empty).1 := by decide
  obtain ⟨s, hrun⟩ : ∃ s, Machine.run (clientsStep id true) ⟨[], busyTraffic⟩ dialogsThenCommands =
      some s := ⟨_, rfl⟩
  have hquiet : busyTraffic.Quiet := fun i e he => by
    obtain rfl := List.mem_singleton.mp he
    exact ⟨trivial, by decide, by decide⟩
  refine ⟨s, hrun, (settings_of_clients (onDriverCreate_sound id hstart) sized_firstDriver
    ⟨fun kind => by cases kind <;> rfl, fun kind => by cases kind <;> trivial,
      fun kind => by cases kind <;> rfl⟩ hquiet ?_ hrun).1⟩
  decide +kernel

/-- Two clients of a device that is not exclusive: what the first one has applied is lost. -/
example : (Machine.run (SharedCopies.step (proxyEditor storeRequests) false) ⟨[], firstStore⟩
      [(true, .take false ⟨[], by decide⟩), (false, .take false ⟨[], by decide⟩),
        (true, .edit (.blacklistAddEntry [0x50])), (true, .write),
        (false, .edit (.blacklistAddEntry [0x51])), (false, .write)]).map
    (fun s => s.shared.blacklist.toList) = some [[0x51]] := by
  decide +kernel

end Driver

end HidHide
