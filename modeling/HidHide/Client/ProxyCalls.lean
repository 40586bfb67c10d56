import HidHide.Client.MainApplication

/-!
# Calls of a proxy in write-through mode

The dialogs share one proxy, and call its setters one after another on any device. What a call
caches does not depend on the device (`call_proxy`). A call whose request fails throws, and that is
the end of the client.

In write-through mode the settings of the proxy are in force all the time (`InForce.calls`): what is
cached is what a client would read of the device.
-/

namespace HidHide

namespace Proxy

/-- What is cached after a call. -/
def after (proxy : Proxy) (call : Call) : Proxy :=
  { proxy with
    active := (call.active proxy.active).getD proxy.active
    inverse := (call.inverse proxy.inverse).getD proxy.inverse
    blacklist := (call.blacklist proxy.blacklist).getD proxy.blacklist
    whitelist := (call.whitelist proxy.whitelist).getD proxy.whitelist }

section Calls

variable {δ : Type*} (io : DeviceRequests δ)

/-- A call, unless its request fails. -/
def callStep (p : Proxy × δ) (call : Call) : Option (Proxy × δ) :=
  let r := p.1.call io call p.2
  if NTSuccess r.1 then some r.2 else none

/-- Calls one after another. -/
def calls (p : Proxy × δ) (calls : List Call) : Option (Proxy × δ) :=
  Machine.run (callStep io) p calls

/-- **What a call caches** does not depend on the device, or on whether the request succeeds. -/
theorem call_proxy (proxy : Proxy) (call : Call) (d : δ) :
    (proxy.call io call d).2.1 = proxy.after call := by
  have hget : ∀ {α : Type} (c : Prop) [Decidable c] (value cached : α) (f : α → Proxy),
      (if c then f value else f cached) = f ((if c then some value else none).getD cached) := by
    intro α c _ value cached f
    split_ifs <;> rfl
  cases call with
  | setActive value =>
    exact change_proxy.trans (hget _ value proxy.active fun active => { proxy with active })
  | setInverse value =>
    exact change_proxy.trans (hget _ value proxy.inverse fun inverse => { proxy with inverse })
  | setBlacklist strings =>
    exact change_proxy.trans
      (hget _ strings proxy.blacklist fun blacklist => { proxy with blacklist })
  | blacklistAddEntry path =>
    exact change_proxy.trans (hget _ _ proxy.blacklist fun blacklist => { proxy with blacklist })
  | blacklistDelEntry path =>
    exact change_proxy.trans (hget _ _ proxy.blacklist fun blacklist => { proxy with blacklist })
  | setWhitelist strings =>
    exact change_proxy.trans
      (hget _ strings proxy.whitelist fun whitelist => { proxy with whitelist })
  | whitelistAddEntry name =>
    exact change_proxy.trans (hget _ _ proxy.whitelist fun whitelist => { proxy with whitelist })
  | whitelistDelEntry name =>
    exact change_proxy.trans (hget _ _ proxy.whitelist fun whitelist => { proxy with whitelist })

variable {io}

theorem proxy_callStep {p p' : Proxy × δ} {call : Call} (h : callStep io p call = some p') :
    p'.1 = p.1.after call := by
  rw [callStep] at h
  split_ifs at h
  obtain rfl := Option.some.inj h
  exact call_proxy io p.1 call p.2

/-- What calls cache. -/
theorem proxy_calls {p p' : Proxy × δ} {l : List Call} (h : calls io p l = some p') :
    p'.1 = l.foldl after p.1 := by
  induction l generalizing p with
  | nil =>
    obtain rfl := Option.some.inj h
    rfl
  | cons call l ih =>
    obtain ⟨p₁, hp₁, h⟩ := Option.bind_eq_some_iff.mp h
    rw [ih h, proxy_callStep hp₁]
    rfl

end Calls

/-- Calls that have nothing to do with the whitelist leave it as it is. -/
theorem whitelist_foldl_after {calls : List Call}
    (h : ∀ call ∈ calls, call.whitelist = fun _ => none) (proxy : Proxy) :
    (calls.foldl after proxy).whitelist = proxy.whitelist := by
  induction calls generalizing proxy with
  | nil => rfl
  | cons call calls ih =>
    obtain ⟨hcall, hcalls⟩ := List.forall_mem_cons.mp h
    rw [List.foldl_cons, ih hcalls, after, hcall]
    rfl

/-- Nor do calls that have nothing to do with the blacklist change that. -/
theorem blacklist_foldl_after {calls : List Call}
    (h : ∀ call ∈ calls, call.blacklist = fun _ => none) (proxy : Proxy) :
    (calls.foldl after proxy).blacklist = proxy.blacklist := by
  induction calls generalizing proxy with
  | nil => rfl
  | cons call calls ih =>
    obtain ⟨hcall, hcalls⟩ := List.forall_mem_cons.mp h
    rw [List.foldl_cons, ih hcalls, after, hcall]
    rfl

end Proxy

/-! ### The settings are in force -/

namespace ConfigurationStore.Has

variable {s : ConfigurationStore} {c : Configuration}

theorem setActive (h : s.Has c) (value : Bool) :
    (s.setSwitch .active value).Has { c with active := value } where
  active := by simp [ConfigurationStore.active, ConfigurationStore.setSwitch]
  inverse := h.inverse
  blacklist := h.blacklist
  whitelist := h.whitelist

theorem setInverse (h : s.Has c) (value : Bool) :
    (s.setSwitch .whitelistedInverse value).Has { c with inverse := value } where
  active := h.active
  inverse := by simp [ConfigurationStore.inverse, ConfigurationStore.setSwitch]
  blacklist := h.blacklist
  whitelist := h.whitelist

theorem setBlacklist (h : s.Has c) {S : DeviceInstancePaths} (hS : ∀ path ∈ S, Plain path) :
    (s.setList .blacklist (Proxy.writeSet S)).Has { c with blacklist := S } := by
  refine ⟨h.active, h.inverse, ofList_list_setList s .blacklist hS, ?_⟩
  rw [ConfigurationStore.whitelist, ConfigurationStore.list_setList,
    Function.update_of_ne (by decide)]
  exact h.whitelist

theorem setWhitelist (h : s.Has c) {S : OrderedSet pathLt} (hS : ∀ name ∈ S, Plain name) :
    (s.setList .whitelist (Proxy.writeSet S)).Has { c with whitelist := S } := by
  refine ⟨h.active, h.inverse, ?_, ?_⟩
  · rw [ConfigurationStore.blacklist, ConfigurationStore.list_setList,
      Function.update_of_ne (by decide)]
    exact h.blacklist
  · rw [ConfigurationStore.whitelist, ofList_list_setList s .whitelist hS]
    exact .refl _

end ConfigurationStore.Has

namespace Proxy

variable {δ : Type*} {io : DeviceRequests δ} {stands : ConfigurationStore → δ → Prop}

/-- The proxy writes through, and its settings are what a client reads of the device. -/
structure InForce (stands : ConfigurationStore → δ → Prop) (p : Proxy × δ) : Prop where
  writeThrough : p.1.writeThrough = true
  stored : ∃ s, stands s p.2 ∧ s.Has p.1.configuration

namespace InForce

variable {proxy : Proxy} {d : δ} (h : InForce stands (proxy, d))
include h

/-- A change that is written through. -/
theorem change {changedProxy : Proxy} {changed : Prop} [Decidable changed]
    {send : δ → NTStatus × δ} (hthrough : changedProxy.writeThrough = proxy.writeThrough)
    (hsend : ∀ s, stands s d → s.Has proxy.configuration → changed → NTSuccess (send d).1 →
      ∃ s', stands s' (send d).2 ∧ s'.Has changedProxy.configuration)
    (hok : NTSuccess (Proxy.change changed changedProxy send proxy d).1) :
    InForce stands (Proxy.change changed changedProxy send proxy d).2 := by
  obtain ⟨s, hs, hhas⟩ := h.stored
  rw [Proxy.change] at hok ⊢
  by_cases hchanged : changed
  · rw [if_pos hchanged, if_pos (hthrough.trans h.writeThrough)] at hok ⊢
    exact ⟨hthrough.trans h.writeThrough, hsend s hs hhas hchanged hok⟩
  · rw [if_neg hchanged]
    exact h

/-- A call that sets the blacklist. -/
theorem changeBlacklist (hio : io.AnswersAs stands) {S : DeviceInstancePaths} {changed : Prop}
    [Decidable changed] (hS : changed → { proxy with blacklist := S }.configuration.Sendable)
    (hok : NTSuccess (Proxy.change changed { proxy with blacklist := S } (io.setBlacklist S) proxy
      d).1) :
    InForce stands
      (Proxy.change changed { proxy with blacklist := S } (io.setBlacklist S) proxy d).2 := by
  refine h.change rfl (fun s hs hhas hchanged hsent => ?_) hok
  exact ⟨_, hio.setList hs (hS hchanged).fits.blacklist hsent,
    hhas.setBlacklist (hS hchanged).blacklist⟩

/-- A call that sets the whitelist. -/
theorem changeWhitelist (hio : io.AnswersAs stands) {S : OrderedSet pathLt} {changed : Prop}
    [Decidable changed] (hS : changed → { proxy with whitelist := S }.configuration.Sendable)
    (hok : NTSuccess (Proxy.change changed { proxy with whitelist := S } (io.setWhitelist S) proxy
      d).1) :
    InForce stands
      (Proxy.change changed { proxy with whitelist := S } (io.setWhitelist S) proxy d).2 := by
  refine h.change rfl (fun s hs hhas hchanged hsent => ?_) hok
  exact ⟨_, hio.setList hs (hS hchanged).fits.whitelist hsent,
    hhas.setWhitelist (hS hchanged).whitelist⟩

/-- **A call** keeps the settings in force, if they can be sent. -/
theorem call (hio : io.AnswersAs stands) {call : Call}
    (hsendable : (proxy.after call).configuration.Sendable)
    (hok : NTSuccess (proxy.call io call d).1) : InForce stands (proxy.call io call d).2 := by
  -- what is cached when something changes
  have hafter : ∀ {changed : Prop} [Decidable changed] {changedProxy : Proxy}
      {send : δ → NTStatus × δ}, Proxy.change changed changedProxy send proxy d =
        proxy.call io call d → changed → changedProxy.configuration.Sendable := by
    intro changed _ changedProxy send heq hchanged
    rw [← call_proxy io proxy call d, ← heq, change_proxy, if_pos hchanged] at hsendable
    exact hsendable
  cases call with
  | setActive value =>
    refine h.change rfl (fun s hs hhas _ hsent => ?_) hok
    exact ⟨_, hio.setSwitch hs hsent, hhas.setActive value⟩
  | setInverse value =>
    refine h.change rfl (fun s hs hhas _ hsent => ?_) hok
    exact ⟨_, hio.setSwitch hs hsent, hhas.setInverse value⟩
  | setBlacklist strings => exact h.changeBlacklist hio (hafter rfl) hok
  | blacklistAddEntry path => exact h.changeBlacklist hio (hafter rfl) hok
  | blacklistDelEntry path => exact h.changeBlacklist hio (hafter rfl) hok
  | setWhitelist strings => exact h.changeWhitelist hio (hafter rfl) hok
  | whitelistAddEntry name => exact h.changeWhitelist hio (hafter rfl) hok
  | whitelistDelEntry name => exact h.changeWhitelist hio (hafter rfl) hok

end InForce

/-- **Calls** keep the settings in force. -/
theorem InForce.calls (hio : io.AnswersAs stands) {p p' : Proxy × δ} (h : InForce stands p)
    {l : List Call}
    (hsendable : ∀ done, done <+: l → (done.foldl after p.1).configuration.Sendable)
    (hrun : Proxy.calls io p l = some p') : InForce stands p' := by
  induction l generalizing p with
  | nil =>
    obtain rfl := Option.some.inj hrun
    exact h
  | cons call l ih =>
    obtain ⟨p₁, hp₁, hrun⟩ := Option.bind_eq_some_iff.mp hrun
    have hproxy := proxy_callStep hp₁
    rw [callStep] at hp₁
    split_ifs at hp₁ with hok
    obtain rfl := Option.some.inj hp₁
    refine ih (InForce.call h hio (hsendable [call] ⟨l, rfl⟩) hok) (fun done hdone => ?_) hrun
    rw [hproxy]
    exact hsendable (call :: done) (List.cons_prefix_cons.mpr ⟨rfl, hdone⟩)

/-- A proxy that has been created has its settings in force. -/
theorem InForce.create (hio : io.AnswersAs stands) {s : ConfigurationStore} {d d' : δ}
    (h : stands s d) {own : WString} (hown : nul ∉ own)
    (hfits : 2 * (writeSet (enrolled own s.inverse s.whitelist)).length < 2 ^ 32) {proxy : Proxy}
    (hcreate : Proxy.create io own true d = (.ok proxy, d')) : InForce stands (proxy, d') := by
  obtain ⟨s', hstore, hstands⟩ := hio.create h hcreate hfits
  rw [create_store] at hstore
  obtain ⟨hproxy, rfl⟩ := Prod.mk.inj hstore
  obtain rfl := Except.ok.inj hproxy
  exact ⟨rfl, _, hstands, .create hown s⟩

end Proxy

end HidHide
