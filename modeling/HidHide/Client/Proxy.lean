import HidHide.Client.Device

/-!
# The proxy and its cache

The class `FilterDriverProxy` with all four settings, on any device that answers its requests. A
setter changes what is cached, and sends the change if the proxy writes through; otherwise
`ApplyConfigurationChanges` sends at the end what differs from what the device has.

Sets of paths are compared path by path, so two spellings of a path are no difference. On the store,
`ApplyConfigurationChanges` is a chain of four stages (`applyConfigurationChanges_store`).
-/

namespace HidHide

/-- `FilterDriverProxy`: what is cached of the lists and the switches. -/
structure Proxy where
  writeThrough : Bool
  blacklist : DeviceInstancePaths
  whitelist : OrderedSet pathLt
  active : Bool
  inverse : Bool

namespace Proxy

section Setters

variable {δ : Type*} (io : DeviceRequests δ)

/-- The body of the setters: a change is made in the cache, and sent if the proxy writes through. -/
def change (changed : Prop) [Decidable changed] (changedProxy : Proxy) (send : δ → NTStatus × δ)
    (proxy : Proxy) (s : δ) : NTStatus × Proxy × δ :=
  if changed then
    if changedProxy.writeThrough then
      let (ntstatus, s) := send s
      (ntstatus, changedProxy, s)
    else (statusSuccess, changedProxy, s)
  else (statusSuccess, proxy, s)

/-- `SetActive`. -/
def setActive (active : Bool) (proxy : Proxy) : δ → NTStatus × Proxy × δ :=
  change (proxy.active ≠ active) { proxy with active } (io.setActive active) proxy

/-- `SetInverse`. -/
def setInverse (inverse : Bool) (proxy : Proxy) : δ → NTStatus × Proxy × δ :=
  change (proxy.inverse ≠ inverse) { proxy with inverse } (io.setInverse inverse) proxy

/-- `SetBlacklist`. -/
def setBlacklist (deviceInstancePaths : DeviceInstancePaths) (proxy : Proxy) :
    δ → NTStatus × Proxy × δ :=
  change (proxy.blacklist ≠ deviceInstancePaths) { proxy with blacklist := deviceInstancePaths }
    (io.setBlacklist deviceInstancePaths) proxy

/-- `BlacklistAddEntry`. -/
def blacklistAddEntry (deviceInstancePath : WString) (proxy : Proxy) : δ → NTStatus × Proxy × δ :=
  let blacklist := proxy.blacklist.emplace deviceInstancePath
  change (¬proxy.blacklist.Contains deviceInstancePath) { proxy with blacklist }
    (io.setBlacklist blacklist) proxy

/-- `BlacklistDelEntry`. -/
def blacklistDelEntry (deviceInstancePath : WString) (proxy : Proxy) : δ → NTStatus × Proxy × δ :=
  let blacklist := proxy.blacklist.erase deviceInstancePath
  change (proxy.blacklist.Contains deviceInstancePath) { proxy with blacklist }
    (io.setBlacklist blacklist) proxy

/-- `SetWhitelist`. -/
def setWhitelist (fullImageNames : OrderedSet pathLt) (proxy : Proxy) : δ → NTStatus × Proxy × δ :=
  change (¬proxy.whitelist.Equiv fullImageNames) { proxy with whitelist := fullImageNames }
    (io.setWhitelist fullImageNames) proxy

/-- `WhitelistAddEntry`. -/
def whitelistAddEntry (fullImageName : WString) (proxy : Proxy) : δ → NTStatus × Proxy × δ :=
  let whitelist := proxy.whitelist.emplace fullImageName
  change (¬proxy.whitelist.Contains fullImageName) { proxy with whitelist }
    (io.setWhitelist whitelist) proxy

/-- `WhitelistDelEntry`. -/
def whitelistDelEntry (fullImageName : WString) (proxy : Proxy) : δ → NTStatus × Proxy × δ :=
  let whitelist := proxy.whitelist.erase fullImageName
  change (proxy.whitelist.Contains fullImageName) { proxy with whitelist }
    (io.setWhitelist whitelist) proxy

/-- The whitelist with the application itself, or without it when the whitelist is inverse. -/
def enrolled (fullImageName : WString) (inverse : Bool) (whitelist : OrderedSet pathLt) :
    OrderedSet pathLt :=
  if fullImageName = [] then whitelist
  else if inverse then whitelist.erase fullImageName
  else whitelist.emplace fullImageName

/-- That is another whitelist. -/
def Enrolls (fullImageName : WString) (inverse : Bool) (whitelist : OrderedSet pathLt) : Prop :=
  fullImageName ≠ [] ∧ (inverse = false ∧ ¬whitelist.Contains fullImageName ∨
    inverse = true ∧ whitelist.Contains fullImageName)

instance (fullImageName : WString) (inverse : Bool) (whitelist : OrderedSet pathLt) :
    Decidable (Enrolls fullImageName inverse whitelist) :=
  inferInstanceAs (Decidable (_ ∧ (_ ∨ _)))

/-- The constructor, with the full image name of the module. -/
def create (fullImageName : WString) (writeThrough : Bool) (s : δ) : Except NTStatus Proxy × δ :=
  match io.getActive s with
  | (.error ntstatus, s) => (.error ntstatus, s)
  | (.ok active, s) =>
    match io.getBlacklist s with
    | (.error ntstatus, s) => (.error ntstatus, s)
    | (.ok blacklist, s) =>
      match io.getWhitelist s with
      | (.error ntstatus, s) => (.error ntstatus, s)
      | (.ok whitelist, s) =>
        match io.getInverse s with
        | (.error ntstatus, s) => (.error ntstatus, s)
        | (.ok inverse, s) =>
          let proxy : Proxy :=
            { writeThrough, active, blacklist, inverse
              whitelist := enrolled fullImageName inverse whitelist }
          if Enrolls fullImageName inverse whitelist then
            let (ntstatus, s) := io.setWhitelist proxy.whitelist s
            if ¬NTSuccess ntstatus then (.error ntstatus, s) else (.ok proxy, s)
          else (.ok proxy, s)

/-- Set what differs from what is got. -/
def setIfChanged {α : Type*} (get : δ → Except NTStatus α × δ) (same : α → Prop)
    [DecidablePred same] (send : δ → NTStatus × δ) (s : δ) : NTStatus × δ :=
  match get s with
  | (.error ntstatus, s) => (ntstatus, s)
  | (.ok value, s) => if same value then (statusSuccess, s) else send s

/-- Go on after a success. -/
def andThen (r : NTStatus × δ) (next : δ → NTStatus × δ) : NTStatus × δ :=
  if NTSuccess r.1 then next r.2 else r

/-- `ApplyConfigurationChanges`. -/
def applyConfigurationChanges (proxy : Proxy) (s : δ) : NTStatus × δ :=
  if proxy.writeThrough then (statusInvalidParameter, s)
  else
    andThen (andThen (andThen
      (setIfChanged io.getWhitelist (·.Equiv proxy.whitelist) (io.setWhitelist proxy.whitelist) s)
      (setIfChanged io.getBlacklist (· = proxy.blacklist) (io.setBlacklist proxy.blacklist)))
      (setIfChanged io.getActive (· = proxy.active) (io.setActive proxy.active)))
      (setIfChanged io.getInverse (· = proxy.inverse) (io.setInverse proxy.inverse))

/-- A setting is left alone or set, if getting it fails only with an error. -/
theorem setIfChanged_of_success {α : Type*} {get : δ → Except NTStatus α × δ} {same : α → Prop}
    [DecidablePred same] {send : δ → NTStatus × δ} {s : δ}
    (herror : ∀ ntstatus, (get s).1 = .error ntstatus → ¬NTSuccess ntstatus)
    (h : NTSuccess (setIfChanged get same send s).1) :
    ∃ value s', get s = (.ok value, s') ∧
      (same value ∧ setIfChanged get same send s = (statusSuccess, s') ∨
        ¬same value ∧ setIfChanged get same send s = send s') := by
  rw [setIfChanged] at h ⊢
  rcases hget : get s with ⟨ntstatus | value, s'⟩
  · rw [hget] at h
    exact absurd h (herror ntstatus (congrArg Prod.fst hget))
  · refine ⟨value, s', rfl, ?_⟩
    dsimp only
    split_ifs with hsame
    · exact .inl ⟨hsame, rfl⟩
    · exact .inr ⟨hsame, rfl⟩

/-- The second stage is reached after the first one has succeeded. -/
theorem andThen_of_success {r : NTStatus × δ} {next : δ → NTStatus × δ}
    (h : NTSuccess (andThen r next).1) :
    NTSuccess r.1 ∧ NTSuccess (next r.2).1 ∧ andThen r next = next r.2 := by
  rw [andThen] at h ⊢
  split_ifs at h ⊢ with hfirst
  · exact ⟨hfirst, h, rfl⟩
  · exact absurd h hfirst

end Setters

/-! ### Calls of the setters -/

/-- A call of a setter. -/
inductive Call where
  | setActive (active : Bool)
  | setInverse (inverse : Bool)
  | setBlacklist (deviceInstancePaths : DeviceInstancePaths)
  | blacklistAddEntry (deviceInstancePath : WString)
  | blacklistDelEntry (deviceInstancePath : WString)
  | setWhitelist (fullImageNames : OrderedSet pathLt)
  | whitelistAddEntry (fullImageName : WString)
  | whitelistDelEntry (fullImageName : WString)

/-- Make a call. -/
def call {δ : Type*} (io : DeviceRequests δ) (proxy : Proxy) : Call → δ → NTStatus × Proxy × δ
  | .setActive active => proxy.setActive io active
  | .setInverse inverse => proxy.setInverse io inverse
  | .setBlacklist deviceInstancePaths => proxy.setBlacklist io deviceInstancePaths
  | .blacklistAddEntry deviceInstancePath => proxy.blacklistAddEntry io deviceInstancePath
  | .blacklistDelEntry deviceInstancePath => proxy.blacklistDelEntry io deviceInstancePath
  | .setWhitelist fullImageNames => proxy.setWhitelist io fullImageNames
  | .whitelistAddEntry fullImageName => proxy.whitelistAddEntry io fullImageName
  | .whitelistDelEntry fullImageName => proxy.whitelistDelEntry io fullImageName

end Proxy

/-! ### The proxy of the store -/

namespace ConfigurationStore

/-- What `GetBlacklist` returns. -/
def blacklist (s : ConfigurationStore) : DeviceInstancePaths :=
  OrderedSet.ofList wstringLt (s.list .blacklist)

/-- What `GetWhitelist` returns. -/
def whitelist (s : ConfigurationStore) : OrderedSet pathLt :=
  OrderedSet.ofList pathLt (s.list .whitelist)

/-- What `GetActive` returns. -/
abbrev active (s : ConfigurationStore) : Bool := s.switch .active

/-- What `GetInverse` returns. -/
abbrev inverse (s : ConfigurationStore) : Bool := s.switch .whitelistedInverse

variable (s : ConfigurationStore)

/-- A list is set if it differs. -/
def flushBlacklist (deviceInstancePaths : DeviceInstancePaths) : ConfigurationStore :=
  if s.blacklist = deviceInstancePaths then s
  else s.setList .blacklist (stringListToMultiString deviceInstancePaths.toList)

/-- A list is set if it differs. -/
def flushWhitelist (fullImageNames : OrderedSet pathLt) : ConfigurationStore :=
  if s.whitelist.Equiv fullImageNames then s
  else s.setList .whitelist (stringListToMultiString fullImageNames.toList)

/-- A switch is set if it differs. -/
def flushSwitch (kind : SwitchKind) (value : Bool) : ConfigurationStore :=
  if s.switch kind = value then s else s.setSwitch kind value

end ConfigurationStore

namespace Proxy

variable (proxy : Proxy) (s : ConfigurationStore)

/-- A setting of a store that grants every request. -/
theorem setIfChanged_store {α : Type*} {get : ConfigurationStore → Except NTStatus α ×
    ConfigurationStore} {same : α → Prop} [DecidablePred same]
    {send : ConfigurationStore → NTStatus × ConfigurationStore} {value : α}
    {s s' : ConfigurationStore} (hget : get s = (.ok value, s))
    (hsend : send s = (statusSuccess, s')) :
    setIfChanged get same send s = (statusSuccess, if same value then s else s') := by
  rw [setIfChanged, hget]
  dsimp only
  split_ifs
  · rfl
  · exact hsend

theorem andThen_success {s : ConfigurationStore}
    (next : ConfigurationStore → NTStatus × ConfigurationStore) :
    andThen (statusSuccess, s) next = next s := if_pos ntSuccess_statusSuccess

/-- **`ApplyConfigurationChanges`** on the store: the four settings in order. -/
theorem applyConfigurationChanges_store (h : proxy.writeThrough = false) :
    proxy.applyConfigurationChanges storeRequests s =
      (statusSuccess, (((s.flushWhitelist proxy.whitelist).flushBlacklist
        proxy.blacklist).flushSwitch .active proxy.active).flushSwitch .whitelistedInverse
          proxy.inverse) := by
  have hwhitelist : ∀ s, setIfChanged storeRequests.getWhitelist (·.Equiv proxy.whitelist)
      (storeRequests.setWhitelist proxy.whitelist) s =
        (statusSuccess, s.flushWhitelist proxy.whitelist) := fun s =>
    setIfChanged_store (storeRequests_getStrings pathLt .whitelist s) rfl
  have hblacklist : ∀ s, setIfChanged storeRequests.getBlacklist (· = proxy.blacklist)
      (storeRequests.setBlacklist proxy.blacklist) s =
        (statusSuccess, s.flushBlacklist proxy.blacklist) := fun s =>
    setIfChanged_store (storeRequests_getStrings wstringLt .blacklist s) rfl
  have hactive : ∀ s, setIfChanged storeRequests.getActive (· = proxy.active)
      (storeRequests.setActive proxy.active) s =
        (statusSuccess, s.flushSwitch .active proxy.active) := fun s =>
    setIfChanged_store rfl rfl
  have hinverse : ∀ s, setIfChanged storeRequests.getInverse (· = proxy.inverse)
      (storeRequests.setInverse proxy.inverse) s =
        (statusSuccess, s.flushSwitch .whitelistedInverse proxy.inverse) := fun s =>
    setIfChanged_store rfl rfl
  rw [applyConfigurationChanges, h, if_neg Bool.false_ne_true, hwhitelist, andThen_success,
    hblacklist, andThen_success, hactive, andThen_success, hinverse]

/-- **The constructor** on the store. -/
theorem create_store (fullImageName : WString) (writeThrough : Bool) :
    let whitelist := enrolled fullImageName s.inverse s.whitelist
    create storeRequests fullImageName writeThrough s =
      (.ok { writeThrough, active := s.active, blacklist := s.blacklist, whitelist,
             inverse := s.inverse },
        if Enrolls fullImageName s.inverse s.whitelist then
          s.setList .whitelist (stringListToMultiString whitelist.toList)
        else s) := by
  have hactive : storeRequests.getActive s = (.ok s.active, s) := rfl
  have hinverse : storeRequests.getInverse s = (.ok s.inverse, s) := rfl
  have hblacklist : storeRequests.getBlacklist s = (.ok s.blacklist, s) :=
    storeRequests_getStrings wstringLt .blacklist s
  have hwhitelist : storeRequests.getWhitelist s = (.ok s.whitelist, s) :=
    storeRequests_getStrings pathLt .whitelist s
  have hset : ∀ whitelist, storeRequests.setWhitelist whitelist s =
      (statusSuccess, s.setList .whitelist (stringListToMultiString whitelist.toList)) :=
    fun _ => rfl
  simp only [create, hactive, hblacklist, hwhitelist, hinverse, hset, ntSuccess_statusSuccess,
    not_true, if_false]
  split_ifs <;> rfl

theorem enrolled_of_not_enrolls {fullImageName : WString} {inverse : Bool}
    {whitelist : OrderedSet pathLt} (h : ¬Enrolls fullImageName inverse whitelist) :
    enrolled fullImageName inverse whitelist = whitelist := by
  rw [enrolled]
  split_ifs with hempty hinverse
  · rfl
  · exact OrderedSet.erase_of_not_contains fun hmem => h ⟨hempty, .inr ⟨hinverse, hmem⟩⟩
  · refine OrderedSet.emplace_of_contains (not_not.mp fun hmem => h ⟨hempty, .inl ⟨?_, hmem⟩⟩)
    simpa using hinverse

/-- A call on the store. -/
def step (p : Proxy × ConfigurationStore) (call : Call) : Proxy × ConfigurationStore :=
  (p.1.call storeRequests call p.2).2

/-- A setter on the store. -/
theorem change_store {changed : Prop} [Decidable changed] {changedProxy proxy : Proxy}
    {send : ConfigurationStore → NTStatus × ConfigurationStore} {s s' : ConfigurationStore}
    (hsend : send s = (statusSuccess, s')) :
    (change changed changedProxy send proxy s).2 =
      if changed then (changedProxy, if changedProxy.writeThrough then s' else s)
      else (proxy, s) := by
  simp only [change, hsend]
  split_ifs <;> rfl

/-- A list as the client writes it. -/
abbrev writeSet {lt : WString → WString → Prop} (strings : OrderedSet lt) : List WChar :=
  stringListToMultiString strings.toList

theorem step_setActive (value : Bool) :
    step (proxy, s) (.setActive value) =
      if proxy.active ≠ value then
        ({ proxy with active := value },
          if proxy.writeThrough then s.setSwitch .active value else s)
      else (proxy, s) := change_store rfl

theorem step_setInverse (value : Bool) :
    step (proxy, s) (.setInverse value) =
      if proxy.inverse ≠ value then
        ({ proxy with inverse := value },
          if proxy.writeThrough then s.setSwitch .whitelistedInverse value else s)
      else (proxy, s) := change_store rfl

theorem step_setBlacklist (strings : DeviceInstancePaths) :
    step (proxy, s) (.setBlacklist strings) =
      if proxy.blacklist ≠ strings then
        ({ proxy with blacklist := strings },
          if proxy.writeThrough then s.setList .blacklist (writeSet strings) else s)
      else (proxy, s) := change_store rfl

theorem step_blacklistAddEntry (path : WString) :
    step (proxy, s) (.blacklistAddEntry path) =
      if ¬proxy.blacklist.Contains path then
        ({ proxy with blacklist := proxy.blacklist.emplace path },
          if proxy.writeThrough then s.setList .blacklist (writeSet (proxy.blacklist.emplace path))
          else s)
      else (proxy, s) := change_store rfl

theorem step_blacklistDelEntry (path : WString) :
    step (proxy, s) (.blacklistDelEntry path) =
      if proxy.blacklist.Contains path then
        ({ proxy with blacklist := proxy.blacklist.erase path },
          if proxy.writeThrough then s.setList .blacklist (writeSet (proxy.blacklist.erase path))
          else s)
      else (proxy, s) := change_store rfl

theorem step_setWhitelist (strings : OrderedSet pathLt) :
    step (proxy, s) (.setWhitelist strings) =
      if ¬proxy.whitelist.Equiv strings then
        ({ proxy with whitelist := strings },
          if proxy.writeThrough then s.setList .whitelist (writeSet strings) else s)
      else (proxy, s) := change_store rfl

theorem step_whitelistAddEntry (name : WString) :
    step (proxy, s) (.whitelistAddEntry name) =
      if ¬proxy.whitelist.Contains name then
        ({ proxy with whitelist := proxy.whitelist.emplace name },
          if proxy.writeThrough then s.setList .whitelist (writeSet (proxy.whitelist.emplace name))
          else s)
      else (proxy, s) := change_store rfl

theorem step_whitelistDelEntry (name : WString) :
    step (proxy, s) (.whitelistDelEntry name) =
      if proxy.whitelist.Contains name then
        ({ proxy with whitelist := proxy.whitelist.erase name },
          if proxy.writeThrough then s.setList .whitelist (writeSet (proxy.whitelist.erase name))
          else s)
      else (proxy, s) := change_store rfl

/-- The store grants every call. -/
theorem call_store_status (call : Call) :
    (proxy.call storeRequests call s).1 = statusSuccess := by
  have hchange : ∀ {changed : Prop} [Decidable changed] {changedProxy : Proxy}
      {send : ConfigurationStore → NTStatus × ConfigurationStore} {s' : ConfigurationStore},
      send s = (statusSuccess, s') →
      (change changed changedProxy send proxy s).1 = statusSuccess := by
    intro changed _ changedProxy send s' hsend
    simp only [change, hsend]
    split_ifs <;> rfl
  cases call <;> exact hchange rfl

end Proxy

end HidHide
