import HidHide.ForMathlib.CachedCell
import HidHide.Client.Proxy

/-!
# Write-through and deferred mode

A proxy either writes each change through to the device or applies them all at the end. Each of the
four settings is a cached value of its own: a call changes the settings by `Call.active` and its
like, and for each setting the proxy and the store are a `CachedCell`. So the two modes leave the
store with the same settings (`writeThrough_eq_deferred`).

The lists are compared as the client reads them, and names of a whitelist as paths: of two spellings
of a path, the store may be left with either.
-/

namespace HidHide

namespace Proxy

/-! ### What a call changes -/

namespace Call

/-- What a call makes of the active switch, if it changes it. -/
def active : Call → Bool → Option Bool
  | .setActive value, cached => if cached ≠ value then some value else none
  | _, _ => none

/-- What a call makes of the inverse switch, if it changes it. -/
def inverse : Call → Bool → Option Bool
  | .setInverse value, cached => if cached ≠ value then some value else none
  | _, _ => none

/-- What a call makes of the blacklist, if it changes it. -/
def blacklist : Call → DeviceInstancePaths → Option DeviceInstancePaths
  | .setBlacklist value, cached => if cached ≠ value then some value else none
  | .blacklistAddEntry path, cached =>
      if ¬cached.Contains path then some (cached.emplace path) else none
  | .blacklistDelEntry path, cached =>
      if cached.Contains path then some (cached.erase path) else none
  | _, _ => none

/-- What a call makes of the whitelist, if it changes it. -/
def whitelist : Call → OrderedSet pathLt → Option (OrderedSet pathLt)
  | .setWhitelist value, cached => if ¬cached.Equiv value then some value else none
  | .whitelistAddEntry name, cached =>
      if ¬cached.Contains name then some (cached.emplace name) else none
  | .whitelistDelEntry name, cached =>
      if cached.Contains name then some (cached.erase name) else none
  | _, _ => none

end Call

/-! ### The settings as cached values -/

/-- A list of the store as the client reads it. -/
def readSet (lt : WString → WString → Prop) [DecidableRel lt] [IsTrans WString lt]
    (multiString : List WChar) : OrderedSet lt :=
  OrderedSet.ofList lt (MultiString.decode nul multiString)

/-- What is read is plain. -/
theorem plain_of_mem_readSet {lt : WString → WString → Prop} [DecidableRel lt]
    [IsStrictOrder WString lt] {multiString : List WChar} {string : WString}
    (h : string ∈ readSet lt multiString) : Plain string :=
  MultiString.mem_decode (OrderedSet.mem_of_mem_ofList h)

/-- **A list of plain strings** is read back as it has been written. -/
theorem readSet_writeSet {lt : WString → WString → Prop} [DecidableRel lt]
    [IsStrictOrder WString lt] {strings : OrderedSet lt} (h : ∀ string ∈ strings, Plain string) :
    readSet lt (writeSet strings) = strings := by
  rw [readSet, writeSet, decode_stringListToMultiString, readBack_of_plain h,
    OrderedSet.ofList_toList]

/-- What is read is read back when it is written again. -/
theorem readSet_writeSet_readSet {lt : WString → WString → Prop} [DecidableRel lt]
    [IsStrictOrder WString lt] (multiString : List WChar) :
    readSet lt (writeSet (readSet lt multiString)) = readSet lt multiString :=
  readSet_writeSet fun _ hstring => plain_of_mem_readSet hstring

/-- **A whitelist equivalent to one that is read** is read back as it has been written: no other
spelling of a plain path is empty or has a null character. -/
theorem equiv_readSet_writeSet {multiString : List WChar} {whitelist : OrderedSet pathLt}
    (h : (readSet pathLt multiString).Equiv whitelist) :
    (readSet pathLt (writeSet whitelist)).Equiv whitelist := by
  have hplain : ∀ name ∈ whitelist, Plain name := by
    intro name hname
    obtain ⟨name', hread, heq⟩ := h.symm.exists_mem hname
    rw [plain_iff_of_pathEq (equivalent_pathLt.mp heq)]
    exact plain_of_mem_readSet hread
  rw [readSet_writeSet hplain]
  exact .refl whitelist

/-- The four settings, each with what is cached and what is stored of it. -/
@[ext]
structure Cells where
  active : CachedCell Bool Bool
  inverse : CachedCell Bool Bool
  blacklist : CachedCell DeviceInstancePaths (List WChar)
  whitelist : CachedCell (OrderedSet pathLt) (List WChar)

/-- The settings of a proxy on a store. -/
def cells (p : Proxy × ConfigurationStore) : Cells where
  active := ⟨p.1.writeThrough, p.1.active, p.2.switch .active⟩
  inverse := ⟨p.1.writeThrough, p.1.inverse, p.2.switch .whitelistedInverse⟩
  blacklist := ⟨p.1.writeThrough, p.1.blacklist, p.2.multiString .blacklist⟩
  whitelist := ⟨p.1.writeThrough, p.1.whitelist, p.2.multiString .whitelist⟩

/-- A call assigns each of the settings. -/
def Cells.next (c : Cells) (call : Call) : Cells where
  active := c.active.assign id (call.active c.active.cached)
  inverse := c.inverse.assign id (call.inverse c.inverse.cached)
  blacklist := c.blacklist.assign writeSet (call.blacklist c.blacklist.cached)
  whitelist := c.whitelist.assign writeSet (call.whitelist c.whitelist.cached)

section Assign

variable (proxy : Proxy) (s : ConfigurationStore) (changed : Prop) [Decidable changed]

theorem cells_active (value : Bool) :
    cells (if changed then ({ proxy with active := value },
        if proxy.writeThrough then s.setSwitch .active value else s) else (proxy, s)) =
      { cells (proxy, s) with
        active := (cells (proxy, s)).active.assign id (if changed then some value else none) } := by
  split_ifs with hchanged hthrough
  · simp [cells, hthrough, ConfigurationStore.setSwitch]
  · simp [cells, hthrough]
  · rfl

theorem cells_inverse (value : Bool) :
    cells (if changed then ({ proxy with inverse := value },
        if proxy.writeThrough then s.setSwitch .whitelistedInverse value else s) else (proxy, s)) =
      { cells (proxy, s) with
        inverse := (cells (proxy, s)).inverse.assign id
          (if changed then some value else none) } := by
  split_ifs with hchanged hthrough
  · simp [cells, hthrough, ConfigurationStore.setSwitch]
  · simp [cells, hthrough]
  · rfl

theorem cells_blacklist (value : DeviceInstancePaths) :
    cells (if changed then ({ proxy with blacklist := value },
        if proxy.writeThrough then s.setList .blacklist (writeSet value) else s) else (proxy, s)) =
      { cells (proxy, s) with
        blacklist := (cells (proxy, s)).blacklist.assign writeSet
          (if changed then some value else none) } := by
  split_ifs with hchanged hthrough
  · simp [cells, hthrough, ConfigurationStore.setList]
  · simp [cells, hthrough]
  · rfl

theorem cells_whitelist (value : OrderedSet pathLt) :
    cells (if changed then ({ proxy with whitelist := value },
        if proxy.writeThrough then s.setList .whitelist (writeSet value) else s) else (proxy, s)) =
      { cells (proxy, s) with
        whitelist := (cells (proxy, s)).whitelist.assign writeSet
          (if changed then some value else none) } := by
  split_ifs with hchanged hthrough
  · simp [cells, hthrough, ConfigurationStore.setList]
  · simp [cells, hthrough]
  · rfl

end Assign

/-- **A call assigns each of the settings**: the one it is about, and nothing to the others. -/
theorem cells_step (p : Proxy × ConfigurationStore) (call : Call) :
    cells (step p call) = (cells p).next call := by
  obtain ⟨proxy, s⟩ := p
  cases call with
  | setActive value =>
    rw [step_setActive]
    exact cells_active proxy s _ value
  | setInverse value =>
    rw [step_setInverse]
    exact cells_inverse proxy s _ value
  | setBlacklist strings =>
    rw [step_setBlacklist]
    exact cells_blacklist proxy s _ strings
  | blacklistAddEntry path =>
    rw [step_blacklistAddEntry]
    exact cells_blacklist proxy s _ _
  | blacklistDelEntry path =>
    rw [step_blacklistDelEntry]
    exact cells_blacklist proxy s _ _
  | setWhitelist strings =>
    rw [step_setWhitelist]
    exact cells_whitelist proxy s _ strings
  | whitelistAddEntry name =>
    rw [step_whitelistAddEntry]
    exact cells_whitelist proxy s _ _
  | whitelistDelEntry name =>
    rw [step_whitelistDelEntry]
    exact cells_whitelist proxy s _ _

/-- What calls make of the settings. -/
theorem cells_run (p : Proxy × ConfigurationStore) (calls : List Call) :
    let c := cells p
    let c' := cells (calls.foldl step p)
    c'.active = c.active.run id Call.active calls ∧
      c'.inverse = c.inverse.run id Call.inverse calls ∧
      c'.blacklist = c.blacklist.run writeSet Call.blacklist calls ∧
      c'.whitelist = c.whitelist.run writeSet Call.whitelist calls := by
  intro c c'
  have hrun : c' = calls.foldl Cells.next c := (List.foldl_hom cells fun p call =>
    (cells_step p call).symm).symm
  rw [hrun]
  exact ⟨(List.foldl_hom Cells.active fun _ _ => rfl).symm,
    (List.foldl_hom Cells.inverse fun _ _ => rfl).symm,
    (List.foldl_hom Cells.blacklist fun _ _ => rfl).symm,
    (List.foldl_hom Cells.whitelist fun _ _ => rfl).symm⟩

/-! ### Applying the changes -/

section Apply

variable (proxy : Proxy) (s : ConfigurationStore)

theorem cells_flushSwitch_active :
    cells (proxy, s.flushSwitch .active proxy.active) =
      { cells (proxy, s) with active := (cells (proxy, s)).active.flush id id Eq } := by
  rw [ConfigurationStore.flushSwitch]
  by_cases hsame : s.switch .active = proxy.active
  · rw [if_pos hsame]
    exact Cells.ext (if_pos hsame).symm rfl rfl rfl
  · rw [if_neg hsame]
    refine Cells.ext (Eq.trans ?_ (if_neg hsame).symm) rfl rfl rfl
    simp [cells, ConfigurationStore.setSwitch]

theorem cells_flushSwitch_inverse :
    cells (proxy, s.flushSwitch .whitelistedInverse proxy.inverse) =
      { cells (proxy, s) with inverse := (cells (proxy, s)).inverse.flush id id Eq } := by
  rw [ConfigurationStore.flushSwitch]
  by_cases hsame : s.switch .whitelistedInverse = proxy.inverse
  · rw [if_pos hsame]
    exact Cells.ext rfl (if_pos hsame).symm rfl rfl
  · rw [if_neg hsame]
    refine Cells.ext rfl (Eq.trans ?_ (if_neg hsame).symm) rfl rfl
    simp [cells, ConfigurationStore.setSwitch]

theorem cells_flushBlacklist :
    cells (proxy, s.flushBlacklist proxy.blacklist) =
      { cells (proxy, s) with
        blacklist := (cells (proxy, s)).blacklist.flush (readSet wstringLt) writeSet Eq } := by
  rw [ConfigurationStore.flushBlacklist]
  by_cases hsame : s.blacklist = proxy.blacklist
  · rw [if_pos hsame]
    exact Cells.ext rfl rfl (if_pos hsame).symm rfl
  · rw [if_neg hsame]
    refine Cells.ext rfl rfl (Eq.trans ?_ (if_neg hsame).symm) rfl
    simp [cells, ConfigurationStore.setList]

theorem cells_flushWhitelist :
    cells (proxy, s.flushWhitelist proxy.whitelist) =
      { cells (proxy, s) with
        whitelist := (cells (proxy, s)).whitelist.flush (readSet pathLt) writeSet
          OrderedSet.Equiv } := by
  rw [ConfigurationStore.flushWhitelist]
  by_cases hsame : s.whitelist.Equiv proxy.whitelist
  · rw [if_pos hsame]
    exact Cells.ext rfl rfl rfl (if_pos hsame).symm
  · rw [if_neg hsame]
    refine Cells.ext rfl rfl rfl (Eq.trans ?_ (if_neg hsame).symm)
    simp [cells, ConfigurationStore.setList]

/-- **`ApplyConfigurationChanges` flushes each of the settings.** -/
theorem cells_apply (h : proxy.writeThrough = false) :
    let c := cells (proxy, s)
    cells (proxy, (proxy.applyConfigurationChanges storeRequests s).2) =
      ⟨c.active.flush id id Eq, c.inverse.flush id id Eq,
        c.blacklist.flush (readSet wstringLt) writeSet Eq,
        c.whitelist.flush (readSet pathLt) writeSet OrderedSet.Equiv⟩ := by
  rw [applyConfigurationChanges_store proxy s h, cells_flushSwitch_inverse,
    cells_flushSwitch_active, cells_flushBlacklist, cells_flushWhitelist]

end Apply

/-! ### The two modes -/

/-- What a proxy caches first is what the store has, or what it has just written. -/
theorem inStep_create {fullImageName : WString} {writeThrough : Bool} {s s' : ConfigurationStore}
    {proxy : Proxy} (h : create storeRequests fullImageName writeThrough s = (.ok proxy, s')) :
    (cells (proxy, s')).active.InStep id id Eq ∧ (cells (proxy, s')).inverse.InStep id id Eq ∧
      (cells (proxy, s')).blacklist.InStep (readSet wstringLt) writeSet Eq ∧
      (cells (proxy, s')).whitelist.InStep (readSet pathLt) writeSet OrderedSet.Equiv := by
  rw [create_store] at h
  obtain ⟨hproxy, hstore⟩ := Prod.mk.inj h
  obtain rfl := Except.ok.inj hproxy
  by_cases henrolls : Enrolls fullImageName s.inverse s.whitelist
  · rw [if_pos henrolls] at hstore
    subst hstore
    refine ⟨.inl rfl, .inl rfl, .inl rfl, .inr ?_⟩
    simp [cells, ConfigurationStore.setList]
  · rw [if_neg henrolls] at hstore
    subst hstore
    refine ⟨.inl rfl, .inl rfl, .inl rfl, .inl ?_⟩
    simp only [cells, enrolled_of_not_enrolls henrolls]
    exact .refl s.whitelist

/-- The modes differ in nothing else than the flag when a proxy is created. -/
theorem create_deferred {fullImageName : WString} {s s' : ConfigurationStore} {proxy : Proxy}
    (h : create storeRequests fullImageName true s = (.ok proxy, s')) :
    create storeRequests fullImageName false s =
      (.ok { proxy with writeThrough := false }, s') := by
  rw [create_store] at h ⊢
  obtain ⟨hproxy, hstore⟩ := Prod.mk.inj h
  obtain rfl := Except.ok.inj hproxy
  rw [hstore]

end Proxy

open Proxy

/-- **Write-through and deferred mode are equivalent.** Whatever is called of the setters, a proxy
that writes through leaves the store with the settings that a deferring one leaves it with when it
applies its changes at the end. The lists are those that the client reads. -/
theorem writeThrough_eq_deferred (fullImageName : WString) (s : ConfigurationStore)
    (calls : List Proxy.Call) :
    ∃ through deferred s₁, create storeRequests fullImageName true s = (.ok through, s₁) ∧
      create storeRequests fullImageName false s = (.ok deferred, s₁) ∧
      let s₂ := (calls.foldl step (through, s₁)).2
      let last := calls.foldl step (deferred, s₁)
      let r := last.1.applyConfigurationChanges storeRequests last.2
      r.1 = statusSuccess ∧ s₂.active = r.2.active ∧ s₂.inverse = r.2.inverse ∧
        s₂.blacklist = r.2.blacklist ∧ s₂.whitelist.Equiv r.2.whitelist := by
  obtain ⟨through, s₁, hthrough⟩ : ∃ (proxy : Proxy) (s₁ : ConfigurationStore),
      create storeRequests fullImageName true s = (.ok { proxy with writeThrough := true }, s₁) :=
    ⟨{ writeThrough := true, active := s.active, blacklist := s.blacklist, inverse := s.inverse,
       whitelist := enrolled fullImageName s.inverse s.whitelist }, _, create_store ..⟩
  refine ⟨_, _, s₁, hthrough, create_deferred hthrough, ?_⟩
  intro s₂ last r
  obtain ⟨hactive, hinverse, hblacklist, hwhitelist⟩ := inStep_create hthrough
  obtain ⟨hactive₁, hinverse₁, hblacklist₁, hwhitelist₁⟩ :=
    cells_run ({ through with writeThrough := true }, s₁) calls
  obtain ⟨hactive₂, hinverse₂, hblacklist₂, hwhitelist₂⟩ :=
    cells_run ({ through with writeThrough := false }, s₁) calls
  have hdeferred : last.1.writeThrough = false := by
    have hflag := congrArg CachedCell.writeThrough hactive₂
    rw [CachedCell.writeThrough_run] at hflag
    exact hflag
  have happly := cells_apply last.1 last.2 hdeferred
  refine ⟨?_, ?_, ?_, ?_, ?_⟩
  · change (applyConfigurationChanges storeRequests last.1 last.2).1 = _
    rw [applyConfigurationChanges_store last.1 last.2 hdeferred]
  · exact @CachedCell.read_flush _ _ _ id id Eq Proxy.Call.active _ eq_equivalence
      (fun _ _ _ => rfl) _ _ calls _ _ hactive hactive₁
      ((congrArg Cells.active happly).trans (congrArg (CachedCell.flush id id Eq) hactive₂))
  · exact @CachedCell.read_flush _ _ _ id id Eq Proxy.Call.inverse _ eq_equivalence
      (fun _ _ _ => rfl) _ _ calls _ _ hinverse hinverse₁
      ((congrArg Cells.inverse happly).trans (congrArg (CachedCell.flush id id Eq) hinverse₂))
  · exact @CachedCell.read_flush _ _ _ (readSet wstringLt) writeSet Eq Proxy.Call.blacklist _
      eq_equivalence (fun multiString value => by rintro rfl; exact readSet_writeSet_readSet _)
      _ _ calls _ _ hblacklist hblacklist₁
      ((congrArg Cells.blacklist happly).trans
        (congrArg (CachedCell.flush (readSet wstringLt) writeSet Eq) hblacklist₂))
  · exact @CachedCell.read_flush _ _ _ (readSet pathLt) writeSet OrderedSet.Equiv
      Proxy.Call.whitelist _ ⟨.refl, .symm, .trans⟩ (fun _ _ => equiv_readSet_writeSet)
      _ _ calls _ _ hwhitelist hwhitelist₁
      ((congrArg Cells.whitelist happly).trans
        (congrArg (CachedCell.flush (readSet pathLt) writeSet OrderedSet.Equiv) hwhitelist₂))

end HidHide
