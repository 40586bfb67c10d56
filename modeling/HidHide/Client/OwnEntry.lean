import HidHide.ForMathlib.Machine
import HidHide.Client.Proxy

/-!
# The client's own entry

The constructor of the proxy sees to it that the whitelist has the client itself, or does not have
it when the whitelist is inverse. `ownEntry_iff` says which of the later calls, on a proxy that
writes through, keep it so: `SetInverse` is not among them, unless it changes nothing.

What is written of a whitelist ends at the first name that is empty or has a null character, so
such a name may hide the client's own entry, or pass for it (`ReadsBack`).
-/

namespace HidHide

namespace Proxy

/-- The calls in question: no whitelist is set as a whole, and the names are other paths. -/
def Call.Spares (own : WString) : Call → Prop
  | .setWhitelist _ => False
  | .whitelistAddEntry name => ¬PathEq name own
  | .whitelistDelEntry name => ¬PathEq name own
  | _ => True

instance (own : WString) : DecidablePred (Call.Spares own)
  | .setWhitelist _ => .isFalse id
  | .whitelistAddEntry name => inferInstanceAs (Decidable (¬PathEq name own))
  | .whitelistDelEntry name => inferInstanceAs (Decidable (¬PathEq name own))
  | .setActive _ | .setInverse _ | .setBlacklist _ | .blacklistAddEntry _ | .blacklistDelEntry _ =>
      .isTrue trivial

/-- The whitelist of the device has the client, unless it is inverse. -/
def Entitled (own : WString) (s : ConfigurationStore) : Prop :=
  s.whitelist.Contains own ↔ s.inverse = false

instance (own : WString) (s : ConfigurationStore) : Decidable (Entitled own s) :=
  inferInstanceAs (Decidable (_ ↔ _))

/-- A name before this one is where the list ends when it is read back. -/
def Masked (whitelist : OrderedSet pathLt) (name : WString) : Prop :=
  ∃ before ∈ whitelist.toList, pathLt before name ∧ ¬Plain before

instance (whitelist : OrderedSet pathLt) (name : WString) : Decidable (Masked whitelist name) :=
  inferInstanceAs (Decidable (∃ before ∈ whitelist.toList, _))

/-- A path is among those that are read back of a whitelist. -/
def ReadsBack (own : WString) (whitelist : OrderedSet pathLt) : Prop :=
  ∃ name ∈ whitelist.toList, PathEq own (cString name) ∧ ¬Masked whitelist name

/-- The call keeps the client's own entry as it is.

* `SetInverse` has nothing to change.
* A name that is added does not hide the entry; to an inverse list, it does not pass for it.
* A name that is removed of an inverse list does not uncover a name that passes for the entry. -/
def KeepsOwnEntry (own : WString) (p : Proxy × ConfigurationStore) : Call → Prop
  | .setInverse inverse => inverse = p.1.inverse
  | .whitelistAddEntry name =>
      p.1.whitelist.Contains name ∨
        if p.1.inverse then PathEq own (cString name) → Masked p.1.whitelist name
        else Plain name ∨ ¬pathLt name own
  | .whitelistDelEntry name =>
      ¬p.1.whitelist.Contains name ∨ p.1.inverse = false ∨
        ∀ other ∈ p.1.whitelist.toList, PathEq own (cString other) →
          PathEq name other ∨ Masked (p.1.whitelist.erase name) other
  | _ => True

instance (own : WString) (p : Proxy × ConfigurationStore) : DecidablePred (KeepsOwnEntry own p)
  | .setInverse inverse => inferInstanceAs (Decidable (inverse = p.1.inverse))
  | .whitelistAddEntry name => inferInstanceAs (Decidable (p.1.whitelist.Contains name ∨
      if p.1.inverse then PathEq own (cString name) → Masked p.1.whitelist name
      else Plain name ∨ ¬pathLt name own))
  | .whitelistDelEntry name => inferInstanceAs (Decidable (¬p.1.whitelist.Contains name ∨
      p.1.inverse = false ∨ ∀ other ∈ p.1.whitelist.toList, PathEq own (cString other) →
        PathEq name other ∨ Masked (p.1.whitelist.erase name) other))
  | .setActive _ | .setBlacklist _ | .blacklistAddEntry _ | .blacklistDelEntry _
  | .setWhitelist _ => .isTrue trivial

/-! ### Reading back the entry -/

section ReadsBack

variable {own name : WString} {whitelist : OrderedSet pathLt}

/-- **The client's own name** is in a list that has been written if it is read back. -/
theorem contains_setList (hown : Plain own) (s : ConfigurationStore) :
    (s.setList .whitelist (writeSet whitelist)).whitelist.Contains own ↔
      ReadsBack own whitelist := by
  rw [ConfigurationStore.whitelist, ConfigurationStore.list_setList, Function.update_self,
    decode_stringListToMultiString, OrderedSet.contains_ofList_iff]
  simp only [equivalent_pathLt, ReadsBack, Masked, not_exists, not_and, not_not]
  constructor
  · rintro ⟨string, hstring, heq⟩
    have hne : string ≠ [] := ((plain_iff_of_pathEq heq).mp hown).1
    obtain ⟨s, hs, rfl, hbefore⟩ := (mem_readBack whitelist.sorted hne).mp hstring
    exact ⟨s, hs, heq, hbefore⟩
  · rintro ⟨name, hname, heq, hbefore⟩
    have hne : cString name ≠ [] := ((plain_iff_of_pathEq heq).mp hown).1
    exact ⟨_, (mem_readBack whitelist.sorted hne).mpr ⟨name, hname, rfl, hbefore⟩, heq⟩

/-- A list that has the name reads it back, unless the name is masked. -/
theorem readsBack_of_contains (hown : Plain own) (h : whitelist.Contains own) :
    ReadsBack own whitelist ↔ ¬Masked whitelist own := by
  constructor
  · rintro ⟨name, hname, heq, hmasked⟩ ⟨before, hbefore, hlt, hplain⟩
    -- what passes for the name does not precede it
    have hle : ¬pathKey name < pathKey own := by
      intro hlt
      rw [show pathKey own = pathKey (cString name) from heq] at hlt
      exact not_pathLt_cString name hlt
    exact hmasked ⟨before, hbefore, lt_of_lt_of_le hlt (not_lt.mp hle), hplain⟩
  · intro hmasked
    obtain ⟨name, hname, heq⟩ := h
    rw [equivalent_pathLt] at heq
    have hplain : Plain name := (plain_iff_of_pathEq heq).mp hown
    refine ⟨name, hname, by rwa [cString_eq_self hplain.2], ?_⟩
    rintro ⟨before, hbefore, hlt, hnot⟩
    rw [pathLt, ← show pathKey own = pathKey name from heq] at hlt
    exact hmasked ⟨before, hbefore, hlt, hnot⟩

/-- Adding a name to a list that has the client's own. -/
theorem readsBack_emplace (hown : Plain own) (h : whitelist.Contains own)
    (hname : ¬whitelist.Contains name) (hread : ReadsBack own whitelist) :
    ReadsBack own (whitelist.emplace name) ↔ Plain name ∨ ¬pathLt name own := by
  have hcontains : (whitelist.emplace name).Contains own := by
    obtain ⟨other, hother, heq⟩ := h
    exact ⟨other, OrderedSet.mem_emplace_of_mem hother, heq⟩
  have hmasked := (readsBack_of_contains hown h).mp hread
  rw [readsBack_of_contains hown hcontains]
  constructor
  · intro hnot
    by_contra hbad
    obtain ⟨hplain, hlt⟩ := not_or.mp hbad
    exact hnot ⟨name, (OrderedSet.mem_emplace_of_not_contains hname).mpr (.inl rfl),
      not_not.mp hlt, hplain⟩
  · rintro hgood ⟨before, hbefore, hlt, hplain⟩
    rcases OrderedSet.mem_of_mem_emplace hbefore with rfl | hbefore
    · exact hgood.elim hplain fun hnot => hnot hlt
    · exact hmasked ⟨before, hbefore, hlt, hplain⟩

/-- Adding a name to a list that does not read back the client's own. -/
theorem readsBack_emplace_of_not (hname : ¬whitelist.Contains name)
    (hread : ¬ReadsBack own whitelist) :
    ¬ReadsBack own (whitelist.emplace name) ↔
      (PathEq own (cString name) → Masked whitelist name) := by
  have hmem := @OrderedSet.mem_emplace_of_not_contains _ pathLt _ _ whitelist name
  constructor
  · intro hnot heq
    by_contra hmasked
    refine hnot ⟨name, (hmem hname).mpr (.inl rfl), heq, ?_⟩
    rintro ⟨before, hbefore, hlt, hplain⟩
    rcases (hmem hname).mp hbefore with rfl | hbefore
    · exact irrefl before hlt
    · exact hmasked ⟨before, hbefore, hlt, hplain⟩
  · rintro hpass ⟨other, hother, heq, hmasked⟩
    have hmore : Masked whitelist other → Masked (whitelist.emplace name) other :=
      fun ⟨before, hbefore, h⟩ => ⟨before, OrderedSet.mem_emplace_of_mem hbefore, h⟩
    rcases (hmem hname).mp hother with rfl | hother
    · exact hmasked (hmore (hpass heq))
    · exact hread ⟨other, hother, heq, fun h => hmasked (hmore h)⟩

/-- Removing another name of a list that has the client's own. -/
theorem readsBack_erase (hown : Plain own) (h : whitelist.Contains own) (hname : ¬PathEq name own)
    (hread : ReadsBack own whitelist) :
    (whitelist.erase name).Contains own ∧ ReadsBack own (whitelist.erase name) := by
  have hcontains : (whitelist.erase name).Contains own := by
    obtain ⟨other, hother, heq⟩ := h
    refine ⟨other, OrderedSet.mem_erase.mpr ⟨hother, fun hsame => hname ?_⟩, heq⟩
    exact equivalent_pathLt.mp (hsame.trans heq.symm)
  refine ⟨hcontains, (readsBack_of_contains hown hcontains).mpr ?_⟩
  rintro ⟨before, hbefore, hlt, hplain⟩
  exact (readsBack_of_contains hown h).mp hread
    ⟨before, (OrderedSet.mem_erase.mp hbefore).1, hlt, hplain⟩

/-- Removing a name leaves the client's own unread, unless that uncovers a name that passes for
it. -/
theorem not_readsBack_erase :
    ¬ReadsBack own (whitelist.erase name) ↔
      ∀ other ∈ whitelist.toList, PathEq own (cString other) →
        PathEq name other ∨ Masked (whitelist.erase name) other := by
  constructor
  · intro hnot other hother heq
    by_contra hbad
    obtain ⟨hne, hmasked⟩ := not_or.mp hbad
    exact hnot ⟨other, OrderedSet.mem_erase.mpr ⟨hother, fun h => hne (equivalent_pathLt.mp h)⟩,
      heq, hmasked⟩
  · rintro hall ⟨other, hother, heq, hmasked⟩
    obtain ⟨hmem, hne⟩ := OrderedSet.mem_erase.mp hother
    exact (hall other hmem heq).elim (fun h => hne (equivalent_pathLt.mpr h)) hmasked

end ReadsBack

/-! ### Runs -/

/-- The proxy and the device agree about the entry. -/
structure Keeping (own : WString) (p : Proxy × ConfigurationStore) : Prop where
  writeThrough : p.1.writeThrough = true
  inverse : p.2.inverse = p.1.inverse
  readsBack : p.2.whitelist.Contains own ↔ ReadsBack own p.1.whitelist
  contains : p.1.inverse = false → p.1.whitelist.Contains own
  entitled : Entitled own p.2

theorem contains_enrolled {own : WString} (hown : own ≠ []) (inverse : Bool)
    (whitelist : OrderedSet pathLt) :
    (enrolled own inverse whitelist).Contains own ↔ inverse = false := by
  rw [enrolled, if_neg hown]
  cases inverse with
  | false => exact iff_of_true OrderedSet.contains_emplace_self rfl
  | true => exact iff_of_false (OrderedSet.not_contains_erase own) (by decide)

theorem mem_of_mem_enrolled {own name : WString} {inverse : Bool} {whitelist : OrderedSet pathLt}
    (h : name ∈ enrolled own inverse whitelist) : name = own ∨ name ∈ whitelist := by
  rw [enrolled] at h
  split_ifs at h
  · exact .inr h
  · exact .inr (OrderedSet.mem_erase.mp h).1
  · exact OrderedSet.mem_of_mem_emplace h

/-- The constructor leaves the two in agreement. -/
theorem keeping_create {own : WString} (hown : Plain own) {s s' : ConfigurationStore}
    {proxy : Proxy} (h : create storeRequests own true s = (.ok proxy, s')) :
    Keeping own (proxy, s') := by
  have hplain : ∀ name ∈ enrolled own s.inverse s.whitelist, Plain name := by
    intro name hname
    rcases mem_of_mem_enrolled hname with rfl | hname
    · exact hown
    · exact MultiString.mem_decode (OrderedSet.mem_of_mem_ofList hname)
  have hcontains := contains_enrolled hown.1 s.inverse s.whitelist
  -- a list of plain names reads back the client's own if it has it
  have hreads : ReadsBack own (enrolled own s.inverse s.whitelist) ↔
      (enrolled own s.inverse s.whitelist).Contains own := by
    constructor
    · rintro ⟨name, hname, heq, -⟩
      rw [cString_eq_self (hplain name hname).2] at heq
      exact ⟨name, hname, equivalent_pathLt.mpr heq⟩
    · intro hown'
      refine (readsBack_of_contains hown hown').mpr ?_
      rintro ⟨before, hbefore, -, hnot⟩
      exact hnot (hplain before hbefore)
  rw [create_store] at h
  obtain ⟨hproxy, hstore⟩ := Prod.mk.inj h
  obtain rfl := Except.ok.inj hproxy
  have hshown : s'.whitelist.Contains own ↔
      ReadsBack own (enrolled own s.inverse s.whitelist) := by
    rw [← hstore]
    split_ifs with henrolls
    · exact contains_setList hown s
    · rw [hreads, enrolled_of_not_enrolls henrolls]
  have hinverse : s'.inverse = s.inverse := by
    rw [← hstore]
    split_ifs <;> rfl
  exact {
    writeThrough := rfl
    inverse := hinverse
    readsBack := hshown
    contains := hcontains.mpr
    entitled := by rw [Entitled, hinverse, hshown, hreads, hcontains] }

section Step

variable {own : WString} {proxy : Proxy} {s : ConfigurationStore}

/-- What leaves the whitelist and the inverse switch alone keeps the two in agreement. -/
theorem Keeping.leave (h : Keeping own (proxy, s)) {changed : Prop} [Decidable changed]
    {proxy' : Proxy} {s' : ConfigurationStore}
    (hproxy : (proxy'.writeThrough, proxy'.inverse, proxy'.whitelist) =
      (proxy.writeThrough, proxy.inverse, proxy.whitelist))
    (hstore : (s'.inverse, s'.whitelist) = (s.inverse, s.whitelist)) :
    Keeping own (if changed then (proxy', if proxy.writeThrough then s' else s)
      else (proxy, s)) := by
  obtain ⟨hthrough, hinverse, hlist⟩ : _ ∧ _ ∧ _ := by simpa only [Prod.mk.injEq] using hproxy
  obtain ⟨hinverse', hlist'⟩ := Prod.mk.inj hstore
  rw [if_pos h.writeThrough]
  split_ifs
  · exact {
      writeThrough := hthrough.trans h.writeThrough
      inverse := hinverse'.trans (h.inverse.trans hinverse.symm)
      readsBack := by
        rw [hlist, hlist']
        exact h.readsBack
      contains := by
        rw [hinverse, hlist]
        exact h.contains
      entitled := by
        rw [Entitled, hinverse', hlist']
        exact h.entitled }
  · exact h

theorem entitled_setList (hown : Plain own) (whitelist : OrderedSet pathLt) :
    Entitled own (s.setList .whitelist (writeSet whitelist)) ↔
      (ReadsBack own whitelist ↔ s.inverse = false) := by
  rw [Entitled, contains_setList hown]
  rfl

/-- A whitelist that is written keeps the two in agreement if it keeps the client's right. -/
theorem Keeping.setList (hown : Plain own) (h : Keeping own (proxy, s))
    {whitelist : OrderedSet pathLt} (hcontains : proxy.inverse = false → whitelist.Contains own)
    (hentitled : Entitled own (s.setList .whitelist (writeSet whitelist))) :
    Keeping own ({ proxy with whitelist }, s.setList .whitelist (writeSet whitelist)) where
  writeThrough := h.writeThrough
  inverse := h.inverse
  readsBack := contains_setList hown s
  contains := hcontains
  entitled := hentitled

/-- The device has the client if the whitelist that is cached reads back its name. -/
theorem Keeping.readsBack_iff (h : Keeping own (proxy, s)) :
    ReadsBack own proxy.whitelist ↔ proxy.inverse = false := by
  have hentitled := h.entitled
  rw [Entitled, h.readsBack, h.inverse] at hentitled
  exact hentitled

theorem entitled_whitelistAddEntry (hown : Plain own) (h : Keeping own (proxy, s)) {name : WString}
    (hname : ¬proxy.whitelist.Contains name) :
    KeepsOwnEntry own (proxy, s) (.whitelistAddEntry name) ↔
      Entitled own (s.setList .whitelist (writeSet (proxy.whitelist.emplace name))) := by
  have hread := h.readsBack_iff
  rw [entitled_setList hown, h.inverse, KeepsOwnEntry, or_iff_right hname]
  cases hinverse : proxy.inverse with
  | false =>
    rw [if_neg Bool.false_ne_true, iff_true_right rfl]
    exact (readsBack_emplace hown (h.contains hinverse) hname (hread.mpr hinverse)).symm
  | true =>
    rw [if_pos rfl]
    refine Iff.trans ?_ (iff_false_right Bool.true_eq_false.mp).symm
    refine (readsBack_emplace_of_not hname fun hback => ?_).symm
    exact absurd (hinverse.symm.trans (hread.mp hback)) (by decide)

theorem entitled_whitelistDelEntry (hown : Plain own) (h : Keeping own (proxy, s)) {name : WString}
    (hspares : ¬PathEq name own) (hname : proxy.whitelist.Contains name) :
    KeepsOwnEntry own (proxy, s) (.whitelistDelEntry name) ↔
      Entitled own (s.setList .whitelist (writeSet (proxy.whitelist.erase name))) := by
  have hread := h.readsBack_iff
  rw [entitled_setList hown, h.inverse, KeepsOwnEntry, or_iff_right (not_not.mpr hname)]
  cases hinverse : proxy.inverse with
  | false =>
    rw [iff_true_right rfl]
    refine iff_of_true (.inl rfl) ?_
    exact (readsBack_erase hown (h.contains hinverse) hspares (hread.mpr hinverse)).2
  | true =>
    rw [or_iff_right Bool.true_eq_false.mp]
    exact not_readsBack_erase.symm.trans (iff_false_right Bool.true_eq_false.mp).symm

end Step

/-- **One call.** A call that meets the condition keeps the two in agreement, and one that does not
takes the client's right away. -/
theorem keeping_step {own : WString} (hown : Plain own) {p : Proxy × ConfigurationStore}
    (h : Keeping own p) {call : Call} (hcall : call.Spares own) :
    (KeepsOwnEntry own p call → Keeping own (step p call)) ∧
      (¬KeepsOwnEntry own p call → ¬Entitled own (step p call).2) := by
  obtain ⟨proxy, s⟩ := p
  cases call with
  | setActive value =>
    rw [step_setActive]
    exact ⟨fun _ => h.leave rfl rfl, fun hnot => absurd trivial hnot⟩
  | setInverse value =>
    rw [step_setInverse, if_pos h.writeThrough, KeepsOwnEntry]
    split_ifs with hchanged
    · -- the list has the client as before, while the switch is the other way
      refine ⟨fun heq => absurd heq.symm hchanged, fun _ hentitled => ?_⟩
      have hvalue : (s.setSwitch .whitelistedInverse value).inverse = value := by
        simp [ConfigurationStore.inverse, ConfigurationStore.setSwitch]
      have hlist : (s.setSwitch .whitelistedInverse value).whitelist = s.whitelist := rfl
      rw [Entitled, hvalue, hlist, h.readsBack, h.readsBack_iff] at hentitled
      exact hchanged (Bool.eq_iff_iff.mpr (by simpa using not_congr hentitled))
    · exact ⟨fun _ => h, fun hnot => absurd (not_not.mp hchanged).symm hnot⟩
  | setBlacklist strings =>
    rw [step_setBlacklist]
    exact ⟨fun _ => h.leave rfl rfl, fun hnot => absurd trivial hnot⟩
  | blacklistAddEntry path =>
    rw [step_blacklistAddEntry]
    exact ⟨fun _ => h.leave rfl rfl, fun hnot => absurd trivial hnot⟩
  | blacklistDelEntry path =>
    rw [step_blacklistDelEntry]
    exact ⟨fun _ => h.leave rfl rfl, fun hnot => absurd trivial hnot⟩
  | setWhitelist strings => exact absurd hcall id
  | whitelistAddEntry name =>
    rw [step_whitelistAddEntry, if_pos h.writeThrough]
    by_cases hname : proxy.whitelist.Contains name
    · rw [if_neg (not_not.mpr hname)]
      exact ⟨fun _ => h, fun hnot => absurd (.inl hname) hnot⟩
    · rw [if_pos hname, entitled_whitelistAddEntry hown h hname]
      refine ⟨fun hkeeps => h.setList hown (fun hinverse => ?_) hkeeps, id⟩
      obtain ⟨other, hother, heq⟩ := h.contains hinverse
      exact ⟨other, OrderedSet.mem_emplace_of_mem hother, heq⟩
  | whitelistDelEntry name =>
    rw [step_whitelistDelEntry, if_pos h.writeThrough]
    split_ifs with hname
    · rw [entitled_whitelistDelEntry hown h hcall hname]
      refine ⟨fun hkeeps => h.setList hown (fun hinverse => ?_) hkeeps, id⟩
      exact (readsBack_erase hown (h.contains hinverse) hcall (h.readsBack_iff.mpr hinverse)).1
    · exact ⟨fun _ => h, fun hnot => absurd (.inl hname) hnot⟩

end Proxy

open Proxy

/-- **The client's own entry.** On a proxy that writes through, the whitelist of the device has the
client exactly when it is not inverse, after the constructor and after each call, if and only if
each call keeps the entry. -/
theorem ownEntry_iff {own : WString} (hown : Plain own) (s : ConfigurationStore)
    (calls : List {call : Proxy.Call // call.Spares own}) :
    ∃ proxy s₁, create storeRequests own true s = (.ok proxy, s₁) ∧
      ((∀ done, done <+: calls →
          Entitled own (done.foldl (fun p call => step p call.1) (proxy, s₁)).2) ↔
        Machine.Along
          (fun p (call : {call : Proxy.Call // call.Spares own}) => some (step p call.1))
          (fun p call => KeepsOwnEntry own p call.1) (proxy, s₁) calls) := by
  obtain ⟨proxy, s₁, hcreate⟩ : ∃ proxy s₁,
      create storeRequests own true s = (.ok proxy, s₁) := ⟨_, _, create_store ..⟩
  refine ⟨proxy, s₁, hcreate, ?_⟩
  rw [← Machine.forall_prefix_iff_along (I := Keeping own) (P := fun p => Entitled own p.2)
    (fun p h => h.entitled) ?_ (keeping_create hown hcreate) (Machine.run_total _ _ calls)]
  · refine forall_congr' fun done => forall_congr' fun _ => ?_
    rw [Machine.run_total]
    simp
  · rintro p call p' hp hstep
    obtain rfl : step p call.1 = p' := by simpa using hstep
    exact keeping_step hown hp call.2

/-- Another application is added and removed, and the switches are set, one of them to the value
that it has. -/
def otherEntryCalls : List {call : Proxy.Call // call.Spares [0x41]} :=
  [⟨.whitelistAddEntry [0x42], by decide⟩, ⟨.setInverse false, trivial⟩,
    ⟨.whitelistDelEntry [0x42], by decide⟩, ⟨.setActive true, trivial⟩]

/-- The client stays on the list all along. -/
theorem ownEntry_iff_otherEntryCalls :
    ∃ proxy s₁, create storeRequests [0x41] true firstStore = (.ok proxy, s₁) ∧
      ∀ done, done <+: otherEntryCalls →
        Entitled [0x41] (done.foldl (fun p call => step p call.1) (proxy, s₁)).2 := by
  obtain ⟨proxy, s₁, hcreate, hiff⟩ := ownEntry_iff (by decide) firstStore otherEntryCalls
  refine ⟨proxy, s₁, hcreate, hiff.mpr ?_⟩
  obtain ⟨hproxy, hs₁⟩ := Prod.mk.inj ((create_store ..).symm.trans hcreate)
  obtain rfl := Except.ok.inj hproxy
  subst hs₁
  decide

/-- Turning the inverse switch leaves the client on a list on which it must not be. -/
theorem setInverse_notEntitled :
    ∃ proxy s₁, create storeRequests [0x41] true firstStore = (.ok proxy, s₁) ∧
      Entitled [0x41] s₁ ∧ ¬Entitled [0x41] (step (proxy, s₁) (.setInverse true)).2 := by
  refine ⟨_, _, create_store .., ?_, ?_⟩
  · decide
  · decide

end HidHide
