import HidHide.ForMathlib.WriteThrough
import HidHide.Driver.Interleaving

/-!
# Memory and registry

Each list and each switch is kept in the registry and in memory. Both are seen here as settings
kept in two stores (`listStores`, `switchStores`), and each atomic step of the driver is a step of
these, or none (`listStores_step`, `switchStores_step`).

A list setter reads back what is persisted under the lock, so the lists agree whenever no list
setter is in progress (`lists_agree`). A switch setter assigns the value it has written itself:
when two of them overlap, the one that writes first may assign last. The switches agree as long as
each assignment is timely, and one that is not leaves its switch in disagreement until it is
written again (`switches_agree`).
-/

namespace HidHide

/-- What an atomic step does to the lists. -/
def AtomicStep.listEvent :
    AtomicStep → Option (WriteThrough.Event ListKind (Option (List UnicodeString)))
  | .persistList kind _ buffer =>
      some (.write kind (decodedValue (some (.regMultiSz (storedChars buffer)))) false)
  | .replaceList kind _ => some (.update kind none)
  | _ => none

/-- What an atomic step does to the switches. -/
def AtomicStep.switchEvent : AtomicStep → Option (WriteThrough.Event SwitchKind Bool)
  | .persistSwitch kind _ value => some (.write kind value true)
  | .assignSwitch kind value => some (.update kind (some value))
  | _ => none

namespace Concurrent

variable {upcase : WChar → WChar} {s s' : Concurrent}

/-! ### The lists -/

/-- The lists as settings kept in two stores. -/
def listStores (s : Concurrent) : WriteThrough ListKind (Option (List UnicodeString)) where
  persisted kind := decodedValue (s.driver.framework.registry kind.property)
  memory kind := some (s.driver.list kind)
  pending
    | (kind, none) => s.calls.count (.replaceList kind)
    | (_, some _) => 0

/-- Steps that leave the lists alone. -/
private theorem listStores_congr
    (hreg : ∀ kind : ListKind, s'.driver.framework.registry kind.property =
      s.driver.framework.registry kind.property)
    (hlist : ∀ kind, s'.driver.list kind = s.driver.list kind)
    (hcount : ∀ kind, s'.calls.count (.replaceList kind) = s.calls.count (.replaceList kind)) :
    s'.listStores = s.listStores := by
  refine WriteThrough.ext (funext fun kind => ?_) (funext fun kind => ?_) (funext ?_)
  · exact congrArg decodedValue (hreg kind)
  · exact congrArg some (hlist kind)
  · rintro ⟨kind, _ | value⟩
    · exact hcount kind
    · rfl

/-- **Each atomic step is a step of the lists, or none.** -/
theorem listStores_step (hs : s.Valid) {e : AtomicStep} (h : s.step upcase e = some s') :
    e.listEvent.elim (some s.listStores) s.listStores.step = some s'.listStores := by
  cases e with
  | persistList kind o buffer =>
    obtain ⟨hcalls, hreg, hctx, -, hcontents, -⟩ := step_persistList h
    refine congrArg some (WriteThrough.ext (funext fun kind' => ?_) (funext fun kind' => ?_)
      (funext ?_))
    · change Function.update s.listStores.persisted kind _ kind' =
        decodedValue (s'.driver.framework.registry kind'.property)
      rw [hreg, Function.update_apply, Function.update_apply]
      simp only [ListKind.property_injective.eq_iff]
      split_ifs <;> rfl
    · exact congrArg some (Driver.list_congr hctx hcontents kind').symm
    · rintro ⟨kind', _ | value⟩
      · rcases eq_or_ne kind' kind with rfl | hkind
        · simp [listStores, WriteThrough.intent, hcalls]
        · simp [listStores, WriteThrough.intent, hcalls, hkind, hkind.symm]
      · simp [listStores, WriteThrough.intent]
  | replaceList kind o =>
    obtain ⟨hmem, hcalls, hreg, -⟩ := step_replaceList h
    obtain ⟨hv, hother⟩ := hs.list_replaceList h
    -- the call counts as one that is going to read back what is persisted
    have hpending : 0 < s.listStores.pending (kind, none) := List.count_pos_iff.mpr hmem
    change s.listStores.step (.update kind none) = _
    rw [WriteThrough.step, if_pos hpending]
    refine congrArg some (WriteThrough.ext (funext fun kind' => ?_) (funext fun kind' => ?_)
      (funext ?_))
    · exact congrArg decodedValue (congrFun hreg _).symm
    · change Function.update s.listStores.memory kind _ kind' = some (s'.driver.list kind')
      rcases eq_or_ne kind' kind with rfl | hkind
      · rw [Function.update_self, ← hv]
        rfl
      · rw [Function.update_of_ne hkind, hother kind' hkind]
        rfl
    · have hafter : ∀ kind' : ListKind, kind.callsAfter.count (.replaceList kind') = 0 := by
        intro kind'
        cases kind <;> rfl
      rintro ⟨kind', _ | value⟩
      · rcases eq_or_ne kind' kind with rfl | hkind
        · simp [listStores, hcalls, hafter]
        · simp [listStores, hcalls, hafter, hkind]
      · simp [listStores]
  | persistSwitch kind o value =>
    obtain ⟨hcalls, hreg, hctx, -, hcontents, -⟩ := step_persistSwitch h
    refine congrArg some (listStores_congr (fun kind' => ?_) (Driver.list_congr hctx hcontents)
      fun kind' => ?_).symm
    · rw [hreg, Function.update_of_ne (kind.property_ne kind').symm]
    · rw [hcalls, List.count_cons_of_ne (by simp)]
  | assignSwitch kind value =>
    obtain ⟨-, rfl⟩ := resume_eq_some h
    refine congrArg some (listStores_congr (fun kind' => ?_) (fun kind' => ?_) fun kind' => ?_).symm
    · rfl
    · exact congrArg s.driver.framework.contents (SwitchKind.collection_setValue kind' kind _ _)
    · exact List.count_erase_of_ne (by simp)
  | flushCache | readWhitelist | checkWhitelist | register | unregister =>
    have hdriver := step_tree h trivial
    refine congrArg some (listStores_congr (fun _ => by rw [hdriver])
      (fun _ => by rw [hdriver]; rfl)
      fun kind => step_tree_count h trivial (by simp) (by simp)).symm

/-- Each step keeps the lists settled. -/
theorem settles_listStores (hs : s.Valid) (hsettles : ∀ kind, s.listStores.Settles kind)
    {e : AtomicStep} (h : s.step upcase e = some s') (kind : ListKind) :
    s'.listStores.Settles kind := by
  have hevent := listStores_step hs h
  rcases he : e.listEvent with _ | event
  · rw [he] at hevent
    rw [← Option.some.inj hevent]
    exact hsettles kind
  · rw [he] at hevent
    -- a list setter never assigns a value of its own, so all its updates are timely
    refine (WriteThrough.settles_step hevent hsettles).mpr ?_ kind
    cases e <;> cases he <;> trivial

/-! ### The switches -/

/-- The switches as settings kept in two stores. -/
def switchStores (s : Concurrent) : WriteThrough SwitchKind Bool where
  persisted kind := switchValue (s.driver.framework.registry kind.property)
  memory kind := kind.value s.driver.context
  pending
    | (kind, some value) => s.calls.count (.assignSwitch kind value)
    | (_, none) => 0

/-- Steps that leave the switches alone. -/
private theorem switchStores_congr
    (hreg : ∀ kind : SwitchKind, s'.driver.framework.registry kind.property =
      s.driver.framework.registry kind.property)
    (hvalue : ∀ kind : SwitchKind, kind.value s'.driver.context = kind.value s.driver.context)
    (hcount : ∀ kind value,
      s'.calls.count (.assignSwitch kind value) = s.calls.count (.assignSwitch kind value)) :
    s'.switchStores = s.switchStores := by
  refine WriteThrough.ext (funext fun kind => ?_) (funext hvalue) (funext ?_)
  · exact congrArg switchValue (hreg kind)
  · rintro ⟨kind, _ | value⟩
    · rfl
    · exact hcount kind value

/-- **Each atomic step is a step of the switches, or none.** -/
theorem switchStores_step {e : AtomicStep} (h : s.step upcase e = some s') :
    e.switchEvent.elim (some s.switchStores) s.switchStores.step = some s'.switchStores := by
  cases e with
  | persistSwitch kind o value =>
    obtain ⟨hcalls, hreg, hctx, -⟩ := step_persistSwitch h
    have hvalue : switchValue (some (.regDword (if value then 1 else 0))) = value := by
      cases value <;> rfl
    refine congrArg some (WriteThrough.ext (funext fun kind' => ?_) (funext fun kind' => ?_)
      (funext ?_))
    · change Function.update s.switchStores.persisted kind value kind' =
        switchValue (s'.driver.framework.registry kind'.property)
      rcases eq_or_ne kind' kind with rfl | hkind
      · rw [hreg, Function.update_self, Function.update_self, hvalue]
      · rw [hreg, Function.update_of_ne hkind,
          Function.update_of_ne fun heq => hkind (SwitchKind.property_injective heq)]
        rfl
    · exact congrArg kind'.value hctx.symm
    · rintro ⟨kind', _ | value'⟩
      · simp [switchStores, WriteThrough.intent]
      · by_cases hcall : kind' = kind ∧ value' = value
        · obtain ⟨rfl, rfl⟩ := hcall
          simp [switchStores, WriteThrough.intent, hcalls]
        · have hne : Call.assignSwitch kind value ≠ .assignSwitch kind' value' := by
            rintro heq
            cases heq
            exact hcall ⟨rfl, rfl⟩
          simp [switchStores, WriteThrough.intent, hcalls, hcall, hne]
  | assignSwitch kind value =>
    obtain ⟨hmem, rfl⟩ := resume_eq_some h
    -- the call counts as one that is going to assign its own value
    have hpending : 0 < s.switchStores.pending (kind, some value) := List.count_pos_iff.mpr hmem
    change s.switchStores.step (.update kind (some value)) = _
    rw [WriteThrough.step, if_pos hpending]
    refine congrArg some (WriteThrough.ext (funext fun kind' => ?_) (funext fun kind' => ?_)
      (funext ?_))
    · rfl
    · change Function.update s.switchStores.memory kind value kind' =
        kind'.value (kind.setValue s.driver.context value)
      rw [SwitchKind.value_setValue, Function.update_apply]
      rfl
    · rintro ⟨kind', _ | value'⟩
      · simp [switchStores]
      · by_cases hcall : kind' = kind ∧ value' = value
        · obtain ⟨rfl, rfl⟩ := hcall
          simp [switchStores]
        · have hne : Call.assignSwitch kind' value' ≠ .assignSwitch kind value := by
            rintro heq
            cases heq
            exact hcall ⟨rfl, rfl⟩
          simp [switchStores, hcall, List.count_erase_of_ne hne]
  | persistList kind o buffer =>
    obtain ⟨hcalls, hreg, hctx, -⟩ := step_persistList h
    refine congrArg some (switchStores_congr (fun kind' => ?_) (fun kind' => ?_)
      fun kind' value => ?_).symm
    · rw [hreg, Function.update_of_ne (kind'.property_ne kind)]
    · rw [hctx]
    · rw [hcalls, List.count_cons_of_ne (by simp)]
  | replaceList kind o =>
    obtain ⟨-, hcalls, hreg, hctx, -⟩ := step_replaceList h
    refine congrArg some (switchStores_congr (fun kind' => ?_) (fun kind' => ?_)
      fun kind' value => ?_).symm
    · rw [hreg]
    · rw [hctx, SwitchKind.value_setCollection]
    · have hafter : kind.callsAfter.count (.assignSwitch kind' value) = 0 := by
        cases kind <;> rfl
      rw [hcalls, List.count_append, hafter, Nat.zero_add, List.count_erase_of_ne (by simp)]
  | flushCache | readWhitelist | checkWhitelist | register | unregister =>
    have hdriver := step_tree h trivial
    refine congrArg some (switchStores_congr (fun _ => by rw [hdriver]) (fun _ => by rw [hdriver])
      fun kind value => step_tree_count h trivial (by simp) (by simp)).symm

/-- An assignment is timely when its value is the persisted one, or another call in progress is
going to assign that. -/
def Timely (s : Concurrent) : AtomicStep → Prop
  | .assignSwitch kind value =>
      value = switchValue (s.driver.framework.registry kind.property) ∨
        .assignSwitch kind (switchValue (s.driver.framework.registry kind.property)) ∈
          s.calls.erase (.assignSwitch kind value)
  | _ => True

instance (s : Concurrent) : DecidablePred s.Timely
  | .assignSwitch _ _ => inferInstanceAs (Decidable (_ ∨ _))
  | .persistList _ _ _ => .isTrue trivial
  | .replaceList _ _ => .isTrue trivial
  | .flushCache => .isTrue trivial
  | .persistSwitch _ _ _ => .isTrue trivial
  | .readWhitelist _ => .isTrue trivial
  | .checkWhitelist _ _ => .isTrue trivial
  | .register _ _ _ => .isTrue trivial
  | .unregister _ => .isTrue trivial

/-- Timely steps are those that are timely for the switches as settings. -/
theorem timely_iff {e : AtomicStep} :
    s.Timely e ↔ ∀ event ∈ e.switchEvent, s.switchStores.Timely event := by
  cases e with
  | assignSwitch kind value =>
    simp only [Timely, AtomicStep.switchEvent, Option.mem_some_iff, forall_eq']
    -- a call with another value is as well in progress without this one
    refine or_congr_right' fun hvalue => ?_
    have hne : Call.assignSwitch kind (switchValue (s.driver.framework.registry kind.property)) ≠
        .assignSwitch kind value := by
      rintro heq
      cases heq
      exact hvalue rfl
    rw [List.mem_erase_of_ne hne, ← List.count_pos_iff]
    simp [WriteThrough.Brings, switchStores, Ne.symm hvalue]
  | _ => simp [Timely, AtomicStep.switchEvent, WriteThrough.Timely]

/-- Each timely step keeps the switches settled. -/
theorem settles_switchStores (hsettles : ∀ kind, s.switchStores.Settles kind) {e : AtomicStep}
    (htimely : s.Timely e) (h : s.step upcase e = some s') (kind : SwitchKind) :
    s'.switchStores.Settles kind := by
  have hevent := switchStores_step h
  rcases he : e.switchEvent with _ | event
  · rw [he] at hevent
    rw [← Option.some.inj hevent]
    exact hsettles kind
  · rw [he] at hevent
    exact (WriteThrough.settles_step hevent hsettles).mpr (timely_iff.mp htimely event he) kind

/-- An assignment that is not timely unsettles its switch. -/
theorem not_settles_of_not_timely {kind : SwitchKind} {value : Bool}
    (htimely : ¬s.Timely (.assignSwitch kind value))
    (h : s.step upcase (.assignSwitch kind value) = some s') : ¬s'.switchStores.Settles kind := by
  have hevent : s.switchStores.step (.update kind (some value)) = some s'.switchStores :=
    switchStores_step h
  rw [(WriteThrough.settles_update hevent).1]
  exact fun hupdate => htimely (timely_iff.mpr (by simpa [AtomicStep.switchEvent] using hupdate))

/-- Only a registry write of the switch settles it again. -/
theorem not_settles_run {kind : SwitchKind} {steps : List AtomicStep}
    (hsteps : ∀ e ∈ steps, ∀ o value, e ≠ .persistSwitch kind o value)
    (hs : ¬s.switchStores.Settles kind)
    (hrun : Machine.run (step upcase) s steps = some s') : ¬s'.switchStores.Settles kind := by
  induction steps generalizing s with
  | nil =>
    obtain rfl : s = s' := by simpa using hrun
    exact hs
  | cons e steps ih =>
    obtain ⟨he, hsteps⟩ := List.forall_mem_cons.mp hsteps
    rw [Machine.run_cons, Option.bind_eq_some_iff] at hrun
    obtain ⟨t, ht, hrun⟩ := hrun
    refine ih hsteps ?_ hrun
    have hevent := switchStores_step ht
    rcases hev : e.switchEvent with _ | event
    · rw [hev] at hevent
      rw [← Option.some.inj hevent]
      exact hs
    · rw [hev] at hevent
      refine WriteThrough.not_settles_step hevent hs fun value own hwrite => ?_
      cases e <;> simp_all [AtomicStep.switchEvent]

end Concurrent

/-! ### Whole runs -/

open Concurrent

section Runs

variable (upcase : WChar → WChar) {o : CreateOutcome} {fw : Framework}
  (hstart : NTSuccess (onDriverCreate o fw).1) {steps : List AtomicStep} {s : Concurrent}
  (hrun : Machine.run (step upcase) (start o fw) steps = some s)
include hstart hrun

/-- **Memory and registry agree on the lists.** In every state that a started driver reaches, a
list that no setter in progress still has to read back is the one decoded from its persisted
value. -/
theorem lists_agree (kind : ListKind) (hidle : Call.replaceList kind ∉ s.calls) :
    decodedValue (s.driver.framework.registry kind.property) = some (s.driver.list kind) := by
  -- the driver starts with what is persisted
  have hinit : ∀ kind, (start o fw).listStores.Settles kind := fun kind =>
    .inl (by
      change some ((onDriverCreate o fw).2.list kind) =
        decodedValue ((onDriverCreate o fw).2.framework.registry kind.property)
      rw [(onDriverCreate_loads hstart).1, (onDriverCreate_loads hstart).2.1])
  obtain ⟨-, hsettles⟩ := Machine.run_invariant
    (I := fun s => s.Valid ∧ ∀ kind, s.listStores.Settles kind)
    (fun s e s' hs h => ⟨hs.1.step h, settles_listStores hs.1 hs.2 h⟩)
    ⟨start_valid hstart, hinit⟩ hrun
  refine ((hsettles kind).agree fun value => ?_).symm
  cases value with
  | none => exact List.count_eq_zero.mpr hidle
  | some value => rfl

/-- **Memory and registry agree on the switches** as long as each assignment is timely, and then a
restart of the driver changes no switch. An assignment that is not timely leaves its switch in
disagreement until the switch is written again. -/
theorem switches_agree :
    (Machine.Along (step upcase) Timely (start o fw) steps →
      (∀ kind : SwitchKind, (∀ value, Call.assignSwitch kind value ∉ s.calls) →
        kind.value s.driver.context = switchValue (s.driver.framework.registry kind.property) ∧
        ∀ o', NTSuccess (onDriverCreate o' s.driver.framework).1 →
          kind.value (onDriverCreate o' s.driver.framework).2.context =
            kind.value s.driver.context)) ∧
    ∀ kind value t later u, ¬s.Timely (.assignSwitch kind value) →
      s.step upcase (.assignSwitch kind value) = some t →
      Machine.run (step upcase) t later = some u →
      (∀ e ∈ later, ∀ o value, e ≠ .persistSwitch kind o value) →
      kind.value u.driver.context ≠ switchValue (u.driver.framework.registry kind.property) := by
  have hinit : ∀ kind, (start o fw).switchStores.Settles kind := fun kind =>
    .inl (by
      change kind.value (onDriverCreate o fw).2.context =
        switchValue ((onDriverCreate o fw).2.framework.registry kind.property)
      rw [(onDriverCreate_loads hstart).1, (onDriverCreate_loads hstart).2.2])
  refine ⟨fun htimely kind hidle => ?_, fun kind value t later u hlate ht hlater hsteps hagree =>
    not_settles_run hsteps (not_settles_of_not_timely hlate ht) hlater (.inl hagree)⟩
  have hsettles := Machine.run_invariant_of_along
    (I := fun s : Concurrent => ∀ kind, s.switchStores.Settles kind)
    (fun s e s' hs htimely h => settles_switchStores hs htimely h) hinit htimely hrun
  have hagree : kind.value s.driver.context =
      switchValue (s.driver.framework.registry kind.property) := by
    refine (hsettles kind).agree fun value => ?_
    cases value with
    | none => rfl
    | some value => exact List.count_eq_zero.mpr (hidle value)
  refine ⟨hagree, fun o' ho' => ?_⟩
  rw [(onDriverCreate_loads ho').2.2, hagree]

end Runs

/-- Two requests for the whitelist that overlap: the first to write is the last to read back. -/
def overlappingSetWhitelist : List AtomicStep :=
  [.persistList .whitelist .success [0x41, nul, nul],
    .persistList .whitelist .success [0x42, nul, nul],
    .replaceList .whitelist .success, .replaceList .whitelist .success, .flushCache, .flushCache]

/-- Both read the list that was written last. -/
theorem lists_agree_overlapping :
    ∃ s, Machine.run (step id) (start .success .empty) overlappingSetWhitelist = some s ∧
      decodedValue (s.driver.framework.registry .whitelistedFullImageNames) =
        some (s.driver.list .whitelist) := by
  obtain ⟨s, hs, hcalls⟩ := Option.map_eq_some_iff.mp
    (show (Machine.run (step id) (start .success .empty) overlappingSetWhitelist).map calls =
      some [] by decide)
  exact ⟨s, hs, lists_agree id (by decide) hs .whitelist (by rw [hcalls]; exact List.not_mem_nil)⟩

/-- Two requests to set the switch, one after the other. -/
def setActiveTwice : List AtomicStep :=
  [.persistSwitch .active .success true, .assignSwitch .active true,
    .persistSwitch .active .success false, .assignSwitch .active false]

theorem switches_agree_setActiveTwice :
    ∃ s, Machine.run (step id) (start .success .empty) setActiveTwice = some s ∧
      s.driver.context.active = switchValue (s.driver.framework.registry .active) := by
  obtain ⟨s, hs, hcalls⟩ := Option.map_eq_some_iff.mp
    (show (Machine.run (step id) (start .success .empty) setActiveTwice).map calls = some [] by
      decide)
  have htimely : Machine.Along (step id) Timely (start .success .empty) setActiveTwice := by decide
  exact ⟨s, hs, (((switches_agree id (by decide) hs).1 htimely) .active
    (by rw [hcalls]; exact fun _ => List.not_mem_nil)).1⟩

/-- Two requests to set the switch that overlap: the first to write is the last to assign. -/
def overlappingSetActive : List AtomicStep :=
  [.persistSwitch .active .success true, .persistSwitch .active .success false,
    .assignSwitch .active false, .assignSwitch .active true]

/-- The service is active, and will not be after a restart. -/
theorem setActive_overtaken :
    (Machine.run (step id) (start .success .empty) overlappingSetActive).map (fun s =>
        (s.calls, s.driver.context.active, s.driver.framework.registry .active,
          (onDriverCreate .success s.driver.framework).2.context.active)) =
      some ([], true, some (.regDword 0), false) := by
  decide

end HidHide
