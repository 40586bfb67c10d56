import HidHide.Driver.Completion

/-!
# Session hiding

A process that adds a device to the session blacklist hides it for as long as it runs, in every
session. The driver is a machine of the events that reach it, each of which is handled whatever the
calls made for it come back with; `sessionBlacklist_handle` says what an event does to the session
blacklist, in the terms of `SessionEvent`.

The session blacklist is only looked at when no entry of the persistent blacklist has the path of
the device. `sessionHiding_iff` says exactly when the device is hidden from a session: when the
first persistent entry with its path, if there is one, does not exempt the session.
-/

namespace HidHide

/-! ### The events of the driver -/

/-- What reaches the driver. -/
inductive DriverEvent where
  | ioControl (o : IoOutcome) (callerPid : Handle) (ioControlCode : UInt32)
      (input output : List UInt8)
  | fileCreate (o : ForwardOutcome) (deviceInstancePath : UnicodeString) (processId : Handle)
      (sessionId : UInt32)
  | processChange (processId : Handle) (create : Bool)
  | loadImage (o : NewNodeOutcome) (fullImageName : Option ImageName) (processId : Handle)
  | shutdown

/-- The driver handles an event. -/
def Driver.handle (upcase : WChar → WChar) (d : Driver) : DriverEvent → Driver
  | .ioControl o callerPid ioControlCode input output =>
      (hidHideControlDeviceEvtIoDeviceControl o callerPid ioControlCode (.arrived input output)
        d).2.2
  | .fileCreate o deviceInstancePath processId sessionId =>
      ((WdfRequest.arrived [] []).onDeviceFileCreate o upcase d deviceInstancePath processId
        sessionId).2.2
  | .processChange processId create => onSystemProcessChange d processId create
  | .loadImage o fullImageName processId => onSystemLoadImage o d fullImageName processId
  | .shutdown => flushEvaluationCache d

namespace DriverEvent

/-- The process exits, or asks for its entries to be cleared. -/
def Releases (processId : Handle) : DriverEvent → Prop
  | ioControl _ callerPid ioControlCode _ _ =>
      callerPid = processId ∧ ioControlCode = ioctlClrSessionBlacklist
  | processChange exiting create => exiting = processId ∧ create = false
  | _ => False

instance (processId : Handle) : DecidablePred (Releases processId)
  | ioControl .. => inferInstanceAs (Decidable (_ ∧ _))
  | processChange .. => inferInstanceAs (Decidable (_ ∧ _))
  | fileCreate .. => .isFalse id
  | loadImage .. => .isFalse id
  | shutdown => .isFalse id

/-- The event as one of the session blacklist. -/
def sessionEvent : DriverEvent → Option SessionEvent
  | ioControl o callerPid ioControlCode input output =>
      let r := WdfRequest.arrived input output
      if ioControlCode = ioctlAddSessionBlacklist then some (.add (r.addRequest o callerPid))
      else if ioControlCode = ioctlClrSessionBlacklist then
        some (.clear callerPid r.outputBufferLength r.inputBufferLength)
      else none
  | processChange processId false => some (.processExit processId)
  | _ => none

/-- The event is no request to add entries that succeeds and carries a string. -/
def AddsNothing (e : DriverEvent) : Prop := ∀ event ∈ e.sessionEvent, event.AddsNothing

instance : DecidablePred AddsNothing := fun _ =>
  inferInstanceAs (Decidable (∀ event ∈ _, SessionEvent.AddsNothing event))

end DriverEvent

/-! ### What requests do to the session blacklist -/

section SessionBlacklist

variable (o : IoOutcome) (r : WdfRequest) (d : Driver)

theorem setList_sessionBlacklist (kind : ListKind) (o : ListOutcome) (buffer : List WChar) :
    (setList kind o buffer d).2.context.sessionBlacklist = d.context.sessionBlacklist := by
  rw [setList_eq]
  split_ifs
  · rw [ListKind.finish_context]
    exact ListKind.setCollection_sessionBlacklist kind _ _
  · exact ListKind.setCollection_sessionBlacklist kind _ _
  · rfl

theorem getList_context (kind : ListKind) (o : ReadOutcome) (buffer : Option (List WChar)) :
    (getList kind o buffer d).2.2.2.context = d.context := by
  simp only [getList]
  split_ifs <;> rfl

theorem setSwitch_sessionBlacklist (kind : SwitchKind) (o : WriteOutcome) (value : Bool) :
    (setSwitch kind o value d).2.2.context.sessionBlacklist = d.context.sessionBlacklist := by
  simp only [setSwitch]
  split_ifs
  · exact SwitchKind.setValue_sessionBlacklist kind _ _
  · rfl

/-- A request to add entries succeeds exactly when its steps do. -/
theorem AddRequest.succeeds_iff_steps (a : AddRequest) :
    a.Succeeds ↔ NTSuccess (firstError a.steps) := by
  rw [AddRequest.steps, firstError_append, AddRequest.Succeeds]
  have hvalid : a.Valid ↔ NTSuccess (firstError [validation (0 = a.outputBufferLength),
      validation (4 ≤ a.input.length), validation (0 = a.input.length % 2), a.o.retrieve,
      validation (MultiString.EndsInTwo nul (wideChars a.input))]) := by
    simp [ntSuccess_firstError_iff, AddRequest.Valid, eq_comm]
  by_cases h : a.Valid
  · rw [if_pos (hvalid.mp h), forall_ok_iff, and_iff_right h]
  · rw [if_neg fun hsteps => h (hvalid.mpr hsteps)]
    exact iff_of_false (fun hs => h hs.1) fun hsteps => h (hvalid.mpr hsteps)

/-- A request to add entries appends its entries if it succeeds, and leaves the driver as it is
otherwise. -/
theorem addSessionBlacklist_driver (callerPid : Handle) :
    let a := r.addRequest o callerPid
    (r.onControlDeviceIoAddSessionBlacklist o d callerPid).2.2 =
      if a.Succeeds then d.withSessionBlacklist (d.context.sessionBlacklist ++ a.entries)
      else d := by
  intro a
  have hiff : a.Succeeds ↔ NTSuccess (r.onControlDeviceIoAddSessionBlacklist o d callerPid).1 := by
    rw [(handled_addSessionBlacklist o r d callerPid).status, a.succeeds_iff_steps]
  by_cases hsucceeds : a.Succeeds
  · have hbuilt := addRequest_buildEntries o r callerPid hsucceeds.1.2.2.2.2
    have hstatus := hiff.mp hsucceeds
    rw [if_pos hsucceeds]
    revert hstatus
    simp only [WdfRequest.onControlDeviceIoAddSessionBlacklist]
    split_ifs with hout hlen heven hretrieve hends hloop hempty
    · exact fun h => absurd h not_ntSuccess_statusInvalidParameter
    · exact fun h => absurd h not_ntSuccess_statusInvalidParameter
    · exact fun h => absurd h not_ntSuccess_statusInvalidParameter
    · exact fun h => absurd h not_ntSuccess_statusInvalidParameter
    · exact fun _ => by rw [hbuilt.1 hloop]
    · -- a request without a string has no entries
      intro _
      rw [← hbuilt.1 hloop, not_not.mp hempty, List.append_nil]
      rfl
    · exact fun h => absurd h hloop
    · exact fun h => absurd h hretrieve
  · -- a request that fails leaves the driver as it is in each of its branches
    have hstatus := mt hiff.mpr hsucceeds
    rw [if_neg hsucceeds]
    revert hstatus
    simp only [WdfRequest.onControlDeviceIoAddSessionBlacklist]
    split_ifs
    all_goals first
      | exact fun _ => rfl
      | exact fun h => absurd ntSuccess_statusSuccess h

theorem getList_sessionBlacklist (kind : ListKind) :
    (r.onControlDeviceIoGetList o d kind).2.2.context.sessionBlacklist =
      d.context.sessionBlacklist := by
  simp only [WdfRequest.onControlDeviceIoGetList]
  split_ifs
  all_goals first
    | rfl
    | exact congrArg ControlDeviceContext.sessionBlacklist (getList_context d kind o.read _)

theorem setListRequest_sessionBlacklist (kind : ListKind) :
    (r.onControlDeviceIoSetList o d kind).2.2.context.sessionBlacklist =
      d.context.sessionBlacklist := by
  simp only [WdfRequest.onControlDeviceIoSetList]
  split_ifs
  all_goals first
    | rfl
    | exact setList_sessionBlacklist d kind _ _

theorem getSwitch_sessionBlacklist (kind : SwitchKind) :
    (r.onControlDeviceIoGetSwitch o d kind).2.2.context.sessionBlacklist =
      d.context.sessionBlacklist := by
  simp only [WdfRequest.onControlDeviceIoGetSwitch]
  split_ifs <;> rfl

theorem setSwitchRequest_sessionBlacklist (kind : SwitchKind) :
    (r.onControlDeviceIoSetSwitch o d kind).2.2.2.context.sessionBlacklist =
      d.context.sessionBlacklist := by
  simp only [WdfRequest.onControlDeviceIoSetSwitch]
  split_ifs
  all_goals first
    | rfl
    | exact setSwitch_sessionBlacklist d kind _ _

/-- The dispatcher, for the two codes of the session blacklist. -/
theorem dispatch_addSessionBlacklist (callerPid : Handle) :
    onControlDeviceIoDeviceControl o callerPid ioctlAddSessionBlacklist r d =
      withoutEvents (r.onControlDeviceIoAddSessionBlacklist o d callerPid) := by
  rw [onControlDeviceIoDeviceControl]
  iterate 8 rw [if_neg (by decide)]
  rw [if_pos rfl]

theorem dispatch_clearSessionBlacklist (callerPid : Handle) :
    onControlDeviceIoDeviceControl o callerPid ioctlClrSessionBlacklist r d =
      withoutEvents (r.onControlDeviceIoClearSessionBlacklist d callerPid) := by
  rw [onControlDeviceIoDeviceControl]
  iterate 9 rw [if_neg (by decide)]
  rw [if_pos rfl]

/-- A request to clear entries removes those of the caller, if it is valid. -/
theorem clearSessionBlacklist_sessionBlacklist (callerPid : Handle) :
    (r.onControlDeviceIoClearSessionBlacklist d callerPid).2.2.context.sessionBlacklist =
      (SessionEvent.clear callerPid r.outputBufferLength r.inputBufferLength).next
        d.context.sessionBlacklist := by
  simp only [WdfRequest.onControlDeviceIoClearSessionBlacklist, SessionEvent.next]
  by_cases hvalid : r.outputBufferLength = 0 ∧ r.inputBufferLength = 0
  · rw [if_pos hvalid, if_neg (by omega)]
    rfl
  · rw [if_neg hvalid, if_pos (by omega)]

end SessionBlacklist

/-- What a request does to the driver, whether or not it is completed by its handler. -/
theorem handle_ioControl (upcase : WChar → WChar) (d : Driver) (o : IoOutcome)
    (callerPid : Handle) (ioControlCode : UInt32) (input output : List UInt8) :
    d.handle upcase (.ioControl o callerPid ioControlCode input output) =
      (onControlDeviceIoDeviceControl o callerPid ioControlCode (.arrived input output)
        d).2.2.2 := by
  simp only [Driver.handle, hidHideControlDeviceEvtIoDeviceControl]
  split_ifs <;> rfl

/-- What a file create does to the driver, whether or not it is sent on. -/
theorem handle_fileCreate (upcase : WChar → WChar) (d : Driver) (o : ForwardOutcome)
    (deviceInstancePath : UnicodeString) (processId : Handle) (sessionId : UInt32) :
    d.handle upcase (.fileCreate o deviceInstancePath processId sessionId) =
      (onDeviceFileCreate upcase d deviceInstancePath processId sessionId).2.2 := by
  simp only [Driver.handle, WdfRequest.onDeviceFileCreate]
  split_ifs <;> rfl

/-- **What an event does to the session blacklist.** -/
theorem sessionBlacklist_handle (upcase : WChar → WChar) (d : Driver) (e : DriverEvent) :
    (d.handle upcase e).context.sessionBlacklist =
      e.sessionEvent.elim d.context.sessionBlacklist fun event =>
        event.next d.context.sessionBlacklist := by
  cases e with
  | ioControl o callerPid ioControlCode input output =>
    obtain ⟨r, hr⟩ : ∃ r, r = WdfRequest.arrived input output := ⟨_, rfl⟩
    rw [handle_ioControl, DriverEvent.sessionEvent, ← hr]
    by_cases hadd : ioControlCode = ioctlAddSessionBlacklist
    · rw [hadd, dispatch_addSessionBlacklist, if_pos rfl, Option.elim_some, SessionEvent.next]
      change (r.onControlDeviceIoAddSessionBlacklist o d callerPid).2.2.context.sessionBlacklist = _
      rw [addSessionBlacklist_driver]
      split_ifs <;> rfl
    by_cases hclr : ioControlCode = ioctlClrSessionBlacklist
    · rw [hclr, dispatch_clearSessionBlacklist, if_neg (by decide), if_pos rfl, Option.elim_some]
      exact clearSessionBlacklist_sessionBlacklist r d callerPid
    · -- the other requests leave the session blacklist alone
      rw [if_neg hadd, if_neg hclr, Option.elim_none]
      let Kept (result : NTStatus × WdfRequest × List LogEvent × Driver) : Prop :=
        result.2.2.2.context.sessionBlacklist = d.context.sessionBlacklist
      exact @dispatch_cases Kept o callerPid ioControlCode r d (getList_sessionBlacklist o r d)
        (fun _ => setListRequest_sessionBlacklist o r d .whitelist)
        (fun _ => setListRequest_sessionBlacklist o r d .blacklist)
        (getSwitch_sessionBlacklist o r d) (setSwitchRequest_sessionBlacklist o r d)
        (fun h => absurd h hadd) (fun h => absurd h hclr) rfl
  | fileCreate o deviceInstancePath processId sessionId =>
    -- a file create changes nothing but the process tree
    have hcontext : (d.handle upcase (.fileCreate o deviceInstancePath processId
        sessionId)).context = d.context := by
      rw [handle_fileCreate]
      rcases onDeviceFileCreate_state upcase d deviceInstancePath processId sessionId with h | h
      · rw [h]
      · rw [h]
    rw [hcontext]
    rfl
  | processChange processId create =>
    cases create <;> rfl
  | loadImage o fullImageName processId =>
    rcases fullImageName with _ | fullImageName
    · rfl
    · simp only [Driver.handle, onSystemLoadImage]
      split_ifs <;> rfl
  | shutdown => rfl

/-- **The ring follows the driver** through events that add nothing. -/
theorem SessionMemory.Represents.foldl_handle (upcase : WChar → WChar) {s : SessionMemory}
    {d : Driver} (h : s.Represents d.context.sessionBlacklist) {events : List DriverEvent}
    (hnothing : ∀ e ∈ events, e.AddsNothing) :
    ∃ s', Machine.run SessionEvent.step s (events.filterMap (·.sessionEvent)) = some s' ∧
      s'.Represents (events.foldl (Driver.handle upcase) d).context.sessionBlacklist := by
  induction events generalizing s d with
  | nil => exact ⟨s, rfl, h⟩
  | cons e events ih =>
    obtain ⟨he, hevents⟩ := List.forall_mem_cons.mp hnothing
    have hlist := sessionBlacklist_handle upcase d e
    rcases hsession : e.sessionEvent with _ | event
    · rw [hsession, Option.elim_none] at hlist
      rw [List.filterMap_cons_none hsession]
      exact ih (hlist ▸ h) hevents
    · rw [hsession, Option.elim_some] at hlist
      obtain ⟨t, ht, hrepresents⟩ := (event.step_represents h).1 (he event hsession)
      rw [List.filterMap_cons_some hsession, Machine.run_cons, ht]
      exact ih (hlist ▸ hrepresents) hevents

/-! ### The verdict -/

/-- What a request to add entries does to the driver. -/
theorem handle_addSessionBlacklist (upcase : WChar → WChar) (d : Driver) (o : IoOutcome)
    (callerPid : Handle) (input output : List UInt8) :
    let a := (WdfRequest.arrived input output).addRequest o callerPid
    d.handle upcase (.ioControl o callerPid ioctlAddSessionBlacklist input output) =
      if a.Succeeds then d.withSessionBlacklist (d.context.sessionBlacklist ++ a.entries)
      else d := by
  intro a
  rw [← addSessionBlacklist_driver, handle_ioControl, dispatch_addSessionBlacklist]
  rfl

/-- The entry is for the session of the caller, which may see the device. -/
def Exempts (entry : UnicodeString) (sessionId : UInt32) : Prop :=
  sessionId ≠ 0 ∧ (splitDeviceData entry).2 ≠ 0 ∧ sessionId = (splitDeviceData entry).2

instance (entry : UnicodeString) (sessionId : UInt32) : Decidable (Exempts entry sessionId) :=
  inferInstanceAs (Decidable (_ ∧ _ ∧ _))

section Verdict

variable (upcase : WChar → WChar) (persistent : List UnicodeString)
  (entries : List SessionBlacklistEntry) (deviceInstancePath : UnicodeString) (sessionId : UInt32)

/-- The first entry of the persistent list with the path of the device. -/
def decisiveEntry : Option UnicodeString :=
  persistent.find? fun entry => RtlCompareEqual upcase (splitDeviceData entry).1 deviceInstancePath

/-- The persistent list exempts the session: its first entry with the path of the device does. -/
def Exempted : Prop :=
  ∃ entry ∈ decisiveEntry upcase persistent deviceInstancePath, Exempts entry sessionId

instance : Decidable (Exempted upcase persistent deviceInstancePath sessionId) :=
  inferInstanceAs (Decidable (∃ entry ∈ decisiveEntry upcase persistent deviceInstancePath, _))

theorem checkPersistentBlacklist_eq :
    checkPersistentBlacklist upcase deviceInstancePath sessionId persistent =
      (decisiveEntry upcase persistent deviceInstancePath).map fun entry =>
        !decide (Exempts entry sessionId) := by
  induction persistent with
  | nil => rfl
  | cons entry persistent ih =>
    rw [checkPersistentBlacklist, decisiveEntry, List.find?_cons]
    by_cases hpath : RtlCompareEqual upcase (splitDeviceData entry).1 deviceInstancePath
    · simp only [if_pos hpath, decide_eq_true hpath, Option.map_some]
      by_cases hexempts : Exempts entry sessionId
      · rw [decide_eq_true hexempts]
        exact if_pos hexempts
      · rw [decide_eq_false hexempts]
        exact if_neg hexempts
    · simp only [if_neg hpath, decide_eq_false hpath]
      exact ih

/-- The device is hidden exactly when the first persistent entry with its path does not exempt the
session, or, without such an entry, when it is on the session list. -/
theorem blacklisted_iff :
    blacklisted upcase persistent entries deviceInstancePath sessionId = true ↔
      ¬Exempted upcase persistent deviceInstancePath sessionId ∧
        ((decisiveEntry upcase persistent deviceInstancePath).isSome = true ∨
          ∃ entry ∈ entries,
            RtlCompareEqual upcase entry.deviceInstancePath deviceInstancePath) := by
  rw [blacklisted, checkPersistentBlacklist_eq, Exempted]
  rcases decisiveEntry upcase persistent deviceInstancePath with _ | entry
  · simp
  · simp

/-- Session entries hide no less than they did when more are added. -/
theorem blacklisted_append {more : List SessionBlacklistEntry}
    (h : blacklisted upcase persistent entries deviceInstancePath sessionId = true) :
    blacklisted upcase persistent (entries ++ more) deviceInstancePath sessionId = true := by
  rw [blacklisted_iff] at h ⊢
  obtain ⟨hexempted, hpersistent | ⟨entry, hentry, hpath⟩⟩ := h
  · exact ⟨hexempted, .inl hpersistent⟩
  · exact ⟨hexempted, .inr ⟨entry, List.mem_append_left _ hentry, hpath⟩⟩

/-- The decisive entry is one of those with the path of the device. -/
theorem mem_of_mem_decisiveEntry {entry : UnicodeString}
    (h : entry ∈ decisiveEntry upcase persistent deviceInstancePath) :
    entry ∈ persistent ∧ RtlCompareEqual upcase (splitDeviceData entry).1 deviceInstancePath :=
  ⟨List.mem_of_find?_eq_some h, by simpa using List.find?_some h⟩

/-- With one entry that has the path in front, it is the decisive one. -/
theorem decisiveEntry_cons_of_pos {entry : UnicodeString}
    (h : RtlCompareEqual upcase (splitDeviceData entry).1 deviceInstancePath) :
    decisiveEntry upcase (entry :: persistent) deviceInstancePath = some entry := by
  rw [decisiveEntry, List.find?_cons_of_pos]
  simpa using h

theorem isSome_decisiveEntry_iff :
    (decisiveEntry upcase persistent deviceInstancePath).isSome = true ↔
      ∃ entry ∈ persistent,
        RtlCompareEqual upcase (splitDeviceData entry).1 deviceInstancePath := by
  rw [decisiveEntry, List.find?_isSome]
  simp only [decide_eq_true_eq]

variable {upcase persistent deviceInstancePath sessionId} in
/-- Where the entries with the path agree, any of them that exempts the session decides. -/
theorem exempted_iff_exists (h : ∀ e₁ ∈ persistent, ∀ e₂ ∈ persistent,
    RtlCompareEqual upcase (splitDeviceData e₁).1 deviceInstancePath →
    RtlCompareEqual upcase (splitDeviceData e₂).1 deviceInstancePath →
    (Exempts e₁ sessionId ↔ Exempts e₂ sessionId)) :
    Exempted upcase persistent deviceInstancePath sessionId ↔ ∃ entry ∈ persistent,
      RtlCompareEqual upcase (splitDeviceData entry).1 deviceInstancePath ∧
        Exempts entry sessionId := by
  constructor
  · rintro ⟨entry, hentry, hexempts⟩
    obtain ⟨hmem, hpath⟩ := mem_of_mem_decisiveEntry _ _ _ hentry
    exact ⟨entry, hmem, hpath, hexempts⟩
  · rintro ⟨entry, hmem, hpath, hexempts⟩
    obtain ⟨first, hfirst⟩ := Option.isSome_iff_exists.mp
      ((isSome_decisiveEntry_iff upcase persistent deviceInstancePath).mpr ⟨entry, hmem, hpath⟩)
    obtain ⟨hmem', hpath'⟩ := mem_of_mem_decisiveEntry _ _ _ hfirst
    exact ⟨first, hfirst, (h entry hmem first hmem' hpath hpath').mp hexempts⟩

/-- **The order of the entries** makes no difference to the verdict, whatever the order and the
multiplicity, if and only if the entries with the path of the device all exempt the session, or
none of them does. -/
theorem forall_blacklisted_eq_iff :
    (∀ other : List UnicodeString, (∀ entry, entry ∈ other ↔ entry ∈ persistent) →
      blacklisted upcase other entries deviceInstancePath sessionId =
        blacklisted upcase persistent entries deviceInstancePath sessionId) ↔
      ∀ e₁ ∈ persistent, ∀ e₂ ∈ persistent,
        RtlCompareEqual upcase (splitDeviceData e₁).1 deviceInstancePath →
        RtlCompareEqual upcase (splitDeviceData e₂).1 deviceInstancePath →
        (Exempts e₁ sessionId ↔ Exempts e₂ sessionId) := by
  constructor
  · -- each of the two entries decides when it comes first
    intro h e₁ he₁ e₂ he₂ hpath₁ hpath₂
    have hfirst : ∀ e ∈ persistent,
        RtlCompareEqual upcase (splitDeviceData e).1 deviceInstancePath →
        (blacklisted upcase persistent entries deviceInstancePath sessionId = true ↔
          ¬Exempts e sessionId) := by
      intro e he hpath
      rw [← h (e :: persistent) fun entry => by
        rw [List.mem_cons, or_iff_right_of_imp]
        rintro rfl
        exact he, blacklisted_iff, Exempted, decisiveEntry_cons_of_pos upcase _ _ hpath]
      simp
    rw [← not_iff_not, ← hfirst e₁ he₁ hpath₁, hfirst e₂ he₂ hpath₂]
  · intro h other hsame
    rw [Bool.eq_iff_iff, blacklisted_iff, blacklisted_iff]
    have hsome : (decisiveEntry upcase other deviceInstancePath).isSome = true ↔
        (decisiveEntry upcase persistent deviceInstancePath).isSome = true := by
      simp only [isSome_decisiveEntry_iff, hsame]
    have hexempted : Exempted upcase other deviceInstancePath sessionId ↔
        Exempted upcase persistent deviceInstancePath sessionId := by
      rw [exempted_iff_exists h, exempted_iff_exists (by simpa only [hsame] using h)]
      simp only [hsame]
    rw [hsome, hexempted]

/-- An entry for session 3 and one for every session. -/
theorem blacklisted_swap :
    let sessionEntry : UnicodeString := [0x41, 0x21, 0x33]
    let entry : UnicodeString := [0x41]
    (∀ e, e ∈ [sessionEntry, entry] ↔ e ∈ [entry, sessionEntry]) ∧
      blacklisted id [sessionEntry, entry] [] [0x41] 3 = false ∧
      blacklisted id [entry, sessionEntry] [] [0x41] 3 = true :=
  ⟨fun e => by simp [or_comm], by decide, by decide⟩

end Verdict

/-! ### Runs -/

/-- In the course of the events a process adds the path, and does not release it afterwards. -/
def KeepsHidden (events : List DriverEvent) (path : UnicodeString) : Prop :=
  ∃ before o callerPid input output after,
    events = before ++ .ioControl o callerPid ioctlAddSessionBlacklist input output :: after ∧
    ((WdfRequest.arrived input output).addRequest o callerPid).Succeeds ∧
    path ∈ ((WdfRequest.arrived input output).addRequest o callerPid).strings ∧
    ∀ e ∈ after, ¬e.Releases callerPid

/-- An entry stays as long as its owner does not release it. -/
theorem mem_sessionBlacklist_handle {upcase : WChar → WChar} {d : Driver} {e : DriverEvent}
    {entry : SessionBlacklistEntry} (hentry : entry ∈ d.context.sessionBlacklist)
    (he : ¬e.Releases entry.ownerPid) :
    entry ∈ (d.handle upcase e).context.sessionBlacklist := by
  rw [sessionBlacklist_handle]
  cases e with
  | ioControl o callerPid ioControlCode input output =>
    rw [DriverEvent.sessionEvent]
    by_cases hadd : ioControlCode = ioctlAddSessionBlacklist
    · rw [if_pos hadd, Option.elim_some, SessionEvent.next]
      split_ifs
      · exact List.mem_append_left _ hentry
      · exact hentry
    rw [if_neg hadd]
    by_cases hclr : ioControlCode = ioctlClrSessionBlacklist
    · -- another process asks for its entries to be cleared
      have howner : entry.ownerPid ≠ callerPid := fun h => he ⟨h.symm, hclr⟩
      rw [if_pos hclr, Option.elim_some, SessionEvent.next]
      split_ifs
      · exact List.mem_filter.mpr ⟨hentry, by simpa using howner⟩
      · exact hentry
    · rw [if_neg hclr]
      exact hentry
  | processChange processId create =>
    rcases create
    · have howner : entry.ownerPid ≠ processId := fun h => he ⟨h.symm, rfl⟩
      exact List.mem_filter.mpr ⟨hentry, by simpa using howner⟩
    · exact hentry
  | _ => exact hentry

/-- After a run, the entry of a path that is kept hidden is on the session blacklist. -/
theorem KeepsHidden.exists_entry {events : List DriverEvent} {path : UnicodeString}
    (h : KeepsHidden events path) (upcase : WChar → WChar) (d : Driver) :
    ∃ callerPid, sessionEntry callerPid path ∈
      (events.foldl (Driver.handle upcase) d).context.sessionBlacklist := by
  obtain ⟨before, o, callerPid, input, output, after, rfl, hsucceeds, hpath, hafter⟩ := h
  refine ⟨callerPid, ?_⟩
  rw [List.foldl_append, List.foldl_cons]
  -- the request adds the entry, and the later events keep it
  obtain ⟨d₁, hd₁⟩ : ∃ d₁, d₁ = Driver.handle upcase (before.foldl (Driver.handle upcase) d)
    (.ioControl o callerPid ioctlAddSessionBlacklist input output) := ⟨_, rfl⟩
  have hadded : sessionEntry callerPid path ∈ d₁.context.sessionBlacklist := by
    rw [hd₁, sessionBlacklist_handle, DriverEvent.sessionEvent, if_pos rfl, Option.elim_some,
      SessionEvent.next, if_pos hsucceeds]
    exact List.mem_append_right _ (List.mem_map_of_mem hpath)
  rw [← hd₁]
  clear hd₁
  induction after generalizing d₁ with
  | nil => exact hadded
  | cons e after ih =>
    rw [List.foldl_cons]
    exact ih (fun e' he' => hafter e' (List.mem_cons_of_mem _ he')) _
      (mem_sessionBlacklist_handle hadded (hafter e List.mem_cons_self))

/-- The path of the entry for a string that fits a `UNICODE_STRING` is the string. -/
theorem sessionEntry_deviceInstancePath (callerPid : Handle) {string : UnicodeString}
    (h : string.length < 2 ^ 15) : (sessionEntry callerPid string).deviceInstancePath = string := by
  rw [sessionEntry, Nat.mod_eq_of_lt (by omega), Nat.mul_div_cancel_left _ two_pos,
    List.take_length]

/-- **Session hiding.** While a process keeps a path hidden, a device with that path is blacklisted
for exactly the sessions that the persistent blacklist does not exempt. A request to add entries
never makes a device visible. -/
theorem sessionHiding_iff (upcase : WChar → WChar) (d : Driver) (events : List DriverEvent) :
    let d' := events.foldl (Driver.handle upcase) d
    let verdict (d : Driver) := blacklisted upcase (d.list .blacklist) d.context.sessionBlacklist
    (∀ path deviceInstancePath : UnicodeString, KeepsHidden events path →
      deviceInstancePath.length < 2 ^ 15 → RtlCompareEqual upcase path deviceInstancePath →
      ∀ sessionId, verdict d' deviceInstancePath sessionId = true ↔
        ¬Exempted upcase (d'.list .blacklist) deviceInstancePath sessionId) ∧
    ∀ o callerPid input output deviceInstancePath sessionId,
      verdict d' deviceInstancePath sessionId = true →
      verdict (d'.handle upcase (.ioControl o callerPid ioctlAddSessionBlacklist input output))
        deviceInstancePath sessionId = true := by
  intro d' verdict
  refine ⟨fun path device hkeeps hlength hpath sessionId => ?_,
    fun o callerPid input output device sessionId hverdict => ?_⟩
  · obtain ⟨callerPid, hentry⟩ := hkeeps.exists_entry upcase d
    have hlength' : path.length = device.length := by
      simpa using congrArg List.length hpath
    rw [blacklisted_iff, and_iff_left]
    refine .inr ⟨_, hentry, ?_⟩
    rw [sessionEntry_deviceInstancePath callerPid (by omega)]
    exact hpath
  · rw [handle_addSessionBlacklist]
    split_ifs
    · change blacklisted upcase _ _ device sessionId = true
      rw [list_withSessionBlacklist, withSessionBlacklist_sessionBlacklist]
      exact blacklisted_append upcase _ _ device sessionId hverdict
    · exact hverdict

/-- The outcome in which every call succeeds. -/
def IoOutcome.success : IoOutcome :=
  ⟨statusSuccess, .success, .success, fun _ => ⟨true, statusSuccess⟩⟩

/-- A process hides a device, of one letter. -/
def hideOne : DriverEvent :=
  .ioControl .success 8 ioctlAddSessionBlacklist [0x41, 0, 0, 0, 0, 0] []

theorem keepsHidden_hideOne (before : List DriverEvent) :
    KeepsHidden (before ++ [hideOne]) [0x41] :=
  ⟨before, .success, 8, _, _, [], rfl, by decide, by decide, by simp⟩

/-- Without a persistent entry, the device is hidden from every session. -/
theorem sessionHiding_hideOne : ∀ sessionId,
    blacklisted id ((firstDriver.handle id hideOne).list .blacklist)
        (firstDriver.handle id hideOne).context.sessionBlacklist [0x41] sessionId = true ↔
      ¬Exempted id ((firstDriver.handle id hideOne).list .blacklist) [0x41] sessionId :=
  (sessionHiding_iff id firstDriver [hideOne]).1 [0x41] [0x41] (keepsHidden_hideOne []) (by decide)
    rfl

/-- A persistent entry for session 3: the device is visible in that session while a process keeps
it hidden. -/
theorem hideOne_exempted :
    let events := [.ioControl .success 4 ioctlSetBlacklist
      [0x41, 0, 0x21, 0, 0x33, 0, 0, 0, 0, 0] [], hideOne]
    let d := events.foldl (Driver.handle id) firstDriver
    KeepsHidden events [0x41] ∧
      blacklisted id (d.list .blacklist) d.context.sessionBlacklist [0x41] 3 = false :=
  ⟨keepsHidden_hideOne [_], by decide⟩

end HidHide
