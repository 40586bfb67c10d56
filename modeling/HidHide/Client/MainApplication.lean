import HidHide.Client.ListTransfer
import HidHide.Client.OwnEntry
import HidHide.Client.Revocation
import HidHide.Client.Scripts
import HidHide.Client.StoreRefinement
import HidHide.Client.WriteThroughMode
import HidHide.Driver.Restart

/-!
# The command line program

`MainApplication` makes a proxy that defers its changes and runs the interpreter. It has the control
device to itself, but not the driver: between two of its requests processes start and exit, and
devices are opened. `Traffic` is the driver with what reaches it before each request, and with what
the calls of that request come back with.

A device answers as a store (`DeviceRequests.AnswersAs`) if what is got of it is got of the store,
and what is set in it is set in the store; whatever answers as a store is left by the program as the
store is left. The driver does so amid its traffic (`trafficRequests_answersAs`). So a program that
comes to its end has changed the settings to what its lines make of them, or not at all, and they
stay so through each run of the service in which nothing is set (`program_allOrNothing`).
-/

namespace HidHide

/-! ### Devices that answer as a store -/

/-- What is got of a device is got of the store that stands for it, and what it accepts is set in
that store. A request is not answered with an error that is none. -/
structure DeviceRequests.AnswersAs {δ : Type*} (io : DeviceRequests δ)
    (stands : ConfigurationStore → δ → Prop) : Prop where
  getStrings : ∀ {lt : WString → WString → Prop} [DecidableRel lt] [IsTrans WString lt]
    {kind : ListKind} {s : ConfigurationStore} {d d' : δ} {S : OrderedSet lt}, stands s d →
    io.getStrings lt kind d = (.ok S, d') → OrderedSet.ofList lt (s.list kind) = S ∧ stands s d'
  getStrings_error : ∀ {lt : WString → WString → Prop} [DecidableRel lt] [IsTrans WString lt]
    {kind : ListKind} {d : δ} {ntstatus : NTStatus},
    (io.getStrings lt kind d).1 = .error ntstatus → ¬NTSuccess ntstatus
  getSwitch : ∀ {kind : SwitchKind} {s : ConfigurationStore} {d d' : δ} {value : Bool},
    stands s d → io.getSwitch kind d = (.ok value, d') → s.switch kind = value ∧ stands s d'
  getSwitch_error : ∀ {kind : SwitchKind} {d : δ} {ntstatus : NTStatus},
    (io.getSwitch kind d).1 = .error ntstatus → ¬NTSuccess ntstatus
  setList : ∀ {lt : WString → WString → Prop} {kind : ListKind} {s : ConfigurationStore} {d : δ}
    {S : OrderedSet lt}, stands s d → 2 * (Proxy.writeSet S).length < 2 ^ 32 →
    NTSuccess (io.setList kind (Proxy.writeSet S) d).1 →
    stands (s.setList kind (Proxy.writeSet S)) (io.setList kind (Proxy.writeSet S) d).2
  setSwitch : ∀ {kind : SwitchKind} {value : Bool} {s : ConfigurationStore} {d : δ}, stands s d →
    NTSuccess (io.setSwitch kind value d).1 →
    stands (s.setSwitch kind value) (io.setSwitch kind value d).2

/-- Only a proxy that defers its changes applies them. -/
theorem Proxy.writeThrough_of_applied {δ : Type*} {io : DeviceRequests δ} {proxy : Proxy} {d : δ}
    (h : NTSuccess (proxy.applyConfigurationChanges io d).1) : proxy.writeThrough = false := by
  rw [← Bool.not_eq_true]
  intro hthrough
  rw [Proxy.applyConfigurationChanges, if_pos hthrough] at h
  exact absurd (show NTSuccess statusInvalidParameter from h) (by decide)

namespace DeviceRequests.AnswersAs

open Proxy

variable {δ : Type*} {io : DeviceRequests δ} {stands : ConfigurationStore → δ → Prop}
  {s : ConfigurationStore} {d : δ}

/-- A list that is set if it differs. -/
theorem setIfChanged_list (hio : io.AnswersAs stands) (h : stands s d)
    {lt : WString → WString → Prop} [DecidableRel lt] [IsTrans WString lt] {kind : ListKind}
    {same : OrderedSet lt → Prop} [DecidablePred same] {S : OrderedSet lt}
    (hfits : 2 * (writeSet S).length < 2 ^ 32)
    (hok : NTSuccess
      (setIfChanged (io.getStrings lt kind) same (io.setList kind (writeSet S)) d).1) :
    stands (if same (OrderedSet.ofList lt (s.list kind)) then s else s.setList kind (writeSet S))
      (setIfChanged (io.getStrings lt kind) same (io.setList kind (writeSet S)) d).2 := by
  obtain ⟨value, d', hget, hresult⟩ := setIfChanged_of_success (fun _ => hio.getStrings_error) hok
  obtain ⟨rfl, h'⟩ := hio.getStrings h hget
  rcases hresult with ⟨hsame, heq⟩ | ⟨hsame, heq⟩
  · rw [heq, if_pos hsame]
    exact h'
  · rw [heq] at hok ⊢
    rw [if_neg hsame]
    exact hio.setList h' hfits hok

/-- A switch that is set if it differs. -/
theorem setIfChanged_switch (hio : io.AnswersAs stands) (h : stands s d) {kind : SwitchKind}
    {value : Bool}
    (hok : NTSuccess (setIfChanged (io.getSwitch kind) (· = value) (io.setSwitch kind value) d).1) :
    stands (s.flushSwitch kind value)
      (setIfChanged (io.getSwitch kind) (· = value) (io.setSwitch kind value) d).2 := by
  obtain ⟨value', d', hget, hresult⟩ := setIfChanged_of_success (fun _ => hio.getSwitch_error) hok
  obtain ⟨hswitch, h'⟩ := hio.getSwitch h hget
  rw [ConfigurationStore.flushSwitch, hswitch]
  rcases hresult with ⟨hsame, heq⟩ | ⟨hsame, heq⟩
  · rw [heq, if_pos hsame]
    exact h'
  · rw [heq] at hok ⊢
    rw [if_neg hsame]
    exact hio.setSwitch h' hok

/-- **`ApplyConfigurationChanges`** leaves the device as it leaves the store. -/
theorem applyConfigurationChanges (hio : io.AnswersAs stands) (h : stands s d) {proxy : Proxy}
    (hfits : proxy.Fits) (hok : NTSuccess (proxy.applyConfigurationChanges io d).1) :
    stands (proxy.applyConfigurationChanges storeRequests s).2
      (proxy.applyConfigurationChanges io d).2 := by
  have hdeferred := writeThrough_of_applied hok
  rw [applyConfigurationChanges_store proxy s hdeferred]
  rw [Proxy.applyConfigurationChanges, hdeferred, if_neg Bool.false_ne_true] at hok ⊢
  -- the stages, from the last one back
  obtain ⟨hthree, hinverse, heq⟩ := andThen_of_success hok
  obtain ⟨htwo, hactive, heq'⟩ := andThen_of_success hthree
  obtain ⟨hwhitelist, hblacklist, heq''⟩ := andThen_of_success htwo
  rw [heq', heq''] at hinverse
  rw [heq''] at hactive
  rw [heq, heq', heq'']
  have h₁ := hio.setIfChanged_list h hfits.whitelist hwhitelist
  have h₂ := hio.setIfChanged_list h₁ hfits.blacklist hblacklist
  have h₃ := hio.setIfChanged_switch h₂ hactive
  exact hio.setIfChanged_switch h₃ hinverse

/-- The constructor reads the settings, and sets the whitelist if the client is to be enrolled. -/
theorem create_cases (hio : io.AnswersAs stands) (h : stands s d) {own : WString}
    {writeThrough : Bool} {proxy : Proxy} {d' : δ}
    (hcreate : create io own writeThrough d = (.ok proxy, d')) :
    proxy = { writeThrough, active := s.active, blacklist := s.blacklist, inverse := s.inverse,
              whitelist := enrolled own s.inverse s.whitelist } ∧
      ∃ d₁, stands s d₁ ∧
        (Enrolls own s.inverse s.whitelist ∧ NTSuccess (io.setWhitelist proxy.whitelist d₁).1 ∧
            d' = (io.setWhitelist proxy.whitelist d₁).2 ∨
          ¬Enrolls own s.inverse s.whitelist ∧ d' = d₁) := by
  rcases hactive : io.getActive d with ⟨ntstatus | active, d₁⟩
  · simp [Proxy.create, hactive] at hcreate
  rcases hblacklist : io.getBlacklist d₁ with ⟨ntstatus | blacklist, d₂⟩
  · simp [Proxy.create, hactive, hblacklist] at hcreate
  rcases hwhitelist : io.getWhitelist d₂ with ⟨ntstatus | whitelist, d₃⟩
  · simp [Proxy.create, hactive, hblacklist, hwhitelist] at hcreate
  rcases hinverse : io.getInverse d₃ with ⟨ntstatus | inverse, d₄⟩
  · simp [Proxy.create, hactive, hblacklist, hwhitelist, hinverse] at hcreate
  obtain ⟨rfl, h₁⟩ := hio.getSwitch h hactive
  obtain ⟨rfl, h₂⟩ := hio.getStrings h₁ hblacklist
  obtain ⟨rfl, h₃⟩ := hio.getStrings h₂ hwhitelist
  obtain ⟨rfl, h₄⟩ := hio.getSwitch h₃ hinverse
  simp only [Proxy.create, hactive, hblacklist, hwhitelist, hinverse] at hcreate
  change (if Enrolls own s.inverse s.whitelist then _ else _) = _ at hcreate
  split_ifs at hcreate with henrolls hset
  · obtain ⟨hproxy, hdevice⟩ := Prod.mk.inj hcreate
    obtain rfl := Except.ok.inj hproxy
    exact ⟨rfl, d₄, h₄, .inl ⟨henrolls, hset, hdevice.symm⟩⟩
  · exact absurd (congrArg Prod.fst hcreate) (by simp)
  · obtain ⟨hproxy, hdevice⟩ := Prod.mk.inj hcreate
    obtain rfl := Except.ok.inj hproxy
    exact ⟨rfl, d₄, h₄, .inr ⟨henrolls, hdevice.symm⟩⟩

/-- **The constructor** leaves the device as it leaves the store, and caches what it does there. -/
theorem create (hio : io.AnswersAs stands) (h : stands s d) {own : WString} {writeThrough : Bool}
    {proxy : Proxy} {d' : δ} (hcreate : create io own writeThrough d = (.ok proxy, d'))
    (hfits : 2 * (writeSet (enrolled own s.inverse s.whitelist)).length < 2 ^ 32) :
    ∃ s', Proxy.create storeRequests own writeThrough s = (.ok proxy, s') ∧ stands s' d' := by
  obtain ⟨rfl, d₁, h₁, hset⟩ := hio.create_cases h hcreate
  rw [create_store]
  rcases hset with ⟨henrolls, hset, rfl⟩ | ⟨henrolls, rfl⟩
  · rw [if_pos henrolls]
    exact ⟨_, rfl, hio.setList h₁ hfits hset⟩
  · rw [if_neg henrolls]
    exact ⟨_, rfl, h₁⟩

end DeviceRequests.AnswersAs

/-! ### The driver amid its traffic -/

/-- The event is no request. -/
def DriverEvent.IsNotification : DriverEvent → Prop
  | ioControl .. => False
  | _ => True

/-- What precedes a request: events that reach the driver. The calls of the request come back with
these outcomes. -/
structure Arrival where
  events : List DriverEvent
  outcomes : RequestOutcomes

/-- The driver, and what precedes each of the requests that come. -/
structure Traffic where
  driver : Driver
  coming : ℕ → Arrival

namespace Traffic

/-- The control device is open to the client, so nobody else sends requests. -/
def Quiet (t : Traffic) : Prop :=
  ∀ i, ∀ e ∈ (t.coming i).events, e.IsNotification ∧ e.Regular

/-- The driver as the next request finds it. -/
def found (upcase : WChar → WChar) (t : Traffic) : Driver :=
  (t.coming 0).events.foldl (Driver.handle upcase) t.driver

/-- The next request is answered. -/
def answer {α : Type*} (upcase : WChar → WChar) (request : RequestOutcomes → Driver → α × Driver)
    (t : Traffic) : α × Traffic :=
  let r := request (t.coming 0).outcomes (t.found upcase)
  (r.1, ⟨r.2, fun i => t.coming (i + 1)⟩)

end Traffic

/-- The first request for a list: it asks for the size. -/
def askSize (kind : ListKind) (o : RequestOutcomes) (d : Driver) : (NTStatus × ℕ) × Driver :=
  let r := onControlDeviceIoGetList kind (o.query kind) 0 [] d
  ((r.1, r.2.1), r.2.2.2)

/-- The second one: it fills a buffer of that size. -/
def fillBuffer (kind : ListKind) (needed : ℕ) (o : RequestOutcomes) (d : Driver) :
    (NTStatus × List WChar) × Driver :=
  let buffer := List.replicate (dword needed / 2) nul
  let r := onControlDeviceIoGetList kind (o.fill kind) 0 (bytes buffer) d
  ((r.1, r.2.2.1), r.2.2.2)

/-- `DeviceIoControl` on the driver amid its traffic. -/
def trafficRequests (upcase : WChar → WChar) : DeviceRequests Traffic where
  getList kind t :=
    let ((ntstatus, needed), t) := t.answer upcase (askSize kind)
    if ¬NTSuccess ntstatus then (.error ntstatus, t)
    else
      let ((ntstatus, buffer), t) := t.answer upcase (fillBuffer kind needed)
      if ¬NTSuccess ntstatus then (.error ntstatus, t) else (.ok buffer, t)
  setList kind buffer := Traffic.answer upcase fun o => (driverRequests o).setList kind buffer
  getSwitch kind := Traffic.answer upcase fun o => (driverRequests o).getSwitch kind
  setSwitch kind value := Traffic.answer upcase fun o => (driverRequests o).setSwitch kind value

variable {upcase : WChar → WChar} {s : ConfigurationStore} {d : Driver} {t : Traffic}

/-- Only requests are setters. -/
theorem DriverEvent.IsNotification.setsNothing {e : DriverEvent} (h : e.IsNotification) :
    ∀ operation ∈ e.operation, operation.SetsNothing := by
  cases e with
  | ioControl => exact h.elim
  | processChange processId create =>
    cases create with
    | false =>
      rintro _ ⟨⟩
      trivial
    | true => exact fun _ hop => absurd hop (Option.not_mem_none _)
  | _ =>
    rintro _ ⟨⟩
    trivial

/-- The store stands for a driver that persists its settings. -/
structure Keeps (upcase : WChar → WChar) (s : ConfigurationStore) (d : Driver) : Prop
    extends Stands upcase s d where
  stored : d.reference.Stored d.framework.registry

namespace Keeps

/-- The settings and the registry are as they were. -/
theorem congr (h : Keeps upcase s d) {d' : Driver} (hsound : d'.Sound upcase)
    (hlist : d'.reference.list = d.reference.list)
    (hswitch : d'.reference.switch = d.reference.switch)
    (hregistry : d'.framework.registry = d.framework.registry) : Keeps upcase s d' where
  list := hlist.trans h.list
  switch := hswitch.trans h.switch
  persisted := by
    rw [hregistry]
    exact h.persisted
  sound := hsound
  sized := by
    rw [Framework.Sized, hregistry]
    exact h.sized
  stored := by
    rw [hregistry]
    exact h.stored.congr hlist hswitch

/-- A notification is nothing to the store. -/
theorem handle (h : Keeps upcase s d) {e : DriverEvent} (hnotification : e.IsNotification)
    (he : e.Regular) : Keeps upcase s (d.handle upcase e) := by
  have hperformed := performed_handle h.sound he
  have hsets := hnotification.setsNothing
  rcases hop : e.operation with _ | operation
  · rw [hop] at hperformed
    obtain ⟨hsound, hreference, hregistry⟩ := hperformed
    exact h.congr hsound (by rw [hreference]) (by rw [hreference]) hregistry
  · rw [hop] at hperformed hsets
    obtain ⟨hlist, hswitch⟩ := (hsets operation rfl).next d.reference
    obtain ⟨hsound, hreference⟩ := h.sound.perform hperformed
    exact h.congr hsound (by rw [hreference, hlist]) (by rw [hreference, hswitch])
      ((hsets operation rfl).registry hperformed)

/-- Nor are several of them. -/
theorem handle_all (h : Keeps upcase s d) {events : List DriverEvent}
    (hevents : ∀ e ∈ events, e.IsNotification ∧ e.Regular) :
    Keeps upcase s (events.foldl (Driver.handle upcase) d) := by
  induction events generalizing d with
  | nil => exact h
  | cons e events ih =>
    obtain ⟨⟨hnotification, he⟩, hevents⟩ := List.forall_mem_cons.mp hevents
    exact ih (h.handle hnotification he) hevents

/-- A request for a list leaves the driver with the list. -/
theorem getListRequest (h : Keeps upcase s d) (kind : ListKind) (o : GetListOutcome)
    (output : List UInt8) :
    Keeps upcase s (onControlDeviceIoGetList kind o 0 output d).2.2.2 := by
  obtain ⟨hsound, hreference, hregistry⟩ := h.sound.getListRequest kind o output
  exact h.congr hsound (by rw [hreference]) (by rw [hreference]) hregistry

/-- A list that is set. -/
theorem setList (h : Keeps upcase s d) {o : RequestOutcomes} {lt : WString → WString → Prop}
    {kind : ListKind} {S : OrderedSet lt} (hfits : 2 * (Proxy.writeSet S).length < 2 ^ 32)
    (hok : NTSuccess ((driverRequests o).setList kind (Proxy.writeSet S) d).1) :
    Keeps upcase (s.setList kind (Proxy.writeSet S))
      ((driverRequests o).setList kind (Proxy.writeSet S) d).2 := by
  refine ⟨h.toStands.setList hfits hok, ?_⟩
  rw [driverRequests_setList] at hok ⊢
  have heq := deviceSetList_of_success hok
  rw [heq] at hok ⊢
  rw [(h.sound.setList kind (o.setList kind).list (sentChars S.toList) hok).2]
  exact h.stored.setList hok

/-- A switch that is set. -/
theorem setSwitch (h : Keeps upcase s d) {o : RequestOutcomes} {kind : SwitchKind} {value : Bool}
    (hok : NTSuccess ((driverRequests o).setSwitch kind value d).1) :
    Keeps upcase (s.setSwitch kind value) ((driverRequests o).setSwitch kind value d).2 := by
  refine ⟨h.toStands.setSwitch hok, ?_⟩
  obtain ⟨ho, heq⟩ := driverRequests_setSwitch o hok
  rw [heq, (h.sound.setSwitch kind (o.setSwitch kind).write value ho).2]
  exact h.stored.setSwitch ho

end Keeps

/-- The store stands for the driver, and nobody else sends requests to it. -/
structure Traffic.StoodFor (upcase : WChar → WChar) (s : ConfigurationStore) (t : Traffic) :
    Prop where
  keeps : Keeps upcase s t.driver
  quiet : t.Quiet

namespace Traffic.StoodFor

/-- What precedes the next request is nothing to the store. -/
theorem found (h : t.StoodFor upcase s) : Keeps upcase s (t.found upcase) :=
  h.keeps.handle_all (h.quiet 0)

/-- After the next request. -/
theorem answer (h : t.StoodFor upcase s) {s' : ConfigurationStore} {α : Type*}
    {request : RequestOutcomes → Driver → α × Driver}
    (hkeeps : Keeps upcase s' (request (t.coming 0).outcomes (t.found upcase)).2) :
    (t.answer upcase request).2.StoodFor upcase s' :=
  ⟨hkeeps, fun i => h.quiet (i + 1)⟩

end Traffic.StoodFor

section GetList

variable {kind : ListKind} {o : GetListOutcome} {strings : List UnicodeString}
  (hv : decodedValue (d.framework.registry kind.property) = some strings)
include hv

/-- A request for the size that is granted reports it. -/
theorem getList_size_of_success (hok : NTSuccess (onControlDeviceIoGetList kind o 0 [] d).1) :
    (onControlDeviceIoGetList kind o 0 [] d).2.1 = 2 * (MultiString.encode nul strings).length := by
  obtain ⟨-, hread, -⟩ := getListRequest_of_success kind hok
  -- there is no buffer to retrieve
  have hsame : onControlDeviceIoGetList kind o 0 [] d =
      onControlDeviceIoGetList kind { o with retrieve := statusSuccess } 0 [] d := by
    simp only [onControlDeviceIoGetList, List.length_nil, if_true]
  rw [hsame]
  exact (@getList_size kind { o with retrieve := statusSuccess } d strings
    ⟨ntSuccess_statusSuccess, hread⟩ hv).2.1

/-- A request with a buffer of that size that is granted fills it. -/
theorem getList_fill_of_success (hsized : d.framework.Sized)
    (hok : NTSuccess (onControlDeviceIoGetList kind o 0
      (bytes (List.replicate (MultiString.encode nul strings).length nul)) d).1) :
    (onControlDeviceIoGetList kind o 0
      (bytes (List.replicate (MultiString.encode nul strings).length nul)) d).2.2.1 =
        MultiString.encode nul strings := by
  have hsize := length_encode_lt hsized hv
  have hpos : 0 < (MultiString.encode nul strings).length := by
    rw [MultiString.length_encode]
    exact Nat.succ_pos _
  have houtput : bytes (List.replicate (MultiString.encode nul strings).length nul) ≠ [] := by
    rw [← List.length_pos_iff, length_bytes, List.length_replicate]
    omega
  obtain ⟨hretrieve, hread, -⟩ := getListRequest_of_success kind hok
  refine (getList_fill ⟨hretrieve houtput, hread⟩ hv houtput ?_ ?_).2
  · rw [wideChars_bytes, List.length_replicate]
  · rw [ntstrsafeMaxCch]
    omega

end GetList

/-- A list that is got amid the traffic is the one of the store. -/
theorem Traffic.StoodFor.getList (h : t.StoodFor upcase s) {kind : ListKind} {buffer : List WChar}
    {t' : Traffic} (hget : (trafficRequests upcase).getList kind t = (.ok buffer, t')) :
    buffer = MultiString.encode nul (s.list kind) ∧ t'.StoodFor upcase s := by
  have hasked : (t.answer upcase (askSize kind)).2.StoodFor upcase s :=
    h.answer (h.found.getListRequest kind _ _)
  have hvalue : (t.answer upcase (askSize kind)).1 =
      (askSize kind (t.coming 0).outcomes (t.found upcase)).1 := rfl
  rcases hask : t.answer upcase (askSize kind) with ⟨⟨ntstatus, needed⟩, t₁⟩
  rw [hask] at hasked hvalue
  have hfilled : (t₁.answer upcase (fillBuffer kind needed)).2.StoodFor upcase s :=
    hasked.answer (hasked.found.getListRequest kind _ _)
  have hvalue₁ : (t₁.answer upcase (fillBuffer kind needed)).1 =
      (fillBuffer kind needed (t₁.coming 0).outcomes (t₁.found upcase)).1 := rfl
  rcases hfill : t₁.answer upcase (fillBuffer kind needed) with ⟨⟨ntstatus₁, buffer₁⟩, t₂⟩
  rw [hfill] at hfilled hvalue₁
  simp only [trafficRequests, hask, hfill] at hget
  split_ifs at hget with hquery hfilling
  · obtain ⟨hbuffer, rfl⟩ := Prod.mk.inj hget
    obtain rfl := Except.ok.inj hbuffer
    obtain ⟨rfl, rfl⟩ := Prod.mk.inj hvalue
    obtain ⟨rfl, rfl⟩ := Prod.mk.inj hvalue₁
    refine ⟨?_, hfilled⟩
    have hneeded := getList_size_of_success (h.found.persisted kind) hquery
    have hsize := length_encode_lt h.found.sized (h.found.persisted kind)
    have hcount : dword (onControlDeviceIoGetList kind ((t.coming 0).outcomes.query kind) 0 []
        (t.found upcase)).2.1 / 2 = (MultiString.encode nul (s.list kind)).length := by
      rw [hneeded, dword, Nat.mod_eq_of_lt hsize, Nat.mul_div_cancel_left _ (by decide)]
    change NTSuccess (onControlDeviceIoGetList kind _ 0 (bytes (List.replicate (dword
      (onControlDeviceIoGetList kind _ 0 [] (t.found upcase)).2.1 / 2) nul)) _).1 at hfilling
    change (onControlDeviceIoGetList kind _ 0 (bytes (List.replicate (dword
      (onControlDeviceIoGetList kind _ 0 [] (t.found upcase)).2.1 / 2) nul)) _).2.2.1 = _
    rw [hcount] at hfilling ⊢
    exact getList_fill_of_success (hasked.found.persisted kind) hasked.found.sized hfilling
  · exact absurd (congrArg Prod.fst hget) (by simp)
  · exact absurd (congrArg Prod.fst hget) (by simp)

/-- Getting a list fails only with an error. -/
theorem trafficRequests_getList_error {kind : ListKind} {ntstatus : NTStatus}
    (h : ((trafficRequests upcase).getList kind t).1 = .error ntstatus) : ¬NTSuccess ntstatus := by
  simp only [trafficRequests] at h
  split_ifs at h with hquery hfill
  · obtain rfl := Except.error.inj h
    assumption
  · obtain rfl := Except.error.inj h
    assumption

/-- **The driver amid its traffic** answers as a store. -/
theorem trafficRequests_answersAs (upcase : WChar → WChar) :
    (trafficRequests upcase).AnswersAs (Traffic.StoodFor upcase) where
  getStrings {lt _ _ kind s t t' S} h hget := by
    rcases hlist : (trafficRequests upcase).getList kind t with ⟨ntstatus | buffer, t₁⟩
    · simp [DeviceRequests.getStrings, hlist, Except.map] at hget
    · obtain ⟨rfl, h'⟩ := h.getList hlist
      simp only [DeviceRequests.getStrings, hlist] at hget
      obtain ⟨hS, rfl⟩ := Prod.mk.inj hget
      obtain rfl := Except.ok.inj hS
      have hread : multiStringToStringList (MultiString.encode nul (s.list kind)) = s.list kind :=
        multiStringToStringList_encode_plain fun string hstring => MultiString.mem_decode hstring
      dsimp only
      rw [hread]
      exact ⟨rfl, h'⟩
  getStrings_error {lt _ _ kind t ntstatus} h := by
    rcases hlist : (trafficRequests upcase).getList kind t with ⟨error | buffer, t₁⟩
    · simp only [DeviceRequests.getStrings, hlist, Except.map] at h
      obtain rfl := Except.error.inj h
      exact trafficRequests_getList_error (congrArg Prod.fst hlist)
    · simp [DeviceRequests.getStrings, hlist, Except.map] at h
  getSwitch {kind s t t' value} h hget := by
    obtain ⟨hvalue, rfl⟩ := Prod.mk.inj hget
    obtain ⟨hswitch, -⟩ := h.found.getSwitch (Prod.ext hvalue rfl)
    have hsame : ((driverRequests (t.coming 0).outcomes).getSwitch kind (t.found upcase)).2 =
        t.found upcase := by rw [driverRequests_getSwitch]
    refine ⟨hswitch, ?_, fun i => h.quiet (i + 1)⟩
    change Keeps upcase s ((driverRequests (t.coming 0).outcomes).getSwitch kind _).2
    rw [hsame]
    exact h.found
  getSwitch_error h := getSwitch_error _ h
  setList h hfits hok := h.answer (h.found.setList hfits hok)
  setSwitch h hok := h.answer (h.found.setSwitch hok)

/-! ### The program -/

/-- What `MainApplication` tries, with the full image name of the module. The interpreter makes a
proxy that defers its changes. It is interactive without a redirected standard input and without
arguments. -/
def mainApplicationBody {δ : Type*} (env : Environment) (io : DeviceRequests δ) (own : WString)
    (scriptMode : Bool) (commandLine : WString) (input : List WString) (d : δ) : Option Unit × δ :=
  match Proxy.create io own false d with
  | (.error _, d) => (none, d)
  | (.ok filterDriverProxy, device) =>
      let interactiveMode := !scriptMode && commandLine = []
      let r := CommandInterpreter.start env io commandLine input
        { scriptMode, interactiveMode, filterDriverProxy, cancelled := false, device }
      (r.1, r.2.device)

/-- The settings that a client reads of the store. -/
def ConfigurationStore.configuration (s : ConfigurationStore) : Configuration where
  active := s.active
  inverse := s.inverse
  blacklist := s.blacklist
  whitelist := s.whitelist

/-- The settings with the client itself on the whitelist, or off it when the whitelist is
inverse. -/
def Configuration.enroll (own : WString) (c : Configuration) : Configuration :=
  { c with whitelist := Proxy.enrolled own c.inverse c.whitelist }

/-- The lists fit into a request, and their strings are neither empty nor terminated. -/
structure Configuration.Sendable (c : Configuration) : Prop where
  fits : c.deferred.Fits
  blacklist : ∀ deviceInstancePath ∈ c.blacklist, Plain deviceInstancePath
  whitelist : ∀ fullImageName ∈ c.whitelist, Plain fullImageName

/-- A client reads these settings, up to the spelling of paths. -/
structure ConfigurationStore.Has (s : ConfigurationStore) (c : Configuration) : Prop where
  active : s.active = c.active
  inverse : s.inverse = c.inverse
  blacklist : s.blacklist = c.blacklist
  whitelist : s.whitelist.Equiv c.whitelist

namespace ConfigurationStore.Has

/-- A list that has been sent is read back. -/
theorem ofList_list_setList {lt : WString → WString → Prop} [DecidableRel lt]
    [IsStrictOrder WString lt] (s : ConfigurationStore) (kind : ListKind) {S : OrderedSet lt}
    (hS : ∀ string ∈ S, Plain string) :
    OrderedSet.ofList lt ((s.setList kind (Proxy.writeSet S)).list kind) = S := by
  rw [ConfigurationStore.list_setList, Function.update_self]
  exact Proxy.readSet_writeSet hS

/-- The constructor of a proxy leaves the store with the client enrolled. -/
theorem create {own : WString} (hown : nul ∉ own) (s : ConfigurationStore) :
    (if Proxy.Enrolls own s.inverse s.whitelist then
      s.setList .whitelist (Proxy.writeSet (Proxy.enrolled own s.inverse s.whitelist))
    else s).Has (s.configuration.enroll own) := by
  split_ifs with henrolls
  · have hplain : ∀ name ∈ Proxy.enrolled own s.inverse s.whitelist, Plain name := by
      intro name hname
      rcases Proxy.mem_of_mem_enrolled hname with rfl | hname
      · exact ⟨henrolls.1, hown⟩
      · exact MultiString.mem_decode (OrderedSet.mem_of_mem_ofList hname)
    refine ⟨rfl, rfl, ?_, ?_⟩
    · rw [ConfigurationStore.blacklist, ConfigurationStore.list_setList,
        Function.update_of_ne (by decide)]
      rfl
    · rw [ConfigurationStore.whitelist, ofList_list_setList s .whitelist hplain]
      exact .refl _
  · refine ⟨rfl, rfl, rfl, ?_⟩
    rw [Configuration.enroll]
    dsimp only
    rw [show Proxy.enrolled own s.configuration.inverse s.configuration.whitelist = s.whitelist from
      Proxy.enrolled_of_not_enrolls henrolls]
    exact .refl _

/-- `ApplyConfigurationChanges` leaves the store with the settings of the proxy. -/
theorem applied {c : Configuration} (hc : c.Sendable) (s : ConfigurationStore) :
    (c.deferred.applyConfigurationChanges storeRequests s).2.Has c := by
  obtain ⟨s', hs'⟩ : ∃ s', s' = (c.deferred.applyConfigurationChanges storeRequests s).2 :=
    ⟨_, rfl⟩
  have hcells := Proxy.cells_apply c.deferred s rfl
  rw [← hs'] at hcells ⊢
  refine ⟨?_, ?_, ?_, ?_⟩
  · have hflush := @CachedCell.read_stored_flush _ _ id id Eq _
      (Proxy.cells (c.deferred, s)).active rfl
    exact (congrArg (fun cells => cells.active.stored) hcells).trans hflush
  · have hflush := @CachedCell.read_stored_flush _ _ id id Eq _
      (Proxy.cells (c.deferred, s)).inverse rfl
    exact (congrArg (fun cells => cells.inverse.stored) hcells).trans hflush
  · have hflush := @CachedCell.read_stored_flush _ _ (Proxy.readSet wstringLt) Proxy.writeSet Eq _
      (Proxy.cells (c.deferred, s)).blacklist (Proxy.readSet_writeSet hc.blacklist)
    exact (congrArg (fun cells => Proxy.readSet wstringLt cells.blacklist.stored) hcells).trans
      hflush
  · have hwritten : (Proxy.readSet pathLt (Proxy.writeSet c.whitelist)).Equiv c.whitelist := by
      rw [Proxy.readSet_writeSet hc.whitelist]
      exact .refl _
    have hflush := @CachedCell.read_stored_flush _ _ (Proxy.readSet pathLt) Proxy.writeSet
      OrderedSet.Equiv _ (Proxy.cells (c.deferred, s)).whitelist hwritten
    have hread := congrArg (fun cells => Proxy.readSet pathLt cells.whitelist.stored) hcells
    exact (show s'.whitelist = _ from hread) ▸ hflush

end ConfigurationStore.Has

/-! ### What the program comes to -/

section Program

open CommandInterpreter

variable {δ : Type*} {io : DeviceRequests δ} {stands : ConfigurationStore → δ → Prop} {d : δ}

/-- What the constructor of the proxy comes to, if it throws nothing. -/
theorem create_settings (hio : io.AnswersAs stands) (h : stands s d) {own : WString}
    (hown : nul ∉ own) (hfits : (s.configuration.enroll own).deferred.Fits) {proxy : Proxy}
    {d' : δ} (hcreate : Proxy.create io own false d = (.ok proxy, d')) :
    proxy = (s.configuration.enroll own).deferred ∧
      ∃ s', stands s' d' ∧ s'.Has (s.configuration.enroll own) := by
  obtain ⟨s', hstore, hstands⟩ := hio.create h hcreate hfits.whitelist
  rw [Proxy.create_store] at hstore
  obtain ⟨hproxy, rfl⟩ := Prod.mk.inj hstore
  exact ⟨(Except.ok.inj hproxy).symm, _, hstands, .create hown s⟩

/-- **A program that comes to its end** leaves the device with what its lines make of the settings,
or with those that it has read if a line ends it. -/
theorem mainApplicationBody_settings (hio : io.AnswersAs stands) (h : stands s d)
    {env : Environment}
    (htexts : ∀ id, env.stringTable id ≠ []) {own : WString} (hown : nul ∉ own)
    (hfits : (s.configuration.enroll own).deferred.Fits) {scriptMode : Bool}
    {commandLine : WString} (hmode : scriptMode = true ∨ commandLine ≠ []) {input : List WString}
    (hok : (mainApplicationBody env io own scriptMode commandLine input d).1 = some ()) :
    let lines := commandLine :: if scriptMode then input else []
    let c := s.configuration.enroll own
    let d' := (mainApplicationBody env io own scriptMode commandLine input d).2
    (Aborts env c lines → ∃ s', stands s' d' ∧ s'.Has c) ∧
      ∀ c', Processes env c lines c' → c'.Sendable → ∃ s', stands s' d' ∧ s'.Has c' := by
  intro lines c d'
  have hd' : d' = (mainApplicationBody env io own scriptMode commandLine input d).2 := rfl
  rw [mainApplicationBody] at hok hd'
  rcases hcreate : Proxy.create io own false d with ⟨ntstatus | proxy, d₁⟩
  · rw [hcreate] at hok
    exact absurd hok (by simp)
  obtain ⟨rfl, s₁, h₁, hhas⟩ := create_settings hio h hown hfits hcreate
  obtain ⟨interpreter, hinterpreter⟩ : ∃ interpreter : CommandInterpreter δ,
      interpreter = ⟨scriptMode, !scriptMode && commandLine = [], c.deferred, false, d₁⟩ :=
    ⟨_, rfl⟩
  have hmode' : interpreter.interactiveMode = false := by
    rw [hinterpreter]
    rcases hmode with rfl | hline
    · rfl
    · simp [hline]
  have hconfigured : interpreter = interpreter.configured c false := by
    rw [hinterpreter]
    rfl
  have hrun : start env io commandLine input interpreter =
      processLines env io lines (interpreter.configured c false) := by
    have hlines : lines = commandLine :: if interpreter.scriptMode then input else [] := by
      rw [hinterpreter]
    rw [hlines, ← start_configured io interpreter htexts hmode', ← hconfigured]
  simp only [hcreate] at hok hd'
  rw [← hinterpreter, hrun] at hok hd'
  have hdevice : interpreter.device = d₁ := by rw [hinterpreter]
  constructor
  · rintro ⟨before, line, after, c', hlines, hbefore, hends⟩
    obtain ⟨c'', cancelled', hend⟩ := processLines_ends io interpreter htexts hends after
    rw [hlines, processLines_append io interpreter hbefore, hend] at hd'
    refine ⟨s₁, ?_, hhas⟩
    rw [hd']
    exact hdevice ▸ h₁
  · intro c' hprocesses hc'
    have hall := processLines_append io interpreter hprocesses []
    rw [List.append_nil] at hall
    rw [hall, processLines] at hok hd'
    obtain ⟨happlied, happly⟩ := applyConfigurationChanges_of_some hok
    rw [happly] at hd'
    change NTSuccess (c'.deferred.applyConfigurationChanges io interpreter.device).1 at happlied
    change d' = (c'.deferred.applyConfigurationChanges io interpreter.device).2 at hd'
    rw [hdevice] at happlied hd'
    refine ⟨_, ?_, .applied hc' s₁⟩
    rw [hd']
    exact hio.applyConfigurationChanges h₁ hc'.fits happlied

end Program

/-! ### The settings of the driver -/

namespace Driver

/-- The settings that a client reads of the driver. -/
def configuration (d : Driver) : Configuration where
  active := d.context.active
  inverse := d.context.whitelistedInverse
  blacklist := OrderedSet.ofList wstringLt (d.list .blacklist)
  whitelist := OrderedSet.ofList pathLt (d.list .whitelist)

/-- The driver has these settings, in memory and in the registry, up to the spelling of paths. -/
structure Has (d : Driver) (c : Configuration) : Prop where
  active : d.context.active = c.active
  inverse : d.context.whitelistedInverse = c.inverse
  blacklist : OrderedSet.ofList wstringLt (d.list .blacklist) = c.blacklist
  whitelist : (OrderedSet.ofList pathLt (d.list .whitelist)).Equiv c.whitelist
  stored : d.reference.Stored d.framework.registry

/-- Through each run of the service that sets nothing, whether or not it is started again, the
driver has these settings whenever it is loaded. -/
def KeepsTo (upcase : WChar → WChar) (d : Driver) (c : Configuration) : Prop :=
  ∀ (events : List ServiceEvent) (s : Service), (∀ e ∈ events, e.Regular ∧ e.SetsNothing) →
    Machine.run (Service.step upcase) ⟨d, true⟩ events = some s → s.loaded → s.driver.Has c

/-- The store that stands for the driver. -/
def store (d : Driver) : ConfigurationStore where
  multiString kind := MultiString.encode nul (d.list kind)
  switch kind := kind.value d.context
  requests := []

/-- It does, if the driver has stored its settings. -/
theorem keeps_store {d : Driver} (hsound : d.Sound upcase) (hsized : d.framework.Sized)
    (hstored : d.reference.Stored d.framework.registry) :
    Keeps upcase d.store d ∧ d.store.configuration = d.configuration := by
  have hlist : d.store.list = d.list := by
    funext kind
    have hplain : ∀ string ∈ d.list kind, Plain string :=
      plain_of_decodedValue (hstored.list kind)
    change MultiString.decode nul (MultiString.encode nul (d.list kind)) = d.list kind
    rw [MultiString.decode_encode fun string hstring => (hplain string hstring).2,
      List.takeWhile_eq_self_iff]
    exact fun string hstring => by simpa using (hplain string hstring).1
  refine ⟨⟨⟨⟨hlist.symm, rfl, fun kind => ?_⟩, hsound, hsized⟩, hstored⟩, ?_⟩
  · rw [hlist]
    exact hstored.list kind
  · rw [ConfigurationStore.configuration, ConfigurationStore.blacklist,
      ConfigurationStore.whitelist, hlist]
    rfl

end Driver

/-- A driver keeps to the settings of the store that stands for it. -/
theorem Keeps.keepsTo {d : Driver} (h : Keeps upcase s d) {c : Configuration} (hc : s.Has c) :
    d.KeepsTo upcase c := by
  intro events service hevents hrun hloaded
  have hfollows : Service.Follows upcase ⟨d, true⟩ d.reference :=
    ⟨h.stored, fun _ => h.sound, fun _ => rfl⟩
  have hlast := hfollows.run (fun e he => (hevents e he).1) hrun
  obtain ⟨hlist, hswitch⟩ := Reference.serve_settings (fun e he => (hevents e he).2) d.reference
  rw [h.list] at hlist
  rw [h.switch] at hswitch
  have hreference := hlast.reference hloaded
  rw [← hreference] at hlist hswitch
  refine ⟨(congrFun hswitch .active).trans hc.active,
    (congrFun hswitch .whitelistedInverse).trans hc.inverse, ?_, ?_, ?_⟩
  · exact (congrArg (OrderedSet.ofList wstringLt) (congrFun hlist .blacklist)).trans hc.blacklist
  · rw [show service.driver.list .whitelist = s.list .whitelist from congrFun hlist .whitelist]
    exact hc.whitelist
  · rw [hreference]
    exact hlast.stored

/-- **Scripts are all or nothing, in force.** The program runs to its end on a sound driver that has
stored its settings, and other notifications reach the driver between its requests. If a line ends
the program, the driver keeps to the settings that the program has found, with the client enrolled;
otherwise it keeps to what the lines make of these. It keeps to them when it is started again, until
they are set to others. -/
theorem program_allOrNothing (hsound : t.driver.Sound upcase) (hsized : t.driver.framework.Sized)
    (hstored : t.driver.reference.Stored t.driver.framework.registry) (hquiet : t.Quiet)
    {env : Environment} (htexts : ∀ id, env.stringTable id ≠ []) {own : WString} (hown : nul ∉ own)
    (hfits : (t.driver.configuration.enroll own).deferred.Fits) {scriptMode : Bool}
    {commandLine : WString} (hmode : scriptMode = true ∨ commandLine ≠ []) {input : List WString}
    (hok : (mainApplicationBody env (trafficRequests upcase) own scriptMode commandLine input t).1 =
      some ()) :
    let lines := commandLine :: if scriptMode then input else []
    let c := t.driver.configuration.enroll own
    let t' :=
      (mainApplicationBody env (trafficRequests upcase) own scriptMode commandLine input t).2
    (Aborts env c lines → t'.driver.KeepsTo upcase c) ∧
      ∀ c', Processes env c lines c' → c'.Sendable → t'.driver.KeepsTo upcase c' := by
  obtain ⟨hkeeps, hconfiguration⟩ := Driver.keeps_store hsound hsized hstored
  rw [← hconfiguration] at hfits ⊢
  obtain ⟨haborts, hprocesses⟩ := mainApplicationBody_settings (trafficRequests_answersAs upcase)
    (⟨hkeeps, hquiet⟩ : t.StoodFor upcase t.driver.store) htexts hown hfits hmode hok
  refine ⟨fun h => ?_, fun c' h hc' => ?_⟩
  · obtain ⟨s', hs', hhas⟩ := haborts h
    exact hs'.keeps.keepsTo hhas
  · obtain ⟨s', hs', hhas⟩ := hprocesses c' h hc'
    exact hs'.keeps.keepsTo hhas

/-- A driver of a first start, to which a process is announced before each request. -/
def busyTraffic : Traffic where
  driver := firstDriver
  coming _ := ⟨[.loadImage ⟨true, statusSuccess, statusSuccess⟩ (some (.letter 0)) 8],
    grantedRequests⟩

/-- The settings in which the one device `A` is hidden. -/
def hidesOne : Configuration := ⟨false, false, (∅ : DeviceInstancePaths).emplace [0x41], ∅⟩

/-- The line `--dev-hide "A"` hides it. -/
theorem processes_hidesOne :
    Processes bareEnvironment (Configuration.mk false false ∅ ∅) [devListLine [0x41]]
      hidesOne := by
  have hline : extractCommands bareEnvironment.iswspace (devListLine [0x41]) =
      ([[devHideKeyword, [0x41]]], []) := by
    refine (devListLine_accepted (by decide) (fun c hlow _ => ?_) (by decide) (by decide)).1
    rintro hspace
    obtain rfl : c = space := by simpa [bareEnvironment] using hspace
    exact absurd hlow (by decide)
  refine processes_cons.mpr ⟨by rw [hline], ?_, _, ?_, processes_nil.mpr rfl⟩
  · rw [hline]
    decide
  · rw [hline]
    exact performs_cons.mpr ⟨⟨.devHide, rfl, rfl⟩, _, rfl, performs_nil.mpr rfl⟩

/-- The device is hidden whatever the driver goes through after that. -/
theorem program_allOrNothing_hidesOne :
    (mainApplicationBody bareEnvironment (trafficRequests id) [] false (devListLine [0x41]) []
      busyTraffic).2.driver.KeepsTo id hidesOne := by
  have htext : wide "error" ≠ [] := by decide
  obtain ⟨t, ht⟩ : ∃ t, Proxy.create (trafficRequests id) [] false busyTraffic =
      (.ok (Configuration.mk false false ∅ ∅).deferred, t) := ⟨_, rfl⟩
  have happly : NTSuccess (hidesOne.deferred.applyConfigurationChanges (trafficRequests id)
      (Proxy.create (trafficRequests id) [] false busyTraffic).2).1 := by decide
  rw [ht] at happly
  have hok : (mainApplicationBody bareEnvironment (trafficRequests id) [] false
      (devListLine [0x41]) []
      busyTraffic).1 = some () := by
    obtain ⟨interpreter, hinterpreter⟩ : ∃ interpreter : CommandInterpreter Traffic, interpreter =
        ⟨false, false, (Configuration.mk false false ∅ ∅).deferred, false, t⟩ := ⟨_, rfl⟩
    have hmode : interpreter.interactiveMode = false := by rw [hinterpreter]
    have happlied : NTSuccess ((interpreter.configured hidesOne
        false).filterDriverProxy.applyConfigurationChanges (trafficRequests id)
          (interpreter.configured hidesOne false).device).1 := by
      rw [hinterpreter]
      exact happly
    have hstart := @CommandInterpreter.start_configured _ bareEnvironment (trafficRequests id)
      interpreter (fun _ => htext) hmode (devListLine [0x41]) [] ⟨false, false, ∅, ∅⟩
    have hlines := CommandInterpreter.processLines_append (trafficRequests id) interpreter
      processes_hidesOne []
    rw [ite_self, ← List.append_nil [devListLine [0x41]], hlines] at hstart
    simp only [CommandInterpreter.processLines, CommandInterpreter.applyConfigurationChanges,
      happlied, if_true] at hstart
    rw [hinterpreter] at hstart
    simp only [mainApplicationBody, ht]
    exact congrArg Prod.fst hstart
  have hstart : NTSuccess (onDriverCreate .success .empty).1 := by decide
  refine (program_allOrNothing (onDriverCreate_sound id hstart) sized_firstDriver ?_ ?_
    (fun _ => htext) (by decide) ?_ (.inr (by decide)) hok).2 hidesOne processes_hidesOne ?_
  · exact ⟨fun kind => by cases kind <;> rfl, fun kind => by cases kind <;> trivial,
      fun kind => by cases kind <;> rfl⟩
  · exact fun i e he => by
      obtain rfl := List.mem_singleton.mp he
      exact ⟨trivial, by decide, by decide⟩
  · exact ⟨by decide, by decide⟩
  · exact ⟨⟨by decide, by decide⟩, by decide, by decide⟩

end HidHide
