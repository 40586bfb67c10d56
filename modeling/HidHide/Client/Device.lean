import HidHide.Client.FilterDriverProxy
import HidHide.Client.Path
import HidHide.Driver.ControlDevice
import HidHide.Driver.Operations

/-!
# The device as the client sees it

What `FilterDriverProxy` asks of the control device are eight requests: to get and to set each list
and each switch. `DeviceRequests` are functions that answer them on a device with states `δ`. There
are two such devices: the driver itself (`driverRequests`), and a store that keeps the last value
set and logs what it is asked to set (`storeRequests`).

`Represents` relates the two. A request that the driver grants does to it what it does to the store
(`Represents.setList`, `Represents.setSwitch`), and what is read of the store is read of the driver
(`Represents.getStrings`, `Represents.getSwitch`), as long as the lists take less than `2 ^ 32`
bytes.
-/

namespace HidHide

/-- The requests to the control device. A list is exchanged as a multi-string. -/
structure DeviceRequests (δ : Type*) where
  getList : ListKind → δ → Except NTStatus (List WChar) × δ
  setList : ListKind → List WChar → δ → NTStatus × δ
  getSwitch : SwitchKind → δ → Except NTStatus Bool × δ
  setSwitch : SwitchKind → Bool → δ → NTStatus × δ

namespace DeviceRequests

variable {δ : Type*} (io : DeviceRequests δ)

/-- The functions that get a list, for the order of its entries. -/
def getStrings (lt : WString → WString → Prop) [DecidableRel lt] [IsTrans WString lt]
    (kind : ListKind) (s : δ) : Except NTStatus (OrderedSet lt) × δ :=
  let (buffer, s) := io.getList kind s
  (buffer.map fun buffer => OrderedSet.ofList lt (multiStringToStringList buffer), s)

/-- `GetBlacklist`. -/
def getBlacklist : δ → Except NTStatus DeviceInstancePaths × δ := io.getStrings wstringLt .blacklist

/-- `GetWhitelist`. -/
def getWhitelist : δ → Except NTStatus (OrderedSet pathLt) × δ := io.getStrings pathLt .whitelist

/-- `SetBlacklist`. -/
def setBlacklist (deviceInstancePaths : DeviceInstancePaths) (s : δ) : NTStatus × δ :=
  io.setList .blacklist (stringListToMultiString deviceInstancePaths.toList) s

/-- `SetWhitelist`. -/
def setWhitelist (fullImageNames : OrderedSet pathLt) (s : δ) : NTStatus × δ :=
  io.setList .whitelist (stringListToMultiString fullImageNames.toList) s

/-- `GetActive`. -/
def getActive : δ → Except NTStatus Bool × δ := io.getSwitch .active

/-- `SetActive`. -/
def setActive : Bool → δ → NTStatus × δ := io.setSwitch .active

/-- `GetInverse`. -/
def getInverse : δ → Except NTStatus Bool × δ := io.getSwitch .whitelistedInverse

/-- `SetInverse`. -/
def setInverse : Bool → δ → NTStatus × δ := io.setSwitch .whitelistedInverse

end DeviceRequests

/-! ### The driver -/

/-- What the calls of the requests come back with. The first request for a list asks for its size,
the second one fills the buffer. -/
structure RequestOutcomes where
  query : ListKind → GetListOutcome
  fill : ListKind → GetListOutcome
  setList : ListKind → SetListOutcome
  getSwitch : SwitchKind → IoOutcome
  setSwitch : SwitchKind → IoOutcome

/-- The calls of the requests all succeed. -/
def grantedRequests : RequestOutcomes where
  query _ := ⟨statusSuccess, .success⟩
  fill _ := ⟨statusSuccess, .success⟩
  setList _ := ⟨statusSuccess, .success, .success⟩
  getSwitch _ :=
    ⟨statusSuccess, .success, ⟨statusSuccess, statusSuccess⟩, fun _ => ⟨true, statusSuccess⟩⟩
  setSwitch _ :=
    ⟨statusSuccess, .success, ⟨statusSuccess, statusSuccess⟩, fun _ => ⟨true, statusSuccess⟩⟩

/-- `DeviceIoControl` on the driver. The number of bytes returned is that of the completion. -/
def driverRequests (o : RequestOutcomes) : DeviceRequests Driver where
  getList kind := deviceGetMultiString kind (o.query kind) (o.fill kind)
  setList kind := deviceSetMultiString kind (o.setList kind)
  getSwitch kind d :=
    let (ntstatus, r, d) :=
      (WdfRequest.arrived [] [0]).onControlDeviceIoGetSwitch (o.getSwitch kind) d kind
    if ¬NTSuccess ntstatus then (.error ntstatus, d)
    else if r.completions.getLast?.map Completion.information ≠ some 1 then
      (.error statusInvalidParameter, d)
    else (.ok (0 ≠ r.output.headD 0), d)
  setSwitch kind value d :=
    let (ntstatus, _, _, d) := (WdfRequest.arrived [if value then 1 else 0]
      []).onControlDeviceIoSetSwitch (o.setSwitch kind) d kind
    (ntstatus, d)

section Driver

variable (o : RequestOutcomes) (kind : ListKind)

/-- The functions that set a list are `deviceSetList`. -/
theorem driverRequests_setList {lt : WString → WString → Prop} (S : OrderedSet lt) (d : Driver) :
    (driverRequests o).setList kind (stringListToMultiString S.toList) d =
      deviceSetList kind (o.setList kind) S d := rfl

/-- The functions that get a list are `deviceGetList`. -/
theorem driverRequests_getStrings (lt : WString → WString → Prop) [DecidableRel lt]
    [IsTrans WString lt] (d : Driver) :
    (driverRequests o).getStrings lt kind d =
      deviceGetList kind (o.query kind) (o.fill kind) d := rfl

/-- A switch is got without a change, as it is if the request is granted. -/
theorem driverRequests_getSwitch (kind : SwitchKind) (d : Driver) :
    (driverRequests o).getSwitch kind d =
      (if NTSuccess (o.getSwitch kind).retrieve then .ok (kind.value d.context)
        else .error (o.getSwitch kind).retrieve, d) := by
  have hvalid : ¬(0 ≠ (WdfRequest.arrived [] [0]).inputBufferLength ∨
      1 ≠ (WdfRequest.arrived [] [0]).outputBufferLength) := by decide
  by_cases hretrieve : NTSuccess (o.getSwitch kind).retrieve
  · have hget : (WdfRequest.arrived [] [0]).onControlDeviceIoGetSwitch (o.getSwitch kind) d kind =
        (statusSuccess, ⟨[], [if kind.value d.context then 1 else 0], 0, [⟨statusSuccess, 1⟩]⟩,
          d) := by
      rw [WdfRequest.onControlDeviceIoGetSwitch, if_neg hvalid, if_neg (not_not.mpr hretrieve)]
      rfl
    simp only [driverRequests, hget, ntSuccess_statusSuccess, not_true, if_false, if_pos hretrieve,
      List.getLast?_singleton, Option.map_some, ne_eq, List.headD_cons]
    cases kind.value d.context <;> rfl
  · have hget : (WdfRequest.arrived [] [0]).onControlDeviceIoGetSwitch (o.getSwitch kind) d kind =
        ((o.getSwitch kind).retrieve, .arrived [] [0], d) := by
      rw [WdfRequest.onControlDeviceIoGetSwitch, if_neg hvalid, if_pos hretrieve]
    simp only [driverRequests, hget, hretrieve, not_false_eq_true, if_true, if_false]

/-- Getting a switch comes back with an error only for a request that fails. -/
theorem getSwitch_error {kind : SwitchKind} {d : Driver} {ntstatus : NTStatus}
    (h : ((driverRequests o).getSwitch kind d).1 = .error ntstatus) : ¬NTSuccess ntstatus := by
  rw [driverRequests_getSwitch] at h
  split_ifs at h with hretrieve
  obtain rfl := Except.error.inj h
  exact hretrieve

/-- A switch is set, if the request is granted, by the setter of the driver. -/
theorem driverRequests_setSwitch {kind : SwitchKind} {value : Bool} {d : Driver}
    (h : NTSuccess ((driverRequests o).setSwitch kind value d).1) :
    (o.setSwitch kind).write.Ok ∧ ((driverRequests o).setSwitch kind value d).2 =
      (setSwitch kind (o.setSwitch kind).write value d).2.2 := by
  obtain ⟨r, hr⟩ : ∃ r, r = WdfRequest.arrived [if value then 1 else 0] [] := ⟨_, rfl⟩
  have hvalid : ¬(1 ≠ r.inputBufferLength ∨ 0 ≠ r.outputBufferLength) := by
    rw [hr]
    exact not_or.mpr ⟨not_not.mpr rfl, not_not.mpr rfl⟩
  have hvalue : decide (0 ≠ r.input.headD 0) = value := by
    rw [hr]
    cases value <;> rfl
  simp only [driverRequests, ← hr] at h ⊢
  rw [WdfRequest.onControlDeviceIoSetSwitch, if_neg hvalid] at h ⊢
  rw [hvalue] at h ⊢
  by_cases hretrieve : NTSuccess (o.setSwitch kind).retrieve
  · rw [if_neg (not_not.mpr hretrieve)] at h ⊢
    by_cases hset : NTSuccess (setSwitch kind (o.setSwitch kind).write value d).1
    · refine ⟨(setSwitch_success_iff kind _ value d).mp hset, ?_⟩
      dsimp only
      split_ifs
      rfl
    · dsimp only at h
      rw [if_pos hset] at h
      exact absurd h hset
  · rw [if_pos hretrieve] at h
    exact absurd h hretrieve

/-- The size of a registry value is a `ULONG`. -/
def Framework.Sized (fw : Framework) : Prop :=
  ∀ valueName chars, fw.registry valueName = some (.regMultiSz chars) → 2 * chars.length < 2 ^ 32

/-- Nothing is persisted at a first start. -/
theorem sized_firstDriver : firstDriver.framework.Sized := by
  intro valueName chars hchars
  have hnone : firstDriver.framework.registry valueName = none := by cases valueName <;> rfl
  rw [hnone] at hchars
  exact absurd hchars (by simp)

/-- A list takes no more than its registry value. -/
theorem length_encode_lt {fw : Framework} (hsized : fw.Sized) {valueName : DriverProperty}
    {strings : List UnicodeString} (hv : decodedValue (fw.registry valueName) = some strings) :
    2 * (MultiString.encode nul strings).length < 2 ^ 32 := by
  rcases hreg : fw.registry valueName with _ | dword | chars | size
  · rw [hreg] at hv
    obtain rfl : [] = strings := Option.some.inj hv
    decide
  · simp [hreg, decodedValue] at hv
  · have hchars := hsized valueName chars hreg
    rw [hreg, decodedValue] at hv
    split_ifs at hv with hsize hends
    · obtain rfl : [] = strings := Option.some.inj hv
      decide
    · obtain rfl : MultiString.decode nul chars = strings := Option.some.inj hv
      have hlength := MultiString.length_encode_decode_le hends
      omega
  · simp [hreg, decodedValue] at hv

/-- The strings of a list are neither empty nor terminated. -/
theorem plain_of_decodedValue {value : Option RegistryValue} {strings : List UnicodeString}
    (hv : decodedValue value = some strings) : ∀ string ∈ strings, Plain string := by
  rcases value with _ | dword | chars | size
  · obtain rfl : [] = strings := Option.some.inj hv
    simp
  · simp [decodedValue] at hv
  · rw [decodedValue] at hv
    split_ifs at hv
    · obtain rfl : [] = strings := Option.some.inj hv
      simp
    · obtain rfl : MultiString.decode nul chars = strings := Option.some.inj hv
      exact fun string hstring => MultiString.mem_decode hstring
  · simp [decodedValue] at hv

/-- A request for a list that is granted has read it. -/
theorem getListRequest_of_success {o : GetListOutcome} {output : List UInt8} {d : Driver}
    (h : NTSuccess (onControlDeviceIoGetList kind o 0 output d).1) :
    (output ≠ [] → NTSuccess o.retrieve) ∧ o.read.Ok (d.framework.registry kind.property) ∧
      Loadable (d.framework.registry kind.property) := by
  have hread : ∀ buffer, NTSuccess (getList kind o.read buffer d).1 →
      o.read.Ok (d.framework.registry kind.property) ∧
        Loadable (d.framework.registry kind.property) := by
    intro buffer hok
    rw [← createCollection_success_iff]
    by_contra hfail
    simp only [getList, hfail, if_false] at hok
  rw [onControlDeviceIoGetList, if_neg (by simp)] at h
  by_cases hempty : 0 = output.length
  · rw [if_pos hempty] at h
    refine ⟨fun hne => absurd (List.length_eq_zero_iff.mp hempty.symm) hne, hread none ?_⟩
    by_contra hfail
    simp only [hfail, not_false_eq_true, if_true] at h
  · rw [if_neg hempty] at h
    by_cases hretrieve : NTSuccess o.retrieve
    · rw [if_neg (not_not.mpr hretrieve)] at h
      refine ⟨fun _ => hretrieve, hread (some (wideChars output)) ?_⟩
      by_contra hfail
      simp only [hfail, not_false_eq_true, if_true] at h
    · rw [if_pos hretrieve] at h
      exact absurd h hretrieve

/-- A request for a list leaves the driver as it is. -/
theorem Driver.Sound.getListRequest {upcase : WChar → WChar} {d : Driver} (h : d.Sound upcase)
    (o : GetListOutcome) (output : List UInt8) :
    let d' := (onControlDeviceIoGetList kind o 0 output d).2.2.2
    d'.Sound upcase ∧ d'.reference = d.reference ∧
      d'.framework.registry = d.framework.registry := by
  simp only [onControlDeviceIoGetList]
  split_ifs
  · exact ⟨h, rfl, rfl⟩
  · exact h.getList kind o.read none
  · exact h.getList kind o.read none
  · exact h.getList kind o.read _
  · exact h.getList kind o.read _
  · exact ⟨h, rfl, rfl⟩

section GetList

variable {lt : WString → WString → Prop} [DecidableRel lt] [IsTrans WString lt]
  {query fill : GetListOutcome} {d : Driver}

/-- The driver after the requests of a client that gets a list: one request, or two. -/
theorem deviceGetList_driver :
    let r : Except NTStatus (OrderedSet lt) × Driver := deviceGetList kind query fill d
    let d' := (onControlDeviceIoGetList kind query 0 [] d).2.2.2
    r.2 = d' ∨ ∃ output, r.2 = (onControlDeviceIoGetList kind fill 0 output d').2.2.2 := by
  simp only [deviceGetList, deviceGetMultiString]
  obtain ⟨r, hr⟩ : ∃ r, r = onControlDeviceIoGetList kind query 0 [] d := ⟨_, rfl⟩
  rw [← hr]
  obtain ⟨ntstatus, needed, buffer, d'⟩ := r
  dsimp only
  split_ifs
  · exact .inr ⟨_, rfl⟩
  · exact .inr ⟨_, rfl⟩
  · exact .inl rfl

/-- A client that gets a list leaves the driver as it is. -/
theorem Driver.Sound.deviceGetList {upcase : WChar → WChar} (h : d.Sound upcase) :
    let r : Except NTStatus (OrderedSet lt) × Driver := HidHide.deviceGetList kind query fill d
    r.2.Sound upcase ∧ r.2.reference = d.reference ∧
      r.2.framework.registry = d.framework.registry := by
  obtain ⟨hquery, hreference, hregistry⟩ := h.getListRequest kind query []
  intro r
  rcases @deviceGetList_driver kind lt _ _ query fill d with heq | ⟨output, heq⟩
  · rw [heq]
    exact ⟨hquery, hreference, hregistry⟩
  · obtain ⟨hfill, hreference', hregistry'⟩ := hquery.getListRequest kind fill output
    rw [heq]
    exact ⟨hfill, hreference'.trans hreference, hregistry'.trans hregistry⟩

/-- **A client that gets a list** gets the one that is persisted. -/
theorem deviceGetList_eq_ok (hsized : d.framework.Sized) {S : OrderedSet lt}
    (h : (deviceGetList kind query fill d).1 = .ok S) :
    ∃ strings, decodedValue (d.framework.registry kind.property) = some strings ∧
      S = OrderedSet.ofList lt strings := by
  -- the first request has no buffer to retrieve
  obtain ⟨query', hquery', hretrieve⟩ : ∃ query' : GetListOutcome,
      query' = { query with retrieve := statusSuccess } ∧ NTSuccess query'.retrieve :=
    ⟨_, rfl, ntSuccess_statusSuccess⟩
  have hsame : onControlDeviceIoGetList kind query 0 [] d =
      onControlDeviceIoGetList kind query' 0 [] d := by
    rw [hquery']
    simp only [onControlDeviceIoGetList, List.length_nil, if_true]
  have hdevice : (deviceGetList kind query fill d : Except NTStatus (OrderedSet lt) × Driver) =
      deviceGetList kind query' fill d := by
    simp only [deviceGetList, deviceGetMultiString, hsame]
  rw [hdevice] at h
  have hfirst : NTSuccess (onControlDeviceIoGetList kind query' 0 [] d).1 := by
    by_contra hfail
    simp only [deviceGetList, deviceGetMultiString, hfail, not_false_eq_true, if_true,
      Except.map] at h
    exact absurd h (by simp)
  obtain ⟨-, hread, hload⟩ := getListRequest_of_success kind hfirst
  obtain ⟨strings, hv⟩ := Option.isSome_iff_exists.mp hload
  have hsize := length_encode_lt hsized hv
  have hplain := plain_of_decodedValue hv
  have hok : query'.Ok (d.framework.registry kind.property) := ⟨hretrieve, hread⟩
  obtain ⟨-, hneeded, hregistry⟩ := getList_size hok hv
  -- the second request has one
  have hbuffer : bytes (List.replicate (dword (onControlDeviceIoGetList kind query' 0 [] d).2.1 / 2)
      nul) ≠ [] := by
    rw [← List.length_pos_iff, length_bytes, List.length_replicate, hneeded, dword,
      Nat.mod_eq_of_lt hsize, Nat.mul_div_cancel_left _ (by decide), MultiString.length_encode]
    omega
  have hsecond : NTSuccess (onControlDeviceIoGetList kind fill 0 (bytes (List.replicate
      (dword (onControlDeviceIoGetList kind query' 0 [] d).2.1 / 2) nul))
      (onControlDeviceIoGetList kind query' 0 [] d).2.2.2).1 := by
    by_contra hfail
    simp only [deviceGetList, deviceGetMultiString, hfirst, hfail, not_true, not_false_eq_true,
      if_true, if_false, Except.map] at h
    exact absurd h (by simp)
  obtain ⟨hretrieve', hread', -⟩ := getListRequest_of_success kind hsecond
  rw [hregistry] at hread'
  have hall := @deviceGetList_of_ok lt _ _ kind query' fill d strings hok
    ⟨hretrieve' hbuffer, hread'⟩ hv (fun string hstring => (hplain string hstring).2) hsize
  rw [hall, List.filter_eq_self.mpr fun string hstring => by simpa using (hplain string hstring).1]
    at h
  exact ⟨strings, hv, (Except.ok.inj h).symm⟩

end GetList

/-- The strings that the driver has of a list that it accepted. -/
def sentStrings (strings : List WString) : List WString :=
  (decodedValue (some (.regMultiSz (sentChars strings)))).getD []

/-- Of a list that fits the request, these are the strings that are read back. -/
theorem sentStrings_of_lt {strings : List WString}
    (hsize : 2 * (stringListToMultiString strings).length < 2 ^ 32) :
    sentStrings strings = readBack strings := by
  have hchars : sentChars strings = stringListToMultiString strings := by
    have hne : stringListToMultiString strings ≠ [] := by simp [stringListToMultiString]
    simp only [sentChars, dword, Nat.mod_eq_of_lt hsize, Nat.mul_div_cancel_left _ two_pos,
      List.take_length, if_neg hne]
  rw [sentStrings, hchars, decodedValue, decode_stringListToMultiString]
  rcases eq_or_ne strings [] with rfl | hne
  · rfl
  · have hends := endsInTwo_stringListToMultiString hne
    split_ifs with hsmall
    · -- there is no room for more than the two terminators
      obtain ⟨before, hbefore⟩ := hends
      have hlength := congrArg List.length hbefore
      rw [List.length_append, List.length_cons, List.length_singleton] at hlength
      obtain rfl : before = [] := List.length_eq_zero_iff.mp (by omega)
      rw [← decode_stringListToMultiString, ← hbefore, List.nil_append,
        MultiString.decode_nul_cons]
      rfl
    · rfl

/-- The size of the request for a list of strings: its bytes as a `DWORD`. -/
def requestSize (strings : List WString) : ℕ :=
  dword (2 * ((strings.map (·.length + 1)).sum + 1))

/-- The strings that reach the driver: the driver looks at a request of more than two characters. -/
def arrivedStrings (strings : List WString) : List WString :=
  if 4 < requestSize strings then readBack strings else []

/-- **The strings that the driver has of a list that it accepted** are those that reach it. -/
theorem sentStrings_of_loadable {strings : List WString}
    (h : Loadable (some (.regMultiSz (sentChars strings)))) :
    sentStrings strings = arrivedStrings strings := by
  obtain ⟨buffer, hbuffer⟩ : ∃ buffer, buffer = stringListToMultiString strings := ⟨_, rfl⟩
  obtain ⟨size, hsize⟩ : ∃ size, size = requestSize strings := ⟨_, rfl⟩
  have hdword : size = dword (2 * buffer.length) := by
    rw [hsize, requestSize, hbuffer, length_stringListToMultiString]
  have hlength : 2 * (buffer.take (size / 2)).length = size := by
    rw [List.length_take, hdword, dword]
    omega
  have hsent : sentChars strings =
      if buffer.take (size / 2) = [] then [nul, nul] else buffer.take (size / 2) := by
    rw [hdword, hbuffer]
    rfl
  rw [hsent] at h
  rw [arrivedStrings, ← hsize, ← decode_stringListToMultiString, ← hbuffer, sentStrings, hsent]
  split_ifs at h ⊢ with hnil hlarge hlarge
  · rw [hnil, List.length_nil] at hlength
    omega
  · rfl
  · -- what follows the part that is sent is not read
    have hends : MultiString.EndsInTwo nul (buffer.take (size / 2)) :=
      (loadable_regMultiSz_iff.mp h).resolve_left (by omega)
    have hdecode := MultiString.decode_append_of_endsInTwo hends (buffer.drop (size / 2))
    rw [List.take_append_drop] at hdecode
    rw [decodedValue, if_neg (by omega), if_pos hends, hdecode, Option.getD_some]
  · rw [decodedValue, if_pos (by omega), Option.getD_some]

/-- An entry of a list reaches the driver when the list is sent: the driver looks at the request,
and no entry before this one ends the list. What the driver has of it precedes its terminator. -/
def Arrives (lt : WString → WString → Prop) (entries : List WString) (entry : WString) : Prop :=
  4 < requestSize entries ∧ cString entry ≠ [] ∧
    ∀ before ∈ entries, lt before entry → Plain before

instance (lt : WString → WString → Prop) [DecidableRel lt] (entries : List WString)
    (entry : WString) : Decidable (Arrives lt entries entry) :=
  inferInstanceAs (Decidable (_ ∧ _ ∧ ∀ before ∈ entries, _))

theorem mem_arrivedStrings {lt : WString → WString → Prop} [IsStrictOrder WString lt]
    {S : OrderedSet lt} {string : WString} :
    string ∈ arrivedStrings S.toList ↔
      ∃ entry ∈ S.toList, Arrives lt S.toList entry ∧ cString entry = string := by
  rw [arrivedStrings]
  split_ifs with hsize
  · constructor
    · intro hmem
      have hne : string ≠ [] := by
        rw [← decode_stringListToMultiString] at hmem
        exact (MultiString.mem_decode hmem).1
      obtain ⟨entry, hentry, rfl, hbefore⟩ := (mem_readBack S.sorted hne).mp hmem
      exact ⟨entry, hentry, ⟨hsize, hne, hbefore⟩, rfl⟩
    · rintro ⟨entry, hentry, ⟨-, hne, hbefore⟩, rfl⟩
      exact (mem_readBack S.sorted hne).mpr ⟨entry, hentry, rfl, hbefore⟩
  · refine iff_of_false List.not_mem_nil ?_
    rintro ⟨entry, -, harrives, -⟩
    exact hsize harrives.1

/-- A client that sets a list replaces that list. -/
theorem Driver.Sound.deviceSetList {upcase : WChar → WChar} {d : Driver} (h : d.Sound upcase)
    {lt : WString → WString → Prop} {o : SetListOutcome} {S : OrderedSet lt}
    (hok : NTSuccess (HidHide.deviceSetList kind o S d).1) :
    (HidHide.deviceSetList kind o S d).2.Sound upcase ∧
      (HidHide.deviceSetList kind o S d).2.reference = { d.reference with
        list := Function.update d.reference.list kind (sentStrings S.toList) } := by
  have heq := deviceSetList_of_success hok
  rw [heq] at hok ⊢
  obtain ⟨hsound, hreference⟩ := h.setList kind o.list (sentChars S.toList) hok
  rw [Reference.next, storedChars_sentChars] at hreference
  exact ⟨hsound, hreference⟩

/-- Getting a list comes back with an error only for a request that fails. -/
theorem getStrings_error {lt : WString → WString → Prop} [DecidableRel lt] [IsTrans WString lt]
    {d : Driver} {ntstatus : NTStatus}
    (h : ((driverRequests o).getStrings lt kind d).1 = .error ntstatus) : ¬NTSuccess ntstatus := by
  rw [driverRequests_getStrings] at h
  simp only [deviceGetList, deviceGetMultiString] at h
  split_ifs at h with hquery hfill
  · cases h
  · obtain rfl := Except.error.inj h
    exact hfill
  · obtain rfl := Except.error.inj h
    exact hquery

/-- Setting a list keeps the sizes of the registry values. -/
theorem Framework.Sized.deviceSetList {d : Driver} (hsized : d.framework.Sized) {kind : ListKind}
    {lt : WString → WString → Prop} {outcome : SetListOutcome} {S : OrderedSet lt}
    (h : NTSuccess (HidHide.deviceSetList kind outcome S d).1) :
    (HidHide.deviceSetList kind outcome S d).2.framework.Sized ∧ ∀ kind' ≠ kind,
      (HidHide.deviceSetList kind outcome S d).2.framework.registry kind'.property =
        d.framework.registry kind'.property := by
  have heq := deviceSetList_of_success h
  rw [heq] at h ⊢
  have hregistry := (listSet_of_success kind (sentChars S.toList) h).registry
  rw [storedChars_sentChars] at hregistry
  refine ⟨fun valueName chars hchars => ?_, fun kind' hkind => ?_⟩
  · rw [hregistry] at hchars
    by_cases hname : valueName = kind.property
    · rw [hname, Function.update_self] at hchars
      obtain rfl := RegistryValue.regMultiSz.inj (Option.some.inj hchars)
      have hlength := length_sentChars_le S.toList
      rw [dword] at hlength
      omega
    · rw [Function.update_of_ne hname] at hchars
      exact hsized valueName chars hchars
  · rw [hregistry, Function.update_of_ne fun hp => hkind (ListKind.property_injective hp)]

/-- Setting a switch does so too. -/
theorem Framework.Sized.setSwitch {d : Driver} (hsized : d.framework.Sized) {kind : SwitchKind}
    {value : Bool} {outcome : WriteOutcome} (ho : outcome.Ok) :
    (HidHide.setSwitch kind outcome value d).2.2.framework.Sized := by
  intro valueName chars hchars
  rw [setSwitch_registry kind outcome value d ho] at hchars
  by_cases hname : valueName = kind.property
  · rw [hname, Function.update_self] at hchars
    exact absurd hchars (by simp)
  · rw [Function.update_of_ne hname] at hchars
    exact hsized valueName chars hchars

end Driver

/-! ### The store -/

/-- A request to set something, with the value it carries. -/
inductive SetRequest where
  | list (kind : ListKind) (multiString : List WChar)
  | switch (kind : SwitchKind) (value : Bool)
  deriving DecidableEq, Repr

/-- A device that keeps the values set last, and logs what it is asked to set. -/
structure ConfigurationStore where
  multiString : ListKind → List WChar
  switch : SwitchKind → Bool
  requests : List SetRequest

namespace ConfigurationStore

/-- The strings of a list: those before the first empty one. -/
def list (s : ConfigurationStore) (kind : ListKind) : List WString :=
  MultiString.decode nul (s.multiString kind)

/-- The device keeps a list. -/
def setList (kind : ListKind) (buffer : List WChar) (s : ConfigurationStore) :
    ConfigurationStore :=
  { s with
    multiString := Function.update s.multiString kind buffer
    requests := s.requests ++ [.list kind buffer] }

/-- The device keeps a switch. -/
def setSwitch (kind : SwitchKind) (value : Bool) (s : ConfigurationStore) : ConfigurationStore :=
  { s with
    switch := Function.update s.switch kind value
    requests := s.requests ++ [.switch kind value] }

@[simp] theorem list_setList (kind : ListKind) (buffer : List WChar) (s : ConfigurationStore) :
    (s.setList kind buffer).list =
      Function.update s.list kind (MultiString.decode nul buffer) := by
  funext kind'
  rcases eq_or_ne kind' kind with rfl | hkind
  · simp [list, setList]
  · simp [list, setList, hkind]

@[simp] theorem list_setSwitch (kind : SwitchKind) (value : Bool) (s : ConfigurationStore) :
    (s.setSwitch kind value).list = s.list := rfl

end ConfigurationStore

/-- The store of a first start: nothing is listed, and both switches are off. -/
def firstStore : ConfigurationStore where
  multiString _ := [nul]
  switch _ := false
  requests := []

/-- Requests to the store, which grants them all. -/
def storeRequests : DeviceRequests ConfigurationStore where
  getList kind s := (.ok (MultiString.encode nul (s.list kind)), s)
  setList kind buffer s := (statusSuccess, s.setList kind buffer)
  getSwitch kind s := (.ok (s.switch kind), s)
  setSwitch kind value s := (statusSuccess, s.setSwitch kind value)

/-- Getting a list of the store. -/
theorem storeRequests_getStrings (lt : WString → WString → Prop) [DecidableRel lt]
    [IsTrans WString lt] (kind : ListKind) (s : ConfigurationStore) :
    storeRequests.getStrings lt kind s = (.ok (OrderedSet.ofList lt (s.list kind)), s) := by
  have hplain : ∀ string ∈ s.list kind, Plain string := fun string hstring =>
    MultiString.mem_decode hstring
  have hread : multiStringToStringList (MultiString.encode nul (s.list kind)) = s.list kind := by
    rw [multiStringToStringList_encode fun string hstring => (hplain string hstring).2,
      List.filter_eq_self.mpr fun string hstring => by simpa using (hplain string hstring).1]
  simp only [DeviceRequests.getStrings, storeRequests, Except.map, hread]

/-! ### The store stands for the driver -/

/-- The driver has in memory and persists what the store keeps. -/
structure Represents (s : ConfigurationStore) (d : Driver) : Prop where
  list : d.reference.list = s.list
  switch : d.reference.switch = s.switch
  persisted : ∀ kind : ListKind,
    decodedValue (d.framework.registry kind.property) = some (s.list kind)

namespace Represents

variable {upcase : WChar → WChar} {s : ConfigurationStore} {d : Driver} {o : RequestOutcomes}
  (h : Represents s d) (hd : d.Sound upcase)
include h hd

/-- A list that the driver accepts is set in the store. -/
theorem setList {lt : WString → WString → Prop} {kind : ListKind} {S : OrderedSet lt}
    (hsize : 2 * (stringListToMultiString S.toList).length < 2 ^ 32)
    (hok : NTSuccess
      ((driverRequests o).setList kind (stringListToMultiString S.toList) d).1) :
    Represents (storeRequests.setList kind (stringListToMultiString S.toList) s).2
      ((driverRequests o).setList kind (stringListToMultiString S.toList) d).2 := by
  rw [driverRequests_setList] at hok ⊢
  obtain ⟨-, hreference⟩ := hd.deviceSetList kind hok
  have hlist : (s.setList kind (stringListToMultiString S.toList)).list =
      Function.update s.list kind (sentStrings S.toList) := by
    rw [ConfigurationStore.list_setList, decode_stringListToMultiString, sentStrings_of_lt hsize]
  refine ⟨?_, ?_, fun kind' => ?_⟩
  · rw [hreference, h.list]
    exact hlist.symm
  · rw [hreference]
    exact h.switch
  · change _ = some ((s.setList kind (stringListToMultiString S.toList)).list kind')
    rw [hlist]
    rcases eq_or_ne kind' kind with rfl | hkind
    · obtain ⟨hregistry, hdecoded⟩ := deviceSetList_stores hok
      rw [hregistry, Function.update_self, sentStrings, hdecoded]
      rfl
    · -- the other list is kept under another name
      have heq := deviceSetList_of_success hok
      rw [heq] at hok ⊢
      rw [(listSet_of_success kind (sentChars S.toList) hok).registry,
        Function.update_of_ne (fun hp => hkind (ListKind.property_injective hp)),
        Function.update_of_ne hkind, h.persisted]

/-- A switch that the driver accepts is set in the store. -/
theorem setSwitch {kind : SwitchKind} {value : Bool}
    (hok : NTSuccess ((driverRequests o).setSwitch kind value d).1) :
    Represents (storeRequests.setSwitch kind value s).2
      ((driverRequests o).setSwitch kind value d).2 := by
  obtain ⟨ho, heq⟩ := driverRequests_setSwitch o hok
  obtain ⟨-, hreference⟩ := hd.setSwitch kind (o.setSwitch kind).write value ho
  rw [heq]
  refine ⟨?_, ?_, fun kind' => ?_⟩
  · rw [hreference]
    exact h.list
  · rw [hreference]
    exact congrArg (Function.update · kind value) h.switch
  · rw [setSwitch_registry kind _ value d ho, Function.update_of_ne (kind.property_ne kind').symm]
    exact h.persisted kind'

omit hd in
/-- A switch that is got of the driver is the one that is got of the store. -/
theorem getSwitch {kind : SwitchKind} {value : Bool}
    (hok : ((driverRequests o).getSwitch kind d).1 = .ok value) :
    (storeRequests.getSwitch kind s).1 = .ok value ∧
      Represents s ((driverRequests o).getSwitch kind d).2 := by
  rw [driverRequests_getSwitch] at hok ⊢
  refine ⟨?_, h⟩
  split_ifs at hok
  change Except.ok (s.switch kind) = _
  rw [← h.switch]
  exact hok

/-- A list that is got of the driver is the one that is got of the store. -/
theorem getStrings {lt : WString → WString → Prop} [DecidableRel lt] [IsTrans WString lt]
    (hsized : d.framework.Sized) {kind : ListKind} {S : OrderedSet lt}
    (hok : ((driverRequests o).getStrings lt kind d).1 = .ok S) :
    (storeRequests.getStrings lt kind s).1 = .ok S ∧
      Represents s ((driverRequests o).getStrings lt kind d).2 := by
  rw [driverRequests_getStrings] at hok ⊢
  obtain ⟨strings, hv, rfl⟩ := deviceGetList_eq_ok kind hsized hok
  rw [h.persisted] at hv
  obtain ⟨-, hreference, hregistry⟩ :=
    @Driver.Sound.deviceGetList kind lt _ _ (o.query kind) (o.fill kind) d upcase hd
  refine ⟨?_, ?_, ?_, ?_⟩
  · rw [storeRequests_getStrings, Option.some.inj hv]
  · rw [hreference, h.list]
  · rw [hreference, h.switch]
  · rw [hregistry]
    exact h.persisted

end Represents

end HidHide
