import HidHide.Driver.CollectionEncoder
import HidHide.Client.CommandInterpreter

/-!
# The lists on their way to the driver

Three encoders and decoders have to agree for a list of the client to be the list of the driver:
the client writes a multi-string, the driver stores it and reads it back with the framework's
parser, and it writes a multi-string again for the client to read.

They agree (`listIntact_iff`) on the lists without an empty string whose multi-string takes less
than `2 ^ 32` bytes. An empty string is written as a terminator, which ends the multi-string for
the driver. It is the first one of its list, so all strings are lost (`list_eq_nil_of_nil_mem`),
and the command line lets it in (`devHide_quotedEmpty`).
-/

namespace HidHide

section Transfer

variable {lt : WString → WString → Prop} {kind : ListKind} {o : SetListOutcome}
  {S : OrderedSet lt} {d : Driver}

/-- All strings of a set without the empty one precede the first empty one. -/
private theorem takeWhile_toList (hnil : [] ∉ S) : S.toList.takeWhile (· ≠ []) = S.toList :=
  List.takeWhile_eq_self_iff.mpr fun s hs => by
    simpa using fun hempty : s = [] => hnil (hempty ▸ hs)

/-- What the driver has in memory of a multi-string that fits: the strings before the first empty
one. -/
theorem list_eq_takeWhile (hS : ∀ s ∈ S, nul ∉ s) (h : NTSuccess (deviceSetList kind o S d).1)
    (hsize : 2 * (stringListToMultiString S.toList).length < 2 ^ 32) :
    (deviceSetList kind o S d).2.list kind = S.toList.takeWhile (· ≠ []) := by
  have hdecoded := (deviceSetList_stores h).2
  rw [sentChars_of_lt hS hsize, decodedValue_encode hS] at hdecoded
  exact (Option.some.inj hdecoded).symm

/-- The memory of the driver has exactly the strings of the set: it has those before the first
empty one, of a multi-string that fits. -/
theorem mem_list_iff_of_accepted [IsStrictOrder WString lt] (hS : ∀ s ∈ S, nul ∉ s)
    (h : NTSuccess (deviceSetList kind o S d).1) :
    (∀ s, s ∈ (deviceSetList kind o S d).2.list kind ↔ s ∈ S) ↔
      [] ∉ S ∧ 2 * (stringListToMultiString S.toList).length < 2 ^ 32 := by
  have hlength := length_stringListToMultiString S.toList
  constructor
  · intro hmem
    have hsize : 2 * (stringListToMultiString S.toList).length < 2 ^ 32 := by
      -- the strings of the set are in memory, so they fit in what was sent
      have hsum : (S.toList.map (·.length + 1)).sum ≤
          (((deviceSetList kind o S d).2.list kind).map (·.length + 1)).sum :=
        OrderedSet.sum_map_le_of_forall_mem (fun s hs => (hmem s).mpr hs) _
      have hsent := length_sentChars_le S.toList
      have hdecoded := sum_length_of_decodedValue (deviceSetList_stores h).2
      rw [dword] at hsent
      omega
    refine ⟨fun hnil => ?_, hsize⟩
    -- no string in memory is empty, as the parser stops at the first one that is
    have hlist := (hmem []).mpr hnil
    rw [list_eq_takeWhile hS h hsize] at hlist
    simpa using List.mem_takeWhile_imp hlist
  · rintro ⟨hnil, hsize⟩ s
    rw [list_eq_takeWhile hS h hsize, takeWhile_toList hnil]
    rfl

/-- **An empty string loses the whole list**: it is the first one of the device instance paths. -/
theorem list_eq_nil_of_nil_mem {S : DeviceInstancePaths} (hnil : [] ∈ S)
    (hS : ∀ s ∈ S, nul ∉ s) (h : NTSuccess (deviceSetList kind o S d).1)
    (hsize : 2 * (stringListToMultiString S.toList).length < 2 ^ 32) :
    (deviceSetList kind o S d).2.list kind = [] := by
  rw [list_eq_takeWhile hS h hsize]
  obtain ⟨a, l, hl⟩ : ∃ a l, S.toList = a :: l :=
    List.exists_cons_of_ne_nil (List.ne_nil_of_mem hnil)
  have hfirst : a = [] := by
    rcases List.mem_cons.mp (hl ▸ hnil : [] ∈ a :: l) with ha | hmem
    · exact ha.symm
    · have hsorted := S.sorted
      rw [hl] at hsorted
      exact absurd ((List.pairwise_cons.mp hsorted).1 [] hmem) (List.not_lt_nil a)
  rw [hl, hfirst, List.takeWhile_cons_of_neg (by simp)]

/-- **A list is intact** in the driver: the driver has it in memory and loads it when it starts
again, which the list does not keep it from, and the client gets it back. -/
structure ListIntact [DecidableRel lt] [IsTrans WString lt] (kind : ListKind) (S : OrderedSet lt)
    (d : Driver) : Prop where
  memory : ∀ s, s ∈ d.list kind ↔ s ∈ S
  loadable : Loadable (d.framework.registry kind.property)
  restart : ∀ o, NTSuccess (onDriverCreate o d.framework).1 →
    ∀ s, s ∈ (onDriverCreate o d.framework).2.list kind ↔ s ∈ S
  get : ∀ query fill : GetListOutcome, query.Ok (d.framework.registry kind.property) →
    fill.Ok (d.framework.registry kind.property) → (deviceGetList kind query fill d).1 = .ok S

/-- **Lists reach the driver intact** exactly when they have no empty string and their
multi-string takes less than `2 ^ 32` bytes. -/
theorem listIntact_iff [DecidableRel lt] [IsStrictOrder WString lt] (hS : ∀ s ∈ S, nul ∉ s)
    (h : NTSuccess (deviceSetList kind o S d).1) :
    ListIntact kind S (deviceSetList kind o S d).2 ↔
      [] ∉ S ∧ 2 * (stringListToMultiString S.toList).length < 2 ^ 32 := by
  rw [← mem_list_iff_of_accepted hS h]
  refine ⟨ListIntact.memory, fun hmem => ?_⟩
  obtain ⟨hnil, hsize⟩ := (mem_list_iff_of_accepted hS h).mp hmem
  obtain ⟨hregistry, hdecoded⟩ := deviceSetList_stores h
  rw [← hregistry] at hdecoded
  refine ⟨hmem, Option.isSome_iff_exists.mpr ⟨_, hdecoded⟩, fun o' ho' s => ?_,
    fun query fill hquery hfill => ?_⟩
  · have hloaded := (onDriverCreate_loads ho').2.1 kind
    rw [hdecoded] at hloaded
    rw [← Option.some.inj hloaded, hmem]
  · have hvalue : decodedValue ((deviceSetList kind o S d).2.framework.registry kind.property) =
        some S.toList := by
      rw [hregistry, sentChars_of_lt hS hsize, decodedValue_encode hS, takeWhile_toList hnil]
    -- the client skips no string, and the order of its set rebuilds the set
    rw [stringListToMultiString_eq_encode hS] at hsize
    rw [deviceGetList_of_ok hquery hfill hvalue hS hsize, List.filter_eq_self.mpr fun s hs => ?_,
      OrderedSet.ofList_toList]
    simpa using fun hempty : s = [] => hnil (hempty ▸ hs)

/-- The client decodes what the driver has encoded. -/
theorem multiStringToStringList_encode_plain {strings : List UnicodeString}
    (hplain : ∀ string ∈ strings, Plain string) :
    multiStringToStringList (MultiString.encode nul strings) = strings := by
  rw [multiStringToStringList_encode fun string hstring => (hplain string hstring).2,
    List.filter_eq_self.mpr fun string hstring => by simpa using (hplain string hstring).1]

/-- **A client that asks for the size and then for the list** gets every list that is persisted. -/
theorem deviceGetList_of_decodedValue [DecidableRel lt] [IsTrans WString lt]
    {query fill : GetListOutcome} (hsized : d.framework.Sized) {strings : List UnicodeString}
    (hv : decodedValue (d.framework.registry kind.property) = some strings)
    (hquery : query.Ok (d.framework.registry kind.property))
    (hfill : fill.Ok (d.framework.registry kind.property)) :
    (deviceGetList kind query fill d).1 = .ok (OrderedSet.ofList lt strings) := by
  have hplain := plain_of_decodedValue hv
  rw [deviceGetList_of_ok hquery hfill hv (fun string hstring => (hplain string hstring).2)
    (length_encode_lt hsized hv),
    List.filter_eq_self.mpr fun string hstring => by simpa using (hplain string hstring).1]

/-- **The encoder of the driver and the decoder of the client.** On every path the encoder reports
the size of the multi-string. Without a buffer, or with one that is too small, it writes nothing;
otherwise it writes no more than that size, and what it writes is decoded to the list. So a client
that asks for the size and then for the list gets it. -/
theorem listEncoder_exact [DecidableRel lt] [IsTrans WString lt] (rtl : StringCchCopy)
    {strings : List UnicodeString} (hplain : ∀ string ∈ strings, Plain string) {n : ℕ}
    (hn : n ≤ ntstrsafeMaxCch) (buffer : ℕ) (memory : CharMemory) :
    let needed := (strings.map (·.length + 1)).sum + 1
    let encoder := collectionToMultiStringAt rtl strings
    (∀ buffer size, (encoder buffer size memory).2.1 = needed) ∧
    (∀ size, encoder none size memory = (statusSuccess, needed, memory)) ∧
    (n < needed → encoder (some buffer) n memory = (statusBufferTooSmall, needed, memory)) ∧
    (needed ≤ n → ∃ memory', encoder (some buffer) n memory = (statusSuccess, needed, memory') ∧
      (∀ a, a < buffer ∨ buffer + needed ≤ a → memory' a = memory a) ∧
      multiStringToStringList (CellMemory.read memory' buffer needed) = strings) ∧
    ∀ (kind : ListKind) (query fill : GetListOutcome) (d : Driver), d.framework.Sized →
      decodedValue (d.framework.registry kind.property) = some strings →
      query.Ok (d.framework.registry kind.property) →
      fill.Ok (d.framework.registry kind.property) →
      (deviceGetList kind query fill d).1 = .ok (OrderedSet.ofList lt strings) := by
  simp only [neededSizeInCharacters_eq]
  refine ⟨fun buffer size => collectionToMultiStringAt_needed rtl strings buffer size memory,
    fun size => ?_, collectionToMultiStringAt_of_lt rtl memory buffer, fun hsize => ?_,
    fun kind query fill d hsized hv hquery hfill =>
      deviceGetList_of_decodedValue hsized hv hquery hfill⟩
  · exact collectionToMultiStringAt_none rtl memory
  · refine ⟨_, collectionToMultiStringAt_fill rtl memory buffer hsize hn,
      fun a ha => CellMemory.write_frame memory ha, ?_⟩
    rw [CellMemory.read_write, multiStringToStringList_encode_plain hplain]

end Transfer

/-- The list of the devices `A` and `BC`. -/
def twoDevices : DeviceInstancePaths := (OrderedSet.emplace ∅ [0x42, 0x43]).emplace [0x41]

/-- The driver after a client has set this list. -/
def twoDevicesDriver : Driver :=
  (deviceSetList .blacklist ⟨statusSuccess, .success, .success⟩ twoDevices firstDriver).2

/-- A buffer at the address 5 that fits the list of the two devices exactly, one that does not,
and the list as a client gets it from the driver. -/
theorem listEncoder_exact_twoDevices :
    let strings : List UnicodeString := [[0x41], [0x42, 0x43]]
    let memory : CharMemory := fun _ => 0x42
    let encoder := collectionToMultiStringAt .ofFits strings
    let o : GetListOutcome := ⟨statusSuccess, .success⟩
    encoder (some 5) 5 memory = (statusBufferTooSmall, 6, memory) ∧
      (∃ memory', encoder (some 5) 6 memory = (statusSuccess, 6, memory') ∧
        (∀ a, a < 5 ∨ 5 + 6 ≤ a → memory' a = memory a) ∧
        multiStringToStringList (CellMemory.read memory' 5 6) = strings) ∧
      (deviceGetList .blacklist o o twoDevicesDriver).1 =
        .ok (OrderedSet.ofList wstringLt strings) := by
  have hplain : ∀ string ∈ ([[0x41], [0x42, 0x43]] : List UnicodeString), Plain string := by
    simp [Plain, nul]
  have hsmall := @listEncoder_exact wstringLt _ _ .ofFits [[0x41], [0x42, 0x43]] hplain 5
    (by decide) 5 fun _ => 0x42
  have hfits := @listEncoder_exact wstringLt _ _ .ofFits [[0x41], [0x42, 0x43]] hplain 6
    (by decide) 5 fun _ => 0x42
  have hset : NTSuccess (deviceSetList .blacklist ⟨statusSuccess, .success, .success⟩ twoDevices
      firstDriver).1 := by decide
  have hsized : twoDevicesDriver.framework.Sized := (sized_firstDriver.deviceSetList hset).1
  have hread : GetListOutcome.Ok ⟨statusSuccess, .success⟩
      (twoDevicesDriver.framework.registry ListKind.blacklist.property) :=
    ⟨ntSuccess_statusSuccess, by decide⟩
  exact ⟨hsmall.2.2.1 (by decide), hfits.2.2.2.1 (by decide),
    hfits.2.2.2.2 .blacklist _ _ twoDevicesDriver hsized (by decide) hread hread⟩

/-- The list of the two devices reaches the driver intact. -/
theorem listIntact_twoDevices : ListIntact .blacklist twoDevices twoDevicesDriver :=
  (listIntact_iff (show ∀ s ∈ [[0x41], [0x42, 0x43]], nul ∉ s by decide) (by decide)).mpr
    (by decide)

/-- The line `--dev-hide ""` is accepted and puts the empty string into the blacklist. The driver
accepts the list and has no string of it. -/
theorem devHide_quotedEmpty :
    let S : DeviceInstancePaths := OrderedSet.emplace ∅ []
    let r := deviceSetList .blacklist ⟨statusSuccess, .success, .success⟩ S firstDriver
    let interpreter : CommandInterpreter Driver :=
      ⟨false, false, ⟨false, ∅, ∅, false, false⟩, false, firstDriver⟩
    extractCommands cLocaleSpace (quotedCommand devHideKeyword []) =
        ([[devHideKeyword, []]], []) ∧
      valOneDeviceInstancePath [devHideKeyword, []] = none ∧
      (CommandInterpreter.devHide (driverRequests grantedRequests) [devHideKeyword, []]
        interpreter).2.filterDriverProxy.blacklist = S ∧
      (∀ s ∈ S, nul ∉ s) ∧ NTSuccess r.1 ∧ r.2.list .blacklist = [] ∧
      ¬ListIntact .blacklist S r.2 := by
  obtain ⟨hline, hvalid⟩ := devListLine_accepted (show cLocaleSpace space by decide)
    (fun _ hlow _ => not_cLocaleSpace hlow) (show doubleQuote ∉ [] by decide) (by decide)
  refine ⟨hline, hvalid, by decide, show ∀ s ∈ [[]], nul ∉ s by decide, by decide, by decide,
    fun h => ?_⟩
  exact absurd ((h.memory []).mpr (OrderedSet.self_mem_emplace _ _)) (by decide)

end HidHide
