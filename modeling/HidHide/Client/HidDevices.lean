import HidHide.ForMathlib.OrderedMultimap
import HidHide.Client.CliParsing

/-!
# The human interface devices

`HidDevices` of `HID.cpp`: the enumerated devices are put into a multimap by the path of their base
container, and the runs of that multimap become groups under a friendly name. The nested loop
advances one iterator; here it is an index that is checked when it is dereferenced, and the loops
run on fuel (`hidDevices_eq` says how much is enough).

The groups are a partition of the devices, and leaving out the groups without a gaming device is
the only effect of `gamingDevicesOnly` (`hidDevices_partition`). How two words compare is up to the
system: `StrCmpLogicalW` is a parameter.
-/

namespace HidHide

/-- `GUID`. -/
structure Guid where
  data1 : UInt32
  data2 : UInt16
  data3 : UInt16
  data4 : Vector UInt8 8
  deriving DecidableEq

/-- `HidDeviceInformation`. -/
structure HidDeviceInformation where
  present : Bool
  gamingDevice : Bool
  symbolicLink : WString
  vendor : WString
  product : WString
  serialNumber : WString
  usage : WString
  description : WString
  deviceInstancePath : WString
  xusbDeviceInstancePath : WString
  baseContainerDeviceInstancePath : WString
  baseContainerClassGuid : Guid
  baseContainerDeviceCount : ℕ
  deriving DecidableEq

/-- `FriendlyNamesAndHidDeviceInformation`. -/
abbrev FriendlyNamesAndHidDeviceInformation := OrderedMultimap wstringLt (List HidDeviceInformation)

/-! ### Words -/

/-- `std::wstring::find` of a character. -/
def findFrom (value : WString) (c : WChar) (start : ℕ) : Option ℕ :=
  ((value.drop start).findIdx? (· = c)).map (start + ·)

/-- What is found is the first such character behind the start. -/
theorem drop_eq_of_findFrom {value : WString} {c : WChar} {start position : ℕ}
    (h : findFrom value c start = some position) :
    start ≤ position ∧ position < value.length ∧ c ∉ (value.drop start).take (position - start) ∧
      value.drop start =
        (value.drop start).take (position - start) ++ c :: value.drop (position + 1) := by
  obtain ⟨index, hindex, rfl⟩ := Option.map_eq_some_iff.mp h
  obtain ⟨hlt, hc, hbefore⟩ := List.findIdx?_eq_some_iff_getElem.mp hindex
  have hlength : start + index < value.length := by
    rw [List.length_drop] at hlt
    omega
  refine ⟨Nat.le_add_right _ _, hlength, fun hmem => ?_, ?_⟩
  · rw [Nat.add_sub_cancel_left] at hmem
    obtain ⟨i, hi, hic⟩ := List.mem_take_iff_getElem.mp hmem
    exact hbefore i (lt_min_iff.mp hi).1 (decide_eq_true hic)
  · have hrest : value.drop (start + index + 1) = (value.drop start).drop (index + 1) := by
      rw [List.drop_drop, Nat.add_assoc]
    have hhead : (value.drop start)[index] = c := of_decide_eq_true hc
    rw [Nat.add_sub_cancel_left, hrest, ← hhead, List.getElem_cons_drop, List.take_append_drop]

/-- The loop of `SplitStringAtWhitespaces`, from the index `start` on. -/
def splitStringFrom (value : WString) (start : ℕ) : List WString :=
  match _ : findFrom value space start with
  | none => if start < value.length then [value.drop start] else []
  | some position =>
      (if start ≠ position then [(value.drop start).take (position - start)] else []) ++
        splitStringFrom value (position + 1)
termination_by value.length - start
decreasing_by
  rename_i hfind
  obtain ⟨hstart, hlength, -⟩ := drop_eq_of_findFrom hfind
  omega

/-- `SplitStringAtWhitespaces`. -/
def splitStringAtWhitespaces (value : WString) : List WString := splitStringFrom value 0

/-- The words of a text: what is between its spaces, as far as it is not empty. -/
def wordsOf (value : WString) : List WString := (value.splitOn space).filter (· ≠ [])

theorem wordsOf_of_not_mem {word : WString} (h : space ∉ word) :
    wordsOf word = if word ≠ [] then [word] else [] := by
  rw [wordsOf, List.splitOn_eq_singleton h, List.filter_singleton]
  simp

theorem wordsOf_append {word : WString} (h : space ∉ word) (value : WString) :
    wordsOf (word ++ space :: value) = (if word ≠ [] then [word] else []) ++ wordsOf value := by
  rw [wordsOf, List.splitOn_append_cons_self_of_not_mem h, List.filter_cons]
  split_ifs <;> simp_all [wordsOf]

theorem splitStringFrom_of_eq_none {value : WString} {start : ℕ}
    (h : findFrom value space start = none) :
    splitStringFrom value start = if start < value.length then [value.drop start] else [] := by
  rw [splitStringFrom]
  split
  · rfl
  · simp_all

theorem splitStringFrom_of_eq_some {value : WString} {start position : ℕ}
    (h : findFrom value space start = some position) :
    splitStringFrom value start =
      (if start ≠ position then [(value.drop start).take (position - start)] else []) ++
        splitStringFrom value (position + 1) := by
  rw [splitStringFrom]
  split
  · simp_all
  · rename_i hfind
    obtain rfl := Option.some.inj (h.symm.trans hfind)
    rfl

theorem splitStringFrom_eq (value : WString) (start : ℕ) :
    splitStringFrom value start = wordsOf (value.drop start) := by
  induction hrest : value.length - start using Nat.strong_induction_on generalizing start with
  | h rest ih =>
    rcases hfind : findFrom value space start with _ | position
    · have hnone : space ∉ value.drop start := by
        have hnot := List.findIdx?_eq_none_iff.mp (Option.map_eq_none_iff.mp hfind)
        exact fun hmem => absurd (hnot space hmem) (by simp)
      have hne : start < value.length ↔ value.drop start ≠ [] := by
        rw [ne_eq, List.drop_eq_nil_iff, not_le]
      rw [splitStringFrom_of_eq_none hfind, wordsOf_of_not_mem hnone]
      simp only [hne]
    · obtain ⟨hstart, hlength, hword, hsplit⟩ := drop_eq_of_findFrom hfind
      have hne : start ≠ position ↔ (value.drop start).take (position - start) ≠ [] := by
        rw [ne_eq, ne_eq, List.take_eq_nil_iff, List.drop_eq_nil_iff]
        omega
      have hmore := ih (value.length - (position + 1)) (by omega) (position + 1) rfl
      rw [splitStringFrom_of_eq_some hfind, hmore, hsplit, wordsOf_append hword]
      simp only [hne]
      rw [← hsplit]

/-- **The words** are split at spaces, and no word is empty. -/
theorem splitStringAtWhitespaces_eq (value : WString) :
    splitStringAtWhitespaces value = wordsOf value :=
  splitStringFrom_eq value 0

theorem ne_nil_of_mem_wordsOf {value word : WString} (h : word ∈ wordsOf value) : word ≠ [] :=
  of_decide_eq_true (List.mem_filter.mp h).2

/-! ### The loops -/

section HidDevices

variable (strCmpLogical : WString → WString → Bool)

/-- A part is added to the model when no part of it is equal, as `StrCmpLogicalW` compares them. -/
def addPart (model : List WString) (part : WString) : List WString :=
  if model.any (strCmpLogical · part) then model else model ++ [part]

/-- `MergeModelInformation`. -/
def mergeModelInformation (model : List WString) (append : WString) : List WString :=
  (splitStringAtWhitespaces append).foldl (addPart strCmpLogical) model

/-- The entries of the multimap over which `HidDevices` iterates. -/
abbrev ContainerEntries := List (WString × HidDeviceInformation)

/-- The local variables of an iteration. -/
structure Container where
  model : List WString
  gamingDevice : Bool
  hidDevices : List HidDeviceInformation

/-- What both branches do with a device. -/
def Container.merge (container : Container) (device : HidDeviceInformation) : Container :=
  { container with
    model := mergeModelInformation strCmpLogical
      (mergeModelInformation strCmpLogical container.model device.vendor) device.product
    hidDevices := container.hidDevices ++ [device] }

/-- The inner loop, over the entries with the same key. -/
def relatedEntries (entries : ContainerEntries) (key : WString) :
    ℕ → ℕ → Container → Option (ℕ × Container)
  | 0, _, _ => none
  | fuel + 1, it, container =>
      match entries[it]? with
      | none => some (it, container)
      | some (first, device) =>
          if first = key then
            let gaming := { container with
              gamingDevice := container.gamingDevice || device.gamingDevice }
            relatedEntries entries key fuel (it + 1) (gaming.merge strCmpLogical device)
          else some (it, container)

/-- The devices of an iteration, with the entry at which it ends. -/
def collectContainer (entries : ContainerEntries) (fuel it : ℕ) (first : WString)
    (device : HidDeviceInformation) : Option (ℕ × Container) :=
  let container : Container := ⟨[], device.gamingDevice, []⟩
  if first = [] then some (it, container.merge strCmpLogical device)
  else
    match relatedEntries strCmpLogical entries first fuel it container with
    | none => none
    -- there is no entry before the first
    | some (0, _) => none
    | some (it + 1, container) => some (it, container)

/-- The parts of the model, with spaces between them. -/
def joinModel (model : List WString) : WString :=
  model.foldl (fun friendlyName part =>
    if friendlyName = [] then part else friendlyName ++ [space] ++ part) []

/-- The friendly name of an iteration that ends at the entry. -/
def entryName (entries : ContainerEntries) (it : ℕ) (model : List WString) : Option WString :=
  if joinModel model = [] then entries[it]?.map (·.2.description) else some (joinModel model)

/-- The outer loop, over the containers. -/
def hidDevicesFrom (gamingDevicesOnly : Bool) (entries : ContainerEntries) :
    ℕ → ℕ → FriendlyNamesAndHidDeviceInformation → Option FriendlyNamesAndHidDeviceInformation
  | 0, _, _ => none
  | fuel + 1, it, result =>
      match entries[it]? with
      | none => some result
      | some (first, device) =>
          match collectContainer strCmpLogical entries fuel it first device with
          | none => none
          | some (it, container) =>
              if !gamingDevicesOnly || container.gamingDevice then
                match entryName entries it container.model with
                | none => none
                | some name => hidDevicesFrom gamingDevicesOnly entries fuel (it + 1)
                    (result.emplace (name, container.hidDevices))
              else hidDevicesFrom gamingDevicesOnly entries fuel (it + 1) result

/-- The multimap over which `HidDevices` iterates. -/
def containerMap (devices : List HidDeviceInformation) :
    OrderedMultimap wstringLt HidDeviceInformation :=
  .ofList wstringLt (devices.map fun device => (device.baseContainerDeviceInstancePath, device))

/-- `HidDevices`, for the devices that are enumerated. -/
def hidDevices (fuel : ℕ) (gamingDevicesOnly : Bool) (devices : List HidDeviceInformation) :
    Option FriendlyNamesAndHidDeviceInformation :=
  hidDevicesFrom strCmpLogical gamingDevicesOnly (containerMap devices).toList fuel 0 ∅

/-! ### What the loops compute -/

/-- The words without those that are equal to one before them. -/
def distinctWords : List WString → List WString
  | [] => []
  | word :: words => word :: (distinctWords words).filter (!strCmpLogical word ·)

/-- The words of the vendor and product strings of a group of devices. -/
def modelWords (group : List HidDeviceInformation) : List WString :=
  group.flatMap fun device => wordsOf device.vendor ++ wordsOf device.product

/-- The friendly name of a group: its distinct words with spaces between them, or the description
of its last device if there are none. -/
def friendlyName (group : List HidDeviceInformation) : WString :=
  if modelWords group = [] then (group.getLast?.map (·.description)).getD []
  else [space].intercalate (distinctWords strCmpLogical (modelWords group))

/-- The groups: the devices of a base container, or a device without one. -/
def containerGroups (devices : List HidDeviceInformation) : List (List HidDeviceInformation) :=
  ((containerMap devices).runs (· ≠ [])).map fun run => run.map (·.2)

variable {strCmpLogical}

theorem foldl_addPart (hequiv : Equivalence fun a b => strCmpLogical a b = true)
    (model words : List WString) : words.foldl (addPart strCmpLogical) model =
      model ++ (distinctWords strCmpLogical words).filter
        fun word => !model.any (strCmpLogical · word) := by
  induction words generalizing model with
  | nil => simp [distinctWords]
  | cons word words ih =>
    rw [List.foldl_cons, ih, addPart]
    by_cases hmodel : model.any (strCmpLogical · word)
    · -- what is equal to the word is equal to the part of the model that is equal to it
      obtain ⟨part, hpart, heq⟩ := List.any_eq_true.mp hmodel
      rw [if_pos hmodel, distinctWords, List.filter_cons_of_neg (by simp [hmodel]),
        List.filter_filter]
      congr 1
      refine List.filter_congr fun other _ => ?_
      by_cases hother : strCmpLogical word other
      · have hany : model.any (strCmpLogical · other) :=
          List.any_eq_true.mpr ⟨part, hpart, hequiv.trans heq hother⟩
        simp [hany]
      · simp [hother]
    · rw [if_neg hmodel, distinctWords, List.filter_cons_of_pos (by simp [hmodel]),
        List.filter_filter, List.append_assoc, List.singleton_append]
      congr 2
      refine List.filter_congr fun other _ => ?_
      simp [List.any_append, Bool.and_comm]

/-- The model of a group is its distinct words. -/
theorem foldl_addPart_nil (hequiv : Equivalence fun a b => strCmpLogical a b = true)
    (words : List WString) :
    words.foldl (addPart strCmpLogical) [] = distinctWords strCmpLogical words := by
  rw [foldl_addPart hequiv]
  simp

theorem subset_distinctWords (words : List WString) :
    ∀ word ∈ distinctWords strCmpLogical words, word ∈ words := by
  induction words with
  | nil => simp [distinctWords]
  | cons first words ih =>
    intro word hword
    rcases List.mem_cons.mp hword with rfl | hword
    · exact List.mem_cons_self
    · exact List.mem_cons_of_mem _ (ih word (List.mem_of_mem_filter hword))

theorem foldl_join {text : WString} (htext : text ≠ []) (model : List WString) :
    model.foldl (fun friendlyName part =>
      if friendlyName = [] then part else friendlyName ++ [space] ++ part) text =
      text ++ model.flatMap (space :: ·) := by
  induction model generalizing text with
  | nil => simp
  | cons part model ih =>
    rw [List.foldl_cons, if_neg htext, ih (by simp)]
    simp

theorem intercalate_space (part : WString) (model : List WString) :
    [space].intercalate (part :: model) = part ++ model.flatMap (space :: ·) := by
  induction model generalizing part with
  | nil => simp
  | cons next model ih =>
    rw [List.intercalate_cons_cons, ih]
    simp

theorem joinModel_eq {model : List WString} (h : ∀ part ∈ model, part ≠ []) :
    joinModel model = [space].intercalate model := by
  cases model with
  | nil => rfl
  | cons part model =>
    rw [joinModel, List.foldl_cons, if_pos rfl, foldl_join (h part List.mem_cons_self),
      intercalate_space]

/-- The name that an iteration gives to a group. -/
def groupName (strCmpLogical : WString → WString → Bool) (group : List HidDeviceInformation) :
    WString :=
  let model := (modelWords group).foldl (addPart strCmpLogical) []
  if joinModel model = [] then (group.getLast?.map (·.description)).getD [] else joinModel model

/-- The name of an iteration is that of the group, if the iteration ends at the group's last
entry. -/
theorem entryName_eq {entries : ContainerEntries} {it : ℕ} {group : List HidDeviceInformation}
    {device : HidDeviceInformation} (hlast : group.getLast? = some device)
    (hentry : entries[it]?.map (·.2) = some device) :
    entryName entries it ((modelWords group).foldl (addPart strCmpLogical) []) =
      some (groupName strCmpLogical group) := by
  have hdescription : entries[it]?.map (·.2.description) = some device.description := by
    obtain ⟨entry, hit, rfl⟩ := Option.map_eq_some_iff.mp hentry
    rw [hit]
    rfl
  rw [entryName, groupName, hdescription, hlast]
  split_ifs <;> rfl

/-- **The name of a group** is its friendly name. -/
theorem groupName_eq (hequiv : Equivalence fun a b => strCmpLogical a b = true)
    (group : List HidDeviceInformation) :
    groupName strCmpLogical group = friendlyName strCmpLogical group := by
  have hwords : ∀ word ∈ modelWords group, word ≠ [] := by
    intro word hword
    obtain ⟨d, -, hword⟩ := List.mem_flatMap.mp hword
    rcases List.mem_append.mp hword with hword | hword
    · exact ne_nil_of_mem_wordsOf hword
    · exact ne_nil_of_mem_wordsOf hword
  rw [groupName, friendlyName, foldl_addPart_nil hequiv,
    joinModel_eq fun part hpart => hwords part (subset_distinctWords _ part hpart)]
  rcases hmodel : modelWords group with _ | ⟨word, words⟩
  · have hnil : [space].intercalate (distinctWords strCmpLogical []) = [] := rfl
    rw [if_pos hnil, if_pos rfl]
  · -- the first word is not empty
    have hname : [space].intercalate (distinctWords strCmpLogical (word :: words)) ≠ [] := by
      rw [distinctWords, intercalate_space]
      exact List.append_ne_nil_of_left_ne_nil (hwords word (hmodel ▸ List.mem_cons_self)) _
    rw [if_neg hname, if_neg (List.cons_ne_nil _ _)]

/-- The variables of an iteration, past a group of devices. -/
def Container.mergeGroup (strCmpLogical : WString → WString → Bool) (container : Container)
    (group : List HidDeviceInformation) : Container :=
  ⟨(modelWords group).foldl (addPart strCmpLogical) container.model,
    container.gamingDevice || group.any (·.gamingDevice), container.hidDevices ++ group⟩

theorem Container.mergeGroup_cons (container : Container) (device : HidDeviceInformation)
    (group : List HidDeviceInformation) :
    ({ container with
        gamingDevice := container.gamingDevice || device.gamingDevice } |>.merge strCmpLogical
          device).mergeGroup strCmpLogical group =
      container.mergeGroup strCmpLogical (device :: group) := by
  simp [Container.merge, Container.mergeGroup, mergeModelInformation, modelWords,
    splitStringAtWhitespaces_eq, Bool.or_assoc]

/-- **The inner loop** stops behind the run of its key. -/
theorem relatedEntries_eq {key : WString} {run rest : ContainerEntries}
    (hrun : ∀ entry ∈ run, entry.1 = key) (hrest : ∀ entry ∈ rest.head?, entry.1 ≠ key)
    (before : ContainerEntries) (container : Container) {fuel : ℕ} (hfuel : run.length < fuel) :
    relatedEntries strCmpLogical (before ++ (run ++ rest)) key fuel before.length container =
      some (before.length + run.length,
        container.mergeGroup strCmpLogical (run.map (·.2))) := by
  induction run generalizing before container fuel with
  | nil =>
    obtain ⟨fuel, rfl⟩ := Nat.exists_eq_add_one.mpr hfuel
    have hentry : (before ++ ([] ++ rest))[before.length]? = rest.head? := by
      rw [List.nil_append, List.getElem?_append_right (le_refl _), Nat.sub_self,
        List.head?_eq_getElem?]
    have hnone : container.mergeGroup strCmpLogical [] = container := by
      simp [Container.mergeGroup, modelWords]
    rw [relatedEntries, hentry, List.map_nil, hnone]
    rcases hhead : rest.head? with _ | ⟨first, device⟩
    · rfl
    · have hne : first ≠ key := hrest _ hhead
      dsimp only
      rw [if_neg hne]
      rfl
  | cons entry run ih =>
    obtain ⟨fuel, rfl⟩ := Nat.exists_eq_add_one.mpr (Nat.zero_lt_of_lt hfuel)
    obtain ⟨hfirst, hrun⟩ := List.forall_mem_cons.mp hrun
    have hentry : (before ++ (entry :: run ++ rest))[before.length]? = some entry := by
      rw [List.getElem?_append_right (le_refl _), Nat.sub_self]
      rfl
    have hmore := fun container => ih hrun (before ++ [entry]) container
      (Nat.lt_of_succ_lt_succ hfuel)
    simp only [List.append_assoc, List.singleton_append, List.length_append,
      List.length_singleton] at hmore
    rw [relatedEntries, hentry]
    dsimp only
    rw [if_pos hfirst, List.cons_append, hmore, Container.mergeGroup_cons, List.map_cons,
      List.length_cons, Nat.add_assoc, Nat.add_comm 1]

/-- The first run of what is left of the entries. -/
def firstRun (entry : WString × HidDeviceInformation) (rest : ContainerEntries) :
    ContainerEntries :=
  entry :: rest.takeWhile (OrderedMultimap.sameRun (· ≠ []) entry)

theorem firstRun_append_dropWhile (entry : WString × HidDeviceInformation)
    (rest : ContainerEntries) :
    firstRun entry rest ++ rest.dropWhile (OrderedMultimap.sameRun (· ≠ []) entry) =
      entry :: rest := by
  rw [firstRun, List.cons_append, List.takeWhile_append_dropWhile]

/-- **An iteration** collects the first run, and ends at its last entry. -/
theorem collectContainer_eq (before : ContainerEntries) (entry : WString × HidDeviceInformation)
    (rest : ContainerEntries) {fuel : ℕ} (hfuel : rest.length + 1 < fuel) :
    collectContainer strCmpLogical (before ++ entry :: rest) fuel before.length entry.1 entry.2 =
      some (before.length + (firstRun entry rest).length - 1,
        Container.mergeGroup strCmpLogical ⟨[], false, []⟩ ((firstRun entry rest).map (·.2))) := by
  have hsame : ∀ e ∈ rest.takeWhile (OrderedMultimap.sameRun (· ≠ []) entry),
      entry.1 = e.1 ∧ entry.1 ≠ [] := fun e he => by
    simpa [OrderedMultimap.sameRun] using List.mem_takeWhile_imp he
  rw [collectContainer]
  by_cases hfirst : entry.1 = []
  · have hnil : rest.takeWhile (OrderedMultimap.sameRun (· ≠ []) entry) = [] :=
      List.eq_nil_iff_forall_not_mem.mpr fun e he => (hsame e he).2 hfirst
    rw [if_pos hfirst, firstRun, hnil]
    simp [Container.merge, Container.mergeGroup, mergeModelInformation, modelWords,
      splitStringAtWhitespaces_eq]
  · have hrun : ∀ e ∈ firstRun entry rest, e.1 = entry.1 := by
      intro e he
      rcases List.mem_cons.mp he with rfl | he
      · rfl
      · exact (hsame e he).1.symm
    have hrest : ∀ e ∈ (rest.dropWhile (OrderedMultimap.sameRun (· ≠ []) entry)).head?,
        e.1 ≠ entry.1 := by
      intro e he heq
      have hnot := List.head?_dropWhile_not (OrderedMultimap.sameRun (· ≠ []) entry) rest
      rw [Option.mem_def.mp he] at hnot
      simp [OrderedMultimap.sameRun, heq, hfirst] at hnot
    have hlength : (firstRun entry rest).length < fuel := by
      have hle := (List.takeWhile_prefix (OrderedMultimap.sameRun (· ≠ []) entry)
        (l := rest)).length_le
      rw [firstRun, List.length_cons]
      omega
    rw [if_neg hfirst, ← firstRun_append_dropWhile entry rest,
      relatedEntries_eq hrun hrest before _ hlength]
    simp [firstRun, Container.mergeGroup]

/-- The iteration ends at the last entry of the run, so its name is that of the group. -/
theorem entryName_firstRun (before : ContainerEntries) (entry : WString × HidDeviceInformation)
    (rest : ContainerEntries) :
    entryName (before ++ entry :: rest) (before.length + (firstRun entry rest).length - 1)
        (Container.mergeGroup strCmpLogical ⟨[], false, []⟩
          ((firstRun entry rest).map (·.2))).model =
      some (groupName strCmpLogical ((firstRun entry rest).map (·.2))) := by
  have hne : firstRun entry rest ≠ [] := List.cons_ne_nil _ _
  have hpos : 0 < (firstRun entry rest).length := List.length_pos_iff.mpr hne
  have hlast : (before ++ entry :: rest)[before.length + (firstRun entry rest).length - 1]? =
      some ((firstRun entry rest).getLast hne) := by
    rw [← firstRun_append_dropWhile entry rest, List.getElem?_append_right (by omega),
      List.getElem?_append_left (by omega),
      ← List.getLast?_eq_some_getLast hne, List.getLast?_eq_getElem?]
    congr 1
    omega
  refine entryName_eq ?_ (congrArg (Option.map (·.2)) hlast)
  rw [List.getLast?_map, List.getLast?_eq_some_getLast hne]
  rfl

/-- The entries that the iterations add to the result, by the names of their groups. -/
def namedEntries (name : List HidDeviceInformation → WString) (gamingDevicesOnly : Bool)
    (groups : List (List HidDeviceInformation)) : List (WString × List HidDeviceInformation) :=
  (groups.map fun group => (name group, group)).filter fun entry =>
    !gamingDevicesOnly || entry.2.any (·.gamingDevice)

/-- The entries that an iteration adds to the result. -/
def groupEntries (strCmpLogical : WString → WString → Bool) (gamingDevicesOnly : Bool)
    (groups : List (List HidDeviceInformation)) : List (WString × List HidDeviceInformation) :=
  namedEntries (friendlyName strCmpLogical) gamingDevicesOnly groups

theorem namedEntries_cons (name : List HidDeviceInformation → WString) (gamingDevicesOnly : Bool)
    (group : List HidDeviceInformation) (groups : List (List HidDeviceInformation)) :
    namedEntries name gamingDevicesOnly (group :: groups) =
      if !gamingDevicesOnly || group.any (·.gamingDevice) then
        (name group, group) :: namedEntries name gamingDevicesOnly groups
      else namedEntries name gamingDevicesOnly groups := by
  rw [namedEntries, List.map_cons, List.filter_cons]
  rfl

/-- **The outer loop** adds the groups that are left. -/
theorem hidDevicesFrom_eq (gamingDevicesOnly : Bool) {fuel : ℕ} {rest : ContainerEntries}
    (hfuel : rest.length + 2 ≤ fuel) (before : ContainerEntries)
    (result : FriendlyNamesAndHidDeviceInformation) :
    hidDevicesFrom strCmpLogical gamingDevicesOnly (before ++ rest) fuel before.length result =
      some ((namedEntries (groupName strCmpLogical) gamingDevicesOnly
        ((rest.splitBy (OrderedMultimap.sameRun (· ≠ []))).map fun run =>
          run.map (·.2))).foldl .emplace result) := by
  induction fuel generalizing rest before result with
  | zero => omega
  | succ fuel ih =>
    cases rest with
    | nil =>
      have hentry : (before ++ [])[before.length]? = none := by simp
      rw [hidDevicesFrom, hentry]
      rfl
    | cons entry rest =>
      have hentry : (before ++ entry :: rest)[before.length]? = some entry := by
        rw [List.getElem?_append_right (le_refl _), Nat.sub_self]
        rfl
      rw [List.length_cons] at hfuel
      -- the run, and what is left behind it
      set rest' := rest.dropWhile (OrderedMultimap.sameRun (· ≠ []) entry) with hrest
      have hruns : (entry :: rest).splitBy (OrderedMultimap.sameRun (· ≠ [])) =
          firstRun entry rest :: rest'.splitBy (OrderedMultimap.sameRun (· ≠ [])) :=
        OrderedMultimap.splitBy_sameRun_cons _ entry rest
      have hsplit : before ++ entry :: rest = before ++ firstRun entry rest ++ rest' := by
        rw [List.append_assoc, firstRun_append_dropWhile]
      have hlength : rest'.length + 2 ≤ fuel := by
        have hle : rest'.length ≤ rest.length := (List.dropWhile_suffix _).length_le
        omega
      have hit : before.length + (firstRun entry rest).length - 1 + 1 =
          (before ++ firstRun entry rest).length := by
        rw [List.length_append, firstRun, List.length_cons]
        omega
      rw [hidDevicesFrom, hentry]
      dsimp only
      rw [collectContainer_eq before entry rest (by omega)]
      dsimp only
      rw [entryName_firstRun, hit, hsplit]
      dsimp only
      rw [ih hlength, ih hlength, hruns, List.map_cons, namedEntries_cons]
      simp only [Container.mergeGroup, Bool.false_or, List.nil_append]
      split_ifs <;> rfl

/-- With enough fuel, the result has the groups. -/
theorem hidDevices_eq_named (gamingDevicesOnly : Bool) (devices : List HidDeviceInformation)
    {fuel : ℕ} (hfuel : devices.length + 2 ≤ fuel) :
    hidDevices strCmpLogical fuel gamingDevicesOnly devices =
      some (.ofList wstringLt (namedEntries (groupName strCmpLogical) gamingDevicesOnly
        (containerGroups devices))) := by
  have hlength : (containerMap devices).toList.length + 2 ≤ fuel := by
    rwa [containerMap, (OrderedMultimap.perm_ofList _).length_eq, List.length_map]
  exact hidDevicesFrom_eq gamingDevicesOnly hlength [] ∅

/-- **`HidDevices`** returns: with enough fuel it is the multimap of the groups under their
names. -/
theorem hidDevices_eq (hequiv : Equivalence fun a b => strCmpLogical a b = true)
    (gamingDevicesOnly : Bool) (devices : List HidDeviceInformation) {fuel : ℕ}
    (hfuel : devices.length + 2 ≤ fuel) :
    hidDevices strCmpLogical fuel gamingDevicesOnly devices =
      some (.ofList wstringLt
        (groupEntries strCmpLogical gamingDevicesOnly (containerGroups devices))) := by
  have hname : groupName strCmpLogical = friendlyName strCmpLogical := funext (groupName_eq hequiv)
  rw [hidDevices_eq_named gamingDevicesOnly devices hfuel, hname]
  rfl

/-! ### The partition -/

/-- The devices of a base container, in enumeration order. -/
def devicesOf (devices : List HidDeviceInformation) (container : WString) :
    List HidDeviceInformation :=
  devices.filter (·.baseContainerDeviceInstancePath = container)

theorem key_of_mem_containerMap {devices : List HidDeviceInformation}
    {entry : WString × HidDeviceInformation} (h : entry ∈ (containerMap devices).toList) :
    entry.1 = entry.2.baseContainerDeviceInstancePath := by
  obtain ⟨device, -, rfl⟩ := List.mem_map.mp ((OrderedMultimap.perm_ofList _).mem_iff.mp h)
  rfl

/-- The entries of a base container are its devices, in enumeration order. -/
theorem map_filter_containerMap (devices : List HidDeviceInformation) (container : WString) :
    ((containerMap devices).toList.filter (·.1 = container)).map (·.2) =
      devicesOf devices container := by
  rw [containerMap, OrderedMultimap.filter_key_ofList, List.filter_map, List.map_map]
  exact List.map_id _

/-- The groups with a device of the base container are the runs with its key. -/
theorem filter_containerGroups (devices : List HidDeviceInformation) (container : WString) :
    (containerGroups devices).filter (·.any (·.baseContainerDeviceInstancePath = container)) =
      (((containerMap devices).runs (· ≠ [])).filter (·.any (·.1 = container))).map
        fun run => run.map (·.2) := by
  rw [containerGroups, List.filter_map]
  congr 1
  refine List.filter_congr fun run hrun => ?_
  have hkey : ∀ entry ∈ run, entry.2.baseContainerDeviceInstancePath = entry.1 := by
    intro entry hentry
    have hmem := List.mem_flatten_of_mem hrun hentry
    rw [OrderedMultimap.flatten_runs] at hmem
    exact (key_of_mem_containerMap hmem).symm
  rw [Function.comp_apply, List.any_map, Bool.eq_iff_iff, List.any_eq_true, List.any_eq_true]
  refine exists_congr fun entry => and_congr_right fun hentry => ?_
  rw [Function.comp_apply, hkey entry hentry]

/-- The devices of a base container are one group. -/
theorem filter_containerGroups_of_ne_nil (devices : List HidDeviceInformation) {container : WString}
    (hcontainer : container ≠ []) :
    (containerGroups devices).filter (·.any (·.baseContainerDeviceInstancePath = container)) =
      if devicesOf devices container = [] then [] else [devicesOf devices container] := by
  have hnil : (containerMap devices).toList.filter (·.1 = container) = [] ↔
      devicesOf devices container = [] := by
    rw [← map_filter_containerMap, List.map_eq_nil_iff]
  rw [filter_containerGroups,
    OrderedMultimap.filter_runs_of_together _ (by simpa using hcontainer)]
  simp only [hnil]
  split_ifs
  · rfl
  · rw [List.map_singleton, map_filter_containerMap]

/-- **A group with a base container** has all of its devices. -/
theorem eq_devicesOf_of_mem_containerGroups {devices group : List HidDeviceInformation}
    (hgroup : group ∈ containerGroups devices) {device : HidDeviceInformation}
    (hdevice : device ∈ group) (hne : device.baseContainerDeviceInstancePath ≠ []) :
    group = devicesOf devices device.baseContainerDeviceInstancePath := by
  have hmem : group ∈ (containerGroups devices).filter (·.any
      (·.baseContainerDeviceInstancePath = device.baseContainerDeviceInstancePath)) :=
    List.mem_filter.mpr ⟨hgroup, List.any_eq_true.mpr ⟨device, hdevice, decide_eq_true rfl⟩⟩
  rw [filter_containerGroups_of_ne_nil devices hne] at hmem
  split_ifs at hmem
  · cases hmem
  · exact List.mem_singleton.mp hmem

theorem perm_flatten_containerGroups (devices : List HidDeviceInformation) :
    (containerGroups devices).flatten.Perm devices := by
  have hperm : ((containerMap devices).toList.map (·.2)).Perm _ :=
    (OrderedMultimap.perm_ofList _).map (·.2)
  rw [List.map_map] at hperm
  rw [containerGroups, ← List.map_flatten, OrderedMultimap.flatten_runs]
  exact hperm.trans (.of_eq (List.map_id _))

theorem sublist_of_mem_containerGroups {devices group : List HidDeviceInformation}
    (h : group ∈ containerGroups devices) :
    ∃ devices', devices'.Perm devices ∧ group.Sublist devices' :=
  ⟨_, perm_flatten_containerGroups devices, List.sublist_flatten_of_mem h⟩

theorem ne_nil_of_mem_containerGroups {devices group : List HidDeviceInformation}
    (h : group ∈ containerGroups devices) : group ≠ [] := by
  obtain ⟨run, hrun, rfl⟩ := List.mem_map.mp h
  exact List.map_eq_nil_iff.not.mpr (List.ne_nil_of_mem_splitBy hrun)

/-- **`HidDevices`** returns the groups. -/
theorem hidDevices_groups {devices : List HidDeviceInformation} {fuel : ℕ}
    (hfuel : devices.length + 2 ≤ fuel) :
    ∃ all, hidDevices strCmpLogical fuel false devices = some all ∧
      (all.toList.map (·.2)).Perm (containerGroups devices) := by
  refine ⟨_, hidDevices_eq_named false devices hfuel, ?_⟩
  have hall : namedEntries (groupName strCmpLogical) false (containerGroups devices) =
      (containerGroups devices).map fun group => (groupName strCmpLogical group, group) :=
    List.filter_eq_self.mpr fun _ _ => rfl
  have hperm := (@OrderedMultimap.perm_ofList _ _ wstringLt _ _ ((containerGroups devices).map
    fun group => (groupName strCmpLogical group, group))).map (·.2)
  rw [List.map_map] at hperm
  rw [hall]
  exact hperm.trans (.of_eq (List.map_id _))

/-- **The groups are a partition of the devices.** `HidDevices` returns; every device is in its
groups once; a device without a base container is a group of its own; the devices of a base
container are one group, in enumeration order; the groups with a gaming device are those that are
returned when only these are asked for; and each group is under its friendly name. -/
theorem hidDevices_partition (hequiv : Equivalence fun a b => strCmpLogical a b = true)
    (devices : List HidDeviceInformation) :
    ∃ all : FriendlyNamesAndHidDeviceInformation,
      (∀ fuel, devices.length + 2 ≤ fuel →
        hidDevices strCmpLogical fuel false devices = some all ∧
        hidDevices strCmpLogical fuel true devices =
          some (all.filter fun entry => entry.2.any (·.gamingDevice))) ∧
      (all.toList.map (·.2)).flatten.Perm devices ∧
      ((all.toList.map (·.2)).filter (·.any (·.baseContainerDeviceInstancePath = []))).Perm
        ((devicesOf devices []).map ([·])) ∧
      (∀ container ≠ [],
        (all.toList.map (·.2)).filter (·.any (·.baseContainerDeviceInstancePath = container)) =
          if devicesOf devices container = [] then [] else [devicesOf devices container]) ∧
      ∀ entry ∈ all.toList,
        entry.2 ≠ [] ∧ entry.1 = friendlyName strCmpLogical entry.2 := by
  have hentries : groupEntries strCmpLogical false (containerGroups devices) =
      (containerGroups devices).map fun group => (friendlyName strCmpLogical group, group) := by
    rw [groupEntries, namedEntries]
    exact List.filter_eq_self.mpr fun _ _ => rfl
  set all : FriendlyNamesAndHidDeviceInformation :=
    .ofList wstringLt (groupEntries strCmpLogical false (containerGroups devices)) with hall
  have hperm : all.toList.Perm ((containerGroups devices).map fun group =>
      (friendlyName strCmpLogical group, group)) := by
    rw [hall, hentries]
    exact OrderedMultimap.perm_ofList _
  have hgroups : (all.toList.map (·.2)).Perm (containerGroups devices) := by
    have hmap := hperm.map (·.2)
    rw [List.map_map] at hmap
    exact hmap.trans (.of_eq (List.map_id _))
  refine ⟨all, fun fuel hfuel => ⟨hidDevices_eq hequiv false devices hfuel, ?_⟩, ?_, ?_, ?_, ?_⟩
  · -- leaving out groups before they are added is leaving them out afterwards
    rw [hidDevices_eq hequiv true devices hfuel, hall, ← OrderedMultimap.ofList_filter, hentries]
    rfl
  · exact hgroups.flatten.trans (perm_flatten_containerGroups devices)
  · refine (hgroups.filter _).trans (.of_eq ?_)
    rw [filter_containerGroups, OrderedMultimap.filter_runs_of_alone _ (by simp), List.map_map,
      ← map_filter_containerMap, List.map_map]
    rfl
  · intro container hcontainer
    have hfilter := hgroups.filter (·.any (·.baseContainerDeviceInstancePath = container))
    rw [filter_containerGroups_of_ne_nil devices hcontainer] at hfilter
    split_ifs at hfilter ⊢
    · exact List.perm_nil.mp hfilter
    · exact List.perm_singleton.mp hfilter
  · intro entry hentry
    obtain ⟨group, hgroup, rfl⟩ := List.mem_map.mp (hperm.mem_iff.mp hentry)
    exact ⟨ne_nil_of_mem_containerGroups hgroup, rfl⟩

end HidDevices

/-- A device of a base container, with the last part of its own path. -/
def gamingDevice (baseContainer path : WString) : HidDeviceInformation where
  present := true
  gamingDevice := true
  symbolicLink := []
  vendor := [0x56, 0x61, 0x6C, 0x76, 0x65]
  product := [0x50, 0x61, 0x64]
  serialNumber := []
  usage := [0x4A, 0x6F, 0x79]
  description := []
  deviceInstancePath := [0x48, 0x49, 0x44, 0x5C] ++ path
  xusbDeviceInstancePath := []
  baseContainerDeviceInstancePath := baseContainer
  baseContainerClassGuid := ⟨0, 0, 0, .replicate 8 0⟩
  baseContainerDeviceCount := 2

theorem hidDevices_partition_gamingDevices :
    ∃ all, hidDevices (· = ·) 5 false
        [gamingDevice [0x42] [0x31], gamingDevice [] [0x32], gamingDevice [0x42] [0x33]] =
        some all ∧
      (all.toList.map (·.2)).filter (·.any (·.baseContainerDeviceInstancePath = [0x42])) =
        [[gamingDevice [0x42] [0x31], gamingDevice [0x42] [0x33]]] := by
  have hequiv : Equivalence fun a b : WString => decide (a = b) = true := by
    simpa using eq_equivalence
  obtain ⟨all, hreturns, -, -, hgroups, -⟩ := hidDevices_partition hequiv
    [gamingDevice [0x42] [0x31], gamingDevice [] [0x32], gamingDevice [0x42] [0x33]]
  exact ⟨all, (hreturns 5 (by decide)).1, hgroups [0x42] (by decide)⟩

end HidHide
