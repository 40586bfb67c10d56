import HidHide.Client.HidDevices

/-!
# The dialog of devices

The tree of `BlacklistDlg.cpp`: `OnUserMessageRefresh` fills it from the blacklist and the
enumerated groups of devices, and the last part of `OnTvnItemChangedTreeBlacklist` builds the
blacklist from its check marks. How the tree control compares two texts is up to the locale.

The two are not inverse. An XUSB path is put on the list for every checked device, and is taken for
a mark of the whole group when the list is read; `marksSurvive_iff` says when marks survive.
-/

namespace HidHide

/-! ### The tree -/

/-- `ICON_LOCK`, without the icon of the devices. -/
inductive IconLock where
  | off
  | on
  deriving DecidableEq

/-- The item of a device, with its check mark. -/
structure DeviceItem where
  itemData : HidDeviceInformation
  checked : Bool
  deriving DecidableEq

/-- The item of a group, with the items of its devices. -/
structure GroupItem where
  text : WString
  image : IconLock
  checked : Bool
  children : List DeviceItem

/-- The tree control. -/
abbrev DeviceTree := List GroupItem

/-- `m_BlacklistItemData`. -/
abbrev BlacklistItemData := List (WString × List HidDeviceInformation)

/-! ### OnUserMessageRefresh -/

section Refresh

variable (blacklist : DeviceInstancePaths)

/-- The path of the base container of a group, which is that of its first device. -/
def baseContainerOf : List HidDeviceInformation → WString
  | [] => []
  | device :: _ => device.baseContainerDeviceInstancePath

/-- `topLevelEntryBlacklisted`. -/
def topLevelEntryBlacklisted (devices : List HidDeviceInformation) : Bool :=
  baseContainerOf devices ∈ blacklist ∨
    ∃ device ∈ devices, device.xusbDeviceInstancePath ≠ [] ∧
      device.xusbDeviceInstancePath ∈ blacklist

/-- `childEntryBlacklisted`. -/
def childEntryBlacklisted (device : HidDeviceInformation) : Bool :=
  device.deviceInstancePath ∈ blacklist

/-- Whether the filters leave out a group. -/
def skipsEntry (gaming filter : Bool) (devices : List HidDeviceInformation) : Bool :=
  !topLevelEntryBlacklisted blacklist devices && !devices.any (childEntryBlacklisted blacklist) &&
    (gaming && !devices.any (·.gamingDevice) || filter && !devices.any (·.present))

/-- The item that is inserted for a group, with those of its devices. -/
def groupItem (entry : WString × List HidDeviceInformation) : GroupItem where
  text := entry.1
  image :=
    if topLevelEntryBlacklisted blacklist entry.2 ||
        entry.2.any (childEntryBlacklisted blacklist) then .on else .off
  checked := topLevelEntryBlacklisted blacklist entry.2 ||
    entry.2.all (childEntryBlacklisted blacklist)
  children := entry.2.map fun device =>
    ⟨device, topLevelEntryBlacklisted blacklist entry.2 || childEntryBlacklisted blacklist device⟩

/-- The loop that fills the tree. -/
def fillTree (gaming filter : Bool) (itemData : BlacklistItemData) : DeviceTree :=
  (itemData.filter fun entry => !skipsEntry blacklist gaming filter entry.2).map
    (groupItem blacklist)

/-- `OnUserMessageRefresh`: the top-level items are sorted when the tree is filled. -/
def onUserMessageRefresh (textLe : WString → WString → Bool) (gaming filter : Bool)
    (itemData : BlacklistItemData) : DeviceTree :=
  (fillTree blacklist gaming filter itemData).mergeSort fun a b => textLe a.text b.text

end Refresh

/-! ### The new blacklist -/

/-- `GUID_DEVCLASS_HIDCLASS`. -/
def hidClass : Guid :=
  ⟨0x745A17A0, 0x74D3, 0x11D0, #v[0xB6, 0xFE, 0x00, 0xA0, 0xC9, 0x0F, 0x57, 0xDA]⟩

/-- `GUID_DEVCLASS_XUSBCLASS`. -/
def xusbClass : Guid :=
  ⟨0xD61CA365, 0x5AF4, 0x4486, #v[0x99, 0x8B, 0x9D, 0xB4, 0x73, 0x4C, 0x6C, 0xA3]⟩

/-- A path, unless it is empty. -/
def nonemptyPath (path : WString) : List WString := if path ≠ [] then [path] else []

/-- `theBaseContainerDeviceCanBeBlocked`, for the number of devices and the first of them. -/
def baseContainerCanBeBlocked (count : ℕ) (first : HidDeviceInformation) : Bool :=
  (first.baseContainerClassGuid = hidClass ∨ first.baseContainerClassGuid = xusbClass) ∧
    count = first.baseContainerDeviceCount

/-- The paths that are put on the list for a group. A group without devices has a class that is
neither of the two. -/
def GroupItem.topPaths (item : GroupItem) : List WString :=
  match item.children with
  | [] => []
  | child :: _ =>
      if item.checked then
        (if baseContainerCanBeBlocked item.children.length child.itemData then
          [child.itemData.baseContainerDeviceInstancePath] else []) ++
        nonemptyPath child.itemData.xusbDeviceInstancePath
      else []

/-- The paths that are put on the list for a device. -/
def DeviceItem.paths (item : DeviceItem) : List WString :=
  if item.checked then
    item.itemData.deviceInstancePath :: nonemptyPath item.itemData.xusbDeviceInstancePath
  else []

def GroupItem.paths (item : GroupItem) : List WString :=
  item.topPaths ++ item.children.flatMap DeviceItem.paths

/-- **The last part of `OnTvnItemChangedTreeBlacklist`**: the list that the marks stand for. -/
def buildBlacklist (tree : DeviceTree) : DeviceInstancePaths :=
  .ofList wstringLt (tree.flatMap GroupItem.paths)

/-! ### What is on the list -/

theorem mem_buildBlacklist {tree : DeviceTree} {path : WString} :
    path ∈ buildBlacklist tree ↔ ∃ item ∈ tree, path ∈ item.paths := by
  rw [buildBlacklist, OrderedSet.mem_ofList, List.mem_flatMap]

theorem mem_nonemptyPath {path p : WString} : p ∈ nonemptyPath path ↔ path ≠ [] ∧ p = path := by
  rw [nonemptyPath]
  split_ifs with h
  · simp [h]
  · simp [h]

theorem DeviceItem.mem_paths {item : DeviceItem} {path : WString} :
    path ∈ item.paths ↔ item.checked ∧ (path = item.itemData.deviceInstancePath ∨
      item.itemData.xusbDeviceInstancePath ≠ [] ∧
        path = item.itemData.xusbDeviceInstancePath) := by
  rw [DeviceItem.paths]
  split_ifs with h
  · rw [List.mem_cons, mem_nonemptyPath]
    simp [h]
  · simp [h]

theorem GroupItem.mem_topPaths {item : GroupItem} {path : WString} :
    path ∈ item.topPaths ↔ ∃ first ∈ item.children.head?, item.checked ∧
      (baseContainerCanBeBlocked item.children.length first.itemData ∧
          path = first.itemData.baseContainerDeviceInstancePath ∨
        first.itemData.xusbDeviceInstancePath ≠ [] ∧
          path = first.itemData.xusbDeviceInstancePath) := by
  obtain ⟨text, image, checked, children⟩ := item
  rw [topPaths]
  rcases children with _ | ⟨first, children⟩
  · simp
  · cases checked with
    | false => simp
    | true => by_cases h : baseContainerCanBeBlocked (first :: children).length first.itemData <;>
        simp_all [mem_nonemptyPath]

/-! ### Do marks survive? -/

/-- What a refresh keeps of an item: the icon is left out. -/
def GroupItem.marks (item : GroupItem) : WString × Bool × List DeviceItem :=
  (item.text, item.checked, item.children)

/-- The groups that a tree was filled with. -/
def itemDataOf (tree : DeviceTree) : BlacklistItemData :=
  tree.map fun item => (item.text, item.children.map (·.itemData))

/-- A group is checked exactly when all of its devices are. -/
def MarksConsistent (tree : DeviceTree) : Prop :=
  ∀ item ∈ tree, item.checked = item.children.all (·.checked)

/-- The tree that is filled from the list for the marks has the same marks. -/
def MarksSurvive (textLe : WString → WString → Bool) (tree : DeviceTree) : Prop :=
  ((onUserMessageRefresh (buildBlacklist tree) textLe false false (itemDataOf tree)).map
    GroupItem.marks).Perm (tree.map GroupItem.marks)

/-- The path stands for a mark: it is a path of a checked device, or the base container of a group
whose devices are all checked and that can be blocked. -/
def StandsForMark (tree : DeviceTree) (path : WString) : Prop :=
  ∃ item ∈ tree,
    (∃ child ∈ item.children, child.checked ∧ (path = child.itemData.deviceInstancePath ∨
      child.itemData.xusbDeviceInstancePath ≠ [] ∧
        path = child.itemData.xusbDeviceInstancePath)) ∨
    ∃ first ∈ item.children.head?, (∀ child ∈ item.children, child.checked) ∧
      baseContainerCanBeBlocked item.children.length first.itemData ∧
      path = first.itemData.baseContainerDeviceInstancePath

/-- The path is read as a mark of a group or device that is not checked. -/
def ReadAsMark (item : GroupItem) (path : WString) : Prop :=
  path = baseContainerOf (item.children.map (·.itemData)) ∨
    ∃ child ∈ item.children,
      child.itemData.xusbDeviceInstancePath ≠ [] ∧
          path = child.itemData.xusbDeviceInstancePath ∨
        ¬child.checked ∧ path = child.itemData.deviceInstancePath

/-- **When marks survive**: no path that stands for a mark is read as one of a group in which a
device is not checked. -/
def MarksApart (tree : DeviceTree) : Prop :=
  ∀ item ∈ tree, (∃ child ∈ item.children, ¬child.checked) →
    ∀ path, StandsForMark tree path → ¬ReadAsMark item path

/-- The list has the paths that stand for marks. -/
theorem mem_buildBlacklist_iff {tree : DeviceTree} (hmarks : MarksConsistent tree)
    {path : WString} : path ∈ buildBlacklist tree ↔ StandsForMark tree path := by
  rw [mem_buildBlacklist]
  refine exists_congr fun item => and_congr_right fun hitem => ?_
  have hall : item.checked ↔ ∀ child ∈ item.children, child.checked := by
    rw [hmarks item hitem, List.all_eq_true]
  rw [GroupItem.paths, List.mem_append, GroupItem.mem_topPaths, List.mem_flatMap]
  constructor
  · rintro (⟨first, hfirst, hchecked, ⟨hblocked, rfl⟩ | ⟨hne, rfl⟩⟩ | ⟨child, hchild, hpath⟩)
    · exact .inr ⟨first, hfirst, hall.mp hchecked, hblocked, rfl⟩
    · have hmem := List.mem_of_mem_head? hfirst
      exact .inl ⟨first, hmem, hall.mp hchecked first hmem, .inr ⟨hne, rfl⟩⟩
    · exact .inl ⟨child, hchild, DeviceItem.mem_paths.mp hpath⟩
  · rintro (⟨child, hchild, hpath⟩ | ⟨first, hfirst, hchecked, hblocked, rfl⟩)
    · exact .inr ⟨child, hchild, DeviceItem.mem_paths.mpr hpath⟩
    · exact .inl ⟨first, hfirst, hall.mpr hchecked, .inl ⟨hblocked, rfl⟩⟩

/-- An item is filled in again with its marks. -/
def ItemSurvives (tree : DeviceTree) (item : GroupItem) : Prop :=
  (groupItem (buildBlacklist tree) (item.text, item.children.map (·.itemData))).marks = item.marks

/-- Children are inserted again as they were exactly when their marks are read back. -/
theorem map_deviceItem_eq_iff {f : HidDeviceInformation → Bool} {children : List DeviceItem} :
    (children.map (·.itemData)).map (fun device => ⟨device, f device⟩) = children ↔
      ∀ child ∈ children, f child.itemData = child.checked := by
  rw [List.map_map]
  induction children with
  | nil => simp
  | cons child children ih =>
      obtain ⟨device, checked⟩ := child
      simp [ih]

/-- What the list is read as, of a group: no device is, or the paths that are. -/
theorem topLevelEntryBlacklisted_iff {blacklist : DeviceInstancePaths}
    {devices : List HidDeviceInformation} : topLevelEntryBlacklisted blacklist devices ↔
      baseContainerOf devices ∈ blacklist ∨ ∃ device ∈ devices,
        device.xusbDeviceInstancePath ≠ [] ∧ device.xusbDeviceInstancePath ∈ blacklist := by
  rw [topLevelEntryBlacklisted, decide_eq_true_iff]

theorem childEntryBlacklisted_iff {blacklist : DeviceInstancePaths}
    {device : HidDeviceInformation} : childEntryBlacklisted blacklist device ↔
      device.deviceInstancePath ∈ blacklist := by
  rw [childEntryBlacklisted, decide_eq_true_iff]

/-- The paths of the list that are read as a mark of an item with an unchecked device. -/
theorem forall_not_readAsMark_iff {blacklist : DeviceInstancePaths} {item : GroupItem} :
    (∀ path, path ∈ blacklist → ¬ReadAsMark item path) ↔
      topLevelEntryBlacklisted blacklist (item.children.map (·.itemData)) = false ∧
        ∀ child ∈ item.children, ¬child.checked →
          childEntryBlacklisted blacklist child.itemData = false := by
  rw [← Bool.not_eq_true, topLevelEntryBlacklisted_iff]
  constructor
  · intro h
    refine ⟨?_, fun child hchild hunchecked => ?_⟩
    · rintro (hbase | ⟨device, hdevice, hne, hxusb⟩)
      · exact h _ hbase (.inl rfl)
      · obtain ⟨child, hchild, rfl⟩ := List.mem_map.mp hdevice
        exact h _ hxusb (.inr ⟨child, hchild, .inl ⟨hne, rfl⟩⟩)
    · rw [← Bool.not_eq_true, childEntryBlacklisted_iff]
      exact fun hmem => h _ hmem (.inr ⟨child, hchild, .inr ⟨hunchecked, rfl⟩⟩)
  · rintro ⟨htop, hchildren⟩ path hpath (rfl | ⟨child, hchild, ⟨hne, rfl⟩ | ⟨hunchecked, rfl⟩⟩)
    · exact htop (.inl hpath)
    · exact htop (.inr ⟨_, List.mem_map_of_mem hchild, hne, hpath⟩)
    · have := hchildren child hchild hunchecked
      rw [← Bool.not_eq_true, childEntryBlacklisted_iff] at this
      exact this hpath

/-- What is to be the same of an item: its mark, and those of its devices. -/
theorem itemSurvives_iff_marks {tree : DeviceTree} (hmarks : MarksConsistent tree)
    {item : GroupItem} (hitem : item ∈ tree) :
    ItemSurvives tree item ↔
      (topLevelEntryBlacklisted (buildBlacklist tree) (item.children.map (·.itemData)) ||
        (item.children.map (·.itemData)).all (childEntryBlacklisted (buildBlacklist tree))) =
          item.children.all (·.checked) ∧
      ∀ child ∈ item.children,
        (topLevelEntryBlacklisted (buildBlacklist tree) (item.children.map (·.itemData)) ||
          childEntryBlacklisted (buildBlacklist tree) child.itemData) = child.checked := by
  simp only [ItemSurvives, groupItem, GroupItem.marks, Prod.mk.injEq, true_and,
    map_deviceItem_eq_iff, hmarks item hitem]

/-- The instance path of a checked device is on the list. -/
theorem childEntryBlacklisted_of_checked {tree : DeviceTree} (hmarks : MarksConsistent tree)
    {item : GroupItem} (hitem : item ∈ tree) {child : DeviceItem} (hchild : child ∈ item.children)
    (hchecked : child.checked) : childEntryBlacklisted (buildBlacklist tree) child.itemData := by
  rw [childEntryBlacklisted_iff, mem_buildBlacklist_iff hmarks]
  exact ⟨item, hitem, .inl ⟨child, hchild, hchecked, .inl rfl⟩⟩

/-- A group whose devices are all checked is filled in as it was. -/
theorem itemSurvives_of_checked {tree : DeviceTree} (hmarks : MarksConsistent tree)
    {item : GroupItem} (hitem : item ∈ tree) (hchecked : ∀ child ∈ item.children, child.checked) :
    ItemSurvives tree item := by
  have hlisted : ∀ child ∈ item.children,
      childEntryBlacklisted (buildBlacklist tree) child.itemData := fun child hchild =>
    childEntryBlacklisted_of_checked hmarks hitem hchild (hchecked child hchild)
  rw [itemSurvives_iff_marks hmarks hitem]
  refine ⟨?_, fun child hchild => ?_⟩
  · rw [List.all_eq_true.mpr hchecked, Bool.or_eq_true, List.all_map, List.all_eq_true]
    exact .inr hlisted
  · rw [hchecked child hchild, Bool.or_eq_true]
    exact .inr (hlisted child hchild)

/-- A group with an unchecked device is filled in as it was if it is not read as checked, nor are
its unchecked devices. -/
theorem itemSurvives_iff_of_unchecked {tree : DeviceTree} (hmarks : MarksConsistent tree)
    {item : GroupItem} (hitem : item ∈ tree) {unchecked : DeviceItem}
    (hmem : unchecked ∈ item.children) (hunchecked : ¬unchecked.checked) :
    ItemSurvives tree item ↔
      topLevelEntryBlacklisted (buildBlacklist tree) (item.children.map (·.itemData)) = false ∧
        ∀ child ∈ item.children, ¬child.checked →
          childEntryBlacklisted (buildBlacklist tree) child.itemData = false := by
  have hnot : item.children.all (·.checked) = false := by
    rw [← Bool.not_eq_true, List.all_eq_true]
    exact fun h => hunchecked (h unchecked hmem)
  rw [itemSurvives_iff_marks hmarks hitem, hnot]
  constructor
  · rintro ⟨-, hchildren⟩
    have htop := hchildren unchecked hmem
    rw [Bool.eq_false_iff.mpr hunchecked, Bool.or_eq_false_iff] at htop
    refine ⟨htop.1, fun child hchild hchecked => ?_⟩
    have hsame := hchildren child hchild
    rw [htop.1, Bool.false_or] at hsame
    rw [hsame, ← Bool.not_eq_true]
    exact hchecked
  · rintro ⟨htop, hchildren⟩
    rw [htop]
    simp only [Bool.false_or]
    refine ⟨?_, fun child hchild => ?_⟩
    · rw [← Bool.not_eq_true, List.all_eq_true]
      intro h
      have hlisted := h _ (List.mem_map_of_mem hmem)
      rw [hchildren unchecked hmem hunchecked] at hlisted
      cases hlisted
    · cases hchecked : child.checked with
      | true => exact childEntryBlacklisted_of_checked hmarks hitem hchild hchecked
      | false => exact hchildren child hchild (by simp [hchecked])

theorem itemSurvives_iff {tree : DeviceTree} (hmarks : MarksConsistent tree) {item : GroupItem}
    (hitem : item ∈ tree) :
    ItemSurvives tree item ↔ ((∃ child ∈ item.children, ¬child.checked) →
      ∀ path, StandsForMark tree path → ¬ReadAsMark item path) := by
  have hread := @forall_not_readAsMark_iff (buildBlacklist tree) item
  simp only [mem_buildBlacklist_iff hmarks] at hread
  rw [hread]
  by_cases hall : ∃ child ∈ item.children, ¬child.checked
  · obtain ⟨unchecked, hmem, hunchecked⟩ := hall
    rw [itemSurvives_iff_of_unchecked hmarks hitem hmem hunchecked]
    exact ⟨fun h _ => h, fun h => h ⟨unchecked, hmem, hunchecked⟩⟩
  · refine iff_of_true (itemSurvives_of_checked hmarks hitem fun child hchild => ?_)
      fun h => absurd h hall
    exact not_not.mp fun h => hall ⟨child, hchild, h⟩

/-- With both filters off, every group is filled in. -/
theorem marks_onUserMessageRefresh_perm (blacklist : DeviceInstancePaths)
    (textLe : WString → WString → Bool) (tree : DeviceTree) :
    ((onUserMessageRefresh blacklist textLe false false (itemDataOf tree)).map
        GroupItem.marks).Perm
      (tree.map fun item =>
        (groupItem blacklist (item.text, item.children.map (·.itemData))).marks) := by
  have hskips : ∀ devices, skipsEntry blacklist false false devices = false := fun devices => by
    simp [skipsEntry]
  have hfill : fillTree blacklist false false (itemDataOf tree) =
      tree.map fun item => groupItem blacklist (item.text, item.children.map (·.itemData)) := by
    simp [fillTree, hskips, itemDataOf]
  have hsorted := (List.mergeSort_perm (fillTree blacklist false false (itemDataOf tree))
    fun a b => textLe a.text b.text).map GroupItem.marks
  rw [hfill, List.map_map] at hsorted
  rw [onUserMessageRefresh, hfill]
  exact hsorted

/-- Items with a device in common are the same. -/
theorem item_eq_of_mem {tree : DeviceTree}
    (hdistinct : (tree.flatMap fun item =>
      item.children.map (·.itemData.deviceInstancePath)).Nodup)
    {a b : GroupItem} (ha : a ∈ tree) (hb : b ∈ tree) {path : WString}
    (hpa : path ∈ a.children.map (·.itemData.deviceInstancePath))
    (hpb : path ∈ b.children.map (·.itemData.deviceInstancePath)) : a = b := by
  by_contra hne
  let R := Function.onFun List.Disjoint fun item : GroupItem =>
    item.children.map (·.itemData.deviceInstancePath)
  have : Std.Symm R := ⟨fun _ _ h => List.Disjoint.symm h⟩
  have hpairwise : tree.Pairwise R := (List.nodup_flatMap.mp hdistinct).2
  exact hpairwise.forall ha hb hne hpa hpb

/-- **Check marks survive a refresh** exactly when they are apart. -/
theorem marksSurvive_iff (textLe : WString → WString → Bool) {tree : DeviceTree}
    (hdistinct : (tree.flatMap fun item =>
      item.children.map (·.itemData.deviceInstancePath)).Nodup)
    (hmarks : MarksConsistent tree) : MarksSurvive textLe tree ↔ MarksApart tree := by
  have hperm := marks_onUserMessageRefresh_perm (buildBlacklist tree) textLe tree
  constructor
  · intro hsurvive item hitem hunchecked
    refine (itemSurvives_iff hmarks hitem).mp ?_ hunchecked
    -- the marks of the item that is filled in are those of an item with the same devices
    have hmem := (hperm.symm.trans hsurvive).mem_iff.mp (List.mem_map_of_mem hitem)
    obtain ⟨other, hother, heq⟩ := List.mem_map.mp hmem
    have hdevices : other.children.map (·.itemData) = item.children.map (·.itemData) := by
      have hchildren := congrArg (fun marks => marks.2.2.map (·.itemData)) heq
      simpa [GroupItem.marks, groupItem, Function.comp_def] using hchildren
    have hpaths : other.children.map (·.itemData.deviceInstancePath) =
        item.children.map (·.itemData.deviceInstancePath) := by
      have hmap := congrArg (List.map (·.deviceInstancePath)) hdevices
      rwa [List.map_map, List.map_map] at hmap
    obtain ⟨child, hchild, -⟩ := hunchecked
    have hpath := List.mem_map_of_mem (f := (·.itemData.deviceInstancePath)) hchild
    obtain rfl := item_eq_of_mem hdistinct hother hitem (hpaths ▸ hpath) hpath
    exact heq.symm
  · intro hapart
    refine hperm.trans (List.Perm.of_eq (List.map_congr_left fun item hitem => ?_))
    exact (itemSurvives_iff hmarks hitem).mpr (hapart item hitem)

/-! ### Two devices of one group -/

/-- A group of two devices, of which the first is checked. -/
def partlyChecked (first second : HidDeviceInformation) : DeviceTree :=
  [⟨[], .off, false, [⟨first, true⟩, ⟨second, false⟩]⟩]

theorem marksConsistent_partlyChecked (first second : HidDeviceInformation) :
    MarksConsistent (partlyChecked first second) := by
  intro item hitem
  obtain rfl := List.mem_singleton.mp hitem
  rfl

theorem marksSurvive_partlyChecked :
    MarksSurvive (fun a b => decide (a ≤ b))
      (partlyChecked (gamingDevice [0x42] [0x31]) (gamingDevice [0x42] [0x32])) := by
  refine (marksSurvive_iff _ (by decide) (marksConsistent_partlyChecked _ _)).mpr ?_
  rintro item hitem - path hstands hread
  obtain rfl := List.mem_singleton.mp hitem
  -- the only path that stands for a mark is that of the first device
  obtain rfl : path = [0x48, 0x49, 0x44, 0x5C, 0x31] := by
    simpa [StandsForMark, partlyChecked, gamingDevice] using hstands
  simp [ReadAsMark, gamingDevice, baseContainerOf] at hread

/-- A device of a pad that XInput opens by one path. -/
def xusbDevice (path : WString) : HidDeviceInformation :=
  { gamingDevice [0x42] path with xusbDeviceInstancePath := [0x58] }

/-- The device that is not checked is checked after a refresh, and so is the group. -/
theorem xusbDevice_not_marksSurvive :
    MarksConsistent (partlyChecked (xusbDevice [0x31]) (xusbDevice [0x32])) ∧
      (onUserMessageRefresh
          (buildBlacklist (partlyChecked (xusbDevice [0x31]) (xusbDevice [0x32])))
          (fun a b => decide (a ≤ b)) false false
          (itemDataOf (partlyChecked (xusbDevice [0x31]) (xusbDevice [0x32])))).map
        GroupItem.marks = [([], true, [⟨xusbDevice [0x31], true⟩, ⟨xusbDevice [0x32], true⟩])] ∧
      ¬MarksSurvive (fun a b => decide (a ≤ b))
        (partlyChecked (xusbDevice [0x31]) (xusbDevice [0x32])) := by
  have hperm := marks_onUserMessageRefresh_perm
    (buildBlacklist (partlyChecked (xusbDevice [0x31]) (xusbDevice [0x32])))
    (fun a b => decide (a ≤ b)) (partlyChecked (xusbDevice [0x31]) (xusbDevice [0x32]))
  have hrefreshed := List.perm_singleton.mp hperm
  refine ⟨marksConsistent_partlyChecked _ _, hrefreshed.trans (by decide), fun hsurvive => ?_⟩
  have heq := List.perm_singleton.mp hsurvive
  rw [hrefreshed] at heq
  exact absurd heq (by decide)

end HidHide
