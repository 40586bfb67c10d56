import HidHide.Client.BlacklistChange
import HidHide.Client.DevNodes

/-!
# Base containers on the blacklist

When a group of devices is checked, `OnTvnItemChangedTreeBlacklist` puts its base container on the
list as well, if all child devices of the container are human interface devices. It looks for this
by counting: the group has as many devices as the container has child nodes. The two are different
kinds of things. The devices of the group are those whose container id leads up to the container,
however far, and the container itself may be among them.

`blocksPureContainers_iff` says when the count is a proof: when each device of the group is itself a
child node of the container.
-/

namespace HidHide

/-! ### The groups that are shown -/

/-- The items of the tree are groups of these devices. -/
def ShowsGroups (all : FriendlyNamesAndHidDeviceInformation) (tree : DeviceTree) : Prop :=
  ∀ item ∈ tree, item.devices ∈ all.toList.map (·.2)

/-- A refresh shows the groups. -/
theorem showsGroups_onUserMessageRefresh (all : FriendlyNamesAndHidDeviceInformation)
    (blacklist : DeviceInstancePaths) (textLe : WString → WString → Bool) (gaming filter : Bool) :
    ShowsGroups all (onUserMessageRefresh blacklist textLe gaming filter all.toList) := by
  intro item hitem
  rw [onUserMessageRefresh, List.mem_mergeSort, fillTree, List.mem_map] at hitem
  obtain ⟨entry, hentry, rfl⟩ := hitem
  rw [devices_groupItem]
  exact List.mem_map_of_mem (List.mem_of_mem_filter hentry)

/-- Marks aside, the items stay the same. -/
theorem OnlyMarks.showsGroups {all : FriendlyNamesAndHidDeviceInformation} {i : ℕ}
    {tree tree' : DeviceTree} (h : OnlyMarks i tree tree') (hshows : ShowsGroups all tree) :
    ShowsGroups all tree' := by
  intro item hitem
  obtain ⟨k, hk⟩ := List.mem_iff_getElem?.mp hitem
  rcases eq_or_ne k i with rfl | hki
  · have hdevices := h.devices
    rw [hk, Option.map_some, eq_comm, Option.map_eq_some_iff] at hdevices
    obtain ⟨before, hbefore, heq⟩ := hdevices
    rw [← heq]
    exact hshows before (List.mem_of_getElem? hbefore)
  · rw [h.others k hki] at hk
    exact hshows item (List.mem_of_getElem? hk)

section Clicks

variable (notifies : Bool) (otherState : TreeItem → UInt32) (fuel : ℕ)

/-- **The handler** leaves the items as they are, marks and icons aside. -/
theorem showsGroups_onTvnItemChangedTreeBlacklist {all : FriendlyNamesAndHidDeviceInformation}
    {dlg dlg' : BlacklistDlg} (hshows : ShowsGroups all dlg.blacklist) {hItem : TreeItem}
    {uStateOld uStateNew : UInt32} (h : onTvnItemChangedTreeBlacklist notifies otherState fuel dlg
      hItem uStateOld uStateNew = some dlg') : ShowsGroups all dlg'.blacklist :=
  (changesOneGroup notifies otherState fuel _ _ _ _ _ h).showsGroups hshows

/-- Check boxes are clicked one after the other. -/
def clicks (dlg : BlacklistDlg) (clicked : List (Bool × TreeItem)) : Option BlacklistDlg :=
  clicked.foldlM (fun dlg c => click notifies otherState fuel dlg c.1 c.2) dlg

/-- **The groups stay those of the refresh**, whatever is clicked. -/
theorem showsGroups_clicks {all : FriendlyNamesAndHidDeviceInformation} {dlg dlg' : BlacklistDlg}
    (hshows : ShowsGroups all dlg.blacklist) {clicked : List (Bool × TreeItem)}
    (h : clicks notifies otherState fuel dlg clicked = some dlg') :
    ShowsGroups all dlg'.blacklist := by
  let Keeps (a b : BlacklistDlg) : Prop := ShowsGroups all a.blacklist → ShowsGroups all b.blacklist
  refine @foldlM_rel _ _ Keeps (fun _ => id) (fun hab hbc => hbc ∘ hab) _ (fun a c b hstep => ?_)
    _ _ _ h hshows
  exact (changeMark_onlyMarks otherState (changesOneGroup notifies otherState fuel)
    hstep).showsGroups

end Clicks

/-! ### When a base container is blocked -/

/-- The base container of the group is put on the list. -/
def GroupItem.BlocksBaseContainer (item : GroupItem) (container : WString) : Prop :=
  ∃ first ∈ item.children.head?, item.checked ∧
    baseContainerCanBeBlocked item.children.length first.itemData ∧
    container = first.itemData.baseContainerDeviceInstancePath

theorem mem_buildBlacklist_of_blocks {tree : DeviceTree} {item : GroupItem} (hitem : item ∈ tree)
    {container : WString} (h : item.BlocksBaseContainer container) :
    container ∈ buildBlacklist tree := by
  obtain ⟨first, hfirst, hchecked, hblocked, rfl⟩ := h
  refine mem_buildBlacklist.mpr ⟨item, hitem, List.mem_append_left _ ?_⟩
  exact GroupItem.mem_topPaths.mpr ⟨first, hfirst, hchecked, .inl ⟨hblocked, rfl⟩⟩

/-- **Only pure containers are blocked**: each child node of a base container that is put on the
list is one of the devices of the group. -/
def BlocksPureContainers (devNodes : DevNodes) (tree : DeviceTree) : Prop :=
  ∀ item ∈ tree, ∀ container, item.BlocksBaseContainer container →
    ∀ node ∈ devNodes.childNodes container,
      ∃ device ∈ item.devices, device.deviceInstancePath = node.instanceId

/-- The base container is of a class that the filter driver is installed for, and has as many child
nodes as there are devices. -/
structure Blockable (devNodes : DevNodes) (container : WString)
    (devices : List HidDeviceInformation) : Prop where
  baseContainer : ∀ device ∈ devices,
    devNodes.IsBaseContainer device.deviceInstancePath container
  classGuid : devNodes.deviceClassGuid container = some hidClass ∨
    devNodes.deviceClassGuid container = some xusbClass
  count : devices.length = (devNodes.childNodes container).length

/-- The devices of every checked group that is as large as its base container are themselves child
nodes of the container. -/
def DevicesAreChildNodes (devNodes : DevNodes) (tree : DeviceTree) : Prop :=
  ∀ item ∈ tree, item.checked → ∀ container, Blockable devNodes container item.devices →
    ∀ device ∈ item.devices,
      devNodes.deviceInstancePathParent device.deviceInstancePath = some container

section Group

variable {devNodes : DevNodes} {api : HidApi} {devices group : List HidDeviceInformation}

theorem describes_of_mem_group (henumerate : devNodes.enumerateDevices api = some devices)
    (hgroup : group ∈ containerGroups devices) {device : HidDeviceInformation}
    (hdevice : device ∈ group) : devNodes.Describes device := by
  obtain ⟨devices', hperm, hsub⟩ := sublist_of_mem_containerGroups hgroup
  exact (DevNodes.enumerateDevices_eq_some henumerate).1 device
    (hperm.subset (hsub.subset hdevice))

theorem nodup_group (henumerate : devNodes.enumerateDevices api = some devices)
    (hgroup : group ∈ containerGroups devices) : (group.map (·.deviceInstancePath)).Nodup := by
  obtain ⟨devices', hperm, hsub⟩ := sublist_of_mem_containerGroups hgroup
  have hnodup := (DevNodes.enumerateDevices_eq_some henumerate).2.1
  exact ((hperm.map (·.deviceInstancePath)).nodup_iff.mpr hnodup).sublist (hsub.map _)

/-- A device without a base container is no reason to block one. -/
theorem ne_nil_of_classGuid {device : HidDeviceInformation} (h : devNodes.Describes device)
    (hclass : device.baseContainerClassGuid = hidClass ∨
      device.baseContainerClassGuid = xusbClass) : device.baseContainerDeviceInstancePath ≠ [] := by
  intro hnil
  have hnull : devNodes.deviceClassGuid device.baseContainerDeviceInstancePath =
      some guidNull := by
    rw [hnil]
    rfl
  have heq : device.baseContainerClassGuid = guidNull :=
    Option.some.inj (h.classGuid.symm.trans hnull)
  rw [heq] at hclass
  exact absurd hclass (by decide)

/-- What the client knows of the base container of a device, for a container that is one. -/
theorem baseContainer_iff {device : HidDeviceInformation} (h : devNodes.Describes device)
    {container : WString} :
    devNodes.IsBaseContainer device.deviceInstancePath container ↔
      container ≠ [] ∧ device.baseContainerDeviceInstancePath = container := by
  constructor
  · intro hcontainer
    obtain ⟨devInst, hlocate⟩ := hcontainer.locate
    have hne := DevNodes.ne_nil_of_locateDevNode hlocate
    have hpath := (DevNodes.baseContainerDeviceInstancePath_eq_iff hne).mpr hcontainer
    exact ⟨hne, Option.some.inj (h.baseContainer.symm.trans hpath)⟩
  · rintro ⟨hne, rfl⟩
    exact (DevNodes.baseContainerDeviceInstancePath_eq_iff hne).mp h.baseContainer

/-- The number of child nodes that the client knows of. -/
theorem baseContainerDeviceCount_of_describes {device : HidDeviceInformation}
    (h : devNodes.Describes device)
    (hcontainer : devNodes.IsBaseContainer device.deviceInstancePath
      device.baseContainerDeviceInstancePath) :
    device.baseContainerDeviceCount =
      (devNodes.childNodes device.baseContainerDeviceInstancePath).length := by
  obtain ⟨devInst, hlocate⟩ := hcontainer.locate
  exact Option.some.inj (h.count.symm.trans (DevNodes.baseContainerDeviceCount_eq hlocate))

/-- **What the handler finds out** of a group by its first device. -/
theorem blocksBaseContainer_iff (henumerate : devNodes.enumerateDevices api = some devices)
    {item : GroupItem} (hgroup : item.devices ∈ containerGroups devices) {container : WString} :
    item.BlocksBaseContainer container ↔
      item.checked ∧ Blockable devNodes container item.devices := by
  have hdescribes : ∀ device ∈ item.devices, devNodes.Describes device := fun device hdevice =>
    describes_of_mem_group henumerate hgroup hdevice
  have hlength : item.devices.length = item.children.length := List.length_map _
  constructor
  · rintro ⟨first, hfirst, hchecked, hblocked, rfl⟩
    have hmem : first.itemData ∈ item.devices :=
      List.mem_map_of_mem (List.mem_of_mem_head? hfirst)
    have hfirst := hdescribes first.itemData hmem
    obtain ⟨hclass, hcount⟩ := of_decide_eq_true hblocked
    have hne := ne_nil_of_classGuid hfirst hclass
    have hcontainer := (baseContainer_iff hfirst).mpr ⟨hne, rfl⟩
    refine ⟨hchecked, fun device hdevice => ?_, ?_, ?_⟩
    · refine (baseContainer_iff (hdescribes device hdevice)).mpr ⟨hne, ?_⟩
      rw [eq_devicesOf_of_mem_containerGroups hgroup hmem hne] at hdevice
      exact of_decide_eq_true (List.mem_filter.mp hdevice).2
    · rw [hfirst.classGuid, Option.some.injEq, Option.some.injEq]
      exact hclass
    · rw [hlength, hcount, baseContainerDeviceCount_of_describes hfirst hcontainer]
  · rintro ⟨hchecked, hblockable⟩
    obtain ⟨first, hfirst⟩ : ∃ first, item.children.head? = some first := by
      rw [← Option.isSome_iff_exists, List.isSome_head?]
      exact fun hnil => ne_nil_of_mem_containerGroups hgroup (List.map_eq_nil_iff.mpr hnil)
    have hmem : first.itemData ∈ item.devices :=
      List.mem_map_of_mem (List.mem_of_head? hfirst)
    have hdescribed := hdescribes first.itemData hmem
    have hcontainer := hblockable.baseContainer _ hmem
    obtain ⟨hne, rfl⟩ := (baseContainer_iff hdescribed).mp hcontainer
    refine ⟨first, hfirst, hchecked, decide_eq_true ⟨?_, ?_⟩, rfl⟩
    · have hclass := hblockable.classGuid
      rwa [hdescribed.classGuid, Option.some.injEq, Option.some.injEq] at hclass
    · rw [← hlength, hblockable.count, baseContainerDeviceCount_of_describes hdescribed hcontainer]

/-- Two lists of as many different elements: if one has those of the other, so has the other. -/
theorem subset_iff_of_length_eq {α : Type} {l l' : List α} (h : l.Nodup) (h' : l'.Nodup)
    (hlength : l.length = l'.length) : l ⊆ l' ↔ l' ⊆ l :=
  ⟨fun hsub => ((List.subperm_of_subset h hsub).perm_of_length_le hlength.ge).symm.subset,
    fun hsub => ((List.subperm_of_subset h' hsub).perm_of_length_le hlength.le).symm.subset⟩

/-- **Where the count is a proof**: the child nodes are devices of the group exactly when the
devices are child nodes. -/
theorem childNodes_iff (henumerate : devNodes.enumerateDevices api = some devices)
    (hgroup : group ∈ containerGroups devices) {container : WString}
    (hcount : group.length = (devNodes.childNodes container).length) :
    (∀ node ∈ devNodes.childNodes container,
        ∃ device ∈ group, device.deviceInstancePath = node.instanceId) ↔
      ∀ device ∈ group,
        devNodes.deviceInstancePathParent device.deviceInstancePath = some container := by
  have hsubset := subset_iff_of_length_eq (DevNodes.nodup_childNodes container)
    (nodup_group henumerate hgroup) (by rw [List.length_map, List.length_map, hcount])
  have hchildren : (devNodes.childNodes container).map (·.instanceId) ⊆
      group.map (·.deviceInstancePath) ↔ ∀ node ∈ devNodes.childNodes container,
        ∃ device ∈ group, device.deviceInstancePath = node.instanceId := by
    simp only [List.subset_def, List.mem_map, forall_exists_index, and_imp,
      forall_apply_eq_imp_iff₂]
  have hdevices : group.map (·.deviceInstancePath) ⊆
      (devNodes.childNodes container).map (·.instanceId) ↔ ∀ device ∈ group,
        devNodes.deviceInstancePathParent device.deviceInstancePath = some container := by
    constructor
    · exact fun h device hdevice => DevNodes.mem_childNodes.mp (h (List.mem_map_of_mem hdevice))
    · intro h path hpath
      obtain ⟨device, hdevice, rfl⟩ := List.mem_map.mp hpath
      exact DevNodes.mem_childNodes.mpr (h device hdevice)
  rw [← hchildren, hsubset, hdevices]

end Group

/-- `HidDevices` returns the groups of the devices that are enumerated. -/
theorem hidDevices_eq_some {devNodes : DevNodes} {api : HidApi}
    {strCmpLogical : WString → WString → Bool} {all : FriendlyNamesAndHidDeviceInformation}
    (h : devNodes.hidDevices api strCmpLogical false = some all) :
    ∃ devices, devNodes.enumerateDevices api = some devices ∧
      (all.toList.map (·.2)).Perm (containerGroups devices) := by
  obtain ⟨devices, hdevices, h⟩ := Option.bind_eq_some_iff.mp h
  obtain ⟨all', hall', hperm⟩ := @hidDevices_groups strCmpLogical devices _ le_rfl
  obtain rfl := Option.some.inj (h.symm.trans hall')
  exact ⟨devices, hdevices, hperm⟩

/-- **Only pure containers are blocked** exactly when, in every checked group that is as large as
its base container, each device is itself a child node of the container. -/
theorem blocksPureContainers_iff {devNodes : DevNodes} {api : HidApi}
    {strCmpLogical : WString → WString → Bool} {all : FriendlyNamesAndHidDeviceInformation}
    (hall : devNodes.hidDevices api strCmpLogical false = some all) {notifies : Bool}
    {otherState : TreeItem → UInt32} {fuel : ℕ} {dlg dlg' : BlacklistDlg}
    (hshows : ShowsGroups all dlg.blacklist) {hItem : TreeItem} {uStateOld uStateNew : UInt32}
    (hcall : onTvnItemChangedTreeBlacklist notifies otherState fuel dlg hItem uStateOld uStateNew =
      some dlg') :
    BlocksPureContainers devNodes dlg'.blacklist ↔
      DevicesAreChildNodes devNodes dlg'.blacklist := by
  obtain ⟨devices, henumerate, hperm⟩ := hidDevices_eq_some hall
  have hgroup : ∀ item ∈ dlg'.blacklist, item.devices ∈ containerGroups devices :=
    fun item hitem => hperm.subset
      (showsGroups_onTvnItemChangedTreeBlacklist notifies otherState fuel hshows hcall item hitem)
  constructor
  · intro hpure item hitem hchecked container hblockable
    refine (childNodes_iff henumerate (hgroup item hitem) hblockable.count).mp ?_
    exact hpure item hitem container
      ((blocksBaseContainer_iff henumerate (hgroup item hitem)).mpr ⟨hchecked, hblockable⟩)
  · intro hchildren item hitem container hblocks
    obtain ⟨hchecked, hblockable⟩ :=
      (blocksBaseContainer_iff henumerate (hgroup item hitem)).mp hblocks
    exact (childNodes_iff henumerate (hgroup item hitem) hblockable.count).mpr
      (hchildren item hitem hchecked container hblockable)

/-! ### Pads with two devices -/

/-- A node of the container of a pad. -/
def padNode (id : WChar) (parent : ℕ) (symbolicLink : WString) : DevNode where
  instanceId := [id]
  parent := some parent
  containerId := some ⟨1, 0, 0, .replicate 8 0⟩
  classGuid := some hidClass
  symbolicLink := symbolicLink
  xusbInterface := false

def rootNode : DevNode := ⟨[0x52], none, none, none, [], false⟩

/-- The two devices are the child nodes of the base container. -/
def purePad : DevNodes where
  nodes := [rootNode, padNode 0x50 0 [], padNode 0x41 1 [0x61], padNode 0x42 1 [0x62]]
  parent_lt := by decide
  nodup := by decide
  plain := by decide

/-- The second device is a child node of the first. Beside the first is a node of another class. -/
def mixedPad : DevNodes where
  nodes := [rootNode, padNode 0x50 0 [], padNode 0x41 1 [0x61],
    { padNode 0x43 1 [] with classGuid := none }, padNode 0x42 2 [0x62]]
  parent_lt := by decide
  nodup := by decide
  plain := by decide

/-- The devices can not be opened. -/
def quietApi : HidApi where
  devicePresent _ := some true
  deviceDescription _ := some []
  createFile _ := .error errorPathNotFound
  stringTable _ := none
  loadString _ := none

/-- What is known of a device of either pad. -/
def padDevice (id : WChar) : HidDeviceInformation where
  present := true
  gamingDevice := false
  symbolicLink := [id + 0x20]
  vendor := []
  product := []
  serialNumber := []
  usage := []
  description := []
  deviceInstancePath := [id]
  xusbDeviceInstancePath := []
  baseContainerDeviceInstancePath := [0x50]
  baseContainerClassGuid := hidClass
  baseContainerDeviceCount := 2

/-- The tree of a dialog that shows a pad, with nothing on the list. -/
def shownPad (text : WString) : DeviceTree :=
  [groupItem ∅ (text, [padDevice 0x41, padDevice 0x42])]

/-- The dialog after the group has been checked. -/
def checkedPad (text : WString) : BlacklistDlg :=
  let tree : DeviceTree := [⟨text, .on, true, [⟨padDevice 0x41, true⟩, ⟨padDevice 0x42, true⟩]⟩]
  ⟨tree, [buildBlacklist tree]⟩

/-- The dialog shows a pad of which the two devices are enumerated. -/
theorem refresh_pad {devNodes : DevNodes} (henumerate : devNodes.enumerateDevices quietApi =
      some [padDevice 0x41, padDevice 0x42]) :
    ∃ all text, devNodes.hidDevices quietApi (fun a b => decide (a = b)) false = some all ∧
      onUserMessageRefresh ∅ (fun a b => decide (a ≤ b)) false false all.toList =
        shownPad text := by
  obtain ⟨all, hall, hperm⟩ := @hidDevices_groups (fun a b => decide (a = b))
    [padDevice 0x41, padDevice 0x42] _ le_rfl
  have hgroups : containerGroups [padDevice 0x41, padDevice 0x42] =
      [[padDevice 0x41, padDevice 0x42]] := by decide
  rw [hgroups, List.perm_singleton] at hperm
  obtain ⟨⟨text, devices⟩, hentry, rfl⟩ := List.map_eq_singleton_iff.mp hperm
  refine ⟨all, text, ?_, ?_⟩
  · rw [DevNodes.hidDevices, henumerate]
    exact hall
  · rw [hentry, onUserMessageRefresh, fillTree]
    exact List.mergeSort_singleton _

/-- The handler is called when the group is checked. -/
theorem handler_pad (text : WString) :
    onTvnItemChangedTreeBlacklist false (fun _ => 0) 3 ⟨setMark (shownPad text) true (.group 0), []⟩
      (.group 0) (itemState 0 false) (itemState 0 true) = some (checkedPad text) := by
  have hrelates : relatesToChange (itemState 0 false) (itemState 0 true) = true := by decide
  have happlied : applyToChildren (changeMark (fun _ => 0) false
        (onTvnItemChangedTreeBlacklist false (fun _ => 0) 2))
      ⟨setMark (shownPad text) true (.group 0), []⟩ true 0 =
        some ⟨(checkedPad text).blacklist, []⟩ := rfl
  rw [onTvnItemChangedTreeBlacklist, if_pos hrelates, isChecked_itemState]
  dsimp only
  rw [happlied]
  rfl

theorem click_pad (text : WString) :
    click false (fun _ => 0) 3 ⟨shownPad text, []⟩ true (.group 0) = some (checkedPad text) := by
  have hmark : markOf (shownPad text) (.group 0) = some false := rfl
  rw [click, changeMark, hmark]
  exact handler_pad text

/-- The base container is put on the list. -/
theorem blocks_checkedPad (text : WString) : ∃ item ∈ (checkedPad text).blacklist,
    item.devices = [padDevice 0x41, padDevice 0x42] ∧ item.BlocksBaseContainer [0x50] := by
  have hblocked : baseContainerCanBeBlocked 2 (padDevice 0x41) = true := by decide
  exact ⟨_, List.mem_cons_self, rfl, _, rfl, rfl, hblocked, rfl⟩

theorem enumerateDevices_purePad :
    purePad.enumerateDevices quietApi = some [padDevice 0x41, padDevice 0x42] := by decide

theorem enumerateDevices_mixedPad :
    mixedPad.enumerateDevices quietApi = some [padDevice 0x41, padDevice 0x42] := by decide

/-- The base container of the first pad is put on the list with its devices. -/
theorem blocksPureContainers_purePad :
    ∃ all text, purePad.hidDevices quietApi (fun a b => decide (a = b)) false = some all ∧
      onUserMessageRefresh ∅ (fun a b => decide (a ≤ b)) false false all.toList = shownPad text ∧
      click false (fun _ => 0) 3 ⟨shownPad text, []⟩ true (.group 0) = some (checkedPad text) ∧
      [0x50] ∈ buildBlacklist (checkedPad text).blacklist ∧
      BlocksPureContainers purePad (checkedPad text).blacklist := by
  obtain ⟨all, text, hall, hrefresh⟩ := refresh_pad enumerateDevices_purePad
  have hshows : ShowsGroups all (setMark (shownPad text) true (.group 0)) :=
    (OnlyMarks.setMark true (.group 0)).showsGroups (hrefresh ▸
      showsGroups_onUserMessageRefresh all ∅ (fun a b => decide (a ≤ b)) false false)
  let changed : BlacklistDlg := ⟨setMark (shownPad text) true (.group 0), []⟩
  refine ⟨all, text, hall, hrefresh, click_pad text, ?_, ?_⟩
  · obtain ⟨item, hitem, -, hblocks⟩ := blocks_checkedPad text
    exact mem_buildBlacklist_of_blocks hitem hblocks
  refine (@blocksPureContainers_iff _ _ _ _ hall _ _ _ changed _ hshows _ _ _
    (handler_pad text)).mpr ?_
  rintro item hitem - container hblockable device hdevice
  obtain rfl := List.mem_singleton.mp hitem
  have hdescribes := (DevNodes.enumerateDevices_eq_some enumerateDevices_purePad).1
  obtain ⟨-, rfl⟩ := (baseContainer_iff (hdescribes device hdevice)).mp
    (hblockable.baseContainer device hdevice)
  have hparents : ∀ device ∈ [padDevice 0x41, padDevice 0x42],
      purePad.deviceInstancePathParent device.deviceInstancePath =
        some device.baseContainerDeviceInstancePath := by decide
  exact hparents device hdevice

/-- **A base container is blocked although one of its child nodes is no device of the group.** -/
theorem mixedPad_blocked :
    ∃ all text, mixedPad.hidDevices quietApi (fun a b => decide (a = b)) false = some all ∧
      onUserMessageRefresh ∅ (fun a b => decide (a ≤ b)) false false all.toList = shownPad text ∧
      click false (fun _ => 0) 3 ⟨shownPad text, []⟩ true (.group 0) = some (checkedPad text) ∧
      ¬BlocksPureContainers mixedPad (checkedPad text).blacklist := by
  obtain ⟨all, text, hall, hrefresh⟩ := refresh_pad enumerateDevices_mixedPad
  refine ⟨all, text, hall, hrefresh, click_pad text, fun hpure => ?_⟩
  obtain ⟨item, hitem, hdevices, hblocks⟩ := blocks_checkedPad text
  have hchildren := hpure item hitem [0x50] hblocks
  rw [hdevices] at hchildren
  have hnot : ¬∀ node ∈ mixedPad.childNodes [0x50],
      ∃ device ∈ [padDevice 0x41, padDevice 0x42],
        device.deviceInstancePath = node.instanceId := by decide
  exact hnot hchildren

end HidHide
