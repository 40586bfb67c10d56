import HidHide.ForMathlib.Numerals
import HidHide.ForMathlib.ParentList
import HidHide.Client.BlacklistDlg

/-!
# The device tree

The part of `HID.cpp` that enumerates the human interface devices and describes each of them. The
configuration manager is asked for a node by its instance path, and for the parent, the first child
and the next sibling of a node; the rest is a property of the node. What the device itself answers
is a parameter (`HidApi`), and `none` is an exception.

The base container of a device is where the walk up the tree leaves its container id
(`baseContainerDeviceInstancePath_eq_iff`), and `BaseContainerDeviceCount` is the number of child
nodes of it, whatever they are (`baseContainerDeviceCount_eq`).
-/

namespace HidHide

/-! ### The tree -/

/-- A device node, with the properties that are asked for. The symbolic link is that of the HID
interface, and empty when the device does not have it. -/
structure DevNode where
  instanceId : WString
  parent : Option ℕ
  containerId : Option Guid
  classGuid : Option Guid
  symbolicLink : WString
  xusbInterface : Bool

/-- The device tree: its nodes, a parent before its children. `DEVINST` is a position. -/
structure DevNodes where
  nodes : List DevNode
  parent_lt : ∀ i (h : i < nodes.length), ∀ p ∈ nodes[i].parent, p < i
  nodup : (nodes.map (·.instanceId)).Nodup
  plain : ∀ node ∈ nodes, Plain node.instanceId

/-- `GUID_NULL`. -/
def guidNull : Guid := ⟨0, 0, 0, .replicate 8 0⟩

/-- `GUID_CONTAINER_ID_SYSTEM`. -/
def guidContainerIdSystem : Guid := ⟨0, 0, 0, .replicate 8 0xFF⟩

namespace DevNodes

variable (tree : DevNodes)

def forest : ParentList where
  parents := tree.nodes.map (·.parent)
  parent_lt i h := by
    rw [List.getElem_map]
    exact tree.parent_lt i (by rwa [List.length_map] at h)

/-- `CM_Locate_DevNodeW`. -/
def locateDevNode (deviceInstancePath : WString) : Option ℕ :=
  tree.nodes.findIdx? (·.instanceId = deviceInstancePath)

/-- `CM_Get_DevNode_PropertyW` of the node that is located. -/
def property {α : Type} (f : DevNode → α) (deviceInstancePath : WString) : Option α :=
  (tree.locateDevNode deviceInstancePath).bind fun devInst => tree.nodes[devInst]?.map f

/-- `DeviceInstancePathsPresentOrNot`. -/
def deviceInstancePathsPresentOrNot (classGuid : Guid) : DeviceInstancePaths :=
  .ofList wstringLt <| multiStringToStringList <| MultiString.encode nul <|
    (tree.nodes.filter (·.classGuid = some classGuid)).map (·.instanceId)

/-- `SymbolicLink`, for the HID interface. -/
def symbolicLink (deviceInstancePath : WString) : Option WString :=
  tree.property (·.symbolicLink) deviceInstancePath

/-- `BaseContainerId`. -/
def baseContainerId (deviceInstancePath : WString) : Option Guid :=
  if deviceInstancePath = [] then some guidNull
  else (tree.property (·.containerId) deviceInstancePath).map (·.getD guidNull)

/-- `DeviceInstancePathParent`. -/
def deviceInstancePathParent (deviceInstancePath : WString) : Option WString := do
  let devInst ← tree.locateDevNode deviceInstancePath
  let devInstParent ← tree.forest.parent devInst
  tree.nodes[devInstParent]?.map (·.instanceId)

/-- `DeviceInstancePathParentOptional`. -/
def deviceInstancePathParentOptional (deviceInstancePath : WString) : WString :=
  if deviceInstancePath = [] then [] else (tree.deviceInstancePathParent deviceInstancePath).getD []

/-- `DeviceInstancePathHasDeviceInterface`, for the XUSB interface. -/
def hasXusbInterface (deviceInstancePath : WString) : Bool :=
  (tree.property (·.xusbInterface) deviceInstancePath).getD false

/-- The next path of the loop in `FindAncestorWithDeviceInterface`, which ends at an empty path. -/
def nextAncestor (current : WString) : Option WString :=
  if tree.deviceInstancePathParentOptional current = [] then none
  else some (tree.deviceInstancePathParentOptional current)

/-- `FindAncestorWithDeviceInterface`, for the XUSB interface. -/
def findAncestorWithDeviceInterface (leaf : WString) : Option WString :=
  if leaf = [] then some []
  else (ParentList.nearest tree.nextAncestor tree.hasXusbInterface (tree.nodes.length + 1)
    leaf).map (·.getD [])

/-- `BaseContainerDeviceInstancePath`. -/
def baseContainerDeviceInstancePath (deviceInstancePath : WString) : Option WString :=
  (tree.baseContainerId deviceInstancePath).bind fun baseContainerId =>
    if baseContainerId = guidNull ∨ baseContainerId = guidContainerIdSystem then some []
    else ParentList.climb tree.deviceInstancePathParent
      (fun parent => (tree.baseContainerId parent).map fun id => decide (baseContainerId = id))
      (tree.nodes.length + 1) deviceInstancePath

/-- `DeviceClassGuid`. -/
def deviceClassGuid (deviceInstancePath : WString) : Option Guid :=
  if deviceInstancePath = [] then some guidNull
  else (tree.property (·.classGuid) deviceInstancePath).map (·.getD guidNull)

/-- `BaseContainerDeviceCount`. -/
def baseContainerDeviceCount (deviceInstancePath : WString) : Option ℕ :=
  if deviceInstancePath = [] then some 0
  else (tree.locateDevNode deviceInstancePath).bind (tree.forest.countChildren tree.nodes.length)

end DevNodes

/-! ### What a device answers -/

/-- `HIDP_CAPS`, as far as it is read. -/
structure HidpCaps where
  usagePage : UInt16
  usage : UInt16

/-- `HIDD_ATTRIBUTES`, as far as it is read. -/
structure HiddAttributes where
  vendorId : UInt16
  productId : UInt16

/-- A device that has been opened: the preparsed data with its capabilities or an error, and what
the other calls answer if they do not fail. -/
structure HidDeviceObject where
  preparsedData : Except UInt32 (Option HidpCaps)
  attributes : Option HiddAttributes
  productString : Option WString
  manufacturerString : Option WString
  serialNumberString : Option WString

/-- The two texts for a device that can not be opened. -/
inductive HidAttribute where
  | denied
  | absent

/-- What the system answers about a device. -/
structure HidApi where
  devicePresent : WString → Option Bool
  deviceDescription : WString → Option WString
  createFile : WString → Except UInt32 HidDeviceObject
  stringTable : HidAttribute → Option WString
  loadString : UInt32 → Option WString

def errorFileNotFound : UInt32 := 2
def errorPathNotFound : UInt32 := 3
def errorAccessDenied : UInt32 := 5
def errorGenFailure : UInt32 := 31
def errorSharingViolation : UInt32 := 32
def errorDeviceNotConnected : UInt32 := 1167

/-- A text is filled up to four characters. -/
def fillZeros (text : WString) : WString := List.replicate (4 - text.length) 0x30 ++ text

/-- `std::hex` and `std::uppercase`. -/
def hexWString (n : UInt16) : WString :=
  (Numerals.digits 16 n.toNat).map fun d =>
    if d < 10 then UInt16.ofNat (0x30 + d) else UInt16.ofNat (0x37 + d)

namespace HidApi

variable (api : HidApi)

/-- `Usage`. The width of the stream is for the first text that is written. -/
def usage (capabilities : HidpCaps) : WString :=
  let page := capabilities.usagePage.toUInt32
  let id := capabilities.usage.toUInt32
  let name := (if page = 0x01 ∧ id ≤ 0xFF then api.loadString (0x1100 + id) else none) <|>
    (if page = 0x0C ∧ id ≤ 0xFF then api.loadString (0x1200 + id) else none)
  match name with
  | some name => name
  | none =>
      match if page ≤ 0xFF then api.loadString (0x1000 + page) else none with
      | some pageName => fillZeros pageName ++ [space] ++ hexWString capabilities.usage
      | none => fillZeros (hexWString capabilities.usagePage) ++ [space] ++
          hexWString capabilities.usage

/-- `GamingDevice`. -/
def gamingDevice (attributes : HiddAttributes) (capabilities : HidpCaps) : Bool :=
  (attributes.vendorId = 0x28DE ∧ attributes.productId = 0x1205) ∨
    (attributes.vendorId = 0x28DE ∧ attributes.productId = 0x1142) ∨
    capabilities.usagePage = 0x05 ∨
    capabilities.usagePage = 0x01 ∧ (capabilities.usage = 0x04 ∨ capabilities.usage = 0x05)

/-- `HidModelInfo` from the point on where the device is opened. -/
def interact (result : HidDeviceInformation) : Option HidDeviceInformation :=
  match api.createFile result.symbolicLink with
  | .error error =>
      if error = errorAccessDenied ∨ error = errorSharingViolation then
        (api.stringTable .denied).map fun usage => { result with usage := usage }
      else if error = errorFileNotFound then
        (api.stringTable .absent).map fun usage => { result with usage := usage }
      else if error = errorPathNotFound ∨ error = errorGenFailure then some result
      else none
  | .ok deviceObject =>
      match deviceObject.preparsedData with
      | .error error => if error = errorDeviceNotConnected then some result else none
      | .ok capabilities => do
          let capabilities ← capabilities
          let attributes ← deviceObject.attributes
          some { result with
            product := deviceObject.productString.getD []
            vendor := deviceObject.manufacturerString.getD []
            serialNumber := deviceObject.serialNumberString.getD []
            usage := api.usage capabilities
            gamingDevice := gamingDevice attributes capabilities }

end HidApi

namespace DevNodes

variable (tree : DevNodes) (api : HidApi)

/-- `HidModelInfo`. -/
def hidModelInfo (deviceInstancePath symbolicLink : WString) : Option HidDeviceInformation := do
  let present ← api.devicePresent deviceInstancePath
  let description ← api.deviceDescription deviceInstancePath
  let xusb ← tree.findAncestorWithDeviceInterface deviceInstancePath
  let baseContainer ← tree.baseContainerDeviceInstancePath deviceInstancePath
  let classGuid ← tree.deviceClassGuid baseContainer
  let count ← tree.baseContainerDeviceCount baseContainer
  api.interact
    { present := present
      gamingDevice := false
      symbolicLink := symbolicLink
      vendor := []
      product := []
      serialNumber := []
      usage := []
      description := description
      deviceInstancePath := deviceInstancePath
      xusbDeviceInstancePath := xusb
      baseContainerDeviceInstancePath := baseContainer
      baseContainerClassGuid := classGuid
      baseContainerDeviceCount := count }

/-- An iteration of `IterateAllHidDevicesPresentOrNotPresent`, with its callback in `HidDevices`. -/
def enumerateDevice (devices : List HidDeviceInformation) (deviceInstancePath : WString) :
    Option (List HidDeviceInformation) := do
  let symbolicLink ← tree.symbolicLink deviceInstancePath
  if symbolicLink ≠ [] then
    let device ← tree.hidModelInfo api deviceInstancePath symbolicLink
    some (devices ++ [device])
  else some devices

/-- The devices over which `HidDevices` iterates. -/
def enumerateDevices : Option (List HidDeviceInformation) :=
  (tree.deviceInstancePathsPresentOrNot hidClass).toList.foldlM (tree.enumerateDevice api) []

/-- `HidDevices`, of the devices of the tree. -/
def hidDevices (strCmpLogical : WString → WString → Bool) (gamingDevicesOnly : Bool) :
    Option FriendlyNamesAndHidDeviceInformation :=
  (tree.enumerateDevices api).bind fun devices =>
    HidHide.hidDevices strCmpLogical (devices.length + 2) gamingDevicesOnly devices

/-! ### Paths and positions -/

variable {tree}

theorem length_forest : tree.forest.parents.length = tree.nodes.length := List.length_map _

/-- A path is located at the node that it is the instance path of. -/
theorem locateDevNode_eq_some_iff {path : WString} {devInst : ℕ} :
    tree.locateDevNode path = some devInst ↔
      tree.nodes[devInst]?.map (·.instanceId) = some path := by
  rw [locateDevNode, List.findIdx?_eq_some_iff_getElem]
  constructor
  · rintro ⟨hlt, hpath, -⟩
    rw [List.getElem?_eq_getElem hlt, Option.map_some, of_decide_eq_true hpath]
  · intro h
    obtain ⟨node, hnode, rfl⟩ := Option.map_eq_some_iff.mp h
    obtain ⟨hlt, rfl⟩ := List.getElem?_eq_some_iff.mp hnode
    refine ⟨hlt, decide_eq_true rfl, fun j hj hsame => ?_⟩
    have hids := (List.nodup_iff_injective_get.mp tree.nodup).eq_iff
      (a := ⟨j, by rw [List.length_map]; omega⟩) (b := ⟨devInst, by rwa [List.length_map]⟩)
    simp only [List.get_eq_getElem, List.getElem_map, Fin.mk.injEq] at hids
    exact absurd (hids.mp (of_decide_eq_true hsame)) hj.ne

theorem lt_length_of_locateDevNode {path : WString} {devInst : ℕ}
    (h : tree.locateDevNode path = some devInst) : devInst < tree.nodes.length := by
  obtain ⟨node, hnode, -⟩ := Option.map_eq_some_iff.mp (locateDevNode_eq_some_iff.mp h)
  exact (List.getElem?_eq_some_iff.mp hnode).1

/-- **The parent of a path** is the path of the parent. -/
theorem deviceInstancePathParent_eq_some_iff {path parent : WString} :
    tree.deviceInstancePathParent path = some parent ↔
      ∃ devInst devInstParent, tree.locateDevNode path = some devInst ∧
        tree.forest.parent devInst = some devInstParent ∧
        tree.locateDevNode parent = some devInstParent := by
  have hlocateParent := @locateDevNode_eq_some_iff tree parent
  simp only [hlocateParent]
  constructor
  · intro h
    obtain ⟨devInst, hlocate, h⟩ := Option.bind_eq_some_iff.mp h
    obtain ⟨devInstParent, hparent, h⟩ := Option.bind_eq_some_iff.mp h
    exact ⟨devInst, devInstParent, hlocate, hparent, h⟩
  · rintro ⟨devInst, devInstParent, hlocate, hparent, h⟩
    simp only [deviceInstancePathParent, hlocate, hparent, Option.bind_eq_bind, Option.bind_some, h]

/-- How far a path is behind in the tree. -/
def rank (tree : DevNodes) (path : WString) : ℕ :=
  (tree.locateDevNode path).getD tree.nodes.length

theorem rank_lt_length (path : WString) : tree.rank path < tree.nodes.length + 1 := by
  rw [rank]
  rcases hlocate : tree.locateDevNode path with _ | devInst
  · exact Nat.lt_succ_self _
  · exact Nat.lt_succ_of_lt (lt_length_of_locateDevNode hlocate)

theorem rank_parent_lt (path parent : WString)
    (h : tree.deviceInstancePathParent path = some parent) : tree.rank parent < tree.rank path := by
  obtain ⟨devInst, devInstParent, hlocate, hparent, hlocateParent⟩ :=
    deviceInstancePathParent_eq_some_iff.mp h
  rw [rank, rank, hlocate, hlocateParent]
  exact ParentList.lt_of_parent_eq hparent

/-- The next path of the walk to the XUSB node is the parent. -/
theorem nextAncestor_eq_some {path ancestor : WString}
    (h : tree.nextAncestor path = some ancestor) :
    tree.deviceInstancePathParent path = some ancestor := by
  rw [nextAncestor, deviceInstancePathParentOptional] at h
  split_ifs at h with hpath hnone hnone
  · exact absurd rfl hnone
  rcases hparent : tree.deviceInstancePathParent path with _ | parent
  · simp [hparent] at hnone
  · rw [← Option.some.inj h, hparent]
    rfl

theorem rank_nextAncestor_lt (path ancestor : WString)
    (h : tree.nextAncestor path = some ancestor) : tree.rank ancestor < tree.rank path :=
  rank_parent_lt path ancestor (nextAncestor_eq_some h)

/-- The walk to the XUSB node returns. -/
theorem isSome_findAncestorWithDeviceInterface (leaf : WString) :
    (tree.findAncestorWithDeviceInterface leaf).isSome := by
  rw [findAncestorWithDeviceInterface]
  split_ifs
  · rfl
  · rw [Option.isSome_map]
    exact ParentList.isSome_nearest rank_nextAncestor_lt _ (rank_lt_length leaf)

/-- **`FindAncestorWithDeviceInterface`** finds the nearest node on the way up that has the
interface, the device itself included. -/
theorem findAncestorWithDeviceInterface_eq_iff {leaf ancestor : WString} (hleaf : leaf ≠ [])
    (hne : ancestor ≠ []) :
    tree.findAncestorWithDeviceInterface leaf = some ancestor ↔
      Relation.ReflTransGen (fun child parent => tree.nextAncestor child = some parent ∧
        tree.hasXusbInterface child = false) leaf ancestor ∧
      tree.hasXusbInterface ancestor = true := by
  rw [← ParentList.nearest_eq_some_iff rank_nextAncestor_lt (rank_lt_length leaf),
    findAncestorWithDeviceInterface, if_neg hleaf, Option.map_eq_some_iff]
  constructor
  · rintro ⟨_ | found, hfound, heq⟩
    · exact absurd heq.symm hne
    · rwa [← show found = ancestor from heq]
  · exact fun h => ⟨some ancestor, h, rfl⟩

/-! ### The base container -/

/-- The container is on the way up from the device; the container id of the device is that of every
node as far as the container, and not of the next. -/
def IsBaseContainer (tree : DevNodes) (path container : WString) : Prop :=
  ∃ id, tree.baseContainerId path = some id ∧ id ≠ guidNull ∧ id ≠ guidContainerIdSystem ∧
    Relation.ReflTransGen (fun child parent => tree.deviceInstancePathParent child = some parent ∧
      tree.baseContainerId parent = some id) path container ∧
    ∃ beyond, tree.deviceInstancePathParent container = some beyond ∧
      ∃ other, tree.baseContainerId beyond = some other ∧ other ≠ id

theorem ne_nil_of_locateDevNode {path : WString} {devInst : ℕ}
    (h : tree.locateDevNode path = some devInst) : path ≠ [] := by
  obtain ⟨node, hnode, rfl⟩ := Option.map_eq_some_iff.mp (locateDevNode_eq_some_iff.mp h)
  exact (tree.plain node (List.mem_of_getElem? hnode)).1

theorem IsBaseContainer.locate {path container : WString}
    (h : tree.IsBaseContainer path container) :
    ∃ devInst, tree.locateDevNode container = some devInst := by
  obtain ⟨-, -, -, -, -, beyond, hbeyond, -⟩ := h
  obtain ⟨devInst, -, hlocate, -⟩ := deviceInstancePathParent_eq_some_iff.mp hbeyond
  exact ⟨devInst, hlocate⟩

/-- **`BaseContainerDeviceInstancePath`** finds the base container, if there is one. -/
theorem baseContainerDeviceInstancePath_eq_iff {path container : WString} (hne : container ≠ []) :
    tree.baseContainerDeviceInstancePath path = some container ↔
      tree.IsBaseContainer path container := by
  rw [baseContainerDeviceInstancePath, IsBaseContainer, Option.bind_eq_some_iff]
  refine exists_congr fun id => and_congr_right fun _ => ?_
  split_ifs with hnone
  · refine iff_of_false (fun h => hne (Option.some.inj h).symm) ?_
    rintro ⟨hnull, hsystem, -⟩
    exact hnone.elim hnull hsystem
  · have hsame : ∀ parent, (tree.baseContainerId parent).map (fun other => decide (id = other)) =
        some true ↔ tree.baseContainerId parent = some id := fun parent => by
      simp
    have hother : ∀ parent, (tree.baseContainerId parent).map (fun other => decide (id = other)) =
        some false ↔ ∃ other, tree.baseContainerId parent = some other ∧ other ≠ id :=
      fun parent => by simp [eq_comm]
    rw [ParentList.climb_eq_some_iff rank_parent_lt (rank_lt_length path)]
    simp only [hsame, hother]
    exact (and_iff_right (not_or.mp hnone).1).trans (and_iff_right (not_or.mp hnone).2) |>.symm

/-! ### The number of child nodes -/

/-- The child nodes of a node. -/
def childNodes (tree : DevNodes) (path : WString) : List DevNode :=
  tree.nodes.filter fun node => tree.deviceInstancePathParent node.instanceId = some path

/-- A path is that of a child node when its parent is the node. -/
theorem mem_childNodes {path child : WString} :
    child ∈ (tree.childNodes path).map (·.instanceId) ↔
      tree.deviceInstancePathParent child = some path := by
  rw [childNodes, List.mem_map]
  constructor
  · rintro ⟨node, hnode, rfl⟩
    exact of_decide_eq_true (List.mem_filter.mp hnode).2
  · intro hparent
    obtain ⟨devInst, -, hlocate, -⟩ := deviceInstancePathParent_eq_some_iff.mp hparent
    obtain ⟨node, hnode, rfl⟩ := Option.map_eq_some_iff.mp (locateDevNode_eq_some_iff.mp hlocate)
    exact ⟨node, List.mem_filter.mpr ⟨List.mem_of_getElem? hnode, decide_eq_true hparent⟩, rfl⟩

theorem nodup_childNodes (path : WString) :
    ((tree.childNodes path).map (·.instanceId)).Nodup :=
  tree.nodup.sublist (List.filter_sublist.map _)

/-- **`BaseContainerDeviceCount`** is the number of the child nodes. -/
theorem baseContainerDeviceCount_eq {path : WString} {devInst : ℕ}
    (h : tree.locateDevNode path = some devInst) :
    tree.baseContainerDeviceCount path = some (tree.childNodes path).length := by
  have hchild : tree.nodes.map (fun node =>
        decide (tree.deviceInstancePathParent node.instanceId = some path)) =
      (List.range tree.nodes.length).map fun i => decide (tree.forest.parent i = some devInst) := by
    refine List.ext_getElem (by simp) fun i hi _ => ?_
    rw [List.length_map] at hi
    have hlocate : tree.locateDevNode tree.nodes[i].instanceId = some i :=
      locateDevNode_eq_some_iff.mpr (by rw [List.getElem?_eq_getElem hi]; rfl)
    rw [List.getElem_map, List.getElem_map, List.getElem_range, decide_eq_decide,
      deviceInstancePathParent_eq_some_iff]
    simp only [hlocate, h, Option.some.injEq, exists_eq_right_right', exists_eq_left']
  have hcount : (tree.forest.children devInst).length = (tree.childNodes path).length := by
    have hmap := congrArg (List.countP id) hchild
    rw [List.countP_map, List.countP_map] at hmap
    rw [ParentList.children, length_forest, childNodes, ← List.countP_eq_length_filter,
      ← List.countP_eq_length_filter]
    exact hmap.symm
  rw [baseContainerDeviceCount, if_neg (ne_nil_of_locateDevNode h), h, Option.bind_some,
    ParentList.countChildren_eq (le_of_eq length_forest), hcount]

/-! ### What is enumerated -/

theorem property_of_mem {α : Type} {f : DevNode → α} {node : DevNode} (h : node ∈ tree.nodes) :
    tree.property f node.instanceId = some (f node) := by
  obtain ⟨devInst, hdevInst⟩ := List.mem_iff_getElem?.mp h
  have hlocate : tree.locateDevNode node.instanceId = some devInst :=
    locateDevNode_eq_some_iff.mpr (by rw [hdevInst]; rfl)
  rw [property, hlocate, Option.bind_some, hdevInst, Option.map_some]

/-- The devices of a class, by their instance paths. -/
theorem mem_deviceInstancePathsPresentOrNot {classGuid : Guid} {path : WString} :
    path ∈ tree.deviceInstancePathsPresentOrNot classGuid ↔
      ∃ node ∈ tree.nodes, node.classGuid = some classGuid ∧ node.instanceId = path := by
  have hplain : ∀ id ∈ (tree.nodes.filter (·.classGuid = some classGuid)).map (·.instanceId),
      Plain id := by
    intro id hid
    obtain ⟨node, hnode, rfl⟩ := List.mem_map.mp hid
    exact tree.plain node (List.mem_of_mem_filter hnode)
  rw [deviceInstancePathsPresentOrNot,
    multiStringToStringList_encode fun id hid => (hplain id hid).2,
    List.filter_eq_self.mpr fun id hid => decide_eq_true (hplain id hid).1, OrderedSet.mem_ofList]
  simp [and_assoc]

/-- What the client knows of a device and its base container is so in the tree. -/
structure Describes (tree : DevNodes) (device : HidDeviceInformation) : Prop where
  xusb : tree.findAncestorWithDeviceInterface device.deviceInstancePath =
    some device.xusbDeviceInstancePath
  baseContainer : tree.baseContainerDeviceInstancePath device.deviceInstancePath =
    some device.baseContainerDeviceInstancePath
  classGuid : tree.deviceClassGuid device.baseContainerDeviceInstancePath =
    some device.baseContainerClassGuid
  count : tree.baseContainerDeviceCount device.baseContainerDeviceInstancePath =
    some device.baseContainerDeviceCount

/-- The node is of the HID class and has the HID interface. -/
def IsHidDevice (node : DevNode) : Prop :=
  node.classGuid = some hidClass ∧ node.symbolicLink ≠ []

variable {api : HidApi}

/-- Opening a device leaves what is known from the tree as it is. -/
theorem interact_eq_some {result device : HidDeviceInformation}
    (h : api.interact result = some device) : ∃ usage product vendor serialNumber gamingDevice,
      device = { result with
        usage := usage
        product := product
        vendor := vendor
        serialNumber := serialNumber
        gamingDevice := gamingDevice } := by
  rw [HidApi.interact] at h
  split at h
  · split_ifs at h
    · obtain ⟨usage, -, rfl⟩ := Option.map_eq_some_iff.mp h
      exact ⟨usage, _, _, _, _, rfl⟩
    · obtain ⟨usage, -, rfl⟩ := Option.map_eq_some_iff.mp h
      exact ⟨usage, _, _, _, _, rfl⟩
    · exact ⟨_, _, _, _, _, (Option.some.inj h).symm⟩
  · split at h
    · split_ifs at h
      exact ⟨_, _, _, _, _, (Option.some.inj h).symm⟩
    · obtain ⟨capabilities, -, h⟩ := Option.bind_eq_some_iff.mp h
      obtain ⟨attributes, -, h⟩ := Option.bind_eq_some_iff.mp h
      exact ⟨_, _, _, _, _, (Option.some.inj h).symm⟩

theorem hidModelInfo_eq_some {path symbolicLink : WString} {device : HidDeviceInformation}
    (h : tree.hidModelInfo api path symbolicLink = some device) :
    device.deviceInstancePath = path ∧ tree.Describes device := by
  obtain ⟨present, -, h⟩ := Option.bind_eq_some_iff.mp h
  obtain ⟨description, -, h⟩ := Option.bind_eq_some_iff.mp h
  obtain ⟨xusb, hxusb, h⟩ := Option.bind_eq_some_iff.mp h
  obtain ⟨baseContainer, hbaseContainer, h⟩ := Option.bind_eq_some_iff.mp h
  obtain ⟨classGuid, hclassGuid, h⟩ := Option.bind_eq_some_iff.mp h
  obtain ⟨count, hcount, h⟩ := Option.bind_eq_some_iff.mp h
  obtain ⟨_, _, _, _, _, rfl⟩ := interact_eq_some h
  exact ⟨rfl, hxusb, hbaseContainer, hclassGuid, hcount⟩

/-- Of the paths, those of devices with the HID interface are described. -/
theorem foldlM_enumerateDevice {paths : List WString} {before devices : List HidDeviceInformation}
    (h : paths.foldlM (tree.enumerateDevice api) before = some devices) :
    ∃ described, devices = before ++ described ∧ (∀ device ∈ described, tree.Describes device) ∧
      described.map (·.deviceInstancePath) =
        paths.filter fun path => tree.symbolicLink path ≠ some [] := by
  induction paths generalizing before with
  | nil =>
    obtain rfl := Option.some.inj h
    exact ⟨[], by simp, by simp, rfl⟩
  | cons path paths ih =>
    rw [List.foldlM_cons] at h
    obtain ⟨more, hmore, h⟩ := Option.bind_eq_some_iff.mp h
    obtain ⟨described, rfl, hdescribed, hpaths⟩ := ih h
    obtain ⟨symbolicLink, hlink, hmore⟩ := Option.bind_eq_some_iff.mp hmore
    rw [List.filter_cons]
    split_ifs at hmore with hempty
    · obtain ⟨device, hdevice, hmore⟩ := Option.bind_eq_some_iff.mp hmore
      obtain rfl := Option.some.inj hmore
      obtain ⟨rfl, hdescribes⟩ := hidModelInfo_eq_some hdevice
      refine ⟨device :: described, by simp, List.forall_mem_cons.mpr ⟨hdescribes, hdescribed⟩, ?_⟩
      rw [if_pos (by simpa [hlink] using hempty), List.map_cons, hpaths]
    · obtain rfl := Option.some.inj hmore
      exact ⟨described, rfl, hdescribed, by rw [if_neg (by simpa [hlink] using hempty), hpaths]⟩

/-- **What is enumerated**: each device of the HID class with the HID interface once, as it is in
the tree. -/
theorem enumerateDevices_eq_some {devices : List HidDeviceInformation}
    (h : tree.enumerateDevices api = some devices) :
    (∀ device ∈ devices, tree.Describes device) ∧
      (devices.map (·.deviceInstancePath)).Nodup ∧
      ∀ path, path ∈ devices.map (·.deviceInstancePath) ↔
        ∃ node ∈ tree.nodes, node.instanceId = path ∧ IsHidDevice node := by
  obtain ⟨described, rfl, hdescribed, hpaths⟩ := foldlM_enumerateDevice h
  rw [hpaths]
  refine ⟨hdescribed, (OrderedSet.nodup_toList _).filter _, fun path => ?_⟩
  rw [List.mem_filter, OrderedSet.mem_toList, mem_deviceInstancePathsPresentOrNot]
  constructor
  · rintro ⟨⟨node, hnode, hclass, rfl⟩, hlink⟩
    rw [symbolicLink, property_of_mem hnode] at hlink
    exact ⟨node, hnode, rfl, hclass, by simpa using hlink⟩
  · rintro ⟨node, hnode, rfl, hclass, hlink⟩
    refine ⟨⟨node, hnode, hclass, rfl⟩, ?_⟩
    rw [symbolicLink, property_of_mem hnode]
    simpa using hlink

end DevNodes

end HidHide
