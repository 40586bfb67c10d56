import HidHide.Client.PureContainers
import HidHide.Client.ProxyCalls

/-!
# The page of devices

`CBlacklistDlg` as a whole, with its two filters: the tree is filled anew on a posted message, from
the blacklist of the proxy and the devices that are there then. In between, check boxes are clicked.

The marks stay consistent, so that a click sets the blacklist to what the marks stand for
(`step_leaves`). Whether the tree control notifies the changes of the handler matters for one thing:
if so, unchecking one device of a group that is checked unchecks them all (`marksOf_click`).
-/

namespace HidHide

/-! ### The marks of a group -/

/-- The mark of a group, and those of its devices. -/
def GroupItem.groupMarks (item : GroupItem) : Bool × List Bool :=
  (item.checked, item.children.map (·.checked))

/-- The marks of a group of the tree, if there is one. -/
def marksOf (tree : DeviceTree) (i : ℕ) : Option (Bool × List Bool) :=
  tree[i]?.map GroupItem.groupMarks

/-- What a click makes of the marks of a group. -/
def clickedMarks (notifies checked : Bool) (hItem : TreeItem) (marks : Bool × List Bool) :
    Bool × List Bool :=
  match hItem with
  | .group _ => (checked, marks.2.map fun _ => checked)
  | .device _ j =>
      let devices := marks.2.set j checked
      if checked then (devices.all id, devices)
      else (false, if notifies && marks.1 then devices.map fun _ => false else devices)

section Handler

variable {tree : DeviceTree} {i : ℕ} {marks : Bool × List Bool}

theorem marksOf_setItemImage (k : ℕ) (image : IconLock) :
    marksOf (setItemImage tree k image) i = marksOf tree i := by
  rw [marksOf, marksOf, setItemImage, List.getElem?_modify]
  cases tree[i]? with
  | none => rfl
  | some item => by_cases h : k = i <;> simp [h, GroupItem.groupMarks]

theorem marksOf_setMark_group (h : marksOf tree i = some marks) (checked : Bool) :
    marksOf (setMark tree checked (.group i)) i = some (checked, marks.2) := by
  obtain ⟨item, hitem, rfl⟩ := Option.map_eq_some_iff.mp h
  rw [marksOf, setMark, List.getElem?_modify_eq, hitem]
  rfl

theorem marksOf_setMark_device (h : marksOf tree i = some marks) (checked : Bool) (j : ℕ) :
    marksOf (setMark tree checked (.device i j)) i = some (marks.1, marks.2.set j checked) := by
  obtain ⟨item, hitem, rfl⟩ := Option.map_eq_some_iff.mp h
  rw [marksOf, setMark, List.getElem?_modify_eq, hitem]
  refine congrArg some (Prod.ext rfl (List.ext_getElem? fun k => ?_))
  dsimp only [GroupItem.groupMarks]
  rw [List.getElem?_map, List.getElem?_modify, List.getElem?_set, List.getElem?_map,
    List.length_map]
  by_cases hk : j = k
  · subst hk
    by_cases hlt : j < item.children.length
    · simp [hlt]
    · simp [hlt]
  · cases item.children[k]? <;> simp [hk]

theorem markOf_eq_of_marksOf (h : marksOf tree i = some marks) :
    markOf tree (.group i) = some marks.1 := by
  obtain ⟨item, hitem, rfl⟩ := Option.map_eq_some_iff.mp h
  rw [markOf, hitem]
  rfl

theorem markOf_device_eq (h : marksOf tree i = some marks) (j : ℕ) :
    markOf tree (.device i j) = marks.2[j]? := by
  obtain ⟨item, hitem, rfl⟩ := Option.map_eq_some_iff.mp h
  rw [markOf, hitem, Option.bind_some, GroupItem.groupMarks, List.getElem?_map]

theorem allChecked_eq (h : marksOf tree i = some marks) : allChecked tree i = marks.2.all id := by
  obtain ⟨item, hitem, rfl⟩ := Option.map_eq_some_iff.mp h
  rw [allChecked, hitem]
  simp [GroupItem.groupMarks]

theorem childCount_eq (h : marksOf tree i = some marks) : childCount tree i = marks.2.length := by
  obtain ⟨item, hitem, rfl⟩ := Option.map_eq_some_iff.mp h
  rw [childCount, hitem]
  simp [GroupItem.groupMarks]

variable {notifies : Bool} {otherState : TreeItem → UInt32} {fuel : ℕ} {dlg dlg' : BlacklistDlg}
  {checked : Bool} {devices : List Bool}

/-- The mark of a group is set again. -/
theorem marksOf_changeMark_same (hmarks : marksOf dlg.blacklist i = some (checked, devices))
    {notified : Bool} {handler : BlacklistDlg → TreeItem → UInt32 → UInt32 → Option BlacklistDlg}
    (h : changeMark otherState notified handler dlg checked (.group i) = some dlg') :
    marksOf dlg'.blacklist i = some (checked, devices) := by
  rw [changeMark_same otherState (markOf_eq_of_marksOf hmarks)] at h
  obtain rfl := Option.some.inj h
  exact marksOf_setMark_group hmarks checked

/-- A device has been given the mark of its group: the handler leaves the marks as they are. -/
theorem marksOf_handler_device (hmarks : marksOf dlg.blacklist i = some (checked, devices)) {j : ℕ}
    {uStateOld uStateNew : UInt32} (hnew : isChecked uStateNew = checked)
    (h : onTvnItemChangedTreeBlacklist notifies otherState fuel dlg (.device i j) uStateOld
      uStateNew = some dlg') : marksOf dlg'.blacklist i = some (checked, devices) := by
  have himage := fun image => (@marksOf_setItemImage dlg.blacklist i i image).trans hmarks
  cases fuel with
  | zero => cases h
  | succ fuel =>
    rw [onTvnItemChangedTreeBlacklist, hnew] at h
    split_ifs at h
    · obtain ⟨applied, happlied, rfl⟩ := Option.map_eq_some_iff.mp h
      change marksOf applied.blacklist i = _
      dsimp only at happlied
      rw [applyToParent] at happlied
      cases checked with
      | true =>
        rw [if_pos rfl] at happlied
        split_ifs at happlied
        · exact @marksOf_changeMark_same _ _ { dlg with blacklist := _ } _ _ _ (himage .on) _ _
            happlied
        · obtain rfl := Option.some.inj happlied
          exact hmarks
      | false =>
        rw [if_neg Bool.false_ne_true] at happlied
        exact @marksOf_changeMark_same _ _ { dlg with blacklist := _ } _ _ _ (himage .off) _ _
          happlied
    · obtain rfl := Option.some.inj h
      exact hmarks

/-- A mark of the group is passed on to a device. -/
theorem marksOf_changeMark_device (hmarks : marksOf dlg.blacklist i = some (checked, devices))
    {j : ℕ} (h : changeMark otherState notifies
      (onTvnItemChangedTreeBlacklist notifies otherState fuel) dlg
      checked (.device i j) = some dlg') :
    marksOf dlg'.blacklist i = some (checked, devices.set j checked) := by
  have hset := marksOf_setMark_device hmarks checked j
  rw [changeMark] at h
  rcases hold : markOf dlg.blacklist (.device i j) with _ | old
  · rw [hold] at h
    cases h
  · rw [hold] at h
    dsimp only at h
    split_ifs at h
    · exact @marksOf_handler_device _ _ _ _ { dlg with blacklist := _ } _ _ _ hset _ _ _
        (isChecked_itemState _ _) h
    · obtain rfl := Option.some.inj h
      exact hset

/-- The loop over the first devices of a group. -/
theorem marksOf_foldlM (hmarks : marksOf dlg.blacklist i = some (checked, devices)) {k : ℕ}
    (hk : k ≤ devices.length)
    (h : (List.range k).foldlM (fun dlg j => changeMark otherState notifies
      (onTvnItemChangedTreeBlacklist notifies otherState fuel) dlg checked (.device i j)) dlg =
        some dlg') :
    marksOf dlg'.blacklist i =
      some (checked, List.replicate k checked ++ devices.drop k) := by
  induction k generalizing dlg' with
  | zero =>
    obtain rfl := Option.some.inj h
    exact hmarks
  | succ k ih =>
    rw [List.range_succ, List.foldlM_append] at h
    obtain ⟨dlg₁, hloop, hlast⟩ := Option.bind_eq_some_iff.mp h
    simp only [List.foldlM_cons, List.foldlM_nil, bind_pure] at hlast
    rw [marksOf_changeMark_device (ih (Nat.le_of_succ_le hk) hloop) hlast]
    have hdrop : devices.drop k = devices[k] :: devices.drop (k + 1) :=
      List.drop_eq_getElem_cons hk
    rw [hdrop, List.replicate_succ', List.append_assoc,
      List.set_append_right _ _ (List.length_replicate).le, List.length_replicate, Nat.sub_self]
    rfl

/-- The mark of a group is passed on to all of its devices. -/
theorem marksOf_handler_group (hmarks : marksOf dlg.blacklist i = some (checked, devices))
    {uStateOld uStateNew : UInt32} (hnew : isChecked uStateNew = checked)
    (hrelates : relatesToChange uStateOld uStateNew)
    (h : onTvnItemChangedTreeBlacklist notifies otherState fuel dlg (.group i) uStateOld
      uStateNew = some dlg') :
    marksOf dlg'.blacklist i = some (checked, devices.map fun _ => checked) := by
  cases fuel with
  | zero => cases h
  | succ fuel =>
    rw [onTvnItemChangedTreeBlacklist, hnew, if_pos hrelates] at h
    obtain ⟨applied, happlied, rfl⟩ := Option.map_eq_some_iff.mp h
    change marksOf applied.blacklist i = _
    dsimp only at happlied
    rw [applyToChildren] at happlied
    have himage := (@marksOf_setItemImage dlg.blacklist i i
      (if checked then .on else .off)).trans hmarks
    dsimp only at happlied
    rw [childCount_eq himage] at happlied
    rw [@marksOf_foldlM _ _ _ _ { dlg with blacklist := _ } _ _ _ himage _ le_rfl happlied,
      List.drop_length, List.append_nil, List.map_const']

/-- A change of the mark of a group is passed on if it is notified. -/
theorem marksOf_changeMark_group (hmarks : marksOf dlg.blacklist i = some marks)
    (hrelates : relatesToChange (itemState (otherState (.group i)) (!checked))
      (itemState (otherState (.group i)) checked)) {notified : Bool}
    (h : changeMark otherState notified (onTvnItemChangedTreeBlacklist notifies otherState fuel) dlg
      checked (.group i) = some dlg') :
    marksOf dlg'.blacklist i = some (checked,
      if notified && marks.1 != checked then marks.2.map fun _ => checked else marks.2) := by
  have hset := marksOf_setMark_group hmarks checked
  rw [changeMark, markOf_eq_of_marksOf hmarks] at h
  dsimp only at h
  split_ifs at h ⊢ with hnotified
  · rw [Bool.and_eq_true, bne_iff_ne] at hnotified
    rw [Bool.eq_not_of_ne hnotified.2] at h
    exact @marksOf_handler_group _ _ _ _ { dlg with blacklist := _ } _ _ _ hset _ _
      (isChecked_itemState _ _) hrelates h
  · obtain rfl := Option.some.inj h
    exact hset

/-- The mark of a device is passed on to its group. -/
theorem marksOf_applyToParent (hmarks : marksOf dlg.blacklist i = some marks)
    (hrelates : relatesToChange (itemState (otherState (.group i)) (!checked))
      (itemState (otherState (.group i)) checked))
    (h : applyToParent (changeMark otherState notifies
      (onTvnItemChangedTreeBlacklist notifies otherState fuel)) dlg checked i = some dlg') :
    marksOf dlg'.blacklist i = some
      (if checked then (marks.1 || marks.2.all id, marks.2)
        else (false, if notifies && marks.1 then marks.2.map fun _ => false else marks.2)) := by
  have himage := fun image => (@marksOf_setItemImage dlg.blacklist i i image).trans hmarks
  rw [applyToParent, allChecked_eq hmarks] at h
  split_ifs at h ⊢ with hchecked hall
  · rw [@marksOf_changeMark_group _ _ _ _ _ { dlg with blacklist := _ } _ _ (himage .on)
      (hchecked ▸ hrelates) _ h, hall, Bool.or_true]
    -- its devices are all checked already
    have hsame : marks.2.map (fun _ => true) = marks.2 := by
      refine (List.map_congr_left fun mark hmark => ?_).trans (List.map_id marks.2)
      exact (List.all_eq_true.mp hall mark hmark).symm
    rw [hsame, ite_self]
  · obtain rfl := Option.some.inj h
    rw [hmarks, Bool.eq_false_iff.mpr hall, Bool.or_false]
  all_goals
    rw [Bool.not_eq_true] at hchecked
    rw [@marksOf_changeMark_group _ _ _ _ _ { dlg with blacklist := _ } _ _ (himage .off)
      (hchecked ▸ hrelates) _ h, Bool.bne_false]
    simp [*]

/-- **A click** makes of the marks of its group what `clickedMarks` says, when the mark of the group
is that of its devices, and every change of a mark counts as one. -/
theorem marksOf_click {hItem : TreeItem} {old : Bool}
    (hmarks : marksOf dlg.blacklist hItem.groupIndex = some marks)
    (hconsistent : marks.1 = marks.2.all id) (hold : markOf dlg.blacklist hItem = some old)
    (hrelates : ∀ item checked, relatesToChange (itemState (otherState item) (!checked))
      (itemState (otherState item) checked))
    (h : click notifies otherState fuel dlg (!old) hItem = some dlg') :
    marksOf dlg'.blacklist hItem.groupIndex =
      some (clickedMarks notifies (!old) hItem marks) := by
  have hchanged : (true && old != !old) = true := by cases old <;> rfl
  have hevent := hrelates hItem (!old)
  rw [Bool.not_not] at hevent
  rw [click, changeMark, hold] at h
  dsimp only at h
  rw [if_pos hchanged] at h
  cases hItem with
  | group i =>
    exact @marksOf_handler_group _ _ _ _ { dlg with blacklist := _ } _ _ _
      (marksOf_setMark_group hmarks (!old)) _ _ (isChecked_itemState _ _) hevent h
  | device i j =>
    cases fuel with
    | zero => cases h
    | succ fuel =>
      rw [onTvnItemChangedTreeBlacklist, if_pos hevent, isChecked_itemState] at h
      obtain ⟨applied, happlied, rfl⟩ := Option.map_eq_some_iff.mp h
      change marksOf applied.blacklist i = _
      refine (@marksOf_applyToParent i _ _ _ _ { dlg with blacklist := _ } _ _
        (marksOf_setMark_device hmarks (!old) j) (hrelates _ _) happlied).trans ?_
      rw [clickedMarks]
      cases old with
      | true => rfl
      | false =>
        -- the group was not checked, as its device was not
        have hnot : marks.1 = false := by
          rw [hconsistent, ← Bool.not_eq_true, List.all_eq_true]
          intro hall
          cases hall false (List.mem_of_getElem? ((markOf_device_eq hmarks j).symm.trans hold))
        rw [hnot]
        rfl

end Handler

/-! ### The page -/

/-- `CBlacklistDlg`. `refreshPosted` tells that `WM_USER_CM_NOTIFICATION_REFRESH` has been posted,
as `OnShowWindow` does first. -/
structure BlacklistPage where
  blacklist : DeviceTree := []
  filter : Bool := true
  gaming : Bool := true
  refreshPosted : Bool := true

/-- What reaches the page. The devices are those that are there at a refresh. -/
inductive BlacklistPageEvent where
  | showWindow
  | deviceInterfaceArrival
  | refresh (devNodes : DevNodes) (api : HidApi)
  | click (hItem : TreeItem)
  | checkFilter (checked : Bool)
  | checkGaming (checked : Bool)
  | checkEnable (checked : Bool)

namespace BlacklistPage

section Step

variable (notifies : Bool) (otherState : TreeItem → UInt32) (textLe : WString → WString → Bool)
  (strCmpLogical : WString → WString → Bool)

/-- The page after an event, and what it calls of the proxy. Posted messages are handled before
input is, and the arrival of a device is not input to the page. -/
def step (proxy : Proxy) (page : BlacklistPage) :
    BlacklistPageEvent → Option (BlacklistPage × List Proxy.Call)
  | .showWindow | .deviceInterfaceArrival => some ({ page with refreshPosted := true }, [])
  | .refresh devNodes api =>
      if page.refreshPosted then
        (devNodes.hidDevices api strCmpLogical false).map fun all =>
          ({ page with
            blacklist := onUserMessageRefresh proxy.blacklist textLe page.gaming page.filter
              all.toList
            refreshPosted := false }, [])
      else none
  | .click hItem =>
      if page.refreshPosted then none
      else
        (markOf page.blacklist hItem).bind fun old =>
          (HidHide.click notifies otherState 3 ⟨page.blacklist, []⟩ (!old) hItem).map fun dlg =>
            ({ page with blacklist := dlg.blacklist }, dlg.passed.reverse.map .setBlacklist)
  | .checkFilter checked =>
      if page.refreshPosted then none
      else some ({ page with filter := checked, refreshPosted := true }, [])
  | .checkGaming checked =>
      if page.refreshPosted then none
      else some ({ page with gaming := checked, refreshPosted := true }, [])
  | .checkEnable checked =>
      if page.refreshPosted then none else some (page, [.setActive checked])

end Step

/-- The devices of these groups that are on the list are shown, and checked, whatever the filters
leave out. -/
def ShowsBlacklisted (blacklist : DeviceInstancePaths) (all : FriendlyNamesAndHidDeviceInformation)
    (tree : DeviceTree) : Prop :=
  ∀ devices ∈ all.toList.map (·.2), ∀ device ∈ devices, device.deviceInstancePath ∈ blacklist →
    ∃ item ∈ tree, item.devices = devices ∧
      ∃ child ∈ item.children, child.itemData = device ∧ child.checked

/-- What an event makes of the blacklist and of the page. -/
def Acts (notifies : Bool) (strCmpLogical : WString → WString → Bool)
    (blacklist : DeviceInstancePaths) (page : BlacklistPage) (e : BlacklistPageEvent)
    (blacklist' : DeviceInstancePaths) (page' : BlacklistPage) : Prop :=
  match e with
  | .refresh devNodes api =>
      blacklist' = blacklist ∧
        ∃ all, devNodes.hidDevices api strCmpLogical false = some all ∧
          ShowsGroups all page'.blacklist ∧ ShowsBlacklisted blacklist all page'.blacklist
  | .click hItem =>
      (∃ old marks, markOf page.blacklist hItem = some old ∧
        marksOf page.blacklist hItem.groupIndex = some marks ∧
          marksOf page'.blacklist hItem.groupIndex =
            some (clickedMarks notifies (!old) hItem marks)) ∧
      OnlyMarks hItem.groupIndex page.blacklist page'.blacklist ∧
      ∀ path, path ∈ blacklist' ↔ StandsForMark page'.blacklist path
  | _ => blacklist' = blacklist ∧ page'.blacklist = page.blacklist

/-! ### One event -/

/-- The marks of each group are consistent. -/
theorem marksConsistent_iff {tree : DeviceTree} : MarksConsistent tree ↔
    ∀ i marks, marksOf tree i = some marks → marks.1 = marks.2.all id := by
  have hall : ∀ item : GroupItem,
      (item.groupMarks.1 = item.groupMarks.2.all id) =
        (item.checked = item.children.all (·.checked)) := fun item => by
    simp [GroupItem.groupMarks]
  constructor
  · intro h i marks hmarks
    obtain ⟨item, hitem, rfl⟩ := Option.map_eq_some_iff.mp hmarks
    rw [hall]
    exact h item (List.mem_of_getElem? hitem)
  · intro h item hmem
    obtain ⟨i, hi⟩ := List.mem_iff_getElem?.mp hmem
    rw [← hall]
    exact h i _ (Option.map_eq_some_iff.mpr ⟨item, hi, rfl⟩)

/-- A click leaves the marks of its group consistent. -/
theorem clickedMarks_consistent (notifies checked : Bool) {hItem : TreeItem}
    {marks : Bool × List Bool} (hne : marks.2 ≠ [])
    (hdevice : ∀ i j, hItem = .device i j → j < marks.2.length) :
    (clickedMarks notifies checked hItem marks).1 =
      (clickedMarks notifies checked hItem marks).2.all id := by
  cases hItem with
  | group i =>
    rw [clickedMarks, List.all_map]
    cases checked with
    | true => exact (List.all_eq_true.mpr fun _ _ => rfl).symm
    | false =>
      obtain ⟨mark, hmark⟩ := List.exists_mem_of_ne_nil _ hne
      refine (Bool.eq_false_iff.mpr fun hall => ?_).symm
      cases List.all_eq_true.mp hall mark hmark
  | device i j =>
    rw [clickedMarks]
    cases checked with
    | true => rfl
    | false =>
      -- the device that is unchecked is among them
      have hset : false ∈ marks.2.set j false := by
        rw [List.mem_iff_getElem?]
        exact ⟨j, List.getElem?_set_self (hdevice i j rfl)⟩
      have hmem : false ∈ if notifies && marks.1 then (marks.2.set j false).map fun _ => false
          else marks.2.set j false := by
        split_ifs
        · exact List.mem_map.mpr ⟨false, hset, rfl⟩
        · exact hset
      rw [if_neg Bool.false_ne_true]
      refine (Bool.eq_false_iff.mpr fun hall => ?_).symm
      cases List.all_eq_true.mp hall false hmem

/-- What a refresh fills in is consistent. -/
theorem marksConsistent_onUserMessageRefresh (blacklist : DeviceInstancePaths)
    (textLe : WString → WString → Bool) (gaming filter : Bool) (itemData : BlacklistItemData) :
    MarksConsistent (onUserMessageRefresh blacklist textLe gaming filter itemData) := by
  intro item hitem
  rw [onUserMessageRefresh, List.mem_mergeSort, fillTree, List.mem_map] at hitem
  obtain ⟨⟨text, devices⟩, -, rfl⟩ := hitem
  rw [groupItem, List.all_map]
  dsimp only [Function.comp_def]
  cases topLevelEntryBlacklisted blacklist devices with
  | true => simp
  | false => rfl

/-- A device that is on the list keeps the filters from leaving out its group. -/
theorem showsBlacklisted_onUserMessageRefresh (blacklist : DeviceInstancePaths)
    (textLe : WString → WString → Bool) (gaming filter : Bool)
    (all : FriendlyNamesAndHidDeviceInformation) :
    ShowsBlacklisted blacklist all
      (onUserMessageRefresh blacklist textLe gaming filter all.toList) := by
  intro devices hdevices device hdevice hlisted
  obtain ⟨⟨text, _⟩, hentry, rfl⟩ := List.mem_map.mp hdevices
  have hchild : childEntryBlacklisted blacklist device := childEntryBlacklisted_iff.mpr hlisted
  refine ⟨groupItem blacklist (text, _), ?_, devices_groupItem _ _, _, List.mem_map_of_mem hdevice,
    rfl, ?_⟩
  · rw [onUserMessageRefresh, List.mem_mergeSort, fillTree]
    refine List.mem_map_of_mem (List.mem_filter.mpr ⟨hentry, ?_⟩)
    have hany : List.any _ (childEntryBlacklisted blacklist) = true :=
      List.any_eq_true.mpr ⟨device, hdevice, hchild⟩
    rw [skipsEntry, hany]
    simp
  · rw [Bool.or_eq_true]
    exact .inr hchild

/-- The list that is passed last is the list of the proxy. -/
theorem blacklist_setBlacklists (proxy : Proxy) {passed : List DeviceInstancePaths}
    {paths : DeviceInstancePaths} (h : passed.head? = some paths) :
    ((passed.reverse.map Proxy.Call.setBlacklist).foldl Proxy.after proxy).blacklist = paths := by
  cases passed with
  | nil => cases h
  | cons paths' passed =>
    obtain rfl := Option.some.inj h
    rw [List.reverse_cons, List.map_append, List.foldl_append]
    generalize (passed.reverse.map Proxy.Call.setBlacklist).foldl Proxy.after proxy = proxy'
    change ((proxy'.after (.setBlacklist paths')).blacklist) = paths'
    rw [Proxy.after, Proxy.Call.blacklist]
    dsimp only
    by_cases heq : proxy'.blacklist = paths'
    · rw [if_neg (not_not.mpr heq)]
      exact heq
    · rw [if_pos heq]
      rfl

/-- The marks are consistent, and there is no group without devices. -/
structure WellMarked (tree : DeviceTree) : Prop where
  consistent : MarksConsistent tree
  ne_nil : ∀ item ∈ tree, item.devices ≠ []

/-- What is called of the proxy makes the blacklist another one, and the marks are consistent. -/
def Leaves (notifies : Bool) (strCmpLogical : WString → WString → Bool) (proxy : Proxy)
    (page : BlacklistPage) (e : BlacklistPageEvent) (r : BlacklistPage × List Proxy.Call) : Prop :=
  WellMarked r.1.blacklist ∧ page.Acts notifies strCmpLogical proxy.blacklist e
    (r.2.foldl Proxy.after proxy).blacklist r.1

/-- **A click** keeps the marks consistent, and sets the list that they stand for. -/
theorem click_leaves {notifies : Bool} {otherState : TreeItem → UInt32}
    (hrelates : ∀ item checked, relatesToChange (itemState (otherState item) (!checked))
      (itemState (otherState item) checked)) (strCmpLogical : WString → WString → Bool)
    (proxy : Proxy) {page : BlacklistPage} (hmarked : WellMarked page.blacklist)
    {hItem : TreeItem} {old : Bool}
    (hold : markOf page.blacklist hItem = some old) {dlg : BlacklistDlg}
    (h : HidHide.click notifies otherState 3 ⟨page.blacklist, []⟩ (!old) hItem = some dlg) :
    page.Leaves notifies strCmpLogical proxy (.click hItem)
      ({ page with blacklist := dlg.blacklist }, dlg.passed.reverse.map .setBlacklist) := by
  have honly : OnlyMarks hItem.groupIndex page.blacklist dlg.blacklist :=
    changeMark_onlyMarks otherState (changesOneGroup notifies otherState _) h
  obtain ⟨item, hitem⟩ : ∃ item, page.blacklist[hItem.groupIndex]? = some item := by
    cases hItem with
    | group i => exact (Option.map_eq_some_iff.mp hold).imp fun _ h => h.1
    | device i j => exact (Option.bind_eq_some_iff.mp hold).imp fun _ h => h.1
  have hmarks : marksOf page.blacklist hItem.groupIndex = some item.groupMarks := by
    rw [marksOf, hitem]
    rfl
  have hclicked := @marksOf_click item.groupMarks notifies otherState 3 ⟨page.blacklist, []⟩ dlg
    hItem old hmarks (marksConsistent_iff.mp hmarked.consistent _ _ hmarks) hold hrelates h
  have hconsistent : MarksConsistent dlg.blacklist := by
    refine marksConsistent_iff.mpr fun k marks hk => ?_
    rcases eq_or_ne k hItem.groupIndex with rfl | hne
    · obtain rfl : _ = marks := Option.some.inj (hclicked.symm.trans hk)
      refine clickedMarks_consistent _ _ ?_ fun i j heq => ?_
      · have hdevices := hmarked.ne_nil item (List.mem_of_getElem? hitem)
        simpa [GroupItem.groupMarks, GroupItem.devices] using hdevices
      · subst heq
        have hdevice := (markOf_device_eq hmarks j).symm.trans hold
        exact (List.getElem?_eq_some_iff.mp hdevice).1
    · rw [marksOf, honly.others k hne] at hk
      exact marksConsistent_iff.mp hmarked.consistent k marks hk
  have hpassed : dlg.passed.head? = some (buildBlacklist dlg.blacklist) := by
    have hevent := hrelates hItem (!old)
    rw [Bool.not_not] at hevent
    rw [head?_passed_click notifies otherState hold h, if_pos hevent]
  refine ⟨⟨hconsistent, fun item' hitem' => ?_⟩, ⟨old, item.groupMarks, hold, hmarks, hclicked⟩,
    honly, fun path => ?_⟩
  · obtain ⟨k, hk⟩ := List.mem_iff_getElem?.mp hitem'
    rcases eq_or_ne k hItem.groupIndex with rfl | hne
    · have hdevices := honly.devices
      rw [hk, hitem] at hdevices
      rw [Option.some.inj hdevices]
      exact hmarked.ne_nil item (List.mem_of_getElem? hitem)
    · rw [honly.others k hne] at hk
      exact hmarked.ne_nil item' (List.mem_of_getElem? hk)
  · dsimp only
    rw [blacklist_setBlacklists proxy hpassed]
    exact mem_buildBlacklist_iff hconsistent

/-- **One event**: the marks stay consistent. -/
theorem step_leaves {notifies : Bool} {otherState : TreeItem → UInt32}
    (hrelates : ∀ item checked, relatesToChange (itemState (otherState item) (!checked))
      (itemState (otherState item) checked)) {textLe : WString → WString → Bool}
    {strCmpLogical : WString → WString → Bool} {proxy : Proxy} {page : BlacklistPage}
    {e : BlacklistPageEvent} {r : BlacklistPage × List Proxy.Call}
    (hmarked : WellMarked page.blacklist)
    (h : page.step notifies otherState textLe strCmpLogical proxy e = some r) :
    page.Leaves notifies strCmpLogical proxy e r := by
  cases e with
  | showWindow | deviceInterfaceArrival =>
    obtain rfl := Option.some.inj h
    exact ⟨hmarked, rfl, rfl⟩
  | refresh devNodes api =>
    rw [step] at h
    split_ifs at h
    obtain ⟨all, hall, rfl⟩ := Option.map_eq_some_iff.mp h
    have hgroups := showsGroups_onUserMessageRefresh all proxy.blacklist textLe page.gaming
      page.filter
    refine ⟨⟨marksConsistent_onUserMessageRefresh _ _ _ _ _, fun item hitem => ?_⟩, rfl, all, hall,
      hgroups, showsBlacklisted_onUserMessageRefresh _ _ _ _ _⟩
    obtain ⟨devices, -, hperm⟩ := hidDevices_eq_some hall
    exact ne_nil_of_mem_containerGroups (hperm.mem_iff.mp (hgroups item hitem))
  | click hItem =>
    rw [step] at h
    split_ifs at h
    obtain ⟨old, hold, h⟩ := Option.bind_eq_some_iff.mp h
    obtain ⟨dlg, hdlg, rfl⟩ := Option.map_eq_some_iff.mp h
    exact click_leaves hrelates strCmpLogical proxy hmarked hold hdlg
  | checkFilter checked | checkGaming checked | checkEnable checked =>
    rw [step] at h
    split_ifs at h
    obtain rfl := Option.some.inj h
    exact ⟨hmarked, rfl, rfl⟩

end BlacklistPage

end HidHide
