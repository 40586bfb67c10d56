import HidHide.Client.BlacklistDlg

/-!
# Changes of check marks

`OnTvnItemChangedTreeBlacklist` as a whole. The tree control notifies a change of the state of an
item, the handler passes the mark on within the group, and the list for all marks goes to the
driver. Whether the control also notifies the changes that the handler itself makes is not said
(`notifies`); if so, the handler is called again before the control returns. `none` is an exception,
or that there are more calls within each other than `fuel`; three are enough.

Marks change in the group that is clicked only (`OnlyMarks`), but the list is made from the tree,
and loses every entry that no item of the tree puts back (`click_keeps_iff`).
-/

namespace HidHide

/-! ### States and items -/

/-- `LVIS_STATE_CHECKBOX_MASK`. -/
def checkboxMask : UInt32 := 0x3000

/-- `LVIS_STATE_CHECKBOX_UNCHECKED`. -/
def checkboxUnchecked : UInt32 := 0x1000

/-- `LVIS_STATE_CHECKBOX_CHECKED`. -/
def checkboxChecked : UInt32 := 0x2000

/-- The state of an item: its check box, and what else the control keeps of it. -/
def itemState (otherState : UInt32) (checked : Bool) : UInt32 :=
  (if checked then checkboxChecked else checkboxUnchecked) ||| (~~~checkboxMask &&& otherState)

/-- The state has the check box checked. -/
def isChecked (state : UInt32) : Bool := checkboxMask &&& state = checkboxChecked

/-- The event relates to a change of a check box. -/
def relatesToChange (uStateOld uStateNew : UInt32) : Bool :=
  (uStateOld <<< 16) + uStateNew ∈ ([0x10022002, 0x10002000, 0x10602060, 0x10622062,
    0x20021002, 0x20001000, 0x20601060, 0x20621062] : List UInt32)

theorem isChecked_itemState (otherState : UInt32) (checked : Bool) :
    isChecked (itemState otherState checked) = checked := by
  have hother : checkboxMask &&& (~~~checkboxMask &&& otherState) = 0 := by
    rw [← UInt32.and_assoc, show checkboxMask &&& ~~~checkboxMask = 0 by decide, UInt32.zero_and]
  have hdistrib : ∀ a b c : UInt32, a &&& (b ||| c) = a &&& b ||| a &&& c := fun a b c =>
    UInt32.toBitVec_inj.mp BitVec.and_or_distrib_left
  rw [isChecked, itemState, hdistrib, hother, UInt32.or_zero]
  cases checked <;> decide

/-- `HTREEITEM`: the item of a group, or of a device of a group. -/
inductive TreeItem where
  | group (i : ℕ)
  | device (i j : ℕ)

/-- The group that the item belongs to. -/
def TreeItem.groupIndex : TreeItem → ℕ
  | group i => i
  | device i _ => i

/-- The mark of an item, if there is one. -/
def markOf (tree : DeviceTree) : TreeItem → Option Bool
  | .group i => tree[i]?.map (·.checked)
  | .device i j => tree[i]?.bind fun item => item.children[j]?.map (·.checked)

def setMark (tree : DeviceTree) (checked : Bool) : TreeItem → DeviceTree
  | .group i => tree.modify i fun item => { item with checked := checked }
  | .device i j => tree.modify i fun item => { item with
      children := item.children.modify j fun child => { child with checked := checked } }

/-- `SetItemImage`. -/
def setItemImage (tree : DeviceTree) (i : ℕ) (image : IconLock) : DeviceTree :=
  tree.modify i fun item => { item with image := image }

/-- The number of the children of a group. -/
def childCount (tree : DeviceTree) (i : ℕ) : ℕ := (tree[i]?.map (·.children.length)).getD 0

/-- `allChecked`. -/
def allChecked (tree : DeviceTree) (i : ℕ) : Bool :=
  (tree[i]?.map (·.children.all (·.checked))).getD true

/-! ### The handler -/

/-- `CBlacklistDlg`: the tree control, and what has been passed to `SetBlacklist`, the last
first. -/
structure BlacklistDlg where
  blacklist : DeviceTree
  passed : List DeviceInstancePaths

section Handler

variable (notifies : Bool) (otherState : TreeItem → UInt32)

/-- A change of the check box of an item, with the call of the handler if it is notified. -/
def changeMark (notified : Bool)
    (handler : BlacklistDlg → TreeItem → UInt32 → UInt32 → Option BlacklistDlg)
    (dlg : BlacklistDlg) (checked : Bool) (hItem : TreeItem) : Option BlacklistDlg :=
  match markOf dlg.blacklist hItem with
  | none => none
  | some old =>
      let changed := { dlg with blacklist := setMark dlg.blacklist checked hItem }
      if notified && old != checked then
        handler changed hItem (itemState (otherState hItem) old)
          (itemState (otherState hItem) checked)
      else some changed

/-- A top-level change is also applied to all of its children. -/
def applyToChildren (setItemState : BlacklistDlg → Bool → TreeItem → Option BlacklistDlg)
    (dlg : BlacklistDlg) (checked : Bool) (i : ℕ) : Option BlacklistDlg :=
  let image := if checked then .on else .off
  let dlg := { dlg with blacklist := setItemImage dlg.blacklist i image }
  (List.range (childCount dlg.blacklist i)).foldlM
    (fun dlg j => setItemState dlg checked (.device i j)) dlg

/-- The top-level parent is checked when all children are, and unchecked when one is unchecked. -/
def applyToParent (setItemState : BlacklistDlg → Bool → TreeItem → Option BlacklistDlg)
    (dlg : BlacklistDlg) (checked : Bool) (i : ℕ) : Option BlacklistDlg :=
  if checked then
    if allChecked dlg.blacklist i then
      setItemState { dlg with blacklist := setItemImage dlg.blacklist i .on } true (.group i)
    else some dlg
  else setItemState { dlg with blacklist := setItemImage dlg.blacklist i .off } false (.group i)

/-- **`OnTvnItemChangedTreeBlacklist`**. -/
def onTvnItemChangedTreeBlacklist :
    ℕ → BlacklistDlg → TreeItem → UInt32 → UInt32 → Option BlacklistDlg
  | 0, _, _, _, _ => none
  | fuel + 1, dlg, hItem, uStateOld, uStateNew =>
      if relatesToChange uStateOld uStateNew then
        let setItemState := changeMark otherState notifies (onTvnItemChangedTreeBlacklist fuel)
        let applied := match hItem with
          | .group i => applyToChildren setItemState dlg (isChecked uStateNew) i
          | .device i _ => applyToParent setItemState dlg (isChecked uStateNew) i
        applied.map fun dlg => { dlg with passed := buildBlacklist dlg.blacklist :: dlg.passed }
      else some dlg

/-- The check box of an item is clicked, which the control always notifies. -/
def click (fuel : ℕ) (dlg : BlacklistDlg) (checked : Bool) (hItem : TreeItem) :
    Option BlacklistDlg :=
  changeMark otherState true (onTvnItemChangedTreeBlacklist notifies otherState fuel) dlg checked
    hItem

end Handler

/-! ### Marks change in one group only -/

/-- The devices of the items of a group. -/
def GroupItem.devices (item : GroupItem) : List HidDeviceInformation :=
  item.children.map (·.itemData)

/-- Of the tree, nothing but marks and the icon of one group is changed. -/
structure OnlyMarks (i : ℕ) (tree tree' : DeviceTree) : Prop where
  devices : tree'[i]?.map GroupItem.devices = tree[i]?.map GroupItem.devices
  others : ∀ k, k ≠ i → tree'[k]? = tree[k]?

namespace OnlyMarks

variable {i : ℕ} {tree tree' tree'' : DeviceTree}

theorem refl (i : ℕ) (tree : DeviceTree) : OnlyMarks i tree tree := ⟨rfl, fun _ _ => rfl⟩

theorem trans (h : OnlyMarks i tree tree') (h' : OnlyMarks i tree' tree'') :
    OnlyMarks i tree tree'' :=
  ⟨h'.devices.trans h.devices, fun k hk => (h'.others k hk).trans (h.others k hk)⟩

theorem modify {f : GroupItem → GroupItem} (hf : ∀ item, (f item).devices = item.devices) :
    OnlyMarks i tree (tree.modify i f) where
  devices := by
    rw [List.getElem?_modify_eq]
    cases tree[i]? with
    | none => rfl
    | some item => exact congrArg some (hf item)
  others k hk := by
    rw [List.getElem?_modify_ne f tree (Ne.symm hk)]

theorem setMark (checked : Bool) (hItem : TreeItem) :
    OnlyMarks hItem.groupIndex tree (setMark tree checked hItem) := by
  cases hItem with
  | group i => exact modify fun _ => rfl
  | device i j =>
    refine modify fun item => ?_
    rw [GroupItem.devices, GroupItem.devices]
    refine List.ext_getElem? fun k => ?_
    rw [List.getElem?_map, List.getElem?_map, List.getElem?_modify]
    cases item.children[k]? with
    | none => rfl
    | some child => by_cases h : j = k <;> simp [h]

theorem setItemImage (i : ℕ) (image : IconLock) :
    OnlyMarks i tree (setItemImage tree i image) := modify fun _ => rfl

end OnlyMarks

section Handler

variable (notifies : Bool) (otherState : TreeItem → UInt32)
  {handler : BlacklistDlg → TreeItem → UInt32 → UInt32 → Option BlacklistDlg}

/-- What the handler is called for, directly or within itself, changes one group only. -/
def ChangesOneGroup
    (handler : BlacklistDlg → TreeItem → UInt32 → UInt32 → Option BlacklistDlg) : Prop :=
  ∀ dlg hItem uStateOld uStateNew dlg', handler dlg hItem uStateOld uStateNew = some dlg' →
    OnlyMarks hItem.groupIndex dlg.blacklist dlg'.blacklist

theorem changeMark_onlyMarks (hhandler : ChangesOneGroup handler) {notified checked : Bool}
    {dlg dlg' : BlacklistDlg} {hItem : TreeItem}
    (h : changeMark otherState notified handler dlg checked hItem = some dlg') :
    OnlyMarks hItem.groupIndex dlg.blacklist dlg'.blacklist := by
  rw [changeMark] at h
  rcases hmark : markOf dlg.blacklist hItem with _ | old
  · rw [hmark] at h
    cases h
  · rw [hmark] at h
    dsimp only at h
    split_ifs at h
    · exact (OnlyMarks.setMark checked hItem).trans (hhandler _ _ _ _ _ h)
    · obtain rfl := Option.some.inj h
      exact .setMark checked hItem

/-- What every iteration of a loop keeps to, the loop keeps to. -/
theorem foldlM_rel {α β : Type} {R : β → β → Prop} (hrefl : ∀ b, R b b)
    (htrans : ∀ {a b c}, R a b → R b c → R a c) {f : β → α → Option β}
    (hstep : ∀ b a b', f b a = some b' → R b b') {l : List α} {b b' : β}
    (h : l.foldlM f b = some b') : R b b' := by
  induction l generalizing b with
  | nil =>
    obtain rfl := Option.some.inj h
    exact hrefl b
  | cons a l ih =>
    rw [List.foldlM_cons] at h
    obtain ⟨c, hc, h⟩ := Option.bind_eq_some_iff.mp h
    exact htrans (hstep b a c hc) (ih h)

theorem applyToChildren_onlyMarks (hhandler : ChangesOneGroup handler) {notified checked : Bool}
    {dlg dlg' : BlacklistDlg} {i : ℕ}
    (h : applyToChildren (changeMark otherState notified handler) dlg checked i = some dlg') :
    OnlyMarks i dlg.blacklist dlg'.blacklist := by
  have hloop := foldlM_rel (R := fun a b : BlacklistDlg => OnlyMarks i a.blacklist b.blacklist)
    (fun _ => .refl i _) OnlyMarks.trans (fun a j b hstep => ?_) h
  · exact (OnlyMarks.setItemImage i _).trans hloop
  · exact @changeMark_onlyMarks otherState _ hhandler _ _ _ _ (.device i j) hstep

theorem applyToParent_onlyMarks (hhandler : ChangesOneGroup handler) {notified checked : Bool}
    {dlg dlg' : BlacklistDlg} {i : ℕ}
    (h : applyToParent (changeMark otherState notified handler) dlg checked i = some dlg') :
    OnlyMarks i dlg.blacklist dlg'.blacklist := by
  rw [applyToParent] at h
  split_ifs at h
  · exact (OnlyMarks.setItemImage i _).trans (changeMark_onlyMarks otherState hhandler h)
  · obtain rfl := Option.some.inj h
    exact .refl i _
  · exact (OnlyMarks.setItemImage i _).trans (changeMark_onlyMarks otherState hhandler h)

theorem changesOneGroup (fuel : ℕ) :
    ChangesOneGroup (onTvnItemChangedTreeBlacklist notifies otherState fuel) := by
  induction fuel with
  | zero =>
    intro dlg hItem uStateOld uStateNew dlg' h
    cases h
  | succ fuel ih =>
    intro dlg hItem uStateOld uStateNew dlg' h
    rw [onTvnItemChangedTreeBlacklist] at h
    split_ifs at h
    · obtain ⟨applied, happlied, rfl⟩ := Option.map_eq_some_iff.mp h
      change OnlyMarks _ _ applied.blacklist
      cases hItem with
      | group i => exact applyToChildren_onlyMarks otherState ih happlied
      | device i j => exact applyToParent_onlyMarks otherState ih happlied
    · obtain rfl := Option.some.inj h
      exact .refl _ _

/-- What is passed last is the list for the marks at the end. -/
theorem head?_passed {fuel : ℕ} {dlg dlg' : BlacklistDlg} {hItem : TreeItem}
    {uStateOld uStateNew : UInt32} (h : onTvnItemChangedTreeBlacklist notifies otherState (fuel + 1)
      dlg hItem uStateOld uStateNew = some dlg') :
    dlg'.passed.head? = if relatesToChange uStateOld uStateNew then
      some (buildBlacklist dlg'.blacklist) else dlg.passed.head? := by
  rw [onTvnItemChangedTreeBlacklist] at h
  split_ifs at h ⊢
  · obtain ⟨applied, -, rfl⟩ := Option.map_eq_some_iff.mp h
    rfl
  · obtain rfl := Option.some.inj h
    rfl

/-! ### The handler returns -/

/-- The group is there, with its mark and the number of its devices. -/
def GroupIs (tree : DeviceTree) (i : ℕ) (checked : Bool) (count : ℕ) : Prop :=
  ∃ item ∈ tree[i]?, item.checked = checked ∧ item.children.length = count

theorem GroupIs.setItemImage {tree : DeviceTree} {i count : ℕ} {checked : Bool}
    (h : GroupIs tree i checked count) (image : IconLock) :
    GroupIs (setItemImage tree i image) i checked count := by
  obtain ⟨item, hitem, hchecked, hcount⟩ := h
  refine ⟨{ item with image := image }, ?_, hchecked, hcount⟩
  rw [HidHide.setItemImage, List.getElem?_modify_eq, Option.mem_def.mp hitem]
  rfl

theorem GroupIs.setMark_group {tree : DeviceTree} {i count : ℕ} {checked : Bool}
    (h : GroupIs tree i checked count) (checked' : Bool) :
    GroupIs (setMark tree checked' (.group i)) i checked' count := by
  obtain ⟨item, hitem, -, hcount⟩ := h
  refine ⟨{ item with checked := checked' }, ?_, rfl, hcount⟩
  rw [setMark, List.getElem?_modify_eq, Option.mem_def.mp hitem]
  rfl

theorem GroupIs.setMark_device {tree : DeviceTree} {i count : ℕ} {checked : Bool}
    (h : GroupIs tree i checked count) (checked' : Bool) (j : ℕ) :
    GroupIs (setMark tree checked' (.device i j)) i checked count := by
  obtain ⟨item, hitem, hchecked, hcount⟩ := h
  refine ⟨{ item with
    children := item.children.modify j fun child => { child with checked := checked' } }, ?_,
    hchecked, ?_⟩
  · rw [setMark, List.getElem?_modify_eq, Option.mem_def.mp hitem]
    rfl
  · rw [List.length_modify, hcount]

theorem markOf_group {tree : DeviceTree} {i count : ℕ} {checked : Bool}
    (h : GroupIs tree i checked count) : markOf tree (.group i) = some checked := by
  obtain ⟨item, hitem, rfl, -⟩ := h
  rw [markOf, Option.mem_def.mp hitem]
  rfl

theorem markOf_device {tree : DeviceTree} {i j count : ℕ} {checked : Bool}
    (h : GroupIs tree i checked count) (hj : j < count) :
    ∃ old, markOf tree (.device i j) = some old := by
  obtain ⟨item, hitem, -, rfl⟩ := h
  refine ⟨item.children[j].checked, ?_⟩
  rw [markOf, Option.mem_def.mp hitem, Option.bind_some, List.getElem?_eq_getElem hj]
  rfl

/-- A mark that is set again is not notified. -/
theorem changeMark_same {notified checked : Bool} {dlg : BlacklistDlg} {hItem : TreeItem}
    (h : markOf dlg.blacklist hItem = some checked) :
    changeMark otherState notified handler dlg checked hItem =
      some { dlg with blacklist := setMark dlg.blacklist checked hItem } := by
  rw [changeMark, h]
  simp

/-- A loop of which every iteration returns, returns. -/
theorem foldlM_returns {α β : Type} {P : β → Prop} {f : β → α → Option β} {l : List α}
    (hstep : ∀ b, P b → ∀ a ∈ l, ∃ b', f b a = some b' ∧ P b') {b : β} (hb : P b) :
    ∃ b', l.foldlM f b = some b' ∧ P b' := by
  induction l generalizing b with
  | nil => exact ⟨b, rfl, hb⟩
  | cons a l ih =>
    obtain ⟨c, hc, hP⟩ := hstep b hb a List.mem_cons_self
    obtain ⟨b', hb', hP'⟩ := ih (fun b hb a ha => hstep b hb a (List.mem_cons_of_mem _ ha)) hP
    exact ⟨b', by rw [List.foldlM_cons, hc]; exact hb', hP'⟩

/-- The handler of a device whose group has the new mark does not call itself. -/
theorem device_returns (fuel : ℕ) {dlg : BlacklistDlg} {i count : ℕ} {checked : Bool}
    (h : GroupIs dlg.blacklist i checked count) (j : ℕ) (uStateOld : UInt32) {uStateNew : UInt32}
    (hnew : isChecked uStateNew = checked) :
    ∃ dlg', onTvnItemChangedTreeBlacklist notifies otherState (fuel + 1) dlg (.device i j)
      uStateOld uStateNew = some dlg' ∧ GroupIs dlg'.blacklist i checked count := by
  rw [onTvnItemChangedTreeBlacklist, hnew]
  split_ifs
  · dsimp only
    rw [applyToParent]
    split_ifs with hchecked hall
    · have himage := h.setItemImage .on
      rw [hchecked] at himage ⊢
      rw [changeMark_same otherState (markOf_group himage)]
      exact ⟨_, rfl, himage.setMark_group true⟩
    · exact ⟨_, rfl, h⟩
    · have himage := h.setItemImage .off
      rw [Bool.not_eq_true] at hchecked
      rw [hchecked] at himage ⊢
      rw [changeMark_same otherState (markOf_group himage)]
      exact ⟨_, rfl, himage.setMark_group false⟩
  · exact ⟨dlg, rfl, h⟩

/-- Nor does a mark of the group that is passed on to a device. -/
theorem changeMark_device_returns (fuel : ℕ) {dlg : BlacklistDlg} {i j count : ℕ} {checked : Bool}
    (h : GroupIs dlg.blacklist i checked count) (hj : j < count) :
    ∃ dlg', changeMark otherState notifies
        (onTvnItemChangedTreeBlacklist notifies otherState (fuel + 1)) dlg checked (.device i j) =
      some dlg' ∧ GroupIs dlg'.blacklist i checked count := by
  obtain ⟨old, hold⟩ := markOf_device h hj
  have hset := h.setMark_device checked j
  rw [changeMark, hold]
  dsimp only
  split_ifs
  · let changed : BlacklistDlg :=
      { dlg with blacklist := setMark dlg.blacklist checked (.device i j) }
    exact @device_returns notifies otherState fuel changed i count checked hset j _ _
      (isChecked_itemState _ _)
  · exact ⟨_, rfl, hset⟩

/-- The handler of a group that has the new mark calls itself for its devices. -/
theorem group_returns (fuel : ℕ) {dlg : BlacklistDlg} {i count : ℕ} {checked : Bool}
    (h : GroupIs dlg.blacklist i checked count) (uStateOld : UInt32) {uStateNew : UInt32}
    (hnew : isChecked uStateNew = checked) :
    ∃ dlg', onTvnItemChangedTreeBlacklist notifies otherState (fuel + 2) dlg (.group i)
      uStateOld uStateNew = some dlg' := by
  rw [onTvnItemChangedTreeBlacklist, hnew]
  split_ifs
  · have himage := h.setItemImage (if checked then .on else .off)
    have hcount : childCount (setItemImage dlg.blacklist i (if checked then .on else .off)) i =
        count := by
      obtain ⟨item, hitem, -, rfl⟩ := himage
      rw [childCount, Option.mem_def.mp hitem]
      rfl
    let start : BlacklistDlg :=
      { dlg with blacklist := setItemImage dlg.blacklist i (if checked then .on else .off) }
    obtain ⟨dlg', hdlg', -⟩ := @foldlM_returns _ _
      (fun dlg : BlacklistDlg => GroupIs dlg.blacklist i checked count) _ (List.range count)
      (fun dlg hdlg j hj => changeMark_device_returns notifies otherState fuel hdlg
        (List.mem_range.mp hj)) start himage
    dsimp only
    rw [applyToChildren]
    dsimp only
    rw [hcount, hdlg']
    exact ⟨_, rfl⟩
  · exact ⟨dlg, rfl⟩

/-- A change of the mark of a group, be it notified or not. -/
theorem changeMark_group_returns (fuel : ℕ) {dlg : BlacklistDlg} {i count : ℕ} {old : Bool}
    (h : GroupIs dlg.blacklist i old count) (notified checked : Bool) :
    ∃ dlg', changeMark otherState notified
        (onTvnItemChangedTreeBlacklist notifies otherState (fuel + 2)) dlg checked (.group i) =
      some dlg' := by
  have hset := h.setMark_group checked
  rw [changeMark, markOf_group h]
  dsimp only
  split_ifs
  · let changed : BlacklistDlg := { dlg with blacklist := setMark dlg.blacklist checked (.group i) }
    exact @group_returns notifies otherState fuel changed i count checked hset _ _
      (isChecked_itemState _ _)
  · exact ⟨_, rfl⟩

/-- The mark of a device is passed on to its group, of which it may be the only one to differ. -/
theorem applyToParent_returns (fuel : ℕ) {dlg : BlacklistDlg} {i count : ℕ} {old : Bool}
    (h : GroupIs dlg.blacklist i old count) (checked : Bool) :
    ∃ dlg', applyToParent (changeMark otherState notifies
      (onTvnItemChangedTreeBlacklist notifies otherState (fuel + 2))) dlg checked i =
        some dlg' := by
  have hgroup : ∀ image checked, ∃ dlg', changeMark otherState notifies
      (onTvnItemChangedTreeBlacklist notifies otherState (fuel + 2))
      { dlg with blacklist := setItemImage dlg.blacklist i image } checked (.group i) =
        some dlg' := fun image checked =>
    @changeMark_group_returns notifies otherState fuel
      { dlg with blacklist := setItemImage dlg.blacklist i image } i count old
      (h.setItemImage image) notifies checked
  rw [applyToParent]
  split_ifs
  · exact hgroup .on true
  · exact ⟨dlg, rfl⟩
  · exact hgroup .off false

/-- **The handler returns**: it calls itself at most for the group of a device, and that for its
devices. -/
theorem click_returns {fuel : ℕ} (hfuel : 3 ≤ fuel) {dlg : BlacklistDlg} {hItem : TreeItem}
    {old : Bool} (h : markOf dlg.blacklist hItem = some old) (checked : Bool) :
    ∃ dlg', click notifies otherState fuel dlg checked hItem = some dlg' := by
  obtain ⟨fuel, rfl⟩ := Nat.exists_eq_add_of_le' hfuel
  cases hItem with
  | group i =>
    obtain ⟨item, hitem, rfl⟩ := Option.map_eq_some_iff.mp h
    exact changeMark_group_returns notifies otherState (fuel + 1)
      ⟨item, hitem, rfl, rfl⟩ true checked
  | device i j =>
    obtain ⟨item, hitem, hold⟩ := Option.bind_eq_some_iff.mp h
    have hgroup : GroupIs dlg.blacklist i item.checked item.children.length :=
      ⟨item, hitem, rfl, rfl⟩
    let changed : BlacklistDlg :=
      { dlg with blacklist := setMark dlg.blacklist checked (.device i j) }
    have hchanged : GroupIs changed.blacklist i item.checked item.children.length :=
      hgroup.setMark_device checked j
    rw [click, changeMark, h]
    dsimp only
    split_ifs
    · rw [onTvnItemChangedTreeBlacklist]
      split_ifs
      · obtain ⟨dlg', hdlg'⟩ := applyToParent_returns notifies otherState fuel hchanged
          (isChecked (itemState (otherState (.device i j)) checked))
        exact ⟨_, Option.map_eq_some_iff.mpr ⟨dlg', hdlg', rfl⟩⟩
      · exact ⟨changed, rfl⟩
    · exact ⟨changed, rfl⟩

end Handler

/-! ### What is on the list -/

/-- The path is an instance path, an XUSB path or a base container path of one of the devices. -/
def IsPathOf (devices : List HidDeviceInformation) (path : WString) : Prop :=
  ∃ device ∈ devices, path = device.deviceInstancePath ∨
    device.xusbDeviceInstancePath ≠ [] ∧ path = device.xusbDeviceInstancePath ∨
    path = device.baseContainerDeviceInstancePath

/-- An item with the devices is marked for the path, and has the path put back on the list. -/
def PutsBack (devices : List HidDeviceInformation) (path : WString) : Prop :=
  (∃ device ∈ devices, path = device.deviceInstancePath ∨
    device.xusbDeviceInstancePath ≠ [] ∧ path = device.xusbDeviceInstancePath) ∨
  ∃ first ∈ devices.head?, baseContainerCanBeBlocked devices.length first ∧
    path = first.baseContainerDeviceInstancePath

/-- What a group puts on the list is a path of its devices. -/
theorem isPathOf_of_mem_paths {item : GroupItem} {path : WString} (h : path ∈ item.paths) :
    IsPathOf item.devices path := by
  rw [GroupItem.paths, List.mem_append, GroupItem.mem_topPaths, List.mem_flatMap] at h
  have hdevices : ∀ child ∈ item.children, child.itemData ∈ item.devices := fun child hchild =>
    List.mem_map_of_mem hchild
  rcases h with ⟨first, hfirst, -, ⟨-, rfl⟩ | hxusb⟩ | ⟨child, hchild, hpath⟩
  · exact ⟨_, hdevices first (List.mem_of_mem_head? hfirst), .inr (.inr rfl)⟩
  · exact ⟨_, hdevices first (List.mem_of_mem_head? hfirst), .inr (.inl hxusb)⟩
  · obtain ⟨-, rfl | hxusb⟩ := DeviceItem.mem_paths.mp hpath
    · exact ⟨_, hdevices child hchild, .inl rfl⟩
    · exact ⟨_, hdevices child hchild, .inr (.inl hxusb)⟩

/-- Of the list that it is filled in from, an item puts back what it is marked for. -/
theorem mem_paths_groupItem_iff {blacklist : DeviceInstancePaths}
    {entry : WString × List HidDeviceInformation} {path : WString} (hpath : path ∈ blacklist) :
    path ∈ (groupItem blacklist entry).paths ↔ PutsBack entry.2 path := by
  obtain ⟨text, devices⟩ := entry
  have htop : topLevelEntryBlacklisted blacklist devices →
      (groupItem blacklist (text, devices)).checked = true := fun h => by simp [groupItem, h]
  rw [GroupItem.paths, List.mem_append, GroupItem.mem_topPaths, List.mem_flatMap, PutsBack]
  constructor
  · rintro (⟨first, hfirst, -, ⟨hblocked, rfl⟩ | hxusb⟩ | ⟨child, hchild, hmem⟩)
    · obtain ⟨device, hdevice, rfl⟩ := Option.map_eq_some_iff.mp
        ((List.head?_map (f := _) (l := devices)).symm.trans hfirst)
      refine .inr ⟨device, hdevice, ?_, rfl⟩
      simpa [groupItem] using hblocked
    · obtain ⟨device, hdevice, rfl⟩ := List.mem_map.mp (List.mem_of_mem_head? hfirst)
      exact .inl ⟨device, hdevice, .inr hxusb⟩
    · obtain ⟨device, hdevice, rfl⟩ := List.mem_map.mp hchild
      exact .inl ⟨device, hdevice, (DeviceItem.mem_paths.mp hmem).2⟩
  · rintro (⟨device, hdevice, rfl | ⟨hne, rfl⟩⟩ | ⟨first, hfirst, hblocked, rfl⟩)
    · refine .inr ⟨_, List.mem_map_of_mem hdevice, DeviceItem.mem_paths.mpr ⟨?_, .inl rfl⟩⟩
      rw [Bool.or_eq_true]
      exact .inr (childEntryBlacklisted_iff.mpr hpath)
    · -- the whole group is checked
      refine .inr ⟨_, List.mem_map_of_mem hdevice, DeviceItem.mem_paths.mpr ⟨?_, .inr ⟨hne, rfl⟩⟩⟩
      rw [Bool.or_eq_true]
      exact .inl (topLevelEntryBlacklisted_iff.mpr (.inr ⟨device, hdevice, hne, hpath⟩))
    · rcases devices with _ | ⟨device, devices⟩
      · cases hfirst
      · obtain rfl := Option.some.inj hfirst
        refine .inl ⟨_, rfl, htop (topLevelEntryBlacklisted_iff.mpr (.inl hpath)), .inl ⟨?_, rfl⟩⟩
        simpa [groupItem] using hblocked

theorem devices_groupItem (blacklist : DeviceInstancePaths)
    (entry : WString × List HidDeviceInformation) :
    (groupItem blacklist entry).devices = entry.2 := by
  simp [groupItem, GroupItem.devices, Function.comp_def]

/-- The items of a tree come from groups of devices. -/
theorem groupItem_of_mem {blacklist : DeviceInstancePaths} {textLe : WString → WString → Bool}
    {gaming filter : Bool} {itemData : BlacklistItemData} {item : GroupItem}
    (h : item ∈ onUserMessageRefresh blacklist textLe gaming filter itemData) :
    groupItem blacklist (item.text, item.devices) = item := by
  rw [onUserMessageRefresh, List.mem_mergeSort, fillTree, List.mem_map] at h
  obtain ⟨⟨text, devices⟩, -, rfl⟩ := h
  rw [devices_groupItem]
  rfl

section Click

variable (notifies : Bool) (otherState : TreeItem → UInt32) (blacklist : DeviceInstancePaths)
  (textLe : WString → WString → Bool) (gaming filter : Bool) (itemData : BlacklistItemData)

/-- An entry that is no path of the group in which marks change is put back by another item. -/
theorem mem_buildBlacklist_onlyMarks {i : ℕ} {tree' : DeviceTree} {item : GroupItem}
    (hmarks : OnlyMarks i (onUserMessageRefresh blacklist textLe gaming filter itemData) tree')
    (hitem : item ∈ (onUserMessageRefresh blacklist textLe gaming filter itemData)[i]?)
    {path : WString} (hpath : path ∈ blacklist) (hother : ¬IsPathOf item.devices path) :
    path ∈ buildBlacklist tree' ↔ ∃ k, k ≠ i ∧
      ∃ other ∈ (onUserMessageRefresh blacklist textLe gaming filter itemData)[k]?,
        PutsBack other.devices path := by
  have hputsBack : ∀ other ∈ onUserMessageRefresh blacklist textLe gaming filter itemData,
      path ∈ other.paths ↔ PutsBack other.devices path := fun other hmem => by
    rw [← @mem_paths_groupItem_iff blacklist (other.text, other.devices) path hpath,
      groupItem_of_mem hmem]
  rw [mem_buildBlacklist]
  constructor
  · rintro ⟨other, hmem, hpaths⟩
    obtain ⟨k, hk⟩ := List.mem_iff_getElem?.mp hmem
    by_cases hki : k = i
    · -- marks aside, it is the item of the group
      subst hki
      have hdevices := hmarks.devices
      rw [hk, Option.mem_def.mp hitem, Option.map_some, Option.map_some] at hdevices
      have hdevices : other.devices = item.devices := Option.some.inj hdevices
      exact absurd (hdevices ▸ isPathOf_of_mem_paths hpaths) hother
    · rw [hmarks.others k hki] at hk
      exact ⟨k, hki, other, hk, (hputsBack other (List.mem_of_getElem? hk)).mp hpaths⟩
  · rintro ⟨k, hki, other, hk, hshown⟩
    refine ⟨other, ?_, (hputsBack other (List.mem_of_getElem? hk)).mpr hshown⟩
    exact List.mem_of_getElem? ((hmarks.others k hki).trans hk)

/-- What a click passes to the driver last. -/
theorem head?_passed_click {fuel : ℕ} {tree : DeviceTree} {dlg : BlacklistDlg} {clicked : TreeItem}
    {old : Bool} (hclicked : markOf tree clicked = some old)
    (h : click notifies otherState (fuel + 1) ⟨tree, []⟩ (!old) clicked = some dlg) :
    dlg.passed.head? = if relatesToChange (itemState (otherState clicked) old)
      (itemState (otherState clicked) (!old)) then some (buildBlacklist dlg.blacklist)
      else none := by
  rw [click, changeMark, hclicked] at h
  have hchanged : (true && old != !old) = true := by cases old <;> rfl
  dsimp only at h
  rw [if_pos hchanged] at h
  exact head?_passed notifies otherState h

/-- **A click changes its own device only**, of what the driver has, exactly when every other entry
is put back by another item of the tree. -/
theorem click_keeps_iff {fuel : ℕ} (hfuel : 3 ≤ fuel) {clicked : TreeItem} {old : Bool}
    (hclicked : markOf (onUserMessageRefresh blacklist textLe gaming filter itemData) clicked =
      some old) :
    ∃ dlg item,
      click notifies otherState fuel
        ⟨onUserMessageRefresh blacklist textLe gaming filter itemData, []⟩ (!old) clicked =
          some dlg ∧
      item ∈ (onUserMessageRefresh blacklist textLe gaming filter itemData)[clicked.groupIndex]? ∧
      ((∀ passed ∈ dlg.passed.head?, ∀ path ∈ blacklist, ¬IsPathOf item.devices path →
          path ∈ passed) ↔
        (relatesToChange (itemState (otherState clicked) old)
            (itemState (otherState clicked) (!old)) →
          ∀ path ∈ blacklist, IsPathOf item.devices path ∨ ∃ k, k ≠ clicked.groupIndex ∧
            ∃ other ∈ (onUserMessageRefresh blacklist textLe gaming filter itemData)[k]?,
              PutsBack other.devices path)) := by
  obtain ⟨item, hitem⟩ : ∃ item,
      (onUserMessageRefresh blacklist textLe gaming filter itemData)[clicked.groupIndex]? =
        some item := by
    cases clicked with
    | group i => exact (Option.map_eq_some_iff.mp hclicked).imp fun _ h => h.1
    | device i j => exact (Option.bind_eq_some_iff.mp hclicked).imp fun _ h => h.1
  let before : BlacklistDlg := ⟨onUserMessageRefresh blacklist textLe gaming filter itemData, []⟩
  obtain ⟨dlg, hdlg⟩ := @click_returns notifies otherState fuel hfuel before clicked old hclicked
    (!old)
  have hmarks := changeMark_onlyMarks otherState (changesOneGroup notifies otherState _) hdlg
  obtain ⟨fuel, rfl⟩ := Nat.exists_eq_add_of_le' hfuel
  have hpassed := head?_passed_click notifies otherState hclicked hdlg
  refine ⟨dlg, item, hdlg, hitem, ?_⟩
  split_ifs at hpassed with hrelates
  · have hlist : ∀ path ∈ blacklist, (¬IsPathOf item.devices path →
        path ∈ buildBlacklist dlg.blacklist) ↔ (IsPathOf item.devices path ∨ _) :=
      fun path hpath => or_iff_not_imp_left.symm.trans (or_congr_right' fun hother =>
        mem_buildBlacklist_onlyMarks blacklist textLe gaming filter itemData hmarks hitem hpath
          hother)
    rw [hpassed]
    constructor
    · exact fun h _ path hpath => (hlist path hpath).mp (h _ rfl path hpath)
    · intro h passed hmem path hpath
      obtain rfl := Option.some.inj hmem
      exact (hlist path hpath).mpr (h hrelates path hpath)
  · rw [hpassed]
    exact iff_of_true (fun _ hmem => absurd hmem (by simp)) fun h => absurd h hrelates

end Click

/-! ### Two pads -/

/-- Two groups of one device. -/
def twoPads : BlacklistItemData :=
  [([0x31], [gamingDevice [0x42] [0x31]]), ([0x32], [gamingDevice [0x43] [0x32]])]

theorem refresh_twoPads (blacklist : DeviceInstancePaths) :
    onUserMessageRefresh blacklist (fun a b => decide (a ≤ b)) false false twoPads =
      twoPads.map (groupItem blacklist) := by
  have hfill : fillTree blacklist false false twoPads = twoPads.map (groupItem blacklist) := by
    simp [fillTree, skipsEntry]
  rw [onUserMessageRefresh, hfill]
  have hle : ([0x31] : WString) ≤ [0x32] := by decide
  exact List.mergeSort_of_pairwise (by simpa [twoPads, groupItem] using hle)

/-- The mark of the second pad is kept when the first one is clicked. -/
theorem click_keeps_twoPads :
    ∃ dlg, click true (fun _ => 0x60) 3
        ⟨onUserMessageRefresh (.ofList wstringLt [[0x48, 0x49, 0x44, 0x5C, 0x32]])
          (fun a b => decide (a ≤ b)) false false twoPads, []⟩ true (.group 0) = some dlg ∧
      ∀ passed ∈ dlg.passed.head?, [0x48, 0x49, 0x44, 0x5C, 0x32] ∈ passed := by
  obtain ⟨dlg, item, hdlg, hitem, hiff⟩ := @click_keeps_iff true (fun _ => 0x60)
    (.ofList wstringLt [[0x48, 0x49, 0x44, 0x5C, 0x32]]) (fun a b => decide (a ≤ b)) false false
    twoPads 3 (le_refl 3) (.group 0) false (by rw [refresh_twoPads]; decide)
  rw [refresh_twoPads] at hdlg hitem hiff
  rw [refresh_twoPads]
  obtain rfl := Option.some.inj hitem
  refine ⟨dlg, hdlg, fun passed hpassed => ?_⟩
  refine hiff.mpr (fun _ path hpath => .inr ⟨1, by decide, _, rfl, ?_⟩) passed hpassed _
    (by decide) ?_
  · obtain rfl := List.mem_singleton.mp (OrderedSet.mem_of_mem_ofList hpath)
    exact .inl ⟨gamingDevice [0x43] [0x32], List.mem_singleton.mpr rfl, .inl rfl⟩
  · simp [IsPathOf, gamingDevice, groupItem, GroupItem.devices]

/-- An entry of a device that is not enumerated is lost when a pad is clicked. -/
theorem click_loses_unknownDevice :
    ∃ dlg passed, click false (fun _ => 0) 3
        ⟨onUserMessageRefresh (.ofList wstringLt [[0x58]]) (fun a b => decide (a ≤ b)) false false
          twoPads, []⟩ true (.device 0 0) = some dlg ∧
      dlg.passed.head? = some passed ∧
      [0x58] ∈ (OrderedSet.ofList wstringLt [[0x58]] : DeviceInstancePaths) ∧
      ¬IsPathOf [gamingDevice [0x42] [0x31]] [0x58] ∧ [0x58] ∉ passed := by
  rw [refresh_twoPads]
  refine ⟨_, _, rfl, rfl, by decide, ?_, by decide⟩
  simp [IsPathOf, gamingDevice]

end HidHide
