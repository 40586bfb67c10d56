import HidHide.ForMathlib.ListBox
import HidHide.Client.ProxyCalls

/-!
# The whitelist dialog

`WhitelistDlg.cpp`: a list box shows the whitelist of the proxy. It is filled anew on a posted
message, with the entries selected whose files are missing, and the whitelist is set to what is in
the list box. So no entry must be lost on the way, whatever the order of the list box.

Each action does to the whitelist what its button says (`step_leaves`). Deleting what a refresh has
selected is the `app-clean` of the command line (`refresh_delete_eq_appClean`).
-/

namespace HidHide

/-- `ListBoxToPathSet`. -/
def listBoxToPathSet (listBox : List WString) : OrderedSet pathLt :=
  OrderedSet.ofList pathLt listBox

/-- `CWhitelistDlg`. `refreshPosted` tells that `WM_USER_CM_NOTIFICATION_REFRESH` has been posted,
as `OnShowWindow` does first. -/
structure WhitelistDlg where
  whitelist : ListBox WString := []
  dropTargetFullImageNames : OrderedSet pathLt := ∅
  refreshPosted : Bool := true

namespace WhitelistDlg

-- where the list box puts a string
variable (position : ListBox WString → WString → ℕ)

/-- The loop in `OnUserMessageRefresh`: an entry whose file is missing is selected. -/
def addEntry (env : Environment) (listBox : ListBox WString) (fullImageName : WString) :
    Option (ListBox WString) :=
  (CommandInterpreter.imageExists env fullImageName).map fun there =>
    let r := listBox.addString (position listBox fullImageName) fullImageName
    if !there then r.1.setSel r.2 true else r.1

/-- `OnUserMessageRefresh`, with the whitelist of the proxy. There is no result when an exception
leaves it. -/
def onUserMessageRefresh (env : Environment) (fullImageNames : OrderedSet pathLt)
    (dlg : WhitelistDlg) : Option WhitelistDlg :=
  (fullImageNames.toList.foldlM (addEntry position env) []).map fun listBox =>
    { dlg with whitelist := listBox, refreshPosted := false }

/-- `SetWhitelist` with the content of the list box, and `Refresh`. -/
def setWhitelist (dlg : WhitelistDlg) : WhitelistDlg × List Proxy.Call :=
  ({ dlg with refreshPosted := true }, [.setWhitelist (listBoxToPathSet dlg.whitelist.texts)])

/-- `OnBnClickedButtonWhitelistInsert`, with the file that is chosen, if any. -/
def onBnClickedButtonWhitelistInsert (env : Environment) (file : Option WString)
    (dlg : WhitelistDlg) : Option (WhitelistDlg × List Proxy.Call) :=
  let dlg := { dlg with whitelist := dlg.whitelist.clearSel }
  match file with
  | none => some (dlg, [])
  | some file =>
      (fileNameToFullImageName env.volumes file).map fun fullImageName =>
        if dlg.whitelist.texts.contains fullImageName then (dlg, [])
        else
          let r := dlg.whitelist.addString (position dlg.whitelist fullImageName) fullImageName
          { dlg with whitelist := r.1 }.setWhitelist

/-- `OnBnClickedButtonWhitelistDelete`. -/
def onBnClickedButtonWhitelistDelete (dlg : WhitelistDlg) :
    Option (WhitelistDlg × List Proxy.Call) :=
  dlg.whitelist.deleteSelected.map fun listBox => { dlg with whitelist := listBox }.setWhitelist

/-- The loop in `OnDragEnter`: a file that does not meet the criteria flushes the names. -/
def acceptFiles (env : Environment) (names : OrderedSet pathLt) :
    List WString → Option (OrderedSet pathLt)
  | [] => some names
  | file :: files =>
      if fileIsAnApplication file then
        match fileNameToFullImageName env.volumes file with
        | none => none
        | some [] => some ∅
        | some fullImageName => acceptFiles env (names.emplace fullImageName) files
      else some ∅

/-- `OnDragEnter`, with `DragTargetFileNames`. -/
def onDragEnter (env : Environment) (fileNames : OrderedSet pathLt) (dlg : WhitelistDlg) :
    Option WhitelistDlg :=
  (acceptFiles env ∅ fileNames.toList).map fun names =>
    { dlg with dropTargetFullImageNames := names }

/-- The loop in `OnDropEx`, with `dirty`. -/
def dropName (p : OrderedSet pathLt × Bool) (fullImageName : WString) :
    OrderedSet pathLt × Bool :=
  (p.1.emplace fullImageName, p.2 || !decide (p.1.Contains fullImageName))

/-- `OnDropEx`, with `MousePointerAtWhitelist` and the whitelist of the proxy. -/
def onDropEx (mousePointerAtWhitelist : Bool) (fullImageNames : OrderedSet pathLt)
    (dlg : WhitelistDlg) : WhitelistDlg × List Proxy.Call :=
  if dlg.dropTargetFullImageNames.toList = [] ∨ mousePointerAtWhitelist = false then (dlg, [])
  else
    let r := dlg.dropTargetFullImageNames.toList.foldl dropName (fullImageNames, false)
    if r.2 then ({ dlg with refreshPosted := true }, [.setWhitelist r.1]) else (dlg, [])

end WhitelistDlg

/-- What reaches the dialog, with the volumes and the files as they are then. -/
inductive WhitelistDlgEvent where
  | showWindow
  | refresh (env : Environment)
  | insert (env : Environment) (file : Option WString)
  | delete
  | dragEnter (env : Environment) (fileNames : OrderedSet pathLt)
  | drop (mousePointerAtWhitelist : Bool)
  | checkInverse (checked : Bool)
  | select (index : ℕ) (selected : Bool)

/-- The dialog after an event, and what it calls of the proxy. Posted messages are handled before
input is, and dragging and dropping are not input to the dialog. -/
def WhitelistDlg.step (position : ListBox WString → WString → ℕ) (proxy : Proxy)
    (dlg : WhitelistDlg) : WhitelistDlgEvent → Option (WhitelistDlg × List Proxy.Call)
  | .showWindow => some ({ dlg with refreshPosted := true }, [])
  | .refresh env =>
      if dlg.refreshPosted then
        (dlg.onUserMessageRefresh position env proxy.whitelist).map (·, [])
      else none
  | .insert env file =>
      if dlg.refreshPosted then none else dlg.onBnClickedButtonWhitelistInsert position env file
  | .delete => if dlg.refreshPosted then none else dlg.onBnClickedButtonWhitelistDelete
  | .dragEnter env fileNames => (dlg.onDragEnter env fileNames).map (·, [])
  | .drop mousePointerAtWhitelist => some (dlg.onDropEx mousePointerAtWhitelist proxy.whitelist)
  | .checkInverse checked => if dlg.refreshPosted then none else some (dlg, [.setInverse checked])
  | .select index selected =>
      if dlg.refreshPosted then none
      else some ({ dlg with whitelist := dlg.whitelist.setSel index selected }, [])

/-! ### The list box -/

namespace WhitelistDlg

variable (position : ListBox WString → WString → ℕ)

/-- The file of an application is missing. -/
def Missing (env : Environment) (fullImageName : WString) : Bool :=
  CommandInterpreter.imageExists env fullImageName = some false

/-- The loop adds each entry once, and it throws when the existence of a file is not known. -/
theorem foldlM_addEntry (env : Environment) (names : List WString) (listBox : ListBox WString) :
    (∃ l, names.foldlM (addEntry position env) listBox = some l ∧
        l.Perm (listBox ++ names.map fun name => (name, Missing env name)) ∧
        ∀ name ∈ names, CommandInterpreter.imageExists env name ≠ none) ∨
      names.foldlM (addEntry position env) listBox = none ∧
        ∃ name ∈ names, CommandInterpreter.imageExists env name = none := by
  induction names generalizing listBox with
  | nil => exact .inl ⟨listBox, rfl, by simp, by simp⟩
  | cons name names ih =>
    rcases hexists : CommandInterpreter.imageExists env name with _ | there
    · refine .inr ⟨?_, name, List.mem_cons_self, hexists⟩
      rw [List.foldlM_cons, addEntry, hexists]
      rfl
    · obtain ⟨l, hl, hperm⟩ : ∃ l, addEntry position env listBox name = some l ∧
          l.Perm ((name, Missing env name) :: listBox) := by
        rw [addEntry, hexists]
        cases there with
        | true =>
          refine ⟨_, rfl, ?_⟩
          rw [Missing, hexists]
          exact ListBox.addString_perm _ _ _
        | false =>
          refine ⟨_, rfl, ?_⟩
          rw [Missing, hexists]
          exact ListBox.setSel_addString_perm _ _ _ _
      rw [List.foldlM_cons, hl]
      rcases ih l with ⟨l', hl', hperm', hall⟩ | ⟨hnone, name', hname', hexists'⟩
      · refine .inl ⟨l', hl', ?_, List.forall_mem_cons.mpr ⟨by simp [hexists], hall⟩⟩
        rw [List.map_cons]
        exact hperm'.trans ((hperm.append_right _).trans List.perm_middle.symm)
      · exact .inr ⟨hnone, name', List.mem_cons_of_mem name hname', hexists'⟩

/-- The proxy keeps the whitelist that it has cached, if it is equivalent. -/
theorem whitelist_after_setWhitelist (proxy : Proxy) (fullImageNames : OrderedSet pathLt) :
    (proxy.after (.setWhitelist fullImageNames)).whitelist =
      if proxy.whitelist.Equiv fullImageNames then proxy.whitelist else fullImageNames := by
  rw [Proxy.after, Proxy.Call.whitelist]
  dsimp only
  by_cases hequiv : proxy.whitelist.Equiv fullImageNames
  · rw [if_neg (not_not.mpr hequiv), if_pos hequiv]
    rfl
  · rw [if_pos hequiv, if_neg hequiv]
    rfl

/-- If it is set to some of its entries, it has these afterwards. -/
theorem whitelist_after_setWhitelist_of_sublist {proxy : Proxy}
    {fullImageNames : OrderedSet pathLt}
    (h : fullImageNames.toList.Sublist proxy.whitelist.toList) :
    (proxy.after (.setWhitelist fullImageNames)).whitelist = fullImageNames := by
  rw [whitelist_after_setWhitelist]
  split_ifs with hequiv
  · -- as many entries as before
    exact OrderedSet.ext (h.eq_of_length hequiv.length_eq.symm).symm
  · rfl

theorem contains_after_setWhitelist (proxy : Proxy) (fullImageNames : OrderedSet pathLt)
    (a : WString) : (proxy.after (.setWhitelist fullImageNames)).whitelist.Contains a ↔
      fullImageNames.Contains a := by
  rw [whitelist_after_setWhitelist]
  split_ifs with hequiv
  · exact hequiv.contains_iff a
  · rfl

/-- The list box shows the whitelist, unless it is to be filled anew. -/
def Shows (fullImageNames : OrderedSet pathLt) (dlg : WhitelistDlg) : Prop :=
  dlg.refreshPosted = false → dlg.whitelist.texts.Perm fullImageNames.toList

/-- A refresh fills the list box with the whitelist, and selects the entries that are missing. -/
theorem onUserMessageRefresh_eq_some {env : Environment} {fullImageNames : OrderedSet pathLt}
    {dlg dlg' : WhitelistDlg}
    (h : dlg.onUserMessageRefresh position env fullImageNames = some dlg') :
    dlg'.refreshPosted = false ∧
      dlg'.whitelist.Perm (fullImageNames.toList.map fun name => (name, Missing env name)) := by
  rw [onUserMessageRefresh] at h
  rcases foldlM_addEntry position env fullImageNames.toList [] with
    ⟨l, hl, hperm, -⟩ | ⟨hnone, -⟩
  · rw [hl] at h
    obtain rfl := Option.some.inj h
    exact ⟨rfl, hperm⟩
  · rw [hnone] at h
    cases h

/-- Deleting leaves the entries of the whitelist that are not selected. -/
theorem onBnClickedButtonWhitelistDelete_eq {proxy : Proxy} {dlg : WhitelistDlg}
    (h : dlg.whitelist.texts.Perm proxy.whitelist.toList) :
    ∃ dlg' call, dlg.onBnClickedButtonWhitelistDelete = some (dlg', [call]) ∧
      dlg'.refreshPosted = true ∧
      (proxy.after call).whitelist.toList =
        proxy.whitelist.toList.filter fun name => (name, true) ∉ dlg.whitelist := by
  have hnodup : dlg.whitelist.texts.Nodup :=
    h.nodup_iff.mpr (OrderedSet.nodup_toList proxy.whitelist)
  obtain ⟨left, hleft⟩ : ∃ left : OrderedSet pathLt, left.toList =
      proxy.whitelist.toList.filter fun name => (name, true) ∉ dlg.whitelist :=
    ⟨⟨_, proxy.whitelist.sorted.filter _⟩, rfl⟩
  have hset : listBoxToPathSet (ListBox.texts (dlg.whitelist.filter fun x => !x.2)) = left := by
    refine OrderedSet.ofList_eq_of_perm ?_
    rw [ListBox.texts_filter_not_selected hnodup fun name => decide_eq_true_iff, hleft]
    exact h.filter _
  refine ⟨_, _, by rw [onBnClickedButtonWhitelistDelete, ListBox.deleteSelected_eq,
    Option.map_some, setWhitelist, hset], rfl, ?_⟩
  rw [whitelist_after_setWhitelist_of_sublist (hleft ▸ List.filter_sublist), hleft]

/-! ### Deleting what a refresh has selected -/

/-- `AppClean` takes out the entries whose files are missing. -/
theorem foldlM_clean (env : Environment) (names : List WString) (c : Configuration) :
    ((∃ c', names.foldlM (Configuration.clean env) c = some c' ∧
          c'.whitelist.toList = c.whitelist.toList.filter fun b =>
            ∀ name ∈ names, Missing env name → ¬OrderedSet.Equivalent pathLt name b) ∧
        ∀ name ∈ names, CommandInterpreter.imageExists env name ≠ none) ∨
      names.foldlM (Configuration.clean env) c = none ∧
        ∃ name ∈ names, CommandInterpreter.imageExists env name = none := by
  induction names generalizing c with
  | nil => exact .inl ⟨⟨c, rfl, by simp⟩, by simp⟩
  | cons name names ih =>
    rcases hexists : CommandInterpreter.imageExists env name with _ | there
    · refine .inr ⟨?_, name, List.mem_cons_self, hexists⟩
      rw [List.foldlM_cons, Configuration.clean, hexists]
      rfl
    · obtain ⟨c₁, hc₁, hwhitelist⟩ : ∃ c₁, Configuration.clean env c name = some c₁ ∧
          c₁.whitelist.toList = c.whitelist.toList.filter fun b =>
            Missing env name → ¬OrderedSet.Equivalent pathLt name b := by
        rw [Configuration.clean, Missing, hexists]
        cases there with
        | true => exact ⟨_, rfl, by simp⟩
        | false => exact ⟨_, rfl, by simp [OrderedSet.erase]⟩
      rw [List.foldlM_cons, hc₁]
      rcases ih c₁ with ⟨⟨c', hc', hfilter⟩, hall⟩ | ⟨hnone, name', hname', hexists'⟩
      · refine .inl ⟨⟨c', hc', ?_⟩, List.forall_mem_cons.mpr ⟨by simp [hexists], hall⟩⟩
        rw [hfilter, hwhitelist, List.filter_filter]
        refine List.filter_congr fun b _ => ?_
        simp only [List.forall_mem_cons, Bool.decide_and, Bool.and_comm]
      · exact .inr ⟨hnone, name', List.mem_cons_of_mem name hname', hexists'⟩

/-- **Cleaning**: after a refresh, deleting what is selected leaves the whitelist that the command
`app-clean` leaves, entry by entry, and an exception leaves both or none. -/
theorem refresh_delete_eq_appClean (env : Environment) (proxy : Proxy) (dlg : WhitelistDlg)
    (args : Args) :
    ((dlg.onUserMessageRefresh position env proxy.whitelist).bind
        onBnClickedButtonWhitelistDelete).map
      (fun r => (r.2.foldl Proxy.after proxy).whitelist) =
    (proxy.configuration.next env .appClean args).map (fun c => c.whitelist) := by
  obtain ⟨names, hnames⟩ : ∃ names, names = proxy.whitelist.toList := ⟨_, rfl⟩
  have hclean := foldlM_clean env names proxy.configuration
  have hfill := foldlM_addEntry position env names []
  have hnext : proxy.configuration.next env .appClean args =
      names.foldlM (Configuration.clean env) proxy.configuration := by
    rw [hnames]
    rfl
  rw [hnext]
  rcases hrefresh : dlg.onUserMessageRefresh position env proxy.whitelist with _ | dlg₁
  · -- the existence of a file is not known
    rw [onUserMessageRefresh, ← hnames, Option.map_eq_none_iff] at hrefresh
    rcases hfill with ⟨l, hl, -⟩ | ⟨-, name, hname, hexists⟩
    · rw [hl] at hrefresh
      cases hrefresh
    rcases hclean with ⟨-, hall⟩ | ⟨hnone, -⟩
    · exact absurd hexists (hall name hname)
    · rw [hnone]
      rfl
  · obtain ⟨-, hperm⟩ := onUserMessageRefresh_eq_some position hrefresh
    have hshows : dlg₁.whitelist.texts.Perm proxy.whitelist.toList := by
      simpa [ListBox.texts, Function.comp_def] using hperm.map Prod.fst
    obtain ⟨dlg₂, call, hdelete, -, hdeleted⟩ := onBnClickedButtonWhitelistDelete_eq hshows
    rw [← hnames] at hdeleted hperm
    rw [onUserMessageRefresh, ← hnames] at hrefresh
    rcases hclean with ⟨⟨c', hc', hfilter⟩, -⟩ | ⟨-, name, hname, hexists⟩
    · rw [Option.bind_some, hdelete, hc', Option.map_some, Option.map_some, Option.some_inj]
      refine OrderedSet.ext ?_
      have hwhitelist : proxy.configuration.whitelist.toList = names := hnames.symm
      refine hdeleted.trans ?_
      rw [hfilter, hwhitelist]
      refine List.filter_congr fun name hname => decide_eq_decide.mpr ?_
      -- an entry is selected if it is missing, and equivalent to no other
      rw [hperm.mem_iff, List.mem_map]
      constructor
      · intro hnot name' hname' hmissing hequiv
        rw [hnames] at hname hname'
        obtain rfl : name' = name := OrderedSet.eq_of_equivalent hname' hname hequiv
        rw [← hnames] at hname'
        exact hnot ⟨name', hname', by rw [hmissing]⟩
      · rintro hall ⟨name', hname', heq⟩
        obtain ⟨rfl, hmissing⟩ := Prod.mk.inj heq
        exact hall name' hname' hmissing (.refl name')
    · rcases hfill with ⟨-, -, -, hall⟩ | ⟨hnone, -⟩
      · exact absurd hexists (hall name hname)
      · rw [hnone] at hrefresh
        cases hrefresh

/-! ### What an event does -/

/-- The file is an application that is located on a volume. -/
def Accepted (env : Environment) (file : WString) : Prop :=
  fileIsAnApplication file ∧
    ∃ fullImageName, fileNameToFullImageName env.volumes file = some fullImageName ∧
      fullImageName ≠ []

/-- What an action makes of the whitelist, and dragging files of the names that are dropped: these
are the names of all files, or none. Names of files are compared as paths. -/
def Acts (fullImageNames : OrderedSet pathLt) (dlg : WhitelistDlg) (e : WhitelistDlgEvent)
    (fullImageNames' : OrderedSet pathLt) (dlg' : WhitelistDlg) : Prop :=
  match e with
  | .insert env (some file) =>
      ∃ fullImageName, fileNameToFullImageName env.volumes file = some fullImageName ∧
        ∀ a, fullImageNames'.Contains a ↔ fullImageNames.Contains a ∨ PathEq a fullImageName
  | .delete => fullImageNames'.toList =
      fullImageNames.toList.filter fun name => (name, true) ∉ dlg.whitelist
  | .dragEnter env fileNames =>
      fullImageNames' = fullImageNames ∧
        ∀ a, dlg'.dropTargetFullImageNames.Contains a ↔
          (∀ file ∈ fileNames, Accepted env file) ∧
            ∃ file ∈ fileNames, ∃ fullImageName,
              fileNameToFullImageName env.volumes file = some fullImageName ∧
                PathEq a fullImageName
  | .drop true => ∀ a, fullImageNames'.Contains a ↔
      fullImageNames.Contains a ∨ dlg.dropTargetFullImageNames.Contains a
  | _ => fullImageNames' = fullImageNames

/-- The set from the list box contains what is equal to an entry. -/
theorem contains_listBoxToPathSet {listBox : List WString} {a : WString} :
    (listBoxToPathSet listBox).Contains a ↔ ∃ b ∈ listBox, PathEq a b := by
  rw [listBoxToPathSet, OrderedSet.contains_ofList_iff]
  simp only [equivalent_pathLt]

theorem contains_iff_of_perm {listBox : List WString} {s : OrderedSet pathLt}
    (h : listBox.Perm s.toList) {a : WString} :
    s.Contains a ↔ ∃ b ∈ listBox, PathEq a b := by
  simp only [OrderedSet.Contains, equivalent_pathLt, h.mem_iff]

/-- What is called of the proxy makes the whitelist another one, and the dialog shows it again. -/
def Leaves (proxy : Proxy) (dlg : WhitelistDlg) (e : WhitelistDlgEvent)
    (r : WhitelistDlg × List Proxy.Call) : Prop :=
  r.1.Shows (r.2.foldl Proxy.after proxy).whitelist ∧
    dlg.Acts proxy.whitelist e (r.2.foldl Proxy.after proxy).whitelist r.1

theorem insert_leaves {env : Environment} {file : Option WString} {proxy : Proxy}
    {dlg : WhitelistDlg} {r : WhitelistDlg × List Proxy.Call}
    (hshows : dlg.whitelist.texts.Perm proxy.whitelist.toList)
    (h : dlg.onBnClickedButtonWhitelistInsert position env file = some r) :
    dlg.Leaves proxy (.insert env file) r := by
  have hclear : dlg.whitelist.clearSel.texts.Perm proxy.whitelist.toList := by
    rw [ListBox.texts_clearSel]
    exact hshows
  cases file with
  | none =>
    obtain rfl := Option.some.inj h
    exact ⟨fun _ => hclear, rfl⟩
  | some file =>
    obtain ⟨fullImageName, hname, heq⟩ := Option.map_eq_some_iff.mp h
    dsimp only at heq
    rw [ListBox.texts_clearSel] at heq
    split_ifs at heq with hmem
    · -- the name is there already
      rw [List.contains_iff_mem] at hmem
      subst heq
      refine ⟨fun _ => hclear, fullImageName, hname, fun a => ?_⟩
      refine (or_iff_left_of_imp fun ha => ?_).symm
      exact (contains_iff_of_perm hshows).mpr ⟨fullImageName, hmem, ha⟩
    · subst heq
      refine ⟨fun hnot => absurd hnot (by simp [setWhitelist]), fullImageName, hname, fun a => ?_⟩
      have hadded : ∀ b, b ∈ (dlg.whitelist.clearSel.addString
          (position dlg.whitelist.clearSel fullImageName) fullImageName).1.texts ↔
            b = fullImageName ∨ b ∈ dlg.whitelist.texts := by
        intro b
        have hperm := (ListBox.addString_perm (position dlg.whitelist.clearSel fullImageName)
          fullImageName dlg.whitelist.clearSel).map Prod.fst
        rw [ListBox.texts, hperm.mem_iff, List.map_cons, List.mem_cons, ← ListBox.texts,
          ListBox.texts_clearSel]
      refine (contains_after_setWhitelist proxy _ a).trans ?_
      rw [contains_listBoxToPathSet, contains_iff_of_perm hshows]
      simp only [hadded, or_and_right, exists_or, exists_eq_left]
      exact or_comm

/-- The loop over the names that are dropped: nothing has changed unless it says so. -/
theorem foldl_dropName (names : List WString) (p : OrderedSet pathLt × Bool) :
    (names.foldl dropName p).1 = names.foldl OrderedSet.emplace p.1 ∧
      ((names.foldl dropName p).2 = false → (names.foldl dropName p).1 = p.1) := by
  induction names generalizing p with
  | nil => exact ⟨rfl, fun _ => rfl⟩
  | cons name names ih =>
    obtain ⟨hfold, hclean⟩ := ih (dropName p name)
    refine ⟨hfold, fun h => ?_⟩
    have hdirty : ∀ (names : List WString) (q : OrderedSet pathLt × Bool), q.2 = true →
        (names.foldl dropName q).2 = true := by
      intro names
      induction names with
      | nil => exact fun _ hq => hq
      | cons name names ih => exact fun q hq => ih _ (by simp [dropName, hq])
    have hcontains : p.1.Contains name := by
      by_contra hnot
      rw [List.foldl_cons, hdirty names _ (by simp [dropName, hnot])] at h
      cases h
    rw [List.foldl_cons, hclean h, dropName, OrderedSet.emplace_of_contains hcontains]

theorem not_contains_empty (a : WString) : ¬(∅ : OrderedSet pathLt).Contains a := by
  rintro ⟨_, hmem, -⟩
  cases hmem

/-- The names of the files are added one by one, unless a file is not accepted. -/
theorem contains_acceptFiles {env : Environment} {files : List WString}
    {names names' : OrderedSet pathLt} (h : acceptFiles env names files = some names')
    (a : WString) : names'.Contains a ↔ (∀ file ∈ files, Accepted env file) ∧
      (names.Contains a ∨ ∃ file ∈ files, ∃ fullImageName,
        fileNameToFullImageName env.volumes file = some fullImageName ∧
          PathEq a fullImageName) := by
  have hflush : ∀ (names : OrderedSet pathLt) (file : WString) (files : List WString),
      ¬Accepted env file → ((∅ : OrderedSet pathLt).Contains a ↔
        (∀ file' ∈ file :: files, Accepted env file') ∧
        (names.Contains a ∨ ∃ file' ∈ file :: files, ∃ fullImageName,
          fileNameToFullImageName env.volumes file' = some fullImageName ∧
            PathEq a fullImageName)) := fun names file files hnot =>
    iff_of_false (not_contains_empty a) fun hall => hnot (hall.1 file List.mem_cons_self)
  induction files generalizing names with
  | nil =>
    obtain rfl := Option.some.inj h
    simp
  | cons file files ih =>
    rw [acceptFiles] at h
    split_ifs at h with happlication
    · rcases hname : fileNameToFullImageName env.volumes file with _ | fullImageName
      · rw [hname] at h
        cases h
      · rw [hname] at h
        rcases fullImageName with _ | ⟨c, rest⟩
        · -- it is not located on a volume
          obtain rfl := Option.some.inj h
          refine hflush names file files ?_
          rintro ⟨-, _, hsome, hne⟩
          exact hne (Option.some.inj (hname.symm.trans hsome)).symm
        · have haccepted : Accepted env file :=
            ⟨happlication, _, hname, List.cons_ne_nil c rest⟩
          have hone : (names.emplace (c :: rest)).Contains a ↔
              names.Contains a ∨ PathEq a (c :: rest) := by
            have hfold := @OrderedSet.contains_foldl_emplace _ pathLt _ _ [c :: rest] names a
            simpa [equivalent_pathLt] using hfold
          refine (ih h).trans ?_
          rw [hone, List.forall_mem_cons]
          simp only [haccepted, true_and, List.mem_cons, exists_eq_or_imp, hname,
            Option.some.injEq, exists_eq_left', or_assoc]
    · obtain rfl := Option.some.inj h
      exact hflush names file files fun haccepted => happlication haccepted.1

theorem drop_leaves (mousePointerAtWhitelist : Bool) {proxy : Proxy} {dlg : WhitelistDlg}
    (hshows : dlg.Shows proxy.whitelist) :
    dlg.Leaves proxy (.drop mousePointerAtWhitelist)
      (dlg.onDropEx mousePointerAtWhitelist proxy.whitelist) := by
  cases mousePointerAtWhitelist with
  | false =>
    rw [onDropEx, if_pos (.inr rfl)]
    exact ⟨hshows, rfl⟩
  | true =>
    obtain ⟨hfold, hclean⟩ :=
      foldl_dropName dlg.dropTargetFullImageNames.toList (proxy.whitelist, false)
    have hunion : ∀ a, (dlg.dropTargetFullImageNames.toList.foldl dropName
        (proxy.whitelist, false)).1.Contains a ↔
          proxy.whitelist.Contains a ∨ dlg.dropTargetFullImageNames.Contains a := by
      intro a
      rw [hfold, OrderedSet.contains_foldl_emplace]
      rfl
    rw [onDropEx]
    by_cases hempty : dlg.dropTargetFullImageNames.toList = []
    · rw [if_pos (.inl hempty)]
      refine ⟨hshows, fun a => (or_iff_left ?_).symm⟩
      simp [OrderedSet.Contains, hempty]
    rw [if_neg (by simp [hempty])]
    dsimp only
    split_ifs with hdirty
    · refine ⟨fun hnot => absurd hnot (by simp), fun a => ?_⟩
      exact (contains_after_setWhitelist proxy _ a).trans (hunion a)
    · refine ⟨hshows, fun a => ?_⟩
      rw [← hunion a, hclean (by simpa using hdirty)]
      rfl

/-- **One event** acts as its button says, and the list box shows the whitelist when the dialog
takes input again. -/
theorem step_leaves {proxy : Proxy} {dlg : WhitelistDlg} {e : WhitelistDlgEvent}
    {r : WhitelistDlg × List Proxy.Call} (hshows : dlg.Shows proxy.whitelist)
    (h : dlg.step position proxy e = some r) : dlg.Leaves proxy e r := by
  have hinput : ∀ {o : Option (WhitelistDlg × List Proxy.Call)},
      (if dlg.refreshPosted then none else o) = some r →
        o = some r ∧ dlg.whitelist.texts.Perm proxy.whitelist.toList := by
    intro o ho
    split_ifs at ho with hposted
    exact ⟨ho, hshows (by simpa using hposted)⟩
  cases e with
  | showWindow =>
    obtain rfl := Option.some.inj h
    exact ⟨fun hnot => absurd hnot (by simp), rfl⟩
  | refresh env =>
    rw [step] at h
    split_ifs at h
    obtain ⟨dlg', hrefresh, rfl⟩ := Option.map_eq_some_iff.mp h
    obtain ⟨-, hperm⟩ := onUserMessageRefresh_eq_some position hrefresh
    refine ⟨fun _ => ?_, rfl⟩
    simpa [ListBox.texts, Function.comp_def] using hperm.map Prod.fst
  | insert env file =>
    obtain ⟨h, hperm⟩ := hinput h
    exact insert_leaves position hperm h
  | delete =>
    obtain ⟨h, hperm⟩ := hinput h
    obtain ⟨dlg', call, hdelete, hposted, hleft⟩ := onBnClickedButtonWhitelistDelete_eq hperm
    obtain rfl : (dlg', [call]) = r := Option.some.inj (hdelete.symm.trans h)
    exact ⟨fun hnot => absurd (hposted.symm.trans hnot) (by simp), hleft⟩
  | dragEnter env fileNames =>
    obtain ⟨dlg', hdrag, rfl⟩ := Option.map_eq_some_iff.mp h
    obtain ⟨names, hnames, rfl⟩ := Option.map_eq_some_iff.mp hdrag
    refine ⟨hshows, rfl, fun a => ?_⟩
    refine (contains_acceptFiles hnames a).trans ?_
    simp only [not_contains_empty, false_or]
    rfl
  | drop mousePointerAtWhitelist =>
    obtain rfl := Option.some.inj h
    exact drop_leaves mousePointerAtWhitelist hshows
  | checkInverse checked =>
    obtain ⟨h, hperm⟩ := hinput h
    obtain rfl := Option.some.inj h
    exact ⟨fun _ => hperm, rfl⟩
  | select index selected =>
    obtain ⟨h, hperm⟩ := hinput h
    obtain rfl := Option.some.inj h
    refine ⟨fun _ => ?_, rfl⟩
    rw [ListBox.texts_setSel]
    exact hperm

end WhitelistDlg

end HidHide
