import HidHide.Client.CliSyntax
import HidHide.Client.ImageNames
import HidHide.Client.Scripts

/-!
# Listings as scripts

The commands `cloak-state`, `inv-state`, `dev-list` and `app-list` print their results as commands.
So what they print, redirected to a file, is a script that is run with the file as standard input.

The streams are in the default locale and in text mode. So `std::wcout` prints nothing any more once
a character does not fit a byte, and `std::wcin` takes a file for ended at `Ctrl-Z`.

`dump_restores` says what such a script does: the one that is printed of a configuration sets the
switches of any other one and adds the entries of the lists to its own, as long as the entries are
in printable characters, the devices have no double quotes and the applications are on volumes whose
names are not mistaken for each other.
-/

namespace HidHide

/-! ### Text files -/

/-- What `std::endl` ends a line with. -/
def lineFeed : WChar := 0x0A

/-- The character before a line feed in a file. -/
def carriageReturn : UInt8 := 0x0D

/-- The character `Ctrl-Z`, at which a text file ends. -/
def controlZ : UInt8 := 0x1A

/-- The file to which `std::wcout` is redirected. It stops at the first character that it cannot
narrow. -/
def wcoutFile : WString → List UInt8
  | [] => []
  | c :: text =>
      if c = lineFeed then carriageReturn :: c.toUInt8 :: wcoutFile text
      else if c ≤ 0xFF then c.toUInt8 :: wcoutFile text
      else []

/-- The text that `std::wcin` reads of a file. -/
def wcinText : List UInt8 → WString
  | [] => []
  | b :: file =>
      if b = controlZ then []
      -- a line feed follows, and it is read alone
      else if b = carriageReturn ∧ file.head? = some lineFeed.toUInt8 then wcinText file
      else b.toUInt16 :: wcinText file

/-- A text that is read as it has been printed, and as part of one line. -/
def OneLine (text : WString) : Prop :=
  ∀ c ∈ text, c ≠ lineFeed ∧ c ≤ 0xFF ∧ c.toUInt8 ≠ controlZ

-- decided on the characters of the text, not on all that there are
instance : DecidablePred OneLine := fun text => List.decidableBAll _ text

theorem oneLine_append {text text' : WString} :
    OneLine (text ++ text') ↔ OneLine text ∧ OneLine text' := List.forall_mem_append

/-- A character that fits a byte is that byte. -/
theorem toUInt16_toUInt8 {c : WChar} (h : c ≤ 0xFF) : c.toUInt8.toUInt16 = c := by
  apply UInt16.toNat_inj.mp
  have hle : c.toNat ≤ 255 := h
  rw [UInt8.toNat_toUInt16, UInt16.toNat_toUInt8]
  omega

/-- What is printed starts with a line feed only after a carriage return. -/
theorem head?_wcoutFile_ne (text : WString) : (wcoutFile text).head? ≠ some lineFeed.toUInt8 := by
  cases text with
  | nil => simp [wcoutFile]
  | cons c text =>
    rw [wcoutFile]
    split_ifs with hfeed hnarrow
    · simp [carriageReturn, lineFeed]
    · rw [List.head?_cons]
      intro heq
      -- another character has another byte
      refine hfeed ?_
      rw [← toUInt16_toUInt8 hnarrow, Option.some.inj heq]
      rfl
    · simp

theorem wcinText_lineFeed (text : WString) :
    wcinText (wcoutFile (lineFeed :: text)) = lineFeed :: wcinText (wcoutFile text) := by
  rw [wcoutFile, if_pos rfl, wcinText, if_neg (by decide), if_pos ⟨rfl, rfl⟩, wcinText,
    if_neg (by decide), if_neg (fun h => absurd h.1 (by decide))]
  rfl

/-- **A text of one line is read as it has been printed.** -/
theorem wcinText_append {text : WString} (h : OneLine text) (rest : WString) :
    wcinText (wcoutFile (text ++ rest)) = text ++ wcinText (wcoutFile rest) := by
  induction text with
  | nil => rfl
  | cons c text ih =>
    obtain ⟨⟨hfeed, hnarrow, hend⟩, htext⟩ := List.forall_mem_cons.mp h
    rw [List.cons_append, wcoutFile, if_neg hfeed, if_pos hnarrow, wcinText, if_neg hend,
      if_neg fun hreturn => head?_wcoutFile_ne _ hreturn.2, toUInt16_toUInt8 hnarrow, ih htext]
    rfl

/-! ### Lines of a text -/

/-- The file of lines that are printed one after the other. -/
def printLines (lines : List WString) : List UInt8 := wcoutFile (lines.flatMap (· ++ [lineFeed]))

/-- `std::getline` until the text is at its end, with what has been read of the line. -/
def getLinesFrom (line : WString) : WString → List WString
  | [] => if line = [] then [] else [line]
  | c :: text =>
      if c = lineFeed then line :: getLinesFrom [] text else getLinesFrom (line ++ [c]) text

/-- The lines that are read of a file. -/
def getLines (file : List UInt8) : List WString := getLinesFrom [] (wcinText file)

theorem getLinesFrom_append {line : WString} (hline : OneLine line) (before text : WString) :
    getLinesFrom before (line ++ lineFeed :: text) = (before ++ line) :: getLinesFrom [] text := by
  induction line generalizing before with
  | nil => rw [List.nil_append, getLinesFrom, if_pos rfl, List.append_nil]
  | cons c line ih =>
    obtain ⟨⟨hfeed, -⟩, hline⟩ := List.forall_mem_cons.mp hline
    rw [List.cons_append, getLinesFrom, if_neg hfeed, ih hline, List.append_assoc]
    rfl

/-- **Lines are read as they have been printed.** -/
theorem getLines_printLines {lines : List WString} (h : ∀ line ∈ lines, OneLine line) :
    getLines (printLines lines) = lines := by
  induction lines with
  | nil => rfl
  | cons line lines ih =>
    obtain ⟨hline, hlines⟩ := List.forall_mem_cons.mp h
    rw [getLines, printLines, List.flatMap_cons, List.append_assoc, List.singleton_append,
      wcinText_append hline, wcinText_lineFeed, getLinesFrom_append hline]
    exact congrArg (line :: ·) (ih hlines)

/-! ### What is printed -/

/-- What `CloakState` prints. -/
def cloakStateLine (active : Bool) : WString :=
  wide (if active then "--cloak-on" else "--cloak-off")

/-- What `InvState` prints. -/
def invStateLine (inverse : Bool) : WString :=
  wide (if inverse then "--inv-on" else "--inv-off")

/-- What `DevList` prints. -/
def devListLines (blacklist : DeviceInstancePaths) : List WString :=
  blacklist.toList.map devListLine

/-- What `AppList` prints, unless the volumes throw. -/
def appListLines (volumes : List Volume) (whitelist : OrderedSet pathLt) : Option (List WString) :=
  whitelist.toList.mapM fun fullImageName =>
    (fullImageNameToFileName volumes fullImageName).map appListLine

/-- The file to which the four commands print. -/
def Configuration.dump (env : Environment) (c : Configuration) : Option (List UInt8) :=
  (appListLines env.volumes c.whitelist).map fun applications =>
    printLines (cloakStateLine c.active :: invStateLine c.inverse ::
      (devListLines c.blacklist ++ applications))

/-- A full image name for which the file name that is printed is accepted: it is on a volume, which
is the first one whose device name it starts with, and names an application there. -/
def MountTable.Lists (table : MountTable) (fullImageName : WString) : Prop :=
  ∃ v ∈ table.volumes, table.volumes.find? (fun u => u.dosDeviceName <+: v.dosDeviceName) = some v ∧
    ∃ r, fullImageName = v.dosDeviceName ++ backslash :: r ∧ rootNameLength r = 0 ∧
      r.head?.any isSlash = false ∧ ∀ p ∈ v.mountPoints, doubleQuote ∉ p ++ r ∧
        OneLine (p ++ r) ∧ fileIsAnApplication (p ++ r) = true

/-- The entries are such that their lines are printed and accepted. -/
structure Configuration.Dumpable (table : MountTable) (c : Configuration) : Prop where
  devices : ∀ deviceInstancePath ∈ c.blacklist, doubleQuote ∉ deviceInstancePath ∧
    OneLine deviceInstancePath ∧ deviceInstancePath.length ≤ maxDeviceIdLen
  applications : ∀ fullImageName ∈ c.whitelist, table.Lists fullImageName

/-- A line with a quoted argument is printed if its words are. -/
theorem oneLine_quotedCommand {keyword path : WString} (hkeyword : OneLine keyword)
    (hpath : OneLine path) : OneLine (quotedCommand keyword path) := by
  have hdashes : OneLine [dash, dash] := by decide
  have hopen : OneLine [space, doubleQuote] := by decide
  have hclose : OneLine [doubleQuote] := by decide
  rw [quotedCommand]
  simp only [oneLine_append]
  exact ⟨⟨⟨⟨hdashes, hkeyword⟩, hopen⟩, hpath⟩, hclose⟩

/-! ### Lines of one command -/

section Lines

variable {env : Environment} {c c' : Configuration}

/-- A line of one command that is accepted. -/
theorem processes_command {line : WString} {command : Args} {commandInfo : RegisteredCommand}
    (hline : extractCommands env.iswspace line = ([command], []))
    (hfind : RegisteredCommand.find (command.headD []) = some commandInfo)
    (hkept : commandInfo ≠ .cancel) (hvalid : commandInfo.validate env command = some none)
    {c₁ : Configuration} (hnext : c.next env commandInfo command = some c₁) {lines : List WString}
    (h : Processes env c₁ lines c') : Processes env c (line :: lines) c' := by
  have hperform : c.perform env command = some c₁ := by
    rw [Configuration.perform, hfind]
    exact hnext
  refine processes_cons.mpr ⟨by rw [hline], ?_, c₁, ?_, h⟩
  · rw [hline]
    intro command' hcommand
    rw [List.mem_singleton.mp hcommand, Cancels, hfind]
    exact fun heq => hkept (Option.some.inj heq)
  · rw [hline]
    exact performs_cons.mpr ⟨⟨commandInfo, hfind, hvalid⟩, c₁, hperform, performs_nil.mpr rfl⟩

variable (hspace : env.iswspace space) (hgraph : ∀ c, 0x21 ≤ c → c ≤ 0x7E → ¬env.iswspace c)
include hspace hgraph

omit hspace in
/-- A line with a keyword of printable characters. -/
theorem extractCommands_keyword {keyword : WString} (hne : keyword ≠ [])
    (hkeyword : keyword.all (fun c => 0x21 ≤ c ∧ c ≤ 0x7E) = true) :
    extractCommands env.iswspace (dash :: dash :: keyword) = ([[keyword]], []) := by
  have hprintable : ∀ c ∈ keyword, ¬env.iswspace c := by
    intro c hc
    obtain ⟨hlow, hhigh⟩ := of_decide_eq_true (List.all_eq_true.mp hkeyword c hc)
    exact hgraph c hlow hhigh
  have hrender := extractCommands_render (hgraph doubleQuote (by decide) (by decide))
    (hgraph dash (by decide) (by decide)) (.commands ⟨[], by simp⟩ ⟨keyword, hne, hprintable, []⟩ []
      ⟨[], by simp⟩)
  simpa [LineText.render, CommandText.render, renderArgs, renderCommands, LineText.values,
    CommandText.command] using hrender

omit hspace in
/-- A line with the keyword of a command that takes no arguments. -/
theorem processes_keyword {command : RegisteredCommand} {line : WString}
    (hline : line = dash :: dash :: command.keyword) (hkept : command ≠ .cancel)
    (hvalid : command.validate env [command.keyword] = some none) {c₁ : Configuration}
    (hnext : c.next env command [command.keyword] = some c₁) {lines : List WString}
    (h : Processes env c₁ lines c') : Processes env c (line :: lines) c' := by
  have hprintable : command.keyword ≠ [] ∧
      command.keyword.all (fun c => 0x21 ≤ c ∧ c ≤ 0x7E) = true := by
    cases command <;> exact ⟨by decide, by decide⟩
  rw [hline]
  exact processes_command (extractCommands_keyword hgraph hprintable.1 hprintable.2)
    command.find_keyword hkept hvalid hnext h

omit hspace in
theorem processes_cloakStateLine {active : Bool} {lines : List WString}
    (h : Processes env { c with active } lines c') :
    Processes env c (cloakStateLine active :: lines) c' := by
  cases active with
  | false => exact @processes_keyword _ _ _ hgraph .cloakOff _ rfl (by decide) rfl _ rfl _ h
  | true => exact @processes_keyword _ _ _ hgraph .cloakOn _ rfl (by decide) rfl _ rfl _ h

omit hspace in
theorem processes_invStateLine {inverse : Bool} {lines : List WString}
    (h : Processes env { c with inverse } lines c') :
    Processes env c (invStateLine inverse :: lines) c' := by
  cases inverse with
  | false => exact @processes_keyword _ _ _ hgraph .invOff _ rfl (by decide) rfl _ rfl _ h
  | true => exact @processes_keyword _ _ _ hgraph .invOn _ rfl (by decide) rfl _ rfl _ h

/-- The lines of `DevList` add the devices. -/
theorem processes_devListLines {devices : List WString}
    (hdevices : ∀ device ∈ devices, doubleQuote ∉ device ∧ device.length ≤ maxDeviceIdLen)
    {lines : List WString}
    (h : Processes env { c with blacklist := devices.foldl OrderedSet.emplace c.blacklist } lines
      c') :
    Processes env c (devices.map devListLine ++ lines) c' := by
  induction devices generalizing c with
  | nil => exact h
  | cons device devices ih =>
    obtain ⟨⟨hquote, hlength⟩, hdevices⟩ := List.forall_mem_cons.mp hdevices
    obtain ⟨hline, hvalid⟩ := devListLine_accepted hspace hgraph hquote hlength
    exact processes_command hline RegisteredCommand.devHide.find_keyword (by decide)
      (congrArg some hvalid) rfl (ih hdevices h)

end Lines

/-! ### File names -/

/-- A path is absolute if its drive is followed by a separator, or by another root name. -/
theorem isAbsolute_iff (path : WString) :
    isAbsolute path = true ↔
      if hasDriveLetterPrefix path then (path.drop 2).head?.any isSlash = true
      else isDevicePrefix path = true ∨ isServerPrefix path = true := by
  rw [isAbsolute]
  split_ifs with hdrive
  · rfl
  · rw [decide_eq_true_iff, rootNameLength, if_neg hdrive]
    split_ifs with hdevice hserver
    · simp [hdevice]
    · simp [hserver]
    · simp [hdevice, hserver]

/-- What follows an absolute path does not make it relative. -/
theorem isAbsolute_append {p r : WString} (hp : isAbsolute p) (hr : r.head?.any isSlash = false) :
    isAbsolute (p ++ r) := by
  rw [isAbsolute_iff] at hp ⊢
  -- an absolute path has three characters, and a device prefix has four
  rcases p with _ | ⟨a, _ | ⟨b, _ | ⟨c, p⟩⟩⟩
  · simp [hasDriveLetterPrefix, isDevicePrefix, isServerPrefix] at hp
  · simp [hasDriveLetterPrefix, isDevicePrefix, isServerPrefix] at hp
  · simp [hasDriveLetterPrefix, isDevicePrefix, isServerPrefix] at hp
  · have hserver : isServerPrefix (a :: b :: c :: p ++ r) = isServerPrefix (a :: b :: c :: p) := rfl
    have hdrive : hasDriveLetterPrefix (a :: b :: c :: p ++ r) =
        hasDriveLetterPrefix (a :: b :: c :: p) := rfl
    have hdevice : isDevicePrefix (a :: b :: c :: p) = true →
        isDevicePrefix (a :: b :: c :: p ++ r) = true := by
      rcases p with _ | ⟨d, _ | ⟨e, p⟩⟩
      · simp [isDevicePrefix]
      · simp only [List.cons_append, List.nil_append, isDevicePrefix, hr, List.head?_nil,
          Option.any_none, imp_self]
      · exact id
    rw [hserver, hdrive]
    split_ifs at hp ⊢
    · exact hp
    · exact hp.imp_left hdevice

namespace MountTable.Lists

variable {table : MountTable} {fullImageName : WString}

/-- The file name that is printed is on the volume, and names an application. -/
theorem exists_fileName (h : table.Lists fullImageName) :
    ∃ fileName, fullImageNameToFileName table.volumes fullImageName = some fileName ∧
      fileNameToFullImageName table.volumes fileName = some fullImageName ∧
      doubleQuote ∉ fileName ∧ OneLine fileName ∧ isAbsolute fileName = true ∧
      fileIsAnApplication fileName = true := by
  obtain ⟨v, hv, hfirst, r, rfl, hroot, hrelative, hprintable⟩ := h
  obtain ⟨p, hp, hfile⟩ := table.fullImageNameToFileName_eq hv hfirst r
  have hmount := table.isMountPoint v hv p hp
  have hdrop : (v.dosDeviceName ++ backslash :: r).drop (v.dosDeviceName.length + 1) = r := by
    rw [← List.drop_drop, List.drop_left]
    rfl
  rw [hdrop, joinPath_mountPoint hmount hroot hrelative] at hfile
  obtain ⟨hquote, hone, happlication⟩ := hprintable p hp
  refine ⟨p ++ r, hfile, ?_, hquote, hone, isAbsolute_append hmount.absolute hrelative,
    happlication⟩
  rw [table.fileNameToFullImageName_eq hv hp,
    joinPath_device (table.isDosDeviceName v hv) hroot hrelative]

theorem ne_nil (h : table.Lists fullImageName) : fullImageName ≠ [] := by
  obtain ⟨v, -, -, r, rfl, -⟩ := h
  exact List.append_ne_nil_of_right_ne_nil _ (List.cons_ne_nil _ _)

end MountTable.Lists

/-! ### Restoring -/

section Restore

variable {env : Environment} {table : MountTable}
  (hspace : env.iswspace space) (hgraph : ∀ c, 0x21 ≤ c → c ≤ 0x7E → ¬env.iswspace c)
  (hvolumes : env.volumes = table.volumes)
include hspace hgraph hvolumes

/-- The line that is printed for an application adds it. -/
theorem processes_appListLine {fullImageName : WString} (h : table.Lists fullImageName) :
    ∃ line, (fullImageNameToFileName env.volumes fullImageName).map appListLine = some line ∧
      OneLine line ∧ ∀ {c c' : Configuration} {lines : List WString},
        Processes env { c with whitelist := c.whitelist.emplace fullImageName } lines c' →
        Processes env c (line :: lines) c' := by
  obtain ⟨fileName, hprinted, hread, hquote, hone, habsolute, happlication⟩ := h.exists_fileName
  rw [← hvolumes] at hprinted hread
  have hkeyword : ∀ c ∈ appRegKeyword, ¬env.iswspace c := by
    have hprintable : appRegKeyword.all (fun c => 0x21 ≤ c ∧ c ≤ 0x7E) = true := by decide
    intro c hc
    obtain ⟨hlow, hhigh⟩ := of_decide_eq_true (List.all_eq_true.mp hprintable c hc)
    exact hgraph c hlow hhigh
  have hline : extractCommands env.iswspace (appListLine fileName) =
      ([[appRegKeyword, fileName]], []) :=
    extractCommands_quoted hspace (hgraph _ (by decide) (by decide))
      (hgraph _ (by decide) (by decide)) hkeyword hquote
  have hvalid : RegisteredCommand.appReg.validate env [appRegKeyword, fileName] = some none := by
    have hargs : ([appRegKeyword, fileName] : Args).getD 1 [] = fileName := rfl
    rw [RegisteredCommand.validate, CommandInterpreter.valOneFullyQualifiedExecutablePath,
      if_neg (by simp)]
    simp only [hargs, habsolute, happlication, hread, h.ne_nil, not_true, if_false]
  refine ⟨appListLine fileName, by rw [hprinted]; rfl, ?_, fun hrest => ?_⟩
  · exact oneLine_quotedCommand (by decide) hone
  · refine processes_command hline RegisteredCommand.appReg.find_keyword (by decide) hvalid ?_ hrest
    rw [Configuration.next]
    change (fileNameToFullImageName env.volumes fileName).map _ = _
    rw [hread]
    rfl

/-- The lines of `AppList` add the applications. -/
theorem processes_appListLines {fullImageNames : List WString}
    (h : ∀ fullImageName ∈ fullImageNames, table.Lists fullImageName) :
    ∃ lines, (fullImageNames.mapM fun fullImageName =>
        (fullImageNameToFileName env.volumes fullImageName).map appListLine) = some lines ∧
      (∀ line ∈ lines, OneLine line) ∧ ∀ c : Configuration,
        Processes env c lines
          { c with whitelist := fullImageNames.foldl OrderedSet.emplace c.whitelist } := by
  induction fullImageNames with
  | nil => exact ⟨[], rfl, by simp, fun c => processes_nil.mpr rfl⟩
  | cons fullImageName fullImageNames ih =>
    obtain ⟨hfirst, hrest⟩ := List.forall_mem_cons.mp h
    obtain ⟨line, hline, hone, hprocesses⟩ := processes_appListLine hspace hgraph hvolumes hfirst
    obtain ⟨lines, hlines, hones, hall⟩ := ih hrest
    refine ⟨line :: lines, ?_, List.forall_mem_cons.mpr ⟨hone, hones⟩, fun c => hprocesses ?_⟩
    · rw [List.mapM_cons, hline, hlines]
      rfl
    · exact hall { c with whitelist := c.whitelist.emplace fullImageName }

end Restore

/-- **Listings are scripts.** The file to which the four listing commands print a configuration, run
as a script with an empty command line on any other one, sets the two switches and adds the entries
of the two lists to those that it finds. -/
theorem dump_restores {table : MountTable} {env : Environment}
    (hvolumes : env.volumes = table.volumes) (hspace : env.iswspace space)
    (hgraph : ∀ c, 0x21 ≤ c → c ≤ 0x7E → ¬env.iswspace c) {c : Configuration}
    (hc : c.Dumpable table) :
    ∃ file, c.dump env = some file ∧ ∀ c₀ : Configuration, ∃ c',
      Processes env c₀ ([] :: getLines file) c' ∧ c'.active = c.active ∧ c'.inverse = c.inverse ∧
        (∀ deviceInstancePath, deviceInstancePath ∈ c'.blacklist ↔
          deviceInstancePath ∈ c₀.blacklist ∨ deviceInstancePath ∈ c.blacklist) ∧
        ∀ fullImageName, c'.whitelist.Contains fullImageName ↔
          c₀.whitelist.Contains fullImageName ∨ c.whitelist.Contains fullImageName := by
  obtain ⟨applications, hprinted, hones, hprocesses⟩ :=
    processes_appListLines hspace hgraph hvolumes hc.applications
  have hlines : ∀ line ∈ cloakStateLine c.active :: invStateLine c.inverse ::
      (devListLines c.blacklist ++ applications), OneLine line := by
    refine List.forall_mem_cons.mpr ⟨?_, List.forall_mem_cons.mpr ⟨?_, fun line hline => ?_⟩⟩
    · cases c.active <;> decide
    · cases c.inverse <;> decide
    · rcases List.mem_append.mp hline with hlisted | happlication
      · obtain ⟨device, hdevice, rfl⟩ := List.mem_map.mp hlisted
        exact oneLine_quotedCommand (by decide) (hc.devices device hdevice).2.1
      · exact hones line happlication
  refine ⟨_, by rw [Configuration.dump, appListLines, hprinted]; rfl, fun c₀ => ?_⟩
  rw [getLines_printLines hlines]
  have hblank : extractCommands env.iswspace [] = ([], []) :=
    extractCommands_render (hgraph doubleQuote (by decide) (by decide))
      (hgraph dash (by decide) (by decide)) (.blank ⟨[], by simp⟩)
  have hdevices : ∀ device ∈ c.blacklist.toList,
      doubleQuote ∉ device ∧ device.length ≤ maxDeviceIdLen := fun device hdevice =>
    ⟨(hc.devices device hdevice).1, (hc.devices device hdevice).2.2⟩
  have hscript : Processes env c₀ (cloakStateLine c.active :: invStateLine c.inverse ::
      (devListLines c.blacklist ++ applications))
      ⟨c.active, c.inverse, c.blacklist.toList.foldl OrderedSet.emplace c₀.blacklist,
        c.whitelist.toList.foldl OrderedSet.emplace c₀.whitelist⟩ :=
    processes_cloakStateLine hgraph (processes_invStateLine hgraph
      (processes_devListLines hspace hgraph hdevices (hprocesses _)))
  refine ⟨_, processes_cons.mpr ⟨by rw [hblank], ?_, c₀, ?_, hscript⟩, rfl, rfl,
    fun device => ?_, fun fullImageName => ?_⟩
  · rw [hblank]
    simp
  · rw [hblank]
    exact performs_nil.mpr rfl
  · exact OrderedSet.mem_foldl_emplace
  · exact OrderedSet.contains_foldl_emplace

/-- A system with two volumes. -/
def twoVolumes : Environment := { bareEnvironment with volumes := harddiskVolumes.volumes }

/-- A hidden device and an application, on the first volume. -/
def oneOfEach : Configuration where
  active := true
  inverse := false
  blacklist := (∅ : DeviceInstancePaths).emplace [0x41]
  whitelist := (∅ : OrderedSet pathLt).emplace
    (harddiskVolume1.dosDeviceName ++ backslash :: wide "a.exe")

theorem oneOfEach_dumpable : oneOfEach.Dumpable harddiskVolumes where
  devices device hdevice := by
    obtain rfl := List.mem_singleton.mp hdevice
    exact ⟨by decide, by decide, by decide⟩
  applications name hname := by
    obtain rfl := List.mem_singleton.mp hname
    have hfirst : harddiskVolumes.volumes.find?
        (fun u => u.dosDeviceName <+: harddiskVolume1.dosDeviceName) = some harddiskVolume1 := by
      decide
    refine ⟨harddiskVolume1, List.mem_cons_self, hfirst, wide "a.exe", rfl, by decide, by decide,
      fun p hp => ?_⟩
    obtain rfl := List.mem_singleton.mp hp
    exact ⟨by decide, by decide, by decide⟩

/-- What is printed of it is added to another hidden device. -/
theorem dump_restores_oneOfEach :
    ∃ file c', oneOfEach.dump twoVolumes = some file ∧
      Processes twoVolumes ⟨false, true, (∅ : DeviceInstancePaths).emplace [0x42], ∅⟩
        ([] :: getLines file) c' ∧ c'.active = true ∧ c'.inverse = false ∧
      [0x41] ∈ c'.blacklist ∧ [0x42] ∈ c'.blacklist := by
  obtain ⟨file, hdump, hrestores⟩ := dump_restores (show twoVolumes.volumes =
    harddiskVolumes.volumes from rfl) (show twoVolumes.iswspace space from rfl)
    (fun c hlow _ hspace => absurd hlow (by
      obtain rfl : c = space := of_decide_eq_true hspace
      decide)) oneOfEach_dumpable
  obtain ⟨c', hprocesses, hactive, hinverse, hdevices, -⟩ :=
    hrestores ⟨false, true, (∅ : DeviceInstancePaths).emplace [0x42], ∅⟩
  exact ⟨file, c', hdump, hprocesses, hactive, hinverse,
    (hdevices _).mpr (.inr (List.mem_singleton_self _)),
    (hdevices _).mpr (.inl (List.mem_singleton_self _))⟩

end HidHide
