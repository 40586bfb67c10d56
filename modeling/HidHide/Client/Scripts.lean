import HidHide.Client.CommandInterpreter

/-!
# Scripts

What the lines of a script come to. `Configuration.next` is what a command makes of the four
settings, without a proxy or a device, and the commands of a script are folded over the settings
that the proxy has cached. A script sends its changes at the end, one request for each setting that
differs from the one of the device, or nothing at all (`script_allOrNothing`).
-/

namespace HidHide

/-- The four settings. -/
@[ext]
structure Configuration where
  active : Bool
  inverse : Bool
  blacklist : DeviceInstancePaths
  whitelist : OrderedSet pathLt

/-- What the proxy has cached. -/
def Proxy.configuration (proxy : Proxy) : Configuration where
  active := proxy.active
  inverse := proxy.inverse
  blacklist := proxy.blacklist
  whitelist := proxy.whitelist

namespace Configuration

/-- A proxy that defers its changes and has cached these settings. -/
def deferred (c : Configuration) : Proxy where
  writeThrough := false
  active := c.active
  inverse := c.inverse
  blacklist := c.blacklist
  whitelist := c.whitelist

/-! ### What a command comes to -/

section Next

variable (env : Environment)

/-- An application that is not there is removed. -/
def clean (c : Configuration) (fullImageName : WString) : Option Configuration :=
  (CommandInterpreter.imageExists env fullImageName).map fun there =>
    if there then c else { c with whitelist := c.whitelist.erase fullImageName }

/-- What a registered command makes of the settings. -/
def next (c : Configuration) (command : RegisteredCommand) (args : Args) : Option Configuration :=
  match command with
  | .appReg => (fileNameToFullImageName env.volumes (args.getD 1 [])).map fun fullImageName =>
      { c with whitelist := c.whitelist.emplace fullImageName }
  | .appUnreg => (fileNameToFullImageName env.volumes (args.getD 1 [])).map fun fullImageName =>
      { c with whitelist := c.whitelist.erase fullImageName }
  | .appClean => c.whitelist.toList.foldlM (clean env) c
  | .appList => (c.whitelist.toList.forM fun fullImageName =>
      (fullImageNameToFileName env.volumes fullImageName).map fun _ => ()).map fun _ => c
  | .invOff => some { c with inverse := false }
  | .invOn => some { c with inverse := true }
  | .cloakOff => some { c with active := false }
  | .cloakOn => some { c with active := true }
  | .cloakToggle => some { c with active := !c.active }
  | .devHide => some { c with blacklist := c.blacklist.emplace (args.getD 1 []) }
  | .devUnhide => some { c with blacklist := c.blacklist.erase (args.getD 1 []) }
  | .devAll => (env.hidDevices false).map fun _ => c
  | .devGaming => (env.hidDevices true).map fun _ => c
  | .invState | .cloakState | .devList | .help | .version | .cancel => some c

/-- What a command makes of the settings, by its keyword. -/
def perform (c : Configuration) (command : Args) : Option Configuration :=
  (RegisteredCommand.find (command.headD [])).bind fun commandInfo => c.next env commandInfo command

end Next

/-- The requests that change the settings of the device to these: one for each that differs. -/
def changes (c : Configuration) (s : ConfigurationStore) : List SetRequest :=
  (if s.whitelist.Equiv c.whitelist then [] else [.list .whitelist (Proxy.writeSet c.whitelist)]) ++
    (if s.blacklist = c.blacklist then [] else [.list .blacklist (Proxy.writeSet c.blacklist)]) ++
    (if s.active = c.active then [] else [.switch .active c.active]) ++
    (if s.inverse = c.inverse then [] else [.switch .whitelistedInverse c.inverse])

end Configuration

/-! ### Lines of a script -/

section Lines

variable (env : Environment)

/-- The command is registered, and its arguments are valid. -/
def Accepts (command : Args) : Prop :=
  ∃ commandInfo, RegisteredCommand.find (command.headD []) = some commandInfo ∧
    commandInfo.validate env command = some none

/-- The command is not registered, or its validation reports an error. -/
def Rejects (command : Args) : Prop :=
  RegisteredCommand.find (command.headD []) = none ∨
    ∃ commandInfo error, RegisteredCommand.find (command.headD []) = some commandInfo ∧
      commandInfo.validate env command = some (some error)

/-- The command is `cancel`. -/
def Cancels (command : Args) : Prop := RegisteredCommand.find (command.headD []) = some .cancel

instance : DecidablePred Cancels := fun command =>
  inferInstanceAs (Decidable (RegisteredCommand.find (command.headD []) = some .cancel))

/-- The commands are accepted, and performed without an exception. -/
structure Performs (c : Configuration) (commands : List Args) (c' : Configuration) : Prop where
  accepted : ∀ command ∈ commands, Accepts env command
  folded : commands.foldlM (Configuration.perform env) c = some c'

/-- The lines are free of errors and of `cancel`, and their commands performed. -/
structure Processes (c : Configuration) (lines : List WString) (c' : Configuration) : Prop where
  parsed : ∀ line ∈ lines, (extractCommands env.iswspace line).2 = []
  kept : ∀ line ∈ lines, ∀ command ∈ (extractCommands env.iswspace line).1, ¬Cancels command
  performed : Performs env c (lines.flatMap fun line => (extractCommands env.iswspace line).1) c'

/-- The line has a syntax error, or a command that is rejected after others have been performed, or
it executes `cancel`. -/
inductive Ends (c : Configuration) (line : WString) : Prop
  | syntaxError (h : (extractCommands env.iswspace line).2 ≠ [])
  | rejected {before after : List Args} {command : Args} {c' : Configuration}
      (hcommands : (extractCommands env.iswspace line).1 = before ++ command :: after)
      (hbefore : Performs env c before c') (h : Rejects env command)
  | cancelled {command : Args} {c' : Configuration}
      (hcommand : command ∈ (extractCommands env.iswspace line).1)
      (hperformed : Performs env c (extractCommands env.iswspace line).1 c')
      (h : Cancels command)

/-- One of the lines that are processed ends the script. -/
def Aborts (c : Configuration) (lines : List WString) : Prop :=
  ∃ before line after c', lines = before ++ line :: after ∧ Processes env c before c' ∧
    Ends env c' line

end Lines

/-! ### The handlers -/

/-- A setter of a proxy that defers its changes. -/
theorem Proxy.change_deferred {δ : Type*} {changed : Prop} [Decidable changed]
    {changedProxy proxy : Proxy} {send : δ → NTStatus × δ} {s : δ}
    (hdeferred : changedProxy.writeThrough = false) (hsame : ¬changed → changedProxy = proxy) :
    change changed changedProxy send proxy s = (statusSuccess, changedProxy, s) := by
  rw [change]
  split_ifs with hchanged hthrough
  · rw [hdeferred] at hthrough
    exact absurd hthrough Bool.false_ne_true
  · rfl
  · rw [hsame hchanged]

namespace CommandInterpreter

variable {δ : Type*} (env : Environment) (io : DeviceRequests δ)
  (interpreter : CommandInterpreter δ) (c : Configuration) (cancelled : Bool)

/-- The interpreter when these settings are cached. -/
def configured : CommandInterpreter δ :=
  { interpreter with filterDriverProxy := c.deferred, cancelled }

/-- An interpreter whose proxy defers its changes has the settings of that proxy cached. -/
theorem configured_configuration {interpreter : CommandInterpreter δ}
    (h : interpreter.filterDriverProxy.writeThrough = false) :
    interpreter.configured interpreter.filterDriverProxy.configuration interpreter.cancelled =
      interpreter := by
  obtain ⟨scriptMode, interactiveMode, ⟨writeThrough, blacklist, whitelist, active, inverse⟩,
    cancelled, device⟩ := interpreter
  obtain rfl : writeThrough = false := h
  rfl

theorem invoke_configured {call : Proxy.Call} {c c' : Configuration}
    (h : c.deferred.call io call interpreter.device =
      (statusSuccess, c'.deferred, interpreter.device)) :
    invoke io call (interpreter.configured c cancelled) =
      (some (), interpreter.configured c' cancelled) := by
  have hcall : (interpreter.configured c cancelled).filterDriverProxy.call io call
      (interpreter.configured c cancelled).device =
        (statusSuccess, c'.deferred, interpreter.device) := h
  simp only [invoke, hcall, ntSuccess_statusSuccess, if_true]
  rfl

theorem invoke_setActive (value : Bool) :
    invoke io (.setActive value) (interpreter.configured c cancelled) =
      (some (), interpreter.configured { c with active := value } cancelled) := by
  refine invoke_configured io interpreter cancelled (Proxy.change_deferred rfl fun hsame => ?_)
  rw [← not_not.mp hsame]

theorem invoke_setInverse (value : Bool) :
    invoke io (.setInverse value) (interpreter.configured c cancelled) =
      (some (), interpreter.configured { c with inverse := value } cancelled) := by
  refine invoke_configured io interpreter cancelled (Proxy.change_deferred rfl fun hsame => ?_)
  rw [← not_not.mp hsame]

theorem invoke_blacklistAddEntry (path : WString) :
    invoke io (.blacklistAddEntry path) (interpreter.configured c cancelled) =
      (some (), interpreter.configured { c with blacklist := c.blacklist.emplace path }
        cancelled) := by
  refine invoke_configured io interpreter cancelled (Proxy.change_deferred rfl fun hsame => ?_)
  rw [OrderedSet.emplace_of_contains (not_not.mp hsame)]

theorem invoke_blacklistDelEntry (path : WString) :
    invoke io (.blacklistDelEntry path) (interpreter.configured c cancelled) =
      (some (), interpreter.configured { c with blacklist := c.blacklist.erase path }
        cancelled) := by
  refine invoke_configured io interpreter cancelled (Proxy.change_deferred rfl fun hsame => ?_)
  rw [OrderedSet.erase_of_not_contains hsame]

theorem invoke_whitelistAddEntry (name : WString) :
    invoke io (.whitelistAddEntry name) (interpreter.configured c cancelled) =
      (some (), interpreter.configured { c with whitelist := c.whitelist.emplace name }
        cancelled) := by
  refine invoke_configured io interpreter cancelled (Proxy.change_deferred rfl fun hsame => ?_)
  rw [OrderedSet.emplace_of_contains (not_not.mp hsame)]

theorem invoke_whitelistDelEntry (name : WString) :
    invoke io (.whitelistDelEntry name) (interpreter.configured c cancelled) =
      (some (), interpreter.configured { c with whitelist := c.whitelist.erase name }
        cancelled) := by
  refine invoke_configured io interpreter cancelled (Proxy.change_deferred rfl fun hsame => ?_)
  rw [OrderedSet.erase_of_not_contains hsame]

/-- What a function comes to that works on the settings: it caches them, or it throws. -/
def CachesOrThrows (r : Option Unit × CommandInterpreter δ) (c' : Option Configuration)
    (cancelled : Bool) : Prop :=
  match c' with
  | some c' => r = (some (), interpreter.configured c' cancelled)
  | none => ∃ c', r = (none, interpreter.configured c' cancelled)

theorem appCleanNames_configured (fullImageNames : List WString) :
    interpreter.CachesOrThrows
      (appCleanNames env io fullImageNames (interpreter.configured c cancelled))
      (fullImageNames.foldlM (Configuration.clean env) c) cancelled := by
  induction fullImageNames generalizing c with
  | nil => exact rfl
  | cons fullImageName fullImageNames ih =>
    rw [appCleanNames, List.foldlM_cons, Configuration.clean]
    cases imageExists env fullImageName with
    | none => exact ⟨c, rfl⟩
    | some there =>
      cases there with
      | true => exact ih c
      | false =>
        dsimp only
        rw [invoke_whitelistDelEntry]
        exact ih _

/-- **A handler** of a proxy that defers its changes works on what is cached. -/
theorem execute_configured (command : RegisteredCommand) (args : Args) :
    interpreter.CachesOrThrows
      (command.execute env io args (interpreter.configured c cancelled))
      (c.next env command args) (cancelled || command = .cancel) := by
  rcases eq_or_ne command .cancel with rfl | hne
  · rw [decide_eq_true rfl, Bool.or_true]
    exact rfl
  rw [decide_eq_false hne, Bool.or_false]
  cases command with
  | appList =>
    have hlist : appList env (interpreter.configured c cancelled) =
        (c.whitelist.toList.forM fun fullImageName =>
          (fullImageNameToFileName env.volumes fullImageName).map fun _ => (),
          interpreter.configured c cancelled) := rfl
    rw [RegisteredCommand.execute, hlist, Configuration.next]
    cases c.whitelist.toList.forM fun fullImageName =>
        (fullImageNameToFileName env.volumes fullImageName).map fun _ => () with
    | none => exact ⟨c, rfl⟩
    | some => exact rfl
  | appReg =>
    rw [RegisteredCommand.execute, appReg, Configuration.next]
    cases fileNameToFullImageName env.volumes (args.getD 1 []) with
    | none => exact ⟨c, rfl⟩
    | some fullImageName => exact invoke_whitelistAddEntry io interpreter c cancelled _
  | appUnreg =>
    rw [RegisteredCommand.execute, appUnreg, Configuration.next]
    cases fileNameToFullImageName env.volumes (args.getD 1 []) with
    | none => exact ⟨c, rfl⟩
    | some fullImageName => exact invoke_whitelistDelEntry io interpreter c cancelled _
  | appClean =>
    exact appCleanNames_configured env io interpreter c cancelled c.whitelist.toList
  | invOff =>
    exact invoke_setInverse io interpreter c cancelled false
  | invOn =>
    exact invoke_setInverse io interpreter c cancelled true
  | cancel => exact absurd rfl hne
  | cloakOff =>
    exact invoke_setActive io interpreter c cancelled false
  | cloakOn =>
    exact invoke_setActive io interpreter c cancelled true
  | cloakToggle =>
    exact invoke_setActive io interpreter c cancelled !c.active
  | devAll =>
    rw [RegisteredCommand.execute, devAll, Configuration.next]
    cases env.hidDevices false with
    | none => exact ⟨c, rfl⟩
    | some => exact rfl
  | devGaming =>
    rw [RegisteredCommand.execute, devGaming, Configuration.next]
    cases env.hidDevices true with
    | none => exact ⟨c, rfl⟩
    | some => exact rfl
  | devHide =>
    exact invoke_blacklistAddEntry io interpreter c cancelled (args.getD 1 [])
  | devUnhide =>
    exact invoke_blacklistDelEntry io interpreter c cancelled (args.getD 1 [])
  | invState | cloakState | devList | help | version =>
    exact rfl

end CommandInterpreter

/-! ### The commands of a line -/

section Commands

variable {env : Environment} {c c' : Configuration}

theorem performs_nil : Performs env c [] c' ↔ c = c' := by
  constructor
  · exact fun h => Option.some.inj h.folded
  · rintro rfl
    exact ⟨fun _ h => absurd h List.not_mem_nil, rfl⟩

theorem performs_cons {command : Args} {commands : List Args} :
    Performs env c (command :: commands) c' ↔ Accepts env command ∧
      ∃ c₁, c.perform env command = some c₁ ∧ Performs env c₁ commands c' := by
  constructor
  · rintro ⟨haccepted, hfolded⟩
    obtain ⟨haccept, haccepted⟩ := List.forall_mem_cons.mp haccepted
    rw [List.foldlM_cons] at hfolded
    obtain ⟨c₁, hc₁, hfolded⟩ := Option.bind_eq_some_iff.mp hfolded
    exact ⟨haccept, c₁, hc₁, haccepted, hfolded⟩
  · rintro ⟨haccept, c₁, hc₁, haccepted, hfolded⟩
    refine ⟨List.forall_mem_cons.mpr ⟨haccept, haccepted⟩, ?_⟩
    rw [List.foldlM_cons, hc₁]
    exact hfolded

theorem performs_append {before after : List Args} {c'' : Configuration} :
    Performs env c (before ++ after) c'' ↔
      ∃ c', Performs env c before c' ∧ Performs env c' after c'' := by
  induction before generalizing c with
  | nil => simp [performs_nil]
  | cons command before ih =>
    simp only [List.cons_append, performs_cons, ih]
    constructor
    · rintro ⟨haccept, c₁, hc₁, c', hbefore, hafter⟩
      exact ⟨c', ⟨haccept, c₁, hc₁, hbefore⟩, hafter⟩
    · rintro ⟨c', ⟨haccept, c₁, hc₁, hbefore⟩, hafter⟩
      exact ⟨haccept, c₁, hc₁, c', hbefore, hafter⟩

theorem processes_nil : Processes env c [] c' ↔ c = c' := by
  rw [← @performs_nil env]
  constructor
  · exact fun h => h.performed
  · exact fun h => ⟨fun _ h => absurd h List.not_mem_nil, fun _ h => absurd h List.not_mem_nil, h⟩

theorem processes_cons {line : WString} {lines : List WString} {c'' : Configuration} :
    Processes env c (line :: lines) c'' ↔ (extractCommands env.iswspace line).2 = [] ∧
      (∀ command ∈ (extractCommands env.iswspace line).1, ¬Cancels command) ∧
        ∃ c', Performs env c (extractCommands env.iswspace line).1 c' ∧
          Processes env c' lines c'' := by
  constructor
  · rintro ⟨hparsed, hkept, hperformed⟩
    obtain ⟨hline, hparsed⟩ := List.forall_mem_cons.mp hparsed
    obtain ⟨hcancel, hkept⟩ := List.forall_mem_cons.mp hkept
    rw [List.flatMap_cons, performs_append] at hperformed
    obtain ⟨c', hfirst, hrest⟩ := hperformed
    exact ⟨hline, hcancel, c', hfirst, hparsed, hkept, hrest⟩
  · rintro ⟨hline, hcancel, c', hfirst, hparsed, hkept, hrest⟩
    refine ⟨List.forall_mem_cons.mpr ⟨hline, hparsed⟩,
      List.forall_mem_cons.mpr ⟨hcancel, hkept⟩, ?_⟩
    rw [List.flatMap_cons, performs_append]
    exact ⟨c', hfirst, hrest⟩

/-- A command is accepted or rejected, unless its validation throws. -/
theorem accepts_or_rejects (env : Environment) (command : Args) :
    Accepts env command ∨ Rejects env command ∨ ∃ commandInfo,
      RegisteredCommand.find (command.headD []) = some commandInfo ∧
        commandInfo.validate env command = none := by
  cases hfind : RegisteredCommand.find (command.headD []) with
  | none => exact .inr (.inl (.inl hfind))
  | some commandInfo =>
    rcases hvalid : commandInfo.validate env command with _ | _ | error
    · exact .inr (.inr ⟨commandInfo, rfl, hvalid⟩)
    · exact .inl ⟨commandInfo, hfind, hvalid⟩
    · exact .inr (.inl (.inr ⟨commandInfo, error, hfind, hvalid⟩))

end Commands

namespace CommandInterpreter

variable {δ : Type*} (env : Environment) (io : DeviceRequests δ)
  (interpreter : CommandInterpreter δ)

section Commands

variable {env} {c c' : Configuration} (cancelled : Bool)

/-- Commands that are performed come before the rest. -/
theorem executeCommands_append {before : List Args} (h : Performs env c before c')
    (rest : List Args) :
    executeCommands env io (before ++ rest) (interpreter.configured c cancelled) =
      executeCommands env io rest
        (interpreter.configured c' (cancelled || before.any (decide <| Cancels ·))) := by
  induction before generalizing c cancelled with
  | nil =>
    obtain rfl := performs_nil.mp h
    simp
  | cons command before ih =>
    obtain ⟨⟨commandInfo, hfind, hvalid⟩, c₁, hc₁, hbefore⟩ := performs_cons.mp h
    have hexecute := execute_configured env io interpreter c cancelled commandInfo command
    rw [Configuration.perform, hfind, Option.bind_some] at hc₁
    rw [hc₁] at hexecute
    change _ = (some (), _) at hexecute
    have hcancels : decide (Cancels command) = decide (commandInfo = .cancel) := by
      simp only [Cancels, hfind, Option.some.injEq]
    rw [List.cons_append, executeCommands, hfind]
    simp only [hvalid, errorText, ne_eq, not_true, if_false, hexecute, andThen]
    rw [ih _ hbefore, List.any_cons, hcancels, Bool.or_assoc]

/-- A command that is rejected ends the line with the text of an error. -/
theorem executeCommands_rejected (htexts : ∀ id, env.stringTable id ≠ []) {command : Args}
    (h : Rejects env command) (after : List Args) :
    ∃ errorMessage, errorMessage ≠ [] ∧
      executeCommands env io (command :: after) (interpreter.configured c cancelled) =
        (some errorMessage, interpreter.configured c cancelled) := by
  rcases h with hfind | ⟨commandInfo, error, hfind, hvalid⟩
  · refine ⟨_, htexts .commandNotRecognized, ?_⟩
    rw [executeCommands, hfind]
  · refine ⟨_, htexts error, ?_⟩
    rw [executeCommands, hfind]
    simp only [hvalid, errorText, htexts error, ne_eq, not_false_eq_true, if_true]

/-- **The commands of a line** are performed, or one of them is rejected, or one throws. -/
theorem executeCommands_cases (commands : List Args) (c : Configuration) :
    (∃ c', Performs env c commands c') ∨
      (∃ before command after c', commands = before ++ command :: after ∧
        Performs env c before c' ∧ Rejects env command) ∨
      ∃ c' cancelled', executeCommands env io commands (interpreter.configured c cancelled) =
        (none, interpreter.configured c' cancelled') := by
  induction commands generalizing c cancelled with
  | nil => exact .inl ⟨c, performs_nil.mpr rfl⟩
  | cons command commands ih =>
    rcases accepts_or_rejects env command with haccept | hreject | ⟨commandInfo, hfind, hvalid⟩
    · obtain ⟨commandInfo, hfind, hvalid⟩ := haccept
      have hexecute := execute_configured env io interpreter c cancelled commandInfo command
      have hperform : c.perform env command = c.next env commandInfo command := by
        rw [Configuration.perform, hfind, Option.bind_some]
      have hstep : executeCommands env io (command :: commands)
          (interpreter.configured c cancelled) =
            andThen (commandInfo.execute env io command (interpreter.configured c cancelled))
              fun _ => executeCommands env io commands := by
        rw [executeCommands, hfind]
        simp only [hvalid, errorText, ne_eq, not_true, if_false]
      cases hnext : c.next env commandInfo command with
      | none =>
        rw [hnext] at hexecute
        obtain ⟨c', hexecute⟩ := hexecute
        refine .inr (.inr ⟨c', cancelled || commandInfo = .cancel, ?_⟩)
        rw [hstep, hexecute]
        rfl
      | some c₁ =>
        rw [hnext] at hexecute
        change _ = (some (), _) at hexecute
        have hfirst : c.perform env command = some c₁ := hperform.trans hnext
        rcases ih (cancelled || commandInfo = .cancel) c₁ with ⟨c', hdone⟩ |
          ⟨before, bad, after, c', hcommands, hbefore, hreject⟩ | ⟨c', cancelled', hthrows⟩
        · exact .inl ⟨c', performs_cons.mpr ⟨⟨commandInfo, hfind, hvalid⟩, c₁, hfirst, hdone⟩⟩
        · refine .inr (.inl ⟨command :: before, bad, after, c', by rw [hcommands]; rfl, ?_,
            hreject⟩)
          exact performs_cons.mpr ⟨⟨commandInfo, hfind, hvalid⟩, c₁, hfirst, hbefore⟩
        · refine .inr (.inr ⟨c', cancelled', ?_⟩)
          rw [hstep, hexecute]
          exact hthrows
    · exact .inr (.inl ⟨[], command, commands, c, rfl, performs_nil.mpr rfl, hreject⟩)
    · refine .inr (.inr ⟨c, cancelled, ?_⟩)
      rw [executeCommands, hfind]
      simp only [hvalid]

end Commands

/-! ### The lines of a script -/

section Lines

/-- The loop of `Start` outside of the interactive mode, over the lines. -/
def processLines : List WString → CommandInterpreter δ → Option Unit × CommandInterpreter δ
  | [], interpreter => applyConfigurationChanges io interpreter
  | line :: lines, interpreter =>
      andThen (processLine env io line interpreter) fun errorMessage interpreter =>
        if errorMessage ≠ [] ∨ interpreter.cancelled then (some (), interpreter)
        else processLines lines interpreter

variable {env} {c c' : Configuration}

/-- A line leaves the interpreter with other settings cached, and all else as it was. -/
theorem processLine_configured (htexts : ∀ id, env.stringTable id ≠ []) (line : WString)
    (c : Configuration) :
    ∃ errorMessage c' cancelled', processLine env io line (interpreter.configured c false) =
      (errorMessage, interpreter.configured c' cancelled') := by
  rw [processLine]
  dsimp only
  split_ifs with hline
  · obtain ⟨c', hdone⟩ | ⟨before, command, after, c', hcommands, hbefore, hreject⟩ |
      ⟨c', cancelled', hthrows⟩ := executeCommands_cases io interpreter false
        (extractCommands env.iswspace line).1 c
    · have hcommands := executeCommands_append io interpreter false hdone []
      rw [List.append_nil] at hcommands
      exact ⟨_, _, _, hcommands⟩
    · rw [hcommands, executeCommands_append io interpreter false hbefore]
      obtain ⟨errorMessage, -, hend⟩ :=
        executeCommands_rejected io interpreter _ htexts hreject after
      exact ⟨_, _, _, hend⟩
    · exact ⟨_, _, _, hthrows⟩
  · exact ⟨_, _, _, rfl⟩

/-- Outside of the interactive mode, the lines are those of the standard input in script mode. -/
theorem start_configured (htexts : ∀ id, env.stringTable id ≠ [])
    (hmode : interpreter.interactiveMode = false) (line : WString) (input : List WString)
    (c : Configuration) :
    start env io line input (interpreter.configured c false) =
      processLines env io (line :: if interpreter.scriptMode then input else [])
        (interpreter.configured c false) := by
  induction input generalizing line c with
  | nil =>
    obtain ⟨errorMessage, c', cancelled', hline⟩ :=
      processLine_configured io interpreter htexts line c
    rw [start, ite_self, processLines, hline]
    cases errorMessage with
    | none => rfl
    | some errorMessage =>
      have hmode' : (interpreter.configured c' cancelled').interactiveMode = false := hmode
      simp only [andThen, hmode', Bool.false_eq_true, not_false_eq_true, and_true, ite_self]
      by_cases htext : errorMessage = []
      · simp only [htext, ne_eq, not_true, false_or, if_false, processLines]
      · simp only [htext, ne_eq, not_false_eq_true, true_or, if_true]
  | cons next input ih =>
    obtain ⟨errorMessage, c', cancelled', hline⟩ :=
      processLine_configured io interpreter htexts line c
    rw [start, processLines, hline]
    cases errorMessage with
    | none => rfl
    | some errorMessage =>
      have hmode' : (interpreter.configured c' cancelled').interactiveMode = false := hmode
      have hscript : (interpreter.configured c' cancelled').scriptMode =
          interpreter.scriptMode := rfl
      simp only [andThen, hmode', hscript, Bool.false_eq_true, not_false_eq_true, and_true,
        false_or]
      by_cases htext : errorMessage = []
      · simp only [htext, ne_eq, not_true, false_or, if_false]
        cases cancelled' with
        | true => rfl
        | false =>
          change (if _ then start env io next input (interpreter.configured c' false) else _) = _
          rw [ih next c']
          cases interpreter.scriptMode <;> rfl
      · simp only [htext, ne_eq, not_false_eq_true, true_or, if_true]

/-- A line without errors whose commands are performed. -/
theorem processLine_performed {line : WString} (hline : (extractCommands env.iswspace line).2 = [])
    (h : Performs env c (extractCommands env.iswspace line).1 c') :
    processLine env io line (interpreter.configured c false) =
      (some [], interpreter.configured c'
        ((extractCommands env.iswspace line).1.any (decide <| Cancels ·))) := by
  have hcommands := executeCommands_append io interpreter false h []
  rw [List.append_nil, Bool.false_or] at hcommands
  rw [processLine]
  simp only [hline, if_true]
  exact hcommands

/-- **A line that ends the script** ends it without a request. -/
theorem processLines_ends (htexts : ∀ id, env.stringTable id ≠ []) {line : WString}
    (h : Ends env c line) (lines : List WString) :
    ∃ c' cancelled', processLines env io (line :: lines) (interpreter.configured c false) =
      (some (), interpreter.configured c' cancelled') := by
  have herror : (extractCommands env.iswspace line).2 ≠ [] →
      processLine env io line (interpreter.configured c false) =
        (some (env.stringTable .syntaxError), interpreter.configured c false) := by
    intro hline
    rw [processLine]
    exact if_neg hline
  by_cases hline : (extractCommands env.iswspace line).2 = []
  · cases h with
    | syntaxError h => exact absurd hline h
    | @rejected before after command c' hcommands hbefore hreject =>
      obtain ⟨errorMessage, htext, hend⟩ := @executeCommands_rejected _ env io interpreter c'
        (false || before.any (decide <| Cancels ·)) htexts command hreject after
      refine ⟨c', before.any (decide <| Cancels ·), ?_⟩
      rw [processLines, processLine]
      simp only [hline, if_true]
      rw [hcommands, executeCommands_append io interpreter false hbefore, hend]
      exact if_pos (.inl htext)
    | @cancelled command c' hcommand hperformed hcancel =>
      refine ⟨c', true, ?_⟩
      have hany : (extractCommands env.iswspace line).1.any (decide <| Cancels ·) = true :=
        List.any_eq_true.mpr ⟨command, hcommand, decide_eq_true hcancel⟩
      rw [processLines, processLine_performed io interpreter hline hperformed, hany]
      rfl
  · refine ⟨c, false, ?_⟩
    rw [processLines, herror hline]
    exact if_pos (.inl (htexts _))

/-- Lines that are processed come before the rest. -/
theorem processLines_append {before : List WString} (h : Processes env c before c')
    (rest : List WString) :
    processLines env io (before ++ rest) (interpreter.configured c false) =
      processLines env io rest (interpreter.configured c' false) := by
  induction before generalizing c with
  | nil =>
    obtain rfl := processes_nil.mp h
    rfl
  | cons line before ih =>
    obtain ⟨hline, hkept, c₁, hfirst, hbefore⟩ := processes_cons.mp h
    have hany : (extractCommands env.iswspace line).1.any (decide <| Cancels ·) = false :=
      List.any_eq_false.mpr fun command hcommand => by simpa using hkept command hcommand
    rw [List.cons_append, processLines, processLine_performed io interpreter hline hfirst, hany,
      ← ih hbefore]
    rfl

/-- **The lines of a script** are processed, or one of them ends it, or there is an exception. -/
theorem processLines_cases (lines : List WString) (c : Configuration) :
    (∃ c', Processes env c lines c') ∨ Aborts env c lines ∨
      ∃ c' cancelled', processLines env io lines (interpreter.configured c false) =
        (none, interpreter.configured c' cancelled') := by
  induction lines generalizing c with
  | nil => exact .inl ⟨c, processes_nil.mpr rfl⟩
  | cons line lines ih =>
    have hends : Ends env c line → Aborts env c (line :: lines) := fun h =>
      ⟨[], line, lines, c, rfl, processes_nil.mpr rfl, h⟩
    by_cases hline : (extractCommands env.iswspace line).2 = []
    · rcases executeCommands_cases io interpreter false (extractCommands env.iswspace line).1 c with
        ⟨c₁, hdone⟩ | ⟨before, command, after, c', hcommands, hbefore, hreject⟩ |
          ⟨c', cancelled', hthrows⟩
      · by_cases hkept : ∀ command ∈ (extractCommands env.iswspace line).1, ¬Cancels command
        · have hfirst : Processes env c [line] c₁ :=
            processes_cons.mpr ⟨hline, hkept, c₁, hdone, processes_nil.mpr rfl⟩
          rcases ih c₁ with ⟨c', hrest⟩ | ⟨before, bad, after, c', hlines, hbefore, hbad⟩ |
            ⟨c', cancelled', hthrows⟩
          · exact .inl ⟨c', processes_cons.mpr ⟨hline, hkept, c₁, hdone, hrest⟩⟩
          · refine .inr (.inl ⟨line :: before, bad, after, c', by rw [hlines]; rfl, ?_, hbad⟩)
            exact processes_cons.mpr ⟨hline, hkept, c₁, hdone, hbefore⟩
          · refine .inr (.inr ⟨c', cancelled', ?_⟩)
            rw [← List.singleton_append, processLines_append io interpreter hfirst, hthrows]
        · obtain ⟨command, hcommand, hcancel⟩ : ∃ command ∈ (extractCommands env.iswspace line).1,
              Cancels command := by simpa using hkept
          exact .inr (.inl (hends (.cancelled hcommand hdone hcancel)))
      · exact .inr (.inl (hends (.rejected hcommands hbefore hreject)))
      · refine .inr (.inr ⟨c', cancelled', ?_⟩)
        rw [processLines, processLine]
        simp only [hline, if_true, hthrows, andThen]
    · exact .inr (.inl (hends (.syntaxError hline)))

end Lines

end CommandInterpreter

/-! ### The requests -/

section Flush

variable (s : ConfigurationStore)

theorem flushWhitelist_settings (whitelist : OrderedSet pathLt) :
    (s.flushWhitelist whitelist).blacklist = s.blacklist ∧
      (s.flushWhitelist whitelist).switch = s.switch ∧
      (s.flushWhitelist whitelist).requests = s.requests ++
        if s.whitelist.Equiv whitelist then []
        else [.list .whitelist (Proxy.writeSet whitelist)] := by
  rw [ConfigurationStore.flushWhitelist]
  split_ifs
  · exact ⟨rfl, rfl, (List.append_nil _).symm⟩
  · exact ⟨rfl, rfl, rfl⟩

theorem flushBlacklist_settings (blacklist : DeviceInstancePaths) :
    (s.flushBlacklist blacklist).switch = s.switch ∧
      (s.flushBlacklist blacklist).requests = s.requests ++
        if s.blacklist = blacklist then [] else [.list .blacklist (Proxy.writeSet blacklist)] := by
  rw [ConfigurationStore.flushBlacklist]
  split_ifs
  · exact ⟨rfl, (List.append_nil _).symm⟩
  · exact ⟨rfl, rfl⟩

theorem flushSwitch_settings (kind : SwitchKind) (value : Bool) :
    (∀ kind' ≠ kind, (s.flushSwitch kind value).switch kind' = s.switch kind') ∧
      (s.flushSwitch kind value).requests = s.requests ++
        if s.switch kind = value then [] else [.switch kind value] := by
  rw [ConfigurationStore.flushSwitch]
  split_ifs
  · exact ⟨fun _ _ => rfl, (List.append_nil _).symm⟩
  · exact ⟨fun kind' hkind => by simp [ConfigurationStore.setSwitch, hkind], rfl⟩

end Flush

/-- The requests of `ApplyConfigurationChanges` to the store: what one of them sets is no matter to
the others. -/
theorem Configuration.requests_apply (c : Configuration) (s : ConfigurationStore) :
    ∃ s', c.deferred.applyConfigurationChanges storeRequests s = (statusSuccess, s') ∧
      s'.requests = s.requests ++ c.changes s := by
  refine ⟨_, Proxy.applyConfigurationChanges_store c.deferred s rfl, ?_⟩
  obtain ⟨hblacklist, hswitch, hrequests⟩ := flushWhitelist_settings s c.whitelist
  obtain ⟨hswitch', hrequests'⟩ :=
    flushBlacklist_settings (s.flushWhitelist c.whitelist) c.blacklist
  obtain ⟨hinverse, hrequests''⟩ := flushSwitch_settings
    ((s.flushWhitelist c.whitelist).flushBlacklist c.blacklist) .active c.active
  obtain ⟨-, hlast⟩ := flushSwitch_settings (((s.flushWhitelist c.whitelist).flushBlacklist
    c.blacklist).flushSwitch .active c.active) .whitelistedInverse c.inverse
  rw [hinverse _ (by decide), hrequests'', hrequests', hrequests, hblacklist, hswitch', hswitch]
    at hlast
  refine hlast.trans ?_
  simp only [Configuration.changes, List.append_assoc, ConfigurationStore.active,
    ConfigurationStore.inverse]

open CommandInterpreter

/-- **Scripts are all or nothing.** Outside of the interactive mode, with a proxy that defers its
changes: if one of the lines that are processed has an error, or executes `cancel`, then `Start`
returns and the device has got no request to set anything. If the lines are processed, it gets a
request for each of the four settings that differs from what the commands make of the cached
settings, with the value that they make. Else there is an exception, and no request. -/
theorem script_allOrNothing (env : Environment) (htexts : ∀ id, env.stringTable id ≠ [])
    (commandLine : WString) (input : List WString)
    {interpreter : CommandInterpreter ConfigurationStore}
    (hmode : interpreter.interactiveMode = false)
    (hdeferred : interpreter.filterDriverProxy.writeThrough = false)
    (hcancelled : interpreter.cancelled = false) :
    let lines := commandLine :: if interpreter.scriptMode then input else []
    let c := interpreter.filterDriverProxy.configuration
    let r := start env storeRequests commandLine input interpreter
    (Aborts env c lines → r.1 = some () ∧ r.2.device = interpreter.device) ∧
      (∀ c', Processes env c lines c' → r.1 = some () ∧
        r.2.device.requests = interpreter.device.requests ++ c'.changes interpreter.device) ∧
      ((¬Aborts env c lines ∧ ¬∃ c', Processes env c lines c') →
        r.1 = none ∧ r.2.device = interpreter.device) := by
  intro lines c r
  have hconfigured : interpreter = interpreter.configured c false := by
    rw [← hcancelled, configured_configuration hdeferred]
  have hr : r = processLines env storeRequests lines (interpreter.configured c false) := by
    rw [← start_configured storeRequests interpreter htexts hmode, ← hconfigured]
  refine ⟨?_, ?_, ?_⟩
  · rintro ⟨before, line, after, c', hlines, hbefore, hends⟩
    obtain ⟨c'', cancelled', hend⟩ := processLines_ends storeRequests interpreter htexts hends after
    rw [hr, hlines, processLines_append storeRequests interpreter hbefore, hend]
    exact ⟨rfl, rfl⟩
  · intro c' hprocesses
    have hall := processLines_append storeRequests interpreter hprocesses []
    rw [List.append_nil] at hall
    obtain ⟨s', happly, hrequests⟩ := c'.requests_apply interpreter.device
    have hend : processLines env storeRequests [] (interpreter.configured c' false) =
        (some (), { interpreter.configured c' false with device := s' }) := by
      have happly' : (interpreter.configured c' false).filterDriverProxy.applyConfigurationChanges
          storeRequests (interpreter.configured c' false).device = (statusSuccess, s') := happly
      simp only [processLines, applyConfigurationChanges, happly', ntSuccess_statusSuccess, if_true]
    rw [hr, hall, hend]
    exact ⟨rfl, hrequests⟩
  · rintro ⟨haborts, hprocesses⟩
    obtain hdone | hends | ⟨c', cancelled', hthrows⟩ := @processLines_cases _ env storeRequests
      interpreter lines c
    · exact absurd hdone hprocesses
    · exact absurd hends haborts
    · rw [hr, hthrows]
      exact ⟨rfl, rfl⟩

/-- An interpreter outside of both modes, on a device on which nothing is set. -/
def firstInterpreter : CommandInterpreter ConfigurationStore where
  scriptMode := false
  interactiveMode := false
  filterDriverProxy := Configuration.deferred ⟨false, false, ∅, ∅⟩
  cancelled := false
  device := firstStore

/-- A system without volumes and devices, whose only white space is the space. -/
def bareEnvironment : Environment where
  iswspace c := c = space
  stringTable _ := wide "error"
  volumes := []
  fileExists _ := some false
  hidDevices _ := some ()

theorem script_allOrNothing_hideOne :
    (start bareEnvironment storeRequests (devListLine [0x41]) []
        firstInterpreter).2.device.requests = [.list .blacklist [0x41, 0, 0]] := by
  have hline : extractCommands bareEnvironment.iswspace (devListLine [0x41]) =
      ([[devHideKeyword, [0x41]]], []) := by
    refine (devListLine_accepted (by decide) (fun c hlow _ => ?_) (by decide) (by decide)).1
    rintro hspace
    obtain rfl : c = space := by simpa [bareEnvironment] using hspace
    exact absurd hlow (by decide)
  have hprocesses : Processes bareEnvironment firstInterpreter.filterDriverProxy.configuration
      [devListLine [0x41]] ⟨false, false, (∅ : DeviceInstancePaths).emplace [0x41], ∅⟩ := by
    refine processes_cons.mpr ⟨by rw [hline], ?_, _, ?_, processes_nil.mpr rfl⟩
    · rw [hline]
      decide
    · rw [hline]
      exact performs_cons.mpr ⟨⟨.devHide, rfl, rfl⟩, _, rfl, performs_nil.mpr rfl⟩
  have htext : wide "error" ≠ [] := by decide
  have hrequests := ((script_allOrNothing bareEnvironment (fun _ => htext) (devListLine [0x41]) []
    rfl rfl rfl).2.1 _ hprocesses).2
  rw [hrequests]
  decide

end HidHide
