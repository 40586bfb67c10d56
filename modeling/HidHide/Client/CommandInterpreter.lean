import HidHide.Client.Commands
import HidHide.Client.Proxy
import HidHide.Client.Volume

/-!
# The command interpreter

The class `CommandInterpreter`: the registered commands with their validation and their handlers,
the execution of the commands of a line, and the loop over the lines of the standard input.

A handler works on a proxy of any device (`DeviceRequests`). `none` is an exception; it leaves the
device as it is by then. What is printed is left out, and so are the texts of the help, but not the
queries of the commands that print.
-/

namespace HidHide

/-- What the commands find in the system. -/
structure Environment where
  iswspace : WChar → Bool
  stringTable : StringId → WString
  volumes : List Volume
  /-- `std::filesystem::exists`. -/
  fileExists : WString → Option Bool
  /-- `HidDevices`. -/
  hidDevices : Bool → Option Unit

/-- A wide string literal. -/
def wide (text : String) : WString := text.toList.map fun c => UInt16.ofNat c.toNat

/-- `FileIsAnApplication`. -/
def fileIsAnApplication (fullyQualifiedFileName : WString) : Bool :=
  let extension := extension fullyQualifiedFileName
  PathEq (wide ".exe") extension || PathEq (wide ".com") extension ||
    PathEq (wide ".bin") extension

/-- The interpreter, with the device that its proxy is for. -/
structure CommandInterpreter (δ : Type*) where
  scriptMode : Bool
  interactiveMode : Bool
  filterDriverProxy : Proxy
  cancelled : Bool
  device : δ

namespace CommandInterpreter

variable {δ : Type*} (env : Environment) (io : DeviceRequests δ)

/-- Go on unless there is an exception. -/
def andThen {α β : Type*} (r : Option α × CommandInterpreter δ)
    (next : α → CommandInterpreter δ → Option β × CommandInterpreter δ) :
    Option β × CommandInterpreter δ :=
  match r with
  | (none, interpreter) => (none, interpreter)
  | (some value, interpreter) => next value interpreter

/-- Call a setter of the proxy: a request that fails is an exception. -/
def invoke (call : Proxy.Call) (interpreter : CommandInterpreter δ) :
    Option Unit × CommandInterpreter δ :=
  let (ntstatus, filterDriverProxy, device) :=
    interpreter.filterDriverProxy.call io call interpreter.device
  (if NTSuccess ntstatus then some () else none,
    { interpreter with filterDriverProxy, device })

/-! ### Validation -/

/-- `ValNoArguments`: the error, if there is one. -/
def valNoArguments (args : Args) : Option StringId :=
  if 1 = args.length then none else some .wrongNumberOfArguments

/-- `ValOneFullyQualifiedExecutablePath`: the error, if there is one. -/
def valOneFullyQualifiedExecutablePath (args : Args) : Option (Option StringId) :=
  if 2 ≠ args.length then some (some .wrongNumberOfArguments)
  else
    let fullyQualifiedFileName := args.getD 1 []
    if ¬isAbsolute fullyQualifiedFileName then some (some .notAFullyQualifiedPath)
    else if ¬fileIsAnApplication fullyQualifiedFileName then some (some .notAnExecutable)
    else
      match fileNameToFullImageName env.volumes fullyQualifiedFileName with
      | none => none
      | some fullImageName => some (if fullImageName = [] then some .notOnAVolume else none)

/-! ### Handlers -/

/-- `AppReg`. -/
def appReg (args : Args) (interpreter : CommandInterpreter δ) :
    Option Unit × CommandInterpreter δ :=
  match fileNameToFullImageName env.volumes (args.getD 1 []) with
  | none => (none, interpreter)
  | some fullImageName => invoke io (.whitelistAddEntry fullImageName) interpreter

/-- `AppUnreg`. -/
def appUnreg (args : Args) (interpreter : CommandInterpreter δ) :
    Option Unit × CommandInterpreter δ :=
  match fileNameToFullImageName env.volumes (args.getD 1 []) with
  | none => (none, interpreter)
  | some fullImageName => invoke io (.whitelistDelEntry fullImageName) interpreter

/-- Whether the file of a full image name is there. -/
def imageExists (fullImageName : WString) : Option Bool :=
  (fullImageNameToFileName env.volumes fullImageName).bind env.fileExists

/-- The loop of `AppClean`. -/
def appCleanNames : List WString → CommandInterpreter δ → Option Unit × CommandInterpreter δ
  | [], interpreter => (some (), interpreter)
  | fullImageName :: fullImageNames, interpreter =>
      match imageExists env fullImageName with
      | none => (none, interpreter)
      | some true => appCleanNames fullImageNames interpreter
      | some false =>
          andThen (invoke io (.whitelistDelEntry fullImageName) interpreter) fun _ =>
            appCleanNames fullImageNames

/-- `AppClean`. -/
def appClean (interpreter : CommandInterpreter δ) : Option Unit × CommandInterpreter δ :=
  appCleanNames env io interpreter.filterDriverProxy.whitelist.toList interpreter

/-- `AppList`. -/
def appList (interpreter : CommandInterpreter δ) : Option Unit × CommandInterpreter δ :=
  (interpreter.filterDriverProxy.whitelist.toList.forM fun fullImageName =>
    (fullImageNameToFileName env.volumes fullImageName).map fun _ => (), interpreter)

/-- `DevHide`. -/
def devHide (args : Args) : CommandInterpreter δ → Option Unit × CommandInterpreter δ :=
  invoke io (.blacklistAddEntry (args.getD 1 []))

/-- `DevUnhinde`. -/
def devUnhinde (args : Args) : CommandInterpreter δ → Option Unit × CommandInterpreter δ :=
  invoke io (.blacklistDelEntry (args.getD 1 []))

/-- `DevGaming`. -/
def devGaming (interpreter : CommandInterpreter δ) : Option Unit × CommandInterpreter δ :=
  (env.hidDevices true, interpreter)

/-- `DevAll`. -/
def devAll (interpreter : CommandInterpreter δ) : Option Unit × CommandInterpreter δ :=
  (env.hidDevices false, interpreter)

/-- `CloakOn`. -/
def cloakOn : CommandInterpreter δ → Option Unit × CommandInterpreter δ :=
  invoke io (.setActive true)

/-- `CloakOff`. -/
def cloakOff : CommandInterpreter δ → Option Unit × CommandInterpreter δ :=
  invoke io (.setActive false)

/-- `CloakToggle`. -/
def cloakToggle (interpreter : CommandInterpreter δ) : Option Unit × CommandInterpreter δ :=
  invoke io (.setActive !interpreter.filterDriverProxy.active) interpreter

/-- `InvOn`. -/
def invOn : CommandInterpreter δ → Option Unit × CommandInterpreter δ :=
  invoke io (.setInverse true)

/-- `InvOff`. -/
def invOff : CommandInterpreter δ → Option Unit × CommandInterpreter δ :=
  invoke io (.setInverse false)

/-- `Cancel`. -/
def cancel (interpreter : CommandInterpreter δ) : Option Unit × CommandInterpreter δ :=
  (some (), { interpreter with cancelled := true })

end CommandInterpreter

/-! ### The registered commands -/

/-- The registered commands. -/
inductive RegisteredCommand where
  | appList
  | appReg
  | appUnreg
  | appClean
  | invOff
  | invOn
  | invState
  | cancel
  | cloakOff
  | cloakOn
  | cloakState
  | cloakToggle
  | devAll
  | devGaming
  | devHide
  | devList
  | devUnhide
  | help
  | version
  deriving DecidableEq, Repr

namespace RegisteredCommand

/-- The keyword under which a command is registered. -/
def keyword : RegisteredCommand → WString
  | appList => wide "app-list"
  | appReg => appRegKeyword
  | appUnreg => wide "app-unreg"
  | appClean => wide "app-clean"
  | invOff => wide "inv-off"
  | invOn => wide "inv-on"
  | invState => wide "inv-state"
  | cancel => wide "cancel"
  | cloakOff => wide "cloak-off"
  | cloakOn => wide "cloak-on"
  | cloakState => wide "cloak-state"
  | cloakToggle => wide "cloak-toggle"
  | devAll => wide "dev-all"
  | devGaming => wide "dev-gaming"
  | devHide => devHideKeyword
  | devList => wide "dev-list"
  | devUnhide => wide "dev-unhide"
  | help => wide "help"
  | version => wide "version"

/-- All of them. -/
def all : List RegisteredCommand :=
  [appList, appReg, appUnreg, appClean, invOff, invOn, invState, cancel, cloakOff, cloakOn,
    cloakState, cloakToggle, devAll, devGaming, devHide, devList, devUnhide, help, version]

/-- The command of a keyword. -/
def find (keyword : WString) : Option RegisteredCommand := all.find? (·.keyword = keyword)

/-- What is registered for the validation of the arguments. -/
def validate (env : Environment) : RegisteredCommand → Args → Option (Option StringId)
  | appReg, args | appUnreg, args => CommandInterpreter.valOneFullyQualifiedExecutablePath env args
  | devHide, args | devUnhide, args => some (valOneDeviceInstancePath args)
  | _, args => some (CommandInterpreter.valNoArguments args)

/-- What is registered as the handler. -/
def execute {δ : Type*} (env : Environment) (io : DeviceRequests δ) (command : RegisteredCommand)
    (args : Args) (interpreter : CommandInterpreter δ) : Option Unit × CommandInterpreter δ :=
  match command with
  | appList => interpreter.appList env
  | appReg => interpreter.appReg env io args
  | appUnreg => interpreter.appUnreg env io args
  | appClean => interpreter.appClean env io
  | invOff => interpreter.invOff io
  | invOn => interpreter.invOn io
  | cancel => interpreter.cancel
  | cloakOff => interpreter.cloakOff io
  | cloakOn => interpreter.cloakOn io
  | cloakToggle => interpreter.cloakToggle io
  | devAll => interpreter.devAll env
  | devGaming => interpreter.devGaming env
  | devHide => interpreter.devHide io args
  | devUnhide => interpreter.devUnhinde io args
  -- these only print
  | invState | cloakState | devList | help | version => (some (), interpreter)

/-- The keywords differ, so a command is found by its own. -/
theorem find_keyword (command : RegisteredCommand) : find command.keyword = some command := by
  cases command <;> rfl

end RegisteredCommand

/-! ### Lines -/

namespace CommandInterpreter

variable {δ : Type*} (env : Environment) (io : DeviceRequests δ)

/-- The text of an error; no error has the empty text. -/
def errorText : Option StringId → WString
  | none => []
  | some id => env.stringTable id

/-- `ExecuteCommands`: the text of the error that ended it, or the empty text. -/
def executeCommands : List Args → CommandInterpreter δ → Option WString × CommandInterpreter δ
  | [], interpreter => (some [], interpreter)
  | command :: commands, interpreter =>
      match RegisteredCommand.find (command.headD []) with
      | none => (some (env.stringTable .commandNotRecognized), interpreter)
      | some commandInfo =>
          match commandInfo.validate env command with
          | none => (none, interpreter)
          | some result =>
              if errorText env result ≠ [] then (some (errorText env result), interpreter)
              else
                andThen (commandInfo.execute env io command interpreter) fun _ =>
                  executeCommands commands

/-- The body of the loop of `Start`, up to the text of the error. -/
def processLine (line : WString) (interpreter : CommandInterpreter δ) :
    Option WString × CommandInterpreter δ :=
  let (commands, line) := extractCommands env.iswspace line
  if line = [] then executeCommands env io commands interpreter
  else (some (env.stringTable .syntaxError), interpreter)

/-- `ApplyConfigurationChanges`: a request that fails is an exception. -/
def applyConfigurationChanges (interpreter : CommandInterpreter δ) :
    Option Unit × CommandInterpreter δ :=
  let (ntstatus, device) :=
    interpreter.filterDriverProxy.applyConfigurationChanges io interpreter.device
  (if NTSuccess ntstatus then some () else none, { interpreter with device })

/-- `Start`, with the lines that are left of the standard input. -/
def start (line : WString) (input : List WString) (interpreter : CommandInterpreter δ) :
    Option Unit × CommandInterpreter δ :=
  andThen (processLine env io line interpreter) fun errorMessage interpreter =>
    if errorMessage ≠ [] ∧ ¬interpreter.interactiveMode then (some (), interpreter)
    else if interpreter.cancelled then (some (), interpreter)
    else if interpreter.interactiveMode ∨ interpreter.scriptMode then
      match input with
      | [] => applyConfigurationChanges io interpreter
      | line :: input => start line input interpreter
    else applyConfigurationChanges io interpreter

end CommandInterpreter

end HidHide
