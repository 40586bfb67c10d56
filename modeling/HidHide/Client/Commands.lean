import HidHide.Client.CliParsing
import HidHide.Client.FilterDriverProxy

/-!
# Commands

The texts of the commands: the keywords of `dev-hide` and `app-reg`, the lines that the listing
commands of `Commands.cpp` print, and the validation of a device instance path.

The validation does not refuse the empty string: a quoted argument comes from the command line as it
is (`devListLine_accepted`), whichever string it is.
-/

namespace HidHide

/-- The texts of the string table that report an error. -/
inductive StringId where
  | syntaxError
  | commandNotRecognized
  | wrongNumberOfArguments
  | notAFullyQualifiedPath
  | notAnExecutable
  | notOnAVolume
  | devInstPathTooLong
  deriving DecidableEq, Repr

/-- `MAX_DEVICE_ID_LEN`. -/
def maxDeviceIdLen : ℕ := 200

/-- `ValOneDeviceInstancePath`: the error, if there is one. -/
def valOneDeviceInstancePath (args : Args) : Option StringId :=
  if 2 ≠ args.length then some .wrongNumberOfArguments
  else if maxDeviceIdLen < (args.getD 1 []).length then some .devInstPathTooLong
  else none

/-- The keyword `dev-hide`. -/
def devHideKeyword : WString := [0x64, 0x65, 0x76, 0x2D, 0x68, 0x69, 0x64, 0x65]

/-- The keyword `app-reg`. -/
def appRegKeyword : WString := [0x61, 0x70, 0x70, 0x2D, 0x72, 0x65, 0x67]

/-- A line that `AppList` prints, from the file name of the application on. -/
def appListLine (fileName : WString) : WString := quotedCommand appRegKeyword fileName

/-- A line that `DevList` prints. -/
def devListLine (device : WString) : WString := quotedCommand devHideKeyword device

/-- **A line of `DevList` is a command**: it is read as the command to hide the device, whichever
string without double quotes the device is, and accepted if the device is not too long. -/
theorem devListLine_accepted {iswspace : WChar → Bool} (hspace : iswspace space)
    (hgraph : ∀ c, 0x21 ≤ c → c ≤ 0x7E → ¬iswspace c) {device : WString}
    (hdevice : doubleQuote ∉ device) (hlength : device.length ≤ maxDeviceIdLen) :
    extractCommands iswspace (devListLine device) = ([[devHideKeyword, device]], []) ∧
      valOneDeviceInstancePath [devHideKeyword, device] = none := by
  have hkeyword : ∀ c ∈ devHideKeyword, ¬iswspace c := by
    have hprintable : devHideKeyword.all (fun c => 0x21 ≤ c ∧ c ≤ 0x7E) = true := by decide
    intro c hc
    obtain ⟨hlow, hhigh⟩ := of_decide_eq_true (List.all_eq_true.mp hprintable c hc)
    exact hgraph c hlow hhigh
  refine ⟨extractCommands_quoted hspace (hgraph _ (by decide) (by decide))
    (hgraph _ (by decide) (by decide)) hkeyword hdevice, ?_⟩
  have hshort : ¬maxDeviceIdLen < ([devHideKeyword, device].getD 1 []).length :=
    not_lt.mpr hlength
  rw [valOneDeviceInstancePath, if_neg (by simp), if_neg hshort]

end HidHide
