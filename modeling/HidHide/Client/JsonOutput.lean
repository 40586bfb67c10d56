import HidHide.ForMathlib.Json
import HidHide.Client.HidDevices

/-!
# The output of devices as JSON

The stream operators of `Commands.cpp`, by which `dev-all` and `dev-gaming` write the groups of
devices. What they write is a JSON text, whatever the strings are, and reading it by the names of
the members gives back the groups (`hidDevicesText_faithful`). How the system writes a GUID is a
parameter.
-/

namespace HidHide

open Json (ascii)

/-! ### Escaping -/

/-- A digit as `std::hex` writes it. -/
def hexChar (d : ℕ) : WChar := if d < 10 then .ofNat (0x30 + d) else .ofNat (0x57 + d)

/-- What `escape_json` writes for a character. -/
def escapeChar (c : WChar) : WString :=
  if c = 0x22 then ascii "\\\""
  else if c = 0x5C then ascii "\\\\"
  else if c = 0x08 then ascii "\\b"
  else if c = 0x0C then ascii "\\f"
  else if c = 0x0A then ascii "\\n"
  else if c = 0x0D then ascii "\\r"
  else if c = 0x09 then ascii "\\t"
  else if c ≤ 0x1F then ascii "\\u" ++ (Numerals.padded 16 4 c.toNat).map hexChar
  else [c]

/-- `escape_json`. -/
def escapeJson (s : WString) : WString := s.flatMap escapeChar

theorem hexDigitOf_hexChar : ∀ d < 16, Json.hexDigitOf (hexChar d) = some d := by decide

/-- The code of a character. -/
theorem charText_code (c : WChar) :
    Json.CharText (ascii "\\u" ++ (Numerals.padded 16 4 c.toNat).map hexChar) c := by
  have hlength : (Numerals.padded 16 4 c.toNat).length = 4 :=
    Numerals.length_padded (by decide) (by decide) c.toNat_lt
  have hdigits : ∀ d ∈ Numerals.padded 16 4 c.toNat, Json.hexDigitOf (hexChar d) = some d :=
    fun d hd => hexDigitOf_hexChar d (Numerals.padded_lt (by decide) hd)
  have hcode := Numerals.ofDigits_padded 16 4 c.toNat
  obtain ⟨d₃, d₂, d₁, d₀, hpadded⟩ : ∃ d₃ d₂ d₁ d₀,
      Numerals.padded 16 4 c.toNat = [d₃, d₂, d₁, d₀] := by
    match Numerals.padded 16 4 c.toNat, hlength with
    | [d₃, d₂, d₁, d₀], _ => exact ⟨d₃, d₂, d₁, d₀, rfl⟩
  rw [hpadded] at hdigits hcode ⊢
  have htext := Json.CharText.code _ _ _ _ d₃ d₂ d₁ d₀ (hdigits d₃ (by simp))
    (hdigits d₂ (by simp)) (hdigits d₁ (by simp)) (hdigits d₀ (by simp))
  rwa [hcode, UInt16.ofNat_toNat] at htext

/-- **Every character** is written as the grammar has it. -/
theorem charText_escapeChar (c : WChar) : Json.CharText (escapeChar c) c := by
  rw [escapeChar]
  split_ifs with hquote hbackslash hb hf hn hr ht hcontrol
  · exact hquote ▸ .escaped 0x22 0x22 rfl
  · exact hbackslash ▸ .escaped 0x5C 0x5C rfl
  · exact hb ▸ .escaped 0x62 0x08 rfl
  · exact hf ▸ .escaped 0x66 0x0C rfl
  · exact hn ▸ .escaped 0x6E 0x0A rfl
  · exact hr ▸ .escaped 0x72 0x0D rfl
  · exact ht ▸ .escaped 0x74 0x09 rfl
  · exact charText_code c
  · exact .unescaped c (UInt16.lt_iff_toNat_lt.mp (UInt16.not_le.mp hcontrol)) hquote hbackslash

theorem charsText_escapeJson (s : WString) : Json.CharsText (escapeJson s) s := by
  induction s with
  | nil => exact .nil
  | cons c s ih => exact .cons (charText_escapeChar c) ih

/-! ### The stream operators -/

section Output

variable (guidToString : Guid → WString)

/-- A truth value under `std::boolalpha`. -/
def boolalpha (b : Bool) : WString := if b then ascii "true" else ascii "false"

/-- A count. -/
def countText (n : ℕ) : WString := (Numerals.digits 10 n).map Json.digitChar

/-- A string in quotes. -/
def quotedText (s : WString) : WString := ascii "\"" ++ escapeJson s ++ ascii "\""

/-- The fields of a device, by name, with what is written for them. -/
def deviceFields (device : HidDeviceInformation) : List (String × WString) :=
  [("present", boolalpha device.present),
    ("gamingDevice", boolalpha device.gamingDevice),
    ("symbolicLink", quotedText device.symbolicLink),
    ("vendor", quotedText device.vendor),
    ("product", quotedText device.product),
    ("serialNumber", quotedText device.serialNumber),
    ("usage", quotedText device.usage),
    ("description", quotedText device.description),
    ("deviceInstancePath", quotedText device.deviceInstancePath),
    ("xusbDeviceInstancePath", quotedText device.xusbDeviceInstancePath),
    ("baseContainerDeviceInstancePath", quotedText device.baseContainerDeviceInstancePath),
    ("baseContainerClassGuid", quotedText (guidToString device.baseContainerClassGuid)),
    ("baseContainerDeviceCount", countText device.baseContainerDeviceCount)]

/-- A field, its name in quotes. -/
def fieldText (field : String × WString) : WString :=
  ascii "\"" ++ ascii field.1 ++ ascii "\" : " ++ field.2

/-- The operator for a device. -/
def deviceText (device : HidDeviceInformation) : WString :=
  ascii "\x7b " ++ (ascii " ,\n").intercalate ((deviceFields guidToString device).map fieldText) ++
    ascii " \x7d"

/-- The loop of the operators for a list and for a multimap: a separator is written in front of
every item but the first. -/
def itemsText {α : Type} (item : α → WString) : Bool → List α → WString
  | _, [] => []
  | first, a :: l => (if first then [] else ascii ",\n") ++ item a ++ itemsText item false l

/-- The operator for a list of devices. -/
def devicesText (devices : List HidDeviceInformation) : WString :=
  ascii " [\n" ++
    itemsText (fun device => deviceText guidToString device ++ ascii " ") true devices ++ ascii "] "

/-- What is written for an entry of the multimap. -/
def containerText (container : WString × List HidDeviceInformation) : WString :=
  ascii "\x7b \"friendlyName\" : \"" ++ escapeJson container.1 ++ ascii "\" , \"devices\" :" ++
    devicesText guidToString container.2 ++ ascii "\x7d "

/-- The operator for the multimap. -/
def hidDevicesText (hidDevices : FriendlyNamesAndHidDeviceInformation) : WString :=
  ascii " [ " ++ itemsText (containerText guidToString) true hidDevices.toList ++ ascii "] \n"

/-! ### The values -/

/-- The value of each field of a device. -/
def deviceMembers (device : HidDeviceInformation) : List (String × Json.Value) :=
  [("present", .bool device.present),
    ("gamingDevice", .bool device.gamingDevice),
    ("symbolicLink", .string device.symbolicLink),
    ("vendor", .string device.vendor),
    ("product", .string device.product),
    ("serialNumber", .string device.serialNumber),
    ("usage", .string device.usage),
    ("description", .string device.description),
    ("deviceInstancePath", .string device.deviceInstancePath),
    ("xusbDeviceInstancePath", .string device.xusbDeviceInstancePath),
    ("baseContainerDeviceInstancePath", .string device.baseContainerDeviceInstancePath),
    ("baseContainerClassGuid", .string (guidToString device.baseContainerClassGuid)),
    ("baseContainerDeviceCount", .number (.ofNat device.baseContainerDeviceCount))]

def deviceValue (device : HidDeviceInformation) : Json.Value :=
  .object ((deviceMembers guidToString device).map fun field => (ascii field.1, field.2))

def containerValue (container : WString × List HidDeviceInformation) : Json.Value :=
  .object [(ascii "friendlyName", .string container.1),
    (ascii "devices", .array (container.2.map (deviceValue guidToString)))]

def hidDevicesValue (hidDevices : FriendlyNamesAndHidDeviceInformation) : Json.Value :=
  .array (hidDevices.toList.map (containerValue guidToString))

/-! ### What is written is JSON -/

theorem derives_boolalpha (b : Bool) : Json.Derives (.value (.bool b)) (boolalpha b) := by
  cases b with
  | true => exact .literalTrue
  | false => exact .literalFalse

theorem derives_quotedText (s : WString) : Json.Derives (.value (.string s)) (quotedText s) :=
  .string (charsText_escapeJson s)

theorem derives_countText (n : ℕ) :
    Json.Derives (.value (.number (.ofNat n))) (countText n) := by
  have hdigits : Json.DigitsText (countText n) (Numerals.digits 10 n) :=
    .mk _ (Numerals.digits_ne_nil 10 n) fun d hd => Numerals.digits_lt (by decide) hd
  have hleading : Numerals.digits 10 n = [0] ∨ (Numerals.digits 10 n).head? ≠ some 0 := by
    rcases Numerals.digits_eq_cons 10 n with hzero | ⟨d, ds, hcons, hd⟩
    · exact .inl hzero
    · rw [hcons]
      exact .inr fun h => hd (Option.some.inj h)
  have hnumber := Json.NumberText.mk false hdigits hleading .absent .absent
  simp only [Bool.false_eq_true, if_false, List.nil_append, List.append_nil] at hnumber
  rw [Numerals.ofDigits_digits] at hnumber
  exact .number hnumber

/-- Characters that need not be escaped. -/
theorem charsText_of_forall {t : WString}
    (h : ∀ c ∈ t, 0x20 ≤ c ∧ c ≠ Json.quote ∧ c ≠ Json.backslash) : Json.CharsText t t := by
  induction t with
  | nil => exact .nil
  | cons c t ih =>
    obtain ⟨⟨hcontrol, hquote, hbackslash⟩, ht⟩ := List.forall_mem_cons.mp h
    exact .cons (.unescaped c hcontrol hquote hbackslash) (ih ht)

theorem blank_space : Json.Blank [0x20] := by decide

theorem blank_line : Json.Blank [0x0A] := by decide

/-- A name that is written as it is. -/
def PlainName (name : String) : Prop :=
  ∀ c ∈ ascii name, 0x20 ≤ c ∧ c ≠ Json.quote ∧ c ≠ Json.backslash

instance : DecidablePred PlainName := fun name =>
  List.decidableBAll _ (ascii name)

/-- The name of a field, between white space. -/
theorem keyText_name {name : String} (hname : PlainName name) {w : WString} (hw : Json.Blank w)
    {w₂ : WString} (hw₂ : Json.Blank w₂) :
    Json.KeyText (w ++ Json.quote :: ascii name ++ Json.quote :: [0x20] ++ Json.colon :: w₂)
      (ascii name) :=
  .mk hw (charsText_of_forall hname) blank_space hw₂

/-- A field and its value. -/
structure FieldOf (field : String × WString) (member : String × Json.Value) : Prop where
  name : field.1 = member.1
  plain : PlainName field.1
  derives : Json.Derives (.value member.2) field.2

theorem FieldOf.bool {name : String} (hname : PlainName name) (b : Bool) :
    FieldOf (name, boolalpha b) (name, .bool b) :=
  ⟨rfl, hname, derives_boolalpha b⟩

theorem FieldOf.string {name : String} (hname : PlainName name) (s : WString) :
    FieldOf (name, quotedText s) (name, .string s) :=
  ⟨rfl, hname, derives_quotedText s⟩

theorem FieldOf.count {name : String} (hname : PlainName name) (n : ℕ) :
    FieldOf (name, countText n) (name, .number (.ofNat n)) :=
  ⟨rfl, hname, derives_countText n⟩

theorem fieldText_eq (field : String × WString) : fieldText field =
    Json.quote :: (ascii field.1 ++ Json.quote :: 0x20 :: Json.colon :: 0x20 :: field.2) := by
  have hopen : ascii "\"" = [Json.quote] := rfl
  have hclose : ascii "\" : " = [Json.quote, 0x20, Json.colon, 0x20] := rfl
  rw [fieldText, hopen, hclose]
  simp

/-- Fields with a separator between them. -/
theorem derives_fields {fields : List (String × WString)} {members : List (String × Json.Value)}
    (h : List.Forall₂ FieldOf fields members) (hne : fields ≠ []) {w : WString}
    (hw : Json.Blank w) :
    Json.Derives (.members (members.map fun member => (ascii member.1, member.2)))
      (w ++ ((ascii " ,\n").intercalate (fields.map fieldText) ++ [0x20])) := by
  have hseparator : ascii " ,\n" = [0x20, Json.comma, 0x0A] := rfl
  induction h generalizing w with
  | nil => exact absurd rfl hne
  | cons hfield hrest ih =>
    rename_i field member fields members
    have hkey := keyText_name hfield.plain hw blank_space
    rw [hfield.name] at hkey
    cases hrest with
    | nil =>
      have hlast := Json.Derives.lastMember hkey hfield.derives blank_space
      simpa [fieldText_eq, hfield.name] using hlast
    | cons hnext hrest =>
      have hmore := Json.Derives.member hkey hfield.derives blank_space
        (ih (List.cons_ne_nil _ _) blank_line)
      simpa [fieldText_eq, hfield.name, hseparator, List.intercalate_cons_cons] using hmore

theorem derives_deviceText (device : HidDeviceInformation) :
    Json.Derives (.value (deviceValue guidToString device)) (deviceText guidToString device) := by
  have hfields : List.Forall₂ FieldOf (deviceFields guidToString device)
      (deviceMembers guidToString device) := by
    refine .cons (.bool (by decide) _) (.cons (.bool (by decide) _) ?_)
    refine .cons (.string (by decide) _) (.cons (.string (by decide) _) ?_)
    refine .cons (.string (by decide) _) (.cons (.string (by decide) _) ?_)
    refine .cons (.string (by decide) _) (.cons (.string (by decide) _) ?_)
    refine .cons (.string (by decide) _) (.cons (.string (by decide) _) ?_)
    refine .cons (.string (by decide) _) (.cons (.string (by decide) _) ?_)
    exact .cons (.count (by decide) _) .nil
  have hobject := Json.Derives.object (derives_fields hfields (List.cons_ne_nil _ _) blank_space)
  have hopen : ascii "\x7b " = [Json.openBrace, 0x20] := rfl
  have hclose : ascii " \x7d" = [0x20, Json.closeBrace] := rfl
  rw [deviceText, hopen, hclose]
  simp only [List.cons_append, List.nil_append, List.append_assoc] at hobject ⊢
  exact hobject

section Items

variable {α : Type} {item : α → WString} {value : α → Json.Value}

/-- What is written for an item is a value with white space behind it. -/
def WritesValue (item : α → WString) (value : α → Json.Value) : Prop :=
  ∀ a, ∃ t, item a = t ++ [0x20] ∧ Json.Derives (.value (value a)) t

theorem derives_items (h : WritesValue item value) (a : α) (l : List α) {w : WString}
    (hw : Json.Blank w) :
    Json.Derives (.elements ((a :: l).map value)) (w ++ itemsText item true (a :: l)) := by
  obtain ⟨t, hitem, hvalue⟩ := h a
  induction l generalizing a w t with
  | nil =>
    have hlast := Json.Derives.lastElement hw hvalue blank_space
    simpa [itemsText, hitem] using hlast
  | cons b l ih =>
    obtain ⟨u, hnext, hderives⟩ := h b
    have hseparator : ascii ",\n" = [Json.comma, 0x0A] := rfl
    have hmore := Json.Derives.element hw hvalue blank_space
      (ih b blank_line u hnext hderives)
    simpa [itemsText, hitem, hseparator] using hmore

/-- The items between brackets. -/
theorem derives_brackets (h : WritesValue item value) (l : List α) {w : WString}
    (hw : Json.Blank w) :
    Json.Derives (.value (.array (l.map value)))
      (Json.openBracket :: (w ++ itemsText item true l) ++ [Json.closeBracket]) := by
  cases l with
  | nil =>
    rw [itemsText, List.append_nil]
    exact .emptyArray hw
  | cons a l => exact .array (derives_items h a l hw)

end Items

theorem writesValue_device :
    WritesValue (fun device => deviceText guidToString device ++ ascii " ")
      (deviceValue guidToString) :=
  fun device => ⟨_, rfl, derives_deviceText guidToString device⟩

theorem writesValue_container :
    WritesValue (containerText guidToString) (containerValue guidToString) := by
  intro container
  have hdevices := derives_brackets (writesValue_device guidToString) container.2 blank_line
  have hname : Json.KeyText _ (ascii "friendlyName") :=
    keyText_name (by decide) blank_space blank_space
  have hlist : Json.KeyText _ (ascii "devices") := keyText_name (by decide) blank_space blank_space
  have hobject := Json.Derives.object (.member hname (derives_quotedText container.1) blank_space
    (.lastMember hlist hdevices blank_space))
  refine ⟨_, ?_, hobject⟩
  have hfirst : ascii "\x7b \"friendlyName\" : \"" = Json.openBrace :: 0x20 :: Json.quote ::
      (ascii "friendlyName" ++ [Json.quote, 0x20, Json.colon, 0x20, Json.quote]) := rfl
  have hsecond : ascii "\" , \"devices\" :" = Json.quote :: 0x20 :: Json.comma :: 0x20 ::
      Json.quote :: (ascii "devices" ++ [Json.quote, 0x20, Json.colon]) := rfl
  have hopen : ascii " [\n" = [0x20, Json.openBracket, 0x0A] := rfl
  have hclose : ascii "] " = [Json.closeBracket, 0x20] := rfl
  have hend : ascii "\x7d " = [Json.closeBrace, 0x20] := rfl
  have hquoted : quotedText container.1 =
      Json.quote :: (escapeJson container.1 ++ [Json.quote]) := rfl
  rw [containerText, devicesText, hfirst, hsecond, hopen, hclose, hend, hquoted]
  simp only [List.cons_append, List.nil_append, List.append_assoc]

/-- **What is written is JSON**: an array of the groups. -/
theorem isText_hidDevicesText (hidDevices : FriendlyNamesAndHidDeviceInformation) :
    Json.IsText (hidDevicesText guidToString hidDevices)
      (hidDevicesValue guidToString hidDevices) := by
  have harray := derives_brackets (writesValue_container guidToString) hidDevices.toList blank_space
  have hend : Json.Blank [0x20, 0x0A] := by decide
  have htext := Json.IsText.mk blank_space harray hend
  have hopen : ascii " [ " = [0x20, Json.openBracket, 0x20] := rfl
  have hclose : ascii "] \n" = [Json.closeBracket, 0x20, 0x0A] := rfl
  rw [hidDevicesText, hopen, hclose]
  simp only [List.cons_append, List.nil_append, List.append_assoc] at htext ⊢
  exact htext

end Output

/-! ### Reading -/

section Reading

/-- The value of a member. -/
def memberOf (name : String) : Json.Value → Option Json.Value
  | .object members => (members.find? (·.1 = ascii name)).map (·.2)
  | _ => none

def asBool : Json.Value → Option Bool
  | .bool b => some b
  | _ => none

def asString : Json.Value → Option WString
  | .string s => some s
  | _ => none

def asCount : Json.Value → Option ℕ
  | .number ⟨false, n, [], none⟩ => some n
  | _ => none

def asArray : Json.Value → Option (List Json.Value)
  | .array values => some values
  | _ => none

variable (guidOf : WString → Option Guid)

/-- A device, by the names of its members. -/
def readDevice (v : Json.Value) : Option HidDeviceInformation := do
  let present ← (memberOf "present" v).bind asBool
  let gamingDevice ← (memberOf "gamingDevice" v).bind asBool
  let symbolicLink ← (memberOf "symbolicLink" v).bind asString
  let vendor ← (memberOf "vendor" v).bind asString
  let product ← (memberOf "product" v).bind asString
  let serialNumber ← (memberOf "serialNumber" v).bind asString
  let usage ← (memberOf "usage" v).bind asString
  let description ← (memberOf "description" v).bind asString
  let deviceInstancePath ← (memberOf "deviceInstancePath" v).bind asString
  let xusbDeviceInstancePath ← (memberOf "xusbDeviceInstancePath" v).bind asString
  let baseContainerDeviceInstancePath ←
    (memberOf "baseContainerDeviceInstancePath" v).bind asString
  let guid ← (memberOf "baseContainerClassGuid" v).bind asString
  let baseContainerClassGuid ← guidOf guid
  let baseContainerDeviceCount ← (memberOf "baseContainerDeviceCount" v).bind asCount
  return ⟨present, gamingDevice, symbolicLink, vendor, product, serialNumber, usage, description,
    deviceInstancePath, xusbDeviceInstancePath, baseContainerDeviceInstancePath,
    baseContainerClassGuid, baseContainerDeviceCount⟩

/-- A group, by the names of its members. -/
def readContainer (v : Json.Value) : Option (WString × List HidDeviceInformation) := do
  let friendlyName ← (memberOf "friendlyName" v).bind asString
  let values ← (memberOf "devices" v).bind asArray
  let devices ← values.mapM (readDevice guidOf)
  return (friendlyName, devices)

/-- The groups of a JSON text. -/
def readHidDevices (t : WString) : Option (List (WString × List HidDeviceInformation)) := do
  let v ← Json.parse t
  let values ← asArray v
  values.mapM (readContainer guidOf)

variable {guidOf} {guidToString : Guid → WString}

/-- A member is found by its name, as no other has the name. -/
theorem memberOf_eq {members : List (String × Json.Value)}
    (hnodup : (members.map fun member => ascii member.1).Nodup) {name : String} {v : Json.Value}
    (h : (name, v) ∈ members) :
    memberOf name (.object (members.map fun member => (ascii member.1, member.2))) = some v := by
  induction members with
  | nil => simp at h
  | cons first members ih =>
    rw [List.map_cons, List.nodup_cons] at hnodup
    rw [memberOf, List.map_cons]
    rcases List.mem_cons.mp h with rfl | h
    · rw [List.find?_cons_of_pos (by simp)]
      rfl
    · have hne : ascii first.1 ≠ ascii name := fun heq =>
        hnodup.1 (heq ▸ List.mem_map.mpr ⟨_, h, rfl⟩)
      rw [List.find?_cons_of_neg (by simpa using hne)]
      exact ih hnodup.2 h

/-- The names of the fields of a device are different. -/
theorem nodup_deviceMembers (device : HidDeviceInformation) :
    ((deviceMembers guidToString device).map fun member => ascii member.1).Nodup := by
  have hnames : ((deviceMembers guidToString device).map fun member => ascii member.1) =
      ["present", "gamingDevice", "symbolicLink", "vendor", "product", "serialNumber", "usage",
        "description", "deviceInstancePath", "xusbDeviceInstancePath",
        "baseContainerDeviceInstancePath", "baseContainerClassGuid",
        "baseContainerDeviceCount"].map ascii := rfl
  rw [hnames]
  decide

theorem readDevice_deviceValue (hguid : ∀ guid, guidOf (guidToString guid) = some guid)
    (device : HidDeviceInformation) :
    readDevice guidOf (deviceValue guidToString device) = some device := by
  have hmember : ∀ name v, (name, v) ∈ deviceMembers guidToString device →
      memberOf name (deviceValue guidToString device) = some v := fun _ _ =>
    memberOf_eq (nodup_deviceMembers device)
  simp only [deviceMembers, List.mem_cons, List.not_mem_nil, or_false, Prod.mk.injEq] at hmember
  rw [readDevice, hmember "present" (.bool device.present) (by simp),
    hmember "gamingDevice" (.bool device.gamingDevice) (by simp),
    hmember "symbolicLink" (.string device.symbolicLink) (by simp),
    hmember "vendor" (.string device.vendor) (by simp),
    hmember "product" (.string device.product) (by simp),
    hmember "serialNumber" (.string device.serialNumber) (by simp),
    hmember "usage" (.string device.usage) (by simp),
    hmember "description" (.string device.description) (by simp),
    hmember "deviceInstancePath" (.string device.deviceInstancePath) (by simp),
    hmember "xusbDeviceInstancePath" (.string device.xusbDeviceInstancePath) (by simp),
    hmember "baseContainerDeviceInstancePath" (.string device.baseContainerDeviceInstancePath)
      (by simp),
    hmember "baseContainerClassGuid" (.string (guidToString device.baseContainerClassGuid))
      (by simp),
    hmember "baseContainerDeviceCount" (.number (.ofNat device.baseContainerDeviceCount))
      (by simp)]
  change (guidOf (guidToString device.baseContainerClassGuid)).bind
    (fun guid => some { device with baseContainerClassGuid := guid }) = some device
  rw [hguid]
  rfl

theorem mapM_map_eq {α β : Type} {f : β → Option α} {g : α → β} (h : ∀ a, f (g a) = some a)
    (l : List α) : (l.map g).mapM f = some l := by
  induction l with
  | nil => rfl
  | cons a l ih =>
    rw [List.map_cons, List.mapM_cons, h, ih]
    rfl

theorem readContainer_containerValue (hguid : ∀ guid, guidOf (guidToString guid) = some guid)
    (container : WString × List HidDeviceInformation) :
    readContainer guidOf (containerValue guidToString container) = some container := by
  have hdevices := mapM_map_eq (readDevice_deviceValue hguid) container.2
  change ((container.2.map (deviceValue guidToString)).mapM (readDevice guidOf)).bind
    (fun devices => some (container.1, devices)) = some container
  rw [hdevices]
  rfl

/-- **The output is faithful**: it is a JSON array, and reading it by the names of the members gives
back the groups, in their order, with all fields of their devices. -/
theorem hidDevicesText_faithful (hinjective : Function.Injective guidToString)
    (hidDevices : FriendlyNamesAndHidDeviceInformation) :
    Json.IsText (hidDevicesText guidToString hidDevices)
        (hidDevicesValue guidToString hidDevices) ∧
      Json.parse (hidDevicesText guidToString hidDevices) =
        some (hidDevicesValue guidToString hidDevices) ∧
      ∃ guidOf, readHidDevices guidOf (hidDevicesText guidToString hidDevices) =
        some hidDevices.toList := by
  have htext := isText_hidDevicesText guidToString hidDevices
  have hparse := htext.parse_eq
  refine ⟨htext, hparse, Function.partialInv guidToString, ?_⟩
  have hguid : ∀ guid, Function.partialInv guidToString (guidToString guid) = some guid :=
    fun guid => (hinjective.isPartialInv _ _).mpr rfl
  rw [readHidDevices, hparse]
  exact mapM_map_eq (readContainer_containerValue hguid) hidDevices.toList

end Reading

/-! ### The text of a GUID -/

/-- A digit as `StringFromGUID2` writes it. -/
def upperHexChar (d : ℕ) : WChar := if d < 10 then .ofNat (0x30 + d) else .ofNat (0x37 + d)

def upperHex (width n : ℕ) : WString := (Numerals.padded 16 width n).map upperHexChar

/-- `GuidToString`, as the system writes a GUID. -/
def registryFormat (guid : Guid) : WString :=
  ascii "\x7b" ++ (upperHex 8 guid.data1.toNat ++ (ascii "-" ++ (upperHex 4 guid.data2.toNat ++
    (ascii "-" ++ (upperHex 4 guid.data3.toNat ++ (ascii "-" ++
      ((guid.data4.toList.take 2).flatMap (upperHex 2 ·.toNat) ++ (ascii "-" ++
        ((guid.data4.toList.drop 2).flatMap (upperHex 2 ·.toNat) ++ ascii "\x7d")))))))))

theorem hexDigitOf_upperHexChar : ∀ d < 16, Json.hexDigitOf (upperHexChar d) = some d := by decide

theorem upperHex_injective {width m n : ℕ} (h : upperHex width m = upperHex width n) : m = n := by
  have hdigits : Numerals.padded 16 width m = Numerals.padded 16 width n := by
    have hread : ∀ k, (upperHex width k).filterMap Json.hexDigitOf =
        Numerals.padded 16 width k := fun k => by
      rw [upperHex, List.filterMap_map]
      refine (List.filterMap_congr fun d hd => ?_).trans List.filterMap_some
      exact hexDigitOf_upperHexChar d (Numerals.padded_lt (by decide) hd)
    rw [← hread m, h, hread]
  rw [← Numerals.ofDigits_padded 16 width m, hdigits, Numerals.ofDigits_padded]

theorem length_upperHex {width n : ℕ} (hwidth : 0 < width) (hn : n < 16 ^ width) :
    (upperHex width n).length = width := by
  rw [upperHex, List.length_map, Numerals.length_padded (by decide) hwidth hn]

/-- Bytes are told apart by their digits. -/
theorem flatMap_upperHex_injective {l l' : List UInt8} (hlength : l.length = l'.length)
    (h : l.flatMap (upperHex 2 ·.toNat) = l'.flatMap (upperHex 2 ·.toNat)) : l = l' := by
  induction l generalizing l' with
  | nil => exact (List.length_eq_zero_iff.mp hlength.symm).symm
  | cons b l ih =>
    obtain ⟨b', l', rfl⟩ := List.exists_cons_of_length_eq_add_one hlength.symm
    rw [List.flatMap_cons, List.flatMap_cons] at h
    obtain ⟨hfirst, hrest⟩ := List.append_inj h
      (by rw [length_upperHex (by decide) b.toNat_lt, length_upperHex (by decide) b'.toNat_lt])
    rw [UInt8.toNat_inj.mp (upperHex_injective hfirst), ih (by simpa using hlength) hrest]

theorem length_flatMap_upperHex (l : List UInt8) :
    (l.flatMap (upperHex 2 ·.toNat)).length = 2 * l.length := by
  induction l with
  | nil => rfl
  | cons b l ih =>
    rw [List.flatMap_cons, List.length_append, length_upperHex (by decide) b.toNat_lt, ih,
      List.length_cons]
    omega

/-- GUIDs are told apart by their text. -/
theorem registryFormat_injective : Function.Injective registryFormat := by
  intro g g' h
  have hlength : g.data4.toList.length = g'.data4.toList.length := by simp
  rw [registryFormat, registryFormat] at h
  obtain ⟨h₁, h⟩ := List.append_inj (List.append_cancel_left h)
    (by rw [length_upperHex (by decide) g.data1.toNat_lt,
      length_upperHex (by decide) g'.data1.toNat_lt])
  obtain ⟨h₂, h⟩ := List.append_inj (List.append_cancel_left h)
    (by rw [length_upperHex (by decide) g.data2.toNat_lt,
      length_upperHex (by decide) g'.data2.toNat_lt])
  obtain ⟨h₃, h⟩ := List.append_inj (List.append_cancel_left h)
    (by rw [length_upperHex (by decide) g.data3.toNat_lt,
      length_upperHex (by decide) g'.data3.toNat_lt])
  obtain ⟨hfront, h⟩ := List.append_inj (List.append_cancel_left h)
    (by rw [length_flatMap_upperHex, length_flatMap_upperHex]; simp)
  have hback := List.append_cancel_right (List.append_cancel_left h)
  have hdata4 : g.data4.toList = g'.data4.toList := by
    rw [← List.take_append_drop 2 g.data4.toList, flatMap_upperHex_injective (by simp) hfront,
      flatMap_upperHex_injective (by simp) hback, List.take_append_drop]
  obtain ⟨d₁, d₂, d₃, d₄⟩ := g
  obtain ⟨d₁', d₂', d₃', d₄'⟩ := g'
  obtain rfl := UInt32.toNat_inj.mp (upperHex_injective h₁)
  obtain rfl := UInt16.toNat_inj.mp (upperHex_injective h₂)
  obtain rfl := UInt16.toNat_inj.mp (upperHex_injective h₃)
  obtain rfl : d₄ = d₄' := Vector.toList_inj.mp hdata4
  rfl

/-- Two devices of a base container, and one without a name. -/
theorem hidDevicesText_faithful_gamingDevices :
    ∃ guidOf, readHidDevices guidOf (hidDevicesText registryFormat
        (.ofList wstringLt [([], [gamingDevice [] [0x22]]),
          ([0x50, 0x61, 0x64], [gamingDevice [0x42] [0x31], gamingDevice [0x42] [0x07]])])) =
      some [([], [gamingDevice [] [0x22]]),
        ([0x50, 0x61, 0x64], [gamingDevice [0x42] [0x31], gamingDevice [0x42] [0x07]])] :=
  (hidDevicesText_faithful registryFormat_injective _).2.2

end HidHide
