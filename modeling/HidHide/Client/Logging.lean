import HidHide.ForMathlib.Numerals
import HidHide.Driver.Basic

/-!
# Error codes in the text of an exception

`Logging.cpp`: a result code is thrown as the text of an exception, with the place where it is
thrown, and the handler of the exception turns it into a code again. There are four kinds of codes
and an `Encode` function for each; `DecodeExceptionData` is meant to invert them.

It does for three of the kinds, for codes that are not negative (`decode_encode_iff`): `Error code`
is two words of the stream, and hexadecimal extraction into a signed number fails from
`0x80000000` on. But no handler calls it. `ToCONFIGRET` and the others look at a new
`DecodedExceptionData`, so that each of them reports one code whatever is thrown
(`report_eq_failure`).
-/

namespace HidHide

/-- `std::string`. -/
abbrev Text := List Char

/-! ### Streams -/

/-- White space of the C locale. -/
def isSpaceChar (c : Char) : Bool := c = ' ' ∨ '\t' ≤ c ∧ c ≤ '\r'

/-- The value of a hexadecimal digit. -/
def hexDigitValue (c : Char) : Option ℕ :=
  if '0' ≤ c ∧ c ≤ '9' then some (c.toNat - 48)
  else if 'A' ≤ c ∧ c ≤ 'F' then some (c.toNat - 55)
  else if 'a' ≤ c ∧ c ≤ 'f' then some (c.toNat - 87)
  else none

/-- Extraction into a string: the next word of the stream, and what is left. There is none at the
end of the stream. -/
def extractWord (is : Text) : Option (Text × Text) :=
  let is := is.dropWhile isSpaceChar
  let word := is.takeWhile (!isSpaceChar ·)
  if word = [] then none else some (word, is.dropWhile (!isSpaceChar ·))

/-- The optional mark of a hexadecimal number. -/
def skipHexMark : Text → Text
  | '0' :: 'x' :: is => is
  | '0' :: 'X' :: is => is
  | is => is

/-- Hexadecimal extraction into a signed number of 32 bits. -/
def extractHex (is : Text) : Option (UInt32 × Text) :=
  let (ds, is) := Numerals.readDigits hexDigitValue (skipHexMark (is.dropWhile isSpaceChar))
  if ds = [] ∨ 0x7FFFFFFF < Numerals.ofDigits 16 ds then none
  else some (UInt32.ofNat (Numerals.ofDigits 16 ds), is)

/-- An upper case hexadecimal digit. -/
def upperHexDigit (d : ℕ) : Char := if d < 10 then Char.ofNat (48 + d) else Char.ofNat (55 + d)

/-- `std::hex`, `std::setfill('0')`, `std::setw` and `std::uppercase`. -/
def hexText (width : ℕ) (n : UInt32) : Text :=
  (Numerals.padded 16 width n.toNat).map upperHexDigit

/-- `std::dec`. -/
def decText (n : UInt32) : Text := (Numerals.digits 10 n.toNat).map fun d => Char.ofNat (48 + d)

/-! ### Decoding -/

def prefixCONFIGRET : Text := "CONFIGRET".toList
def prefixHRESULT : Text := "HRESULT".toList
def prefixNTSTATUS : Text := "NTSTATUS".toList
def prefixWIN32 : Text := "Error code".toList

inductive Encoding where
  | unknown
  | configret
  | hresult
  | ntstatus
  | win32
  deriving DecidableEq, Repr

/-- The union of the four results is one of 32 bits. -/
structure DecodedExceptionData where
  encoding : Encoding
  result : UInt32
  deriving DecidableEq, Repr

/-- A `DecodedExceptionData` without an initializer. -/
def DecodedExceptionData.zero : DecodedExceptionData := ⟨.unknown, 0⟩

/-- The encoding that goes with the word in front of the code. -/
def encodingOfPrefix (word : Text) : Encoding :=
  if prefixWIN32 = word then .win32
  else if prefixHRESULT = word then .hresult
  else if prefixNTSTATUS = word then .ntstatus
  else if prefixCONFIGRET = word then .configret
  else .unknown

/-- `DecodeExceptionData`. -/
def decodeExceptionData (encodedExceptionData : Text) : DecodedExceptionData :=
  match extractWord encodedExceptionData with
  | none => .zero
  | some (word, is) =>
      match extractHex is with
      | none => .zero
      | some (result, _) => ⟨encodingOfPrefix word, result⟩

/-! ### Encoding -/

/-- Where an exception is thrown. A pointer that is null is `none`; of the event only that
counts. -/
structure ThrowSite where
  fileName : Option Text
  lineNumber : UInt32
  functionName : Option Text
  event : Option Unit

/-- The `Encode` functions: they differ in the words in front, the width of the code and the
description behind it. A null pointer is reported by an exception, which ends in the empty text. -/
def encodeResult (words : Text) (width : ℕ) (site : ThrowSite) (result : UInt32)
    (description : Text) : Text :=
  match site.fileName, site.event with
  | some fileName, some _ =>
      words ++ " 0x".toList ++ hexText width result ++ " at ".toList ++ fileName ++ "(".toList ++
        decText site.lineNumber ++ ") ".toList ++ site.functionName.getD [] ++ ": ".toList ++
        description
  | _, _ => []

/-- `DescriptionTable`. -/
def descriptionTable : List String :=
  ["success", "default", "out of memory", "invalid pointer", "invalid flag",
   "invalid device node", "invalid resource description", "invalid logical configuration",
   "invalid arbitrator", "invalid node list", "device node has requests", "invalid resource id",
   "dlvxd not found", "no such device node", "no more logical configurations",
   "no more resource descriptions", "already such device node", "invalid range list",
   "invalid range", "failure", "no such logical device", "create blocked", "not system VM",
   "remove vetoed", "APM vetoed", "invalid load type", "buffer small", "no arbitrator",
   "no registry handle", "registry error", "invalid device id", "invalid data", "invalid api",
   "device loader not ready", "need restart", "no more hardware profiles", "device not there",
   "no such value", "wrong type", "invalid priority", "not disableble", "free resources",
   "query vetoed", "can't share IRQ", "no dependent", "same resources", "no such registry key",
   "invalid machine name", "remote communication failure", "machine unavailable",
   "no configuration management services", "access denied", "call not implemented",
   "invalid property", "device interface active", "no such device interface",
   "invalid reference string", "invalid conflict list", "invalid index", "invalid structure size"]

/-- `EncodeCONFIGRET`. -/
def encodeCONFIGRET (site : ThrowSite) (result : UInt32) : Text :=
  encodeResult prefixCONFIGRET 8 site result
    (descriptionTable[result.toNat]?.getD "unknown result code").toList

/-- `EncodeHRESULT`, with the message of the system. -/
def encodeHRESULT (site : ThrowSite) (result : UInt32) (message : Text) : Text :=
  encodeResult prefixHRESULT 8 site result message

/-- `EncodeNTSTATUS`, with the message of the system. -/
def encodeNTSTATUS (site : ThrowSite) (result : UInt32) (message : Text) : Text :=
  encodeResult prefixNTSTATUS 4 site result message

/-- `EncodeWIN32`, with the message of the system. -/
def encodeWIN32 (site : ThrowSite) (result : UInt32) (message : Text) : Text :=
  encodeResult prefixWIN32 4 site result message

/-! ### Reporting -/

def crSuccess : UInt32 := 0x00000000
def crFailure : UInt32 := 0x00000013
def statusUnsuccessful : NTStatus := 0xC0000001
def exitSuccess : UInt32 := 0
def errorUnhandledException : UInt32 := 574

/-- The maps between codes that the system provides: `RtlNtStatusToDosError`, which is looked up
when it is needed, and `CM_MapCrToWin32Err`. -/
structure SystemMaps where
  rtlNtStatusToDosError : Option (NTStatus → UInt32)
  cmMapCrToWin32Err : UInt32 → UInt32 → UInt32

section Report

variable (maps : SystemMaps)

/-- `WIN32_FROM_NTSTATUS`. -/
def win32FromNTStatus (result : NTStatus) : UInt32 :=
  match maps.rtlNtStatusToDosError with
  | none => errorUnhandledException
  | some function => function result

/-- `WIN32_FROM_CONFIGRET`. -/
def win32FromConfigret (result : UInt32) : UInt32 :=
  maps.cmMapCrToWin32Err result (win32FromNTStatus maps statusUnsuccessful)

/-- `HRESULT_FROM_WIN32`. -/
def hresultFromWin32 (x : UInt32) : UInt32 :=
  if x = 0 ∨ 0x80000000 ≤ x then x
  else x &&& (0xFFFF : UInt32) ||| (7 : UInt32) <<< 16 ||| 0x80000000

/-- `HRESULT_FROM_NT`. -/
def hresultFromNT (x : NTStatus) : UInt32 := x ||| 0x10000000

/-- `SUCCEEDED`. -/
def Succeeded (hresult : UInt32) : Prop := hresult < 0x80000000

instance : DecidablePred Succeeded := fun hresult =>
  inferInstanceAs (Decidable (hresult < 0x80000000))

/-- `LogException`, with the text of the exception. -/
structure LogException where
  encodedExceptionData : Text

/-- The data that the conversions look at: `DecodedExceptionData()` is a new value of that type.
The text of the exception is not decoded. -/
def LogException.decodedExceptionData (_ : LogException) : DecodedExceptionData := .zero

variable (e : LogException)

/-- `LogException::ToCONFIGRET`. -/
def LogException.toCONFIGRET : UInt32 :=
  let decoded := e.decodedExceptionData
  match decoded.encoding with
  | .unknown => crFailure
  | .configret => decoded.result
  | .hresult => if Succeeded decoded.result then crSuccess else crFailure
  | .ntstatus => if NTSuccess decoded.result then crSuccess else crFailure
  | .win32 => if Succeeded (hresultFromWin32 decoded.result) then crSuccess else crFailure

/-- `LogException::ToHRESULT`. -/
def LogException.toHRESULT : UInt32 :=
  let decoded := e.decodedExceptionData
  match decoded.encoding with
  | .unknown => hresultFromNT statusUnsuccessful
  | .configret => hresultFromWin32 (win32FromConfigret maps decoded.result)
  | .hresult => decoded.result
  | .ntstatus => hresultFromNT decoded.result
  | .win32 => hresultFromWin32 decoded.result

/-- `LogException::ToNTSTATUS`. -/
def LogException.toNTSTATUS : NTStatus :=
  let decoded := e.decodedExceptionData
  match decoded.encoding with
  | .unknown => statusUnsuccessful
  | .configret => hresultFromWin32 (win32FromConfigret maps decoded.result)
  | .hresult => decoded.result
  | .ntstatus => decoded.result
  | .win32 => hresultFromWin32 decoded.result

/-- `LogException::ToWIN32`. -/
def LogException.toWIN32 : UInt32 :=
  let decoded := e.decodedExceptionData
  match decoded.encoding with
  | .unknown => win32FromNTStatus maps statusUnsuccessful
  | .configret => win32FromConfigret maps decoded.result
  | .hresult => win32FromNTStatus maps decoded.result
  | .ntstatus => win32FromNTStatus maps decoded.result
  | .win32 => decoded.result

/-- What is thrown: an exception of the standard library with its text, or something else. -/
inductive Thrown where
  | exception (what : Text)
  | other

/-- `LogException::ExceptionMessage`: the text is one of C, which ends at its first terminator. -/
def exceptionMessage : Thrown → Text
  | .exception what => what.takeWhile (· ≠ Char.ofNat 0)
  | .other => []

/-- `MainApplication`, with what the command interpreter throws, if it does: the exit code. -/
def mainApplication (start : Except Thrown Unit) : UInt32 :=
  match start with
  | .ok () => exitSuccess
  | .error thrown => (LogException.mk (exceptionMessage thrown)).toWIN32 maps

end Report

/-! ### The four kinds of codes -/

/-- The kinds of result codes that are thrown. -/
inductive ResultKind where
  | configret
  | hresult
  | ntstatus
  | win32
  deriving DecidableEq, Repr

namespace ResultKind

def encoding : ResultKind → Encoding
  | configret => .configret
  | hresult => .hresult
  | ntstatus => .ntstatus
  | win32 => .win32

/-- The `Encode` function of the kind. The message of the system is not used for a `CONFIGRET`. -/
def encode (site : ThrowSite) (result : UInt32) (message : Text) : ResultKind → Text
  | configret => encodeCONFIGRET site result
  | hresult => encodeHRESULT site result message
  | ntstatus => encodeNTSTATUS site result message
  | win32 => encodeWIN32 site result message

/-- The conversion into the kind. -/
def report (maps : SystemMaps) (e : LogException) : ResultKind → UInt32
  | configret => e.toCONFIGRET
  | hresult => e.toHRESULT maps
  | ntstatus => e.toNTSTATUS maps
  | win32 => e.toWIN32 maps

/-- The words in front of the code. -/
def words : ResultKind → Text
  | configret => prefixCONFIGRET
  | hresult => prefixHRESULT
  | ntstatus => prefixNTSTATUS
  | win32 => prefixWIN32

/-- `THROW_CONFIGRET` and the others. -/
def throw (site : ThrowSite) (result : UInt32) (message : Text) (kind : ResultKind) : Thrown :=
  .exception (kind.encode site result message)

/-- The code that a conversion reports of whatever is thrown. -/
def failure (maps : SystemMaps) : ResultKind → UInt32
  | configret => crFailure
  | hresult => hresultFromNT statusUnsuccessful
  | ntstatus => statusUnsuccessful
  | win32 => win32FromNTStatus maps statusUnsuccessful

end ResultKind

/-! ### Decoding what has been encoded -/

theorem hexDigitValue_upperHexDigit : ∀ d < 16, hexDigitValue (upperHexDigit d) = some d := by
  decide

/-- A word in front of white space is the one that is extracted. -/
theorem extractWord_append {word is : Text} (hne : word ≠ [])
    (hword : ∀ c ∈ word, isSpaceChar c = false) (his : ∀ c ∈ is.head?, isSpaceChar c = true) :
    extractWord (word ++ is) = some (word, is) := by
  obtain ⟨c, cs, rfl⟩ := List.exists_cons_of_ne_nil hne
  have hstart : (c :: cs ++ is).dropWhile isSpaceChar = c :: cs ++ is := by
    rw [List.cons_append, List.dropWhile_cons_of_neg]
    simp [hword c List.mem_cons_self]
  have hpos : ∀ d ∈ c :: cs, (!isSpaceChar d) = true := fun d hd => by simp [hword d hd]
  have hstop : is.takeWhile (!isSpaceChar ·) = [] ∧ is.dropWhile (!isSpaceChar ·) = is := by
    cases is with
    | nil => exact ⟨rfl, rfl⟩
    | cons d is =>
      have hd : ¬(!isSpaceChar d) = true := by simp [his d rfl]
      exact ⟨List.takeWhile_cons_of_neg hd, List.dropWhile_cons_of_neg hd⟩
  simp only [extractWord, hstart, List.takeWhile_append_of_pos hpos,
    List.dropWhile_append_of_pos hpos, hstop, List.append_nil, if_neg hne]

/-- **A code is extracted** if it is not negative as a signed number, and fails otherwise. -/
theorem extractHex_hexText (width : ℕ) (r : UInt32) {is : Text}
    (his : ∀ c ∈ is.head?, hexDigitValue c = none) :
    extractHex (" 0x".toList ++ hexText width r ++ is) =
      if r < 0x80000000 then some (r, is) else none := by
  have hstart : skipHexMark ((" 0x".toList ++ hexText width r ++ is).dropWhile isSpaceChar) =
      hexText width r ++ is := rfl
  have hdigits : Numerals.readDigits hexDigitValue (hexText width r ++ is) =
      (Numerals.padded 16 width r.toNat, is) :=
    Numerals.readDigits_append hexDigitValue hexDigitValue_upperHexDigit
      (fun _ hd => Numerals.padded_lt (by decide) hd) his
  have hlt : 0x7FFFFFFF < r.toNat ↔ ¬r < 0x80000000 := by
    have hbound : (0x80000000 : UInt32).toNat = 0x80000000 := rfl
    rw [UInt32.lt_iff_toNat_lt, hbound]
    omega
  rw [extractHex, hstart, hdigits]
  simp only [Numerals.padded_ne_nil, Numerals.ofDigits_padded, false_or, hlt, UInt32.ofNat_toNat]
  split_ifs <;> rfl

theorem decodeExceptionData_append {word is : Text} (hne : word ≠ [])
    (hword : ∀ c ∈ word, isSpaceChar c = false) (his : ∀ c ∈ is.head?, isSpaceChar c = true) :
    decodeExceptionData (word ++ is) =
      match extractHex is with
      | none => .zero
      | some (result, _) => ⟨encodingOfPrefix word, result⟩ := by
  rw [decodeExceptionData, extractWord_append hne hword his]

section Decode

variable (kind : ResultKind) (result : UInt32) (fileName : Text) (lineNumber : UInt32)
  (functionName : Option Text) (message : Text)

/-- What an `Encode` function writes begins with its words and the code. -/
theorem encode_eq : ∃ width is, (∀ c ∈ is.head?, hexDigitValue c = none) ∧
    kind.encode ⟨some fileName, lineNumber, functionName, some ()⟩ result message =
      kind.words ++ (" 0x".toList ++ hexText width result ++ is) := by
  have hencode : ∀ words width description, ∃ is, (∀ c ∈ is.head?, hexDigitValue c = none) ∧
      encodeResult words width ⟨some fileName, lineNumber, functionName, some ()⟩ result
          description = words ++ (" 0x".toList ++ hexText width result ++ is) := by
    intro words width description
    refine ⟨" at ".toList ++ fileName ++ "(".toList ++ decText lineNumber ++ ") ".toList ++
      functionName.getD [] ++ ": ".toList ++ description, fun c hc => ?_, ?_⟩
    · obtain rfl : ' ' = c := Option.some.inj hc
      decide
    · simp only [encodeResult, List.append_assoc]
  cases kind with
  | configret => exact ⟨8, hencode _ 8 _⟩
  | hresult => exact ⟨8, hencode _ 8 _⟩
  | ntstatus => exact ⟨4, hencode _ 4 _⟩
  | win32 => exact ⟨4, hencode _ 4 _⟩

theorem not_isSpaceChar_of_all {word : List Char} (h : word.all fun c => !isSpaceChar c) :
    ∀ c ∈ word, isSpaceChar c = false := by simpa using h

/-- **What is decoded** of the text of an exception. The second word of `Error code` begins with a
hexadecimal digit, which is all that is extracted. -/
theorem decodeExceptionData_encode :
    decodeExceptionData (kind.encode ⟨some fileName, lineNumber, functionName, some ()⟩ result
        message) =
      if kind = .win32 then ⟨.unknown, 12⟩
      else if result < 0x80000000 then ⟨kind.encoding, result⟩ else .zero := by
  obtain ⟨width, is, his, hencode⟩ := encode_eq kind result fileName lineNumber functionName message
  have hspace : ∀ c ∈ (" 0x".toList ++ hexText width result ++ is).head?, isSpaceChar c = true := by
    intro c hc
    obtain rfl : ' ' = c := Option.some.inj hc
    decide
  -- the words of the other kinds are one word of the stream
  have hword : kind.words ≠ [] → (∀ c ∈ kind.words, isSpaceChar c = false) →
      decodeExceptionData (kind.words ++ (" 0x".toList ++ hexText width result ++ is)) =
        if result < 0x80000000 then ⟨encodingOfPrefix kind.words, result⟩ else .zero := by
    intro hne hwords
    rw [decodeExceptionData_append hne hwords hspace, extractHex_hexText width result his]
    split_ifs <;> rfl
  rw [hencode]
  cases kind with
  | configret => exact hword (by decide) (not_isSpaceChar_of_all (by decide))
  | hresult => exact hword (by decide) (not_isSpaceChar_of_all (by decide))
  | ntstatus => exact hword (by decide) (not_isSpaceChar_of_all (by decide))
  | win32 =>
    exact @decodeExceptionData_append "Error".toList
      (" code".toList ++ (" 0x".toList ++ hexText width result ++ is)) (by decide)
      (not_isSpaceChar_of_all (by decide)) (fun c hc => by rw [← Option.some.inj hc]; decide)

/-- **A code comes back from its text** exactly when it is no Win32 code and is not negative. -/
theorem decode_encode_iff :
    decodeExceptionData (kind.encode ⟨some fileName, lineNumber, functionName, some ()⟩ result
        message) = ⟨kind.encoding, result⟩ ↔ kind ≠ .win32 ∧ result < 0x80000000 := by
  rw [decodeExceptionData_encode]
  by_cases hkind : kind = .win32
  · rw [if_pos hkind, hkind]
    simp [ResultKind.encoding]
  · rw [if_neg hkind]
    split_ifs with hresult
    · simp [hkind, hresult]
    · simp only [DecodedExceptionData.zero, DecodedExceptionData.mk.injEq, hresult, and_false,
        iff_false, not_and]
      intro hencoding
      cases kind <;> simp [ResultKind.encoding] at hencoding

end Decode

/-- **Whatever is thrown**, a conversion reports the same code: nothing is decoded. -/
theorem report_eq_failure (maps : SystemMaps) (e : LogException) (kind : ResultKind) :
    kind.report maps e = kind.failure maps := by
  cases kind <;> rfl

/-- An exception that ends the application is reported by its exit code as any other is. -/
theorem mainApplication_error (maps : SystemMaps) (thrown : Thrown) :
    mainApplication maps (.error thrown) = ResultKind.win32.failure maps :=
  report_eq_failure maps _ .win32

/-! ### Survival -/

/-- A result code survives the exception that it is thrown with: it is decoded from the text, it is
reported in its own kind and, for a Win32 code, it is the exit code of the application. -/
structure CodeSurvives (maps : SystemMaps) (kind : ResultKind) (result : UInt32) (fileName : Text)
    (lineNumber : UInt32) (functionName : Option Text) (message : Text) : Prop where
  decoded : decodeExceptionData (kind.encode ⟨some fileName, lineNumber, functionName, some ()⟩
    result message) = ⟨kind.encoding, result⟩
  reported : kind.report maps ⟨exceptionMessage (kind.throw ⟨some fileName, lineNumber,
    functionName, some ()⟩ result message)⟩ = result
  exitCode : kind = .win32 → mainApplication maps (.error (kind.throw ⟨some fileName, lineNumber,
    functionName, some ()⟩ result message)) = result

/-- **The only code that survives** is `CR_FAILURE`, which is what every `CONFIGRET` is reported
as. Of the parts, the text keeps the codes that are not negative, but for Win32 codes, and a code is
reported exactly when it is the one that is reported for all codes of its kind. -/
theorem codeSurvives_iff (maps : SystemMaps) (kind : ResultKind) (result : UInt32)
    (fileName : Text) (lineNumber : UInt32) (functionName : Option Text) (message : Text) :
    let site : ThrowSite := ⟨some fileName, lineNumber, functionName, some ()⟩
    (CodeSurvives maps kind result fileName lineNumber functionName message ↔
      kind = .configret ∧ result = crFailure) ∧
    (decodeExceptionData (kind.encode site result message) = ⟨kind.encoding, result⟩ ↔
      kind ≠ .win32 ∧ result < 0x80000000) ∧
    (kind.report maps ⟨exceptionMessage (kind.throw site result message)⟩ = result ↔
      result = kind.failure maps) ∧
    (mainApplication maps (.error (kind.throw site result message)) = result ↔
      result = ResultKind.win32.failure maps) := by
  intro site
  have hdecoded := decode_encode_iff kind result fileName lineNumber functionName message
  refine ⟨⟨fun h => ?_, ?_⟩, hdecoded, ?_, ?_⟩
  · obtain ⟨hkind, hresult⟩ := hdecoded.mp h.decoded
    have hreported := h.reported
    rw [report_eq_failure] at hreported
    -- of the other kinds the failure is a negative code
    cases kind with
    | configret => exact ⟨rfl, hreported.symm⟩
    | hresult =>
      exact absurd (hreported ▸ hresult) (show ¬hresultFromNT statusUnsuccessful < _ by decide)
    | ntstatus => exact absurd (hreported ▸ hresult) (show ¬statusUnsuccessful < _ by decide)
    | win32 => exact absurd rfl hkind
  · rintro ⟨rfl, rfl⟩
    exact ⟨hdecoded.mpr ⟨by decide, by decide⟩, report_eq_failure maps _ .configret, by simp⟩
  · rw [report_eq_failure, eq_comm]
  · rw [mainApplication_error, eq_comm]

/-- `ERROR_ACCESS_DENIED` on a system that maps `STATUS_UNSUCCESSFUL` to `ERROR_GEN_FAILURE`: it is
decoded as no code, and the application exits with the other one. -/
theorem accessDenied_not_survives :
    let maps : SystemMaps := ⟨some fun _ => 31, fun _ default => default⟩
    let site : ThrowSite := ⟨some "src/Volume.cpp".toList, 21, none, some ()⟩
    let message := "Access is denied.".toList
    decodeExceptionData (encodeWIN32 site 5 message) = ⟨.unknown, 12⟩ ∧
      mainApplication maps (.error (ResultKind.win32.throw site 5 message)) = 31 ∧
      ¬CodeSurvives maps .win32 5 "src/Volume.cpp".toList 21 none message := by
  intro maps site message
  refine ⟨decodeExceptionData_encode .win32 5 _ 21 none message, rfl, fun h => ?_⟩
  exact absurd (h.exitCode rfl) (by decide)

end HidHide
