import Mathlib.Data.List.Lex
import HidHide.ForMathlib.OrderedSet
import HidHide.Driver.Requests

/-!
# String lists of the client

The conversions of `Utils.cpp` between sets, lists and multi-strings, and the bytes that the
client and the driver exchange.

`stringListToMultiString` writes what `MultiString.encode` writes, empty strings included, while
`multiStringToStringList` skips empty strings: reading back drops them
(`multiStringToStringList_encode`).
-/

namespace HidHide

/-- `std::wstring`. -/
abbrev WString := List WChar

/-! ### Sets of strings -/

/-- The order of `std::wstring`: by the first character that differs. -/
def wstringLt (a b : WString) : Prop := a < b

instance : DecidableRel wstringLt := fun a b => inferInstanceAs (Decidable (a < b))

instance : IsStrictOrder WString wstringLt := inferInstanceAs (IsStrictOrder WString (· < ·))

instance : Std.Trichotomous wstringLt :=
  inferInstanceAs (Std.Trichotomous fun a b : WString => a < b)

/-- `DeviceInstancePaths`. -/
abbrev DeviceInstancePaths := OrderedSet wstringLt

/-! ### Multi-strings -/

/-- `MultiStringToStringList`: `string` is the part of the current string that has been read. -/
def multiStringToStringListFrom : WString → List WChar → List WString
  | _, [] => []
  | string, c :: cs =>
      if c = nul then
        -- empty strings are skipped, typically the list terminator
        if string ≠ [] then string :: multiStringToStringListFrom [] cs
        else multiStringToStringListFrom [] cs
      else multiStringToStringListFrom (string ++ [c]) cs

/-- `MultiStringToStringList`. -/
def multiStringToStringList (multiString : List WChar) : List WString :=
  multiStringToStringListFrom [] multiString

/-- `wcsncpy_s` of a string to as many zeroed characters as it takes with its terminator: what
follows the first terminator of the string is not copied. -/
def copied (string : WString) : List WChar :=
  cString string ++ List.replicate (string.length + 1 - (cString string).length) nul

/-- `StringListToMultiString`. -/
def stringListToMultiString (strings : List WString) : List WChar :=
  strings.flatMap copied ++ [nul]

theorem copied_eq {string : WString} (h : nul ∉ string) : copied string = string ++ [nul] := by
  rw [copied, cString_eq_self h, Nat.add_sub_cancel_left, List.replicate_one]

theorem stringListToMultiString_eq_encode {strings : List WString}
    (h : ∀ string ∈ strings, nul ∉ string) :
    stringListToMultiString strings = MultiString.encode nul strings := by
  rw [stringListToMultiString, MultiString.encode]
  congr 1
  exact List.flatMap_congr fun string hstring => copied_eq (h string hstring)

theorem multiStringToStringListFrom_append {string : WString} (h : nul ∉ string)
    (acc cs : List WChar) : multiStringToStringListFrom acc (string ++ cs) =
      multiStringToStringListFrom (acc ++ string) cs := by
  induction string generalizing acc with
  | nil => simp
  | cons c string ih =>
    obtain ⟨hc, hstring⟩ := not_or.mp (List.mem_cons.not.mp h)
    rw [List.cons_append, multiStringToStringListFrom, if_neg (Ne.symm hc), ih hstring]
    simp

/-- **Reading back a multi-string** drops the empty strings, and nothing else. -/
theorem multiStringToStringList_encode {strings : List WString}
    (h : ∀ string ∈ strings, nul ∉ string) :
    multiStringToStringList (MultiString.encode nul strings) = strings.filter (· ≠ []) := by
  induction strings with
  | nil => rfl
  | cons string strings ih =>
    obtain ⟨hstring, hstrings⟩ := List.forall_mem_cons.mp h
    have ih := ih hstrings
    rw [multiStringToStringList] at ih
    rw [MultiString.encode_cons, multiStringToStringList,
      multiStringToStringListFrom_append hstring, List.nil_append, multiStringToStringListFrom,
      if_pos rfl, ih]
    rcases eq_or_ne string [] with rfl | hne
    · simp
    · simp [hne]

/-! ### What is decoded of a multi-string -/

/-- A string that is written and read back as it is. -/
def Plain (string : WString) : Prop := string ≠ [] ∧ nul ∉ string

instance : DecidablePred Plain := fun string =>
  inferInstanceAs (Decidable (string ≠ [] ∧ nul ∉ string))

/-- The strings that are read back of a multi-string: those before the first one that is not plain,
and of that one what precedes its terminator. -/
def readBack : List WString → List WString
  | [] => []
  | string :: strings =>
      if Plain string then string :: readBack strings
      else if cString string = [] then [] else [cString string]

theorem readBack_of_plain {strings : List WString} (h : ∀ string ∈ strings, Plain string) :
    readBack strings = strings := by
  induction strings with
  | nil => rfl
  | cons string strings ih =>
    obtain ⟨hstring, hstrings⟩ := List.forall_mem_cons.mp h
    rw [readBack, if_pos hstring, ih hstrings]

/-- **What is read back of strings in order**: what precedes the terminator of a string, if all
strings before that one are plain. -/
theorem mem_readBack {lt : WString → WString → Prop} [IsStrictOrder WString lt]
    {strings : List WString} (h : strings.Pairwise lt) {string : WString} (hne : string ≠ []) :
    string ∈ readBack strings ↔
      ∃ s ∈ strings, cString s = string ∧ ∀ before ∈ strings, lt before s → Plain before := by
  induction strings with
  | nil => simp [readBack]
  | cons first strings ih =>
    obtain ⟨hfirst, hstrings⟩ := List.pairwise_cons.mp h
    have hleast : ∀ before ∈ first :: strings, ¬lt before first := by
      intro before hbefore
      rcases List.mem_cons.mp hbefore with rfl | hbefore
      · exact irrefl before
      · exact asymm (hfirst before hbefore)
    rw [readBack]
    by_cases hplain : Plain first
    · rw [if_pos hplain, List.mem_cons, ih hstrings]
      constructor
      · rintro (rfl | ⟨s, hs, hcut, hbefore⟩)
        · exact ⟨string, List.mem_cons_self, cString_eq_self hplain.2,
            fun before hmem hlt => absurd hlt (hleast before hmem)⟩
        · exact ⟨s, List.mem_cons_of_mem first hs, hcut,
            fun before hmem hlt => (List.mem_cons.mp hmem).elim (fun heq => heq ▸ hplain)
              fun hmem => hbefore before hmem hlt⟩
      · rintro ⟨s, hs, hcut, hbefore⟩
        rcases List.mem_cons.mp hs with rfl | hs
        · exact .inl (hcut.symm.trans (cString_eq_self hplain.2))
        · exact .inr ⟨s, hs, hcut, fun before hmem =>
            hbefore before (List.mem_cons_of_mem first hmem)⟩
    · -- nothing is read of what follows
      have hlast : string ∈ (if cString first = [] then [] else [cString first]) ↔
          cString first = string := by
        split_ifs with hnil
        · rw [hnil]
          exact iff_of_false List.not_mem_nil (Ne.symm hne)
        · rw [List.mem_singleton, eq_comm]
      rw [if_neg hplain, hlast]
      constructor
      · intro heq
        exact ⟨first, List.mem_cons_self, heq, fun before hmem hlt =>
          absurd hlt (hleast before hmem)⟩
      · rintro ⟨s, hs, hcut, hbefore⟩
        rcases List.mem_cons.mp hs with rfl | hs
        · exact hcut
        · exact absurd (hbefore first List.mem_cons_self (hfirst s hs)) hplain

theorem length_cString_le (string : WString) : (cString string).length ≤ string.length :=
  (List.takeWhile_prefix _).length_le

/-- A string is copied with a terminator, or with several. -/
theorem copied_eq_append (string : WString) :
    copied string = cString string ++
      nul :: List.replicate (string.length - (cString string).length) nul := by
  have hlength := length_cString_le string
  rw [copied, ← List.replicate_succ]
  congr 2
  omega

/-- Each string takes its length and a terminator, and the list takes one more. -/
theorem length_stringListToMultiString (strings : List WString) :
    (stringListToMultiString strings).length = (strings.map (·.length + 1)).sum + 1 := by
  have hcopied : ∀ string : WString, (copied string).length = string.length + 1 := by
    intro string
    have hlength := length_cString_le string
    rw [copied, List.length_append, List.length_replicate]
    omega
  rw [stringListToMultiString, List.length_append, List.length_flatMap, List.length_singleton]
  simp only [hcopied]

/-- **Decoding the multi-string of a list** reads back its strings. -/
theorem decode_stringListToMultiString (strings : List WString) :
    MultiString.decode nul (stringListToMultiString strings) = readBack strings := by
  induction strings with
  | nil => rfl
  | cons string strings ih =>
    have hcons : stringListToMultiString (string :: strings) =
        copied string ++ stringListToMultiString strings := by
      simp [stringListToMultiString]
    rw [hcons, readBack]
    by_cases hplain : Plain string
    · rw [if_pos hplain, copied_eq hplain.2, List.append_assoc, List.singleton_append,
        MultiString.decode_append_nul hplain.2 hplain.1, ih]
    · -- at least two terminators follow, or the string is empty
      rw [if_neg hplain]
      have hnul : nul ∉ cString string := fun h => by simpa using List.mem_takeWhile_imp h
      rw [copied_eq_append, List.append_assoc, List.cons_append]
      split_ifs with hnil
      · rw [hnil, List.nil_append, MultiString.decode_nul_cons]
      · rw [MultiString.decode_append_nul hnul hnil]
        rcases hn : string.length - (cString string).length with _ | n
        · -- a string that is as long as what is read of it is plain
          have hself : cString string = string :=
            (List.takeWhile_prefix _).eq_of_length_le (Nat.sub_eq_zero_iff_le.mp hn)
          rw [hself] at hnul hnil
          exact absurd ⟨hnil, hnul⟩ hplain
        · rw [List.replicate_succ, List.cons_append, MultiString.decode_nul_cons]

/-- A list with at least one string ends in two terminators. -/
theorem endsInTwo_stringListToMultiString {strings : List WString} (h : strings ≠ []) :
    MultiString.EndsInTwo nul (stringListToMultiString strings) := by
  obtain ⟨before, string, rfl⟩ : ∃ before string, strings = before ++ [string] :=
    ⟨_, _, (List.dropLast_append_getLast h).symm⟩
  refine ⟨before.flatMap copied ++ cString string ++
    List.replicate (string.length - (cString string).length) nul, ?_⟩
  rw [stringListToMultiString, List.flatMap_append, List.flatMap_singleton, copied_eq_append]
  -- the last two of the terminators
  simp only [List.append_assoc, List.append_cancel_left_eq, List.cons_append]
  rw [← List.replicate_succ', ← List.replicate_succ, List.replicate_succ', List.replicate_succ',
    List.append_assoc, List.singleton_append]

/-! ### Bytes -/

/-- The bytes of wide characters, the low byte first. -/
def bytes (chars : List WChar) : List UInt8 :=
  chars.flatMap fun c : WChar => [c.toUInt8, (c >>> 8).toUInt8]

/-- A size as a `DWORD`. -/
def dword (size : ℕ) : ℕ := size % 2 ^ 32

@[simp] theorem bytes_nil : bytes [] = [] := rfl

@[simp] theorem bytes_cons (c : WChar) (chars : List WChar) :
    bytes (c :: chars) = c.toUInt8 :: (c >>> 8).toUInt8 :: bytes chars := rfl

@[simp] theorem length_bytes (chars : List WChar) : (bytes chars).length = 2 * chars.length := by
  induction chars with
  | nil => rfl
  | cons c chars ih =>
    rw [bytes_cons, List.length_cons, List.length_cons, ih, List.length_cons]
    omega

theorem take_bytes (chars : List WChar) (n : ℕ) :
    (bytes chars).take (2 * n) = bytes (chars.take n) := by
  induction n generalizing chars with
  | zero => rfl
  | succ n ih =>
    cases chars with
    | nil => rfl
    | cons c chars =>
      rw [bytes_cons, show 2 * (n + 1) = 2 * n + 1 + 1 from by omega, List.take_succ_cons,
        List.take_succ_cons, ih, List.take_succ_cons, bytes_cons]

/-- A character is its two bytes. -/
theorem toUInt16_or_shiftLeft (c : WChar) :
    c.toUInt8.toUInt16 ||| (c >>> 8).toUInt8.toUInt16 <<< 8 = c := by
  have hc : c.toNat < 65536 := c.toNat_lt
  -- the two bytes occupy different bits, so their disjunction is their sum
  have hhigh : c.toNat / 256 % 256 * 256 % 65536 = 2 ^ 8 * (c.toNat / 256) := by omega
  have hlow : c.toNat % 256 < 2 ^ 8 := Nat.mod_lt _ (by decide)
  apply UInt16.toNat_inj.mp
  simp only [UInt16.toNat_or, UInt8.toNat_toUInt16, UInt16.toNat_toUInt8, UInt16.toNat_shiftLeft,
    UInt16.toNat_shiftRight, UInt16.reduceToNat, Nat.reduceMod, Nat.shiftLeft_eq,
    Nat.shiftRight_eq_div_pow, Nat.reducePow]
  rw [hhigh, Nat.or_comm, ← Nat.two_pow_add_eq_or_of_lt hlow]
  omega

@[simp] theorem wideChars_bytes (chars : List WChar) : wideChars (bytes chars) = chars := by
  induction chars with
  | nil => rfl
  | cons c chars ih => rw [bytes_cons, wideChars, ih, toUInt16_or_shiftLeft]

end HidHide
