import Mathlib.Data.List.TakeWhile
import Mathlib.Tactic.SplitIfs
import HidHide.ForMathlib.Numerals

/-!
# JSON texts of 16-bit code units

The grammar of JSON, as a relation between values and the texts that denote them (`Derives`), and
a parser for it. A character of a string is a code unit: it stands for itself, or is escaped.

The parser reads every text of the grammar as the value that it denotes (`IsText.parse_eq`), so a
text denotes at most one value.
-/

namespace Json

/-- A sequence of code units. -/
abbrev Text := List UInt16

/-- The code units of an ASCII literal. -/
def ascii (s : String) : Text := s.toList.map fun c => .ofNat c.toNat

def quote : UInt16 := 0x22
def backslash : UInt16 := 0x5C
def comma : UInt16 := 0x2C
def colon : UInt16 := 0x3A
def openBracket : UInt16 := 0x5B
def closeBracket : UInt16 := 0x5D
def openBrace : UInt16 := 0x7B
def closeBrace : UInt16 := 0x7D

/-- A number as it is written. An exponent has a sign. -/
structure Number where
  negative : Bool
  integer : ℕ
  fraction : List ℕ
  exponent : Option (Bool × ℕ)

/-- A natural number. -/
def Number.ofNat (n : ℕ) : Number := ⟨false, n, [], none⟩

inductive Value where
  | null
  | bool (b : Bool)
  | number (n : Number)
  | string (s : Text)
  | array (values : List Value)
  | object (members : List (Text × Value))

/-! ### Characters -/

def isSpace (c : UInt16) : Bool := c = 0x20 ∨ c = 0x09 ∨ c = 0x0A ∨ c = 0x0D

def digitChar (d : ℕ) : UInt16 := .ofNat (0x30 + d)

def digitOf (c : UInt16) : Option ℕ :=
  if 0x30 ≤ c ∧ c ≤ 0x39 then some (c.toNat - 0x30) else none

def hexDigitOf (c : UInt16) : Option ℕ :=
  if 0x30 ≤ c ∧ c ≤ 0x39 then some (c.toNat - 0x30)
  else if 0x61 ≤ c ∧ c ≤ 0x66 then some (c.toNat - 0x57)
  else if 0x41 ≤ c ∧ c ≤ 0x46 then some (c.toNat - 0x37)
  else none

/-- What an escaped character stands for, unless it is given by its code. -/
def escapeOf (c : UInt16) : Option UInt16 :=
  if c = 0x22 ∨ c = 0x5C ∨ c = 0x2F then some c
  else if c = 0x62 then some 0x08
  else if c = 0x66 then some 0x0C
  else if c = 0x6E then some 0x0A
  else if c = 0x72 then some 0x0D
  else if c = 0x74 then some 0x09
  else none

theorem digitOf_digitChar : ∀ d < 10, digitOf (digitChar d) = some d := by decide

/-! ### The grammar -/

/-- White space that may be missing. -/
def Blank (t : Text) : Prop := ∀ c ∈ t, isSpace c

instance : DecidablePred Blank := fun t => List.decidableBAll _ t

/-- A character of a string. -/
inductive CharText : Text → UInt16 → Prop where
  | unescaped (c : UInt16) (control : 0x20 ≤ c) (hquote : c ≠ quote) (hbackslash : c ≠ backslash) :
      CharText [c] c
  | escaped (c v : UInt16) (h : escapeOf c = some v) : CharText [backslash, c] v
  | code (c₃ c₂ c₁ c₀ : UInt16) (d₃ d₂ d₁ d₀ : ℕ) (h₃ : hexDigitOf c₃ = some d₃)
      (h₂ : hexDigitOf c₂ = some d₂) (h₁ : hexDigitOf c₁ = some d₁) (h₀ : hexDigitOf c₀ = some d₀) :
      CharText [backslash, 0x75, c₃, c₂, c₁, c₀] (.ofNat (Numerals.ofDigits 16 [d₃, d₂, d₁, d₀]))

/-- The characters of a string. -/
inductive CharsText : Text → Text → Prop where
  | nil : CharsText [] []
  | cons {t u s : Text} {c : UInt16} (first : CharText t c) (rest : CharsText u s) :
      CharsText (t ++ u) (c :: s)

/-- A sequence of digits. -/
inductive DigitsText : Text → List ℕ → Prop where
  | mk (ds : List ℕ) (nonempty : ds ≠ []) (h : ∀ d ∈ ds, d < 10) : DigitsText (ds.map digitChar) ds

inductive FractionText : Text → List ℕ → Prop where
  | absent : FractionText [] []
  | present {t : Text} {ds : List ℕ} (h : DigitsText t ds) : FractionText (0x2E :: t) ds

inductive ExponentText : Text → Option (Bool × ℕ) → Prop where
  | absent : ExponentText [] none
  | unsigned (e : UInt16) (he : e = 0x65 ∨ e = 0x45) {t : Text} {ds : List ℕ}
      (h : DigitsText t ds) : ExponentText (e :: t) (some (false, Numerals.ofDigits 10 ds))
  | positive (e : UInt16) (he : e = 0x65 ∨ e = 0x45) {t : Text} {ds : List ℕ}
      (h : DigitsText t ds) : ExponentText (e :: 0x2B :: t) (some (false, Numerals.ofDigits 10 ds))
  | negative (e : UInt16) (he : e = 0x65 ∨ e = 0x45) {t : Text} {ds : List ℕ}
      (h : DigitsText t ds) : ExponentText (e :: 0x2D :: t) (some (true, Numerals.ofDigits 10 ds))

/-- A number: its integer part does not begin with a zero, unless it is one. -/
inductive NumberText : Text → Number → Prop where
  | mk (negative : Bool) {t u w : Text} {ds fraction : List ℕ} {exponent : Option (Bool × ℕ)}
      (integer : DigitsText t ds) (leading : ds = [0] ∨ ds.head? ≠ some 0)
      (hfraction : FractionText u fraction) (hexponent : ExponentText w exponent) :
      NumberText ((if negative then [0x2D] else []) ++ t ++ u ++ w)
        ⟨negative, Numerals.ofDigits 10 ds, fraction, exponent⟩

/-- The name of a member, with the colon behind it. -/
inductive KeyText : Text → Text → Prop where
  | mk {w t w₁ w₂ key : Text} (hw : Blank w) (h : CharsText t key) (hw₁ : Blank w₁)
      (hw₂ : Blank w₂) : KeyText (w ++ quote :: t ++ quote :: w₁ ++ colon :: w₂) key

/-- What a text of the grammar denotes: a value, or the elements or members of one. -/
inductive Phrase where
  | value (v : Value)
  | elements (values : List Value)
  | members (members : List (Text × Value))

/-- **The grammar**: the phrase is denoted by the text. Elements and members are not empty. -/
inductive Derives : Phrase → Text → Prop where
  | literalNull : Derives (.value .null) (ascii "null")
  | literalTrue : Derives (.value (.bool true)) (ascii "true")
  | literalFalse : Derives (.value (.bool false)) (ascii "false")
  | number {t : Text} {n : Number} (h : NumberText t n) : Derives (.value (.number n)) t
  | string {t s : Text} (h : CharsText t s) :
      Derives (.value (.string s)) (quote :: t ++ [quote])
  | emptyArray {w : Text} (hw : Blank w) :
      Derives (.value (.array [])) (openBracket :: w ++ [closeBracket])
  | array {t : Text} {values : List Value} (h : Derives (.elements values) t) :
      Derives (.value (.array values)) (openBracket :: t ++ [closeBracket])
  | emptyObject {w : Text} (hw : Blank w) :
      Derives (.value (.object [])) (openBrace :: w ++ [closeBrace])
  | object {t : Text} {members : List (Text × Value)} (h : Derives (.members members) t) :
      Derives (.value (.object members)) (openBrace :: t ++ [closeBrace])
  | lastElement {w t w' : Text} {v : Value} (hw : Blank w) (h : Derives (.value v) t)
      (hw' : Blank w') : Derives (.elements [v]) (w ++ t ++ w')
  | element {w t w' u : Text} {v : Value} {values : List Value} (hw : Blank w)
      (h : Derives (.value v) t) (hw' : Blank w') (rest : Derives (.elements values) u) :
      Derives (.elements (v :: values)) (w ++ t ++ w' ++ comma :: u)
  | lastMember {k t w key : Text} {v : Value} (hkey : KeyText k key) (h : Derives (.value v) t)
      (hw : Blank w) : Derives (.members [(key, v)]) (k ++ t ++ w)
  | member {k t w u key : Text} {v : Value} {members : List (Text × Value)}
      (hkey : KeyText k key) (h : Derives (.value v) t) (hw : Blank w)
      (rest : Derives (.members members) u) :
      Derives (.members ((key, v) :: members)) (k ++ t ++ w ++ comma :: u)

/-- **A JSON text** that denotes the value. -/
inductive IsText : Text → Value → Prop where
  | mk {w t w' : Text} {v : Value} (hw : Blank w) (h : Derives (.value v) t) (hw' : Blank w') :
      IsText (w ++ t ++ w') v

/-! ### The parser -/

def skipSpace (t : Text) : Text := t.dropWhile isSpace

/-- The character with a code. -/
def codeOf (c₃ c₂ c₁ c₀ : UInt16) : Option UInt16 := do
  let d₃ ← hexDigitOf c₃
  let d₂ ← hexDigitOf c₂
  let d₁ ← hexDigitOf c₁
  let d₀ ← hexDigitOf c₀
  return .ofNat (Numerals.ofDigits 16 [d₃, d₂, d₁, d₀])

/-- The characters up to the closing quote, and what follows it. -/
def parseChars : Text → Option (Text × Text)
  | [] => none
  | c :: t =>
      if c = quote then some ([], t)
      else if c = backslash then
        match t with
        | [] => none
        | e :: t =>
            if e = 0x75 then
              match t with
              | c₃ :: c₂ :: c₁ :: c₀ :: t => do
                  let v ← codeOf c₃ c₂ c₁ c₀
                  let (s, rest) ← parseChars t
                  return (v :: s, rest)
              | _ => none
            else do
              let v ← escapeOf e
              let (s, rest) ← parseChars t
              return (v :: s, rest)
      else if c < 0x20 then none
      else do
        let (s, rest) ← parseChars t
        return (c :: s, rest)

/-- One or more digits. -/
def parseDigits (t : Text) : Option (List ℕ × Text) :=
  if (Numerals.readDigits digitOf t).1 = [] then none else some (Numerals.readDigits digitOf t)

def parseFraction : Text → Option (List ℕ × Text)
  | [] => some ([], [])
  | c :: t => if c = 0x2E then parseDigits t else some ([], c :: t)

/-- The sign of an exponent. -/
def parseSign : Text → Bool × Text
  | [] => (false, [])
  | c :: t => if c = 0x2D then (true, t) else if c = 0x2B then (false, t) else (false, c :: t)

def parseExponent : Text → Option (Option (Bool × ℕ) × Text)
  | [] => some (none, [])
  | e :: t =>
      if e = 0x65 ∨ e = 0x45 then do
        let (ds, rest) ← parseDigits (parseSign t).2
        return (some ((parseSign t).1, Numerals.ofDigits 10 ds), rest)
      else some (none, e :: t)

def parseNumber (t : Text) : Option (Number × Text) := do
  let (negative, t) := if t.head? = some 0x2D then (true, t.drop 1) else (false, t)
  let (ds, t) ← parseDigits t
  if ds ≠ [0] ∧ ds.head? = some 0 then none
  else do
    let (fraction, t) ← parseFraction t
    let (exponent, t) ← parseExponent t
    return (⟨negative, Numerals.ofDigits 10 ds, fraction, exponent⟩, t)

/-- A literal in front of a text. -/
def parseLiteral (s : String) (v : Value) (t : Text) : Option (Value × Text) :=
  if ascii s <+: t then some (v, t.drop (ascii s).length) else none

mutual

/-- A value in front of a text. -/
def parseValue : ℕ → Text → Option (Value × Text)
  | 0, _ => none
  | _, [] => none
  | fuel + 1, c :: t =>
      if c = quote then do
        let (s, rest) ← parseChars t
        return (.string s, rest)
      else if c = openBracket then
        if (skipSpace t).head? = some closeBracket then
          some (.array [], (skipSpace t).drop 1)
        else do
          let (values, rest) ← parseElements fuel t
          return (.array values, rest)
      else if c = openBrace then
        if (skipSpace t).head? = some closeBrace then
          some (.object [], (skipSpace t).drop 1)
        else do
          let (members, rest) ← parseMembers fuel t
          return (.object members, rest)
      else if c = 0x6E then parseLiteral "null" .null (c :: t)
      else if c = 0x74 then parseLiteral "true" (.bool true) (c :: t)
      else if c = 0x66 then parseLiteral "false" (.bool false) (c :: t)
      else do
        let (n, rest) ← parseNumber (c :: t)
        return (.number n, rest)

/-- Elements in front of a text, up to the closing bracket. -/
def parseElements : ℕ → Text → Option (List Value × Text)
  | 0, _ => none
  | fuel + 1, t => do
      let (v, rest) ← parseValue fuel (skipSpace t)
      match skipSpace rest with
      | [] => none
      | c :: rest =>
          if c = comma then do
            let (values, rest) ← parseElements fuel rest
            return (v :: values, rest)
          else if c = closeBracket then some ([v], rest)
          else none

/-- Members in front of a text, up to the closing brace. -/
def parseMembers : ℕ → Text → Option (List (Text × Value) × Text)
  | 0, _ => none
  | fuel + 1, t =>
      match skipSpace t with
      | [] => none
      | c :: t =>
          if c = quote then do
            let (key, t) ← parseChars t
            match skipSpace t with
            | [] => none
            | c :: t =>
                if c = colon then do
                  let (v, rest) ← parseValue fuel (skipSpace t)
                  match skipSpace rest with
                  | [] => none
                  | c :: rest =>
                      if c = comma then do
                        let (members, rest) ← parseMembers fuel rest
                        return ((key, v) :: members, rest)
                      else if c = closeBrace then some ([(key, v)], rest)
                      else none
                else none
          else none

end

/-- **The parser**: the value that a JSON text denotes. -/
def parse (t : Text) : Option Value := do
  let (v, rest) ← parseValue (2 * t.length + 1) (skipSpace t)
  if skipSpace rest = [] then some v else none

/-! ### The parser reads the grammar -/

section Complete

theorem CharsText.parse_eq {t s : Text} (h : CharsText t s) (rest : Text) :
    parseChars (t ++ quote :: rest) = some (s, rest) := by
  induction h with
  | nil =>
    rw [List.nil_append, parseChars.eq_def]
    dsimp only
    rw [if_pos rfl]
  | cons first _ ih =>
    cases first with
    | unescaped c control hquote hbackslash =>
      rw [List.singleton_append, List.cons_append, parseChars.eq_def]
      dsimp only
      rw [if_neg hquote, if_neg hbackslash, if_neg (UInt16.not_lt.mpr control), ih]
      rfl
    | escaped c v hescape =>
      have hcode : c ≠ 0x75 := by
        rintro rfl
        exact absurd hescape (by simp [escapeOf])
      simp only [List.cons_append, List.nil_append]
      rw [parseChars.eq_def]
      dsimp only
      rw [if_neg (by decide), if_pos rfl, if_neg hcode, hescape, ih]
      rfl
    | code c₃ c₂ c₁ c₀ d₃ d₂ d₁ d₀ h₃ h₂ h₁ h₀ =>
      have hcode : codeOf c₃ c₂ c₁ c₀ =
          some (.ofNat (Numerals.ofDigits 16 [d₃, d₂, d₁, d₀])) := by
        rw [codeOf, h₃, h₂, h₁, h₀]
        rfl
      simp only [List.cons_append, List.nil_append]
      rw [parseChars.eq_def]
      dsimp only
      rw [if_neg (by decide), if_pos rfl, if_pos rfl, hcode, ih]
      rfl

theorem DigitsText.parse_eq {t : Text} {ds : List ℕ} (h : DigitsText t ds) {rest : Text}
    (hrest : ∀ c ∈ rest.head?, digitOf c = none) : parseDigits (t ++ rest) = some (ds, rest) := by
  obtain ⟨ds, nonempty, hlt⟩ := h
  rw [parseDigits, Numerals.readDigits_append digitOf digitOf_digitChar hlt hrest, if_neg nonempty]

/-- A sequence of digits begins with one. -/
theorem DigitsText.exists_cons {t : Text} {ds : List ℕ} (h : DigitsText t ds) :
    ∃ d u, t = digitChar d :: u ∧ d < 10 := by
  obtain ⟨ds, nonempty, hlt⟩ := h
  obtain ⟨d, ds, rfl⟩ := List.exists_cons_of_ne_nil nonempty
  exact ⟨d, ds.map digitChar, rfl, hlt d List.mem_cons_self⟩

theorem digitChar_ne : ∀ d < 10, digitChar d ≠ 0x2D ∧ digitChar d ≠ 0x2B := by decide

/-- What may follow a number. -/
def NumberEnds (rest : Text) : Prop :=
  ∀ c ∈ rest.head?, digitOf c = none ∧ c ≠ 0x2E ∧ c ≠ 0x65 ∧ c ≠ 0x45

theorem ExponentText.parse_eq {t : Text} {exponent : Option (Bool × ℕ)}
    (h : ExponentText t exponent) {rest : Text} (hrest : NumberEnds rest) :
    parseExponent (t ++ rest) = some (exponent, rest) := by
  have hdigit : ∀ c ∈ rest.head?, digitOf c = none := fun c hc => (hrest c hc).1
  cases h with
  | absent =>
    rw [List.nil_append]
    cases rest with
    | nil => rfl
    | cons c rest =>
      obtain ⟨-, -, hlower, hupper⟩ := hrest c rfl
      rw [parseExponent, if_neg (not_or.mpr ⟨hlower, hupper⟩)]
  | unsigned e he hdigits =>
    obtain ⟨d, t, rfl, hd⟩ := hdigits.exists_cons
    obtain ⟨hminus, hplus⟩ := digitChar_ne d hd
    rw [List.cons_append, parseExponent, if_pos he, List.cons_append, parseSign, if_neg hminus,
      if_neg hplus, ← List.cons_append]
    dsimp only
    rw [hdigits.parse_eq hdigit]
    rfl
  | positive e he hdigits =>
    rw [List.cons_append, List.cons_append, parseExponent, if_pos he, parseSign,
      if_neg (by decide), if_pos rfl]
    dsimp only
    rw [hdigits.parse_eq hdigit]
    rfl
  | negative e he hdigits =>
    rw [List.cons_append, List.cons_append, parseExponent, if_pos he, parseSign, if_pos rfl]
    dsimp only
    rw [hdigits.parse_eq hdigit]
    rfl

theorem FractionText.parse_eq {t : Text} {ds : List ℕ} (h : FractionText t ds) {rest : Text}
    (hrest : ∀ c ∈ rest.head?, digitOf c = none ∧ c ≠ 0x2E) :
    parseFraction (t ++ rest) = some (ds, rest) := by
  cases h with
  | absent =>
    rw [List.nil_append]
    cases rest with
    | nil => rfl
    | cons c rest => rw [parseFraction, if_neg (hrest c rfl).2]
  | present h =>
    rw [List.cons_append, parseFraction, if_pos rfl]
    exact h.parse_eq fun c hc => (hrest c hc).1

/-- What may follow a fraction. -/
theorem ExponentText.head {t : Text} {exponent : Option (Bool × ℕ)}
    (h : ExponentText t exponent) {rest : Text} (hrest : NumberEnds rest) :
    ∀ c ∈ (t ++ rest).head?, digitOf c = none ∧ c ≠ 0x2E := by
  have hletter : ∀ e : UInt16, e = 0x65 ∨ e = 0x45 → digitOf e = none ∧ e ≠ 0x2E := by
    rintro e (rfl | rfl)
    · decide
    · decide
  intro c hc
  cases h with
  | absent => exact ⟨(hrest c hc).1, (hrest c hc).2.1⟩
  | unsigned e he hdigits =>
    obtain rfl : e = c := Option.some.inj hc
    exact hletter e he
  | positive e he hdigits =>
    obtain rfl : e = c := Option.some.inj hc
    exact hletter e he
  | negative e he hdigits =>
    obtain rfl : e = c := Option.some.inj hc
    exact hletter e he

/-- What may follow an integer. -/
theorem FractionText.head {t : Text} {ds : List ℕ} (h : FractionText t ds) {rest : Text}
    (hrest : ∀ c ∈ rest.head?, digitOf c = none ∧ c ≠ 0x2E) :
    ∀ c ∈ (t ++ rest).head?, digitOf c = none := by
  intro c hc
  cases h with
  | absent => exact (hrest c hc).1
  | present h =>
    obtain rfl : 0x2E = c := Option.some.inj hc
    decide

theorem NumberText.parse_eq {t : Text} {n : Number} (h : NumberText t n) {rest : Text}
    (hrest : NumberEnds rest) : parseNumber (t ++ rest) = some (n, rest) := by
  obtain ⟨negative, integer, leading, hfraction, hexponent⟩ := h
  rename_i t u w ds fraction exponent
  have hinteger := integer.parse_eq (hfraction.head (hexponent.head hrest))
  have hleading : ¬(ds ≠ [0] ∧ ds.head? = some 0) := by
    rintro ⟨hne, hhead⟩
    exact leading.elim hne fun h => h hhead
  -- past the sign
  have hsign : (if ((if negative then [0x2D] else []) ++ t ++ u ++ w ++ rest).head? = some 0x2D then
      (true, ((if negative then [0x2D] else []) ++ t ++ u ++ w ++ rest).drop 1)
      else (false, (if negative then [0x2D] else []) ++ t ++ u ++ w ++ rest)) =
      (negative, t ++ (u ++ (w ++ rest))) := by
    cases negative with
    | true => simp
    | false =>
      obtain ⟨d, t', rfl, hd⟩ := integer.exists_cons
      simp [(digitChar_ne d hd).1]
  rw [parseNumber, hsign]
  dsimp only
  rw [hinteger]
  dsimp only [Option.bind_eq_bind, Option.bind_some]
  rw [if_neg hleading, hfraction.parse_eq (hexponent.head hrest)]
  dsimp only [Option.bind_some]
  rw [hexponent.parse_eq hrest]
  rfl

theorem skipSpace_append {w : Text} (hw : Blank w) (t : Text) :
    skipSpace (w ++ t) = skipSpace t :=
  List.dropWhile_append_of_pos hw

theorem skipSpace_cons {c : UInt16} (hc : isSpace c = false) (t : Text) :
    skipSpace (c :: t) = c :: t :=
  List.dropWhile_cons_of_neg (by simp [hc])

/-- What separates or closes elements and members. -/
def IsSeparator (c : UInt16) : Prop := c = comma ∨ c = closeBracket ∨ c = closeBrace

theorem isSpace_separator {c : UInt16} (h : IsSeparator c) : isSpace c = false := by
  rcases h with rfl | rfl | rfl <;> decide

theorem numberEnds_separator {c : UInt16} (hc : IsSeparator c) (rest : Text) :
    NumberEnds (c :: rest) := by
  intro d hd
  obtain rfl : c = d := Option.some.inj hd
  rcases hc with rfl | rfl | rfl <;> decide

theorem NumberEnds.blank {rest : Text} (h : NumberEnds rest) {w : Text} (hw : Blank w) :
    NumberEnds (w ++ rest) := by
  rcases w with _ | ⟨e, w⟩
  · exact h
  · intro d hd
    obtain rfl : e = d := Option.some.inj hd
    have hspace : e = 0x20 ∨ e = 0x09 ∨ e = 0x0A ∨ e = 0x0D := by
      simpa [isSpace] using hw e List.mem_cons_self
    rcases hspace with rfl | rfl | rfl | rfl <;> decide

/-- How a number begins. -/
theorem NumberText.exists_cons {t : Text} {n : Number} (h : NumberText t n) :
    ∃ c u, t = c :: u ∧ (c = 0x2D ∨ ∃ d < 10, c = digitChar d) := by
  obtain ⟨negative, integer, -, -, -⟩ := h
  obtain ⟨d, u, rfl, hd⟩ := integer.exists_cons
  cases negative with
  | true => exact ⟨_, _, rfl, .inl rfl⟩
  | false => exact ⟨_, _, rfl, .inr ⟨d, hd, rfl⟩⟩

/-- The characters by which the parser tells the values apart. -/
def IsValueMark (c : UInt16) : Prop :=
  c = quote ∨ c = openBracket ∨ c = openBrace ∨ c = 0x6E ∨ c = 0x74 ∨ c = 0x66

instance : DecidablePred IsValueMark := fun c =>
  inferInstanceAs (Decidable (c = quote ∨ c = openBracket ∨ c = openBrace ∨ c = 0x6E ∨ c = 0x74 ∨
    c = 0x66))

theorem not_isValueMark_digitChar : ∀ d < 10, ¬IsValueMark (digitChar d) := by decide

/-- The start of a value is neither white space nor a closing bracket. -/
def StartsValue (c : UInt16) : Prop := isSpace c = false ∧ c ≠ closeBracket

theorem startsValue_digitChar : ∀ d < 10, isSpace (digitChar d) = false ∧
    digitChar d ≠ closeBracket := by
  decide

theorem Derives.exists_cons {v : Value} {t : Text} (h : Derives (.value v) t) :
    ∃ c u, t = c :: u ∧ StartsValue c := by
  cases h with
  | literalNull => exact ⟨_, _, rfl, by decide, by decide⟩
  | literalTrue => exact ⟨_, _, rfl, by decide, by decide⟩
  | literalFalse => exact ⟨_, _, rfl, by decide, by decide⟩
  | number h =>
    obtain ⟨c, u, rfl, rfl | ⟨d, hd, rfl⟩⟩ := h.exists_cons
    · exact ⟨_, _, rfl, by decide, by decide⟩
    · exact ⟨_, _, rfl, startsValue_digitChar d hd⟩
  | string h => exact ⟨_, _, rfl, by decide, by decide⟩
  | emptyArray hw => exact ⟨_, _, rfl, by decide, by decide⟩
  | array h => exact ⟨_, _, rfl, by decide, by decide⟩
  | emptyObject hw => exact ⟨_, _, rfl, by decide, by decide⟩
  | object h => exact ⟨_, _, rfl, by decide, by decide⟩

/-- The text of a phrase is read as the phrase, with enough fuel. -/
def Parsed : Phrase → Text → Prop
  | .value v, t => ∀ fuel rest, 2 * t.length + 1 ≤ fuel → NumberEnds rest →
      parseValue fuel (t ++ rest) = some (v, rest)
  | .elements values, t => ∀ fuel rest, 2 * t.length + 2 ≤ fuel →
      parseElements fuel (t ++ closeBracket :: rest) = some (values, rest)
  | .members members, t => ∀ fuel rest, 2 * t.length + 2 ≤ fuel →
      parseMembers fuel (t ++ closeBrace :: rest) = some (members, rest)

/-- White space in front of a value is skipped. -/
theorem Derives.skipSpace_eq {v : Value} {w t : Text} (hw : Blank w) (h : Derives (.value v) t)
    (rest : Text) : skipSpace (w ++ t ++ rest) = t ++ rest := by
  obtain ⟨c, u, rfl, hc, -⟩ := h.exists_cons
  rw [List.append_assoc, skipSpace_append hw, List.cons_append, skipSpace_cons hc]

/-- A value that is read in front of white space and a separator. -/
theorem Parsed.value_blank {v : Value} {t w : Text} (h : Parsed (.value v) t) (hw : Blank w)
    {c : UInt16} (hc : IsSeparator c) (rest : Text) {fuel : ℕ} (hfuel : 2 * t.length + 1 ≤ fuel) :
    parseValue fuel (t ++ (w ++ c :: rest)) = some (v, w ++ c :: rest) ∧
      skipSpace (w ++ c :: rest) = c :: rest := by
  refine ⟨h fuel _ hfuel ((numberEnds_separator hc rest).blank hw), ?_⟩
  rw [skipSpace_append hw, skipSpace_cons (isSpace_separator hc)]

/-- An element, up to the separator behind it. -/
theorem parseElements_value {v : Value} {w t w' : Text} (hw : Blank w) (h : Derives (.value v) t)
    (hparsed : Parsed (.value v) t) (hw' : Blank w') {c : UInt16} (hc : IsSeparator c)
    (rest : Text) {fuel : ℕ} (hfuel : 2 * t.length + 1 ≤ fuel) :
    parseElements (fuel + 1) (w ++ t ++ (w' ++ c :: rest)) =
      if c = comma then
        (parseElements fuel rest).map fun (values, rest) => (v :: values, rest)
      else if c = closeBracket then some ([v], rest)
      else none := by
  obtain ⟨hvalue, hspace⟩ := hparsed.value_blank hw' hc rest hfuel
  rw [parseElements, h.skipSpace_eq hw, hvalue]
  dsimp only [Option.bind_eq_bind, Option.bind_some]
  rw [hspace]
  dsimp only
  rw [Option.map_eq_bind]
  rfl

/-- A member, up to the separator behind it. -/
theorem parseMembers_value {k key t w : Text} {v : Value} (hkey : KeyText k key)
    (h : Derives (.value v) t) (hparsed : Parsed (.value v) t) (hw : Blank w) {c : UInt16}
    (hc : IsSeparator c) (rest : Text) {fuel : ℕ} (hfuel : 2 * t.length + 1 ≤ fuel) :
    parseMembers (fuel + 1) (k ++ t ++ (w ++ c :: rest)) =
      if c = comma then
        (parseMembers fuel rest).map fun (members, rest) => ((key, v) :: members, rest)
      else if c = closeBrace then some ([(key, v)], rest)
      else none := by
  obtain ⟨hvalue, hspace⟩ := hparsed.value_blank hw hc rest hfuel
  obtain ⟨hfront, hchars, hbefore, hbehind⟩ := hkey
  rename_i w₀ u w₁ w₂
  have hname : skipSpace (w₀ ++ quote :: u ++ quote :: w₁ ++ colon :: w₂ ++ t ++
      (w ++ c :: rest)) = quote :: (u ++ quote :: (w₁ ++ colon :: (w₂ ++ t ++
        (w ++ c :: rest)))) := by
    simp only [List.append_assoc, List.cons_append]
    rw [skipSpace_append hfront, skipSpace_cons (by decide)]
  have hcolon : ∀ x : Text, skipSpace (w₁ ++ colon :: x) = colon :: x := fun x => by
    rw [skipSpace_append hbefore, skipSpace_cons (by decide)]
  rw [parseMembers, hname]
  dsimp only
  rw [if_pos rfl, hchars.parse_eq]
  dsimp only [Option.bind_eq_bind, Option.bind_some]
  rw [hcolon]
  dsimp only
  rw [if_pos rfl, h.skipSpace_eq hbehind, hvalue]
  dsimp only [Option.bind_some]
  rw [hspace]
  dsimp only
  rw [Option.map_eq_bind]
  rfl

theorem parseLiteral_ascii (s : String) (v : Value) (rest : Text) :
    parseLiteral s v (ascii s ++ rest) = some (v, rest) := by
  rw [parseLiteral, if_pos (List.prefix_append _ _), List.drop_left]

/-- Elements do not begin with the closing bracket. -/
theorem Derives.head_elements {values : List Value} {t : Text} (h : Derives (.elements values) t)
    (rest : Text) : (skipSpace (t ++ rest)).head? ≠ some closeBracket := by
  obtain ⟨w, v, u, t', hw, hv, rfl⟩ : ∃ w v u t', Blank w ∧ Derives (.value v) u ∧
      t = w ++ u ++ t' := by
    cases h with
    | lastElement hw h hw' => exact ⟨_, _, _, _, hw, h, rfl⟩
    | element hw h hw' rest => exact ⟨_, _, _, _, hw, h, List.append_assoc _ _ _⟩
  obtain ⟨c, u, rfl, -, hc⟩ := hv.exists_cons
  rw [List.append_assoc, hv.skipSpace_eq hw]
  exact fun hhead => hc (Option.some.inj hhead)

/-- Members do not begin with the closing brace. -/
theorem Derives.head_members {members : List (Text × Value)} {t : Text}
    (h : Derives (.members members) t) (rest : Text) :
    (skipSpace (t ++ rest)).head? ≠ some closeBrace := by
  obtain ⟨k, key, t', hkey, rfl⟩ : ∃ k key t', KeyText k key ∧ t = k ++ t' := by
    cases h with
    | lastMember hkey h hw => exact ⟨_, _, _, hkey, List.append_assoc _ _ _⟩
    | member hkey h hw rest =>
      exact ⟨_, _, _, hkey, (List.append_assoc _ _ _).trans (List.append_assoc _ _ _)⟩
  obtain ⟨hw, -, -, -⟩ := hkey
  simp only [List.append_assoc, List.cons_append]
  rw [skipSpace_append hw, skipSpace_cons (by decide)]
  exact fun hhead => absurd (Option.some.inj hhead) (by decide)

/-- **The parser reads the grammar.** -/
theorem Derives.parsed {p : Phrase} {t : Text} (h : Derives p t) : Parsed p t := by
  induction h with
  | literalNull =>
    intro fuel rest hfuel _
    obtain ⟨fuel, rfl⟩ := Nat.exists_eq_add_one.mpr (Nat.lt_of_lt_of_le (Nat.succ_pos _) hfuel)
    change parseValue (fuel + 1) (0x6E :: ([0x75, 0x6C, 0x6C] ++ rest)) = _
    rw [parseValue, if_neg (by decide), if_neg (by decide), if_neg (by decide), if_pos rfl]
    exact parseLiteral_ascii "null" .null rest
  | literalTrue =>
    intro fuel rest hfuel _
    obtain ⟨fuel, rfl⟩ := Nat.exists_eq_add_one.mpr (Nat.lt_of_lt_of_le (Nat.succ_pos _) hfuel)
    change parseValue (fuel + 1) (0x74 :: ([0x72, 0x75, 0x65] ++ rest)) = _
    rw [parseValue, if_neg (by decide), if_neg (by decide), if_neg (by decide),
      if_neg (by decide), if_pos rfl]
    exact parseLiteral_ascii "true" (.bool true) rest
  | literalFalse =>
    intro fuel rest hfuel _
    obtain ⟨fuel, rfl⟩ := Nat.exists_eq_add_one.mpr (Nat.lt_of_lt_of_le (Nat.succ_pos _) hfuel)
    change parseValue (fuel + 1) (0x66 :: ([0x61, 0x6C, 0x73, 0x65] ++ rest)) = _
    rw [parseValue, if_neg (by decide), if_neg (by decide), if_neg (by decide),
      if_neg (by decide), if_neg (by decide), if_pos rfl]
    exact parseLiteral_ascii "false" (.bool false) rest
  | number h =>
    intro fuel rest hfuel hrest
    obtain ⟨fuel, rfl⟩ := Nat.exists_eq_add_one.mpr (Nat.lt_of_lt_of_le (Nat.succ_pos _) hfuel)
    have hparse := h.parse_eq hrest
    obtain ⟨c, u, rfl, hc⟩ := h.exists_cons
    have hmark : ¬IsValueMark c := by
      rcases hc with rfl | ⟨d, hd, rfl⟩
      · decide
      · exact not_isValueMark_digitChar d hd
    simp only [IsValueMark, not_or] at hmark
    obtain ⟨hquote, hbracket, hbrace, hn, ht, hf⟩ := hmark
    rw [List.cons_append] at hparse ⊢
    rw [parseValue, if_neg hquote, if_neg hbracket, if_neg hbrace, if_neg hn, if_neg ht, if_neg hf,
      hparse]
    rfl
  | string h =>
    intro fuel rest hfuel _
    obtain ⟨fuel, rfl⟩ := Nat.exists_eq_add_one.mpr (Nat.lt_of_lt_of_le (Nat.succ_pos _) hfuel)
    rw [List.append_assoc, List.cons_append, List.singleton_append, parseValue, if_pos rfl,
      h.parse_eq]
    rfl
  | emptyArray hw =>
    intro fuel rest hfuel _
    obtain ⟨fuel, rfl⟩ := Nat.exists_eq_add_one.mpr (Nat.lt_of_lt_of_le (Nat.succ_pos _) hfuel)
    rw [List.append_assoc, List.cons_append, List.singleton_append, parseValue,
      if_neg (by decide), if_pos rfl, skipSpace_append hw, skipSpace_cons (by decide),
      List.head?_cons, if_pos rfl]
    rfl
  | array h ih =>
    intro fuel rest hfuel _
    obtain ⟨fuel, rfl⟩ := Nat.exists_eq_add_one.mpr (Nat.lt_of_lt_of_le (Nat.succ_pos _) hfuel)
    have hmore := ih fuel rest (by simp at hfuel; omega)
    rw [List.append_assoc, List.cons_append, List.singleton_append, parseValue,
      if_neg (by decide), if_pos rfl, if_neg (h.head_elements _), hmore]
    rfl
  | emptyObject hw =>
    intro fuel rest hfuel _
    obtain ⟨fuel, rfl⟩ := Nat.exists_eq_add_one.mpr (Nat.lt_of_lt_of_le (Nat.succ_pos _) hfuel)
    rw [List.append_assoc, List.cons_append, List.singleton_append, parseValue,
      if_neg (by decide), if_neg (by decide), if_pos rfl, skipSpace_append hw,
      skipSpace_cons (by decide), List.head?_cons, if_pos rfl]
    rfl
  | object h ih =>
    intro fuel rest hfuel _
    obtain ⟨fuel, rfl⟩ := Nat.exists_eq_add_one.mpr (Nat.lt_of_lt_of_le (Nat.succ_pos _) hfuel)
    have hmore := ih fuel rest (by simp at hfuel; omega)
    rw [List.append_assoc, List.cons_append, List.singleton_append, parseValue,
      if_neg (by decide), if_neg (by decide), if_pos rfl, if_neg (h.head_members _), hmore]
    rfl
  | lastElement hw h hw' ih =>
    intro fuel rest hfuel
    obtain ⟨fuel, rfl⟩ := Nat.exists_eq_add_one.mpr (Nat.lt_of_lt_of_le (Nat.succ_pos _) hfuel)
    rw [List.append_assoc, parseElements_value hw h ih hw' (.inr (.inl rfl)) rest
      (by simp at hfuel; omega), if_neg (by decide), if_pos rfl]
  | element hw h hw' hrest ih ihrest =>
    intro fuel rest hfuel
    obtain ⟨fuel, rfl⟩ := Nat.exists_eq_add_one.mpr (Nat.lt_of_lt_of_le (Nat.succ_pos _) hfuel)
    have hmore := ihrest fuel rest (by simp at hfuel; omega)
    rw [List.append_assoc _ (comma :: _), List.append_assoc, List.cons_append,
      parseElements_value hw h ih hw' (.inl rfl) _ (by simp at hfuel; omega), if_pos rfl, hmore]
    rfl
  | lastMember hkey h hw ih =>
    intro fuel rest hfuel
    obtain ⟨fuel, rfl⟩ := Nat.exists_eq_add_one.mpr (Nat.lt_of_lt_of_le (Nat.succ_pos _) hfuel)
    rw [List.append_assoc, parseMembers_value hkey h ih hw (.inr (.inr rfl)) rest
      (by simp at hfuel; omega), if_neg (by decide), if_pos rfl]
  | member hkey h hw hrest ih ihrest =>
    intro fuel rest hfuel
    obtain ⟨fuel, rfl⟩ := Nat.exists_eq_add_one.mpr (Nat.lt_of_lt_of_le (Nat.succ_pos _) hfuel)
    have hmore := ihrest fuel rest (by simp at hfuel; omega)
    rw [List.append_assoc _ (comma :: _), List.append_assoc, List.cons_append,
      parseMembers_value hkey h ih hw (.inl rfl) _ (by simp at hfuel; omega), if_pos rfl, hmore]
    rfl

/-- **A JSON text is read** as the value that it denotes. -/
theorem IsText.parse_eq {t : Text} {v : Value} (h : IsText t v) : parse t = some v := by
  obtain ⟨hw, h, hw'⟩ := h
  rename_i w t w'
  have hspace : skipSpace w' = [] := List.dropWhile_eq_nil_iff.mpr hw'
  have hnil : NumberEnds [] := fun c hc => by simp at hc
  have hends : NumberEnds w' := by simpa using hnil.blank hw'
  rw [parse, h.skipSpace_eq hw, h.parsed _ w' (by simp; omega) hends]
  dsimp only [Option.bind_eq_bind, Option.bind_some]
  rw [if_pos hspace]

end Complete

end Json
