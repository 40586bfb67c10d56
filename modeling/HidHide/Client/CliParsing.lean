import Mathlib.Data.List.DropRight
import HidHide.Client.Utils

/-!
# Command line parsing

The functions of `CliParsing.cpp`. Each of them consumes a part of the line it is given, so it
returns what it extracts together with what is left of the line. Which characters are white space
is up to the locale: `iswspace` is a parameter.

Each loop of the source shortens the line (`length_extractString_lt`, `length_extractCommand_lt`),
so the functions are total. `extractCommands_quoted` says what becomes of a command with one
quoted argument, the form in which the command interpreter prints the lists.
-/

namespace HidHide

/-- The arguments of a command, its keyword first. -/
abbrev Args := List WString

def doubleQuote : WChar := 0x22
def dash : WChar := 0x2D
def space : WChar := 0x20

section CliParsing

variable (iswspace : WChar → Bool)

/-- `Trim`. -/
def trim (value : WString) : WString := (value.dropWhile iswspace).rdropWhile iswspace

/-- `ExtractKeyword`. -/
def extractKeyword (value : WString) : WString × WString :=
  (value.takeWhile (!iswspace ·), (value.dropWhile (!iswspace ·)).drop 1)

/-- `ExtractString`. -/
def extractString : WString → WString × WString
  | [] => ([], [])
  | c :: value =>
      if c = doubleQuote then
        match value.dropWhile (· ≠ doubleQuote) with
        -- without a closing quote nothing is extracted, which is a syntax error
        | [] => ([], c :: value)
        | [_] => (value.takeWhile (· ≠ doubleQuote), [])
        | _ :: next :: rest =>
            if iswspace next then (value.takeWhile (· ≠ doubleQuote), rest) else ([], c :: value)
      else extractKeyword iswspace (c :: value)

theorem length_trim_le (value : WString) : (trim iswspace value).length ≤ value.length :=
  (List.rdropWhile_prefix ..).length_le.trans (List.dropWhile_suffix _).length_le

theorem length_extractKeyword_lt {value : WString} (h : value ≠ []) :
    (extractKeyword iswspace value).2.length < value.length := by
  have hpos : 0 < value.length := List.length_pos_iff.mpr h
  have hdrop : (value.dropWhile (!iswspace ·)).length ≤ value.length :=
    (List.dropWhile_suffix _).length_le
  rw [extractKeyword, List.length_drop]
  omega

theorem length_extractKeyword_le (value : WString) :
    (extractKeyword iswspace value).2.length ≤ value.length := by
  rcases eq_or_ne value [] with rfl | h
  · rfl
  · exact (length_extractKeyword_lt iswspace h).le

/-- A string is extracted, or nothing is. -/
theorem extractString_eq_or_length_lt {value : WString} (h : value ≠ []) :
    extractString iswspace value = ([], value) ∨
      (extractString iswspace value).2.length < value.length := by
  cases value with
  | nil => exact absurd rfl h
  | cons c value =>
    have hdrop : (value.dropWhile (· ≠ doubleQuote)).length ≤ value.length :=
      (List.dropWhile_suffix _).length_le
    rw [extractString]
    split_ifs with hc
    · rcases hclose : value.dropWhile (· ≠ doubleQuote) with _ | ⟨close, _ | ⟨next, rest⟩⟩
      · exact .inl rfl
      · exact .inr (Nat.succ_pos _)
      · rw [hclose] at hdrop
        dsimp only
        split_ifs
        · simp only [List.length_cons] at hdrop ⊢
          omega
        · exact .inl rfl
    · exact .inr (length_extractKeyword_lt iswspace h)

theorem length_extractString_le (value : WString) :
    (extractString iswspace value).2.length ≤ value.length := by
  rcases eq_or_ne value [] with rfl | h
  · rfl
  · rcases extractString_eq_or_length_lt iswspace h with heq | hlt
    · rw [heq]
    · exact hlt.le

/-- An argument that is no syntax error shortens the line. -/
theorem length_extractString_lt {value : WString} (h : value ≠ [])
    (harg : ¬((extractString iswspace value).1 = [] ∧ (extractString iswspace value).2 ≠ [])) :
    (extractString iswspace value).2.length < value.length := by
  rcases extractString_eq_or_length_lt iswspace h with heq | hlt
  · rw [heq] at harg
    exact absurd ⟨rfl, h⟩ harg
  · exact hlt

/-- The loop of `ExtractCommand` over the arguments: a syntax error leaves no arguments. -/
def extractArgs (result : Args) (value : WString) : Args × WString :=
  let trimmed := trim iswspace value
  if trimmed = [] ∨ trimmed.take 2 = [dash, dash] then (result, trimmed)
  else
    let arg := (extractString iswspace trimmed).1
    let rest := (extractString iswspace trimmed).2
    -- at the end of the line an empty argument is no error, but an argument
    if arg = [] ∧ rest ≠ [] then ([], rest) else extractArgs (result ++ [arg]) rest
termination_by value.length
decreasing_by
  rename_i htrimmed harg
  exact (length_extractString_lt iswspace (not_or.mp htrimmed).1 harg).trans_le
    (length_trim_le iswspace value)

/-- `ExtractCommand`. -/
def extractCommand (value : WString) : Args × WString :=
  let value := if value.take 2 = [dash, dash] then value.drop 2 else value
  extractArgs iswspace [(extractKeyword iswspace value).1] (extractKeyword iswspace value).2

@[simp] theorem extractArgs_nil (result : Args) :
    extractArgs iswspace result [] = (result, []) := by
  rw [extractArgs, if_pos (.inl rfl)]
  rfl

theorem length_extractArgs_le (result : Args) (value : WString) :
    (extractArgs iswspace result value).2.length ≤ value.length := by
  induction result, value using extractArgs.induct iswspace with
  | case1 result value trimmed htrimmed =>
    rw [extractArgs, if_pos htrimmed]
    exact length_trim_le iswspace value
  | case2 result value trimmed htrimmed arg rest harg =>
    rw [extractArgs, if_neg htrimmed, if_pos harg]
    exact (length_extractString_le iswspace trimmed).trans (length_trim_le iswspace value)
  | case3 result value trimmed htrimmed arg rest harg ih =>
    rw [extractArgs, if_neg htrimmed, if_neg harg]
    have hrest : rest.length < trimmed.length :=
      length_extractString_lt iswspace (not_or.mp htrimmed).1 harg
    exact ih.trans (hrest.le.trans (length_trim_le iswspace value))

/-- A command shortens the line. -/
theorem length_extractCommand_lt {value : WString} (h : value ≠ []) :
    (extractCommand iswspace value).2.length < value.length := by
  have hargs := length_extractArgs_le iswspace
  rw [extractCommand]
  split_ifs with hdashes
  · have hdrop : (value.drop 2).length < value.length := by
      rw [List.length_drop]
      exact Nat.sub_lt (List.length_pos_iff.mpr h) (by decide)
    exact ((hargs _ _).trans (length_extractKeyword_le iswspace _)).trans_lt hdrop
  · exact (hargs _ _).trans_lt (length_extractKeyword_lt iswspace h)

/-- The loop of `ExtractCommands`: a syntax error leaves no commands. -/
def extractCommandsFrom (result : List Args) (value : WString) : List Args × WString :=
  let trimmed := trim iswspace value
  if trimmed = [] then (result, trimmed)
  else
    let command := (extractCommand iswspace trimmed).1
    let rest := (extractCommand iswspace trimmed).2
    if command = [] ∧ rest ≠ [] then ([], rest)
    else extractCommandsFrom (result ++ [command]) rest
termination_by value.length
decreasing_by
  rename_i htrimmed _
  exact (length_extractCommand_lt iswspace htrimmed).trans_le (length_trim_le iswspace value)

@[simp] theorem extractCommandsFrom_nil (result : List Args) :
    extractCommandsFrom iswspace result [] = (result, []) := by
  have htrim : trim iswspace [] = [] := rfl
  rw [extractCommandsFrom, if_pos htrim, htrim]

/-- `ExtractCommands`. -/
def extractCommands (value : WString) : List Args × WString :=
  extractCommandsFrom iswspace [] value

/-! ### A quoted argument -/

variable {iswspace}

/-- A line that neither begins nor ends with white space. -/
theorem trim_eq_self {c d : WChar} {value : WString} (hc : ¬iswspace c) (hd : ¬iswspace d) :
    trim iswspace (c :: value ++ [d]) = c :: value ++ [d] := by
  rw [trim, List.cons_append, List.dropWhile_cons_of_neg hc, ← List.cons_append,
    List.rdropWhile_concat_neg _ _ _ hd]

theorem extractKeyword_append {keyword : WString} (hkeyword : ∀ c ∈ keyword, ¬iswspace c)
    {c : WChar} (hc : iswspace c) (value : WString) :
    extractKeyword iswspace (keyword ++ c :: value) = (keyword, value) := by
  have hpos : ∀ a ∈ keyword, (!iswspace a) = true := fun a ha => by simp [hkeyword a ha]
  rw [extractKeyword, List.takeWhile_append_of_pos hpos, List.dropWhile_append_of_pos hpos,
    List.takeWhile_cons_of_neg (by simp [hc]), List.dropWhile_cons_of_neg (by simp [hc]),
    List.append_nil, List.drop_one, List.tail_cons]

/-- A quoted string at the end of the line. -/
theorem extractString_quoted {path : WString} (hpath : doubleQuote ∉ path) :
    extractString iswspace (doubleQuote :: path ++ [doubleQuote]) = (path, []) := by
  have hpos : ∀ a ∈ path, decide (a ≠ doubleQuote) = true := fun a ha =>
    decide_eq_true fun h => hpath (h ▸ ha)
  rw [List.cons_append, extractString, if_pos rfl, List.dropWhile_append_of_pos hpos,
    List.takeWhile_append_of_pos hpos, List.dropWhile_cons_of_neg (by simp)]
  simp

/-- The last argument of a line may be quoted, and may be empty then. -/
theorem extractArgs_quoted (hquote : ¬iswspace doubleQuote) (result : Args) {path : WString}
    (hpath : doubleQuote ∉ path) :
    extractArgs iswspace result (doubleQuote :: path ++ [doubleQuote]) =
      (result ++ [path], []) := by
  have htrim : trim iswspace (doubleQuote :: path ++ [doubleQuote]) =
      doubleQuote :: path ++ [doubleQuote] := trim_eq_self hquote hquote
  have hdashes : (doubleQuote :: path ++ [doubleQuote]).take 2 ≠ [dash, dash] := by
    rw [List.cons_append, List.take_succ_cons]
    exact fun h => absurd (List.cons.inj h).1 (by decide)
  have hne : doubleQuote :: path ++ [doubleQuote] ≠ [] := List.cons_ne_nil _ _
  rw [extractArgs]
  simp only [htrim, extractString_quoted hpath]
  rw [if_neg (not_or.mpr ⟨hne, hdashes⟩), if_neg fun h => h.2 rfl, extractArgs_nil]

/-- The line with one command of one quoted argument. -/
def quotedCommand (keyword path : WString) : WString :=
  [dash, dash] ++ keyword ++ [space, doubleQuote] ++ path ++ [doubleQuote]

/-- **A quoted argument** is read back as it is, the empty one included. -/
theorem extractCommands_quoted (hspace : iswspace space) (hquote : ¬iswspace doubleQuote)
    (hdash : ¬iswspace dash) {keyword path : WString} (hkeyword : ∀ c ∈ keyword, ¬iswspace c)
    (hpath : doubleQuote ∉ path) :
    extractCommands iswspace (quotedCommand keyword path) = ([[keyword, path]], []) := by
  have hline : quotedCommand keyword path =
      dash :: (dash :: keyword ++ space :: doubleQuote :: path) ++ [doubleQuote] := by
    simp [quotedCommand]
  have htrim : trim iswspace (quotedCommand keyword path) = quotedCommand keyword path := by
    rw [hline, trim_eq_self hdash hquote]
  have hne : quotedCommand keyword path ≠ [] := by simp [quotedCommand]
  -- past the dashes the keyword ends at the space, and the quoted argument is all that is left
  have hcommand : extractCommand iswspace (quotedCommand keyword path) =
      ([keyword, path], []) := by
    have hdrop : (quotedCommand keyword path).drop 2 =
        keyword ++ space :: (doubleQuote :: path ++ [doubleQuote]) := by
      simp [quotedCommand]
    rw [extractCommand, if_pos (by simp [quotedCommand]), hdrop]
    simp only [extractKeyword_append hkeyword hspace, extractArgs_quoted hquote _ hpath]
    rfl
  rw [extractCommands, extractCommandsFrom]
  simp only [htrim, hcommand]
  rw [if_neg hne, if_neg fun h => h.2 rfl, extractCommandsFrom_nil, List.nil_append]

end CliParsing

/-- The white space of the `C` locale. -/
def cLocaleSpace (c : WChar) : Bool := c = 0x20 ∨ (0x09 ≤ c ∧ c ≤ 0x0D)

theorem not_cLocaleSpace {c : WChar} (hlow : 0x21 ≤ c) : ¬cLocaleSpace c := by
  rw [cLocaleSpace, decide_eq_true_eq]
  rintro (rfl | ⟨-, hhigh⟩)
  · exact absurd hlow (by decide)
  · exact absurd (hlow.trans hhigh) (by decide)

end HidHide
