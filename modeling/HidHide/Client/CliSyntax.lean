import HidHide.Client.Commands

/-!
# The syntax of the command line

A command line is a sequence of commands `--keyword arg arg ...` with white space between the tokens
and around them. An argument is bare or in double quotes. `LineText` are the lines of that form:
what the form excludes cannot be built.

The parser inverts the rendering (`extractCommands_render`). Of any line it returns commands and
consumes the line, or it returns none and leaves a part of the line (`extractCommands_outcome`).
-/

namespace HidHide

/-! ### Rendering -/

section Syntax

variable (iswspace : WChar → Bool)

/-- White space that may be missing. -/
abbrev Blank := {s : WString // ∀ c ∈ s, iswspace c}

/-- White space between two tokens. -/
abbrev Gap := {s : WString // s ≠ [] ∧ ∀ c ∈ s, iswspace c}

/-- An argument as it is written. -/
inductive ArgText where
  | quoted (value : WString) (nonempty : value ≠ []) (closed : doubleQuote ∉ value)
  | bare (value : WString) (nonempty : value ≠ []) (graph : ∀ c ∈ value, ¬iswspace c)
      (notQuoted : value.head? ≠ some doubleQuote) (notKeyword : value.take 2 ≠ [dash, dash])

/-- A command as it is written, with the white space before each argument. -/
structure CommandText where
  keyword : WString
  nonempty : keyword ≠ []
  graph : ∀ c ∈ keyword, ¬iswspace c
  args : List (Gap iswspace × ArgText iswspace)

/-- A command line as it is written. -/
inductive LineText where
  | blank (space : Blank iswspace)
  | commands (before : Blank iswspace) (first : CommandText iswspace)
      (rest : List (Gap iswspace × CommandText iswspace)) (after : Blank iswspace)

variable {iswspace}

def ArgText.value : ArgText iswspace → WString
  | .quoted value _ _ => value
  | .bare value _ _ _ _ => value

def ArgText.render : ArgText iswspace → WString
  | .quoted value _ _ => doubleQuote :: value ++ [doubleQuote]
  | .bare value _ _ _ _ => value

/-- The command that is written. -/
def CommandText.command (text : CommandText iswspace) : Args :=
  text.keyword :: text.args.map (·.2.value)

/-- Arguments, and what follows them. -/
def renderArgs : List (Gap iswspace × ArgText iswspace) → WString → WString
  | [], tail => tail
  | (gap, arg) :: args, tail => gap.1 ++ arg.render ++ renderArgs args tail

/-- A command, and what follows it. -/
def CommandText.render (text : CommandText iswspace) (tail : WString) : WString :=
  dash :: dash :: text.keyword ++ renderArgs text.args tail

/-- The commands after the first. -/
def renderCommands : List (Gap iswspace × CommandText iswspace) → WString
  | [] => []
  | (gap, text) :: rest => gap.1 ++ text.render (renderCommands rest)

/-- The commands that are written. -/
def LineText.values : LineText iswspace → List Args
  | .blank _ => []
  | .commands _ first rest _ => first.command :: rest.map (·.2.command)

def LineText.render : LineText iswspace → WString
  | .blank space => space.1
  | .commands before first rest after =>
      before.1 ++ first.render (renderCommands rest) ++ after.1

/-! ### White space at the ends -/

theorem trim_blank_append {blank : WString} (h : ∀ c ∈ blank, iswspace c) (value : WString) :
    trim iswspace (blank ++ value) = trim iswspace value := by
  rw [trim, List.dropWhile_append_of_pos h, trim]

theorem trim_append_blank (value : WString) {blank : WString} (h : ∀ c ∈ blank, iswspace c) :
    trim iswspace (value ++ blank) = trim iswspace value := by
  have hblank : blank.dropWhile iswspace = [] := List.dropWhile_eq_nil_iff.mpr h
  have hrev : ∀ c ∈ blank.reverse, iswspace c := fun c hc => h c (List.mem_reverse.mp hc)
  rw [trim, trim, List.dropWhile_append]
  split_ifs with hnil
  · rw [hblank, List.isEmpty_iff.mp hnil]
  · rw [List.rdropWhile, List.rdropWhile, List.reverse_append, List.dropWhile_append_of_pos hrev]

/-- The text does not end in white space. -/
def EndsInGraph (iswspace : WChar → Bool) (value : WString) : Prop :=
  ∀ d ∈ value.getLast?, ¬iswspace d

theorem trim_cons_of_endsInGraph {c : WChar} {value : WString} (hc : ¬iswspace c)
    (h : EndsInGraph iswspace (c :: value)) : trim iswspace (c :: value) = c :: value := by
  rw [trim, List.dropWhile_cons_of_neg hc, List.rdropWhile_eq_self_iff]
  intro hne
  exact h _ (List.getLast?_eq_some_getLast hne)

theorem EndsInGraph.append (value : WString) {tail : WString} (hne : tail ≠ [])
    (h : EndsInGraph iswspace tail) : EndsInGraph iswspace (value ++ tail) := by
  intro d hd
  rw [List.getLast?_append_of_ne_nil _ hne] at hd
  exact h d hd

theorem endsInGraph_of_forall {value : WString} (h : ∀ c ∈ value, ¬iswspace c) :
    EndsInGraph iswspace value := fun d hd => h d (List.mem_of_getLast? hd)

/-! ### Tokens -/

/-- The text is empty or starts with white space, as what follows a token. -/
def StartsWithGap (iswspace : WChar → Bool) (value : WString) : Prop :=
  ∀ c ∈ value.head?, iswspace c

theorem startsWithGap_gap (gap : Gap iswspace) (tail : WString) :
    StartsWithGap iswspace (gap.1 ++ tail) := by
  obtain ⟨c, cs, hc⟩ := List.exists_cons_of_ne_nil gap.2.1
  rw [hc]
  intro d hd
  obtain rfl : c = d := by simpa using hd
  exact gap.2.2 c (by simp [hc])

theorem startsWithGap_renderCommands (rest : List (Gap iswspace × CommandText iswspace)) :
    StartsWithGap iswspace (renderCommands rest) := by
  rcases rest with _ | ⟨⟨gap, text⟩, rest⟩
  · intro c hc
    simp [renderCommands] at hc
  · exact startsWithGap_gap gap _

theorem startsWithGap_renderArgs (args : List (Gap iswspace × ArgText iswspace)) {tail : WString}
    (h : StartsWithGap iswspace tail) : StartsWithGap iswspace (renderArgs args tail) := by
  rcases args with _ | ⟨⟨gap, arg⟩, args⟩
  · exact h
  · rw [renderArgs, List.append_assoc]
    exact startsWithGap_gap gap _

/-- A keyword ends at the white space after it, of which one character is consumed. -/
theorem extractKeyword_tail {keyword : WString} (hkeyword : ∀ c ∈ keyword, ¬iswspace c)
    {tail : WString} (htail : StartsWithGap iswspace tail) :
    extractKeyword iswspace (keyword ++ tail) = (keyword, tail.drop 1) := by
  rcases tail with _ | ⟨c, tail⟩
  · have hpos : ∀ a ∈ keyword, (!iswspace a) = true := fun a ha => by simp [hkeyword a ha]
    rw [List.append_nil, extractKeyword, List.takeWhile_eq_self_iff.mpr hpos,
      List.dropWhile_eq_nil_iff.mpr hpos, List.drop_nil]
  · exact extractKeyword_append hkeyword (htail c rfl) tail

/-- An argument as it stands in a line, with its value. -/
inductive IsToken (iswspace : WChar → Bool) : WString → WString → Prop where
  | quoted (value : WString) (closed : doubleQuote ∉ value) :
      IsToken iswspace (doubleQuote :: value ++ [doubleQuote]) value
  | bare (value : WString) (nonempty : value ≠ []) (graph : ∀ c ∈ value, ¬iswspace c)
      (notQuoted : value.head? ≠ some doubleQuote) : IsToken iswspace value value

/-- A token is extracted in front of white space and at the end of the line. -/
theorem IsToken.extractString_eq {token value : WString} (h : IsToken iswspace token value)
    {tail : WString} (htail : StartsWithGap iswspace tail) :
    extractString iswspace (token ++ tail) = (value, tail.drop 1) := by
  cases h with
  | quoted value closed =>
    have hpos : ∀ a ∈ value, decide (a ≠ doubleQuote) = true := fun a ha =>
      decide_eq_true fun h => closed (h ▸ ha)
    have hline : doubleQuote :: value ++ [doubleQuote] ++ tail =
        doubleQuote :: (value ++ doubleQuote :: tail) := by
      simp
    rw [hline, extractString, if_pos rfl, List.dropWhile_append_of_pos hpos,
      List.takeWhile_append_of_pos hpos, List.dropWhile_cons_of_neg (by simp),
      List.takeWhile_cons_of_neg (by simp), List.append_nil]
    -- the closing quote is at the end, or white space follows it
    rcases tail with _ | ⟨c, tail⟩
    · rfl
    · dsimp only
      rw [if_pos (htail c rfl)]
      rfl
  | bare _ nonempty graph notQuoted =>
    obtain ⟨c, cs, rfl⟩ := List.exists_cons_of_ne_nil nonempty
    have hc : c ≠ doubleQuote := fun h => notQuoted (by simp [h])
    rw [List.cons_append, extractString, if_neg hc, ← List.cons_append]
    exact extractKeyword_tail graph htail

theorem ArgText.isToken (arg : ArgText iswspace) : IsToken iswspace arg.render arg.value := by
  rcases arg with ⟨value, nonempty, closed⟩ | ⟨value, nonempty, graph, notQuoted, notKeyword⟩
  · exact .quoted value closed
  · exact .bare value nonempty graph notQuoted

/-- An argument is extracted as it was before it was written. -/
theorem extractString_render (arg : ArgText iswspace) {tail : WString}
    (htail : StartsWithGap iswspace tail) :
    extractString iswspace (arg.render ++ tail) = (arg.value, tail.drop 1) :=
  arg.isToken.extractString_eq htail

/-- An argument is not taken for the start of a command. -/
theorem take_two_render (arg : ArgText iswspace) {tail : WString}
    (htail : StartsWithGap iswspace tail) : (arg.render ++ tail).take 2 ≠ [dash, dash] := by
  rcases arg with ⟨value, nonempty, closed⟩ | ⟨value, nonempty, graph, notQuoted, notKeyword⟩
  · intro h
    have hquote : doubleQuote = dash := by simpa [ArgText.render] using congrArg List.head? h
    exact absurd hquote (by decide)
  · intro h
    rcases value with _ | ⟨c, _ | ⟨d, value⟩⟩
    · exact nonempty rfl
    · -- a single dash is followed by white space
      rcases tail with _ | ⟨d, tail⟩
      · simp [ArgText.render] at h
      · obtain ⟨rfl, rfl⟩ : c = dash ∧ d = dash := by simpa [ArgText.render] using h
        exact graph dash (by simp) (htail dash rfl)
    · exact notKeyword (by simpa [ArgText.render] using h)

/-! ### The parser inverts the rendering -/

theorem ArgText.exists_cons (hquote : ¬iswspace doubleQuote) (arg : ArgText iswspace) :
    ∃ c cs, arg.render = c :: cs ∧ ¬iswspace c := by
  rcases arg with ⟨value, nonempty, closed⟩ | ⟨value, nonempty, graph, notQuoted, notKeyword⟩
  · exact ⟨doubleQuote, value ++ [doubleQuote], rfl, hquote⟩
  · obtain ⟨c, cs, rfl⟩ := List.exists_cons_of_ne_nil nonempty
    exact ⟨c, cs, rfl, graph c List.mem_cons_self⟩

theorem ArgText.endsInGraph (hquote : ¬iswspace doubleQuote) (arg : ArgText iswspace) :
    EndsInGraph iswspace arg.render := by
  rcases arg with ⟨value, nonempty, closed⟩ | ⟨value, nonempty, graph, notQuoted, notKeyword⟩
  · refine EndsInGraph.append _ (List.cons_ne_nil _ _) ?_
    intro d hd
    obtain rfl : doubleQuote = d := by simpa using hd
    exact hquote
  · exact endsInGraph_of_forall graph

theorem endsInGraph_renderArgs (hquote : ¬iswspace doubleQuote)
    (args : List (Gap iswspace × ArgText iswspace)) {value tail : WString}
    (hvalue : EndsInGraph iswspace value) (htail : EndsInGraph iswspace tail) :
    EndsInGraph iswspace (value ++ renderArgs args tail) := by
  induction args generalizing value with
  | nil =>
    rcases eq_or_ne tail [] with rfl | hne
    · simpa [renderArgs] using hvalue
    · exact htail.append _ hne
  | cons head args ih =>
    obtain ⟨gap, arg⟩ := head
    obtain ⟨c, cs, hc, -⟩ := arg.exists_cons hquote
    rw [renderArgs, ← List.append_assoc]
    exact ih (((arg.endsInGraph hquote).append gap.1 (by simp [hc])).append value (by simp [hc]))

theorem CommandText.endsInGraph (hquote : ¬iswspace doubleQuote) (hdash : ¬iswspace dash)
    (text : CommandText iswspace) {tail : WString} (htail : EndsInGraph iswspace tail) :
    EndsInGraph iswspace (text.render tail) := by
  refine endsInGraph_renderArgs hquote text.args (endsInGraph_of_forall fun c hc => ?_) htail
  rcases List.mem_cons.mp hc with rfl | hc
  · exact hdash
  · rcases List.mem_cons.mp hc with rfl | hc
    · exact hdash
    · exact text.graph c hc

theorem endsInGraph_renderCommands (hquote : ¬iswspace doubleQuote) (hdash : ¬iswspace dash)
    (rest : List (Gap iswspace × CommandText iswspace)) :
    EndsInGraph iswspace (renderCommands rest) := by
  induction rest with
  | nil => exact endsInGraph_of_forall (by simp [renderCommands])
  | cons head rest ih =>
    obtain ⟨gap, text⟩ := head
    have hne : text.render (renderCommands rest) ≠ [] := List.cons_ne_nil _ _
    exact (text.endsInGraph hquote hdash ih).append gap.1 hne

/-- Commands that follow are trimmed to the first of them. -/
theorem trim_gap_render (hquote : ¬iswspace doubleQuote) (hdash : ¬iswspace dash) {blank : WString}
    (hblank : ∀ c ∈ blank, iswspace c) (text : CommandText iswspace)
    (rest : List (Gap iswspace × CommandText iswspace)) :
    trim iswspace (blank ++ text.render (renderCommands rest)) =
      text.render (renderCommands rest) := by
  have hends := text.endsInGraph hquote hdash (endsInGraph_renderCommands hquote hdash rest)
  rw [trim_blank_append hblank]
  exact trim_cons_of_endsInGraph hdash hends

/-- A gap without its first character is white space. -/
theorem drop_gap (gap : Gap iswspace) (tail : WString) :
    ∃ blank, (∀ c ∈ blank, iswspace c) ∧ (gap.1 ++ tail).drop 1 = blank ++ tail := by
  obtain ⟨c, cs, hc⟩ := List.exists_cons_of_ne_nil gap.2.1
  refine ⟨cs, fun d hd => gap.2.2 d (by simp [hc, hd]), ?_⟩
  rw [hc, List.cons_append, List.drop_one, List.tail_cons]

/-- The arguments of a command are extracted, up to the next command. -/
theorem extractArgs_render (hquote : ¬iswspace doubleQuote) (hdash : ¬iswspace dash)
    (args : List (Gap iswspace × ArgText iswspace))
    (rest : List (Gap iswspace × CommandText iswspace)) (result : Args) :
    extractArgs iswspace result ((renderArgs args (renderCommands rest)).drop 1) =
      (result ++ args.map (·.2.value), trim iswspace (renderCommands rest)) := by
  induction args generalizing result with
  | nil =>
    rw [renderArgs, extractArgs]
    rcases rest with _ | ⟨⟨gap, text⟩, rest⟩
    · simp [renderCommands, trim]
    · -- the loop ends where the next command begins
      obtain ⟨blank, hblank, hdrop⟩ := drop_gap gap (text.render (renderCommands rest))
      rw [renderCommands, hdrop, trim_gap_render hquote hdash hblank,
        trim_gap_render hquote hdash gap.2.2]
      rw [if_pos (.inr rfl)]
      simp
  | cons head args ih =>
    obtain ⟨gap, arg⟩ := head
    have hmore : StartsWithGap iswspace (renderArgs args (renderCommands rest)) :=
      startsWithGap_renderArgs args (startsWithGap_renderCommands rest)
    have hends : EndsInGraph iswspace (arg.render ++ renderArgs args (renderCommands rest)) :=
      endsInGraph_renderArgs hquote args (arg.endsInGraph hquote)
        (endsInGraph_renderCommands hquote hdash rest)
    have hvalue : arg.value ≠ [] := by
      rcases arg with ⟨value, nonempty, -⟩ | ⟨value, nonempty, -, -, -⟩ <;> exact nonempty
    obtain ⟨blank, hblank, hdrop⟩ :=
      drop_gap gap (arg.render ++ renderArgs args (renderCommands rest))
    have htrim : trim iswspace ((renderArgs ((gap, arg) :: args) (renderCommands rest)).drop 1) =
        arg.render ++ renderArgs args (renderCommands rest) := by
      obtain ⟨c, cs, hc, hgraph⟩ := arg.exists_cons hquote
      rw [renderArgs, List.append_assoc, hdrop, trim_blank_append hblank]
      rw [hc, List.cons_append] at hends ⊢
      exact trim_cons_of_endsInGraph hgraph hends
    have hne : arg.render ++ renderArgs args (renderCommands rest) ≠ [] := by
      obtain ⟨c, cs, hc, -⟩ := arg.exists_cons hquote
      simp [hc]
    rw [extractArgs]
    simp only [htrim, extractString_render arg hmore]
    rw [if_neg (not_or.mpr ⟨hne, take_two_render arg hmore⟩), if_neg fun h => hvalue h.1, ih]
    simp

/-- A command is extracted, up to the next one. -/
theorem extractCommand_render (hquote : ¬iswspace doubleQuote) (hdash : ¬iswspace dash)
    (text : CommandText iswspace) (rest : List (Gap iswspace × CommandText iswspace)) :
    extractCommand iswspace (text.render (renderCommands rest)) =
      (text.command, trim iswspace (renderCommands rest)) := by
  have hmore : StartsWithGap iswspace (renderArgs text.args (renderCommands rest)) :=
    startsWithGap_renderArgs text.args (startsWithGap_renderCommands rest)
  have hdrop : (text.render (renderCommands rest)).drop 2 =
      text.keyword ++ renderArgs text.args (renderCommands rest) := rfl
  have htake : (text.render (renderCommands rest)).take 2 = [dash, dash] := rfl
  rw [extractCommand, if_pos htake, hdrop]
  simp only [extractKeyword_tail text.graph hmore, extractArgs_render hquote hdash]
  rfl

theorem trim_trim_renderCommands (hquote : ¬iswspace doubleQuote) (hdash : ¬iswspace dash)
    (rest : List (Gap iswspace × CommandText iswspace)) :
    trim iswspace (trim iswspace (renderCommands rest)) = trim iswspace (renderCommands rest) := by
  rcases rest with _ | ⟨⟨gap, text⟩, rest⟩
  · rfl
  · have htrim := trim_gap_render hquote hdash
      (show ∀ c ∈ ([] : WString), iswspace c by simp) text rest
    rw [renderCommands, trim_gap_render hquote hdash gap.2.2]
    exact htrim

/-- The commands that follow are extracted, up to the end of the line. -/
theorem extractCommandsFrom_render (hquote : ¬iswspace doubleQuote) (hdash : ¬iswspace dash)
    (rest : List (Gap iswspace × CommandText iswspace)) (result : List Args) {value : WString}
    (hvalue : trim iswspace value = trim iswspace (renderCommands rest)) :
    extractCommandsFrom iswspace result value = (result ++ rest.map (·.2.command), []) := by
  induction rest generalizing result value with
  | nil =>
    have htrim : trim iswspace value = [] := hvalue
    rw [extractCommandsFrom]
    simp [htrim]
  | cons head rest ih =>
    obtain ⟨gap, text⟩ := head
    have htrim : trim iswspace value = text.render (renderCommands rest) :=
      hvalue.trans (trim_gap_render hquote hdash gap.2.2 text rest)
    have hne : text.render (renderCommands rest) ≠ [] := List.cons_ne_nil _ _
    have hcommand : text.command ≠ [] := List.cons_ne_nil _ _
    rw [extractCommandsFrom]
    simp only [htrim, extractCommand_render hquote hdash]
    rw [if_neg hne, if_neg fun h => hcommand h.1,
      ih _ (trim_trim_renderCommands hquote hdash rest)]
    simp

/-- **The parser inverts the rendering**: of a line of the form it returns the commands that are
written, and consumes it. -/
theorem extractCommands_render (hquote : ¬iswspace doubleQuote) (hdash : ¬iswspace dash)
    (line : LineText iswspace) : extractCommands iswspace line.render = (line.values, []) := by
  rw [extractCommands]
  rcases line with space | ⟨before, first, rest, after⟩
  · have htrim : trim iswspace space.1 = trim iswspace (renderCommands ([] : List (Gap iswspace ×
        CommandText iswspace))) := by
      rw [← List.append_nil space.1, trim_blank_append space.2]
      rfl
    exact extractCommandsFrom_render hquote hdash [] [] htrim
  · -- the first command is one that follows, were there white space before it
    have htrim : trim iswspace (LineText.commands before first rest after).render =
        first.render (renderCommands rest) := by
      rw [LineText.render, trim_append_blank _ after.2, trim_gap_render hquote hdash before.2]
    have hne : first.render (renderCommands rest) ≠ [] := List.cons_ne_nil _ _
    have hcommand : first.command ≠ [] := List.cons_ne_nil _ _
    rw [extractCommandsFrom]
    simp only [htrim, extractCommand_render hquote hdash]
    rw [if_neg hne, if_neg fun h => hcommand h.1, extractCommandsFrom_render hquote hdash rest _
      (trim_trim_renderCommands hquote hdash rest)]
    rfl

/-! ### Any line -/

/-- The loop over the arguments keeps those extracted before, unless it leaves some of the line. -/
theorem extractArgs_outcome (result : Args) (value : WString) :
    result <+: (extractArgs iswspace result value).1 ∨
      (extractArgs iswspace result value).1 = [] ∧ (extractArgs iswspace result value).2 ≠ [] := by
  induction result, value using extractArgs.induct iswspace with
  | case1 result value trimmed htrimmed =>
    rw [extractArgs, if_pos htrimmed]
    exact .inl (List.prefix_refl _)
  | case2 result value trimmed htrimmed arg rest harg =>
    rw [extractArgs, if_neg htrimmed, if_pos harg]
    exact .inr ⟨rfl, harg.2⟩
  | case3 result value trimmed htrimmed arg rest harg ih =>
    rw [extractArgs, if_neg htrimmed, if_neg harg]
    exact ih.imp_left (List.prefix_append result [arg]).trans

/-- A command without arguments, not even its keyword, is a syntax error. -/
theorem extractCommand_outcome (value : WString) :
    (extractCommand iswspace value).1 ≠ [] ∨
      (extractCommand iswspace value).1 = [] ∧ (extractCommand iswspace value).2 ≠ [] := by
  rw [extractCommand]
  refine (extractArgs_outcome _ _).imp_left fun hpre => ?_
  exact List.ne_nil_of_mem (hpre.subset List.mem_cons_self)

theorem extractCommandsFrom_outcome {result : List Args}
    (hresult : ∀ command ∈ result, command ≠ []) (value : WString) :
    ((extractCommandsFrom iswspace result value).2 = [] ∧
        ∀ command ∈ (extractCommandsFrom iswspace result value).1, command ≠ []) ∨
      (extractCommandsFrom iswspace result value).1 = [] ∧
        (extractCommandsFrom iswspace result value).2 ≠ [] := by
  induction result, value using extractCommandsFrom.induct iswspace with
  | case1 result value trimmed htrimmed =>
    rw [extractCommandsFrom, if_pos htrimmed]
    exact .inl ⟨htrimmed, hresult⟩
  | case2 result value trimmed htrimmed command rest hcommand =>
    rw [extractCommandsFrom, if_neg htrimmed, if_pos hcommand]
    exact .inr ⟨rfl, hcommand.2⟩
  | case3 result value trimmed htrimmed command rest hcommand ih =>
    rw [extractCommandsFrom, if_neg htrimmed, if_neg hcommand]
    refine ih fun x hx => ?_
    rcases List.mem_append.mp hx with hx | hx
    · exact hresult x hx
    · rw [List.mem_singleton.mp hx]
      exact (extractCommand_outcome trimmed).resolve_right fun h => hcommand h

/-- **Any line** is consumed and gives commands that are not empty, or gives no commands and is not
consumed. -/
theorem extractCommands_outcome (value : WString) :
    ((extractCommands iswspace value).2 = [] ∧
        ∀ command ∈ (extractCommands iswspace value).1, command ≠ []) ∨
      (extractCommands iswspace value).1 = [] ∧ (extractCommands iswspace value).2 ≠ [] :=
  extractCommandsFrom_outcome (by simp) value

/-! ### Lists that are printed -/

theorem LineText.values_ne_nil (line : LineText iswspace) :
    ∀ command ∈ line.values, ∀ arg ∈ command, arg ≠ [] := by
  have htext : ∀ text : CommandText iswspace, ∀ arg ∈ text.command, arg ≠ [] := by
    intro text arg harg
    rcases List.mem_cons.mp harg with rfl | harg
    · exact text.nonempty
    · obtain ⟨⟨gap, arg⟩, -, rfl⟩ := List.mem_map.mp harg
      rcases arg with ⟨value, nonempty, -⟩ | ⟨value, nonempty, -, -, -⟩ <;> exact nonempty
  intro command hcommand
  rcases line with space | ⟨before, first, rest, after⟩
  · simp [LineText.values] at hcommand
  · rcases List.mem_cons.mp hcommand with rfl | hcommand
    · exact htext first
    · obtain ⟨⟨gap, text⟩, -, rfl⟩ := List.mem_map.mp hcommand
      exact htext text

/-- A command with one quoted argument is not of the form if the argument is empty. -/
theorem not_exists_render_quotedCommand (hspace : iswspace space) (hquote : ¬iswspace doubleQuote)
    (hdash : ¬iswspace dash) {keyword : WString} (hgraph : ∀ c ∈ keyword, ¬iswspace c) :
    ¬∃ line : LineText iswspace, line.render = quotedCommand keyword [] := by
  rintro ⟨line, hline⟩
  have hparsed := extractCommands_render hquote hdash line
  rw [hline, extractCommands_quoted hspace hquote hdash hgraph (by simp)] at hparsed
  have hvalues : line.values = [[keyword, []]] := (Prod.mk.inj hparsed).1.symm
  exact line.values_ne_nil [keyword, []] (by simp [hvalues]) [] (by simp) rfl

/-- A command with one quoted argument is of the form, if the argument is not empty. -/
theorem exists_render_quotedCommand (hspace : iswspace space) {keyword path : WString}
    (hkeyword : keyword ≠ []) (hgraph : ∀ c ∈ keyword, ¬iswspace c) (hpath : path ≠ [])
    (hclosed : doubleQuote ∉ path) :
    ∃ line : LineText iswspace,
      line.render = quotedCommand keyword path ∧ line.values = [[keyword, path]] := by
  have hgap : ∀ c ∈ [space], iswspace c := by simpa using hspace
  refine ⟨.commands ⟨[], by simp⟩ ⟨keyword, hkeyword, hgraph,
    [(⟨[space], List.cons_ne_nil _ _, hgap⟩, .quoted path hpath hclosed)]⟩ [] ⟨[], by simp⟩,
    ?_, rfl⟩
  simp [LineText.render, CommandText.render, renderArgs, renderCommands, ArgText.render,
    quotedCommand]

/-- **The command line**: the parser inverts the rendering, reports every syntax error, and reads
the lists that the interpreter prints, as far as their paths are not empty. -/
theorem extractCommands_inverts (hspace : iswspace space)
    (hgraph : ∀ c, 0x21 ≤ c → c ≤ 0x7E → ¬iswspace c) :
    (∀ line : LineText iswspace, extractCommands iswspace line.render = (line.values, [])) ∧
      (∀ value : WString,
        ((extractCommands iswspace value).2 = [] ∧
            ∀ command ∈ (extractCommands iswspace value).1, command ≠ []) ∨
          (extractCommands iswspace value).1 = [] ∧ (extractCommands iswspace value).2 ≠ []) ∧
      (∀ device : WString, device ≠ [] → doubleQuote ∉ device → ∃ line : LineText iswspace,
        line.render = devListLine device ∧ line.values = [[devHideKeyword, device]]) ∧
      ∀ fileName : WString, fileName ≠ [] → doubleQuote ∉ fileName → ∃ line : LineText iswspace,
        line.render = appListLine fileName ∧ line.values = [[appRegKeyword, fileName]] := by
  have hquote : ¬iswspace doubleQuote := hgraph _ (by decide) (by decide)
  have hdash : ¬iswspace dash := hgraph _ (by decide) (by decide)
  have hprintable : ∀ keyword : WString,
      keyword.all (fun c => 0x21 ≤ c ∧ c ≤ 0x7E) = true → ∀ c ∈ keyword, ¬iswspace c := by
    intro keyword hall c hc
    obtain ⟨hlow, hhigh⟩ := of_decide_eq_true (List.all_eq_true.mp hall c hc)
    exact hgraph c hlow hhigh
  refine ⟨fun line => extractCommands_render hquote hdash line,
    fun value => extractCommands_outcome value, fun device hne hclosed => ?_,
    fun fileName hne hclosed => ?_⟩
  · exact exists_render_quotedCommand hspace (List.cons_ne_nil _ _)
      (hprintable devHideKeyword (by decide)) hne hclosed
  · exact exists_render_quotedCommand hspace (List.cons_ne_nil _ _)
      (hprintable appRegKeyword (by decide)) hne hclosed

end Syntax

theorem extractCommands_inverts_cLocale :
    extractCommands cLocaleSpace (devListLine [0x61]) = ([[devHideKeyword, [0x61]]], []) := by
  obtain ⟨hrender, -, hlist, -⟩ :=
    @extractCommands_inverts cLocaleSpace (by decide) fun _ hlow _ => not_cLocaleSpace hlow
  obtain ⟨line, hline, hvalues⟩ := hlist [0x61] (by decide) (by decide)
  rw [← hline, hrender, hvalues]

/-- The lines that are printed for an empty path are not of the form. -/
theorem emptyPath_not_rendered :
    (¬∃ line : LineText cLocaleSpace, line.render = devListLine []) ∧
      ¬∃ line : LineText cLocaleSpace, line.render = appListLine [] := by
  have hgraph : ∀ keyword : WString,
      keyword.all (fun c => !cLocaleSpace c) = true → ∀ c ∈ keyword, ¬cLocaleSpace c := by
    intro keyword hall c hc
    simpa using List.all_eq_true.mp hall c hc
  exact ⟨not_exists_render_quotedCommand (by decide) (by decide) (by decide)
      (hgraph devHideKeyword (by decide)),
    not_exists_render_quotedCommand (by decide) (by decide) (by decide)
      (hgraph appRegKeyword (by decide))⟩

end HidHide
