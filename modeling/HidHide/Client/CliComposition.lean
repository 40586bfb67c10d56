import HidHide.Client.CliSyntax

/-!
# Composition of command lines

Two command lines that are accepted are put one behind the other. The parser works on one line that
it shortens, and what it makes of a token does not depend on what follows the white space behind the
token, with one exception: an empty result is a syntax error unless the line is at its end, and an
empty argument in quotes is an empty result.

So the composed line is accepted, with the commands of both, if and only if the first line does not
end in an empty argument (`extractCommands_append_iff`).
-/

namespace HidHide

section Composition

variable {iswspace : WChar → Bool}

/-! ### Lines that end in an empty argument -/

/-- The line ends in a pair of quotes behind white space. -/
def EndsInEmptyQuotes (iswspace : WChar → Bool) (value : WString) : Prop :=
  ∃ c, iswspace c ∧ [c, doubleQuote, doubleQuote] <:+ value

theorem endsInEmptyQuotes_cons_iff {c : WChar} {value : WString} :
    EndsInEmptyQuotes iswspace (c :: value) ↔
      iswspace c ∧ value = [doubleQuote, doubleQuote] ∨ EndsInEmptyQuotes iswspace value := by
  simp only [EndsInEmptyQuotes, List.suffix_cons_iff, List.cons.injEq]
  constructor
  · rintro ⟨d, hd, ⟨rfl, rfl⟩ | hsuffix⟩
    · exact .inl ⟨hd, rfl⟩
    · exact .inr ⟨d, hd, hsuffix⟩
  · rintro (⟨hc, rfl⟩ | ⟨d, hd, hsuffix⟩)
    · exact ⟨c, hc, .inl ⟨rfl, rfl⟩⟩
    · exact ⟨d, hd, .inr hsuffix⟩

/-- A text without white space does not end so. -/
theorem not_endsInEmptyQuotes {value : WString} (h : ∀ c ∈ value, ¬iswspace c) :
    ¬EndsInEmptyQuotes iswspace value := by
  rintro ⟨c, hc, hsuffix⟩
  exact h c (hsuffix.subset List.mem_cons_self) hc

/-- Which white space is in front makes no difference. -/
theorem endsInEmptyQuotes_gap_iff {c d : WChar} (hc : iswspace c) (hd : iswspace d)
    {value : WString} :
    EndsInEmptyQuotes iswspace (c :: value) ↔ EndsInEmptyQuotes iswspace (d :: value) := by
  rw [endsInEmptyQuotes_cons_iff, endsInEmptyQuotes_cons_iff, and_iff_right hc, and_iff_right hd]

/-- The line ends as what follows its white space does. -/
theorem endsInEmptyQuotes_append_iff (hquote : ¬iswspace doubleQuote) (before : WString)
    {c : WChar} (hc : iswspace c) (value : WString) :
    EndsInEmptyQuotes iswspace (before ++ c :: value) ↔
      EndsInEmptyQuotes iswspace (c :: value) := by
  have hne : c ≠ doubleQuote := fun h => hquote (h ▸ hc)
  constructor
  · rintro ⟨d, hd, hsuffix⟩
    rcases List.suffix_or_suffix_of_suffix hsuffix (List.suffix_append before (c :: value)) with
      hshort | hlong
    · exact ⟨d, hd, hshort⟩
    · -- a suffix of the three characters that begins with white space is all of them
      rcases List.suffix_cons_iff.mp hlong with heq | hlong
      · exact ⟨d, hd, heq ▸ List.suffix_refl _⟩
      · have hmem := hlong.subset List.mem_cons_self
        simp [hne] at hmem
  · rintro ⟨d, hd, hsuffix⟩
    exact ⟨d, hd, hsuffix.trans (List.suffix_append _ _)⟩

/-- White space in front is trimmed. -/
theorem endsInEmptyQuotes_dropWhile_iff (hquote : ¬iswspace doubleQuote) {c : WChar}
    (hc : iswspace c) (value : WString) :
    EndsInEmptyQuotes iswspace (c :: value.dropWhile iswspace) ↔
      EndsInEmptyQuotes iswspace (c :: value) := by
  induction value with
  | nil => rfl
  | cons d value ih =>
    by_cases hd : iswspace d
    · rw [List.dropWhile_cons_of_pos hd, ih, endsInEmptyQuotes_gap_iff hc hd]
      exact (endsInEmptyQuotes_append_iff hquote [c] hd value).symm
    · rw [List.dropWhile_cons_of_neg hd]

/-! ### Tokens in front of a tail -/

theorem EndsInGraph.of_append {before value : WString}
    (h : EndsInGraph iswspace (before ++ value)) : EndsInGraph iswspace value := by
  intro d hd
  refine h d ?_
  rw [List.getLast?_append, Option.mem_def.mp hd]
  rfl

/-- What follows white space at the end of a line that does not end in it is not empty. -/
theorem EndsInGraph.ne_nil {before : WString} {c : WChar} {value : WString}
    (h : EndsInGraph iswspace (before ++ c :: value)) (hc : iswspace c) : value ≠ [] := by
  rintro rfl
  exact h c (by simp) hc

/-- A keyword is the whole line, or what precedes its first white space. -/
theorem extractKeyword_cases {value : WString} (hvalue : EndsInGraph iswspace value) :
    (∀ c ∈ value, ¬iswspace c) ∧ extractKeyword iswspace value = (value, []) ∨
      ∃ keyword c rest, value = keyword ++ c :: rest ∧ (∀ d ∈ keyword, ¬iswspace d) ∧
        iswspace c ∧ rest ≠ [] ∧ extractKeyword iswspace value = (keyword, rest) := by
  have hsplit := List.takeWhile_append_dropWhile (p := (!iswspace ·)) (l := value)
  have hkeyword : ∀ d ∈ value.takeWhile (!iswspace ·), ¬iswspace d := fun d hd => by
    simpa using List.mem_takeWhile_imp hd
  rcases hrest : value.dropWhile (!iswspace ·) with _ | ⟨c, rest⟩
  · rw [hrest, List.append_nil] at hsplit
    refine .inl ⟨hsplit ▸ hkeyword, ?_⟩
    rw [extractKeyword, hrest, hsplit, List.drop_nil]
  · rw [hrest] at hsplit
    have hc : iswspace c := by
      have hhead := List.head?_dropWhile_not (!iswspace ·) value
      rw [hrest] at hhead
      simpa using hhead
    refine .inr ⟨_, c, rest, hsplit.symm, hkeyword, hc, ?_, ?_⟩
    · exact EndsInGraph.ne_nil (hsplit ▸ hvalue) hc
    · rw [extractKeyword, hrest, List.drop_one, List.tail_cons]

theorem EndsInGraph.dropWhile {value : WString} (h : EndsInGraph iswspace value) :
    EndsInGraph iswspace (value.dropWhile iswspace) := by
  rw [← List.takeWhile_append_dropWhile (p := iswspace) (l := value)] at h
  exact h.of_append

/-- **What is extracted as an argument**, if it is no syntax error, is a token at the end of the
line or in front of white space. -/
theorem extractString_cases {c : WChar} {value : WString} (hc : ¬iswspace c)
    (hvalue : EndsInGraph iswspace (c :: value)) :
    extractString iswspace (c :: value) = ([], c :: value) ∨ ∃ token arg,
      IsToken iswspace token arg ∧
        (c :: value = token ∧ extractString iswspace (c :: value) = (arg, []) ∨
          ∃ d rest, c :: value = token ++ d :: rest ∧ iswspace d ∧ rest ≠ [] ∧
            extractString iswspace (c :: value) = (arg, rest)) := by
  by_cases hquoted : c = doubleQuote
  · obtain rfl := hquoted
    have hsplit := List.takeWhile_append_dropWhile (p := (· ≠ doubleQuote)) (l := value)
    have hclosed : doubleQuote ∉ value.takeWhile (· ≠ doubleQuote) := fun hmem => by
      simpa using List.mem_takeWhile_imp hmem
    rw [extractString, if_pos rfl]
    rcases hrest : value.dropWhile (· ≠ doubleQuote) with _ | ⟨close, rest⟩
    · exact .inl rfl
    obtain rfl : close = doubleQuote := by
      have hhead := List.head?_dropWhile_not (· ≠ doubleQuote) value
      rw [hrest] at hhead
      simpa using hhead
    rw [hrest] at hsplit
    have htoken : IsToken iswspace _ _ := .quoted _ hclosed
    cases rest with
    | nil =>
      refine .inr ⟨_, _, htoken, .inl ⟨?_, rfl⟩⟩
      rw [List.cons_append, hsplit]
    | cons next rest =>
      dsimp only
      split_ifs with hnext
      · have hline : doubleQuote :: value = doubleQuote :: value.takeWhile (· ≠ doubleQuote) ++
            [doubleQuote] ++ next :: rest := by
          rw [List.cons_append, List.cons_append, List.append_assoc, List.singleton_append, hsplit]
        exact .inr ⟨_, _, htoken, .inr ⟨next, rest, hline, hnext,
          EndsInGraph.ne_nil (hline ▸ hvalue) hnext, rfl⟩⟩
      · exact .inl rfl
  · rw [extractString, if_neg hquoted]
    have hbare : ∀ keyword : WString, keyword.head? = some c → (∀ d ∈ keyword, ¬iswspace d) →
        IsToken iswspace keyword keyword := fun keyword hhead hgraph =>
      .bare keyword (by rintro rfl; simp at hhead) hgraph (by simpa [hhead] using hquoted)
    rcases extractKeyword_cases hvalue with
      ⟨hgraph, heq⟩ | ⟨keyword, d, rest, hline, hgraph, hd, hne, heq⟩
    · exact .inr ⟨_, _, hbare _ rfl hgraph, .inl ⟨rfl, heq⟩⟩
    · -- the keyword is not empty, as the line does not begin with white space
      have hhead : keyword.head? = some c := by
        cases keyword with
        | nil => exact absurd (List.cons.inj hline).1 fun h => hc (h ▸ hd)
        | cons e keyword => rw [List.head?_cons, (List.cons.inj hline).1]
      exact .inr ⟨_, _, hbare _ hhead hgraph, .inr ⟨d, rest, hline, hd, hne, heq⟩⟩

/-- Only the token of an empty argument ends in a pair of quotes behind white space. -/
theorem IsToken.endsInEmptyQuotes_iff {token value : WString} (h : IsToken iswspace token value)
    {c : WChar} (hc : iswspace c) :
    EndsInEmptyQuotes iswspace (c :: token) ↔ value = [] := by
  cases h with
  | quoted value closed =>
    constructor
    · rintro ⟨d, -, hsuffix⟩
      rcases List.eq_nil_or_concat value with rfl | ⟨before, last, rfl⟩
      · rfl
      · -- the last character of the value would be a quote
        rw [← List.reverse_prefix] at hsuffix
        have hlast : doubleQuote = last := by
          have hpre : [doubleQuote, doubleQuote, d] <+: doubleQuote :: last ::
              (before.reverse ++ [doubleQuote, c]) := by
            simpa using hsuffix
          exact (List.cons_prefix_cons.mp (List.cons_prefix_cons.mp hpre).2).1
        exact absurd (by simp [hlast]) closed
    · rintro rfl
      exact ⟨c, hc, List.suffix_refl _⟩
  | bare _ nonempty graph notQuoted =>
    refine iff_of_false ?_ nonempty
    rw [endsInEmptyQuotes_cons_iff, not_or, not_and]
    refine ⟨fun _ htoken => ?_, not_endsInEmptyQuotes graph⟩
    rw [htoken] at notQuoted
    exact notQuoted rfl

/-- A token that does not begin with two dashes does not begin with them in front of white space. -/
theorem take_two_append {token tail : WString} (hne : token ≠ []) (hdash : ¬iswspace dash)
    (htail : StartsWithGap iswspace tail) :
    (token ++ tail).take 2 = [dash, dash] ↔ token.take 2 = [dash, dash] := by
  rcases token with _ | ⟨c, _ | ⟨d, token⟩⟩
  · exact absurd rfl hne
  · refine iff_of_false (fun h => ?_) (by simp)
    rcases tail with _ | ⟨d, tail⟩
    · simp at h
    · obtain ⟨-, rfl⟩ : c = dash ∧ d = dash := by simpa using h
      exact hdash (htail dash rfl)
  · simp

/-! ### The loops in front of a tail -/

section Tail

variable {gap b : WString} (hquote : ¬iswspace doubleQuote) (hdash : ¬iswspace dash)
  (hgap : gap ≠ []) (hblank : ∀ c ∈ gap, iswspace c) (hb : EndsInGraph iswspace b)
  (hdashes : b.take 2 = [dash, dash])

include hdashes in
theorem ne_nil_of_dashes : b ≠ [] := by
  rintro rfl
  simp at hdashes

include hgap hblank in
theorem startsWithGap_tail (b : WString) : StartsWithGap iswspace (gap ++ b) :=
  startsWithGap_gap ⟨gap, hgap, hblank⟩ b

/-- A line that does not end in white space is trimmed in front only. -/
theorem trim_eq_dropWhile {value : WString} (hvalue : EndsInGraph iswspace value) :
    trim iswspace value = value.dropWhile iswspace := by
  rw [trim, List.rdropWhile_eq_self_iff]
  intro hne
  have hends : EndsInGraph iswspace (value.takeWhile iswspace ++ value.dropWhile iswspace) := by
    rwa [List.takeWhile_append_dropWhile]
  exact hends.of_append _ (List.getLast?_eq_some_getLast hne)

include hb hdash hdashes in
/-- White space in front of the second line is trimmed. -/
theorem trim_blank_dashes {blank : WString} (h : ∀ c ∈ blank, iswspace c) :
    trim iswspace (blank ++ b) = b := by
  obtain ⟨rest, rfl⟩ : ∃ rest, b = dash :: rest := by
    rcases b with _ | ⟨c, b⟩
    · simp at hdashes
    · exact ⟨b, by rw [(List.cons.inj hdashes).1]⟩
  rw [trim_blank_append h, trim_eq_dropWhile hb, List.dropWhile_cons_of_neg hdash]

include hb hdashes in
/-- The first line is trimmed in front of the tail as it is alone. -/
theorem trim_append_tail (gap : WString) {value : WString} (hvalue : EndsInGraph iswspace value)
    (hne : value ≠ []) :
    trim iswspace (value ++ (gap ++ b)) = trim iswspace value ++ (gap ++ b) ∧
      trim iswspace value ≠ [] := by
  have hends : EndsInGraph iswspace (value ++ (gap ++ b)) := by
    rw [← List.append_assoc]
    exact hb.append _ (ne_nil_of_dashes hdashes)
  have hgraph : value.dropWhile iswspace ≠ [] := by
    rw [ne_eq, List.dropWhile_eq_nil_iff]
    exact fun h => hvalue _ (List.getLast?_eq_some_getLast hne) (h _ (List.getLast_mem hne))
  rw [trim_eq_dropWhile hends, trim_eq_dropWhile hvalue, List.dropWhile_append,
    if_neg (by simpa using hgraph)]
  exact ⟨rfl, hgraph⟩

include hb hdash hdashes in
/-- The loop over the arguments ends at the second line. -/
theorem extractArgs_blank_dashes (result : Args) {blank : WString} (h : ∀ c ∈ blank, iswspace c) :
    extractArgs iswspace result (blank ++ b) = (result, b) := by
  have htrim := trim_blank_dashes hdash hb hdashes h
  rw [extractArgs]
  simp only [htrim]
  rw [if_pos (.inr hdashes)]

/-- The loop over the arguments in front of the tail: where it ends at a command of the first line,
it does so in front of the tail; where it ends at the end of that line, it ends at the second line,
unless the last argument is empty. -/
structure ArgsInFront (iswspace : WChar → Bool) (gap b : WString) (alone inFront : Args × WString)
    (emptyLast : Prop) : Prop where
  within : alone.2 ≠ [] → inFront = (alone.1, alone.2 ++ (gap ++ b)) ∧
    (emptyLast ↔ EndsInEmptyQuotes iswspace alone.2) ∧ EndsInGraph iswspace alone.2 ∧
    alone.2.take 2 = [dash, dash]
  atEnd : alone.2 = [] → ¬emptyLast → inFront = (alone.1, b)
  error : alone.2 = [] → emptyLast → inFront.1 = [] ∧ inFront.2 ≠ []

include hdash hblank hb hdashes in
/-- Behind the first line there is white space only, up to the second one. -/
theorem argsInFront_nil (result : Args) {c : WChar} :
    ArgsInFront iswspace gap b (extractArgs iswspace result [])
      (extractArgs iswspace result (gap ++ b)) (EndsInEmptyQuotes iswspace [c]) := by
  rw [extractArgs_nil, extractArgs_blank_dashes hdash hb hdashes result hblank]
  have hnot : ¬EndsInEmptyQuotes iswspace [c] := by
    rintro ⟨d, -, hsuffix⟩
    simpa using hsuffix.length_le
  exact ⟨fun h => absurd rfl h, fun _ _ => rfl, fun _ h => absurd h hnot⟩

include hquote hdash hgap hblank hb hdashes in
/-- A command of the first line ends the loop, with the tail or without. -/
theorem argsInFront_command (result : Args) {c : WChar} {value : WString} (hc : iswspace c)
    (hvalue : EndsInGraph iswspace value) (hne : value ≠ [])
    (hstart : (trim iswspace value).take 2 = [dash, dash]) :
    ArgsInFront iswspace gap b (extractArgs iswspace result value)
      (extractArgs iswspace result (value ++ (gap ++ b)))
      (EndsInEmptyQuotes iswspace (c :: value)) := by
  obtain ⟨htrim, hgraph⟩ := trim_append_tail hb hdashes gap hvalue hne
  have htail := startsWithGap_tail hgap hblank b
  have halone : extractArgs iswspace result value = (result, trim iswspace value) := by
    rw [extractArgs]
    simp only
    rw [if_pos (.inr hstart)]
  have hinFront : extractArgs iswspace result (value ++ (gap ++ b)) =
      (result, trim iswspace value ++ (gap ++ b)) := by
    rw [extractArgs]
    simp only [htrim]
    rw [if_pos (.inr ((take_two_append hgraph hdash htail).mpr hstart))]
  rw [halone, hinFront]
  refine ⟨fun _ => ⟨rfl, ?_, ?_, hstart⟩, fun h => absurd h hgraph, fun h => absurd h hgraph⟩
  · rw [← endsInEmptyQuotes_dropWhile_iff hquote hc, ← trim_eq_dropWhile hvalue,
      endsInEmptyQuotes_cons_iff, or_iff_right]
    rintro ⟨-, hquotes⟩
    rw [hquotes] at hstart
    exact absurd hstart (by decide)
  · rw [trim_eq_dropWhile hvalue]
    exact hvalue.dropWhile

include hdash hgap hblank hb hdashes in
/-- An argument in front of the tail is taken as any other is. -/
theorem extractArgs_append_argument (result : Args) {value : WString}
    (hvalue : EndsInGraph iswspace value) (hne : value ≠ [])
    (hstart : (trim iswspace value).take 2 ≠ [dash, dash]) :
    extractArgs iswspace result (value ++ (gap ++ b)) =
      if (extractString iswspace (trim iswspace value ++ (gap ++ b))).1 = [] ∧
          (extractString iswspace (trim iswspace value ++ (gap ++ b))).2 ≠ [] then
        ([], (extractString iswspace (trim iswspace value ++ (gap ++ b))).2)
      else extractArgs iswspace
        (result ++ [(extractString iswspace (trim iswspace value ++ (gap ++ b))).1])
        (extractString iswspace (trim iswspace value ++ (gap ++ b))).2 := by
  obtain ⟨htrim, hgraph⟩ := trim_append_tail hb hdashes gap hvalue hne
  have htail := startsWithGap_tail hgap hblank b
  rw [extractArgs]
  simp only [htrim]
  rw [if_neg]
  rw [take_two_append hgraph hdash htail]
  exact not_or.mpr ⟨List.append_ne_nil_of_left_ne_nil hgraph _, hstart⟩

include hquote hdash hgap hblank hb hdashes in
theorem extractArgs_inFront (result : Args) (value : WString) :
    ∀ c, iswspace c → EndsInGraph iswspace value → (extractArgs iswspace result value).1 ≠ [] →
      ArgsInFront iswspace gap b (extractArgs iswspace result value)
        (extractArgs iswspace result (value ++ (gap ++ b)))
        (EndsInEmptyQuotes iswspace (c :: value)) := by
  have htail := startsWithGap_tail hgap hblank b
  have hdrop : ∃ blank, (∀ c ∈ blank, iswspace c) ∧ (gap ++ b).drop 1 = blank ++ b :=
    drop_gap ⟨gap, hgap, hblank⟩ b
  induction result, value using extractArgs.induct iswspace with
  | case1 result value trimmed htrimmed =>
    intro c hc hvalue _
    rcases eq_or_ne value [] with rfl | hne
    · exact argsInFront_nil hdash hblank hb hdashes result
    · have hgraph := (trim_append_tail hb hdashes gap hvalue hne).2
      exact argsInFront_command hquote hdash hgap hblank hb hdashes result hc hvalue hne
        (htrimmed.resolve_left hgraph)
  | case2 result value trimmed htrimmed arg rest harg =>
    intro c _ _ haccepted
    rw [extractArgs, if_neg htrimmed, if_pos harg] at haccepted
    exact absurd rfl haccepted
  | case3 result value trimmed htrimmed arg rest harg ih =>
    intro c hc hvalue haccepted
    obtain ⟨htrimmedNe, hstart⟩ := not_or.mp htrimmed
    have hne : value ≠ [] := by
      rintro rfl
      exact htrimmedNe rfl
    have hdropWhile : trimmed = value.dropWhile iswspace := trim_eq_dropWhile hvalue
    have hends : EndsInGraph iswspace trimmed := hdropWhile ▸ hvalue.dropWhile
    have hempty : EndsInEmptyQuotes iswspace (c :: value) ↔
        EndsInEmptyQuotes iswspace (c :: trimmed) := by
      rw [hdropWhile, endsInEmptyQuotes_dropWhile_iff hquote hc]
    have hinFront := extractArgs_append_argument hdash hgap hblank hb hdashes result hvalue hne
      hstart
    rw [show trim iswspace value = trimmed from rfl] at hinFront
    have halone : extractArgs iswspace result value =
        extractArgs iswspace (result ++ [arg]) rest := by
      rw [extractArgs, if_neg htrimmed, if_neg harg]
    obtain ⟨head, tail, hcons⟩ := List.exists_cons_of_ne_nil htrimmedNe
    have hhead : ¬iswspace head := by
      have hfirst := List.head?_dropWhile_not iswspace value
      rw [← hdropWhile, hcons] at hfirst
      simpa using hfirst
    have hcases := extractString_cases hhead (hcons ▸ hends)
    rw [← hcons] at hcases
    rcases hcases with herror | ⟨token, value, htoken, hplace⟩
    · refine absurd ⟨congrArg Prod.fst herror, fun h => htrimmedNe ?_⟩ harg
      exact (congrArg Prod.snd herror).symm.trans h
    rcases hplace with ⟨hline, heq⟩ | ⟨d, more, hline, hd, hmore, heq⟩
    · -- the last argument
      have harg' : arg = value := congrArg Prod.fst heq
      have hrest' : rest = [] := congrArg Prod.snd heq
      obtain ⟨blank, hblank', hdrop⟩ := hdrop
      rw [hline, htoken.extractString_eq htail, hdrop] at hinFront
      rw [halone, harg', hrest', extractArgs_nil, hinFront, hempty, hline,
        htoken.endsInEmptyQuotes_iff hc]
      refine ⟨fun h => absurd rfl h, fun _ hvalue => ?_, fun _ hvalue => ?_⟩
      · rw [if_neg fun h => hvalue h.1, extractArgs_blank_dashes hdash hb hdashes _ hblank']
      · have hne : blank ++ b ≠ [] :=
          List.append_ne_nil_of_right_ne_nil _ (ne_nil_of_dashes hdashes)
        rw [if_pos ⟨hvalue, hne⟩]
        exact ⟨rfl, hne⟩
    · -- an argument in front of others
      have harg' : arg = value := congrArg Prod.fst heq
      have hrest' : rest = more := congrArg Prod.snd heq
      have hvalueNe : value ≠ [] := fun h => harg ⟨harg'.trans h, hrest' ▸ hmore⟩
      have hgapTail : StartsWithGap iswspace (d :: (more ++ (gap ++ b))) := fun e he => by
        obtain rfl : d = e := by simpa using he
        exact hd
      have hstring : extractString iswspace (trimmed ++ (gap ++ b)) =
          (value, more ++ (gap ++ b)) := by
        rw [hline, List.append_assoc, List.cons_append, htoken.extractString_eq hgapTail]
        rfl
      rw [hstring, if_neg fun h => hvalueNe h.1] at hinFront
      have hmoreEnds : EndsInGraph iswspace more := by
        have hsplit : EndsInGraph iswspace (token ++ [d] ++ more) := by
          rwa [List.append_assoc, List.singleton_append, ← hline]
        exact hsplit.of_append
      have hlast : EndsInEmptyQuotes iswspace (c :: trimmed) ↔
          EndsInEmptyQuotes iswspace (d :: more) := by
        rw [hline, ← List.cons_append, endsInEmptyQuotes_append_iff hquote _ hd]
      rw [halone] at haccepted
      rw [halone, hinFront, hempty, hlast, ← harg', ← hrest']
      rw [← hrest'] at hmoreEnds
      exact ih d hd hmoreEnds haccepted

include hquote hdash hgap hblank hb hdashes in
/-- A command in front of the tail. -/
theorem extractCommand_inFront {value : WString} (hvalue : EndsInGraph iswspace value)
    (hne : value ≠ []) (haccepted : (extractCommand iswspace value).1 ≠ []) :
    ArgsInFront iswspace gap b (extractCommand iswspace value)
      (extractCommand iswspace (value ++ (gap ++ b))) (EndsInEmptyQuotes iswspace value) := by
  have htail := startsWithGap_tail hgap hblank b
  obtain ⟨blank, hblank', hdrop⟩ : ∃ blank, (∀ c ∈ blank, iswspace c) ∧
      (gap ++ b).drop 1 = blank ++ b := drop_gap ⟨gap, hgap, hblank⟩ b
  -- past the dashes, if there are any
  obtain ⟨dashes, line, hline, hdashes', halone, hinFront⟩ : ∃ dashes line, value = dashes ++ line ∧
      (∀ c ∈ dashes, ¬iswspace c) ∧ extractCommand iswspace value =
        extractArgs iswspace [(extractKeyword iswspace line).1] (extractKeyword iswspace line).2 ∧
      extractCommand iswspace (value ++ (gap ++ b)) =
        extractArgs iswspace [(extractKeyword iswspace (line ++ (gap ++ b))).1]
          (extractKeyword iswspace (line ++ (gap ++ b))).2 := by
    by_cases hstart : value.take 2 = [dash, dash]
    · have hlength : 2 ≤ value.length := by
        have hlen := congrArg List.length hstart
        rw [List.length_take] at hlen
        exact inf_eq_left.mp hlen
      refine ⟨[dash, dash], value.drop 2, ?_, by simpa using hdash, ?_, ?_⟩
      · rw [← hstart, List.take_append_drop]
      · rw [extractCommand, if_pos hstart]
      · rw [extractCommand, if_pos ((take_two_append hne hdash htail).mpr hstart),
          List.drop_append_of_le_length hlength]
    · refine ⟨[], value, rfl, by simp, ?_, ?_⟩
      · rw [extractCommand, if_neg hstart]
      · rw [extractCommand, if_neg (mt (take_two_append hne hdash htail).mp hstart)]
  rcases extractKeyword_cases (hline ▸ hvalue).of_append with ⟨hgraph, heq⟩ |
    ⟨keyword, c, rest, hsplit, hgraph, hc, -, heq⟩
  · have hnot : ¬EndsInEmptyQuotes iswspace value := by
      refine not_endsInEmptyQuotes fun c hc => ?_
      rw [hline] at hc
      exact (List.mem_append.mp hc).elim (hdashes' c) (hgraph c)
    rw [halone, hinFront, heq, extractKeyword_tail hgraph htail, hdrop, extractArgs_nil,
      extractArgs_blank_dashes hdash hb hdashes _ hblank']
    exact ⟨fun h => absurd rfl h, fun _ _ => rfl, fun _ h => absurd h hnot⟩
  · have htailEq : extractKeyword iswspace (line ++ (gap ++ b)) =
        (keyword, rest ++ (gap ++ b)) := by
      rw [hsplit, List.append_assoc, List.cons_append, extractKeyword_append hgraph hc]
    have hrest : EndsInGraph iswspace rest := by
      have hends : EndsInGraph iswspace (dashes ++ keyword ++ [c] ++ rest) := by
        simpa [hline, hsplit] using hvalue
      exact hends.of_append
    have hlast : EndsInEmptyQuotes iswspace value ↔ EndsInEmptyQuotes iswspace (c :: rest) := by
      rw [hline, hsplit, ← List.append_assoc, endsInEmptyQuotes_append_iff hquote _ hc]
    rw [halone, heq] at haccepted
    rw [halone, hinFront, heq, htailEq, hlast]
    exact extractArgs_inFront hquote hdash hgap hblank hb hdashes [keyword] rest c hc hrest
      haccepted

include hquote hdash hgap hblank hb hdashes in
/-- **The commands in front of the tail**: the loop goes on with the second line, unless the first
ends in an empty argument. -/
theorem extractCommandsFrom_inFront (result : List Args) (value : WString) :
    EndsInGraph iswspace value → value ≠ [] → trim iswspace value = value →
      (extractCommandsFrom iswspace result value).2 = [] →
      (¬EndsInEmptyQuotes iswspace value →
        extractCommandsFrom iswspace result (value ++ (gap ++ b)) =
          extractCommandsFrom iswspace (extractCommandsFrom iswspace result value).1 b) ∧
      (EndsInEmptyQuotes iswspace value →
        (extractCommandsFrom iswspace result (value ++ (gap ++ b))).2 ≠ []) := by
  induction result, value using extractCommandsFrom.induct iswspace with
  | case1 result value trimmed htrimmed =>
    intro _ hne htrim
    exact absurd (htrim.symm.trans htrimmed) hne
  | case2 result value trimmed htrimmed command rest hcommand =>
    intro _ _ _ hconsumed
    rw [extractCommandsFrom, if_neg htrimmed, if_pos hcommand] at hconsumed
    exact absurd hconsumed hcommand.2
  | case3 result value trimmed htrimmed command rest hcommand ih =>
    intro hvalue hne htrim hconsumed
    have halone : extractCommandsFrom iswspace result value =
        extractCommandsFrom iswspace (result ++ [command]) rest := by
      rw [extractCommandsFrom, if_neg htrimmed, if_neg hcommand]
    have htrimTail : trim iswspace (value ++ (gap ++ b)) = value ++ (gap ++ b) := by
      rw [(trim_append_tail hb hdashes gap hvalue hne).1, htrim]
    have hinFront : extractCommandsFrom iswspace result (value ++ (gap ++ b)) =
        if (extractCommand iswspace (value ++ (gap ++ b))).1 = [] ∧
            (extractCommand iswspace (value ++ (gap ++ b))).2 ≠ [] then
          ([], (extractCommand iswspace (value ++ (gap ++ b))).2)
        else extractCommandsFrom iswspace
          (result ++ [(extractCommand iswspace (value ++ (gap ++ b))).1])
          (extractCommand iswspace (value ++ (gap ++ b))).2 := by
      rw [extractCommandsFrom]
      simp only [htrimTail]
      rw [if_neg (List.append_ne_nil_of_left_ne_nil hne _)]
    have hpair : extractCommand iswspace value = (command, rest) := by
      rw [← htrim]
    have hcommandNe : command ≠ [] := by
      rcases @extractCommand_outcome iswspace value with h | h
      · rwa [hpair] at h
      · rw [hpair] at h
        exact absurd h hcommand
    have hargs := extractCommand_inFront hquote hdash hgap hblank hb hdashes hvalue hne
      (by rwa [hpair])
    rw [hpair] at hargs
    rcases eq_or_ne rest [] with hrest | hrest
    · rw [halone, hinFront, hrest, extractCommandsFrom_nil]
      refine ⟨fun hlast => ?_, fun hlast => ?_⟩
      · rw [hargs.atEnd hrest hlast, if_neg fun h => hcommandNe h.1]
      · have herror := hargs.error hrest hlast
        rw [if_pos herror]
        exact herror.2
    · obtain ⟨hline, hlast, hends, hstart⟩ := hargs.within hrest
      rw [halone] at hconsumed
      rw [halone, hinFront, hline, if_neg fun h => hcommandNe h.1, hlast]
      -- what is left begins with the dashes of the next command
      have hnone : ∀ c ∈ ([] : WString), iswspace c := by simp
      have htrimRest : trim iswspace rest = rest := trim_blank_dashes hdash hends hstart hnone
      exact ih hends hrest htrimRest hconsumed

end Tail

/-! ### The composed line -/

/-- Only the trimmed line counts. -/
theorem extractCommandsFrom_congr (result : List Args) {value line : WString}
    (htrim : trim iswspace value = trim iswspace line) :
    extractCommandsFrom iswspace result value = extractCommandsFrom iswspace result line := by
  rw [extractCommandsFrom, extractCommandsFrom]
  simp only [htrim]

/-- The commands that are extracted are put behind those extracted before. -/
theorem extractCommandsFrom_append (before result : List Args) (value : WString) :
    (extractCommandsFrom iswspace result value).2 = [] →
      extractCommandsFrom iswspace (before ++ result) value =
        (before ++ (extractCommandsFrom iswspace result value).1, []) := by
  induction result, value using extractCommandsFrom.induct iswspace with
  | case1 result value trimmed htrimmed =>
    intro _
    rw [extractCommandsFrom, if_pos htrimmed, extractCommandsFrom, if_pos htrimmed]
    exact Prod.ext rfl htrimmed
  | case2 result value trimmed htrimmed command rest hcommand =>
    intro hconsumed
    rw [extractCommandsFrom, if_neg htrimmed, if_pos hcommand] at hconsumed
    exact absurd hconsumed hcommand.2
  | case3 result value trimmed htrimmed command rest hcommand ih =>
    have hstep : ∀ before, extractCommandsFrom iswspace before value =
        extractCommandsFrom iswspace (before ++ [command]) rest := fun before => by
      rw [extractCommandsFrom, if_neg htrimmed, if_neg hcommand]
    intro hconsumed
    rw [hstep] at hconsumed
    rw [hstep, hstep, List.append_assoc]
    exact ih hconsumed

/-- A line is what is trimmed of it between white space. -/
theorem exists_trim (iswspace : WChar → Bool) (value : WString) :
    ∃ before after, value = before ++ (trim iswspace value ++ after) ∧
      (∀ c ∈ before, iswspace c) ∧ ∀ c ∈ after, iswspace c := by
  refine ⟨value.takeWhile iswspace, (value.dropWhile iswspace).rtakeWhile iswspace, ?_,
    fun c => List.mem_takeWhile_imp, fun c hc => List.mem_rtakeWhile_imp hc⟩
  rw [trim, List.rdropWhile_append_rtakeWhile, List.takeWhile_append_dropWhile]

theorem endsInGraph_trim (value : WString) : EndsInGraph iswspace (trim iswspace value) := by
  intro d hd
  obtain ⟨hne, rfl⟩ := List.mem_getLast?_eq_getLast hd
  exact List.rdropWhile_last_not _ _ hne

/-- What is trimmed is not trimmed further. -/
theorem trim_trim (value : WString) :
    trim iswspace (trim iswspace value) = trim iswspace value := by
  obtain ⟨before, after, hsplit, hbefore, hafter⟩ := exists_trim iswspace value
  conv_rhs => rw [hsplit, trim_blank_append hbefore, trim_append_blank _ hafter]

/-- The dashes in front of a line are not trimmed. -/
theorem take_two_trim (hdash : ¬iswspace dash) {value : WString}
    (hstart : value.take 2 = [dash, dash]) : (trim iswspace value).take 2 = [dash, dash] := by
  obtain ⟨rest, rfl⟩ : ∃ rest, value = dash :: dash :: rest := by
    rcases value with _ | ⟨c, _ | ⟨d, rest⟩⟩
    · simp at hstart
    · simp at hstart
    · obtain ⟨rfl, rfl⟩ : c = dash ∧ d = dash := by simpa using hstart
      exact ⟨rest, rfl⟩
  have hfront : trim iswspace (dash :: dash :: rest) =
      (dash :: dash :: rest).rdropWhile iswspace := by
    rw [trim, List.dropWhile_cons_of_neg hdash]
  obtain ⟨after, hafter, hblank⟩ : ∃ after,
      trim iswspace (dash :: dash :: rest) ++ after = dash :: dash :: rest ∧
        ∀ c ∈ after, iswspace c :=
    ⟨_, hfront ▸ List.rdropWhile_append_rtakeWhile, fun c hc => List.mem_rtakeWhile_imp hc⟩
  have hgap : StartsWithGap iswspace after := fun c hc => hblank c (List.mem_of_mem_head? hc)
  have hne : trim iswspace (dash :: dash :: rest) ≠ [] := by
    intro hnil
    rw [hnil, List.nil_append] at hafter
    exact hdash (hblank dash (by simp [hafter]))
  rw [← take_two_append hne hdash hgap, hafter]
  rfl

/-- The composed line is accepted with the commands of both, unless the first ends in an empty
argument: then it is rejected. -/
theorem extractCommands_append (hspace : iswspace space) (hquote : ¬iswspace doubleQuote)
    (hdash : ¬iswspace dash) {a b : WString} {A B : List Args}
    (ha : extractCommands iswspace a = (A, [])) (hb : extractCommands iswspace b = (B, []))
    (hstart : b.take 2 = [dash, dash]) :
    (¬EndsInEmptyQuotes iswspace (trim iswspace a) →
      extractCommands iswspace (a ++ space :: b) = (A ++ B, [])) ∧
    (EndsInEmptyQuotes iswspace (trim iswspace a) →
      (extractCommands iswspace (a ++ space :: b)).2 ≠ []) := by
  obtain ⟨before, afterA, hsplitA, hbefore, hafterA⟩ := exists_trim iswspace a
  obtain ⟨beforeB, after, hsplitB, hbeforeB, hafter⟩ := exists_trim iswspace b
  set gap := afterA ++ space :: beforeB with hgapEq
  have hgap : gap ≠ [] := by simp [hgapEq]
  have hblank : ∀ c ∈ gap, iswspace c := by
    intro c hc
    rcases List.mem_append.mp hc with hc | hc
    · exact hafterA c hc
    · rcases List.mem_cons.mp hc with rfl | hc
      · exact hspace
      · exact hbeforeB c hc
  have hdashes : (trim iswspace b).take 2 = [dash, dash] := take_two_trim hdash hstart
  have hline : trim iswspace (a ++ space :: b) =
      trim iswspace (trim iswspace a ++ (gap ++ trim iswspace b)) := by
    have hsplit : a ++ space :: b =
        before ++ ((trim iswspace a ++ (gap ++ trim iswspace b)) ++ after) := by
      conv_lhs => rw [hsplitA, hsplitB]
      simp [hgapEq]
    rw [hsplit, trim_blank_append hbefore, trim_append_blank _ hafter]
  have haTrim : extractCommandsFrom iswspace [] (trim iswspace a) = (A, []) :=
    (extractCommandsFrom_congr [] (trim_trim a)).trans ha
  have hbTrim : extractCommandsFrom iswspace [] (trim iswspace b) = (B, []) :=
    (extractCommandsFrom_congr [] (trim_trim b)).trans hb
  -- behind the commands of the first line those of the second are extracted
  have happend : extractCommandsFrom iswspace A (trim iswspace b) = (A ++ B, []) := by
    have hcommands := extractCommandsFrom_append A [] (trim iswspace b) (by rw [hbTrim])
    rwa [List.append_nil, hbTrim] at hcommands
  rw [extractCommands, extractCommandsFrom_congr [] hline]
  rcases eq_or_ne (trim iswspace a) [] with hnil | hne
  · rw [hnil, extractCommandsFrom_nil] at haTrim
    obtain rfl : [] = A := congrArg Prod.fst haTrim
    rw [hnil, List.nil_append]
    refine ⟨fun _ => ?_, fun hlast => absurd hlast (not_endsInEmptyQuotes (by simp))⟩
    rw [extractCommandsFrom_congr [] (trim_blank_append hblank _), happend]
  · obtain ⟨haccepted, herror⟩ := extractCommandsFrom_inFront hquote hdash hgap hblank
      (endsInGraph_trim b) hdashes [] (trim iswspace a) (endsInGraph_trim a) hne (trim_trim a)
      (by rw [haTrim])
    refine ⟨fun hlast => ?_, herror⟩
    rw [haccepted hlast, haTrim, happend]

/-- **Command lines compose**, with the exact condition: the line made of an accepted line, a space
and an accepted line that starts with dashes is accepted, with the commands of both, if and only if
the first of them does not end in an empty argument. -/
theorem extractCommands_append_iff (hspace : iswspace space) (hquote : ¬iswspace doubleQuote)
    (hdash : ¬iswspace dash) {a b : WString} {A B : List Args}
    (ha : extractCommands iswspace a = (A, [])) (hb : extractCommands iswspace b = (B, []))
    (hstart : b.take 2 = [dash, dash]) :
    extractCommands iswspace (a ++ space :: b) = (A ++ B, []) ↔
      ¬EndsInEmptyQuotes iswspace (trim iswspace a) := by
  obtain ⟨haccepted, hrejected⟩ := extractCommands_append hspace hquote hdash ha hb hstart
  refine ⟨fun hcommands hlast => hrejected hlast ?_, haccepted⟩
  rw [hcommands]

end Composition

/-- A line that is printed for a device is read in the `C` locale. -/
theorem extractCommands_devListLine {device : WString} (hdevice : doubleQuote ∉ device) :
    extractCommands cLocaleSpace (devListLine device) = ([[devHideKeyword, device]], []) := by
  have hkeyword : devHideKeyword.all (fun c => !cLocaleSpace c) = true := by decide
  refine extractCommands_quoted (by decide) (by decide) (by decide) (fun c hc => ?_) hdevice
  simpa using List.all_eq_true.mp hkeyword c hc

theorem extractCommands_append_iff_devices :
    extractCommands cLocaleSpace (devListLine [0x61] ++ space :: devListLine [0x62]) =
      ([[devHideKeyword, [0x61]], [devHideKeyword, [0x62]]], []) := by
  refine (extractCommands_append_iff (by decide) (by decide) (by decide)
    (extractCommands_devListLine (by decide)) (extractCommands_devListLine (by decide))
    (by decide)).mpr ?_
  rintro ⟨c, hc, hsuffix⟩
  have hlast : [c, doubleQuote, doubleQuote] = [doubleQuote, 0x61, doubleQuote] :=
    List.suffix_iff_eq_drop.mp hsuffix
  exact absurd (List.cons.inj (List.cons.inj hlast).2).1 (by decide)

/-- The line for a device without a path is accepted, but not in front of another command. -/
theorem emptyArgument_not_composes :
    extractCommands cLocaleSpace (devListLine []) = ([[devHideKeyword, []]], []) ∧
      extractCommands cLocaleSpace (devListLine [0x61]) = ([[devHideKeyword, [0x61]]], []) ∧
      (devListLine [0x61]).take 2 = [dash, dash] ∧
      extractCommands cLocaleSpace (devListLine [] ++ space :: devListLine [0x61]) ≠
        ([[devHideKeyword, []], [devHideKeyword, [0x61]]], []) := by
  have hempty := @extractCommands_devListLine [] (by decide)
  have hdevice := @extractCommands_devListLine [0x61] (by decide)
  refine ⟨hempty, hdevice, by decide, fun hcommands => ?_⟩
  have hlast : EndsInEmptyQuotes cLocaleSpace (trim cLocaleSpace (devListLine [])) :=
    ⟨space, by decide, by decide⟩
  have hrejected := (extractCommands_append (by decide) (by decide) (by decide) hempty hdevice
    (by decide)).2 hlast
  rw [hcommands] at hrejected
  exact hrejected rfl

end HidHide
