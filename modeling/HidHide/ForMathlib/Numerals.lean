import Mathlib.Data.Nat.Digits.Lemmas

/-!
# Numerals

The digits of a number in a base, the most significant one first, and the number with given digits.
Zero has one digit, and no other number begins with a zero; `padded` puts zeros in front up to a
width. A text is read as digits up to the first character that is none (`readDigits`).

What is written is read back, with zeros in front or without: `ofDigits_padded` and
`readDigits_append`.
-/

namespace Numerals

/-- The digits of a number, the most significant one first. -/
def digits (b n : ℕ) : List ℕ := if n = 0 then [0] else (Nat.digits b n).reverse

/-- The number with these digits. -/
def ofDigits (b : ℕ) (ds : List ℕ) : ℕ := ds.foldl (fun v d => b * v + d) 0

/-- The digits of a number, with zeros in front up to a width. -/
def padded (b width n : ℕ) : List ℕ :=
  List.replicate (width - (digits b n).length) 0 ++ digits b n

variable {b n : ℕ}

theorem ofDigits_digits (b n : ℕ) : ofDigits b (digits b n) = n := by
  rw [digits]
  split_ifs with hn
  · simp [ofDigits, hn]
  · rw [ofDigits, List.foldl_reverse]
    simpa [Nat.ofDigits_eq_foldr, Nat.add_comm] using Nat.ofDigits_digits b n

/-- Zeros in front make no difference. -/
theorem ofDigits_padded (b width n : ℕ) : ofDigits b (padded b width n) = n := by
  have hzeros : ∀ k, (List.replicate k 0).foldl (fun v d => b * v + d) 0 = 0 := by
    intro k
    induction k with
    | zero => rfl
    | succ k ih => rw [List.replicate_succ, List.foldl_cons, Nat.mul_zero, ih]
  rw [padded, ofDigits, List.foldl_append, hzeros, ← ofDigits, ofDigits_digits]

theorem digits_lt (hb : 1 < b) {d : ℕ} (hd : d ∈ digits b n) : d < b := by
  rw [digits] at hd
  split_ifs at hd
  · rw [List.mem_singleton] at hd
    omega
  · exact Nat.digits_lt_base hb (List.mem_reverse.mp hd)

theorem padded_lt (hb : 1 < b) {width d : ℕ} (hd : d ∈ padded b width n) : d < b := by
  rcases List.mem_append.mp hd with hd | hd
  · rw [List.eq_of_mem_replicate hd]
    omega
  · exact digits_lt hb hd

theorem digits_ne_nil (b n : ℕ) : digits b n ≠ [] := by
  rw [digits]
  split_ifs with hn
  · simp
  · rw [ne_eq, List.reverse_eq_nil_iff]
    exact Nat.digits_ne_nil_iff_ne_zero.mpr hn

theorem padded_ne_nil (b width n : ℕ) : padded b width n ≠ [] := fun h =>
  digits_ne_nil b n (List.append_eq_nil_iff.mp h).2

/-- A number with more than one digit does not begin with a zero. -/
theorem digits_eq_cons (b n : ℕ) :
    digits b n = [0] ∨ ∃ d ds, digits b n = d :: ds ∧ d ≠ 0 := by
  rw [digits]
  split_ifs with hn
  · exact .inl rfl
  · have hne : Nat.digits b n ≠ [] := Nat.digits_ne_nil_iff_ne_zero.mpr hn
    refine .inr ⟨(Nat.digits b n).getLast hne, (Nat.digits b n).dropLast.reverse, ?_,
      Nat.getLast_digit_ne_zero b hn⟩
    rw [List.reverse_eq_cons_iff, List.reverse_reverse, List.dropLast_append_getLast]

/-- A number that has no more digits than the width has as many as the width with its zeros. -/
theorem length_padded (hb : 1 < b) {width : ℕ} (hwidth : 0 < width) (hn : n < b ^ width) :
    (padded b width n).length = width := by
  have hle : (digits b n).length ≤ width := by
    rw [digits]
    split_ifs with hzero
    · exact hwidth
    · rw [List.length_reverse, Nat.digits_length_le_iff hb]
      exact hn
  rw [padded, List.length_append, List.length_replicate]
  omega

section Read

variable {α : Type*} (digitOf : α → Option ℕ)

/-- The digits in front of a text, and what follows them. -/
def readDigits : List α → List ℕ × List α
  | [] => ([], [])
  | c :: cs =>
      match digitOf c with
      | none => ([], c :: cs)
      | some d => (d :: (readDigits cs).1, (readDigits cs).2)

/-- **Digits are read back** in front of a text that does not go on with one. -/
theorem readDigits_append {char : ℕ → α} (hchar : ∀ d < b, digitOf (char d) = some d)
    {ds : List ℕ} (hds : ∀ d ∈ ds, d < b) {rest : List α}
    (hrest : ∀ c ∈ rest.head?, digitOf c = none) :
    readDigits digitOf (ds.map char ++ rest) = (ds, rest) := by
  induction ds with
  | nil =>
    cases rest with
    | nil => rfl
    | cons c cs => simp [readDigits, hrest c rfl]
  | cons d ds ih =>
    have hread := ih fun d hd => hds d (List.mem_cons_of_mem _ hd)
    simp [readDigits, hchar d (hds d List.mem_cons_self), hread]

end Read

end Numerals
