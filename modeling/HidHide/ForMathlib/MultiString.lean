import Mathlib.Algebra.BigOperators.Group.List.Basic
import Mathlib.Algebra.GroupWithZero.Nat
import Mathlib.Data.List.TakeWhile

/-!
# Multi-strings

A multi-string over an alphabet with a terminator `nul` is the concatenation of terminated
strings, closed by one more terminator. `encode` writes a list of strings so. `decode` reads
the strings that precede the first empty string; an unterminated last string is read too.

`decode` inverts `encode` on the lists of nonempty strings only: in general it returns the strings
before the first empty one (`decode_encode`).
-/

namespace MultiString

variable {α : Type*} [DecidableEq α] (nul : α)

/-- The strings, each terminated, and the closing terminator. -/
def encode (ss : List (List α)) : List α := ss.flatMap (· ++ [nul]) ++ [nul]

/-- Read the strings up to the first empty one; `acc` is the part of the current string that
has been read. -/
def decodeFrom : List α → List α → List (List α)
  | acc, [] => if acc = [] then [] else [acc]
  | acc, c :: cs =>
      if c = nul then (if acc = [] then [] else acc :: decodeFrom [] cs)
      else decodeFrom (acc ++ [c]) cs

/-- The strings that precede the first empty string. -/
def decode (cs : List α) : List (List α) := decodeFrom nul [] cs

/-- The last two characters are terminators. -/
def EndsInTwo (cs : List α) : Prop := [nul, nul] <:+ cs

instance (cs : List α) : Decidable (EndsInTwo nul cs) :=
  inferInstanceAs (Decidable ([nul, nul] <:+ cs))

variable {nul}

omit [DecidableEq α] in
/-- The last character is a terminator. -/
theorem EndsInTwo.last {cs : List α} (h : EndsInTwo nul cs) : ∀ c ∈ cs.getLast?, c = nul := by
  obtain ⟨pre, rfl⟩ := h
  simp

omit [DecidableEq α] in
@[simp] theorem encode_nil : encode nul [] = [nul] := rfl

omit [DecidableEq α] in
@[simp] theorem encode_cons (s : List α) (ss : List (List α)) :
    encode nul (s :: ss) = s ++ nul :: encode nul ss := by
  simp [encode]

omit [DecidableEq α] in
/-- Each string takes its length and a terminator, and the list takes one more. -/
theorem length_encode (ss : List (List α)) :
    (encode nul ss).length = (ss.map (·.length + 1)).sum + 1 := by
  induction ss with
  | nil => rfl
  | cons s ss ih => simp [ih, Nat.add_comm, Nat.add_left_comm]

omit [DecidableEq α] in
/-- A multi-string of at least one string ends in two terminators. -/
theorem endsInTwo_encode {ss : List (List α)} (hss : ss ≠ []) :
    EndsInTwo nul (encode nul ss) := by
  induction ss with
  | nil => exact absurd rfl hss
  | cons s ss ih =>
    cases ss with
    | nil => exact ⟨s, by simp⟩
    | cons t ss =>
      obtain ⟨pre, hpre⟩ := ih (List.cons_ne_nil t ss)
      exact ⟨s ++ nul :: pre, by rw [encode_cons s, ← hpre]; simp⟩

theorem decodeFrom_append {s : List α} (hs : nul ∉ s) (acc cs : List α) :
    decodeFrom nul acc (s ++ cs) = decodeFrom nul (acc ++ s) cs := by
  induction s generalizing acc with
  | nil => simp
  | cons c s ih =>
    have hc : c ≠ nul := fun hc => hs (by simp [hc])
    rw [List.cons_append, decodeFrom, if_neg hc, ih (fun h => hs (by simp [h]))]
    simp

@[simp] theorem decode_nil : decode nul [] = [] := rfl

/-- Nothing is read past an empty string. -/
@[simp] theorem decode_nul_cons (cs : List α) : decode nul (nul :: cs) = [] := by
  simp [decode, decodeFrom]

/-- A terminated nonempty string is the first string read. -/
theorem decode_append_nul {s : List α} (hs : nul ∉ s) (hne : s ≠ []) (cs : List α) :
    decode nul (s ++ nul :: cs) = s :: decode nul cs := by
  rw [decode, decodeFrom_append hs, decodeFrom, if_pos rfl, List.nil_append, if_neg hne, decode]

/-- What is terminated is a string and what follows its terminator. -/
theorem exists_eq_append_nul {cs : List α} (h : nul ∈ cs) :
    ∃ rest, cs = cs.takeWhile (· ≠ nul) ++ nul :: rest := by
  induction cs with
  | nil => simp at h
  | cons c cs ih =>
    by_cases hc : c = nul
    · exact ⟨cs, by simp [hc]⟩
    · obtain ⟨rest, hrest⟩ := ih (List.mem_of_ne_of_mem (Ne.symm hc) h)
      refine ⟨rest, ?_⟩
      rw [List.takeWhile_cons_of_pos (by simpa using hc), List.cons_append, ← hrest]

/-- **Decoding an encoded list** returns the strings before the first empty one. -/
theorem decode_encode {ss : List (List α)} (hss : ∀ s ∈ ss, nul ∉ s) :
    decode nul (encode nul ss) = ss.takeWhile (· ≠ []) := by
  induction ss with
  | nil => simp
  | cons s ss ih =>
    rw [encode_cons]
    -- an empty string is a terminator at the front, where decoding stops
    rcases eq_or_ne s [] with rfl | hne
    · simp
    · rw [decode_append_nul (hss s (by simp)) hne, ih fun t ht => hss t (by simp [ht])]
      simp [hne]

/-- The strings read are neither empty nor terminated. -/
theorem mem_decode {cs s : List α} (h : s ∈ decode nul cs) : s ≠ [] ∧ nul ∉ s := by
  have hfrom : ∀ (cs acc : List α), nul ∉ acc → s ∈ decodeFrom nul acc cs → s ≠ [] ∧ nul ∉ s := by
    intro cs
    induction cs with
    | nil =>
      intro acc hacc hs
      rw [decodeFrom] at hs
      split_ifs at hs with hnil
      · exact absurd hs List.not_mem_nil
      · rw [List.mem_singleton.mp hs]
        exact ⟨hnil, hacc⟩
    | cons c cs ih =>
      intro acc hacc hs
      rw [decodeFrom] at hs
      split_ifs at hs with hc hnil
      · exact absurd hs List.not_mem_nil
      · rcases List.mem_cons.mp hs with rfl | hs
        · exact ⟨hnil, hacc⟩
        · exact ih [] List.not_mem_nil hs
      · refine ih (acc ++ [c]) (fun hmem => ?_) hs
        rcases List.mem_append.mp hmem with hmem | hmem
        · exact hacc hmem
        · exact hc (List.mem_singleton.mp hmem).symm
  exact hfrom cs [] List.not_mem_nil h

omit [DecidableEq α] in
theorem endsInTwo_of_cons {c : α} {cs : List α} (h : EndsInTwo nul (c :: cs)) :
    EndsInTwo nul cs ∨ c = nul ∧ cs = [nul] := by
  rcases List.suffix_cons_iff.mp h with heq | hsuffix
  · obtain ⟨rfl, rfl⟩ := List.cons.inj heq
    exact .inr ⟨rfl, rfl⟩
  · exact .inl hsuffix

theorem decodeFrom_append_of_endsInTwo {cs : List α} (h : EndsInTwo nul cs) (acc rest : List α) :
    decodeFrom nul acc (cs ++ rest) = decodeFrom nul acc cs := by
  induction cs generalizing acc with
  | nil => exact absurd (List.suffix_nil.mp h) (List.cons_ne_nil _ _)
  | cons c cs ih =>
    rw [List.cons_append, decodeFrom, decodeFrom]
    rcases endsInTwo_of_cons h with h | ⟨rfl, rfl⟩
    · rw [ih h, ih h]
    · simp [decodeFrom]

/-- Nothing is read past two terminators. -/
theorem decode_append_of_endsInTwo {cs : List α} (h : EndsInTwo nul cs) (rest : List α) :
    decode nul (cs ++ rest) = decode nul cs :=
  decodeFrom_append_of_endsInTwo h [] rest

/-- What is read of a multi-string that ends in two terminators is encoded in no more than its
length. -/
theorem length_encode_decode_le {cs : List α} (h : EndsInTwo nul cs) :
    (encode nul (decode nul cs)).length ≤ cs.length := by
  have hfrom : ∀ (cs acc : List α), EndsInTwo nul cs →
      ((decodeFrom nul acc cs).map (·.length + 1)).sum + 1 ≤ acc.length + cs.length := by
    intro cs
    induction cs with
    | nil => exact fun acc h => absurd (List.suffix_nil.mp h) (List.cons_ne_nil _ _)
    | cons c cs ih =>
      intro acc h
      rw [decodeFrom, List.length_cons]
      split_ifs with hc hacc
      · rw [List.map_nil, List.sum_nil]
        omega
      · rw [List.map_cons, List.sum_cons]
        rcases endsInTwo_of_cons h with h | ⟨-, rfl⟩
        · have hrest := ih [] h
          rw [List.length_nil] at hrest
          omega
        · simp [decodeFrom]
      · rcases endsInTwo_of_cons h with h | ⟨hnul, -⟩
        · have hrest := ih (acc ++ [c]) h
          rw [List.length_append, List.length_singleton] at hrest
          omega
        · exact absurd hnul hc
  have hsum := hfrom cs [] h
  rw [List.length_nil, Nat.zero_add] at hsum
  rwa [length_encode]

omit [DecidableEq α] in
/-- In a multi-string of at most two terminators there is no string before the first empty
one. -/
theorem takeWhile_eq_nil_of_length_encode_le {ss : List (List α)}
    (h : (encode nul ss).length ≤ 2) : ss.takeWhile (· ≠ []) = [] := by
  cases ss with
  | nil => rfl
  | cons s ss =>
    rw [encode_cons, List.length_append, List.length_cons, length_encode] at h
    obtain rfl : s = [] := List.length_eq_zero_iff.mp (by omega)
    rw [List.takeWhile_cons_of_neg (by simp)]

theorem sum_length_decodeFrom_le (acc cs : List α) :
    ((decodeFrom nul acc cs).map (·.length + 1)).sum ≤ acc.length + cs.length + 1 := by
  induction cs generalizing acc with
  | nil =>
    rw [decodeFrom]
    split_ifs <;> simp
  | cons c cs ih =>
    rw [decodeFrom]
    split_ifs with hc hacc
    · simp
    · have := ih []
      simp only [List.map_cons, List.sum_cons, List.length_nil, List.length_cons] at this ⊢
      omega
    · have := ih (acc ++ [c])
      simp only [List.length_append, List.length_cons, List.length_nil] at this ⊢
      omega

/-- The strings read, with their terminators, are no longer than the input; the last of them
may lack its terminator. -/
theorem sum_length_decode_le (cs : List α) :
    ((decode nul cs).map (·.length + 1)).sum ≤ cs.length + 1 := by
  have h : ((decodeFrom nul [] cs).map (·.length + 1)).sum ≤ 0 + cs.length + 1 :=
    sum_length_decodeFrom_le [] cs
  rwa [Nat.zero_add] at h

end MultiString
