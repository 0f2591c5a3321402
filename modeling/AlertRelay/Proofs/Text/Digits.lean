import AlertRelay.Text.Blank
import AlertRelay.Text.Digits
import Mathlib.Data.List.Induction
import Mathlib.Tactic.Common
import Mathlib.Tactic.IntervalCases

/-!
# Digits that are written and read

A number is read back from its digits (`Text.digitsValue_toDigits`), also with zeros in front
(`Text.digitsValue_padded`), and what is read as a number are its numerals
(`Text.readNumeral?_eq_some`). Rows of equally many digits are told apart by their values
(`Text.digitsValue_inj`), integers by how they are written (`Text.toString_int_inj`), and a row of
digits ends where no digit follows (`Text.takeWhile_digits`, `Text.dropWhile_digits`).
-/

namespace AlertRelay.Text

/-- The next character, if there is one, is no digit. -/
def NoDigitAhead (cs : List Char) : Prop :=
  ∀ c ∈ cs.head?, isDigit c = false

variable {n width limit : Nat} {c : Char} {cs rest : List Char}

/-! ### Values -/

theorem digitsValue_eq (cs : List Char) : digitsValue cs = Nat.ofDigitChars 10 cs 0 := rfl

/-- A number is read back from its digits. -/
theorem digitsValue_toDigits (n : Nat) : digitsValue (Nat.toDigits 10 n) = n := by
  rw [digitsValue_eq, Nat.ofDigitChars_ten_toDigits]

/-- Zeros in front make no difference. -/
theorem digitsValue_padded (width n : Nat) : digitsValue (padded width n) = n := by
  rw [padded, digitsValue_eq, Nat.ofDigitChars_append, Nat.ofDigitChars_replicate_zero,
    Nat.mul_zero, Nat.ofDigitChars_ten_toDigits]

theorem digitValue_lt (h : isDigit c = true) : digitValue c < 10 := by
  unfold isDigit at h
  rw [Bool.and_eq_true, decide_eq_true_eq, decide_eq_true_eq] at h
  have hnine : c.toNat ≤ 57 := h.2
  have hzero : '0'.toNat = 48 := rfl
  unfold digitValue
  omega

theorem digitsValue_concat (cs : List Char) (c : Char) :
    digitsValue (cs ++ [c]) = 10 * digitsValue cs + digitValue c := by
  simp [digitsValue]

/-- So many digits stand for a number below that power of ten. -/
theorem digitsValue_lt (h : ∀ c ∈ cs, isDigit c = true) : digitsValue cs < 10 ^ cs.length := by
  induction cs using List.reverseRecOn with
  | nil => decide
  | append_singleton cs c ih =>
    have hc : digitValue c < 10 := digitValue_lt (h c (by simp))
    have hcs := ih fun d hd => h d (by simp [hd])
    rw [digitsValue_concat, List.length_append, List.length_singleton, Nat.pow_succ]
    omega

theorem digitValue_inj {d : Char} (hc : isDigit c = true) (hd : isDigit d = true)
    (h : digitValue c = digitValue d) : c = d := by
  unfold isDigit at hc hd
  rw [Bool.and_eq_true, decide_eq_true_eq, decide_eq_true_eq] at hc hd
  have hzero : '0'.toNat = 48 := rfl
  have hcmin : 48 ≤ c.toNat := hc.1
  have hdmin : 48 ≤ d.toNat := hd.1
  unfold digitValue at h
  exact Char.toNat_inj.1 (by omega)

/-- Rows of equally many digits are told apart by their values. -/
theorem digitsValue_inj {ds : List Char} (hlength : cs.length = ds.length)
    (hcs : ∀ c ∈ cs, isDigit c = true) (hds : ∀ d ∈ ds, isDigit d = true)
    (h : digitsValue cs = digitsValue ds) : cs = ds := by
  induction cs using List.reverseRecOn generalizing ds with
  | nil => exact (List.length_eq_zero_iff.1 hlength.symm).symm
  | append_singleton cs c ih =>
    induction ds using List.reverseRecOn with
    | nil => simp at hlength
    | append_singleton ds d _ =>
      rw [List.forall_mem_append, List.forall_mem_singleton] at hcs hds
      rw [digitsValue_concat, digitsValue_concat] at h
      have hc := digitValue_lt hcs.2
      have hd := digitValue_lt hds.2
      have hlength' : cs.length = ds.length := by simpa using hlength
      rw [ih hlength' hcs.1 hds.1 (by omega), digitValue_inj hcs.2 hds.2 (by omega)]

/-! ### Digits of numbers -/

theorem isDigit_of_mem_toDigits (h : c ∈ Nat.toDigits 10 n) : isDigit c = true := by
  have hc : c.isDigit = true := Nat.isDigit_of_mem_toDigits (by decide) (by decide) h
  exact hc

theorem toDigits_inj {m : Nat} : Nat.toDigits 10 m = Nat.toDigits 10 n ↔ m = n := by
  constructor
  · intro h
    rw [← digitsValue_toDigits m, h, digitsValue_toDigits]
  · rintro rfl
    rfl

theorem hyphen_cons_ne_toDigits (cs : List Char) (n : Nat) : '-' :: cs ≠ Nat.toDigits 10 n := by
  intro h
  have hdigit : isDigit '-' = true := isDigit_of_mem_toDigits (h ▸ List.mem_cons_self)
  exact absurd hdigit (by decide)

/-- Integers are told apart by how they are written. -/
theorem toString_int_inj {a b : Int} : toString a = toString b ↔ a = b := by
  have hnat : ∀ m : Nat, (toString (Int.ofNat m)).toList = Nat.toDigits 10 m :=
    fun m => Nat.toList_repr
  have hneg : ∀ m : Nat, (toString (Int.negSucc m)).toList = '-' :: Nat.toDigits 10 (m + 1) := by
    intro m
    change ("-" ++ (m + 1).repr).toList = _
    rw [String.toList_append, Nat.toList_repr]
    rfl
  rw [← String.toList_inj]
  cases a with
  | ofNat m =>
    cases b with
    | ofNat n => rw [hnat, hnat, toDigits_inj, Int.ofNat.injEq]
    | negSucc n =>
      rw [hnat, hneg]
      exact iff_of_false (hyphen_cons_ne_toDigits _ m).symm Int.noConfusion
  | negSucc m =>
    cases b with
    | ofNat n =>
      rw [hnat, hneg]
      exact iff_of_false (hyphen_cons_ne_toDigits _ n) Int.noConfusion
    | negSucc n =>
      rw [hneg, hneg, List.cons_inj_right, toDigits_inj, Int.negSucc.injEq, Nat.succ_inj]

theorem isDigit_of_mem_padded (h : c ∈ padded width n) : isDigit c = true := by
  rcases List.mem_append.1 h with hzero | hdigit
  · rw [List.eq_of_mem_replicate hzero]
    rfl
  · exact isDigit_of_mem_toDigits hdigit

theorem padded_ne_nil (width n : Nat) : padded width n ≠ [] := by
  intro hnil
  exact Nat.toDigits_ne_nil (List.append_eq_nil_iff.1 hnil).2

/-- A number that is not too great is written with exactly so many digits. -/
theorem length_padded (hwidth : 0 < width) (hn : n < 10 ^ width) :
    (padded width n).length = width := by
  have hle : (Nat.toDigits 10 n).length ≤ width :=
    (Nat.length_toDigits_le_iff (by decide) hwidth).2 hn
  rw [padded, List.length_append, List.length_replicate]
  omega

/-- A row of digits is how its value is written at this width. -/
theorem padded_digitsValue (hne : cs ≠ []) (hcs : ∀ c ∈ cs, isDigit c = true) :
    padded cs.length (digitsValue cs) = cs :=
  digitsValue_inj (length_padded (List.length_pos_iff.2 hne) (digitsValue_lt hcs))
    (fun _ => isDigit_of_mem_padded) hcs (digitsValue_padded _ _)

/-- Only zero is written with a zero in front. -/
theorem eq_zero_of_head?_toDigits (h : (Nat.toDigits 10 n).head? = some '0') : n = 0 := by
  induction n using Nat.strong_induction_on with
  | _ n ih =>
    by_cases hn : n < 10
    · rw [Nat.toDigits_of_lt_base hn] at h
      interval_cases n <;> first | rfl | exact absurd h (by decide)
    · rw [Nat.toDigits_of_base_le (by decide) (Nat.le_of_not_lt hn),
        List.head?_append, Option.or_of_isSome (by simp [Nat.toDigits_ne_nil])] at h
      have hzero := ih (n / 10) (by omega) h
      omega

/-! ### Numerals -/

/-- A numeral of a number: its digits, behind zeros and an optional plus sign. -/
def IsNumeralOf (n : Nat) (cs : List Char) : Prop :=
  ∃ digits, (cs = digits ∨ cs = '+' :: digits) ∧ digits ≠ [] ∧
    (∀ c ∈ digits, isDigit c = true) ∧ digitsValue digits = n

theorem readDigits?_eq_some {cs : List Char} {n : Nat} :
    readDigits? cs = some n ↔ cs ≠ [] ∧ (∀ c ∈ cs, isDigit c = true) ∧ digitsValue cs = n := by
  unfold readDigits?
  by_cases hempty : cs = []
  · simp [hempty]
  · by_cases hdigits : ∀ c ∈ cs, isDigit c = true
    · have hall : cs.all isDigit = true := List.all_eq_true.2 hdigits
      rw [if_neg (by simp [hempty, hall]), Option.some_inj, and_iff_right hempty,
        and_iff_right hdigits]
    · have hall : cs.all isDigit = false := by
        rw [← Bool.not_eq_true, List.all_eq_true]
        exact hdigits
      simp [hall, hdigits]

/-- A number is read from its numerals, and from no other text, if it is not too large. -/
theorem readNumeral?_eq_some {limit n : Nat} {cs : List Char} :
    readNumeral? limit cs = some n ↔ IsNumeralOf n cs ∧ n ≤ limit := by
  unfold readNumeral? IsNumeralOf
  rw [Option.filter_eq_some_iff, decide_eq_true_iff, readDigits?_eq_some]
  refine and_congr_left fun _ => ?_
  constructor
  · rintro ⟨hne, hdigits, hvalue⟩
    refine ⟨_, ?_, hne, hdigits, hvalue⟩
    split
    · exact .inr rfl
    · exact .inl rfl
  · rintro ⟨digits, hcs, hne, hdigits, hvalue⟩
    rcases hcs with rfl | rfl
    · -- A plus sign is not a digit.
      split
      · exact absurd (hdigits '+' List.mem_cons_self) (by decide)
      · exact ⟨hne, hdigits, hvalue⟩
    · exact ⟨hne, hdigits, hvalue⟩

/-! ### Rows of digits -/

/-- The digits of a row are all that is taken. -/
theorem takeWhile_digits (hcs : ∀ c ∈ cs, isDigit c = true) (hrest : NoDigitAhead rest) :
    (cs ++ rest).takeWhile isDigit = cs := by
  rw [List.takeWhile_append_of_pos hcs]
  cases rest with
  | nil => rw [List.takeWhile_nil, List.append_nil]
  | cons c rest =>
    have hc : isDigit c = false := hrest c rfl
    rw [List.takeWhile_cons_of_neg (by rw [hc]; exact Bool.false_ne_true), List.append_nil]

/-- What follows a row of digits is left. -/
theorem dropWhile_digits (hcs : ∀ c ∈ cs, isDigit c = true) (hrest : NoDigitAhead rest) :
    (cs ++ rest).dropWhile isDigit = rest := by
  rw [List.dropWhile_append_of_pos hcs]
  cases rest with
  | nil => rfl
  | cons c rest =>
    have hc : isDigit c = false := hrest c rfl
    rw [List.dropWhile_cons_of_neg (by rw [hc]; exact Bool.false_ne_true)]

/-- A digit is no blank. -/
theorem isBlank_of_isDigit (h : isDigit c = true) : isBlank c = false := by
  unfold isDigit at h
  rw [Bool.and_eq_true, decide_eq_true_eq, decide_eq_true_eq] at h
  have hzero : 48 ≤ c.toNat := h.1
  have hnine : c.toNat ≤ 57 := h.2
  simp only [isBlank, Bool.or_eq_false_iff, Bool.and_eq_false_iff, decide_eq_false_iff_not,
    beq_eq_false_iff_ne]
  omega

end AlertRelay.Text
