import AlertRelay.Text.Base64
import Mathlib.Data.List.Basic
import Mathlib.Data.Nat.Bitwise

/-!
# The form of Base64

The bits of some bytes are cut into sixes, zeros are put behind the last ones, and every six bits
are written as a character of the alphabet; an equals sign stands for each pair of these zeros
(`Base64.IsForm`). Every row of bytes has exactly one such form, which is the one that is encoded
(`Base64.isForm_iff`).
-/

namespace AlertRelay.Base64

/-- The characters that stand for the numbers below 64, in the order of the numbers. -/
def alphabet : List Char :=
  "ABCDEFGHIJKLMNOPQRSTUVWXYZabcdefghijklmnopqrstuvwxyz0123456789+/".toList

/-- The last `width` bits of a number, the highest of them first. -/
def bits : Nat → Nat → List Bool
  | 0, _ => []
  | width + 1, n => n.testBit width :: bits width n

/-- The bits of some numbers, one after the other. -/
def allBits (width : Nat) (ns : List Nat) : List Bool :=
  ns.flatMap (bits width)

/-- A text is the Base64 form of some bytes. -/
def IsForm (bytes : List UInt8) (text : List Char) : Prop :=
  ∃ (sixes : List Nat) (front : List Char) (padding : Nat),
    front.map some = sixes.map (alphabet[·]?) ∧ padding < 3 ∧
      allBits 6 sixes =
        allBits 8 (bytes.map UInt8.toNat) ++ List.replicate (2 * padding) false ∧
      text = front ++ List.replicate padding '='

/-! ### Bits -/

theorem bits_add (width low n : Nat) :
    bits (width + low) n = bits width (n / Nat.pow 2 low) ++ bits low n := by
  induction width with
  | zero => rw [Nat.zero_add, bits, List.nil_append]
  | succ width ih =>
    have hbit : (n / Nat.pow 2 low).testBit width = n.testBit (width + low) :=
      Nat.testBit_div_two_pow n width
    rw [Nat.succ_add, bits, bits, ih, hbit, List.cons_append]

/-- Higher bits make no difference. -/
theorem bits_congr {width n m : Nat} (h : ∀ i < width, n.testBit i = m.testBit i) :
    bits width n = bits width m := by
  induction width with
  | zero => rfl
  | succ width ih =>
    rw [bits, bits, h width (Nat.lt_succ_self _), ih fun i hi => h i (Nat.lt_succ_of_lt hi)]

theorem bits_mod (width n : Nat) : bits width (n % Nat.pow 2 width) = bits width n := by
  refine bits_congr fun i hi => ?_
  have hbit : (n % Nat.pow 2 width).testBit i = (decide (i < width) && n.testBit i) :=
    Nat.testBit_mod_two_pow n width i
  rw [hbit, decide_eq_true hi, Bool.true_and]

@[simp] theorem length_bits (width n : Nat) : (bits width n).length = width := by
  induction width with
  | zero => rfl
  | succ width ih => rw [bits, List.length_cons, ih]

theorem testBit_eq_of_bits_eq {width n m : Nat} (h : bits width n = bits width m) :
    ∀ i < width, n.testBit i = m.testBit i := by
  induction width with
  | zero => exact fun i hi => absurd hi (Nat.not_lt_zero i)
  | succ width ih =>
    obtain ⟨hbit, hrest⟩ := List.cons.inj h
    intro i hi
    rcases Nat.lt_succ_iff_lt_or_eq.1 hi with hi | rfl
    · exact ih hrest i hi
    · exact hbit

/-- Numbers without higher bits are told apart by their bits. -/
theorem eq_of_bits_eq {n m : Nat} (hn : n < 64) (hm : m < 64) (h : bits 6 n = bits 6 m) :
    n = m := by
  refine Nat.eq_of_testBit_eq fun i => ?_
  rcases Nat.lt_or_ge i 6 with hi | hi
  · exact testBit_eq_of_bits_eq h i hi
  · have hpow : 2 ^ 6 ≤ 2 ^ i := Nat.pow_le_pow_right (by decide) hi
    rw [Nat.testBit_lt_two_pow (Nat.lt_of_lt_of_le hn hpow),
      Nat.testBit_lt_two_pow (Nat.lt_of_lt_of_le hm hpow)]

theorem allBits_cons (width n : Nat) (ns : List Nat) :
    allBits width (n :: ns) = bits width n ++ allBits width ns :=
  List.flatMap_cons

theorem allBits_append (width : Nat) (ns ms : List Nat) :
    allBits width (ns ++ ms) = allBits width ns ++ allBits width ms :=
  List.flatMap_append

theorem length_allBits (width : Nat) (ns : List Nat) :
    (allBits width ns).length = width * ns.length := by
  induction ns with
  | nil => rfl
  | cons n ns ih =>
    rw [allBits_cons, List.length_append, length_bits, ih, List.length_cons, Nat.mul_succ,
      Nat.add_comm]

theorem eq_of_allBits_eq {ns ms : List Nat} (hns : ∀ n ∈ ns, n < 64) (hms : ∀ m ∈ ms, m < 64)
    (h : allBits 6 ns = allBits 6 ms) : ns = ms := by
  have hlength := congrArg List.length h
  rw [length_allBits, length_allBits] at hlength
  induction ns generalizing ms with
  | nil =>
    cases ms with
    | nil => rfl
    | cons m ms => simp at hlength
  | cons n ns ih =>
    cases ms with
    | nil => simp at hlength
    | cons m ms =>
      rw [List.forall_mem_cons] at hns hms
      rw [allBits_cons, allBits_cons] at h
      obtain ⟨hfirst, hrest⟩ := List.append_inj h (by rw [length_bits, length_bits])
      have hcount : 6 * ns.length = 6 * ms.length := by
        rw [List.length_cons, List.length_cons] at hlength
        omega
      rw [eq_of_bits_eq hns.1 hms.1 hfirst, ih hns.2 hms.2 hrest hcount]

/-! ### Groups of bytes -/

theorem getElem?_alphabet {n : Nat} (h : n < 64) : alphabet[n]? = some (digit n) := by
  have hall : ∀ n < 64, alphabet[n]? = some (digit n) := by decide +kernel
  exact hall n h

/-- The bits of three bytes are those of four characters. -/
theorem bits_three {a b c : Nat} (hb : b < 256) (hc : c < 256) :
    let n := (a * 256 + b) * 256 + c
    bits 6 (n / 262144) ++ (bits 6 (n / 4096 % 64) ++ (bits 6 (n / 64 % 64) ++ bits 6 (n % 64))) =
      bits 8 a ++ (bits 8 b ++ bits 8 c) := by
  intro n
  have hfirst : n / 65536 = a := by omega
  have hsecond : n / 256 % 256 = b := by omega
  have hthird : n % 256 = c := by omega
  have hsixes : bits 24 n = bits 6 (n / 262144) ++ (bits 6 (n / 4096 % 64) ++
      (bits 6 (n / 64 % 64) ++ bits 6 (n % 64))) := by
    rw [bits_mod 6 (n / 4096), bits_mod 6 (n / 64), bits_mod 6 n, bits_add 6 18, bits_add 6 12,
      bits_add 6 6]
  have heights : bits 24 n = bits 8 (n / 65536) ++ (bits 8 (n / 256 % 256) ++ bits 8 (n % 256)) := by
    rw [bits_mod 8 (n / 256), bits_mod 8 n, bits_add 8 16, bits_add 8 8]
  rw [← hsixes, heights, hfirst, hsecond, hthird]

/-- The bits of two bytes and two zeros are those of three characters. -/
theorem bits_two {a b : Nat} (hb : b < 256) :
    let n := (a * 256 + b) * 4
    bits 6 (n / 4096) ++ (bits 6 (n / 64 % 64) ++ bits 6 (n % 64)) =
      bits 8 a ++ (bits 8 b ++ [false, false]) := by
  intro n
  have hfirst : n / 1024 = a := by omega
  have hsecond : n / 4 % 256 = b := by omega
  have hzeros : n % 4 = 0 := by omega
  have hsixes : bits 18 n = bits 6 (n / 4096) ++ (bits 6 (n / 64 % 64) ++ bits 6 (n % 64)) := by
    rw [bits_mod 6 (n / 64), bits_mod 6 n, bits_add 6 12, bits_add 6 6]
  have heights : bits 18 n = bits 8 (n / 1024) ++ (bits 8 (n / 4 % 256) ++ bits 2 (n % 4)) := by
    rw [bits_mod 8 (n / 4), bits_mod 2 n, bits_add 8 10, bits_add 8 2]
  rw [← hsixes, heights, hfirst, hsecond, hzeros]
  rfl

/-- The bits of a byte and four zeros are those of two characters. -/
theorem bits_one (a : Nat) :
    let n := a * 16
    bits 6 (n / 64) ++ bits 6 (n % 64) = bits 8 a ++ [false, false, false, false] := by
  intro n
  have hfirst : n / 16 = a := by omega
  have hzeros : n % 16 = 0 := by omega
  have hsixes : bits 12 n = bits 6 (n / 64) ++ bits 6 (n % 64) := by
    rw [bits_mod 6 n, bits_add 6 6]
  have heights : bits 12 n = bits 8 (n / 16) ++ bits 4 (n % 16) := by
    rw [bits_mod 4 n, bits_add 8 4]
  rw [← hsixes, heights, hfirst, hzeros]
  rfl

/-! ### The form -/

theorem map_digit {ns : List Nat} (h : ∀ n ∈ ns, n < 64) :
    (ns.map digit).map some = ns.map (alphabet[·]?) := by
  rw [List.map_map]
  exact List.map_congr_left fun n hn => (getElem?_alphabet (h n hn)).symm

/-- Bytes in front whose bits are those of whole characters. -/
theorem IsForm.append {bytes rest : List UInt8} {group : List Nat} {text : List Char}
    (h : IsForm rest text) (hgroup : ∀ n ∈ group, n < 64)
    (hbits : allBits 6 group = allBits 8 (bytes.map UInt8.toNat)) :
    IsForm (bytes ++ rest) (group.map digit ++ text) := by
  obtain ⟨sixes, front, padding, hfront, hpadding, hrest, rfl⟩ := h
  refine ⟨group ++ sixes, group.map digit ++ front, padding, ?_, hpadding, ?_, ?_⟩
  · rw [List.map_append, List.map_append, map_digit hgroup, hfront]
  · rw [allBits_append, hbits, hrest, List.map_append, allBits_append, List.append_assoc]
  · rw [List.append_assoc]

/-- What is encoded is the form of the bytes. -/
theorem isForm_encode (bytes : List UInt8) : IsForm bytes (encode bytes) := by
  have hbyte : ∀ b : UInt8, b.toNat < 256 := fun b => b.toNat_lt
  induction bytes using encode.induct with
  | case1 => exact ⟨[], [], 0, rfl, by decide, rfl, rfl⟩
  | case2 a =>
    have ha := hbyte a
    let n := a.toNat * 16
    have hn : n < 4096 := by
      change a.toNat * 16 < 4096
      omega
    have hsixes : ∀ m ∈ [n / 64, n % 64], m < 64 := by
      simp only [List.mem_cons, List.not_mem_nil, or_false, forall_eq_or_imp, forall_eq]
      omega
    refine ⟨[n / 64, n % 64], _, 2, map_digit hsixes, by decide, ?_, rfl⟩
    simpa [allBits] using bits_one a.toNat
  | case3 a b =>
    have ha := hbyte a
    have hb := hbyte b
    let n := (a.toNat * 256 + b.toNat) * 4
    have hn : n < 262144 := by
      change (a.toNat * 256 + b.toNat) * 4 < 262144
      omega
    have hsixes : ∀ m ∈ [n / 4096, n / 64 % 64, n % 64], m < 64 := by
      simp only [List.mem_cons, List.not_mem_nil, or_false, forall_eq_or_imp, forall_eq]
      omega
    refine ⟨[n / 4096, n / 64 % 64, n % 64], _, 1, map_digit hsixes, by decide, ?_, rfl⟩
    simpa [allBits] using bits_two hb
  | case4 a b c rest ih =>
    have ha := hbyte a
    have hb := hbyte b
    have hc := hbyte c
    let n := (a.toNat * 256 + b.toNat) * 256 + c.toNat
    have hn : n < 16777216 := by
      change (a.toNat * 256 + b.toNat) * 256 + c.toNat < 16777216
      omega
    let group := [n / 262144, n / 4096 % 64, n / 64 % 64, n % 64]
    have hsixes : ∀ m ∈ group, m < 64 := by
      simp only [group, List.mem_cons, List.not_mem_nil, or_false, forall_eq_or_imp, forall_eq]
      omega
    have hgroup : allBits 6 group = allBits 8 ([a, b, c].map UInt8.toNat) := by
      simpa [allBits, group] using bits_three hb hc
    exact ih.append hsixes hgroup

theorem lt_of_map_some_eq {sixes : List Nat} {front : List Char}
    (h : front.map some = sixes.map (alphabet[·]?)) : ∀ n ∈ sixes, n < 64 := by
  intro n hn
  have hmem : alphabet[n]? ∈ front.map some := by
    rw [h]
    exact List.mem_map_of_mem hn
  obtain ⟨c, -, hc⟩ := List.mem_map.1 hmem
  have hlength : alphabet.length = 64 := by decide +kernel
  exact hlength ▸ (List.getElem?_eq_some_iff.1 hc.symm).1

/-- There is only one form. -/
theorem IsForm.unique {bytes : List UInt8} {text text' : List Char} (h : IsForm bytes text)
    (h' : IsForm bytes text') : text = text' := by
  obtain ⟨sixes, front, padding, hfront, hpadding, hbits, rfl⟩ := h
  obtain ⟨sixes', front', padding', hfront', hpadding', hbits', rfl⟩ := h'
  -- The padding follows from the number of bytes, by counting bits.
  have hlength := congrArg List.length hbits
  have hlength' := congrArg List.length hbits'
  rw [List.length_append, length_allBits, length_allBits, List.length_replicate] at hlength hlength'
  obtain rfl : padding = padding' := by omega
  obtain rfl : sixes = sixes' :=
    eq_of_allBits_eq (lt_of_map_some_eq hfront) (lt_of_map_some_eq hfront')
      (hbits.trans hbits'.symm)
  have hsame : front = front' :=
    List.map_injective_iff.2 (Option.some_injective Char) (hfront.trans hfront'.symm)
  rw [hsame]

/-- The form of some bytes is what is encoded. -/
theorem isForm_iff {bytes : List UInt8} {text : List Char} :
    IsForm bytes text ↔ text = encode bytes := by
  constructor
  · intro h
    exact h.unique (isForm_encode bytes)
  · rintro rfl
    exact isForm_encode bytes

/-- Five bytes are written in two groups, of which the second is padded. -/
example : String.ofList (encode [0, 117, 0, 112, 119]) = "AHUAcHc=" := by decide +kernel

end AlertRelay.Base64
