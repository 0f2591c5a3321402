import AlertRelay.Text.Utf8
import Mathlib.Tactic.Common
import Mathlib.Tactic.SplitIfs

/-!
# Texts and their bytes

Bytes are read as the text that they are the bytes of, and as no other: `decode_eq_ok_iff`. The
bytes at the head of a list that are taken for a character are the bytes of this character
(`exists_encodeChar_of_scan`), and the bytes of a character are taken for it, whatever stands behind
them (`scan_encodeChar`).

Texts in the order of their characters are also in the order of their bytes (`encode_lt_encode`).
The first byte of a character grows with the width of its code, and among codes of one width the
bytes are digits to the base 64, the most significant one first.
-/

namespace AlertRelay.Utf8

variable {b b₁ b₂ b₃ : UInt8} {bytes rest : List UInt8} {c d : Char} {cs ds : List Char}
  {width index skip n : Nat}

/-! ### Characters as numbers -/

/-- The bytes of the character with a given code. -/
def codeBytes (n : Nat) : List UInt8 :=
  if n < 0x80 then [UInt8.ofNat n]
  else if n < 0x800 then [UInt8.ofNat (0xC0 + n / 64), UInt8.ofNat (0x80 + n % 64)]
  else if n < 0x10000 then
    [UInt8.ofNat (0xE0 + n / 4096), UInt8.ofNat (0x80 + n / 64 % 64), UInt8.ofNat (0x80 + n % 64)]
  else
    [UInt8.ofNat (0xF0 + n / 262144), UInt8.ofNat (0x80 + n / 4096 % 64),
      UInt8.ofNat (0x80 + n / 64 % 64), UInt8.ofNat (0x80 + n % 64)]

theorem encodeChar_eq (c : Char) : encodeChar c = codeBytes c.toNat := by
  have hzero : Nat.pow 64 0 = 1 := rfl
  have hone : Nat.pow 64 1 = 64 := rfl
  have hsquare : Nat.pow 64 2 = 4096 := rfl
  have hcube : Nat.pow 64 3 = 262144 := rfl
  simp only [encodeChar, hzero, hone, hsquare, hcube, Nat.div_one, codeBytes]

theorem encodeChar_ofNat (h : n.isValidChar) : encodeChar (Char.ofNat n) = codeBytes n := by
  have hcode : (Char.ofNat n).toNat = n := by
    rw [Char.ofNat, dif_pos h]
    rfl
  rw [encodeChar_eq, hcode]

theorem encodeChar_of_ascii (h : c.toNat < 0x80) : encodeChar c = [UInt8.ofNat c.toNat] := by
  rw [encodeChar_eq, codeBytes, if_pos h]

/-- A byte that is an ASCII character is part of no other character. -/
theorem toNat_eq_of_mem_encodeChar (h : b ∈ encodeChar c) (hb : b.toNat < 0x80) :
    c.toNat = b.toNat := by
  have hvalid : c.toNat < 0xD800 ∨ 0xDFFF < c.toNat ∧ c.toNat < 0x110000 := c.valid
  rw [encodeChar_eq, codeBytes] at h
  split_ifs at h <;>
    simp only [List.mem_cons, List.not_mem_nil, or_false, ← UInt8.toNat_inj,
      UInt8.toNat_ofNat'] at h <;>
    omega

theorem encodeChar_ne_nil (c : Char) : encodeChar c ≠ [] := by
  rw [encodeChar_eq, codeBytes]
  split_ifs <;> exact List.cons_ne_nil _ _

/-! ### What a lead byte says -/

theorem lead_one (h : b.toNat < 0x80) : lead b = some (1, 0x80, 0xBF) :=
  if_pos (UInt8.lt_iff_toNat_lt.2 h)

theorem lead_two (hmin : 0xC2 ≤ b.toNat) (hmax : b.toNat < 0xE0) :
    lead b = some (2, 0x80, 0xBF) := by
  unfold lead
  simp only [UInt8.lt_iff_toNat_lt, UInt8.toNat_ofNat, Nat.reducePow, Nat.reduceMod]
  rw [if_neg (by omega), if_neg (by omega), if_pos (by omega)]

theorem lead_three (hmin : 0xE0 ≤ b.toNat) (hmax : b.toNat < 0xF0) :
    lead b = some (3, if b = 0xE0 then 0xA0 else 0x80, if b = 0xED then 0x9F else 0xBF) := by
  unfold lead
  simp only [UInt8.lt_iff_toNat_lt, beq_iff_eq, ← UInt8.toNat_inj, UInt8.toNat_ofNat,
    Nat.reducePow, Nat.reduceMod]
  split_ifs <;> first | rfl | omega

theorem lead_four (hmin : 0xF0 ≤ b.toNat) (hmax : b.toNat < 0xF5) :
    lead b = some (4, if b = 0xF0 then 0x90 else 0x80, if b = 0xF4 then 0x8F else 0xBF) := by
  unfold lead
  simp only [UInt8.lt_iff_toNat_lt, beq_iff_eq, ← UInt8.toNat_inj, UInt8.toNat_ofNat,
    Nat.reducePow, Nat.reduceMod]
  split_ifs <;> first | rfl | omega

theorem lead_eq_none (h : 0x80 ≤ b.toNat ∧ b.toNat < 0xC2 ∨ 0xF5 ≤ b.toNat) : lead b = none := by
  unfold lead
  simp only [UInt8.lt_iff_toNat_lt, beq_iff_eq, ← UInt8.toNat_inj, UInt8.toNat_ofNat,
    Nat.reducePow, Nat.reduceMod]
  split_ifs <;> first | rfl | omega

theorem isTail_iff : isTail b = true ↔ 0x80 ≤ b.toNat ∧ b.toNat ≤ 0xBF := by
  simp [isTail, UInt8.le_iff_toNat_le]

/-- The second of three bytes: the form is the shortest one, and the character is no surrogate. -/
def IsSecondOfThree (b b₁ : UInt8) : Prop :=
  (if b = 0xE0 then 0xA0 else 0x80) ≤ b₁ ∧ b₁ ≤ if b = 0xED then 0x9F else 0xBF

/-- The second of four bytes: the form is the shortest one, and there is such a character. -/
def IsSecondOfFour (b b₁ : UInt8) : Prop :=
  (if b = 0xF0 then 0x90 else 0x80) ≤ b₁ ∧ b₁ ≤ if b = 0xF4 then 0x8F else 0xBF

theorem isSecondOfThree_iff : IsSecondOfThree b b₁ ↔
    (0x80 ≤ b₁.toNat ∧ b₁.toNat ≤ 0xBF) ∧ (b.toNat = 0xE0 → 0xA0 ≤ b₁.toNat) ∧
      (b.toNat = 0xED → b₁.toNat ≤ 0x9F) := by
  simp only [IsSecondOfThree, UInt8.le_iff_toNat_le, ← UInt8.toNat_inj, apply_ite UInt8.toNat,
    UInt8.toNat_ofNat, Nat.reducePow, Nat.reduceMod]
  split_ifs <;> omega

theorem isSecondOfFour_iff : IsSecondOfFour b b₁ ↔
    (0x80 ≤ b₁.toNat ∧ b₁.toNat ≤ 0xBF) ∧ (b.toNat = 0xF0 → 0x90 ≤ b₁.toNat) ∧
      (b.toNat = 0xF4 → b₁.toNat ≤ 0x8F) := by
  simp only [IsSecondOfFour, UInt8.le_iff_toNat_le, ← UInt8.toNat_inj, apply_ite UInt8.toNat,
    UInt8.toNat_ofNat, Nat.reducePow, Nat.reduceMod]
  split_ifs <;> omega

/-! ### Single characters -/

theorem scan_one_iff (h : b.toNat < 0x80) :
    scan b rest = .char c width ↔ Char.ofNat b.toNat = c ∧ width = 1 := by
  simp only [scan, lead_one h]
  grind

theorem scan_two_iff (hmin : 0xC2 ≤ b.toNat) (hmax : b.toNat < 0xE0) :
    scan b rest = .char c width ↔ ∃ b₁ more, rest = b₁ :: more ∧ isTail b₁ = true ∧
      Char.ofNat (shift (b.toNat - 0xC0) b₁) = c ∧ width = 2 := by
  simp only [scan, lead_two hmin hmax, isTail]
  cases rest <;> grind

theorem scan_three_iff (hmin : 0xE0 ≤ b.toNat) (hmax : b.toNat < 0xF0) :
    scan b rest = .char c width ↔ ∃ b₁ b₂ more, rest = b₁ :: b₂ :: more ∧
      IsSecondOfThree b b₁ ∧ isTail b₂ = true ∧
      Char.ofNat (shift (shift (b.toNat - 0xE0) b₁) b₂) = c ∧ width = 3 := by
  simp only [scan, lead_three hmin hmax, IsSecondOfThree]
  match rest with
  | [] => simp
  | [b₁] => grind
  | b₁ :: b₂ :: more => grind

theorem scan_four_iff (hmin : 0xF0 ≤ b.toNat) (hmax : b.toNat < 0xF5) :
    scan b rest = .char c width ↔ ∃ b₁ b₂ b₃ more, rest = b₁ :: b₂ :: b₃ :: more ∧
      IsSecondOfFour b b₁ ∧ isTail b₂ = true ∧ isTail b₃ = true ∧
      Char.ofNat (shift (shift (shift (b.toNat - 0xF0) b₁) b₂) b₃) = c ∧ width = 4 := by
  simp only [scan, lead_four hmin hmax, IsSecondOfFour]
  match rest with
  | [] => simp
  | [b₁] => grind
  | [b₁, b₂] => grind
  | b₁ :: b₂ :: b₃ :: more => grind

theorem scan_eq_bad (h : 0x80 ≤ b.toNat ∧ b.toNat < 0xC2 ∨ 0xF5 ≤ b.toNat) :
    scan b rest = .bad 1 := by
  simp only [scan, lead_eq_none h]

theorem encodeChar_two (hmin : 0xC2 ≤ b.toNat) (hmax : b.toNat < 0xE0) (h₁ : isTail b₁ = true) :
    encodeChar (Char.ofNat (shift (b.toNat - 0xC0) b₁)) = [b, b₁] := by
  rw [isTail_iff] at h₁
  unfold shift
  rw [encodeChar_ofNat (Or.inl (by omega)), codeBytes, if_neg (by omega), if_pos (by omega)]
  simp only [List.cons.injEq, ← UInt8.toNat_inj, UInt8.toNat_ofNat', and_true]
  omega

theorem encodeChar_three (hmin : 0xE0 ≤ b.toNat) (hmax : b.toNat < 0xF0)
    (h₁ : IsSecondOfThree b b₁) (h₂ : isTail b₂ = true) :
    encodeChar (Char.ofNat (shift (shift (b.toNat - 0xE0) b₁) b₂)) = [b, b₁, b₂] := by
  rw [isSecondOfThree_iff] at h₁
  rw [isTail_iff] at h₂
  have hvalid : (shift (shift (b.toNat - 0xE0) b₁) b₂).isValidChar := by
    unfold shift Nat.isValidChar
    omega
  rw [encodeChar_ofNat hvalid]
  unfold shift
  rw [codeBytes, if_neg (by omega), if_neg (by omega), if_pos (by omega)]
  simp only [List.cons.injEq, ← UInt8.toNat_inj, UInt8.toNat_ofNat', and_true]
  omega

theorem encodeChar_four (hmin : 0xF0 ≤ b.toNat) (hmax : b.toNat < 0xF5)
    (h₁ : IsSecondOfFour b b₁) (h₂ : isTail b₂ = true) (h₃ : isTail b₃ = true) :
    encodeChar (Char.ofNat (shift (shift (shift (b.toNat - 0xF0) b₁) b₂) b₃)) =
      [b, b₁, b₂, b₃] := by
  rw [isSecondOfFour_iff] at h₁
  rw [isTail_iff] at h₂ h₃
  have hvalid : (shift (shift (shift (b.toNat - 0xF0) b₁) b₂) b₃).isValidChar := by
    unfold shift Nat.isValidChar
    omega
  rw [encodeChar_ofNat hvalid]
  unfold shift
  rw [codeBytes, if_neg (by omega), if_neg (by omega), if_neg (by omega)]
  simp only [List.cons.injEq, ← UInt8.toNat_inj, UInt8.toNat_ofNat', and_true]
  omega

/-- The bytes that make a character are the bytes of that character. -/
theorem exists_encodeChar_of_scan (h : scan b rest = .char c width) :
    ∃ bs more, rest = bs ++ more ∧ encodeChar c = b :: bs ∧ width = bs.length + 1 := by
  by_cases hone : b.toNat < 0x80
  · obtain ⟨rfl, rfl⟩ := (scan_one_iff hone).1 h
    refine ⟨[], rest, rfl, ?_, rfl⟩
    rw [encodeChar_ofNat (Or.inl (by omega)), codeBytes, if_pos hone, UInt8.ofNat_toNat]
  by_cases hbad : b.toNat < 0xC2 ∨ 0xF5 ≤ b.toNat
  · rw [scan_eq_bad (by omega)] at h
    cases h
  by_cases htwo : b.toNat < 0xE0
  · obtain ⟨b₁, more, rfl, h₁, rfl, rfl⟩ := (scan_two_iff (by omega) htwo).1 h
    exact ⟨[b₁], more, rfl, encodeChar_two (by omega) htwo h₁, rfl⟩
  by_cases hthree : b.toNat < 0xF0
  · obtain ⟨b₁, b₂, more, rfl, h₁, h₂, rfl, rfl⟩ := (scan_three_iff (by omega) hthree).1 h
    exact ⟨[b₁, b₂], more, rfl, encodeChar_three (by omega) hthree h₁ h₂, rfl⟩
  · obtain ⟨b₁, b₂, b₃, more, rfl, h₁, h₂, h₃, rfl, rfl⟩ :=
      (scan_four_iff (by omega) (by omega)).1 h
    exact ⟨[b₁, b₂, b₃], more, rfl, encodeChar_four (by omega) (by omega) h₁ h₂ h₃, rfl⟩

/-- The bytes of a character make that character, whatever stands behind them. -/
theorem scan_encodeChar {bs : List UInt8} (h : encodeChar c = b :: bs) (more : List UInt8) :
    scan b (bs ++ more) = .char c (bs.length + 1) := by
  have hvalid : c.toNat < 0xD800 ∨ 0xDFFF < c.toNat ∧ c.toNat < 0x110000 := c.valid
  have hchar : ∀ {n : Nat}, n = c.toNat → Char.ofNat n = c := by
    rintro n rfl
    exact Char.ofNat_toNat c
  have hbyte : ∀ {n : Nat} {b : UInt8}, n < 256 → UInt8.ofNat n = b → b.toNat = n := by
    rintro n b hn rfl
    rw [UInt8.toNat_ofNat', Nat.mod_eq_of_lt hn]
  rw [encodeChar_eq, codeBytes] at h
  -- One case for each width. The bytes get names, and are numbers from then on.
  split_ifs at h with hone htwo hthree <;> obtain ⟨hb, hbs⟩ := List.cons.inj h
  · replace hb := hbyte (by omega) hb
    subst hbs
    exact (scan_one_iff (by omega)).2 ⟨hchar hb, rfl⟩
  · generalize hb₁ : UInt8.ofNat (0x80 + c.toNat % 64) = b₁ at hbs
    replace hb := hbyte (by omega) hb
    replace hb₁ := hbyte (by omega) hb₁
    subst hbs
    refine (scan_two_iff (by omega) (by omega)).2
      ⟨b₁, more, rfl, isTail_iff.2 (by omega), hchar ?_, rfl⟩
    unfold shift
    omega
  · generalize hb₁ : UInt8.ofNat (0x80 + c.toNat / 64 % 64) = b₁ at hbs
    generalize hb₂ : UInt8.ofNat (0x80 + c.toNat % 64) = b₂ at hbs
    replace hb := hbyte (by omega) hb
    replace hb₁ := hbyte (by omega) hb₁
    replace hb₂ := hbyte (by omega) hb₂
    subst hbs
    refine (scan_three_iff (by omega) (by omega)).2 ⟨b₁, b₂, more, rfl,
      isSecondOfThree_iff.2 (by omega), isTail_iff.2 (by omega), hchar ?_, rfl⟩
    unfold shift
    omega
  · generalize hb₁ : UInt8.ofNat (0x80 + c.toNat / 4096 % 64) = b₁ at hbs
    generalize hb₂ : UInt8.ofNat (0x80 + c.toNat / 64 % 64) = b₂ at hbs
    generalize hb₃ : UInt8.ofNat (0x80 + c.toNat % 64) = b₃ at hbs
    replace hb := hbyte (by omega) hb
    replace hb₁ := hbyte (by omega) hb₁
    replace hb₂ := hbyte (by omega) hb₂
    replace hb₃ := hbyte (by omega) hb₃
    subst hbs
    refine (scan_four_iff (by omega) (by omega)).2 ⟨b₁, b₂, b₃, more, rfl,
      isSecondOfFour_iff.2 (by omega), isTail_iff.2 (by omega), isTail_iff.2 (by omega),
      hchar ?_, rfl⟩
    unfold shift
    omega

/-! ### Texts -/

@[simp] theorem encode_nil : encode [] = [] := rfl

theorem encode_cons (c : Char) (cs : List Char) : encode (c :: cs) = encodeChar c ++ encode cs :=
  List.flatMap_cons

theorem encode_append (cs ds : List Char) : encode (cs ++ ds) = encode cs ++ encode ds :=
  List.flatMap_append

/-- A byte that is an ASCII character stands for this character. -/
theorem exists_mem_of_mem_encode (h : b ∈ encode cs) (hb : b.toNat < 0x80) :
    ∃ c ∈ cs, c.toNat = b.toNat := by
  obtain ⟨c, hc, hmem⟩ := List.mem_flatMap.1 h
  exact ⟨c, hc, toNat_eq_of_mem_encodeChar hmem hb⟩

/-- The rest of a character is passed over. -/
theorem decodeFrom_append (index : Nat) (bs more : List UInt8) :
    decodeFrom index bs.length (bs ++ more) = decodeFrom (index + bs.length) 0 more := by
  induction bs generalizing index with
  | nil => rfl
  | cons b bs ih =>
    rw [List.cons_append, List.length_cons, decodeFrom, ih]
    congr 1
    omega

theorem decodeFrom_encode (index : Nat) (cs : List Char) :
    decodeFrom index 0 (encode cs) = .ok cs := by
  induction cs generalizing index with
  | nil => rfl
  | cons c cs ih =>
    obtain ⟨b, bs, hc⟩ := List.exists_cons_of_ne_nil (encodeChar_ne_nil c)
    rw [encode_cons, hc, List.cons_append, decodeFrom, scan_encodeChar hc]
    simp only [Nat.add_sub_cancel, decodeFrom_append, ih]
    rfl

theorem encode_of_decodeFrom (h : decodeFrom index skip bytes = .ok cs) :
    encode cs = bytes.drop skip := by
  induction bytes generalizing index skip cs with
  | nil =>
    cases h
    rw [List.drop_nil, encode_nil]
  | cons b rest ih =>
    cases skip with
    | succ skip => exact ih h
    | zero =>
      rw [decodeFrom] at h
      split at h
      · rename_i c width hscan
        cases hrest : decodeFrom (index + 1) (width - 1) rest with
        | error fault =>
          rw [hrest] at h
          cases h
        | ok cs =>
          rw [hrest] at h
          cases h
          obtain ⟨bs, more, rfl, hc, rfl⟩ := exists_encodeChar_of_scan hscan
          rw [encode_cons, hc, ih hrest, Nat.add_sub_cancel, List.drop_left]
          rfl
      · cases h
      · cases h

/-- Bytes are read as a text exactly if they are its bytes. -/
theorem decode_eq_ok_iff : decode bytes = .ok cs ↔ encode cs = bytes := by
  constructor
  · intro h
    rw [encode_of_decodeFrom h, List.drop_zero]
  · rintro rfl
    exact decodeFrom_encode 0 cs

/-! ### Order -/

/-- Different characters decide the order of the bytes, whatever stands behind them. -/
theorem encodeChar_append_lt (h : c < d) (xs ys : List UInt8) :
    encodeChar c ++ xs < encodeChar d ++ ys := by
  have hlt : c.toNat < d.toNat := h
  have hd : d.toNat < 0x110000 := by
    rcases d.valid with hlow | ⟨-, hhigh⟩
    · exact Nat.lt_trans hlow (by decide)
    · exact hhigh
  rw [encodeChar_eq, encodeChar_eq, codeBytes, codeBytes]
  -- One case for each pair of widths. No byte is cut off, so the bytes are compared as numbers.
  split_ifs <;>
    simp only [List.cons_append, List.nil_append, List.cons_lt_cons_iff, UInt8.lt_iff_toNat_lt,
      ← UInt8.toNat_inj, UInt8.toNat_ofNat'] <;>
    simp (disch := omega) only [Nat.mod_eq_of_lt] <;>
    omega

/-- Texts in the order of their characters are in the order of their bytes. -/
theorem encode_lt_encode (h : cs < ds) : encode cs < encode ds := by
  induction h with
  | @nil d ds =>
    obtain ⟨b, bs, hbytes⟩ := List.exists_cons_of_ne_nil (encodeChar_ne_nil d)
    rw [encode_cons, hbytes]
    exact List.nil_lt_cons _ _
  | rel hlt => exact encodeChar_append_lt hlt _ _
  | cons _ ih => exact List.append_left_lt ih

end AlertRelay.Utf8
