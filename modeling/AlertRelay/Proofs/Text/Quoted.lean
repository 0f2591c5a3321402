import AlertRelay.Proofs.Text.Digits
import AlertRelay.Text.Quoted

/-!
# Quoted text can be told from its surroundings

A written form is self-delimiting for some key if, wherever two of them stand at the head of equal
texts, they were written for the same key and the same is left behind them (`SelfDelimiting`).
Quoted text is, for the text that is quoted: each character is read back from its written form
(`unquoteChar?_quoteChar`), and none of these begins with the quote that ends the text
(`selfDelimiting_quoteChars`). No control character is left in it (`isControl_of_mem_quoteChars`).
-/

namespace AlertRelay.Text

/-- Where two written forms stand at the head of equal texts, their keys are equal and so is what is
behind them. -/
def SelfDelimiting {α κ : Type} (write : α → List Char) (key : α → κ) : Prop :=
  ∀ a b rest rest', write a ++ rest = write b ++ rest' → key a = key b ∧ rest = rest'

namespace SelfDelimiting

variable {α κ : Type} {write : α → List Char} {key : α → κ}

/-- A written form is self-delimiting if it is read back whatever stands behind it. -/
theorem of_read {read : List Char → Option (κ × List Char)}
    (h : ∀ a rest, read (write a ++ rest) = some (key a, rest)) : SelfDelimiting write key := by
  intro a b rest rest' heq
  have hread : some (key a, rest) = some (key b, rest') := by
    rw [← h a rest, heq, h b rest']
  exact Prod.mk.inj (Option.some.inj hread)

/-- Some written forms one after the other are self-delimiting if something stands behind them with
which none of them begins. -/
theorem flatMap_append (h : SelfDelimiting write key) {stop : List Char}
    (hstop : ∀ a rest rest', write a ++ rest ≠ stop ++ rest') :
    SelfDelimiting (fun as : List α => as.flatMap write ++ stop) (List.map key) := by
  intro as bs rest rest' heq
  simp only [List.append_assoc] at heq
  induction as generalizing bs with
  | nil =>
    cases bs with
    | nil => exact ⟨rfl, List.append_cancel_left heq⟩
    | cons b bs =>
      rw [List.flatMap_cons, List.append_assoc] at heq
      exact absurd heq.symm (hstop b _ _)
  | cons a as ih =>
    cases bs with
    | nil =>
      rw [List.flatMap_cons, List.append_assoc] at heq
      exact absurd heq (hstop a _ _)
    | cons b bs =>
      rw [List.flatMap_cons, List.flatMap_cons, List.append_assoc, List.append_assoc] at heq
      obtain ⟨hkey, hbehind⟩ := h a b _ _ heq
      obtain ⟨hkeys, hrest⟩ := ih bs hbehind
      exact ⟨List.cons_eq_cons.2 ⟨hkey, hkeys⟩, hrest⟩

/-- Written forms that are not empty can be told from each other one after the other. -/
theorem map_eq_of_flatMap_eq (h : SelfDelimiting write key) (hne : ∀ a, write a ≠ [])
    {as bs : List α} (heq : as.flatMap write = bs.flatMap write) : as.map key = bs.map key := by
  induction as generalizing bs with
  | nil =>
    cases bs with
    | nil => rfl
    | cons b bs =>
      rw [List.flatMap_nil, List.flatMap_cons] at heq
      exact absurd (List.append_eq_nil_iff.1 heq.symm).1 (hne b)
  | cons a as ih =>
    cases bs with
    | nil =>
      rw [List.flatMap_nil, List.flatMap_cons] at heq
      exact absurd (List.append_eq_nil_iff.1 heq).1 (hne a)
    | cons b bs =>
      rw [List.flatMap_cons, List.flatMap_cons] at heq
      obtain ⟨hkey, hrest⟩ := h a b _ _ heq
      exact List.cons_eq_cons.2 ⟨hkey, ih hrest⟩

end SelfDelimiting

/-! ### Codes in braces -/

/-- The number that a row of hexadecimal digits stands for. -/
def hexNumber (cs : List Char) : Nat :=
  cs.foldl (fun n c => 16 * n + (hexValue? c).getD 0) 0

theorem hexValue?_digitChar {n : Nat} (hn : n < 16) : hexValue? n.digitChar = some n := by
  interval_cases n <;> rfl

/-- The digits of a number are those of a hexadecimal number. -/
theorem exists_digitChar_of_mem_hexDigits {c : Char} {n : Nat} (h : c ∈ hexDigits n) :
    ∃ d < 16, c = d.digitChar := by
  induction n using Nat.strong_induction_on with
  | _ n ih =>
    unfold hexDigits at h ih
    by_cases hn : n < 16
    · rw [Nat.toDigits_of_lt_base hn] at h
      exact ⟨n, hn, List.mem_singleton.1 h⟩
    · rw [Nat.toDigits_of_base_le (by decide) (Nat.le_of_not_lt hn)] at h
      rcases List.mem_append.1 h with hhigh | hlow
      · exact ih (n / 16) (by omega) hhigh
      · exact ⟨n % 16, Nat.mod_lt n (by decide), List.mem_singleton.1 hlow⟩

/-- A number is read back from its hexadecimal digits. -/
theorem hexNumber_hexDigits (n : Nat) : hexNumber (hexDigits n) = n := by
  induction n using Nat.strong_induction_on with
  | _ n ih =>
    unfold hexDigits hexNumber at ih ⊢
    by_cases hn : n < 16
    · rw [Nat.toDigits_of_lt_base hn, List.foldl_cons, List.foldl_nil, hexValue?_digitChar hn]
      exact Nat.zero_add n
    · have hmod : n % 16 < 16 := Nat.mod_lt n (by decide)
      rw [Nat.toDigits_of_base_le (by decide) (Nat.le_of_not_lt hn), List.foldl_append,
        ih (n / 16) (by omega), List.foldl_cons, List.foldl_nil, hexValue?_digitChar hmod]
      exact Nat.div_add_mod n 16

/-! ### Characters -/

/-- The character that quoted text shows first, and what is left behind it. -/
def unquoteChar? : List Char → Option (Char × List Char)
  | [] => none
  | '\\' :: 'u' :: rest =>
    let digits := (rest.drop 1).takeWhile (· != '\x7d')
    some (Char.ofNat (hexNumber digits), rest.drop (digits.length + 2))
  | '\\' :: '0' :: rest => some ('\x00', rest)
  | '\\' :: 't' :: rest => some ('\t', rest)
  | '\\' :: 'r' :: rest => some ('\r', rest)
  | '\\' :: 'n' :: rest => some ('\n', rest)
  | '\\' :: c :: rest => some (c, rest)
  | c :: rest => some (c, rest)

/-- A code in braces is read up to the brace. -/
theorem unquoteChar?_code (c : Char) (rest : List Char) :
    unquoteChar? ('\\' :: 'u' :: '\x7b' :: (hexDigits c.toNat ++ '\x7d' :: rest)) =
      some (c, rest) := by
  have hdigits : ∀ d ∈ hexDigits c.toNat, (d != '\x7d') = true := by
    intro d hd
    obtain ⟨n, hn, rfl⟩ := exists_digitChar_of_mem_hexDigits hd
    interval_cases n <;> rfl
  have htake : (hexDigits c.toNat ++ '\x7d' :: rest).takeWhile (· != '\x7d') =
      hexDigits c.toNat := by
    rw [List.takeWhile_append_of_pos hdigits, List.takeWhile_cons_of_neg (by decide),
      List.append_nil]
  have hdrop : (hexDigits c.toNat ++ '\x7d' :: rest).drop ((hexDigits c.toNat).length + 1) =
      rest := by
    rw [List.drop_append, List.drop_of_length_le (Nat.le_succ _), Nat.add_sub_cancel_left]
    rfl
  simp only [unquoteChar?, List.drop_succ_cons, List.drop_zero, htake, hexNumber_hexDigits,
    Char.ofNat_toNat, hdrop]

/-- Each character is read back from its written form. -/
theorem unquoteChar?_quoteChar (c : Char) (rest : List Char) :
    unquoteChar? (quoteChar c ++ rest) = some (c, rest) := by
  unfold quoteChar
  split_ifs with hnul htab hreturn hfeed hquote hback hhidden
  · rw [hnul]; rfl
  · rw [htab]; rfl
  · rw [hreturn]; rfl
  · rw [hfeed]; rfl
  · rw [hquote]; rfl
  · rw [hback]; rfl
  · simpa using unquoteChar?_code c rest
  · rw [List.singleton_append, unquoteChar?.eq_def]
    split
    case h_1 heq => cases heq
    case h_8 heq =>
      obtain ⟨rfl, rfl⟩ := List.cons.inj heq
      rfl
    all_goals
      rename_i heq
      exact absurd (List.cons.inj heq).1 hback

/-- No character of quoted text is written like the quote that ends it. -/
theorem head?_quoteChar_ne (c : Char) : ∃ d cs, quoteChar c = d :: cs ∧ d ≠ '"' := by
  unfold quoteChar
  split_ifs with hnul htab hreturn hfeed hquote hback hhidden
  all_goals first | exact ⟨_, _, rfl, by decide⟩ | exact ⟨_, _, rfl, hquote⟩

/-- Quoted text is told from whatever stands behind it. -/
theorem selfDelimiting_quoteChars : SelfDelimiting quoteChars id := by
  intro cs ds rest rest' heq
  have hchars : SelfDelimiting quoteChar id := .of_read unquoteChar?_quoteChar
  have hstop : ∀ c rest rest', quoteChar c ++ rest ≠ ['"'] ++ rest' := by
    intro c rest rest' heq
    obtain ⟨d, cs, hc, hd⟩ := head?_quoteChar_ne c
    rw [hc] at heq
    exact hd (List.cons.inj heq).1
  have hbehind := (List.cons.inj heq).2
  have htexts := hchars.flatMap_append hstop cs ds rest rest' hbehind
  rwa [List.map_id, List.map_id] at htexts

/-! ### Control characters -/

theorem isControl_of_mem_hexDigits {c : Char} {n : Nat} (h : c ∈ hexDigits n) :
    isControl c = false := by
  obtain ⟨d, hd, rfl⟩ := exists_digitChar_of_mem_hexDigits h
  interval_cases d <;> rfl

/-- No control character is left in the written form of a character. -/
theorem isControl_of_mem_quoteChar {c d : Char} (h : d ∈ quoteChar c) : isControl d = false := by
  have hshort : ∀ e, isControl e = false → d ∈ ['\\', e] → isControl d = false := by
    intro e he hd
    rcases List.mem_cons.1 hd with rfl | hd
    · rfl
    · rwa [List.mem_singleton.1 hd]
  unfold quoteChar at h
  split_ifs at h with hnul htab hreturn hfeed hquote hback hhidden
  · exact hshort '0' rfl h
  · exact hshort 't' rfl h
  · exact hshort 'r' rfl h
  · exact hshort 'n' rfl h
  · exact hshort '"' rfl h
  · exact hshort '\\' rfl h
  · have hfront : ∀ e ∈ ['\\', 'u', '\x7b'], isControl e = false := by simp [isControl]
    rcases List.mem_append.1 h with h | hend
    · rcases List.mem_append.1 h with hstart | hdigit
      · exact hfront d hstart
      · exact isControl_of_mem_hexDigits hdigit
    · rw [List.mem_singleton.1 hend]
      rfl
  · rw [List.mem_singleton.1 h]
    exact (Bool.or_eq_false_iff.1 (Bool.eq_false_iff.2 hhidden)).1

/-- No control character is left in quoted text. -/
theorem isControl_of_mem_quoteChars {cs : List Char} {d : Char} (h : d ∈ quoteChars cs) :
    isControl d = false := by
  unfold quoteChars at h
  rcases List.mem_cons.1 h with rfl | h
  · rfl
  · rcases List.mem_append.1 h with h | h
    · obtain ⟨c, -, hd⟩ := List.mem_flatMap.1 h
      exact isControl_of_mem_quoteChar hd
    · rw [List.mem_singleton.1 h]
      rfl

end AlertRelay.Text
