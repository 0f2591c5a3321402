import Mathlib.Data.List.TakeWhile
import AlertRelay.Proofs.Text.Digits
import AlertRelay.Time.Timestamp

/-!
# Timestamps that are written and read

Every timestamp that a reader gives is a date and time of day (`Timestamp.isProper_iff`), and such a
timestamp is read back from its text (`Timestamp.read?_text`): years with and without a sign, leap
seconds, and fractions down to the nanosecond, each in the fewest groups of three digits that hold
it (`Timestamp.length_fractionChars_le`). For this the reader is cut into the readers of a date, of
what divides it from the time, and of the time of day (`Timestamp.readChars?_eq`).
-/

namespace AlertRelay

namespace Timestamp

/-- A date that exists with a time of day, in which the second may be a leap second. -/
structure IsProper (t : Timestamp) : Prop where
  date : t.date.isValid = true
  hour : t.hour < 24
  minute : t.minute < 60
  second : t.second ≤ 60
  nanos : t.nanos < 10 ^ 9

variable {c : Char} {cs rest : List Char} {n width : Nat} {t : Timestamp}

/-! ### Numbers -/

theorem skipBlanks_cons (hc : Text.isBlank c = false) (cs : List Char) :
    skipBlanks (c :: cs) = c :: cs := by
  rw [skipBlanks, List.dropWhile_cons_of_neg (by rw [hc]; exact Bool.false_ne_true)]

/-- A number that is written begins with a digit. -/
theorem exists_cons_padded (width n : Nat) :
    ∃ d ds, Text.padded width n = d :: ds ∧ Text.isDigit d = true := by
  cases hdigits : Text.padded width n with
  | nil => exact absurd hdigits (Text.padded_ne_nil width n)
  | cons d ds =>
    have hmem : d ∈ Text.padded width n := by
      rw [hdigits]
      exact List.mem_cons_self
    exact ⟨d, ds, rfl, Text.isDigit_of_mem_padded hmem⟩

/-- There is no blank in front of digits. -/
theorem skipBlanks_padded (width n : Nat) (rest : List Char) :
    skipBlanks (Text.padded width n ++ rest) = Text.padded width n ++ rest := by
  obtain ⟨d, ds, hdigits, hd⟩ := exists_cons_padded width n
  rw [hdigits]
  exact skipBlanks_cons (Text.isBlank_of_isDigit hd) _

theorem isEmpty_padded (width n : Nat) : (Text.padded width n).isEmpty = false := by
  rw [Bool.eq_false_iff, ne_eq, List.isEmpty_iff]
  exact Text.padded_ne_nil width n

/-- A number with all of its digits is read back, whatever follows. -/
theorem readNumber?_padded (hwidth : 0 < width) (hn : n < 10 ^ width) (rest : List Char) :
    readNumber? width (Text.padded width n ++ rest) = some (n, rest) := by
  have hlength := Text.length_padded hwidth hn
  have hnone : Text.NoDigitAhead [] := fun c hc => nomatch hc
  have hall : ∀ c ∈ Text.padded width n, Text.isDigit c = true :=
    fun c hc => Text.isDigit_of_mem_padded hc
  have hdigits : (Text.padded width n).takeWhile Text.isDigit = Text.padded width n := by
    have hrow := Text.takeWhile_digits hall hnone
    rwa [List.append_nil] at hrow
  have htake : (Text.padded width n ++ rest).take width = Text.padded width n := by
    rw [List.take_append_of_le_length (Nat.le_of_eq hlength.symm),
      List.take_of_length_le (Nat.le_of_eq hlength)]
  unfold readNumber?
  simp only [skipBlanks_padded, htake, hdigits, isEmpty_padded, Bool.false_eq_true, if_false,
    Text.digitsValue_padded, List.drop_left]

/-- A separator is read where it stands. -/
theorem readSeparator?_cons (hc : Text.isBlank c = false) (rest : List Char) :
    readSeparator? c (c :: rest) = some rest := by
  rw [readSeparator?, skipBlanks_cons hc]
  exact if_pos rfl

/-! ### Years -/

/-- A year behind its sign. -/
theorem signed_padded (sign : Int) (n : Nat) (h : Text.NoDigitAhead rest) :
    readYear?.signed sign (Text.padded 4 n ++ rest) = some (sign * n, rest) := by
  have hdigits : ∀ c ∈ Text.padded 4 n, Text.isDigit c = true :=
    fun c hc => Text.isDigit_of_mem_padded hc
  unfold readYear?.signed
  simp only [Text.takeWhile_digits hdigits h, Text.dropWhile_digits hdigits h, isEmpty_padded,
    Bool.false_eq_true, if_false, Text.digitsValue_padded]

/-- A year is read back, with or without a sign. -/
theorem readYear?_yearChars (year : Int) (h : Text.NoDigitAhead rest) :
    readYear? (yearChars year ++ rest) = some (year, rest) := by
  unfold yearChars
  split
  · rename_i hyear
    rw [Bool.and_eq_true, decide_eq_true_eq, decide_eq_true_eq] at hyear
    have hnumber : readNumber? 4 (Text.padded 4 year.toNat ++ rest) = some (year.toNat, rest) :=
      readNumber?_padded (by decide) (by omega) rest
    have hskip := skipBlanks_padded 4 year.toNat rest
    obtain ⟨d, ds, hdigits, hd⟩ := exists_cons_padded 4 year.toNat
    unfold readYear?
    rw [hskip]
    -- A digit is no sign.
    split
    · rename_i heq
      rw [hdigits] at heq
      rw [(List.cons.inj heq).1] at hd
      exact absurd hd (by decide)
    · rename_i heq
      rw [hdigits] at heq
      rw [(List.cons.inj heq).1] at hd
      exact absurd hd (by decide)
    · rw [hnumber, Option.map_some]
      dsimp only
      rw [Int.toNat_of_nonneg hyear.1]
  · have hminus : ∀ cs, readYear? ('-' :: cs) = readYear?.signed (-1) cs := fun _ => rfl
    have hplus : ∀ cs, readYear? ('+' :: cs) = readYear?.signed 1 cs := fun _ => rfl
    split
    · rw [List.cons_append, hminus, signed_padded (-1) _ h]
      congr 2
      omega
    · rw [List.cons_append, hplus, signed_padded 1 _ h]
      congr 2
      omega

/-! ### Fractions -/

/-- A fraction of so many digits is read back. -/
theorem readFraction?_padded (hwidth : 0 < width) (hn : n < 10 ^ width) (hnine : width ≤ 9)
    (h : Text.NoDigitAhead rest) :
    readFraction? ('.' :: (Text.padded width n ++ rest)) = some (n * 10 ^ (9 - width), rest) := by
  have hlength := Text.length_padded hwidth hn
  have hdigits : ∀ c ∈ Text.padded width n, Text.isDigit c = true :=
    fun c hc => Text.isDigit_of_mem_padded hc
  rw [readFraction?]
  simp only [Text.takeWhile_digits hdigits h, Text.dropWhile_digits hdigits h, isEmpty_padded,
    Bool.false_eq_true, if_false, fractionValue, hlength,
    List.take_of_length_le (Nat.le_trans (Nat.le_of_eq hlength) hnine), Text.digitsValue_padded]
  rfl

/-- The nanoseconds are read back from the fraction. -/
theorem readFraction?_fractionChars (hn : n < 10 ^ 9) (rest : List Char) :
    readFraction? (fractionChars n ++ 'Z' :: rest) = some (n, 'Z' :: rest) := by
  have hends : Text.NoDigitAhead ('Z' :: rest) := by
    rintro c ⟨⟩
    rfl
  unfold fractionChars
  split
  · rename_i hzero
    rw [hzero]
    rfl
  · split
    · rw [List.cons_append, readFraction?_padded (by decide) (by omega) (by decide) hends]
      congr 2
      omega
    · split
      · rw [List.cons_append, readFraction?_padded (by decide) (by omega) (by decide) hends]
        congr 2
        omega
      · rw [List.cons_append, readFraction?_padded (by decide) hn (by decide) hends]
        congr 2
        omega

/-- The digits of a fraction stand for less than a second. -/
theorem fractionValue_lt {digits : List Char} (h : ∀ c ∈ digits, Text.isDigit c = true) :
    fractionValue digits < 10 ^ 9 := by
  have hvalue : Text.digitsValue (digits.take 9) < 10 ^ (digits.take 9).length :=
    Text.digitsValue_lt fun c hc => h c (List.mem_of_mem_take hc)
  have hpower : (10 : Nat) ^ (digits.take 9).length * 10 ^ (9 - digits.length) = 10 ^ 9 := by
    rw [← Nat.pow_add, List.length_take]
    congr 1
    omega
  rw [fractionValue, ← hpower]
  exact Nat.mul_lt_mul_of_pos_right hvalue (Nat.pow_pos (by decide))

/-- No exact fraction in groups of three digits is shorter than the one that is written. -/
theorem length_fractionChars_le {digits : List Char} (h : ∀ c ∈ digits, Text.isDigit c = true)
    (hthree : 3 ∣ digits.length) :
    (fractionChars (fractionValue digits)).length ≤ 1 + digits.length := by
  have hlt := fractionValue_lt h
  have hpadded : ∀ width n, 0 < width → n < 10 ^ width →
      ('.' :: Text.padded width n).length = width + 1 := by
    intro width n hwidth hn
    rw [List.length_cons, Text.length_padded hwidth hn]
  -- What is left of nine places is filled with zeros.
  have hzeros : ∀ k, k + digits.length ≤ 9 → 10 ^ k ∣ fractionValue digits := by
    intro k hk
    exact Dvd.dvd.mul_left (Nat.pow_dvd_pow 10 (by omega)) _
  unfold fractionChars
  split_ifs with hnone hmillis hmicros
  · exact Nat.zero_le _
  · rw [hpadded 3 _ (by decide) (by omega)]
    by_contra hshort
    exact hnone (Nat.eq_zero_of_dvd_of_lt (hzeros 9 (by omega)) hlt)
  · rw [hpadded 6 _ (by decide) (by omega)]
    by_contra hshort
    exact hmillis (Nat.mod_eq_zero_of_dvd (hzeros 6 (by omega)))
  · rw [hpadded 9 _ (by decide) hlt]
    by_contra hshort
    exact hmicros (Nat.mod_eq_zero_of_dvd (hzeros 3 (by omega)))

/-! ### Date and time of day -/

/-- Reads the date. -/
def readDate? (cs : List Char) : Option (Date × List Char) := do
  let (year, cs) ← readYear? cs
  let cs ← readSeparator? '-' cs
  let (month, cs) ← readNumber? 2 cs
  let cs ← readSeparator? '-' cs
  let (day, cs) ← readNumber? 2 cs
  some (⟨year, month, day⟩, cs)

/-- Reads what stands between the date and the time of day. -/
def readDivider? (cs : List Char) : Option (List Char) :=
  match cs with
  | 'T' :: rest => some rest
  | 't' :: rest => some rest
  | ' ' :: rest => some rest
  | _ => none

/-- Reads the time of day and the offset behind a date. -/
def readClock? (date : Date) (cs : List Char) : Option Timestamp := do
  let (hour, cs) ← readNumber? 2 cs
  let cs ← readSeparator? ':' cs
  let (minute, cs) ← readNumber? 2 cs
  let cs ← readSeparator? ':' cs
  let (second, cs) ← readNumber? 2 cs
  let (nanos, cs) ← readFraction? cs
  let (offset, cs) ← readOffset? (skipBlanks cs)
  if date.isValid && hour < 24 && minute < 60 && second ≤ 60 && offset.natAbs < minutesPerDay.toNat
      && (skipBlanks cs).isEmpty then
    ofLocal? date hour minute second nanos offset
  else none

/-- A timestamp is a date, a divider and a time of day. -/
theorem readChars?_eq (cs : List Char) :
    readChars? cs = (readDate? cs).bind fun (date, cs) =>
      (readDivider? cs).bind (readClock? date) := by
  conv_rhs =>
    simp only [readDate?, Option.bind_eq_bind, Option.bind_assoc, Option.bind_some]
  refine congrArg (Option.bind _) (funext fun ⟨year, cs⟩ => ?_)
  refine congrArg (Option.bind _) (funext fun cs => ?_)
  refine congrArg (Option.bind _) (funext fun ⟨month, cs⟩ => ?_)
  refine congrArg (Option.bind _) (funext fun cs => ?_)
  refine congrArg (Option.bind _) (funext fun ⟨day, cs⟩ => ?_)
  dsimp only
  split
  · rfl
  · rfl
  · rfl
  · rename_i hT ht hb
    have hnone : readDivider? cs = none := by
      unfold readDivider?
      split
      · exact absurd rfl (hT _)
      · exact absurd rfl (ht _)
      · exact absurd rfl (hb _)
      · rfl
    rw [hnone]
    rfl

/-- Nothing is added to a time in UTC. -/
theorem ofLocal?_utc (ht : t.IsProper) :
    ofLocal? t.date t.hour t.minute t.second t.nanos 0 = some t := by
  have hhour := ht.hour
  have hminute := ht.minute
  have hday : minutesPerDay = 1440 := rfl
  have hpast : ¬((t.hour * 60 + t.minute : Int) - 0 < 0) := by omega
  have hahead : ¬(minutesPerDay ≤ (t.hour * 60 + t.minute : Int) - 0) := by omega
  have hminutes : (((t.hour * 60 + t.minute : Int) - 0) % minutesPerDay).toNat =
      t.hour * 60 + t.minute := by
    rw [hday]
    omega
  have hdiv : (t.hour * 60 + t.minute) / 60 = t.hour := by omega
  have hmod : (t.hour * 60 + t.minute) % 60 = t.minute := by omega
  unfold ofLocal?
  simp only [if_neg hpast, if_neg hahead, hminutes, ht.date, if_true, hdiv, hmod]

theorem monthLength_le (year : Int) (month : Nat) : Date.monthLength year month ≤ 31 := by
  unfold Date.monthLength
  split_ifs <;> decide

/-- Two digits hold a month and a day. -/
theorem dateParts_lt {d : Date} (hd : d.isValid = true) : d.month < 10 ^ 2 ∧ d.day < 10 ^ 2 := by
  have hlength := monthLength_le d.year d.month
  simp only [Date.isValid, Bool.and_eq_true, decide_eq_true_eq] at hd
  constructor
  · omega
  · omega

/-- A date is read back. -/
theorem readDate?_dateChars {d : Date} (hd : d.isValid = true) (rest : List Char) :
    readDate? (dateChars d ++ rest) = some (d, rest) := by
  obtain ⟨hmonth, hday⟩ := dateParts_lt hd
  have hends : ∀ cs, Text.NoDigitAhead ('-' :: cs) := by
    rintro cs c ⟨⟩
    rfl
  have hchars : dateChars d ++ rest = yearChars d.year ++ '-' :: (Text.padded 2 d.month ++ '-' ::
      (Text.padded 2 d.day ++ rest)) := by
    simp only [dateChars, List.append_assoc, List.cons_append]
  have hhyphen : ∀ cs, readSeparator? '-' ('-' :: cs) = some cs := readSeparator?_cons rfl
  rw [hchars]
  unfold readDate?
  simp only [Option.bind_eq_bind, readYear?_yearChars d.year (hends _), hhyphen,
    readNumber?_padded (by decide) hmonth, readNumber?_padded (by decide) hday, Option.bind_some]

/-- A time of day in UTC is read back. -/
theorem readClock?_clockChars (ht : t.IsProper) :
    readClock? t.date (clockChars t ++ (fractionChars t.nanos ++ ['Z'])) = some t := by
  have hhour : t.hour < 10 ^ 2 := Nat.lt_trans ht.hour (by decide)
  have hminute : t.minute < 10 ^ 2 := Nat.lt_trans ht.minute (by decide)
  have hsecond : t.second < 10 ^ 2 := Nat.lt_of_le_of_lt ht.second (by decide)
  have hchars : clockChars t ++ (fractionChars t.nanos ++ ['Z']) = Text.padded 2 t.hour ++ ':' ::
      (Text.padded 2 t.minute ++ ':' :: (Text.padded 2 t.second ++
        (fractionChars t.nanos ++ ['Z']))) := by
    simp only [clockChars, List.append_assoc, List.cons_append]
  have hcolon : ∀ cs, readSeparator? ':' (':' :: cs) = some cs := readSeparator?_cons rfl
  have hoffset : readOffset? (skipBlanks ['Z']) = some (0, []) := rfl
  rw [hchars]
  unfold readClock?
  simp only [Option.bind_eq_bind, readNumber?_padded (by decide) hhour,
    readNumber?_padded (by decide) hminute, readNumber?_padded (by decide) hsecond, hcolon,
    readFraction?_fractionChars ht.nanos, hoffset, Option.bind_some]
  rw [if_pos]
  · exact ofLocal?_utc ht
  · simp only [ht.date, ht.hour, ht.minute, ht.second, decide_true, Bool.true_and]
    rfl

/-- A date and time of day is read back from its text. -/
theorem read?_text (ht : t.IsProper) : read? t.text = some t := by
  have hchars : t.chars = dateChars t.date ++ 'T' ::
      (clockChars t ++ (fractionChars t.nanos ++ ['Z'])) := by
    simp only [chars, List.append_assoc, List.cons_append]
  have hdivider : ∀ cs, readDivider? ('T' :: cs) = some cs := fun _ => rfl
  rw [read?, text, String.toList_ofList, readChars?_eq, hchars, readDate?_dateChars ht.date,
    Option.bind_some]
  dsimp only
  rw [hdivider, Option.bind_some, readClock?_clockChars ht]

/-! ### What is read -/

theorem readFraction?_lt (h : readFraction? cs = some (n, rest)) : n < 10 ^ 9 := by
  unfold readFraction? at h
  split at h
  · dsimp only at h
    split at h
    · cases h
    · obtain ⟨rfl, -⟩ := Prod.mk.inj (Option.some.inj h)
      exact fractionValue_lt fun c hc => List.mem_takeWhile_imp hc
  · obtain ⟨rfl, -⟩ := Prod.mk.inj (Option.some.inj h)
    decide

/-- A date and time of day in UTC, whatever the offset. -/
theorem isProper_of_ofLocal? {date : Date} {hour minute second nanos : Nat} {offset : Int}
    (hsecond : second ≤ 60) (hnanos : nanos < 10 ^ 9)
    (h : ofLocal? date hour minute second nanos offset = some t) : t.IsProper := by
  have hday : minutesPerDay = 1440 := rfl
  unfold ofLocal? at h
  obtain ⟨hvalid, h⟩ := Option.ite_none_right_eq_some.1 h
  obtain rfl := Option.some.inj h
  exact
    { date := hvalid
      hour := by
        dsimp only
        rw [hday]
        omega
      minute := Nat.mod_lt _ (by decide)
      second := hsecond
      nanos := hnanos }

theorem isProper_of_readClock? {date : Date} (h : readClock? date cs = some t) : t.IsProper := by
  obtain ⟨⟨hour, cs⟩, -, h⟩ := Option.bind_eq_some_iff.1 h
  obtain ⟨cs, -, h⟩ := Option.bind_eq_some_iff.1 h
  obtain ⟨⟨minute, cs⟩, -, h⟩ := Option.bind_eq_some_iff.1 h
  obtain ⟨cs, -, h⟩ := Option.bind_eq_some_iff.1 h
  obtain ⟨⟨second, cs⟩, -, h⟩ := Option.bind_eq_some_iff.1 h
  obtain ⟨⟨nanos, cs⟩, hnanos, h⟩ := Option.bind_eq_some_iff.1 h
  obtain ⟨⟨offset, cs⟩, -, h⟩ := Option.bind_eq_some_iff.1 h
  obtain ⟨hchecked, h⟩ := Option.ite_none_right_eq_some.1 h
  simp only [Bool.and_eq_true, decide_eq_true_eq] at hchecked
  exact isProper_of_ofLocal? hchecked.1.1.2 (readFraction?_lt hnanos) h

/-- Whatever a reader gives is a date and time of day. -/
theorem isProper_of_read? {s : String} (h : read? s = some t) : t.IsProper := by
  rw [read?, readChars?_eq] at h
  obtain ⟨⟨date, cs⟩, -, h⟩ := Option.bind_eq_some_iff.1 h
  obtain ⟨cs, -, h⟩ := Option.bind_eq_some_iff.1 h
  exact isProper_of_readClock? h

/-- The timestamps that a reader gives are the proper ones. -/
theorem isProper_iff : t.IsProper ↔ ∃ s, read? s = some t := by
  constructor
  · intro ht
    exact ⟨t.text, read?_text ht⟩
  · rintro ⟨s, h⟩
    exact isProper_of_read? h

end Timestamp

end AlertRelay
