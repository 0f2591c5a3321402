import AlertRelay.Json.Reader
import AlertRelay.Json.Value
import AlertRelay.Proofs.Text.Digits

/-!
# JSON that is written and read

A value is read back from its text, whatever characters its strings hold, as long as its integers
are small enough to be kept as integers (`Json.read_write`). Strings, integers, and the brackets and
commas of arrays and objects each end where the reader stops; what stands behind a value in a
written text is nothing, a comma or a closing bracket (`Json.EndsValue`).
-/

namespace AlertRelay.Json

variable {c : Char} {cs rest : List Char}

/-! ### Strings -/

/-- A character that needs no escape is written as it is. -/
theorem escapeChar_plain (hquote : c ≠ '"') (hback : c ≠ '\\') (hc : 0x20 ≤ c.toNat) :
    escapeChar c = [c] := by
  unfold escapeChar
  split
  case h_1 => exact absurd rfl hquote
  case h_2 => exact absurd rfl hback
  case h_8 => exact if_neg (Nat.not_lt.2 hc)
  all_goals exact absurd hc (by decide)

/-- A character that needs no escape is read as it is. -/
theorem stringCodes?_plain (hquote : c ≠ '"') (hback : c ≠ '\\') (hc : 0x20 ≤ c.toNat)
    (cs : List Char) :
    stringCodes? (c :: cs) = (stringCodes? cs).map fun (codes, rest) => (c.toNat :: codes, rest) := by
  have hplain : ¬((c == '\\' || decide (c.toNat < 0x20)) = true) := by
    simp [hback, hc]
  rw [stringCodes?.eq_def]
  split
  case h_1 heq => cases heq
  case h_2 heq => exact absurd (List.cons.inj heq).1 hquote
  case h_3 heq => exact absurd (List.cons.inj heq).1 hback
  case h_4 heq => exact absurd (List.cons.inj heq).1 hback
  case h_5 heq =>
    obtain ⟨rfl, rfl⟩ := List.cons.inj heq
    rw [if_neg hplain]

/-- The written form of a character is read as its code. -/
theorem stringCodes?_escapeChar (c : Char) (cs : List Char) :
    stringCodes? (escapeChar c ++ cs) =
      (stringCodes? cs).map fun (codes, rest) => (c.toNat :: codes, rest) := by
  by_cases hquote : c = '"'
  · subst hquote
    rfl
  · by_cases hback : c = '\\'
    · subst hback
      rfl
    · by_cases hcontrol : c.toNat < 0x20
      · -- Each of the control characters has its own written form.
        obtain ⟨n, hn⟩ : ∃ n, n = c.toNat := ⟨_, rfl⟩
        obtain rfl : c = Char.ofNat n := by rw [hn, Char.ofNat_toNat]
        rw [← hn] at hcontrol
        interval_cases n <;> rfl
      · have hc := Nat.le_of_not_lt hcontrol
        rw [escapeChar_plain hquote hback hc]
        exact stringCodes?_plain hquote hback hc cs

/-- Written characters are read up to the quote. -/
theorem stringCodes?_flatMap (cs rest : List Char) :
    stringCodes? (cs.flatMap escapeChar ++ '"' :: rest) = some (cs.map Char.toNat, rest) := by
  induction cs with
  | nil => rw [List.flatMap_nil, List.nil_append, stringCodes?, List.map_nil]
  | cons c cs ih =>
    rw [List.flatMap_cons, List.append_assoc, stringCodes?_escapeChar, ih, Option.map_some,
      List.map_cons]

/-- The code of a character is no half of a surrogate pair. -/
theorem charsOfCodes?_toNat (cs : List Char) : charsOfCodes? (cs.map Char.toNat) = some cs := by
  induction cs with
  | nil => rfl
  | cons c cs ih =>
    have hvalid : c.toNat < 0xD800 ∨ 0xDFFF < c.toNat ∧ c.toNat < 0x110000 := c.valid
    have hhigh : isHighSurrogate c.toNat = false := by
      simp only [isHighSurrogate, Bool.and_eq_false_iff, decide_eq_false_iff_not]
      omega
    have hlow : isLowSurrogate c.toNat = false := by
      simp only [isLowSurrogate, Bool.and_eq_false_iff, decide_eq_false_iff_not]
      omega
    rw [List.map_cons, charsOfCodes?.eq_def]
    simp only [hhigh, hlow, Bool.false_eq_true, if_false, ih, Option.map_some, Char.ofNat_toNat]

/-- A string is read back from behind its opening quote. -/
theorem readString?_written (s : String) (rest : List Char) :
    readString? (s.toList.flatMap escapeChar ++ '"' :: rest) = some (some s, rest) := by
  rw [readString?, stringCodes?_flatMap, Option.map_some]
  dsimp only
  rw [charsOfCodes?_toNat, Option.map_some, String.ofList_toList]

/-! ### Integers -/

/-- What may stand behind a value in a written text. -/
def EndsValue (rest : List Char) : Prop :=
  ∀ c ∈ rest.head?, c = ',' ∨ c = ']' ∨ c = '\x7d'

theorem endsValue_nil : EndsValue [] := by
  intro c hc
  cases hc

theorem EndsValue.noDigitAhead (h : EndsValue rest) : Text.NoDigitAhead rest := by
  intro c hc
  rcases h c hc with rfl | rfl | rfl <;> rfl

/-- Neither a fraction nor an exponent stands behind a value. -/
theorem EndsValue.readOptionalExponent? (h : EndsValue rest) :
    readOptionalExponent? rest = some (none, rest) := by
  unfold Json.readOptionalExponent?
  split
  · exact absurd (h 'e' rfl) (by decide)
  · exact absurd (h 'E' rfl) (by decide)
  · rfl

/-- Digits that make a whole part: some of them, and no zero in front of others. -/
structure IsWholePart (digits : List Char) : Prop where
  isDigit : ∀ c ∈ digits, Text.isDigit c = true
  form : (digits.isEmpty || (digits.head? == some '0' && 1 < digits.length)) = false

theorem isWholePart_toDigits (n : Nat) : IsWholePart (Nat.toDigits 10 n) where
  isDigit c hc := Text.isDigit_of_mem_toDigits hc
  form := by
    have hempty : (Nat.toDigits 10 n).isEmpty = false := by
      rw [Bool.eq_false_iff, ne_eq, List.isEmpty_iff]
      exact Nat.toDigits_ne_nil
    rw [hempty, Bool.false_or, Bool.and_eq_false_iff]
    by_cases hzero : (Nat.toDigits 10 n).head? = some '0'
    · rw [Text.eq_zero_of_head?_toDigits hzero]
      exact .inr rfl
    · exact .inl (beq_eq_false_iff_ne.2 hzero)

/-- A whole part is a number if neither a digit nor a point follows it. -/
theorem readUnsigned?_whole (negative : Bool) {whole : List Char} (hwhole : IsWholePart whole)
    (hrest : Text.NoDigitAhead rest) (hpoint : rest.head? ≠ some '.') :
    readUnsigned? negative (whole ++ rest) =
      (readOptionalExponent? rest).map fun (e, rest) => (numberOf negative whole [] e, rest) := by
  unfold readUnsigned?
  simp only [Text.takeWhile_digits hwhole.isDigit hrest, Text.dropWhile_digits hwhole.isDigit hrest,
    hwhole.form, Bool.false_eq_true, if_false]
  split
  · exact absurd rfl hpoint
  · rfl

/-- The digits of a number are read as an integer, as far as it is small enough. -/
theorem readUnsigned?_toDigits (negative : Bool) (n : Nat) (h : EndsValue rest) :
    readUnsigned? negative (Nat.toDigits 10 n ++ rest) =
      some (numberOf negative (Nat.toDigits 10 n) [] none, rest) := by
  have hpoint : rest.head? ≠ some '.' := fun hhead => absurd (h '.' hhead) (by decide)
  rw [readUnsigned?_whole negative (isWholePart_toDigits n) h.noDigitAhead hpoint,
    h.readOptionalExponent?, Option.map_some]

/-- An integer that is kept as one. -/
def IsSmall (n : Int) : Prop :=
  -(Number.leastSize : Int) ≤ n ∧ n ≤ Number.greatest

theorem numberOf_toDigits (n : Nat) (h : n ≤ Number.greatest) :
    numberOf false (Nat.toDigits 10 n) [] none = .integer n := by
  simp [numberOf, Text.digitsValue_toDigits, h]

theorem numberOf_negative (n : Nat) (hn : 0 < n) (h : n ≤ Number.leastSize) :
    numberOf true (Nat.toDigits 10 n) [] none = .integer (-n) := by
  simp [numberOf, Text.digitsValue_toDigits, h, hn]

/-- An integer is read back. -/
theorem readNumber?_writeInt {n : Int} (hn : IsSmall n) (h : EndsValue rest) :
    readNumber? (writeInt n ++ rest) = some (.integer n, rest) := by
  obtain ⟨hleast, hgreatest⟩ := hn
  unfold writeInt
  split
  · rename_i hnegative
    rw [List.cons_append, readNumber?, readUnsigned?_toDigits true _ h,
      numberOf_negative _ (by omega) (by omega)]
    congr 3
    omega
  · have hunsigned : readNumber? (Nat.toDigits 10 n.natAbs ++ rest) =
        readUnsigned? false (Nat.toDigits 10 n.natAbs ++ rest) := by
      unfold readNumber?
      split
      · rename_i tail heq
        -- A digit is no minus sign.
        have hminus : '-' ∈ Nat.toDigits 10 n.natAbs := by
          cases hdigits : Nat.toDigits 10 n.natAbs with
          | nil => exact absurd hdigits Nat.toDigits_ne_nil
          | cons d ds =>
            rw [hdigits, List.cons_append] at heq
            rw [(List.cons.inj heq).1]
            exact List.mem_cons_self
        exact absurd (Text.isDigit_of_mem_toDigits hminus) (by decide)
      · rfl
    rw [hunsigned, readUnsigned?_toDigits false _ h, numberOf_toDigits _ (by omega)]
    congr 3
    omega

/-! ### Values -/

mutual

/-- Whether all integers in a value are kept as integers. -/
def Value.HasSmallIntegers : Value → Prop
  | .integer n => IsSmall n
  | .array items => Value.HaveSmallIntegers items
  | .object members => Value.MembersHaveSmallIntegers members
  | _ => True

/-- Whether all integers in some values are kept as integers. -/
def Value.HaveSmallIntegers : List Value → Prop
  | [] => True
  | item :: items => item.HasSmallIntegers ∧ Value.HaveSmallIntegers items

/-- Whether all integers in some members are kept as integers. -/
def Value.MembersHaveSmallIntegers : List (String × Value) → Prop
  | [] => True
  | (_, value) :: members => value.HasSmallIntegers ∧ Value.MembersHaveSmallIntegers members

end

/-- The text of an integer begins with a minus sign or a digit. -/
theorem exists_cons_writeInt (n : Int) :
    ∃ c cs, writeInt n = c :: cs ∧ (c = '-' ∨ Text.isDigit c = true) := by
  unfold writeInt
  split
  · exact ⟨_, _, rfl, .inl rfl⟩
  · cases hdigits : Nat.toDigits 10 n.natAbs with
    | nil => exact absurd hdigits Nat.toDigits_ne_nil
    | cons d ds =>
      refine ⟨d, ds, rfl, .inr (Text.isDigit_of_mem_toDigits (n := n.natAbs) ?_)⟩
      rw [hdigits]
      exact List.mem_cons_self

/-- A character with which an integer begins is none with which another value begins, and no
blank. -/
theorem ne_of_integer (hc : c = '-' ∨ Text.isDigit c = true) {d : Char}
    (hd : d ≠ '-' ∧ Text.isDigit d = false) : c ≠ d := by
  rintro rfl
  rcases hc with hc | hc
  · exact hd.1 hc
  · rw [hd.2] at hc
    cases hc

theorem isSpace_of_integer (hc : c = '-' ∨ Text.isDigit c = true) : isSpace c = false := by
  by_contra hspace
  have hspace := Bool.eq_true_of_not_eq_false hspace
  simp only [isSpace, Bool.or_eq_true, beq_iff_eq] at hspace
  rcases hspace with ((rfl | rfl) | rfl) | rfl <;> exact ne_of_integer hc (by decide) rfl

/-- The text of a value does not begin with a blank or with a closing bracket. -/
theorem Value.exists_cons (v : Value) :
    ∃ c cs, v.chars = c :: cs ∧ isSpace c = false ∧ c ≠ ']' := by
  cases v with
  | null => exact ⟨_, _, rfl, rfl, by decide⟩
  | bool b => cases b <;> exact ⟨_, _, rfl, rfl, by decide⟩
  | integer n =>
    obtain ⟨c, cs, hchars, hc⟩ := exists_cons_writeInt n
    exact ⟨c, cs, hchars, isSpace_of_integer hc, ne_of_integer hc (by decide)⟩
  | text s => exact ⟨_, _, rfl, rfl, by decide⟩
  | array items => cases items <;> exact ⟨_, _, rfl, rfl, by decide⟩
  | object members => cases members <;> exact ⟨_, _, rfl, rfl, by decide⟩

theorem skipSpaces_cons (hc : isSpace c = false) : skipSpaces (c :: cs) = c :: cs := by
  rw [skipSpaces, List.dropWhile_cons_of_neg (by rw [hc]; exact Bool.false_ne_true)]

/-- What stands behind an item of an array. -/
theorem endsValue_itemChars (items : List Value) (rest : List Char) :
    EndsValue (Value.itemChars items ++ ']' :: rest) := by
  intro c hc
  cases items with
  | nil =>
    obtain rfl : ']' = c := Option.some.inj hc
    exact .inr (.inl rfl)
  | cons item items =>
    rw [Value.itemChars] at hc
    obtain rfl : ',' = c := Option.some.inj hc
    exact .inl rfl

/-- What stands behind a member of an object. -/
theorem endsValue_memberChars (members : List (String × Value)) (rest : List Char) :
    EndsValue (Value.memberChars members ++ '\x7d' :: rest) := by
  intro c hc
  cases members with
  | nil =>
    obtain rfl : '\x7d' = c := Option.some.inj hc
    exact .inr (.inr rfl)
  | cons member members =>
    rw [Value.memberChars] at hc
    obtain rfl : ',' = c := Option.some.inj hc
    exact .inl rfl

/-- A number is read where a value may begin. -/
theorem readValue_number {n : Number} (hc : c = '-' ∨ Text.isDigit c = true)
    (h : readNumber? (c :: cs) = some (n, rest)) (fuel : Nat) :
    readValue (fuel + 1) (c :: cs) = (.number n, some rest) := by
  rw [readValue, skipSpaces_cons (isSpace_of_integer hc)]
  -- The first character is none of those with which other values begin.
  split
  case h_1 heq => cases heq
  case h_8 => rw [h]
  all_goals
    rename_i heq
    exact absurd (List.cons.inj heq).1 (ne_of_integer hc (by decide))

/-- An integer is read where a value may begin. -/
theorem readValue_integer {n : Int} (hn : IsSmall n) (h : EndsValue rest) (fuel : Nat) :
    readValue (fuel + 1) (writeInt n ++ rest) = (.number (.integer n), some rest) := by
  have hnumber := readNumber?_writeInt hn h
  obtain ⟨c, cs, hchars, hc⟩ := exists_cons_writeInt n
  rw [hchars, List.cons_append] at hnumber ⊢
  exact readValue_number hc hnumber fuel

/-- A string is read where a value may begin. -/
theorem readValue_text (s : String) (rest : List Char) (fuel : Nat) :
    readValue (fuel + 1) (writeString s ++ rest) = (.text (some s), some rest) := by
  have hquote : ∀ cs, skipSpaces ('"' :: cs) = '"' :: cs := fun cs => skipSpaces_cons rfl
  rw [writeString, List.cons_append, List.append_assoc, List.singleton_append, readValue, hquote]
  simp only [readString?_written]

/-- An array is what its items are. -/
theorem readValue_array {items : List Doc} {fuel : Nat} (hc : isSpace c = false) (hend : c ≠ ']')
    (h : readItems fuel (c :: cs) = (items, some rest)) :
    readValue (fuel + 1) ('[' :: c :: cs) = (.array items true, some rest) := by
  have hbracket : skipSpaces ('[' :: c :: cs) = '[' :: c :: cs := skipSpaces_cons rfl
  have hitem : skipSpaces (c :: cs) = c :: cs := skipSpaces_cons hc
  rw [readValue, hbracket]
  simp only [hitem]
  split
  · rename_i heq
    exact absurd (List.cons.inj heq).1 hend
  · rw [h]
    rfl

/-- An object is what its members are. -/
theorem readValue_object {members : List (Option String × Doc)} {fuel : Nat}
    (h : readMembers fuel ('"' :: cs) = (members, some rest)) :
    readValue (fuel + 1) ('\x7b' :: '"' :: cs) = (.object members true, some rest) := by
  have hbrace : skipSpaces ('\x7b' :: '"' :: cs) = '\x7b' :: '"' :: cs := skipSpaces_cons rfl
  have hquote : skipSpaces ('"' :: cs) = '"' :: cs := skipSpaces_cons rfl
  rw [readValue, hbrace]
  simp only [hquote]
  split
  · rename_i heq
    exact absurd (List.cons.inj heq).1 (by decide)
  · rw [h]
    rfl

/-- The last item of an array. -/
theorem readItems_last {item : Doc} {fuel : Nat}
    (h : readValue fuel cs = (item, some (']' :: rest))) :
    readItems (fuel + 1) cs = ([item], some rest) := by
  rw [readItems, h]
  rfl

/-- An item and those behind it. -/
theorem readItems_next {item : Doc} {items : List Doc} {next : List Char} {fuel : Nat}
    (h : readValue fuel cs = (item, some (',' :: next)))
    (hnext : readItems fuel next = (items, some rest)) :
    readItems (fuel + 1) cs = (item :: items, some rest) := by
  have hskip : skipSpaces (',' :: next) = ',' :: next := skipSpaces_cons rfl
  rw [readItems, h]
  simp only [hskip, hnext]

/-- A member begins with its name and a colon. -/
theorem exists_cons_member (name : String) (value : List Char) :
    ∃ cs, writeString name ++ ':' :: value = '"' :: cs ∧
      readString? cs = some (some name, ':' :: value) := by
  refine ⟨name.toList.flatMap escapeChar ++ '"' :: ':' :: value, ?_, readString?_written name _⟩
  rw [writeString, List.cons_append, List.append_assoc, List.singleton_append]

/-- The last member of an object. -/
theorem readMembers_last {name : Option String} {text : List Char} {value : Doc} {fuel : Nat}
    (hname : readString? text = some (name, ':' :: cs))
    (h : readValue fuel cs = (value, some ('\x7d' :: rest))) :
    readMembers (fuel + 1) ('"' :: text) = ([(name, value)], some rest) := by
  have hquote : skipSpaces ('"' :: text) = '"' :: text := skipSpaces_cons rfl
  have hcolon : skipSpaces (':' :: cs) = ':' :: cs := skipSpaces_cons rfl
  have hbrace : skipSpaces ('\x7d' :: rest) = '\x7d' :: rest := skipSpaces_cons rfl
  rw [readMembers]
  simp only [hquote, hname, hcolon, h, hbrace]

/-- A member and those behind it. -/
theorem readMembers_next {name : Option String} {text : List Char} {value : Doc}
    {members : List (Option String × Doc)} {next : List Char} {fuel : Nat}
    (hname : readString? text = some (name, ':' :: cs))
    (h : readValue fuel cs = (value, some (',' :: next)))
    (hnext : readMembers fuel next = (members, some rest)) :
    readMembers (fuel + 1) ('"' :: text) = ((name, value) :: members, some rest) := by
  have hquote : skipSpaces ('"' :: text) = '"' :: text := skipSpaces_cons rfl
  have hcolon : skipSpaces (':' :: cs) = ':' :: cs := skipSpaces_cons rfl
  have hcomma : skipSpaces (',' :: next) = ',' :: next := skipSpaces_cons rfl
  rw [readMembers]
  simp only [hquote, hname, hcolon, h, hcomma, hnext]

/-- The text of items with commas between them. -/
def Value.joinItems : List Value → List Char
  | [] => []
  | item :: items => item.chars ++ Value.itemChars items

/-- The text of members with commas between them. -/
def Value.joinMembers : List (String × Value) → List Char
  | [] => []
  | (name, value) :: members => writeString name ++ ':' :: value.chars ++ Value.memberChars members

theorem Value.chars_array (items : List Value) :
    (Value.array items).chars = '[' :: (joinItems items ++ [']']) := by
  cases items <;> rfl

theorem Value.chars_object (members : List (String × Value)) :
    (Value.object members).chars = '\x7b' :: (joinMembers members ++ ['\x7d']) := by
  cases members <;> rfl

mutual

/-- A value is read back, and what stands behind it is left. -/
theorem readValue_chars (v : Value) (hv : v.HasSmallIntegers) {rest : List Char}
    (h : EndsValue rest) (fuel : Nat) (hfuel : 2 * v.chars.length ≤ fuel) :
    readValue fuel (v.chars ++ rest) = (v.toDoc, some rest) := by
  obtain ⟨fuel, rfl⟩ : ∃ k, fuel = k + 1 := by
    obtain ⟨c, cs, hchars, -⟩ := v.exists_cons
    rw [hchars, List.length_cons] at hfuel
    exact ⟨fuel - 1, by omega⟩
  match v with
  | .null => rfl
  | .bool true => rfl
  | .bool false => rfl
  | .integer n => exact readValue_integer hv h fuel
  | .text s => exact readValue_text s rest fuel
  | .array [] => rfl
  | .array (item :: items) =>
    have hroom : 2 * (Value.joinItems (item :: items)).length + 1 ≤ fuel := by
      rw [Value.chars_array, List.length_cons, List.length_append] at hfuel
      omega
    have hitems := readItems_chars (item :: items) (List.cons_ne_nil _ _) hv rest fuel hroom
    obtain ⟨d, ds, hitem, hd, hend⟩ := item.exists_cons
    rw [Value.joinItems, hitem, List.cons_append, List.cons_append] at hitems
    rw [Value.chars_array, List.cons_append, List.append_assoc, List.singleton_append,
      Value.joinItems, hitem, List.cons_append, List.cons_append]
    exact readValue_array hd hend hitems
  | .object [] => rfl
  | .object (member :: members) =>
    have hroom : 2 * (Value.joinMembers (member :: members)).length + 1 ≤ fuel := by
      rw [Value.chars_object, List.length_cons, List.length_append] at hfuel
      omega
    have hmembers := readMembers_chars (member :: members) (List.cons_ne_nil _ _) hv rest fuel hroom
    rw [Value.chars_object, List.cons_append, List.append_assoc, List.singleton_append]
    exact readValue_object hmembers

/-- Items are read back up to the closing bracket. -/
theorem readItems_chars (items : List Value) (hne : items ≠ [])
    (hitems : Value.HaveSmallIntegers items) (rest : List Char) (fuel : Nat)
    (hfuel : 2 * (Value.joinItems items).length + 1 ≤ fuel) :
    readItems fuel (Value.joinItems items ++ ']' :: rest) =
      (Value.itemDocs items, some rest) := by
  match items with
  | [] => exact absurd rfl hne
  | item :: items =>
    obtain ⟨fuel, rfl⟩ : ∃ k, fuel = k + 1 := ⟨fuel - 1, by omega⟩
    rw [Value.joinItems, List.length_append] at hfuel
    have hfirst := readValue_chars item hitems.1 (endsValue_itemChars items rest) fuel
      (by omega)
    rw [Value.joinItems, List.append_assoc]
    cases items with
    | nil => exact readItems_last hfirst
    | cons next items =>
      have hroom : 2 * (Value.joinItems (next :: items)).length + 1 ≤ fuel := by
        rw [Value.itemChars, List.length_cons] at hfuel
        rw [Value.joinItems]
        omega
      have hrest := readItems_chars (next :: items) (List.cons_ne_nil _ _) hitems.2 rest fuel hroom
      exact readItems_next hfirst hrest

/-- Members are read back up to the closing brace. -/
theorem readMembers_chars (members : List (String × Value)) (hne : members ≠ [])
    (hmembers : Value.MembersHaveSmallIntegers members) (rest : List Char) (fuel : Nat)
    (hfuel : 2 * (Value.joinMembers members).length + 1 ≤ fuel) :
    readMembers fuel (Value.joinMembers members ++ '\x7d' :: rest) =
      (Value.memberDocs members, some rest) := by
  match members with
  | [] => exact absurd rfl hne
  | (name, value) :: members =>
    obtain ⟨fuel, rfl⟩ : ∃ k, fuel = k + 1 := ⟨fuel - 1, by omega⟩
    rw [Value.joinMembers, List.length_append, List.length_append, List.length_cons] at hfuel
    have hfirst := readValue_chars value hmembers.1 (endsValue_memberChars members rest)
      fuel (by omega)
    rw [Value.joinMembers, List.append_assoc, List.append_assoc, List.cons_append]
    obtain ⟨text, htext, hname⟩ := exists_cons_member name
      (value.chars ++ (Value.memberChars members ++ '\x7d' :: rest))
    rw [htext]
    cases members with
    | nil => exact readMembers_last hname hfirst
    | cons next members =>
      have hroom : 2 * (Value.joinMembers (next :: members)).length + 1 ≤ fuel := by
        rw [Value.memberChars, List.length_cons] at hfuel
        rw [Value.joinMembers]
        omega
      have hrest :=
        readMembers_chars (next :: members) (List.cons_ne_nil _ _) hmembers.2 rest fuel hroom
      exact readMembers_next hname hfirst hrest

end

theorem Value.haveSmallIntegers_iff {items : List Value} :
    Value.HaveSmallIntegers items ↔ ∀ v ∈ items, v.HasSmallIntegers := by
  induction items with
  | nil => simp [Value.HaveSmallIntegers]
  | cons item items ih => simp [Value.HaveSmallIntegers, ih]

theorem Value.membersHaveSmallIntegers_iff {members : List (String × Value)} :
    Value.MembersHaveSmallIntegers members ↔ ∀ m ∈ members, m.2.HasSmallIntegers := by
  induction members with
  | nil => simp [Value.MembersHaveSmallIntegers]
  | cons member members ih => simp [Value.MembersHaveSmallIntegers, ih]

theorem Value.itemDocs_eq_map (items : List Value) : itemDocs items = items.map toDoc := by
  induction items with
  | nil => rfl
  | cons item items ih => rw [itemDocs, ih, List.map_cons]

theorem Value.memberDocs_eq_map (members : List (String × Value)) :
    memberDocs members = members.map fun m => (some m.1, m.2.toDoc) := by
  induction members with
  | nil => rfl
  | cons member members ih => rw [memberDocs, ih, List.map_cons]

/-- A value is read back from its text. -/
theorem read_write (v : Value) (hv : v.HasSmallIntegers) : read v.write = ⟨v.toDoc, true⟩ := by
  have hread := readValue_chars v hv endsValue_nil (2 * v.chars.length + 2) (by omega)
  rw [List.append_nil] at hread
  rw [read, Value.write, String.toList_ofList, readChars, hread]
  rfl

end AlertRelay.Json
