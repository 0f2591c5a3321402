import AlertRelay.Proofs.Json.RoundTrip

/-!
# The values that documents hold

A value is all of some text exactly if there is no fault in it and its numbers are read from some
text (`Json.isDocument_iff`). So the parts of a document are documents, and documents can be put
together to arrays and objects in any way (`Json.isDocument_array_iff`,
`Json.isDocument_object_iff`). That nothing depends on the place in which a value is read is said by
`Json.Spells`: its characters are read as that value in front of all that may stand behind a value.
-/

namespace AlertRelay.Json

variable {α : Type} {c : Char} {cs rest : List Char}

/-- A value that is all of some text. -/
def IsDocument (d : Doc) : Prop :=
  ∃ s, read s = ⟨d, true⟩

/-- Values without a fault in them, whose numbers are read from some text. -/
inductive Doc.IsWellFormed : Doc → Prop where
  | null : IsWellFormed .null
  | bool (b : Bool) : IsWellFormed (.bool b)
  | number {cs rest : List Char} {n : Number} (h : readNumber? cs = some (n, rest)) :
    IsWellFormed (.number n)
  | text (s : Option String) : IsWellFormed (.text s)
  | array {items : List Doc} (h : ∀ d ∈ items, IsWellFormed d) : IsWellFormed (.array items true)
  | object {members : List (Option String × Doc)} (h : ∀ m ∈ members, IsWellFormed m.2) :
    IsWellFormed (.object members true)

/-! ### What is read is well-formed -/

theorem isWellFormed_of_readWord {word : List Char} {value d : Doc} (hvalue : value.IsWellFormed)
    (h : readWord word value cs = (d, some rest)) : d.IsWellFormed := by
  unfold readWord at h
  split at h
  · obtain ⟨rfl, -⟩ := Prod.mk.inj h
    exact hvalue
  · cases h

/-- What is read with so many steps is well-formed, as far as it is read to its end. -/
structure ReadsWellFormed (fuel : Nat) : Prop where
  value : ∀ {cs d rest}, readValue fuel cs = (d, some rest) → d.IsWellFormed
  items : ∀ {cs ds rest}, readItems fuel cs = (ds, some rest) → ∀ d ∈ ds, d.IsWellFormed
  members : ∀ {cs ms rest}, readMembers fuel cs = (ms, some rest) → ∀ m ∈ ms, m.2.IsWellFormed

namespace ReadsWellFormed

variable {fuel : Nat}

theorem value_succ (hfuel : ReadsWellFormed fuel) {d : Doc}
    (h : readValue (fuel + 1) cs = (d, some rest)) : d.IsWellFormed := by
  rw [readValue] at h
  split at h
  · cases h
  · split at h
    · obtain ⟨rfl, -⟩ := Prod.mk.inj h
      exact .text _
    · cases h
  · split at h
    · obtain ⟨rfl, -⟩ := Prod.mk.inj h
      exact .array (List.forall_mem_nil _)
    · obtain ⟨hd, hrest⟩ := Prod.mk.inj h
      rw [hrest] at hd
      subst hd
      exact .array (hfuel.items (Prod.ext rfl hrest))
  · split at h
    · obtain ⟨rfl, -⟩ := Prod.mk.inj h
      exact .object (List.forall_mem_nil _)
    · obtain ⟨hd, hrest⟩ := Prod.mk.inj h
      rw [hrest] at hd
      subst hd
      exact .object (hfuel.members (Prod.ext rfl hrest))
  · exact isWellFormed_of_readWord .null h
  · exact isWellFormed_of_readWord (.bool true) h
  · exact isWellFormed_of_readWord (.bool false) h
  · split at h
    · rename_i hnumber
      obtain ⟨rfl, -⟩ := Prod.mk.inj h
      exact .number hnumber
    · cases h

theorem items_succ (hfuel : ReadsWellFormed fuel) {ds : List Doc}
    (h : readItems (fuel + 1) cs = (ds, some rest)) : ∀ d ∈ ds, d.IsWellFormed := by
  rw [readItems] at h
  split at h
  · cases h
  · rename_i hitem
    have hfirst := hfuel.value hitem
    split at h
    · obtain ⟨rfl, -⟩ := Prod.mk.inj h
      exact List.forall_mem_singleton.2 hfirst
    · obtain ⟨rfl, hrest⟩ := Prod.mk.inj h
      exact List.forall_mem_cons.2 ⟨hfirst, hfuel.items (Prod.ext rfl hrest)⟩
    · cases h

theorem members_succ (hfuel : ReadsWellFormed fuel) {ms : List (Option String × Doc)}
    (h : readMembers (fuel + 1) cs = (ms, some rest)) : ∀ m ∈ ms, m.2.IsWellFormed := by
  rw [readMembers] at h
  split at h
  · split at h
    · cases h
    · split at h
      · split at h
        · cases h
        · rename_i hvalue
          have hfirst := hfuel.value hvalue
          split at h
          · obtain ⟨rfl, -⟩ := Prod.mk.inj h
            exact List.forall_mem_singleton.2 hfirst
          · obtain ⟨rfl, hrest⟩ := Prod.mk.inj h
            exact List.forall_mem_cons.2 ⟨hfirst, hfuel.members (Prod.ext rfl hrest)⟩
          · cases h
      · cases h
  · cases h

end ReadsWellFormed

theorem readsWellFormed (fuel : Nat) : ReadsWellFormed fuel := by
  induction fuel with
  | zero => exact ⟨nofun, nofun, nofun⟩
  | succ fuel ih => exact ⟨ih.value_succ, ih.items_succ, ih.members_succ⟩

/-! ### Numbers -/

/-- A reader takes these characters in front of all that may stand behind a value. -/
def Takes (reader : List Char → Option (α × List Char)) (piece : List Char) (a : α) : Prop :=
  ∀ rest, EndsValue rest → reader (piece ++ rest) = some (a, rest)

theorem isDigit_of_mem_takeWhile (h : c ∈ cs.takeWhile Text.isDigit) : Text.isDigit c = true :=
  List.all_eq_true.1 List.all_takeWhile c h

/-- Takes a row of digits, if there is at least one. -/
def readDigits? (f : List Char → α) (cs : List Char) : Option (α × List Char) :=
  let digits := cs.takeWhile Text.isDigit
  if digits.isEmpty then none else some (f digits, cs.dropWhile Text.isDigit)

theorem exists_takes_readDigits? {f : List Char → α} {a : α}
    (h : readDigits? f cs = some (a, rest)) :
    ∃ c digits, Text.isDigit c = true ∧ Takes (readDigits? f) (c :: digits) a := by
  unfold readDigits? at h
  dsimp only at h
  split at h
  · cases h
  · rename_i hne
    obtain ⟨rfl, -⟩ := Prod.mk.inj (Option.some.inj h)
    rw [List.isEmpty_iff] at hne
    obtain ⟨c, digits, hdigits⟩ := List.exists_cons_of_ne_nil hne
    have hall : ∀ d ∈ c :: digits, Text.isDigit d = true := by
      rw [← hdigits]
      exact fun d hd => isDigit_of_mem_takeWhile hd
    refine ⟨c, digits, hall c List.mem_cons_self, fun rest hrest => ?_⟩
    rw [hdigits]
    unfold readDigits?
    simp only [Text.takeWhile_digits hall hrest.noDigitAhead,
      Text.dropWhile_digits hall hrest.noDigitAhead]
    rfl

/-- An exponent is taken with its sign. -/
theorem exists_takes_readExponent? {e : Int} (h : readExponent? cs = some (e, rest)) :
    ∃ piece, Takes readExponent? piece e := by
  let value (digits : List Char) : Int := Text.digitsValue digits
  unfold readExponent? at h
  dsimp only at h
  split at h
  · obtain ⟨c, digits, -, htakes⟩ := exists_takes_readDigits? (f := value) h
    exact ⟨'+' :: c :: digits, htakes⟩
  · obtain ⟨c, digits, -, htakes⟩ := exists_takes_readDigits? (f := fun ds => -value ds) h
    exact ⟨'-' :: c :: digits, htakes⟩
  · obtain ⟨c, digits, hc, htakes⟩ := exists_takes_readDigits? (f := value) h
    refine ⟨c :: digits, fun rest hrest => ?_⟩
    rw [← htakes rest hrest]
    -- A digit is no sign.
    unfold readExponent?
    dsimp only
    split
    · rename_i heq
      exact absurd ((List.cons.inj heq).1 ▸ hc) (by decide)
    · rename_i heq
      exact absurd ((List.cons.inj heq).1 ▸ hc) (by decide)
    · rfl

/-- An exponent behind its letter is taken with it. -/
theorem exists_takes_letter {letter : Char} (hletter : letter = 'e' ∨ letter = 'E')
    {e : Option Int} (h : readOptionalExponent? (letter :: cs) = some (e, rest)) :
    ∃ piece, (∀ c ∈ piece.head?, c = 'e' ∨ c = 'E') ∧ Takes readOptionalExponent? piece e := by
  have hread : ∀ cs, readOptionalExponent? (letter :: cs) =
      (readExponent? cs).map (Prod.map some id) := by
    rcases hletter with rfl | rfl <;> exact fun _ => rfl
  rw [hread] at h
  obtain ⟨⟨n, left⟩, hn, heq⟩ := Option.map_eq_some_iff.1 h
  obtain ⟨rfl, rfl⟩ := Prod.mk.inj heq
  obtain ⟨piece, hpiece⟩ := exists_takes_readExponent? hn
  refine ⟨letter :: piece, fun c hc => Option.some.inj hc ▸ hletter, fun rest hrest => ?_⟩
  rw [List.cons_append, hread, hpiece rest hrest]
  rfl

/-- An exponent, if there is one, is taken with its letter. -/
theorem exists_takes_readOptionalExponent? {e : Option Int}
    (h : readOptionalExponent? cs = some (e, rest)) :
    ∃ piece, (∀ c ∈ piece.head?, c = 'e' ∨ c = 'E') ∧ Takes readOptionalExponent? piece e := by
  unfold readOptionalExponent? at h
  split at h
  · exact exists_takes_letter (.inl rfl) h
  · exact exists_takes_letter (.inr rfl) h
  · obtain ⟨rfl, rfl⟩ := Prod.mk.inj (Option.some.inj h)
    exact ⟨[], nofun, fun rest hrest => hrest.readOptionalExponent?⟩

/-- Neither an exponent nor what may stand behind a value goes on with the digits of a number. -/
theorem endsDigits_append {piece : List Char} (h : ∀ c ∈ piece.head?, c = 'e' ∨ c = 'E')
    (hrest : EndsValue rest) :
    Text.NoDigitAhead (piece ++ rest) ∧ (piece ++ rest).head? ≠ some '.' := by
  rcases piece with _ | ⟨d, piece⟩
  · exact ⟨hrest.noDigitAhead, fun hpoint => absurd (hrest '.' hpoint) (by decide)⟩
  · have hd : d = 'e' ∨ d = 'E' := h d rfl
    constructor
    · intro c hc
      obtain rfl : d = c := Option.some.inj hc
      rcases hd with rfl | rfl <;> rfl
    · intro hpoint
      obtain rfl : d = '.' := Option.some.inj hpoint
      exact absurd hd (by decide)

/-- A whole part with a fraction is a number if no digit follows it. -/
theorem readUnsigned?_fraction (negative : Bool) {whole fraction : List Char}
    (hwhole : IsWholePart whole) (hfraction : ∀ c ∈ fraction, Text.isDigit c = true)
    (hne : fraction.isEmpty = false) (hrest : Text.NoDigitAhead rest) :
    readUnsigned? negative (whole ++ '.' :: (fraction ++ rest)) =
      (readOptionalExponent? rest).map fun (e, rest) =>
        (numberOf negative whole fraction e, rest) := by
  have hpoint : Text.NoDigitAhead ('.' :: (fraction ++ rest)) := by
    intro c hc
    obtain rfl : '.' = c := Option.some.inj hc
    rfl
  unfold readUnsigned?
  simp only [Text.takeWhile_digits hwhole.isDigit hpoint,
    Text.dropWhile_digits hwhole.isDigit hpoint, hwhole.form, Bool.false_eq_true, if_false,
    Text.takeWhile_digits hfraction hrest, Text.dropWhile_digits hfraction hrest, hne]

/-- A number without its sign is taken with all of its parts. -/
theorem exists_takes_readUnsigned? {negative : Bool} {n : Number}
    (h : readUnsigned? negative cs = some (n, rest)) :
    ∃ c piece, Text.isDigit c = true ∧ Takes (readUnsigned? negative) (c :: piece) n := by
  unfold readUnsigned? at h
  dsimp only at h
  split at h
  · cases h
  · rename_i hform
    rw [Bool.not_eq_true] at hform
    have hwhole : IsWholePart (cs.takeWhile Text.isDigit) :=
      ⟨fun c hc => isDigit_of_mem_takeWhile hc, hform⟩
    have hne : cs.takeWhile Text.isDigit ≠ [] := by
      intro hnil
      rw [hnil] at hform
      cases hform
    obtain ⟨c, digits, hdigits⟩ := List.exists_cons_of_ne_nil hne
    rw [hdigits] at hwhole h
    have hc : Text.isDigit c = true := hwhole.isDigit c List.mem_cons_self
    split at h
    · rename_i tail hpoint
      split at h
      · cases h
      · rename_i hfraction
        rw [Bool.not_eq_true] at hfraction
        obtain ⟨⟨e, left⟩, he, heq⟩ := Option.map_eq_some_iff.1 h
        obtain ⟨rfl, rfl⟩ := Prod.mk.inj heq
        obtain ⟨piece, hhead, hpiece⟩ := exists_takes_readOptionalExponent? he
        refine ⟨c, digits ++ '.' :: (tail.takeWhile Text.isDigit ++ piece), hc,
          fun rest hrest => ?_⟩
        have htext : c :: (digits ++ '.' :: (tail.takeWhile Text.isDigit ++ piece)) ++ rest =
            c :: digits ++ '.' :: (tail.takeWhile Text.isDigit ++ (piece ++ rest)) := by
          simp only [List.cons_append, List.append_assoc]
        rw [htext, readUnsigned?_fraction negative hwhole (fun d hd => isDigit_of_mem_takeWhile hd)
          hfraction (endsDigits_append hhead hrest).1, hpiece rest hrest]
        rfl
    · obtain ⟨⟨e, left⟩, he, heq⟩ := Option.map_eq_some_iff.1 h
      obtain ⟨rfl, rfl⟩ := Prod.mk.inj heq
      obtain ⟨piece, hhead, hpiece⟩ := exists_takes_readOptionalExponent? he
      refine ⟨c, digits ++ piece, hc, fun rest hrest => ?_⟩
      obtain ⟨hdigit, hpoint⟩ := endsDigits_append hhead hrest
      have htext : c :: (digits ++ piece) ++ rest = c :: digits ++ (piece ++ rest) := by
        rw [← List.cons_append, List.append_assoc]
      rw [htext, readUnsigned?_whole negative hwhole hdigit hpoint, hpiece rest hrest]
      rfl

/-- A number is taken with its sign. -/
theorem exists_takes_readNumber? {n : Number} (h : readNumber? cs = some (n, rest)) :
    ∃ c piece, (c = '-' ∨ Text.isDigit c = true) ∧ Takes readNumber? (c :: piece) n := by
  unfold readNumber? at h
  split at h
  · obtain ⟨c, piece, -, htakes⟩ := exists_takes_readUnsigned? h
    exact ⟨'-', c :: piece, .inl rfl, htakes⟩
  · obtain ⟨c, piece, hc, htakes⟩ := exists_takes_readUnsigned? h
    refine ⟨c, piece, .inr hc, fun rest hrest => ?_⟩
    rw [← htakes rest hrest]
    unfold readNumber?
    split
    · rename_i heq
      exact absurd ((List.cons.inj heq).1 ▸ hc) (by decide)
    · rfl

/-! ### What is well-formed can be written -/

/-- The first character is neither a blank nor a closing bracket. -/
def StartsValue (cs : List Char) : Prop :=
  ∃ c tail, cs = c :: tail ∧ isSpace c = false ∧ c ≠ ']'

/-- Characters that are read as a value in front of all that may stand behind one. -/
structure Spells (cs : List Char) (d : Doc) : Prop where
  starts : StartsValue cs
  reads : ∀ rest, EndsValue rest → ∀ fuel, 2 * cs.length ≤ fuel →
    readValue fuel (cs ++ rest) = (d, some rest)

/-- There is a step for a value that has at least one character. -/
theorem spells_of_reads_succ {d : Doc} (hstarts : StartsValue cs)
    (h : ∀ rest, EndsValue rest → ∀ fuel, 2 * cs.length ≤ fuel + 1 →
      readValue (fuel + 1) (cs ++ rest) = (d, some rest)) : Spells cs d where
  starts := hstarts
  reads := by
    intro rest hrest fuel hfuel
    obtain ⟨c, tail, rfl, -, -⟩ := hstarts
    obtain ⟨fuel, rfl⟩ : ∃ k, fuel = k + 1 := by
      rw [List.length_cons] at hfuel
      exact ⟨fuel - 1, by omega⟩
    exact h rest hrest fuel hfuel

theorem spells_null : Spells ['n', 'u', 'l', 'l'] .null :=
  spells_of_reads_succ ⟨'n', _, rfl, rfl, by decide⟩ fun _ _ _ _ => rfl

theorem spells_true : Spells ['t', 'r', 'u', 'e'] (.bool true) :=
  spells_of_reads_succ ⟨'t', _, rfl, rfl, by decide⟩ fun _ _ _ _ => rfl

theorem spells_false : Spells ['f', 'a', 'l', 's', 'e'] (.bool false) :=
  spells_of_reads_succ ⟨'f', _, rfl, rfl, by decide⟩ fun _ _ _ _ => rfl

/-- The text of a string, or of half of a surrogate pair for one that stands for no text. -/
def stringBody (s : Option String) : List Char :=
  match s with
  | some s => s.toList.flatMap escapeChar ++ ['"']
  | none => ['\\', 'u', 'd', '8', '0', '0', '"']

theorem readString?_stringBody (s : Option String) (rest : List Char) :
    readString? (stringBody s ++ rest) = some (s, rest) := by
  cases s with
  | none => rfl
  | some s =>
    rw [stringBody, List.append_assoc, List.singleton_append]
    exact readString?_written s rest

theorem spells_text (s : Option String) : Spells ('"' :: stringBody s) (.text s) := by
  refine spells_of_reads_succ ⟨'"', _, rfl, rfl, by decide⟩ fun rest _ fuel _ => ?_
  have hquote : ∀ cs, skipSpaces ('"' :: cs) = '"' :: cs := fun cs => skipSpaces_cons rfl
  rw [List.cons_append, readValue, hquote]
  simp only [readString?_stringBody]

theorem exists_spells_number {n : Number} (h : readNumber? cs = some (n, rest)) :
    ∃ cs, Spells cs (.number n) := by
  obtain ⟨c, piece, hc, htakes⟩ := exists_takes_readNumber? h
  refine ⟨c :: piece, spells_of_reads_succ ?_ fun rest hrest fuel _ => ?_⟩
  · exact ⟨c, piece, rfl, isSpace_of_integer hc, ne_of_integer hc (by decide)⟩
  · exact readValue_number hc (htakes rest hrest) fuel

theorem endsValue_cons (hc : c = ',' ∨ c = ']' ∨ c = '\x7d') (rest : List Char) :
    EndsValue (c :: rest) := by
  intro d hd
  obtain rfl : c = d := Option.some.inj hd
  exact hc

/-- Items that can be written are written one after the other. -/
theorem exists_items {items : List Doc} (hne : items ≠ [])
    (h : ∀ d ∈ items, ∃ cs, Spells cs d) :
    ∃ cs, StartsValue cs ∧ ∀ rest fuel, 2 * cs.length + 1 ≤ fuel →
      readItems fuel (cs ++ ']' :: rest) = (items, some rest) := by
  induction items with
  | nil => exact absurd rfl hne
  | cons d items ih =>
    obtain ⟨⟨cs, ⟨c, tail, rfl, hc⟩, hcs⟩, hitems⟩ := List.forall_mem_cons.1 h
    by_cases hlast : items = []
    · subst hlast
      refine ⟨c :: tail, ⟨c, tail, rfl, hc⟩, fun rest fuel hfuel => ?_⟩
      obtain ⟨fuel, rfl⟩ : ∃ k, fuel = k + 1 := ⟨fuel - 1, by omega⟩
      exact readItems_last (hcs _ (endsValue_cons (by decide) rest) fuel (by omega))
    · obtain ⟨next, -, hnext⟩ := ih hlast hitems
      refine ⟨c :: tail ++ ',' :: next, ⟨c, _, rfl, hc⟩, fun rest fuel hfuel => ?_⟩
      obtain ⟨fuel, rfl⟩ : ∃ k, fuel = k + 1 := ⟨fuel - 1, by omega⟩
      have hroom : 2 * (c :: tail).length ≤ fuel ∧ 2 * next.length + 1 ≤ fuel := by
        simp only [List.length_append, List.length_cons] at hfuel ⊢
        omega
      rw [List.append_assoc, List.cons_append]
      exact readItems_next (hcs _ (endsValue_cons (by decide) _) fuel hroom.1)
        (hnext rest fuel hroom.2)

/-- So are members. -/
theorem exists_members {members : List (Option String × Doc)} (hne : members ≠ [])
    (h : ∀ m ∈ members, ∃ cs, Spells cs m.2) :
    ∃ cs, ∀ rest fuel, 2 * cs.length + 2 ≤ fuel →
      readMembers fuel ('"' :: (cs ++ '\x7d' :: rest)) = (members, some rest) := by
  induction members with
  | nil => exact absurd rfl hne
  | cons m members ih =>
    obtain ⟨⟨cs, -, hcs⟩, hmembers⟩ := List.forall_mem_cons.1 h
    by_cases hlast : members = []
    · subst hlast
      refine ⟨stringBody m.1 ++ ':' :: cs, fun rest fuel hfuel => ?_⟩
      obtain ⟨fuel, rfl⟩ : ∃ k, fuel = k + 1 := ⟨fuel - 1, by omega⟩
      rw [List.length_append, List.length_cons] at hfuel
      rw [List.append_assoc, List.cons_append]
      exact readMembers_last (readString?_stringBody m.1 _)
        (hcs _ (endsValue_cons (by decide) rest) fuel (by omega))
    · obtain ⟨next, hnext⟩ := ih hlast hmembers
      refine ⟨stringBody m.1 ++ ':' :: (cs ++ ',' :: '"' :: next), fun rest fuel hfuel => ?_⟩
      obtain ⟨fuel, rfl⟩ : ∃ k, fuel = k + 1 := ⟨fuel - 1, by omega⟩
      simp only [List.length_append, List.length_cons] at hfuel
      simp only [List.append_assoc, List.cons_append]
      exact readMembers_next (readString?_stringBody m.1 _)
        (hcs _ (endsValue_cons (by decide) _) fuel (by omega)) (hnext rest fuel (by omega))

theorem exists_spells_array {items : List Doc} (h : ∀ d ∈ items, ∃ cs, Spells cs d) :
    ∃ cs, Spells cs (.array items true) := by
  by_cases hnone : items = []
  · subst hnone
    exact ⟨['[', ']'], spells_of_reads_succ ⟨'[', _, rfl, rfl, by decide⟩ fun _ _ _ _ => rfl⟩
  · obtain ⟨cs, ⟨c, tail, rfl, hc, hend⟩, hcs⟩ := exists_items hnone h
    refine ⟨'[' :: (c :: tail ++ [']']),
      spells_of_reads_succ ⟨'[', _, rfl, rfl, by decide⟩ fun rest _ fuel hfuel => ?_⟩
    rw [List.length_cons, List.length_append, List.length_singleton] at hfuel
    have hitems := hcs rest fuel (by omega)
    rw [List.cons_append, List.append_assoc, List.singleton_append]
    exact readValue_array hc hend hitems

theorem exists_spells_object {members : List (Option String × Doc)}
    (h : ∀ m ∈ members, ∃ cs, Spells cs m.2) : ∃ cs, Spells cs (.object members true) := by
  by_cases hnone : members = []
  · subst hnone
    exact ⟨['\x7b', '\x7d'],
      spells_of_reads_succ ⟨'\x7b', _, rfl, rfl, by decide⟩ fun _ _ _ _ => rfl⟩
  · obtain ⟨cs, hcs⟩ := exists_members hnone h
    refine ⟨'\x7b' :: '"' :: (cs ++ ['\x7d']),
      spells_of_reads_succ ⟨'\x7b', _, rfl, rfl, by decide⟩ fun rest _ fuel hfuel => ?_⟩
    simp only [List.length_cons, List.length_append, List.length_nil] at hfuel
    have hmembers := hcs rest fuel (by omega)
    rw [List.cons_append, List.cons_append, List.append_assoc, List.singleton_append]
    exact readValue_object hmembers

/-- A value that is well-formed is read from some characters, wherever they stand. -/
theorem Doc.IsWellFormed.exists_spells {d : Doc} (h : d.IsWellFormed) : ∃ cs, Spells cs d := by
  induction h with
  | null => exact ⟨_, spells_null⟩
  | bool b =>
    rcases b with _ | _
    · exact ⟨_, spells_false⟩
    · exact ⟨_, spells_true⟩
  | number hread => exact exists_spells_number hread
  | text s => exact ⟨_, spells_text s⟩
  | array _ ih => exact exists_spells_array ih
  | object _ ih => exact exists_spells_object ih

/-! ### Documents -/

/-- The values that are all of some text are the well-formed ones. -/
theorem isDocument_iff {d : Doc} : IsDocument d ↔ d.IsWellFormed := by
  constructor
  · rintro ⟨s, hs⟩
    rw [read, readChars] at hs
    generalize hread : readValue (2 * s.toList.length + 2) s.toList = result at hs
    obtain ⟨root, rest⟩ := result
    obtain ⟨rfl, hended⟩ := Document.mk.inj hs
    cases rest with
    | none => cases hended
    | some rest => exact (readsWellFormed _).value hread
  · intro h
    obtain ⟨cs, hcs⟩ := h.exists_spells
    have hread := hcs.reads [] endsValue_nil (2 * cs.length + 2) (by omega)
    rw [List.append_nil] at hread
    refine ⟨String.ofList cs, ?_⟩
    rw [read, String.toList_ofList, readChars, hread]
    rfl

/-- The items of a document are documents, and all documents can be the items of one. -/
theorem isDocument_array_iff {items : List Doc} {closed : Bool} :
    IsDocument (.array items closed) ↔ closed = true ∧ ∀ d ∈ items, IsDocument d := by
  simp only [isDocument_iff]
  constructor
  · rintro ⟨⟩
    exact ⟨rfl, ‹_›⟩
  · rintro ⟨rfl, h⟩
    exact .array h

/-- So can the values of members, under any names. -/
theorem isDocument_object_iff {members : List (Option String × Doc)} {closed : Bool} :
    IsDocument (.object members closed) ↔ closed = true ∧ ∀ m ∈ members, IsDocument m.2 := by
  simp only [isDocument_iff]
  constructor
  · rintro ⟨⟩
    exact ⟨rfl, ‹_›⟩
  · rintro ⟨rfl, h⟩
    exact .object h

theorem IsDocument.isWhole {d : Doc} (h : IsDocument d) : d.isWhole = true := by
  rcases isDocument_iff.1 h with _ | _ | _ | _ | _ | _ <;> rfl

end AlertRelay.Json
