/-!
# Splitting

`splitChars` cuts a list of characters at every occurrence of a separator and leaves the separators
out: no part has one in it (`not_mem_of_mem_splitChars`), and the parts with separators between them
are the whole again (`intercalate_splitChars`). What stands in front of a separator and behind it is
cut separately (`splitChars_append_cons`). `byteLines` cuts bytes into lines and leaves each
line its line feed, so that the lines put together are the bytes again (`flatten_byteLines`), and
what stands behind a line makes no difference to it (`byteLines_line`).
-/

namespace AlertRelay.Text

/-- The parts of a list of characters between the occurrences of a separator. There is always one
part more than there are separators. -/
def splitChars (separator : Char) (cs : List Char) : List (List Char) :=
  cs.foldr (fun c parts =>
    if c = separator then [] :: parts
    else match parts with
      | part :: parts => (c :: part) :: parts
      | [] => [[c]]) [[]]

theorem splitChars_cons (separator c : Char) (cs : List Char) :
    splitChars separator (c :: cs) =
      if c = separator then [] :: splitChars separator cs
      else match splitChars separator cs with
        | part :: parts => (c :: part) :: parts
        | [] => [[c]] := rfl

/-- There is always a part. -/
theorem splitChars_ne_nil (separator : Char) (cs : List Char) : splitChars separator cs ≠ [] := by
  cases cs with
  | nil => exact List.cons_ne_nil _ _
  | cons c cs =>
    rw [splitChars_cons]
    split
    · exact List.cons_ne_nil _ _
    · split <;> exact List.cons_ne_nil _ _

/-- No part has the separator in it. -/
theorem not_mem_of_mem_splitChars {separator : Char} {cs part : List Char}
    (h : part ∈ splitChars separator cs) : separator ∉ part := by
  induction cs generalizing part with
  | nil =>
    have hpart : part = [] := List.mem_singleton.1 h
    simp [hpart]
  | cons c cs ih =>
    rw [splitChars_cons] at h
    split at h
    · rcases List.mem_cons.1 h with rfl | h
      · exact List.not_mem_nil
      · exact ih h
    · rename_i hc
      split at h <;> rename_i hcs
      · rcases List.mem_cons.1 h with rfl | h
        · have hpart := ih (by rw [hcs]; exact List.mem_cons_self)
          simp [hpart, Ne.symm hc]
        · exact ih (by rw [hcs]; exact List.mem_cons_of_mem _ h)
      · exact absurd hcs (splitChars_ne_nil _ _)

/-- The parts with separators between them are the whole again. -/
theorem intercalate_splitChars (separator : Char) (cs : List Char) :
    [separator].intercalate (splitChars separator cs) = cs := by
  induction cs with
  | nil => rfl
  | cons c cs ih =>
    rw [splitChars_cons]
    cases hcs : splitChars separator cs with
    | nil => exact absurd hcs (splitChars_ne_nil _ _)
    | cons part parts =>
      rw [hcs] at ih
      split
      · rename_i hc
        simp [ih, hc]
      · cases parts <;> simp_all

/-- A list without the separator is a single part. -/
theorem splitChars_of_not_mem {separator : Char} {cs : List Char} (h : separator ∉ cs) :
    splitChars separator cs = [cs] := by
  induction cs with
  | nil => rfl
  | cons c cs ih =>
    rw [List.mem_cons, not_or] at h
    rw [splitChars_cons, if_neg (Ne.symm h.1), ih h.2]

/-- A separator keeps the parts in front of it apart from those behind it. -/
theorem splitChars_append_cons (separator : Char) (cs rest : List Char) :
    splitChars separator (cs ++ separator :: rest) =
      splitChars separator cs ++ splitChars separator rest := by
  induction cs with
  | nil =>
    rw [List.nil_append, splitChars_cons, if_pos rfl]
    rfl
  | cons c cs ih =>
    rw [List.cons_append, splitChars_cons, splitChars_cons, ih]
    cases hcs : splitChars separator cs with
    | nil => exact absurd hcs (splitChars_ne_nil _ _)
    | cons part parts =>
      split
      · rfl
      · rfl

/-- The byte that ends a line. -/
def lineFeed : UInt8 := 10

/-- The byte that may stand before a line feed. -/
def carriageReturn : UInt8 := 13

/-- The lines of some bytes, each with its line feed. Only the last one may lack it. -/
def byteLines : List UInt8 → List (List UInt8)
  | [] => []
  | b :: rest =>
    if b = lineFeed then [b] :: byteLines rest
    else match byteLines rest with
      | line :: lines => (b :: line) :: lines
      | [] => [[b]]

/-- No byte is lost by cutting into lines. -/
theorem flatten_byteLines (bytes : List UInt8) : (byteLines bytes).flatten = bytes := by
  induction bytes with
  | nil => rfl
  | cons b rest ih =>
    unfold byteLines
    split
    · simp [ih]
    · split <;> rename_i h <;> rw [h] at ih <;> simp_all

/-- A line with a line feed at its end, and with no other one, is cut off. -/
theorem byteLines_line {line : List UInt8} (hline : lineFeed ∉ line) (rest : List UInt8) :
    byteLines (line ++ [lineFeed] ++ rest) = (line ++ [lineFeed]) :: byteLines rest := by
  induction line with
  | nil => rfl
  | cons b line ih =>
    rw [List.mem_cons, not_or] at hline
    rw [List.cons_append, List.cons_append, byteLines, if_neg (Ne.symm hline.1), ih hline.2]

end AlertRelay.Text
