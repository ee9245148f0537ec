import Regraft.Proofs.Characters
import Regraft.Xml.Reader
/-!
# Escaped texts as they are read

Escaping is one replacement for every character (`escapeChars_eq_flatMap`), and reading undoes it: what is read of
an escaped text is the text itself, but for the line ends and blanks that are read as others
(`decode_escapeChars`).  No end of a section stands in an escaped text, and its characters are characters of markup if
those of the text are.
-/

namespace Regraft

namespace Text

/-! ## 1. Escaping

Three characters are replaced, in an order in which none is replaced twice.  Done character by character it comes to the
same. -/

/-- What stands for a character in an escaped text. -/
def escapeChar (c : Char) : List Char :=
  if c = '&' then "&amp;".toList else if c = '<' then "&lt;".toList else if c = '>' then "&gt;".toList else [c]

theorem escapeChars_eq_flatMap (s : List Char) : escapeChars s = s.flatMap escapeChar := by
  rw [escapeChars, replaceAll_singleton, replaceAll_singleton, replaceAll_singleton, List.flatMap_assoc,
    List.flatMap_assoc]
  congr 1
  funext c
  by_cases hamp : c = '&'
  · subst hamp
    rfl
  · by_cases hlt : c = '<'
    · subst hlt
      rfl
    · simp only [hamp, hlt, if_false, List.flatMap_cons, List.flatMap_nil, List.append_nil, escapeChar]

theorem escapeChars_cons (c : Char) (s : List Char) : escapeChars (c :: s) = escapeChar c ++ escapeChars s := by
  rw [escapeChars_eq_flatMap, List.flatMap_cons, ← escapeChars_eq_flatMap]

theorem escapeChar_of_ne {c : Char} (hamp : c ≠ '&') (hlt : c ≠ '<') (hgt : c ≠ '>') : escapeChar c = [c] := by
  rw [escapeChar, if_neg hamp, if_neg hlt, if_neg hgt]

theorem escapeChars_ne_nil {s : List Char} (hs : s ≠ []) : escapeChars s ≠ [] :=
  replaceAll_ne_nil (by decide) (replaceAll_ne_nil (by decide) (replaceAll_ne_nil (by decide) hs))

theorem greater_not_mem_escapeChars (s : List Char) : '>' ∉ escapeChars s := by
  intro h
  rcases mem_replaceAll_singleton h with h | ⟨-, h⟩
  · exact absurd h (by decide)
  · exact h rfl

/-- An escaped text begins with a line feed if the text does. -/
theorem head_escapeChars (s : List Char) : (escapeChars s).head? = some '\n' ↔ s.head? = some '\n' := by
  cases s with
  | nil => exact Iff.rfl
  | cons c s =>
    rw [escapeChars_cons, escapeChar]
    split
    · rename_i h
      simp [h]
    · split
      · rename_i h
        simp [h]
      · split
        · rename_i h
          simp [h]
        · simp

end Text

namespace Xml

theorem all_escapeChars (s : List Char) : (Text.escapeChars s).all isXmlChar = s.all isXmlChar := by
  rw [Text.escapeChars_eq_flatMap, List.all_flatMap]
  congr 1
  funext c
  rw [Text.escapeChar]
  split
  · rename_i h
    rw [h]
    decide
  · split
    · rename_i h
      rw [h]
      decide
    · split
      · rename_i h
        rw [h]
        decide
      · simp

namespace Reader

/-! ## 2. Reading what has been escaped

Every reference that escaping makes is decoded to its character.  Line ends are another matter: two characters may be
read as one, in text as in attributes. -/

/-- A text with line ends and blanks as they are read. -/
def normalized (lineEnd : Char) (blank : Char → Char) : List Char → List Char
  | [] => []
  | c :: rest =>
    if c = '\r' then
      if rest.head? = some '\n' then normalized lineEnd blank rest else lineEnd :: normalized lineEnd blank rest
    else if c = '\n' then lineEnd :: normalized lineEnd blank rest
    else blank c :: normalized lineEnd blank rest

variable {lineEnd : Char} {blank : Char → Char}

/-- What stands for one of the characters that are escaped is read as that character. -/
theorem decode_reference {c : Char} (hc : c ∈ ['&', '<', '>']) {rest decoded : List Char}
    (h : decode lineEnd blank none rest = some decoded) :
    decode lineEnd blank none (Text.escapeChar c ++ rest) = some (c :: decoded) := by
  have hamp : reference? ['a', 'm', 'p'] = some '&' := by decide
  have hlt : reference? ['l', 't'] = some '<' := by decide
  have hgt : reference? ['g', 't'] = some '>' := by decide
  simp only [List.mem_cons, List.not_mem_nil, or_false] at hc
  rcases hc with rfl | rfl | rfl
  · show decode lineEnd blank none ('&' :: 'a' :: 'm' :: 'p' :: ';' :: rest) = _
    simp [decode, hamp, h]
  · show decode lineEnd blank none ('&' :: 'l' :: 't' :: ';' :: rest) = _
    simp [decode, hlt, h]
  · show decode lineEnd blank none ('&' :: 'g' :: 't' :: ';' :: rest) = _
    simp [decode, hgt, h]

/-- **An escaped text is read as the text**, with its line ends and blanks as they are read. -/
theorem decode_escapeChars (hblank : ∀ c ∈ ['&', '<', '>'], blank c = c) (s : List Char) :
    decode lineEnd blank none (Text.escapeChars s) = some (normalized lineEnd blank s) := by
  induction s with
  | nil => rfl
  | cons c s ih =>
    rw [Text.escapeChars_cons, normalized]
    by_cases hc : c ∈ ['&', '<', '>']
    · have hreturn : c ≠ '\r' ∧ c ≠ '\n' := by
        constructor <;> rintro rfl <;> exact absurd hc (by decide)
      rw [decode_reference hc ih, if_neg hreturn.1, if_neg hreturn.2, hblank c hc]
    · obtain ⟨hamp, hlt, hgt⟩ : c ≠ '&' ∧ c ≠ '<' ∧ c ≠ '>' := by simpa using hc
      rw [Text.escapeChar_of_ne hamp hlt hgt, List.singleton_append, decode]
      simp only [if_neg hamp, Text.head_escapeChars, ih]
      split
      · split
        · rfl
        · rfl
      · split
        · rfl
        · rfl

end Reader

namespace Token

/-- A word is not in a text without its last character. -/
theorem splitAtWord_of_not_mem {word : List Char} {c : Char} (hword : c ∈ word) {s : List Char} (hs : c ∉ s) :
    splitAtWord? word s = none := by
  induction s with
  | nil =>
    rw [splitAtWord?, if_neg]
    cases word with
    | nil => cases hword
    | cons d word => simp
  | cons d s ih =>
    have hnone : afterWord? word (d :: s) = none := by
      rw [afterWord?, if_neg]
      intro hbegins
      exact hs ((List.isPrefixOf_iff_prefix.mp hbegins).subset hword)
    rw [splitAtWord?, hnone]
    dsimp only
    rw [ih fun hmem => hs (List.mem_cons_of_mem _ hmem)]
    rfl

end Token

end Xml

end Regraft
