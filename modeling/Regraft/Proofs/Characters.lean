import Mathlib.Data.List.TakeWhile
import Regraft.Text.Markup
import Regraft.Unicode.Property
/-!
# Characters of texts

What replacing, trimming and escaping do to the characters of a text, where a run of characters ends, and what can be
checked of white space.

The functions work on lists of characters, and so do the lemmas.  Replacing is from left to right, and what has been put
in is not looked at again; for a single character that comes to replacing it everywhere (`replaceAll_singleton`), which
is the form that escaping is used in.
-/

namespace Regraft.Text

/-! ## 1. Runs and ends

A run ends where a character follows that is not of its class.  Most scanners are such runs, one after the other, with a
delimiter between them. -/

/-- The run of characters of a class at the beginning of a text, if what follows does not go on with it. -/
theorem takeWhile_append_of_end {p : Char → Bool} {s rest : List Char} (hs : ∀ c ∈ s, p c = true)
    (hrest : ∀ c ∈ rest.head?, p c = false) :
    (s ++ rest).takeWhile p = s ∧ (s ++ rest).dropWhile p = rest := by
  have hnil : rest.takeWhile p = [] ∧ rest.dropWhile p = rest := by
    cases rest with
    | nil => exact ⟨rfl, rfl⟩
    | cons c rest => simp [hrest c rfl]
  rw [List.takeWhile_append_of_pos hs, List.dropWhile_append_of_pos hs, hnil.1, hnil.2]
  exact ⟨List.append_nil s, rfl⟩

/-- The run of characters up to one that does not stand in it. -/
theorem takeWhile_bne_append {a : Char} {s : List Char} (hs : a ∉ s) (rest : List Char) :
    (s ++ a :: rest).takeWhile (· != a) = s ∧ (s ++ a :: rest).dropWhile (· != a) = a :: rest := by
  refine takeWhile_append_of_end (fun c hc => ?_) fun c hc => ?_
  · rw [bne_iff_ne]
    rintro rfl
    exact hs hc
  · obtain rfl : a = c := by simpa using hc
    simp

/-- What is trimmed at the end may be left off before. -/
theorem trimEndBy_append {p : Char → Bool} {u : List Char} (hu : u.all p = true) (s : List Char) :
    trimEndBy p (s ++ u) = trimEndBy p s := by
  have hreverse : ∀ c ∈ u.reverse, p c = true := fun c hc => List.all_eq_true.mp hu c (List.mem_reverse.mp hc)
  rw [trimEndBy, List.reverse_append, List.dropWhile_append_of_pos hreverse]
  rfl

/-- What begins a text is not trimmed at its end, as far as there is nothing to trim in it. -/
theorem takeWhile_trimEndBy (p : Char → Bool) (s : List Char) :
    (trimEndBy p s).takeWhile (!p ·) = s.takeWhile (!p ·) := by
  have hdivided : s = trimEndBy p s ++ (s.reverse.takeWhile p).reverse := by
    rw [trimEndBy, ← List.reverse_append, List.takeWhile_append_dropWhile, List.reverse_reverse]
  have hend : (s.reverse.takeWhile p).reverse.takeWhile (!p ·) = [] := by
    cases hreverse : (s.reverse.takeWhile p).reverse with
    | nil => rfl
    | cons c u =>
      have hc : p c = true := List.mem_takeWhile_imp (List.mem_reverse.mp (hreverse ▸ List.mem_cons_self))
      simp [hc]
  calc (trimEndBy p s).takeWhile (!p ·)
      = (trimEndBy p s ++ (s.reverse.takeWhile p).reverse).takeWhile (!p ·) := by
        rw [List.takeWhile_append, hend]
        split
        · rename_i hlength
          rw [List.append_nil]
          exact (List.takeWhile_prefix _).eq_of_length hlength
        · rfl
    _ = s.takeWhile (!p ·) := by rw [← hdivided]

/-- What ends in something else is not trimmed. -/
theorem trimEndBy_of_getLast? {p : Char → Bool} {s : List Char} (h : ∀ c ∈ s.getLast?, p c = false) :
    trimEndBy p s = s := by
  have hreverse : s.reverse.dropWhile p = s.reverse :=
    (takeWhile_append_of_end (s := []) (by simp) (by simpa using h)).2
  rw [trimEndBy, hreverse, List.reverse_reverse]

theorem forall_getLast?_append {P : Char → Prop} {s u : List Char} (hs : ∀ c ∈ s.getLast?, P c)
    (hu : ∀ c ∈ u.getLast?, P c) :
    ∀ c ∈ (s ++ u).getLast?, P c := by
  intro c hc
  rw [List.getLast?_append] at hc
  rcases Option.or_eq_some_iff.mp hc with hc | ⟨-, hc⟩
  · exact hu c hc
  · exact hs c hc

/-- What holds of every character in the table of white space holds of all white space. -/
theorem forall_isBlank {p : Char → Prop}
    (hall : ∀ r ∈ Unicode.whiteSpace, ∀ n ≤ r.2 - r.1, p (Char.ofNat (r.1 + n))) {c : Char}
    (h : Unicode.isBlank c = true) : p c := by
  obtain ⟨r, hr, hc⟩ := List.any_eq_true.mp h
  obtain ⟨hle, hle'⟩ : r.1 ≤ c.toNat ∧ c.toNat ≤ r.2 := by simpa using hc
  have hn := hall r hr (c.toNat - r.1) (by omega)
  rwa [Nat.add_sub_cancel' hle, Char.ofNat_toNat] at hn

/-! ## 2. Replacements

What is left of a character that is replaced, and what is new, decides which markup can be in an escaped text: no
opening bracket is, and no quote where quotes are escaped. -/

/-- To replace a single character is to replace it wherever it stands. -/
theorem replaceAll_singleton (a : Char) (new s : List Char) :
    replaceAll [a] new s = s.flatMap fun c => if c = a then new else [c] := by
  unfold replaceAll
  induction s with
  | nil => rfl
  | cons c s ih =>
    rw [replaceAfter, List.flatMap_cons]
    by_cases h : c = a
    · simp [h, ih]
    · have h' : a ≠ c := fun hac => h hac.symm
      simp [h, h', ih]

/-- What does not begin a word to replace stays. -/
theorem replaceAll_cons {old new s : List Char} {c : Char} (h : ¬ old <+: c :: s) :
    replaceAll old new (c :: s) = c :: replaceAll old new s := by
  have hfalse : old.isPrefixOf (c :: s) = false := by
    rw [Bool.eq_false_iff, ne_eq, List.isPrefixOf_iff_prefix]
    exact h
  rw [replaceAll, replaceAfter, if_neg (by rw [hfalse]; exact Bool.false_ne_true)]
  rfl

/-- No word comes up that was not there before, unless what has been put in stands in it. -/
theorem prefix_of_prefix_replaceAll {old w s : List Char} {a : Char} (ha : a ∉ w)
    (h : w <+: replaceAll old [a] s) : w <+: s := by
  induction s generalizing w with
  | nil => exact h
  | cons c s ih =>
    by_cases hbegins : old <+: c :: s
    · cases w with
      | nil => exact List.nil_prefix
      | cons b w =>
        have hhead : b = a := by
          rw [replaceAll, replaceAfter, if_pos (List.isPrefixOf_iff_prefix.mpr hbegins)] at h
          exact (List.cons_prefix_cons.mp h).1
        exact absurd (hhead ▸ List.mem_cons_self) ha
    · rw [replaceAll_cons hbegins] at h
      cases w with
      | nil => exact List.nil_prefix
      | cons b w =>
        obtain ⟨rfl, hw⟩ := List.cons_prefix_cons.mp h
        exact List.cons_prefix_cons.mpr ⟨rfl, ih (fun hmem => ha (List.mem_cons_of_mem _ hmem)) hw⟩

/-- What remains is of the text or of what has been put in. -/
theorem mem_replaceAll_singleton {a c : Char} {new s : List Char} (h : c ∈ replaceAll [a] new s) :
    c ∈ new ∨ c ∈ s ∧ c ≠ a := by
  rw [replaceAll_singleton, List.mem_flatMap] at h
  obtain ⟨b, hb, hc⟩ := h
  by_cases hba : b = a
  · rw [if_pos hba] at hc
    exact .inl hc
  · rw [if_neg hba, List.mem_singleton] at hc
    exact .inr ⟨hc ▸ hb, hc ▸ hba⟩

/-- No opening bracket is left in an escaped text. -/
theorem not_mem_escapeChars (s : List Char) : '<' ∉ escapeChars s := by
  intro h
  rcases mem_replaceAll_singleton h with h | ⟨h, -⟩
  · exact absurd h (by decide)
  · rcases mem_replaceAll_singleton h with h | ⟨-, h⟩
    · exact absurd h (by decide)
    · exact h rfl

/-- Where nothing is replaced by nothing, no text vanishes. -/
theorem replaceAll_ne_nil {old new s : List Char} (hnew : new ≠ []) (hs : s ≠ []) :
    replaceAll old new s ≠ [] := by
  obtain ⟨c, s, rfl⟩ := List.exists_cons_of_ne_nil hs
  rw [replaceAll, replaceAfter]
  split
  · simp [hnew]
  · simp

/-- Unescaping makes no text empty. -/
theorem unescape_ne_empty {s : String} (h : s.isEmpty = false) : (unescape s).isEmpty = false := by
  have hs : s.toList ≠ [] := by simpa [← Bool.not_eq_true] using h
  have hchars : unescapeChars s.toList ≠ [] :=
    replaceAll_ne_nil (by decide) (replaceAll_ne_nil (by decide) (replaceAll_ne_nil (by decide) hs))
  simpa [← Bool.not_eq_true, unescape] using hchars

/-- Where there is nothing to replace, nothing is replaced. -/
theorem replaceAll_of_not_mem {a : Char} {new s : List Char} (h : a ∉ s) : replaceAll [a] new s = s := by
  rw [replaceAll_singleton]
  induction s with
  | nil => rfl
  | cons c s ih =>
    obtain ⟨hc, hs⟩ : a ≠ c ∧ a ∉ s := by simpa using h
    rw [List.flatMap_cons, ih hs, if_neg fun heq => hc heq.symm]
    rfl

/-- Whether a text stands between double quotes as it is. -/
def isPlain (s : String) : Bool := s.toList.all fun c => decide (c ∉ ['&', '<', '>', '"'])

theorem not_mem_of_isPlain {s : String} (h : isPlain s = true) {c : Char} (hc : c ∈ ['&', '<', '>', '"']) :
    c ∉ s.toList := by
  intro hmem
  have hnot : c ∉ ['&', '<', '>', '"'] := of_decide_eq_true (List.all_eq_true.mp h c hmem)
  exact hnot hc

/-- Neither quotes nor brackets are left where they are escaped. -/
theorem not_mem_escapeAttribute (s : String) {c : Char} (hc : c ∈ ['<', '>', '"']) :
    c ∉ (escapeAttribute s).toList := by
  intro h
  rw [escapeAttribute, String.toList_ofList] at h
  have hmade : c ∉ "&quot;".toList ∧ c ∉ "&gt;".toList ∧ c ∉ "&lt;".toList := by
    simp only [List.mem_cons, List.not_mem_nil, or_false] at hc
    rcases hc with rfl | rfl | rfl
    · decide
    · decide
    · decide
  obtain ⟨hquot, hgt, hlt⟩ := hmade
  rcases mem_replaceAll_singleton h with h | ⟨h, hquote⟩
  · exact hquot h
  rcases mem_replaceAll_singleton h with h | ⟨h, hgreater⟩
  · exact hgt h
  rcases mem_replaceAll_singleton h with h | ⟨-, hless⟩
  · exact hlt h
  simp only [List.mem_cons, List.not_mem_nil, or_false] at hc
  rcases hc with rfl | rfl | rfl
  · exact hless rfl
  · exact hgreater rfl
  · exact hquote rfl

theorem escapeAttribute_of_isPlain {s : String} (h : isPlain s = true) : escapeAttribute s = s := by
  have hnot {c : Char} := not_mem_of_isPlain h (c := c)
  rw [escapeAttribute, escapeChars, replaceAll_of_not_mem (hnot (by simp)), replaceAll_of_not_mem (hnot (by simp)),
    replaceAll_of_not_mem (hnot (by simp)), replaceAll_of_not_mem (hnot (by simp)), String.ofList_toList]

/-- Replacing by longer texts makes no text shorter, and longer any that there is something to replace in. -/
theorem length_replaceAll (a : Char) {new : List Char} (hnew : 1 < new.length) (s : List Char) :
    s.length ≤ (replaceAll [a] new s).length ∧ (a ∈ s → s.length < (replaceAll [a] new s).length) := by
  rw [replaceAll_singleton]
  induction s with
  | nil => simp
  | cons c s ih =>
    obtain ⟨hle, hlt⟩ := ih
    rw [List.flatMap_cons, List.length_append, List.length_cons]
    split
    · exact ⟨by omega, fun _ => by omega⟩
    · rename_i hc
      rw [List.length_singleton]
      refine ⟨by omega, fun hmem => ?_⟩
      have hrest := hlt ((List.mem_cons.mp hmem).resolve_left fun h => hc h.symm)
      omega

/-- Only plain texts stay as they are where they are escaped. -/
theorem escapeAttribute_eq_iff {s : String} : escapeAttribute s = s ↔ isPlain s = true := by
  refine ⟨fun h => List.all_eq_true.mpr fun c hmem => decide_eq_true fun hc => ?_, escapeAttribute_of_isPlain⟩
  rcases List.mem_cons.mp hc with rfl | hc
  · -- An ampersand is still there, but in a longer text.
    have hlength : (escapeAttribute s).toList.length = s.toList.length := by rw [h]
    have hamp := (length_replaceAll '&' (by decide : 1 < "&amp;".toList.length) s.toList).2 hmem
    have hlt := (length_replaceAll '<' (by decide : 1 < "&lt;".toList.length)
      (replaceAll ['&'] "&amp;".toList s.toList)).1
    have hgt := (length_replaceAll '>' (by decide : 1 < "&gt;".toList.length)
      (replaceAll ['<'] "&lt;".toList (replaceAll ['&'] "&amp;".toList s.toList))).1
    have hquot := (length_replaceAll '"' (by decide : 1 < "&quot;".toList.length) (escapeChars s.toList)).1
    rw [escapeAttribute, String.toList_ofList] at hlength
    rw [escapeChars] at hquot hlength
    omega
  · exact not_mem_escapeAttribute s hc (by rwa [h])

end Regraft.Text
