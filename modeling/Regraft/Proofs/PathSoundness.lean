import Mathlib.Data.List.Induction
import Regraft.Proofs.Characters
import Regraft.Proofs.PathGrammar
import Regraft.Proofs.PathReaders
import Regraft.Proofs.Success
/-!
# What is read as a path denotes it

What the readers of a path return is what the text that they have taken denotes: there is such a text in front of what
they leave, and the grammar relates it to the result.  Nothing is said here of texts that a reader refuses, and nothing
of what comes after a text; that is the other direction (`Readers.whole_iff_denotes`), for which this one is needed.

`Sound fuel` says this of the five readers that call each other, for so many steps of recursion.  Each of them is a
lemma of its own, under the hypothesis that it holds of all five for one step less (`sound_path` to `sound_predicate`),
and `sound` puts them together by induction on the number of steps.  The readers that call none of them come first, and
each is inverted once.

The classes of characters are compared at the beginning: what a reader tests with a function is a condition in the
grammar, and white space, digits, punctuation and letters do not meet.
-/

namespace Regraft.Path

namespace Parser

open Grammar

/-! ## 1. Characters

The grammar speaks of letters and digits as conditions, the readers of functions to `Bool`.  That the classes are apart
is checked for the ten digits and for the eleven marks of punctuation one by one; for digits it then holds of every
character between the first and the last. -/

theorem isNameStart_iff {c : Char} : isNameStart c = true ↔ Unicode.isAlphabetic c = true ∨ c = '_' := by
  simp [isNameStart]

theorem isNameChar_iff {c : Char} :
    isNameChar c = true ↔ Unicode.isAlphanumeric c = true ∨ c = '_' ∨ c = '-' ∨ c = '.' := by
  simp [isNameChar, or_assoc]

theorem isDigit_iff {c : Char} : isDigit c = true ↔ '0' ≤ c ∧ c ≤ '9' := by
  simp [isDigit]

/-- No white space stands in a name. -/
theorem isNameChar_of_isBlank {c : Char} (h : Unicode.isBlank c = true) : isNameChar c = false :=
  Text.forall_isBlank (p := fun c => isNameChar c = false) (by decide +kernel) h

/-- The punctuation of paths is neither white space nor of a name. -/
theorem isNameChar_punctuation :
    ∀ c ∈ ['/', '[', ']', '=', '!', ':', '(', '*', '@', '"', '\''],
      isNameChar c = false ∧ Unicode.isBlank c = false := by
  have hall : ['/', '[', ']', '=', '!', ':', '(', '*', '@', '"', '\''].all
      (fun c => !isNameChar c && !Unicode.isBlank c) = true := by decide +kernel
  intro c hc
  simpa using List.all_eq_true.mp hall c hc

theorem isNameStart_punctuation : ∀ c ∈ ['/', '.', '*', '@'], isNameStart c = false := by
  have hall : ['/', '.', '*', '@'].all (fun c => !isNameStart c) = true := by decide +kernel
  intro c hc
  simpa using List.all_eq_true.mp hall c hc

/-- What holds of each of the ten digits holds of every character between the first and the last of them. -/
theorem forall_isDigit {p : Char → Prop} (hall : ∀ n < 10, p (Char.ofNat ('0'.toNat + n))) {c : Char}
    (h : isDigit c = true) : p c := by
  obtain ⟨hle, hle'⟩ : '0'.toNat ≤ c.toNat ∧ c.toNat ≤ '9'.toNat := isDigit_iff.mp h
  have hn := hall (c.toNat - '0'.toNat) (by simp at hle hle' ⊢; omega)
  rwa [Nat.add_sub_cancel' hle, Char.ofNat_toNat] at hn

theorem not_isNameStart_of_isDigit {c : Char} (h : isDigit c = true) : isNameStart c = false :=
  forall_isDigit (p := fun c => isNameStart c = false) (by decide +kernel) h

theorem not_isBlank_of_isDigit {c : Char} (h : isDigit c = true) : Unicode.isBlank c = false :=
  forall_isDigit (p := fun c => Unicode.isBlank c = false) (by decide +kernel) h

/-- The digits read one after the other have their decimal value. -/
theorem digitsValue_eq_decimal (s : List Char) : digitsValue s = decimal s := by
  induction s using List.reverseRecOn with
  | nil => rfl
  | append_singleton s c ih =>
    have hvalue : digitsValue (s ++ [c]) = 10 * digitsValue s + (c.toNat - '0'.toNat) := by simp [digitsValue]
    have hdecimal : decimal (s ++ [c]) = (c.toNat - '0'.toNat) + 10 * decimal s := by
      simp [decimal, Nat.ofDigits_cons]
    omega

end Parser

namespace Readers

open Grammar Regraft.Path.Parser

/-! ## 2. What is read is denoted

A reader takes characters from the front, so `s = t ++ rest` is what it means that `t` has been taken.  A predicate may
be followed by white space that it does not denote, which its lemma has as a text of its own. -/

theorem blank_nil : Blank [] := fun _ hc => absurd hc List.not_mem_nil

/-- White space is skipped up to what is none. -/
theorem skipBlank_append {w : List Char} {c : Char} (hw : Blank w) (hc : Unicode.isBlank c = false)
    (rest : List Char) : skipBlank (w ++ c :: rest) = c :: rest :=
  (Text.takeWhile_append_of_end hw fun d hd => by
    obtain rfl : c = d := by simpa using hd
    exact hc).2

theorem exists_blank (s : List Char) : ∃ w, Blank w ∧ s = w ++ skipBlank s :=
  ⟨s.takeWhile Unicode.isBlank, fun _ hc => List.mem_takeWhile_imp hc, (List.takeWhile_append_dropWhile).symm⟩

section Sound

variable {s rest : List Char}

/-- A name without a prefix is a letter with all name characters that follow. -/
theorem ncname_sound {n : String} (h : ncname s = .ok (n, rest)) :
    ∃ t, s = t ++ rest ∧ NCName t ∧ n = .ofList t := by
  cases s with
  | nil => cases h
  | cons c s =>
    rw [ncname] at h
    split at h
    · rename_i hc
      cases h
      refine ⟨c :: s.takeWhile isNameChar, ?_, .mk (isNameStart_iff.mp hc) fun d hd => ?_, rfl⟩
      · rw [List.cons_append, List.takeWhile_append_dropWhile]
      · exact isNameChar_iff.mp (List.mem_takeWhile_imp hd)
    · cases h

/-- A name has a prefix if a colon stands after the first of its parts, and then it has a second part. -/
theorem name_sound {n : Name} (h : name s = .ok (n, rest)) : ∃ t, s = t ++ rest ∧ IsName t n := by
  obtain ⟨⟨first, s'⟩, hfirst, h⟩ := bind_ok.mp h
  obtain ⟨t, rfl, ht, rfl⟩ := ncname_sound hfirst
  dsimp only at h
  split at h
  · rename_i s'
    obtain ⟨⟨second, rest'⟩, hsecond, h⟩ := bind_ok.mp h
    obtain ⟨u, rfl, hu, rfl⟩ := ncname_sound hsecond
    cases h
    exact ⟨t ++ ':' :: u, by simp, .prefixed ht hu⟩
  · cases h
    exact ⟨t, rfl, .bare ht⟩

theorem isName_bare_inv {l : String} {t : List Char} (h : IsName t ⟨none, l⟩) : NCName t ∧ t = l.toList := by
  generalize hn : (⟨none, l⟩ : Name) = n at h
  cases h with
  | bare ht =>
    obtain ⟨-, rfl⟩ := Name.mk.inj hn
    exact ⟨ht, String.toList_ofList.symm⟩
  | prefixed _ _ => cases hn

/-- A test is told by its first characters; a name that is followed by a parenthesis must be that of the test for
text. -/
theorem test_sound {x : Test} (h : test s = .ok (x, rest)) : ∃ t, s = t ++ rest ∧ IsTest t x := by
  rw [test.eq_def] at h
  split at h
  · cases h
  · cases h
  · cases h
    exact ⟨_, rfl, .parent⟩
  · cases h
    exact ⟨_, rfl, .here⟩
  · cases h
    exact ⟨_, rfl, .anyElement⟩
  · obtain ⟨⟨n, rest'⟩, hn, hrest⟩ := bind_ok.mp h
    obtain ⟨t, ht, hname⟩ := name_sound hn
    cases hrest
    exact ⟨'@' :: t, by rw [ht]; rfl, .attribute hname⟩
  · obtain ⟨⟨n, rest'⟩, hn, hrest⟩ := bind_ok.mp h
    obtain ⟨t, ht, hname⟩ := name_sound hn
    dsimp only at hrest
    split at hrest
    · split at hrest
      · rename_i htext
        cases hrest
        obtain ⟨-, rfl⟩ := isName_bare_inv (htext ▸ hname)
        exact ⟨_, ht, .text⟩
      · cases hrest
        exact ⟨t, ht, .element hname⟩
    · cases hrest
      exact ⟨t, ht, .element hname⟩

/-- A literal ends at the next quote of its own kind, which is not in it. -/
theorem literal_sound {value : String} (h : literal s = .ok (value, rest)) :
    ∃ t, s = t ++ rest ∧ IsLiteral t value := by
  cases s with
  | nil => cases h
  | cons q s =>
    rw [literal] at h
    split at h
    · rename_i hq
      split at h
      · cases h
      · rename_i c after hdrop
        cases h
        have hc : c = q := by
          have hhead := List.head?_dropWhile_not (· != q) s
          rw [hdrop] at hhead
          simpa using hhead
        subst hc
        refine ⟨c :: (s.takeWhile (· != c) ++ [c]), ?_, .mk hq fun hmem => ?_⟩
        · have hs := List.takeWhile_append_dropWhile (p := (· != c)) (l := s)
          rw [hdrop] at hs
          simp [hs]
        · simpa using List.mem_takeWhile_imp hmem
    · cases h

/-- What follows the path of a predicate is a comparison or nothing, with white space before it. -/
theorem comparison_sound {p : Path} {x : Predicate} (h : comparison p s = .ok (x, rest)) :
    ∃ w t, Blank w ∧ s = w ++ t ++ rest ∧ (t = [] ∧ x = .exists p ∨ IsComparison p t x) := by
  obtain ⟨w, hw, hs⟩ := exists_blank s
  rw [comparison] at h
  split at h
  · rename_i s' hs'
    rw [hs'] at hs
    obtain ⟨⟨value, rest'⟩, hvalue, h⟩ := bind_ok.mp h
    obtain ⟨t, ht, hliteral⟩ := literal_sound hvalue
    obtain ⟨v, hv, hs''⟩ := exists_blank s'
    cases h
    refine ⟨w, '=' :: (v ++ t), hw, ?_, .inr (.equals hliteral hv)⟩
    rw [hs, hs'', ht]
    simp
  · rename_i s' hs'
    rw [hs'] at hs
    obtain ⟨⟨value, rest'⟩, hvalue, h⟩ := bind_ok.mp h
    obtain ⟨t, ht, hliteral⟩ := literal_sound hvalue
    obtain ⟨v, hv, hs''⟩ := exists_blank s'
    cases h
    refine ⟨w, '!' :: '=' :: (v ++ t), hw, ?_, .inr (.differs hliteral hv)⟩
    rw [hs, hs'', ht]
    simp
  · cases h
    exact ⟨w, [], hw, by simpa using hs, .inl ⟨rfl, rfl⟩⟩

theorem position_sound {x : Predicate} (h : position s = .ok (x, rest)) : ∃ t, s = t ++ rest ∧ IsBody t x := by
  unfold position at h
  dsimp only at h
  split at h
  · cases h
  · split at h
    · cases h
    · rename_i hmax hmin
      cases h
      refine ⟨s.takeWhile isDigit, (List.takeWhile_append_dropWhile).symm, ?_⟩
      rw [digitsValue_eq_decimal] at hmax hmin ⊢
      refine .position (fun c hc => isDigit_iff.mp (List.mem_takeWhile_imp hc)) ?_ ?_
      · omega
      · simpa [maxPosition] using hmax

/-- What the readers return after at most `fuel` steps of recursion is what the text that they take denotes. -/
structure Sound (fuel : Nat) : Prop where
  path : ∀ {s rest p}, path fuel s = .ok (p, rest) →
    ∃ t xs, s = t ++ rest ∧ AreSteps t xs ∧ p = ⟨.ofList t, xs⟩
  stepsAfter : ∀ {s rest xs}, stepsAfter fuel s = .ok (xs, rest) →
    xs = [] ∧ s = rest ∨ ∃ t, s = '/' :: (t ++ rest) ∧ AreSteps t xs
  step : ∀ {s rest x}, step fuel s = .ok (x, rest) → ∃ t, s = t ++ rest ∧ IsStep t x
  predicates : ∀ {s rest ps}, predicates fuel s = .ok (ps, rest) → ∃ t, s = t ++ rest ∧ ArePredicates t ps
  predicate : ∀ {s rest p}, predicate fuel s = .ok (p, rest) →
    ∃ t w, Blank w ∧ s = t ++ w ++ rest ∧ IsBody t p

theorem sound_path {fuel : Nat} (h : Sound fuel) {p : Path} (hp : path (fuel + 1) s = .ok (p, rest)) :
    ∃ t xs, s = t ++ rest ∧ AreSteps t xs ∧ p = ⟨.ofList t, xs⟩ := by
  rw [path] at hp
  obtain ⟨⟨x, s₁⟩, hx, hp⟩ := bind_ok.mp hp
  obtain ⟨⟨xs, s₂⟩, hxs, hp⟩ := bind_ok.mp hp
  cases hp
  obtain ⟨t, rfl, ht⟩ := h.step hx
  rcases h.stepsAfter hxs with ⟨rfl, rfl⟩ | ⟨u, rfl, hu⟩
  · exact ⟨t, [x], rfl, .one ht, by rw [consumed_append]⟩
  · have htext : t ++ '/' :: (u ++ rest) = (t ++ '/' :: u) ++ rest := by simp
    exact ⟨t ++ '/' :: u, x :: xs, htext, .more ht hu, by rw [htext, consumed_append]⟩

theorem sound_stepsAfter {fuel : Nat} (h : Sound fuel) {xs : List Step}
    (hxs : stepsAfter (fuel + 1) s = .ok (xs, rest)) :
    xs = [] ∧ s = rest ∨ ∃ t, s = '/' :: (t ++ rest) ∧ AreSteps t xs := by
  rw [stepsAfter.eq_def] at hxs
  dsimp only at hxs
  split at hxs
  · obtain ⟨⟨x, s₁⟩, hx, hxs⟩ := bind_ok.mp hxs
    obtain ⟨⟨more, s₂⟩, hmore, hxs⟩ := bind_ok.mp hxs
    cases hxs
    obtain ⟨t, rfl, ht⟩ := h.step hx
    rcases h.stepsAfter hmore with ⟨rfl, rfl⟩ | ⟨u, rfl, hu⟩
    · exact .inr ⟨t, rfl, .one ht⟩
    · exact .inr ⟨t ++ '/' :: u, by simp, .more ht hu⟩
  · cases hxs
    exact .inl ⟨rfl, rfl⟩

/-- A step is a test and the predicates behind it; its text is what both have taken. -/
theorem sound_step {fuel : Nat} (h : Sound fuel) {x : Step} (hx : step (fuel + 1) s = .ok (x, rest)) :
    ∃ t, s = t ++ rest ∧ IsStep t x := by
  rw [step] at hx
  obtain ⟨⟨y, s₁⟩, hy, hx⟩ := bind_ok.mp hx
  obtain ⟨⟨ps, s₂⟩, hps, hx⟩ := bind_ok.mp hx
  cases hx
  obtain ⟨t, rfl, ht⟩ := test_sound hy
  obtain ⟨u, rfl, hu⟩ := h.predicates hps
  have htext : t ++ (u ++ rest) = (t ++ u) ++ rest := by simp
  refine ⟨t ++ u, htext, ?_⟩
  rw [htext, consumed_append]
  exact .mk ht hu

theorem closeBracket_sound {u : Unit} (h : closeBracket s = .ok (u, rest)) : s = ']' :: rest := by
  cases s with
  | nil => cases h
  | cons c s =>
    rw [closeBracket] at h
    split at h
    · rename_i hc
      cases h
      rw [hc]
    · cases h

theorem sound_predicates {fuel : Nat} (h : Sound fuel) {ps : List Predicate}
    (hps : predicates (fuel + 1) s = .ok (ps, rest)) : ∃ t, s = t ++ rest ∧ ArePredicates t ps := by
  rw [predicates.eq_def] at hps
  dsimp only at hps
  split at hps
  · rename_i s₁
    obtain ⟨⟨p, s₂⟩, hp, hps⟩ := bind_ok.mp hps
    obtain ⟨⟨_, s₃⟩, hclose, hps⟩ := bind_ok.mp hps
    obtain ⟨⟨more, s₄⟩, hmore, hps⟩ := bind_ok.mp hps
    cases hps
    obtain ⟨v, hv, hs₁⟩ := exists_blank s₁
    obtain ⟨t, w, hw, ht, hbody⟩ := h.predicate hp
    obtain ⟨w', hw', hs₂⟩ := exists_blank s₂
    obtain ⟨u, rfl, hu⟩ := h.predicates hmore
    have hblank : Blank (w ++ w') := fun c hc => (List.mem_append.mp hc).elim (hw c) (hw' c)
    refine ⟨'[' :: (v ++ t ++ (w ++ w') ++ ']' :: u), ?_, .cons hv hbody hblank hu⟩
    rw [hs₁, ht, hs₂, closeBracket_sound hclose]
    simp
  · cases hps
    exact ⟨[], rfl, .nil⟩

theorem sound_predicate {fuel : Nat} (h : Sound fuel) {p : Predicate}
    (hp : predicate (fuel + 1) s = .ok (p, rest)) :
    ∃ t w, Blank w ∧ s = t ++ w ++ rest ∧ IsBody t p := by
  rw [predicate] at hp
  split at hp
  · obtain ⟨t, rfl, ht⟩ := position_sound hp
    exact ⟨t, [], blank_nil, by simp, ht⟩
  · obtain ⟨⟨x, s₁⟩, hx, hp⟩ := bind_ok.mp hp
    obtain ⟨t, xs, rfl, ht, rfl⟩ := h.path hx
    obtain ⟨w, u, hw, rfl, ⟨rfl, rfl⟩ | hu⟩ := comparison_sound hp
    · exact ⟨t, w, hw, by simp, .exists ht⟩
    · exact ⟨t ++ w ++ u, [], blank_nil, by simp, .compare ht hw hu⟩

/-- **What is read is denoted**, however many steps the readers may take. -/
theorem sound (fuel : Nat) : Sound fuel := by
  induction fuel with
  | zero =>
    constructor
    · intro s rest p h
      cases h
    · intro s rest xs h
      cases h
    · intro s rest x h
      cases h
    · intro s rest ps h
      cases h
    · intro s rest p h
      cases h
  | succ fuel ih =>
    exact ⟨sound_path ih, sound_stepsAfter ih, sound_step ih, sound_predicates ih, sound_predicate ih⟩

end Sound

end Readers

end Regraft.Path
