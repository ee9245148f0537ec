import Regraft.Normalizer
import Regraft.Proofs.AnchoredPrograms
import Regraft.Proofs.ProperPatterns
/-!
# Patterns at the start of a value

A rule is compiled from the text of its pattern in a group behind the condition that the value starts.  The pattern
decides alone: where the group encloses it, the rule compiles if and only if the pattern is valid; and the rule of a
valid pattern matches a value if and only if the pattern matches from its start, with the groups of the pattern
(`matches_at_start`).  The expression is that of the pattern, bound to the start; its program is that of the pattern
behind a condition, and finds the same match or none.  That its program finds what an expression matches, and nothing
else, goes through its outline, which needs that the expression of a pattern is proper.
-/

namespace Regraft.Pattern

/-! ## 1. Expressions at the start of a text

A match that begins at the start of the text is preferred to every other.  So the expression that may only match there
finds it, or none. -/

/-- An expression matches somewhere in a text if and only if it matches from some place of it. -/
theorem Regex.captures_isSome_iff (r : Regex) (text : String) :
    (r.captures text).isSome ↔ (Outline.ofRegex r).program.Meets none text.toList := by
  rw [captures, Option.isSome_map, Program.run_isSome_iff]

section

open Regraft.Pattern.Parser (bound)

variable {r : Regex}

theorem ofRegex_bound (r : Regex) : Outline.ofRegex (bound r) =
    if Outline.ofRegex r = .empty then .look .textStart else .seq (.look .textStart) (Outline.ofRegex r) :=
  Outline.ofRegex_anchored r

theorem program_bound (r : Regex) : (Outline.ofRegex (bound r)).program = (Outline.ofRegex r).program.anchored := by
  rw [ofRegex_bound]
  split
  · rename_i hr
    rw [hr]
    rfl
  · rfl

theorem groups_bound (r : Regex) : (bound r).groups = r.groups := by
  show max 0 (max 0 r.groups) = r.groups
  rw [Nat.zero_max, Nat.zero_max]

/-- The match of an expression that is bound to the start is that of the expression. -/
theorem captures_of_bound {text : String} {groups : List String} (h : (bound r).captures text = some groups) :
    r.captures text = some groups := by
  obtain ⟨hclosed, hstart⟩ := closed_program (Outline.ofRegex r)
  rw [Regex.captures, program_bound, groups_bound] at h
  obtain ⟨slots, hrun, hgroups⟩ := Option.map_eq_some_iff.mp h
  rw [Regex.captures, Program.run_of_anchored hclosed hstart hrun, ← hgroups]
  rfl

/-- An expression that is bound to the start matches where the text starts. -/
theorem matches_bound_iff {a b : Place} : (bound r).Matches a b ↔ a.before = none ∧ r.Matches a b := by
  have hstart : a.before.isNone = true ↔ a.before = none := Option.isNone_iff_eq_none
  rw [← hstart]
  constructor
  · rintro ⟨c, ⟨rfl, hbefore⟩, hab⟩
    exact ⟨hbefore, hab⟩
  · rintro ⟨hbefore, hab⟩
    exact ⟨a, ⟨rfl, hbefore⟩, hab⟩

/-- The program of an expression that is bound to the start finds what the expression matches from there. -/
theorem accepts_bound_iff (h : r.Proper) {a : Place} :
    (Outline.ofRegex (bound r)).program.Accepts (Outline.ofRegex (bound r)).program.start a ↔
      a.before = none ∧ ∃ b, r.Matches a b := by
  have hproper : (bound r).Proper := ⟨trivial, h⟩
  rw [program_accepts_iff, ← exists_and_left]
  exact exists_congr fun b => (matches_ofRegex_iff hproper).trans matches_bound_iff

theorem not_meets_bound (h : r.Proper) {c : Char} {rest : List Char} :
    ¬ (Outline.ofRegex (bound r)).program.Meets (some c) rest := fun hmeets => by
  generalize hbefore : some c = before at hmeets
  induction hmeets generalizing c with
  | here haccepts =>
    have hnone := ((accepts_bound_iff h).mp haccepts).1
    rw [← hbefore] at hnone
    cases hnone
  | later _ ih => exact ih rfl

/-- An expression that is bound to the start is found in a text if and only if it matches from the start. -/
theorem captures_bound_isSome_iff (h : r.Proper) (text : String) :
    ((bound r).captures text).isSome ↔ ∃ b, r.Matches ⟨none, text.toList⟩ b := by
  have haccepts := (accepts_bound_iff h (a := ⟨none, text.toList⟩)).trans (and_iff_right rfl)
  rw [Regex.captures_isSome_iff, ← haccepts]
  cases text.toList with
  | nil => exact Program.meets_nil
  | cons c rest => exact Program.meets_cons.trans (or_iff_left (not_meets_bound h))

end

end Regraft.Pattern

namespace Regraft.NormalizeRule

open Pattern (Regex)
open Pattern.Parser (Enclosable bound bound_of_whole whole_bound_iff)

/-! ## 2. Rules

The rule is compiled from a text: the condition and the group are put around the pattern before that is read.
`Enclosable` is what makes the group enclose it. -/

theorem toList_anchored (pattern : String) :
    (anchored pattern).toList = '^' :: '(' :: '?' :: ':' :: (pattern.toList ++ [')']) := by
  rw [anchored, String.toList_append, String.toList_append]
  rfl

theorem compile_eq_ok_iff {pattern template : String} {rule : NormalizeRule} :
    compile pattern template = .ok rule ↔
      ∃ r, Regex.parse (anchored pattern) = some r ∧ rule = ⟨pattern, r, .parse template, []⟩ := by
  rw [compile]
  split
  · rename_i r hr
    rw [hr]
    simp [eq_comm]
  · rename_i hr
    rw [hr]
    simp

/-- A rule is compiled from a pattern that is valid by itself if what is pasted around it encloses it. -/
theorem compiles_iff {pattern : String} (h : Enclosable pattern.toList) (template : String) :
    (∃ rule, compile pattern template = .ok rule) ↔ ∃ r, Regex.parse pattern = some r := by
  simp only [compile_eq_ok_iff, Regex.parse, toList_anchored, whole_bound_iff h]
  constructor
  · rintro ⟨_, _, ⟨r, hr, -⟩, -⟩
    exact ⟨r, hr⟩
  · rintro ⟨r, hr⟩
    exact ⟨_, _, ⟨r, hr, rfl⟩, rfl⟩

/-- The rule of a pattern that is valid by itself holds the pattern bound to the start. -/
theorem regex_of_compile {pattern template : String} {rule : NormalizeRule} {r : Regex}
    (hrule : compile pattern template = .ok rule) (hr : Regex.parse pattern = some r) : rule.regex = bound r := by
  obtain ⟨r', hr', rfl⟩ := compile_eq_ok_iff.mp hrule
  rw [Regex.parse, toList_anchored] at hr'
  exact (bound_of_whole hr hr').symm

/-- **Patterns match at the start.** -/
theorem matches_at_start (pattern template : String) :
    (Enclosable pattern.toList →
      ((∃ rule, compile pattern template = .ok rule) ↔ ∃ r, Regex.parse pattern = some r)) ∧
    ∀ rule r, compile pattern template = .ok rule → Regex.parse pattern = some r → ∀ value : String,
      ((rule.tryOn value).isSome ↔ ∃ b, r.Matches ⟨none, value.toList⟩ b) ∧
      ∀ b, r.Matches ⟨none, value.toList⟩ b → rule.regex.captures value = r.captures value := by
  refine ⟨fun h => compiles_iff h template, fun rule r hrule hr value => ?_⟩
  have hmatches := Pattern.captures_bound_isSome_iff (Pattern.proper_parse hr) value
  rw [← regex_of_compile hrule hr] at hmatches
  refine ⟨?_, fun b hb => ?_⟩
  · rw [tryOn, Option.isSome_map, hmatches]
  · obtain ⟨groups, hgroups⟩ := Option.isSome_iff_exists.mp (hmatches.mpr ⟨b, hb⟩)
    rw [hgroups]
    rw [regex_of_compile hrule hr] at hgroups
    exact (Pattern.captures_of_bound hgroups).symm

theorem alternatives_match_at_start :
    Enclosable "(a)|b".toList ∧ ∃ rule, compile "(a)|b" "%s" = .ok rule ∧
      rule.regex.captures "bc" = some [""] ∧ rule.tryOn "cb" = none := by
  have henclosed : Enclosable "(a)|b".toList := by decide +kernel
  have hparse : Regex.parse "(a)|b" =
      some (.alt (.group (some 1) (.char false (.single 'a'))) (.char false (.single 'b'))) := by
    decide +kernel
  obtain ⟨hcompiles, hmatches⟩ := matches_at_start "(a)|b" "%s"
  obtain ⟨rule, hrule⟩ := (hcompiles henclosed).mpr ⟨_, hparse⟩
  obtain ⟨-, hbc⟩ := hmatches rule _ hrule hparse "bc"
  obtain ⟨hcb, -⟩ := hmatches rule _ hrule hparse "cb"
  refine ⟨henclosed, rule, hrule, ?_, ?_⟩
  · rw [hbc ⟨some 'b', ['c']⟩ (.inr ⟨'b', rfl, rfl, rfl⟩)]
    decide +kernel
  · have hvalue : "cb".toList = ['c', 'b'] := rfl
    rw [← Option.not_isSome_iff_eq_none, hcb, hvalue]
    rintro ⟨b, ⟨c, hc, h, -⟩ | ⟨c, hc, h, -⟩⟩
    · cases (Unicode.CharSet.contains_single 'a' c).mp hc
      cases h
    · cases (Unicode.CharSet.contains_single 'b' c).mp hc
      cases h

/-- A parenthesis that the pattern has not opened ends the group, so that the rest is not bound to the start. -/
theorem unopened_not_at_start : Regex.parse "a)|(?:b" = none ∧
    ∃ rule, compile "a)|(?:b" "x" = .ok rule ∧ (rule.tryOn "cb").isSome := by
  have hparse : Regex.parse (anchored "a)|(?:b") = some
      (.alt (.seq (.look .textStart) (.group none (.char false (.single 'a'))))
        (.group none (.char false (.single 'b')))) := by
    decide +kernel
  exact ⟨by decide +kernel, _, compile_eq_ok_iff.mpr ⟨_, hparse, rfl⟩, by decide +kernel⟩

/-- A comment at the end of a pattern takes in the parenthesis that would end the group. -/
example : (Regex.parse "(?x)a #c").isSome ∧ Regex.parse (anchored "(?x)a #c") = none := by
  decide +kernel

/-! ## Summary

**What is established.**  For every pattern that the group encloses, the rule compiles exactly if the pattern is valid,
and for every pattern that is valid and compiles, it matches a value exactly if the pattern matches from its start.
Where it does, the groups are those of the pattern's own match.

**What is not.**  A pattern with a parenthesis too many closes the group itself.  It may be compiled though it is no
pattern, and then its alternatives behind the group are not bound to the start. -/

end Regraft.NormalizeRule
