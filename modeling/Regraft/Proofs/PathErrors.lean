import Regraft.Proofs.RawTexts
import Regraft.Rule
/-!
# Where paths are malformed

Errors of paths tell a position, counted in bytes.  There are two ways to come to one.

* A parser that stops reports the place where it stands.  It has moved there by the sizes of characters that it has seen
  and by fixed numbers of bytes, and `Parser.run_cases` says that this is always a place of the text, and one where the
  fault is found that is reported with it.
* A destination that is refused has been read already, so there the position is the sum of what its steps remember.  It
  is where the first step begins that is no waypoint, since the texts of the steps with slashes between them are the
  whole text (`AreSteps.intercalate_raw`).  Slashes inside the predicates of a step belong to the text of that step.

`errors_point_into_text` states both.
-/

namespace Regraft

/-! ## 1. Destinations -/

/-- The step is `.` or the name of an element, without predicates. -/
def Step.IsWaypoint (s : Step) : Prop := s.predicates = [] ∧ (s.test = .here ∨ ∃ name, s.test = .element name)

theorem Step.waypoint?_eq_none_iff {s : Step} : s.waypoint? = none ↔ ¬ s.IsWaypoint := by
  obtain ⟨raw, test, predicates⟩ := s
  cases predicates <;> cases test <;> simp [Step.waypoint?, Step.IsWaypoint]

/-- The texts of steps, each with the slash behind it. -/
def textBefore (steps : List Step) : String := String.join (steps.map fun s => s.raw ++ "/")

theorem textBefore_cons (s : Step) (steps : List Step) :
    textBefore (s :: steps) = s.raw ++ "/" ++ textBefore steps := by
  rw [textBefore, List.map_cons, String.join_cons, textBefore]

/-- What stands before a step is nothing or ends in a slash. -/
theorem textBefore_cases (steps : List Step) : textBefore steps = "" ∨ ∃ a, textBefore steps = a ++ "/" := by
  rcases List.eq_nil_or_concat steps with rfl | ⟨steps, s, rfl⟩
  · exact .inl rfl
  · refine .inr ⟨textBefore steps ++ s.raw, ?_⟩
    simp [textBefore, String.append_assoc]

/-- Steps with slashes between them, divided at one of them. -/
theorem intercalate_raw_append (before : List Step) (s : Step) (after : List Step) :
    ∃ behind, "/".intercalate ((before ++ s :: after).map Step.raw) = textBefore before ++ s.raw ++ behind := by
  induction before with
  | nil =>
    cases after with
    | nil => exact ⟨"", by simp [textBefore]⟩
    | cons t after =>
      refine ⟨"/" ++ "/".intercalate ((t :: after).map Step.raw), ?_⟩
      rw [List.nil_append, List.map_cons, String.intercalate_cons_of_ne_nil (by simp)]
      simp [textBefore, String.append_assoc]
  | cons t before ih =>
    obtain ⟨behind, hbehind⟩ := ih
    refine ⟨behind, ?_⟩
    rw [List.cons_append, List.map_cons, String.intercalate_cons_of_ne_nil (by simp), hbehind, textBefore_cons]
    simp only [String.append_assoc]

namespace Destination

/-- The step that is refused is the first that is no waypoint, at the position that the steps before it add up to. -/
theorem spell_error {position at' : Nat} {raw : String} {steps : List Step}
    (h : spell position steps = .error (at', raw)) :
    ∃ before s after, steps = before ++ s :: after ∧ (∀ t ∈ before, t.IsWaypoint) ∧ ¬ s.IsWaypoint ∧ raw = s.raw ∧
      at' = position + (textBefore before).utf8ByteSize := by
  induction steps generalizing position with
  | nil => cases h
  | cons s steps ih =>
    rw [spell] at h
    split at h
    · rename_i hnone
      cases h
      refine ⟨[], s, steps, rfl, fun t ht => absurd ht List.not_mem_nil, ?_, rfl, ?_⟩
      · exact Step.waypoint?_eq_none_iff.mp hnone
      · rw [textBefore]
        rfl
    · rename_i w hw
      split at h
      · cases h
      · rename_i stray hstray
        cases h
        obtain ⟨before, t, after, rfl, hbefore, ht, rfl, rfl⟩ := ih hstray
        have hs : s.IsWaypoint := by
          by_contra hs
          rw [Step.waypoint?_eq_none_iff.mpr hs] at hw
          cases hw
        refine ⟨s :: before, t, after, rfl, List.forall_mem_cons.mpr ⟨hs, hbefore⟩, ht, rfl, ?_⟩
        rw [textBefore_cons, String.utf8ByteSize_append, String.utf8ByteSize_append]
        have hslash : "/".utf8ByteSize = 1 := rfl
        omega

end Destination

namespace Path

open Regraft.Path.Parser

/-- The steps of a path that has been read, with slashes between them, are its text. -/
theorem intercalate_raw_of_parse {text : String} {p : Path} (h : Path.parse text = .ok p) :
    p.raw = text ∧ "/".intercalate (p.steps.map Step.raw) = text := by
  cases parse_eq_ok_iff.mp h with
  | empty => exact ⟨rfl, rfl⟩
  | steps hsteps => exact ⟨rfl, by rw [hsteps.intercalate_raw, String.ofList_toList]⟩

/-- A destination that is refused though it is a path is refused where a step begins that is no waypoint. -/
theorem stray_of_refused {text : String} {p : Path} {e : Error} (hp : Path.parse text = .ok p)
    (he : Destination.parse text = .error e) :
    ∃ before s after behind, p.steps = before ++ s :: after ∧ (∀ t ∈ before, t.IsWaypoint) ∧ ¬ s.IsWaypoint ∧
      text = textBefore before ++ s.raw ++ behind ∧
      e = .malformedPath text (textBefore before).utf8ByteSize (.notDestination s.raw) := by
  obtain ⟨hraw, htext⟩ := intercalate_raw_of_parse hp
  rw [Destination.parse, hp] at he
  have he : Destination.ofPath p = .error e := he
  rw [Destination.ofPath] at he
  split at he
  · cases he
  · rename_i position raw hstray
    cases he
    obtain ⟨before, s, after, hsteps, hbefore, hs, rfl, rfl⟩ := Destination.spell_error hstray
    obtain ⟨behind, hbehind⟩ := intercalate_raw_append before s after
    refine ⟨before, s, after, behind, hsteps, hbefore, hs, ?_, ?_⟩
    · rw [← hbehind, ← hsteps, htext]
    · rw [hraw, Nat.zero_add]

/-- **Errors of paths point into the text.**  There are slices between the places of a text, in their order, and no
others; the parser reads every text without asking for any that does not exist, and without reaching a bound.  A text
that is not a path is refused with itself and with the number of bytes before a place of it, which is where the fault is
found.  A rule whose destination is a path, but not one to write to, is refused with the position where the first step
begins that is no waypoint: its text stands there, and before it are the texts of waypoints alone, each with a slash
behind it. -/
theorem errors_point_into_text :
    (∀ text start stop, (slice? text.toList start stop).isSome = true ↔
      start ≤ stop ∧ String.Pos.Raw.IsValid text ⟨start⟩ ∧ String.Pos.Raw.IsValid text ⟨stop⟩) ∧
      (∀ text, Parser.run text ≠ .error .badSlice ∧ Parser.run text ≠ .error .exhausted) ∧
      (∀ text e, Path.parse text = .error e → ∃ before left fault, text = before ++ left ∧
        e = .malformedPath text before.utf8ByteSize fault ∧ before.utf8ByteSize ≤ text.utf8ByteSize ∧
        String.Pos.Raw.IsValid text ⟨before.utf8ByteSize⟩ ∧ fault.FoundAt before.toList left.toList) ∧
      ∀ text p e, Path.parse text = .ok p → Destination.parse text = .error e →
        ∃ before s after behind, p.steps = before ++ s :: after ∧ (∀ t ∈ before, t.IsWaypoint) ∧ ¬ s.IsWaypoint ∧
          text = textBefore before ++ s.raw ++ behind ∧
          (textBefore before = "" ∨ ∃ a, textBefore before = a ++ "/") ∧
          ∀ source values template, Rule.parse text source values template =
            .error (.malformedPath text (textBefore before).utf8ByteSize (.notDestination s.raw)) := by
  refine ⟨isSome_slice?_iff, fun text => ?_, fun text e h => ?_, fun text p e hp he => ?_⟩
  · rcases run_cases text with ⟨p, rest, hrun, -⟩ | ⟨fault, before, left, -, -, hrun, -⟩
    · rw [hrun]
      exact ⟨nofun, nofun⟩
    · rw [hrun]
      exact ⟨nofun, nofun⟩
  · rw [Path.parse] at h
    rcases run_cases text with ⟨p, rest, hrun, -⟩ | ⟨fault, before, left, htext, hfound, hrun, -⟩
    · rw [hrun] at h
      cases h
    · rw [hrun, byteLength_eq] at h
      have htext : text = .ofList before ++ .ofList left := by
        rw [← String.ofList_append, ← htext, String.ofList_toList]
      have hvalid : String.Pos.Raw.IsValid text ⟨(String.ofList before).utf8ByteSize⟩ :=
        String.Pos.Raw.isValid_iff_exists_append.mpr ⟨_, _, htext, rfl⟩
      refine ⟨.ofList before, .ofList left, fault, htext, (Except.error.inj h).symm, hvalid.le_rawEndPos, hvalid, ?_⟩
      rw [String.toList_ofList, String.toList_ofList]
      exact hfound
  · obtain ⟨before, s, after, behind, hsteps, hbefore, hs, htext, rfl⟩ := stray_of_refused hp he
    refine ⟨before, s, after, behind, hsteps, hbefore, hs, htext, textBefore_cases before,
      fun source values template => ?_⟩
    rw [Rule.parse, he]
    rfl

/-- A text that stops in the middle of a predicate behind characters of two bytes, and a destination whose third step is
none, with slashes in its own predicate. -/
theorem positions_in_texts :
    (∃ e, Path.parse "é[ü='" = .error e ∧ ∃ before left fault, "é[ü='" = before ++ left ∧
      e = .malformedPath "é[ü='" before.utf8ByteSize fault ∧ before.utf8ByteSize ≤ 7 ∧
      String.Pos.Raw.IsValid "é[ü='" ⟨before.utf8ByteSize⟩ ∧ fault.FoundAt before.toList left.toList) ∧
    ∃ p e, Path.parse "é/./b[c='/']/d" = .ok p ∧ Destination.parse "é/./b[c='/']/d" = .error e ∧
      ∃ before s after behind, p.steps = before ++ s :: after ∧ (∀ t ∈ before, t.IsWaypoint) ∧ ¬ s.IsWaypoint ∧
        "é/./b[c='/']/d" = textBefore before ++ s.raw ++ behind ∧
        Rule.parse "é/./b[c='/']/d" "a" ["."] "%s" =
          .error (.malformedPath "é/./b[c='/']/d" (textBefore before).utf8ByteSize (.notDestination s.raw)) := by
  obtain ⟨-, -, hmalformed, hrefused⟩ := errors_point_into_text
  have hunread : (Path.parse "é[ü='").toOption.isNone = true := by decide +kernel
  have hread : (Path.parse "é/./b[c='/']/d").toOption.isSome = true := by decide +kernel
  have hstray : (Destination.parse "é/./b[c='/']/d").toOption.isNone = true := by decide +kernel
  constructor
  · cases hparse : Path.parse "é[ü='" with
    | ok p =>
      rw [hparse] at hunread
      cases hunread
    | error e => exact ⟨e, rfl, hmalformed _ e hparse⟩
  · cases hparse : Path.parse "é/./b[c='/']/d" with
    | error e =>
      rw [hparse] at hread
      cases hread
    | ok p =>
      cases hdestination : Destination.parse "é/./b[c='/']/d" with
      | ok d =>
        rw [hdestination] at hstray
        cases hstray
      | error e =>
        obtain ⟨before, s, after, behind, hsteps, hbefore, hs, htext, -, hrule⟩ := hrefused _ p e hparse hdestination
        exact ⟨p, e, rfl, rfl, before, s, after, behind, hsteps, hbefore, hs, htext, hrule "a" ["."] "%s"⟩

/-- A literal that is not closed is missed at the end of the text, behind seven bytes of five characters. -/
example : (match Parser.run "é[ü='" with
    | .ok _ => none
    | .error halt => some halt) = some (.malformed .literalNotClosed 7) := by
  decide +kernel

/-- The position is behind five bytes: a character of two, a dot and two slashes. -/
example :
    (match Rule.parse "é/./b[c='/']/d" "a" ["."] "%s" with
      | .ok _ => none
      | .error e => some e) = some (.malformedPath "é/./b[c='/']/d" 5 (.notDestination "b[c='/']")) := by
  decide +kernel

end Path

end Regraft
