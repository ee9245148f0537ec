import Regraft.Proofs.ValuesInText
/-!
# Templates for given texts

Every text can stand in a template.  With each of its percent signs doubled it is read as itself, whatever stands
before and behind it (`segmentsFrom_doubled`): the doubled signs pair up from the left, so a sign that a slot begins
with is never taken for the second of a pair, nor a sign of the text for the beginning of a slot.  Any texts with slots
between them are therefore the parts of a template (`parts_written`), and values are put between them as they are.
-/

namespace Regraft.Template

/-- A text as a template spells it: every percent sign is doubled. -/
def doubled (text : String) : String := .ofList (Text.replaceAll ['%'] ['%', '%'] text.toList)

/-- Texts as a template spells them, with slots between them. -/
def written (texts : List String) : String := "%s".intercalate (texts.map doubled)

theorem written_singleton (text : String) : written [text] = doubled text := String.intercalate_singleton

theorem written_cons (text other : String) (others : List String) :
    written (text :: other :: others) = doubled text ++ "%s" ++ written (other :: others) := by
  rw [written, List.map_cons, String.intercalate_cons_of_ne_nil (by simp), written]

/-- Doubled percent signs are read as single ones, whatever follows them. -/
theorem segmentsFrom_doubled (text : String) (reversed rest : List Char) :
    segmentsFrom reversed ((doubled text).toList ++ rest) = segmentsFrom (text.toList.reverse ++ reversed) rest := by
  rw [doubled, String.toList_ofList, Text.replaceAll_singleton]
  induction text.toList generalizing reversed with
  | nil => rfl
  | cons c text ih =>
    rw [List.flatMap_cons, List.append_assoc, List.reverse_cons, List.append_assoc]
    by_cases hc : c = '%'
    · subst hc
      exact ih ('%' :: reversed)
    · rw [if_neg hc, List.singleton_append, segmentsFrom]
      · exact ih (c :: reversed)
      · exact fun _ h => absurd h hc
      · exact fun _ h => absurd h hc

/-- A literal that is gathered before segments belongs to the first part of them. -/
theorem partsFrom_literalOf (gathered : String) (reversed : List Char) (segments : List Segment) :
    partsFrom gathered (literalOf reversed ++ segments) =
      partsFrom (gathered ++ .ofList reversed.reverse) segments := by
  rw [literalOf]
  split
  · rename_i hempty
    rw [List.isEmpty_iff.mp hempty]
    simp
  · rfl

/-- Texts with slots between them are the parts of the template that they are written as. -/
theorem parts_written (first : String) (others : List String) :
    (parse (written (first :: others))).parts = first :: others := by
  induction others generalizing first with
  | nil =>
    have hsegments := segmentsFrom_doubled first [] []
    rw [List.append_nil, List.append_nil, segmentsFrom] at hsegments
    have hparts := partsFrom_literalOf "" first.toList.reverse []
    rw [List.append_nil, List.reverse_reverse, String.ofList_toList, String.empty_append] at hparts
    rw [written_singleton, parts, parse, hsegments, hparts, partsFrom]
  | cons other others ih =>
    have hchars : (written (first :: other :: others)).toList =
        (doubled first).toList ++ '%' :: 's' :: (written (other :: others)).toList := by
      rw [written_cons]
      simp
    have hrest : partsFrom "" (segmentsFrom [] (written (other :: others)).toList) = other :: others := ih other
    rw [parts, parse, hchars, segmentsFrom_doubled, List.append_nil, segmentsFrom, partsFrom_literalOf, partsFrom,
      hrest, List.reverse_reverse, String.ofList_toList, String.empty_append]

/-- **Templates express every text and read no value again.**  The template that texts are written as, with slots
between them, has a slot for each text but the first.  It is rendered as the texts with the values between them,
whatever characters there are in either, and with another number of values not at all. -/
theorem written_rendered (first : String) (others : List String) :
    (parse (written (first :: others))).slots = others.length ∧
      (∀ values, values.length = others.length →
        (parse (written (first :: others))).render values = .ok (String.join (alternate (first :: others) values))) ∧
      ∀ values, values.length ≠ others.length →
        (parse (written (first :: others))).render values =
          .error (.templateArity (written (first :: others)) others.length values.length values) := by
  have hparts := parts_written first others
  have hslots : (parse (written (first :: others))).slots = others.length := by
    have hlength := length_parts (parse (written (first :: others)))
    rw [hparts, List.length_cons] at hlength
    omega
  refine ⟨hslots, fun values hcount => ?_, fun values hcount => ?_⟩
  · have hcount : values.length = (parse (written (first :: others))).slots := hcount.trans hslots.symm
    have hjoin : String.join (alternate (parse (written (first :: others))).parts values) =
        fill (parse (written (first :: others))).segments values := by
      rw [parts, join_alternate_partsFrom "" hcount, String.empty_append]
    rw [render, if_pos hcount, ← hjoin, hparts]
  · rw [render, hslots, if_neg hcount]
    rfl

/-- Percent signs on both sides of a slot, before the letter of a slot, and in values that look like slots. -/
theorem percents_rendered :
    written ["100%", "s%", "%s"] = "100%%%ss%%%s%%s" ∧ ["%s", "%%"].length = ["s%", "%s"].length ∧
      (parse (written ["100%", "s%", "%s"])).render ["%s", "%%"] = .ok "100%%ss%%%%s" ∧
      ["%"].length ≠ ["s%", "%s"].length ∧
      (parse (written ["100%", "s%", "%s"])).render ["%"] = .error (.templateArity "100%%%ss%%%s%%s" 2 1 ["%"]) := by
  obtain ⟨-, hfilled, hrefused⟩ := written_rendered "100%" ["s%", "%s"]
  have htext : written ["100%", "s%", "%s"] = "100%%%ss%%%s%%s" := by decide +kernel
  refine ⟨htext, rfl, ?_, by decide, ?_⟩
  · rw [hfilled ["%s", "%%"] rfl]
    rfl
  · rw [hrefused ["%"] (by decide), htext]
    rfl

end Regraft.Template
