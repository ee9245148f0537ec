import Regraft.Fragment
/-!
# What placing a rendered text can do

Placing never asks what is in the content already.  The text alone decides whether it fails, what nodes are
added at the end or what text is to begin the content, and these are all the cases there are.
-/

namespace Regraft.Fragment

open Xml (Node)

theorem place_markup {r : Root} {text : String} (h : isMarkup text = true) (c : List Node) :
    place r text c = (read r text).map (Xml.appendNodes c) := by
  rw [place, if_pos h]

theorem place_empty {r : Root} {text : String} (h : isMarkup text = false) (h' : text.isEmpty = true)
    (c : List Node) : place r text c = .ok c := by
  rw [place, if_neg (by simp [h]), if_pos h']

theorem place_text {r : Root} {text : String} (h : isMarkup text = false) (h' : text.isEmpty = false)
    (c : List Node) : place r text c = .ok (Xml.setLeadingText (Text.unescape text) c) := by
  rw [place, if_neg (by simp [h]), if_neg (by simp [h'])]

/-- What placing a text does to every content. -/
theorem place_cases (r : Root) (text : String) :
    (∃ e, ∀ c, place r text c = .error e) ∨
    (∃ nodes, ∀ c, place r text c = .ok (Xml.appendNodes c nodes)) ∨
    (∀ c, place r text c = .ok c) ∨
    (∃ value, ∀ c, place r text c = .ok (Xml.setLeadingText value c)) := by
  cases hmarkup : isMarkup text with
  | true =>
    cases hread : read r text with
    | error e => exact .inl ⟨e, fun c => by rw [place_markup hmarkup, hread]; rfl⟩
    | ok nodes => exact .inr (.inl ⟨nodes, fun c => by rw [place_markup hmarkup, hread]; rfl⟩)
  | false =>
    cases hempty : text.isEmpty with
    | true => exact .inr (.inr (.inl fun c => place_empty hmarkup hempty c))
    | false => exact .inr (.inr (.inr ⟨_, fun c => place_text hmarkup hempty c⟩))

end Regraft.Fragment
