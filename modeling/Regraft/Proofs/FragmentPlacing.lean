import Regraft.Proofs.Draining
import Regraft.Proofs.ElementContent
import Regraft.Proofs.Placing
/-!
# What placing a fragment does

A fragment is read in a wrapper, as a document of its own; blank texts that lay it out are taken out of it; and what is
left is moved to the end of an element, child by child (`Forest.PlacesFragment`).  If the fragment is well-formed
content this comes to an end, and the element has what was in it and after that the content pruned; nothing else
changes.  Otherwise nothing changes at all (`Fragment.fragment_placed`).
-/

namespace Regraft

open Xml (Document Node Tag)
open Xml.Reader (IsContent)

namespace Forest

/-- The fragment is read beside the other documents, pruned in its wrapper, and moved from there to the end of a
numbered element. -/
inductive PlacesFragment (r : Root) (text : String) (d : Nat) : Forest → Forest → Prop where
  | mk {f f₁ f₂ f₃ : Forest} {document w : Nat} {p : Place} : f.parse (Fragment.wrap r text) = .ok (f₁, document) →
      f₁.documentElement document = .ok (f₂, w) → f₂.place? w = some p →
      Drains w d (f₂.update p Fragment.strip) f₃ → PlacesFragment r text d f f₃

variable {r : Root} {text : String}

/-- The wrapper is the only element of its document. -/
theorem exists_wrapper (f : Forest) {t : Tag} {nodes : List Node}
    (hread : Xml.Reader.readChars (Fragment.wrap r text).toList = some ⟨[.element t nodes]⟩) :
    ∃ f₁ f₂ document w, f.parse (Fragment.wrap r text) = .ok (f₁, document) ∧
      f₁.documentElement document = .ok (f₂, w) ∧ f₂.place? w = some ⟨f.trees.length, [0]⟩ ∧
      f₂.trees = f.trees ++ [⟨[.element t nodes]⟩] ∧
      ∀ m p, f.place? m = some p → f₂.place? m = some p := by
  let p : Place := ⟨f.trees.length, []⟩
  let f₁ : Forest := (f.plant ⟨[.element t nodes]⟩).1
  have hparse : f.parse (Fragment.wrap r text) = .ok (f₁, f.places.length) := by
    rw [parse, Document.read, hread]
    rfl
  have hplace : f₁.place? f.places.length = some p := by
    show ((f.places ++ [some p])[f.places.length]?).join = some p
    rw [List.getElem?_concat_length]
    rfl
  have hchildren : (f₁.tree p).children p.address = [.element t nodes] := by
    show (((f.trees ++ [(⟨[.element t nodes]⟩ : Document)])[f.trees.length]?).getD ⟨[]⟩).content = _
    rw [List.getElem?_concat_length]
    rfl
  have helement : f₁.documentElement f.places.length =
      .ok ((f₁.handOut ⟨f.trees.length, [0]⟩).1, f₁.places.length) := by
    rw [documentElement, place_of_some hplace]
    dsimp only [bind, Except.bind]
    rw [hchildren]
    rfl
  refine ⟨f₁, (f₁.handOut ⟨f.trees.length, [0]⟩).1, f.places.length, f₁.places.length, hparse, helement, ?_, rfl,
    fun m q hm => place_handOut (place_handOut hm p) _⟩
  show ((f₁.places ++ [some ⟨f.trees.length, [0]⟩])[f₁.places.length]?).join = _
  rw [List.getElem?_concat_length]
  rfl

theorem modify_append_of_lt {α : Type} (g : α → α) {l : List α} {i : Nat} (hi : i < l.length) (l' : List α) :
    (l ++ l').modify i g = l.modify i g ++ l' := by
  induction l generalizing i with
  | nil => cases hi
  | cons x l ih =>
    cases i with
    | zero => rfl
    | succ i => exact congrArg (x :: ·) (ih (Nat.lt_of_succ_lt_succ hi))

/-- **A wrapper that has been read is emptied into the element.** -/
theorem placesFragment_of_read {t : Tag} {nodes : List Node}
    (hread : Xml.Reader.readChars (Fragment.wrap r text).toList = some ⟨[.element t nodes]⟩) {f : Forest} {d : Nat}
    {q : Place} {t' : Tag} {c : List Node} (hd : f.place? d = some q) (hq : f.node? q = some (.element t' c)) :
    ∃ f', PlacesFragment r text d f f' ∧
      f'.trees =
        (f.trees.modify q.tree fun doc => doc.update q.address fun c => Xml.appendNodes c (Fragment.strip nodes)) ++
          [⟨[.element t []]⟩] ∧
      ∀ m p, p.tree < f.trees.length → f.place? m = some p → f'.place? m = some p := by
  obtain ⟨f₁, f₂, document, w, hparse, helement, hw, htrees, hplaces⟩ := exists_wrapper f hread
  let p : Place := ⟨f.trees.length, [0]⟩
  have hlt := lt_of_node hq
  have hpruned : (f₂.update p Fragment.strip).trees = f.trees ++ [⟨[.element t (Fragment.strip nodes)]⟩] := by
    rw [update, htrees]
    exact Fragment.modify_concat _ f.trees _ []
  -- The wrapper is a tree of its own, so taking its children does not move anything in the other one.
  have hbeside : (f₂.update p Fragment.strip).Beside w d p q t t' (Fragment.strip nodes) c := by
    refine ⟨hw, hplaces d q hd, Nat.ne_of_lt hlt, ?_, ?_⟩
    · rw [node?, tree, hpruned]
      show (Document.node? ((f.trees ++ [_])[f.trees.length]?.getD ⟨[]⟩) [0]) = _
      rw [List.getElem?_concat_length]
      rfl
    · rw [node?, tree, hpruned, List.getElem?_append_left hlt]
      exact hq
  obtain ⟨f', hdrains, hmoved, hkeeps⟩ := hbeside.exists_drains
  refine ⟨f', .mk hparse helement hw hdrains, ?_, fun m s hs hm => hkeeps m s (fun heq => ?_) (hplaces m s hm)⟩
  · rw [hmoved, hpruned, moved]
    have hsource : (f.trees ++ [(⟨[.element t (Fragment.strip nodes)]⟩ : Document)]).modify p.tree
        (fun doc => doc.update p.address fun _ => []) = f.trees ++ [⟨[.element t []]⟩] :=
      Fragment.modify_concat _ f.trees _ []
    rw [hsource, modify_append_of_lt _ hlt]
  · exact absurd heq (Nat.ne_of_lt hs)

end Forest

namespace Fragment

/-- Well-formed content is placed without the blank texts that lay it out. -/
theorem place_of_content {r : Root} (hprefixes : r.NamesPrefixes) (hadmits : r.AdmitsFragments) {text : String}
    (hmarkup : isMarkup text = true) {nodes : List Node} (h : IsContent r.fragmentScope text.toList nodes)
    (c : List Node) : place r text c = .ok (Xml.appendNodes c (prune nodes)) := by
  rw [place_markup hmarkup, read_of_content hprefixes hadmits h, strip_eq_prune h.apart]
  rfl

/-- Nothing else is placed, and nothing at all if the wrapper cannot be read. -/
theorem content_of_place {r : Root} (hprefixes : r.NamesPrefixes) {text : String} (hmarkup : isMarkup text = true)
    {c c' : List Node} (h : place r text c = .ok c') :
    r.AdmitsFragments ∧
      ∃ nodes, IsContent r.fragmentScope text.toList nodes ∧ c' = Xml.appendNodes c (prune nodes) := by
  have hadmits : r.AdmitsFragments := by
    by_contra hnot
    rw [place_markup hmarkup, read_of_not_admits hprefixes hnot] at h
    cases h
  refine ⟨hadmits, ?_⟩
  by_contra hnone
  have hnot (nodes : List Node) : ¬ IsContent r.fragmentScope text.toList nodes := fun hnodes =>
    hnone ⟨nodes, hnodes, Except.ok.inj (h.symm.trans (place_of_content hprefixes hadmits hmarkup hnodes c))⟩
  rw [place_markup hmarkup, read_of_not_content hprefixes hnot] at h
  cases h

/-- A text without tokens is not placed. -/
theorem place_of_scan_none {r : Root} (hprefixes : r.NamesPrefixes) {text : String} (hmarkup : isMarkup text = true)
    (hscan : Xml.Token.scan? text.toList = none) (c : List Node) : place r text c = .error (.fragmentSyntax text) := by
  rw [place_markup hmarkup, read_of_not_content hprefixes]
  · rfl
  · rintro nodes ⟨ts, ns, ids, hdivided, -⟩
    rw [Xml.Token.scan_eq_some.mpr hdivided] at hscan
    cases hscan

/-- **A fragment is placed completely, once and in order, or not at all.**  The text begins with a bracket, and what the
root declares around it can be read. -/
theorem fragment_placed {r : Root} (hprefixes : r.NamesPrefixes) (hadmits : r.AdmitsFragments) {text : String}
    (hmarkup : isMarkup text = true) :
    (∀ nodes, IsContent r.fragmentScope text.toList nodes →
      (∀ c, place r text c = .ok (Xml.appendNodes c (prune nodes))) ∧
      ∀ (f : Forest) (d : Nat) (q : Place) (t : Tag) (c : List Node), f.place? d = some q →
        f.node? q = some (.element t c) →
        ∃ f' wrapper, f.PlacesFragment r text d f' ∧
          f'.node? q = some (.element t (Xml.appendNodes c (prune nodes))) ∧
          f'.trees = (f.trees.modify q.tree fun doc => doc.update q.address fun c => Xml.appendNodes c (prune nodes)) ++
            [⟨[.element wrapper []]⟩] ∧
          ∀ m p, p.tree < f.trees.length → f.place? m = some p → f'.place? m = some p) ∧
    ((∀ nodes, ¬ IsContent r.fragmentScope text.toList nodes) →
      (∀ c, Edit.whole (place r text) c = ⟨c, some (.fragmentSyntax text)⟩) ∧
      ∀ f : Forest, f.parse (wrap r text) = .error .malformedXml) := by
  refine ⟨fun nodes hnodes => ⟨place_of_content hprefixes hadmits hmarkup hnodes, fun f d q t c hd hq => ?_⟩,
    fun hnone => ⟨fun c => ?_, fun f => ?_⟩⟩
  · obtain ⟨wrapper, hread⟩ := readChars_of_content hprefixes hadmits hnodes
    obtain ⟨f', hplaces, htrees, hkept⟩ := Forest.placesFragment_of_read hread hd hq
    rw [strip_eq_prune hnodes.apart] at htrees
    refine ⟨f', wrapper, hplaces, ?_, htrees, hkept⟩
    have hlt := Forest.lt_of_node hq
    have htree : f'.tree q = (f.tree q).update q.address fun c => Xml.appendNodes c (prune nodes) := by
      rw [Forest.tree, htrees, List.getElem?_append_left (by simpa using hlt), List.getElem?_modify_eq,
        Forest.tree_of_lt hlt]
      rfl
    rw [Forest.node?, htree]
    exact Xml.Document.node_update hq _
  · rw [Edit.whole, place_markup hmarkup, read_of_not_content hprefixes hnone]
    rfl
  · rw [Forest.parse, Document.read, readChars_of_not_content hprefixes hnone]
    rfl

end Fragment

namespace Sample

/-- A document `<z>x</z>`, of which the root element is handed out. -/
def planted : Forest := ⟨[⟨[element "z" [.text "x"]]⟩], [some ⟨0, [0]⟩]⟩

/-- A fragment with blanks around an element, of which the first lay it out and the others do not. -/
def loose : String := " <q> </q> b"

def looseNodes : List Node := [.text " ", element "q" [.text " "], .text " b"]

theorem isContent_loose : IsContent root.fragmentScope loose.toList looseNodes := by
  have hdivided : Xml.Token.Divided loose.toList [.text [' '], .startTag ⟨"", "q"⟩ [] false, .text [' '],
      .endTag ⟨"", "q"⟩, .text [' ', 'b']] := Xml.Token.scan_eq_some.mp (by decide)
  have htag : Xml.Reader.tag? root.fragmentScope ⟨"", "q"⟩ [] = some (.plain ⟨"", "q"⟩, root.fragmentScope) := by decide
  have hspace (s : Xml.Scope) : Xml.Reader.Spells s [] (.text [' ']) (.text " ") [] :=
    .text (by decide : Xml.Reader.decodeText [' '] = some [' '])
  have hlast : Xml.Reader.Spells root.fragmentScope [] (.text [' ', 'b']) (.text " b") [] :=
    .text (by decide : Xml.Reader.decodeText [' ', 'b'] = some [' ', 'b'])
  have hinside : Xml.Reader.Content root.fragmentScope [] [.text [' ']] [.text " "] [] := .node (hspace _) .nil
  exact ⟨_, _, [], hdivided, .node (hspace _) (.element htag rfl hinside (by decide) (.node hlast .nil)), by rfl⟩

end Sample

/-- The element keeps its blank text, since no element is beside it, and the text before it is joined to none. -/
theorem loose_fragment_placed :
    Sample.root.NamesPrefixes ∧ Sample.root.AdmitsFragments ∧ Fragment.isMarkup Sample.loose = true ∧
      Fragment.place Sample.root Sample.loose [.text "x"] =
        .ok [.text "x", Sample.element "q" [.text " "], .text " b"] ∧
      ∃ f' wrapper, Sample.planted.PlacesFragment Sample.root Sample.loose 0 f' ∧
        f'.trees = [⟨[Sample.element "z" [.text "x", Sample.element "q" [.text " "], .text " b"]]⟩,
          ⟨[.element wrapper []]⟩] := by
  have hprefixes : Sample.root.NamesPrefixes := by unfold Root.NamesPrefixes; decide
  have hadmits : Sample.root.AdmitsFragments := by decide
  have hmarkup : Fragment.isMarkup Sample.loose = true := by decide
  obtain ⟨hplace, hforest⟩ := (Fragment.fragment_placed hprefixes hadmits hmarkup).1 _ Sample.isContent_loose
  obtain ⟨f', wrapper, hplaces, -, htrees, -⟩ :=
    hforest Sample.planted 0 ⟨0, [0]⟩ (.plain ⟨"", "z"⟩) [.text "x"] rfl rfl
  exact ⟨hprefixes, hadmits, hmarkup, (hplace _).trans (by rfl), f', wrapper, hplaces, htrees.trans (by rfl)⟩

/-! ## Summary

**What is established.**  Placing is all or nothing.  Well-formed content is appended completely, in order and once,
with the blank texts left out that lay it out, and the wrapper is left empty; every node of the document keeps its
number, and no other place in it changes.  What is not well-formed leaves everything as it was, with an error that names
the fragment.

**What is not.**  The hypotheses are about the root and the first character.  A root whose declarations cannot be read
admits no fragment (`read_of_not_admits`), and a text that does not begin with a bracket is no fragment but a text. -/

end Regraft
