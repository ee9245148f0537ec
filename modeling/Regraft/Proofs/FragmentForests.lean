import Regraft.Proofs.BlankTexts
import Regraft.Proofs.ReadTexts
/-!
# Fragments read in forests of their own

A fragment is read as a document of its own, in a forest that holds nothing else, and the blank texts of its wrapper are
taken out there number by number.  In what has been read texts stand apart, so the loops that do this come to an end
without an error (`Forest.exists_removeBlanks`), and what is left in the wrapper is its content with the blank texts
struck out address by address (`strip`).  Reading fails only where there is no document to read (`read_eq`).

From here on a fragment is what `read_eq` says, and no forest is needed.
-/

namespace Regraft

open Xml (Address Document Node Tag)

/-- A document that has been read has an element. -/
theorem Xml.exists_element_of_readChars {s : List Char} {d : Document} (h : Reader.readChars s = some d) :
    d.content.any Node.isElement = true := by
  obtain ⟨rest, -, h⟩ := Option.bind_eq_some_iff.mp h
  obtain ⟨tokens, -, h⟩ := Option.bind_eq_some_iff.mp h
  obtain ⟨st, -, hd⟩ := Option.bind_eq_some_iff.mp h
  rw [Reader.State.document?] at hd
  split at hd
  · rename_i hst
    cases hd
    rw [List.any_reverse]
    exact (Bool.and_eq_true_iff.mp hst).2
  · cases hd

/-- The first element of a document that is planted alone is handed out under the number after that of the document. -/
theorem Forest.documentElement_plant {d : Document} (h : d.content.any Node.isElement = true) :
    ∃ f t c i, d.content.find? Node.isElement = some (.element t c) ∧ (d.content)[i]? = some (.element t c) ∧
      (Forest.empty.plant d).1.documentElement (Forest.empty.plant d).2 = .ok (f, 1) ∧
      f.place? 1 = some ⟨0, [i]⟩ ∧ f.node? ⟨0, [i]⟩ = some (.element t c) := by
  obtain ⟨i, hi⟩ := Option.isSome_iff_exists.mp (List.findIdx?_isSome.trans h)
  obtain ⟨hlt, helement, -⟩ := List.findIdx?_eq_some_iff_getElem.mp hi
  have hat : (d.content)[i]? = some d.content[i] := List.getElem?_eq_getElem hlt
  have hfind : d.content.find? Node.isElement = some d.content[i] := by
    rw [List.find?_eq_bind_findIdx?_getElem?, hi]
    exact hat
  generalize d.content[i] = n at hat hfind helement
  cases n with
  | element t c =>
    refine ⟨(Forest.empty.plant d).1.handOut ⟨0, [i]⟩ |>.1, t, c, i, hfind, hat, ?_, rfl, hat⟩
    have hplace : (Forest.empty.plant d).1.place (Forest.empty.plant d).2 = .ok ⟨0, []⟩ := rfl
    have hindex : (((Forest.empty.plant d).1.tree ⟨0, []⟩).children []).findIdx? Node.isElement = some i := hi
    simp only [documentElement, hplace, hindex, bind, Except.bind]
    rfl
  | text value => cases helement
  | comment value => cases helement
  | instruction target data => cases helement

namespace Fragment

/-- What is read of a fragment is the content of its wrapper, stripped of blank texts address by address. -/
theorem read_eq (r : Root) (text : String) :
    read r text = match (Xml.Reader.readChars (wrap r text).toList).bind fun d => d.content.find? Node.isElement with
      | some wrapper => .ok (strip wrapper.content)
      | none => .error (.fragmentSyntax text) := by
  rw [read, Forest.parse, Document.read]
  cases hread : Xml.Reader.readChars (wrap r text).toList with
  | none => rfl
  | some d =>
    obtain ⟨f, t, c, i, hfind, hat, hwrapper, hplace, hnode⟩ :=
      Forest.documentElement_plant (Xml.exists_element_of_readChars hread)
    have hapart : Xml.Apart c :=
      (Xml.Reader.apart_of_readChars hread).content_of_mem (List.mem_of_getElem? hat)
    obtain ⟨g, hremove, hpruned⟩ := Forest.exists_removeBlanks hplace hnode hapart
    have hkept : g.place? 1 = some ⟨0, [i]⟩ := hpruned.outside 1 _ hplace fun a ha heq => ha (by
      simpa [Place.below] using congrArg Place.address heq)
    have hchildren : (g.tree ⟨0, [i]⟩).children [i] = strip c := by
      rw [strip_eq_prune hapart]
      exact Xml.Document.children_of_node (hpruned.node hnode)
    have hnumber : g.place 1 = .ok ⟨0, [i]⟩ := Forest.place_of_some hkept
    show ((Forest.empty.plant d).1.documentElement (Forest.empty.plant d).2 >>= fun p => _) = _
    rw [hwrapper]
    show (f.removeBlanks 1 >>= fun f => _) = _
    rw [hremove]
    show (g.place 1 >>= fun w => _) = _
    rw [hnumber, Option.bind_some, hfind]
    show Except.ok ((g.tree ⟨0, [i]⟩).children [i]) = _
    rw [hchildren]
    rfl

end Fragment

end Regraft
