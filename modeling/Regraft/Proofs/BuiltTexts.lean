import Regraft.Proofs.Calls
import Regraft.Proofs.ElementContent
import Regraft.Proofs.Placing
import Regraft.Proofs.Preservation
import Regraft.Proofs.Pruning
import Regraft.Proofs.ReadTexts
/-!
# Texts in a document that is built

A run builds by three kinds of edits, and none of them brings two texts side by side.  Elements are made at the end of a
content.  A text that is set takes the place of the one that was there, and what comes behind it was apart from that.
The nodes of a fragment go to the end one by one, and a text that comes to stand behind another becomes a part of it;
the nodes themselves are read, and what is read has its texts apart (`Fragment.apart_of_read`).

Edits of the content of an element leave the elements around it where they are, so it does not matter to the texts
around it (`keepsApart_eachNamed`).  All this is a property that the ways of combining edits keep
(`keepsApart_preserved`), so every descent keeps it and every run that starts with nothing has it
(`Run.apart_after`).  What holds only where texts stand apart therefore holds of all that a run is ever asked to edit.
-/

namespace Regraft

open Xml (Apart Node QName)

/-! ## 1. Fragments -/

/-- **In what is read of a fragment no two texts stand side by side.** -/
theorem Fragment.apart_of_read {r : Root} {text : String} {nodes : List Node} (h : read r text = .ok nodes) :
    Apart nodes := by
  obtain ⟨d, wrapper, hread, hwrapper, rfl⟩ := read_inv h
  have hdocument := Xml.Reader.apart_of_readChars hread
  have hcontent : Apart wrapper.content := hdocument.content_of_mem (List.mem_of_find?_eq_some hwrapper)
  rw [strip_eq_prune hcontent]
  exact apart_prune hcontent

/-! ## 2. Edits -/

namespace Edit

/-- The edit leaves texts apart if it finds them apart. -/
def KeepsApart (f : Edit) : Prop := ∀ c, Apart c → Apart (f c).content

theorem keepsApart_pad (q : QName) (n : Nat) : KeepsApart (pad q n) := by
  intro c hc
  refine hc.appendNodes fun m hm => ?_
  rw [(List.mem_replicate.mp hm).2]
  exact .element .nil .nil

theorem apart_padded {c : List Node} (hc : Apart c) (q : QName) (n : Nat) : Apart (padded q n c) := by
  have hpad := keepsApart_pad q n c hc
  rw [pad_eq] at hpad
  exact hpad

/-- What changes inside elements does not bring texts around them together. -/
theorem keepsApart_eachNamed {q : QName} {fs : List Edit} (hfs : ∀ f ∈ fs, KeepsApart f) :
    KeepsApart (eachNamed q fs) := by
  intro c hc
  obtain ⟨happart, hinside⟩ := Xml.apart_iff.mp hc
  have hchanges := eachNamed_changes (q := q) fs c
  refine Xml.apart_iff.mpr ⟨happart.congr hchanges.map_isText, ?_⟩
  refine hchanges.forall_mem ?_ hinside
  rintro - t k k' (rfl | ⟨f, hf, rfl⟩) hk
  · exact hk
  · exact hfs f hf k hk

/-- All ways to combine edits keep it. -/
theorem keepsApart_preserved : Preserved anyName KeepsApart :=
  preserved_relates (R := fun c c' => Apart c → Apart c') (fun _ hc => hc) (fun h h' hc => h' (h hc))
    (fun _ => keepsApart_pad _) keepsApart_eachNamed

theorem keepsApart_place (root : Root) (text : String) : KeepsApart (.whole (Fragment.place root text)) := by
  refine relates_place (R := fun c c' => Apart c → Apart c') (fun _ hc => hc) ?_ fun _ _ c hc => hc.setLeadingText _
  intro _ nodes hnodes c hc
  exact hc.appendNodes fun n hn => (Fragment.apart_of_read hnodes).singleton_of_mem hn

end Edit

/-! ## 3. Runs -/

theorem Descent.keepsApart_follow (d : Descent) (steps : List Step) (waypoints : List Waypoint)
    (context : Xml.Address) : Edit.KeepsApart (d.follow (Route.ofPaths steps waypoints) context) :=
  follow_of_preserved Edit.keepsApart_preserved (fun _ _ _ => trivial) steps waypoints
    fun _ text _ _ => Edit.keepsApart_place d.root text

/-- **Whatever a run is called to do, the texts of what it builds stand apart.** -/
theorem Run.apart_after {r : Run} (h : Apart r.content) (calls : List Call) : Apart (r.after calls).content :=
  content_after_induction (fun rule _ c hc => (r.descent rule).keepsApart_follow _ _ _ c hc) h

/-- A run starts with nothing, so that there are no texts yet. -/
theorem Run.apart_start {source : Xml.Document} {sourceRoot : Xml.Address} {sourceNamespaces : Namespaces}
    {vocabulary : Vocabulary} {root : Root} {fresh : Run}
    (h : Run.start source sourceRoot sourceNamespaces vocabulary root = .ok fresh) : Apart fresh.content := by
  obtain ⟨t, -, hfresh⟩ := bind_ok.mp h
  cases hfresh
  exact .nil

end Regraft
