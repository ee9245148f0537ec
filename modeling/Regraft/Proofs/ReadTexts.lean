import Regraft.Proofs.ReadScopes
import Regraft.Proofs.TextsApart
/-!
# Texts in a document that is read

A run of text may be read in several tokens: characters, and literal parts between them.  Each is joined to the text
that it follows, so that no two texts stand side by side in what has been read.  `State.Apart` is what every token
keeps (`apart_take`): it speaks of the nodes in front of each element that is open and of those read in the innermost.
These are held last node first, which makes no difference, as standing side by side has no direction
(`Apart.reverse`).  A document that has been read to its end is therefore one in which texts stand apart at any depth
(`apart_of_readChars`).
-/

namespace Regraft.Xml.Reader

/-- No two texts stand side by side in all that has been read. -/
structure State.Apart (st : State) : Prop where
  nodes : Xml.Apart st.reversed
  before : ∀ o ∈ st.opened, Xml.Apart o.before

theorem State.Apart.start : State.start.Apart where
  nodes := .nil
  before _ ho := absurd ho List.not_mem_nil

/-- Every token keeps texts apart. -/
theorem apart_take {st st' : State} (h : st.Apart) {token : Token} (hst : st.take token = some st') : st'.Apart := by
  cases takes_of_take hst with
  | blanks => exact h
  | joins _ _ hreversed =>
    have hnodes := h.nodes
    rw [hreversed] at hnodes
    cases hnodes with
    | text hhead hrest => exact ⟨.text hhead hrest, h.before⟩
  | @adds _ n _ hn htext =>
    refine ⟨?_, h.before⟩
    cases n with
    | element t k => cases hn
    | text value => exact .text (htext rfl).2 h.nodes
    | comment value => exact .comment h.nodes
    | instruction target data => exact .instruction h.nodes
  | single => exact ⟨.element .nil h.nodes, h.before⟩
  | opens => exact ⟨.nil, List.forall_mem_cons.mpr ⟨h.nodes, h.before⟩⟩
  | closes hopened =>
    have hbefore := h.before
    rw [hopened] at hbefore
    obtain ⟨hfirst, hrest⟩ := List.forall_mem_cons.mp hbefore
    exact ⟨.element h.nodes.reverse hfirst, hrest⟩

/-- **In a document that has been read, no two texts stand side by side.** -/
theorem apart_of_readChars {s : List Char} {d : Document} (h : readChars s = some d) : Xml.Apart d.content := by
  obtain ⟨rest, -, h⟩ := Option.bind_eq_some_iff.mp h
  obtain ⟨tokens, -, h⟩ := Option.bind_eq_some_iff.mp h
  obtain ⟨st, hst, hd⟩ := Option.bind_eq_some_iff.mp h
  have hapart : st.Apart := foldlM_induction (fun h hst => apart_take h hst) .start hst
  rw [State.document?] at hd
  split at hd
  · cases hd
    exact hapart.nodes.reverse
  · cases hd

end Regraft.Xml.Reader
