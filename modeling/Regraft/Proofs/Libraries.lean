import Regraft.Proofs.FragmentForests
import Regraft.Proofs.LeadingTexts
import Regraft.Proofs.LegibleDocuments
import Regraft.Proofs.Pairing
import Regraft.Proofs.PatternsAtStart
import Regraft.Proofs.UndeclaredMembers
/-!
# What is relied on of libraries

Four things that a run needs are work that a library can do: patterns are compiled and found in texts, trees grow and
exchange nodes, markup is read and written, and the members of JSON objects are sorted into structures.  For each there
is one structure with the operations that are used, and one with the laws that the theory relies on: `Patterns.Laws`,
`Trees.Laws`, `Markup.Laws` and `Members.Laws`.  Whatever has these operations and keeps these laws can take the place
of what is defined here.

The definitions of this development are one of each (`patterns`, `trees`, `markup`, `members`), and they keep the laws
(`patterns_laws`, `trees_laws`, `markup_laws`, `members_laws`).  The laws say nothing of how a pattern is compiled or in
what a tree is held.  What they do say is enough to know that a value which matches a rule's pattern has as many texts
as that pattern has groups, although the pattern was pasted into another one (`Patterns.Laws.length_pasted`), and that
what one element holds is moved into another tree child by child, to the last (`Trees.Laws.exists_moves`).
-/

namespace Regraft.Library

open Xml (Document Node QName Style Tag)
open Pattern (Matching)

/-! ## 1. Patterns -/

/-- Patterns are compiled, and the groups of the first match are taken from texts. -/
structure Patterns where
  Compiled : Type
  compile : String → Option Compiled
  groups : Compiled → Nat
  captures : Compiled → String → Option (List String)
  /-- From which places of a text a compiled pattern matches to which others. -/
  matching : Compiled → Matching

/-- A place of a text: something is before it, and it knows the last character of that. -/
def IsPlaceOf (text : String) (a : Pattern.Place) : Prop :=
  ∃ before, text.toList = before ++ a.rest ∧ a.before = before.getLast?

/-- What is relied on of patterns. -/
structure Patterns.Laws (L : Patterns) : Prop where
  /-- A match has a text for every group. -/
  length : ∀ {r text texts}, L.captures r text = some texts → texts.length = L.groups r
  /-- A match is found if there is one. -/
  found : ∀ {pattern r}, L.compile pattern = some r → ∀ text : String,
    (L.captures r text).isSome ↔ ∃ a, IsPlaceOf text a ∧ ∃ b, L.matching r a b
  /-- Between a mark of the start and a group that encloses it, a pattern can be compiled if it can be by itself. -/
  encloses : ∀ {pattern : String}, Pattern.Parser.Enclosable pattern.toList →
    ((L.compile (NormalizeRule.anchored pattern)).isSome ↔ (L.compile pattern).isSome)
  /-- There it matches from the start, and with the groups of the pattern. -/
  pasted : ∀ {pattern r r'}, L.compile pattern = some r → L.compile (NormalizeRule.anchored pattern) = some r' →
    ∀ text : String, ((L.captures r' text).isSome ↔ ∃ b, L.matching r ⟨none, text.toList⟩ b) ∧
      ∀ texts, L.captures r' text = some texts → L.captures r text = some texts

/-- The patterns that are defined here. -/
def patterns : Patterns where
  Compiled := Pattern.Regex
  compile := Pattern.Regex.parse
  groups := Pattern.Regex.groups
  captures := Pattern.Regex.captures
  matching := Pattern.Regex.Matches

/-- A program meets a place that it accepts, with something of the text before it. -/
theorem meets_iff {p : Pattern.Program} {before : Option Char} {text : List Char} :
    p.Meets before text ↔ ∃ u v, text = u ++ v ∧ p.Accepts p.start ⟨u.getLast?.or before, v⟩ := by
  constructor
  · intro h
    induction h with
    | here h => exact ⟨[], _, rfl, h⟩
    | @later before c rest _ ih =>
      obtain ⟨u, v, rfl, h⟩ := ih
      refine ⟨c :: u, v, rfl, ?_⟩
      cases u with
      | nil => exact h
      | cons d u =>
        rw [List.getLast?_cons_cons]
        rwa [List.getLast?_cons, Option.some_or] at h ⊢
  · rintro ⟨u, v, rfl, h⟩
    induction u generalizing before with
    | nil => exact .here h
    | cons c u ih =>
      refine .later (ih ?_)
      cases u with
      | nil => exact h
      | cons d u =>
        rw [List.getLast?_cons_cons] at h
        rwa [List.getLast?_cons, Option.some_or] at h ⊢

theorem patterns_laws : patterns.Laws where
  length {r text texts} h := by
    obtain ⟨slots, -, rfl⟩ := Option.map_eq_some_iff.mp h
    rw [List.length_map, List.length_range]
    rfl
  found {pattern r} h text := by
    have hproper := Pattern.proper_parse h
    have haccepts (a : Pattern.Place) :
        (Pattern.Outline.ofRegex r).program.Accepts (Pattern.Outline.ofRegex r).program.start a ↔
          ∃ b, r.Matches a b := by
      rw [Pattern.program_accepts_iff]
      exact exists_congr fun b => Pattern.matches_ofRegex_iff hproper
    refine (Pattern.Regex.captures_isSome_iff r text).trans (meets_iff.trans ?_)
    simp only [Option.or_none, haccepts]
    constructor
    · rintro ⟨u, v, htext, hb⟩
      exact ⟨_, ⟨u, htext, rfl⟩, hb⟩
    · rintro ⟨⟨before, v⟩, ⟨u, htext, rfl⟩, hb⟩
      exact ⟨u, v, htext, hb⟩
  encloses {pattern} h := by
    have hcompiles := NormalizeRule.compiles_iff h ""
    simp only [NormalizeRule.compile_eq_ok_iff] at hcompiles
    rw [Option.isSome_iff_exists, Option.isSome_iff_exists]
    refine Iff.trans ?_ hcompiles
    exact ⟨fun ⟨r, hr⟩ => ⟨_, r, hr, rfl⟩, fun ⟨_, r, hr, _⟩ => ⟨r, hr⟩⟩
  pasted {pattern r r'} h h' text := by
    have hrule : NormalizeRule.compile pattern "" = .ok _ := NormalizeRule.compile_eq_ok_iff.mpr ⟨r', h', rfl⟩
    obtain rfl : r' = Pattern.Parser.bound r := NormalizeRule.regex_of_compile hrule h
    exact ⟨Pattern.captures_bound_isSome_iff (Pattern.proper_parse h) text, fun _ => Pattern.captures_of_bound⟩

/-- **A pasted pattern gives what its template asks for.**  A pattern that is enclosed can be compiled as a rule has it,
and a value that then matches has as many texts as the pattern has groups. -/
theorem Patterns.Laws.length_pasted {L : Patterns} (h : L.Laws) {pattern : String} {r : L.Compiled}
    (hr : L.compile pattern = some r) (hencloses : Pattern.Parser.Enclosable pattern.toList) :
    ∃ r', L.compile (NormalizeRule.anchored pattern) = some r' ∧
      ∀ value texts, L.captures r' value = some texts → texts.length = L.groups r := by
  obtain ⟨r', hr'⟩ := Option.isSome_iff_exists.mp ((h.encloses hencloses).mpr (Option.isSome_of_eq_some hr))
  exact ⟨r', hr', fun value texts htexts => h.length ((h.pasted hr hr' value).2 texts htexts)⟩

/-! ## 2. Trees -/

/-- Trees are held together, and their nodes are known by numbers. -/
structure Trees where
  State : Type
  /-- The element of a number: its tag and what is in it. -/
  element? : State → Nat → Option (Tag × List Node)
  /-- Whether two numbers are those of nodes in different trees. -/
  Apart : State → Nat → Nat → Prop
  appendElement : State → Nat → QName → Except Error (State × Nat)
  setAttribute : State → Nat → QName → String → Except Error State
  setText : State → Nat → String → Except Error State
  /-- The child of a node at a position, under a number of its own. -/
  child : State → Nat → Nat → Option (State × Nat)
  /-- Moves a node to the end of another's content. -/
  appendChild : State → Nat → Nat → State × Option Error

/-- The first child of one element is moved to the end of another as long as there is one. -/
inductive Trees.Moves (L : Trees) (w d : Nat) : L.State → L.State → Prop
  | done {s : L.State} : L.child s w 0 = none → Moves L w d s s
  | move {s s₁ s₂ s₃ : L.State} {m : Nat} : L.child s w 0 = some (s₁, m) → L.appendChild s₁ d m = (s₂, none) →
      Moves L w d s₂ s₃ → Moves L w d s s₃

/-- What is relied on of trees. -/
structure Trees.Laws (L : Trees) : Prop where
  /-- An element that is appended is the last, and empty. -/
  appendElement : ∀ {s n t c}, L.element? s n = some (t, c) → ∀ q, ∃ s' m, L.appendElement s n q = .ok (s', m) ∧
    L.element? s' n = some (t, c ++ [.element (.plain q) []]) ∧ L.element? s' m = some (.plain q, [])
  /-- An attribute takes the place of the one of its name. -/
  setAttribute : ∀ {s n t c}, L.element? s n = some (t, c) → ∀ q value, ∃ s', L.setAttribute s n q value = .ok s' ∧
    L.element? s' n = some ({ t with attributes := Xml.setAttribute ⟨q, value⟩ t.attributes }, c)
  /-- The text that begins an element is replaced, and the rest stays. -/
  setText : ∀ {s n t c}, L.element? s n = some (t, c) → ∀ value, ∃ s', L.setText s n value = .ok s' ∧
    L.element? s' n = some (t, Xml.setLeadingText value c)
  /-- An empty element has no first child. -/
  child_none : ∀ {s n t}, L.element? s n = some (t, []) → L.child s n 0 = none
  /-- A first child that moves to another tree is the last there.  Two texts that meet are one. -/
  move : ∀ {s w d t t' n k c}, L.Apart s w d → L.element? s w = some (t, n :: k) → L.element? s d = some (t', c) →
    ∃ s₁ m s₂, L.child s w 0 = some (s₁, m) ∧ L.appendChild s₁ d m = (s₂, none) ∧ L.Apart s₂ w d ∧
      L.element? s₂ w = some (t, k) ∧ L.element? s₂ d = some (t', Xml.appendNode c n)

/-- **What is in one element moves into another tree**, child by child to the last. -/
theorem Trees.Laws.exists_moves {L : Trees} (h : L.Laws) {s : L.State} {w d : Nat} {t t' : Tag} {k c : List Node}
    (hapart : L.Apart s w d) (hw : L.element? s w = some (t, k)) (hd : L.element? s d = some (t', c)) :
    ∃ s', L.Moves w d s s' ∧ L.element? s' w = some (t, []) ∧ L.element? s' d = some (t', Xml.appendNodes c k) := by
  induction k generalizing s c with
  | nil => exact ⟨s, .done (h.child_none hw), hw, hd⟩
  | cons n k ih =>
    obtain ⟨s₁, m, s₂, hchild, hmove, hapart', hw', hd'⟩ := h.move hapart hw hd
    obtain ⟨s', hmoves, hempty, hall⟩ := ih hapart' hw' hd'
    exact ⟨s', .move hchild hmove hmoves, hempty, hall⟩

/-- The element of a number in a forest. -/
def elementOf? (f : Forest) (n : Nat) : Option (Tag × List Node) :=
  match (f.place? n).bind f.node? with
  | some (.element t c) => some (t, c)
  | _ => none

theorem elementOf?_eq_some {f : Forest} {n : Nat} {t : Tag} {c : List Node} :
    elementOf? f n = some (t, c) ↔ ∃ p, f.place? n = some p ∧ f.node? p = some (.element t c) := by
  rw [← Option.bind_eq_some_iff, elementOf?]
  cases (f.place? n).bind f.node? with
  | none => simp
  | some m => cases m <;> simp

/-- The trees that are defined here. -/
def trees : Trees where
  State := Forest
  element? := elementOf?
  Apart f n m := ∃ p q, f.place? n = some p ∧ f.place? m = some q ∧ q.tree ≠ p.tree
  appendElement := Forest.appendElement
  setAttribute := Forest.setAttribute
  setText := Forest.setText
  child := Forest.child
  appendChild := Forest.appendChild

/-- A node that is set in a content is found there. -/
theorem nodeAt?_set {a : Xml.Address} {i : Nat} {n m : Node} {nodes : List Node}
    (h : Xml.nodeAt? nodes (a ++ [i]) = some n) :
    Xml.nodeAt? (Xml.updateContent (·.set i m) a nodes) (a ++ [i]) = some m := by
  induction a generalizing nodes with
  | nil =>
    obtain ⟨hi, -⟩ := List.getElem?_eq_some_iff.mp h
    exact List.getElem?_set_self hi
  | cons j a ih =>
    obtain ⟨k, rest, hrest⟩ := List.exists_cons_of_ne_nil (List.append_ne_nil_of_right_ne_nil a (List.cons_ne_nil i []))
    rw [List.cons_append, hrest, Xml.nodeAt?_cons_cons] at h ⊢
    rw [← hrest] at h ⊢
    rw [Xml.updateContent, List.getElem?_modify_eq]
    cases hj : nodes[j]? with
    | none => simp [hj] at h
    | some x =>
      rw [hj] at h
      have hnone : Xml.nodeAt? [] (a ++ [i]) = none := by
        cases a with
        | nil => rfl
        | cons k a => cases a <;> rfl
      cases x with
      | element t k => exact ih h
      | text value => cases hnone.symm.trans h
      | comment value => cases hnone.symm.trans h
      | instruction target data => cases hnone.symm.trans h

variable {f : Forest} {n : Nat} {p : Regraft.Place} {t : Tag} {c : List Node}

theorem tree_update (h : p.tree < f.trees.length) (a : Xml.Address) (change : List Node → List Node) :
    (f.update ⟨p.tree, a⟩ change).tree p = (f.tree p).update a change := by
  show ((f.trees.modify p.tree _)[p.tree]?).getD ⟨[]⟩ = _
  rw [List.getElem?_modify_eq, Forest.tree_of_lt h]
  rfl

theorem appendElement_element (h : elementOf? f n = some (t, c)) (q : QName) :
    ∃ g m, f.appendElement n q = .ok (g, m) ∧ elementOf? g n = some (t, c ++ [.element (.plain q) []]) ∧
      elementOf? g m = some (.plain q, []) := by
  obtain ⟨p, hplace, hnode⟩ := elementOf?_eq_some.mp h
  have hcontainer : (f.tree p).isContainer p.address = true := Xml.Document.isContainer_of_node hnode
  let g := f.update p (Xml.appendNode · (.element (.plain q) []))
  have hg : g.node? p = some (.element t (c ++ [.element (.plain q) []])) := by
    have happend := appendNode_of_not_text (n := .element (.plain q) []) rfl c
    rw [Forest.node?, tree_update (Forest.lt_of_node hnode), ← happend]
    exact Xml.Document.node_update hnode _
  have hlast : g.node? (p.below [c.length]) = some (.element (.plain q) []) := by
    rw [Forest.node_below hg (List.cons_ne_nil _ _)]
    exact List.getElem?_concat_length
  refine ⟨(g.handOut (p.below [c.length])).1, f.places.length, ?_, ?_, ?_⟩
  · rw [Forest.appendElement, Forest.place_of_some hplace]
    dsimp only [bind, Except.bind]
    rw [Forest.append, if_pos hcontainer, Xml.Document.children_of_node hnode]
    rfl
  · exact elementOf?_eq_some.mpr ⟨p, Forest.place_handOut (f := g) hplace _, hg⟩
  · exact elementOf?_eq_some.mpr ⟨_, Forest.place_handedOut g _, hlast⟩

theorem setAttribute_element (h : elementOf? f n = some (t, c)) (q : QName) (value : String) :
    ∃ g, f.setAttribute n q value = .ok g ∧
      elementOf? g n = some ({ t with attributes := Xml.setAttribute ⟨q, value⟩ t.attributes }, c) := by
  obtain ⟨p, hplace, hnode⟩ := elementOf?_eq_some.mp h
  obtain ⟨a, i, ha⟩ : ∃ a i, p.address = a ++ [i] := by
    refine ⟨_, _, (List.dropLast_append_getLast fun hnil => ?_).symm⟩
    rw [Forest.node?, hnil, Xml.Document.node?, Xml.nodeAt?_nil] at hnode
    cases hnode
  let u : Tag := { t with attributes := Xml.setAttribute ⟨q, value⟩ t.attributes }
  refine ⟨f.update ⟨p.tree, a⟩ (·.set i (.element u c)), ?_, elementOf?_eq_some.mpr ⟨p, hplace, ?_⟩⟩
  · rw [Forest.setAttribute, Forest.place_of_some hplace]
    dsimp only [bind, Except.bind]
    rw [hnode, ha, List.getLast?_concat, List.dropLast_concat]
    rfl
  · rw [Forest.node?, tree_update (Forest.lt_of_node hnode), ha]
    rw [Forest.node?, Xml.Document.node?, ha] at hnode
    exact nodeAt?_set hnode

theorem setText_element (h : elementOf? f n = some (t, c)) (value : String) :
    ∃ g, f.setText n value = .ok g ∧ elementOf? g n = some (t, Xml.setLeadingText value c) := by
  obtain ⟨p, hplace, hnode⟩ := elementOf?_eq_some.mp h
  refine ⟨_, Forest.setText_eq hplace hnode value, elementOf?_eq_some.mpr ⟨p, ?_, Forest.node_withContent hnode _ _⟩⟩
  rw [Forest.place_withContent, hplace, Option.bind_some, if_pos rfl, Xml.Address.shiftAt_self]
  rfl

theorem child_of_empty (h : elementOf? f n = some (t, [])) : f.child n 0 = none := by
  obtain ⟨p, hplace, hnode⟩ := elementOf?_eq_some.mp h
  rw [Forest.child, hplace]
  simp only [Option.bind_eq_bind, Option.bind_some, Xml.Document.children_of_node hnode]
  rfl

theorem trees_laws : trees.Laws where
  appendElement := appendElement_element
  setAttribute := setAttribute_element
  setText := setText_element
  child_none := child_of_empty
  move := by
    rintro f w d t t' n k c ⟨p, q, hp, hq, htrees⟩ hw hd
    obtain ⟨p', hp', hnode⟩ := elementOf?_eq_some.mp hw
    obtain ⟨q', hq', hnode'⟩ := elementOf?_eq_some.mp hd
    obtain rfl := Option.some.inj (hp.symm.trans hp')
    obtain rfl := Option.some.inj (hq.symm.trans hq')
    have hbeside : Forest.Beside f w d p q t t' (n :: k) c := ⟨hp, hq, htrees, hnode, hnode'⟩
    obtain ⟨f₁, m, f₂, hchild, hmove, htrees₂, hkeeps⟩ := hbeside.move
    have hafter := hbeside.of_moved htrees₂ hkeeps
    exact ⟨f₁, m, f₂, hchild, hmove, ⟨p, q, hafter.source, hafter.target, htrees⟩,
      elementOf?_eq_some.mpr ⟨p, hafter.source, hafter.content⟩,
      elementOf?_eq_some.mpr ⟨q, hafter.target, hafter.targetContent⟩⟩

/-! ## 3. Markup -/

/-- Documents are read and written. -/
structure Markup where
  read : String → Except Error Document
  write : Style → Document → Except Error String

/-- What is relied on of markup. -/
structure Markup.Laws (L : Markup) : Prop where
  /-- In a document that has been read there is an element. -/
  rooted : ∀ {text d}, L.read text = .ok d → d.content.any Node.isElement = true
  /-- No two texts in it stand side by side. -/
  apart : ∀ {text d}, L.read text = .ok d → Xml.Apart d.content
  /-- What has been written of legible elements can be read. -/
  legible : ∀ {t content}, t.Legible → (∀ n ∈ content, Node.Legible n) → ∀ {style text},
    L.write style ⟨[.element t content]⟩ = .ok text → ∃ d, L.read text = .ok d

/-- The markup that is defined here. -/
def markup : Markup where
  read := Document.read
  write := Document.write

theorem readChars_of_read {text : String} {d : Document} (h : Document.read text = .ok d) :
    Xml.Reader.readChars text.toList = some d := by
  rw [Document.read] at h
  split at h
  · rename_i hread
    cases h
    exact hread
  · cases h

theorem markup_laws : markup.Laws where
  rooted h := Xml.exists_element_of_readChars (readChars_of_read h)
  apart h := Xml.Reader.apart_of_readChars (readChars_of_read h)
  legible ht hcontent _ _ hwrite := Xml.exists_read_of_write ht hcontent hwrite

/-! ## 4. Members -/

open Config (Shape HasMember Undeclared keepDeclared)
open Json (Value)

/-- The members of a JSON value are sorted into the structure it should be. -/
structure Members where
  sort : Shape → Value → Option (List (Option Value))

/-- What is relied on of members. -/
structure Members.Laws (L : Members) : Prop where
  /-- A member is found at its place. -/
  found : ∀ {shape v w key ms}, shape.members.Nodup → key ∈ shape.members → L.sort shape v = some ms →
    HasMember shape key v w → ms[shape.members.idxOf key]? = some (some w)
  /-- A structure that admits no others has only its own members. -/
  declared : ∀ {shape v ms}, shape.admitsOthers = false → L.sort shape v = some ms → ¬ Undeclared shape v
  /-- One that admits others makes nothing of them. -/
  others : ∀ {shape v ms}, L.sort shape v = some ms → L.sort shape (keepDeclared shape v) = some ms

/-- The members that are defined here. -/
def members : Members := ⟨Config.membersOf⟩

theorem members_laws : members.Laws where
  found := Config.getElem_of_hasMember
  declared := Config.not_undeclared
  others := Config.membersOf_keepDeclared

end Regraft.Library
