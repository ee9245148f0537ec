import Regraft.Proofs.Success
import Regraft.Proofs.Wrapping
/-!
# What the root declares

A node fits into a scope if all its names are declared there and no tag declares anything more.  Such a node
can be written wherever that scope is in force (`Fits.declared`), and what has been read in one scope fits into
another that declares whatever the first resolves (`Resolved.fits`).

The two scopes that matter are that of the element around fragments and that of the root.  The root declares
what its own tag, waypoints and fragments name (`declares_tag`, `declaresElement_of_elementName` and
`declares_of_resolve`), as long as no declaration replaces another, with a prefix for everything but the
default namespace.
-/

namespace Regraft

open Xml (Declaration Node QName Scope Tag)

/-! ## 1. Nodes that fit into a scope

`Fits` is stronger than `Declared`: a node that fits declares nothing itself, so the scope around it is the scope
everywhere in it. -/

namespace Xml.Node

/-- No tag declares anything. -/
abbrev DeclaresNothing : Node → Prop := Throughout (fun u _ => u) (fun _ t => t.declarations = []) ()

/-- No attribute is in the namespace of the URI, unless that is no namespace. -/
abbrev AttributesOutside (uri : String) : Node → Prop :=
  Throughout (fun u _ => u) (fun _ t => ∀ a ∈ t.attributes, a.name.uri = "" ∨ a.name.uri ≠ uri) ()

/-- All names are declared in the scope around the node, and no tag declares anything. -/
abbrev Fits : Scope → Node → Prop :=
  Throughout (fun s _ => s) (fun s t => t.declarations = [] ∧ s.Declares t)

theorem extend_nil (s : Scope) : s.extend [] = s := by
  rw [Scope.extend]
  simp

/-- A scope in which nothing else is declared is the one that names are written in. -/
theorem Fits.declared {s : Scope} {n : Node} (h : n.Fits s) : n.Declared s := by
  induction h with
  | @element s t content h _ ih =>
    obtain ⟨hnothing, hdeclares⟩ := h
    have hscope : s.extend t.declarations = s := by rw [hnothing, extend_nil]
    refine .element ?_ ?_
    · rw [hscope]
      exact hdeclares
    · rw [hscope]
      exact ih
  | text value => exact .text value
  | comment value => exact .comment value
  | instruction target data => exact .instruction target data

/-- What has been read in one scope fits into another that declares whatever the first resolves. -/
theorem Resolved.fits {s s' : Scope} {uri : String} {n : Node}
    (helement : ∀ p q, s.resolve? p = some q.uri → s'.DeclaresElement q)
    (hattribute : ∀ p q, p ≠ "" → s.resolve? p = some q.uri → q.uri ≠ uri → s'.DeclaresAttribute q)
    (h : n.Resolved s) (hnothing : n.DeclaresNothing) (houtside : n.AttributesOutside uri) : n.Fits s' := by
  induction h with
  | @element s t content h _ ih =>
    cases hnothing with
    | element ht hnothing =>
      cases houtside with
      | element hattributes houtside =>
        rw [ht, List.reverse_nil, List.nil_append] at h ih
        obtain ⟨⟨p, hp⟩, hresolves⟩ := h
        refine .element ⟨ht, helement p t.name hp, fun a ha => ?_⟩ fun n hn =>
          ih n hn helement hattribute (hnothing n hn) (houtside n hn)
        rcases hattributes a ha with hempty | hne
        · exact .inl hempty
        · rcases hresolves a ha with hempty | ⟨p, hp, hresolve⟩
          · exact .inl hempty
          · exact hattribute p a.name hp hresolve hne
  | text value => exact .text value
  | comment value => exact .comment value
  | instruction target data => exact .instruction target data

end Xml.Node

/-! ## 2. The declarations on the root

The tag of the root makes its declarations one after the other, and a declaration replaces an earlier one of the same
prefix.  The declarations of bindings have different prefixes, and the one for the schema locations may clash with them
(`KeepsPrefixes`).  Where nothing clashes, the tag declares all of them, and every name that the run can make has a
namespace that is declared there: that of the root, those of waypoints, and those in fragments. -/

namespace Xml

theorem declare_of_new {d : Declaration} {ds : List Declaration}
    (h : ∀ e ∈ ds, e.namespacePrefix ≠ d.namespacePrefix) : declare d ds = ds ++ [d] := by
  induction ds with
  | nil => rfl
  | cons e ds ih =>
    obtain ⟨he, hds⟩ := List.forall_mem_cons.mp h
    rw [declare, if_neg he, ih hds, List.cons_append]

/-- Declarations of different prefixes do not replace one another. -/
theorem foldl_declare {before ds : List Declaration}
    (h : (before ++ ds).Pairwise fun d e => d.namespacePrefix ≠ e.namespacePrefix) :
    ds.foldl (fun ds d => declare d ds) before = before ++ ds := by
  induction ds generalizing before with
  | nil => exact (List.append_nil before).symm
  | cons d ds ih =>
    have hnew : ∀ e ∈ before, e.namespacePrefix ≠ d.namespacePrefix := fun e he =>
      (List.pairwise_append.mp h).2.2 e he d List.mem_cons_self
    have htext : before ++ d :: ds = before ++ [d] ++ ds := by simp
    rw [htext] at h ⊢
    rw [List.foldl_cons, declare_of_new hnew]
    exact ih h

/-- A prefix stands for what one of the declarations says, or for what it stands for outside if none says
anything. -/
theorem resolve_append {ds : List Declaration} {s : Scope} {p uri : String}
    (h : Scope.resolve? (ds.reverse ++ s) p = some uri) :
    ⟨p, uri⟩ ∈ ds ∨ (∀ d ∈ ds, d.namespacePrefix ≠ p) ∧ s.resolve? p = some uri := by
  rw [Scope.resolve?, List.find?_append, Option.map_eq_some_iff] at h
  obtain ⟨d, hd, rfl⟩ := h
  cases hfind : ds.reverse.find? fun d => d.namespacePrefix == p with
  | some e =>
    rw [hfind, Option.some_or] at hd
    cases hd
    have hp : d.namespacePrefix = p := by simpa using List.find?_some hfind
    left
    rw [← hp]
    exact List.mem_reverse.mp (List.mem_of_find?_eq_some hfind)
  | none =>
    rw [hfind, Option.none_or] at hd
    refine .inr ⟨fun d hd hp => ?_, by rw [Scope.resolve?, hd]; rfl⟩
    exact List.find?_eq_none.mp hfind d (List.mem_reverse.mpr hd) (by simp [hp])

end Xml

namespace Root

variable {r : Root}

/-- The declaration that the schema locations need does not replace a binding. -/
def KeepsPrefixes (r : Root) : Prop := r.schemaDeclaration = [] ∨ ∀ b ∈ r.declaredBindings, b.1 ≠ "xsi"

/-- The scope inside the root. -/
def scope (r : Root) : Scope := Scope.written.extend r.declarations

/-- What the root declares is in force inside it. -/
theorem mem_scope {d : Declaration} (h : d ∈ r.declarations) : d ∈ r.scope :=
  List.mem_append_left _ (List.mem_reverse.mpr h)

theorem declaredBindings_sublist (r : Root) : r.declaredBindings.Sublist r.namespaces.bindings := by
  rw [declaredBindings]
  split
  · exact List.Sublist.refl _
  · exact List.filter_sublist

theorem ne_empty_of_isName {p : String} (h : Xml.isName p = true) : p ≠ "" := by
  rintro rfl
  cases h

theorem prefix_of_mem_defaultDeclaration {d : Declaration} (h : d ∈ r.defaultDeclaration) :
    d.namespacePrefix = "" := by
  rw [defaultDeclaration] at h
  split at h
  · cases h
  · rw [List.mem_singleton.mp h]

theorem prefix_of_mem_schemaDeclaration {d : Declaration} (h : d ∈ r.schemaDeclaration) :
    d.namespacePrefix = "xsi" := by
  rw [schemaDeclaration] at h
  split at h
  · cases h
  · rw [List.mem_singleton.mp h]

/-- The bindings have different prefixes, so only the declarations that the root makes besides them can clash with
one. -/
theorem pairwise_declarations_iff :
    (r.declarations.Pairwise fun d e => d.namespacePrefix ≠ e.namespacePrefix) ↔
      (r.defaultDeclaration = [] ∨ ∀ b ∈ r.declaredBindings, b.1 ≠ "") ∧ r.KeepsPrefixes := by
  have hbindings : (r.declaredBindings.map fun b => (⟨b.1, b.2⟩ : Declaration)).Pairwise
      fun d e => d.namespacePrefix ≠ e.namespacePrefix := by
    have hascending : r.declaredBindings.Pairwise (·.1 < ·.1) :=
      r.namespaces.table.ascending.sublist r.declaredBindings_sublist
    rw [List.pairwise_map]
    refine hascending.imp fun {b c} hlt heq => ?_
    have heq : b.1 = c.1 := heq
    rw [heq] at hlt
    exact String.lt_irrefl _ hlt
  have hdefault : r.defaultDeclaration.Pairwise fun d e => d.namespacePrefix ≠ e.namespacePrefix := by
    rw [defaultDeclaration]
    split
    · exact .nil
    · exact List.pairwise_singleton _ _
  have hschema : r.schemaDeclaration.Pairwise fun d e => d.namespacePrefix ≠ e.namespacePrefix := by
    rw [schemaDeclaration]
    split
    · exact .nil
    · exact List.pairwise_singleton _ _
  -- Each of the three parts is free of clashes, so what is left is between two of them; and the first and the last
  -- have different prefixes anyway.
  rw [declarations, List.pairwise_append, List.pairwise_append]
  constructor
  · rintro ⟨⟨-, -, hempty⟩, -, hxsi⟩
    refine ⟨or_iff_not_imp_left.mpr fun hne b hb h => ?_, or_iff_not_imp_left.mpr fun hne b hb h => ?_⟩
    · obtain ⟨d, hd⟩ := List.exists_mem_of_ne_nil _ hne
      exact hempty d hd _ (List.mem_map.mpr ⟨b, hb, rfl⟩) ((prefix_of_mem_defaultDeclaration hd).trans h.symm)
    · obtain ⟨d, hd⟩ := List.exists_mem_of_ne_nil _ hne
      exact hxsi _ (List.mem_append_right _ (List.mem_map.mpr ⟨b, hb, rfl⟩)) d hd
        (h.trans (prefix_of_mem_schemaDeclaration hd).symm)
  · rintro ⟨hempty, hkeeps⟩
    refine ⟨⟨hdefault, hbindings, fun d hd e he => ?_⟩, hschema, fun d hd e he => ?_⟩
    · obtain ⟨b, hb, rfl⟩ := List.mem_map.mp he
      rw [prefix_of_mem_defaultDeclaration hd]
      rcases hempty with hnone | hempty
      · rw [hnone] at hd
        cases hd
      · exact (hempty b hb).symm
    · rw [prefix_of_mem_schemaDeclaration he]
      rcases List.mem_append.mp hd with hd | hd
      · rw [prefix_of_mem_defaultDeclaration hd]
        decide
      · obtain ⟨b, hb, rfl⟩ := List.mem_map.mp hd
        rcases hkeeps with hnone | hkeeps
        · rw [hnone] at he
          cases he
        · exact hkeeps b hb

theorem pairwise_declarations (hprefixes : r.NamesPrefixes) (hkeeps : r.KeepsPrefixes) :
    r.declarations.Pairwise fun d e => d.namespacePrefix ≠ e.namespacePrefix :=
  pairwise_declarations_iff.mpr
    ⟨.inr fun b hb => ne_empty_of_isName (hprefixes b (r.declaredBindings_sublist.subset hb)), hkeeps⟩

/-- The tag of the root makes all declarations, if none replaces another. -/
theorem declarations_of_tag (hdistinct : r.declarations.Pairwise fun d e => d.namespacePrefix ≠ e.namespacePrefix)
    {t : Tag} (h : r.tag = .ok t) : t.declarations = r.declarations := by
  rw [tag] at h
  obtain ⟨q, -, h⟩ := bind_ok.mp h
  cases h
  exact Xml.foldl_declare ((List.nil_append _).symm ▸ hdistinct)

/-- What the tag of the root consists of. -/
theorem tag_inv (hprefixes : r.NamesPrefixes) (hkeeps : r.KeepsPrefixes) {t : Tag} (h : r.tag = .ok t) :
    r.qname = .ok t.name ∧ t.declarations = r.declarations ∧ t.attributes = r.schemaAttribute := by
  have hdeclarations := declarations_of_tag (pairwise_declarations hprefixes hkeeps) h
  rw [tag] at h
  obtain ⟨q, hq, h⟩ := bind_ok.mp h
  cases h
  exact ⟨hq, hdeclarations, rfl⟩

/-- What is bound is declared, with its own prefix unless it is the default namespace. -/
theorem mem_declarations {b : String × String} (hb : b ∈ r.namespaces.bindings) :
    (r.defaultUri ≠ "" ∧ b.2 = r.defaultUri) ∨ ⟨b.1, b.2⟩ ∈ r.declarations := by
  by_cases hdefault : r.defaultUri = ""
  · have hall : r.declaredBindings = r.namespaces.bindings := by simp [declaredBindings, hdefault]
    right
    rw [declarations, hall]
    exact List.mem_append_left _ (List.mem_append_right _ (List.mem_map.mpr ⟨b, hb, rfl⟩))
  · by_cases huri : b.2 = r.defaultUri
    · exact .inl ⟨hdefault, huri⟩
    · have hmem : b ∈ r.declaredBindings := by simp [declaredBindings, hdefault, hb, huri]
      right
      rw [declarations]
      exact List.mem_append_left _ (List.mem_append_right _ (List.mem_map.mpr ⟨b, hmem, rfl⟩))

theorem default_mem_declarations (h : r.defaultUri ≠ "") : ⟨"", r.defaultUri⟩ ∈ r.declarations := by
  rw [declarations]
  refine List.mem_append_left _ (List.mem_append_left _ ?_)
  simp [defaultDeclaration, h]

theorem declaresElement_default (l : String) : r.scope.DeclaresElement ⟨r.defaultUri, l⟩ := by
  by_cases h : r.defaultUri = ""
  · exact .inl h
  · exact .inr ⟨_, mem_scope (default_mem_declarations h), rfl⟩

/-- An element in a bound namespace can be written inside the root. -/
theorem declaresElement_bound {b : String × String} (hb : b ∈ r.namespaces.bindings) (l : String) :
    r.scope.DeclaresElement ⟨b.2, l⟩ := by
  rcases mem_declarations hb with ⟨-, huri⟩ | hmem
  · rw [huri]
    exact declaresElement_default l
  · exact .inr ⟨_, mem_scope hmem, rfl⟩

/-- What a prefix resolves to is bound to it. -/
theorem mem_bindings_of_resolve {ns : Namespaces} {p uri : String} (h : ns.resolve p = some uri) :
    (p, uri) ∈ ns.bindings := by
  obtain ⟨before, after, hentries, -⟩ := List.lookup_eq_some_iff.mp h
  rw [Namespaces.bindings, hentries]
  exact List.mem_append_right _ List.mem_cons_self

/-- The reserved prefix stands for its namespace unless the root declares it. -/
theorem xml_mem_scope (h : ∀ d ∈ r.wrapperDeclarations, d.namespacePrefix ≠ "xml") :
    ⟨"xml", Namespaces.xmlUri⟩ ∈ r.scope := by
  have hdeclarations : ∀ d ∈ r.declarations, d.namespacePrefix ≠ "xml" := by
    intro d hd
    rcases List.mem_append.mp hd with hd | hd
    · rcases List.mem_append.mp hd with hd | hd
      · exact h d (List.mem_append_left _ hd)
      · obtain ⟨b, hb, rfl⟩ := List.mem_map.mp hd
        exact h _ (List.mem_append_right _
          (List.mem_map.mpr ⟨b, r.declaredBindings_sublist.subset hb, rfl⟩))
    · rw [schemaDeclaration] at hd
      split at hd
      · cases hd
      · obtain rfl := List.mem_singleton.mp hd
        decide
  refine List.mem_append_right _ (List.mem_filter.mpr ⟨List.mem_singleton_self _, ?_⟩)
  simpa using fun d hd => hdeclarations d hd

/-- The namespace of whatever resolves in a fragment is declared on the root, and with a prefix unless it is the
default namespace. -/
theorem declares_of_resolve (hprefixes : r.NamesPrefixes) {p : String} {q : QName}
    (h : Scope.resolve? (r.wrapperDeclarations.reverse ++ Scope.outermost) p = some q.uri) :
    r.scope.DeclaresElement q ∧ (p ≠ "" → q.uri ≠ r.defaultUri → r.scope.DeclaresAttribute q) := by
  rcases Xml.resolve_append h with hmem | ⟨hnew, houter⟩
  · rcases List.mem_append.mp hmem with hmem | hmem
    · rw [defaultDeclaration] at hmem
      split at hmem
      · cases hmem
      · obtain ⟨rfl, huri⟩ := Declaration.mk.inj (List.mem_singleton.mp hmem)
        refine ⟨?_, fun hp => absurd rfl hp⟩
        obtain ⟨uri, l⟩ := q
        obtain rfl : uri = r.defaultUri := huri
        exact declaresElement_default l
    · obtain ⟨b, hb, hd⟩ := List.mem_map.mp hmem
      obtain ⟨rfl, huri⟩ := Declaration.mk.inj hd
      obtain ⟨uri, l⟩ := q
      obtain rfl : b.2 = uri := huri
      refine ⟨declaresElement_bound hb l, fun _ hne => ?_⟩
      rcases mem_declarations hb with ⟨-, huri⟩ | hdeclared
      · exact absurd huri hne
      · exact .inr ⟨_, mem_scope hdeclared, ne_empty_of_isName (hprefixes b hb), rfl⟩
  · -- Outside there are only the reserved prefix and the absence of a default namespace.
    rw [Scope.resolve?, Scope.outermost, List.find?_cons] at houter
    split at houter
    · rename_i hp
      obtain rfl : "xml" = p := by simpa using hp
      obtain huri : Namespaces.xmlUri = q.uri := Option.some.inj houter
      have hmem := xml_mem_scope hnew
      exact ⟨.inr ⟨_, hmem, huri⟩, fun _ _ => .inr ⟨_, hmem, by decide, huri⟩⟩
    · rw [List.find?_cons] at houter
      split at houter
      · have huri : "" = q.uri := Option.some.inj houter
        exact ⟨.inl huri.symm, fun _ _ => .inl huri.symm⟩
      · cases houter

/-- The names in the tag of the root are declared by it. -/
theorem declares_tag (hprefixes : r.NamesPrefixes) (hkeeps : r.KeepsPrefixes) {t : Tag} (h : r.tag = .ok t) :
    r.scope.Declares t := by
  obtain ⟨hname, -, hattributes⟩ := tag_inv hprefixes hkeeps h
  refine ⟨?_, fun a ha => ?_⟩
  · rw [qname] at hname
    split at hname
    · rw [Namespaces.expand] at hname
      obtain ⟨⟨p, l⟩, -, hname⟩ := bind_ok.mp hname
      obtain ⟨uri, huri, hname⟩ := bind_ok.mp hname
      rw [← Except.ok.inj hname]
      rw [Namespaces.require] at huri
      split at huri
      · rename_i hresolve
        cases huri
        exact declaresElement_bound (mem_bindings_of_resolve hresolve) l
      · cases huri
    · rw [← Except.ok.inj hname]
      exact declaresElement_default r.name
  · rw [hattributes, schemaAttribute] at ha
    split at ha
    · cases ha
    · rename_i hlocations
      obtain rfl := List.mem_singleton.mp ha
      by_cases hbound : r.declaredBindings.any fun b => b.2 == Namespaces.schemaInstanceUri
      · obtain ⟨b, hb, huri⟩ := List.any_eq_true.mp hbound
        refine .inr ⟨⟨b.1, b.2⟩, mem_scope ?_, ?_, by simpa using huri⟩
        · rw [declarations]
          exact List.mem_append_left _ (List.mem_append_right _ (List.mem_map.mpr ⟨b, hb, rfl⟩))
        · exact ne_empty_of_isName (hprefixes b (r.declaredBindings_sublist.subset hb))
      · refine .inr ⟨⟨"xsi", Namespaces.schemaInstanceUri⟩, mem_scope ?_, by decide, rfl⟩
        rw [declarations]
        refine List.mem_append_right _ ?_
        simp [schemaDeclaration, hlocations, hbound]

/-- The names of waypoints are declared. -/
theorem declaresElement_of_elementName {name : Name} {q : QName} (h : r.resolver.elementName name = .ok q) :
    r.scope.DeclaresElement q := by
  rw [Resolver.elementName] at h
  split at h
  · rw [Resolver.prefixed] at h
    split at h
    · rename_i hresolve
      rw [← Except.ok.inj h]
      exact declaresElement_bound (mem_bindings_of_resolve hresolve) _
    · cases h
  · rw [← Except.ok.inj h]
    exact declaresElement_default _

end Root

end Regraft
