import Regraft.Proofs.Serializable
/-!
# What is bound on the root

The root declares the bindings of its description one after the other, between the declaration of the default namespace
and the one that its schema locations need.  A later declaration replaces an earlier one of its prefix, so a binding can
be lost.  `keeps_bindings_iff` says when all are kept: when none of the two declarations that are made besides the
bindings has the prefix of a binding, and the empty prefix is not all that the instance namespace has.  The first fails
where `xsi` is bound to another namespace and there are schema locations (`clashing_loses_binding`).
-/

namespace Regraft

open Xml (Declaration Tag)

/-! ## 1. Bindings of a tag

A tag binds a prefix to what its last declaration of the prefix says. -/

namespace Xml.Tag

/-- The tag binds a prefix to a URI, by the one declaration that it has of the prefix. -/
def Binds (t : Tag) (p uri : String) : Prop :=
  t.declarations.filter (fun d => d.namespacePrefix = p) = [⟨p, uri⟩]

instance (t : Tag) (p uri : String) : Decidable (t.Binds p uri) :=
  inferInstanceAs (Decidable (_ = _))

theorem Binds.mem {t : Tag} {p uri : String} (h : t.Binds p uri) : ⟨p, uri⟩ ∈ t.declarations := by
  have hmem : (⟨p, uri⟩ : Declaration) ∈ t.declarations.filter fun d => d.namespacePrefix = p := by
    rw [h]
    exact List.mem_singleton_self _
  exact List.mem_of_mem_filter hmem

/-- Of declarations with different prefixes each binds its own. -/
theorem binds_of_mem {t : Tag} (h : t.declarations.Pairwise fun d e => d.namespacePrefix ≠ e.namespacePrefix)
    {p uri : String} (hmem : ⟨p, uri⟩ ∈ t.declarations) : t.Binds p uri := by
  obtain ⟨before, after, heq⟩ := List.append_of_mem hmem
  rw [heq, List.pairwise_append, List.pairwise_cons] at h
  obtain ⟨-, ⟨hafter, -⟩, hbefore⟩ := h
  have hnone : ∀ d ∈ before, d.namespacePrefix ≠ p := fun d hd => hbefore d hd _ List.mem_cons_self
  have hnone' : ∀ d ∈ after, d.namespacePrefix ≠ p := fun d hd => (hafter d hd).symm
  rw [Binds, heq, List.filter_append, List.filter_cons_of_pos (by simp),
    List.filter_eq_nil_iff.mpr (by simpa using hnone), List.filter_eq_nil_iff.mpr (by simpa using hnone'),
    List.nil_append]

end Xml.Tag

/-! ## 2. The root of a run

Three conditions on the description of a root, and three things that its tag may lose.  Each condition is needed for one
of them. -/

namespace Root

variable {r : Root}

/-- No two declarations of the root are of one prefix, and the instance namespace does not have the empty prefix alone
where schema locations need another. -/
structure DeclaresApart (r : Root) : Prop where
  /-- No declared binding has the prefix of the default namespace. -/
  default : r.defaultUri = "" ∨ ∀ b ∈ r.declaredBindings, b.1 ≠ ""
  /-- No declared binding has the prefix that is declared for the schema locations. -/
  schema : r.KeepsPrefixes
  /-- The instance namespace is bound to a prefix for attributes, if it is bound at all. -/
  attributes : r.schemaLocations.isEmpty = true ∨ ∀ b ∈ r.declaredBindings, b.2 = Namespaces.schemaInstanceUri →
    ∃ c ∈ r.declaredBindings, c.1 ≠ "" ∧ c.2 = Namespaces.schemaInstanceUri

theorem defaultDeclaration_eq_nil_iff : r.defaultDeclaration = [] ↔ r.defaultUri = "" := by
  rw [defaultDeclaration]
  split <;> simp_all

theorem mem_declarations_of_declared {b : String × String} (hb : b ∈ r.declaredBindings) :
    ⟨b.1, b.2⟩ ∈ r.declarations :=
  List.mem_append_left _ (List.mem_append_right _ (List.mem_map.mpr ⟨b, hb, rfl⟩))

/-- A declaration of the root with a prefix is a binding or the one that the schema locations need. -/
theorem mem_declarations_inv {d : Declaration} (h : d ∈ r.declarations) (hne : d.namespacePrefix ≠ "") :
    (∃ b ∈ r.declaredBindings, d = ⟨b.1, b.2⟩) ∨ d ∈ r.schemaDeclaration := by
  rcases List.mem_append.mp h with h | h
  · rcases List.mem_append.mp h with h | h
    · exact absurd (prefix_of_mem_defaultDeclaration h) hne
    · obtain ⟨b, hb, rfl⟩ := List.mem_map.mp h
      exact .inl ⟨b, hb, rfl⟩
  · exact .inr h

/-- What is bound to another namespace than the default one is declared. -/
theorem mem_declaredBindings {b : String × String} (hb : b ∈ r.namespaces.bindings)
    (huri : r.defaultUri = "" ∨ b.2 ≠ r.defaultUri) : b ∈ r.declaredBindings := by
  rw [declaredBindings]
  split
  · exact hb
  · rename_i hne
    have hne : r.defaultUri ≠ "" := by simpa using hne
    have hother : b.2 ≠ r.defaultUri := huri.resolve_left hne
    simpa [hb] using hother

/-- Schema locations have the instance namespace declared with a prefix, if no binding of the empty prefix stands in for
one. -/
theorem exists_schemaDeclaration (hlocations : r.schemaLocations.isEmpty = false)
    (h : ∀ b ∈ r.declaredBindings, b.2 = Namespaces.schemaInstanceUri →
      ∃ c ∈ r.declaredBindings, c.1 ≠ "" ∧ c.2 = Namespaces.schemaInstanceUri) :
    ∃ p ≠ "", ⟨p, Namespaces.schemaInstanceUri⟩ ∈ r.declarations := by
  by_cases hbound : ∃ b ∈ r.declaredBindings, b.2 = Namespaces.schemaInstanceUri
  · obtain ⟨b, hb, huri⟩ := hbound
    obtain ⟨c, hc, hne, huri⟩ := h b hb huri
    exact ⟨c.1, hne, huri ▸ mem_declarations_of_declared hc⟩
  · have hany : (r.declaredBindings.any fun b => b.2 == Namespaces.schemaInstanceUri) = false :=
      List.any_eq_false.mpr fun b hb huri => hbound ⟨b, hb, by simpa using huri⟩
    refine ⟨"xsi", by decide, List.mem_append_right _ ?_⟩
    rw [schemaDeclaration, hlocations, hany]
    exact List.mem_singleton_self _

end Root

namespace Run

/-- The root element of a run has everything bound that the description of the root says, each prefix once. -/
structure KeepsBindings (run : Run) : Prop where
  /-- The declarations that are computed have different prefixes. -/
  distinct : run.root.declarations.Pairwise fun d e => d.namespacePrefix ≠ e.namespacePrefix
  /-- All of them are made, so none replaces another. -/
  kept : run.tag.declarations = run.root.declarations
  /-- A prefix is bound to its URI, unless that is the default namespace. -/
  bindings : ∀ b ∈ run.root.namespaces.bindings, run.root.defaultUri = "" ∨ b.2 ≠ run.root.defaultUri →
    run.tag.Binds b.1 b.2
  /-- The default namespace, if there is one, is bound to the empty prefix. -/
  default : run.root.defaultUri ≠ "" → run.tag.Binds "" run.root.defaultUri
  /-- Where there are schema locations, the instance namespace is bound to a prefix. -/
  schema : run.root.schemaLocations.isEmpty = false → ∃ p ≠ "", run.tag.Binds p Namespaces.schemaInstanceUri

theorem start_inv {source : Xml.Document} {sourceRoot : Xml.Address} {namespaces : Namespaces} {vocabulary : Vocabulary}
    {root : Root} {run : Run} (h : Run.start source sourceRoot namespaces vocabulary root = .ok run) :
    run.root = root ∧ root.tag = .ok run.tag := by
  rw [start] at h
  obtain ⟨t, ht, h⟩ := bind_ok.mp h
  cases h
  exact ⟨rfl, ht⟩

/-- **The root keeps every binding exactly if nothing that it declares clashes.**  It is the description alone that
decides: neither the source nor anything else that a run is started with makes a difference. -/
theorem keeps_bindings_iff {source : Xml.Document} {sourceRoot : Xml.Address} {namespaces : Namespaces}
    {vocabulary : Vocabulary} {root : Root} {run : Run}
    (h : Run.start source sourceRoot namespaces vocabulary root = .ok run) :
    run.KeepsBindings ↔ root.DeclaresApart := by
  obtain ⟨rfl, htag⟩ := start_inv h
  constructor
  · intro hkeeps
    obtain ⟨hdefault, hschema⟩ := Root.pairwise_declarations_iff.mp hkeeps.distinct
    refine ⟨hdefault.imp_left Root.defaultDeclaration_eq_nil_iff.mp, hschema, ?_⟩
    cases hlocations : run.root.schemaLocations.isEmpty with
    | true => exact .inl rfl
    | false =>
      refine .inr fun b hb huri => ?_
      obtain ⟨p, hp, hbinds⟩ := hkeeps.schema hlocations
      rcases Root.mem_declarations_inv (hkeeps.kept ▸ hbinds.mem) hp with ⟨c, hc, heq⟩ | hmem
      · obtain ⟨rfl, huri⟩ := Declaration.mk.inj heq
        exact ⟨c, hc, hp, huri.symm⟩
      · -- The declaration for the schema locations is made only if nothing else binds the namespace.
        rw [Root.schemaDeclaration, hlocations, Bool.false_or,
          if_pos (List.any_eq_true.mpr ⟨b, hb, by simpa using huri⟩)] at hmem
        cases hmem
  · intro hapart
    have hdistinct := Root.pairwise_declarations_iff.mpr
      ⟨hapart.default.imp_left Root.defaultDeclaration_eq_nil_iff.mpr, hapart.schema⟩
    have hkept := Root.declarations_of_tag hdistinct htag
    have hbinds : ∀ p uri, ⟨p, uri⟩ ∈ run.root.declarations → run.tag.Binds p uri := fun p uri hmem =>
      Xml.Tag.binds_of_mem (hkept ▸ hdistinct) (hkept ▸ hmem)
    refine ⟨hdistinct, hkept, fun b hb huri => ?_, fun hne => ?_, fun hlocations => ?_⟩
    · exact hbinds _ _ (Root.mem_declarations_of_declared (Root.mem_declaredBindings hb huri))
    · exact hbinds _ _ (Root.default_mem_declarations hne)
    · obtain ⟨p, hp, hmem⟩ := Root.exists_schemaDeclaration hlocations
        (hapart.attributes.resolve_left (by rw [hlocations]; exact Bool.false_ne_true))
      exact ⟨p, hp, hbinds _ _ hmem⟩

end Run

namespace Sample

/-- A root whose default namespace is the instance namespace, to which a prefix is bound as well. -/
def instanceDefault : Root :=
  ⟨"z", some Namespaces.schemaInstanceUri, .ofList [("i", Namespaces.schemaInstanceUri), ("x", "other")],
    .ofList [("u", "loc")]⟩

/-- The run that begins with its root. -/
def instanceRun : Run :=
  ⟨source, [0], .empty, .empty, instanceDefault,
    ⟨⟨Namespaces.schemaInstanceUri, "z"⟩,
      [⟨"", Namespaces.schemaInstanceUri⟩, ⟨"x", "other"⟩, ⟨"xsi", Namespaces.schemaInstanceUri⟩],
      [⟨⟨Namespaces.schemaInstanceUri, "schemaLocation"⟩, "u loc"⟩]⟩, []⟩

end Sample

/-- The prefix bound to the default namespace is left out, and the schema locations get a prefix of their own. -/
theorem instance_default_kept :
    Run.start Sample.source [0] .empty .empty Sample.instanceDefault = .ok Sample.instanceRun ∧
      Sample.instanceRun.KeepsBindings := by
  have hstart : Run.start Sample.source [0] .empty .empty Sample.instanceDefault = .ok Sample.instanceRun := by rfl
  have hbindings : Sample.instanceDefault.declaredBindings = [("x", "other")] := by decide +kernel
  refine ⟨hstart, (Run.keeps_bindings_iff hstart).mpr ⟨.inr ?_, .inr ?_, .inr ?_⟩⟩
  all_goals
    rw [hbindings]
    decide

/-- The declaration for the schema locations replaces a binding of `xsi` to another namespace. -/
theorem clashing_loses_binding :
    ∃ run, Run.start Sample.source [0] .empty .empty Sample.clashing = .ok run ∧
      ("xsi", "other") ∈ run.root.namespaces.bindings ∧ run.root.defaultUri = "" ∧
      run.tag.declarations = [⟨"xsi", Namespaces.schemaInstanceUri⟩] ∧ ¬ run.KeepsBindings := by
  refine ⟨⟨Sample.source, [0], .empty, .empty, Sample.clashing,
    ⟨⟨"other", "z"⟩, [⟨"xsi", Namespaces.schemaInstanceUri⟩],
      [⟨⟨Namespaces.schemaInstanceUri, "schemaLocation"⟩, "u loc"⟩]⟩, []⟩, by rfl, by decide, rfl, rfl,
    fun hkeeps => ?_⟩
  have hbinds := hkeeps.bindings ("xsi", "other") (by decide) (.inl rfl)
  revert hbinds
  decide

end Regraft
