import Regraft.Proofs.Growth
import Regraft.Proofs.RootScope
/-!
# Documents that can be written

What a run builds has names from three places: the description of the root, the waypoints of rules, and
fragments.  If fragments declare nothing themselves, the scope of the root is that of the whole document, and
it declares all names, unless one of three things is the case:

* the declaration that the schema locations need replaces a binding of its prefix (`KeepsPrefixes`),
* a URI has characters that are escaped for fragments but not on the root (`HasPlainUris`), or
* a fragment has an attribute in the default namespace, for which the root declares no prefix
  (`AttributesOutside`).

In each of the three there are documents that cannot be written.
-/

namespace Regraft

open Xml (Node QName Scope)

/-! ## 1. Edits

What an edit can put into a content: elements of names that waypoints resolve to, texts, and what fragments have.  If
these fit into the scope of the root then so does everything afterwards. -/

namespace Edit

/-- The edit leaves only nodes that fit if it finds only such. -/
def KeepsFit (s : Scope) (f : Edit) : Prop := ∀ c, (∀ n ∈ c, n.Fits s) → ∀ n ∈ (f c).content, n.Fits s

variable {s : Scope}

theorem keepsFit_pad {q : QName} (hq : s.DeclaresElement q) (n : Nat) : KeepsFit s (pad q n) := by
  intro c hc
  refine Xml.throughout_appendNodes hc fun m hm => ?_
  rw [(List.mem_replicate.mp hm).2]
  exact .element ⟨rfl, hq, fun a ha => absurd ha List.not_mem_nil⟩ fun n hn => absurd hn List.not_mem_nil

/-- Elements that fit still fit if their content does. -/
theorem keepsFit_eachNamed {q : QName} {fs : List Edit} (hfs : ∀ f ∈ fs, KeepsFit s f) :
    KeepsFit s (eachNamed q fs) := by
  intro c hc
  refine (eachNamed_changes fs c).forall_mem ?_ hc
  rintro - t k k' (rfl | ⟨f, hf, rfl⟩) hk
  · exact hk
  · cases hk with
    | element htag hcontent => exact .element htag (hfs f hf k hcontent)

/-- All ways to combine edits keep it, as long as they make only elements of names that are declared. -/
theorem keepsFit_preserved (s : Scope) : Preserved s.DeclaresElement (KeepsFit s) :=
  preserved_relates (R := fun c c' => (∀ n ∈ c, n.Fits s) → ∀ n ∈ c', n.Fits s) (fun _ hc => hc)
    (fun h h' hc => h' (h hc)) keepsFit_pad keepsFit_eachNamed

theorem keepsFit_place {root : Root} {text : String}
    (hread : ∀ nodes, Fragment.read root text = .ok nodes → ∀ n ∈ nodes, n.Fits s) :
    KeepsFit s (.whole (Fragment.place root text)) :=
  relates_place (R := fun c c' => (∀ n ∈ c, n.Fits s) → ∀ n ∈ c', n.Fits s) (fun _ hc => hc)
    (fun _ nodes hnodes _ hc => Xml.throughout_appendNodes hc (hread nodes hnodes))
    fun _ _ _ hc => Xml.throughout_setLeadingText hc _

end Edit

/-! ## 2. Runs

The same for all calls that a run may receive, whatever comes of them. -/

namespace Run

/-- The nodes are a fragment that a rule of the calls may place: its template makes it of a row of a source node
that its source path leads to. -/
def Places (r : Run) (calls : List Call) (nodes : List Node) : Prop :=
  ∃ rule ∈ calls.flatMap Call.toList, ∃ context text,
    (r.descent rule).Leads rule.source.steps r.sourceRoot context ∧
      (r.descent rule).RendersAt context text ∧ Fragment.read r.root text = .ok nodes

/-- If fragments fit into the scope of the root, so does all that calls leave. -/
theorem fits_after {r : Run} {calls : List Call} (hplaces : ∀ nodes, r.Places calls nodes →
    ∀ n ∈ nodes, n.Fits r.root.scope) (hcontent : ∀ n ∈ r.content, n.Fits r.root.scope) :
    ∀ n ∈ (r.after calls).content, n.Fits r.root.scope := by
  refine content_after_induction (P := fun c => ∀ n ∈ c, n.Fits r.root.scope) (fun rule hrule c hc => ?_) hcontent
  have hkeeps : Edit.KeepsFit r.root.scope ((r.descent rule).follow
      (Route.ofPaths rule.source.steps rule.destination.waypoints) r.sourceRoot) := by
    refine Descent.follow_of_preserved (Edit.keepsFit_preserved _) (fun name q hq => ?_) _ _
      fun context text hleads hrenders => Edit.keepsFit_place fun nodes hnodes =>
        hplaces nodes ⟨rule, hrule, context, text, hleads, hrenders, hnodes⟩
    exact Root.declaresElement_of_elementName (mapError_ok.mp hq)
  exact hkeeps c hc

end Run

/-- **What a run builds can be written**, whatever it is called to do and whatever comes of the calls.  The names
in the document are declared where they stand. -/
theorem document_written {source : Xml.Document} {sourceRoot : Xml.Address} {sourceNamespaces : Namespaces}
    {vocabulary : Vocabulary} {root : Root} {fresh : Run}
    (hstart : Run.start source sourceRoot sourceNamespaces vocabulary root = .ok fresh)
    (hprefixes : root.NamesPrefixes) (huris : root.HasPlainUris) (hkeeps : root.KeepsPrefixes)
    (calls : List Call)
    (hnothing : ∀ nodes, fresh.Places calls nodes → ∀ n ∈ nodes, n.DeclaresNothing)
    (houtside : ∀ nodes, fresh.Places calls nodes → ∀ n ∈ nodes, n.AttributesOutside root.defaultUri) :
    (∀ n ∈ (fresh.after calls).document.content, n.Declared Scope.written) ∧
      ∀ style, ∃ text, (fresh.after calls).write style = .ok text := by
  obtain ⟨t, htag, hfresh⟩ := bind_ok.mp hstart
  cases hfresh
  obtain ⟨-, hdeclarations, -⟩ := Root.tag_inv hprefixes hkeeps htag
  have hscope : Scope.written.extend t.declarations = root.scope := by rw [hdeclarations, Root.scope]
  -- Whatever is placed has been read in the wrapper, and the root declares all that the wrapper does.
  have hplaces : ∀ nodes, Run.Places ⟨source, sourceRoot, sourceNamespaces, vocabulary, root, t, []⟩ calls nodes →
      ∀ n ∈ nodes, n.Fits root.scope := by
    intro nodes hnodes
    obtain ⟨rule, -, context, text, -, -, hread⟩ := id hnodes
    obtain ⟨content, rfl, hresolved⟩ := Fragment.resolved_of_read hprefixes huris hread
    intro n hn
    have hn' := Fragment.throughout_strip hresolved n hn
    exact Xml.Node.Resolved.fits (fun p q hp => (Root.declares_of_resolve hprefixes hp).1)
      (fun p q hp hresolve hne => (Root.declares_of_resolve hprefixes hresolve).2 hp hne) hn'
      (hnothing _ hnodes n hn) (houtside _ hnodes n hn)
  have hfits := Run.fits_after hplaces fun n hn => absurd hn List.not_mem_nil
  have hdeclared : ∀ n ∈ (Run.after ⟨source, sourceRoot, sourceNamespaces, vocabulary, root, t, []⟩
      calls).document.content, n.Declared Scope.written := by
    intro n hn
    obtain rfl := List.mem_singleton.mp hn
    rw [Run.after_eq_withContent]
    refine .element ?_ fun m hm => ?_
    · dsimp only [Run.withContent]
      rw [hscope]
      exact Root.declares_tag hprefixes hkeeps htag
    · dsimp only [Run.withContent]
      rw [hscope]
      exact (hfits m hm).declared
  exact ⟨hdeclared, fun style => (Xml.exists_write_iff style _).mpr hdeclared⟩

/-! ## 3. A described root -/

namespace Sample

/-- A root `z` in the default namespace `D`, for which there is a prefix as well, with a second namespace `Y` and
the location of a schema. -/
def described : Root := ⟨"z", some "D", .ofList [("x", "D"), ("y", "Y")], .ofList [("D", "d.xsd")]⟩

/-- What a run starts with on that root. -/
def describedRun : Run :=
  ⟨source, [0], .empty, .empty, described,
    ⟨⟨"D", "z"⟩, [⟨"", "D"⟩, ⟨"y", "Y"⟩, ⟨"xsi", Namespaces.schemaInstanceUri⟩],
      [⟨⟨Namespaces.schemaInstanceUri, "schemaLocation"⟩, "D d.xsd"⟩]⟩, []⟩

/-- From `b` to `y:p`: an element with a prefixed attribute for the text of each `c`. -/
def decorating : Rule :=
  { rule [⟨some "y", "p"⟩] [⟨none, "b"⟩] with
    values := [⟨"c", steps [⟨none, "c"⟩]⟩], template := .parse "<q y:k=\"%s\"/>", fits := rfl }

/-- The rule places nothing but these fragments. -/
theorem places_decorating {nodes : List Node} (h : describedRun.Places [.rule decorating] nodes) :
    ∃ text ∈ ["<q y:k=\"x\"/>", "<q y:k=\"y\"/>", "<q y:k=\"z\"/>"],
      Fragment.read described text = .ok nodes := by
  obtain ⟨rule, hrule, context, text, hleads, ⟨rows, row, hrows, hrow, htext⟩, hread⟩ := h
  obtain rfl := List.mem_singleton.mp hrule
  have hsources : (describedRun.descent decorating).sources ⟨"b", .element ⟨none, "b"⟩, []⟩ [0] =
      .ok [[0, 0], [0, 1]] := by rfl
  have hfirst : (describedRun.descent decorating).rows [0, 0] = .ok [["x"], ["y"]] := by rfl
  have hsecond : (describedRun.descent decorating).rows [0, 1] = .ok [["z"]] := by rfl
  have hrender (value : String) (hvalue : value ∈ ["x", "y", "z"])
      (hrow : row = [value]) : text ∈ ["<q y:k=\"x\"/>", "<q y:k=\"y\"/>", "<q y:k=\"z\"/>"] := by
    have hx : (describedRun.descent decorating).renderRow ["x"] = .ok (some "<q y:k=\"x\"/>") := by rfl
    have hy : (describedRun.descent decorating).renderRow ["y"] = .ok (some "<q y:k=\"y\"/>") := by rfl
    have hz : (describedRun.descent decorating).renderRow ["z"] = .ok (some "<q y:k=\"z\"/>") := by rfl
    rw [hrow] at htext
    simp only [List.mem_cons, List.not_mem_nil, or_false] at hvalue
    rcases hvalue with rfl | rfl | rfl
    · cases hx.symm.trans htext
      simp
    · cases hy.symm.trans htext
      simp
    · cases hz.symm.trans htext
      simp
  refine ⟨text, ?_, hread⟩
  obtain ⟨m, hm, hrest⟩ := hleads.cons_inv hsources
  obtain rfl := hrest.nil_inv
  simp only [List.mem_cons, List.not_mem_nil, or_false] at hm
  rcases hm with rfl | rfl
  · cases hfirst.symm.trans hrows
    simp only [List.mem_cons, List.not_mem_nil, or_false] at hrow
    rcases hrow with hrow | hrow
    · exact hrender "x" (by simp) hrow
    · exact hrender "y" (by simp) hrow
  · cases hsecond.symm.trans hrows
    exact hrender "z" (by simp) (List.mem_singleton.mp hrow)

end Sample

/-- What is read of the texts is checked text by text. -/
theorem forall_read {root : Root} {texts : List String} {P : Node → Prop}
    (h : ∀ n ∈ texts.flatMap fun text => ((Fragment.read root text).toOption.getD []), P n) {text : String}
    (htext : text ∈ texts) {nodes : List Node} (hread : Fragment.read root text = .ok nodes) : ∀ n ∈ nodes, P n := by
  intro n hn
  refine h n (List.mem_flatMap.mpr ⟨text, htext, ?_⟩)
  rw [hread]
  exact hn

/-- The rule with a prefixed attribute leaves a document that can be written. -/
theorem decorated_written :
    (∀ n ∈ (Sample.describedRun.after [.rule Sample.decorating]).document.content, n.Declared Scope.written) ∧
      ∀ style, ∃ text, (Sample.describedRun.after [.rule Sample.decorating]).write style = .ok text := by
  have hstart : Run.start Sample.source [0] .empty .empty Sample.described = .ok Sample.describedRun := by rfl
  have hprefixes : Sample.described.NamesPrefixes := by unfold Root.NamesPrefixes; decide +kernel
  have huris : Sample.described.HasPlainUris := by unfold Root.HasPlainUris; decide +kernel
  have hkeeps : Sample.described.KeepsPrefixes := by unfold Root.KeepsPrefixes; decide +kernel
  refine document_written hstart hprefixes huris hkeeps [.rule Sample.decorating] (fun nodes hnodes => ?_)
    fun nodes hnodes => ?_
  · obtain ⟨text, htext, hread⟩ := Sample.places_decorating hnodes
    exact forall_read (by decide +kernel) htext hread
  · obtain ⟨text, htext, hread⟩ := Sample.places_decorating hnodes
    exact forall_read (by decide +kernel) htext hread

/-! The other three conditions cannot be left out. -/

namespace Sample

/-- A root whose schema location needs the prefix that is bound to another namespace. -/
def clashing : Root := ⟨"xsi:z", none, .ofList [("xsi", "other")], .ofList [("u", "loc")]⟩

end Sample

/-- The root alone cannot be written when the declaration for its schema locations replaces a binding. -/
theorem clashing_not_written :
    Sample.clashing.NamesPrefixes ∧ (∀ b ∈ Sample.clashing.namespaces.bindings, b.2 ≠ "") ∧
      ∃ fresh, Run.start Sample.source [0] .empty .empty Sample.clashing = .ok fresh ∧
        ∀ style, ¬ ∃ text, (fresh.after []).write style = .ok text := by
  have hprefixes : Sample.clashing.NamesPrefixes := by unfold Root.NamesPrefixes; decide +kernel
  refine ⟨hprefixes, by decide, ⟨Sample.source, [0], .empty, .empty, Sample.clashing,
    ⟨⟨"other", "z"⟩, [⟨"xsi", Namespaces.schemaInstanceUri⟩],
      [⟨⟨Namespaces.schemaInstanceUri, "schemaLocation"⟩, "u loc"⟩]⟩, []⟩, by rfl, fun style => ?_⟩
  rw [Run.write, Xml.exists_write_iff]
  decide

/-- Nor can an attribute in the default namespace be written, although fragments may have one. -/
example :
    ((Sample.describedRun.apply { Sample.decorating with template := .parse "<q x:k=\"%s\"/>" }).1.write
      .compact).toOption = none := by decide +kernel

/-- Nor an element whose namespace is escaped for fragments and not on the root. -/
example :
    ((Run.start Sample.source [0] .empty .empty ⟨"z", some "D&E", .empty, .empty⟩).toOption.map fun r =>
      ((r.apply { Sample.merging with template := .parse "<q>%s</q>" }).1.write .compact).toOption) =
        some none := by decide +kernel

/-! ## Summary

**What is established.**  Under the named conditions every name in the document is declared where it stands, so that
writing the document always succeeds.

**What is not.**  Each condition excludes documents that a run does build and that cannot be written, or not with the
names that were meant.  They are the places where the root declares less, or something else, than fragments and paths
may use. -/

end Regraft
