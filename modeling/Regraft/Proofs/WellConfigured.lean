import Regraft.Proofs.Preservation
import Regraft.Proofs.Rendering
import Regraft.Proofs.Serializable
import Regraft.Proofs.UsedPrefixes
/-!
# Rules that cannot fail

Whether a text rule can fail shows in the rule and in the prefixes alone (`Rule.WellConfigured`).  The errors that
can stop a descent are those of its parts (`Edit.StopsOnly`, `Descent.compositional_stopsOnly`), and for such a rule
no part has any:

* all queries have results, because all prefixes are bound (`exists_select_of_binds`);
* all elements can be made, because there is no waypoint `.` and all prefixes are bound;
* all rows are as wide as the rule has value paths (`length_of_mem_rowsOf`), and so are they once they are
  normalized, so that they fill the template (`exists_renderRow`);
* what has no bracket in it is not read as markup (`Fragment.place_of_no_bracket`).
-/

namespace Regraft

open Xml (Address)

/-! ## 1. Errors that stop an edit

Which errors an edit can stop with, read off the way it is made of others.  For a descent that leaves queries,
waypoints, rows and what is placed. -/

namespace Edit

/-- The edit is stopped by no errors but those of `E`. -/
def StopsOnly (E : Error → Prop) (f : Edit) : Prop := ∀ c e, (f c).fault = some e → E e

variable {E : Error → Prop}

theorem StopsOnly.andThen {f g : Edit} (hf : StopsOnly E f) (hg : StopsOnly E g) : StopsOnly E (f.andThen g) := by
  intro c e h
  match hc : f c with
  | ⟨c', none⟩ =>
    rw [andThen_of_done hc] at h
    exact hg c' e h
  | ⟨c', some e'⟩ =>
    rw [andThen_of_fault hc] at h
    exact hf c e (by rw [hc]; exact h)

theorem stopsOnly_pad (q : Xml.QName) (n : Nat) : StopsOnly E (pad q n) := nofun

/-- Edits of elements stop only where one of them stops. -/
theorem stopsOnly_eachNamed {q : Xml.QName} {fs : List Edit} (hfs : ∀ f ∈ fs, StopsOnly E f) :
    StopsOnly E (eachNamed q fs) := by
  intro c
  induction c using named_induction q generalizing fs with
  | nil =>
    rw [eachNamed_of_nil]
    exact nofun
  | named tag k c hq ih =>
    match fs with
    | [] =>
      rw [eachNamed_nil]
      exact nofun
    | f :: fs =>
      obtain ⟨hf, hrest⟩ := List.forall_mem_cons.mp hfs
      intro e h
      match hk : f k with
      | ⟨k', none⟩ =>
        rw [eachNamed_named_done hq hk] at h
        exact ih hrest e h
      | ⟨k', some e'⟩ =>
        rw [eachNamed_named_fault hq hk] at h
        exact hf k e (by rw [hk]; exact h)
  | other n c hn ih =>
    rw [eachNamed_other hn]
    exact ih hfs

theorem stopsOnly_whole {change : List Xml.Node → Except Error (List Xml.Node)}
    (h : ∀ c e, change c = .error e → E e) : StopsOnly E (.whole change) := by
  intro c e hfault
  unfold whole at hfault
  split at hfault
  · cases hfault
  · rename_i e' hc
    cases hfault
    exact h c e hc

end Edit

/-- A descent stops only with errors that its parts stop with. -/
theorem Descent.compositional_stopsOnly (d : Descent) (E : Error → Prop) :
    d.Compositional E fun _ f => Edit.StopsOnly E f where
  done := fun _ _ _ h => nomatch h
  fail := fun _ _ he _ _ h => Option.some.inj h ▸ he
  andThen := Edit.StopsOnly.andThen
  here := id
  pairing := fun _ hfs => (Edit.stopsOnly_pad _ _).andThen (Edit.stopsOnly_eachNamed hfs)
  allNamed := fun _ hf => (Edit.stopsOnly_pad _ _).andThen fun c =>
    Edit.stopsOnly_eachNamed (fun _ hg => (List.mem_replicate.mp hg).2 ▸ hf) c

/-! ## 2. The width of rows

Rows get their width when they are extracted, and normalization keeps it. -/

/-- A row has one member of each column. -/
theorem length_of_mem_rowsOf {α : Type} {columns : List (List α)} {row : List α} (h : row ∈ rowsOf columns) :
    row.length = columns.length := by
  obtain ⟨i, hi, rfl⟩ := List.mem_map.mp h
  have hlong : ∀ column ∈ columns, i < column.length := by
    intro column hcolumn
    cases hmin : (columns.map List.length).min? with
    | none => simp [hmin] at hi
    | some least =>
      have hleast : least ≤ column.length :=
        (List.min?_eq_some_iff.mp hmin).2 _ (List.mem_map_of_mem hcolumn)
      rw [hmin, Option.getD_some, List.mem_range] at hi
      omega
  clear h hi
  induction columns with
  | nil => rfl
  | cons column columns ih =>
    obtain ⟨hcolumn, hcolumns⟩ := List.forall_mem_cons.mp hlong
    rw [List.filterMap_cons, List.getElem?_eq_getElem hcolumn]
    simp only [List.length_cons, ih hcolumns]

/-- The value is reshaped by a function, which always has a result. -/
def ValueNormalizer.isFunction : ValueNormalizer → Bool
  | function _ => true
  | rules _ => false

namespace Normalization

/-- Rows are passed through, or each of their values is reshaped by a function. -/
def byFunctions : Normalization → Bool
  | passThrough => true
  | wholeRow _ => false
  | perValue normalizers => normalizers.all ValueNormalizer.isFunction

theorem exists_applyEach {row : List String} {normalizers : List ValueNormalizer}
    (hfunctions : normalizers.all ValueNormalizer.isFunction = true) (hlen : normalizers.length = row.length) :
    ∃ normalized, applyEach row normalizers = .ok normalized ∧ normalized.length = row.length := by
  induction row generalizing normalizers with
  | nil =>
    rw [List.eq_nil_of_length_eq_zero hlen]
    exact ⟨[], rfl, rfl⟩
  | cons value row ih =>
    cases normalizers with
    | nil => cases hlen
    | cons n normalizers =>
      simp only [List.all_cons, Bool.and_eq_true] at hfunctions
      obtain ⟨hfunction, hrest⟩ := hfunctions
      obtain ⟨more, hmore, hlength⟩ := ih hrest (Nat.succ.inj hlen)
      cases n with
      | rules n => cases hfunction
      | function f => exact ⟨f value :: more, by rw [applyEach, hmore]; rfl, by simp [hlength]⟩

/-- What is made for rows of a width, by functions, reshapes every such row to one of the same width. -/
theorem exists_apply {n : Normalization} {row : List String} (hfunctions : n.byFunctions = true)
    (hfits : n.fits row.length = true) :
    ∃ normalized, n.apply row = .ok normalized ∧ normalized.length = row.length := by
  cases n with
  | passThrough => exact ⟨row.map some, rfl, List.length_map _⟩
  | wholeRow f => cases hfunctions
  | perValue normalizers => exact exists_applyEach hfunctions (beq_iff_eq.mp hfits)

end Normalization

theorem length_of_mapM_some {α : Type} {options : List (Option α)} {values : List α}
    (h : options.mapM id = some values) : values.length = options.length := by
  induction options generalizing values with
  | nil =>
    cases h
    rfl
  | cons value? options ih =>
    rw [List.mapM_cons] at h
    obtain ⟨value, -, h⟩ := Option.bind_eq_some_iff.mp h
    obtain ⟨more, hmore, h⟩ := Option.bind_eq_some_iff.mp h
    cases h
    rw [List.length_cons, List.length_cons, ih hmore]

theorem exists_mapM_ok {ε α β : Type} {f : α → Except ε β} {as : List α} (h : ∀ a ∈ as, ∃ b, f a = .ok b) :
    ∃ bs, as.mapM f = .ok bs ∧ bs.length = as.length := by
  induction as with
  | nil => exact ⟨[], rfl, rfl⟩
  | cons a as ih =>
    obtain ⟨⟨b, hb⟩, hrest⟩ := List.forall_mem_cons.mp h
    obtain ⟨bs, hbs, hlength⟩ := ih hrest
    exact ⟨b :: bs, mapM_cons_ok.mpr ⟨b, bs, hb, hbs, rfl⟩, by simp [hlength]⟩

/-! ## 3. Rules

The check is decidable and looks at the rule and at two registries.  It does not look at the source or at the document.
-/

/-- The prefix of the name is bound, if it has one. -/
def Namespaces.BindsName (ns : Namespaces) (n : Name) : Prop :=
  ∀ used ∈ n.namespacePrefix, (ns.resolve used).isSome = true

instance (ns : Namespaces) (n : Name) : Decidable (ns.BindsName n) := by
  unfold Namespaces.BindsName
  infer_instance

/-- What shows of a text rule that it cannot fail: its destination consists of element names, its template has no
bracket and a slot for each value, it normalizes by functions if at all, and every prefix in its paths is bound. -/
structure Rule.WellConfigured (rule : Rule) (sourceNamespaces : Namespaces) (root : Root) : Prop where
  destination : ∀ w ∈ rule.destination.waypoints, ∃ name, w = .child name ∧ root.namespaces.BindsName name
  template : ∃ text, rule.template = .parse text ∧ '<' ∉ text.toList
  slots : rule.template.slots = rule.values.length
  normalization : rule.normalization.byFunctions = true
  source : sourceNamespaces.Binds rule.source
  values : ∀ p ∈ rule.values, sourceNamespaces.Binds p

namespace Descent

variable {d : Descent}

theorem exists_resolve {name : Name} (h : d.root.namespaces.BindsName name) : ∃ q, d.resolve name = .ok q := by
  obtain ⟨namespacePrefix, localPart⟩ := name
  cases namespacePrefix with
  | none => exact ⟨⟨d.root.defaultUri, localPart⟩, rfl⟩
  | some p =>
    have hbound := h p rfl
    cases huri : d.root.namespaces.resolve p with
    | none => rw [huri] at hbound; cases hbound
    | some uri =>
      have hname : d.root.resolver.elementName ⟨some p, localPart⟩ = .ok ⟨uri, localPart⟩ := by
        simp [Resolver.elementName, Resolver.prefixed, Root.resolver, huri]
      exact ⟨⟨uri, localPart⟩, by rw [resolve, hname]; rfl⟩

variable (h : d.rule.WellConfigured d.sourceNamespaces d.root)

include h

theorem raisesOnly_of_wellConfigured :
    d.RaisesOnly (fun _ => False) d.rule.source.steps d.rule.destination.waypoints where
  sources s hs context e herror := by
    have hbinds : d.sourceNames.namespaces.Binds d.rule.source := h.source
    obtain ⟨found, hfound⟩ := exists_selectNodes_of_binds (d := d.source) hbinds hs context
    cases hfound.symm.trans herror
  names name hname e herror := by
    obtain ⟨name', hchild, hbound⟩ := h.destination _ hname
    cases hchild
    obtain ⟨q, hq⟩ := exists_resolve hbound
    cases hq.symm.trans herror
  uncreatable hhere := by
    obtain ⟨name, hchild, -⟩ := h.destination _ hhere
    cases hchild

theorem exists_rows (context : Address) :
    ∃ rows, d.rows context = .ok rows ∧ ∀ row ∈ rows, row.length = d.rule.values.length := by
  have hselect : ∀ p ∈ d.rule.values, ∃ items, d.source.select d.sourceNames context p = .ok items :=
    fun p hp => exists_select_of_binds (h.values p hp) context
  obtain ⟨columns, hcolumns, hlength⟩ := exists_mapM_ok hselect
  refine ⟨_, by rw [rows, Descent.columns, hcolumns]; rfl, fun row hrow => ?_⟩
  obtain ⟨items, hitems, rfl⟩ := List.mem_map.mp hrow
  rw [List.length_map, length_of_mem_rowsOf hitems, hlength]

/-- A row as wide as the rule has values fills the template, unless it is filtered out. -/
theorem exists_renderRow {row : List String} (hrow : row.length = d.rule.values.length) :
    ∃ rendered?, d.renderRow row = .ok rendered? := by
  have hfits : d.rule.normalization.fits row.length = true := by
    rw [hrow]
    exact d.rule.fits
  obtain ⟨normalized, hnormalized, hlength⟩ := Normalization.exists_apply h.normalization hfits
  cases hvalues : normalized.mapM id with
  | none => exact ⟨none, by simp [renderRow, bind, Except.bind, hnormalized, hvalues, pure, Except.pure]⟩
  | some values =>
    have hslots : (values.map Text.escape).length = d.rule.template.slots := by
      rw [List.length_map, length_of_mapM_some hvalues, hlength, hrow, h.slots]
    rw [renderRow_of_values hnormalized hvalues, Template.render, if_pos hslots]
    exact ⟨_, rfl⟩

theorem stopsOnly_render (context : Address) : Edit.StopsOnly (fun _ => False) (d.render context) := by
  obtain ⟨text, htemplate, htext⟩ := h.template
  obtain ⟨rows, hrows, hwidth⟩ := exists_rows h context
  refine render_of_compositional (d.compositional_stopsOnly _) [] ?_ ?_ ?_
  · intro e herror
    cases hrows.symm.trans herror
  · intro rows' row hrows' hrow e herror
    cases hrows.symm.trans hrows'
    obtain ⟨rendered?, hrendered⟩ := exists_renderRow h (hwidth row hrow)
    cases hrendered.symm.trans herror
  · rintro rendered ⟨-, row, -, -, hrendered⟩
    refine Edit.stopsOnly_whole fun c e herror => ?_
    rcases Fragment.place_of_no_bracket d.root (not_mem_of_renderRow htemplate htext hrendered) with
      hplace | ⟨value, -, hplace⟩
    · rw [hplace] at herror
      cases herror
    · rw [hplace] at herror
      cases herror

end Descent

/-- **A well-configured text rule succeeds**, whatever the source, the vocabulary and the document built so far
are. -/
theorem apply_succeeds (r : Run) {rule : Rule} (h : rule.WellConfigured r.sourceNamespaces r.root) :
    (r.apply rule).2 = none := by
  have hfollow : Edit.StopsOnly (fun _ => False) ((r.descent rule).follow
      (Route.ofPaths rule.source.steps rule.destination.waypoints) r.sourceRoot) :=
    Descent.follow_of_compositional ((r.descent rule).compositional_stopsOnly _) _ _
      (Descent.raisesOnly_of_wellConfigured h) fun m _ => Descent.stopsOnly_render h m
  cases hfault : (r.apply rule).2 with
  | none => rfl
  | some e =>
    obtain ⟨e', he', -⟩ := Option.map_eq_some_iff.mp hfault
    exact (hfollow r.content e' he').elim

namespace Sample

/-- A run with the source `<a><b><c>x</c><c>y</c></b><b><c>z</c></b><d xmlns="S">u</d></a>`. -/
def foreignRun : Run :=
  { describedRun with
    source := ⟨[element "a" [
      element "b" [element "c" [.text "x"], element "c" [.text "y"]],
      element "b" [element "c" [.text "z"]],
      .element (.plain ⟨"S", "d"⟩) [.text "u"]]]⟩
    sourceNamespaces := .ofList [("s", "S")] }

/-- From `b[../s:d]/c` to `y:p/q`: the text of each `c`, unless it is `y`, and that of the `s:d`. -/
def configured : Rule :=
  { rule [⟨some "y", "p"⟩, ⟨none, "q"⟩] [] with
    source := ⟨"b[../s:d]/c",
      ⟨"b[../s:d]", .element ⟨none, "b"⟩, [.exists ⟨"../s:d", ⟨"..", .parent, []⟩ :: steps [⟨some "s", "d"⟩]⟩]⟩ ::
        steps [⟨none, "c"⟩]⟩
    values := [⟨".", [⟨".", .here, []⟩]⟩,
      ⟨"../../s:d", ⟨"..", .parent, []⟩ :: ⟨"..", .parent, []⟩ :: steps [⟨some "s", "d"⟩]⟩]
    template := .parse "%s (%s)"
    normalization := .perValue [.function fun value => if value = "y" then none else some value, .function some]
    fits := rfl }

theorem wellConfigured_configured : configured.WellConfigured (.ofList [("s", "S")]) described where
  destination := by
    intro w hw
    simp only [configured, rule, List.map_cons, List.map_nil, List.mem_cons, List.not_mem_nil, or_false] at hw
    rcases hw with rfl | rfl
    · exact ⟨_, rfl, by decide⟩
    · exact ⟨_, rfl, by decide⟩
  template := ⟨"%s (%s)", rfl, by decide⟩
  slots := by decide
  normalization := rfl
  source := by decide
  values := by decide

end Sample

/-- A rule with prefixes, a predicate, two values and a filter succeeds after another has placed fragments. -/
theorem configured_succeeds :
    Sample.configured.WellConfigured Sample.foreignRun.sourceNamespaces Sample.foreignRun.root ∧
      ((Sample.foreignRun.after [.rule Sample.decorating]).apply Sample.configured).2 = none := by
  refine ⟨Sample.wellConfigured_configured, apply_succeeds _ ?_⟩
  rw [Run.after_eq_withContent]
  exact Sample.wellConfigured_configured

/-- It makes three elements `q` and leaves the second of them empty. -/
example :
    (Sample.foreignRun.apply Sample.configured).1.content =
      [.element (.plain ⟨"Y", "p"⟩)
        [.element (.plain ⟨"D", "q"⟩) [.text "x (u)"], .element (.plain ⟨"D", "q"⟩) []],
        .element (.plain ⟨"Y", "p"⟩) [.element (.plain ⟨"D", "q"⟩) [.text "z (u)"]]] := by rfl

/-! ## Summary

**What is established.**  A text rule that passes the check succeeds in every run, and leaves no error to be handled at
run time.

**What is not.**  The check is sufficient, and it is not necessary: a rule whose source path has an unbound prefix
behind a step that leads nowhere succeeds as well, for that source.  Rules that place fragments are outside it, as what
values make of a fragment is not known beforehand. -/

end Regraft
