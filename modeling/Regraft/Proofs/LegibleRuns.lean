import Regraft.Proofs.Chains
import Regraft.Proofs.StrayNames
/-!
# Runs whose documents can be read again

A run makes elements in two ways: on the way to a destination, of the names that the destination spells, and in
fragments.  If the root is legible and all that templates render is, everything that is built is legible but for names
that stray (`Run.built_after`).  So whatever a run writes is read again exactly if no name in it strays, and none does
if the destinations of the rules spell none (`path_names_in_markup`).
-/

namespace Regraft

open Xml (Document Node QName Tag isXmlChar)

/-! ## 1. Texts

Texts that are rendered consist of characters of markup, if values and templates do. -/

/-- What is left after a replacement is of the text or of what has been put in. -/
theorem Text.mem_of_mem_replaceAll {old new s : List Char} {c : Char} (h : c ∈ replaceAll old new s) :
    c ∈ new ∨ c ∈ s := by
  have hafter : ∀ skip, c ∈ replaceAfter old new skip s → c ∈ new ∨ c ∈ s := by
    clear h
    induction s with
    | nil =>
      intro skip h
      cases skip <;> cases h
    | cons d s ih =>
      intro skip h
      cases skip with
      | succ skip => exact (ih skip h).imp_right (List.mem_cons_of_mem d)
      | zero =>
        rw [replaceAfter] at h
        split at h
        · rcases List.mem_append.mp h with h | h
          · exact .inl h
          · exact (ih _ h).imp_right (List.mem_cons_of_mem d)
        · rcases List.mem_cons.mp h with rfl | h
          · exact .inr List.mem_cons_self
          · exact (ih 0 h).imp_right (List.mem_cons_of_mem d)
  exact hafter 0 h

/-- Characters of markup stay such when entities are decoded. -/
theorem Text.all_isXmlChar_unescape {s : String} (h : s.toList.all isXmlChar = true) :
    (unescape s).toList.all isXmlChar = true := by
  have hreplace {old new s : List Char} (hnew : new.all isXmlChar = true) (hs : s.all isXmlChar = true) :
      (replaceAll old new s).all isXmlChar = true := by
    refine List.all_eq_true.mpr fun c hc => ?_
    exact (mem_of_mem_replaceAll hc).elim (List.all_eq_true.mp hnew c) (List.all_eq_true.mp hs c)
  rw [unescape, String.toList_ofList, unescapeChars]
  exact hreplace (by decide) (hreplace (by decide) (hreplace (by decide) h))

/-! ## 2. Contents

A content is legible but for names that stray if its elements are.  Joining texts, making elements and putting nodes
behind others keep that. -/

namespace Xml

variable {P : Tag → Prop} {c nodes : List Node} {n : Node}

theorem legibleWith_appendNode (hc : ∀ m ∈ c, m.LegibleWith P) (hn : n.LegibleWith P) :
    ∀ m ∈ appendNode c n, m.LegibleWith P := by
  induction c, n using appendNode.induct with
  | case1 n => simpa [appendNode] using hn
  | case2 m n =>
    obtain ⟨hm, -⟩ := List.forall_mem_cons.mp hc
    rw [appendNode, joinNodes.eq_def]
    split
    · cases hm with
      | text ha =>
        cases hn with
        | text hb =>
          intro k hk
          rw [List.mem_singleton.mp hk]
          refine .text ?_
          rw [String.toList_append, List.all_append, ha, hb]
          rfl
    · exact List.forall_mem_cons.mpr ⟨hm, by simpa using hn⟩
  | case3 m m' rest n ih =>
    obtain ⟨hm, hrest⟩ := List.forall_mem_cons.mp hc
    rw [appendNode]
    exact List.forall_mem_cons.mpr ⟨hm, ih hrest hn⟩

theorem legibleWith_appendNodes (hc : ∀ n ∈ c, n.LegibleWith P) (hnodes : ∀ n ∈ nodes, n.LegibleWith P) :
    ∀ n ∈ appendNodes c nodes, n.LegibleWith P := by
  induction nodes generalizing c with
  | nil => exact hc
  | cons m nodes ih =>
    obtain ⟨hm, hnodes⟩ := List.forall_mem_cons.mp hnodes
    exact ih (legibleWith_appendNode hc hm) hnodes

theorem legibleWith_setLeadingText {value : String} (hc : ∀ n ∈ c, n.LegibleWith P)
    (hvalue : value.toList.all isXmlChar = true) : ∀ n ∈ setLeadingText value c, n.LegibleWith P := by
  refine forall_mem_setLeadingText hc (.text hvalue) fun other hother => ?_
  cases hother with
  | text h =>
    refine .text ?_
    rw [String.toList_append, List.all_append, hvalue, h]
    rfl

/-- What is legible is built. -/
theorem Node.LegibleWith.mono {Q : Tag → Prop} (hPQ : ∀ t, P t → Q t) (h : n.LegibleWith P) : n.LegibleWith Q := by
  induction h with
  | element htag _ ih => exact .element (hPQ _ htag) ih
  | text h => exact .text h
  | comment h => exact .comment h
  | instruction h => exact .instruction h

/-- No name in a legible node strays. -/
theorem Node.straight_of_legible (h : n.Legible) : n.Straight := by
  induction h with
  | element htag _ ih => exact .element (Path.strays_eq_false_of_isNCName htag.name) ih
  | text _ => exact .text _
  | comment _ => exact .comment _
  | instruction _ => exact .instruction _ _

end Xml

/-! ## 3. Edits

What edits keep, in the usual way: each of them alone, and then those made of others. -/

/-- What placing a text adds to a content has only tags with the property, and is legible otherwise. -/
structure Root.PlacesLegibly (r : Root) (P : Tag → Prop) (text : String) : Prop where
  texts : Fragment.isMarkup text = false → text.toList.all isXmlChar = true
  fragments : Fragment.isMarkup text = true → ∀ nodes, Fragment.read r text = .ok nodes → ∀ n ∈ nodes, n.LegibleWith P

theorem Root.PlacesLegibly.mono {r : Root} {P Q : Tag → Prop} {text : String} (h : r.PlacesLegibly P text)
    (hPQ : ∀ t, P t → Q t) : r.PlacesLegibly Q text where
  texts := h.texts
  fragments := fun hmarkup nodes hnodes n hn => (h.fragments hmarkup nodes hnodes n hn).mono hPQ

namespace Edit

/-- The edit adds only tags with the property, and only texts of characters of markup. -/
def KeepsLegible (P : Tag → Prop) (f : Edit) : Prop :=
  ∀ c, (∀ n ∈ c, n.LegibleWith P) → ∀ n ∈ (f c).content, n.LegibleWith P

variable {P : Tag → Prop} {q : QName}

theorem KeepsLegible.andThen {f g : Edit} (hf : KeepsLegible P f) (hg : KeepsLegible P g) :
    KeepsLegible P (f.andThen g) :=
  Relates.andThen (R := fun c c' => (∀ n ∈ c, n.LegibleWith P) → ∀ n ∈ c', n.LegibleWith P)
    (fun h h' hc => h' (h hc)) hf hg

theorem keepsLegible_pad (hq : P (.plain q)) (n : Nat) : KeepsLegible P (pad q n) := by
  intro c hc
  refine Xml.legibleWith_appendNodes hc fun m hm => ?_
  rw [(List.mem_replicate.mp hm).2]
  exact .element hq fun n hn => absurd hn List.not_mem_nil

theorem keepsLegible_eachNamed {fs : List Edit} (hfs : ∀ f ∈ fs, KeepsLegible P f) :
    KeepsLegible P (eachNamed q fs) := by
  intro c hc
  refine (eachNamed_changes fs c).forall_mem ?_ hc
  rintro - t k k' (rfl | ⟨f, hf, rfl⟩) hk
  · exact hk
  · cases hk with
    | element htag hcontent => exact .element htag (hfs f hf k hcontent)

theorem keepsLegible_place {root : Root} {text : String} (h : root.PlacesLegibly P text) :
    KeepsLegible P (.whole (Fragment.place root text)) :=
  relates_place (R := fun c c' => (∀ n ∈ c, n.LegibleWith P) → ∀ n ∈ c', n.LegibleWith P) (fun _ hc => hc)
    (fun hmarkup nodes hnodes _ hc => Xml.legibleWith_appendNodes hc (h.fragments hmarkup nodes hnodes))
    fun hmarkup _ _ hc => Xml.legibleWith_setLeadingText hc (Text.all_isXmlChar_unescape (h.texts hmarkup))

end Edit

namespace Descent

variable {P : Tag → Prop}

/-- The elements that are made for the names of some waypoints have the property. -/
def Makes (d : Descent) (P : Tag → Prop) (waypoints : List Waypoint) : Prop :=
  ∀ name ∈ waypoints.filterMap Waypoint.name?, ∀ q, d.resolve name = .ok q → P (.plain q)

/-- **A descent adds only tags with a property that those have that it makes.** -/
theorem compositional_keepsLegible (d : Descent) (P : Tag → Prop) :
    d.Compositional (fun _ => True) fun ws f => d.Makes P ws → Edit.KeepsLegible P f where
  done := fun _ _ _ hc => hc
  fail := fun _ _ _ _ _ hc => hc
  andThen := fun hf hg hmakes => (hf hmakes).andThen (hg hmakes)
  here := fun hf hmakes => hf hmakes
  pairing := fun hq hfs hmakes => by
    obtain ⟨hname, hrest⟩ := List.forall_mem_cons.mp hmakes
    exact (Edit.keepsLegible_pad (hname _ hq) _).andThen (Edit.keepsLegible_eachNamed fun f hf => hfs f hf hrest)
  allNamed := fun hq hf hmakes => by
    obtain ⟨hname, hrest⟩ := List.forall_mem_cons.mp hmakes
    refine (Edit.keepsLegible_pad (hname _ hq) 1).andThen fun c => Edit.keepsLegible_eachNamed (fun g hg => ?_) c
    rw [(List.mem_replicate.mp hg).2]
    exact hf hrest

/-- Names keep their local parts. -/
theorem localPart_of_resolve {d : Descent} {name : Name} {q : QName} (h : d.resolve name = .ok q) :
    q.localPart = name.localPart := by
  have hname : d.root.resolver.elementName name = .ok q := mapError_ok.mp h
  rw [Resolver.elementName] at hname
  split at hname
  · rw [Resolver.prefixed] at hname
    split at hname
    · cases hname
      rfl
    · cases hname
  · cases hname
    rfl

end Descent

/-! ## 4. Rules

The names of a rule are those of its destination.  What it renders is assumed to be legible, fragments included. -/

/-- The names that a destination spells are names of its path. -/
theorem Destination.parts_subset {dest : Destination} {name : Name} (h : name ∈ dest.names) :
    name.parts ⊆ dest.path.nameParts := by
  obtain ⟨w, hw, hname⟩ := List.mem_filterMap.mp h
  have hspelled : some w ∈ dest.path.steps.map Step.waypoint? := by
    rw [dest.spelled]
    exact List.mem_map_of_mem hw
  obtain ⟨s, hs, hwaypoint⟩ := List.mem_map.mp hspelled
  have htest : s.test.name? = some name := by
    cases w with
    | here => cases hname
    | child n =>
      cases hname
      obtain ⟨raw, rfl⟩ := Step.waypoint?_eq_child.mp hwaypoint
      rfl
  have hmem : s ∈ dest.path.allSteps := by
    rw [Path.allSteps_eq]
    refine allSteps_subset_stepsWithin hs ?_
    cases s
    rw [Step.allSteps]
    exact List.mem_cons_self
  intro part hpart
  refine List.mem_flatMap.mpr ⟨s, hmem, List.mem_flatMap.mpr ⟨name, ?_, hpart⟩⟩
  rw [htest]
  exact List.mem_singleton_self name

namespace Rule

/-- The rule has been read from texts, and may have been given a normalization since. -/
def Accepted (rule : Rule) : Prop :=
  ∃ destination source values template made, Rule.parse destination source values template = .ok made ∧
    (rule = made ∨ ∃ normalization, made.withNormalization normalization = .ok rule)

/-- The names that its destination spells are names of paths. -/
theorem Accepted.ncname {rule : Rule} (h : rule.Accepted) {name : Name} (hname : name ∈ rule.destination.names) :
    Path.Grammar.NCName name.localPart.toList := by
  obtain ⟨text, source, values, template, made, hparse, hrule⟩ := h
  have hsame : rule.destination = made.destination := by
    rcases hrule with rfl | ⟨normalization, hrule⟩
    · rfl
    · rw [withNormalization] at hrule
      split at hrule
      · cases hrule
        rfl
      · cases hrule
  obtain ⟨dest, hdest, hparse⟩ := bind_ok.mp hparse
  obtain ⟨_, -, hparse⟩ := bind_ok.mp hparse
  obtain ⟨_, -, hparse⟩ := bind_ok.mp hparse
  cases hparse
  rw [hsame] at hname
  have hpart := Destination.parts_subset hname (List.mem_append_right _ (List.mem_singleton_self name.localPart))
  exact Path.Grammar.ncname_of_mem_nameParts (Path.Grammar.denotes_of_parse hdest) hpart

end Rule

/-! ## 5. Runs

By induction on the calls, and for calls with several rules on these. -/

namespace Run

/-- Calls render a text: the template of one of their rules makes it of a row of a source node that the source path
leads to. -/
def Renders (r : Run) (calls : List Call) (text : String) : Prop :=
  ∃ rule ∈ calls.flatMap Call.toList, ∃ context,
    (r.descent rule).Leads rule.source.steps r.sourceRoot context ∧ (r.descent rule).RendersAt context text

variable {r : Run} {calls : List Call} {P : Tag → Prop}

/-- All that calls leave has a property that what they make and what they render has. -/
theorem legible_after (hmakes : ∀ rule ∈ calls.flatMap Call.toList, (r.descent rule).Makes P rule.destination.waypoints)
    (hrenders : ∀ text, r.Renders calls text → r.root.PlacesLegibly P text)
    (hcontent : ∀ n ∈ r.content, n.LegibleWith P) : ∀ n ∈ (r.after calls).content, n.LegibleWith P := by
  refine content_after_induction (P := fun c => ∀ n ∈ c, n.LegibleWith P) (fun rule hrule c hc => ?_) hcontent
  have hkeeps := (r.descent rule).compositional_keepsLegible P
  refine Descent.follow_of_compositional hkeeps _ _ (Descent.raisesOnly_any _ _) (fun m hm => ?_)
    (hmakes rule hrule) c hc
  refine Descent.render_of_compositional hkeeps [] (fun _ _ => trivial) (fun _ _ _ _ _ _ => trivial) ?_
  intro text htext _
  exact Edit.keepsLegible_place (hrenders text ⟨rule, hrule, m, hm, htext⟩)

/-- All that calls render is legible. -/
def RendersLegibly (r : Run) (calls : List Call) : Prop :=
  ∀ text, r.Renders calls text → r.root.PlacesLegibly Tag.Legible text

variable (haccepted : ∀ rule ∈ calls.flatMap Call.toList, rule.Accepted) (hrenders : r.RendersLegibly calls)

include haccepted hrenders

/-- **All that accepted rules leave is legible or made from names of paths.** -/
theorem built_after (hcontent : r.content = []) : ∀ n ∈ (r.after calls).content, n.LegibleWith Tag.Built := by
  refine legible_after (fun rule hrule name hname q hq => ?_) (fun text htext => ?_) fun n hn => ?_
  · refine .inr ⟨q, rfl, ?_⟩
    rw [Descent.localPart_of_resolve hq]
    exact (haccepted rule hrule).ncname hname
  · exact (hrenders text htext).mono fun t ht => .inl ht
  · rw [hcontent] at hn
    cases hn

/-- If their destinations spell no names that stray, it is legible. -/
theorem straight_after (hcontent : r.content = [])
    (hnames : ∀ rule ∈ calls.flatMap Call.toList, ∀ name ∈ rule.destination.names,
      Path.strays name.localPart = false) : ∀ n ∈ (r.after calls).content, n.Straight := by
  have hlegible : ∀ n ∈ (r.after calls).content, n.Legible := by
    refine legible_after (fun rule hrule name hname q hq => Xml.Tag.legible_plain ?_) hrenders fun n hn => ?_
    · rw [Descent.localPart_of_resolve hq]
      exact (Path.isNCName_iff_not_strays ((haccepted rule hrule).ncname hname)).mpr (hnames rule hrule name hname)
    · rw [hcontent] at hn
      cases hn
  exact fun n hn => Xml.Node.straight_of_legible (hlegible n hn)

end Run

/-- **Which names of paths are names of markup, and what becomes of the others.**  Every prefix and every local part
in a path, those in predicates included, is a name of markup without a colon exactly if it does not stray.  And
whatever a run writes is read again exactly if no name in it strays, whatever accepted rules it is called to apply
and whatever comes of the calls, as long as its root and all that is rendered are legible; none does if the
destinations spell none. -/
theorem path_names_in_markup {text : String} {p : Path} (hparse : Path.parse text = .ok p) :
    (∀ part ∈ p.nameParts, Xml.isNCName part = true ↔ Path.strays part = false) ∧
    ∀ source sourceRoot sourceNamespaces vocabulary root fresh,
      Run.start source sourceRoot sourceNamespaces vocabulary root = .ok fresh → fresh.tag.Legible →
      ∀ calls : List Call, (∀ rule ∈ calls.flatMap Call.toList, rule.Accepted) → fresh.RendersLegibly calls →
        (∀ style written, (fresh.after calls).write style = .ok written →
          ((∃ d, Document.read written = .ok d) ↔ ∀ n ∈ (fresh.after calls).content, n.Straight)) ∧
        ((∀ rule ∈ calls.flatMap Call.toList, ∀ name ∈ rule.destination.names,
            Path.strays name.localPart = false) →
          ∀ n ∈ (fresh.after calls).content, n.Straight) := by
  constructor
  · intro part hpart
    have hdenotes := Path.parse_eq_ok_iff.mp hparse
    exact Path.isNCName_iff_not_strays (Path.Grammar.ncname_of_mem_nameParts hdenotes hpart)
  · intro source sourceRoot sourceNamespaces vocabulary root fresh hstart htag calls haccepted hrenders
    have hcontent : fresh.content = [] := by
      obtain ⟨t, -, hfresh⟩ := bind_ok.mp hstart
      cases hfresh
      rfl
    refine ⟨fun style written hwrite => ?_, Run.straight_after haccepted hrenders hcontent⟩
    have hbuilt := Run.built_after haccepted hrenders hcontent
    rw [Run.after_eq_withContent] at hwrite hbuilt ⊢
    exact Xml.read_iff_straight htag hbuilt hwrite

namespace Sample

/-- From `b` to elements of some name: the texts of its `c`. -/
def naming (name : String) : Rule :=
  ⟨⟨⟨name, [⟨name, .element ⟨none, name⟩, []⟩]⟩, [.child ⟨none, name⟩], rfl⟩, ⟨"b", steps [⟨none, "b"⟩]⟩,
    [⟨"c", steps [⟨none, "c"⟩]⟩], .parse "%s", .passThrough, rfl⟩

/-- The rule renders the three texts of the source. -/
theorem renders_naming {name text : String} (h : (run []).Renders [.rule (naming name)] text) :
    text ∈ ["x", "y", "z"] := by
  obtain ⟨rule, hrule, context, hleads, rows, row, hrows, hrow, htext⟩ := h
  obtain rfl := List.mem_singleton.mp hrule
  have hsources : ((run []).descent (naming name)).sources ⟨"b", .element ⟨none, "b"⟩, []⟩ [0] =
      .ok [[0, 0], [0, 1]] := by rfl
  have hfirst : ((run []).descent (naming name)).rows [0, 0] = .ok [["x"], ["y"]] := by rfl
  have hsecond : ((run []).descent (naming name)).rows [0, 1] = .ok [["z"]] := by rfl
  have hrender : ∀ value ∈ ["x", "y", "z"],
      ((run []).descent (naming name)).renderRow [value] = .ok (some value) := by
    intro value hvalue
    simp only [List.mem_cons, List.not_mem_nil, or_false] at hvalue
    rcases hvalue with rfl | rfl | rfl <;> rfl
  have hvalue : ∃ value ∈ ["x", "y", "z"], row = [value] := by
    obtain ⟨m, hm, hrest⟩ := hleads.cons_inv hsources
    obtain rfl := hrest.nil_inv
    simp only [List.mem_cons, List.not_mem_nil, or_false] at hm
    rcases hm with rfl | rfl
    · cases hfirst.symm.trans hrows
      simp only [List.mem_cons, List.not_mem_nil, or_false] at hrow
      rcases hrow with rfl | rfl
      · exact ⟨"x", by simp, rfl⟩
      · exact ⟨"y", by simp, rfl⟩
    · cases hsecond.symm.trans hrows
      obtain rfl := List.mem_singleton.mp hrow
      exact ⟨"z", by simp, rfl⟩
  obtain ⟨value, hvalue, rfl⟩ := hvalue
  cases (hrender value hvalue).symm.trans htext
  exact hvalue

/-- They are legible. -/
theorem rendersLegibly_naming (name : String) : (run []).RendersLegibly [.rule (naming name)] := by
  intro text htext
  have hmarkup : ∀ text ∈ ["x", "y", "z"], Fragment.isMarkup text = false ∧ text.toList.all isXmlChar = true := by
    decide +kernel
  obtain ⟨hno, hchars⟩ := hmarkup text (renders_naming htext)
  exact ⟨fun _ => hchars, fun hyes => absurd hyes (by simp [hno])⟩

end Sample

/-- A name with an accent is one of markup, and what is written of its elements is read again. -/
theorem accented_name_in_markup :
    Xml.isNCName "é" = true ∧
      ∃ text d, ((Sample.run []).after [.rule (Sample.naming "é")]).write .compact = .ok text ∧
        Document.read text = .ok d := by
  have hparse : Path.parse "é" = .ok ⟨"é", [⟨"é", .element ⟨none, "é"⟩, []⟩]⟩ := by rfl
  have hrule : Rule.parse "é" "b" ["c"] "%s" = .ok (Sample.naming "é") := by rfl
  have hstart : Run.start Sample.source [0] .empty .empty Sample.root = .ok (Sample.run []) := by rfl
  have hwrite : ((Sample.run []).after [.rule (Sample.naming "é")]).write .compact =
      .ok "<r><é>y</é><é>z</é></r>" := by rfl
  have hstraight : Path.strays "é" = false := by decide +kernel
  have hroot : (Sample.run []).tag.Legible := by decide +kernel
  have haccepted : ∀ rule ∈ [Call.rule (Sample.naming "é")].flatMap Call.toList, rule.Accepted := by
    intro rule hmem
    obtain rfl := List.mem_singleton.mp hmem
    exact ⟨"é", "b", ["c"], "%s", _, hrule, .inl rfl⟩
  have hnames : ∀ rule ∈ [Call.rule (Sample.naming "é")].flatMap Call.toList, ∀ name ∈ rule.destination.names,
      Path.strays name.localPart = false := by
    intro rule hmem name hname
    obtain rfl := List.mem_singleton.mp hmem
    obtain rfl := List.mem_singleton.mp hname
    exact hstraight
  obtain ⟨hparts, hruns⟩ := path_names_in_markup hparse
  obtain ⟨hread, hnone⟩ := hruns Sample.source [0] .empty .empty Sample.root (Sample.run []) hstart hroot _ haccepted
    (Sample.rendersLegibly_naming "é")
  obtain ⟨d, hd⟩ := (hread .compact _ hwrite).mpr (hnone hnames)
  exact ⟨(hparts "é" (by decide)).mpr hstraight, _, d, hwrite, hd⟩

/-- The feminine ordinal indicator is a name of paths and no name of markup.  A rule with it as its destination is
accepted and applied without an error, and what is written then is not read. -/
theorem ordinal_name_not_in_markup :
    (∃ p, Path.parse "ª" = .ok p ∧ "ª" ∈ p.nameParts) ∧ Xml.isNCName "ª" = false ∧
      Rule.parse "ª" "b" ["c"] "%s" = .ok (Sample.naming "ª") ∧ ((Sample.run []).apply (Sample.naming "ª")).2 = none ∧
      ((Sample.run []).apply (Sample.naming "ª")).1.write .compact = .ok "<r><ª>y</ª><ª>z</ª></r>" ∧
      Document.read "<r><ª>y</ª><ª>z</ª></r>" = .error .malformedXml := by
  refine ⟨⟨⟨"ª", [⟨"ª", .element ⟨none, "ª"⟩, []⟩]⟩, rfl, by decide⟩, by decide +kernel, rfl, rfl, rfl, rfl⟩

/-! ## Summary

**What is established.**  Names of paths are names of markup except for the characters that stray, and these are listed.
What a run writes is read again exactly if no name that it has made strays.

**What is not.**  It is not claimed that the same document is read: white space is added by some styles.  And nothing is
claimed of runs whose templates render what is not legible, such as a comment that ends in a hyphen. -/

end Regraft
