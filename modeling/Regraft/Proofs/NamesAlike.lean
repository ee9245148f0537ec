import Regraft.Proofs.FragmentNames
import Regraft.Proofs.Serializable
import Regraft.Proofs.Visits
/-!
# Fragments and paths mean the same elements

What a template places for a name, what a waypoint of the name makes and what a step of the name selects are elements
of one qualified name (`Root.NamesAlike`).  So a rule finds what an earlier one has placed, instead of making another
element beside it.

Waypoints and steps agree always, since they ask the same registry.  Fragments agree with them exactly as far as the
URI of the namespace has nothing to escape (`names_alike_iff`): an element in the namespace `a&b` is placed as one in
`a&amp;b`, and a later rule makes another (`ampersand_not_alike`).
-/

namespace Regraft

open Xml (Address Document Node QName Tag)
open Edit (countNamed)

/-! ## 1. Templates of one element

The template that consists of an empty element of the name, as text and as what is placed. -/

namespace Template

theorem segmentsFrom_append {text : List Char} (htext : '%' ∉ text) (reversed rest : List Char) :
    segmentsFrom reversed (text ++ rest) = segmentsFrom (text.reverse ++ reversed) rest := by
  induction text generalizing reversed with
  | nil => rfl
  | cons c text ih =>
    obtain ⟨hc, htext⟩ : '%' ≠ c ∧ '%' ∉ text := by simpa using htext
    rw [List.cons_append, segmentsFrom, ih htext, List.reverse_cons, List.append_assoc]
    · rfl
    · exact fun _ h => absurd h.symm hc
    · exact fun _ h => absurd h.symm hc

theorem segments_of_not_mem {text : String} (htext : '%' ∉ text.toList) (hne : text ≠ "") :
    (parse text).segments = [.literal text] := by
  have hchars := segmentsFrom_append htext [] []
  rw [List.append_nil, List.append_nil, segmentsFrom, literalOf, if_neg (by simpa using hne)] at hchars
  rw [parse, hchars, List.reverse_reverse, String.ofList_toList]

/-- A template without slots is rendered as it is. -/
theorem render_of_not_mem {text : String} (htext : '%' ∉ text.toList) (hne : text ≠ "") :
    (parse text).render [] = .ok text := by
  have hsegments := segments_of_not_mem htext hne
  rw [render, slots, hsegments]
  show Except.ok (text ++ "") = .ok text
  rw [String.append_empty]

/-- A template with one slot is rendered as the texts around it with the value between them. -/
theorem render_around (before behind : String) (hbefore : '%' ∉ before.toList) (hbehind : '%' ∉ behind.toList)
    (hne : before ≠ "") (hne' : behind ≠ "") (value : String) :
    (parse (before ++ "%s" ++ behind)).render [value] = .ok (before ++ value ++ behind) := by
  have hchars : (before ++ "%s" ++ behind).toList = before.toList ++ '%' :: 's' :: behind.toList := by simp
  have hrest := segmentsFrom_append hbehind [] []
  have hsegments : (parse (before ++ "%s" ++ behind)).segments = [.literal before, .slot, .literal behind] := by
    rw [List.append_nil, List.append_nil, segmentsFrom, literalOf, if_neg (by simpa using hne')] at hrest
    rw [parse, hchars, segmentsFrom_append hbefore, segmentsFrom, hrest, literalOf, if_neg (by simpa using hne)]
    simp
  rw [render, slots, hsegments]
  show Except.ok (before ++ (value ++ (behind ++ ""))) = .ok (before ++ value ++ behind)
  rw [String.append_empty, String.append_assoc]

/-- From these values the template makes a fragment that places the node at the end of every content, unless the root
lets no fragment be read. -/
def Places (r : Root) (template : String) (values : List String) (n : Node) : Prop :=
  ∃ text, (parse template).render (values.map Text.escape) = .ok text ∧
    ∀ c, Fragment.place r text c =
      if r.AdmitsFragments then .ok (c ++ [n]) else .error (.fragmentSyntax text)

theorem places_of_read {r : Root} (hprefixes : r.NamesPrefixes) {template text : String} {values : List String}
    {n : Node} (hrender : (parse template).render (values.map Text.escape) = .ok text)
    (hmarkup : Fragment.isMarkup text = true) (hn : n.isText = false)
    (hread : r.AdmitsFragments → Fragment.read r text = .ok [n]) : Places r template values n := by
  refine ⟨text, hrender, fun c => ?_⟩
  rw [Fragment.place_markup hmarkup]
  split
  · rename_i hadmits
    rw [hread hadmits]
    exact congrArg Except.ok (appendNodes_of_not_text (by simpa using hn) c)
  · rename_i hadmits
    rw [Fragment.read_of_not_admits hprefixes hadmits]
    rfl

/-- What a template places matters only if fragments can be read. -/
theorem Places.of_admits {r : Root} {template : String} {values : List String} {m n : Node}
    (hm : Places r template values m) (hsame : r.AdmitsFragments → m = n) : Places r template values n := by
  obtain ⟨text, hrender, hplace⟩ := hm
  refine ⟨text, hrender, fun c => ?_⟩
  rw [hplace]
  split
  · rename_i hadmits
    rw [hsame hadmits]
  · rfl

/-- It is determined then. -/
theorem Places.unique {r : Root} (hadmits : r.AdmitsFragments) {template : String} {values : List String}
    {m n : Node} (hm : Places r template values m) (hn : Places r template values n) : m = n := by
  obtain ⟨text, hrender, hplace⟩ := hm
  obtain ⟨text', hrender', hplace'⟩ := hn
  cases hrender.symm.trans hrender'
  have hsame := (hplace []).symm.trans (hplace' [])
  rw [if_pos hadmits, if_pos hadmits] at hsame
  simpa using hsame

variable {r : Root} {q : String} {raw : Xml.RawName} {uri : String}

theorem percent_not_mem (hraw : Xml.Token.IsRawName q.toList raw) : '%' ∉ q.toList := fun h => by
  have hpercent := hraw.chars '%' h
  exact absurd hpercent (by decide)

theorem isMarkup_tag (text : String) : Fragment.isMarkup ("<" ++ text) = true := by
  rw [Fragment.isMarkup, String.toList_append]
  rfl

section Elements

variable (hprefixes : r.NamesPrefixes) (hraw : Xml.Token.IsRawName q.toList raw)
  (huri : r.fragmentScope.resolve? raw.namespacePrefix = some uri)

include hprefixes hraw huri

theorem places_emptyTag : Places r ("<" ++ q ++ "/>") [] (emptyElement ⟨uri, raw.localPart⟩) := by
  have hpercent := percent_not_mem hraw
  have hrender : (parse ("<" ++ q ++ "/>")).render [] = .ok ("<" ++ q ++ "/>") :=
    render_of_not_mem (by simpa using hpercent) (by simp)
  refine places_of_read hprefixes hrender ?_ rfl fun hadmits => Fragment.read_emptyTag hprefixes hadmits hraw huri
  rw [String.append_assoc]
  exact isMarkup_tag _

theorem places_filled {value : String} (hxml : value.toList.all Xml.isXmlChar = true) :
    Places r ("<" ++ q ++ ">%s</" ++ q ++ ">") [value]
      (.element (.plain ⟨uri, raw.localPart⟩) (Fragment.readText value)) := by
  have hpercent := percent_not_mem hraw
  have hrender := render_around ("<" ++ q ++ ">") ("</" ++ q ++ ">") (by simpa using hpercent)
    (by simpa using hpercent) (by simp) (by simp) (Text.escape value)
  have htemplate : "<" ++ q ++ ">" ++ "%s" ++ ("</" ++ q ++ ">") = "<" ++ q ++ ">%s</" ++ q ++ ">" := by
    simp [← String.toList_inj]
  have htext : "<" ++ q ++ ">" ++ Text.escape value ++ ("</" ++ q ++ ">") =
      "<" ++ q ++ ">" ++ Text.escape value ++ "</" ++ q ++ ">" := by simp [String.append_assoc]
  rw [htemplate, htext] at hrender
  refine places_of_read hprefixes hrender ?_ rfl fun hadmits =>
    Fragment.read_filled hprefixes hadmits hraw huri hxml
  simp only [String.append_assoc]
  exact isMarkup_tag _

end Elements

end Template

/-! ## 2. Waypoints of one name

The destination that consists of the name, as text and as what is made. -/

section Waypoints

variable {d : Descent} {name : Name} {n : QName}

theorem Descent.resolve_of_elementName (h : d.root.resolver.elementName name = .ok n) : d.resolve name = .ok n := by
  rw [resolve, h]
  rfl

/-- A waypoint of the surplus makes an element of its name if there is none, and goes on in all there are. -/
theorem Descent.alongWaypoints_child (h : d.root.resolver.elementName name = .ok n) (k : Edit)
    (rest : List Waypoint) (c : List Node) :
    d.alongWaypoints k (.child name :: rest) c = Edit.allNamed n (d.alongWaypoints k rest) (padded n 1 c) := by
  rw [alongWaypoints, resolve_of_elementName h]
  show Edit.andThen (.pad n 1) (.allNamed n (d.alongWaypoints k rest)) c = _
  exact Edit.andThen_of_done (pad_eq n 1 c)

/-- An aligned waypoint makes the elements of its name that are missing for the matches, and goes on in one element
for each. -/
theorem Descent.alongAligned_child (h : d.root.resolver.elementName name = .ok n) {s : Step} {context : Address}
    {found : List Address} (hfound : d.sources s context = .ok found) (rest : List (Step × Waypoint))
    (c : List Node) :
    d.alongAligned d.render ((s, .child name) :: rest) context c =
      Edit.eachNamed n (found.map (d.alongAligned d.render rest)) (padded n found.length c) := by
  rw [alongAligned, hfound]
  show Edit.given (d.resolve name) _ c = _
  rw [resolve_of_elementName h]
  exact Edit.andThen_of_done (pad_eq n found.length c)

/-- In the surplus, a waypoint makes no element beside one that is there. -/
theorem Descent.countNamed_alongWaypoints (h : d.root.resolver.elementName name = .ok n) {c : List Node}
    (hc : 0 < countNamed n c) (k : Edit) (rest : List Waypoint) :
    countNamed n (d.alongWaypoints k (.child name :: rest) c).content = countNamed n c := by
  rw [alongWaypoints_child h, Edit.allNamed, (Edit.eachNamed_changes _ _).countNamed_eq, countNamed_padded]
  omega

/-- Nor does one beside a step that leads to a single match. -/
theorem Descent.countNamed_alongAligned (h : d.root.resolver.elementName name = .ok n) {s : Step}
    {context m : Address} (hfound : d.sources s context = .ok [m]) {c : List Node} (hc : 0 < countNamed n c)
    (rest : List (Step × Waypoint)) :
    countNamed n (d.alongAligned d.render ((s, .child name) :: rest) context c).content = countNamed n c := by
  rw [alongAligned_child h hfound, (Edit.eachNamed_changes _ _).countNamed_eq, countNamed_padded, List.length_singleton]
  omega

end Waypoints

/-! ## 3. Names

All three ways of giving a name are compared, and what they have in common is the resolved name; or is not, with a URI
in which something is escaped. -/

/-- A text means elements of `n`, as a name in a template and as a step that spells `name`. -/
structure Root.NamesAlike (r : Root) (q : String) (name : Name) (n : QName) : Prop where
  /-- An empty element in a template is placed as one of `n`. -/
  empty : Template.Places r ("<" ++ q ++ "/>") [] (emptyElement n)
  /-- So is an element that a value is rendered into. -/
  filled (value : String) : value.toList.all Xml.isXmlChar = true →
    Template.Places r ("<" ++ q ++ ">%s</" ++ q ++ ">") [value]
      (.element (.plain n) (Fragment.readText value))
  /-- The step selects the children that are elements of `n`. -/
  selected (s : Step) : s.waypoint? = some (.child name) → ∀ (d : Document) (a : Address),
    d.selectNodes r.resolver a s = .ok (namedAt n a 0 (d.children a))
  /-- In the surplus of a destination the waypoint makes one element of `n`, or none if there is one already. -/
  surplus (d : Descent) : d.root = r → ∀ (k : Edit) (rest : List Waypoint) (c : List Node),
    d.alongWaypoints k (.child name :: rest) c = Edit.allNamed n (d.alongWaypoints k rest) (padded n 1 c)
  /-- Beside a step it makes as many elements of `n` as are missing for the matches of the step. -/
  aligned (d : Descent) : d.root = r → ∀ (s : Step) (rest : List (Step × Waypoint)) (context : Address)
    (found : List Address), d.sources s context = .ok found → ∀ c : List Node,
      d.alongAligned d.render ((s, .child name) :: rest) context c =
        Edit.eachNamed n (found.map (d.alongAligned d.render rest)) (padded n found.length c)
  /-- So where there is an element of `n`, such as a template has placed, a waypoint for one source goes on in it and
  makes no other beside it. -/
  reused (d : Descent) : d.root = r → ∀ c : List Node, 0 < countNamed n c →
    (∀ (k : Edit) (rest : List Waypoint),
      countNamed n (d.alongWaypoints k (.child name :: rest) c).content = countNamed n c) ∧
    ∀ (s : Step) (rest : List (Step × Waypoint)) (context m : Address), d.sources s context = .ok [m] →
      countNamed n (d.alongAligned d.render ((s, .child name) :: rest) context c).content = countNamed n c

/-- **Fragments and paths mean the same elements by a name, exactly if its URI stays as it is where it is escaped.**
The text is a name of markup, and a step that spells `name`; the prefix stands for something. -/
theorem names_alike_iff {r : Root} (hprefixes : r.NamesPrefixes) {q : String}
    (hxml : Xml.isQualifiedName q = true) {dest : Destination} (hdest : Destination.parse q = .ok dest) {name : Name}
    (hname : dest.waypoints = [.child name]) {n : QName} (hbound : r.resolver.elementName name = .ok n) :
    r.NamesAlike q name n ↔ (r.AdmitsFragments → Text.isPlain n.uri = true) := by
  obtain ⟨hchars, hdivided⟩ := Bool.and_eq_true_iff.mp hxml
  have hraw := Path.Grammar.isRawName_of_isName (Path.Grammar.isName_of_parse hdest hname)
    (List.all_eq_true.mp hchars) hdivided
  obtain ⟨huri, hlocal⟩ := Root.resolve_fragmentScope hprefixes hbound
  have hempty := Template.places_emptyTag hprefixes hraw huri
  refine ⟨fun h hadmits => ?_, fun hplain => ?_⟩
  · have hnames := congrArg Node.name? (hempty.unique hadmits h.empty)
    have huris := congrArg QName.uri (Option.some.inj hnames)
    exact Text.escapeAttribute_eq_iff.mp huris
  · have hn (hadmits : r.AdmitsFragments) : (⟨Text.escapeAttribute n.uri, name.localPart⟩ : QName) = n := by
      rw [Text.escapeAttribute_of_isPlain (hplain hadmits), ← hlocal]
    exact {
      empty := hempty.of_admits fun hadmits => by rw [hn hadmits]
      filled := fun value hvalue => (Template.places_filled hprefixes hraw huri hvalue).of_admits fun hadmits => by
        rw [hn hadmits]
      selected := fun s hs => selectNodes_of_child hs hbound
      surplus := fun d hd => Descent.alongWaypoints_child (hd ▸ hbound)
      aligned := fun d hd s rest context found hfound => Descent.alongAligned_child (hd ▸ hbound) hfound rest
      reused := fun d hd c hc => ⟨Descent.countNamed_alongWaypoints (hd ▸ hbound) hc,
        fun s rest context m hm => Descent.countNamed_alongAligned (hd ▸ hbound) hm hc rest⟩ }

/-- A prefix that is bound to the default namespace means the same in fragments and in paths. -/
theorem described_names_alike :
    Sample.described.AdmitsFragments ∧ Sample.described.NamesAlike "x:q" ⟨some "x", "q"⟩ ⟨"D", "q"⟩ := by
  have hprefixes : Sample.described.NamesPrefixes := by unfold Root.NamesPrefixes; decide +kernel
  have hxml : Xml.isQualifiedName "x:q" = true := by decide +kernel
  have hspelled : (Destination.parse "x:q").toOption.map Destination.waypoints =
      some [.child ⟨some "x", "q"⟩] := by decide +kernel
  have hbound : Sample.described.resolver.elementName ⟨some "x", "q"⟩ = .ok ⟨"D", "q"⟩ := by rfl
  refine ⟨by decide +kernel, ?_⟩
  cases hdest : Destination.parse "x:q" with
  | error e =>
    rw [hdest] at hspelled
    cases hspelled
  | ok dest =>
    rw [hdest] at hspelled
    have hname : dest.waypoints = [.child ⟨some "x", "q"⟩] := Option.some.inj hspelled
    exact (names_alike_iff hprefixes hxml hdest hname hbound).mpr fun _ => by decide +kernel

namespace Sample

/-- A root `z` with a prefix for a namespace that is escaped in fragments. -/
def ampersand : Root := ⟨"z", none, .ofList [("a", "a&b")], .empty⟩

/-- What a run starts with on that root. -/
def ampersandRun : Run := ⟨source, [0], .empty, .empty, ampersand, ⟨⟨"", "z"⟩, [⟨"a", "a&b"⟩], []⟩, []⟩

end Sample

/-- **An element in the namespace `a&b` is placed in another one**, and a later rule makes one beside it. -/
theorem ampersand_not_alike :
    Sample.ampersand.NamesPrefixes ∧ (∀ b ∈ Sample.ampersand.namespaces.bindings, b.2 ≠ "") ∧
      Xml.isQualifiedName "a:r" = true ∧
      (Destination.parse "a:r").toOption.map Destination.waypoints = some [.child ⟨some "a", "r"⟩] ∧
      Sample.ampersand.resolver.elementName ⟨some "a", "r"⟩ = .ok ⟨"a&b", "r"⟩ ∧
      ∃ fresh, Run.start Sample.source [0] .empty .empty Sample.ampersand = .ok fresh ∧
        let placed := fresh.apply { Sample.rule [] [] with template := .parse "<a:r>%s</a:r>" }
        let entered := placed.1.apply (Sample.rule [⟨some "a", "r"⟩] [])
        placed.2 = none ∧ placed.1.content.map Node.name? = [some ⟨"a&amp;b", "r"⟩] ∧
          entered.2 = none ∧ entered.1.content.map Node.name? = [some ⟨"a&amp;b", "r"⟩, some ⟨"a&b", "r"⟩] := by
  have hprefixes : Sample.ampersand.NamesPrefixes := by unfold Root.NamesPrefixes; decide +kernel
  exact ⟨hprefixes, by decide, by decide +kernel, by decide +kernel, by rfl, Sample.ampersandRun, by rfl,
    by decide +kernel⟩

/-! ## Summary

**What is established.**  For every name of markup that is a step and whose prefix is bound: fragments, waypoints and
steps mean the same elements if and only if escaping leaves the URI as it is, or no fragment can be read at all.

**What is not.**  Nothing is said of names that are steps and no names of markup; `path_names_in_markup` is about these.
-/

end Regraft
