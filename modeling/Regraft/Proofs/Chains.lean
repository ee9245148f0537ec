import Regraft.Proofs.Calls
import Regraft.Proofs.Preservation
import Regraft.Proofs.Rendering
import Regraft.Proofs.TextsApart
/-!
# What text rules build

A rule whose template has no bracket writes texts and makes elements, and the elements that it makes stand where
its destination says.  So a document that only such rules have built is plain: no element but the root has an
attribute, texts stand in front of everything else, and the names from below the root down to an element are those
that a destination begins with.

`Xml.Plain A c` says so of a content: `A` is the set of the chains of names that lead down to an element.  Going down
into an element takes its name off the chains, and going down a destination takes a waypoint off it, which is why
the invariant speaks of the waypoints that are left (`Descent.Allows`).
-/

namespace Regraft

open Xml (Node QName Tag)

namespace Xml

/-! ## 1. Plain contents

A chain is a list of names.  The content says which chains lead to elements, and going down into one of them takes a
name off. -/

/-- At most one child is a text, and it is the first. -/
def TextInFront (c : List Node) : Prop := ∀ n ∈ c.tail, n.isText = false

/-- No element has an attribute, there is a text in front of the other children at most, and every chain of names
down to an element is one of `A`. -/
inductive Plain : (List QName → Prop) → List Node → Prop
  | intro {A : List QName → Prop} {c : List Node} (texts : TextInFront c)
      (tags : ∀ t k, Node.element t k ∈ c → A [t.name] ∧ t.attributes = [])
      (inside : ∀ t k, Node.element t k ∈ c → Plain (fun chain => A (t.name :: chain)) k) : Plain A c

variable {A : List QName → Prop} {c : List Node}

theorem plain_nil (A : List QName → Prop) : Plain A [] :=
  .intro (fun _ hn => absurd hn List.not_mem_nil) (fun _ _ h => absurd h List.not_mem_nil)
    fun _ _ h => absurd h List.not_mem_nil

theorem Plain.texts (h : Plain A c) : TextInFront c := by
  cases h with
  | intro texts tags inside => exact texts

/-- What a plain content says of the elements at any depth. -/
theorem Plain.of_nodeAt {nodes : List Node} {a : Address} {t : Tag} {k : List Node} (h : Plain A nodes)
    (ha : nodeAt? nodes a = some (.element t k)) :
    A ((tagsDownTo nodes a).map Tag.name) ∧ t.attributes = [] ∧ TextInFront k := by
  induction a generalizing A nodes with
  | nil => cases ha
  | cons i a ih =>
    cases h with
    | intro texts tags inside =>
      cases a with
      | nil =>
        have hi : nodes[i]? = some (.element t k) := ha
        have hmem : Node.element t k ∈ nodes := List.mem_of_getElem? hi
        rw [tagsDownTo, hi]
        exact ⟨(tags t k hmem).1, (tags t k hmem).2, (inside t k hmem).texts⟩
      | cons j a =>
        rw [nodeAt?] at ha
        · split at ha
          · rename_i n hi
            cases n with
            | element t' k' =>
              obtain ⟨hchain, hrest⟩ := ih (inside t' k' (List.mem_of_getElem? hi)) ha
              rw [tagsDownTo, hi]
              exact ⟨hchain, hrest⟩
            | text v => cases a <;> cases ha
            | comment v => cases a <;> cases ha
            | instruction target data => cases a <;> cases ha
          · cases ha
        · simp

/-! ## 2. Changes that keep a content plain

Writing a text, adding an empty element and editing in the elements of a name are the changes that such a rule makes.
-/

/-- Where a text stands in front at most, the others are no texts. -/
theorem TextInFront.otherNodes (h : TextInFront c) : ∀ n ∈ otherNodes c, n.isText = false := by
  rcases begins_or c with ⟨value, heq⟩ | ⟨heq, hhead⟩
  · rw [heq] at h
    exact h
  · rw [heq]
    cases c with
    | nil => exact fun n hn => absurd hn List.not_mem_nil
    | cons m rest => exact List.forall_mem_cons.mpr ⟨hhead m rfl, h⟩

theorem textInFront_setLeadingText (value : String) (h : TextInFront c) : TextInFront (setLeadingText value c) := by
  have hothers := h.otherNodes
  cases hempty : value.isEmpty with
  | true =>
    rw [setLeadingText_of_isEmpty hempty]
    exact fun n hn => hothers n (List.mem_of_mem_tail hn)
  | false =>
    rw [setLeadingText_of_not_isEmpty hempty]
    exact fun n hn => hothers n (otherNodes_subset _ hn)

theorem element_mem_of_setLeadingText {value : String} {t : Tag} {k : List Node}
    (h : Node.element t k ∈ setLeadingText value c) : Node.element t k ∈ c := by
  cases hempty : value.isEmpty with
  | true =>
    rw [setLeadingText_of_isEmpty hempty] at h
    exact otherNodes_subset c h
  | false =>
    rw [setLeadingText_of_not_isEmpty hempty] at h
    exact otherNodes_subset c (otherNodes_subset _ ((List.mem_cons.mp h).resolve_left nofun))

theorem Plain.setLeadingText (h : Plain A c) (value : String) : Plain A (setLeadingText value c) := by
  cases h with
  | intro texts tags inside =>
    exact .intro (textInFront_setLeadingText value texts)
      (fun t k hmem => tags t k (element_mem_of_setLeadingText hmem))
      fun t k hmem => inside t k (element_mem_of_setLeadingText hmem)

end Xml

open Xml (Plain TextInFront)

/-- Every element comes from one with the same tag, and if it has changed, it has the name. -/
theorem EachNamed.exists_element {q : QName} {R : Nat → List Node → List Node → Prop} {c c' : List Node}
    (h : EachNamed q R c c') {t : Tag} {k' : List Node} (hmem : Node.element t k' ∈ c') :
    ∃ k, Node.element t k ∈ c ∧ (k' = k ∨ t.name = q ∧ ∃ i, R i k k') := by
  induction h with
  | nil => cases hmem
  | @named R tag k₀ k₁ c c' hq hk _ ih =>
    rcases List.mem_cons.mp hmem with hfirst | hmem
    · cases hfirst
      exact ⟨k₀, List.mem_cons_self, .inr ⟨hq, 0, hk⟩⟩
    · obtain ⟨k, hk, hchange⟩ := ih hmem
      refine ⟨k, List.mem_cons_of_mem _ hk, hchange.imp_right ?_⟩
      exact fun ⟨hq, i, hi⟩ => ⟨hq, i + 1, hi⟩
  | other _ _ ih =>
    rcases List.mem_cons.mp hmem with hfirst | hmem
    · exact ⟨k', by rw [hfirst]; exact List.mem_cons_self, .inl rfl⟩
    · obtain ⟨k, hk, hchange⟩ := ih hmem
      exact ⟨k, List.mem_cons_of_mem _ hk, hchange⟩

namespace Edit

/-- The edit leaves a plain content if it finds one. -/
def KeepsPlain (A : List QName → Prop) (f : Edit) : Prop := ∀ c, Plain A c → Plain A (f c).content

variable {A : List QName → Prop}

theorem KeepsPlain.andThen {f g : Edit} (hf : KeepsPlain A f) (hg : KeepsPlain A g) : KeepsPlain A (f.andThen g) :=
  Relates.andThen (R := fun c c' => Plain A c → Plain A c') (fun h h' hc => h' (h hc)) hf hg

/-- Elements may be added whose names are chains of their own. -/
theorem keepsPlain_pad {q : QName} (hq : A [q]) (n : Nat) : KeepsPlain A (pad q n) := by
  intro c hc
  rw [pad_eq]
  cases hc with
  | intro texts tags inside =>
    have hmem : ∀ t k, Node.element t k ∈ padded q n c → Node.element t k ∈ c ∨ t = .plain q ∧ k = [] := by
      intro t k h
      rcases List.mem_append.mp h with h | h
      · exact .inl h
      · obtain ⟨rfl, rfl⟩ : t = .plain q ∧ k = [] := by
          simpa [emptyElement] using (List.mem_replicate.mp h).2
        exact .inr ⟨rfl, rfl⟩
    refine .intro ?_ ?_ ?_
    · intro m hm
      have hm' : m ∈ c.tail ∨ m ∈ List.replicate (n - countNamed q c) (emptyElement q) := by
        cases c with
        | nil => exact .inr (List.mem_of_mem_tail hm)
        | cons first rest => exact List.mem_append.mp hm
      rcases hm' with hm | hm
      · exact texts m hm
      · rw [(List.mem_replicate.mp hm).2]
        rfl
    · intro t k h
      rcases hmem t k h with h | ⟨rfl, rfl⟩
      · exact tags t k h
      · exact ⟨hq, rfl⟩
    · intro t k h
      rcases hmem t k h with h | ⟨rfl, rfl⟩
      · exact inside t k h
      · exact Xml.plain_nil _

/-- Elements of a name may change inside, in a way that keeps what is in them plain. -/
theorem keepsPlain_eachNamed {q : QName} {fs : List Edit}
    (hfs : ∀ f ∈ fs, KeepsPlain (fun chain => A (q :: chain)) f) : KeepsPlain A (eachNamed q fs) := by
  intro c hc
  have hchanges := eachNamed_changes (q := q) fs c
  cases hc with
  | intro texts tags inside =>
    refine .intro ?_ ?_ ?_
    · intro n hn
      have htails : (eachNamed q fs c).content.tail.map Node.isText = c.tail.map Node.isText := by
        rw [List.map_tail, List.map_tail, hchanges.map_isText]
      have hmem : n.isText ∈ c.tail.map Node.isText := htails ▸ List.mem_map_of_mem hn
      obtain ⟨m, hm, hsame⟩ := List.mem_map.mp hmem
      rw [← hsame]
      exact texts m hm
    · intro t k' h
      obtain ⟨k, hk, -⟩ := hchanges.exists_element h
      exact tags t k hk
    · intro t k' h
      obtain ⟨k, hk, hsame | ⟨rfl, i, hsame | ⟨f, hf, hchange⟩⟩⟩ := hchanges.exists_element h
      · rw [hsame]
        exact inside t k hk
      · rw [hsame]
        exact inside t k hk
      · rw [hchange]
        exact hfs f hf k (inside t k hk)

/-- A text without a bracket can only become the text in front. -/
theorem keepsPlain_place {root : Root} {text : String} (htext : '<' ∉ text.toList) :
    KeepsPlain A (.whole (Fragment.place root text)) := by
  intro c hc
  unfold whole
  rcases Fragment.place_of_no_bracket root htext with hplace | ⟨value, -, hplace⟩
  · rw [hplace]
    exact hc
  · rw [hplace]
    exact hc.setLeadingText value

end Edit

/-! ## 3. Descents

The waypoints that are left are the chains that are allowed.  A waypoint `.` takes nothing off. -/

/-- The names that a waypoint says, if it says one. -/
def Waypoint.name? : Waypoint → Option Name
  | .here => none
  | .child name => some name

/-- The names that a destination spells. -/
def Destination.names (d : Destination) : List Name := d.waypoints.filterMap Waypoint.name?

namespace Descent

/-- Every chain that some of the first names of the waypoints stand for is one of `A`. -/
def Allows (d : Descent) (waypoints : List Waypoint) (A : List QName → Prop) : Prop :=
  ∀ names chain, names <+: waypoints.filterMap Waypoint.name? → names.mapM d.root.resolver.elementName = .ok chain →
    chain ≠ [] → A chain

variable {d : Descent} {A : List QName → Prop} {waypoints : List Waypoint} {name : Name} {q : QName}

/-- The first name of the waypoints is a chain, and so are the others after it. -/
theorem Allows.child (h : d.Allows (.child name :: waypoints) A) (hq : d.resolve name = .ok q) :
    A [q] ∧ d.Allows waypoints fun chain => A (q :: chain) := by
  have hname : d.root.resolver.elementName name = .ok q := mapError_ok.mp hq
  have hcons : ∀ names chain, names <+: waypoints.filterMap Waypoint.name? →
      names.mapM d.root.resolver.elementName = .ok chain → A (q :: chain) := by
    intro names chain hprefix hchain
    refine h (name :: names) (q :: chain) ?_ (mapM_cons_ok.mpr ⟨q, chain, hname, hchain, rfl⟩) (List.cons_ne_nil _ _)
    exact List.cons_prefix_cons.mpr ⟨rfl, hprefix⟩
  exact ⟨hcons [] [] List.nil_prefix rfl, fun names chain hprefix hchain _ => hcons names chain hprefix hchain⟩

/-- **A descent keeps a content plain if the chains that its waypoints spell are allowed.** -/
theorem compositional_keepsPlain (d : Descent) :
    d.Compositional (fun _ => True) fun ws f => ∀ A, d.Allows ws A → Edit.KeepsPlain A f where
  done := fun _ _ _ _ hc => hc
  fail := fun _ _ _ _ _ _ hc => hc
  andThen := fun hf hg A hA => (hf A hA).andThen (hg A hA)
  here := id
  pairing := fun hq hfs A hA => by
    obtain ⟨hone, hrest⟩ := hA.child hq
    exact (Edit.keepsPlain_pad hone _).andThen (Edit.keepsPlain_eachNamed fun f hf => hfs f hf _ hrest)
  allNamed := fun hq hf A hA => by
    obtain ⟨hone, hrest⟩ := hA.child hq
    refine (Edit.keepsPlain_pad hone _).andThen fun c => Edit.keepsPlain_eachNamed (fun g hg => ?_) c
    rw [(List.mem_replicate.mp hg).2]
    exact hf _ hrest

theorem keepsPlain_follow {text : String} (htemplate : d.rule.template = .parse text) (htext : '<' ∉ text.toList)
    (hallows : d.Allows d.rule.destination.waypoints A) (context : Xml.Address) :
    Edit.KeepsPlain A
      (d.follow (Route.ofPaths d.rule.source.steps d.rule.destination.waypoints) context) := by
  refine follow_of_compositional d.compositional_keepsPlain _ _ (raisesOnly_any _ _) (fun m _ => ?_) A hallows
  refine render_of_compositional d.compositional_keepsPlain [] (fun _ _ => trivial) (fun _ _ _ _ _ _ => trivial) ?_
  rintro rendered ⟨-, row, -, -, hrendered⟩ B -
  exact Edit.keepsPlain_place (not_mem_of_renderRow htemplate htext hrendered)

end Descent

/-! ## 4. Runs

For all calls of a run, and the root with them. -/

namespace Run

/-- The chains that the destinations of some rules begin with. -/
def Spelled (root : Root) (rules : List Rule) (chain : List QName) : Prop :=
  ∃ rule ∈ rules, ∃ names, names <+: rule.destination.names ∧ names.mapM root.resolver.elementName = .ok chain

/-- Text rules keep the content plain, whatever comes of them. -/
theorem plain_after {r : Run} {calls : List Call}
    (htexts : ∀ rule ∈ calls.flatMap Call.toList, ∃ text, rule.template = .parse text ∧ '<' ∉ text.toList)
    (hcontent : Plain (Spelled r.root (calls.flatMap Call.toList)) r.content) :
    Plain (Spelled r.root (calls.flatMap Call.toList)) (r.after calls).content := by
  refine content_after_induction (fun rule hrule c hc => ?_) hcontent
  obtain ⟨text, htemplate, htext⟩ := htexts rule hrule
  have hallows : (r.descent rule).Allows rule.destination.waypoints (Spelled r.root (calls.flatMap Call.toList)) :=
    fun names chain hprefix hchain _ => ⟨rule, hrule, names, hprefix, hchain⟩
  exact Descent.keepsPlain_follow htemplate htext hallows r.sourceRoot c hc

end Run

/-- **Text rules build nothing but what their destinations spell**, whatever they are called to do and whatever
comes of the calls.  In every element, the root included, only the first child can be a text.  All elements but the
root are without attributes, and the names from below the root down to them are what the first names of one of the
destinations stand for. -/
theorem document_spelled {source : Xml.Document} {sourceRoot : Xml.Address} {sourceNamespaces : Namespaces}
    {vocabulary : Vocabulary} {root : Root} {fresh : Run}
    (hstart : Run.start source sourceRoot sourceNamespaces vocabulary root = .ok fresh) (calls : List Call)
    (htexts : ∀ rule ∈ calls.flatMap Call.toList, ∃ text, rule.template = .parse text ∧ '<' ∉ text.toList)
    {a : Xml.Address} {t : Tag} {k : List Node}
    (ha : (fresh.after calls).document.node? a = some (.element t k)) :
    TextInFront k ∧ (a ≠ Run.documentRoot → t.attributes = [] ∧
      Run.Spelled root (calls.flatMap Call.toList)
        (((Xml.tagsDownTo (fresh.after calls).document.content a).map Tag.name).tail)) := by
  obtain ⟨tag, htag, hfresh⟩ := bind_ok.mp hstart
  cases hfresh
  have hplain := Run.plain_after (r := ⟨source, sourceRoot, sourceNamespaces, vocabulary, root, tag, []⟩) htexts
    (Xml.plain_nil _)
  generalize Run.after _ calls = r at ha hplain ⊢
  have hdocument : r.document.content = [.element r.tag r.content] := rfl
  rw [Xml.Document.node?, hdocument] at ha
  rw [hdocument]
  match a with
  | [] => cases ha
  | [0] =>
    cases ha
    exact ⟨hplain.texts, fun hne => absurd rfl hne⟩
  | 0 :: j :: a =>
    have hbelow : Xml.nodeAt? r.content (j :: a) = some (.element t k) := ha
    obtain ⟨hchain, hattributes, htexts⟩ := hplain.of_nodeAt hbelow
    exact ⟨htexts, fun _ => ⟨hattributes, hchain⟩⟩
  | [i + 1] => cases ha
  | (i + 1) :: j :: a => cases ha

/-- After a rule that fails half-way and two that share an element: the first `q` that one of them makes in it. -/
theorem spreading_spelled :
    let calls := [.rule Sample.halting, .rules [Sample.merging, Sample.spreading]]
    let document := ((Sample.run []).after calls).document
    document.node? [0, 2, 1] = some (Sample.element "q" []) ∧
      Run.Spelled Sample.root [Sample.halting, Sample.merging, Sample.spreading] [⟨"", "p"⟩, ⟨"", "q"⟩] := by
  intro calls document
  have hstart : Run.start Sample.source [0] .empty .empty Sample.root = .ok (Sample.run []) := by rfl
  have htexts : ∀ rule ∈ calls.flatMap Call.toList, ∃ text, rule.template = .parse text ∧ '<' ∉ text.toList := by
    intro rule hrule
    obtain rfl | rfl | rfl : rule = Sample.halting ∨ rule = Sample.merging ∨ rule = Sample.spreading := by
      simpa [calls, Call.toList] using hrule
    all_goals exact ⟨"%s", rfl, by decide⟩
  have hnode : document.node? [0, 2, 1] = some (Sample.element "q" []) := by rfl
  exact ⟨hnode, ((document_spelled hstart calls htexts hnode).2 (by decide)).2⟩

/-! ## Summary

**What is established.**  After any calls with text rules alone, every element below the root is reached by names that a
destination spells, none but the root has attributes, and texts stand in front.

**What is not.**  One rule that places fragments is enough for none of it to hold, since a fragment may bring what it
likes. -/

end Regraft
