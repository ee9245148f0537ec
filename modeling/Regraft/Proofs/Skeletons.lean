import Regraft.Proofs.ElementContent
import Regraft.Proofs.Insertion
import Regraft.Proofs.Pruning
/-!
# Contents without their texts

What is left of a content without its texts at every depth: elements, comments and instructions, nested and ordered as
they were (`skeleton`).  Runs of text make no difference to it, and to whether there is a content at all none but that
they must be decoded: what tokens spell is spelled without their runs of text too (`Content.markup`), and with any
others in between (`Content.of_markup`).
-/

namespace Regraft.Xml

/-! ## 1. Skeletons

Adding a node or joining a text to a content adds the skeleton of what is added, and pruning leaves the skeleton alone.
-/

mutual

/-- A node without the texts in it. -/
def Node.skeleton : Node → Node
  | .element t content => .element t (Xml.skeleton content)
  | n => n

/-- A content without texts, at every depth. -/
def skeleton : List Node → List Node
  | [] => []
  | n :: rest => if n.isText then skeleton rest else n.skeleton :: skeleton rest

end

theorem skeleton_append (c c' : List Node) : skeleton (c ++ c') = skeleton c ++ skeleton c' := by
  induction c with
  | nil => rw [skeleton, List.nil_append, List.nil_append]
  | cons n c ih =>
    rw [List.cons_append, skeleton, skeleton, ih]
    split <;> rfl

theorem skeleton_appendNode (c : List Node) (n : Node) : skeleton (appendNode c n) = skeleton c ++ skeleton [n] := by
  rcases List.eq_nil_or_concat c with rfl | ⟨c, m, rfl⟩
  · rw [skeleton, List.nil_append]
    rfl
  · rw [List.concat_eq_append, appendNode_concat, skeleton_append, skeleton_append, List.append_assoc,
      ← skeleton_append [m]]
    congr 1
    cases m with
    | text value =>
      cases n with
      | text value' => simp [joinNodes, skeleton, Node.isText]
      | element t k => rfl
      | comment value' => rfl
      | instruction target data => rfl
    | element t k => rfl
    | comment value => rfl
    | instruction target data => rfl

theorem skeleton_appendNodes (c c' : List Node) : skeleton (appendNodes c c') = skeleton c ++ skeleton c' := by
  induction c' generalizing c with
  | nil => rw [appendNodes, List.foldl_nil, skeleton, List.append_nil]
  | cons n c' ih =>
    show skeleton (appendNodes (appendNode c n) c') = _
    rw [ih, skeleton_appendNode, List.append_assoc, ← skeleton_append]
    rfl

mutual

theorem skeleton_pruneNode : ∀ n : Node, (Fragment.pruneNode n).skeleton = n.skeleton
  | .element t k => by
    rw [Fragment.pruneNode, Node.skeleton, Node.skeleton, skeleton_prune]
  | .text value => by simp only [Fragment.pruneNode]
  | .comment value => by simp only [Fragment.pruneNode]
  | .instruction target data => by simp only [Fragment.pruneNode]

/-- The blank texts that are taken out of a content are texts. -/
theorem skeleton_prune (lays : Bool) : ∀ c : List Node, skeleton (Fragment.pruneContent lays c) = skeleton c
  | [] => by rw [Fragment.pruneContent]
  | n :: c => by
    rw [Fragment.pruneContent, skeleton]
    split
    · rename_i hblank
      rw [Bool.and_eq_true] at hblank
      rw [if_pos (Fragment.isText_of_isBlankText hblank.2), skeleton_prune lays c]
    · rw [skeleton, Fragment.isText_pruneNode, skeleton_pruneNode n, skeleton_prune lays c]

end

theorem skeleton_cons_text (value : String) (ns : List Node) : skeleton (.text value :: ns) = skeleton ns := by
  rw [skeleton]
  rfl

theorem skeleton_cons_element (t : Tag) (k ns : List Node) :
    skeleton (.element t k :: ns) = .element t (skeleton k) :: skeleton ns := by
  rw [skeleton, Node.skeleton]
  rfl

namespace Reader

open Token (Decodes markupOf)

/-! ## 2. Contents of tokens without runs of text

Leaving runs of text out of the tokens, and putting others in, changes nothing but texts.  A run that cannot be decoded
is an error, so that is a condition on those that are put in. -/

variable {s : Scope} {ids ids' : List String} {ts : List Token} {ns : List Node}

theorem Content.decodes (h : Content s ids ts ns ids') : Decodes ts := by
  induction h with
  | nil => exact fun _ h => absurd h List.not_mem_nil
  | @node _ _ _ _ _ _ ts _ hspells _ ih =>
    intro raw hraw
    rcases List.mem_cons.mp hraw with rfl | hraw
    · cases hspells with
      | text hvalue =>
        rw [hvalue]
        rfl
    · exact ih raw hraw
  | element _ _ _ _ _ ihinside ihrest =>
    rw [Token.decodes_cons rfl, Token.decodes_append, Token.decodes_cons rfl]
    exact ⟨ihinside, ihrest⟩

/-- **What is spelled is spelled without the runs of text**, but for the texts. -/
theorem Content.markup (h : Content s ids ts ns ids') :
    ∃ ns', Content s ids (markupOf ts) ns' ids' ∧ skeleton ns' = skeleton ns := by
  induction h with
  | nil => exact ⟨[], .nil, rfl⟩
  | @node _ _ _ _ t n ts ns hspells _ ih =>
    obtain ⟨ns', hcontent, hsame⟩ := ih
    by_cases ht : t.isText = true
    · have hmarkup : markupOf (t :: ts) = markupOf ts := List.filter_cons_of_neg (by simp [ht])
      cases hspells with
      | text hvalue => exact ⟨ns', hmarkup ▸ hcontent, by rw [skeleton_cons_text, hsame]⟩
      | literal value => cases ht
      | comment value => cases ht
      | instruction target data => cases ht
      | emptyTag htag hids => cases ht
    · have hmarkup : markupOf (t :: ts) = t :: markupOf ts := List.filter_cons_of_pos (by simp [ht])
      exact ⟨n :: ns', hmarkup ▸ .node hspells hcontent, by rw [skeleton, skeleton, hsame]⟩
  | @element _ _ _ _ _ _ name name' as t ts us k ns htag hids _ hname _ ihinside ihrest =>
    obtain ⟨k', hinside, hk⟩ := ihinside
    obtain ⟨ns', hrest, hns⟩ := ihrest
    have hmarkup : markupOf (.startTag name as false :: (ts ++ .endTag name' :: us)) =
        .startTag name as false :: (markupOf ts ++ .endTag name' :: markupOf us) := by
      simp [markupOf, Token.isText]
    refine ⟨.element t (appendNodes [] k') :: ns', hmarkup ▸ .element htag hids hinside hname hrest, ?_⟩
    rw [skeleton_cons_element, skeleton_cons_element, skeleton_appendNodes, skeleton_appendNodes, hk, hns]

/-- Runs of text before a content that can be decoded are texts before what it spells. -/
theorem Content.of_texts {texts : List Token} (htexts : ∀ t ∈ texts, t.isText = true) (hdecodes : Decodes texts)
    (h : Content s ids ts ns ids') : ∃ ns', Content s ids (texts ++ ts) ns' ids' ∧ skeleton ns' = skeleton ns := by
  induction texts with
  | nil => exact ⟨ns, h, rfl⟩
  | cons t texts ih =>
    obtain ⟨ns', hcontent, hsame⟩ := ih (fun u hu => htexts u (List.mem_cons_of_mem _ hu))
      fun raw hraw => hdecodes raw (List.mem_cons_of_mem _ hraw)
    cases t with
    | text raw =>
      obtain ⟨value, hvalue⟩ := Option.isSome_iff_exists.mp (hdecodes raw List.mem_cons_self)
      exact ⟨_, .node (.text hvalue) hcontent, by rw [skeleton_cons_text, hsame]⟩
    | startTag name as isEmpty => cases htexts _ List.mem_cons_self
    | endTag name => cases htexts _ List.mem_cons_self
    | literal value => cases htexts _ List.mem_cons_self
    | comment value => cases htexts _ List.mem_cons_self
    | instruction target data => cases htexts _ List.mem_cons_self

/-- What the first of the other tokens stands after. -/
theorem exists_texts {t : Token} {ms : List Token} (h : markupOf ts = t :: ms) :
    ∃ texts rest, ts = texts ++ t :: rest ∧ (∀ u ∈ texts, u.isText = true) ∧ t.isText = false ∧ markupOf rest = ms := by
  obtain ⟨texts, rest, rfl, htexts, ht, hrest⟩ := List.filter_eq_cons_iff.mp h
  exact ⟨texts, rest, rfl, fun u hu => by simpa using htexts u hu, by simpa using ht, hrest⟩

/-- **What is spelled without runs of text is spelled with them**, but for the texts, if they can be decoded. -/
theorem Content.of_markup {ms : List Token} (h : Content s ids ms ns ids') (hms : markupOf ts = ms)
    (hdecodes : Decodes ts) : ∃ ns', Content s ids ts ns' ids' ∧ skeleton ns' = skeleton ns := by
  induction h generalizing ts with
  | nil =>
    have htexts : ∀ t ∈ ts, t.isText = true := by simpa using List.filter_eq_nil_iff.mp hms
    rw [← List.append_nil ts]
    exact Content.of_texts htexts hdecodes .nil
  | @node _ _ _ _ t n ms ns hspells _ ih =>
    obtain ⟨texts, rest, rfl, htexts, -, hrest⟩ := exists_texts hms
    obtain ⟨htextsDecode, hdecodes⟩ := Token.decodes_append.mp hdecodes
    obtain ⟨ns', hcontent, hsame⟩ := ih hrest fun raw hraw => hdecodes raw (List.mem_cons_of_mem _ hraw)
    obtain ⟨all, hall, hskeleton⟩ := Content.of_texts htexts htextsDecode (.node hspells hcontent)
    exact ⟨all, hall, by rw [hskeleton, skeleton, skeleton, hsame]⟩
  | @element _ _ _ _ _ _ name name' as t ms ms' k ns htag hids _ hname _ ihinside ihrest =>
    obtain ⟨texts, rest, rfl, htexts, -, hrest⟩ := exists_texts hms
    obtain ⟨inside, closing, rfl, hinside, hclosing⟩ := List.filter_eq_append_iff.mp hrest
    obtain ⟨last, us, rfl, hlast, -, hus⟩ := exists_texts hclosing
    obtain ⟨htextsDecode, hdecodes⟩ := Token.decodes_append.mp hdecodes
    have hdecodes : Decodes (inside ++ last ++ (.endTag name' :: us)) := fun raw hraw =>
      hdecodes raw (List.mem_cons_of_mem _ (by simpa using hraw))
    obtain ⟨hinsideDecode, hdecodes⟩ := Token.decodes_append.mp hdecodes
    -- The runs of text before the end tag are of the element.
    have hwhole : markupOf (inside ++ last) = ms := by
      have hnone : markupOf last = [] := List.filter_eq_nil_iff.mpr fun u hu => by simp [hlast u hu]
      rw [Token.markupOf_append, hnone, List.append_nil]
      exact hinside
    obtain ⟨k', hk, hksame⟩ := ihinside hwhole hinsideDecode
    obtain ⟨ns', hns, hsame⟩ := ihrest hus fun raw hraw => hdecodes raw (List.mem_cons_of_mem _ hraw)
    obtain ⟨all, hall, hskeleton⟩ := Content.of_texts htexts htextsDecode (.element htag hids hk hname hns)
    refine ⟨all, by simpa using hall, ?_⟩
    rw [hskeleton, skeleton_cons_element, skeleton_cons_element, skeleton_appendNodes, skeleton_appendNodes, hksame,
      hsame]

/-! ## 3. Contents of texts

The same of texts that are divided into such tokens. -/

/-- **Content has the skeleton that its other tokens spell.** -/
theorem IsContent.exists_marks {text : List Char} {nodes : List Node} (h : IsContent s text nodes) :
    ∃ ms ns ids, Token.Marks text ms ∧ Content s [] ms ns ids ∧ skeleton ns = skeleton nodes := by
  obtain ⟨ts, ns, ids, hdivided, hcontent, rfl⟩ := h
  obtain ⟨ns', hmarkup, hsame⟩ := hcontent.markup
  refine ⟨markupOf ts, ns', ids, ⟨ts, hdivided, hcontent.decodes, rfl⟩, hmarkup, ?_⟩
  rw [hsame, skeleton_appendNodes]
  rfl

/-- **What has tokens that spell content but for runs of text is content**, with the same skeleton. -/
theorem Content.exists_isContent {text : List Char} {ms : List Token} (h : Content s [] ms ns ids)
    (hmarks : Token.Marks text ms) : ∃ nodes, IsContent s text nodes ∧ skeleton nodes = skeleton ns := by
  obtain ⟨ts, hdivided, hdecodes, hms⟩ := hmarks
  obtain ⟨ns', hcontent, hsame⟩ := h.of_markup hms hdecodes
  refine ⟨_, ⟨ts, ns', ids, hdivided, hcontent, rfl⟩, ?_⟩
  rw [skeleton_appendNodes, hsame, skeleton, List.nil_append]

end Reader

end Regraft.Xml
