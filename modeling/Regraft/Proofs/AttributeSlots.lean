import Regraft.Proofs.TextSlots
/-!
# Slots in attributes

A slot of a template stands in an attribute if what comes before it ends within a value in double quotes
(`Token.WithinValue`).  A value without quotes goes on with the value there: the tag is read with the same attributes,
of which one has the value in it, and all else in the content is the same (`Template.value_placed`).

Escaping leaves quotes as they are, so with a quote the value of the attribute ends.  What comes after it is read as
other attributes, if it can be read at all (`Template.attribute_made`).

The argument goes through reading in its three stages, and each of them has to be told that one value is different.

* Dividing into tokens: the tag has the same attributes but for one raw value, and all other tokens are the same
  (`WithinValue.scan`).
* Reading the tag: its names are resolved alike, and the tag differs in that one value (`tag_of_value`).  Here the
  attribute must be one that declares nothing, as a declaration would change what the other names stand for.
* Taking the tokens: the content differs in that value, wherever the element stands in it (`context_of_tag`).  Here the
  attribute must be no identifier, as an identifier that is used twice is an error.
-/

namespace Regraft

open Xml (Attribute Context Node QName RawAttribute RawName Scope Tag Token)
open Xml.Reader (Content IsContent State Uniform)

/-- Quotes are not escaped, and none are made. -/
theorem Text.quote_not_mem_escapeChars {s : List Char} (hs : '"' ∉ s) : '"' ∉ escapeChars s := by
  intro h
  rcases mem_replaceAll_singleton h with h | ⟨h, -⟩
  · exact absurd h (by decide)
  · rcases mem_replaceAll_singleton h with h | ⟨h, -⟩
    · exact absurd h (by decide)
    · rcases mem_replaceAll_singleton h with h | ⟨h, -⟩
      · exact absurd h (by decide)
      · exact hs h

namespace Xml.Token

/-! ## 1. Values that tags go on in

What stands before the slot ends within a value, so that its last token is not complete.  The relation lists what the
incomplete tag has so far, part by part.  If the whole can be divided, then the quote that closes the value comes from
what stands behind the slot, and it is the first quote there; so a text that has none may be put in between. -/

/-- A text that ends within the value of an attribute, in double quotes: `others` are the tokens before its tag but for
runs of text, `left` the attributes before it, and `a` is what there is of the value. -/
inductive WithinValue (others : List Token) (name : RawName) (left : List RawAttribute) (attr : RawName)
    (a : List Char) : List Char → Prop where
  | mk {outer tag s blanks written equals : List Char} : Marks outer others → IsRawName tag name → Attributes s left →
      blanks ≠ [] → AllSpace blanks → IsRawName written attr → IsEquals equals → '"' ∉ a →
      WithinValue others name left attr a
        (outer ++ '<' :: (tag ++ (s ++ (blanks ++ (written ++ (equals ++ '"' :: a))))))

variable {others : List Token} {name attr : RawName} {left : List RawAttribute} {a before : List Char}

/-- A value in double quotes goes on to the next of them. -/
theorem exists_closing {after value rest : List Char} (ha : '"' ∉ a)
    (h : quotedValue? ('"' :: (a ++ after)) = some (value, rest)) :
    ∃ b, '"' ∉ b ∧ after = b ++ '"' :: rest ∧ value = a ++ b ∧
      (value.all fun c => isXmlChar c && c != '<') = true := by
  obtain ⟨quoted, hquoted, heq⟩ := quotedValue_eq_some.mp h
  obtain ⟨-, hvalue, hall⟩ := hquoted
  rename_i q
  rw [List.cons_append, List.append_assoc, List.singleton_append] at heq
  obtain ⟨rfl, heq⟩ := List.cons.inj heq
  rcases List.append_eq_append_iff.mp heq with ⟨b, rfl, hafter⟩ | ⟨c, rfl, hafter⟩
  · exact ⟨b, fun hmem => hvalue (List.mem_append_right _ hmem), hafter, rfl, hall⟩
  · cases c with
    | nil => exact ⟨[], List.not_mem_nil, hafter.symm, by simp, hall⟩
    | cons d c =>
      obtain rfl : '"' = d := (List.cons.inj hafter).1
      exact absurd (by simp) ha

/-- The attributes of a tag that goes on in a value. -/
theorem exists_right {s blanks written equals after rest : List Char} {as : List RawAttribute} {isEmpty : Bool}
    {fuel : Nat} (hs : Attributes s left) (hne : blanks ≠ []) (hspace : AllSpace blanks)
    (hwritten : IsRawName written attr) (hequals : IsEquals equals) (ha : '"' ∉ a)
    (h : attributes? fuel (s ++ (blanks ++ (written ++ (equals ++ '"' :: (a ++ after))))) =
      some ((as, isEmpty), rest)) :
    ∃ b u blanks' e right, '"' ∉ b ∧ after = b ++ '"' :: (u ++ (blanks' ++ (e ++ rest))) ∧
      ((a ++ b).all fun c => isXmlChar c && c != '<') = true ∧ Attributes u right ∧ AllSpace blanks' ∧
      IsTagEnd e isEmpty ∧ as = left ++ ⟨attr, a ++ b⟩ :: right := by
  obtain ⟨u, blanks', e, hu, hblanks', he, htext⟩ := attributes_sound h
  have hlt : as.length < (as.length + 1) + left.length := by omega
  have hmore := attributes_complete hu hblanks' he rest hlt
  have hquote : ∀ c ∈ ('"' :: (a ++ after)).head?, isSpace c = false := by
    intro c hc
    obtain rfl : '"' = c := by simpa using hc
    decide
  rw [← htext, attributes_append hs, attributes_step hne hspace hwritten hequals hquote] at hmore
  obtain ⟨⟨⟨as', isEmpty'⟩, rest'⟩, hmore, heq⟩ := Option.map_eq_some_iff.mp hmore
  obtain ⟨⟨value, afterValue⟩, hvalue, hmore⟩ := Option.bind_eq_some_iff.mp hmore
  obtain ⟨⟨⟨right, isEmpty''⟩, rest''⟩, hright, heq'⟩ := Option.map_eq_some_iff.mp hmore
  cases heq'
  cases heq
  obtain ⟨b, hb, rfl, rfl, hall⟩ := exists_closing ha hvalue
  obtain ⟨u', blanks'', e', hu', hblanks'', he', rfl⟩ := attributes_sound hright
  exact ⟨b, u', blanks'', e', right, hb, rfl, hall, hu', hblanks'', he', rfl⟩

/-- **A tag that goes on in a value goes on with any other text in it**, as long as there are no quotes and brackets in
that text. -/
theorem WithinValue.scan (h : WithinValue others name left attr a before) {after : List Char} {ts : List Token}
    (hscan : scan? (before ++ after) = some ts) :
    ∃ os b right isEmpty us rest, Decodes os ∧ markupOf os = others ∧ '"' ∉ b ∧ after = b ++ '"' :: rest ∧
      ∀ e : List Char, '"' ∉ e → '<' ∉ e → e.all isXmlChar = true →
        scan? (before ++ (e ++ after)) =
          some (os ++ .startTag name (left ++ ⟨attr, a ++ (e ++ b)⟩ :: right) isEmpty :: us) := by
  obtain ⟨houter, htag, hs, hne, hspace, hwritten, hequals, ha⟩ := h
  rename_i outer tag s blanks written equals
  obtain ⟨os, hos, hdecodes, rfl⟩ := houter
  -- The incomplete tag and what follows it, bracketed from the right as the scanner goes.
  have hbefore (after : List Char) :
      outer ++ '<' :: (tag ++ (s ++ (blanks ++ (written ++ (equals ++ '"' :: a))))) ++ after =
        outer ++ '<' :: (tag ++ (s ++ (blanks ++ (written ++ (equals ++ '"' :: (a ++ after)))))) := by simp
  have hname {tail : List Char} : ∀ c ∈ (s ++ (blanks ++ tail)).head?, isNameChar c = false := by
    refine hs.head fun c hc => head_not_name_of_space hspace (e := []) (by simp) c ?_
    obtain ⟨d, blanks, rfl⟩ := List.exists_cons_of_ne_nil hne
    simpa using hc
  rw [hbefore, hos.scan (by simp)] at hscan
  obtain ⟨ts₁, hts₁, rfl⟩ := Option.map_eq_some_iff.mp hscan
  rw [scan_eq (List.cons_ne_nil _ _), htag.next, startTag?, rawName_eq_some.mpr ⟨tag, rfl, htag, hname⟩,
    Option.bind_eq_bind, Option.bind_some] at hts₁
  obtain ⟨⟨t, rest⟩, ht, hts₁⟩ := Option.bind_eq_some_iff.mp hts₁
  obtain ⟨⟨⟨as, isEmpty⟩, rest'⟩, has, ht⟩ := Option.bind_eq_some_iff.mp ht
  cases ht
  obtain ⟨us, hus, rfl⟩ := Option.map_eq_some_iff.mp hts₁
  obtain ⟨b, u, blanks', e, right, hb, rfl, hall, hu, hblanks', he, rfl⟩ :=
    exists_right hs hne hspace hwritten hequals ha has
  refine ⟨os, b, right, isEmpty, us, _, hdecodes, rfl, hb, rfl, fun v hquote hbracket hxml => ?_⟩
  -- With the text put in, the value ends at the same quote.
  have hquoted : IsQuoted ('"' :: (a ++ (v ++ b) ++ ['"'])) (a ++ (v ++ b)) := by
    refine .mk (.inl rfl) (by simp [ha, hb, hquote]) ?_
    rw [List.all_append, Bool.and_eq_true] at hall
    have hvalue : (v.all fun c => isXmlChar c && c != '<') = true := by
      rw [List.all_eq_true] at hxml ⊢
      intro c hc
      have hne : c ≠ '<' := fun heq => hbracket (heq ▸ hc)
      simp [hxml c hc, hne]
    rw [List.all_append, List.all_append, hall.1, hall.2, hvalue]
    rfl
  have hmarkup := IsMarkup.startTag htag (hs.append (.cons (.mk hne hspace hwritten hequals hquoted) hu)) hblanks' he
  have htext : outer ++ '<' :: (tag ++ (s ++ (blanks ++ (written ++ (equals ++ '"' :: a))))) ++
        (v ++ (b ++ '"' :: (u ++ (blanks' ++ (e ++ rest))))) =
      outer ++ (('<' :: (tag ++ (s ++ (blanks ++ (written ++ (equals ++ '"' :: (a ++ (v ++ b) ++ ['"']))) ++ u) ++
        (blanks' ++ e)))) ++ rest) := by simp
  rw [htext, hos.scan (by simp), scan_markup hmarkup, hus]
  rfl

end Xml.Token

namespace Xml.Reader

/-! ## 2. Tags that differ in one value

A tag is read from its raw attributes: some declare namespaces, the others have their names resolved and their values
decoded.  Each condition on a tag is one on the names alone, or on one value alone. -/

/-- The value of an attribute, whose name as written says whether its blanks are those of an identifier. -/
def attributeValue (attr : RawName) (decoded : List Char) : String :=
  .ofList (if attr = ⟨"xml", "id"⟩ then normalizeId decoded else decoded)

theorem attribute_eq_some {s : Scope} {a : RawAttribute} {x : Attribute} : attribute? s a = some x ↔
    ∃ n d, attributeName? s a.name = some n ∧ decodeValue a.value = some d ∧ x = ⟨n, attributeValue a.name d⟩ := by
  rw [attribute?]
  constructor
  · intro h
    obtain ⟨n, hn, h⟩ := Option.bind_eq_some_iff.mp h
    obtain ⟨d, hd, h⟩ := Option.bind_eq_some_iff.mp h
    exact ⟨n, d, hn, hd, (Option.some.inj h).symm⟩
  · rintro ⟨n, d, hn, hd, rfl⟩
    simp only [hn, hd, Option.bind_eq_bind, Option.bind_some]
    rfl

/-- Whether an attribute declares something is a matter of its name. -/
theorem declaration_congr {attr : RawName} {raw : List Char} (h : declaration? ⟨attr, raw⟩ = none) (raw' : List Char) :
    declaration? ⟨attr, raw'⟩ = none := by
  rw [declaration?] at h ⊢
  split at h
  · cases h
  · rename_i hprefix
    split at h
    · cases h
    · rename_i hlocal
      rw [if_neg hprefix, if_neg hlocal]

/-- The attributes that declare nothing. -/
def plainOf (as : List RawAttribute) : List RawAttribute := as.filter fun a => (declaration? a).isNone

theorem tag_eq_some {outer inner : Scope} {name : RawName} {as : List RawAttribute} {t : Tag} :
    tag? outer name as = some (t, inner) ↔ t.declarations = as.filterMap declaration? ∧
      inner = t.declarations.reverse ++ outer ∧ ((plainOf as).map (·.name)).Nodup ∧
      (plainOf as).mapM (attribute? inner) = some t.attributes ∧ elementName? inner name = some t.name := by
  rw [tag?]
  dsimp only
  rw [← plainOf]
  constructor
  · intro h
    split at h
    · cases h
    · rename_i hnodup
      obtain ⟨qualified, hqualified, h⟩ := Option.bind_eq_some_iff.mp h
      obtain ⟨q, hq, h⟩ := Option.bind_eq_some_iff.mp h
      cases h
      exact ⟨rfl, rfl, by simpa using hnodup, hqualified, hq⟩
  · rintro ⟨hdeclarations, rfl, hnodup, hqualified, hq⟩
    rw [hdeclarations] at hqualified hq ⊢
    simp only [hnodup, decide_true, Bool.not_true, Bool.false_eq_true, if_false, hqualified, hq, Option.bind_eq_bind,
      Option.bind_some]
    rw [← hdeclarations]
    rfl

theorem mapM_split_eq_some {α β : Type} {f : α → Option β} {as as' : List α} {a : α} {bs : List β} :
    (as ++ a :: as').mapM f = some bs ↔
      ∃ cs b cs', as.mapM f = some cs ∧ f a = some b ∧ as'.mapM f = some cs' ∧ bs = cs ++ b :: cs' := by
  rw [List.mapM_append, List.mapM_cons]
  simp only [Option.bind_eq_bind, Option.pure_def, Option.bind_eq_some_iff, Option.some.injEq]
  constructor
  · rintro ⟨cs, hcs, _, ⟨b, hb, cs', hcs', rfl⟩, rfl⟩
    exact ⟨cs, b, cs', hcs, hb, hcs', rfl⟩
  · rintro ⟨cs, b, cs', hcs, hb, hcs', rfl⟩
    exact ⟨cs, hcs, _, ⟨b, hb, cs', hcs', rfl⟩, rfl⟩

/-- **A tag with another value in one attribute** differs in that value alone. -/
theorem tag_of_value {outer inner : Scope} {name attr : RawName} {left right : List RawAttribute} {raw : List Char}
    {t : Tag} (hplain : declaration? ⟨attr, raw⟩ = none)
    (h : tag? outer name (left ++ ⟨attr, raw⟩ :: right) = some (t, inner)) :
    ∃ l n r d₀, attributeName? inner attr = some n ∧ decodeValue raw = some d₀ ∧
      t.attributes = l ++ ⟨n, attributeValue attr d₀⟩ :: r ∧ ∀ raw' d, decodeValue raw' = some d →
        tag? outer name (left ++ ⟨attr, raw'⟩ :: right) =
          some ({ t with attributes := l ++ ⟨n, attributeValue attr d⟩ :: r }, inner) := by
  have hdeclarations (raw' : List Char) : (left ++ ⟨attr, raw'⟩ :: right).filterMap declaration? =
      left.filterMap declaration? ++ right.filterMap declaration? := by
    rw [List.filterMap_append, List.filterMap_cons_none (declaration_congr hplain raw')]
  have hplains (raw' : List Char) :
      plainOf (left ++ ⟨attr, raw'⟩ :: right) = plainOf left ++ ⟨attr, raw'⟩ :: plainOf right := by
    rw [plainOf, List.filter_append, List.filter_cons_of_pos (by simp [declaration_congr hplain raw'])]
    rfl
  obtain ⟨hdecls, hinner, hnodup, hattributes, hname⟩ := tag_eq_some.mp h
  rw [hplains] at hnodup hattributes
  obtain ⟨l, x, r, hl, hx, hr, hsplit⟩ := mapM_split_eq_some.mp hattributes
  obtain ⟨n, d₀, hn, hd₀, rfl⟩ := attribute_eq_some.mp hx
  refine ⟨l, n, r, d₀, hn, hd₀, hsplit, fun raw' d hd => tag_eq_some.mpr ⟨?_, hinner, ?_, ?_, hname⟩⟩
  · rw [hdeclarations, ← hdeclarations raw]
    exact hdecls
  · rw [hplains]
    simpa using hnodup
  · rw [hplains]
    exact mapM_split_eq_some.mpr ⟨l, _, r, hl, attribute_eq_some.mpr ⟨n, d, hn, hd, rfl⟩, hr, rfl⟩

/-- The identifiers that a tag uses do not depend on the values of other attributes. -/
theorem useIds_of_value {ids : List String} {t : Tag} {l r : List Attribute} {n : QName} (hn : n ≠ idName)
    (value value' : String) :
    useIds? ids { t with attributes := l ++ ⟨n, value⟩ :: r } =
      useIds? ids { t with attributes := l ++ ⟨n, value'⟩ :: r } := by
  have hskip (value : String) : ((l ++ ⟨n, value⟩ :: r).filter (·.name == idName)) =
      (l.filter (·.name == idName)) ++ r.filter (·.name == idName) := by
    rw [List.filter_append, List.filter_cons_of_neg (by simpa using hn)]
  rw [useIds?, useIds?]
  dsimp only
  rw [hskip, hskip]

end Xml.Reader

/-! ## 3. Contents with the value of an attribute left open

The content is held with one value left open, in the same way as contexts hold a content with one node left open. -/

/-- A content in which the value of one attribute is left open. -/
structure Xml.ValueContext where
  context : Context
  tag : Tag
  left : List Attribute
  name : QName
  right : List Attribute
  content : List Node

namespace Xml.ValueContext

/-- The tag with a value for the attribute. -/
def tagWith (x : ValueContext) (value : String) : Tag :=
  { x.tag with attributes := x.left ++ ⟨x.name, value⟩ :: x.right }

/-- The content with a value for the attribute. -/
def fill (x : ValueContext) (value : String) : List Node := x.context.fill (.element (x.tagWith value) x.content)

/-- The content without the blank texts that lay it out. -/
def prune (x : ValueContext) : ValueContext :=
  { x with
    context := x.context.prune
    content := Fragment.pruneContent (x.content.any Node.isElement) x.content }

theorem prune_fill (x : ValueContext) (value : String) : Fragment.prune (x.fill value) = x.prune.fill value := by
  rw [fill, Fragment.prune_fill rfl, Fragment.pruneNode]
  rfl

end Xml.ValueContext

open Xml (ValueContext)

/-- **Tokens with another value in one attribute are read as the same content**, but for that value. -/
theorem Xml.Reader.context_of_tag {st₀ : State} {o : Xml.Reader.Opened} (hst₀ : st₀.opened = [o]) (ho : o.before = [])
    {os us : List Token} {name attr : RawName} {left right : List RawAttribute} {raw : List Char} {isEmpty : Bool}
    (hplain : Xml.Reader.declaration? ⟨attr, raw⟩ = none) {reversed : List Node} {ids : List String}
    (h : (os ++ .startTag name (left ++ ⟨attr, raw⟩ :: right) isEmpty :: us).foldlM State.take st₀ =
      some ⟨[o], reversed, ids⟩) :
    ∃ (x : ValueContext) (outer inner : Scope) (d₀ : List Char) (ids : List String),
      x.context.elementsBefore + 1 = st₀.elements + os.countP Token.isStartTag ∧
      Xml.Reader.attributeName? inner attr = some x.name ∧
      Xml.Reader.decodeValue raw = some d₀ ∧ reversed = (x.fill (Xml.Reader.attributeValue attr d₀)).reverse ∧
      ∀ raw' d, Xml.Reader.decodeValue raw' = some d →
        Xml.Reader.tag? outer name (left ++ ⟨attr, raw'⟩ :: right) =
          some (x.tagWith (Xml.Reader.attributeValue attr d), inner) ∧
        (x.name ≠ Xml.idName →
          (os ++ .startTag name (left ++ ⟨attr, raw'⟩ :: right) isEmpty :: us).foldlM State.take st₀ =
            some ⟨[o], (x.fill (Xml.Reader.attributeValue attr d)).reverse, ids⟩) := by
  rw [List.foldlM_append] at h
  obtain ⟨st, hst, h⟩ := Option.bind_eq_some_iff.mp h
  have hopened := Xml.Reader.opened_of_foldlM (by rw [hst₀]; rfl) hst h rfl
  rw [List.foldlM_cons] at h
  obtain ⟨st₁, hst₁, h⟩ := Option.bind_eq_some_iff.mp h
  obtain ⟨t, inner, ids₁, htag, hids, rfl⟩ := (Xml.Reader.take_tag_eq_some hopened).mp hst₁
  obtain ⟨l, n, k, d₀, hn, hd₀, hattributes, hother⟩ := Xml.Reader.tag_of_value hplain htag
  -- The states after the tag differ in the value alone, and so does what is read to the end.
  let T (value : String) : Tag := { t with attributes := l ++ ⟨n, value⟩ :: k }
  let F (m : String → Node) : Prop := ∃ content, m = fun value => .element (T value) content
  have ht : t = T (Xml.Reader.attributeValue attr d₀) := by
    show t = { t with attributes := _ }
    rw [← hattributes]
  have hname (value : String) : (T value).name = t.name := rfl
  have hcontent (content : List Node) : F fun value => .element (T value) content := ⟨content, rfl⟩
  have huniform := Uniform.begins hname hcontent (by simpa using hopened) inner ids₁ isEmpty
  rw [ht] at h hids
  obtain ⟨c, _, ⟨content, rfl⟩, hc, ids₂, hend⟩ :=
    huniform.exists_context (by rintro m ⟨content, rfl⟩ value; rfl) (Xml.Reader.attributeValue attr d₀) h ho
  refine ⟨⟨c, t, l, n, k, content⟩, st.scope, inner, d₀, ids₂, ?_, hn, hd₀, ?_, fun raw' d hd => ⟨hother raw' d hd, ?_⟩⟩
  · rw [← Xml.Reader.elements_foldlM hst]
    exact hc
  · exact congrArg State.reversed (Option.some.inj (h.symm.trans (hend _)))
  · intro hn
    have hids' := (Xml.Reader.useIds_of_value hn (Xml.Reader.attributeValue attr d) _).trans hids
    rw [List.foldlM_append, hst, Option.bind_eq_bind, Option.bind_some, List.foldlM_cons,
      (Xml.Reader.take_tag_eq_some hopened).mpr ⟨_, _, _, hother raw' d hd, hids', rfl⟩, Option.bind_eq_bind,
      Option.bind_some]
    exact hend _

/-- **A content with a slot in a value is the same with all values in it**, but for that one.  The tag is what the start
tag stands for as it is written with the value. -/
theorem Fragment.context_of_attribute {r : Root} {before b rest : List Char} {others : List Token} {name attr : RawName}
    {left : List RawAttribute} {a : List Char} {nodes : List Node}
    (hwithin : Token.WithinValue others name left attr a before) (hb : '"' ∉ b)
    (hplain : Xml.Reader.declaration? ⟨attr, a⟩ = none)
    (h : IsContent r.fragmentScope (before ++ (b ++ '"' :: rest)) nodes) :
    ∃ (x : ValueContext) (outer inner : Scope) (right : List RawAttribute) (d₀ : List Char),
      x.context.elementsBefore = others.countP Token.isStartTag ∧ Xml.Reader.attributeName? inner attr = some x.name ∧
      Xml.Reader.decodeValue (a ++ b) = some d₀ ∧
      nodes = x.fill (Xml.Reader.attributeValue attr d₀) ∧
      ∀ v d : List Char, '"' ∉ v → v.all Xml.isXmlChar = true →
        Xml.Reader.decodeValue (a ++ (Text.escapeChars v ++ b)) = some d →
        Xml.Reader.tag? outer name (left ++ ⟨attr, a ++ (Text.escapeChars v ++ b)⟩ :: right) =
          some (x.tagWith (Xml.Reader.attributeValue attr d), inner) ∧
        (x.name ≠ Xml.idName → IsContent r.fragmentScope (before ++ (Text.escapeChars v ++ (b ++ '"' :: rest)))
          (x.fill (Xml.Reader.attributeValue attr d))) := by
  obtain ⟨ts, ns, ids, hdivided, hcontent, rfl⟩ := h
  have hscan := Token.scan_eq_some.mpr hdivided
  obtain ⟨os, b', right, isEmpty, us, rest', -, hothers, hb', hafter, hall⟩ := hwithin.scan hscan
  obtain rfl : b = b' := by
    have hsame := congrArg (List.takeWhile (· != '"')) hafter
    rwa [(Text.takeWhile_bne_append hb rest).1, (Text.takeWhile_bne_append hb' rest').1] at hsame
  -- The fragment itself is the case of no text in between.
  have hnone := hall [] List.not_mem_nil List.not_mem_nil rfl
  rw [List.nil_append, List.nil_append, hscan] at hnone
  obtain rfl := Option.some.inj hnone
  obtain ⟨q, hq⟩ := exists_wrapperName r
  have hfold := @Content.foldlM_take _ _ _ _ _ hcontent (within r (.plain q)) rfl rfl rfl
  obtain ⟨x, outer, inner, d₀, ids', hx, hn, hd₀, hnodes, hvalues⟩ :=
    Xml.Reader.context_of_tag rfl rfl (Xml.Reader.declaration_congr hplain _) hfold
  refine ⟨x, outer, inner, right, d₀, ?_, hn, hd₀, List.reverse_injective hnodes, fun v d hquote hxml hd => ?_⟩
  · have hstart : (within r (.plain q)).elements = 1 := rfl
    rw [← hothers, Xml.Reader.countP_markupOf]
    omega
  · obtain ⟨htag, hread⟩ := hvalues _ d hd
    refine ⟨htag, fun hn => ?_⟩
    have hscan' := hall (Text.escapeChars v) (Text.quote_not_mem_escapeChars hquote) (Text.not_mem_escapeChars v)
      (by rwa [Xml.all_escapeChars])
    exact isContent_of_foldlM hq (Token.scan_eq_some.mp hscan') (hread hn)

/-! ## 4. Placing values

Both together: the text that a template makes is the text with an empty value, with the escaped value put in at the
slot.  What is decoded at the end is what stood before the slot, the value with its white space as blanks, and what
stood behind it. -/

namespace Template

open Xml.Reader (attributeValue decodeValue)

variable {r : Root} {raw : String} {first last : List Segment} {earlier later : List String}

/-- What is placed with one value among others. -/
theorem place_around (hsegments : (parse raw).segments = first ++ .slot :: last)
    (hearlier : earlier.length = first.count .slot) (hlater : later.length = last.count .slot) (value : String)
    (c : List Node) :
    ∃ text : String, text.toList = (fill first (earlier.map Text.escape)).toList ++
        (Text.escapeChars value.toList ++ (fill last (later.map Text.escape)).toList) ∧
      text = fill (parse raw).segments ((earlier ++ value :: later).map Text.escape) ∧
      (parse raw).place r (earlier ++ value :: later) c = Fragment.place r text c := by
  have hcount : (earlier ++ value :: later).length = (parse raw).slots := by
    rw [slots, hsegments]
    simp [hearlier, hlater]
  refine ⟨_, ?_, rfl, place_of_fill hcount c⟩
  rw [hsegments, List.map_append, fill_append _ _ (by simpa using hearlier), List.map_cons, fill]
  simp [Text.escape]

/-- **A value in the value of an attribute is placed where an empty one is**, and changes nothing else, unless there are
quotes in it.  The attribute declares nothing and is no identifier, and the slot does not stand in a reference; `a` and
`b` are what its value has before the slot and after it.  The tag is what the start tag stands for as it is written. -/
theorem value_placed (hprefixes : r.NamesPrefixes) (hmarkup : Fragment.isMarkup raw = true)
    (hsegments : (parse raw).segments = first ++ .slot :: last) (hearlier : earlier.length = first.count .slot)
    (hlater : later.length = last.count .slot) {others : List Token} {name attr : RawName} {left : List RawAttribute}
    {a b rest : List Char}
    (hwithin : Token.WithinValue others name left attr a (fill first (earlier.map Text.escape)).toList)
    (hclosed : (fill last (later.map Text.escape)).toList = b ++ '"' :: rest) (hb : '"' ∉ b)
    (ha : (decodeValue a).isSome = true) (hplain : Xml.Reader.declaration? ⟨attr, a⟩ = none) {c c₀ : List Node}
    (hplace : (parse raw).place r (earlier ++ "" :: later) c = .ok c₀) :
    ∃ (x : ValueContext) (outer inner : Scope) (right : List RawAttribute),
      x.context.elementsBefore = others.countP Token.isStartTag ∧ Xml.Reader.attributeName? inner attr = some x.name ∧
      (∃ d₀, decodeValue (a ++ b) = some d₀ ∧ c₀ = Xml.appendNodes c (x.fill (attributeValue attr d₀))) ∧
      ∀ value : String, '"' ∉ value.toList → value.toList.all Xml.isXmlChar = true →
        ∃ d, decodeValue (a ++ (Text.escapeChars value.toList ++ b)) = some d ∧
          Xml.Reader.tag? outer name (left ++ ⟨attr, a ++ (Text.escapeChars value.toList ++ b)⟩ :: right) =
            some (x.tagWith (attributeValue attr d), inner) ∧
          (x.name ≠ Xml.idName → (parse raw).place r (earlier ++ value :: later) c =
            .ok (Xml.appendNodes c (x.fill (attributeValue attr d)))) ∧
          (a.getLast? ≠ some '\r' → b.head? ≠ some '\n' → ∃ da db, decodeValue a = some da ∧ decodeValue b = some db ∧
            d = da ++ (Xml.Reader.normalized ' ' (fun c => if c = '\t' then ' ' else c) value.toList ++ db)) := by
  have hblank : ∀ c ∈ ['&', '<', '>'], (if c = '\t' then ' ' else c) = c := by simp
  obtain ⟨text₀, htext₀, hfill₀, hplace₀⟩ := place_around (r := r) hsegments hearlier hlater "" c
  rw [hplace₀] at hplace
  obtain ⟨hadmits, nodes, hnodes, rfl⟩ :=
    Fragment.content_of_place hprefixes (hfill₀ ▸ isMarkup_fill hmarkup _) hplace
  -- The text with the empty value is read by hypothesis, and it has the slot closed up.
  have hempty : Text.escapeChars "".toList = [] := by decide
  rw [htext₀, hempty, List.nil_append, hclosed] at hnodes
  obtain ⟨x, outer, inner, right, d₀, hx, hname, hd₀, rfl, hvalues⟩ :=
    Fragment.context_of_attribute hwithin hb hplain hnodes
  refine ⟨x.prune, outer, inner, right, ?_, hname, ⟨d₀, hd₀, by rw [x.prune_fill]⟩, fun value hquote hxml => ?_⟩
  · exact (Fragment.elementsBefore_prune x.context).trans hx
  -- An escaped value decodes, and so does a value with it put in.
  have hsome : (decodeValue (a ++ (Text.escapeChars value.toList ++ b))).isSome = true := by
    rw [decodeValue, Xml.Reader.isSome_decode_insert hblank ha, ← decodeValue, hd₀]
    rfl
  obtain ⟨d, hd⟩ := Option.isSome_iff_exists.mp hsome
  obtain ⟨htag, hcontent⟩ := hvalues _ d hquote hxml hd
  refine ⟨d, hd, htag, fun hn => ?_, fun hlast hhead => ?_⟩
  · obtain ⟨text, htext, hfill, hplace⟩ := place_around (r := r) hsegments hearlier hlater value c
    have hnodes := hcontent hn
    rw [← hclosed, ← htext] at hnodes
    rw [hplace, Fragment.place_of_content hprefixes hadmits (hfill ▸ isMarkup_fill hmarkup _) hnodes, x.prune_fill]
  · obtain ⟨da, hda⟩ := Option.isSome_iff_exists.mp ha
    have hbsome : (decodeValue b).isSome = true := by
      rw [decodeValue, ← Xml.Reader.isSome_decode_append (t := b) ha, ← decodeValue, hd₀]
      rfl
    obtain ⟨db, hdb⟩ := Option.isSome_iff_exists.mp hbsome
    have hinsert := Xml.Reader.decode_insert (v := value.toList) hblank hda hdb hlast hhead
    exact ⟨da, db, hda, hdb, Option.some.inj (hd.symm.trans hinsert)⟩

end Template

namespace Sample

/-- A template with a slot in an attribute and one in its element. -/
def attributed : String := "<p a=\"x%s\">%s</p>"

/-- An element `p` with an attribute `a`. -/
def p (value : String) (content : List Node) : Node := .element ⟨⟨"", "p"⟩, [], [⟨.bare "a", value⟩]⟩ content

theorem isContent_attributed : IsContent root.fragmentScope "<p a=\"x\">y</p>".toList [p "x" [.text "y"]] := by
  have hdivided : Token.Divided "<p a=\"x\">y</p>".toList
      [.startTag ⟨"", "p"⟩ [⟨⟨"", "a"⟩, ['x']⟩] false, .text ['y'], .endTag ⟨"", "p"⟩] :=
    Token.scan_eq_some.mp (by decide)
  have htag : Xml.Reader.tag? root.fragmentScope ⟨"", "p"⟩ [⟨⟨"", "a"⟩, ['x']⟩] =
      some (⟨⟨"", "p"⟩, [], [⟨.bare "a", "x"⟩]⟩, root.fragmentScope) := by decide
  have hinside : Content root.fragmentScope [] [.text ['y']] [.text "y"] [] :=
    .node (.text (by decide : Xml.Reader.decodeText ['y'] = some ['y'])) .nil
  exact ⟨_, _, [], hdivided, .element htag rfl hinside (by decide) .nil, rfl⟩

end Sample

namespace Template

/-- The value of an attribute gets brackets and a reference, while the other slot holds a text. -/
theorem brackets_in_attribute :
    Sample.root.NamesPrefixes ∧ Fragment.isMarkup Sample.attributed = true ∧
      (parse Sample.attributed).place Sample.root ["", "y"] [] = .ok [Sample.p "x" [.text "y"]] ∧
      ∃ x : ValueContext, x.context.elementsBefore = 0 ∧ x.name = .bare "a" ∧
        [Sample.p "x" [.text "y"]] = Xml.appendNodes [] (x.fill "x") ∧
        (parse Sample.attributed).place Sample.root ["<&amp;\t'>", "y"] [] =
          .ok (Xml.appendNodes [] (x.fill "x<&amp; '>")) := by
  have hsegments : (parse Sample.attributed).segments =
      [.literal "<p a=\"x"] ++ .slot :: [.literal "\">", .slot, .literal "</p>"] := by decide
  have hprefixes : Sample.root.NamesPrefixes := by unfold Root.NamesPrefixes; decide
  have hmarkup : Fragment.isMarkup Sample.attributed = true := by decide
  have hplace :
      (parse Sample.attributed).place Sample.root ([] ++ "" :: ["y"]) [] = .ok [Sample.p "x" [.text "y"]] := by
    obtain ⟨text, htext, -, hplace⟩ := @place_around Sample.root Sample.attributed _ _ [] ["y"] hsegments rfl rfl "" []
    have hsame : text.toList = "<p a=\"x\">y</p>".toList := htext.trans (by decide)
    have hcontent : IsContent Sample.root.fragmentScope text.toList [Sample.p "x" [.text "y"]] :=
      hsame ▸ Sample.isContent_attributed
    have hbracket : Fragment.isMarkup text = true := by
      rw [Fragment.isMarkup, hsame]
      decide
    rw [hplace]
    exact Fragment.place_of_content hprefixes (by decide) hbracket hcontent []
  have hwithin : Token.WithinValue [] ⟨"", "p"⟩ [] ⟨"", "a"⟩ ['x']
      (fill [.literal "<p a=\"x"] (([] : List String).map Text.escape)).toList := by
    have hequals : Token.IsEquals ([] ++ '=' :: []) :=
      .mk (fun _ h => absurd h List.not_mem_nil) fun _ h => absurd h List.not_mem_nil
    have hstart : Token.WithinValue [] ⟨"", "p"⟩ [] ⟨"", "a"⟩ ['x']
        ([] ++ '<' :: (['p'] ++ ([] ++ ([' '] ++ (['a'] ++ (([] ++ '=' :: []) ++ '"' :: ['x'])))))) :=
      .mk .nil ⟨List.all_eq_true.mp (by decide), by decide⟩ .nil (by decide) (List.all_eq_true.mp (by decide))
        ⟨List.all_eq_true.mp (by decide), by decide⟩ hequals (by decide)
    exact hstart
  have hclosed : (fill [.literal "\">", .slot, .literal "</p>"] (["y"].map Text.escape)).toList =
      [] ++ '"' :: ">y</p>".toList := by decide
  obtain ⟨x, outer, inner, right, hx, hname, ⟨d₀, hd₀, hempty⟩, hvalues⟩ :=
    value_placed hprefixes hmarkup hsegments rfl rfl hwithin hclosed (by decide) (by decide) (by decide) hplace
  obtain ⟨d, hd, -, hplaced, -⟩ := hvalues "<&amp;\t'>" (by decide) (by decide)
  have hx₀ : Xml.Reader.decodeValue (['x'] ++ []) = some ['x'] := by decide
  have hx₁ : Xml.Reader.decodeValue (['x'] ++ (Text.escapeChars "<&amp;\t'>".toList ++ [])) =
      some "x<&amp; '>".toList := by decide
  have hvalue (s : String) : Xml.Reader.attributeValue ⟨"", "a"⟩ s.toList = s := String.ofList_toList
  obtain rfl := Option.some.inj (hx₀.symm.trans hd₀)
  obtain rfl := Option.some.inj (hx₁.symm.trans hd)
  have hbare : x.name = .bare "a" := (Option.some.inj hname).symm
  rw [hvalue] at hplaced
  exact ⟨hprefixes, hmarkup, hplace, x, hx, hbare, hempty, hplaced (by rw [hbare]; decide)⟩

/-- **A quote in a value ends the value of the attribute**: it brings another attribute, or nothing is placed. -/
theorem attribute_made :
    Sample.root.NamesPrefixes ∧
      (parse "<p a=\"%s\"/>").place Sample.root [""] [] = .ok [Sample.p "" []] ∧
      "x\" b=\"y".toList.all Xml.isXmlChar = true ∧
      (parse "<p a=\"%s\"/>").place Sample.root ["x\" b=\"y"] [] =
        .ok [.element ⟨⟨"", "p"⟩, [], [⟨.bare "a", "x"⟩, ⟨.bare "b", "y"⟩]⟩ []] ∧
      (parse "<p a=\"%s\"/>").place Sample.root ["\""] [] = .error (.fragmentSyntax "<p a=\"\"\"/>") := by
  have hsegments : (parse "<p a=\"%s\"/>").segments = [.literal "<p a=\""] ++ .slot :: [.literal "\"/>"] := by decide
  have hprefixes : Sample.root.NamesPrefixes := by unfold Root.NamesPrefixes; decide
  have hplace (value : String) : (parse "<p a=\"%s\"/>").place Sample.root [value] [] =
      Fragment.place Sample.root ("<p a=\"" ++ (Text.escape value ++ "\"/>")) [] := by
    rw [place_of_fill (by rw [slots, hsegments]; rfl), hsegments]
    rfl
  have hplaced {text : String} (as : List RawAttribute) {t : Tag}
      (hscan : Token.scan? text.toList = some [.startTag ⟨"", "p"⟩ as true]) (hmarkup : Fragment.isMarkup text = true)
      (htag : Xml.Reader.tag? Sample.root.fragmentScope ⟨"", "p"⟩ as = some (t, Sample.root.fragmentScope))
      (hids : Xml.Reader.useIds? [] t = some []) : Fragment.place Sample.root text [] = .ok [.element t []] :=
    Fragment.place_of_content hprefixes (by decide) hmarkup
      ⟨_, _, [], Token.scan_eq_some.mp hscan, .node (.emptyTag htag hids) .nil, rfl⟩ []
  refine ⟨hprefixes, ?_, by decide, ?_, ?_⟩
  · rw [hplace]
    exact hplaced [⟨⟨"", "a"⟩, []⟩] (by decide) (by decide) (by decide) (by decide)
  · rw [hplace]
    exact hplaced [⟨⟨"", "a"⟩, ['x']⟩, ⟨⟨"", "b"⟩, ['y']⟩] (by decide) (by decide) (by decide) (by decide)
  · rw [hplace]
    exact Fragment.place_of_scan_none hprefixes (by decide) (by decide) []

end Template

/-! ## Summary

**What is established.**  A value without double quotes that is put in a slot of an attribute is placed whenever an
empty value is.  The content that is placed is the same but for the value of that attribute, which is decoded to the
value with blanks for tabs and line ends; other slots of the template may hold any values.

**What is not.**  With a double quote in the value nothing is promised, and `attribute_made` shows why: a value can
bring an attribute of its own.  The same goes for attributes that declare namespaces and for identifiers, which are
excluded by hypotheses, and for slots in values that are in single quotes. -/

end Regraft
