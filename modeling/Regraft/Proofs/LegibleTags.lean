import Regraft.Proofs.ElementContent
import Regraft.Proofs.NameCharacters
/-!
# Tags that can be read again

A tag is written with the prefixes that are declared where it stands, and read with those that have been read around
it.  The two scopes need not be the same list, but every declaration that is written with has to be one that is read
with (`ReadAs`).  If the names in a tag are names of markup and its values consist of characters of markup
(`Tag.Legible`), what is written of it is read as a tag, whose names stand for what they stood for, and inside it the
scopes agree again (`exists_read_tag`).
-/

namespace Regraft.Xml

open Reader (attribute? attributeName? declaration? elementName? tag? useIds?)
open Token (Attributes IsAttribute IsEquals IsQuoted IsRawName)

/-! ## 1. What is legible

The conditions are those of markup, each on one part of a tag, and they are decidable, so that they can be checked of a
given tag. -/

/-- A declaration that is read as it is written: its prefix is a name, none is reserved but that of the reserved
namespace, and its URI can stand in quotes. -/
structure Declaration.Legible (d : Declaration) : Prop where
  spelled : d.namespacePrefix = "" ∨ isNCName d.namespacePrefix = true
  own : d.namespacePrefix ≠ "xmlns"
  reserved : d.namespacePrefix = "xml" ↔ d.uri = Namespaces.xmlUri
  chars : (d.uri.toList.all fun c => isXmlChar c && c != '<') = true
  quote : '"' ∉ d.uri.toList

/-- An attribute that is read as one: its name is a name that declares nothing and identifies nothing. -/
structure Attribute.Legible (a : Attribute) : Prop where
  name : isNCName a.name.localPart = true
  own : a.name.localPart ≠ "xmlns"
  plain : a.name ≠ idName
  chars : a.value.toList.all isXmlChar = true

/-- A tag that is read as one: no prefix is declared twice and no attribute is written twice. -/
structure Tag.Legible (t : Tag) : Prop where
  name : isNCName t.name.localPart = true
  declarations : ∀ d ∈ t.declarations, d.Legible
  apart : t.declarations.Pairwise fun d e => d.namespacePrefix ≠ e.namespacePrefix
  attributes : ∀ a ∈ t.attributes, a.Legible
  once : (t.attributes.map (·.name)).Nodup

instance (d : Declaration) : Decidable d.Legible :=
  decidable_of_iff ((d.namespacePrefix = "" ∨ isNCName d.namespacePrefix = true) ∧ d.namespacePrefix ≠ "xmlns" ∧
      (d.namespacePrefix = "xml" ↔ d.uri = Namespaces.xmlUri) ∧
      (d.uri.toList.all fun c => isXmlChar c && c != '<') = true ∧ '"' ∉ d.uri.toList)
    ⟨fun h => ⟨h.1, h.2.1, h.2.2.1, h.2.2.2.1, h.2.2.2.2⟩,
      fun h => ⟨h.spelled, h.own, h.reserved, h.chars, h.quote⟩⟩

instance (a : Attribute) : Decidable a.Legible :=
  decidable_of_iff (isNCName a.name.localPart = true ∧ a.name.localPart ≠ "xmlns" ∧ a.name ≠ idName ∧
      a.value.toList.all isXmlChar = true)
    ⟨fun h => ⟨h.1, h.2.1, h.2.2.1, h.2.2.2⟩, fun h => ⟨h.name, h.own, h.plain, h.chars⟩⟩

instance (t : Tag) : Decidable t.Legible :=
  decidable_of_iff (isNCName t.name.localPart = true ∧ (∀ d ∈ t.declarations, d.Legible) ∧
      (t.declarations.Pairwise fun d e => d.namespacePrefix ≠ e.namespacePrefix) ∧
      (∀ a ∈ t.attributes, a.Legible) ∧ (t.attributes.map (·.name)).Nodup)
    ⟨fun h => ⟨h.1, h.2.1, h.2.2.1, h.2.2.2.1, h.2.2.2.2⟩,
      fun h => ⟨h.name, h.declarations, h.apart, h.attributes, h.once⟩⟩

theorem Tag.legible_plain {q : QName} (h : isNCName q.localPart = true) : (Tag.plain q).Legible where
  name := h
  declarations := fun _ hd => absurd hd List.not_mem_nil
  apart := .nil
  attributes := fun _ ha => absurd ha List.not_mem_nil
  once := List.nodup_nil

/-! ## 2. Names

A local part is a name without a colon.  What is written of a name has at most one colon, and is divided there. -/

variable {p l : String} {q : QName} {name : String}

theorem isNCName_iff {s : String} : isNCName s = true ↔ isName s = true ∧ ':' ∉ s.toList := by
  rw [isNCName, Bool.and_eq_true, Bool.not_eq_true', List.contains_eq_mem, decide_eq_false_iff_not]

theorem isNameStart_of_isName {s : String} (h : isName s = true) : s.toList.head?.any isNameStart = true :=
  (Bool.and_eq_true_iff.mp h).1

/-- A name without a colon is read as a local part. -/
theorem isRawName_bare (h : isNCName l = true) : IsRawName l.toList ⟨"", l⟩ := by
  obtain ⟨hname, hcolon⟩ := isNCName_iff.mp h
  refine ⟨isNameChar_of_isName hname, ?_⟩
  rw [RawName.ofChars?, Text.splitOnce_of_not_mem hcolon, Option.getD_none]
  have hstart := isNameStart_of_isName hname
  simp [hstart, hcolon]

/-- Two with a colon between them are read as a prefix and a local part. -/
theorem isRawName_prefixed (hp : isNCName p = true) (hl : isNCName l = true) :
    IsRawName (p ++ ":" ++ l).toList ⟨p, l⟩ := by
  obtain ⟨hpname, hpcolon⟩ := isNCName_iff.mp hp
  obtain ⟨hlname, hlcolon⟩ := isNCName_iff.mp hl
  have hchars : (p ++ ":" ++ l).toList = p.toList ++ ':' :: l.toList := by simp
  rw [hchars]
  refine ⟨fun c hc => ?_, ?_⟩
  · rcases List.mem_append.mp hc with hc | hc
    · exact isNameChar_of_isName hpname c hc
    · rcases List.mem_cons.mp hc with rfl | hc
      · decide
      · exact isNameChar_of_isName hlname c hc
  · obtain ⟨c, rest, hcons, -⟩ := exists_cons_of_isName hpname
    have hpstart : p.toList.head?.all isNameStart = true := by
      have hstart := isNameStart_of_isName hpname
      rw [hcons] at hstart ⊢
      exact hstart
    have hlstart := isNameStart_of_isName hlname
    rw [RawName.ofChars?, Text.splitOnce_append hpcolon, Option.getD_some]
    simp [hpstart, hlstart, hlcolon]

/-! ## 3. Two scopes

Writing and reading keep a scope each.  Writing looks up a namespace and takes the innermost declaration of it, and
reading looks up a prefix and takes the innermost of that.  `ReadAs` is all that matters of the two: each declaration
that could be written with is the one that its prefix resolves to. -/

/-- The declarations of one scope, which are all legible, are in force in the other, which is read with, and so are the
reserved prefix and a default namespace or none. -/
structure ReadAs (w r : Scope) : Prop where
  legible : ∀ d ∈ w, d.Legible
  resolves : ∀ d ∈ w, r.resolve? d.namespacePrefix = some d.uri
  reserved : r.resolve? "xml" = some Namespaces.xmlUri
  default : (r.resolve? "").isSome = true

variable {w r : Scope}

/-- What is in force around a document that is written is in force around one that is read. -/
theorem readAs_written : ReadAs .written .outermost where
  legible := by decide
  resolves := by decide
  reserved := by decide
  default := by decide

/-- The declarations of a tag that are written: all but those of the reserved namespace. -/
def Tag.writtenDeclarations (t : Tag) : List Declaration :=
  t.declarations.filter fun d => d.uri != Namespaces.xmlUri

/-- Declarations of different prefixes are in force inside their tag. -/
theorem resolve_of_mem {ds : List Declaration} (hapart : ds.Pairwise fun d e => d.namespacePrefix ≠ e.namespacePrefix)
    {d : Declaration} (hd : d ∈ ds) (s : Scope) :
    Scope.resolve? (ds.reverse ++ s) d.namespacePrefix = some d.uri := by
  obtain ⟨before, after, rfl⟩ := List.append_of_mem hd
  rw [List.pairwise_append, List.pairwise_cons] at hapart
  obtain ⟨-, ⟨hafter, -⟩, -⟩ := hapart
  have hnone : after.reverse.find? (fun e => e.namespacePrefix == d.namespacePrefix) = none := by
    rw [List.find?_eq_none]
    intro e he
    simpa using (hafter e (List.mem_reverse.mp he)).symm
  rw [Scope.resolve?, List.reverse_append, List.reverse_cons, List.append_assoc, List.append_assoc, List.find?_append,
    hnone, Option.none_or, List.singleton_append, List.find?_cons_of_pos (by simp)]
  rfl

/-- Other prefixes stand for what they stand for around it. -/
theorem resolve_of_not_mem {ds : List Declaration} {p : String} (h : ∀ d ∈ ds, d.namespacePrefix ≠ p) (s : Scope) :
    Scope.resolve? (ds.reverse ++ s) p = s.resolve? p := by
  have hnone : ds.reverse.find? (fun d => d.namespacePrefix == p) = none := by
    rw [List.find?_eq_none]
    intro d hd
    simpa using h d (List.mem_reverse.mp hd)
  rw [Scope.resolve?, List.find?_append, hnone, Option.none_or, Scope.resolve?]

/-- **Inside a legible tag the scopes agree again.** -/
theorem ReadAs.extend (h : ReadAs w r) {t : Tag} (ht : t.Legible) :
    ReadAs (w.extend t.declarations) (t.writtenDeclarations.reverse ++ r) := by
  have hapart := ht.apart.filter fun d => d.uri != Namespaces.xmlUri
  have hmem {d : Declaration} (hd : d ∈ t.writtenDeclarations) : d ∈ t.declarations := List.mem_of_mem_filter hd
  -- The declarations that are left out have the reserved prefix, and no other has.
  have hreserved : ∀ d ∈ t.writtenDeclarations, d.namespacePrefix ≠ "xml" := by
    intro d hd hxml
    have huri := (ht.declarations d (hmem hd)).reserved.mp hxml
    rw [Tag.writtenDeclarations, List.mem_filter] at hd
    simp [huri] at hd
  have hxml : Scope.resolve? (t.writtenDeclarations.reverse ++ r) "xml" = some Namespaces.xmlUri := by
    rw [resolve_of_not_mem hreserved, h.reserved]
  have hcases {d : Declaration} (hd : d ∈ w.extend t.declarations) :
      d ∈ t.declarations ∨ d ∈ w ∧ ∀ e ∈ t.declarations, e.namespacePrefix ≠ d.namespacePrefix := by
    rcases List.mem_append.mp hd with hd | hd
    · exact .inl (List.mem_reverse.mp hd)
    · obtain ⟨hw, hnone⟩ := List.mem_filter.mp hd
      exact .inr ⟨hw, by simpa using hnone⟩
  refine ⟨fun d hd => ?_, fun d hd => ?_, hxml, ?_⟩
  · rcases hcases hd with hd | ⟨hd, -⟩
    · exact ht.declarations d hd
    · exact h.legible d hd
  · rcases hcases hd with hd | ⟨hd, hnone⟩
    · by_cases huri : d.uri = Namespaces.xmlUri
      · rw [(ht.declarations d hd).reserved.mpr huri, hxml, huri]
      · exact resolve_of_mem hapart (List.mem_filter.mpr ⟨hd, by simpa using huri⟩) r
    · rw [resolve_of_not_mem fun e he => hnone e (hmem he)]
      exact h.resolves d hd
  · by_cases hnone : ∀ d ∈ t.writtenDeclarations, d.namespacePrefix ≠ ""
    · rw [resolve_of_not_mem hnone]
      exact h.default
    · push Not at hnone
      obtain ⟨d, hd, hempty⟩ := hnone
      have hd' := resolve_of_mem hapart hd r
      rw [hempty] at hd'
      rw [Tag.writtenDeclarations, hd']
      rfl

/-! ## 4. Names as they are written

A name is written with its local part alone, if it has no namespace or the default one, and else with a prefix that is
declared for it.  Reading resolves the prefix to the namespace that it was taken for. -/

/-- An element is written with its local part alone, or behind a prefix that stands for its namespace. -/
theorem writeElementName_cases (hname : w.writeElementName q = some name) :
    name = q.localPart ∨
      ∃ d ∈ w, d.namespacePrefix ≠ "" ∧ d.uri = q.uri ∧ name = d.namespacePrefix ++ ":" ++ q.localPart := by
  rw [Scope.writeElementName] at hname
  split at hname
  · cases hname
    exact .inl rfl
  · rename_i hdefault
    obtain ⟨d, hd, rfl⟩ := Option.map_eq_some_iff.mp hname
    have hmem := List.mem_of_find?_eq_some hd
    have huri : d.uri = q.uri := by simpa using List.find?_some hd
    refine .inr ⟨d, hmem, fun hempty => hdefault ?_, huri, rfl⟩
    have hcontains : ⟨"", q.uri⟩ ∈ w := by
      rw [← hempty, ← huri]
      exact hmem
    simp [hcontains]

/-- The name of an element is read as one. -/
theorem exists_rawName_of_element (h : ReadAs w r) (hq : isNCName q.localPart = true)
    (hname : w.writeElementName q = some name) :
    ∃ raw q', IsRawName name.toList raw ∧ elementName? r raw = some q' := by
  rcases writeElementName_cases hname with rfl | ⟨d, hmem, hne, -, rfl⟩
  · obtain ⟨uri, huri⟩ := Option.isSome_iff_exists.mp h.default
    exact ⟨_, ⟨uri, q.localPart⟩, isRawName_bare hq, by simp [elementName?, huri]⟩
  · have hspelled := (h.legible d hmem).spelled.resolve_left hne
    exact ⟨_, ⟨d.uri, q.localPart⟩, isRawName_prefixed hspelled hq, by simp [elementName?, h.resolves d hmem]⟩

/-- The name of an attribute is read as that name, and it makes no declaration. -/
theorem exists_rawName_of_attribute (h : ReadAs w r) (hq : isNCName q.localPart = true) (hown : q.localPart ≠ "xmlns")
    (hname : w.writeAttributeName q = some name) :
    ∃ raw, IsRawName name.toList raw ∧ attributeName? r raw = some q ∧ ∀ value, declaration? ⟨raw, value⟩ = none := by
  rw [Scope.writeAttributeName] at hname
  split at hname
  · rename_i hempty
    cases hname
    obtain ⟨uri, l⟩ := q
    obtain rfl : uri = "" := String.isEmpty_iff.mp hempty
    refine ⟨_, isRawName_bare hq, rfl, fun value => ?_⟩
    simp [declaration?, hown]
  · obtain ⟨d, hd, rfl⟩ := Option.map_eq_some_iff.mp hname
    have hmem := List.mem_of_find?_eq_some hd
    obtain ⟨hne, huri⟩ : d.namespacePrefix ≠ "" ∧ d.uri = q.uri := by simpa using List.find?_some hd
    have hlegible := h.legible d hmem
    refine ⟨_, isRawName_prefixed (hlegible.spelled.resolve_left hne) hq, ?_, fun value => ?_⟩
    · simp [attributeName?, elementName?, hne, h.resolves d hmem, huri]
    · simp [declaration?, hlegible.own, hown]

/-! ## 5. Values as they are written

Writing escapes more than reading has to decode, and each entity that is written is decoded to its character. -/

/-- What stands for a character in a value. -/
def escapeValueChar (c : Char) : List Char :=
  if c = '&' then "&amp;".toList
  else if c = '<' then "&lt;".toList
  else if c = '\'' then "&apos;".toList
  else if c = '"' then "&quot;".toList
  else [c]

/-- Escaping goes character by character. -/
theorem escapeValue_toList (value : String) : (escapeValue value).toList = value.toList.flatMap escapeValueChar := by
  rw [escapeValue, String.toList_ofList]
  rfl

/-- A value that has been escaped can be decoded. -/
theorem decodeValue_isSome (s : List Char) : (Reader.decodeValue (s.flatMap escapeValueChar)).isSome = true := by
  have hamp : Reader.reference? ['a', 'm', 'p'] = some '&' := by decide
  have hlt : Reader.reference? ['l', 't'] = some '<' := by decide
  have hapos : Reader.reference? ['a', 'p', 'o', 's'] = some '\'' := by decide
  have hquot : Reader.reference? ['q', 'u', 'o', 't'] = some '"' := by decide
  rw [Reader.decodeValue]
  induction s with
  | nil => rfl
  | cons c s ih =>
    obtain ⟨decoded, hdecoded⟩ := Option.isSome_iff_exists.mp ih
    rw [List.flatMap_cons, escapeValueChar]
    split
    · simp [Reader.decode, hamp, hdecoded]
    · rename_i hne
      split
      · simp [Reader.decode, hlt, hdecoded]
      · split
        · simp [Reader.decode, hapos, hdecoded]
        · split
          · simp [Reader.decode, hquot, hdecoded]
          · rw [List.singleton_append, Reader.decode]
            simp only [if_neg hne, hdecoded]
            split
            · split
              · rfl
              · rfl
            · split
              · rfl
              · rfl

/-- It can stand between quotes. -/
theorem isQuoted_escapeValue {value : String} (h : value.toList.all isXmlChar = true) :
    IsQuoted ('"' :: ((escapeValue value).toList ++ ['"'])) (escapeValue value).toList := by
  have hchar (c : Char) (hc : isXmlChar c = true) :
      '"' ∉ escapeValueChar c ∧ ((escapeValueChar c).all fun d => isXmlChar d && d != '<') = true := by
    rw [escapeValueChar]
    split
    · decide
    · split
      · decide
      · rename_i hlt
        split
        · decide
        · split
          · decide
          · rename_i hquote
            exact ⟨by simpa using fun heq => hquote heq.symm, by simp [hc, hlt]⟩
  rw [escapeValue_toList]
  refine .mk (.inl rfl) (fun hmem => ?_) ?_
  · obtain ⟨c, hc, hmem⟩ := List.mem_flatMap.mp hmem
    exact (hchar c (List.all_eq_true.mp h c hc)).1 hmem
  · rw [List.all_flatMap, List.all_eq_true]
    intro c hc
    exact (hchar c (List.all_eq_true.mp h c hc)).2

/-! ## 6. Tags as they are written

A tag is its name, its declarations and its attributes, in this order.  All declarations are read before any name is
resolved, so that their place in the tag does not matter. -/

/-- A sign without white space beside it is an equals sign. -/
theorem isEquals_sign : IsEquals ['='] := .mk (l := []) (r := []) (by simp [Token.AllSpace]) (by simp [Token.AllSpace])

/-- A blank is white space. -/
theorem allSpace_blank : Token.AllSpace [' '] := by
  intro c hc
  rw [List.mem_singleton.mp hc]
  rfl

/-- A legible attribute is read as one of its name. -/
theorem exists_read_attribute (h : ReadAs w r) {a : Attribute} (ha : a.Legible) {s : String}
    (hs : writeAttribute w a = some s) : ∃ raw read, IsAttribute s.toList raw ∧ declaration? raw = none ∧
      attributeName? r raw.name = some a.name ∧ attribute? r raw = some read ∧ read.name = a.name := by
  obtain ⟨name, hname, rfl⟩ := Option.map_eq_some_iff.mp hs
  obtain ⟨raw, hraw, hresolved, hnone⟩ := exists_rawName_of_attribute h ha.name ha.own hname
  obtain ⟨value, hvalue⟩ := Option.isSome_iff_exists.mp (decodeValue_isSome a.value.toList)
  rw [← escapeValue_toList] at hvalue
  have hchars : (" " ++ name ++ "=\"" ++ escapeValue a.value ++ "\"").toList =
      [' '] ++ (name.toList ++ (['='] ++ ('"' :: ((escapeValue a.value).toList ++ ['"'])))) := by simp
  rw [hchars]
  refine ⟨⟨raw, (escapeValue a.value).toList⟩,
    ⟨a.name, .ofList (if raw = ⟨"xml", "id"⟩ then Reader.normalizeId value else value)⟩,
    .mk (List.cons_ne_nil _ _) allSpace_blank hraw isEquals_sign (isQuoted_escapeValue ha.chars), hnone _, hresolved,
    ?_, rfl⟩
  simp only [attribute?, hresolved, hvalue, Option.bind_eq_bind, Option.bind_some]
  rfl

/-- Legible attributes of different names are read as attributes of these names, no two of them written alike. -/
theorem exists_read_attributes (h : ReadAs w r) {as : List Attribute} (has : ∀ a ∈ as, a.Legible)
    (honce : (as.map (·.name)).Nodup) {ss : List String} (hss : as.mapM (writeAttribute w) = some ss) :
    ∃ raws reads, Attributes (String.join ss).toList raws ∧ (∀ raw ∈ raws, declaration? raw = none) ∧
      raws.map (fun raw => attributeName? r raw.name) = as.map (fun a => some a.name) ∧
      raws.mapM (attribute? r) = some reads ∧ reads.map (·.name) = as.map (·.name) := by
  induction as generalizing ss with
  | nil =>
    cases hss
    exact ⟨[], [], .nil, fun _ hraw => absurd hraw List.not_mem_nil, rfl, rfl, rfl⟩
  | cons a as ih =>
    rw [List.mapM_cons] at hss
    obtain ⟨s, hs, hss⟩ := Option.bind_eq_some_iff.mp hss
    obtain ⟨rest, hrest, hss⟩ := Option.bind_eq_some_iff.mp hss
    cases hss
    obtain ⟨ha, has⟩ := List.forall_mem_cons.mp has
    obtain ⟨raw, read, hattribute, hnone, hname, hread, hsame⟩ := exists_read_attribute h ha hs
    obtain ⟨raws, reads, hattributes, hnones, hnames, hreads, hsames⟩ :=
      ih has (List.nodup_cons.mp honce).2 hrest
    refine ⟨raw :: raws, read :: reads, ?_, List.forall_mem_cons.mpr ⟨hnone, hnones⟩, ?_, ?_, ?_⟩
    · rw [String.join_cons, String.toList_append]
      exact .cons hattribute hattributes
    · rw [List.map_cons, List.map_cons, hname, hnames]
    · rw [List.mapM_cons, hread, hreads]
      rfl
    · rw [List.map_cons, List.map_cons, hsame, hsames]

/-- A legible declaration is read as itself. -/
theorem exists_read_declaration {d : Declaration} (h : d.Legible) :
    ∃ raw, IsAttribute (declarationChars d) raw ∧ declaration? raw = some d := by
  have hspelled : d.namespacePrefix = "" ∨ isName d.namespacePrefix = true :=
    h.spelled.imp_right fun hname => (isNCName_iff.mp hname).1
  have hcolon : ':' ∉ d.namespacePrefix.toList := by
    rcases h.spelled with hempty | hname
    · rw [hempty]
      decide
    · exact (isNCName_iff.mp hname).2
  obtain ⟨n, hn⟩ := Option.isSome_iff_exists.mp ((Root.isSome_ofChars hspelled).mpr hcolon)
  have hraw : IsRawName (declarationName d) n := ⟨isNameChar_declarationName hspelled, hn⟩
  refine ⟨⟨n, d.uri.toList⟩, ?_, declaration_of_ofChars hn⟩
  exact .mk (List.cons_ne_nil ' ' []) allSpace_blank hraw isEquals_sign (.mk (.inl rfl) h.quote h.chars)

/-- Legible declarations are read as those that are written. -/
theorem exists_read_declarations {ds : List Declaration} (h : ∀ d ∈ ds, d.Legible) :
    ∃ raws, Attributes (String.join (ds.map writeDeclaration)).toList raws ∧
      raws.filterMap declaration? = ds.filter (fun d => d.uri != Namespaces.xmlUri) ∧
      ∀ raw ∈ raws, (declaration? raw).isSome = true := by
  induction ds with
  | nil => exact ⟨[], .nil, rfl, fun _ hraw => absurd hraw List.not_mem_nil⟩
  | cons d ds ih =>
    obtain ⟨hd, hds⟩ := List.forall_mem_cons.mp h
    obtain ⟨raws, hattributes, hdeclarations, hsome⟩ := ih hds
    rw [List.map_cons, String.join_cons, String.toList_append]
    by_cases huri : d.uri = Namespaces.xmlUri
    · refine ⟨raws, ?_, ?_, hsome⟩
      · rw [writeDeclaration, if_pos huri]
        exact hattributes
      · rw [List.filter_cons_of_neg (by simpa using huri), hdeclarations]
    · obtain ⟨raw, hraw, hdeclaration⟩ := exists_read_declaration hd
      have hchars : (writeDeclaration d).toList = declarationChars d := by
        rw [writeDeclaration, if_neg huri, declarationChars, declarationName]
        by_cases hempty : d.namespacePrefix = ""
        · simp [hempty]
        · simp [hempty]
      refine ⟨raw :: raws, ?_, ?_, List.forall_mem_cons.mpr ⟨by rw [hdeclaration]; rfl, hsome⟩⟩
      · rw [hchars]
        exact .cons hraw hattributes
      · rw [List.filterMap_cons_some hdeclaration, List.filter_cons_of_pos (by simpa using huri), hdeclarations]

/-- **What is written of a legible tag is read as a tag**, without identifiers.  Its declarations are those that are
written, and the name of the element is read in the same way at its end. -/
theorem exists_read_tag (h : ReadAs w r) {t : Tag} (ht : t.Legible) {inside : String}
    (hwrite : writeTag (w.extend t.declarations) [] t = some (name, inside)) (ids : List String) :
    ∃ raw s as read, IsRawName name.toList raw ∧ inside.toList = name.toList ++ s ∧ Attributes s as ∧
      tag? r raw as = some (read, t.writtenDeclarations.reverse ++ r) ∧ useIds? ids read = some ids ∧
      elementName? (t.writtenDeclarations.reverse ++ r) raw = some read.name := by
  have hinner := h.extend ht
  obtain ⟨written, hname, hwrite⟩ := Option.bind_eq_some_iff.mp hwrite
  obtain ⟨ss, hss, hwrite⟩ := Option.bind_eq_some_iff.mp hwrite
  cases hwrite
  obtain ⟨raw, q, hraw, hq⟩ := exists_rawName_of_element hinner ht.name hname
  obtain ⟨ds, hds, hdeclarations, hsome⟩ := exists_read_declarations ht.declarations
  obtain ⟨as, reads, has, hnone, hnames, hreads, hsames⟩ := exists_read_attributes hinner ht.attributes ht.once hss
  have hdeclared : (ds ++ as).filterMap declaration? = t.writtenDeclarations := by
    rw [List.filterMap_append, hdeclarations, List.filterMap_eq_nil_iff.mpr hnone, List.append_nil]
    rfl
  have hplain : (ds ++ as).filter (fun a => (declaration? a).isNone) = as := by
    rw [List.filter_append, List.filter_eq_nil_iff.mpr, List.filter_eq_self.mpr, List.nil_append]
    · intro a ha
      rw [hnone a ha]
      rfl
    · intro a ha
      simp [Option.isSome_iff_ne_none.mp (hsome a ha)]
  -- Attributes that were written alike would have one name.
  have honce : (as.map (·.name)).Nodup := by
    have hapart : (t.attributes.map fun a => some a.name).Pairwise (· ≠ ·) :=
      List.pairwise_map.mpr ((List.pairwise_map.mp ht.once).imp fun hne heq => hne (Option.some.inj heq))
    rw [← hnames] at hapart
    exact List.pairwise_map.mpr ((List.pairwise_map.mp hapart).imp fun hne heq => hne (by rw [heq]))
  refine ⟨raw, _, ds ++ as, ⟨q, t.writtenDeclarations, reads⟩, hraw, ?_, hds.append has, ?_, ?_, hq⟩
  · simp
  · rw [tag?, hdeclared, hplain]
    simp [honce, hreads, hq]
  · have hnotId : reads.filter (fun a => a.name == idName) = [] := by
      rw [List.filter_eq_nil_iff]
      intro a ha
      have hmem : a.name ∈ t.attributes.map (·.name) := hsames ▸ List.mem_map_of_mem ha
      obtain ⟨b, hb, hsame⟩ := List.mem_map.mp hmem
      rw [← hsame]
      simpa using (ht.attributes b hb).plain
    rw [useIds?, hnotId]
    rfl

end Regraft.Xml
