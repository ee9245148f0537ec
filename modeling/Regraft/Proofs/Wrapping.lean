import Regraft.Proofs.Characters
import Regraft.Proofs.FragmentForests
import Regraft.Proofs.ReadScopes
/-!
# The element that fragments are read in

Fragments are read inside an element whose tag is written down from the description of the root.  If the
prefixes are names, the tag is read as the declarations that it was written from (`scan_fragment`), whatever the
fragment is, unless one of them is no attribute of markup (`attributeOf?`).  The URIs in it are escaped, and stay
so when they are read: the declarations are those of the root if no URI needs escaping (`writtenDeclarations_eq`).
So the names in a fragment stand for what these declarations make them stand for (`resolved_of_read`).
-/

namespace Regraft

open Xml (Declaration Document Node RawAttribute RawName Tag Token)

/-! ## 1. Roots

What is assumed of a root.  That prefixes are names is all that is needed for the wrapper to be read as what it was
written from; that URIs are plain is needed for it to say what the root says. -/

/-- Whether a text is a name of markup. -/
def Xml.isName (s : String) : Bool := s.toList.head?.any isNameStart && s.toList.all isNameChar

theorem Xml.exists_cons_of_isName {s : String} (h : isName s = true) :
    ∃ c rest, s.toList = c :: rest ∧ ∀ d ∈ s.toList, isNameChar d = true := by
  obtain ⟨hfirst, hall⟩ := Bool.and_eq_true_iff.mp h
  cases hs : s.toList with
  | nil => simp [hs] at hfirst
  | cons c rest => exact ⟨c, rest, rfl, hs ▸ List.all_eq_true.mp hall⟩

theorem Xml.isNameChar_of_isName {s : String} (h : isName s = true) : ∀ c ∈ s.toList, isNameChar c = true :=
  List.all_eq_true.mp (Bool.and_eq_true_iff.mp h).2

/-- A character of names is not one that names have none of. -/
theorem Xml.ne_of_isNameChar {c d : Char} (hc : isNameChar c = true) (hd : isNameChar d = false) : c ≠ d := by
  rintro rfl
  rw [hc] at hd
  cases hd

namespace Root

/-- The prefixes are names. -/
def NamesPrefixes (r : Root) : Prop := ∀ b ∈ r.namespaces.bindings, Xml.isName b.1 = true

/-- No URI has a character that is escaped in a tag. -/
def HasPlainUris (r : Root) : Prop :=
  Text.isPlain r.defaultUri = true ∧ ∀ b ∈ r.namespaces.bindings, Text.isPlain b.2 = true

/-- What is declared for fragments: the default namespace, if there is one, and every binding. -/
def wrapperDeclarations (r : Root) : List Declaration :=
  r.defaultDeclaration ++ r.namespaces.bindings.map fun b => ⟨b.1, b.2⟩

/-- The same as written in the tag, where URIs are escaped. -/
def writtenDeclarations (r : Root) : List Declaration :=
  r.wrapperDeclarations.map fun d => ⟨d.namespacePrefix, Text.escapeAttribute d.uri⟩

theorem writtenDeclarations_eq {r : Root} (huris : r.HasPlainUris) : r.writtenDeclarations = r.wrapperDeclarations := by
  refine (List.map_congr_left fun d hd => ?_).trans (List.map_id _)
  have hplain : Text.isPlain d.uri = true := by
    rcases List.mem_append.mp hd with hd | hd
    · rw [defaultDeclaration] at hd
      split at hd
      · cases hd
      · obtain rfl := List.mem_singleton.mp hd
        exact huris.1
    · obtain ⟨b, hb, rfl⟩ := List.mem_map.mp hd
      exact huris.2 b hb
  rw [Text.escapeAttribute_of_isPlain hplain]
  rfl

end Root

/-! ## 2. Declarations as they are written

A declaration as the characters of an attribute, and what it is read as.  A prefix with a colon makes an attribute with
two colons, which is no name. -/

namespace Xml

/-- The name of the attribute that makes a declaration. -/
def declarationName (d : Declaration) : List Char :=
  if d.namespacePrefix = "" then "xmlns".toList else "xmlns:".toList ++ d.namespacePrefix.toList

/-- A declaration in a tag. -/
def declarationChars (d : Declaration) : List Char :=
  ' ' :: (declarationName d ++ '=' :: '"' :: (d.uri.toList ++ ['"']))

theorem isNameChar_declarationName {d : Declaration} (h : d.namespacePrefix = "" ∨ isName d.namespacePrefix = true) :
    ∀ c ∈ declarationName d, isNameChar c = true := by
  have hall : "xmlns:".toList.all isNameChar = true := by decide
  rw [declarationName]
  split
  · exact List.all_eq_true.mp (by decide : "xmlns".toList.all isNameChar = true)
  · rename_i hne
    have hname := isNameChar_of_isName (h.resolve_left hne)
    intro c hc
    rcases List.mem_append.mp hc with hc | hc
    · exact List.all_eq_true.mp hall c hc
    · exact hname c hc

/-- If a declaration can be read at all, it is read as itself. -/
theorem declaration_of_ofChars {d : Declaration} {n : RawName} (h : RawName.ofChars? (declarationName d) = some n) :
    Reader.declaration? ⟨n, d.uri.toList⟩ = some d := by
  obtain ⟨p, uri⟩ := d
  rw [declarationName] at h
  dsimp only at h ⊢
  split at h
  · rename_i hp
    subst hp
    cases h
    simp [Reader.declaration?]
  · rw [RawName.ofChars?] at h
    have hsplit : Text.splitOnce? ':' ("xmlns:".toList ++ p.toList) = some ("xmlns".toList, p.toList) := rfl
    rw [hsplit] at h
    dsimp only [Option.getD_some] at h
    split at h
    · cases h
      simp [Reader.declaration?]
    · cases h

/-- The attribute that a declaration is in a tag, if it can be one: its prefix has no colon, and its URI consists of
characters of markup. -/
def attributeOf? (d : Declaration) : Option RawAttribute := do
  let n ← RawName.ofChars? (declarationName d)
  if d.uri.toList.all isXmlChar then return ⟨n, d.uri.toList⟩ else none

theorem declaration_of_attributeOf {d : Declaration} {a : RawAttribute} (h : attributeOf? d = some a) :
    Reader.declaration? a = some d := by
  obtain ⟨n, hn, h⟩ := Option.bind_eq_some_iff.mp h
  split at h
  · cases h
    exact declaration_of_ofChars hn
  · cases h

/-- Attributes that declarations are in a tag make these declarations and nothing else. -/
theorem declarations_of_mapM {ds : List Declaration} {attributes : List RawAttribute}
    (h : ds.mapM attributeOf? = some attributes) :
    attributes.filterMap Reader.declaration? = ds ∧
      attributes.filter (fun a => (Reader.declaration? a).isNone) = [] := by
  induction ds generalizing attributes with
  | nil =>
    cases h
    exact ⟨rfl, rfl⟩
  | cons d ds ih =>
    rw [List.mapM_cons] at h
    obtain ⟨a, ha, h⟩ := Option.bind_eq_some_iff.mp h
    obtain ⟨more, hmore, h⟩ := Option.bind_eq_some_iff.mp h
    cases h
    obtain ⟨hdeclarations, hplain⟩ := ih hmore
    have hd := declaration_of_attributeOf ha
    exact ⟨by rw [List.filterMap_cons_some hd, hdeclarations],
      by rw [List.filter_cons_of_neg (by simp [hd]), hplain]⟩

/-! ## 3. Tags as they are read

The attributes of the tag are read one after the other, from the white space before each to its quote, and the
induction is on the declarations that are left. -/

namespace Token

theorem isNameChar_punctuation {c : Char} (h : isNameChar c = true) :
    isSpace c = false ∧ c ≠ '/' ∧ c ≠ '>' := by
  have hspace : c ≠ ' ' := ne_of_isNameChar h (by decide)
  have htab : c ≠ '\t' := ne_of_isNameChar h (by decide)
  have hfeed : c ≠ '\n' := ne_of_isNameChar h (by decide)
  have hreturn : c ≠ '\r' := ne_of_isNameChar h (by decide)
  have hslash : c ≠ '/' := ne_of_isNameChar h (by decide)
  have hgreater : c ≠ '>' := ne_of_isNameChar h (by decide)
  exact ⟨by simp [isSpace, hspace, htab, hfeed, hreturn], hslash, hgreater⟩

theorem skipSpace_cons {c : Char} (h : isSpace c = false) (s : List Char) : skipSpace (c :: s) = c :: s := by
  rw [skipSpace, List.dropWhile_cons_of_neg (by simp [h])]

/-- A name is read up to the first character that does not go on with it. -/
theorem rawName_append {name rest : List Char} (hname : ∀ c ∈ name, isNameChar c = true)
    (hrest : ∀ c ∈ rest.head?, isNameChar c = false) :
    rawName? (name ++ rest) = (RawName.ofChars? name).map fun n => (n, rest) := by
  obtain ⟨htake, hdrop⟩ := Text.takeWhile_append_of_end hname hrest
  rw [rawName?, htake, hdrop]

/-- A value is read up to its quote, if it consists of characters of markup. -/
theorem quotedValue_eq {value : List Char} (hquote : '"' ∉ value) (hbracket : '<' ∉ value) (rest : List Char) :
    quotedValue? ('"' :: (value ++ '"' :: rest)) = if value.all isXmlChar then some (value, rest) else none := by
  obtain ⟨htake, hdrop⟩ := Text.takeWhile_bne_append hquote rest
  have hall : (value.all fun c => isXmlChar c && c != '<') = value.all isXmlChar := by
    rw [Bool.eq_iff_iff, List.all_eq_true, List.all_eq_true]
    refine forall₂_congr fun c hc => ?_
    have hne : c ≠ '<' := by
      rintro rfl
      exact hbracket hc
    simp [hne]
  rw [quotedValue?, if_pos (.inl rfl)]
  dsimp only
  rw [htake, hdrop, hall]

/-- Of a declaration the name is read, then the value, then what comes after it. -/
theorem attributes_declarationChars {d : Declaration}
    (hspelled : d.namespacePrefix = "" ∨ isName d.namespacePrefix = true) (s : List Char) (fuel : Nat) :
    attributes? (fuel + 1) (declarationChars d ++ s) = (do
      let n ← RawName.ofChars? (declarationName d)
      let (value, rest) ← quotedValue? ('"' :: (d.uri.toList ++ '"' :: s))
      let ((more, isEmpty), rest) ← attributes? fuel rest
      return ((⟨n, value⟩ :: more, isEmpty), rest)) := by
  have hchars := isNameChar_declarationName hspelled
  obtain ⟨c, name, hname⟩ : ∃ c name, declarationName d = c :: name := by
    rw [declarationName]
    split
    · exact ⟨_, _, rfl⟩
    · exact ⟨_, _, rfl⟩
  obtain ⟨hspace, hslash, hbracket⟩ := isNameChar_punctuation (hchars c (by simp [hname]))
  have htext : declarationChars d ++ s = ' ' :: (declarationName d ++ '=' :: '"' :: (d.uri.toList ++ '"' :: s)) := by
    simp [declarationChars]
  have hskip : skipSpace (declarationChars d ++ s) = declarationName d ++ '=' :: '"' :: (d.uri.toList ++ '"' :: s) := by
    rw [htext, hname]
    exact skipSpace_cons hspace _
  have hread : rawName? (declarationName d ++ '=' :: '"' :: (d.uri.toList ++ '"' :: s)) =
      (RawName.ofChars? (declarationName d)).map fun n => (n, '=' :: '"' :: (d.uri.toList ++ '"' :: s)) :=
    rawName_append hchars fun c hc => by
      obtain rfl : '=' = c := by simpa using hc
      decide
  rw [attributes?, hskip]
  split
  · rename_i heq
    rw [hname] at heq
    exact absurd (List.cons.inj heq).1 hslash
  · rename_i heq
    rw [hname] at heq
    exact absurd (List.cons.inj heq).1 hbracket
  · rw [hread, htext]
    cases RawName.ofChars? (declarationName d) with
    | none => rfl
    | some n => rfl

/-- A declaration that stands in a tag: its prefix is a name or empty, and its URI has neither quotes nor brackets. -/
structure IsWritten (d : Declaration) : Prop where
  spelled : d.namespacePrefix = "" ∨ isName d.namespacePrefix = true
  quote : '"' ∉ d.uri.toList
  bracket : '<' ∉ d.uri.toList

/-- **Declarations are read as the attributes that they are in a tag.** -/
theorem attributes_written {ds : List Declaration} (hds : ∀ d ∈ ds, IsWritten d) (s : List Char) {fuel : Nat}
    (hfuel : ds.length < fuel) :
    attributes? fuel (ds.flatMap declarationChars ++ '>' :: s) =
      (ds.mapM attributeOf?).map fun attributes => ((attributes, false), s) := by
  induction ds generalizing fuel with
  | nil =>
    cases fuel with
    | zero => cases hfuel
    | succ fuel => rfl
  | cons d ds ih =>
    cases fuel with
    | zero => cases hfuel
    | succ fuel =>
      obtain ⟨hd, hds⟩ := List.forall_mem_cons.mp hds
      have hmore := ih hds (Nat.lt_of_succ_lt_succ hfuel)
      rw [List.flatMap_cons, List.append_assoc, attributes_declarationChars hd.spelled,
        quotedValue_eq hd.quote hd.bracket, List.mapM_cons, attributeOf?]
      cases RawName.ofChars? (declarationName d) with
      | none => rfl
      | some n =>
        cases hxml : d.uri.toList.all isXmlChar with
        | false => simp
        | true =>
          simp only [Option.bind_eq_bind, Option.bind_some, ↓reduceIte, hmore]
          cases ds.mapM attributeOf? <;> rfl

/-- There are no brackets in declarations. -/
theorem not_mem_declarations {ds : List Declaration} (hds : ∀ d ∈ ds, IsWritten d) :
    '<' ∉ ds.flatMap declarationChars := by
  intro hmem
  obtain ⟨d, hd, hmem⟩ := List.mem_flatMap.mp hmem
  have hwritten := hds d hd
  have hname : '<' ∉ declarationName d := fun h =>
    absurd (isNameChar_declarationName hwritten.spelled _ h) (by decide)
  simp [declarationChars, hname, hwritten.bracket] at hmem

/-- A declaration takes a character at least. -/
theorem length_le_declarations (ds : List Declaration) : ds.length ≤ (ds.flatMap declarationChars).length := by
  induction ds with
  | nil => exact Nat.le_refl 0
  | cons d ds ih =>
    have hone : 1 ≤ (declarationChars d).length := by simp [declarationChars]
    rw [List.flatMap_cons, List.length_append, List.length_cons]
    omega

/-- Neither a declaration nor the end of a tag goes on with the name of the tag. -/
theorem head_declarations (ds : List Declaration) (s : List Char) :
    ∀ c ∈ (ds.flatMap declarationChars ++ '>' :: s).head?, isNameChar c = false := by
  intro c hc
  cases ds with
  | nil =>
    obtain rfl : '>' = c := by simpa using hc
    decide
  | cons d ds =>
    obtain rfl : ' ' = c := by simpa [declarationChars] using hc
    decide

/-- A document that begins with a tag has no declaration. -/
theorem afterDeclaration_fragment (s : List Char) :
    Reader.afterDeclaration? (Reader.skipByteOrderMark ("<rewrite-fragment".toList ++ s)) =
      some ("<rewrite-fragment".toList ++ s) :=
  rfl

/-- **A text that begins with a tag of declarations is divided into that tag and what comes after it.** -/
theorem scan_fragment {ds : List Declaration} (hds : ∀ d ∈ ds, IsWritten d) (s : List Char) :
    ∃ fuel, s.length ≤ fuel ∧ scan? ("<rewrite-fragment".toList ++ (ds.flatMap declarationChars ++ '>' :: s)) = (do
      let attributes ← ds.mapM attributeOf?
      return .startTag ⟨"", "rewrite-fragment"⟩ attributes false :: (← scanFrom fuel s)) := by
  have hname : rawName? ("rewrite-fragment".toList ++ (ds.flatMap declarationChars ++ '>' :: s)) =
      some (⟨"", "rewrite-fragment"⟩, ds.flatMap declarationChars ++ '>' :: s) :=
    (rawName_append (List.all_eq_true.mp (by decide : "rewrite-fragment".toList.all isNameChar = true))
      (head_declarations ds s)).trans rfl
  -- No bracket stands in the tag, so that there are as many steps to read its attributes in as it has characters.
  have hbefore : ∀ c ∈ ds.flatMap declarationChars, (c != '<') = true := by
    intro c hc
    rw [bne_iff_ne]
    rintro rfl
    exact not_mem_declarations hds hc
  have hfuel : ds.length < ((ds.flatMap declarationChars ++ '>' :: s).takeWhile (· != '<')).length + 1 := by
    have hlength := length_le_declarations ds
    rw [List.takeWhile_append_of_pos hbefore, List.length_append]
    omega
  refine ⟨("rewrite-fragment".toList ++ (ds.flatMap declarationChars ++ '>' :: s)).length, by simp; omega, ?_⟩
  have hscan : scan? ("<rewrite-fragment".toList ++ (ds.flatMap declarationChars ++ '>' :: s)) =
      (startTag? ("rewrite-fragment".toList ++ (ds.flatMap declarationChars ++ '>' :: s))).bind fun r => do
        return r.1 ::
          (← scanFrom ("rewrite-fragment".toList ++ (ds.flatMap declarationChars ++ '>' :: s)).length r.2) := rfl
  rw [hscan, startTag?, hname]
  simp only [Option.bind_eq_bind, Option.bind_some, attributes_written hds s hfuel]
  cases ds.mapM attributeOf? <;> rfl

end Token

end Xml

/-! ## 4. Fragments

What a fragment is read as begins with the tag of its wrapper.  Its names are resolved in the scope of that. -/

namespace Root

variable {r : Root}

theorem fragmentDeclarations_toList (hprefixes : r.NamesPrefixes) :
    r.fragmentDeclarations.toList = r.writtenDeclarations.flatMap Xml.declarationChars := by
  have hbindings : ∀ bs : List (String × String), (∀ b ∈ bs, b ∈ r.namespaces.bindings) →
      (String.join (bs.map fun b => " xmlns:" ++ b.1 ++ "=\"" ++ Text.escapeAttribute b.2 ++ "\"")).toList =
        (bs.map fun b => (⟨b.1, Text.escapeAttribute b.2⟩ : Declaration)).flatMap Xml.declarationChars := by
    intro bs hbs
    induction bs with
    | nil => rfl
    | cons b bs ih =>
      obtain ⟨hb, hbs⟩ := List.forall_mem_cons.mp hbs
      obtain ⟨c, rest, hname, -⟩ := Xml.exists_cons_of_isName (hprefixes b hb)
      have hne : b.1 ≠ "" := fun hempty => by
        rw [hempty] at hname
        cases hname
      rw [List.map_cons, String.join_cons, String.toList_append, ih hbs, List.map_cons, List.flatMap_cons]
      simp [Xml.declarationChars, Xml.declarationName, hne]
  rw [fragmentDeclarations, writtenDeclarations, wrapperDeclarations, String.toList_append, List.map_append,
    List.flatMap_append, hbindings _ fun _ hb => hb, defaultDeclaration, List.map_map]
  congr 1
  split
  · rfl
  · simp [Xml.declarationChars, Xml.declarationName]

theorem isWritten_writtenDeclarations (hprefixes : r.NamesPrefixes) :
    ∀ d ∈ r.writtenDeclarations, Xml.Token.IsWritten d := by
  intro written hwritten
  obtain ⟨d, hd, rfl⟩ := List.mem_map.mp hwritten
  refine ⟨?_, Text.not_mem_escapeAttribute d.uri (by simp), Text.not_mem_escapeAttribute d.uri (by simp)⟩
  rcases List.mem_append.mp hd with hd | hd
  · rw [defaultDeclaration] at hd
    split at hd
    · cases hd
    · obtain rfl := List.mem_singleton.mp hd
      exact .inl rfl
  · obtain ⟨b, hb, rfl⟩ := List.mem_map.mp hd
    exact .inr (hprefixes b hb)

end Root

namespace Fragment

/-- Taking blank texts out of a fragment leaves its tags as they were. -/
theorem throughout_strip {σ : Type} {enter : σ → Tag → σ} {P : σ → Tag → Prop} {s : σ}
    {content : List Node} (h : ∀ n ∈ content, n.Throughout enter P s) :
    ∀ n ∈ strip content, n.Throughout enter P s := by
  have hall : ∀ (addresses : List Xml.Address) (c : List Node), (∀ n ∈ c, n.Throughout enter P s) →
      ∀ n ∈ addresses.foldl removeAt c, n.Throughout enter P s := by
    intro addresses
    induction addresses with
    | nil => exact fun c hc => hc
    | cons a rest ih =>
      intro c hc
      refine ih _ ?_
      rw [removeAt]
      split
      · exact Xml.throughout_updateContent (fun s c hc => Xml.throughout_removeNode hc _) _ hc
      · exact hc
  exact hall _ content h

/-- What is read is the content of a wrapper that has been read. -/
theorem read_inv {r : Root} {text : String} {nodes : List Node} (h : read r text = .ok nodes) :
    ∃ d wrapper, Xml.Reader.readChars (wrap r text).toList = some d ∧
      d.content.find? Node.isElement = some wrapper ∧ nodes = strip wrapper.content := by
  rw [read_eq] at h
  split at h
  · rename_i wrapper hwrapper
    obtain ⟨d, hread, hfind⟩ := Option.bind_eq_some_iff.mp hwrapper
    exact ⟨d, wrapper, hread, hfind, (Except.ok.inj h).symm⟩
  · cases h

/-- A fragment in its wrapper: a tag of declarations, the fragment and the end of the tag. -/
theorem wrap_toList {r : Root} (hprefixes : r.NamesPrefixes) (text : String) :
    (wrap r text).toList = "<rewrite-fragment".toList ++
      (r.writtenDeclarations.flatMap Xml.declarationChars ++ '>' :: (text.toList ++ "</rewrite-fragment>".toList)) := by
  unfold wrap
  simp only [String.toList_append, r.fragmentDeclarations_toList hprefixes]
  generalize "<rewrite-fragment".toList = opening, "</rewrite-fragment>".toList = closing
  have hbracket : ">".toList = ['>'] := rfl
  rw [hbracket]
  simp

/-- **The names in a fragment stand for what the declarations around it make them stand for.** -/
theorem resolved_of_read {r : Root} (hprefixes : r.NamesPrefixes) (huris : r.HasPlainUris) {text : String}
    {nodes : List Node} (h : read r text = .ok nodes) :
    ∃ content, nodes = strip content ∧
      ∀ n ∈ content, n.Resolved (r.wrapperDeclarations.reverse ++ Xml.Scope.outermost) := by
  obtain ⟨d, wrapper, hread, hwrapper, rfl⟩ := read_inv h
  obtain ⟨after, hafter, hrest⟩ := Option.bind_eq_some_iff.mp hread
  obtain ⟨tokens, htokens, hstates⟩ := Option.bind_eq_some_iff.mp hrest
  obtain ⟨st, hst, hdocument⟩ := Option.bind_eq_some_iff.mp hstates
  rw [wrap_toList hprefixes, Xml.Token.afterDeclaration_fragment] at hafter
  obtain rfl := Option.some.inj hafter
  obtain ⟨fuel, -, hscan⟩ := Xml.Token.scan_fragment (r.isWritten_writtenDeclarations hprefixes)
    (text.toList ++ "</rewrite-fragment>".toList)
  rw [hscan] at htokens
  obtain ⟨attributes, hattributes, htokens⟩ := Option.bind_eq_some_iff.mp htokens
  obtain ⟨more, -, htokens⟩ := Option.bind_eq_some_iff.mp htokens
  cases htokens
  have hdeclarations : attributes.filterMap Xml.Reader.declaration? = r.wrapperDeclarations := by
    rw [(Xml.declarations_of_mapM hattributes).1, r.writtenDeclarations_eq huris]
  refine ⟨wrapper.content, rfl, ?_⟩
  rw [← hdeclarations]
  exact Xml.Reader.resolved_of_startTag hst hdocument hwrapper

end Fragment

end Regraft
