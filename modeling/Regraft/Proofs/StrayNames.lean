import Regraft.Proofs.LegibleDocuments
/-!
# Documents that cannot be read again

The elements that are made on the way to a destination have names of paths.  If one of these strays, a name of markup
ends inside it, or does not begin with it, and no tag can be read there (`startTag_stray`).  Nothing that is written
before such a tag helps, and so a document with one in it is not divided into tokens (`Unscannable`): of a document
whose elements are legible or made from names of paths, what is written is read exactly if no name strays
(`read_iff_straight`).
-/

namespace Regraft

open Path.Grammar (NCName)

/-! ## 1. Names that stray

No stray character is one at which a tag could go on: neither a bracket, nor white space, nor an equals sign. -/

/-- What may follow a name in a tag: white space, or the end of the tag. -/
def Xml.IsDelimiter (c : Char) : Prop := isSpace c = true ∨ c = '/' ∨ c = '>'

/-- The characters of names of markup do not follow one. -/
theorem Xml.IsDelimiter.not_isNameChar {c : Char} (h : IsDelimiter c) : isNameChar c = false := by
  rw [← Bool.not_eq_true]
  intro hchar
  obtain ⟨hspace, hslash, hgreater⟩ := Token.isNameChar_punctuation hchar
  rcases h with h | h | h
  · exact absurd h (by simp [hspace])
  · exact hslash h
  · exact hgreater h

/-- The characters of names of paths do not follow a name in a tag either, nor do they begin other markup. -/
theorem Path.not_delimiter {c : Char} (h : Parser.isNameChar c = true) :
    ¬ Xml.IsDelimiter c ∧ c ≠ '!' ∧ c ≠ '?' ∧ c ≠ '/' := by
  have hnone : [' ', '\t', '\n', '\r', '/', '>', '!', '?'].all (fun d => !Parser.isNameChar d) = true := by
    decide +kernel
  have hne (d : Char) (hd : d ∈ [' ', '\t', '\n', '\r', '/', '>', '!', '?']) : c ≠ d := by
    rintro rfl
    have hnot := List.all_eq_true.mp hnone c hd
    rw [h] at hnot
    cases hnot
  refine ⟨?_, hne '!' (by simp), hne '?' (by simp), hne '/' (by simp)⟩
  rintro (hspace | hslash | hgreater)
  · simp [Xml.isSpace, hne ' ' (by simp), hne '\t' (by simp), hne '\n' (by simp), hne '\r' (by simp)] at hspace
  · exact hne '/' (by simp) hslash
  · exact hne '>' (by simp) hgreater

/-- A name of markup does not stray. -/
theorem Path.strays_eq_false_of_isNCName {s : String} (h : Xml.isNCName s = true) : strays s = false := by
  obtain ⟨hname, hcolon⟩ := Xml.isNCName_iff.mp h
  rw [Xml.isName, Bool.and_eq_true] at hname
  rw [strays]
  generalize s.toList = chars at hname hcolon
  obtain ⟨hstart, hall⟩ := hname
  cases chars with
  | nil => rfl
  | cons c rest =>
    obtain ⟨hc, hrest⟩ : ':' ≠ c ∧ ':' ∉ rest := by simpa using hcolon
    have hfirst : Unicode.inRanges strayStarts c = false := by
      have hstart : Xml.isNameStart c = true := hstart
      have hne : (c == ':') = false := beq_eq_false_iff_ne.mpr hc.symm
      rw [Xml.isNameStart_eq, hne, Bool.false_or] at hstart
      exact Unicode.not_inRanges_of_apart (by decide) hstart
    have hothers : rest.any (Unicode.inRanges strayOthers) = false := by
      refine List.any_eq_false.mpr fun d hd => ?_
      have hchar : Xml.isNameChar d = true := List.all_eq_true.mp hall d (List.mem_cons_of_mem c hd)
      have hne : (d == ':') = false := beq_eq_false_iff_ne.mpr fun heq => hrest (heq ▸ hd)
      rw [Xml.isNameChar_eq, hne, Bool.false_or] at hchar
      rw [Bool.not_eq_true]
      exact Unicode.not_inRanges_of_apart (by decide) hchar
    simp [hfirst, hothers]

namespace Path.Grammar

/-- All characters of a name of paths are such as it goes on with. -/
theorem NCName.isNameChar {s : List Char} (h : NCName s) {c : Char} (hc : c ∈ s) : Parser.isNameChar c = true := by
  cases h with
  | @mk first rest hfirst hothers =>
    rcases List.mem_cons.mp hc with rfl | hc
    · refine Parser.isNameChar_iff.mpr ?_
      rcases hfirst with halphabetic | hline
      · exact .inl (by simp [Unicode.isAlphanumeric, halphabetic])
      · exact .inr (.inl hline)
    · exact Parser.isNameChar_iff.mpr (hothers c hc)

end Path.Grammar

/-! ## 2. Tags that cannot be read

Reading a tag stops at its stray character, with a name before it or without one.  Neither can be the beginning of a
tag, since something else would have to follow. -/

namespace Xml.Token

variable {s p tail : List Char} {t : Token} {l : String}

/-- A bracket begins a tag if the character after it is no mark of other markup. -/
theorem next_eq_startTag {c : Char} (hbang : c ≠ '!') (hquestion : c ≠ '?') (hslash : c ≠ '/') (s : List Char) :
    next? ('<' :: c :: s) = startTag? (c :: s) := by
  rw [next?.eq_def]
  split
  · rename_i heq
    exact absurd (List.cons.inj (List.cons.inj heq).2).1 hbang
  · rename_i heq
    exact absurd (List.cons.inj (List.cons.inj heq).2).1 hbang
  · rename_i heq
    exact absurd (List.cons.inj (List.cons.inj heq).2).1 hquestion
  · rename_i heq
    exact absurd (List.cons.inj (List.cons.inj heq).2).1 hslash
  · rename_i heq
    rw [(List.cons.inj heq).2]
  · rename_i hnot
    exact absurd rfl (hnot _)

/-- A tag begins with a name, and white space or the end of the tag comes after it. -/
theorem exists_name_of_startTag {rest : List Char} (h : startTag? s = some (t, rest)) :
    ∃ name c after, s = name ++ c :: after ∧ (∃ raw, IsRawName name raw) ∧ IsDelimiter c := by
  obtain ⟨name, raw, u, as, blanks, e, isEmpty, hname, has, hblanks, he, rfl, -⟩ := startTag_eq_some.mp h
  obtain ⟨c, after, hcons, hc⟩ : ∃ c after, u ++ (blanks ++ (e ++ rest)) = c :: after ∧ IsDelimiter c := by
    cases has with
    | nil =>
      cases blanks with
      | nil =>
        cases he with
        | startTag => exact ⟨'>', _, rfl, .inr (.inr rfl)⟩
        | emptyTag => exact ⟨'/', _, rfl, .inr (.inl rfl)⟩
      | cons c blanks => exact ⟨c, _, rfl, .inl (hblanks c List.mem_cons_self)⟩
    | cons ha _ =>
      obtain ⟨hne, hspaces, -, -, -⟩ := ha
      obtain ⟨c, before, rfl⟩ := List.exists_cons_of_ne_nil hne
      exact ⟨c, _, rfl, .inl (hspaces c List.mem_cons_self)⟩
  exact ⟨name, c, after, by rw [hcons], ⟨raw, hname⟩, hc⟩

/-- Names are read as far as their characters go, so what follows them says where they end. -/
theorem eq_of_name_append {name name' after after' : List Char} (h : name ++ after = name' ++ after')
    (hname : ∀ c ∈ name, isNameChar c = true) (hname' : ∀ c ∈ name', isNameChar c = true)
    (hafter : ∀ c ∈ after.head?, isNameChar c = false) (hafter' : ∀ c ∈ after'.head?, isNameChar c = false) :
    name = name' ∧ after = after' := by
  have hleft := Text.takeWhile_append_of_end hname hafter
  have hright := Text.takeWhile_append_of_end hname' hafter'
  rw [h] at hleft
  exact ⟨hleft.1.symm.trans hright.1, hleft.2.symm.trans hright.2⟩

/-- What is written before a local part: nothing, or a prefix with its colon. -/
inductive BeforeLocal : List Char → Prop
  | nothing : BeforeLocal []
  | prefixed {q : List Char} (hchars : ∀ c ∈ q, isNameChar c = true) (hcolon : ':' ∉ q) : BeforeLocal (q ++ [':'])

theorem BeforeLocal.isNameChar (hp : BeforeLocal p) : ∀ c ∈ p, Xml.isNameChar c = true := by
  cases hp with
  | nothing => exact fun c hc => absurd hc List.not_mem_nil
  | prefixed hchars _ =>
    intro c hc
    rcases List.mem_append.mp hc with hc | hc
    · exact hchars c hc
    · rw [List.mem_singleton.mp hc]
      decide

/-- A local part begins as a name does. -/
theorem BeforeLocal.isNameStart (hp : BeforeLocal p) {s : List Char} (hs : ':' ∉ s) {raw : RawName}
    (h : IsRawName (p ++ s) raw) : s.head?.any Xml.isNameStart = true := by
  have hsplit : (Text.splitOnce? ':' (p ++ s)).getD ([], p ++ s) = (p.takeWhile (· != ':'), s) := by
    cases hp with
    | nothing => rw [List.nil_append, Text.splitOnce_of_not_mem hs, Option.getD_none, List.takeWhile_nil]
    | @prefixed q _ hcolon =>
      have htake : (q ++ [':']).takeWhile (· != ':') = q := (Text.takeWhile_bne_append hcolon []).1
      rw [htake, List.append_assoc, List.singleton_append, Text.splitOnce_append hcolon, Option.getD_some]
  have hdivided := h.divided
  rw [RawName.ofChars?, hsplit] at hdivided
  dsimp only at hdivided
  split at hdivided
  · rename_i hcondition
    rw [Bool.and_eq_true, Bool.and_eq_true] at hcondition
    exact hcondition.1.2
  · cases hdivided

/-- **No tag can be read with a local part that strays**, whether a prefix stands before it or not. -/
theorem startTag_stray (hp : BeforeLocal p) (hl : NCName l.toList) (hstray : Path.strays l = true)
    (htail : ∀ c ∈ tail.head?, isNameChar c = false) : startTag? (p ++ (l.toList ++ tail)) = none := by
  rw [Option.eq_none_iff_forall_not_mem]
  rintro ⟨t, rest⟩ ht
  obtain ⟨name, c, after, heq, ⟨raw, hraw⟩, hc⟩ := exists_name_of_startTag ht
  have hafter : ∀ d ∈ (c :: after).head?, isNameChar d = false := by simpa using hc.not_isNameChar
  -- The name that is read goes as far into the local part as its characters are those of names of markup.
  obtain ⟨a, b, hab, ha, hb⟩ : ∃ a b, l.toList = a ++ b ∧ (∀ d ∈ a, isNameChar d = true) ∧
      ∀ d ∈ b.head?, isNameChar d = false := by
    refine ⟨l.toList.takeWhile isNameChar, l.toList.dropWhile isNameChar, List.takeWhile_append_dropWhile.symm,
      fun d hd => List.mem_takeWhile_imp hd, fun d hd => ?_⟩
    have hhead := List.head?_dropWhile_not isNameChar l.toList
    rw [Option.mem_def.mp hd] at hhead
    simpa using hhead
  have hbegin : ∀ d ∈ p ++ a, isNameChar d = true := fun d hd => (List.mem_append.mp hd).elim (hp.isNameChar d) (ha d)
  rw [hab, List.append_assoc, ← List.append_assoc] at heq
  cases b with
  | cons d b =>
    -- It would end at a character that does not follow a name.
    obtain ⟨-, hrest⟩ := eq_of_name_append heq hbegin hraw.chars (by simpa using hb) hafter
    obtain rfl : d = c := (List.cons.inj hrest).1
    exact (Path.not_delimiter (hl.isNameChar (by rw [hab]; simp))).1 hc
  | nil =>
    -- It would be the whole local part, which would be a name of markup.
    obtain ⟨rfl, -⟩ := eq_of_name_append heq hbegin hraw.chars htail hafter
    rw [List.append_nil] at hab
    have hcolon : ':' ∉ l.toList := Path.Grammar.colon_not_mem_of_ncname hl
    have hname : isName l = true := by
      rw [isName, hab, hp.isNameStart (hab ▸ hcolon) hraw, List.all_eq_true.mpr ha]
      rfl
    rw [Path.strays_eq_false_of_isNCName (isNCName_iff.mpr ⟨hname, hcolon⟩)] at hstray
    cases hstray

/-- Nor is there anything else to be read. -/
theorem next_stray (hp : BeforeLocal p) (hl : NCName l.toList) (hstray : Path.strays l = true)
    (htail : ∀ c ∈ tail.head?, isNameChar c = false) : next? ('<' :: (p ++ (l.toList ++ tail))) = none := by
  obtain ⟨c, s, hs, hbang, hquestion, hslash⟩ :
      ∃ c s, p ++ (l.toList ++ tail) = c :: s ∧ c ≠ '!' ∧ c ≠ '?' ∧ c ≠ '/' := by
    cases p with
    | nil =>
      obtain ⟨c, rest, hcons⟩ : ∃ c rest, l.toList = c :: rest := by
        refine List.exists_cons_of_ne_nil fun hnil => ?_
        rw [hnil] at hl
        cases hl
      obtain ⟨-, hne⟩ := Path.not_delimiter (hl.isNameChar (hcons ▸ List.mem_cons_self))
      exact ⟨c, _, by rw [hcons]; rfl, hne⟩
    | cons c p =>
      have hc := hp.isNameChar c List.mem_cons_self
      exact ⟨c, _, rfl, ne_of_isNameChar hc (by decide), ne_of_isNameChar hc (by decide),
        ne_of_isNameChar hc (by decide)⟩
  rw [hs, next_eq_startTag hbang hquestion hslash, ← hs]
  exact startTag_stray hp hl hstray htail

end Xml.Token

namespace Xml

open Token (AllSpace BeforeLocal IsMarkup scan?)

/-! ## 3. Texts that cannot be divided into tokens

A text with such a tag in it cannot be divided, wherever the tag stands.  What is before it may be divided, but that
ends at the tag. -/

/-- A text cannot be divided into tokens, whatever text stands before it. -/
def Unscannable (s : List Char) : Prop := ∀ v, v.all isXmlChar = true → scan? (Text.escapeChars v ++ s) = none

namespace Unscannable

variable {s u v : List Char} {t : Token}

/-- It stays so behind a text. -/
theorem text (h : Unscannable s) (hv : v.all isXmlChar = true) : Unscannable (Text.escapeChars v ++ s) := by
  intro before hbefore
  rw [← List.append_assoc, ← Reader.escapeChars_append]
  exact h (before ++ v) (by rw [List.all_append, hbefore, hv]; rfl)

/-- It stays so behind white space. -/
theorem blanks {blanks : List Char} (h : Unscannable s) (hblanks : AllSpace blanks) : Unscannable (blanks ++ s) := by
  obtain ⟨hescape, hchars⟩ := Reader.escapeChars_of_allSpace hblanks
  rw [← hescape]
  exact h.text hchars

/-- A text before a bracket is one token. -/
theorem of_bracket (hscan : scan? ('<' :: s) = none) : Unscannable ('<' :: s) := by
  intro v hv
  by_cases hne : v = []
  · rw [hne, Text.escapeChars_eq_flatMap]
    exact hscan
  · rw [Token.scan_run (Reader.isRun_escapeChars hne hv) (by simp), hscan]
    rfl

/-- It stays so behind markup. -/
theorem markup (h : Unscannable s) (hu : IsMarkup u t) : Unscannable (u ++ s) := by
  have hscan : scan? (u ++ s) = none := by
    rw [Token.scan_markup hu, show scan? s = none from h [] rfl]
    rfl
  obtain ⟨rest, rfl⟩ := hu.exists_cons
  exact of_bracket hscan

/-- So is a tag whose local part strays. -/
theorem stray {p tail : List Char} {l : String} (hp : BeforeLocal p) (hl : Path.Grammar.NCName l.toList)
    (hstray : Path.strays l = true) (htail : ∀ c ∈ tail.head?, isNameChar c = false) :
    Unscannable ('<' :: (p ++ (l.toList ++ tail))) := by
  refine of_bracket ?_
  rw [Token.scan_eq (List.cons_ne_nil _ _), Token.next_stray hp hl hstray htail]
  rfl

end Unscannable

/-! ## 4. Nodes

By induction on legible nodes with names that may stray: what is written before the tag is read, and there it ends. -/

/-- A tag as a run makes it: a legible one, or one that is nothing but a name of paths. -/
def Tag.Built (t : Tag) : Prop := t.Legible ∨ ∃ q : QName, t = .plain q ∧ Path.Grammar.NCName q.localPart.toList

/-- The names of no elements in a node stray. -/
abbrev Node.Straight : Node → Prop := Throughout (fun u _ => u) (fun _ t => Path.strays t.name.localPart = false) ()

variable {w r : Scope} {t : Tag} {content : List Node} {n : Node}

/-- What is built is legible if its name does not stray. -/
theorem Tag.Built.legible (h : t.Built) (hstraight : Path.strays t.name.localPart = false) : t.Legible := by
  rcases h with hlegible | ⟨q, rfl, hq⟩
  · exact hlegible
  · exact Tag.legible_plain ((Path.isNCName_iff_not_strays hq).mpr hstraight)

theorem Node.LegibleWith.legible (h : n.LegibleWith Tag.Built) (hstraight : n.Straight) : n.Legible := by
  induction h with
  | element htag _ ih =>
    obtain ⟨hname, hcontent⟩ := throughout_element.mp hstraight
    exact .element (htag.legible hname) fun n hn => ih n hn (hcontent n hn)
  | text h => exact .text h
  | comment h => exact .comment h
  | instruction h => exact .instruction h

theorem writeTag_plain (q : QName) :
    writeTag w [] (.plain q) = (w.writeElementName q).map fun name => (name, name) := by
  rw [writeTag]
  cases hname : w.writeElementName q with
  | none => simp [Tag.plain, hname]
  | some name => simp [Tag.plain, hname]

/-- A tag that is written of a name of paths that strays cannot be read. -/
theorem unscannable_plain (hw : ∀ d ∈ w, d.Legible) {q : QName} (hq : Path.Grammar.NCName q.localPart.toList)
    (hstray : Path.strays q.localPart = true) {name inside : String}
    (hwrite : writeTag w [] (.plain q) = some (name, inside)) {tail : List Char}
    (htail : ∀ c ∈ tail.head?, isNameChar c = false) : Unscannable ('<' :: (inside.toList ++ tail)) := by
  rw [writeTag_plain] at hwrite
  obtain ⟨written, hname, hwrite⟩ := Option.map_eq_some_iff.mp hwrite
  cases hwrite
  rcases writeElementName_cases hname with rfl | ⟨d, hd, hne, -, rfl⟩
  · exact .stray .nothing hq hstray htail
  · obtain ⟨hchars, hcolon⟩ := isNCName_iff.mp ((hw d hd).spelled.resolve_left hne)
    have hscan := Unscannable.stray (.prefixed (isNameChar_of_isName hchars) hcolon) hq hstray htail
    simpa using hscan

/-- Nor can an element whose tag it is, whatever is in the element. -/
theorem ElementText.unscannable (hw : ∀ d ∈ w, d.Legible) {q : QName} (hq : Path.Grammar.NCName q.localPart.toList)
    (hstray : Path.strays q.localPart = true) {name inside : String}
    (hwrite : writeTag (w.extend (Tag.plain q).declarations) [] (.plain q) = some (name, inside)) {a : List Char}
    (htext : ElementText w (.plain q) content name inside a) (s : List Char) : Unscannable (a ++ s) := by
  have hscope : w.extend (Tag.plain q).declarations = w := by simp [Tag.plain, Scope.extend]
  rw [hscope] at hwrite
  cases htext with
  | @empty blanks rest _ hblanks hrest =>
    have hend : ∀ c ∈ ('/' :: '>' :: (rest ++ s)).head?, isNameChar c = false := by
      simp only [List.head?_cons, Option.mem_some_iff, forall_eq']
      decide
    simpa using (unscannable_plain hw hq hstray hwrite hend).blanks hblanks
  | @filled within blanks b blanks' rest hwithin hb hblanks hblanks' hrest =>
    have hend : ∀ c ∈ ('>' :: (b ++ (blanks' ++ (("</" ++ name ++ ">").toList ++ (rest ++ s))))).head?,
        isNameChar c = false := by
      simp only [List.head?_cons, Option.mem_some_iff, forall_eq']
      decide
    simpa using (unscannable_plain hw hq hstray hwrite hend).blanks hblanks

/-- The content of an element passes on what holds of each node and of what comes after it. -/
theorem unscannable_content {ps : List Piece} {a s : List Char}
    (hcontent : ∀ n ∈ content, ∀ {ps a s}, n.pieces w [] = some ps → Spread ps a → ¬ n.Straight ∨ Unscannable s →
      Unscannable (a ++ s))
    (hps : contentPieces w content = some ps) (ha : Spread ps a)
    (hs : (∃ n ∈ content, ¬ n.Straight) ∨ Unscannable s) : Unscannable (a ++ s) := by
  induction content generalizing ps a with
  | nil =>
    rw [contentPieces] at hps
    cases hps
    exact (hs.resolve_left (by simp)).blanks ha.nil_inv
  | cons n content ih =>
    obtain ⟨hn, hcontent⟩ := List.forall_mem_cons.mp hcontent
    rw [contentPieces] at hps
    obtain ⟨here, hhere, hps⟩ := Option.bind_eq_some_iff.mp hps
    obtain ⟨rest, hrest, hps⟩ := Option.bind_eq_some_iff.mp hps
    cases hps
    obtain ⟨b, c, rfl, hb, hc⟩ := ha.append_inv
    rw [List.append_assoc]
    by_cases hstraight : n.Straight
    · refine hn hhere hb (.inr (ih hcontent hrest hc (hs.imp_left ?_)))
      rintro ⟨m, hm, hstray⟩
      rcases List.mem_cons.mp hm with rfl | hm
      · exact absurd hstraight hstray
      · exact ⟨m, hm, hstray⟩
    · exact hn hhere hb (.inl hstraight)

/-- **A name that strays anywhere in a node keeps what is written of it from being divided into tokens**, and so does
what comes after the node. -/
theorem unscannable_of_not_straight (h : n.LegibleWith Tag.Built) {w r : Scope} {ps : List Piece} {a s : List Char}
    (hread : ReadAs w r) (hps : n.pieces w [] = some ps) (ha : Spread ps a) (hs : ¬ n.Straight ∨ Unscannable s) :
    Unscannable (a ++ s) := by
  induction h generalizing w r ps a s with
  | @element t content htag _ ih =>
    obtain ⟨name, inside, hwrite, htext⟩ := exists_elementText hps ha
    by_cases hname : Path.strays t.name.localPart = false
    · have ht : t.Legible := htag.legible hname
      obtain ⟨raw, as, -, -, -, -, hstart, hempty, hclose⟩ := exists_read_element hread ht hwrite []
      -- The name of this element is one of markup, so a stray name is further inside or comes later.
      have hs : (∃ n ∈ content, ¬ n.Straight) ∨ Unscannable s := by
        refine hs.imp_left fun hstray => ?_
        rw [Node.Straight, throughout_element] at hstray
        push Not at hstray
        exact hstray hname
      cases htext with
      | @empty blanks rest hnone hblanks hrest =>
        subst hnone
        rw [List.append_assoc, List.append_assoc]
        exact (((hs.resolve_left (by simp)).blanks hrest).markup hempty).blanks hblanks
      | @filled within blanks b blanks' rest hwithin hb hblanks hblanks' hrest =>
        simp only [List.append_assoc]
        have hinside := unscannable_content (fun n hn => ih n hn (hread.extend ht)) hwithin hb
          (hs.imp_right fun hs => (((hs.blanks hrest).markup hclose).blanks hblanks'))
        exact (hinside.markup hstart).blanks hblanks
    -- The name strays: the scanner stops inside this tag, whatever follows.
    · obtain ⟨q, rfl, hq⟩ := htag.resolve_left fun ht => hname (Path.strays_eq_false_of_isNCName ht.name)
      rw [Bool.not_eq_false] at hname
      exact htext.unscannable hread.legible hq hname hwrite s
  | @text value hchars =>
    rw [Node.pieces] at hps
    cases hps
    refine ha.single (fun hblanks hs => Unscannable.blanks hs hblanks) (hs.resolve_left (absurd (.text value))) ?_
    intro s hs
    rw [Piece.markup, Text.escape, String.toList_ofList]
    exact hs.text hchars
  | @comment value hmarkup =>
    rw [Node.pieces] at hps
    cases hps
    exact ha.single (fun hblanks hs => Unscannable.blanks hs hblanks) (hs.resolve_left (absurd (.comment value)))
      fun hs => hs.markup hmarkup
  | @instruction target data _ hmarkup =>
    rw [Node.pieces] at hps
    cases hps
    exact ha.single (fun hblanks hs => Unscannable.blanks hs hblanks)
      (hs.resolve_left (absurd (.instruction target data))) fun hs => hs.markup hmarkup

/-! ## 5. Documents

Both directions: without a stray name the document is legible, and `LegibleDocuments` says that it is read. -/

/-- **What is written of a document is read exactly if no name in it strays**, in every style: the root is legible, and
everything in it is legible or has been made from names of paths. -/
theorem read_iff_straight {content : List Node} (ht : t.Legible) (hcontent : ∀ n ∈ content, n.LegibleWith Tag.Built)
    {style : Style} {text : String} (hwrite : Document.write style ⟨[.element t content]⟩ = .ok text) :
    (∃ d, Document.read text = .ok d) ↔ ∀ n ∈ content, n.Straight := by
  constructor
  · rintro ⟨d, hd⟩
    by_contra hstray
    push Not at hstray
    obtain ⟨name, inside, htag, htext⟩ := elementText_of_write hwrite
    obtain ⟨raw, as, -, -, -, -, hstart, -, hclose⟩ := exists_read_element readAs_written ht htag []
    have hnone : Reader.readChars text.toList = none := by
      generalize text.toList = chars at htext
      cases htext with
      | @empty blanks rest hnone hblanks hrest =>
        subst hnone
        obtain ⟨n, hn, -⟩ := hstray
        cases hn
      | @filled within blanks a blanks' rest hwithin ha hblanks hblanks' hrest =>
        have hinside : Unscannable (a ++ (blanks' ++ (("</" ++ name ++ ">").toList ++ rest))) :=
          unscannable_content (fun n hn _ _ _ => unscannable_of_not_straight (hcontent n hn) (readAs_written.extend ht))
            hwithin ha (.inl hstray)
        have hscan := ((hinside.markup hstart).blanks hblanks) [] rfl
        rw [Text.escapeChars_eq_flatMap, List.flatMap_nil, List.nil_append] at hscan
        rw [Reader.readChars_eq hblanks hstart, hscan]
        rfl
    rw [Document.read, hnone] at hd
    cases hd
  · intro hstraight
    exact exists_read_of_write ht (fun n hn => (hcontent n hn).legible (hstraight n hn)) hwrite

end Xml

/-! ## Summary

**What is established.**  Of a document whose tags are legible but for local parts that are names of paths, what is
written is read if and only if no name strays.

**What is not.**  Nothing is repaired and nothing is refused: a name that strays is written as it is. -/

end Regraft
