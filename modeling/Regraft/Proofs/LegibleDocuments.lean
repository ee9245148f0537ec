import Regraft.Proofs.LegibleTags
import Regraft.Proofs.Scopes
/-!
# Documents that can be read again

What is written of a tree are pieces of markup, and between them there may be white space (`Spread`), which the
indented style puts there and the compact style does not.  Reading goes on over both: white space beside a text is read
as a part of the text, and inside an element what has been read before makes no difference to whether reading succeeds
(`Resumes`).  So the pieces of a legible node are read wherever its element is open (`resumable_of_legible`), and of a
legible document whatever is written is read (`exists_read_of_write`).

It is shown that reading succeeds, and not that the same document is read: with white space between the pieces it is not
the same.  That makes the induction simple.  `Resumes st s` speaks of every state that has the same elements open, so
that what the pieces before `s` have been read as can be forgotten.
-/

namespace Regraft.Xml

open Reader (State)
open Token (AllSpace IsMarkup IsRun)

/-! ## 1. What is legible

A node may be in a tree and still be no node of markup: a comment with two hyphens, an instruction with a question
mark, a text with a control character, or names that cannot be written.  Legible nodes are those without any of these.
-/

/-- Every tag in a node has the property, its texts consist of characters of markup, and what is written of comments
and instructions is a comment or an instruction. -/
inductive Node.LegibleWith (P : Tag → Prop) : Node → Prop
  | element {t : Tag} {content : List Node} (htag : P t) (hcontent : ∀ n ∈ content, n.LegibleWith P) :
      LegibleWith P (.element t content)
  | text {value : String} (h : value.toList.all isXmlChar = true) : LegibleWith P (.text value)
  | comment {value : String} (h : IsMarkup (writeComment value).toList (.comment value.toList)) :
      LegibleWith P (.comment value)
  | instruction {target : String} {data : Option String} {value : List Char}
      (h : IsMarkup (writeInstruction target data).toList (.instruction target.toList value)) :
      LegibleWith P (.instruction target data)

/-- A node all of whose tags are legible. -/
abbrev Node.Legible : Node → Prop := LegibleWith Tag.Legible

/-! ## 2. Pieces with white space between them

The compact style writes the pieces one after the other, and the indented style puts line ends and blanks between some
of them.  `Spread` is what the two have in common, and everything that is shown of it holds of both. -/

/-- Pieces one after the other, with white space anywhere between them. -/
inductive Spread : List Piece → List Char → Prop
  | nil : Spread [] []
  | blank {ps : List Piece} {s : List Char} {c : Char} (hc : isSpace c = true) (h : Spread ps s) : Spread ps (c :: s)
  | piece {p : Piece} {ps : List Piece} {s : List Char} (h : Spread ps s) : Spread (p :: ps) (p.markup.toList ++ s)

variable {p : Piece} {ps qs : List Piece} {s u : List Char}

theorem Spread.blanks {blanks : List Char} (hblanks : AllSpace blanks) (h : Spread ps s) : Spread ps (blanks ++ s) := by
  induction blanks with
  | nil => exact h
  | cons c blanks ih =>
    obtain ⟨hc, hblanks⟩ := List.forall_mem_cons.mp hblanks
    exact .blank hc (ih hblanks)

theorem Spread.nil_inv (h : Spread [] s) : AllSpace s := by
  induction s with
  | nil => exact fun c hc => absurd hc List.not_mem_nil
  | cons c s ih =>
    cases h with
    | blank hc h => exact List.forall_mem_cons.mpr ⟨hc, ih h⟩

theorem Spread.cons_inv (h : Spread (p :: ps) s) :
    ∃ blanks rest, s = blanks ++ (p.markup.toList ++ rest) ∧ AllSpace blanks ∧ Spread ps rest := by
  generalize hpieces : p :: ps = pieces at h
  induction h with
  | nil => cases hpieces
  | @blank _ s c hc _ ih =>
    obtain ⟨blanks, rest, rfl, hblanks, hrest⟩ := ih hpieces
    exact ⟨c :: blanks, rest, rfl, List.forall_mem_cons.mpr ⟨hc, hblanks⟩, hrest⟩
  | @piece _ _ s h _ =>
    cases hpieces
    exact ⟨[], s, rfl, fun c hc => absurd hc List.not_mem_nil, h⟩

theorem Spread.append_inv (h : Spread (ps ++ qs) s) : ∃ a b, s = a ++ b ∧ Spread ps a ∧ Spread qs b := by
  induction ps generalizing s with
  | nil => exact ⟨[], s, rfl, .nil, h⟩
  | cons p ps ih =>
    obtain ⟨blanks, rest, rfl, hblanks, hrest⟩ := h.cons_inv
    obtain ⟨a, b, rfl, ha, hb⟩ := ih hrest
    exact ⟨blanks ++ (p.markup.toList ++ a), b, by simp, (Spread.piece ha).blanks hblanks, hb⟩

/-- What white space makes no difference to holds before one piece if it holds before its markup. -/
theorem Spread.single {R : List Char → Prop} {a : List Char} (ha : Spread [p] a)
    (hspace : ∀ {blanks s}, AllSpace blanks → R s → R (blanks ++ s)) (hs : R s)
    (h : ∀ {s}, R s → R (p.markup.toList ++ s)) : R (a ++ s) := by
  obtain ⟨blanks, rest, rfl, hblanks, hrest⟩ := ha.cons_inv
  rw [List.append_assoc, List.append_assoc]
  exact hspace hblanks (h (hspace hrest.nil_inv hs))

/-- The indented style puts nothing but white space between pieces. -/
theorem spread_render_layout : ∀ (l : Layout) (ps : List Piece), Spread ps (Layout.render l ps).toList := by
  have hindent (l : Layout) : AllSpace l.indent.toList := by
    intro c hc
    rw [Layout.indent, String.toList_ofList] at hc
    rw [(List.mem_replicate.mp hc).2]
    rfl
  have hend (l : Layout) : AllSpace l.lineEnd.toList := by
    rw [Layout.lineEnd]
    split
    · exact fun c hc => absurd hc List.not_mem_nil
    · intro c hc
      rw [List.mem_singleton.mp hc]
      rfl
  intro l ps
  induction ps generalizing l with
  | nil => exact .nil
  | cons p ps ih =>
    cases p with
    -- What is put around a piece is an indent before it or a line end behind it, or neither.
    | startTag m inside =>
      have h := (Spread.piece (p := .startTag m inside) ((ih (inside :: l)).blanks (hend (inside :: l)))).blanks
        (hindent l)
      simpa [Layout.render, Piece.markup] using h
    | endTag m =>
      rw [Layout.render]
      have h := Spread.piece (p := .endTag m) ((ih l.tail).blanks (hend l.tail))
      split
      · simpa [Piece.markup] using h
      · simpa [Piece.markup] using h.blanks (hindent l.tail)
    | emptyTag m =>
      have h := (Spread.piece (p := .emptyTag m) ((ih l).blanks (hend l))).blanks (hindent l)
      simpa [Layout.render, Piece.markup] using h
    | text m =>
      have h := Spread.piece (p := .text m) (ih l)
      simpa [Layout.render, Piece.markup] using h
    | aside m =>
      have h := (Spread.piece (p := .aside m) ((ih l).blanks (hend l))).blanks (hindent l)
      simpa [Layout.render, Piece.markup] using h

/-- **Every style writes the pieces with white space between them.** -/
theorem spread_render (style : Style) (ps : List Piece) : Spread ps (style.render ps).toList := by
  cases style with
  | compact =>
    show Spread ps (joinPieces ps).toList
    induction ps with
    | nil => exact .nil
    | cons p ps ih =>
      rw [joinPieces, List.map_cons, String.join_cons, String.toList_append]
      exact .piece ih
  | indented => exact spread_render_layout [] ps

/-- The text of an element: an empty tag, or a start tag, the pieces of the content and an end tag, with white space
around each of them. -/
inductive ElementText (w : Scope) (t : Tag) (content : List Node) (name inside : String) : List Char → Prop
  | empty {blanks rest : List Char} (hcontent : content = []) (hblanks : AllSpace blanks) (hrest : AllSpace rest) :
      ElementText w t content name inside (blanks ++ (("<" ++ inside ++ "/>").toList ++ rest))
  | filled {ps : List Piece} {blanks a blanks' rest : List Char}
      (hps : contentPieces (w.extend t.declarations) content = some ps) (ha : Spread ps a) (hblanks : AllSpace blanks)
      (hblanks' : AllSpace blanks') (hrest : AllSpace rest) :
      ElementText w t content name inside
        (blanks ++ (("<" ++ inside ++ ">").toList ++ (a ++ (blanks' ++ (("</" ++ name ++ ">").toList ++ rest)))))

theorem exists_elementText {w : Scope} {t : Tag} {content : List Node}
    (hps : (Node.element t content).pieces w [] = some ps) (hs : Spread ps s) :
    ∃ name inside, writeTag (w.extend t.declarations) [] t = some (name, inside) ∧
      ElementText w t content name inside s := by
  rw [Node.pieces] at hps
  obtain ⟨⟨name, inside⟩, hwrite, hps⟩ := Option.bind_eq_some_iff.mp hps
  refine ⟨name, inside, hwrite, ?_⟩
  dsimp only at hps
  split at hps
  · rename_i hempty
    cases hps
    obtain ⟨blanks, rest, rfl, hblanks, hrest⟩ := hs.cons_inv
    exact .empty (List.isEmpty_iff.mp hempty) hblanks hrest.nil_inv
  · obtain ⟨within, hwithin, hps⟩ := Option.bind_eq_some_iff.mp hps
    cases hps
    obtain ⟨blanks, rest, rfl, hblanks, hrest⟩ := hs.cons_inv
    obtain ⟨a, b, rfl, ha, hb⟩ := hrest.append_inv
    obtain ⟨blanks', rest', rfl, hblanks', hrest'⟩ := hb.cons_inv
    exact .filled hwithin ha hblanks hblanks' hrest'.nil_inv

/-! ## 3. Reading on

Reading is taken from its end: a text is read to the end of the document from some state (`Completes`), and one more
token in front of it makes a text that is read from the state before.  Runs of text need care: a run is divided as far
as the next bracket, so white space that is put before a text becomes a part of one token.  `Resumes` therefore
quantifies over a text in front of everything else. -/

namespace Reader

/-- A text is read to the end of a document, from where reading stands. -/
def Completes (st : State) (s : List Char) : Prop :=
  ∃ ts st', Token.scan? s = some ts ∧ ts.foldlM State.take st = some st' ∧ st'.document?.isSome = true

/-- So it is behind every text of characters of markup, whatever has been read in the innermost element. -/
def Resumes (st : State) (s : List Char) : Prop :=
  ∀ reversed v, v.all isXmlChar = true → Completes ⟨st.opened, reversed, st.ids⟩ (Text.escapeChars v ++ s)

variable {st st' : State} {t : Token} {v : List Char}

/-- A complete token in front of a text that is read on. -/
theorem completes_markup (hu : IsMarkup u t) (htake : st.take t = some st') (h : Completes st' s) :
    Completes st (u ++ s) := by
  obtain ⟨ts, last, hscan, hfold, hdocument⟩ := h
  refine ⟨t :: ts, last, ?_, ?_, hdocument⟩
  · rw [Token.scan_markup hu, hscan]
    rfl
  · rw [List.foldlM_cons, htake]
    exact hfold

/-- A run of text in front of markup that is read on. -/
theorem completes_run {raw : List Char} (hraw : IsRun raw) (hs : ∀ c ∈ s.head?, c = '<')
    (htake : st.take (.text raw) = some st') (h : Completes st' s) : Completes st (raw ++ s) := by
  obtain ⟨ts, last, hscan, hfold, hdocument⟩ := h
  refine ⟨.text raw :: ts, last, ?_, ?_, hdocument⟩
  · rw [Token.scan_run hraw hs, hscan]
    rfl
  · rw [List.foldlM_cons, htake]
    exact hfold

theorem escapeChars_append (u v : List Char) :
    Text.escapeChars (u ++ v) = Text.escapeChars u ++ Text.escapeChars v := by
  simp only [Text.escapeChars_eq_flatMap, List.flatMap_append]

/-- White space is a text that need not be escaped. -/
theorem escapeChars_of_allSpace {blanks : List Char} (h : AllSpace blanks) :
    Text.escapeChars blanks = blanks ∧ blanks.all isXmlChar = true := by
  have hchar (c : Char) (hc : isSpace c = true) : Text.escapeChar c = [c] ∧ isXmlChar c = true := by
    simp only [isSpace, Bool.or_eq_true, beq_iff_eq] at hc
    rcases hc with ((rfl | rfl) | rfl) | rfl
    · decide
    · decide
    · decide
    · decide
  refine ⟨?_, List.all_eq_true.mpr fun c hc => (hchar c (h c hc)).2⟩
  rw [Text.escapeChars_eq_flatMap]
  induction blanks with
  | nil => rfl
  | cons c blanks ih =>
    obtain ⟨hc, hblanks⟩ := List.forall_mem_cons.mp h
    rw [List.flatMap_cons, (hchar c hc).1, ih hblanks]
    rfl

/-- What is escaped is a run of text, if it is not empty. -/
theorem isRun_escapeChars (hne : v ≠ []) (hv : v.all isXmlChar = true) : IsRun (Text.escapeChars v) where
  ne_nil := Text.escapeChars_ne_nil hne
  bracket := by
    intro hmem
    rw [Text.escapeChars_eq_flatMap] at hmem
    obtain ⟨c, -, hc⟩ := List.mem_flatMap.mp hmem
    rw [Text.escapeChar] at hc
    split at hc
    · exact absurd hc (by decide)
    · split at hc
      · exact absurd hc (by decide)
      · rename_i hlt
        split at hc
        · exact absurd hc (by decide)
        · exact hlt (List.mem_singleton.mp hc).symm
  chars := by rw [all_escapeChars, hv]
  closed := fun h => Text.greater_not_mem_escapeChars v (h.subset (by decide))

/-- Inside an element a text of characters of markup is read. -/
theorem take_escapeChars (hopened : st.opened.isEmpty = false) (v : List Char) :
    ∃ reversed, st.take (.text (Text.escapeChars v)) = some { st with reversed } := by
  have hdecode : decodeText (Text.escapeChars v) = some (normalized '\n' id v) :=
    decode_escapeChars (fun _ _ => rfl) v
  exact ⟨_, by rw [State.take, if_neg (by simp [hopened]), hdecode, Option.bind_some, addText_eq hopened]⟩

/-- Inside an element an empty tag is read as an element without content. -/
theorem take_closed_tag (hopened : st.opened.isEmpty = false) {raw : RawName} {as : List RawAttribute} {read : Tag}
    {inner : Scope} (htag : tag? st.scope raw as = some (read, inner)) {ids : List String}
    (hids : useIds? st.ids read = some ids) :
    st.take (.startTag raw as true) = some ⟨st.opened, .element read [] :: st.reversed, ids⟩ :=
  (take_tag_eq_some hopened).mpr ⟨read, inner, ids, htag, hids, rfl⟩

theorem Resumes.completes (h : Resumes st s) (reversed : List Node) : Completes ⟨st.opened, reversed, st.ids⟩ s :=
  h reversed [] rfl

/-- Texts before markup are read with what follows. -/
theorem Resumes.text (h : Resumes st s) (hv : v.all isXmlChar = true) : Resumes st (Text.escapeChars v ++ s) := by
  intro reversed before hbefore
  rw [← List.append_assoc, ← escapeChars_append]
  exact h reversed (before ++ v) (by rw [List.all_append, hbefore, hv]; rfl)

theorem Resumes.blanks {blanks : List Char} (h : Resumes st s) (hblanks : AllSpace blanks) :
    Resumes st (blanks ++ s) := by
  obtain ⟨hescape, hchars⟩ := escapeChars_of_allSpace hblanks
  rw [← hescape]
  exact h.text hchars

/-- What is not a run of text is read as its token, behind texts that are read before it. -/
theorem resumes_markup (hopened : st.opened.isEmpty = false) (hu : IsMarkup u t)
    (h : ∀ reversed, ∃ next, State.take ⟨st.opened, reversed, st.ids⟩ t = some next ∧ Completes next s) :
    Resumes st (u ++ s) := by
  intro reversed v hv
  by_cases hne : v = []
  · obtain ⟨next, htake, hcompletes⟩ := h reversed
    rw [hne, Text.escapeChars_eq_flatMap, List.flatMap_nil, List.nil_append]
    exact completes_markup hu htake hcompletes
  · obtain ⟨reversed', htext⟩ : ∃ reversed', State.take ⟨st.opened, reversed, st.ids⟩ (.text (Text.escapeChars v)) =
        some ⟨st.opened, reversed', st.ids⟩ := take_escapeChars (by exact hopened) v
    obtain ⟨next, htake, hcompletes⟩ := h reversed'
    refine completes_run (isRun_escapeChars hne hv) (fun c hc => ?_) htext (completes_markup hu htake hcompletes)
    obtain ⟨rest, rfl⟩ := hu.exists_cons
    exact (Option.some.inj hc).symm

end Reader

/-! ## 4. Nodes

By induction on the node.  Inside an element the scope is that of its tag, and what is written in a scope is read in one
that agrees with it (`ReadAs`). -/

open Reader (Completes Resumes resumes_markup)

/-- The pieces of a node are read on from wherever an element is open in whose scope they were written. -/
def Node.Resumable (n : Node) : Prop :=
  ∀ {w r : Scope} {ps : List Piece} {a s : List Char} {st : State}, ReadAs w r → n.pieces w [] = some ps →
    Spread ps a → st.opened.isEmpty = false → st.scope = r → Resumes st s → Resumes st (a ++ s)

theorem resumes_content {content : List Node} (hcontent : ∀ n ∈ content, n.Resumable) {w r : Scope} (h : ReadAs w r)
    {ps : List Piece} (hps : contentPieces w content = some ps) {a : List Char} (ha : Spread ps a) {st : State}
    (hopened : st.opened.isEmpty = false) (hscope : st.scope = r) (hs : Resumes st s) : Resumes st (a ++ s) := by
  induction content generalizing ps a with
  | nil =>
    rw [contentPieces] at hps
    cases hps
    exact hs.blanks ha.nil_inv
  | cons n content ih =>
    obtain ⟨hn, hcontent⟩ := List.forall_mem_cons.mp hcontent
    rw [contentPieces] at hps
    obtain ⟨here, hhere, hps⟩ := Option.bind_eq_some_iff.mp hps
    obtain ⟨rest, hrest, hps⟩ := Option.bind_eq_some_iff.mp hps
    cases hps
    obtain ⟨b, c, rfl, hb, hc⟩ := ha.append_inv
    rw [List.append_assoc]
    exact hn h hhere hb hopened hscope (ih hcontent hrest hc)

/-- What begins and ends an element, as tokens. -/
theorem exists_read_element {w r : Scope} (h : ReadAs w r) {t : Tag} (ht : t.Legible) {name inside : String}
    (hwrite : writeTag (w.extend t.declarations) [] t = some (name, inside)) (ids : List String) :
    ∃ raw as read, Reader.tag? r raw as = some (read, t.writtenDeclarations.reverse ++ r) ∧
      Reader.useIds? ids read = some ids ∧
      Reader.elementName? (t.writtenDeclarations.reverse ++ r) raw = some read.name ∧
      IsMarkup ("<" ++ inside ++ ">").toList (.startTag raw as false) ∧
      IsMarkup ("<" ++ inside ++ "/>").toList (.startTag raw as true) ∧
      IsMarkup ("</" ++ name ++ ">").toList (.endTag raw) := by
  obtain ⟨raw, s, as, read, hraw, hinside, has, htag, hids, hend⟩ := exists_read_tag h ht hwrite ids
  have hnone : AllSpace [] := fun c hc => absurd hc List.not_mem_nil
  refine ⟨raw, as, read, htag, hids, hend, ?_, ?_, ?_⟩
  · have hmarkup := IsMarkup.startTag hraw has hnone .startTag
    simpa [hinside] using hmarkup
  · have hmarkup := IsMarkup.startTag hraw has hnone .emptyTag
    simpa [hinside] using hmarkup
  · have hmarkup := IsMarkup.endTag hraw hnone
    simpa using hmarkup

/-- **The pieces of a legible node are read**, inside whatever elements it stands. -/
theorem resumable_of_legible {n : Node} (h : n.Legible) : n.Resumable := by
  induction h with
  | @element t content htag _ ih =>
    intro w r ps a s st hread hps ha hopened hscope hs
    subst hscope
    obtain ⟨name, inside, hwrite, htext⟩ := exists_elementText hps ha
    obtain ⟨raw, as, read, hread', hids, hend, hstart, hempty, hclose⟩ := exists_read_element hread htag hwrite st.ids
    cases htext with
    | @empty blanks rest _ hblanks hrest =>
      rw [List.append_assoc, List.append_assoc]
      refine (resumes_markup hopened hempty fun reversed => ?_).blanks hblanks
      have htake : State.take ⟨st.opened, reversed, st.ids⟩ (.startTag raw as true) =
          some ⟨st.opened, .element read [] :: reversed, st.ids⟩ := by
        apply Reader.take_closed_tag
        · exact hopened
        · exact hread'
        · exact hids
      exact ⟨_, htake, (hs.blanks hrest).completes _⟩
    | @filled within blanks b blanks' rest hwithin hb hblanks hblanks' hrest =>
      simp only [List.append_assoc]
      refine (resumes_markup hopened hstart fun reversed => ?_).blanks hblanks
      have htake : State.take ⟨st.opened, reversed, st.ids⟩ (.startTag raw as false) =
          some ⟨⟨read, t.writtenDeclarations.reverse ++ st.scope, reversed⟩ :: st.opened, [], st.ids⟩ := by
        apply Reader.take_open
        · exact hopened
        · exact hread'
        · exact hids
      -- Inside the element reading goes on to its end tag, and from there as it went on before.
      have hinside : Resumes ⟨⟨read, t.writtenDeclarations.reverse ++ st.scope, reversed⟩ :: st.opened, [], st.ids⟩
          (b ++ (blanks' ++ (("</" ++ name ++ ">").toList ++ (rest ++ s)))) := by
        refine resumes_content ih (hread.extend htag) hwithin hb rfl rfl ?_
        refine (resumes_markup rfl hclose fun reversed' => ⟨_, Reader.take_endTag rfl hend, ?_⟩).blanks hblanks'
        exact (hs.blanks hrest).completes _
      exact ⟨_, htake, hinside.completes []⟩
  | @text value hchars =>
    intro w r ps a s st _ hps ha _ _ hs
    rw [Node.pieces] at hps
    cases hps
    refine ha.single (fun hblanks hs => Resumes.blanks hs hblanks) hs fun hs => ?_
    rw [Piece.markup, Text.escape, String.toList_ofList]
    exact hs.text hchars
  | comment hmarkup =>
    intro w r ps a s st _ hps ha hopened _ hs
    rw [Node.pieces] at hps
    cases hps
    refine ha.single (fun hblanks hs => Resumes.blanks hs hblanks) hs fun hs => ?_
    exact resumes_markup hopened hmarkup fun reversed => ⟨_, rfl, hs.completes _⟩
  | instruction hmarkup =>
    intro w r ps a s st _ hps ha hopened _ hs
    rw [Node.pieces] at hps
    cases hps
    refine ha.single (fun hblanks hs => Resumes.blanks hs hblanks) hs fun hs => ?_
    exact resumes_markup hopened hmarkup fun reversed => ⟨_, rfl, hs.completes _⟩

/-! ## 5. Documents

The root is the only element that begins where none is open.  White space before it is read over, as is white space
behind it. -/

namespace Reader

/-- Outside the root white space is read over. -/
theorem completes_blanks {st : State} {blanks : List Char} (hblanks : AllSpace blanks) (hopened : st.opened = [])
    (hs : ∀ c ∈ s.head?, c = '<') (h : Completes st s) : Completes st (blanks ++ s) := by
  by_cases hne : blanks = []
  · rw [hne]
    exact h
  · have hspace (c : Char) (hc : isSpace c = true) : c ≠ '<' ∧ c ≠ ']' ∧ isXmlChar c = true := by
      simp only [isSpace, Bool.or_eq_true, beq_iff_eq] at hc
      rcases hc with ((rfl | rfl) | rfl) | rfl
      · decide
      · decide
      · decide
      · decide
    have hrun : IsRun blanks := by
      refine ⟨hne, fun hmem => ?_, List.all_eq_true.mpr fun c hc => (hspace c (hblanks c hc)).2.2, fun hwithin => ?_⟩
      · exact (hspace _ (hblanks _ hmem)).1 rfl
      · exact (hspace _ (hblanks _ (hwithin.subset (by decide : ']' ∈ "]]>".toList)))).2.1 rfl
    have htake : st.take (.text blanks) = some st := by
      rw [State.take, hopened, if_pos List.isEmpty_nil, if_pos (List.all_eq_true.mpr hblanks)]
    exact completes_run hrun hs htake h

/-- Nothing but white space may follow the root. -/
theorem completes_end {st : State} {blanks : List Char} (hblanks : AllSpace blanks)
    (h : st.document?.isSome = true) : Completes st blanks := by
  have hopened : st.opened = [] := by
    rw [State.document?] at h
    split at h
    · rename_i hclosed
      exact List.isEmpty_iff.mp (Bool.and_eq_true_iff.mp hclosed).1
    · cases h
  have hnil : Completes st [] := ⟨[], st, rfl, rfl, h⟩
  rw [← List.append_nil blanks]
  exact completes_blanks hblanks hopened (by simp) hnil

/-- The root begins where nothing has been read. -/
theorem take_root {raw : RawName} {as : List RawAttribute} {read : Tag} {inner : Scope}
    (htag : tag? .outermost raw as = some (read, inner)) (hids : useIds? [] read = some []) (isEmpty : Bool) :
    State.start.take (.startTag raw as isEmpty) = some (State.start.begin read inner [] isEmpty) := by
  have hscope : State.start.scope = Scope.outermost := rfl
  have hused : State.start.ids = [] := rfl
  rw [State.take, hscope, htag, hused]
  simp only [Option.bind_eq_bind, Option.bind_some, hids]
  cases isEmpty <;> rfl

/-- What begins with white space and a tag has no declaration, and is read from the start. -/
theorem readChars_eq {blanks u : List Char} {raw : RawName} {as : List RawAttribute} {isEmpty : Bool}
    (hblanks : AllSpace blanks) (hu : IsMarkup u (.startTag raw as isEmpty)) (s : List Char) :
    readChars (blanks ++ (u ++ s)) = (Token.scan? (blanks ++ (u ++ s))).bind fun tokens =>
      (tokens.foldlM State.take State.start).bind State.document? := by
  obtain ⟨c, tag, rfl, hc⟩ : ∃ c tag, u = '<' :: c :: tag ∧ isNameChar c = true := by
    cases hu with
    | startTag hname _ _ _ =>
      obtain ⟨c, rest, rfl, hc⟩ := hname.exists_cons
      exact ⟨c, _, rfl, hc⟩
  obtain ⟨first, rest, htext, hfirst, hmark⟩ : ∃ first rest, blanks ++ ('<' :: c :: tag ++ s) = first :: rest ∧
      first ≠ '\uFEFF' ∧ ¬ "<?xml ".toList <+: first :: rest := by
    cases blanks with
    | nil =>
      refine ⟨'<', c :: (tag ++ s), rfl, by decide, fun hbegins => ?_⟩
      obtain ⟨rest, hrest⟩ := hbegins
      have hquestion : '?' = c := (List.cons.inj (List.cons.inj hrest).2).1
      exact ne_of_isNameChar hc (by decide) hquestion.symm
    | cons b blanks =>
      have hb := hblanks b List.mem_cons_self
      refine ⟨b, _, rfl, ?_, fun hbegins => ?_⟩
      · rintro rfl
        exact absurd hb (by decide)
      · obtain ⟨rest, hrest⟩ := hbegins
        have hbracket : '<' = b := (List.cons.inj hrest).1
        rw [← hbracket] at hb
        exact absurd hb (by decide)
  have hskip : skipByteOrderMark (first :: rest) = first :: rest := by
    rw [skipByteOrderMark, if_neg (by simpa using hfirst)]
  have hdeclaration : afterDeclaration? (first :: rest) = some (first :: rest) := by
    rw [afterDeclaration?, Token.afterWord_eq_none.mpr hmark]
  rw [htext, readChars, hskip, hdeclaration]
  rfl

end Reader

/-- The text of a document that is its root. -/
theorem elementText_of_write {t : Tag} {content : List Node} {style : Style} {text : String}
    (hwrite : Document.write style ⟨[.element t content]⟩ = .ok text) :
    ∃ name inside, writeTag (Scope.written.extend t.declarations) [] t = some (name, inside) ∧
      ElementText .written t content name inside text.toList := by
  rw [Document.write] at hwrite
  cases hpieces : contentPieces .written [.element t content] with
  | none => simp [hpieces] at hwrite
  | some ps =>
    simp only [hpieces, Except.ok.injEq] at hwrite
    subst hwrite
    rw [contentPieces, contentPieces] at hpieces
    obtain ⟨here, hhere, hpieces⟩ := Option.bind_eq_some_iff.mp hpieces
    cases hpieces
    have hspread := spread_render style (here ++ [])
    rw [List.append_nil] at hspread ⊢
    exact exists_elementText hhere hspread

/-- **Whatever is written of a legible document is read**, in every style. -/
theorem exists_read_of_write {t : Tag} {content : List Node} (ht : t.Legible) (hcontent : ∀ n ∈ content, n.Legible)
    {style : Style} {text : String} (hwrite : Document.write style ⟨[.element t content]⟩ = .ok text) :
    ∃ d, Document.read text = .ok d := by
  obtain ⟨name, inside, htag, htext⟩ := elementText_of_write hwrite
  obtain ⟨raw, as, read, hread, hids, hend, hstart, hempty, hclose⟩ := exists_read_element readAs_written ht htag []
  -- The root begins behind white space, and its content is read like that of every element.
  obtain ⟨blanks, u, isEmpty, rest, heq, hblanks, hu, hrest⟩ : ∃ blanks u isEmpty rest,
      text.toList = blanks ++ (u ++ rest) ∧ AllSpace blanks ∧ IsMarkup u (.startTag raw as isEmpty) ∧
        Completes (State.start.begin read (t.writtenDeclarations.reverse ++ Scope.outermost) [] isEmpty) rest := by
    generalize text.toList = chars at htext
    cases htext with
    | @empty blanks rest _ hblanks hrest =>
      exact ⟨blanks, _, true, rest, rfl, hblanks, hempty, Reader.completes_end hrest rfl⟩
    | @filled within blanks a blanks' rest hwithin ha hblanks hblanks' hrest =>
      refine ⟨blanks, _, false, _, rfl, hblanks, hstart, ?_⟩
      have hinside : Resumes (State.start.begin read (t.writtenDeclarations.reverse ++ Scope.outermost) [] false)
          (a ++ (blanks' ++ (("</" ++ name ++ ">").toList ++ rest))) := by
        refine resumes_content (fun n hn => resumable_of_legible (hcontent n hn)) (readAs_written.extend ht) hwithin ha
          rfl rfl ?_
        refine (resumes_markup rfl hclose fun reversed => ⟨_, Reader.take_endTag rfl hend, ?_⟩).blanks hblanks'
        exact Reader.completes_end hrest rfl
      exact hinside.completes []
  have hcompletes : Completes State.start (blanks ++ (u ++ rest)) := by
    refine Reader.completes_blanks hblanks rfl (fun c hc => ?_)
      (Reader.completes_markup hu (Reader.take_root hread hids isEmpty) hrest)
    obtain ⟨v, rfl⟩ := hu.exists_cons
    exact (Option.some.inj hc).symm
  obtain ⟨ts, st, hscan, hfold, hdocument⟩ := hcompletes
  obtain ⟨d, hd⟩ := Option.isSome_iff_exists.mp hdocument
  refine ⟨d, ?_⟩
  rw [Document.read, heq, Reader.readChars_eq hblanks hu, hscan, Option.bind_some, hfold, Option.bind_some, hd]

end Regraft.Xml
