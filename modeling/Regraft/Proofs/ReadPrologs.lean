import Regraft.Proofs.FragmentNames
import Regraft.Proofs.Prologs
/-!
# Documents that are read

Whatever is read as a document has a prolog and a root tag (`exists_documentText`).  The declaration is the only part
that is no token; behind it the tokens are taken one by one, and as long as no element has begun, only comments,
instructions and runs of white space can be.
-/

namespace Regraft

open Xml (Document RawName Token isSpace)
open Xml.Token (AllSpace Attributes Divided IsEquals IsMarkup IsQuoted IsRawName)
open Xml.Reader (State)
open Text (AreAttributes IsDeclaration IsMisc IsProlog IsStartTag)

variable {s rest prolog : List Char}

/-! ## 1. Start tags

The grammar of tokens says what a start tag is read as, and the grammar of documents what stands between its brackets.
The second is the weaker one, since what a name or a value comes to makes no difference to it; so whatever the first
takes for a tag, the second does. -/

/-- What is divided into a prefix and a local part is a name. -/
theorem Xml.Token.IsRawName.isName {name : List Char} {raw : RawName} (h : IsRawName name raw) :
    Xml.isName (String.ofList name) = true := by
  rw [Xml.isName, String.toList_ofList, Bool.and_eq_true]
  refine ⟨?_, List.all_eq_true.mpr h.chars⟩
  have hdivided := h.divided
  rw [RawName.ofChars?] at hdivided
  cases hsplit : Text.splitOnce? ':' name with
  | none =>
    simp only [hsplit, Option.getD_none] at hdivided
    split at hdivided
    · rename_i hparts
      exact (Bool.and_eq_true_iff.mp (Bool.and_eq_true_iff.mp hparts).1).2
    · cases hdivided
  | some p =>
    obtain ⟨p, l⟩ := p
    simp only [hsplit, Option.getD_some] at hdivided
    obtain ⟨rfl, -⟩ := Text.splitOnce_eq_some.mp hsplit
    split at hdivided
    · rename_i hparts
      have hp := (Bool.and_eq_true_iff.mp (Bool.and_eq_true_iff.mp hparts).1).1
      cases p with
      | nil => exact (by decide : Xml.isNameStart ':' = true)
      | cons c p => exact hp
    · cases hdivided

theorem Xml.Token.Attributes.areAttributes {as : List Xml.RawAttribute} (h : Attributes s as) : AreAttributes s := by
  induction h with
  | nil => exact .nil
  | cons ha _ ih =>
    obtain ⟨hne, hblanks, hname, hequals, hquoted⟩ := ha
    have hcons := AreAttributes.cons hne hblanks hname.isName hequals hquoted ih
    rwa [String.toList_ofList] at hcons

/-- Between the brackets of a start tag there is a start tag. -/
theorem Xml.Token.IsMarkup.exists_startTag {name : RawName} {as : List Xml.RawAttribute} {isEmpty : Bool}
    (h : IsMarkup s (.startTag name as isEmpty)) : ∃ tag, IsStartTag tag ∧ s = '<' :: (tag ++ ['>']) := by
  cases h with
  | startTag hname has hblanks he =>
    have htag {slash : List Char} (hslash : slash = [] ∨ slash = ['/']) :=
      IsStartTag.mk hname.isName has.areAttributes hblanks hslash
    cases he with
    | startTag => exact ⟨_, htag (.inl rfl), by simp⟩
    | emptyTag => exact ⟨_, htag (.inr rfl), by simp⟩

/-! ## 2. Declarations

The declaration of a document is no token: it is taken off the text before that is divided, part by part.  None of its
parts has a question mark, so it ends at the first one, and for the grammar of documents it is a declaration. -/

namespace Xml.Reader

theorem gap_eq_some (h : gap? s = some rest) : ∃ u, s = u ++ rest ∧ AllSpace u := by
  rw [gap?] at h
  split at h
  · cases h
    obtain ⟨blanks, hblanks, hs, -⟩ := Token.exists_skipSpace s
    exact ⟨blanks, hs, hblanks⟩
  · split at h
    · cases h
      exact ⟨[], rfl, fun c hc => absurd hc List.not_mem_nil⟩
    · cases h

theorem question_not_mem_of_allSpace (h : AllSpace s) : '?' ∉ s := fun hmem => absurd (h _ hmem) (by decide)

theorem question_not_mem_of_isEquals (h : IsEquals s) : '?' ∉ s := by
  obtain ⟨hl, hr⟩ := h
  simp [question_not_mem_of_allSpace hl, question_not_mem_of_allSpace hr]

theorem question_not_mem_of_isQuoted {value : List Char} (h : IsQuoted s value) (hvalue : '?' ∉ value) : '?' ∉ s := by
  obtain ⟨hq, -, -⟩ := h
  rcases hq with rfl | rfl
  · simp [hvalue]
  · simp [hvalue]

/-- A part of a declaration has no question mark in it. -/
theorem part_eq_some {word : List Char} {p : List Char → Bool} (hword : '?' ∉ word)
    (hp : ∀ value, p value = true → '?' ∉ value) (h : part? word p s = some rest) :
    ∃ u, s = u ++ rest ∧ '?' ∉ u := by
  rw [part?] at h
  split at h
  · cases h
    exact ⟨[], rfl, List.not_mem_nil⟩
  · rename_i after hafter
    obtain ⟨afterEquals, hequals, h⟩ := Option.bind_eq_some_iff.mp h
    obtain ⟨⟨value, afterValue⟩, hvalue, h⟩ := Option.bind_eq_some_iff.mp h
    dsimp only at h
    split at h
    · rename_i hpvalue
      obtain ⟨blanks, rfl, hblanks⟩ := gap_eq_some h
      obtain ⟨equals, hsign, rfl, -⟩ := Token.equals_eq_some.mp hequals
      obtain ⟨quoted, hquoted, rfl⟩ := Token.quotedValue_eq_some.mp hvalue
      rw [Token.afterWord_eq_some] at hafter
      refine ⟨word ++ (equals ++ (quoted ++ blanks)), by simp [hafter], ?_⟩
      simp [hword, question_not_mem_of_isEquals hsign, question_not_mem_of_isQuoted hquoted (hp value hpvalue),
        question_not_mem_of_allSpace hblanks]
    · cases h

/-- What is taken for the declaration of a document is one. -/
theorem afterDeclaration_eq_some (h : afterDeclaration? s = some rest) :
    ∃ declaration, s = declaration ++ rest ∧ (declaration = [] ∨ IsDeclaration declaration) := by
  rw [afterDeclaration?] at h
  split at h
  · cases h
    exact ⟨[], rfl, .inl rfl⟩
  · rename_i after hafter
    obtain ⟨-, -, h⟩ := Option.bind_eq_some_iff.mp h
    obtain ⟨afterVersion, hversion, h⟩ := Option.bind_eq_some_iff.mp h
    obtain ⟨afterEncoding, hencoding, h⟩ := Option.bind_eq_some_iff.mp h
    obtain ⟨afterStandalone, hstandalone, h⟩ := Option.bind_eq_some_iff.mp h
    rw [Token.afterWord_eq_some] at hafter h
    obtain ⟨blanks, hblanks, hspace, -⟩ := Token.exists_skipSpace after
    obtain ⟨u, hu, hu'⟩ := part_eq_some (by decide) (fun value hvalue => by
      rw [beq_iff_eq] at hvalue
      rw [hvalue]
      decide) hversion
    obtain ⟨v, hv, hv'⟩ := part_eq_some (by decide) (fun value hvalue hmem =>
      absurd (List.all_eq_true.mp hvalue _ hmem) (by decide)) hencoding
    obtain ⟨w, hw, hw'⟩ := part_eq_some (by decide) (fun value hvalue => by
      rcases (by simpa using hvalue : value = "yes".toList ∨ value = "no".toList) with rfl | rfl
      · decide
      · decide) hstandalone
    obtain ⟨blanks', hblanks', hspace', -⟩ := Token.exists_skipSpace afterStandalone
    have hcontent : '?' ∉ ' ' :: (blanks ++ (u ++ (v ++ (w ++ blanks')))) := by
      simp [hu', hv', hw', question_not_mem_of_allSpace hblanks, question_not_mem_of_allSpace hblanks']
    refine ⟨_, ?_, .inr (.mk rfl fun hwithin => hcontent (hwithin.subset (by decide)))⟩
    rw [hafter, hspace, hu, hv, hw, hspace', h]
    simp

end Xml.Reader

/-! ## 3. Tokens before the root element

What is read before the root element opens none: instructions, comments and white space.  Each of them is one step, and
what it leaves is read as before. -/

/-- A prolog goes on with white space. -/
theorem Text.IsProlog.append_space (h : IsProlog prolog) (hs : AllSpace s) : IsProlog (prolog ++ s) := by
  induction s generalizing prolog with
  | nil => rwa [List.append_nil]
  | cons c s ih =>
    have hc := h.append (.space (hs c List.mem_cons_self))
    rw [← List.singleton_append, ← List.append_assoc]
    exact ih hc fun d hd => hs d (List.mem_cons_of_mem _ hd)

/-- Behind a prolog, the tokens of a document go on with it up to the root tag. -/
theorem exists_documentText_of_divided {tokens : List Token} {st st' : State} (hdivided : Divided s tokens)
    (hprolog : IsProlog prolog) (hopened : st.opened = []) (hnone : st.reversed.any Xml.Node.isElement = false)
    (htaken : tokens.foldlM State.take st = some st') (hroot : st'.reversed.any Xml.Node.isElement = true) :
    ∃ prolog' tag after, IsProlog prolog' ∧ IsStartTag tag ∧ prolog ++ s = prolog' ++ '<' :: (tag ++ '>' :: after) := by
  -- The prolog grows with every token; no element is open and none has been read until the root tag.
  induction hdivided generalizing st prolog with
  | nil =>
    cases htaken
    rw [hnone] at hroot
    cases hroot
  | @markup u s token tokens hu _ ih =>
    obtain ⟨next, hnext, htaken⟩ := Option.bind_eq_some_iff.mp htaken
    cases token with
    | startTag name as isEmpty =>
      obtain ⟨tag, htag, rfl⟩ := hu.exists_startTag
      exact ⟨prolog, tag, s, hprolog, htag, by simp⟩
    | endTag name =>
      rw [State.take, hopened] at hnext
      cases hnext
    | text raw => cases hu
    | literal value =>
      rw [State.take, State.addText, if_pos (by simp [hopened])] at hnext
      cases hnext
    | comment value =>
      cases hnext
      rw [← List.append_assoc]
      refine ih (hprolog.append (.comment hu)) ?_ ?_ htaken
      · exact hopened
      · simp [State.add, hnone, Xml.Node.isElement]
    | instruction target data =>
      cases hnext
      rw [← List.append_assoc]
      refine ih (hprolog.append (.instruction hu)) ?_ ?_ htaken
      · exact hopened
      · simp [State.add, hnone, Xml.Node.isElement]
  | @run raw s tokens _ _ _ ih =>
    obtain ⟨next, hnext, htaken⟩ := Option.bind_eq_some_iff.mp htaken
    rw [State.take, if_pos (by simp [hopened])] at hnext
    split at hnext
    · rename_i hspace
      cases hnext
      rw [← List.append_assoc]
      exact ih (hprolog.append_space (List.all_eq_true.mp hspace)) hopened hnone htaken
    · cases hnext

/-- **What is read as a document has a prolog and a root tag.** -/
theorem exists_documentText {text : String} {document : Document} (h : Document.read text = .ok document) :
    ∃ prolog tag after, IsProlog prolog ∧ IsStartTag tag ∧ text = Text.documentText prolog tag after := by
  rw [Document.read] at h
  cases hread : Xml.Reader.readChars text.toList with
  | none =>
    rw [hread] at h
    cases h
  | some d =>
    obtain ⟨rest, hrest, hread⟩ := Option.bind_eq_some_iff.mp hread
    obtain ⟨tokens, htokens, hread⟩ := Option.bind_eq_some_iff.mp hread
    obtain ⟨st, htaken, hread⟩ := Option.bind_eq_some_iff.mp hread
    obtain ⟨mark, hmark, htext⟩ : ∃ mark, (mark = [] ∨ mark = ['\uFEFF']) ∧
        text.toList = mark ++ Xml.Reader.skipByteOrderMark text.toList := by
      rw [Xml.Reader.skipByteOrderMark]
      split
      · rename_i hhead
        obtain ⟨rest, hrest⟩ := List.head?_eq_some_iff.mp hhead
        exact ⟨_, .inr rfl, by rw [hrest]; rfl⟩
      · exact ⟨[], .inl rfl, rfl⟩
    obtain ⟨declaration, hdeclared, hdeclaration⟩ := Xml.Reader.afterDeclaration_eq_some hrest
    have hroot : st.reversed.any Xml.Node.isElement = true := by
      rw [State.document?] at hread
      split at hread
      · rename_i hclosed
        exact (Bool.and_eq_true_iff.mp hclosed).2
      · cases hread
    obtain ⟨prolog, tag, after, hprolog, htag, heq⟩ := exists_documentText_of_divided (Token.scan_eq_some.mp htokens)
      (.start hmark hdeclaration) rfl rfl htaken hroot
    refine ⟨prolog, tag, after, hprolog, htag, ?_⟩
    rw [Text.documentText, ← heq, List.append_assoc, ← hdeclared, ← htext, String.ofList_toList]

end Regraft
