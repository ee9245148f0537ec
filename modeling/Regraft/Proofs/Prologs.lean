import Regraft.Proofs.Scanning
import Regraft.Proofs.WrittenTags
/-!
# What precedes the root element

A document may begin with a byte order mark and a declaration, and comments, instructions and white space precede its
root element (`IsProlog`).  The root tag is looked for behind the first opening bracket that opens neither a
declaration, an instruction nor a comment; but what these contain is not skipped, and a bracket in it may open a tag
just as well.  So the root tag is found if every opening bracket of the prolog stands before a question mark or an
exclamation mark (`OpensNoTag`).

If a bracket of the prolog opens a tag, then this tag either ends in the prolog or leaves a quote open at the end of the
prolog (`exists_openQuote`): the prolog ends with a closing bracket and white space, and only in quotes does a closing
bracket not end a tag.
-/

namespace Regraft.Text

open Xml (isSpace)
open Xml.Token (AllSpace IsEquals IsMarkup IsQuoted)

/-! ## 1. Documents as they are written

The grammar of a document as far as it is needed: what may precede the root, what a start tag consists of, and anything
behind it. -/

/-- The declaration of a document. -/
inductive IsDeclaration : List Char → Prop where
  | mk {s : List Char} : s.head?.any isSpace = true → ¬ "?>".toList <:+: s →
      IsDeclaration ("<?xml".toList ++ (s ++ "?>".toList))

/-- White space, comments and instructions. -/
inductive IsMisc : List Char → Prop where
  | space {c : Char} : isSpace c = true → IsMisc [c]
  | comment {s value : List Char} : IsMarkup s (.comment value) → IsMisc s
  | instruction {s target data : List Char} : IsMarkup s (.instruction target data) → IsMisc s

/-- What precedes the root element. -/
inductive IsProlog : List Char → Prop where
  | start {mark declaration : List Char} : mark = [] ∨ mark = ['\uFEFF'] →
      declaration = [] ∨ IsDeclaration declaration → IsProlog (mark ++ declaration)
  | append {s u : List Char} : IsProlog s → IsMisc u → IsProlog (s ++ u)

/-- Attributes with white space before each of them. -/
inductive AreAttributes : List Char → Prop where
  | nil : AreAttributes []
  | cons {blanks equals quoted value s : List Char} {name : String} : blanks ≠ [] → AllSpace blanks →
      Xml.isName name = true → IsEquals equals → IsQuoted quoted value → AreAttributes s →
      AreAttributes (blanks ++ (name.toList ++ (equals ++ quoted)) ++ s)

/-- What stands between the brackets of a start tag. -/
inductive IsStartTag : List Char → Prop where
  | mk {name : String} {attributes blanks slash : List Char} : Xml.isName name = true → AreAttributes attributes →
      AllSpace blanks → slash = [] ∨ slash = ['/'] → IsStartTag (name.toList ++ (attributes ++ (blanks ++ slash)))

/-- The text of a document: its prolog, the root tag, and what follows. -/
def documentText (prolog tag after : List Char) : String := .ofList (prolog ++ '<' :: (tag ++ '>' :: after))

variable {s u prolog tag : List Char} {q : Char}

theorem IsDeclaration.ends (h : IsDeclaration s) : ['>'] <:+ s := by
  obtain ⟨-, -⟩ := h
  exact (show ['>'] <:+ "?>".toList by decide).trans ((List.suffix_append _ _).trans (List.suffix_append _ _))

theorem IsMisc.ends (h : IsMisc s) : AllSpace s ∨ ['>'] <:+ s := by
  cases h with
  | @space c hc => exact .inl fun d hd => List.mem_singleton.mp hd ▸ hc
  | comment h =>
    cases h with
    | comment =>
      exact .inr ((show ['>'] <:+ "-->".toList by decide).trans
        ((List.suffix_append _ _).trans (List.suffix_append _ _)))
  | instruction h =>
    cases h with
    | instruction =>
      exact .inr ((show ['>'] <:+ "?>".toList by decide).trans ((List.suffix_append _ _).trans
        ((List.suffix_append _ _).trans ((List.suffix_append _ _).trans (List.suffix_append _ _)))))

/-- If there is an opening bracket in a prolog, the last character that is no white space is a closing one. -/
theorem IsProlog.ends (h : IsProlog prolog) :
    '<' ∉ prolog ∨ ∃ s blanks, prolog = s ++ '>' :: blanks ∧ AllSpace blanks := by
  have hends {s u : List Char} (h : ['>'] <:+ u) : ∃ v blanks, s ++ u = v ++ '>' :: blanks ∧ AllSpace blanks := by
    obtain ⟨v, rfl⟩ := h
    exact ⟨s ++ v, [], by simp, fun c hc => absurd hc List.not_mem_nil⟩
  induction h with
  | start hmark hdeclaration =>
    rcases hdeclaration with rfl | hdeclaration
    · refine .inl ?_
      rcases hmark with rfl | rfl
      · simp
      · decide
    · exact .inr (hends hdeclaration.ends)
  | append _ hu ih =>
    rcases hu.ends with hspace | hgreater
    · rcases ih with ih | ⟨s, blanks, rfl, hblanks⟩
      · refine .inl fun hmem => ?_
        rcases List.mem_append.mp hmem with hmem | hmem
        · exact ih hmem
        · exact absurd (hspace _ hmem) (by decide)
      · refine .inr ⟨s, blanks ++ _, List.append_assoc .., fun c hc => ?_⟩
        exact (List.mem_append.mp hc).elim (hblanks c) (hspace c)
    · exact .inr (hends hgreater)

/-- A start tag begins with its name. -/
theorem IsStartTag.exists_cons (h : IsStartTag tag) : ∃ c rest, tag = c :: rest ∧ Xml.isNameChar c = true := by
  obtain ⟨hname, -, -, -⟩ := h
  obtain ⟨c, rest, hc, hall⟩ := Xml.exists_cons_of_isName hname
  exact ⟨c, _, by rw [hc, List.cons_append], hall c (by simp [hc])⟩

/-! ## 2. Brackets that open no tag

The search goes from bracket to bracket and looks at one character behind each. -/

/-- Every opening bracket stands before a question mark or an exclamation mark. -/
def OpensNoTag (s : List Char) : Prop := ∀ a b, s = a ++ '<' :: b → b.head? = some '?' ∨ b.head? = some '!'

theorem OpensNoTag.of_cons {c : Char} (h : OpensNoTag (c :: s)) : OpensNoTag s := fun a b hs =>
  h (c :: a) b (by rw [hs, List.cons_append])

/-- The search for the root tag passes over brackets that open no tag. -/
theorem OpensNoTag.splitRootStart_append (h : OpensNoTag s) (rest : List Char) :
    splitRootStart (s ++ rest) = (splitRootStart rest).map fun p => (s ++ p.1, p.2) := by
  induction s with
  | nil => simp
  | cons c s ih =>
    have hnot : ¬ (c = '<' ∧ (s ++ rest).head? ≠ some '?' ∧ (s ++ rest).head? ≠ some '!') := by
      rintro ⟨rfl, hquestion, hexclamation⟩
      rcases h [] s rfl with hs | hs
      · exact hquestion (by rw [List.head?_append, hs]; rfl)
      · exact hexclamation (by rw [List.head?_append, hs]; rfl)
    rw [List.cons_append, splitRootStart, if_neg hnot, ih h.of_cons, Option.map_map]
    rfl

theorem splitRootStart_eq_none : splitRootStart s = none ↔ OpensNoTag s := by
  induction s with
  | nil => simp [splitRootStart, OpensNoTag]
  | cons c s ih =>
    rw [splitRootStart]
    split
    · rename_i hopens
      obtain ⟨rfl, hquestion, hexclamation⟩ := hopens
      refine iff_of_false (Option.some_ne_none _) fun h => ?_
      rcases h [] s rfl with hs | hs
      · exact hquestion hs
      · exact hexclamation hs
    · rename_i hnot
      rw [Option.map_eq_none_iff, ih]
      refine ⟨fun h a b hs => ?_, OpensNoTag.of_cons⟩
      cases a with
      | nil =>
        obtain ⟨rfl, rfl⟩ := List.cons.inj hs
        by_contra hneither
        exact hnot ⟨rfl, not_or.mp hneither⟩
      | cons d a => exact h a b (List.cons.inj hs).2

/-- Where the root tag is taken to begin in a text, it is taken to begin in every text that goes on. -/
theorem splitRootStart_eq_some {a b : List Char} (h : splitRootStart s = some (a, b)) :
    s = a ++ '<' :: b ∧ (b ≠ [] → ∀ rest, splitRootStart (s ++ rest) = some (a, b ++ rest)) := by
  induction s generalizing a with
  | nil => cases h
  | cons c s ih =>
    rw [splitRootStart] at h
    split at h
    · rename_i hopens
      cases h
      refine ⟨by rw [hopens.1]; rfl, fun hne rest => ?_⟩
      rw [List.cons_append, splitRootStart, List.head?_append_of_ne_nil _ hne, if_pos hopens]
    · rename_i hnot
      obtain ⟨⟨a', b'⟩, hsplit, heq⟩ := Option.map_eq_some_iff.mp h
      cases heq
      obtain ⟨hs, hrest⟩ := ih hsplit
      refine ⟨by rw [hs]; rfl, fun hne rest => ?_⟩
      have hnil : s ≠ [] := by simp [hs]
      rw [List.cons_append, splitRootStart, List.head?_append_of_ne_nil _ hnil, if_neg hnot, hrest hne]
      rfl

theorem RootTag.find?_of_begins {a b : List Char} (h : splitRootStart s = some (a, b)) :
    RootTag.find? s = (splitTagEnd none b).map fun p => ⟨a, p.1, p.2⟩ := by
  rw [RootTag.find?, h]
  cases hend : splitTagEnd none b with
  | none => simp [hend]
  | some p => simp [hend]

/-! ## 3. Quotes

Inside a tag, brackets in quotes do not count.  `Leads` follows the quotes through a text: from the state before it to
the state behind it. -/

/-- The quote that is open behind a character. -/
def nextQuote (quote : Option Char) (c : Char) : Option Char :=
  match quote with
  | some q => if c = q then none else some q
  | none => if c = '"' ∨ c = '\'' then some c else none

/-- An open quote is one of the two. -/
def IsQuote (quote : Option Char) : Prop := ∀ q ∈ quote, q = '"' ∨ q = '\''

/-- The search for the end of a tag passes over a text, with one quote open before it and another one behind it. -/
def Leads (quote : Option Char) (s : List Char) (quote' : Option Char) : Prop :=
  ∀ rest, splitTagEnd quote (s ++ rest) = (splitTagEnd quote' rest).map fun p => (s ++ p.1, p.2)

variable {quote quote' quote'' : Option Char}

theorem splitTagEnd_cons (quote : Option Char) (c : Char) (rest : List Char) : splitTagEnd quote (c :: rest) =
    if quote = none ∧ c = '>' then some ([], rest)
    else (splitTagEnd (nextQuote quote c) rest).map fun p => (c :: p.1, p.2) := by
  cases quote with
  | some q => simp [splitTagEnd, nextQuote]
  | none =>
    by_cases hc : c = '>'
    · simp [splitTagEnd, hc]
    · rw [if_neg (by simp [hc])]
      simp only [splitTagEnd, nextQuote, if_neg hc]
      split
      · rename_i heq
        split at heq
        · cases heq
        · cases heq
      · rename_i quote' heq
        split at heq
        · rename_i hq
          cases heq
          rw [if_pos hq]
        · rename_i hq
          cases heq
          rw [if_neg hq]

theorem IsQuote.next (h : IsQuote quote) (c : Char) : IsQuote (nextQuote quote c) := by
  intro q hq
  cases quote with
  | some q' =>
    rw [nextQuote] at hq
    split at hq
    · cases hq
    · cases hq
      exact h q rfl
  | none =>
    rw [nextQuote] at hq
    split at hq
    · rename_i hc
      cases hq
      exact hc
    · cases hq

theorem leads_nil (quote : Option Char) : Leads quote [] quote := fun rest => by simp

theorem Leads.append (hs : Leads quote s quote') (hu : Leads quote' u quote'') : Leads quote (s ++ u) quote'' := by
  intro rest
  rw [List.append_assoc, hs, hu, Option.map_map]
  simp [Function.comp_def]

theorem Leads.cons {c : Char} (hc : ¬ (quote = none ∧ c = '>')) (h : Leads (nextQuote quote c) s quote') :
    Leads quote (c :: s) quote' := fun rest => by
  rw [List.cons_append, splitTagEnd_cons, if_neg hc, h, Option.map_map]
  rfl

/-- Inside quotes the search passes over everything but the same quote. -/
theorem leads_of_not_mem (h : q ∉ s) : Leads (some q) s (some q) := by
  induction s with
  | nil => exact leads_nil _
  | cons c s ih =>
    obtain ⟨hc, hs⟩ : ¬ c = q ∧ q ∉ s := by simpa [eq_comm] using h
    refine .cons (by simp) ?_
    rw [nextQuote, if_neg hc]
    exact ih hs

/-- A text in which no tag ends is passed over. -/
theorem exists_leads (hquote : IsQuote quote) (h : splitTagEnd quote s = none) :
    ∃ quote', IsQuote quote' ∧ Leads quote s quote' := by
  induction s generalizing quote with
  | nil => exact ⟨quote, hquote, leads_nil _⟩
  | cons c s ih =>
    rw [splitTagEnd_cons] at h
    split at h
    · cases h
    · rename_i hc
      obtain ⟨quote', hquote', hleads⟩ := ih (hquote.next c) (Option.map_eq_none_iff.mp h)
      exact ⟨quote', hquote', .cons hc hleads⟩

/-- Where a tag ends in a text, it ends in every text that goes on. -/
theorem splitTagEnd_eq_some {a b : List Char} (h : splitTagEnd quote s = some (a, b)) :
    s = a ++ '>' :: b ∧ ∀ rest, splitTagEnd quote (s ++ rest) = some (a, b ++ rest) := by
  induction s generalizing quote a with
  | nil => cases h
  | cons c s ih =>
    rw [splitTagEnd_cons] at h
    split at h
    · rename_i hc
      cases h
      exact ⟨by rw [hc.2]; rfl, fun rest => by rw [List.cons_append, splitTagEnd_cons, if_pos hc]⟩
    · rename_i hc
      obtain ⟨⟨a', b'⟩, hsplit, heq⟩ := Option.map_eq_some_iff.mp h
      cases heq
      obtain ⟨hs, hrest⟩ := ih hsplit
      exact ⟨by rw [hs]; rfl, fun rest => by rw [List.cons_append, splitTagEnd_cons, if_neg hc, hrest]; rfl⟩

/-- **A tag that does not end in the prolog leaves a quote open.** -/
theorem IsProlog.exists_openQuote (h : IsProlog prolog) {a b : List Char} (hprolog : prolog = a ++ '<' :: b)
    (hend : splitTagEnd none b = none) : ∃ q, (q = '"' ∨ q = '\'') ∧ Leads none b (some q) := by
  rcases h.ends with hnot | ⟨s, blanks, heq, hblanks⟩
  · exact absurd (by simp [hprolog]) hnot
  have hspace : '<' ∉ '>' :: blanks := by
    intro hmem
    rcases List.mem_cons.mp hmem with hmem | hmem
    · exact absurd hmem (by decide)
    · exact absurd (hblanks _ hmem) (by decide)
  obtain ⟨v, rfl⟩ : ∃ v, b = v ++ '>' :: blanks := by
    rcases List.append_eq_append_iff.mp (hprolog.symm.trans heq) with ⟨v, -, hv⟩ | ⟨v, -, hv⟩
    · cases v with
      | nil => exact absurd (List.cons.inj hv).1 (by decide)
      | cons d v => exact ⟨v, (List.cons.inj hv).2⟩
    · exact absurd (hv ▸ by simp) hspace
  -- The closing bracket at the end of the prolog does not end the tag, so that it is in quotes.
  have hv : splitTagEnd none v = none := by
    cases hsome : splitTagEnd none v with
    | none => rfl
    | some p =>
      rw [(splitTagEnd_eq_some hsome).2] at hend
      cases hend
  obtain ⟨quote, hquote, hleads⟩ := exists_leads (fun q hq => by cases hq) hv
  rw [hleads, Option.map_eq_none_iff, splitTagEnd_cons] at hend
  cases quote with
  | none => simp at hend
  | some q =>
    have hq := hquote q rfl
    refine ⟨q, hq, hleads.append (leads_of_not_mem fun hmem => ?_)⟩
    rcases List.mem_cons.mp hmem with rfl | hmem
    · exact absurd hq (by decide)
    · rcases hq with rfl | rfl
      · exact absurd (hblanks _ hmem) (by decide)
      · exact absurd (hblanks _ hmem) (by decide)

/-! ## 4. Start tags

A start tag leads from no quote to no quote with no bracket outside of quotes on the way, so its end is found where it
is. -/

theorem not_mem_separators_of_isSpace {c : Char} (h : isSpace c = true) : c ∉ separators := fun hmem => by
  have hall : separators.all (fun c => !isSpace c) = true := by decide
  have hnot := List.all_eq_true.mp hall c hmem
  rw [h] at hnot
  cases hnot

theorem passed_allSpace (h : AllSpace s) : Passed s :=
  passed_of_not_mem fun c hc => not_mem_separators_of_isSpace (h c hc)

theorem AreAttributes.passed (h : AreAttributes s) : Passed s := by
  induction h with
  | nil => exact passed_nil
  | cons _ hblanks hname hequals hquoted _ ih =>
    obtain ⟨hl, hr⟩ := hequals
    obtain ⟨hq, hnot, -⟩ := hquoted
    have hequals : Passed ['='] := passed_of_not_mem (by simp [separators])
    have hsign := (passed_allSpace hl).append (hequals.append (passed_allSpace hr))
    exact ((passed_allSpace hblanks).append ((passed_name hname).append
      (hsign.append (passed_quoted hq hnot)))).append ih

theorem IsStartTag.passed (h : IsStartTag tag) : Passed tag := by
  obtain ⟨hname, hattributes, hblanks, hslash⟩ := h
  refine (passed_name hname).append (hattributes.passed.append ((passed_allSpace hblanks).append ?_))
  rcases hslash with rfl | rfl
  · exact passed_nil
  · exact fun rest => rfl

/-- **The root tag is found** behind a prolog that opens no tag. -/
theorem OpensNoTag.find?_append (h : OpensNoTag prolog) (htag : IsStartTag tag) (after : List Char) :
    RootTag.find? (prolog ++ '<' :: (tag ++ '>' :: after)) = some ⟨prolog, tag, after⟩ := by
  obtain ⟨c, rest, hc, hname⟩ := htag.exists_cons
  have hbegin : splitRootStart ('<' :: (tag ++ '>' :: after)) = some ([], tag ++ '>' :: after) := by
    rw [splitRootStart, if_pos]
    simp [hc, Xml.ne_of_isNameChar hname (show Xml.isNameChar '?' = false by decide),
      Xml.ne_of_isNameChar hname (show Xml.isNameChar '!' = false by decide)]
  have hend : splitTagEnd none (tag ++ '>' :: after) = some (tag, after) := by
    rw [htag.passed]
    simp [splitTagEnd]
  have hbegins : splitRootStart (prolog ++ '<' :: (tag ++ '>' :: after)) = some (prolog, tag ++ '>' :: after) := by
    rw [h.splitRootStart_append, hbegin, Option.map_some, List.append_nil]
  rw [RootTag.find?_of_begins hbegins, hend, Option.map_some]

end Regraft.Text
