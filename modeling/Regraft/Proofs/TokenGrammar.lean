import Regraft.Proofs.FragmentReading
/-!
# Tokens of markup as they are written

Tags, comments, literal sections and instructions say themselves where they end.  `IsMarkup` relates the characters of
one to its token, and one is read from a text exactly if its characters begin the text, whatever comes after them
(`next_complete`, `next_sound`).  A run of text (`IsRun`) does not say where it ends: it is read up to the next bracket
or to the end.

What makes this work is that every kind of markup ends with a word that cannot stand in it any earlier.  `StandsAfter
word s` says so without mentioning what follows: wherever the word stands in `s ++ word`, it stands at the very end.
Searching for the first place of the word in a text that goes on therefore finds the end of the markup
(`splitAtWord_eq_some`), and the rest of the text does not matter.

A start tag is read by the attributes in it one after the other, with a number of steps that bounds them.  There are at
least as many characters before the next bracket as attributes, so the bound is never reached (`startTag_eq_some`).
-/

namespace Regraft.Xml.Token

/-! ## 1. Words

A word is looked for from the front.  The first place where it stands divides the text, and after a shorter text it may
have begun before that text ends: `--` and `->` have a dash in common.  So it is not enough that the word is not a part
of `s`; it must not stand across the end of `s` either. -/

/-- A word is taken off a text that begins with it. -/
theorem afterWord_eq_some {word s rest : List Char} : afterWord? word s = some rest ↔ s = word ++ rest := by
  rw [afterWord?]
  split
  · rename_i h
    obtain ⟨t, rfl⟩ := List.isPrefixOf_iff_prefix.mp h
    rw [List.drop_left, Option.some.injEq, List.append_cancel_left_eq]
  · rename_i h
    refine iff_of_false (by simp) ?_
    rintro rfl
    exact h (List.isPrefixOf_iff_prefix.mpr (List.prefix_append _ _))

theorem afterWord_eq_none {word s : List Char} : afterWord? word s = none ↔ ¬ word <+: s := by
  rw [afterWord?, ← List.isPrefixOf_iff_prefix]
  split
  · simp_all
  · simp_all

/-- A word stands after a text, and nowhere before. -/
def StandsAfter (word s : List Char) : Prop := ∀ a b, s ++ word = a ++ word ++ b → b = []

theorem StandsAfter.nil (word : List Char) : StandsAfter word [] := by
  intro a b h
  have hlength := congrArg List.length h
  simp only [List.length_append, List.length_nil] at hlength
  exact List.eq_nil_of_length_eq_zero (by omega)

theorem StandsAfter.of_cons {word s : List Char} {c : Char} (h : StandsAfter word (c :: s)) : StandsAfter word s :=
  fun a b heq => h (c :: a) b (by rw [List.cons_append, heq]; rfl)

theorem StandsAfter.not_prefix {word s : List Char} {c : Char} (h : StandsAfter word (c :: s)) (rest : List Char) :
    ¬ word <+: c :: (s ++ word ++ rest) := by
  intro hprefix
  have hwhole : c :: s ++ word <+: c :: (s ++ word ++ rest) := by
    rw [List.append_assoc, ← List.cons_append, ← List.append_assoc]
    exact List.prefix_append _ _
  obtain ⟨b, hb⟩ := List.prefix_of_prefix_length_le hprefix hwhole (by simp; omega)
  obtain rfl := h [] b (by rw [List.nil_append, hb])
  have hlength := congrArg List.length hb
  simp only [List.append_nil, List.length_append, List.length_cons] at hlength
  omega

/-- A word that stands after a text stands after a longer one if it does not begin where that begins. -/
theorem StandsAfter.cons {word s : List Char} {c : Char} (h : StandsAfter word s) {rest : List Char}
    (hnone : ¬ word <+: c :: (s ++ word ++ rest)) : StandsAfter word (c :: s) := by
  intro a b heq
  cases a with
  | nil =>
    refine absurd ?_ hnone
    rw [List.append_assoc, ← List.cons_append, ← List.append_assoc, heq]
    exact ⟨b ++ rest, by simp⟩
  | cons d a => exact h a b (List.cons.inj heq).2

/-- A text is divided at a word where the word stands for the first time. -/
theorem splitAtWord_eq_some {word : List Char} (hword : word ≠ []) {s a b : List Char} :
    splitAtWord? word s = some (a, b) ↔ s = a ++ word ++ b ∧ StandsAfter word a := by
  induction s generalizing a with
  | nil =>
    rw [splitAtWord?, if_neg (by simpa using hword)]
    refine iff_of_false (by simp) fun h => hword ?_
    simp only [List.nil_eq, List.append_eq_nil_iff] at h
    exact h.1.1.2
  | cons c s ih =>
    rw [splitAtWord?]
    cases hafter : afterWord? word (c :: s) with
    | some after =>
      rw [afterWord_eq_some] at hafter
      rw [hafter]
      dsimp only
      rw [Option.some.injEq, Prod.mk.injEq]
      constructor
      · rintro ⟨rfl, rfl⟩
        exact ⟨rfl, .nil word⟩
      · rintro ⟨heq, hstands⟩
        cases a with
        | nil => exact ⟨rfl, List.append_cancel_left heq⟩
        -- The word is here already, so it cannot stand only behind a longer text.
        | cons d a =>
          refine absurd ?_ (hstands.not_prefix b)
          rw [← List.cons_append, ← List.cons_append, ← heq]
          exact List.prefix_append _ _
    | none =>
      rw [afterWord_eq_none] at hafter
      simp only [Option.map_eq_some_iff, Prod.mk.injEq, Prod.exists]
      constructor
      · rintro ⟨a', b', hsplit, rfl, rfl⟩
        obtain ⟨rfl, hstands⟩ := ih.mp hsplit
        exact ⟨rfl, hstands.cons hafter⟩
      · rintro ⟨heq, hstands⟩
        cases a with
        | nil => exact absurd (heq ▸ List.prefix_append _ _) hafter
        | cons d a =>
          obtain ⟨rfl, hs⟩ := List.cons.inj heq
          exact ⟨a, b, ih.mpr ⟨hs, hstands.of_cons⟩, rfl, rfl⟩

/-- A text is not divided if the word does not stand in it at all. -/
theorem splitAtWord_eq_none {word : List Char} (hword : word ≠ []) {s : List Char} :
    splitAtWord? word s = none ↔ ¬ word <:+: s := by
  induction s with
  | nil =>
    rw [splitAtWord?, if_neg (by simpa using hword)]
    simpa using hword
  | cons c s ih =>
    rw [splitAtWord?, List.infix_cons_iff]
    cases hafter : afterWord? word (c :: s) with
    | some after =>
      rw [afterWord_eq_some] at hafter
      simp [hafter]
    | none =>
      rw [afterWord_eq_none] at hafter
      simp [hafter, ih]

/-! ## 2. Tags, comments, sections and instructions

The grammar follows the reader: where the reader skips white space, a text of blanks is named; where it takes a name,
`IsRawName` relates the characters to the name with its prefix apart.  An attribute owns the blanks before it and a tag
the blanks before its end, so that no blank could belong to two of them. -/

/-- A text of blanks alone. -/
def AllSpace (s : List Char) : Prop := ∀ c ∈ s, isSpace c = true

/-- An equals sign with the blanks around it. -/
inductive IsEquals : List Char → Prop where
  | mk {l r : List Char} : AllSpace l → AllSpace r → IsEquals (l ++ '=' :: r)

/-- A value in quotes: it has no such quote in it, and no opening bracket. -/
inductive IsQuoted : List Char → List Char → Prop where
  | mk {q : Char} {value : List Char} : q = '"' ∨ q = '\'' → q ∉ value →
      (value.all fun c => isXmlChar c && c != '<') = true → IsQuoted (q :: (value ++ [q])) value

/-- An attribute with the blanks before it. -/
inductive IsAttribute : List Char → RawAttribute → Prop where
  | mk {blanks name equals quoted value : List Char} {raw : RawName} : blanks ≠ [] → AllSpace blanks →
      IsRawName name raw → IsEquals equals → IsQuoted quoted value →
      IsAttribute (blanks ++ (name ++ (equals ++ quoted))) ⟨raw, value⟩

/-- Attributes one after the other. -/
inductive Attributes : List Char → List RawAttribute → Prop where
  | nil : Attributes [] []
  | cons {u s : List Char} {a : RawAttribute} {as : List RawAttribute} : IsAttribute u a → Attributes s as →
      Attributes (u ++ s) (a :: as)

/-- The end of a start tag, which may be the end of the element as well. -/
inductive IsTagEnd : List Char → Bool → Prop where
  | startTag : IsTagEnd ['>'] false
  | emptyTag : IsTagEnd ['/', '>'] true

/-- The target and the data of an instruction with the blanks between them: the target ends where the blanks begin,
these end where the data begin, and the data where the instruction ends. -/
structure IsInstruction (target blanks data : List Char) : Prop where
  start : target.head?.any isNameStart = true
  letters : ∀ c ∈ target, isNameChar c = true
  spaces : AllSpace blanks
  data_begins : ∀ c ∈ (data ++ "?>".toList).head?, isSpace c = false
  target_ends : ∀ c ∈ (blanks ++ (data ++ "?>".toList)).head?, isNameChar c = false
  not_xml : ¬ "xml ".toList <+: target ++ (blanks ++ (data ++ "?>".toList))
  data_ends : StandsAfter "?>".toList data
  chars : data.all isXmlChar = true

/-- The characters of every token but a run of text. -/
inductive IsMarkup : List Char → Token → Prop where
  | startTag {name s blanks e : List Char} {raw : RawName} {as : List RawAttribute} {isEmpty : Bool} :
      IsRawName name raw → Attributes s as → AllSpace blanks → IsTagEnd e isEmpty →
      IsMarkup ('<' :: (name ++ (s ++ (blanks ++ e)))) (.startTag raw as isEmpty)
  | endTag {name blanks : List Char} {raw : RawName} : IsRawName name raw → AllSpace blanks →
      IsMarkup ('<' :: '/' :: (name ++ (blanks ++ ['>']))) (.endTag raw)
  | comment {value : List Char} : StandsAfter "-->".toList value → value.all isXmlChar = true →
      (splitAtWord? "--".toList value).isNone = true → value.getLast? ≠ some '-' →
      IsMarkup ("<!--".toList ++ (value ++ "-->".toList)) (.comment value)
  | literal {value : List Char} : StandsAfter "]]>".toList value → value.all isXmlChar = true →
      IsMarkup ("<![CDATA[".toList ++ (value ++ "]]>".toList)) (.literal value)
  | instruction {target blanks data : List Char} : IsInstruction target blanks data →
      IsMarkup ("<?".toList ++ (target ++ (blanks ++ (data ++ "?>".toList)))) (.instruction target data)

/-! ## 3. Reading them

Each reader has one lemma, an equivalence where the reader is a plain function and two implications where it recurs.
Completeness needs to know that what follows a part cannot be taken for more of it: `head` lemmas say which characters
a part can begin with. -/

theorem skipSpace_append {blanks s : List Char} (hblanks : AllSpace blanks) (hs : ∀ c ∈ s.head?, isSpace c = false) :
    skipSpace (blanks ++ s) = s :=
  (Text.takeWhile_append_of_end hblanks hs).2

theorem exists_skipSpace (s : List Char) :
    ∃ blanks, AllSpace blanks ∧ s = blanks ++ skipSpace s ∧ ∀ c ∈ (skipSpace s).head?, isSpace c = false := by
  refine ⟨s.takeWhile isSpace, fun c hc => List.mem_takeWhile_imp hc, List.takeWhile_append_dropWhile.symm, ?_⟩
  intro c hc
  have hhead := List.head?_dropWhile_not isSpace s
  rw [skipSpace] at hc
  rw [Option.mem_def.mp hc] at hhead
  simpa using hhead

/-- A name is all name characters there are, with one colon at most. -/
theorem rawName_eq_some {s rest : List Char} {raw : RawName} :
    rawName? s = some (raw, rest) ↔
      ∃ name, s = name ++ rest ∧ IsRawName name raw ∧ ∀ c ∈ rest.head?, isNameChar c = false := by
  constructor
  · intro h
    obtain ⟨n, hn, heq⟩ := Option.map_eq_some_iff.mp h
    cases heq
    refine ⟨s.takeWhile isNameChar, List.takeWhile_append_dropWhile.symm,
      ⟨fun c hc => List.mem_takeWhile_imp hc, hn⟩, fun c hc => ?_⟩
    have hhead := List.head?_dropWhile_not isNameChar s
    rw [Option.mem_def.mp hc] at hhead
    simpa using hhead
  · rintro ⟨name, rfl, hname, hrest⟩
    rw [rawName_append hname.chars hrest, hname.divided]
    rfl

/-- The blanks on both sides of an equals sign are taken with it. -/
theorem equals_eq_some {s rest : List Char} :
    equals? s = some rest ↔
      ∃ eq, IsEquals eq ∧ s = eq ++ rest ∧ ∀ c ∈ rest.head?, isSpace c = false := by
  constructor
  · intro h
    obtain ⟨after, hafter, rfl⟩ := Option.map_eq_some_iff.mp h
    rw [afterWord_eq_some] at hafter
    obtain ⟨l, hl, hs, -⟩ := exists_skipSpace s
    obtain ⟨r, hr, hafter', hhead⟩ := exists_skipSpace after
    refine ⟨l ++ '=' :: r, .mk hl hr, ?_, hhead⟩
    rw [List.append_assoc, List.cons_append, ← hafter', ← List.singleton_append, ← hafter]
    exact hs
  · rintro ⟨eq, ⟨hl, hr⟩, rfl, hrest⟩
    rename_i l r
    have hafter : afterWord? ['='] ('=' :: (r ++ rest)) = some (r ++ rest) := afterWord_eq_some.mpr rfl
    rw [equals?, List.append_assoc, List.cons_append, skipSpace_append hl (by simp; decide), hafter,
      Option.map_some, skipSpace_append hr hrest]

/-- A value ends at the next quote of the kind that it began with. -/
theorem quotedValue_eq_some {s value rest : List Char} :
    quotedValue? s = some (value, rest) ↔ ∃ quoted, IsQuoted quoted value ∧ s = quoted ++ rest := by
  constructor
  · intro h
    cases s with
    | nil => cases h
    | cons q s =>
      rw [quotedValue?] at h
      split at h
      · rename_i hq
        dsimp only at h
        split at h
        · cases h
        · rename_i d after hdrop
          split at h
          · rename_i hall
            cases h
            have hd : d = q := by
              have hhead := List.head?_dropWhile_not (· != q) s
              rw [hdrop] at hhead
              simpa using hhead
            subst hd
            refine ⟨_, .mk hq (fun hmem => ?_) hall, ?_⟩
            · have hbne := List.mem_takeWhile_imp hmem
              simp at hbne
            · have hs := List.takeWhile_append_dropWhile (p := (· != d)) (l := s)
              rw [hdrop] at hs
              rw [List.cons_append, List.append_assoc, List.singleton_append, hs]
          · cases h
      · cases h
  · rintro ⟨quoted, ⟨hq, hnot, hall⟩, rfl⟩
    obtain ⟨htake, hdrop⟩ := Text.takeWhile_bne_append hnot rest
    rw [List.cons_append, List.append_assoc, List.singleton_append, quotedValue?, if_pos hq]
    dsimp only
    rw [htake, hdrop]
    exact if_pos hall

/-- No attribute goes on with a name, and neither does the end of a tag. -/
theorem IsEquals.head_not_name {eq : List Char} (h : IsEquals eq) (rest : List Char) :
    ∀ c ∈ (eq ++ rest).head?, isNameChar c = false := by
  intro c hc
  obtain ⟨hl, -⟩ := h
  rename_i l r
  cases l with
  | nil =>
    obtain rfl : '=' = c := by simpa using hc
    decide
  | cons d l =>
    obtain rfl : d = c := by simpa using hc
    cases hname : isNameChar d with
    | false => rfl
    | true =>
      have hspace := hl d List.mem_cons_self
      rw [(isNameChar_punctuation hname).1] at hspace
      cases hspace

theorem head_not_name_of_space {blanks : List Char} (hblanks : AllSpace blanks) {e : List Char}
    (he : ∀ c ∈ e.head?, isNameChar c = false) : ∀ c ∈ (blanks ++ e).head?, isNameChar c = false := by
  intro c hc
  cases blanks with
  | nil => exact he c hc
  | cons d blanks =>
    obtain rfl : d = c := by simpa using hc
    cases hname : isNameChar d with
    | false => rfl
    | true =>
      have hspace := hblanks d List.mem_cons_self
      rw [(isNameChar_punctuation hname).1] at hspace
      cases hspace

theorem IsTagEnd.head {e : List Char} {isEmpty : Bool} (h : IsTagEnd e isEmpty) (rest : List Char) :
    ∀ c ∈ (e ++ rest).head?, isNameChar c = false ∧ isSpace c = false := by
  intro c hc
  cases h with
  | startTag =>
    obtain rfl : '>' = c := by simpa using hc
    decide
  | emptyTag =>
    obtain rfl : '/' = c := by simpa using hc
    decide

theorem Attributes.head {s : List Char} {as : List RawAttribute} (h : Attributes s as) {rest : List Char}
    (hrest : ∀ c ∈ rest.head?, isNameChar c = false) : ∀ c ∈ (s ++ rest).head?, isNameChar c = false := by
  cases h with
  | nil => exact hrest
  | cons ha _ =>
    cases ha with
    | mk hne hspace _ _ _ =>
      intro c hc
      rename_i blanks' _ _ _ _ _
      obtain ⟨d, blanks', rfl⟩ := List.exists_cons_of_ne_nil hne
      exact head_not_name_of_space hspace (e := []) (by simp) c (by simpa using hc)

/-- An attribute is read up to its value, and then the others. -/
theorem attributes_step {blanks name equals tail : List Char} {raw : RawName} (hne : blanks ≠ [])
    (hspace : AllSpace blanks) (hname : IsRawName name raw) (hequals : IsEquals equals)
    (htail : ∀ c ∈ tail.head?, isSpace c = false) (fuel : Nat) :
    attributes? (fuel + 1) (blanks ++ (name ++ (equals ++ tail))) = (quotedValue? tail).bind fun p =>
      (attributes? fuel p.2).map fun q => ((⟨raw, p.1⟩ :: q.1.1, q.1.2), q.2) := by
  obtain ⟨c, others, rfl, hc⟩ := hname.exists_cons
  obtain ⟨hcspace, hslash, hbracket⟩ := isNameChar_punctuation hc
  have hskip : skipSpace (blanks ++ (c :: others ++ (equals ++ tail))) = c :: others ++ (equals ++ tail) :=
    skipSpace_append hspace fun d hd => by
      obtain rfl : c = d := by simpa using hd
      exact hcspace
  have hraw : rawName? (c :: others ++ (equals ++ tail)) = some (raw, equals ++ tail) :=
    rawName_eq_some.mpr ⟨_, rfl, hname, hequals.head_not_name _⟩
  have hequal : equals? (equals ++ tail) = some tail := equals_eq_some.mpr ⟨equals, hequals, rfl, htail⟩
  have hhead : (blanks ++ (c :: others ++ (equals ++ tail))).head?.any isSpace = true := by
    obtain ⟨d, blanks, rfl⟩ := List.exists_cons_of_ne_nil hne
    simpa using hspace d List.mem_cons_self
  rw [attributes?, hskip]
  split
  · rename_i heq
    exact absurd (List.cons.inj heq).1 hslash
  · rename_i heq
    exact absurd (List.cons.inj heq).1 hbracket
  · rw [if_pos hhead, hraw]
    simp only [Option.bind_eq_bind, Option.bind_some, hequal]
    cases quotedValue? tail with
    | none => rfl
    | some p =>
      simp only [Option.bind_some]
      cases attributes? fuel p.2 <;> rfl

theorem IsQuoted.head {quoted value : List Char} (h : IsQuoted quoted value) (rest : List Char) :
    ∀ c ∈ (quoted ++ rest).head?, isSpace c = false := by
  intro c hc
  obtain ⟨hq, -, -⟩ := h
  rename_i q
  obtain rfl : q = c := by simpa using hc
  rcases hq with rfl | rfl
  · decide
  · decide

/-- Attributes are read before whatever comes after them. -/
theorem attributes_append {s : List Char} {as : List RawAttribute} (h : Attributes s as) (fuel : Nat)
    (tail : List Char) :
    attributes? (fuel + as.length) (s ++ tail) =
      (attributes? fuel tail).map fun q => ((as ++ q.1.1, q.1.2), q.2) := by
  induction h with
  | nil => simp
  | @cons u s a as ha has ih =>
    obtain ⟨hne, hspace, hname, hequals, hquoted⟩ := ha
    rename_i blanks name equals quoted value raw
    have hvalue : quotedValue? (quoted ++ (s ++ tail)) = some (value, s ++ tail) :=
      quotedValue_eq_some.mpr ⟨quoted, hquoted, rfl⟩
    simp only [List.append_assoc]
    rw [List.length_cons, ← Nat.add_assoc, attributes_step hne hspace hname hequals (hquoted.head _), hvalue,
      Option.bind_some, ih, Option.map_map]
    rfl

/-- They are read together with the end of their tag. -/
theorem attributes_complete {s : List Char} {as : List RawAttribute} (h : Attributes s as) {blanks e : List Char}
    {isEmpty : Bool} (hblanks : AllSpace blanks) (he : IsTagEnd e isEmpty) (rest : List Char) {fuel : Nat}
    (hfuel : as.length < fuel) :
    attributes? fuel (s ++ (blanks ++ (e ++ rest))) = some ((as, isEmpty), rest) := by
  obtain ⟨more, rfl⟩ : ∃ more, fuel = (more + 1) + as.length := ⟨fuel - as.length - 1, by omega⟩
  have hend : attributes? (more + 1) (blanks ++ (e ++ rest)) = some (([], isEmpty), rest) := by
    rw [attributes?, skipSpace_append hblanks fun c hc => (he.head rest c hc).2]
    cases he with
    | startTag => rfl
    | emptyTag => rfl
  rw [attributes_append h, hend]
  simp

/-- What has been taken for attributes is that, by induction on the number of steps. -/
theorem attributes_sound {fuel : Nat} {s rest : List Char} {as : List RawAttribute} {isEmpty : Bool}
    (h : attributes? fuel s = some ((as, isEmpty), rest)) :
    ∃ u blanks e, Attributes u as ∧ AllSpace blanks ∧ IsTagEnd e isEmpty ∧ s = u ++ (blanks ++ (e ++ rest)) := by
  induction fuel generalizing s as with
  | zero => cases h
  | succ fuel ih =>
    obtain ⟨blanks, hblanks, hs, -⟩ := exists_skipSpace s
    rw [attributes?] at h
    split at h
    · rename_i hskip
      cases h
      exact ⟨[], blanks, _, .nil, hblanks, .emptyTag, by rw [hs, hskip]; rfl⟩
    · rename_i hskip
      cases h
      exact ⟨[], blanks, _, .nil, hblanks, .startTag, by rw [hs, hskip]; rfl⟩
    · split at h
      · rename_i hspace
        obtain ⟨⟨raw, afterName⟩, hname, h⟩ := Option.bind_eq_some_iff.mp h
        obtain ⟨afterEquals, hequals, h⟩ := Option.bind_eq_some_iff.mp h
        obtain ⟨⟨value, afterValue⟩, hvalue, h⟩ := Option.bind_eq_some_iff.mp h
        obtain ⟨⟨⟨more, last⟩, afterAll⟩, hmore, h⟩ := Option.bind_eq_some_iff.mp h
        cases h
        obtain ⟨name, hskip, hraw, -⟩ := rawName_eq_some.mp hname
        obtain ⟨eq, heq, rfl, -⟩ := equals_eq_some.mp hequals
        obtain ⟨quoted, hquoted, rfl⟩ := quotedValue_eq_some.mp hvalue
        obtain ⟨u, blanks', e, hu, hblanks', he, rfl⟩ := ih hmore
        refine ⟨_, blanks', e, .cons (.mk ?_ hblanks hraw heq hquoted) hu, hblanks', he, ?_⟩
        · -- If nothing were skipped, the name would begin with a blank.
          rintro rfl
          obtain ⟨c, others, rfl, hc⟩ := hraw.exists_cons
          rw [hs, hskip] at hspace
          have hspace : isSpace c = true := by simpa using hspace
          rw [(isNameChar_punctuation hc).1] at hspace
          cases hspace
        · rw [hs, hskip]
          simp
      · cases h

theorem Attributes.append {s s' : List Char} {as as' : List RawAttribute} (h : Attributes s as)
    (h' : Attributes s' as') : Attributes (s ++ s') (as ++ as') := by
  induction h with
  | nil => exact h'
  | cons ha _ ih =>
    rw [List.append_assoc]
    exact .cons ha ih

/-- No opening bracket stands in attributes. -/
theorem Attributes.bracket {s : List Char} {as : List RawAttribute} (h : Attributes s as) : '<' ∉ s := by
  induction h with
  | nil => exact List.not_mem_nil
  | cons ha _ ih =>
    obtain ⟨-, hspace, hname, ⟨hl, hr⟩, ⟨hq, -, hall⟩⟩ := ha
    have hspaces {t : List Char} (ht : AllSpace t) : '<' ∉ t := fun hmem => absurd (ht _ hmem) (by decide)
    have hletters : '<' ∉ _ := fun hmem => absurd (hname.chars _ hmem) (by decide)
    have hvalue : '<' ∉ _ := fun hmem => absurd (List.all_eq_true.mp hall _ hmem) (by decide)
    rename_i q
    have hquote : '<' ≠ q := by
      rintro rfl
      exact absurd hq (by decide)
    simp [hspaces hspace, hspaces hl, hspaces hr, hletters, hvalue, hquote, ih]

theorem Attributes.length_le {s : List Char} {as : List RawAttribute} (h : Attributes s as) :
    as.length ≤ s.length := by
  induction h with
  | nil => exact Nat.le_refl 0
  | cons ha _ ih =>
    obtain ⟨hne, -, -, -, -⟩ := ha
    have hpos := List.length_pos_iff.mpr hne
    rw [List.length_cons, List.length_append, List.length_append]
    omega

/-- A start tag is a name, attributes and an end. -/
theorem startTag_eq_some {s rest : List Char} {t : Token} :
    startTag? s = some (t, rest) ↔ ∃ name raw u as blanks e isEmpty, IsRawName name raw ∧ Attributes u as ∧
      AllSpace blanks ∧ IsTagEnd e isEmpty ∧ s = name ++ (u ++ (blanks ++ (e ++ rest))) ∧
      t = .startTag raw as isEmpty := by
  constructor
  · intro h
    obtain ⟨⟨raw, afterName⟩, hname, h⟩ := Option.bind_eq_some_iff.mp h
    obtain ⟨⟨⟨as, isEmpty⟩, after⟩, hattributes, h⟩ := Option.bind_eq_some_iff.mp h
    cases h
    obtain ⟨name, rfl, hraw, -⟩ := rawName_eq_some.mp hname
    obtain ⟨u, blanks, e, hu, hblanks, he, rfl⟩ := attributes_sound hattributes
    exact ⟨name, raw, u, as, blanks, e, isEmpty, hraw, hu, hblanks, he, rfl, rfl⟩
  · rintro ⟨name, raw, u, as, blanks, e, isEmpty, hraw, hu, hblanks, he, rfl, rfl⟩
    have hname := rawName_eq_some.mpr
      ⟨name, rfl, hraw, hu.head (head_not_name_of_space hblanks fun c hc => (he.head rest c hc).1)⟩
    -- There are as many steps as characters before the next bracket, and none stands in the attributes.
    have hfuel : as.length < ((u ++ (blanks ++ (e ++ rest))).takeWhile (· != '<')).length + 1 := by
      have hbefore : ∀ c ∈ u, (c != '<') = true := by
        intro c hc
        rw [bne_iff_ne]
        rintro rfl
        exact hu.bracket hc
      have hlength := hu.length_le
      rw [List.takeWhile_append_of_pos hbefore, List.length_append]
      omega
    rw [startTag?, hname]
    simp only [Option.bind_eq_bind, Option.bind_some, attributes_complete hu hblanks he rest hfuel]
    rfl

/-- An end tag has nothing but blanks after its name. -/
theorem endTag_eq_some {s rest : List Char} {t : Token} :
    endTag? s = some (t, rest) ↔ ∃ name raw blanks, IsRawName name raw ∧ AllSpace blanks ∧
      s = name ++ (blanks ++ '>' :: rest) ∧ t = .endTag raw := by
  constructor
  · intro h
    obtain ⟨⟨raw, afterName⟩, hname, h⟩ := Option.bind_eq_some_iff.mp h
    obtain ⟨after, hafter, h⟩ := Option.bind_eq_some_iff.mp h
    cases h
    obtain ⟨name, rfl, hraw, -⟩ := rawName_eq_some.mp hname
    obtain ⟨blanks, hblanks, hs, -⟩ := exists_skipSpace afterName
    rw [afterWord_eq_some] at hafter
    exact ⟨name, raw, blanks, hraw, hblanks, by rw [hs, hafter]; rfl, rfl⟩
  · rintro ⟨name, raw, blanks, hraw, hblanks, rfl, rfl⟩
    have hname := rawName_eq_some.mpr ⟨name, rfl, hraw,
      head_not_name_of_space hblanks (IsTagEnd.startTag.head rest · · |>.1)⟩
    have hafter : afterWord? ['>'] ('>' :: rest) = some rest := afterWord_eq_some.mpr rfl
    have hskip : skipSpace (blanks ++ '>' :: rest) = '>' :: rest :=
      skipSpace_append hblanks (IsTagEnd.startTag.head rest · · |>.2)
    rw [endTag?, show name ++ (blanks ++ '>' :: rest) = name ++ (blanks ++ (['>'] ++ rest)) from rfl, hname]
    simp only [Option.bind_eq_bind, Option.bind_some, List.singleton_append, hskip, hafter]
    rfl

/-- A comment ends with the first two dashes and a bracket, and there are no two dashes before. -/
theorem comment_eq_some {s rest : List Char} {t : Token} :
    comment? s = some (t, rest) ↔ ∃ value, s = value ++ "-->".toList ++ rest ∧ StandsAfter "-->".toList value ∧
      value.all isXmlChar = true ∧ (splitAtWord? "--".toList value).isNone = true ∧ value.getLast? ≠ some '-' ∧
      t = .comment value := by
  have hword : "-->".toList ≠ [] := by decide
  constructor
  · intro h
    obtain ⟨⟨value, after⟩, hsplit, h⟩ := Option.bind_eq_some_iff.mp h
    obtain ⟨hs, hstands⟩ := (splitAtWord_eq_some hword).mp hsplit
    dsimp only at h
    split at h
    · rename_i hvalue
      cases h
      simp only [Bool.and_eq_true, bne_iff_ne] at hvalue
      exact ⟨value, hs, hstands, hvalue.1.1, hvalue.1.2, hvalue.2, rfl⟩
    · cases h
  · rintro ⟨value, hs, hstands, hall, hdashes, hlast, rfl⟩
    rw [comment?, (splitAtWord_eq_some hword).mpr ⟨hs, hstands⟩]
    refine if_pos ?_
    simp only [Bool.and_eq_true, bne_iff_ne]
    exact ⟨⟨hall, hdashes⟩, hlast⟩

/-- A literal section ends with its first two brackets that an angle bracket follows. -/
theorem literal_eq_some {s rest : List Char} {t : Token} :
    literal? s = some (t, rest) ↔ ∃ value, s = value ++ "]]>".toList ++ rest ∧ StandsAfter "]]>".toList value ∧
      value.all isXmlChar = true ∧ t = .literal value := by
  have hword : "]]>".toList ≠ [] := by decide
  constructor
  · intro h
    obtain ⟨⟨value, after⟩, hsplit, h⟩ := Option.bind_eq_some_iff.mp h
    obtain ⟨hs, hstands⟩ := (splitAtWord_eq_some hword).mp hsplit
    dsimp only at h
    split at h
    · rename_i hvalue
      cases h
      exact ⟨value, hs, hstands, hvalue, rfl⟩
    · cases h
  · rintro ⟨value, hs, hstands, hall, rfl⟩
    rw [literal?, (splitAtWord_eq_some hword).mpr ⟨hs, hstands⟩]
    exact if_pos hall

/-- What begins with `xml` and a blank does so up to the end of an instruction. -/
theorem afterWord_xml_eq_none {u rest : List Char} (h : ¬ "xml ".toList <+: u ++ "?>".toList) :
    afterWord? "xml ".toList (u ++ "?>".toList ++ rest) = none := by
  rw [afterWord_eq_none]
  intro hprefix
  rcases List.prefix_or_prefix_of_prefix hprefix (List.prefix_append (u ++ "?>".toList) rest) with hxml | hend
  · exact h hxml
  · exact absurd (hend.subset (by simp : '?' ∈ _)) (by decide)

/-- An instruction has a target, and data after the blanks behind the target. -/
theorem instruction_sound {s rest : List Char} {t : Token} (h : instruction? s = some (t, rest)) :
    ∃ target blanks data, s = target ++ (blanks ++ (data ++ "?>".toList)) ++ rest ∧
      IsInstruction target blanks data ∧ t = .instruction target data := by
  rw [instruction?] at h
  split at h
  · cases h
  · rename_i hxml
    obtain ⟨⟨data, after⟩, hsplit, h⟩ := Option.bind_eq_some_iff.mp h
    obtain ⟨hdata, hstands⟩ := (splitAtWord_eq_some (by decide)).mp hsplit
    obtain ⟨blanks, hblanks, hgap, hhead⟩ := exists_skipSpace (s.dropWhile isNameChar)
    have hs : s = s.takeWhile isNameChar ++ (blanks ++ (data ++ "?>".toList)) ++ after := by
      rw [List.append_assoc, List.append_assoc, ← hdata, ← hgap, List.takeWhile_append_dropWhile]
    dsimp only at h
    split at h
    · rename_i hvalue
      cases h
      obtain ⟨htarget, hall⟩ := Bool.and_eq_true_iff.mp hvalue
      refine ⟨s.takeWhile isNameChar, blanks, data, hs, ⟨htarget, fun c hc => List.mem_takeWhile_imp hc, hblanks,
        fun c hc => hhead c ?_, fun c hc => ?_, fun hprefix => hxml ?_, hstands, hall⟩, rfl⟩
      · rw [hdata, List.head?_append_of_ne_nil _ (by simp)]
        exact hc
      · have hstop := List.head?_dropWhile_not isNameChar s
        rw [hgap, hdata, ← List.append_assoc, List.head?_append_of_ne_nil _ (by simp), Option.mem_def.mp hc] at hstop
        simpa using hstop
      · rw [Option.isSome_iff_ne_none, ne_eq, afterWord_eq_none, not_not, hs]
        exact hprefix.trans (List.prefix_append _ _)
    · cases h

theorem IsInstruction.instruction {target blanks data : List Char} (h : IsInstruction target blanks data)
    (rest : List Char) : instruction? (target ++ (blanks ++ (data ++ "?>".toList)) ++ rest) =
      some (.instruction target data, rest) := by
  have hnone : ¬ (afterWord? "xml ".toList (target ++ (blanks ++ (data ++ "?>".toList)) ++ rest)).isSome = true := by
    have hxml := h.not_xml
    simp only [← List.append_assoc] at hxml ⊢
    rw [afterWord_xml_eq_none hxml]
    exact Bool.false_ne_true
  obtain ⟨htake, hdrop⟩ : (target ++ (blanks ++ (data ++ "?>".toList) ++ rest)).takeWhile isNameChar = target ∧
      (target ++ (blanks ++ (data ++ "?>".toList) ++ rest)).dropWhile isNameChar =
        blanks ++ (data ++ "?>".toList) ++ rest := by
    refine Text.takeWhile_append_of_end h.letters ?_
    rw [List.head?_append_of_ne_nil _ (by simp)]
    exact h.target_ends
  have hskip : skipSpace (blanks ++ (data ++ "?>".toList) ++ rest) = data ++ "?>".toList ++ rest := by
    rw [List.append_assoc]
    refine skipSpace_append h.spaces ?_
    rw [List.head?_append_of_ne_nil _ (by simp)]
    exact h.data_begins
  rw [instruction?, if_neg hnone, List.append_assoc, htake, hdrop, hskip,
    (splitAtWord_eq_some (by decide)).mpr ⟨rfl, h.data_ends⟩]
  exact if_pos (Bool.and_eq_true_iff.mpr ⟨h.start, h.chars⟩)

/-- A run of text: it is not empty, it has no bracket in it, and the end of a literal section does not stand in it. -/
structure IsRun (raw : List Char) : Prop where
  ne_nil : raw ≠ []
  bracket : '<' ∉ raw
  chars : raw.all isXmlChar = true
  closed : ¬ "]]>".toList <:+: raw

theorem text_eq_some {s rest : List Char} {t : Token} {c : Char} (hs : s.head? = some c) (hc : c ≠ '<') :
    text? s = some (t, rest) ↔
      ∃ raw, s = raw ++ rest ∧ IsRun raw ∧ (∀ d ∈ rest.head?, d = '<') ∧ t = .text raw := by
  have hword : "]]>".toList ≠ [] := by decide
  constructor
  · intro h
    rw [text?] at h
    split at h
    · rename_i hvalue
      cases h
      simp only [Bool.and_eq_true, Option.isNone_iff_eq_none, splitAtWord_eq_none hword] at hvalue
      refine ⟨_, List.takeWhile_append_dropWhile.symm, ⟨?_, fun hmem => ?_, hvalue.1, hvalue.2⟩, fun d hd => ?_, rfl⟩
      · cases s with
        | nil => cases hs
        | cons d s =>
          obtain rfl : d = c := by simpa using hs
          simp [hc]
      · exact absurd (List.mem_takeWhile_imp hmem) (by decide)
      · have hstop := List.head?_dropWhile_not (· != '<') s
        rw [Option.mem_def.mp hd] at hstop
        simpa using hstop
    · cases h
  · rintro ⟨raw, rfl, hrun, hrest, rfl⟩
    have hraw : ∀ d ∈ raw, (d != '<') = true := by
      intro d hd
      rw [bne_iff_ne]
      rintro rfl
      exact hrun.bracket hd
    obtain ⟨htake, hdrop⟩ := Text.takeWhile_append_of_end hraw fun d hd => by rw [hrest d hd]; rfl
    rw [text?, htake, hdrop]
    refine if_pos ?_
    simp only [Bool.and_eq_true, Option.isNone_iff_eq_none, splitAtWord_eq_none hword]
    exact ⟨hrun.chars, hrun.closed⟩

/-- **A token is read from a text that begins with its characters.**  A run of text goes on to the next bracket. -/
theorem next_complete {u : List Char} {t : Token} (h : IsMarkup u t) (rest : List Char) :
    next? (u ++ rest) = some (t, rest) := by
  cases h with
  | @startTag name s blanks e raw as isEmpty hname has hblanks he =>
    have hread : startTag? (name ++ (s ++ (blanks ++ (e ++ rest)))) = some (.startTag raw as isEmpty, rest) :=
      startTag_eq_some.mpr ⟨_, _, _, _, _, _, _, hname, has, hblanks, he, rfl, rfl⟩
    rw [← hread, ← hname.next]
    simp
  | @endTag name blanks raw hname hblanks =>
    have hread : endTag? (name ++ (blanks ++ '>' :: rest)) = some (.endTag raw, rest) :=
      endTag_eq_some.mpr ⟨_, _, _, hname, hblanks, rfl, rfl⟩
    rw [← hread]
    simp [next?]
  | comment hstands hall hdashes hlast =>
    rw [List.append_assoc]
    exact comment_eq_some.mpr ⟨_, rfl, hstands, hall, hdashes, hlast, rfl⟩
  | literal hstands hall =>
    rw [List.append_assoc]
    exact literal_eq_some.mpr ⟨_, rfl, hstands, hall, rfl⟩
  | instruction h =>
    rw [List.append_assoc]
    exact h.instruction rest

theorem next_run {raw rest : List Char} (h : IsRun raw) (hrest : ∀ c ∈ rest.head?, c = '<') :
    next? (raw ++ rest) = some (.text raw, rest) := by
  obtain ⟨c, others, hraw⟩ := List.exists_cons_of_ne_nil h.ne_nil
  have hc : c ≠ '<' := fun heq => h.bracket (by rw [hraw, heq]; exact List.mem_cons_self)
  have hread : text? (raw ++ rest) = some (.text raw, rest) :=
    (text_eq_some (by rw [hraw]; rfl) hc).mpr ⟨raw, rfl, h, hrest, rfl⟩
  rw [← hread, hraw, List.cons_append, next?.eq_def]
  split
  · rename_i heq
    exact absurd (List.cons.inj heq).1 hc
  · rename_i heq
    exact absurd (List.cons.inj heq).1 hc
  · rename_i heq
    exact absurd (List.cons.inj heq).1 hc
  · rename_i heq
    exact absurd (List.cons.inj heq).1 hc
  · rename_i heq
    exact absurd (List.cons.inj heq).1 hc
  · rfl

/-- **Nothing else is read.** -/
theorem next_sound {s rest : List Char} {t : Token} (hs : s ≠ []) (h : next? s = some (t, rest)) :
    (∃ u, s = u ++ rest ∧ IsMarkup u t) ∨
      ∃ raw, s = raw ++ rest ∧ IsRun raw ∧ (∀ c ∈ rest.head?, c = '<') ∧ t = .text raw := by
  rw [next?.eq_def] at h
  split at h
  · obtain ⟨value, rfl, hstands, hall, hdashes, hlast, rfl⟩ := comment_eq_some.mp h
    exact .inl ⟨_, by simp, .comment hstands hall hdashes hlast⟩
  · obtain ⟨after, hafter, h⟩ := Option.bind_eq_some_iff.mp h
    rw [afterWord_eq_some] at hafter
    obtain ⟨value, rfl, hstands, hall, rfl⟩ := literal_eq_some.mp h
    subst hafter
    exact .inl ⟨_, by simp, .literal hstands hall⟩
  · obtain ⟨target, blanks, data, rfl, hinstruction, rfl⟩ := instruction_sound h
    exact .inl ⟨_, by simp, .instruction hinstruction⟩
  · obtain ⟨name, raw, blanks, hname, hblanks, rfl, rfl⟩ := endTag_eq_some.mp h
    exact .inl ⟨_, by simp, .endTag hname hblanks⟩
  · obtain ⟨name, raw, u, as, blanks, e, isEmpty, hname, has, hblanks, he, rfl, rfl⟩ := startTag_eq_some.mp h
    exact .inl ⟨_, by simp, .startTag hname has hblanks he⟩
  · rename_i hnot
    obtain ⟨c, others, rfl⟩ := List.exists_cons_of_ne_nil hs
    have hc : c ≠ '<' := fun heq => hnot others (by rw [heq])
    obtain ⟨raw, hraw, hrun, hrest, rfl⟩ := (text_eq_some rfl hc).mp h
    exact .inr ⟨raw, hraw, hrun, hrest, rfl⟩

end Regraft.Xml.Token
