import Regraft.Proofs.ElementContent
/-!
# Escaped values put into text

Where what stands before is divided into tokens on its own, an escaped value lengthens a run of text, or makes one, and
leaves all other tokens as they are (`Token.Marks.insert`).  It brings no bracket and no reference that is not closed.
But it is not kept from ending a section: a value `]]` before a bracket `>` of the text makes the three characters that
no run of text has in it.  That is the only way (`EndsSection`).
-/

namespace Regraft

/-- The last character of an escaped text is that of the text, unless it ends a reference. -/
theorem Text.getLast_of_escapeChars {s : List Char} (h : (escapeChars s).getLast? = some ']') :
    s.getLast? = some ']' := by
  rcases List.eq_nil_or_concat s with rfl | ⟨s, c, rfl⟩
  · cases h
  · rw [List.concat_eq_append, escapeChars_eq_flatMap, List.flatMap_append, List.flatMap_singleton, escapeChar] at h
    rw [List.concat_eq_append, List.getLast?_concat]
    split at h
    · simp at h
    · split at h
      · simp at h
      · split at h
        · simp at h
        · simpa using h

namespace Xml

namespace Reader

/-! ## 1. Texts decoded in parts

Decoding goes through a text with what it has seen of a reference.  At a place where no reference is open, the two
halves of a text are decoded on their own, but for a line end that is made of two characters. -/

variable {lineEnd : Char} {blank : Char → Char}

/-- What the first character of a text makes, and what waits for a semicolon after it.  Of the next character it matters
only whether it is the second of a line end. -/
def decodeOne (lineEnd : Char) (blank : Char → Char) (open? : Option (List Char)) (c : Char) (next? : Option Char) :
    Option (List Char × Option (List Char)) :=
  match open? with
  | some reversed =>
    if c = ';' then (reference? reversed.reverse).map fun d => ([d], none) else some ([], some (c :: reversed))
  | none =>
    if c = '&' then some ([], some [])
    else if c = '\r' then some (if next? = some '\n' then [] else [lineEnd], none)
    else some (if c = '\n' then [lineEnd] else [blank c], none)

theorem decode_cons (open? : Option (List Char)) (c : Char) (s : List Char) :
    decode lineEnd blank open? (c :: s) = (decodeOne lineEnd blank open? c s.head?).bind fun one =>
      (decode lineEnd blank one.2 s).map (one.1 ++ ·) := by
  rw [decode.eq_def]
  dsimp only
  cases open? with
  | some reversed =>
    dsimp only [decodeOne]
    split
    · cases reference? reversed.reverse with
      | none => rfl
      | some d =>
        rw [Option.map_some, Option.bind_some]
        cases decode lineEnd blank none s <;> rfl
    · exact Option.map_id'.symm
  | none =>
    dsimp only [decodeOne]
    split
    · exact Option.map_id'.symm
    · split
      · rw [Option.bind_some]
        split
        · exact Option.map_id'.symm
        · rfl
      · rw [Option.bind_some]
        split <;> rfl

/-- What waits after a character does not depend on the next one. -/
theorem decodeOne_waiting (open? : Option (List Char)) (c : Char) (next? next?' : Option Char) :
    (decodeOne lineEnd blank open? c next?).map (·.2) = (decodeOne lineEnd blank open? c next?').map (·.2) := by
  cases open? with
  | some reversed => rfl
  | none =>
    dsimp only [decodeOne]
    split
    · rfl
    · split <;> rfl

/-- What a character makes depends on the next one within a line end only. -/
theorem decodeOne_next {open? : Option (List Char)} {c : Char} {next? : Option Char}
    (h : c = '\r' → next? ≠ some '\n') :
    decodeOne lineEnd blank open? c next? = decodeOne lineEnd blank open? c none := by
  cases open? with
  | some reversed => rfl
  | none =>
    dsimp only [decodeOne]
    split
    · rfl
    · split
      · rename_i hc
        rw [if_neg (h hc), if_neg nofun]
      · rfl

theorem isSome_decode_cons (open? : Option (List Char)) (c : Char) (s : List Char) :
    (decode lineEnd blank open? (c :: s)).isSome = ((decodeOne lineEnd blank open? c none).map (·.2)).any fun waiting =>
      (decode lineEnd blank waiting s).isSome := by
  rw [decode_cons, decodeOne_waiting open? c none s.head?]
  cases decodeOne lineEnd blank open? c s.head? with
  | none => rfl
  | some one => exact Option.isSome_map

/-- After a text that can be decoded on its own, another can be decoded if it can on its own. -/
theorem isSome_decode_append {open? : Option (List Char)} {s : List Char}
    (hs : (decode lineEnd blank open? s).isSome = true) (t : List Char) :
    (decode lineEnd blank open? (s ++ t)).isSome = (decode lineEnd blank none t).isSome := by
  induction s generalizing open? with
  | nil =>
    cases open? with
    | none => rfl
    | some reversed => cases hs
  | cons c s ih =>
    rw [isSome_decode_cons] at hs
    rw [List.cons_append, isSome_decode_cons]
    cases hone : (decodeOne lineEnd blank open? c none).map (·.2) with
    | none =>
      rw [hone] at hs
      cases hs
    | some waiting =>
      rw [hone] at hs
      exact ih hs

/-- Texts that do not meet in a line end are decoded one after the other. -/
theorem decode_append {open? : Option (List Char)} {s decoded t : List Char}
    (hs : decode lineEnd blank open? s = some decoded) (hmeet : s.getLast? = some '\r' → t.head? ≠ some '\n') :
    decode lineEnd blank open? (s ++ t) = (decode lineEnd blank none t).map (decoded ++ ·) := by
  induction s generalizing open? decoded with
  | nil =>
    cases open? with
    | none =>
      cases hs
      exact Option.map_id'.symm
    | some reversed => cases hs
  | cons c s ih =>
    have hlater : s.getLast? = some '\r' → t.head? ≠ some '\n' := by
      intro hlast
      refine hmeet ?_
      rw [List.getLast?_cons, hlast]
      rfl
    -- The character after this one is the same, unless it is the first of the other text.
    have hone : decodeOne lineEnd blank open? c (s ++ t).head? = decodeOne lineEnd blank open? c s.head? := by
      cases s with
      | nil => exact decodeOne_next fun hc => hmeet (hc ▸ rfl)
      | cons d s => rfl
    rw [decode_cons] at hs
    obtain ⟨one, hfirst, hs⟩ := Option.bind_eq_some_iff.mp hs
    obtain ⟨part, hpart, rfl⟩ := Option.map_eq_some_iff.mp hs
    rw [List.cons_append, decode_cons, hone, hfirst, Option.bind_some, ih hpart hlater, Option.map_map]
    congr 1
    funext u
    exact (List.append_assoc ..).symm

variable {a b v : List Char}

/-- An escaped value put after a text that can be decoded makes no difference to whether what comes next can be. -/
theorem isSome_decode_insert (hblank : ∀ c ∈ ['&', '<', '>'], blank c = c)
    (ha : (decode lineEnd blank none a).isSome = true) :
    (decode lineEnd blank none (a ++ (Text.escapeChars v ++ b))).isSome =
      (decode lineEnd blank none (a ++ b)).isSome := by
  have hvalue : (decode lineEnd blank none (Text.escapeChars v)).isSome = true := by
    rw [decode_escapeChars hblank]
    rfl
  rw [isSome_decode_append ha, isSome_decode_append ha, isSome_decode_append hvalue]

/-- It is read in its place, unless it meets a line end of which it is a part. -/
theorem decode_insert (hblank : ∀ c ∈ ['&', '<', '>'], blank c = c) {da db : List Char}
    (ha : decode lineEnd blank none a = some da) (hb : decode lineEnd blank none b = some db)
    (hlast : a.getLast? ≠ some '\r') (hhead : b.head? ≠ some '\n') :
    decode lineEnd blank none (a ++ (Text.escapeChars v ++ b)) = some (da ++ (normalized lineEnd blank v ++ db)) := by
  rw [decode_append ha fun h => absurd h hlast, decode_append (decode_escapeChars hblank v) fun _ => hhead, hb]
  rfl

end Reader

namespace Token

/-! ## 2. Runs of text

A run of text may be any characters but a bracket and the end of a section, and its references must be closed.
`markupOf` leaves out the runs, so that what is left of two texts can be the same though their runs differ. -/

/-- Whether a token is a run of text. -/
def isText : Token → Bool
  | text _ => true
  | _ => false

/-- The tokens but for the runs of text. -/
def markupOf (ts : List Token) : List Token := ts.filter fun t => !t.isText

/-- The runs of text among the tokens can be decoded. -/
def Decodes (ts : List Token) : Prop := ∀ raw, .text raw ∈ ts → (Reader.decodeText raw).isSome = true

/-- The text begins with what makes the end of a section of two brackets, or of one. -/
def EndsSection (s : List Char) : Prop := ['>'] <+: s ∨ [']', '>'] <+: s

/-- A text that is put at the end and does not end in the character that stands there then is empty. -/
theorem eq_nil_of_append_eq {s e l : List Char} {c : Char} (h : s ++ e = l ++ [c]) (hc : e.getLast? ≠ some c) :
    e = [] := by
  rcases List.eq_nil_or_concat e with rfl | ⟨e, d, rfl⟩
  · rfl
  · rw [List.concat_eq_append, ← List.append_assoc] at h
    obtain ⟨-, heq⟩ := List.append_inj' h rfl
    cases heq
    exact absurd (by simp) hc

/-- Where a text is put into a run, the end of a section does not come about unless that text ends in a bracket. -/
theorem not_infix_insert {s e t : List Char} (h : ¬ "]]>".toList <:+: s ++ t) (he : '>' ∉ e)
    (hends : EndsSection t → e.getLast? ≠ some ']') : ¬ "]]>".toList <:+: s ++ e ++ t := by
  rintro ⟨l, r, heq⟩
  have hword (l r : List Char) : l ++ "]]>".toList ++ r = l ++ [']', ']'] ++ '>' :: r := by simp
  rw [hword] at heq
  -- The last of the three characters stands before the text put in, or after it.
  rcases List.append_eq_append_iff.mp heq with ⟨u, hu, ht⟩ | ⟨u, hu, rfl⟩
  · cases u with
    | nil =>
      obtain rfl : '>' :: r = t := ht
      have hbrackets : s ++ e = (l ++ [']']) ++ [']'] := by rw [hu]; simp
      obtain rfl := eq_nil_of_append_eq hbrackets (hends (.inl ⟨r, rfl⟩))
      exact h ⟨l, r, by rw [hword, ← List.append_nil s, hu]; simp⟩
    | cons d u =>
      obtain ⟨rfl, rfl⟩ := List.cons.inj ht
      rcases List.append_eq_append_iff.mp hu with ⟨v, -, hv⟩ | ⟨v, rfl, hv⟩
      · exact he (by rw [hv]; simp)
      · cases v with
        | nil => exact he (by rw [← List.nil_append e, ← hv]; simp)
        | cons d v =>
          obtain ⟨rfl, -⟩ := List.cons.inj hv
          exact h ⟨l, v ++ t, by rw [hword]; simp⟩
  · rcases List.eq_nil_or_concat u with rfl | ⟨u, d, rfl⟩
    · rw [List.append_nil] at hu
      have hbrackets : s ++ e = (l ++ [']']) ++ [']'] := by rw [← hu]; simp
      obtain rfl := eq_nil_of_append_eq hbrackets (hends (.inl ⟨r, rfl⟩))
      exact h ⟨l, r, by rw [hword, hu]; simp⟩
    · rw [List.concat_eq_append] at hu h hends
      have hsecond : (l ++ [']']) ++ [']'] = (s ++ e ++ u) ++ [d] := by
        rw [List.append_assoc (s ++ e), ← hu]
        simp
      obtain ⟨hfirst, hd⟩ := List.append_inj' hsecond rfl
      cases hd
      rcases List.eq_nil_or_concat u with rfl | ⟨u, d, rfl⟩
      · rw [List.append_nil] at hfirst
        obtain rfl := eq_nil_of_append_eq hfirst.symm (hends (.inr ⟨r, rfl⟩))
        exact h ⟨l, r, by rw [hword, ← List.append_nil s, ← hfirst]; simp⟩
      · rw [List.concat_eq_append, ← List.append_assoc] at hfirst
        obtain ⟨-, hd⟩ := List.append_inj' hfirst rfl
        cases hd
        exact h ⟨s ++ u, r, by simp⟩

/-- A text without brackets and without the end of a section is one run, or none. -/
theorem exists_runTokens_of_chars {raw : List Char} (hbracket : '<' ∉ raw) (hchars : raw.all isXmlChar = true)
    (hclosed : ¬ "]]>".toList <:+: raw) : ∃ us, RunTokens raw us := by
  by_cases hnil : raw = []
  · subst hnil
    exact ⟨[], .nil⟩
  · exact ⟨_, .run ⟨hnil, hbracket, hchars, hclosed⟩⟩

theorem RunTokens.chars {raw : List Char} {us : List Token} (h : RunTokens raw us) :
    '<' ∉ raw ∧ raw.all isXmlChar = true ∧ ¬ "]]>".toList <:+: raw := by
  cases h with
  | nil => exact ⟨List.not_mem_nil, rfl, by simp⟩
  | run h => exact ⟨h.bracket, h.chars, h.closed⟩

theorem RunTokens.markupOf {raw : List Char} {us : List Token} (h : RunTokens raw us) : Token.markupOf us = [] := by
  cases h <;> rfl

/-- A run can be decoded if its text can. -/
theorem RunTokens.decodes {raw : List Char} {us : List Token} (h : RunTokens raw us) :
    Decodes us ↔ (Reader.decodeText raw).isSome = true := by
  cases h with
  | nil => exact iff_of_true (fun raw hraw => absurd hraw List.not_mem_nil) rfl
  | run h =>
    constructor
    · intro hus
      exact hus raw List.mem_cons_self
    · intro hraw raw' hmem
      obtain rfl : raw' = raw := by simpa using hmem
      exact hraw

theorem decodes_append {ts us : List Token} : Decodes (ts ++ us) ↔ Decodes ts ∧ Decodes us := by
  constructor
  · exact fun h => ⟨fun raw hraw => h raw (List.mem_append_left _ hraw),
      fun raw hraw => h raw (List.mem_append_right _ hraw)⟩
  · rintro ⟨hts, hus⟩ raw hraw
    rcases List.mem_append.mp hraw with hraw | hraw
    · exact hts raw hraw
    · exact hus raw hraw

theorem decodes_cons {t : Token} (ht : t.isText = false) {ts : List Token} : Decodes (t :: ts) ↔ Decodes ts := by
  refine ⟨fun h raw hraw => h raw (List.mem_cons_of_mem _ hraw), fun h raw hraw => ?_⟩
  rcases List.mem_cons.mp hraw with rfl | hraw
  · cases ht
  · exact h raw hraw

theorem markupOf_append (ts us : List Token) : markupOf (ts ++ us) = markupOf ts ++ markupOf us :=
  List.filter_append ..

/-- What is divided into tokens has whole tokens and after them a run of text, which may be empty. -/
theorem Divided.exists_whole {s : List Char} {ts : List Token} (h : Divided s ts) :
    ∃ whole run ts₀ us, s = whole ++ run ∧ Whole whole ts₀ ∧ RunTokens run us ∧ ts = ts₀ ++ us := by
  induction h with
  | nil => exact ⟨[], [], [], [], rfl, .nil, .nil, rfl⟩
  | markup hu _ ih =>
    obtain ⟨whole, run, ts₀, us, rfl, hwhole, hrun, rfl⟩ := ih
    exact ⟨_, run, _, us, (List.append_assoc ..).symm, .markup hu hwhole, hrun, rfl⟩
  | @run raw s ts hraw hhead hdivided ih =>
    cases s with
    | nil =>
      obtain rfl : ts = [] := by
        rcases scan_cases (scan_eq_some.mpr hdivided) with ⟨-, hts⟩ | ⟨u, t, rest, us, heq, hu, -⟩ |
          ⟨raw', rest, us, heq, hraw', -⟩
        · exact hts
        · exact absurd (List.append_eq_nil_iff.mp heq.symm).1 hu.ne_nil
        · exact absurd (List.append_eq_nil_iff.mp heq.symm).1 hraw'.ne_nil
      exact ⟨[], raw, [], _, List.append_nil raw, .nil, .run hraw, rfl⟩
    | cons c s =>
      obtain rfl : c = '<' := hhead c rfl
      obtain ⟨whole, run, ts₀, us, hs, hwhole, hrun, rfl⟩ := ih
      -- A run of text has no bracket, so what begins with one begins with a whole token.
      obtain ⟨d, whole, rfl⟩ : ∃ d others, whole = d :: others := by
        refine List.exists_cons_of_ne_nil fun hnil => hrun.chars.1 ?_
        rw [← List.nil_append run, ← hnil, ← hs]
        exact List.mem_cons_self
      obtain ⟨rfl, -⟩ := List.cons.inj hs
      exact ⟨_, run, _, us, by rw [hs, List.append_assoc], .run hraw rfl hwhole, hrun, rfl⟩

/-- So it is divided as it is alone, where a bracket comes next. -/
theorem Divided.scan {s rest : List Char} {ts : List Token} (h : Divided s ts) (hrest : ∀ c ∈ rest.head?, c = '<') :
    scan? (s ++ rest) = (scan? rest).map (ts ++ ·) := by
  obtain ⟨whole, run, ts₀, us, rfl, hwhole, hrun, rfl⟩ := h.exists_whole
  rw [List.append_assoc, hwhole.scan, scan_runTokens hrun hrest, Option.map_map]
  congr 1
  funext vs
  exact (List.append_assoc ..).symm

/-! ## 3. Values put into text

The value is put in where the text before it is a whole number of tokens or ends in a run.  In both cases the value
joins the run, or makes one. -/

/-- The text is divided into tokens: runs of text, which can be decoded, and these others. -/
def Marks (s : List Char) (others : List Token) : Prop :=
  ∃ ts, Divided s ts ∧ Decodes ts ∧ markupOf ts = others

theorem Marks.nil : Marks [] [] := ⟨[], .nil, fun _ h => absurd h List.not_mem_nil, rfl⟩

/-- A run that a value is put into is a run still. -/
theorem RunTokens.insert {run more v : List Char} {us : List Token} (h : RunTokens (run ++ more) us)
    (hxml : v.all isXmlChar = true) (hends : EndsSection more → v.getLast? ≠ some ']') :
    ∃ us', RunTokens (run ++ (Text.escapeChars v ++ more)) us' := by
  obtain ⟨hbracket, hchars, hclosed⟩ := h.chars
  rw [List.mem_append, not_or] at hbracket
  rw [List.all_append, Bool.and_eq_true] at hchars
  refine exists_runTokens_of_chars ?_ ?_ ?_
  · simp [hbracket, Text.not_mem_escapeChars]
  · simp [hchars, all_escapeChars, hxml]
  · rw [← List.append_assoc]
    exact not_infix_insert hclosed (Text.greater_not_mem_escapeChars v) fun hmore hlast =>
      hends hmore (Text.getLast_of_escapeChars hlast)

/-- **An escaped value put into text brings no other token and takes none away**, unless it ends in a bracket that the
end of a section begins with. -/
theorem Marks.insert {before after v : List Char} {ms ns : List Token} (h : Marks (before ++ after) ms)
    (hbefore : Marks before ns) (hxml : v.all isXmlChar = true) (hends : EndsSection after → v.getLast? ≠ some ']') :
    Marks (before ++ (Text.escapeChars v ++ after)) ms := by
  obtain ⟨ts, hdivided, hdecodes, rfl⟩ := h
  obtain ⟨bs, hbs, hbsDecodes, -⟩ := hbefore
  obtain ⟨whole, run, ts₀, us, rfl, hwhole, hrun, rfl⟩ := hbs.exists_whole
  -- The run that the value is put into goes on in the text after it, up to the next bracket.
  obtain ⟨more, rest, rfl, hmore, hrest⟩ :
      ∃ more rest, after = more ++ rest ∧ '<' ∉ more ∧ ∀ c ∈ rest.head?, c = '<' := by
    refine ⟨_, _, (@List.takeWhile_append_dropWhile _ (· != '<') after).symm, fun hmem => ?_, fun c hc => ?_⟩
    · have hne := List.mem_takeWhile_imp hmem
      simp at hne
    · have hstop := List.head?_dropWhile_not (· != '<') after
      rw [hc] at hstop
      simpa using hstop
  have hscan := scan_eq_some.mpr hdivided
  rw [List.append_assoc, hwhole.scan, ← List.append_assoc] at hscan
  obtain ⟨ts₁, hts₁, rfl⟩ := Option.map_eq_some_iff.mp hscan
  obtain ⟨us₁, vs, hus₁, hvs, rfl⟩ := exists_runTokens (by simp [hrun.chars.1, hmore]) hrest hts₁
  obtain ⟨us₂, hus₂⟩ := hus₁.insert hxml fun hends' => hends
    (hends'.imp (fun h => h.trans (List.prefix_append ..)) fun h => h.trans (List.prefix_append ..))
  obtain ⟨-, hdecodes⟩ := decodes_append.mp hdecodes
  obtain ⟨hus₁Decodes, hvsDecodes⟩ := decodes_append.mp hdecodes
  obtain ⟨hts₀Decodes, husDecodes⟩ := decodes_append.mp hbsDecodes
  have hus₂Decodes : Decodes us₂ := by
    have hid : ∀ c ∈ ['&', '<', '>'], id c = c := fun _ _ => rfl
    rw [hus₂.decodes, Reader.decodeText, Reader.isSome_decode_insert hid (hrun.decodes.mp husDecodes)]
    exact hus₁.decodes.mp hus₁Decodes
  refine ⟨ts₀ ++ (us₂ ++ vs), scan_eq_some.mp ?_,
    decodes_append.mpr ⟨hts₀Decodes, decodes_append.mpr ⟨hus₂Decodes, hvsDecodes⟩⟩, ?_⟩
  · have hsame : whole ++ run ++ (Text.escapeChars v ++ (more ++ rest)) =
        whole ++ ((run ++ (Text.escapeChars v ++ more)) ++ rest) := by simp
    rw [hsame, hwhole.scan, scan_runTokens hus₂ hrest, hvs]
    rfl
  · simp only [markupOf_append, hus₁.markupOf, hus₂.markupOf]

end Token

end Xml

end Regraft
