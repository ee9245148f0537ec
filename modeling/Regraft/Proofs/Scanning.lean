import Regraft.Proofs.TokenGrammar
/-!
# Texts divided into tokens

A text is divided into its tokens one after the other (`scan_markup`, `scan_run`).  What is a whole number of tokens and
does not end in a run of text (`Whole`) stays one, whatever the text goes on with (`Whole.scan`).  And no token can
begin in a fragment and end in the end tag of its wrapper: a fragment is divided in the wrapper as it is alone
(`scan_append_close`).

The last of these is the one that takes an argument.  A token that began in the fragment and ended in the end tag would
end with a word that stands across the border of both, or in the end tag.  No word that ends a token is in
`</rewrite-fragment>`, and as that begins with a bracket, none that has no bracket in it stands across the border
either (`not_straddle`); tags have no second bracket.
-/

namespace Regraft.Xml.Token

/-! ## 1. One token after the other

Dividing has one step for each character at most, and more steps make no difference, so the number of steps is
forgotten at once (`scanFrom_eq_scan`).  What is left is one equation, the first token and then the rest, and `Divided`
is that equation as a relation on texts and tokens. -/

theorem IsMarkup.exists_cons {u : List Char} {t : Token} (h : IsMarkup u t) : ∃ v, u = '<' :: v := by
  cases h with
  | startTag => exact ⟨_, rfl⟩
  | endTag => exact ⟨_, rfl⟩
  | comment => exact ⟨_, rfl⟩
  | literal => exact ⟨_, rfl⟩
  | instruction => exact ⟨_, rfl⟩

theorem IsMarkup.ne_nil {u : List Char} {t : Token} (h : IsMarkup u t) : u ≠ [] := by
  obtain ⟨v, rfl⟩ := h.exists_cons
  exact List.cons_ne_nil '<' v

/-- A token takes at least one character. -/
theorem length_next {s rest : List Char} {t : Token} (hs : s ≠ []) (h : next? s = some (t, rest)) :
    rest.length < s.length := by
  rcases next_sound hs h with ⟨u, rfl, hu⟩ | ⟨raw, rfl, hraw, -⟩
  · obtain ⟨v, rfl⟩ := hu.exists_cons
    rw [List.length_append, List.length_cons]
    omega
  · have hpos := List.length_pos_iff.mpr hraw.ne_nil
    rw [List.length_append]
    omega

/-- Steps beyond the number of characters make no difference. -/
theorem scanFrom_congr {n m : Nat} {s : List Char} (hn : s.length ≤ n) (hm : s.length ≤ m) :
    scanFrom n s = scanFrom m s := by
  induction n generalizing m s with
  | zero =>
    obtain rfl := List.eq_nil_of_length_eq_zero (Nat.le_zero.mp hn)
    cases m <;> rfl
  | succ n ih =>
    cases s with
    | nil => cases m <;> rfl
    | cons c s =>
      cases m with
      | zero => cases hm
      | succ m =>
        rw [scanFrom, scanFrom]
        · cases hnext : next? (c :: s) with
          | none => rfl
          | some p =>
            have hlt := length_next (List.cons_ne_nil c s) hnext
            have hrest := @ih m p.2 (by omega) (by omega)
            simp only [Option.bind_eq_bind, Option.bind_some, hrest]
        · exact List.cons_ne_nil c s
        · exact List.cons_ne_nil c s

theorem scanFrom_eq_scan {n : Nat} {s : List Char} (hn : s.length ≤ n) : scanFrom n s = scan? s :=
  scanFrom_congr hn (Nat.le_refl _)

/-- The first token, then the tokens of the rest. -/
theorem scan_eq {s : List Char} (hs : s ≠ []) :
    scan? s = (next? s).bind fun p => (scan? p.2).map (p.1 :: ·) := by
  obtain ⟨c, s, rfl⟩ := List.exists_cons_of_ne_nil hs
  rw [scan?, List.length_cons, scanFrom]
  · cases hnext : next? (c :: s) with
    | none => rfl
    | some p =>
      have hlt := length_next hs hnext
      rw [List.length_cons] at hlt
      have hrest : scanFrom s.length p.2 = scan? p.2 := scanFrom_eq_scan (by omega)
      simp only [Option.bind_eq_bind, Option.bind_some, hrest]
      cases scan? p.2 <;> rfl
  · exact List.cons_ne_nil c s

/-- What says itself where it ends is the first token. -/
theorem scan_markup {u : List Char} {t : Token} (h : IsMarkup u t) (rest : List Char) :
    scan? (u ++ rest) = (scan? rest).map (t :: ·) := by
  rw [scan_eq (List.append_ne_nil_of_left_ne_nil h.ne_nil rest), next_complete h]
  rfl

/-- A run of text before a bracket, or before the end, is the first token. -/
theorem scan_run {raw rest : List Char} (h : IsRun raw) (hrest : ∀ c ∈ rest.head?, c = '<') :
    scan? (raw ++ rest) = (scan? rest).map (.text raw :: ·) := by
  rw [scan_eq (by simp [h.ne_nil]), next_run h hrest]
  rfl

/-- How a text that is divided into tokens begins. -/
theorem scan_cases {s : List Char} {ts : List Token} (h : scan? s = some ts) :
    (s = [] ∧ ts = []) ∨
      (∃ u t rest us, s = u ++ rest ∧ IsMarkup u t ∧ scan? rest = some us ∧ ts = t :: us) ∨
      ∃ raw rest us, s = raw ++ rest ∧ IsRun raw ∧ (∀ c ∈ rest.head?, c = '<') ∧ scan? rest = some us ∧
        ts = .text raw :: us := by
  by_cases hs : s = []
  · subst hs
    cases h
    exact .inl ⟨rfl, rfl⟩
  · rw [scan_eq hs] at h
    obtain ⟨⟨t, rest⟩, hnext, h⟩ := Option.bind_eq_some_iff.mp h
    obtain ⟨us, hus, rfl⟩ := Option.map_eq_some_iff.mp h
    rcases next_sound hs hnext with ⟨u, rfl, hu⟩ | ⟨raw, rfl, hraw, hrest, rfl⟩
    · exact .inr (.inl ⟨u, t, rest, us, rfl, hu, hus, rfl⟩)
    · exact .inr (.inr ⟨raw, rest, us, rfl, hraw, hrest, hus, rfl⟩)

/-- A text with the tokens that it consists of.  A run of text ends where a bracket begins, or at the end. -/
inductive Divided : List Char → List Token → Prop where
  | nil : Divided [] []
  | markup {u s : List Char} {t : Token} {ts : List Token} : IsMarkup u t → Divided s ts → Divided (u ++ s) (t :: ts)
  | run {raw s : List Char} {ts : List Token} : IsRun raw → (∀ c ∈ s.head?, c = '<') → Divided s ts →
      Divided (raw ++ s) (.text raw :: ts)

/-- **A text is divided into the tokens that it consists of**, and otherwise not at all. -/
theorem scan_eq_some {s : List Char} {ts : List Token} : scan? s = some ts ↔ Divided s ts := by
  constructor
  · intro h
    induction ts generalizing s with
    | nil =>
      rcases scan_cases h with ⟨rfl, -⟩ | ⟨u, t, rest, us, -, -, -, heq⟩ | ⟨raw, rest, us, -, -, -, -, heq⟩
      · exact .nil
      · cases heq
      · cases heq
    | cons t ts ih =>
      rcases scan_cases h with ⟨-, heq⟩ | ⟨u, t', rest, us, rfl, hu, hus, heq⟩ |
        ⟨raw, rest, us, rfl, hraw, hrest, hus, heq⟩
      · cases heq
      · cases heq
        exact .markup hu (ih hus)
      · cases heq
        exact .run hraw hrest (ih hus)
  · intro h
    induction h with
    | nil => rfl
    | markup hu _ ih =>
      rw [scan_markup hu, ih]
      rfl
    | run hraw hrest _ ih =>
      rw [scan_run hraw hrest, ih]
      rfl

/-! ## 2. Runs of text between other tokens

Two runs never follow each other: a run is everything up to the next bracket.  So a run that is put before a bracket is
one token, or none if it is empty. -/

/-- What a run of text, which may be empty, is divided into. -/
inductive RunTokens : List Char → List Token → Prop where
  | nil : RunTokens [] []
  | run {raw : List Char} : IsRun raw → RunTokens raw [.text raw]

theorem scan_runTokens {raw rest : List Char} {us : List Token} (h : RunTokens raw us)
    (hrest : ∀ c ∈ rest.head?, c = '<') : scan? (raw ++ rest) = (scan? rest).map (us ++ ·) := by
  cases h with
  | nil => simp
  | run h => exact scan_run h hrest

/-- A run of text ends where a bracket begins, or at the end. -/
theorem exists_runTokens {raw rest : List Char} {ts : List Token} (hraw : '<' ∉ raw)
    (hrest : ∀ c ∈ rest.head?, c = '<') (h : scan? (raw ++ rest) = some ts) :
    ∃ us vs, RunTokens raw us ∧ scan? rest = some vs ∧ ts = us ++ vs := by
  by_cases hnil : raw = []
  · subst hnil
    exact ⟨[], ts, .nil, h, rfl⟩
  obtain ⟨c, others, rfl⟩ := List.exists_cons_of_ne_nil hnil
  have hc : c ≠ '<' := fun heq => hraw (heq ▸ List.mem_cons_self)
  rcases scan_cases h with ⟨heq, -⟩ | ⟨u, t, after, us, heq, hu, -⟩ | ⟨run, after, us, heq, hrun, hafter, hus, rfl⟩
  · simp at heq
  · obtain ⟨v, rfl⟩ := hu.exists_cons
    exact absurd (List.cons.inj heq).1 hc
  · -- Both runs end at the first bracket.
    have hbne {s : List Char} (hs : '<' ∉ s) : ∀ d ∈ s, (d != '<') = true := by
      intro d hd
      rw [bne_iff_ne]
      rintro rfl
      exact hs hd
    have hstop {s : List Char} (hs : ∀ d ∈ s.head?, d = '<') : ∀ d ∈ s.head?, (d != '<') = false := by
      intro d hd
      rw [hs d hd]
      rfl
    obtain ⟨htake, hdrop⟩ := Text.takeWhile_append_of_end (hbne hraw) (hstop hrest)
    obtain ⟨htake', hdrop'⟩ := Text.takeWhile_append_of_end (hbne hrun.bracket) (hstop hafter)
    rw [heq, htake'] at htake
    rw [heq, hdrop'] at hdrop
    subst htake hdrop
    exact ⟨_, us, .run hrun, hus, rfl⟩

/-! ## 3. Whole tokens at the beginning of a text

Text before a bracket is complete, and so is every token that says itself where it ends.  A text of such tokens is
divided at the end of the last, whatever follows. -/

/-- A whole number of tokens, of which the last is not a run of text. -/
inductive Whole : List Char → List Token → Prop where
  | nil : Whole [] []
  | markup {u s : List Char} {t : Token} {ts : List Token} : IsMarkup u t → Whole s ts → Whole (u ++ s) (t :: ts)
  | run {raw s : List Char} {ts : List Token} : IsRun raw → s.head? = some '<' → Whole s ts →
      Whole (raw ++ s) (.text raw :: ts)

/-- **Whole tokens are read as these tokens**, whatever comes after them. -/
theorem Whole.scan {s : List Char} {ts : List Token} (h : Whole s ts) (rest : List Char) :
    scan? (s ++ rest) = (scan? rest).map (ts ++ ·) := by
  induction h with
  | nil => simp
  | markup hu _ ih =>
    rw [List.append_assoc, scan_markup hu, ih, Option.map_map]
    rfl
  | run hraw hhead _ ih =>
    rw [List.append_assoc, scan_run hraw, ih, Option.map_map]
    · rfl
    · intro c hc
      rw [List.head?_append, hhead] at hc
      exact (Option.some.inj hc).symm

/-! ## 4. The end of a wrapper

What the wrapper adds behind a fragment is the end tag alone.  It is read as the last token, and everything before it as
without it. -/

/-- The end tag of the element that fragments are read in. -/
def close : List Char := "</rewrite-fragment>".toList

/-- No word that ends a token stands in the end tag or goes over into it. -/
theorem not_straddle (word : List Char) {s c rest : List Char} (hword : '<' ∉ word)
    (hclose : splitAtWord? word close = none) (hc : c ≠ []) (hrest : close = c ++ rest) (h : word <:+ s ++ c) :
    False := by
  rcases List.suffix_or_suffix_of_suffix h (List.suffix_append s c) with h | h
  · have hne : word ≠ [] := by
      rintro rfl
      cases hclose
    refine (splitAtWord_eq_none hne).mp hclose (h.isInfix.trans ?_)
    rw [hrest]
    exact (List.prefix_append c rest).isInfix
  · obtain ⟨d, c, rfl⟩ := List.exists_cons_of_ne_nil hc
    obtain rfl : '<' = d := (List.cons.inj hrest).1
    exact hword (h.subset List.mem_cons_self)

/-- A token that begins in a text before the end tag ends there. -/
theorem IsMarkup.within {u s rest : List Char} {t : Token} (h : IsMarkup u t) (hs : s ≠ [])
    (heq : s ++ close = u ++ rest) : ∃ s', s = u ++ s' ∧ rest = s' ++ close := by
  rcases List.append_eq_append_iff.mp heq with ⟨c, hu, hrest⟩ | ⟨s', hs', hrest⟩
  · by_cases hc : c = []
    · subst hc
      exact ⟨[], by rw [hu, List.append_nil, List.append_nil], hrest.symm⟩
    exfalso
    -- A tag has no second bracket, and every other token ends in a word that does not stand there.
    have hbracket {v : List Char} (hu' : u = '<' :: v) (hv : '<' ∉ v) : False := by
      obtain ⟨d, s, rfl⟩ := List.exists_cons_of_ne_nil hs
      obtain ⟨e, c, rfl⟩ := List.exists_cons_of_ne_nil hc
      obtain rfl : '<' = e := (List.cons.inj hrest).1
      have hv' := (List.cons.inj (hu'.symm.trans hu)).2
      exact hv (by rw [hv']; simp)
    have hspaces {b : List Char} (hb : AllSpace b) : '<' ∉ b := fun hmem => absurd (hb _ hmem) (by decide)
    have hletters {n : List Char} {raw : RawName} (hn : IsRawName n raw) : '<' ∉ n := fun hmem =>
      absurd (hn.chars _ hmem) (by decide)
    cases h with
    | startTag hname has hblanks he =>
      refine hbracket rfl ?_
      cases he with
      | startTag => simp [hletters hname, has.bracket, hspaces hblanks]
      | emptyTag => simp [hletters hname, has.bracket, hspaces hblanks]
    | endTag hname hblanks => exact hbracket rfl (by simp [hletters hname, hspaces hblanks])
    | comment _ _ _ _ =>
      refine not_straddle "-->".toList (s := s) (by decide) (by decide) hc hrest ?_
      rw [← hu, ← List.append_assoc]
      exact List.suffix_append _ _
    | literal _ _ =>
      refine not_straddle "]]>".toList (s := s) (by decide) (by decide) hc hrest ?_
      rw [← hu, ← List.append_assoc]
      exact List.suffix_append _ _
    | instruction _ =>
      refine not_straddle "?>".toList (s := s) (by decide) (by decide) hc hrest ?_
      rw [← hu, ← List.append_assoc, ← List.append_assoc, ← List.append_assoc]
      exact List.suffix_append _ _
  · exact ⟨s', hs', hrest⟩

theorem isMarkup_close : IsMarkup close (.endTag ⟨"", "rewrite-fragment"⟩) := by
  have hname : IsRawName "rewrite-fragment".toList ⟨"", "rewrite-fragment"⟩ :=
    ⟨List.all_eq_true.mp (by decide : "rewrite-fragment".toList.all isNameChar = true), by decide⟩
  have hclose : close = '<' :: '/' :: ("rewrite-fragment".toList ++ ([] ++ ['>'])) := by decide
  rw [hclose]
  exact .endTag hname fun _ h => absurd h List.not_mem_nil

theorem scan_nil : scan? [] = some [] := rfl

theorem scan_close : scan? close = some [.endTag ⟨"", "rewrite-fragment"⟩] := by
  rw [← List.append_nil close, scan_markup isMarkup_close, scan_nil, Option.map_some]

/-- A run of text has no bracket in it, so it ends before the end tag. -/
theorem IsRun.within {raw s rest : List Char} (hrun : IsRun raw) (h : s ++ close = raw ++ rest) :
    ∃ s', s = raw ++ s' ∧ rest = s' ++ close := by
  rcases List.append_eq_append_iff.mp h with ⟨c, hraw, hc⟩ | ⟨s', hs, hrest⟩
  · cases c with
    | nil => exact ⟨[], by rw [hraw, List.append_nil, List.append_nil], hc.symm⟩
    | cons d c =>
      obtain rfl : '<' = d := (List.cons.inj hc).1
      exact absurd (by rw [hraw]; simp) hrun.bracket
  · exact ⟨s', hs, hrest⟩

theorem scan_append_close_of_scan {s : List Char} {us : List Token} (h : scan? s = some us) :
    scan? (s ++ close) = some (us ++ [.endTag ⟨"", "rewrite-fragment"⟩]) := by
  induction us generalizing s with
  | nil =>
    rcases scan_cases h with ⟨rfl, -⟩ | ⟨u, t, rest, us, -, -, -, heq⟩ | ⟨raw, rest, us, -, -, -, -, heq⟩
    · exact scan_close
    · cases heq
    · cases heq
  | cons t us ih =>
    rcases scan_cases h with ⟨-, heq⟩ | ⟨u, t', rest, vs, rfl, hmarkup, hvs, heq⟩ |
      ⟨raw, rest, vs, rfl, hrun, hrest, hvs, heq⟩
    · cases heq
    · cases heq
      rw [List.append_assoc, scan_markup hmarkup, ih hvs]
      rfl
    · cases heq
      rw [List.append_assoc, scan_run hrun, ih hvs]
      · rfl
      · intro c hc
        cases rest with
        | nil => exact (Option.some.inj hc).symm
        | cons d rest => exact hrest c hc

theorem exists_scan_of_scan_append_close {s : List Char} {ts : List Token} (h : scan? (s ++ close) = some ts) :
    ∃ us, scan? s = some us ∧ ts = us ++ [.endTag ⟨"", "rewrite-fragment"⟩] := by
  induction ts generalizing s with
  | nil =>
    rcases scan_cases h with ⟨heq, -⟩ | ⟨u, t, rest, us, -, -, -, heq⟩ | ⟨raw, rest, us, -, -, -, -, heq⟩
    · exact absurd (List.append_eq_nil_iff.mp heq).2 isMarkup_close.ne_nil
    · cases heq
    · cases heq
  | cons t ts ih =>
    by_cases hs : s = []
    · subst hs
      rw [List.nil_append, scan_close] at h
      cases h
      exact ⟨[], rfl, rfl⟩
    rcases scan_cases h with ⟨-, heq⟩ | ⟨u, t', rest, us, hu, hmarkup, hus, heq⟩ |
      ⟨raw, rest, us, hraw, hrun, hrest, hus, heq⟩
    · cases heq
    · cases heq
      -- The first token ends in the fragment, and the rest of that is followed by the end tag as before.
      obtain ⟨s', rfl, rfl⟩ := hmarkup.within hs hu
      obtain ⟨us, hscan, rfl⟩ := ih hus
      exact ⟨t :: us, by rw [scan_markup hmarkup, hscan]; rfl, rfl⟩
    · cases heq
      obtain ⟨s', rfl, rfl⟩ := hrun.within hraw
      obtain ⟨us, hscan, rfl⟩ := ih hus
      refine ⟨.text raw :: us, ?_, rfl⟩
      rw [scan_run hrun, hscan]
      · rfl
      · intro c hc
        refine hrest c ?_
        rw [Option.mem_def] at hc ⊢
        rw [List.head?_append, hc]
        rfl

/-- **Before the end tag of its wrapper a text is divided as it is alone.** -/
theorem scan_append_close {s : List Char} {ts : List Token} :
    scan? (s ++ close) = some ts ↔ ∃ us, scan? s = some us ∧ ts = us ++ [.endTag ⟨"", "rewrite-fragment"⟩] := by
  constructor
  · exact exists_scan_of_scan_append_close
  · rintro ⟨us, hus, rfl⟩
    exact scan_append_close_of_scan hus

end Regraft.Xml.Token
