import Regraft.Proofs.PathPlaces
import Regraft.Proofs.PathSoundness
/-!
# Paths are read as their grammar says

`Complete fuel` says of all readers what they do with a text that denotes something, if they may go five steps deep for
every character: they return what it denotes, whatever follows it, if what follows cannot belong to it (`NameEnd`,
`TestEnd`, `StepEnd`, `PathEnd`).  Names are read as far as they go, which does no harm: nothing that the grammar lets
follow a name goes on with it.

The grammar puts texts together from the left, and so do the readers take them apart.  That a reader stops where the
grammar ends a part has to be known of the character behind it, for each kind of part.  A colon would go on with a name,
a parenthesis with a test, a bracket with a step and a slash with a path; each of the four conditions excludes the
characters of those before it and one more.  What stands behind a part in the grammar satisfies them: the next slash or
bracket, a closing bracket, an operator with white space before it, or the end.

With what is known of the texts that have been read (`Sound`), it follows that a text is read exactly if it denotes a
path (`whole_iff_denotes`), and since the parser does what the readers do, that holds of the parser as well
(`parse_iff_denotes`).
-/

namespace Regraft.Path

namespace Readers

open Grammar Regraft.Path.Parser

/-! ## 1. What is denoted is read

One lemma for each reader, in the order in which they call each other, and for those that recurse under the hypothesis
`Complete fuel`.  White space is the only thing that both the grammar and the readers allow anywhere inside a predicate;
a path in a predicate does not begin with it, which is why each of the `exists_cons` lemmas says what a part begins
with. -/

/-- What is left neither goes on with a name nor begins with one of the given characters. -/
def EndsBefore (others rest : List Char) : Prop := ∀ c ∈ rest.head?, isNameChar c = false ∧ c ∉ others

theorem EndsBefore.mono {others others' rest : List Char} (h : EndsBefore others rest) (hsub : others' ⊆ others) :
    EndsBefore others' rest :=
  fun c hc => ⟨(h c hc).1, fun hmem => (h c hc).2 (hsub hmem)⟩

/-- Punctuation ends whatever it is not excluded from. -/
theorem endsBefore_cons {others s : List Char} {c : Char} (hc : isNameChar c = false) (hmem : c ∉ others) :
    EndsBefore others (c :: s) := fun d hd => by
  obtain rfl : c = d := by simpa using hd
  exact ⟨hc, hmem⟩

/-- After a name. -/
abbrev NameEnd : List Char → Prop := EndsBefore [':']

/-- After a test. -/
abbrev TestEnd : List Char → Prop := EndsBefore [':', '(']

/-- After a step. -/
abbrev StepEnd : List Char → Prop := EndsBefore [':', '(', '[']

/-- After a path. -/
abbrev PathEnd : List Char → Prop := EndsBefore [':', '(', '[', '/']

section Complete

variable {t rest : List Char}

/-- A name without a prefix is read to its end. -/
theorem ncname_complete (h : NCName t) (hrest : EndsBefore [] rest) : ncname (t ++ rest) = .ok (.ofList t, rest) := by
  cases h with
  | @mk c s first others =>
    have hs : ∀ d ∈ s, isNameChar d = true := fun d hd => isNameChar_iff.mpr (others d hd)
    obtain ⟨htake, hdrop⟩ := Text.takeWhile_append_of_end hs fun d hd => (hrest d hd).1
    rw [List.cons_append, ncname, if_pos (isNameStart_iff.mpr first), htake, hdrop]
    rfl

/-- With a prefix, the colon between the parts is found where the first ends. -/
theorem name_complete {n : Name} (h : IsName t n) (hrest : NameEnd rest) : name (t ++ rest) = .ok (n, rest) := by
  cases h with
  | bare ht =>
    rw [name, ncname_complete ht (hrest.mono (List.nil_subset _))]
    cases rest with
    | nil => rfl
    | cons c rest =>
      have hc : c ≠ ':' := by simpa using (hrest c rfl).2
      dsimp only [bind, Except.bind]
      split
      · rename_i heq
        exact absurd (List.cons.inj heq).1 hc
      · rfl
  | @prefixed s u hs hu =>
    have hcolon : EndsBefore [] (':' :: (u ++ rest)) :=
      endsBefore_cons (isNameChar_punctuation _ (by simp)).1 (by simp)
    have hsecond : ncname (u ++ rest) = .ok (.ofList u, rest) :=
      ncname_complete hu (hrest.mono (List.nil_subset _))
    have htext : s ++ ':' :: u ++ rest = s ++ ':' :: (u ++ rest) := by simp
    rw [htext, name, ncname_complete hs hcolon]
    show (ncname (u ++ rest) >>= _) = _
    rw [hsecond]
    rfl

/-- A name begins with none of the characters that other tests begin with. -/
theorem exists_cons_of_isName {n : Name} (h : IsName t n) : ∃ c s, t = c :: s ∧ isNameStart c = true := by
  have hcons {t : List Char} (h : NCName t) : ∃ c s, t = c :: s ∧ isNameStart c = true := by
    cases h with
    | @mk c s first _ => exact ⟨c, s, rfl, isNameStart_iff.mpr first⟩
  cases h with
  | bare ht => exact hcons ht
  | @prefixed s u hs _ =>
    obtain ⟨c, s', rfl, hc⟩ := hcons hs
    exact ⟨c, s' ++ ':' :: u, rfl, hc⟩

/-- A test that begins like a name is read as a name first. -/
theorem test_of_isNameStart {c : Char} (s : List Char) (hc : isNameStart c = true) :
    test (c :: s) = (do
      let (n, rest) ← name (c :: s)
      match rest with
      | '(' :: ')' :: rest' =>
        if n = ⟨none, "text"⟩ then pure (.text, rest') else pure (.element n, rest)
      | _ => pure (.element n, rest)) := by
  have hne (d : Char) (hd : d ∈ ['/', '.', '*', '@']) : c ≠ d := fun heq => by
    rw [heq, isNameStart_punctuation d hd] at hc
    cases hc
  have hslash := hne '/' (by simp)
  have hdot := hne '.' (by simp)
  have hstar := hne '*' (by simp)
  have hat := hne '@' (by simp)
  rw [test] <;> first
    | rfl
    | simp [hslash, hdot, hstar, hat]

/-- Every test is read as itself; the test for text is a name until its parenthesis is seen. -/
theorem test_complete {x : Test} (h : IsTest t x) (hrest : TestEnd rest) : test (t ++ rest) = .ok (x, rest) := by
  have hname : NameEnd rest := hrest.mono (by simp)
  cases h with
  | here =>
    have hdot : ∀ s, rest = '.' :: s → False := fun s hs => by
      have hname : isNameChar '.' = false := (hrest '.' (by rw [hs]; rfl)).1
      rw [isNameChar_iff.mpr (by simp)] at hname
      cases hname
    rw [List.cons_append, List.nil_append, test]
    · rfl
    · exact hdot
  | parent => rfl
  | anyElement => rfl
  | text =>
    have hothers : ['e', 'x', 't'].all isNameChar = true := by decide +kernel
    have hncname : NCName ['t', 'e', 'x', 't'] :=
      .mk (.inl (by decide +kernel)) fun d hd => isNameChar_iff.mp (List.all_eq_true.mp hothers d hd)
    have hparen : NameEnd ('(' :: ')' :: rest) :=
      endsBefore_cons (isNameChar_punctuation _ (by simp)).1 (by simp)
    have hread : name ('t' :: ['e', 'x', 't', '(', ')'] ++ rest) = .ok (⟨none, "text"⟩, '(' :: ')' :: rest) :=
      name_complete (.bare hncname) hparen
    rw [List.cons_append, test_of_isNameStart _ (by decide +kernel), ← List.cons_append, hread]
    rfl
  | @«attribute» s n hn =>
    show (name (s ++ rest) >>= _) = _
    rw [name_complete hn hname]
    rfl
  | @element _ n hn =>
    obtain ⟨c, s, rfl, hc⟩ := exists_cons_of_isName hn
    rw [List.cons_append, test_of_isNameStart _ hc, ← List.cons_append, name_complete hn hname]
    show (match rest with
      | '(' :: ')' :: rest' => _
      | _ => _) = _
    split
    · exact absurd (hrest '(' rfl).2 (by simp)
    · rfl

theorem literal_complete {value : String} (h : IsLiteral t value) (rest : List Char) :
    literal (t ++ rest) = .ok (value, rest) := by
  cases h with
  | @mk q s quote inside =>
    obtain ⟨htake, hdrop⟩ := Text.takeWhile_bne_append inside rest
    have htext : q :: (s ++ [q]) ++ rest = q :: (s ++ q :: rest) := by simp
    rw [htext, literal, if_pos quote, htake, hdrop]
    rfl

theorem comparison_complete {p : Path} {x : Predicate} {w : List Char} (h : IsComparison p t x) (hw : Blank w)
    (rest : List Char) : comparison p (w ++ t ++ rest) = .ok (x, rest) := by
  have hquote {s : List Char} {value : String} (hs : IsLiteral s value) {v : List Char} (hv : Blank v) :
      skipBlank (v ++ s ++ rest) = s ++ rest := by
    cases hs with
    | @mk q s quote _ =>
      have hq : Unicode.isBlank q = false := by
        rcases quote with rfl | rfl
        · exact (isNameChar_punctuation _ (by simp)).2
        · exact (isNameChar_punctuation _ (by simp)).2
      rw [List.append_assoc]
      exact skipBlank_append hv hq _
  cases h with
  | @equals s value hs v hv =>
    have hskip : skipBlank (w ++ '=' :: (v ++ s) ++ rest) = '=' :: (v ++ s ++ rest) := by
      rw [List.append_assoc]
      exact skipBlank_append hw (isNameChar_punctuation _ (by simp)).2 _
    rw [comparison, hskip]
    show (literal (skipBlank (v ++ s ++ rest)) >>= _) = _
    rw [hquote hs hv, literal_complete hs]
    rfl
  | @differs s value hs v hv =>
    have hskip : skipBlank (w ++ '!' :: '=' :: (v ++ s) ++ rest) = '!' :: '=' :: (v ++ s ++ rest) := by
      rw [List.append_assoc]
      exact skipBlank_append hw (isNameChar_punctuation _ (by simp)).2 _
    rw [comparison, hskip]
    show (literal (skipBlank (v ++ s ++ rest)) >>= _) = _
    rw [hquote hs hv, literal_complete hs]
    rfl

theorem position_complete (digits : ∀ c ∈ t, '0' ≤ c ∧ c ≤ '9') (hmin : 1 ≤ decimal t)
    (hmax : decimal t ≤ 2 ^ 64 - 1) (hrest : ∀ c ∈ rest.head?, isDigit c = false) :
    position (t ++ rest) = .ok (.position (decimal t), rest) := by
  obtain ⟨htake, hdrop⟩ := Text.takeWhile_append_of_end (fun c hc => isDigit_iff.mpr (digits c hc)) hrest
  have hle : ¬ maxPosition < decimal t := by
    simp only [maxPosition]
    omega
  have hne : ¬ decimal t = 0 := by omega
  simp only [position, htake, hdrop, digitsValue_eq_decimal, if_neg hle, if_neg hne]
  rfl

/-- White space ends a path, and so does what comes after it. -/
theorem endsBefore_blank {others w s : List Char} (hw : Blank w) (hs : EndsBefore others s)
    (hothers : ∀ c ∈ others, Unicode.isBlank c = false) : EndsBefore others (w ++ s) := by
  cases w with
  | nil => exact hs
  | cons c w =>
    have hc : Unicode.isBlank c = true := hw c (List.mem_cons_self ..)
    refine endsBefore_cons (isNameChar_of_isBlank hc) fun hmem => ?_
    rw [hothers c hmem] at hc
    cases hc

/-- What a path begins with is neither white space nor a digit. -/
theorem exists_cons_of_areSteps {xs : List Step} (h : AreSteps t xs) :
    ∃ c s, t = c :: s ∧ Unicode.isBlank c = false ∧ isDigit c = false := by
  have htest {t : List Char} {x : Test} (h : IsTest t x) :
      ∃ c s, t = c :: s ∧ Unicode.isBlank c = false ∧ isDigit c = false := by
    cases h with
    | here => exact ⟨_, _, rfl, by decide +kernel, by decide⟩
    | parent => exact ⟨_, _, rfl, by decide +kernel, by decide⟩
    | anyElement => exact ⟨_, _, rfl, by decide +kernel, by decide⟩
    | text => exact ⟨_, _, rfl, by decide +kernel, by decide⟩
    | «attribute» _ => exact ⟨_, _, rfl, by decide +kernel, by decide⟩
    | element hn =>
      obtain ⟨c, s, rfl, hc⟩ := exists_cons_of_isName hn
      refine ⟨c, s, rfl, Bool.eq_false_iff.mpr fun hblank => ?_, Bool.eq_false_iff.mpr fun hdigit => ?_⟩
      · have hchar : isNameChar c = true := by
          rcases isNameStart_iff.mp hc with h | h
          · exact isNameChar_iff.mpr (.inl (by simp [Unicode.isAlphanumeric, h]))
          · exact isNameChar_iff.mpr (.inr (.inl h))
        rw [isNameChar_of_isBlank hblank] at hchar
        cases hchar
      · rw [not_isNameStart_of_isDigit hdigit] at hc
        cases hc
  have hstep {t : List Char} {x : Step} (h : IsStep t x) :
      ∃ c s, t = c :: s ∧ Unicode.isBlank c = false ∧ isDigit c = false := by
    cases h with
    | mk h _ =>
      obtain ⟨c, s, rfl, hc⟩ := htest h
      exact ⟨c, _, rfl, hc⟩
  cases h with
  | one h => exact hstep h
  | more h _ =>
    obtain ⟨c, s, rfl, hc⟩ := hstep h
    exact ⟨c, _, rfl, hc⟩

/-- A number has digits. -/
theorem exists_cons_of_digits (digits : ∀ c ∈ t, '0' ≤ c ∧ c ≤ '9') (hmin : 1 ≤ decimal t) :
    ∃ c s, t = c :: s ∧ isDigit c = true := by
  cases t with
  | nil => exact absurd hmin (by decide)
  | cons c s => exact ⟨c, s, rfl, isDigit_iff.mpr (digits c (List.mem_cons_self ..))⟩

/-- What the inside of a predicate begins with is not white space. -/
theorem exists_cons_of_isBody {p : Predicate} (h : IsBody t p) : ∃ c s, t = c :: s ∧ Unicode.isBlank c = false := by
  cases h with
  | position digits hmin _ =>
    obtain ⟨c, s, rfl, hc⟩ := exists_cons_of_digits digits hmin
    exact ⟨c, s, rfl, not_isBlank_of_isDigit hc⟩
  | «exists» h =>
    obtain ⟨c, s, rfl, hc, -⟩ := exists_cons_of_areSteps h
    exact ⟨c, s, rfl, hc⟩
  | compare h _ _ =>
    obtain ⟨c, s, rfl, hc, -⟩ := exists_cons_of_areSteps h
    exact ⟨c, _, rfl, hc⟩

/-- A text that denotes something is read as that by readers that may go `fuel` steps deep, if that is enough
for the length of the text. -/
structure Complete (fuel : Nat) : Prop where
  path : ∀ {t xs}, AreSteps t xs → 5 * t.length + 3 ≤ fuel → ∀ {rest}, PathEnd rest →
    path fuel (t ++ rest) = .ok (⟨.ofList t, xs⟩, rest)
  noStep : 1 ≤ fuel → ∀ {rest}, PathEnd rest → stepsAfter fuel rest = .ok ([], rest)
  stepsAfter : ∀ {t xs}, AreSteps t xs → 5 * (t.length + 1) + 1 ≤ fuel → ∀ {rest}, PathEnd rest →
    stepsAfter fuel ('/' :: (t ++ rest)) = .ok (xs, rest)
  step : ∀ {t x}, IsStep t x → 5 * t.length + 2 ≤ fuel → ∀ {rest}, StepEnd rest →
    step fuel (t ++ rest) = .ok (x, rest)
  predicates : ∀ {t ps}, ArePredicates t ps → 5 * t.length + 1 ≤ fuel → ∀ {rest}, StepEnd rest →
    predicates fuel (t ++ rest) = .ok (ps, rest)
  predicate : ∀ {t p}, IsBody t p → 5 * t.length + 4 ≤ fuel → ∀ {w}, Blank w → ∀ rest,
    ∃ left, predicate fuel (t ++ w ++ ']' :: rest) = .ok (p, left) ∧ skipBlank left = ']' :: rest

/-- A path is read as its first step and the steps after that. -/
theorem exists_first_step {fuel : Nat} (h : Complete fuel) {xs : List Step} (hxs : AreSteps t xs)
    (hfuel : 5 * t.length + 2 ≤ fuel) (hrest : PathEnd rest) :
    ∃ x more left, xs = x :: more ∧ step fuel (t ++ rest) = .ok (x, left) ∧
      stepsAfter fuel left = .ok (more, rest) := by
  cases hxs with
  | @one _ x hx => exact ⟨x, [], rest, rfl, h.step hx hfuel (hrest.mono (by simp)), h.noStep (by omega) hrest⟩
  | @more s u x more hx hmore =>
    have hlength : (s ++ '/' :: u).length = s.length + (u.length + 1) := by simp
    have hslash : StepEnd ('/' :: (u ++ rest)) :=
      endsBefore_cons (isNameChar_punctuation _ (by simp)).1 (by simp)
    refine ⟨x, more, '/' :: (u ++ rest), rfl, ?_, h.stepsAfter hmore (by omega) hrest⟩
    rw [List.append_assoc, List.cons_append]
    exact h.step hx (by omega) hslash

theorem complete_path {fuel : Nat} (h : Complete fuel) {xs : List Step} (hxs : AreSteps t xs)
    (hfuel : 5 * t.length + 3 ≤ fuel + 1) (hrest : PathEnd rest) :
    path (fuel + 1) (t ++ rest) = .ok (⟨.ofList t, xs⟩, rest) := by
  obtain ⟨x, more, left, rfl, hstep, hmore⟩ := exists_first_step h hxs (by omega) hrest
  rw [path, hstep]
  show (stepsAfter fuel left >>= _) = _
  rw [hmore, ← consumed_append t rest]
  rfl

theorem complete_noStep {fuel : Nat} (hrest : PathEnd rest) : stepsAfter (fuel + 1) rest = .ok ([], rest) := by
  rw [stepsAfter]
  · rfl
  · rintro s rfl
    exact (hrest '/' rfl).2 (by simp)

theorem complete_stepsAfter {fuel : Nat} (h : Complete fuel) {xs : List Step} (hxs : AreSteps t xs)
    (hfuel : 5 * (t.length + 1) + 1 ≤ fuel + 1) (hrest : PathEnd rest) :
    stepsAfter (fuel + 1) ('/' :: (t ++ rest)) = .ok (xs, rest) := by
  obtain ⟨x, more, left, rfl, hstep, hmore⟩ := exists_first_step h hxs (by omega) hrest
  rw [stepsAfter, hstep]
  show (stepsAfter fuel left >>= _) = _
  rw [hmore]
  rfl

theorem testEnd_of_arePredicates {ps : List Predicate} (h : ArePredicates t ps) (hrest : StepEnd rest) :
    TestEnd (t ++ rest) := by
  cases h with
  | nil => exact hrest.mono (by simp)
  | cons => exact endsBefore_cons (isNameChar_punctuation _ (by simp)).1 (by simp)

theorem complete_step {fuel : Nat} (h : Complete fuel) {x : Step} (hx : IsStep t x)
    (hfuel : 5 * t.length + 2 ≤ fuel + 1) (hrest : StepEnd rest) : step (fuel + 1) (t ++ rest) = .ok (x, rest) := by
  cases hx with
  | @mk s u y ps hy hps =>
    have hlength : (s ++ u).length = s.length + u.length := List.length_append
    have htest : test (s ++ u ++ rest) = .ok (y, u ++ rest) := by
      rw [List.append_assoc]
      exact test_complete hy (testEnd_of_arePredicates hps hrest)
    rw [step, htest]
    show (predicates fuel (u ++ rest) >>= _) = _
    rw [h.predicates hps (by omega) hrest, ← consumed_append (s ++ u) rest]
    rfl

theorem complete_predicates {fuel : Nat} (h : Complete fuel) {ps : List Predicate} (hps : ArePredicates t ps)
    (hfuel : 5 * t.length + 1 ≤ fuel + 1) (hrest : StepEnd rest) :
    predicates (fuel + 1) (t ++ rest) = .ok (ps, rest) := by
  cases hps with
  | nil =>
    rw [List.nil_append, predicates]
    · rfl
    · rintro s rfl
      exact (hrest '[' rfl).2 (by simp)
  | @cons s u v w p ps hv hbody hw hmore =>
    have hlength : ('[' :: (v ++ s ++ w ++ ']' :: u)).length = v.length + s.length + w.length + u.length + 2 := by
      simp
      omega
    have htext : '[' :: (v ++ s ++ w ++ ']' :: u) ++ rest = '[' :: (v ++ (s ++ w ++ ']' :: (u ++ rest))) := by simp
    have hskip : skipBlank (v ++ (s ++ w ++ ']' :: (u ++ rest))) = s ++ w ++ ']' :: (u ++ rest) := by
      obtain ⟨c, s', rfl, hc⟩ := exists_cons_of_isBody hbody
      exact skipBlank_append hv hc _
    obtain ⟨left, hp, hleft⟩ := h.predicate hbody (by omega) hw (u ++ rest)
    rw [htext, predicates, hskip, hp]
    show (closeBracket (skipBlank left) >>= _) = _
    rw [hleft]
    show (predicates fuel (u ++ rest) >>= _) = _
    rw [h.predicates hmore (by omega) hrest]
    rfl

/-- After white space, a bracket closes. -/
theorem skipBlank_bracket {w : List Char} (hw : Blank w) (rest : List Char) :
    skipBlank (w ++ ']' :: rest) = ']' :: rest :=
  skipBlank_append hw (isNameChar_punctuation _ (by simp)).2 rest

theorem pathEnd_of_isComparison {p : Path} {x : Predicate} (h : IsComparison p t x) : PathEnd (t ++ rest) := by
  cases h with
  | equals _ _ => exact endsBefore_cons (isNameChar_punctuation _ (by simp)).1 (by simp)
  | differs _ _ => exact endsBefore_cons (isNameChar_punctuation _ (by simp)).1 (by simp)

theorem complete_predicate {fuel : Nat} (h : Complete fuel) {p : Predicate} (hp : IsBody t p)
    (hfuel : 5 * t.length + 4 ≤ fuel + 1) {w : List Char} (hw : Blank w) (rest : List Char) :
    ∃ left, predicate (fuel + 1) (t ++ w ++ ']' :: rest) = .ok (p, left) ∧ skipBlank left = ']' :: rest := by
  have hothers : ∀ c ∈ [':', '(', '[', '/'], Unicode.isBlank c = false := fun c hc =>
    (isNameChar_punctuation c (by simp at hc ⊢; tauto)).2
  -- A path does not begin with a digit, so the choice between a position and a path is made by the first character.
  have hpath {s : List Char} {xs : List Step} (hs : AreSteps s xs) (after : List Char) :
      predicate (fuel + 1) (s ++ after) = (path fuel (s ++ after)).bind fun r => comparison r.1 r.2 := by
    obtain ⟨c, s', rfl, -, hc⟩ := exists_cons_of_areSteps hs
    rw [predicate, if_neg (by simp [hc])]
    rfl
  cases hp with
  | position digits hmin hmax =>
    refine ⟨w ++ ']' :: rest, ?_, skipBlank_bracket hw rest⟩
    -- Digits are read as far as they go: white space and a bracket are none.
    have hend : ∀ c ∈ (w ++ ']' :: rest).head?, isDigit c = false := by
      cases w with
      | nil => simp [isDigit]
      | cons d w =>
        intro c hc
        obtain rfl : d = c := by simpa using hc
        have hblank : Unicode.isBlank d = true := hw d (List.mem_cons_self ..)
        refine Bool.eq_false_iff.mpr fun hdigit => ?_
        rw [not_isBlank_of_isDigit hdigit] at hblank
        cases hblank
    have hhead : (t ++ (w ++ ']' :: rest)).head?.any isDigit = true := by
      obtain ⟨c, s, rfl, hc⟩ := exists_cons_of_digits digits hmin
      exact hc
    rw [List.append_assoc, predicate, if_pos hhead]
    exact position_complete digits hmin hmax hend
  | @«exists» _ xs hxs =>
    have hend : PathEnd (w ++ ']' :: rest) :=
      endsBefore_blank hw (endsBefore_cons (isNameChar_punctuation _ (by simp)).1 (by simp)) hothers
    refine ⟨']' :: rest, ?_, skipBlank_bracket (w := []) blank_nil rest⟩
    rw [List.append_assoc, hpath hxs, h.path hxs (by omega) hend]
    show comparison _ (w ++ ']' :: rest) = _
    rw [comparison, skipBlank_bracket hw]
    rfl
  | @compare s u v xs _ hxs hv hu =>
    have hend : PathEnd (v ++ (u ++ (w ++ ']' :: rest))) := endsBefore_blank hv (pathEnd_of_isComparison hu) hothers
    have htext : s ++ v ++ u ++ w ++ ']' :: rest = s ++ (v ++ (u ++ (w ++ ']' :: rest))) := by simp
    have hlength : (s ++ v ++ u).length = s.length + v.length + u.length := by
      rw [List.length_append, List.length_append]
    refine ⟨w ++ ']' :: rest, ?_, skipBlank_bracket hw rest⟩
    rw [htext, hpath hxs, h.path hxs (by omega) hend]
    show comparison _ (v ++ (u ++ (w ++ ']' :: rest))) = _
    rw [← List.append_assoc]
    exact comparison_complete hu hv _

/-- **What is denoted is read**, however deep it is nested. -/
theorem complete (fuel : Nat) : Complete fuel := by
  induction fuel with
  | zero =>
    constructor
    all_goals intros; omega
  | succ fuel ih =>
    constructor
    · exact fun hxs hfuel _ hrest => complete_path ih hxs hfuel hrest
    · exact fun _ _ hrest => complete_noStep hrest
    · exact fun hxs hfuel _ hrest => complete_stepsAfter ih hxs hfuel hrest
    · exact fun hx hfuel _ hrest => complete_step ih hx hfuel hrest
    · exact fun hps hfuel _ hrest => complete_predicates ih hps hfuel hrest
    · exact fun hp hfuel _ hw rest => complete_predicate ih hp hfuel hw rest

end Complete

/-! ## 2. Whole texts

A text that is read as a whole leaves nothing, so what it denotes is what all of it denotes.  In one direction this is
soundness with nothing left, in the other completeness with nothing behind. -/

/-- Nothing is left of a text that has been read as a whole. -/
theorem atEnd_inv {s rest : List Char} {u : Unit} (h : atEnd s = .ok (u, rest)) : s = [] ∧ rest = [] := by
  rw [atEnd.eq_def] at h
  split at h
  · cases h
    exact ⟨rfl, rfl⟩
  · cases h
  · cases h

theorem whole_iff_denotes {text : String} {p : Path} :
    (∃ rest, whole text.toList = .ok (p, rest)) ↔ Denotes text p := by
  constructor
  · rintro ⟨rest, h⟩
    obtain ⟨⟨q, rest'⟩, hpath, h⟩ := bind_ok.mp h
    obtain ⟨⟨u, rest''⟩, hend, h⟩ := bind_ok.mp h
    cases h
    obtain ⟨rfl, rfl⟩ := atEnd_inv hend
    rw [pathOrEmpty] at hpath
    split at hpath
    · rename_i hempty
      obtain rfl : text = "" := by simpa using hempty
      obtain rfl : ⟨"", []⟩ = p := congrArg Prod.fst (Except.ok.inj hpath)
      exact .empty
    · obtain ⟨t, xs, htext, hxs, rfl⟩ := (sound _).path hpath
      rw [List.append_nil] at htext
      rw [← htext, String.ofList_toList]
      exact .steps (htext ▸ hxs)
  · intro h
    refine ⟨[], ?_⟩
    cases h with
    | empty => rfl
    | @steps _ xs hxs =>
      have hne : text.toList.isEmpty = false := by
        obtain ⟨c, s, hs, -⟩ := exists_cons_of_areSteps hxs
        rw [hs]
        rfl
      have hend : PathEnd [] := fun _ hc => by cases hc
      have hpath := (complete (boundFor text.toList)).path hxs (by simp [boundFor]) hend
      rw [List.append_nil, String.ofList_toList] at hpath
      rw [whole, pathOrEmpty, if_neg (by simp [hne]), hpath]
      rfl

end Readers

/-- The parser reads a text as a path exactly if the text denotes it. -/
theorem Parser.run_iff_denotes {text : String} {p : Path} : run text = .ok p ↔ Grammar.Denotes text p :=
  run_eq_ok_iff.trans Readers.whole_iff_denotes

open Grammar

theorem parse_eq_ok_iff {text : String} {p : Path} : Path.parse text = .ok p ↔ Denotes text p :=
  mapError_ok.trans Parser.run_iff_denotes

/-- **A text is read as a path exactly if it denotes one, and as that one**; no text denotes two paths, and a
text that denotes none is a malformed path. -/
theorem parse_iff_denotes (text : String) :
    (∀ p, Path.parse text = .ok p ↔ Denotes text p) ∧
    (∀ p p', Denotes text p → Denotes text p' → p = p') ∧
    ((∀ p, ¬ Denotes text p) →
      ∃ position fault, Path.parse text = .error (.malformedPath text position fault)) := by
  refine ⟨fun _ => parse_eq_ok_iff, fun p p' hp hp' => ?_, fun hnone => ?_⟩
  · exact Except.ok.inj ((parse_eq_ok_iff.mpr hp).symm.trans (parse_eq_ok_iff.mpr hp'))
  · rcases Parser.run_cases text with ⟨p, rest, hrun, -⟩ | ⟨fault, before, left, -, -, hrun, -⟩
    · exact absurd (Parser.run_iff_denotes.mp hrun) (hnone p)
    · exact ⟨byteLength before, fault, by rw [Path.parse, hrun]; rfl⟩

end Regraft.Path
