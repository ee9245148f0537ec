import Regraft.Proofs.ClosedClasses
/-!
# A parenthesis behind a pattern

A pattern is compiled as the text `^(?:` with the pattern and a parenthesis behind it.  The mutual recursion that reads
alternatives, parts and groups reads the same from both texts (`PartsAgree`, by induction on the steps allowed), and no
more steps change that (`steady`).  So the text is the pattern, bound to the start, where it ends neither before a
parenthesis that it has not opened nor in a comment, and where two more levels make no difference to the limits
(`Enclosable`, `whole_bound_iff`).  Where either fails, the pasted text can be an expression though the pattern is none,
or the other way round; but if both are, they still go together (`bound_of_whole`).
-/

namespace Regraft.Pattern.Parser

section

variable {s t : State}

/-! ## 1. Single characters and groups

A group begins with a parenthesis and what may follow it: a question mark with flags, a name, or neither.  The equation
`opening_eq` tells these by what stands first, since the patterns in the reader overlap.  Of all readers, only that of
single characters can leave something stray (`alike_primitive`): `\b` before a brace that the pattern does not close. -/

/-- A character or condition that the text alone has no end for is a boundary before a brace. -/
theorem alike_primitive (h : Closed s t) :
    Alike (fun _ t => Loose t) (s.left.length - 1) (t.left.length - 1) (primitive s) (primitive t) := by
  cases h.sight with
  | @char c rest rest' flags groups names hrest =>
    unfold primitive
    dsimp only
    split
    case h_1 =>
      refine ((alike_escape hrest).bind (fun e s t h _ _ => ?_) fun e t h ht => ?_).mono
        (Nat.sub_le _ _) (Nat.sub_le _ _)
      · have hflags := h.flags
        cases e with
        | char c =>
          dsimp only
          rw [hflags]
          exact .read h le_rfl le_rfl
        | byte c =>
          dsimp only
          rw [hflags]
          exact .ite Iff.rfl (.read h le_rfl le_rfl) .neither
        | classOf set =>
          dsimp only
          rw [hflags]
          exact .read h le_rfl le_rfl
        | look l => exact .read h le_rfl le_rfl
      · obtain ⟨hloose, l, rfl⟩ := h
        exact .stray hloose ht
    case h_2 => exact .given fun set _ => .read hrest le_rfl le_rfl
    all_goals exact .read hrest le_rfl le_rfl
  | last => exact .taken rfl
  | spent => exact .neither

/-- The name of a group ends with a bracket, and the parenthesis is no part of it. -/
theorem agree_groupName (h : Closed s t) : Agree s.left.length t.left.length (groupName s) (groupName t) := by
  cases h with
  | behind left flags groups names =>
    unfold groupName
    dsimp only
    by_cases hrun : left.dropWhile (· != '>') = []
    · rw [hrun, (run_append_of_nil hrun _).2]
      cases left.takeWhile (· != '>') <;> cases (left ++ [')']).takeWhile (· != '>') <;> exact .neither
    · have hlength := (List.dropWhile_suffix (· != '>') (l := left)).length_le
      rw [(run_append_of_ne hrun _).1, (run_append_of_ne hrun _).2]
      generalize left.takeWhile (· != '>') = name
      obtain ⟨d, after, hafter⟩ := List.exists_cons_of_ne_nil hrun
      rw [hafter] at hlength ⊢
      cases name with
      | nil => exact .neither
      | cons c rest =>
        refine .ite Iff.rfl (.read (.behind after flags groups _) ?_ ?_) .neither
        · exact (Nat.le_succ _).trans hlength
        · simpa using (Nat.le_succ _).trans hlength
  | spent => exact .neither

/-- Reads flags, up to what shows whether a group follows. -/
def flagsOpening : Reader Opening := fun st =>
  st.flags.setAll (st.left.takeWhile fun c => c != ':' && c != ')') >>= fun flags =>
    match st.left.dropWhile fun c => c != ':' && c != ')' with
    | c :: after =>
      if c = ':' then some (.plain, { st with left := after, flags })
      else if (st.left.takeWhile fun c => c != ':' && c != ')').isEmpty then none
      else some (.flags, { st with left := after, flags })
    | [] => none

/-- Reads the name of a group that is remembered. -/
def namedOpening : Reader Opening := fun st =>
  groupName { st with groups := st.groups + 1 } >>= fun r => some (.capture (st.groups + 1), r.2)

/-- Reads how a group begins after a question mark. -/
def markedOpening : Reader Opening := fun st =>
  if st.left.head? = some '=' ∨ st.left.head? = some '!' then none
  else if st.left.head? = some '<' then
    if st.left.tail.head? = some '=' ∨ st.left.tail.head? = some '!' then none
    else namedOpening { st with left := st.left.tail }
  else if st.left.head? = some 'P' ∧ st.left.tail.head? = some '<' then
    namedOpening { st with left := st.left.tail.tail }
  else flagsOpening st

theorem opening_eq (s : State) :
    opening s =
      if s.skipSpace.left.head? = some '?' then markedOpening { s.skipSpace with left := s.skipSpace.left.tail }
      else some (.capture (s.skipSpace.groups + 1), { s.skipSpace with groups := s.skipSpace.groups + 1 }) := by
  unfold opening
  dsimp only
  generalize s.skipSpace = s
  obtain ⟨left, flags, groups, names⟩ := s
  dsimp only
  split
  case h_8 hne => rw [if_neg (head?_ne hne)]
  case h_7 rest hequals hbang _ _ hnamed hangle =>
    show _ = markedOpening ⟨rest, flags, groups, names⟩
    rw [markedOpening, if_neg (not_or.mpr ⟨head?_ne hequals, head?_ne hbang⟩), if_neg (head?_ne hangle), if_neg]
    · refine congrArg _ (funext fun flags' => ?_)
      dsimp only
      split
      case h_1 heq =>
        rw [heq]
        rfl
      case h_2 hne heq =>
        rw [heq]
        exact (if_neg hne).symm
      case h_3 heq => rw [heq]
    · rintro ⟨hp, hmark⟩
      obtain ⟨rest, rfl⟩ := List.head?_eq_some_iff.mp hp
      exact head?_ne (fun tail htail => hnamed tail (congrArg ('P' :: ·) htail)) hmark
  case h_6 rest hequals hbang =>
    show _ = if rest.head? = some '=' ∨ rest.head? = some '!' then none else namedOpening ⟨rest, flags, groups, names⟩
    rw [if_neg (not_or.mpr ⟨head?_ne hequals, head?_ne hbang⟩)]
    rfl
  all_goals rfl

theorem agree_flagsOpening (h : Closed s t) :
    Agree s.left.length t.left.length (flagsOpening s) (flagsOpening t) := by
  cases h with
  | behind left flags groups names =>
    unfold flagsOpening
    dsimp only
    by_cases hrun : (left.dropWhile fun c => c != ':' && c != ')') = []
    · have hall := (run_append_of_nil hrun []).1
      have hall' := (run_append_of_nil hrun [')']).1
      rw [List.takeWhile_nil, List.append_nil] at hall
      rw [show ([')'].takeWhile fun c => c != ':' && c != ')') = [] from by decide, List.append_nil] at hall'
      rw [hrun, hall, hall', (run_append_of_nil hrun [')']).2]
      refine .given fun flags' _ => ?_
      show Agree _ _ none (if left.isEmpty then none else some _)
      split
      · exact .neither
      · exact .taken rfl
    · have hlength := (List.dropWhile_suffix (fun c => c != ':' && c != ')') (l := left)).length_le
      rw [(run_append_of_ne hrun _).1, (run_append_of_ne hrun _).2]
      refine .given fun flags' _ => ?_
      obtain ⟨d, after, hafter⟩ := List.exists_cons_of_ne_nil hrun
      rw [hafter] at hlength ⊢
      have hread : ∀ o : Opening, Agree left.length (left ++ [')']).length
          (some (o, (⟨after, flags', groups, names⟩ : State))) (some (o, ⟨after ++ [')'], flags', groups, names⟩)) := by
        refine fun o => .read (.behind after flags' groups names) ?_ ?_
        · exact (Nat.le_succ _).trans hlength
        · simpa using (Nat.le_succ _).trans hlength
      exact .ite Iff.rfl (hread .plain) (.ite Iff.rfl .neither (hread .flags))
  | spent flags groups names =>
    refine .given fun flags' _ => .neither

theorem agree_namedOpening (h : Closed s t) :
    Agree s.left.length t.left.length (namedOpening s) (namedOpening t) := by
  rw [namedOpening, namedOpening, h.eq_left]
  refine (agree_groupName (h.with s.flags (s.groups + 1) s.names)).andThen fun name s t h _ _ => ?_
  exact .read h le_rfl le_rfl

theorem agree_markedOpening (h : Closed s t) :
    Agree s.left.length t.left.length (markedOpening s) (markedOpening t) := by
  have htail := h.tail.tail
  have hle : ∀ l : List Char, l.tail.length ≤ l.length := fun l => (List.tail_sublist l).length_le
  refine .ite (or_congr (h.head?_iff (by decide)) (h.head?_iff (by decide))) .neither
    (.ite (h.head?_iff (by decide)) ?_ (.ite ?_ ?_ (agree_flagsOpening h)))
  · refine .ite (or_congr (h.tail.head?_iff (by decide)) (h.tail.head?_iff (by decide))) .neither ?_
    exact (agree_namedOpening h.tail).mono (hle _) (hle _)
  · exact and_congr (h.head?_iff (by decide)) (h.tail.head?_iff (by decide))
  · exact (agree_namedOpening h.tail.tail).mono ((hle _).trans (hle _)) ((hle _).trans (hle _))

/-- How a group begins is read alike. -/
theorem agree_opening (h : Closed s t) : Agree s.left.length t.left.length (opening s) (opening t) := by
  rw [opening_eq, opening_eq]
  have hskip := h.skipSpace
  refine (Alike.ite (hskip.head?_iff (by decide)) ?_ ?_).mono (length_skipSpace_le s) (length_skipSpace_le t)
  · refine (agree_markedOpening hskip.tail).mono ?_ ?_
    · exact (List.tail_sublist _).length_le
    · exact (List.tail_sublist _).length_le
  · rw [hskip.eq_left]
    exact .read (hskip.with _ _ _) le_rfl le_rfl

/-! ## 2. Expressions

Reading an expression is one step for each of its parts, told by the character that it begins with (`startOf`).  The
readers call each other in a circle, so that there are numbers of steps to count: three for every character, and one to
three more depending on where in the circle one begins.  `PartsAgree n` is the comparison for `n` steps, and each reader
is one lemma under the hypothesis that it holds for one step less. -/

/-- What a character begins inside an expression. -/
inductive Start where
  | nothing
  | group
  | classOf
  | repetition
  | single

/-- What a character begins. -/
def startOf (c : Char) : Start :=
  match c with
  | ')' | '|' => .nothing
  | '(' => .group
  | '[' => .classOf
  | '?' | '*' | '+' | '\x7b' => .repetition
  | _ => .single

theorem parts_nil (n : Nat) (before : List Part) (h : s.skipSpace.left = []) :
    parts (n + 1) before s = some (sequence before, s.skipSpace) := by
  unfold parts
  dsimp only
  rw [h]
  rfl

/-- What the first character begins decides how parts are read. -/
theorem parts_cons (n : Nat) (before : List Part) {c : Char} {rest : List Char} {flags : Flags} {groups : Nat}
    {names : List String} (h : s.skipSpace = ⟨c :: rest, flags, groups, names⟩) :
    parts (n + 1) before s =
      match startOf c with
      | .nothing => some (sequence before, ⟨c :: rest, flags, groups, names⟩)
      | .group => group n ⟨rest, flags, groups, names⟩ >>= fun r => parts n (r.1 :: before) r.2
      | .classOf => bracketed (2 * rest.length + 4) ⟨rest, flags, groups, names⟩ >>= fun r =>
          parts n ({ charPart r.2.flags r.1.set with depth := r.1.depth } :: before) r.2
      | .repetition => repetition before ⟨c :: rest, flags, groups, names⟩ >>= fun r => parts n r.1 r.2
      | .single => primitive ⟨c :: rest, flags, groups, names⟩ >>= fun r => parts n (r.1 :: before) r.2 := by
  rw [parts.eq_def]
  dsimp only
  rw [h]
  dsimp only
  split
  case h_1 heq => cases heq
  case h_10 hparen hbar hopen hclass hmark hstar hplus hbrace =>
    have hsingle : startOf c = .single := by
      unfold startOf
      split
      · exact (hparen rest rfl).elim
      · exact (hbar rest rfl).elim
      · exact (hopen rest rfl).elim
      · exact (hclass rest rfl).elim
      · exact (hmark rest rfl).elim
      · exact (hstar rest rfl).elim
      · exact (hplus rest rfl).elim
      · exact (hbrace rest rfl).elim
      · rfl
    rw [hsingle]
  all_goals
    rename_i heq
    cases heq
    rfl

/-- What is behind a loose brace is not read. -/
theorem parts_of_loose (n : Nat) (p : Part) (before : List Part) (h : Loose t) : parts n (p :: before) t = none := by
  cases n with
  | zero => rfl
  | succ n =>
    obtain ⟨left, flags, groups, names⟩ := t
    obtain ⟨rest, rfl⟩ := List.head?_eq_some_iff.mp h.1
    have hspace : State.skipSpace ⟨'\x7b' :: rest, flags, groups, names⟩ = ⟨'\x7b' :: rest, flags, groups, names⟩ := by
      rw [State.skipSpace]
      split <;> rfl
    rw [parts_cons n _ hspace]
    show repetition (p :: before) _ >>= _ = none
    rw [repetition_of_loose h]
    rfl

/-- A group ends with a parenthesis of its own, or with the one behind the text. -/
theorem agree_close (flags : Flags) (index : Option Nat) (p : Part) (h : Closed s t) :
    Agree s.left.length t.left.length (group.close flags index p s) (group.close flags index p t) := by
  cases h.sight with
  | @char c rest rest' _ _ _ hrest =>
    by_cases hc : c = ')'
    · subst hc
      exact .read (hrest.with _ _ _) (Nat.le_succ _) (Nat.le_succ _)
    · have hne : ∀ (rest : List Char) {flags' groups names},
          group.close flags index p ⟨c :: rest, flags', groups, names⟩ = none := fun rest _ _ _ => by
        rw [group.close]
        split
        · exact absurd (List.cons.inj ‹_›).1 hc
        · rfl
      rw [hne, hne]
      exact .neither
  | last => exact .taken rfl
  | spent => exact .neither

theorem furtherAlternatives_succ (n : Nat) (s : State) :
    furtherAlternatives (n + 1) s =
      if s.left.head? = some '|' then parts n [] { s with left := s.left.tail } >>= fun r =>
        furtherAlternatives n r.2 >>= fun q => some (r.1 :: q.1, q.2)
      else some ([], s) := by
  rw [furtherAlternatives.eq_def]
  dsimp only
  split
  · rename_i hbar
    rw [hbar]
    rfl
  · rename_i hne
    rw [if_neg (head?_ne hne)]

/-- The readers of expressions, with enough steps. -/
structure PartsAgree (n : Nat) : Prop where
  alternatives : ∀ {m s t}, Closed s t → 3 * s.left.length + 2 ≤ n → 3 * t.left.length + 2 ≤ m →
    Agree s.left.length t.left.length (alternatives n s) (alternatives m t)
  further : ∀ {m s t}, Closed s t → 3 * s.left.length + 1 ≤ n → 3 * t.left.length + 1 ≤ m →
    Agree s.left.length t.left.length (furtherAlternatives n s) (furtherAlternatives m t)
  parts : ∀ {m s t} (before : List Part), Closed s t → 3 * s.left.length + 1 ≤ n → 3 * t.left.length + 1 ≤ m →
    Agree s.left.length t.left.length (parts n before s) (parts m before t)
  group : ∀ {m s t}, Closed s t → 3 * s.left.length + 3 ≤ n → 3 * t.left.length + 3 ≤ m →
    Agree s.left.length t.left.length (group n s) (group m t)

namespace PartsAgree

variable {n m : Nat}

theorem alternatives_succ (ih : PartsAgree n) (h : Closed s t) (hn : 3 * s.left.length + 2 ≤ n + 1)
    (hm : 3 * t.left.length + 2 ≤ m) :
    Agree s.left.length t.left.length (Parser.alternatives (n + 1) s) (Parser.alternatives m t) := by
  obtain ⟨m, rfl⟩ : ∃ k, m = k + 1 := ⟨m - 1, by omega⟩
  rw [Parser.alternatives, Parser.alternatives]
  refine (ih.parts [] h (by omega) (by omega)).andThen fun first s t h hs ht => ?_
  refine (ih.further h (by omega) (by omega)).andThen fun more s t h _ _ => .read h le_rfl le_rfl

theorem further_succ (ih : PartsAgree n) (h : Closed s t) (hn : 3 * s.left.length + 1 ≤ n + 1)
    (hm : 3 * t.left.length + 1 ≤ m) :
    Agree s.left.length t.left.length (furtherAlternatives (n + 1) s) (furtherAlternatives m t) := by
  obtain ⟨m, rfl⟩ : ∃ k, m = k + 1 := ⟨m - 1, by omega⟩
  rw [furtherAlternatives_succ, furtherAlternatives_succ]
  cases h.sight with
  | @char c rest rest' flags groups names hrest =>
    rw [List.length_cons] at hn hm
    refine .ite Iff.rfl ?_ (.read h le_rfl le_rfl)
    refine ((ih.parts [] hrest (by dsimp only; omega) (by dsimp only; omega)).andThen fun next s t h hs ht => ?_).mono
      (Nat.le_succ _) (Nat.le_succ _)
    dsimp only at hs ht
    exact (ih.further h (by omega) (by omega)).andThen fun more s t h _ _ => .read h le_rfl le_rfl
  | last => exact .read h le_rfl le_rfl
  | spent => exact .read h le_rfl le_rfl

theorem parts_succ (ih : PartsAgree n) (before : List Part) (h : Closed s t) (hn : 3 * s.left.length + 1 ≤ n + 1)
    (hm : 3 * t.left.length + 1 ≤ m) :
    Agree s.left.length t.left.length (Parser.parts (n + 1) before s) (Parser.parts m before t) := by
  obtain ⟨m, rfl⟩ : ∃ k, m = k + 1 := ⟨m - 1, by omega⟩
  have hskip := h.skipSpace
  have hle := length_skipSpace_le s
  have hle' := length_skipSpace_le t
  generalize hs : s.skipSpace = s' at *
  generalize ht : t.skipSpace = t' at *
  cases hskip.sight with
  | @char c rest rest' flags groups names hrest =>
    rw [List.length_cons] at hle hle'
    rw [parts_cons _ _ hs, parts_cons _ _ ht]
    -- Each kind of part is read alike in both; then the induction goes on with what is left, which is shorter.
    refine Alike.mono ?_ hle hle'
    cases startOf c with
    | nothing => exact .read hskip le_rfl le_rfl
    | group =>
      refine ((ih.group hrest (by dsimp only; omega) (by dsimp only; omega)).andThen fun p s t h hs ht => ?_).mono
        (Nat.le_succ _) (Nat.le_succ _)
      dsimp only at hs ht
      exact ih.parts _ h (by omega) (by omega)
    | classOf =>
      refine (((classesAgree _).bracketed hrest (by dsimp only; omega) (by dsimp only; omega)).andThen
        fun c s t h hs ht => ?_).mono (Nat.le_succ _) (Nat.le_succ _)
      dsimp only at hs ht ⊢
      rw [h.flags]
      exact ih.parts _ h (by omega) (by omega)
    | repetition =>
      refine ((agree_repetition before hrest).andThen fun before s t h hs ht => ?_).mono (Nat.le_succ _) (Nat.le_succ _)
      exact ih.parts _ h (by omega) (by omega)
    | single =>
      refine ((alike_primitive hskip).bind (fun p s t h hs ht => ?_) fun p t hloose _ => ?_).mono
        (Nat.le_succ _) (Nat.le_succ _)
      · simp only [List.length_cons, Nat.add_sub_cancel] at hs ht
        exact ih.parts _ h (by omega) (by omega)
      · dsimp only
        rw [parts_of_loose m p before hloose]
        exact .neither
  | last flags groups names =>
    rw [parts_nil _ _ (by rw [hs]), parts_cons _ _ ht, hs]
    exact .read hskip hle hle'
  | spent =>
    rw [parts_nil _ _ (by rw [hs]), parts_nil _ _ (by rw [ht]), hs, ht]
    exact .read hskip hle hle'

theorem group_succ (ih : PartsAgree n) (h : Closed s t) (hn : 3 * s.left.length + 3 ≤ n + 1)
    (hm : 3 * t.left.length + 3 ≤ m) :
    Agree s.left.length t.left.length (Parser.group (n + 1) s) (Parser.group m t) := by
  obtain ⟨m, rfl⟩ : ∃ k, m = k + 1 := ⟨m - 1, by omega⟩
  rw [Parser.group, Parser.group]
  refine (agree_opening h).andThen fun how s' t' h' hs ht => ?_
  have hclose : ∀ index, Agree s'.left.length t'.left.length
      (Parser.alternatives n s' >>= fun r => group.close s.flags index r.1 r.2)
      (Parser.alternatives m t' >>= fun r => group.close s.flags index r.1 r.2) := fun index =>
    (ih.alternatives h' (by omega) (by omega)).andThen fun p _ _ h _ _ => agree_close s.flags index p h
  cases how with
  | flags => exact .read h' le_rfl le_rfl
  | plain =>
    rw [h.flags]
    exact hclose none
  | capture index =>
    rw [h.flags]
    exact hclose (some index)

end PartsAgree

/-- **Expressions are read alike**, by induction on the steps that are allowed. -/
theorem partsAgree (n : Nat) : PartsAgree n := by
  induction n with
  | zero =>
    refine ⟨fun _ hn => ?_, fun _ hn => ?_, fun _ _ hn => ?_, fun _ hn => ?_⟩
    all_goals omega
  | succ n ih => exact ⟨ih.alternatives_succ, ih.further_succ, ih.parts_succ, ih.group_succ⟩

end

/-! ## 3. Patterns in a group

A whole text is read with a number of steps that its length gives, and the text with the mark, the group and the
parenthesis around it has more.  That more steps change nothing where reading has come to a result is `Steady`, by the
same circle of lemmas.  What is left is arithmetic: the parts of the pasted text are the condition and a group, the
group ends with the parenthesis if that is left, and both levels count for the depth. -/

/-- Reads a text from its beginning, as far as it can be read. -/
def readFrom (s : List Char) : Option (Part × State) := alternatives (4 * s.length + 4) ⟨s, .initial, 0, []⟩

/-- What is read alone is read with the parenthesis behind. -/
theorem agree_readFrom (s : List Char) {n : Nat} (hn : 3 * s.length + 5 ≤ n) :
    Agree s.length (s.length + 1) (readFrom s) (alternatives n ⟨s ++ [')'], .initial, 0, []⟩) := by
  have hagree := (partsAgree (4 * s.length + 4)).alternatives (m := n) (.behind s .initial 0 []) (by dsimp only; omega)
    (by rw [List.length_append, List.length_singleton]; omega)
  rwa [List.length_append, List.length_singleton] at hagree

/-- What is read in some steps is read in one more. -/
structure Steady (n : Nat) : Prop where
  alternatives : ∀ {s r}, alternatives n s = some r → alternatives (n + 1) s = some r
  further : ∀ {s r}, furtherAlternatives n s = some r → furtherAlternatives (n + 1) s = some r
  parts : ∀ {before s r}, parts n before s = some r → parts (n + 1) before s = some r
  group : ∀ {s r}, group n s = some r → group (n + 1) s = some r

namespace Steady

variable {n : Nat}

theorem alternatives_succ (ih : Steady n) {s : State} {r : Part × State} (h : Parser.alternatives (n + 1) s = some r) :
    Parser.alternatives (n + 2) s = some r := by
  rw [Parser.alternatives] at h ⊢
  obtain ⟨first, hfirst, h⟩ := Option.bind_eq_some_iff.mp h
  obtain ⟨more, hmore, h⟩ := Option.bind_eq_some_iff.mp h
  exact Option.bind_eq_some_iff.mpr ⟨first, ih.parts hfirst, Option.bind_eq_some_iff.mpr ⟨more, ih.further hmore, h⟩⟩

theorem further_succ (ih : Steady n) {s : State} {r : List Part × State}
    (h : furtherAlternatives (n + 1) s = some r) : furtherAlternatives (n + 2) s = some r := by
  rw [furtherAlternatives_succ] at h ⊢
  split at h
  · rename_i hbar
    rw [if_pos hbar]
    obtain ⟨next, hnext, h⟩ := Option.bind_eq_some_iff.mp h
    obtain ⟨more, hmore, h⟩ := Option.bind_eq_some_iff.mp h
    exact Option.bind_eq_some_iff.mpr ⟨next, ih.parts hnext, Option.bind_eq_some_iff.mpr ⟨more, ih.further hmore, h⟩⟩
  · rename_i hbar
    rw [if_neg hbar]
    exact h

theorem parts_succ (ih : Steady n) {before : List Part} {s : State} {r : Part × State}
    (h : Parser.parts (n + 1) before s = some r) : Parser.parts (n + 2) before s = some r := by
  cases hleft : s.skipSpace.left with
  | nil =>
    rw [parts_nil _ _ hleft] at h ⊢
    exact h
  | cons c rest =>
    have hspace : s.skipSpace = ⟨c :: rest, s.skipSpace.flags, s.skipSpace.groups, s.skipSpace.names⟩ := by rw [← hleft]
    rw [parts_cons _ _ hspace] at h ⊢
    cases hstart : startOf c with
    | nothing =>
      rw [hstart] at h
      exact h
    | group =>
      rw [hstart] at h
      obtain ⟨p, hp, h⟩ := Option.bind_eq_some_iff.mp h
      exact Option.bind_eq_some_iff.mpr ⟨p, ih.group hp, ih.parts h⟩
    | classOf =>
      rw [hstart] at h
      obtain ⟨c, hc, h⟩ := Option.bind_eq_some_iff.mp h
      exact Option.bind_eq_some_iff.mpr ⟨c, hc, ih.parts h⟩
    | repetition =>
      rw [hstart] at h
      obtain ⟨before, hbefore, h⟩ := Option.bind_eq_some_iff.mp h
      exact Option.bind_eq_some_iff.mpr ⟨before, hbefore, ih.parts h⟩
    | single =>
      rw [hstart] at h
      obtain ⟨p, hp, h⟩ := Option.bind_eq_some_iff.mp h
      exact Option.bind_eq_some_iff.mpr ⟨p, hp, ih.parts h⟩

theorem group_succ (ih : Steady n) {s : State} {r : Part × State} (h : Parser.group (n + 1) s = some r) :
    Parser.group (n + 2) s = some r := by
  rw [Parser.group] at h ⊢
  obtain ⟨⟨how, inner⟩, hopening, h⟩ := Option.bind_eq_some_iff.mp h
  refine Option.bind_eq_some_iff.mpr ⟨⟨how, inner⟩, hopening, ?_⟩
  cases how with
  | flags => exact h
  | plain =>
    obtain ⟨p, hp, h⟩ := Option.bind_eq_some_iff.mp h
    exact Option.bind_eq_some_iff.mpr ⟨p, ih.alternatives hp, h⟩
  | capture index =>
    obtain ⟨p, hp, h⟩ := Option.bind_eq_some_iff.mp h
    exact Option.bind_eq_some_iff.mpr ⟨p, ih.alternatives hp, h⟩

end Steady

/-- **More steps change nothing** that has been read. -/
theorem steady (n : Nat) : Steady n := by
  induction n with
  | zero => exact ⟨nofun, nofun, nofun, nofun⟩
  | succ n ih => exact ⟨ih.alternatives_succ, ih.further_succ, ih.parts_succ, ih.group_succ⟩

theorem alternatives_of_le {n m : Nat} (hle : n ≤ m) {s : State} {r : Part × State} (h : alternatives n s = some r) :
    alternatives m s = some r := by
  induction hle with
  | refl => exact h
  | step _ ih => exact (steady _).alternatives ih

/-- An expression that is bound to the start of a text. -/
def bound (r : Regex) : Regex := .seq (.look .textStart) (.group none r)

theorem skipSpace_initial (l : List Char) (groups : Nat) (names : List String) :
    State.skipSpace ⟨l, .initial, groups, names⟩ = ⟨l, .initial, groups, names⟩ := rfl

theorem opening_plain (l : List Char) :
    opening ⟨'?' :: ':' :: l, .initial, 0, []⟩ = some (.plain, ⟨l, .initial, 0, []⟩) := by
  rw [opening_eq]
  rfl

/-- How the anchored text is read: what the group is made of, then what follows it. -/
theorem parts_anchored (n : Nat) (l : List Char) :
    parts (n + 3) [] ⟨'^' :: '(' :: '?' :: ':' :: l, .initial, 0, []⟩ =
      alternatives n ⟨l, .initial, 0, []⟩ >>= fun r => group.close .initial none r.1 r.2 >>= fun q =>
        parts (n + 1) [q.1, ⟨.look .textStart, 0, true⟩] q.2 := by
  rw [parts_cons (n + 2) [] (skipSpace_initial _ 0 [])]
  show parts (n + 2) [⟨.look .textStart, 0, true⟩] ⟨'(' :: '?' :: ':' :: l, .initial, 0, []⟩ = _
  rw [parts_cons (n + 1) _ (skipSpace_initial _ 0 [])]
  show group (n + 1) ⟨'?' :: ':' :: l, .initial, 0, []⟩ >>= _ = _
  rw [group, opening_plain]
  dsimp only [Option.bind_eq_bind, Option.bind_some]
  cases alternatives n ⟨l, .initial, 0, []⟩ <;> rfl

theorem length_anchored (s : List Char) :
    4 * ('^' :: '(' :: '?' :: ':' :: (s ++ [')'])).length + 4 = 4 * s.length + 24 := by
  simp only [List.length_cons, List.length_append, List.length_nil]
  omega

/-- Where the parenthesis is left, the group ends with it. -/
theorem whole_of_last {s : List Char} {p : Part} {t : State}
    (h : alternatives (4 * s.length + 20) ⟨s ++ [')'], .initial, 0, []⟩ = some (p, t)) (ht : t.left = [')']) :
    whole ('^' :: '(' :: '?' :: ':' :: (s ++ [')'])) =
      if p.depth + 2 ≤ nestLimit ∧ (bound p.regex).fits then some (bound p.regex) else none := by
  obtain ⟨left, flags, groups, names⟩ := t
  subst ht
  rw [whole, length_anchored, alternatives, parts_anchored, h]
  show (parts (4 * s.length + 21) _ ⟨[], .initial, groups, names⟩ >>= _) >>= _ = _
  rw [parts_nil (4 * s.length + 20) _ rfl]
  show (if true && decide (max (p.depth + 1) 0 + 1 ≤ nestLimit) && (bound p.regex).fits then some (bound p.regex)
    else none) = _
  rw [Nat.max_zero, Bool.true_and]
  exact if_congr (by rw [Bool.and_eq_true, decide_eq_true_eq]) rfl rfl

/-- Where the parenthesis is used up, the group has no end. -/
theorem whole_of_spent {s : List Char}
    (h : ∀ p t, alternatives (4 * s.length + 20) ⟨s ++ [')'], .initial, 0, []⟩ = some (p, t) → t.left = []) :
    whole ('^' :: '(' :: '?' :: ':' :: (s ++ [')'])) = none := by
  rw [whole, length_anchored, alternatives, parts_anchored]
  cases hread : alternatives (4 * s.length + 20) ⟨s ++ [')'], .initial, 0, []⟩ with
  | none => rfl
  | some r =>
    have hclose : group.close .initial none r.1 r.2 = none := by rw [group.close, h r.1 r.2 hread]
    show (group.close .initial none r.1 r.2 >>= _) >>= _ >>= _ = _
    rw [hclose]
    rfl

/-- A text that means the same in a group that is bound to the start as it means alone. -/
structure Enclosable (s : List Char) : Prop where
  /-- Reading does not stop at a parenthesis that the text has not opened. -/
  closes : ∀ p st, readFrom s = some (p, st) → st.left = []
  /-- The text does not end in a comment, which would take in a parenthesis behind it. -/
  apart : (readFrom s).isSome → ∀ p t, readFrom (s ++ [')']) = some (p, t) → t.left ≠ []
  /-- The group and the condition make no difference to the limits of nesting and of size. -/
  limits : ∀ p st, readFrom s = some (p, st) →
    (p.depth ≤ nestLimit ∧ p.regex.fits ↔ p.depth + 2 ≤ nestLimit ∧ (bound p.regex).fits)

instance (s : List Char) : Decidable (Enclosable s) :=
  decidable_of_iff
    ((∀ q ∈ readFrom s, q.2.left = []) ∧ ((readFrom s).isSome → ∀ q ∈ readFrom (s ++ [')']), q.2.left ≠ []) ∧
      ∀ q ∈ readFrom s,
        (q.1.depth ≤ nestLimit ∧ q.1.regex.fits ↔ q.1.depth + 2 ≤ nestLimit ∧ (bound q.1.regex).fits))
    ⟨fun h => ⟨fun p st => h.1 (p, st), fun hread p st => h.2.1 hread (p, st), fun p st => h.2.2 (p, st)⟩,
      fun h => ⟨fun q => h.closes q.1 q.2, fun hread q => h.apart hread q.1 q.2, fun q => h.limits q.1 q.2⟩⟩

theorem whole_eq_some_iff {s : List Char} {r : Regex} :
    whole s = some r ↔ ∃ p st, readFrom s = some (p, st) ∧ st.left = [] ∧ (p.depth ≤ nestLimit ∧ p.regex.fits) ∧
      p.regex = r := by
  have hwhole : whole s = readFrom s >>= fun q =>
      if q.2.left.isEmpty && q.1.depth ≤ nestLimit && q.1.regex.fits then some q.1.regex else none := rfl
  rw [hwhole]
  refine Option.bind_eq_some_iff.trans ?_
  simp only [Prod.exists, Option.ite_none_right_eq_some, Option.some.injEq, Bool.and_eq_true, List.isEmpty_iff,
    decide_eq_true_eq, and_assoc]

/-- Where a text is read to its end, the parenthesis behind it is left. -/
theorem Enclosable.read {s : List Char} (h : Enclosable s) {p : Part} {st : State} (hread : readFrom s = some (p, st)) :
    ∃ t, alternatives (4 * s.length + 20) ⟨s ++ [')'], .initial, 0, []⟩ = some (p, t) ∧ t.left = [')'] := by
  have hlength : (s ++ [')']).length = s.length + 1 := by rw [List.length_append, List.length_singleton]
  have hagree := agree_readFrom s (n := 4 * (s ++ [')']).length + 4) (by omega)
  have hapart := h.apart (by rw [hread]; rfl)
  rw [hread] at hagree
  generalize hclosed : alternatives (4 * (s ++ [')']).length + 4) ⟨s ++ [')'], .initial, 0, []⟩ = y at hagree
  cases hagree with
  | @read _ _ t hst =>
    refine ⟨t, alternatives_of_le (by omega) hclosed, ?_⟩
    have hnil := h.closes p st hread
    cases hst with
    | behind left =>
      obtain rfl : left = [] := hnil
      rfl
    | spent => exact absurd rfl (hapart p _ hclosed)

/-- Where a text is not read, nothing is left of it with the parenthesis behind. -/
theorem spent_of_readFrom {s : List Char} (hread : readFrom s = none) {p : Part} {t : State}
    (h : alternatives (4 * s.length + 20) ⟨s ++ [')'], .initial, 0, []⟩ = some (p, t)) : t.left = [] := by
  have hagree := agree_readFrom s (n := 4 * s.length + 20) (by omega)
  rw [hread, h] at hagree
  cases hagree with
  | taken h => exact h
  | stray h => exact h.elim

/-- **A pattern in a group.**  A text that can be enclosed is a pattern exactly if it is one in a group that is bound to
the start, and then that is the expression of the text, bound to the start. -/
theorem whole_bound_iff {s : List Char} (h : Enclosable s) (r : Regex) :
    whole ('^' :: '(' :: '?' :: ':' :: (s ++ [')'])) = some r ↔ ∃ r', whole s = some r' ∧ bound r' = r := by
  simp only [whole_eq_some_iff (s := s)]
  cases hread : readFrom s with
  | none =>
    rw [whole_of_spent fun p t => spent_of_readFrom hread]
    simp
  | some q =>
    obtain ⟨p, st⟩ := q
    obtain ⟨t, hclosed, ht⟩ := h.read hread
    rw [whole_of_last hclosed ht, Option.ite_none_right_eq_some, ← h.limits p st hread]
    constructor
    · rintro ⟨hlimits, heq⟩
      exact ⟨p.regex, ⟨p, st, rfl, h.closes p st hread, hlimits, rfl⟩, Option.some.inj heq⟩
    · rintro ⟨_, ⟨p', st', heq, -, hlimits, rfl⟩, rfl⟩
      cases heq
      exact ⟨hlimits, rfl⟩

/-- A pattern that is one in a group as well, is itself what stands in the group. -/
theorem bound_of_whole {s : List Char} {r r' : Regex} (hwhole : whole s = some r)
    (hbound : whole ('^' :: '(' :: '?' :: ':' :: (s ++ [')'])) = some r') : bound r = r' := by
  obtain ⟨p, st, hread, hnil, -, rfl⟩ := whole_eq_some_iff.mp hwhole
  have hagree := agree_readFrom s (n := 4 * s.length + 20) (by omega)
  rw [hread] at hagree
  generalize hclosed : alternatives (4 * s.length + 20) ⟨s ++ [')'], .initial, 0, []⟩ = y at hagree
  cases hagree with
  | @read _ _ t hst =>
    cases hst with
    | behind left =>
      obtain rfl : left = [] := hnil
      rw [whole_of_last hclosed rfl] at hbound
      exact Option.some.inj (Option.ite_none_right_eq_some.mp hbound).2
    | spent =>
      rw [whole_of_spent fun p t ht => by rw [hclosed] at ht; cases ht; rfl] at hbound
      cases hbound

end Regraft.Pattern.Parser
