import Regraft.Proofs.ClosedTexts
/-!
# A parenthesis behind a class

Classes in brackets, read from a text and from the same text with a closing parenthesis behind it.  In a class the
parenthesis is a member like any other, but no class ends with it: a class that has no end in the text has none with
the parenthesis either (`classBody_last`).  So both texts have the same classes (`ClassesAgree`).

Two things look past the next character, and both may see the parenthesis where the text alone has nothing to see.  A
dash is the sign of a range unless a bracket or another dash follows it, which is decided by what is visible behind it
(`endsMember`); the parenthesis is neither, so the decision is the same (`Closed.second?_iff`).  And a class between
colons is one only if it is closed by a colon and a bracket, which the parenthesis is not (`colonClass_append`).

The readers of classes call each other.  What is proved of both of them after so many steps is `ClassesAgree`; the
number of steps is bounded from below by twice the characters left, since a class takes two steps for one bracket.
-/

namespace Regraft.Pattern.Parser

open Unicode (CharSet)

section

variable {s t : State}

/-! ## 1. Members of classes

A member that is read where the text alone has none is the parenthesis itself.  Then nothing is left, so that the class
that it is in has no end; the lemmas about members need not know that yet and only say that it has been taken. -/

theorem member_char {c : Char} (hc : c ≠ '\\') (rest : List Char) (flags : Flags) (groups : Nat) (names : List String) :
    member ⟨c :: rest, flags, groups, names⟩ =
      if flags.unicode || c.toNat < 0x80 then some (.char c, ⟨rest, flags, groups, names⟩) else none := by
  rw [member]
  dsimp only
  split
  · rename_i heq
    cases heq
  · exact absurd (List.cons.inj ‹_›).1 hc
  · rename_i heq
    cases heq
    rfl

/-- A member is read alike, and the parenthesis is one where nothing else is left. -/
theorem agree_member (h : Closed s t) : Agree (s.left.length - 1) (t.left.length - 1) (member s) (member t) := by
  cases h.sight with
  | @char c rest rest' flags groups names hrest =>
    by_cases hc : c = '\\'
    · subst hc
      refine ((alike_escape hrest).bind (fun e s t h _ _ => ?_) fun e t h _ => ?_).mono
        (Nat.sub_le _ _) (Nat.sub_le _ _)
      · have hflags := h.flags
        cases e with
        | char c =>
          dsimp only
          rw [hflags]
          exact .ite Iff.rfl (.read h le_rfl le_rfl) .neither
        | byte c =>
          dsimp only
          rw [hflags]
          exact .ite Iff.rfl (.read h le_rfl le_rfl) .neither
        | classOf set => exact .read h le_rfl le_rfl
        | look l => exact .neither
      · obtain ⟨-, l, rfl⟩ := h
        exact .neither
    · rw [member_char hc, member_char hc]
      exact .ite Iff.rfl (.read hrest le_rfl le_rfl) .neither
  | last =>
    rw [member_char (by decide)]
    split
    · exact .taken rfl
    · exact .neither
  | spent => exact .neither

theorem firstVisible?_append (afterHash : Bool) (l : List Char) :
    firstVisible? afterHash (l ++ [')']) = (firstVisible? afterHash l).or (some ')') := by
  induction l generalizing afterHash with
  | nil => cases afterHash <;> decide
  | cons c l ih =>
    rw [List.cons_append, firstVisible?, firstVisible?]
    split
    · exact ih _
    · split
      · exact ih _
      · rfl

/-- Where nothing is visible, there is nothing but blanks and hashes. -/
theorem head?_ne_of_not_visible {l : List Char} (h : firstVisible? false l = none) {c : Char}
    (hblank : Unicode.isBlank c = false) (hhash : c ≠ '#') : l.head? ≠ some c := fun hhead => by
  obtain ⟨rest, rfl⟩ := List.head?_eq_some_iff.mp hhead
  rw [firstVisible?, hblank] at h
  simp [hhash] at h

theorem visible_append_iff (l : List Char) {c : Char} (hparen : c ≠ ')') (hblank : Unicode.isBlank c = false)
    (hhash : c ≠ '#') : (firstVisible? false (l ++ [')'])).or (l ++ [')']).head? = some c ↔
      (firstVisible? false l).or l.head? = some c := by
  rw [firstVisible?_append]
  cases hvisible : firstVisible? false l with
  | none =>
    have hhead := head?_ne_of_not_visible hvisible hblank hhash
    exact ⟨fun heq => absurd (Option.some.inj heq).symm hparen, fun heq => absurd heq hhead⟩
  | some d => exact Iff.rfl

/-- What is seen after the next character is another than the parenthesis at both places or at neither. -/
theorem Closed.second?_iff (h : Closed s t) {c : Char} (hparen : c ≠ ')') (hblank : Unicode.isBlank c = false)
    (hhash : c ≠ '#') : t.second? = some c ↔ s.second? = some c := by
  rw [State.second?, State.second?, h.flags]
  split
  · cases h.sight with
    | char d hrest =>
      cases hrest with
      | behind => exact visible_append_iff _ hparen hblank hhash
      | spent => exact Iff.rfl
    | last => exact Iff.rfl
    | spent => exact Iff.rfl
  · exact h.tail.head?_iff hparen

/-- The set of a member. -/
def Member.set : Member → CharSet
  | char c => .single c
  | classOf s => s

/-- Whether a member is not the beginning of a range. -/
def endsMember (s : State) : Bool := s.left.head? ≠ some '-' || s.second? = some ']' || s.second? = some '-'

/-- Reads the end of a range, given its first member. -/
def rangeEnd (first : Member) : Reader CharSet := fun st =>
  if endsMember st then some (first.set, st)
  else member st.bump >>= fun r =>
    match first, r.1 with
    | .char a, .char b => if a ≤ b then some (.range a b, r.2) else none
    | _, _ => none

/-- A range is a member and what `rangeEnd` makes of the text behind it. -/
theorem memberOrRange_eq (s : State) :
    memberOrRange s =
      member s >>= fun r => if r.2.skipSpace.left.isEmpty then none else rangeEnd r.1 r.2.skipSpace := by
  rw [memberOrRange]
  refine congrArg _ (funext fun ⟨first, st⟩ => ?_)
  cases first <;> rfl

/-- Whether a member stands alone is decided alike. -/
theorem endsMember_eq (h : Closed s t) : endsMember t = endsMember s := by
  rw [endsMember, endsMember, decide_eq_decide.mpr (not_congr (h.head?_iff (by decide))),
    decide_eq_decide.mpr (h.second?_iff (by decide) (by decide) (by decide)),
    decide_eq_decide.mpr (h.second?_iff (by decide) (by decide) (by decide))]

/-- What follows the first member is a range at both places or at neither. -/
theorem agree_rangeEnd (first : Member) (h : Closed s t) :
    Agree s.left.length t.left.length (rangeEnd first s) (rangeEnd first t) := by
  rw [rangeEnd, rangeEnd, endsMember_eq h]
  refine .ite Iff.rfl (.read h le_rfl le_rfl) ?_
  refine ((agree_member h.bump).andThen fun last s t h _ _ => ?_).mono ?_ ?_
  · dsimp only
    split
    · exact .ite Iff.rfl (.read h le_rfl le_rfl) .neither
    · exact .neither
  · exact (Nat.sub_le _ _).trans (bump_le s)
  · exact (Nat.sub_le _ _).trans (bump_le t)

/-- A range that the text alone has no end for ends before the parenthesis. -/
theorem alike_memberOrRange (h : Closed s t) :
    Alike (fun _ t => t.left = [')']) (s.left.length - 1) (t.left.length - 1) (memberOrRange s) (memberOrRange t) := by
  rw [memberOrRange_eq, memberOrRange_eq]
  refine (agree_member h).andThen fun first s t h _ _ => ?_
  have hle := length_skipSpace_le s
  have hle' := length_skipSpace_le t
  have hskip := h.skipSpace
  dsimp only
  generalize s.skipSpace = s' at *
  generalize t.skipSpace = t' at *
  cases hskip.sight with
  | char => exact ((agree_rangeEnd first hskip).mono hle hle').anyStray
  | last => exact .stray rfl hle'
  | spent => exact .neither

/-! ## 2. Classes

The body of a class is read by what stands first.  The equations `classBody_nil` and `classBody_cons` give the cases
once, in a form in which the operators are told by a function (`operatorAt`) and not by patterns that overlap; the
comparison of the two texts then goes through the same cases at both places. -/

/-- What follows a colon and a bracket. -/
def colonEnd : List Char → Option (List Char)
  | ':' :: ']' :: after => some after
  | _ => none

theorem colonEnd_eq_none {l : List Char} (h : ∀ after, l = ':' :: ']' :: after → False) : colonEnd l = none := by
  unfold colonEnd
  split
  · exact (h _ rfl).elim
  · rfl

theorem colonEnd_append (l : List Char) : colonEnd (l ++ [')']) = (colonEnd l).map (· ++ [')']) := by
  rcases l with _ | ⟨c, _ | ⟨d, rest⟩⟩
  · rfl
  · rw [colonEnd_eq_none (l := [c]) nofun]
    exact colonEnd_eq_none nofun
  · by_cases h : c = ':' ∧ d = ']'
    · obtain ⟨rfl, rfl⟩ := h
      rfl
    · have hne : ∀ (rest after : List Char), c :: d :: rest = ':' :: ']' :: after → False := fun rest after heq => by
        cases heq
        exact h ⟨rfl, rfl⟩
      rw [colonEnd_eq_none (hne rest)]
      exact colonEnd_eq_none (hne _)

/-- The class that stands before a colon and a bracket, with what follows. -/
def colonClass (negated : Bool) (flags : Flags) (l : List Char) : Option (CharSet × List Char) :=
  colonEnd (l.dropWhile (· != ':')) >>= fun after =>
    (AsciiClass.named? (.ofList (l.takeWhile (· != ':')))).map fun set =>
      (if negated then (flags.fold set).complement else flags.fold set, after)

theorem colonClass_append (negated : Bool) (flags : Flags) (l : List Char) :
    colonClass negated flags (l ++ [')']) = (colonClass negated flags l).map fun r => (r.1, r.2 ++ [')']) := by
  rw [colonClass, colonClass]
  by_cases hrun : l.dropWhile (· != ':') = []
  · rw [hrun, (run_append_of_nil hrun _).2]
    rfl
  · rw [(run_append_of_ne hrun _).1, (run_append_of_ne hrun _).2, colonEnd_append]
    cases colonEnd (l.dropWhile (· != ':')) with
    | none => rfl
    | some after => cases AsciiClass.named? _ <;> rfl

theorem namedClass_colon (rest : List Char) (flags : Flags) (groups : Nat) (names : List String) :
    namedClass ⟨':' :: rest, flags, groups, names⟩ =
      (colonClass (rest.head? = some '^') flags (if rest.head? = some '^' then rest.tail else rest)).map fun r =>
        (r.1, ⟨r.2, flags, groups, names⟩) := by
  rw [namedClass, colonClass]
  dsimp only
  simp only [decide_eq_true_eq]
  generalize (if rest.head? = some '^' then rest.tail else rest) = l
  split
  · rename_i heq
    rw [heq]
    cases AsciiClass.named? _ <;> rfl
  · rename_i hne
    rw [colonEnd_eq_none hne]
    rfl

/-- Without a colon there is no class between colons. -/
theorem namedClass_of_ne (h : s.left.head? ≠ some ':') : namedClass s = none := by
  rw [namedClass]
  split
  · rename_i heq
    exact absurd (by rw [heq, List.head?_cons]) h
  · rfl

theorem length_colonClass {negated : Bool} {flags : Flags} {l after : List Char} {set : CharSet}
    (h : colonClass negated flags l = some (set, after)) : after.length ≤ l.length := by
  rw [colonClass] at h
  obtain ⟨rest, hrest, h⟩ := Option.bind_eq_some_iff.mp h
  obtain ⟨named, -, h⟩ := Option.map_eq_some_iff.mp h
  obtain rfl := (Prod.mk.inj h).2
  have hlength := (List.dropWhile_suffix (· != ':') (l := l)).length_le
  unfold colonEnd at hrest
  split at hrest
  · rename_i heq
    cases hrest
    rw [heq] at hlength
    exact (Nat.le_add_right _ 2).trans hlength
  · cases hrest

/-- The text of a class between colons, without the sign that negates it. -/
def colonText (rest : List Char) : List Char := if rest.head? = some '^' then rest.tail else rest

theorem colonText_append (rest : List Char) : colonText (rest ++ [')']) = colonText rest ++ [')'] := by
  cases rest with
  | nil => rfl
  | cons c rest =>
    rw [colonText, colonText]
    exact (apply_ite (· ++ [')']) _ _ _).symm

theorem length_colonText_le (rest : List Char) : (colonText rest).length ≤ rest.length := by
  rw [colonText]
  split
  · exact (List.tail_sublist _).length_le
  · exact le_rfl

/-- Classes between colons are read alike or at neither place. -/
theorem namedClass_alike (h : Closed s t) : namedClass s = none ∧ namedClass t = none ∨
    ∃ set s' t', namedClass s = some (set, s') ∧ namedClass t = some (set, t') ∧ Closed s' t' ∧
      s'.left.length ≤ s.left.length ∧ t'.left.length ≤ t.left.length := by
  by_cases hcolon : s.left.head? = some ':'
  · cases h with
    | behind left flags groups names =>
      obtain ⟨rest, rfl⟩ := List.head?_eq_some_iff.mp hcolon
      have hnegated : (rest ++ [')']).head? = some '^' ↔ rest.head? = some '^' :=
        (Closed.behind rest flags groups names).head?_iff (by decide)
      rw [List.cons_append, namedClass_colon, namedClass_colon, decide_eq_decide.mpr hnegated, ← colonText, ← colonText,
        colonText_append, colonClass_append]
      cases hclass : colonClass (decide (rest.head? = some '^')) flags (colonText rest) with
      | none => exact .inl ⟨rfl, rfl⟩
      | some r =>
        have hlength := (length_colonClass hclass).trans (length_colonText_le rest)
        refine .inr ⟨r.1, _, _, rfl, rfl, .behind r.2 flags groups names, ?_, ?_⟩
        · exact hlength.trans (Nat.le_succ _)
        · simpa using hlength.trans (Nat.le_succ _)
    | spent => cases hcolon
  · exact .inl ⟨namedClass_of_ne hcolon, namedClass_of_ne (mt (h.head?_iff (by decide)).mp hcolon)⟩

theorem leadingDashes_of_ne (n : Nat) (members : Members) (h : s.left.head? ≠ some '-') :
    leadingDashes n members s = some (members, s) := by
  cases n with
  | zero => rfl
  | succ n => rw [leadingDashes, if_neg h]

/-- Dashes at the beginning of a class are read alike. -/
theorem agree_leadingDashes {n m : Nat} (members : Members) (h : Closed s t) (hn : s.left.length ≤ n)
    (hm : t.left.length ≤ m) :
    Agree s.left.length t.left.length (leadingDashes n members s) (leadingDashes m members t) := by
  induction n generalizing m members s t with
  | zero =>
    have hne : s.left.head? ≠ some '-' := by rw [List.length_eq_zero_iff.mp (Nat.le_zero.mp hn)]; nofun
    rw [leadingDashes_of_ne _ _ hne, leadingDashes_of_ne _ _ (mt (h.head?_iff (by decide)).mp hne)]
    exact .read h le_rfl le_rfl
  | succ n ih =>
    by_cases hdash : s.left.head? = some '-'
    · cases h.sight with
      | @char c rest rest' flags groups names hrest =>
        cases hdash
        obtain ⟨m, rfl⟩ : ∃ k, m = k + 1 := ⟨m - 1, (Nat.sub_add_cancel (Nat.zero_lt_of_lt hm)).symm⟩
        refine (ih _ h.bump ?_ ?_).mono (bump_le _) (bump_le _)
        · exact (length_bump_le _).trans (Nat.le_of_succ_le_succ hn)
        · exact (length_bump_le _).trans (Nat.le_of_succ_le_succ hm)
      | last => cases hdash
      | spent => cases hdash
    · rw [leadingDashes_of_ne _ _ hdash, leadingDashes_of_ne _ _ (mt (h.head?_iff (by decide)).mp hdash)]
      exact .read h le_rfl le_rfl

/-- The operator that a character stands for when it is doubled. -/
def operatorOf (c : Char) : Option SetOperator :=
  match c with
  | '&' => some .intersection
  | '-' => some .difference
  | '~' => some .symmetricDifference
  | _ => none

/-- The operator at the beginning of a text. -/
def operatorAt (c : Char) (rest : List Char) : Option SetOperator := if rest.head? = some c then operatorOf c else none

theorem operatorAt_of_not_operator {c : Char} (h : operatorOf c = none) (rest : List Char) :
    operatorAt c rest = none := by
  rw [operatorAt, h]
  exact ite_self none

/-- The members of a class with what stands before the last operator. -/
def joined (flags : Flags) (left? : Option (ReadClass × SetOperator)) (members : Members) : ReadClass :=
  match left? with
  | some (a, operator) => a.join flags operator members.toClass
  | none => members.toClass

/-- A class has no end where nothing is left. -/
theorem classBody_nil (n : Nat) (left? : Option (ReadClass × SetOperator)) (members : Members)
    (h : s.skipSpace.left = []) : classBody n left? members s = none := by
  cases n with
  | zero => rfl
  | succ n =>
    unfold classBody
    dsimp only
    rw [h]

theorem classBody_cons (n : Nat) (left? : Option (ReadClass × SetOperator)) (members : Members) {c : Char}
    {rest : List Char} {flags : Flags} {groups : Nat} {names : List String}
    (h : s.skipSpace = ⟨c :: rest, flags, groups, names⟩) :
    classBody (n + 1) left? members s =
      if c = ']' then some (joined flags left? members, ⟨rest, flags, groups, names⟩)
      else match operatorAt c rest with
        | some o => classBody n (some (joined flags left? members, o)) .none ⟨rest.tail, flags, groups, names⟩
        | none =>
          if c = '[' then
            match namedClass ⟨rest, flags, groups, names⟩ with
            | some (set, st) => st.flags.accept set >>= fun set => classBody n left? (members.add set 0) st
            | none => bracketed n ⟨rest, flags, groups, names⟩ >>= fun r =>
                classBody n left? (members.add r.1.set r.1.depth) r.2
          else memberOrRange ⟨c :: rest, flags, groups, names⟩ >>= fun r =>
            classBody n left? (members.add r.1 0) r.2 := by
  rw [classBody.eq_def]
  dsimp only
  rw [h]
  dsimp only
  split
  case h_1 heq => cases heq
  case h_2 heq =>
    cases heq
    rfl
  case h_3 heq =>
    cases heq
    rfl
  case h_4 heq =>
    cases heq
    rfl
  case h_5 heq =>
    cases heq
    rfl
  case h_6 heq =>
    cases heq
    rw [operatorAt_of_not_operator (c := '[') rfl]
    rfl
  -- The last case is everything else, where no operator can be: those need the character twice.
  case h_7 _ hclose hand hdash htilde hopen =>
    have hoperator : operatorAt c rest = none := by
      rw [operatorAt]
      split
      · rename_i hhead
        obtain ⟨tail, rfl⟩ := List.head?_eq_some_iff.mp hhead
        unfold operatorOf
        split
        · exact (hand _ rfl).elim
        · exact (hdash _ rfl).elim
        · exact (htilde _ rfl).elim
        · rfl
      · rfl
    rw [if_neg fun hc => hclose rest (by rw [hc]), hoperator]
    dsimp only
    rw [if_neg fun hc => hopen rest (by rw [hc])]

theorem operatorAt_closed {c : Char} {rest rest' : List Char} {flags : Flags} {groups : Nat} {names : List String}
    (h : Closed ⟨rest, flags, groups, names⟩ ⟨rest', flags, groups, names⟩) :
    operatorAt c rest' = operatorAt c rest := by
  by_cases hc : c = ')'
  · rw [operatorAt_of_not_operator (by rw [hc]; rfl), operatorAt_of_not_operator (by rw [hc]; rfl)]
  · exact if_congr (h.head?_iff hc) rfl rfl

theorem skipSpace_nil (h : s.left = []) : s.skipSpace.left = [] :=
  List.length_eq_zero_iff.mp (Nat.le_zero.mp ((length_skipSpace_le s).trans (by rw [h, List.length_nil])))

theorem skipSpace_last (h : t.left = [')']) : t.skipSpace = t := by
  rw [State.skipSpace, h]
  split
  · rw [← h]
    obtain ⟨left, flags, groups, names⟩ := t
    subst h
    rfl
  · rfl

/-- The parenthesis would be a member of a class that does not end. -/
theorem classBody_last (n : Nat) (left? : Option (ReadClass × SetOperator)) (members : Members)
    (h : t.skipSpace.left = [')']) : classBody n left? members t = none := by
  cases n with
  | zero => rfl
  | succ n =>
    have hmember (flags : Flags) (groups : Nat) (names : List String) :
        memberOrRange ⟨[')'], flags, groups, names⟩ = none := by
      rw [memberOrRange_eq, member_char (by decide)]
      split
      · show (if (State.skipSpace ⟨[], flags, groups, names⟩).left.isEmpty then none else _) = _
        rw [skipSpace_nil rfl]
        rfl
      · rfl
    have hspace : t.skipSpace = ⟨[')'], t.skipSpace.flags, t.skipSpace.groups, t.skipSpace.names⟩ := by rw [← h]
    rw [classBody_cons n left? members hspace, if_neg (by decide), operatorAt_of_not_operator (by rfl)]
    dsimp only
    rw [if_neg (by decide), hmember]
    rfl

/-- Both readers of classes, with enough steps. -/
structure ClassesAgree (n : Nat) : Prop where
  bracketed : ∀ {m s t}, Closed s t → 2 * s.left.length + 1 ≤ n → 2 * t.left.length + 1 ≤ m →
    Agree s.left.length t.left.length (bracketed n s) (bracketed m t)
  body : ∀ {m s t} (left? : Option (ReadClass × SetOperator)) (members : Members), Closed s t →
    2 * s.left.length ≤ n → 2 * t.left.length ≤ m →
    Agree s.left.length t.left.length (classBody n left? members s) (classBody m left? members t)

/-- Reads the members of a class, of which some have been read, up to its end. -/
def classEnd (n : Nat) (negated : Bool) (members : Members) : Reader ReadClass := fun st =>
  classBody n none members st >>= fun r => r.2.flags.close negated r.1.set >>= fun set =>
    some (⟨set, r.1.depth + 1⟩, r.2)

/-- Where the sign that negates a class has been read. -/
def afterSign (st : State) : State := if st.left.head? = some '^' then st.bump else st

theorem bracketed_succ (n : Nat) (s : State) :
    bracketed (n + 1) s =
      leadingDashes (afterSign s.skipSpace).left.length .none (afterSign s.skipSpace) >>= fun r =>
        if r.1.count = 0 ∧ r.2.left.head? = some ']' then
          classEnd n (s.skipSpace.left.head? = some '^') (r.1.add (.single ']') 0) r.2.bump
        else classEnd n (s.skipSpace.left.head? = some '^') r.1 r.2 := by
  unfold bracketed
  dsimp only
  refine congrArg _ (funext fun ⟨members, st⟩ => ?_)
  dsimp only
  by_cases h : members.count = 0 ∧ st.left.head? = some ']'
  · rw [if_pos h, if_pos (by simpa using h)]
    rfl
  · rw [if_neg h, if_neg (by simpa using h)]
    rfl

namespace ClassesAgree

variable {n m : Nat}

theorem classEnd (ih : ClassesAgree n) (negated : Bool) (members : Members) (h : Closed s t)
    (hn : 2 * s.left.length ≤ n) (hm : 2 * t.left.length ≤ m) :
    Agree s.left.length t.left.length (classEnd n negated members s) (Parser.classEnd m negated members t) := by
  refine (ih.body none members h hn hm).andThen fun c s t h _ _ => ?_
  dsimp only
  rw [h.flags]
  exact .given fun set _ => .read h le_rfl le_rfl

theorem bracketed_succ (ih : ClassesAgree n) (h : Closed s t) (hn : 2 * s.left.length + 1 ≤ n + 1)
    (hm : 2 * t.left.length + 1 ≤ m) :
    Agree s.left.length t.left.length (Parser.bracketed (n + 1) s) (Parser.bracketed m t) := by
  obtain ⟨m, rfl⟩ : ∃ k, m = k + 1 := ⟨m - 1, by omega⟩
  have hskip := h.skipSpace
  have hsign := hskip.head?_iff (c := '^') (by decide)
  have hafter : Closed (afterSign s.skipSpace) (afterSign t.skipSpace) := by
    rw [afterSign, afterSign]
    by_cases hhead : s.skipSpace.left.head? = some '^'
    · rw [if_pos hhead, if_pos (hsign.mpr hhead)]
      exact hskip.bump
    · rw [if_neg hhead, if_neg (mt hsign.mp hhead)]
      exact hskip
  have hle : ∀ st : State, (afterSign st.skipSpace).left.length ≤ st.left.length := fun st => by
    rw [afterSign]
    split
    · exact (bump_le _).trans (length_skipSpace_le st)
    · exact length_skipSpace_le st
  rw [Parser.bracketed_succ, Parser.bracketed_succ, decide_eq_decide.mpr hsign]
  refine ((agree_leadingDashes .none hafter le_rfl le_rfl).andThen fun members s' t' h' hs ht => ?_).mono
    (hle s) (hle t)
  have hs := hs.trans (hle s)
  have ht := ht.trans (hle t)
  refine .ite (and_congr_right fun _ => h'.head?_iff (by decide)) ?_ ?_
  · refine (ih.classEnd _ _ h'.bump ?_ ?_).mono (bump_le _) (bump_le _)
    · have := bump_le s'
      omega
    · have := bump_le t'
      omega
  · exact ih.classEnd _ _ h' (by omega) (by omega)

theorem body_succ (ih : ClassesAgree n) (left? : Option (ReadClass × SetOperator))
    (members : Members) (h : Closed s t) (hn : 2 * s.left.length ≤ n + 1) (hm : 2 * t.left.length ≤ m) :
    Agree s.left.length t.left.length (classBody (n + 1) left? members s) (classBody m left? members t) := by
  -- What both see next is the same character, or the first is at its end and the second at the added bracket.
  have hskip := h.skipSpace
  have hle := length_skipSpace_le s
  have hle' := length_skipSpace_le t
  generalize hs : s.skipSpace = s' at *
  generalize ht : t.skipSpace = t' at *
  cases hskip.sight with
  | @char c rest rest' flags groups names hrest =>
    rw [List.length_cons] at hle hle'
    obtain ⟨m, rfl⟩ : ∃ k, m = k + 1 := ⟨m - 1, by omega⟩
    rw [classBody_cons _ _ _ hs, classBody_cons _ _ _ ht, operatorAt_closed hrest]
    refine (Alike.ite Iff.rfl (.read hrest (Nat.le_succ _) (Nat.le_succ _)) ?_).mono hle hle'
    cases operatorAt c rest with
    | some o =>
      have htail : rest.tail.length ≤ rest.length := (List.tail_sublist _).length_le
      have htail' : rest'.tail.length ≤ rest'.length := (List.tail_sublist _).length_le
      exact (ih.body _ _ hrest.tail (by dsimp only; omega) (by dsimp only; omega)).mono (htail.trans (Nat.le_succ _))
        (htail'.trans (Nat.le_succ _))
    | none =>
      refine .ite Iff.rfl ?_ ?_
      · rcases namedClass_alike hrest with ⟨hnone, hnone'⟩ | ⟨set, s₁, t₁, hsome, hsome', h₁, hle₁, hle₁'⟩
        · rw [hnone, hnone']
          refine ((ih.bracketed hrest (by dsimp only; omega) (by dsimp only; omega)).andThen
            fun c s t h hs ht => ?_).mono (Nat.le_succ _) (Nat.le_succ _)
          dsimp only at hs ht
          exact ih.body _ _ h (by omega) (by omega)
        · rw [hsome, hsome']
          dsimp only at hle₁ hle₁' ⊢
          rw [h₁.flags]
          refine .given fun set _ => (ih.body _ _ h₁ (by omega) (by omega)).mono ?_ ?_
          · exact hle₁.trans (Nat.le_succ _)
          · exact hle₁'.trans (Nat.le_succ _)
      · refine ((alike_memberOrRange hskip).bind (fun set s t h hs ht => ?_) fun set t hlast _ => ?_).mono
          (Nat.le_succ _) (Nat.le_succ _)
        · simp only [List.length_cons, Nat.add_sub_cancel] at hs ht
          exact ih.body _ _ h (by omega) (by omega)
        · dsimp only
          rw [classBody_last m left? _ (by rw [skipSpace_last hlast, hlast])]
          exact .neither
  | last =>
    rw [classBody_nil _ _ _ (by rw [hs]), classBody_last _ _ _ (by rw [ht])]
    exact .neither
  | spent =>
    rw [classBody_nil _ _ _ (by rw [hs]), classBody_nil _ _ _ (by rw [ht])]
    exact .neither

end ClassesAgree

/-- **Both texts have the same classes**, however deep these are nested. -/
theorem classesAgree (n : Nat) : ClassesAgree n := by
  induction n with
  | zero =>
    refine ⟨fun _ hn => absurd hn (Nat.not_succ_le_zero _), fun {m s t} left? members h hn _ => ?_⟩
    have hnil : s.left = [] := List.length_eq_zero_iff.mp (by omega)
    cases h.sight with
    | char => cases hnil
    | last =>
      rw [classBody_last m left? members (by rw [skipSpace_last rfl])]
      exact .neither
    | spent =>
      rw [classBody_nil m left? members (skipSpace_nil rfl)]
      exact .neither
  | succ n ih => exact ⟨ih.bracketed_succ, ih.body_succ⟩

end

end Regraft.Pattern.Parser
