import Mathlib.Data.List.TakeWhile
import Regraft.Pattern.Parser
/-!
# A parenthesis behind a text

A pattern is compiled in a group, so its text is read with a closing parenthesis behind it.  Two readings are compared,
that of a text and that of the text with the parenthesis, from places where the same is left (`Closed`).  Each reader
comes to the same in both, or fails in both, or succeeds with the parenthesis alone; then it has used it up, so that the
group has no end (`Alike`).  One case is out of line: a brace at the end of a pattern does not begin a count where
something follows it, but then nothing can follow it (`Loose`).  This is proved for each way of combining readers, and
from that for those of blanks, escapes and counts.
-/

namespace Regraft.Pattern.Parser

open Unicode (CharSet)

/-! ## 1. Places with a parenthesis behind them

`Closed s t` relates two states that differ only in the parenthesis behind what is left.  It has two cases because a
comment may take the parenthesis in, after which the two states are the same.  What stands first at such places is a
character at both, the parenthesis alone, or nothing (`Sight`), and every comparison below begins with these three
cases. -/

/-- The same place in a text and in that text with a closing parenthesis behind it.  At the end of the text the
parenthesis may be gone: a comment that goes on to the end takes it in. -/
inductive Closed : State → State → Prop where
  | behind (left : List Char) (flags : Flags) (groups : Nat) (names : List String) :
    Closed ⟨left, flags, groups, names⟩ ⟨left ++ [')'], flags, groups, names⟩
  | spent (flags : Flags) (groups : Nat) (names : List String) :
    Closed ⟨[], flags, groups, names⟩ ⟨[], flags, groups, names⟩

/-- What stands first at two such places. -/
inductive Sight : State → State → Prop where
  | char (c : Char) {rest rest' : List Char} {flags : Flags} {groups : Nat} {names : List String}
    (h : Closed ⟨rest, flags, groups, names⟩ ⟨rest', flags, groups, names⟩) :
    Sight ⟨c :: rest, flags, groups, names⟩ ⟨c :: rest', flags, groups, names⟩
  | last (flags : Flags) (groups : Nat) (names : List String) :
    Sight ⟨[], flags, groups, names⟩ ⟨[')'], flags, groups, names⟩
  | spent (flags : Flags) (groups : Nat) (names : List String) :
    Sight ⟨[], flags, groups, names⟩ ⟨[], flags, groups, names⟩

/-- Where a run ends within a text, it ends there with more behind the text. -/
theorem run_append_of_ne {p : Char → Bool} {l : List Char} (h : l.dropWhile p ≠ []) (r : List Char) :
    (l ++ r).takeWhile p = l.takeWhile p ∧ (l ++ r).dropWhile p = l.dropWhile p ++ r := by
  have hsplit := congrArg List.length (List.takeWhile_append_dropWhile (p := p) (l := l))
  have hpos := List.length_pos_iff.mpr h
  rw [List.length_append] at hsplit
  rw [List.takeWhile_append, List.dropWhile_append, if_neg (by omega), if_neg (by simpa using h)]
  exact ⟨rfl, rfl⟩

/-- A run that goes on to the end of a text goes on in what stands behind. -/
theorem run_append_of_nil {p : Char → Bool} {l : List Char} (h : l.dropWhile p = []) (r : List Char) :
    (l ++ r).takeWhile p = l ++ r.takeWhile p ∧ (l ++ r).dropWhile p = r.dropWhile p := by
  have hall : ∀ c ∈ l, p c = true := List.dropWhile_eq_nil_iff.mp h
  exact ⟨List.takeWhile_append_of_pos hall, List.dropWhile_append_of_pos hall⟩

/-- What a pattern excludes does not stand first. -/
theorem head?_ne {l : List Char} {c : Char} (h : ∀ rest, l = c :: rest → False) : l.head? ≠ some c := fun hhead => by
  obtain ⟨rest, hrest⟩ := List.head?_eq_some_iff.mp hhead
  exact h rest hrest

section

variable {s t : State}

/-- The three cases of what stands first. -/
theorem Closed.sight (h : Closed s t) : Sight s t := by
  cases h with
  | behind left flags groups names =>
    cases left with
    | nil => exact .last flags groups names
    | cons c rest => exact .char c (.behind rest flags groups names)
  | spent flags groups names => exact .spent flags groups names

/-- Nothing but the text differs. -/
theorem Closed.eq_left (h : Closed s t) : t = { s with left := t.left } := by
  cases h <;> rfl

theorem Closed.flags (h : Closed s t) : t.flags = s.flags := by
  cases h <;> rfl

theorem Closed.refl (h : s.left = []) : Closed s s := by
  obtain ⟨left, flags, groups, names⟩ := s
  cases h
  exact .spent flags groups names

theorem Closed.tail (h : Closed s t) : Closed { s with left := s.left.tail } { t with left := t.left.tail } := by
  cases h.sight with
  | char c hrest => exact hrest
  | last flags groups names => exact .spent flags groups names
  | spent flags groups names => exact .spent flags groups names

theorem Closed.drop (h : Closed s t) (n : Nat) :
    Closed { s with left := s.left.drop n } { t with left := t.left.drop n } := by
  induction n generalizing s t with
  | zero => exact h
  | succ n ih =>
    have h := ih h.tail
    rwa [List.drop_tail, List.drop_tail] at h

/-- Another character than the parenthesis stands first at both places or at neither. -/
theorem Closed.head?_iff (h : Closed s t) {c : Char} (hc : c ≠ ')') :
    t.left.head? = some c ↔ s.left.head? = some c := by
  cases h.sight with
  | char => exact Iff.rfl
  | last => exact ⟨fun heq => absurd (Option.some.inj heq).symm hc, nofun⟩
  | spent => exact Iff.rfl

/-- A change of everything but the text, made alike. -/
theorem Closed.with (h : Closed s t) (flags : Flags) (groups : Nat) (names : List String) :
    Closed ⟨s.left, flags, groups, names⟩ ⟨t.left, flags, groups, names⟩ := by
  cases h with
  | behind left => exact .behind left flags groups names
  | spent => exact .spent flags groups names

/-! ## 2. Blanks and comments

Blanks are skipped alike; only a comment that the text does not end reaches the parenthesis, and then it takes it in. -/

theorem skipComment_append (l : List Char) :
    skipComment (l ++ [')']) = skipComment l ++ [')'] ∨ skipComment l = [] ∧ skipComment (l ++ [')']) = [] := by
  rw [skipComment, List.dropWhile_append]
  split
  · rename_i hempty
    exact .inr ⟨List.isEmpty_iff.mp hempty, by decide⟩
  · exact .inl rfl

theorem length_skipComment_le (l : List Char) : (skipComment l).length ≤ l.length :=
  (List.dropWhile_suffix _).length_le

theorem skipSpaceFrom_nil (n : Nat) : skipSpaceFrom n [] = [] := by
  cases n <;> rfl

theorem length_skipSpaceFrom_le (n : Nat) (l : List Char) : (skipSpaceFrom n l).length ≤ l.length := by
  induction n generalizing l with
  | zero => exact le_rfl
  | succ n ih =>
    cases l with
    | nil => exact le_rfl
    | cons c rest =>
      rw [skipSpaceFrom]
      split
      · exact (ih rest).trans (Nat.le_succ _)
      · split
        · exact ((ih _).trans (length_skipComment_le rest)).trans (Nat.le_succ _)
        · exact le_rfl

/-- The parenthesis is behind what is left, unless a comment has taken it in. -/
theorem skipSpaceFrom_append {n m : Nat} {l : List Char} (hn : l.length ≤ n) (hm : l.length < m) :
    skipSpaceFrom m (l ++ [')']) = skipSpaceFrom n l ++ [')'] ∨
      skipSpaceFrom n l = [] ∧ skipSpaceFrom m (l ++ [')']) = [] := by
  induction n generalizing m l with
  | zero =>
    obtain rfl := List.length_eq_zero_iff.mp (Nat.le_zero.mp hn)
    obtain ⟨m, rfl⟩ := Nat.exists_eq_add_of_lt hm
    exact .inl rfl
  | succ n ih =>
    obtain ⟨m, rfl⟩ : ∃ k, m = k + 1 := ⟨m - 1, by omega⟩
    cases l with
    | nil => exact .inl rfl
    | cons c rest =>
      rw [List.length_cons] at hn hm
      rw [List.cons_append, skipSpaceFrom, skipSpaceFrom]
      by_cases hblank : Unicode.isBlank c = true
      · rw [if_pos hblank, if_pos hblank]
        exact ih (by omega) (by omega)
      · rw [if_neg hblank, if_neg hblank]
        by_cases hhash : c = '#'
        · rw [if_pos hhash, if_pos hhash]
          have hlength := length_skipComment_le rest
          rcases skipComment_append rest with hcomment | ⟨hcomment, hcomment'⟩
          · rw [hcomment]
            exact ih (by omega) (by omega)
          · rw [hcomment, hcomment']
            exact .inr ⟨skipSpaceFrom_nil n, skipSpaceFrom_nil m⟩
        · rw [if_neg hhash, if_neg hhash]
          exact .inl rfl

/-- Blanks and comments are skipped alike. -/
theorem Closed.skipSpace (h : Closed s t) : Closed s.skipSpace t.skipSpace := by
  cases h with
  | behind left flags groups names =>
    rw [State.skipSpace, State.skipSpace]
    split
    · have happend := skipSpaceFrom_append (l := left) le_rfl (Nat.lt_succ_self _)
      rw [List.length_append, List.length_singleton]
      rcases happend with happend | ⟨hnil, hnil'⟩
      · rw [happend]
        exact .behind _ flags groups names
      · rw [hnil, hnil']
        exact .spent flags groups names
    · exact .behind left flags groups names
  | spent flags groups names => exact .refl (by rw [State.skipSpace]; split <;> rfl)

theorem length_skipSpace_le (s : State) : s.skipSpace.left.length ≤ s.left.length := by
  rw [State.skipSpace]
  split
  · exact length_skipSpaceFrom_le _ _
  · exact le_rfl

theorem Closed.bump (h : Closed s t) : Closed s.bump t.bump := h.tail.skipSpace

theorem length_bump_le (s : State) : s.bump.left.length ≤ s.left.tail.length := length_skipSpace_le _

theorem bump_le (s : State) : s.bump.left.length ≤ s.left.length :=
  (length_bump_le s).trans (by rw [List.length_tail]; exact Nat.sub_le _ _)

theorem bump_eq_nil (h : s.left.tail = []) : s.bump.left = [] :=
  List.length_eq_zero_iff.mp (Nat.le_zero.mp ((length_bump_le s).trans (by rw [h, List.length_nil])))

end

/-! ## 3. Results of reading

`Alike` has the four ways in which two results can go together.  Composing readers preserves it (`Alike.bind`), and that
is used throughout: a reader made of parts is compared part by part.  In the case `taken` nothing is left in the longer
text, so nothing that follows can close the group, and what it reads there need not be compared. -/

/-- How the results of reading a text, and the same with a parenthesis behind, go together: they are the same, at the
same place; or neither is one; or only the parenthesis made one possible.  Then it is used up, unless what has been read
is `stray`, which means that nothing can follow.  The numbers bound what is left. -/
inductive Alike {α : Type} (stray : α → State → Prop) (n m : Nat) : Option (α × State) → Option (α × State) → Prop where
  | read {a : α} {s t : State} (h : Closed s t) (hs : s.left.length ≤ n) (ht : t.left.length ≤ m) :
    Alike stray n m (some (a, s)) (some (a, t))
  | neither : Alike stray n m none none
  | taken {a : α} {t : State} (h : t.left = []) : Alike stray n m none (some (a, t))
  | stray {a : α} {t : State} (h : stray a t) (ht : t.left.length ≤ m) : Alike stray n m none (some (a, t))

/-- The results go together, and none is stray. -/
abbrev Agree {α : Type} (n m : Nat) (x y : Option (α × State)) : Prop := Alike (fun _ _ => False) n m x y

namespace Alike

variable {α β γ : Type} {stray : α → State → Prop} {stray' : β → State → Prop} {n m : Nat}
  {x y : Option (α × State)}

theorem mono {n' m' : Nat} (h : Alike stray n m x y) (hn : n ≤ n') (hm : m ≤ m') : Alike stray n' m' x y := by
  cases h with
  | read h hs ht => exact .read h (hs.trans hn) (ht.trans hm)
  | neither => exact .neither
  | taken h => exact .taken h
  | stray h ht => exact .stray h (ht.trans hm)

/-- At the end of the text nothing is left afterwards. -/
theorem spend {a : α} {t : State} (h : Alike stray 0 0 x (some (a, t))) : t.left = [] := by
  cases h with
  | read _ _ ht => exact List.length_eq_zero_iff.mp (Nat.le_zero.mp ht)
  | taken h => exact h
  | stray _ ht => exact List.length_eq_zero_iff.mp (Nat.le_zero.mp ht)

/-- Readers one after the other. -/
theorem bind {f g : α × State → Option (β × State)} (h : Alike stray n m x y)
    (hnext : ∀ a s t, Closed s t → s.left.length ≤ n → t.left.length ≤ m →
      Alike stray' s.left.length t.left.length (f (a, s)) (g (a, t)))
    (hstray : ∀ a t, stray a t → t.left.length ≤ m → Alike stray' n m none (g (a, t))) :
    Alike stray' n m (x >>= f) (y >>= g) := by
  cases h with
  | read h hs ht => exact (hnext _ _ _ h hs ht).mono hs ht
  | neither => exact .neither
  | @taken a t h =>
    have hend := hnext a t t (.refl h) (by rw [h]; exact Nat.zero_le n) (by rw [h]; exact Nat.zero_le m)
    rw [h] at hend
    show Alike stray' n m none (g (a, t))
    cases hread : g (a, t) with
    | none => exact .neither
    | some r =>
      rw [hread] at hend
      exact .taken hend.spend
  | stray h ht => exact hstray _ _ h ht

/-- Readers one after the other, of which the first leaves nothing stray. -/
theorem andThen {f g : α × State → Option (β × State)} (h : Agree n m x y)
    (hnext : ∀ a s t, Closed s t → s.left.length ≤ n → t.left.length ≤ m →
      Alike stray' s.left.length t.left.length (f (a, s)) (g (a, t))) :
    Alike stray' n m (x >>= f) (y >>= g) :=
  h.bind hnext fun _ _ h => h.elim

/-- What leaves nothing stray goes with any notion of it. -/
theorem anyStray (h : Agree n m x y) : Alike stray n m x y := by
  cases h with
  | read h hs ht => exact .read h hs ht
  | neither => exact .neither
  | taken h => exact .taken h
  | stray h => exact h.elim

/-- The same decision. -/
theorem ite {p q : Prop} [Decidable p] [Decidable q] {x' y' : Option (α × State)} (hiff : q ↔ p)
    (hthen : Alike stray n m x y) (helse : Alike stray n m x' y') :
    Alike stray n m (if p then x else x') (if q then y else y') := by
  by_cases hp : p
  · rwa [if_pos hp, if_pos (hiff.mpr hp)]
  · rwa [if_neg hp, if_neg (mt hiff.mp hp)]

/-- What is computed on the way is the same. -/
theorem given {o : Option γ} {f g : γ → Option (α × State)} (h : ∀ c, o = some c → Alike stray n m (f c) (g c)) :
    Alike stray n m (o >>= f) (o >>= g) := by
  cases o with
  | none => exact .neither
  | some c => exact h c rfl

end Alike

/-! ## 4. Escapes

An escape reads as much as its first character asks for: digits, a name in braces, or nothing.  None of these ends with
a parenthesis.  The one exception is a brace behind `\b`.  In the text alone nothing is visible behind it and there is
no escape; with the parenthesis in view the brace is left as the beginning of a count, which then cannot be read. -/

section

variable {s t : State}

/-- Digits are read alike: the parenthesis is none. -/
theorem agree_hexDigits (n : Nat) (h : Closed s t) :
    Agree s.left.length t.left.length (hexDigits n s) (hexDigits n t) := by
  induction n generalizing s t with
  | zero => exact .read h le_rfl le_rfl
  | succ n ih =>
    cases h.sight with
    | char c hrest =>
      rw [hexDigits, hexDigits]
      refine .given fun v _ => ?_
      split
      · refine ((ih hrest).andThen fun more s t h _ _ => ?_).mono (Nat.le_succ _) (Nat.le_succ _)
        exact .read h le_rfl le_rfl
      · refine ((ih h.bump).andThen fun more s t h _ _ => ?_).mono (bump_le _) (bump_le _)
        exact .read h le_rfl le_rfl
    | last => exact .neither
    | spent => exact .neither

theorem untilBrace_nil (n : Nat) (h : s.left = []) : untilBrace n s = none := by
  cases n with
  | zero => rfl
  | succ n => rw [untilBrace, h]

theorem untilBrace_cons {c : Char} (hc : c ≠ '\x7d') (n : Nat) (rest : List Char) (flags : Flags) (groups : Nat)
    (names : List String) :
    untilBrace (n + 1) ⟨c :: rest, flags, groups, names⟩ =
      untilBrace n (State.bump ⟨c :: rest, flags, groups, names⟩) >>= fun r => some (c :: r.1, r.2) := by
  rw [untilBrace]
  dsimp only
  split
  · rename_i heq
    cases heq
  · rename_i heq
    exact absurd (List.cons.inj heq).1 hc
  · rename_i heq
    cases heq
    rfl

/-- No brace is found in what is left, which is nothing but the parenthesis at most. -/
theorem untilBrace_of_short {n : Nat} (h : s.left = [] ∨ s.left = [')']) : untilBrace n s = none := by
  rcases h with h | h
  · exact untilBrace_nil n h
  · obtain ⟨left, flags, groups, names⟩ := s
    subst h
    cases n with
    | zero => rfl
    | succ n =>
      rw [untilBrace_cons (by decide), untilBrace_nil n (bump_eq_nil rfl)]
      rfl

/-- A name in braces ends with its brace, and the parenthesis cannot be that. -/
theorem agree_untilBrace {n m : Nat} (h : Closed s t) (hn : s.left.length ≤ n) (hm : t.left.length ≤ m) :
    Agree s.left.length t.left.length (untilBrace n s) (untilBrace m t) := by
  induction n generalizing m s t with
  | zero =>
    have hnil := List.length_eq_zero_iff.mp (Nat.le_zero.mp hn)
    rw [untilBrace_nil 0 hnil, untilBrace_of_short]
    · exact .neither
    · cases h with
      | behind left =>
        obtain rfl : left = [] := hnil
        exact .inr rfl
      | spent => exact .inl rfl
  | succ n ih =>
    cases h.sight with
    | @char c rest rest' flags groups names hrest =>
      obtain ⟨m, rfl⟩ : ∃ k, m = k + 1 := ⟨m - 1, (Nat.sub_add_cancel (Nat.zero_lt_of_lt hm)).symm⟩
      by_cases hc : c = '\x7d'
      · subst hc
        exact .read hrest (Nat.le_succ _) (Nat.le_succ _)
      · have hbump : (State.bump ⟨c :: rest, flags, groups, names⟩).left.length ≤ rest.length := length_bump_le _
        have hbump' : (State.bump ⟨c :: rest', flags, groups, names⟩).left.length ≤ rest'.length := length_bump_le _
        rw [untilBrace_cons hc, untilBrace_cons hc]
        refine ((ih h.bump ?_ ?_).andThen fun more s t h _ _ => ?_).mono (bump_le _) (bump_le _)
        · exact hbump.trans (Nat.le_of_succ_le_succ hn)
        · exact hbump'.trans (Nat.le_of_succ_le_succ hm)
        · exact .read h le_rfl le_rfl
    | last =>
      rw [untilBrace_nil _ rfl, untilBrace_of_short (.inr rfl)]
      exact .neither
    | spent =>
      rw [untilBrace_nil _ rfl, untilBrace_nil _ rfl]
      exact .neither

theorem codePoint_of_ne {digits : Nat} (h : ∀ rest, s.left ≠ '\x7b' :: rest) :
    codePoint digits s = hexDigits digits s >>= fun r => hexChar? r.1 >>= fun c =>
      some (if digits = 2 then .byte c else .char c, r.2) := by
  rw [codePoint]
  split
  · exact absurd ‹_› (h _)
  · rfl

theorem agree_codePoint (digits : Nat) (h : Closed s t) :
    Agree s.left.length t.left.length (codePoint digits s) (codePoint digits t) := by
  by_cases hbrace : ∃ rest, s.left = '\x7b' :: rest
  · obtain ⟨rest, hs⟩ := hbrace
    cases h.sight with
    | @char c rest rest' flags groups names hrest =>
      obtain rfl : c = '\x7b' := (List.cons.inj hs).1
      refine ((agree_untilBrace h.bump (bump_le _) (bump_le _)).andThen fun body s t h _ _ => ?_).mono (bump_le _)
        (bump_le _)
      exact .given fun c _ => .read h le_rfl le_rfl
    | last => cases hs
    | spent => cases hs
  · have ht : ∀ rest, t.left ≠ '\x7b' :: rest := fun rest ht => by
      cases h.sight with
      | char c => exact hbrace ⟨_, by rw [(List.cons.inj ht).1]⟩
      | last => cases ht
      | spent => cases ht
    rw [codePoint_of_ne fun rest hs => hbrace ⟨rest, hs⟩, codePoint_of_ne ht]
    exact (agree_hexDigits digits h).andThen fun body s t h _ _ => .given fun c _ => .read h le_rfl le_rfl

/-- The set of a property that has been read. -/
theorem agree_property (negated : Bool) (p : CharSet × Bool) (h : Closed s t) :
    Agree s.left.length t.left.length
      (if (!s.flags.unicode) = true then (do
          none
          return (Escape.classOf (← s.flags.close (negated != p.2) p.1), s))
        else (do return (Escape.classOf (← s.flags.close (negated != p.2) p.1), s)))
      (if (!t.flags.unicode) = true then (do
          none
          return (Escape.classOf (← t.flags.close (negated != p.2) p.1), t))
        else (do return (Escape.classOf (← t.flags.close (negated != p.2) p.1), t))) := by
  rw [h.flags]
  split
  · exact .neither
  · exact .given fun set _ => .read h le_rfl le_rfl

theorem propertyEscape_char {negated : Bool} {c : Char} (hbrace : c ≠ '\x7b') (hslash : c ≠ '\\') (rest : List Char)
    (flags : Flags) (groups : Nat) (names : List String) :
    propertyEscape negated ⟨c :: rest, flags, groups, names⟩ =
      propertyNamed? (normalizeName [c]) >>= fun set =>
        if (!flags.unicode) = true then (do
          none
          return (Escape.classOf (← flags.close (negated != false) set), ⟨rest, flags, groups, names⟩))
        else (do return (Escape.classOf (← flags.close (negated != false) set), ⟨rest, flags, groups, names⟩)) := by
  rw [propertyEscape]
  dsimp only
  split
  · exact absurd (List.cons.inj ‹_›).1 hbrace
  · exact absurd (List.cons.inj ‹_›).1 hslash
  · rename_i heq
    cases heq
    rfl
  · rename_i heq
    cases heq

theorem agree_propertyEscape (negated : Bool) (h : Closed s t) :
    Agree s.left.length t.left.length (propertyEscape negated s) (propertyEscape negated t) := by
  cases h.sight with
  | @char c rest rest' flags groups names hrest =>
    by_cases hbrace : c = '\x7b'
    · subst hbrace
      refine ((agree_untilBrace h.bump (bump_le _) (bump_le _)).andThen fun body s t h _ _ => ?_).mono (bump_le _)
        (bump_le _)
      show Agree _ _ (propertyClass? body >>= _) (propertyClass? body >>= _)
      exact .given fun p _ => agree_property negated p h
    · by_cases hslash : c = '\\'
      · subst hslash
        exact .neither
      · rw [propertyEscape_char hbrace hslash, propertyEscape_char hbrace hslash]
        refine .given fun set _ => ?_
        exact (agree_property negated (set, false) hrest).mono (Nat.le_succ _) (Nat.le_succ _)
  | last flags groups names =>
    have hnone : propertyNamed? (normalizeName [')']) = none := by decide
    rw [propertyEscape_char (by decide) (by decide), hnone]
    exact .neither
  | spent => exact .neither

/-- A brace behind which nothing but the parenthesis is seen.  The pattern alone ends there, and nothing can follow. -/
def Loose (t : State) : Prop := t.left.head? = some '\x7b' ∧ t.bump.left = [')']

/-- The boundary of a name in braces. -/
def boundaryNamed (ascii : Bool) (name : String) : Option Look :=
  match name with
  | "start" => some (.wordStart ascii)
  | "end" => some (.wordEnd ascii)
  | "start-half" => some (.wordStartHalf ascii)
  | "end-half" => some (.wordEndHalf ascii)
  | _ => none

theorem boundaryKind_brace (rest : List Char) (flags : Flags) (groups : Nat) (names : List String) :
    boundaryKind ⟨'\x7b' :: rest, flags, groups, names⟩ =
      if (State.bump ⟨'\x7b' :: rest, flags, groups, names⟩).left.isEmpty then none
      else if !(State.bump ⟨'\x7b' :: rest, flags, groups, names⟩).left.head?.any fun c => c.isAlpha || c == '-' then
        some (.wordBoundary !flags.unicode, ⟨'\x7b' :: rest, flags, groups, names⟩)
      else untilBrace (State.bump ⟨'\x7b' :: rest, flags, groups, names⟩).left.length
          (State.bump ⟨'\x7b' :: rest, flags, groups, names⟩) >>= fun r =>
        boundaryNamed (!flags.unicode) (.ofList r.1) >>= fun l => some (l, r.2) := by
  rw [boundaryKind]
  refine if_congr Iff.rfl rfl (if_congr Iff.rfl rfl (congrArg _ (funext fun r => ?_)))
  dsimp only
  generalize String.ofList r.1 = name
  by_cases hstart : name = "start"
  · subst hstart
    rfl
  by_cases hend : name = "end"
  · subst hend
    rfl
  by_cases hstartHalf : name = "start-half"
  · subst hstartHalf
    rfl
  by_cases hendHalf : name = "end-half"
  · subst hendHalf
    rfl
  simp [boundaryNamed]

theorem boundaryKind_of_ne (h : ∀ rest, s.left ≠ '\x7b' :: rest) :
    boundaryKind s = some (.wordBoundary !s.flags.unicode, s) := by
  rw [boundaryKind]
  split
  · exact absurd ‹_› (h _)
  · rfl

theorem alike_boundaryKind (h : Closed s t) :
    Alike (fun _ t => Loose t) s.left.length t.left.length (boundaryKind s) (boundaryKind t) := by
  cases h.sight with
  | @char c rest rest' flags groups names hrest =>
    by_cases hbrace : c = '\x7b'
    · subst hbrace
      rw [boundaryKind_brace, boundaryKind_brace]
      have hbump := h.bump
      have hle := bump_le ⟨'\x7b' :: rest, flags, groups, names⟩
      have hle' := bump_le ⟨'\x7b' :: rest', flags, groups, names⟩
      generalize hs : State.bump ⟨'\x7b' :: rest, flags, groups, names⟩ = s' at *
      generalize ht : State.bump ⟨'\x7b' :: rest', flags, groups, names⟩ = t' at *
      cases hbump.sight with
      | char c' hrest' =>
        show Alike _ _ _ (if (!(c'.isAlpha || c' == '-')) = true then _ else _)
          (if (!(c'.isAlpha || c' == '-')) = true then _ else _)
        split
        · exact .read h le_rfl le_rfl
        · refine ((agree_untilBrace hbump le_rfl le_rfl).andThen fun body s t h _ _ => ?_).mono hle hle'
          exact .given fun l _ => .read h le_rfl le_rfl
      | last => exact .stray ⟨rfl, by rw [ht]⟩ le_rfl
      | spent => exact .neither
    · have hne : ∀ rest₁ rest₂, c :: rest₁ ≠ '\x7b' :: rest₂ := fun _ _ heq => hbrace (List.cons.inj heq).1
      rw [boundaryKind_of_ne (hne _), boundaryKind_of_ne (hne _)]
      exact .read h le_rfl le_rfl
  | last => exact .read h le_rfl le_rfl
  | spent => exact .read h le_rfl le_rfl

/-- An escape that the text alone has no end for is a boundary. -/
theorem alike_escape (h : Closed s t) :
    Alike (fun e t => Loose t ∧ ∃ l, e = Escape.look l) (s.left.length - 1) (t.left.length - 1)
      (escape s) (escape t) := by
  cases h.sight with
  | @char c rest rest' flags groups names hrest =>
    unfold escape
    dsimp only
    generalize letterClass flags.unicode c = upper
    generalize letterClass flags.unicode c.toLower = lower
    split
    · exact .read hrest le_rfl le_rfl
    · cases flags.accept _ with
      | none => exact .neither
      | some set => exact .read hrest le_rfl le_rfl
    · split
      · exact .read hrest le_rfl le_rfl
      · split
        case h_1 => exact ((agree_codePoint 2 h.bump).mono (length_bump_le _) (length_bump_le _)).anyStray
        case h_2 => exact ((agree_codePoint 4 h.bump).mono (length_bump_le _) (length_bump_le _)).anyStray
        case h_3 => exact ((agree_codePoint 8 h.bump).mono (length_bump_le _) (length_bump_le _)).anyStray
        case h_4 => exact ((agree_propertyEscape false h.bump).mono (length_bump_le _) (length_bump_le _)).anyStray
        case h_5 => exact ((agree_propertyEscape true h.bump).mono (length_bump_le _) (length_bump_le _)).anyStray
        case h_14 =>
          rw [Option.map_eq_bind, Option.map_eq_bind]
          refine (alike_boundaryKind hrest).bind (fun l s t h _ _ => .read h le_rfl le_rfl) fun l t h ht => ?_
          exact .stray ⟨h, l, rfl⟩ ht
        case h_18 => exact .neither
        all_goals exact .read hrest le_rfl le_rfl
  | last => exact .taken rfl
  | spent => exact .neither

/-! ## 5. Counts of repetitions

A count is digits with blanks around them, and two of them make a repetition in braces.  The parenthesis ends digits
like anything else that is no digit. -/

theorem Closed.skipBlanks (h : Closed s t) : Closed s.skipBlanks t.skipBlanks := by
  cases h with
  | behind left flags groups names =>
    have happend : (left ++ [')']).dropWhile Unicode.isBlank = left.dropWhile Unicode.isBlank ++ [')'] := by
      rw [List.dropWhile_append]
      split
      · rename_i hempty
        rw [List.isEmpty_iff.mp hempty]
        decide
      · rfl
    rw [State.skipBlanks, State.skipBlanks, happend]
    exact .behind _ flags groups names
  | spent flags groups names => exact .spent flags groups names

theorem skipBlanks_le (s : State) : s.skipBlanks.left.length ≤ s.left.length := (List.dropWhile_suffix _).length_le

/-- Where no digit stands, none is read. -/
theorem digits_of_end (n : Nat) (h : ∀ c ∈ s.left.head?, ¬ ('0' ≤ c ∧ c ≤ '9')) : digits n s = some ([], s) := by
  cases n with
  | zero => rfl
  | succ n =>
    rw [digits]
    split
    · rename_i c _ hleft
      exact if_neg (h c (by rw [hleft]; rfl))
    · rfl

/-- At the end of the text and before the parenthesis no digit is read. -/
theorem agree_digits_nil (n m : Nat) (h : Closed s t) (hnil : s.left = []) :
    Agree s.left.length t.left.length (digits n s) (digits m t) := by
  rw [digits_of_end n (by rw [hnil]; simp), digits_of_end m]
  · exact .read h le_rfl le_rfl
  · cases h with
    | behind left =>
      obtain rfl : left = [] := hnil
      simp only [List.nil_append, List.head?_cons, Option.mem_some_iff, forall_eq']
      decide
    | spent => simp

theorem agree_digits {n m : Nat} (h : Closed s t) (hn : s.left.length ≤ n) (hm : t.left.length ≤ m) :
    Agree s.left.length t.left.length (digits n s) (digits m t) := by
  induction n generalizing m s t with
  | zero => exact agree_digits_nil 0 m h (List.length_eq_zero_iff.mp (Nat.le_zero.mp hn))
  | succ n ih =>
    cases h.sight with
    | @char c rest rest' flags groups names hrest =>
      obtain ⟨m, rfl⟩ : ∃ k, m = k + 1 := ⟨m - 1, (Nat.sub_add_cancel (Nat.zero_lt_of_lt hm)).symm⟩
      by_cases hc : '0' ≤ c ∧ c ≤ '9'
      · rw [digits, digits]
        dsimp only
        rw [if_pos hc, if_pos hc]
        refine ((ih h.bump ?_ ?_).andThen fun more s t h _ _ => ?_).mono (bump_le _) (bump_le _)
        · exact (length_bump_le _).trans (Nat.le_of_succ_le_succ hn)
        · exact (length_bump_le _).trans (Nat.le_of_succ_le_succ hm)
        · exact .read h le_rfl le_rfl
      · rw [digits_of_end _ (by simpa using hc), digits_of_end _ (by simpa using hc)]
        exact .read h le_rfl le_rfl
    | last => exact agree_digits_nil _ m h rfl
    | spent => exact agree_digits_nil _ m h rfl

theorem agree_count (h : Closed s t) : Agree s.left.length t.left.length (count s) (count t) := by
  refine ((agree_digits h.skipBlanks (skipBlanks_le s) (skipBlanks_le t)).andThen fun ds s t h _ _ => ?_).mono
    (skipBlanks_le s) (skipBlanks_le t)
  dsimp only
  split
  · exact .neither
  · split
    · exact .neither
    · exact .read h.skipBlanks (skipBlanks_le s) (skipBlanks_le t)

/-- Reads the larger count of a repetition, given the smaller one. -/
def highCount (low : Nat) : Reader (Option Nat) := fun st =>
  if st.left.head? = some ',' then
    if st.bump.left.head? = some '\x7d' then some (none, st.bump) else (count st.bump).map fun r => (some r.1, r.2)
  else some (some low, st)

/-- Reads the brace behind the counts of a repetition. -/
def countsEnd (low : Nat) (high : Option Nat) : Reader (Nat × Option Nat) := fun st =>
  if st.left.head? = some '\x7d' then if high.all (low ≤ ·) then some ((low, high), st.bump) else none else none

/-- Whether a character stands first is seen by the pattern and by the condition. -/
theorem match_head {α : Type} (l : List Char) (x y : α) :
    (match l with
      | '\x7d' :: _ => x
      | _ => y) = if l.head? = some '\x7d' then x else y := by
  split
  · rfl
  · rename_i hne
    exact (if_neg (head?_ne hne)).symm

theorem counts_eq (s : State) :
    counts s = count s.skipSpace >>= fun r => highCount r.1 r.2 >>= fun q => countsEnd r.1 q.1 q.2 := by
  rw [counts]
  refine congrArg _ (funext fun ⟨low, st⟩ => ?_)
  dsimp only
  rw [highCount]
  split
  · rename_i hcomma
    have hhead : st.left.head? = some ',' := by rw [hcomma, List.head?_cons]
    rw [if_pos hhead]
    split
    · exact match_head _ _ _
    · cases count st.bump with
      | none => rfl
      | some r => exact match_head _ _ _
  · rename_i hne
    rw [if_neg (head?_ne hne)]
    exact match_head _ _ _

theorem agree_highCount (low : Nat) (h : Closed s t) :
    Agree s.left.length t.left.length (highCount low s) (highCount low t) := by
  refine .ite (h.head?_iff (by decide)) (.ite (h.bump.head?_iff (by decide)) ?_ ?_) (.read h le_rfl le_rfl)
  · exact .read h.bump (bump_le s) (bump_le t)
  · rw [Option.map_eq_bind, Option.map_eq_bind]
    refine ((agree_count h.bump).andThen fun n s t h _ _ => ?_).mono (bump_le s) (bump_le t)
    exact .read h le_rfl le_rfl

theorem agree_countsEnd (low : Nat) (high : Option Nat) (h : Closed s t) :
    Agree s.left.length t.left.length (countsEnd low high s) (countsEnd low high t) :=
  .ite (h.head?_iff (by decide)) (.ite Iff.rfl (.read h.bump (bump_le s) (bump_le t)) .neither) .neither

theorem agree_counts (h : Closed s t) : Agree s.left.length t.left.length (counts s) (counts t) := by
  rw [counts_eq, counts_eq]
  refine ((agree_count h.skipSpace).andThen fun low s t h _ _ => ?_).mono
    (length_skipSpace_le s) (length_skipSpace_le t)
  exact (agree_highCount low h).andThen fun high s t h _ _ => agree_countsEnd low high h

theorem greed_eq (s : State) :
    greed s = if s.left.head? = some '?' then some (s.flags.swapGreed, { s with left := s.left.tail })
      else some (!s.flags.swapGreed, s) := by
  rw [greed]
  split
  · rename_i hmark
    rw [hmark]
    rfl
  · rename_i hne
    rw [if_neg (head?_ne hne)]

theorem agree_greed (h : Closed s t) : Agree s.left.length t.left.length (greed s) (greed t) := by
  have htail := h.tail
  rw [h.flags] at htail
  rw [greed_eq, greed_eq, h.flags]
  refine .ite (h.head?_iff (by decide)) (.read htail ?_ ?_) (.read h le_rfl le_rfl)
  · exact (List.tail_sublist _).length_le
  · exact (List.tail_sublist _).length_le

/-- Repetitions of a part are read behind their first character. -/
theorem agree_repetition (before : List Part) {c : Char} {rest rest' : List Char} {flags : Flags} {groups : Nat}
    {names : List String} (h : Closed ⟨rest, flags, groups, names⟩ ⟨rest', flags, groups, names⟩) :
    Agree rest.length rest'.length (repetition before ⟨c :: rest, flags, groups, names⟩)
      (repetition before ⟨c :: rest', flags, groups, names⟩) := by
  cases before with
  | nil => exact .neither
  | cons p before =>
    unfold repetition
    dsimp only
    refine .ite Iff.rfl .neither ?_
    have hgreed : ∀ low high {s t : State}, Closed s t → Agree s.left.length t.left.length
        (greed s >>= fun r => some (repeatPart r.1 low high p :: before, r.2))
        (greed t >>= fun r => some (repeatPart r.1 low high p :: before, r.2)) := fun low high _ _ h =>
      (agree_greed h).andThen fun greedy s t h _ _ => .read h le_rfl le_rfl
    split
    case h_4 => exact (agree_counts h).andThen fun q s t h _ _ => hgreed q.1 q.2 h
    all_goals exact hgreed _ _ h

/-- Nothing can be counted where a brace is loose. -/
theorem repetition_of_loose {p : Part} {before : List Part} (h : Loose t) : repetition (p :: before) t = none := by
  obtain ⟨left, flags, groups, names⟩ := t
  obtain ⟨hbrace, hbump⟩ := h
  obtain ⟨rest, rfl⟩ := List.head?_eq_some_iff.mp hbrace
  have hblanks : (State.skipSpace ⟨rest, flags, groups, names⟩).skipBlanks.left = [')'] := by
    rw [State.skipBlanks, show (State.skipSpace ⟨rest, flags, groups, names⟩).left = [')'] from hbump]
    rfl
  have hcounts : counts ⟨rest, flags, groups, names⟩ = none := by
    have hend : ∀ c ∈ (State.skipSpace ⟨rest, flags, groups, names⟩).skipBlanks.left.head?,
        ¬ ('0' ≤ c ∧ c ≤ '9') := by
      rw [hblanks]
      rintro c ⟨⟩
      decide
    rw [counts_eq, count, digits_of_end _ hend]
    rfl
  unfold repetition
  dsimp only
  rw [hcounts]
  exact ite_self none

end

end Regraft.Pattern.Parser
