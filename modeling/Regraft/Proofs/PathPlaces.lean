import Mathlib.Data.List.TakeWhile
import Regraft.Proofs.PathReaders
/-!
# Where a parser of paths stands

A parser of paths slices its text at places that it keeps as numbers of bytes.  It adds the sizes of characters that it
has seen, the fixed sizes of `..`, `()` and `!=`, and takes off the size of a quote.  `At text pos rest` says what all
that is to come to: `pos` is the number of bytes before `rest`, which is the end of the text.

* Where this holds the slice from `pos` exists and is `rest` (`charsFrom?_at`), and between two such places there is a
  slice as well (`slice?_at`).  There are no others: a slice is between two of the places that strings have, in their
  order (`isSome_slice?_iff`).
* `Agrees` relates what the parser does at a place to what a reader does with the text that is left there.  Both go on
  with the same result from the same place, or both stop with the same fault where that fault is found
  (`PathFault.FoundAt`).  There is no case for a slice that does not exist, and none for a bound that is reached.
* One lemma for each parser says that it agrees with its reader.  For those that recurse this is an induction on the
  bound, which has to be five times the length of what is left, and some more for those that go deeper before the next
  bracket (`Within`, `within`).

So the parser is its readers for every text (`run_cases`): it never halts for want of a slice or of a bound, and the
position that it reports is a place in the text at which the fault is found.
-/

namespace Regraft

/-- What the text is like around the place where a fault is reported. -/
def PathFault.FoundAt (before left : List Char) : PathFault → Prop
  | .emptyStep => ∀ c ∈ left.head?, c = '/'
  | .nameExpected => left = []
  | .notNameStart c => left.head? = some c ∧ Path.Parser.isNameStart c = false
  | .positionTooLarge => ∃ start digits, before = start ++ digits ∧ digits.all Path.Parser.isDigit = true ∧
      (∀ c ∈ left.head?, Path.Parser.isDigit c = false) ∧
        Path.Parser.maxPosition < Path.Parser.digitsValue digits
  | .positionZero => ∃ start digits, before = start ++ digits ∧ digits.all Path.Parser.isDigit = true ∧
      (∀ c ∈ left.head?, Path.Parser.isDigit c = false) ∧ digits ≠ [] ∧ Path.Parser.digitsValue digits = 0
  | .bracketNotClosed => left = []
  | .bracketNotOpened => left.head? = some ']'
  | .unexpected c => left.head? = some c ∧ c ≠ ']'
  | .unexpectedInPredicate c => before.getLast? = some c ∧ c ≠ ']'
  | .literalExpected => left = [] ∨ ∃ c, before.getLast? = some c ∧ c ≠ '"' ∧ c ≠ '\''
  | .literalNotClosed => left = [] ∧ ∃ start quote inside, before = start ++ quote :: inside ∧
      (quote = '"' ∨ quote = '\'') ∧ quote ∉ inside
  | .notDestination _ => False

namespace Path

/-! ## 1. Places

Positions are numbers of bytes and texts are lists of characters, so that a slice is a search: characters are taken off
as long as their sizes fit in the number.  It fails in the middle of a character and behind the end, as a slice of a
string does; that these are exactly the failures is `isSome_slice?_iff`, with the positions that the standard library
calls valid. -/

/-- The number of bytes of a text. -/
def byteLength : List Char → Nat
  | [] => 0
  | c :: rest => c.utf8Size + byteLength rest

theorem byteLength_append (s t : List Char) : byteLength (s ++ t) = byteLength s + byteLength t := by
  induction s with
  | nil => simp [byteLength]
  | cons c s ih => simp [byteLength, ih, Nat.add_assoc]

theorem byteLength_eq (s : List Char) : byteLength s = (String.ofList s).utf8ByteSize := by
  induction s with
  | nil => rfl
  | cons c s ih => rw [byteLength, String.ofList_cons, String.utf8ByteSize_append, String.utf8ByteSize_singleton, ih]

/-- The text from a place on. -/
def At (text : List Char) (pos : Nat) (rest : List Char) : Prop :=
  ∃ before, text = before ++ rest ∧ pos = byteLength before

variable {text s rest taken : List Char} {pos : Nat}

theorem at_start (text : List Char) : At text 0 text := ⟨[], rfl, rfl⟩

/-- Behind what has been taken. -/
theorem At.behind (h : At text pos (taken ++ rest)) : At text (pos + byteLength taken) rest := by
  obtain ⟨before, rfl, rfl⟩ := h
  exact ⟨before ++ taken, by rw [List.append_assoc], (byteLength_append before taken).symm⟩

theorem At.next {c : Char} (h : At text pos (c :: rest)) : At text (pos + c.utf8Size) rest := by
  have hbehind : At text (pos + byteLength [c]) rest := At.behind h
  exact hbehind

/-- Behind two characters whose sizes are known to be one. -/
theorem At.afterTwo {c d : Char} (h : At text pos (c :: d :: rest)) (hsize : c.utf8Size + d.utf8Size = 2) :
    At text (pos + 2) rest := by
  rw [← hsize, ← Nat.add_assoc]
  exact h.next.next

theorem At.suffix (h : At text pos rest) : rest <:+ text := by
  obtain ⟨before, rfl, -⟩ := h
  exact List.suffix_append before rest

/-- What stands before the end of a text ends in what has been taken. -/
theorem before_eq {start before : List Char} (h : text = start ++ (taken ++ rest)) (h' : text = before ++ rest) :
    before = start ++ taken := by
  rw [h, ← List.append_assoc] at h'
  exact (List.append_cancel_right h').symm

theorem charsFrom?_cons (c : Char) (s : List Char) (n : Nat) :
    charsFrom? (c :: s) (c.utf8Size + n) = charsFrom? s n := by
  have hpos := c.utf8Size_pos
  obtain ⟨m, hm⟩ : ∃ m, c.utf8Size + n = m + 1 := ⟨c.utf8Size + n - 1, by omega⟩
  rw [hm, charsFrom?, ← hm, if_pos (Nat.le_add_right _ _), Nat.add_sub_cancel_left]

theorem charsBefore?_cons (c : Char) (s : List Char) (n : Nat) :
    charsBefore? (c :: s) (c.utf8Size + n) = (charsBefore? s n).map (c :: ·) := by
  have hpos := c.utf8Size_pos
  obtain ⟨m, hm⟩ : ∃ m, c.utf8Size + n = m + 1 := ⟨c.utf8Size + n - 1, by omega⟩
  rw [hm, charsBefore?, ← hm, if_pos (Nat.le_add_right _ _), Nat.add_sub_cancel_left]

theorem charsFrom?_zero (s : List Char) : charsFrom? s 0 = some s := by
  cases s <;> rfl

theorem charsBefore?_zero (s : List Char) : charsBefore? s 0 = some [] := by
  cases s <;> rfl

/-- The slice from a place to the end is what is left there. -/
theorem charsFrom?_at (h : At text pos rest) : charsFrom? text pos = some rest := by
  obtain ⟨before, rfl, rfl⟩ := h
  induction before with
  | nil => exact charsFrom?_zero rest
  | cons c before ih =>
    rw [List.cons_append, byteLength, charsFrom?_cons]
    exact ih

theorem charsBefore?_append (taken rest : List Char) :
    charsBefore? (taken ++ rest) (byteLength taken) = some taken := by
  induction taken with
  | nil => exact charsBefore?_zero rest
  | cons c taken ih => rw [List.cons_append, byteLength, charsBefore?_cons, ih, Option.map_some]

/-- A slice from somewhere to the end begins at a place. -/
theorem at_of_charsFrom? (h : charsFrom? text pos = some rest) : At text pos rest := by
  induction text generalizing pos with
  | nil =>
    cases pos with
    | zero =>
      cases h
      exact at_start []
    | succ pos => cases h
  | cons c text ih =>
    cases pos with
    | zero =>
      cases h
      exact at_start (c :: text)
    | succ pos =>
      rw [charsFrom?] at h
      split at h
      · rename_i hle
        obtain ⟨before, rfl, hbefore⟩ := ih h
        refine ⟨c :: before, rfl, ?_⟩
        rw [byteLength]
        omega
      · cases h

theorem isSome_charsFrom?_iff (text : String) (n : Nat) :
    (charsFrom? text.toList n).isSome = true ↔ String.Pos.Raw.IsValid text ⟨n⟩ := by
  rw [Option.isSome_iff_exists, String.Pos.Raw.isValid_iff_exists_append]
  constructor
  · rintro ⟨rest, h⟩
    obtain ⟨before, htext, rfl⟩ := at_of_charsFrom? h
    refine ⟨.ofList before, .ofList rest, ?_, ?_⟩
    · rw [← String.ofList_append, ← htext, String.ofList_toList]
    · rw [byteLength_eq]
      rfl
  · rintro ⟨before, rest, rfl, hn⟩
    have hbytes : n = byteLength before.toList := by
      rw [byteLength_eq, String.ofList_toList]
      exact congrArg String.Pos.Raw.byteIdx hn
    exact ⟨rest.toList, charsFrom?_at ⟨before.toList, String.toList_append, hbytes⟩⟩

/-- What stands before a number of bytes exists where what stands behind it does. -/
theorem isSome_charsBefore? (s : List Char) (n : Nat) : (charsBefore? s n).isSome = (charsFrom? s n).isSome := by
  induction s generalizing n with
  | nil => cases n <;> rfl
  | cons c s ih =>
    cases n with
    | zero => rfl
    | succ n =>
      rw [charsBefore?, charsFrom?]
      split
      · rw [Option.isSome_map, ih]
      · rfl

theorem charsFrom?_append (before rest : List Char) (n : Nat) :
    charsFrom? (before ++ rest) (byteLength before + n) = charsFrom? rest n := by
  induction before with
  | nil => rw [List.nil_append, byteLength, Nat.zero_add]
  | cons c before ih => rw [List.cons_append, byteLength, Nat.add_assoc, charsFrom?_cons, ih]

/-- **There are slices between the places of a string, taken in order, and no others.** -/
theorem isSome_slice?_iff (text : String) (start stop : Nat) :
    (slice? text.toList start stop).isSome = true ↔
      start ≤ stop ∧ String.Pos.Raw.IsValid text ⟨start⟩ ∧ String.Pos.Raw.IsValid text ⟨stop⟩ := by
  rw [← isSome_charsFrom?_iff, ← isSome_charsFrom?_iff, slice?]
  split
  · rename_i hle
    cases hfrom : charsFrom? text.toList start with
    | none => simp
    | some rest =>
      obtain ⟨before, htext, rfl⟩ := at_of_charsFrom? hfrom
      obtain ⟨n, rfl⟩ := Nat.exists_eq_add_of_le hle
      rw [Option.bind_some, Nat.add_sub_cancel_left, isSome_charsBefore?, htext, charsFrom?_append]
      simp
  · rename_i hle
    simp [hle]

/-- Between a place and one behind it there is a slice. -/
theorem slice?_at (h : At text pos (taken ++ rest)) : slice? text pos (pos + byteLength taken) = some taken := by
  rw [slice?, if_pos (Nat.le_add_right _ _), charsFrom?_at h, Option.bind_some, Nat.add_sub_cancel_left]
  exact charsBefore?_append taken rest

/-! ## 2. Parsers at a place

What the small parsers do where they stand at a place.  Their equations need `At` because they slice; in return none of
them mentions a slice, so the larger parsers can be followed without opening one again. -/

namespace Parser

variable {α β : Type}

/-- A parser goes on with what the first part of it has read, where that has left it. -/
theorem bind_ok {m : Parser α} {f : α → Parser β} {a : α} {pos' : Nat} (h : m text pos = .ok (a, pos')) :
    (m >>= f) text pos = f a text pos' := by
  show (m text pos >>= fun x => f x.1 text x.2) = _
  rw [h]
  rfl

theorem bind_error {m : Parser α} {f : α → Parser β} {e : Halt} (h : m text pos = .error e) :
    (m >>= f) text pos = .error e := by
  show (m text pos >>= fun x => f x.1 text x.2) = _
  rw [h]
  rfl

theorem read_at (text : List Char) (pos : Nat) : (read : Parser (List Char)) text pos = .ok (text, pos) := rfl

theorem get_at (text : List Char) (pos : Nat) : (get : Parser Nat) text pos = .ok (pos, pos) := rfl

theorem advance_at (bytes : Nat) (text : List Char) (pos : Nat) : advance bytes text pos = .ok ((), pos + bytes) := rfl

theorem exactly_some (a : α) (text : List Char) (pos : Nat) : exactly (some a) text pos = .ok (a, pos) := rfl

theorem remaining_at (h : At text pos rest) : remaining text pos = .ok (rest, pos) := by
  rw [remaining, bind_ok (read_at text pos), bind_ok (get_at text pos), charsFrom?_at h, exactly_some]

theorem slice_at (h : At text pos (taken ++ rest)) (now : Nat) :
    slice pos (pos + byteLength taken) text now = .ok (.ofList taken, now) := by
  rw [slice, bind_ok (read_at text now), slice?_at h, bind_ok (exactly_some taken text now)]
  rfl

/-- The next character is the first of what is left. -/
theorem peek_at (h : At text pos rest) : peek text pos = .ok (rest.head?, pos) := by
  rw [peek, bind_ok (remaining_at h)]
  rfl

theorem peekSecond_at (h : At text pos rest) : peekSecond text pos = .ok (rest[1]?, pos) := by
  rw [peekSecond, bind_ok (remaining_at h)]
  rfl

theorem startsWith_at (h : At text pos rest) (word : String) :
    startsWith word text pos = .ok (word.toList.isPrefixOf rest, pos) := by
  rw [startsWith, bind_ok (remaining_at h)]
  rfl

/-- A step goes on by the size of the character that it takes. -/
theorem bump_cons {c : Char} (h : At text pos (c :: rest)) : bump text pos = .ok (some c, pos + c.utf8Size) := by
  rw [bump, bind_ok (peek_at h)]
  rfl

theorem bump_nil (h : At text pos []) : bump text pos = .ok (none, pos) := by
  rw [bump, bind_ok (peek_at h)]
  rfl

theorem eat_cons {c : Char} (h : At text pos (c :: rest)) : eat c text pos = .ok (true, pos + c.utf8Size) := by
  rw [eat, bind_ok (peek_at h), List.head?_cons, if_pos rfl]
  rfl

theorem eat_of_ne {c : Char} (h : At text pos rest) (hc : rest.head? ≠ some c) : eat c text pos = .ok (false, pos) := by
  rw [eat, bind_ok (peek_at h), if_neg hc]
  rfl

/-- A loop takes all characters of the kind, if there are not more than it may take. -/
theorem bumpWhile_at {p : Char → Bool} {bound : Nat} (h : At text pos rest) (hbound : rest.length < bound) :
    bumpWhile p bound text pos = .ok ((), pos + byteLength (rest.takeWhile p)) := by
  induction bound generalizing pos rest with
  | zero => exact absurd hbound (Nat.not_lt_zero _)
  | succ bound ih =>
    rw [bumpWhile, bind_ok (peek_at h)]
    cases rest with
    | nil => rfl
    | cons c rest =>
      cases hc : p c with
      | true =>
        rw [if_pos (by simp [hc]), bind_ok (bump_cons h), ih h.next (Nat.lt_of_succ_lt_succ hbound),
          List.takeWhile_cons_of_pos hc, byteLength, Nat.add_assoc]
      | false =>
        rw [if_neg (by simp [hc]), List.takeWhile_cons_of_neg (by simp [hc])]
        rfl

theorem skip_at (h : At text pos rest) (p : Char → Bool) :
    skip p text pos = .ok ((), pos + byteLength (rest.takeWhile p)) := by
  rw [skip, bind_ok (read_at text pos)]
  exact bumpWhile_at h (Nat.lt_succ_of_le h.suffix.length_le)

end Parser

theorem At.afterWhile (h : At text pos rest) (p : Char → Bool) :
    At text (pos + byteLength (rest.takeWhile p)) (rest.dropWhile p) := by
  rw [← List.takeWhile_append_dropWhile (p := p) (l := rest)] at h
  exact h.behind

/-! ## 3. Parsers and readers

A parser and its reader are compared in step.  Each of the lemmas follows the parser with the equations above and the
reader by computation; where both come to a fault, it is shown to be found there.  The slice that a parser takes between
two of its positions is what the reader has consumed (`slice_between`), which is where the arithmetic of positions is
used. -/

open Readers (Reader Stop consumed consumed_append consumed_dropWhile)

/-- What a parser comes to at a place is what a reader comes to with the text `s` that is left there. -/
inductive Agrees {α : Type} (text s : List Char) : Except Halt (α × Nat) → Except Stop (α × List Char) → Prop
  | read {a : α} {pos : Nat} {rest : List Char} (h : At text pos rest) (hrest : rest <:+ s) :
      Agrees text s (.ok (a, pos)) (.ok (a, rest))
  | stopped {fault : PathFault} {before left : List Char} (h : text = before ++ left) (hleft : left <:+ s)
      (hfound : fault.FoundAt before left) :
      Agrees text s (.error (.malformed fault (byteLength before))) (.error ⟨fault, left⟩)

namespace Agrees

variable {α β : Type} {x : Except Halt (α × Nat)} {x' : Except Stop (α × List Char)}

theorem of_suffix {t : List Char} (h : Agrees text t x x') (ht : t <:+ s) : Agrees text s x x' := by
  cases h with
  | read h hrest => exact .read h (hrest.trans ht)
  | stopped h hleft hfound => exact .stopped h (hleft.trans ht) hfound

/-- Both go on from where they have come to. -/
theorem bind {m : Parser α} {f : α → Parser β} {f' : α × List Char → Except Stop (β × List Char)}
    (h : Agrees text s (m text pos) x')
    (hf : ∀ a pos' rest, At text pos' rest → rest <:+ s → Agrees text rest (f a text pos') (f' (a, rest))) :
    Agrees text s ((m >>= f) text pos) (x' >>= f') := by
  generalize hm : m text pos = x at h
  cases h with
  | @read a pos' rest h hrest =>
    rw [Parser.bind_ok hm]
    exact (hf a pos' rest h hrest).of_suffix hrest
  | stopped h hleft hfound =>
    rw [Parser.bind_error hm]
    exact .stopped h hleft hfound

/-- Both stop here. -/
theorem here {fault : PathFault} (h : At text pos rest) (hrest : rest <:+ s)
    (hfound : ∀ before, text = before ++ rest → fault.FoundAt before rest) :
    Agrees (α := α) text s (.error (.malformed fault pos)) (.error ⟨fault, rest⟩) := by
  obtain ⟨before, htext, rfl⟩ := h
  exact .stopped htext hrest (hfound before htext)

end Agrees

/-- What is left in two places is different. -/
theorem At.unique {pos' : Nat} (h : At text pos rest) (h' : At text pos' rest) : pos' = pos := by
  obtain ⟨before, rfl, rfl⟩ := h
  obtain ⟨before', heq, rfl⟩ := h'
  rw [List.append_cancel_right heq]

namespace Parser

variable {α β : Type}

/-- The slice between two places is what a reader has consumed. -/
theorem slice_between {pos' : Nat} (h : At text pos s) (h' : At text pos' rest) (hrest : rest <:+ s) (now : Nat) :
    slice pos pos' text now = .ok (consumed s rest, now) := by
  obtain ⟨taken, rfl⟩ := hrest
  rw [consumed_append, h.behind.unique h', slice_at h]

theorem nameStart_nil (h : At text pos []) : nameStart text pos = .error (.malformed .nameExpected pos) := by
  rw [nameStart, bind_ok (peek_at h)]
  rfl

theorem nameStart_cons {c : Char} (h : At text pos (c :: rest)) : nameStart text pos =
    if isNameStart c then .ok ((), pos + c.utf8Size) else .error (.malformed (.notNameStart c) pos) := by
  rw [nameStart, bind_ok (peek_at h)]
  dsimp only [List.head?_cons]
  split
  · rw [bind_ok (bump_cons h)]
    rfl
  · rfl

/-- A name is the slice from its first character to where its letters end. -/
theorem ncname_agrees (h : At text pos s) : Agrees text s (ncname text pos) (Readers.ncname s) := by
  rw [ncname, bind_ok (get_at text pos)]
  cases s with
  | nil =>
    rw [bind_error (nameStart_nil h)]
    exact .here h List.nil_suffix fun _ _ => rfl
  | cons c rest =>
    have hstart := nameStart_cons h
    rw [Readers.ncname]
    split at hstart
    · rename_i hc
      have hsuffix : rest.dropWhile isNameChar <:+ c :: rest :=
        (List.dropWhile_suffix _).trans (List.suffix_cons c rest)
      have hslice := slice_between h (h.next.afterWhile isNameChar) hsuffix
      have hconsumed : consumed (c :: rest) (rest.dropWhile isNameChar) =
          .ofList (c :: rest.takeWhile isNameChar) := consumed_dropWhile isNameChar [c] rest
      rw [if_pos hc, bind_ok hstart, bind_ok (skip_at h.next isNameChar), bind_ok (get_at text _), hslice, hconsumed]
      exact .read (h.next.afterWhile isNameChar) hsuffix
    · rename_i hc
      rw [if_neg hc, bind_error hstart]
      exact .here h (List.suffix_refl _) fun _ _ => ⟨rfl, Bool.eq_false_iff.mpr hc⟩

theorem name_agrees (h : At text pos s) : Agrees text s (name text pos) (Readers.name s) := by
  rw [name, Readers.name]
  refine Agrees.bind (ncname_agrees h) fun first pos rest h hrest => ?_
  rw [bind_ok (peek_at h)]
  dsimp only
  by_cases hcolon : rest.head? = some ':'
  · obtain ⟨after, rfl⟩ := List.head?_eq_some_iff.mp hcolon
    rw [List.head?_cons, if_pos rfl, bind_ok (bump_cons h)]
    refine (Agrees.bind (ncname_agrees h.next) fun second pos rest h hrest => ?_).of_suffix (List.suffix_cons ':' after)
    exact .read h (List.suffix_refl rest)
  · rw [if_neg hcolon]
    split
    · exact absurd rfl hcolon
    · exact .read h (List.suffix_refl rest)

theorem named_agrees (h : At text pos s) : Agrees text s (named text pos) (do
    let (n, rest) ← Readers.name s
    match rest with
    | '(' :: ')' :: rest' =>
      if n = ⟨none, "text"⟩ then pure (.text, rest') else pure (.element n, rest)
    | _ => pure (.element n, rest)) := by
  rw [named]
  refine Agrees.bind (name_agrees h) fun n pos rest h hrest => ?_
  dsimp only
  by_cases hn : n = ⟨none, "text"⟩
  · rw [if_pos hn, bind_ok (startsWith_at h "()")]
    by_cases hword : "()".toList.isPrefixOf rest = true
    · obtain ⟨after, rfl⟩ := List.isPrefixOf_iff_prefix.mp hword
      rw [if_pos hword, bind_ok (advance_at 2 text pos)]
      have hafter : At text (pos + 2) after := h.afterTwo rfl
      show Agrees text ('(' :: ')' :: after) _ (if n = ⟨none, "text"⟩ then _ else _)
      rw [if_pos hn]
      exact .read hafter (List.suffix_append ['(', ')'] after)
    · rw [if_neg hword]
      split
      · exact absurd rfl hword
      · exact .read h (List.suffix_refl rest)
  · rw [if_neg hn]
    split
    · rw [if_neg hn]
      exact .read h (List.suffix_refl _)
    · exact .read h (List.suffix_refl rest)

/-- A test steps over `..` and `()` by two bytes, which is what they take. -/
theorem test_agrees (h : At text pos s) : Agrees text s (test text pos) (Readers.test s) := by
  rw [test, bind_ok (peek_at h), Readers.test.eq_def]
  split
  · exact .here h (List.suffix_refl _) fun _ _ c hc => absurd hc (by simp)
  · exact .here h (List.suffix_refl _) fun _ _ c hc => (Option.some.inj hc).symm
  · rename_i after
    have hsecond : ('.' :: '.' :: after)[1]? = some '.' := rfl
    simp only [List.head?_cons]
    rw [bind_ok (peekSecond_at h), if_pos hsecond, bind_ok (advance_at 2 text pos)]
    -- Two bytes are two characters here, as both have been seen to be dots.
    exact .read (h.afterTwo rfl) (List.suffix_append ['.', '.'] after)
  · rename_i after hsecond
    have hsecond : ('.' :: after)[1]? ≠ some '.' := by
      intro hdot
      cases after with
      | nil => simp at hdot
      | cons c after =>
        obtain rfl : c = '.' := by simpa using hdot
        exact hsecond after rfl
    simp only [List.head?_cons]
    rw [bind_ok (peekSecond_at h), if_neg hsecond, bind_ok (bump_cons h)]
    exact .read h.next (List.suffix_cons '.' after)
  · rename_i after
    simp only [List.head?_cons]
    rw [bind_ok (bump_cons h)]
    exact .read h.next (List.suffix_cons '*' after)
  · rename_i after
    simp only [List.head?_cons]
    rw [bind_ok (bump_cons h)]
    refine (Agrees.bind (name_agrees h.next) fun n pos rest h hrest => ?_).of_suffix (List.suffix_cons '@' after)
    exact .read h (List.suffix_refl rest)
  · rename_i hnil hslash _ hdot hstar hat
    have hnamed := named_agrees h
    cases s with
    | nil => exact absurd rfl hnil
    | cons c rest =>
      have hslash : c ≠ '/' := fun hc => hslash rest (congrArg (· :: rest) hc)
      have hdot : c ≠ '.' := fun hc => hdot rest (congrArg (· :: rest) hc)
      have hstar : c ≠ '*' := fun hc => hstar rest (congrArg (· :: rest) hc)
      have hat : c ≠ '@' := fun hc => hat rest (congrArg (· :: rest) hc)
      simp only [List.head?_cons]
      exact hnamed

theorem position_agrees (h : At text pos s) (hdigit : s.head?.any isDigit = true) :
    Agrees text s (position text pos) (Readers.position s) := by
  have hsuffix : s.dropWhile isDigit <:+ s := List.dropWhile_suffix _
  have hconsumed : consumed s (s.dropWhile isDigit) = .ofList (s.takeWhile isDigit) := consumed_dropWhile isDigit [] s
  have hafter := h.afterWhile isDigit
  -- The digits that are reported with a fault are all there are, which is what `FoundAt` asks for.
  have hstop : ∀ c ∈ (s.dropWhile isDigit).head?, isDigit c = false := fun c hc =>
    Bool.eq_false_iff.mpr fun hd => by
      have hnot := List.head?_dropWhile_not isDigit s
      rw [Option.mem_def.mp hc] at hnot
      exact absurd hd (by simpa using hnot)
  have hbefore : ∀ before, text = before ++ s.dropWhile isDigit → ∃ start, before = start ++ s.takeWhile isDigit := by
    intro before hbefore
    obtain ⟨start, htext, -⟩ := h
    refine ⟨start, before_eq ?_ hbefore⟩
    rw [List.takeWhile_append_dropWhile, htext]
  rw [position, bind_ok (get_at text pos), bind_ok (skip_at h isDigit), bind_ok (get_at text _),
    bind_ok (slice_between h hafter hsuffix _), hconsumed, String.toList_ofList]
  dsimp only [Readers.position]
  split
  · rename_i hlarge
    refine .here hafter hsuffix fun before htext => ?_
    obtain ⟨start, hstart⟩ := hbefore before htext
    exact ⟨start, _, hstart, List.all_takeWhile, hstop, hlarge⟩
  · split
    · rename_i hzero
      refine .here hafter hsuffix fun before htext => ?_
      obtain ⟨start, hstart⟩ := hbefore before htext
      refine ⟨start, _, hstart, List.all_takeWhile, hstop, ?_, hzero⟩
      cases s with
      | nil => cases hdigit
      | cons c rest =>
        have hc : isDigit c = true := hdigit
        rw [List.takeWhile_cons_of_pos hc]
        exact List.cons_ne_nil _ _
    · exact .read hafter hsuffix

/-- Characters that are not the quote are passed over one by one. -/
theorem closeQuote_inside {quote : Char} {inside : List Char} (h : At text pos (inside ++ rest))
    (hinside : quote ∉ inside) (bound : Nat) :
    closeQuote quote (bound + inside.length) text pos = closeQuote quote bound text (pos + byteLength inside) := by
  induction inside generalizing pos with
  | nil => rfl
  | cons c inside ih =>
    have hc : c ≠ quote := fun hc => hinside (hc ▸ List.mem_cons_self)
    rw [List.length_cons, ← Nat.add_assoc bound, closeQuote, bind_ok (bump_cons h)]
    dsimp only
    rw [if_neg hc, ih h.next fun hin => hinside (List.mem_cons_of_mem c hin), byteLength, Nat.add_assoc pos]

/-- The characters up to the next quote are taken and that quote. -/
theorem closeQuote_found {quote : Char} {inside after : List Char} {bound : Nat}
    (h : At text pos (inside ++ quote :: after)) (hinside : quote ∉ inside) (hbound : inside.length < bound) :
    closeQuote quote bound text pos = .ok ((), pos + byteLength inside + quote.utf8Size) := by
  obtain ⟨more, rfl⟩ := Nat.exists_eq_add_of_lt hbound
  rw [Nat.add_assoc, Nat.add_comm, closeQuote_inside h hinside, closeQuote, bind_ok (bump_cons h.behind)]
  dsimp only
  rw [if_pos rfl]
  rfl

/-- Where there is no quote the parser stops at the end. -/
theorem closeQuote_missing {quote : Char} {bound : Nat} (h : At text pos rest) (hrest : quote ∉ rest)
    (hbound : rest.length < bound) :
    closeQuote quote bound text pos = .error (.malformed .literalNotClosed (pos + byteLength rest)) := by
  obtain ⟨more, rfl⟩ := Nat.exists_eq_add_of_lt hbound
  rw [← List.append_nil rest] at h
  rw [Nat.add_assoc, Nat.add_comm, closeQuote_inside h hrest, closeQuote, bind_ok (bump_nil h.behind)]
  rfl

/-- A literal is the slice between its quotes: the position behind the closing quote less the size of that quote. -/
theorem literal_agrees (h : At text pos s) : Agrees text s (literal text pos) (Readers.literal s) := by
  rw [literal]
  cases s with
  | nil =>
    rw [bind_ok (bump_nil h)]
    exact .here h List.nil_suffix fun _ _ => .inl rfl
  | cons q rest =>
    have hlength := h.next.suffix.length_le
    obtain ⟨start, htext, -⟩ := id h
    rw [bind_ok (bump_cons h), Readers.literal]
    dsimp only
    split
    · rename_i hq
      rw [bind_ok (get_at text _), bind_ok (read_at text _)]
      -- With the quote somewhere behind, the slice ends before it; the place of the end is taken back by its size.
      by_cases hmem : q ∈ rest
      · obtain ⟨inside, after, rfl, hinside⟩ := List.eq_append_cons_of_mem hmem
        have hne : ∀ c ∈ inside, (c != q) = true := fun c hc => by
          simpa using fun heq : c = q => hinside (heq ▸ hc)
        have hbound : inside.length < text.length + 1 := by
          rw [List.length_append] at hlength
          omega
        rw [bind_ok (closeQuote_found h.next hinside hbound), bind_ok (get_at text _),
          if_pos (Nat.le_add_left _ _), Nat.add_sub_cancel, slice_at h.next,
          List.dropWhile_append_of_pos hne, List.takeWhile_append_of_pos hne, List.dropWhile_cons_of_neg (by simp),
          List.takeWhile_cons_of_neg (by simp), List.append_nil]
        exact .read h.next.behind.next ⟨q :: inside ++ [q], by simp⟩
      · have hall : ∀ c ∈ rest, (c != q) = true := fun c hc => by
          simpa using fun heq : c = q => hmem (heq ▸ hc)
        -- Without one, the search has come to the end of the text, and that is the place that is reported.
        have hend : At text (pos + q.utf8Size + byteLength rest) [] := by
          refine At.behind ?_
          rw [List.append_nil]
          exact h.next
        rw [bind_error (closeQuote_missing h.next hmem (Nat.lt_succ_of_le hlength)),
          List.dropWhile_eq_nil_iff.mpr hall]
        refine .here hend List.nil_suffix fun before hbefore => ⟨rfl, start, q, rest, ?_, hq, hmem⟩
        rw [← htext, hbefore, List.append_nil]
    · rename_i hq
      refine .here h.next (List.suffix_cons q rest) fun before hbefore => .inr ⟨q, ?_, not_or.mp hq⟩
      have hlast : before = start ++ [q] := before_eq htext hbefore
      rw [hlast, List.getLast?_concat]

theorem skipBlank_at (h : At text pos s) :
    ∃ pos', skipBlank text pos = .ok ((), pos') ∧ At text pos' (Readers.skipBlank s) :=
  ⟨_, skip_at h Unicode.isBlank, h.afterWhile Unicode.isBlank⟩

theorem skipBlank_suffix (s : List Char) : Readers.skipBlank s <:+ s := List.dropWhile_suffix _

theorem comparison_agrees (h : At text pos s) (p : Path) :
    Agrees text s (comparison p text pos) (Readers.comparison p s) := by
  obtain ⟨here, hskip, h⟩ := skipBlank_at h
  rw [comparison, bind_ok hskip, Readers.comparison]
  refine Agrees.of_suffix ?_ (skipBlank_suffix s)
  generalize Readers.skipBlank s = s at h
  split
  · rename_i rest
    obtain ⟨behind, hskip, hbehind⟩ := skipBlank_at h.next
    rw [bind_ok (eat_cons h), if_pos rfl, bind_ok hskip]
    refine (Agrees.bind (literal_agrees hbehind) fun value pos rest h hrest => ?_).of_suffix
      ((skipBlank_suffix rest).trans (List.suffix_cons '=' rest))
    exact .read h (List.suffix_refl rest)
  · rename_i rest
    obtain ⟨behind, hskip, hbehind⟩ := skipBlank_at (h.afterTwo rfl)
    have hword : "!=".toList.isPrefixOf ('!' :: '=' :: rest) = true := rfl
    rw [bind_ok (eat_of_ne h (by simp)), if_neg Bool.false_ne_true, bind_ok (startsWith_at h "!="), if_pos hword,
      bind_ok (advance_at 2 text here), bind_ok hskip]
    refine (Agrees.bind (literal_agrees hbehind) fun value pos rest h hrest => ?_).of_suffix
      ((skipBlank_suffix rest).trans (List.suffix_append ['!', '='] rest))
    exact .read h (List.suffix_refl rest)
  · rename_i hequals hdiffers
    have hfirst : s.head? ≠ some '=' := fun hhead => by
      obtain ⟨rest, rfl⟩ := List.head?_eq_some_iff.mp hhead
      exact hequals rest rfl
    have hword : ¬ "!=".toList.isPrefixOf s = true := fun hword => by
      obtain ⟨rest, rfl⟩ := List.isPrefixOf_iff_prefix.mp hword
      exact hdiffers rest rfl
    rw [bind_ok (eat_of_ne h hfirst), if_neg Bool.false_ne_true, bind_ok (startsWith_at h "!="), if_neg hword]
    exact .read h (List.suffix_refl s)

theorem closeBracket_agrees (h : At text pos s) :
    Agrees text s (closeBracket text pos) (Readers.closeBracket s) := by
  rw [closeBracket]
  cases s with
  | nil =>
    rw [bind_ok (bump_nil h)]
    exact .here h List.nil_suffix fun _ _ => rfl
  | cons c rest =>
    obtain ⟨start, htext, -⟩ := id h
    rw [bind_ok (bump_cons h), Readers.closeBracket]
    dsimp only
    split
    · exact .read h.next (List.suffix_cons c rest)
    · rename_i hc
      refine .here h.next (List.suffix_cons c rest) fun before hbefore => ⟨?_, hc⟩
      have hlast : before = start ++ [c] := before_eq htext hbefore
      rw [hlast, List.getLast?_concat]

/-! ## 4. Recursion

The bound of the recursion is there so that Lean sees it end.  `Within text bound` says that it is out of reach: every
parser agrees with its reader if the bound is five times what is left and a little more, and every call inside it
leaves that much for the next. -/

/-- A bound of the recursion within which paths and their parts are read as their readers read them.  Every call takes
one off the bound, and the calls from one bracket to the next inside it are five. -/
structure Within (text : List Char) (bound : Nat) : Prop where
  path {s : List Char} {pos : Nat} (h : At text pos s) (hbound : 5 * s.length + 5 ≤ bound) :
    Agrees text s (path bound text pos) (Readers.path bound s)
  stepsAfter {s : List Char} {pos : Nat} (h : At text pos s) (hbound : 5 * s.length + 1 ≤ bound) :
    Agrees text s (stepsAfter bound text pos) (Readers.stepsAfter bound s)
  step {s : List Char} {pos : Nat} (h : At text pos s) (hbound : 5 * s.length + 3 ≤ bound) :
    Agrees text s (step bound text pos) (Readers.step bound s)
  predicates {s : List Char} {pos : Nat} (h : At text pos s) (hbound : 5 * s.length + 2 ≤ bound) :
    Agrees text s (predicates bound text pos) (Readers.predicates bound s)
  predicate {s : List Char} {pos : Nat} (h : At text pos s) (hbound : 5 * s.length + 6 ≤ bound) :
    Agrees text s (predicate bound text pos) (Readers.predicate bound s)

variable {bound : Nat}

theorem path_agrees (ih : Within text bound) (h : At text pos s) (hbound : 5 * s.length + 5 ≤ bound + 1) :
    Agrees text s (path (bound + 1) text pos) (Readers.path (bound + 1) s) := by
  rw [path, Readers.path, bind_ok (get_at text pos)]
  refine Agrees.bind (ih.step h (by omega)) fun first behindFirst rest hfirst hrest => ?_
  have hlength := hrest.length_le
  refine Agrees.bind (ih.stepsAfter hfirst (by omega)) fun more stop left hmore hleft => ?_
  rw [bind_ok (get_at text stop), bind_ok (slice_between h hmore (hleft.trans hrest) stop)]
  exact .read hmore (List.suffix_refl left)

theorem stepsAfter_agrees (ih : Within text bound) (h : At text pos s) (hbound : 5 * s.length + 1 ≤ bound + 1) :
    Agrees text s (stepsAfter (bound + 1) text pos) (Readers.stepsAfter (bound + 1) s) := by
  rw [stepsAfter, Readers.stepsAfter.eq_def]
  dsimp only
  split
  · rename_i rest
    rw [List.length_cons] at hbound
    rw [bind_ok (eat_cons h), if_pos rfl]
    refine (Agrees.bind (ih.step h.next (by omega)) fun next behindNext rest hnext hrest => ?_).of_suffix
      (List.suffix_cons '/' rest)
    have hlength := hrest.length_le
    refine Agrees.bind (ih.stepsAfter hnext (by omega)) fun more stop left hmore hleft => ?_
    exact .read hmore (List.suffix_refl left)
  · rename_i hslash
    have hfirst : s.head? ≠ some '/' := fun hhead => by
      obtain ⟨rest, rfl⟩ := List.head?_eq_some_iff.mp hhead
      exact hslash rest rfl
    rw [bind_ok (eat_of_ne h hfirst), if_neg Bool.false_ne_true]
    exact .read h (List.suffix_refl s)

theorem step_agrees (ih : Within text bound) (h : At text pos s) (hbound : 5 * s.length + 3 ≤ bound + 1) :
    Agrees text s (step (bound + 1) text pos) (Readers.step (bound + 1) s) := by
  rw [step, Readers.step, bind_ok (get_at text pos)]
  refine Agrees.bind (test_agrees h) fun t behindTest rest htest hrest => ?_
  have hlength := hrest.length_le
  refine Agrees.bind (ih.predicates htest (by omega)) fun ps stop left hpredicates hleft => ?_
  rw [bind_ok (get_at text stop), bind_ok (slice_between h hpredicates (hleft.trans hrest) stop)]
  exact .read hpredicates (List.suffix_refl left)

theorem predicates_agrees (ih : Within text bound) (h : At text pos s) (hbound : 5 * s.length + 2 ≤ bound + 1) :
    Agrees text s (predicates (bound + 1) text pos) (Readers.predicates (bound + 1) s) := by
  rw [predicates, Readers.predicates.eq_def]
  dsimp only
  split
  · rename_i rest
    rw [List.length_cons] at hbound
    have hblank := (skipBlank_suffix rest).length_le
    obtain ⟨inside, hskip, hinside⟩ := skipBlank_at h.next
    rw [bind_ok (eat_cons h), if_pos rfl, bind_ok hskip]
    refine (Agrees.bind (ih.predicate hinside (by omega)) fun p behind left hp hleft => ?_).of_suffix
      ((skipBlank_suffix rest).trans (List.suffix_cons '[' rest))
    have hlength := hleft.length_le
    have hblank' := (skipBlank_suffix left).length_le
    obtain ⟨close, hskip', hclose⟩ := skipBlank_at hp
    rw [bind_ok hskip']
    refine (Agrees.bind (closeBracket_agrees hclose) fun _ behind left' hbracket hleft' => ?_).of_suffix
      (skipBlank_suffix left)
    have hlength' := hleft'.length_le
    refine Agrees.bind (ih.predicates hbracket (by omega)) fun more stop rest hmore hrest => ?_
    exact .read hmore (List.suffix_refl rest)
  · rename_i hopen
    have hfirst : s.head? ≠ some '[' := fun hhead => by
      obtain ⟨rest, rfl⟩ := List.head?_eq_some_iff.mp hhead
      exact hopen rest rfl
    rw [bind_ok (eat_of_ne h hfirst), if_neg Bool.false_ne_true]
    exact .read h (List.suffix_refl s)

theorem predicate_agrees (ih : Within text bound) (h : At text pos s) (hbound : 5 * s.length + 6 ≤ bound + 1) :
    Agrees text s (predicate (bound + 1) text pos) (Readers.predicate (bound + 1) s) := by
  rw [predicate, Readers.predicate, bind_ok (peek_at h)]
  split
  · rename_i hdigit
    exact position_agrees h hdigit
  · refine Agrees.bind (ih.path h (by omega)) fun p behind rest hpath hrest => ?_
    exact comparison_agrees hpath p

/-- By induction on the bound. -/
theorem within (text : List Char) (bound : Nat) : Within text bound := by
  induction bound with
  | zero => constructor <;> intros <;> omega
  | succ bound ih =>
    exact {
      path := path_agrees ih
      stepsAfter := stepsAfter_agrees ih
      step := step_agrees ih
      predicates := predicates_agrees ih
      predicate := predicate_agrees ih }

theorem pathOrEmpty_agrees (text : List Char) :
    Agrees text text (pathOrEmpty text 0) (Readers.pathOrEmpty text) := by
  rw [pathOrEmpty, Readers.pathOrEmpty, bind_ok (read_at text 0)]
  split
  · exact .read (at_start text) (List.suffix_refl text)
  · exact (within text (boundFor text)).path (at_start text) (Nat.le_refl _)

theorem atEnd_agrees (h : At text pos s) : Agrees text s (atEnd text pos) (Readers.atEnd s) := by
  rw [atEnd, bind_ok (peek_at h), Readers.atEnd.eq_def]
  split
  · exact .read h (List.suffix_refl _)
  · exact .here h (List.suffix_refl _) fun _ _ => rfl
  · rename_i c rest hbracket
    have hc : c ≠ ']' := fun hc => hbracket (hc)
    simp only [List.head?_cons]
    exact .here h (List.suffix_refl _) fun _ _ => ⟨rfl, hc⟩

theorem whole_agrees (text : List Char) : Agrees text text (whole text 0) (Readers.whole text) := by
  rw [whole, Readers.whole]
  refine Agrees.bind (pathOrEmpty_agrees text) fun p stop rest h hrest => ?_
  refine Agrees.bind (atEnd_agrees h) fun _ stop left h hleft => ?_
  exact .read h (List.suffix_refl left)

/-! ## 5. Whole texts

At the start the position is zero and the whole text is left, and the bound that `run` sets is enough.  So what has been
shown of parsers at places holds of the parser of whole texts, without hypothesis. -/

/-- **The parser does what the readers do, and tells the place.**  It reads a path if they read it to the end of the
text, or it stops where they stop; the position that it reports is the number of bytes before that place. -/
theorem run_cases (text : String) :
    (∃ p rest, run text = .ok p ∧ Readers.whole text.toList = .ok (p, rest)) ∨
      ∃ fault before left, text.toList = before ++ left ∧ fault.FoundAt before left ∧
        run text = .error (.malformed fault (byteLength before)) ∧
        Readers.whole text.toList = .error ⟨fault, left⟩ := by
  have hagrees := whole_agrees text.toList
  rw [run]
  generalize whole text.toList 0 = x, Readers.whole text.toList = x' at hagrees
  cases hagrees with
  | read h hrest => exact .inl ⟨_, _, rfl, rfl⟩
  | stopped h hleft hfound => exact .inr ⟨_, _, _, h, hfound, rfl, rfl⟩

theorem run_eq_ok_iff {text : String} {p : Path} :
    run text = .ok p ↔ ∃ rest, Readers.whole text.toList = .ok (p, rest) := by
  rcases run_cases text with ⟨q, rest, hrun, hread⟩ | ⟨fault, before, left, -, -, hrun, hread⟩
  · rw [hrun, hread]
    simp
  · rw [hrun, hread]
    simp

end Parser

end Path

end Regraft
