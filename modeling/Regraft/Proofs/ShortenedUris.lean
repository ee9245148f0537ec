import Regraft.Proofs.PrefixedNames
/-!
# Shortened URIs

A URI is shortened by the longest namespace that it begins with.  Of several prefixes of that namespace the last is
taken (`chosen_spec`), because the search for the longest keeps the last that it meets (`longest_spec`), while the
look-up of a prefix keeps the first.  So the two ways back from URIs to prefixes agree exactly where a namespace has one
prefix (`lookups_agree_iff`).

What remains of the URI is its local part.  It is empty if the URI itself is bound, and a prefixed name has no empty
local part: a shortened URI expands back exactly if it is not bound itself (`shortened_expands`).
-/

namespace Regraft.Namespaces

open Xml (QName)

variable {ns : Namespaces} {p uri n c : String}

/-! ## 1. The longest binding

The search goes through the bindings in order and keeps the best so far.  Of two that are equally long it keeps the
later one. -/

/-- A binding that comes last is chosen unless there is a longer one before it. -/
theorem longest_concat (bindings : List (String × String)) (b : String × String) :
    longest (bindings ++ [b]) = some (match longest bindings with
      | some best => if b.2.length < best.2.length then best else b
      | none => b) := by
  rw [longest, List.foldl_concat, ← longest]
  cases longest bindings with
  | none => rfl
  | some best => exact (apply_ite some _ _ _).symm

theorem exists_longest {bindings : List (String × String)} (h : bindings ≠ []) : ∃ b, longest bindings = some b := by
  rw [← List.dropLast_append_getLast h]
  exact ⟨_, longest_concat _ _⟩

/-- The binding that is chosen is at least as long as those before it and longer than those after it. -/
theorem longest_spec {bindings : List (String × String)} {b : String × String} (h : longest bindings = some b) :
    ∃ before after, bindings = before ++ b :: after ∧ (∀ d ∈ before, d.2.length ≤ b.2.length) ∧
      ∀ d ∈ after, d.2.length < b.2.length := by
  -- The fold meets the last binding last, so that the induction takes bindings from the end.
  induction bindings using List.reverseRecOn generalizing b with
  | nil => cases h
  | append_singleton bindings last ih =>
    rw [longest_concat] at h
    cases hbest : longest bindings with
    | none =>
      have hnil : bindings = [] := by
        by_contra hne
        obtain ⟨b', hb'⟩ := exists_longest hne
        rw [hbest] at hb'
        cases hb'
      rw [hbest] at h
      cases h
      exact ⟨[], [], by rw [hnil], by simp, by simp⟩
    | some best =>
      obtain ⟨before, after, rfl, hbefore, hafter⟩ := ih hbest
      rw [hbest] at h
      dsimp only at h
      split at h
      · rename_i hless
        cases h
        refine ⟨before, after ++ [last], by simp, hbefore, fun d hd => ?_⟩
        rcases List.mem_append.mp hd with hd | hd
        · exact hafter d hd
        · obtain rfl := List.mem_singleton.mp hd
          exact hless
      · rename_i hnot
        cases h
        have hbest : best.2.length ≤ last.2.length := Nat.le_of_not_lt hnot
        refine ⟨before ++ best :: after, [], by simp, fun d hd => ?_, by simp⟩
        rcases List.mem_append.mp hd with hd | hd
        · exact (hbefore d hd).trans hbest
        · rcases List.mem_cons.mp hd with rfl | hd
          · exact hbest
          · exact (hafter d hd).le.trans hbest

/-! ## 2. The longest namespace

What the search finds, said without a search: the longest namespace that the URI begins with, and its last prefix. -/

/-- The longest namespace that a URI begins with. -/
structure LongestWithin (ns : Namespaces) (uri n : String) : Prop where
  bound : ∃ p, (p, n) ∈ ns.bindings
  ne_empty : n ≠ ""
  begins : n.toList <+: uri.toList
  longest : ∀ b ∈ ns.bindings, b.2.toList <+: uri.toList → b.2.length ≤ n.length

/-- The last prefix of a URI. -/
structure IsLastPrefix (ns : Namespaces) (p uri : String) : Prop where
  bound : (p, uri) ∈ ns.bindings
  greatest : ∀ q, (q, uri) ∈ ns.bindings → q ≤ p

theorem mem_bindingsWithin {b : String × String} :
    b ∈ ns.bindingsWithin uri ↔ b ∈ ns.bindings ∧ b.2 ≠ "" ∧ b.2.toList <+: uri.toList := by
  simp [bindingsWithin]

theorem LongestWithin.unique {n' : String} (h : ns.LongestWithin uri n) (h' : ns.LongestWithin uri n') : n = n' := by
  obtain ⟨p, hp⟩ := h.bound
  obtain ⟨p', hp'⟩ := h'.bound
  have hlength : n.toList.length = n'.toList.length :=
    Nat.le_antisymm (h'.longest _ hp h.begins) (h.longest _ hp' h'.begins)
  exact String.toList_inj.mp ((List.prefix_of_prefix_length_le h.begins h'.begins hlength.le).eq_of_length hlength)

/-- What is chosen is the longest namespace, with the last of its prefixes. -/
theorem chosen_spec {b : String × String} (h : longest (ns.bindingsWithin uri) = some b) :
    ns.LongestWithin uri b.2 ∧ ns.IsLastPrefix b.1 b.2 := by
  obtain ⟨before, after, hwithin, hbefore, hafter⟩ := longest_spec h
  have hmem {d : String × String} : d ∈ ns.bindingsWithin uri ↔ d ∈ before ∨ d = b ∨ d ∈ after := by
    rw [hwithin, List.mem_append, List.mem_cons]
  obtain ⟨hbound, hne, hbegins⟩ := mem_bindingsWithin.mp (hmem.mpr (.inr (.inl rfl)))
  refine ⟨⟨⟨b.1, hbound⟩, hne, hbegins, fun d hd hdbegins => ?_⟩, hbound, fun q hq => ?_⟩
  · by_cases hempty : d.2 = ""
    · rw [hempty]
      exact Nat.zero_le _
    · rcases hmem.mp (mem_bindingsWithin.mpr ⟨hd, hempty, hdbegins⟩) with hd | rfl | hd
      · exact hbefore d hd
      · exact Nat.le_refl _
      · exact (hafter d hd).le
  · have hascending : (ns.bindingsWithin uri).Pairwise (·.1 < ·.1) := ns.table.ascending.filter _
    rw [hwithin] at hascending
    rcases hmem.mp (mem_bindingsWithin.mpr ⟨hq, hne, hbegins⟩) with hq | hq | hq
    · exact Std.le_of_lt ((List.pairwise_append.mp hascending).2.2 _ hq _ List.mem_cons_self)
    · have heq : q = b.1 := congrArg Prod.fst hq
      exact heq ▸ String.le_refl q
    · exact absurd (hafter _ hq) (Nat.lt_irrefl _)

/-- What is shortened begins with a namespace. -/
theorem exists_of_shorten (h : ns.shorten uri = some c) : ∃ n x, uri = n ++ x ∧ ns.LongestWithin uri n := by
  obtain ⟨b, hb, -⟩ := Option.map_eq_some_iff.mp h
  have hlongest := (chosen_spec hb).1
  obtain ⟨x, hx⟩ := hlongest.begins
  exact ⟨b.2, .ofList x, by rw [← String.toList_inj, ← hx]; simp, hlongest⟩

/-- What begins with a namespace is shortened by the longest, with the last of its prefixes. -/
theorem LongestWithin.shorten {x : String} (h : ns.LongestWithin (n ++ x) n) :
    ∃ p, ns.IsLastPrefix p n ∧ ns.shorten (n ++ x) = some (p ++ ":" ++ x) := by
  obtain ⟨p, hp⟩ := h.bound
  obtain ⟨b, hb⟩ := exists_longest (List.ne_nil_of_mem (mem_bindingsWithin.mpr ⟨hp, h.ne_empty, h.begins⟩))
  obtain ⟨hlongest, hlast⟩ := chosen_spec hb
  obtain rfl := h.unique hlongest
  refine ⟨b.1, hlast, ?_⟩
  rw [Namespaces.shorten, hb, Option.map_some, String.toList_append, ← String.length_toList, List.drop_left,
    String.ofList_toList]

/-! ## 3. Expanding what has been shortened

Expanding divides at the colon and looks the prefix up.  What can go wrong is only that there is nothing behind the
colon. -/

/-- A name is expanded to its URI followed by its local part. -/
theorem expandUri_eq (text : String) : ns.expandUri text = (ns.expand text).map fun q => q.uri ++ q.localPart := by
  rw [expandUri, expand]
  cases splitPrefixed text with
  | error e => rfl
  | ok parts =>
    show (ns.require parts.1 >>= fun uri => pure (uri ++ parts.2)) =
      (ns.require parts.1 >>= fun uri => pure (QName.mk uri parts.2)).map fun q => q.uri ++ q.localPart
    cases ns.require parts.1 with
    | error e => rfl
    | ok uri => rfl

/-- Without a local part there is no name to expand. -/
theorem expandUri_of_empty (hp : ':' ∉ p.toList) :
    ns.expandUri (p ++ ":" ++ "") = .error (.notPrefixedName (p ++ ":" ++ "")) := by
  rw [expandUri]
  cases hsplit : splitPrefixed (p ++ ":" ++ "") with
  | error e =>
    rw [splitPrefixed_error hsplit]
    rfl
  | ok parts =>
    obtain ⟨htext, hcolon, -, hl⟩ := splitPrefixed_eq_ok.mp hsplit
    exact absurd (eq_of_prefixed hp hcolon htext).2.symm hl

/-- Nothing remains of a URI exactly if it is bound itself. -/
theorem LongestWithin.bound_iff {x : String} (h : ns.LongestWithin (n ++ x) n) :
    (∃ b ∈ ns.bindings, b.2 = n ++ x) ↔ x = "" := by
  constructor
  · rintro ⟨b, hb, huri⟩
    have hlength := h.longest b hb (huri ▸ List.prefix_rfl)
    rw [huri, String.length_append] at hlength
    exact String.length_eq_zero_iff.mp (by omega)
  · rintro rfl
    obtain ⟨p, hp⟩ := h.bound
    exact ⟨_, hp, (String.append_empty).symm⟩

/-- **Shortened URIs expand back**, unless they are bound themselves: then nothing remains for a local part, and the
shortened form is no prefixed name. -/
theorem shortened_expands (hprefixes : ns.DividesNames) (h : ns.shorten uri = some c) :
    ns.expandUri c = if ∃ b ∈ ns.bindings, b.2 = uri then .error (.notPrefixedName c) else .ok uri := by
  obtain ⟨n, x, rfl, hlongest⟩ := exists_of_shorten h
  obtain ⟨p, hlast, hshorten⟩ := hlongest.shorten
  obtain rfl : c = p ++ ":" ++ x := Option.some.inj (h.symm.trans hshorten)
  split
  · rename_i hbound
    obtain rfl := hlongest.bound_iff.mp hbound
    exact expandUri_of_empty (hprefixes _ hlast.bound).2
  · rename_i hnot
    have hx : x ≠ "" := fun hx => hnot (hlongest.bound_iff.mpr hx)
    rw [expandUri_eq, hprefixes.expand hlast.bound hx]
    rfl

/-- A namespace within another one. -/
def nested : Namespaces := ofList [("b", "u:v/"), ("a", "u:")]

theorem bindings_nested : nested.bindings = [("a", "u:"), ("b", "u:v/")] := by decide

theorem dividesNames_nested : nested.DividesNames := by
  rw [DividesNames, bindings_nested]
  decide

theorem nested_expands :
    nested.shorten "u:v/x:y" = some "b:x:y" ∧ nested.expandUri "b:x:y" = .ok "u:v/x:y" ∧
    nested.shorten "u:v" = some "a:v" ∧ nested.expandUri "a:v" = .ok "u:v" := by
  have hinner : nested.shorten "u:v/x:y" = some "b:x:y" := by decide
  have houter : nested.shorten "u:v" = some "a:v" := by decide
  refine ⟨hinner, ?_, houter, ?_⟩
  · rw [shortened_expands dividesNames_nested hinner, bindings_nested]
    decide
  · rw [shortened_expands dividesNames_nested houter, bindings_nested]
    decide

/-- The inner namespace itself is shortened to a prefix alone. -/
theorem inner_not_expanded :
    nested.DividesNames ∧ nested.shorten "u:v/" = some "b:" ∧
      nested.expandUri "b:" = .error (.notPrefixedName "b:") :=
  ⟨dividesNames_nested, by decide, by rfl⟩

/-! ## 4. The two ways back to prefixes

The first and the last prefix of a namespace are the same exactly if there is one. -/

/-- A URI has one prefix. -/
def BoundOnce (ns : Namespaces) (uri : String) : Prop :=
  ∀ p q, (p, uri) ∈ ns.bindings → (q, uri) ∈ ns.bindings → p = q

/-- The first and the last prefix are the same exactly if there is one only. -/
theorem IsFirstPrefix.eq_iff {first last : String} (hfirst : ns.IsFirstPrefix first n)
    (hlast : ns.IsLastPrefix last n) : first = last ↔ ns.BoundOnce n := by
  constructor
  · rintro rfl p q hp hq
    have heq {p : String} (hp : (p, n) ∈ ns.bindings) : p = first :=
      String.le_antisymm (hlast.greatest p hp) (hfirst.least p hp)
    rw [heq hp, heq hq]
  · intro h
    exact h _ _ hfirst.bound hlast.bound

/-- **The look-ups agree on the prefix** of a namespace exactly if it has one prefix.  Of several, a URI is shortened
with the last, while a name with its URI is written with the first. -/
theorem lookups_agree_iff (h : ns.LongestWithin uri n) :
    ∃ first last, ns.IsFirstPrefix first n ∧ ns.IsLastPrefix last n ∧ ns.prefixFor n = some first ∧
      (∃ x, uri = n ++ x ∧ ns.shorten uri = some (last ++ ":" ++ x)) ∧
      (first = last ↔ ns.BoundOnce n) ∧
      ∀ x, ns.LongestWithin (n ++ x) n → '\x7d' ∉ n.toList →
        ((∃ c, ns.shorten (n ++ x) = some c ∧ ns.prefixedName ("\x7b" ++ n ++ "\x7d" ++ x) = .ok c) ↔
          ns.BoundOnce n) := by
  obtain ⟨p, hbound⟩ := h.bound
  obtain ⟨first, hfound⟩ := exists_prefixFor hbound
  have hfirst := prefixFor_eq_some.mp hfound
  obtain ⟨x, hx⟩ := h.begins
  obtain rfl : uri = n ++ .ofList x := by simp [← String.toList_inj, ← hx]
  obtain ⟨last, hlast, hshorten⟩ := h.shorten
  refine ⟨first, last, hfirst, hlast, hfound, ⟨_, rfl, hshorten⟩, hfirst.eq_iff hlast, fun x hlongest hn => ?_⟩
  obtain ⟨last', hlast', hshorten'⟩ := hlongest.shorten
  have hwritten : ns.prefixedName ("\x7b" ++ n ++ "\x7d" ++ x) = .ok (first ++ ":" ++ x) :=
    (prefixedName_eq_ok hn).mpr ⟨first, hfirst, rfl⟩
  rw [← hfirst.eq_iff hlast', hshorten', hwritten]
  simp [eq_comm]

theorem nested_agrees :
    nested.LongestWithin "u:v/x" "u:v/" ∧ nested.BoundOnce "u:v/" ∧
    ∃ c, nested.shorten "u:v/y" = some c ∧ nested.prefixedName "\x7bu:v/\x7dy" = .ok c := by
  have hall : ∀ b ∈ nested.bindings, b.2.length ≤ "u:v/".length := by
    rw [bindings_nested]
    decide
  have hbound : ("b", "u:v/") ∈ nested.bindings := by
    rw [bindings_nested]
    decide
  have hlongest (uri : String) (h : "u:v/".toList <+: uri.toList) : nested.LongestWithin uri "u:v/" :=
    ⟨⟨"b", hbound⟩, by decide, h, fun b hb _ => hall b hb⟩
  have honce : nested.BoundOnce "u:v/" := by
    rw [BoundOnce, bindings_nested]
    simp
  obtain ⟨first, last, -, -, -, -, -, hagree⟩ := lookups_agree_iff (hlongest "u:v/x" (by decide))
  exact ⟨hlongest _ (by decide), honce, (hagree "y" (hlongest _ (by decide)) (by decide)).mpr honce⟩

/-- With two prefixes, one look-up takes the first and the other the second. -/
theorem doubled_disagrees :
    doubled.LongestWithin "u:vx" "u:v" ∧ doubled.prefixFor "u:v" = some "a" ∧
      doubled.shorten "u:vx" = some "b:x" ∧ doubled.prefixedName "\x7bu:v\x7dx" = .ok "a:x" := by
  have hall : ∀ b ∈ doubled.bindings, b.2.length ≤ "u:v".length := by
    rw [bindings_doubled]
    decide
  have hbound : ("a", "u:v") ∈ doubled.bindings := by
    rw [bindings_doubled]
    decide
  exact ⟨⟨⟨"a", hbound⟩, by decide, by decide, fun b hb _ => hall b hb⟩, by decide, by decide, by rfl⟩

end Namespaces

end Regraft
