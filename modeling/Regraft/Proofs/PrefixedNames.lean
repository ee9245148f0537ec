import Regraft.Proofs.FragmentNames
/-!
# Names with prefixes and names with URIs

A registry knows two ways to write a name in a namespace: `p:l` with a prefix, which is divided at its first colon, and
`{uri}l` with the URI, which is divided at its first closing brace.  Reading either is the inverse of writing it as long
as prefixes have no colon and URIs no brace in them (`expand_eq_ok`, `splitExpanded_eq_ok`).  Of several prefixes of one
URI, the first is written (`prefixFor_eq_some`), so that going from one way of writing to the other and back leads to
the same name, though not always by the same prefix (`names_convert`).
-/

namespace Regraft

open Xml (QName)

namespace Namespaces

variable {ns : Namespaces} {p l uri text c : String} {q : QName}

/-! ## 1. Divided texts

A prefixed name is divided at its first colon, an expanded one at its first closing brace.  Of the two only the
prefixed name must have something on both sides. -/

theorem splitPrefixed_eq_ok :
    splitPrefixed text = .ok (p, l) ↔ text = p ++ ":" ++ l ∧ ':' ∉ p.toList ∧ p ≠ "" ∧ l ≠ "" := by
  have hempty (s : List Char) : s.isEmpty = true ↔ String.ofList s = "" := by
    rw [List.isEmpty_iff, ← String.toList_inj, String.toList_ofList, String.toList_empty]
  have htext (a b : List Char) : text.toList = a ++ ':' :: b ↔ text = String.ofList a ++ ":" ++ String.ofList b := by
    simp [← String.toList_inj]
  rw [splitPrefixed]
  constructor
  · intro h
    split at h
    · rename_i a b hsplit
      obtain ⟨hab, ha⟩ := Text.splitOnce_eq_some.mp hsplit
      split at h
      · cases h
      · rename_i hparts
        rw [hempty, hempty, not_or] at hparts
        cases h
        exact ⟨(htext a b).mp hab, by rwa [String.toList_ofList], hparts⟩
    · cases h
  · rintro ⟨htext', hp, hparts⟩
    have hsplit : Text.splitOnce? ':' text.toList = some (p.toList, l.toList) :=
      Text.splitOnce_eq_some.mpr ⟨(htext _ _).mpr (by simpa using htext'), hp⟩
    have hnot : ¬ (p.toList.isEmpty = true ∨ l.toList.isEmpty = true) := by
      rw [hempty, hempty, String.ofList_toList, String.ofList_toList, not_or]
      exact hparts
    simp only [hsplit, if_neg hnot, String.ofList_toList]

theorem splitPrefixed_error {e : Error} (h : splitPrefixed text = .error e) : e = .notPrefixedName text := by
  rw [splitPrefixed] at h
  split at h
  · split at h
    · cases h
      rfl
    · cases h
  · cases h
    rfl

theorem splitExpanded_eq_ok :
    splitExpanded text = .ok (uri, l) ↔ text = "\x7b" ++ uri ++ "\x7d" ++ l ∧ '\x7d' ∉ uri.toList := by
  have htext (a b : List Char) : text.toList = '\x7b' :: (a ++ '\x7d' :: b) ↔
      text = "\x7b" ++ String.ofList a ++ "\x7d" ++ String.ofList b := by
    simp [← String.toList_inj]
  rw [splitExpanded]
  constructor
  · intro h
    split at h
    · rename_i rest hbrace
      split at h
      · rename_i a b hsplit
        obtain ⟨rfl, ha⟩ := Text.splitOnce_eq_some.mp hsplit
        cases h
        exact ⟨(htext a b).mp hbrace, by rwa [String.toList_ofList]⟩
      · cases h
    · cases h
  · rintro ⟨htext', huri⟩
    rw [(htext uri.toList l.toList).mpr (by simpa using htext')]
    simp only [Text.splitOnce_append huri, String.ofList_toList]

/-- A prefixed name is divided in one way only. -/
theorem eq_of_prefixed {p' l' : String} (hp : ':' ∉ p.toList) (hp' : ':' ∉ p'.toList)
    (h : p ++ ":" ++ l = p' ++ ":" ++ l') : p = p' ∧ l = l' := by
  have hsplit : Text.splitOnce? ':' (p.toList ++ ':' :: l.toList) = some (p'.toList, l'.toList) :=
    Text.splitOnce_eq_some.mpr ⟨by simpa [← String.toList_inj] using h, hp'⟩
  rw [Text.splitOnce_append hp, Option.some.injEq, Prod.mk.injEq, String.toList_inj, String.toList_inj] at hsplit
  exact hsplit

/-! ## 2. Prefixes of a URI

Bindings are sorted by prefix, so the first prefix of a URI is the least.  That no prefix has a colon and no URI a brace
is what makes the written name divide where it was put together. -/

/-- Prefixes can be told from what follows them: none is empty or has a colon in it. -/
def DividesNames (ns : Namespaces) : Prop := ∀ b ∈ ns.bindings, b.1 ≠ "" ∧ ':' ∉ b.1.toList

/-- URIs can be told from what follows them: none has a closing brace in it. -/
def ClosesBraces (ns : Namespaces) : Prop := ∀ b ∈ ns.bindings, '\x7d' ∉ b.2.toList

/-- The first prefix of a URI. -/
structure IsFirstPrefix (ns : Namespaces) (p uri : String) : Prop where
  bound : (p, uri) ∈ ns.bindings
  least : ∀ q, (q, uri) ∈ ns.bindings → p ≤ q

theorem require_eq_ok : ns.require p = .ok uri ↔ (p, uri) ∈ ns.bindings := by
  rw [require]
  constructor
  · intro h
    split at h
    · rename_i uri' hresolve
      cases h
      exact Root.mem_bindings_of_resolve hresolve
    · cases h
  · intro h
    rw [Root.resolve_of_mem_bindings h]

theorem isFirstPrefix_of_prefixFor (h : ns.prefixFor uri = some p) : ns.IsFirstPrefix p uri := by
  have hascending : ns.bindings.Pairwise (·.1 < ·.1) := ns.table.ascending
  obtain ⟨⟨p', uri'⟩, hfind, rfl⟩ := Option.map_eq_some_iff.mp h
  obtain ⟨huri, before, after, hbindings, hbefore⟩ := List.find?_eq_some_iff_append.mp hfind
  obtain rfl : uri' = uri := by simpa using huri
  refine ⟨List.mem_of_find?_eq_some hfind, fun q hq => ?_⟩
  rw [hbindings] at hq hascending
  rcases List.mem_append.mp hq with hq | hq
  · exact absurd (hbefore _ hq) (by simp)
  · rcases List.mem_cons.mp hq with hq | hq
    · cases hq
      exact String.le_refl _
    · have hafter := (List.pairwise_cons.mp (List.pairwise_append.mp hascending).2.1).1
      exact Std.le_of_lt (hafter _ hq)

theorem exists_prefixFor (h : (p, uri) ∈ ns.bindings) : ∃ first, ns.prefixFor uri = some first := by
  cases hfound : ns.prefixFor uri with
  | none =>
    rw [prefixFor, Option.map_eq_none_iff] at hfound
    exact absurd (List.find?_eq_none.mp hfound _ h) (by simp)
  | some first => exact ⟨first, rfl⟩

theorem prefixFor_eq_some : ns.prefixFor uri = some p ↔ ns.IsFirstPrefix p uri := by
  refine ⟨isFirstPrefix_of_prefixFor, fun h => ?_⟩
  obtain ⟨first, hfound⟩ := exists_prefixFor h.bound
  have hfirst := isFirstPrefix_of_prefixFor hfound
  rw [hfound, String.le_antisymm (hfirst.least _ h.bound) (h.least _ hfirst.bound)]

/-! ## 3. From one way of writing to the other

Both round trips.  The one that begins with a prefix may end with another prefix, but with the same name. -/

theorem expand_eq_ok : ns.expand text = .ok q ↔ ∃ p, (p, q.uri) ∈ ns.bindings ∧
    text = p ++ ":" ++ q.localPart ∧ ':' ∉ p.toList ∧ p ≠ "" ∧ q.localPart ≠ "" := by
  rw [expand, bind_ok]
  constructor
  · rintro ⟨⟨p, l⟩, hsplit, h⟩
    obtain ⟨uri, huri, h⟩ := bind_ok.mp h
    cases h
    exact ⟨p, require_eq_ok.mp huri, splitPrefixed_eq_ok.mp hsplit⟩
  · rintro ⟨p, hbound, hsplit⟩
    exact ⟨(p, q.localPart), splitPrefixed_eq_ok.mpr hsplit, bind_ok.mpr ⟨q.uri, require_eq_ok.mpr hbound, rfl⟩⟩

/-- A name written with a prefix of its URI is read as that name. -/
theorem DividesNames.expand (h : ns.DividesNames) (hbound : (p, uri) ∈ ns.bindings) (hl : l ≠ "") :
    ns.expand (p ++ ":" ++ l) = .ok ⟨uri, l⟩ :=
  expand_eq_ok.mpr ⟨p, hbound, rfl, (h _ hbound).2, (h _ hbound).1, hl⟩

/-- Whatever is written with a prefix is a name with a URI. -/
theorem exists_of_prefixedName (h : ns.prefixedName text = .ok c) :
    ∃ uri l, text = "\x7b" ++ uri ++ "\x7d" ++ l ∧ '\x7d' ∉ uri.toList := by
  obtain ⟨⟨uri, l⟩, hsplit, -⟩ := bind_ok.mp h
  exact ⟨uri, l, splitExpanded_eq_ok.mp hsplit⟩

theorem prefixedName_eq_ok (huri : '\x7d' ∉ uri.toList) :
    ns.prefixedName ("\x7b" ++ uri ++ "\x7d" ++ l) = .ok c ↔ ∃ p, ns.IsFirstPrefix p uri ∧ c = p ++ ":" ++ l := by
  have hsplit := splitExpanded_eq_ok.mpr ⟨(rfl : _ = "\x7b" ++ uri ++ "\x7d" ++ l), huri⟩
  rw [prefixedName, bind_ok]
  constructor
  · rintro ⟨parts, hparts, h⟩
    rw [hsplit] at hparts
    cases hparts
    dsimp only at h
    split at h
    · rename_i p hp
      cases h
      exact ⟨p, prefixFor_eq_some.mp hp, rfl⟩
    · cases h
  · rintro ⟨p, hfirst, rfl⟩
    refine ⟨(uri, l), hsplit, ?_⟩
    simp only [prefixFor_eq_some.mpr hfirst]
    rfl

theorem display_eq (h : uri ≠ "") : QName.display ⟨uri, l⟩ = "\x7b" ++ uri ++ "\x7d" ++ l := by
  simp [QName.display, QName.namespace?, h]

/-- **Names with prefixes and names with URIs.**  A name that is read from a prefixed form and is in a namespace has
one prefixed form that is written for it, with the first prefix of its URI, and this is read as the same name.  What is
written for a name with its URI is read as a name that is displayed like that, if there are a URI and a local part, and
only then. -/
theorem names_convert (hprefixes : ns.DividesNames) (huris : ns.ClosesBraces) :
    (∀ q uri, q.namespace? = some uri → (∃ c, ns.expand c = .ok q) →
      ∃ p, ns.IsFirstPrefix p uri ∧ ns.prefixedName q.display = .ok (p ++ ":" ++ q.localPart) ∧
        ns.expand (p ++ ":" ++ q.localPart) = .ok q) ∧
    (∀ text c, ns.prefixedName text = .ok c → ∃ uri l, text = "\x7b" ++ uri ++ "\x7d" ++ l ∧ '\x7d' ∉ uri.toList) ∧
    (∀ uri l c, '\x7d' ∉ uri.toList → ns.prefixedName ("\x7b" ++ uri ++ "\x7d" ++ l) = .ok c →
      ((∃ q, ns.expand c = .ok q ∧ q.display = "\x7b" ++ uri ++ "\x7d" ++ l) ↔ uri ≠ "" ∧ l ≠ "")) := by
  refine ⟨?_, fun text c => exists_of_prefixedName, ?_⟩
  · rintro ⟨uri', l⟩ uri huri ⟨c, hc⟩
    obtain ⟨hne, rfl⟩ : uri' ≠ "" ∧ uri' = uri := by simpa [QName.namespace?] using huri
    obtain ⟨p', hbound, -, -, -, hl⟩ := expand_eq_ok.mp hc
    obtain ⟨p, hp⟩ := exists_prefixFor hbound
    have hfirst := prefixFor_eq_some.mp hp
    refine ⟨p, hfirst, ?_, hprefixes.expand hfirst.bound hl⟩
    rw [display_eq hne]
    exact (prefixedName_eq_ok (huris _ hbound)).mpr ⟨p, hfirst, rfl⟩
  · intro uri l c huri hc
    obtain ⟨p, hfirst, rfl⟩ := (prefixedName_eq_ok huri).mp hc
    constructor
    · rintro ⟨⟨uri', l'⟩, hexpand, hdisplay⟩
      obtain ⟨p', hbound, hwritten, hcolon, -, hl⟩ := expand_eq_ok.mp hexpand
      obtain ⟨rfl, rfl⟩ := eq_of_prefixed (hprefixes _ hfirst.bound).2 hcolon hwritten
      obtain rfl : uri = uri' := by
        have hresolve := Root.resolve_of_mem_bindings hfirst.bound
        rw [Root.resolve_of_mem_bindings hbound] at hresolve
        exact (Option.some.inj hresolve).symm
      refine ⟨?_, hl⟩
      rintro rfl
      -- A name without a URI is displayed without braces.
      have hlength : l.toList.length = l.toList.length + 1 + 1 := by
        simpa [QName.display, QName.namespace?] using congrArg (·.toList.length) hdisplay
      omega
    · rintro ⟨hne, hl⟩
      exact ⟨⟨uri, l⟩, hprefixes.expand hfirst.bound hl, display_eq hne⟩

/-- Two prefixes for one URI, with a colon in it. -/
def doubled : Namespaces := ofList [("b", "u:v"), ("a", "u:v"), ("c", "w")]

theorem bindings_doubled : doubled.bindings = [("a", "u:v"), ("b", "u:v"), ("c", "w")] := by decide

theorem doubled_converts :
    doubled.expand "b:x\x7dy:z" = .ok ⟨"u:v", "x\x7dy:z"⟩ ∧
    doubled.prefixedName "\x7bu:v\x7dx\x7dy:z" = .ok "a:x\x7dy:z" ∧
    (∃ p, doubled.IsFirstPrefix p "u:v" ∧
      doubled.prefixedName (QName.display ⟨"u:v", "x\x7dy:z"⟩) = .ok (p ++ ":" ++ "x\x7dy:z") ∧
      doubled.expand (p ++ ":" ++ "x\x7dy:z") = .ok ⟨"u:v", "x\x7dy:z"⟩) ∧
    ∃ q, doubled.expand "a:x\x7dy:z" = .ok q ∧ q.display = "\x7bu:v\x7dx\x7dy:z" := by
  have hprefixes : doubled.DividesNames := by
    rw [DividesNames, bindings_doubled]
    decide
  have huris : doubled.ClosesBraces := by
    rw [ClosesBraces, bindings_doubled]
    decide
  have hexpand : doubled.expand "b:x\x7dy:z" = .ok ⟨"u:v", "x\x7dy:z"⟩ := by rfl
  have hwritten : doubled.prefixedName "\x7bu:v\x7dx\x7dy:z" = .ok "a:x\x7dy:z" := by rfl
  obtain ⟨hread, -, hback⟩ := names_convert hprefixes huris
  exact ⟨hexpand, hwritten, hread ⟨"u:v", "x\x7dy:z"⟩ "u:v" rfl ⟨_, hexpand⟩,
    (hback "u:v" "x\x7dy:z" _ (by decide) hwritten).mpr (by decide)⟩

end Namespaces

end Regraft
