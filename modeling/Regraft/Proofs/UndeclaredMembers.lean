import Mathlib.Data.List.Nodup
import Regraft.Config
import Regraft.Proofs.Scopes
/-!
# Members that no structure declares

Where a configuration has its structures is a matter of its value alone (`Config.Occurs`): the whole, its root, its
rules, and in a rule the patterns and the policies of its normalizers, each in an object under its name or in an array
at its place.  If a configuration is read at all then all of them are read (`Occurs.reads`).  So a member that is not
declared is reported wherever the structure admits no others.  The root and the policies do admit others; a
configuration is read as if these were not there (`ofValue_alike`).

There are two halves, and they go in opposite directions.

* From what has been read to what is there: every structure that occurs has been read by its own reader, which had to
  sort its members, and sorting refuses a member of another name (`not_undeclared`).
* From what is there to what is read: dropping members that are admitted but not declared leaves every reader with the
  same members, and so with the same result (`ReadsAlike`).  After that, nothing undeclared is left anywhere
  (`Occurs.not_undeclared_of_tidy`).

Both are about values of JSON, not about texts: that a text is of a value is a hypothesis, and what no value is made of
is refused before.
-/

namespace Regraft.Config

open Json (Value)

/-! ## 1. Members of structures

A structure may be written as an object, whose members have names, or as an array, where they have places; `HasMember`
is the same relation for both.  Sorting gives a list in the order in which the structure declares its members, and a
member is found in it at the place of its name. -/

/-- A member of a structure, in an object under its name or in an array at its place. -/
inductive HasMember (shape : Shape) (key : String) : Value → Value → Prop where
  | object {members : List (Option String × Value)} {v : Value} : (some key, v) ∈ members →
      HasMember shape key (.object members) v
  | array {elements : List Value} {i : Nat} {v : Value} : shape.members[i]? = some key → elements[i]? = some v →
      HasMember shape key (.array elements) v

/-- A member that the structure does not declare. -/
def Undeclared (shape : Shape) : Value → Prop
  | .object members => ∃ m ∈ members, ∀ key ∈ shape.members, m.1 ≠ some key
  | _ => False

/-- Members whose names are all texts. -/
theorem mapM_named_eq_some {members : List (Option String × Value)} {named : List (String × Value)} :
    (members.mapM fun m => m.1.map fun key => (key, m.2)) = some named ↔
      members = named.map fun m => (some m.1, m.2) := by
  induction members generalizing named with
  | nil =>
    constructor
    · intro h
      cases h
      rfl
    · intro h
      rw [List.map_eq_nil_iff.mp h.symm]
      rfl
  | cons m members ih =>
    obtain ⟨key?, v⟩ := m
    rw [List.mapM_cons]
    constructor
    · intro h
      obtain ⟨first, hfirst, h⟩ := Option.bind_eq_some_iff.mp h
      obtain ⟨others, hothers, h⟩ := Option.bind_eq_some_iff.mp h
      cases h
      obtain ⟨key, rfl, rfl⟩ := Option.map_eq_some_iff.mp hfirst
      rw [ih.mp hothers]
      rfl
    · intro h
      cases named with
      | nil => cases h
      | cons n named =>
        obtain ⟨hn, hmembers⟩ := List.cons.inj h
        obtain ⟨rfl, rfl⟩ := Prod.mk.inj hn
        rw [ih.mpr hmembers]
        rfl

/-- An object is read as a structure if its names are texts, none of its members is there twice, and none is undeclared
where there may be no others. -/
theorem objectMembers_eq_some {shape : Shape} {members : List (Option String × Value)} {ms : List (Option Value)} :
    objectMembers shape members = some ms ↔ ∃ named : List (String × Value),
      members = (named.map fun m => (some m.1, m.2)) ∧
      ((named.filter fun m => shape.members.contains m.1).map (·.1)).Nodup ∧
      (shape.admitsOthers = false → ∀ m ∈ named, m.1 ∈ shape.members) ∧
      ms = shape.members.map fun key => (named.filter fun m => shape.members.contains m.1).lookup key := by
  have hothers (named : List (String × Value)) :
      (!shape.admitsOthers &&
          decide ((named.filter fun m => shape.members.contains m.1).length < named.length)) = true ↔
        ¬ (shape.admitsOthers = false → ∀ m ∈ named, m.1 ∈ shape.members) := by
    rw [Bool.and_eq_true, decide_eq_true_eq, List.length_filter_lt_length_iff_exists]
    simp
  rw [objectMembers]
  constructor
  · intro h
    obtain ⟨named, hnamed, h⟩ := Option.bind_eq_some_iff.mp h
    refine ⟨named, mapM_named_eq_some.mp hnamed, ?_⟩
    dsimp only at h
    split at h
    · cases h
    · rename_i hnodup
      split at h
      · cases h
      · rename_i hall
        rw [hothers, not_not] at hall
        exact ⟨by simpa using hnodup, hall, (Option.some.inj h).symm⟩
  · rintro ⟨named, hmembers, hnodup, hall, rfl⟩
    rw [mapM_named_eq_some.mpr hmembers, Option.bind_eq_bind, Option.bind_some]
    dsimp only
    rw [if_neg (by simpa using hnodup), if_neg (by rw [hothers, not_not]; exact hall)]
    rfl

/-- A member of a structure that has been read is found at its place. -/
theorem getElem_of_hasMember {shape : Shape} {v w : Value} {key : String} {ms : List (Option Value)}
    (hnodup : shape.members.Nodup) (hkey : key ∈ shape.members) (h : membersOf shape v = some ms)
    (hmember : HasMember shape key v w) : ms[shape.members.idxOf key]? = some (some w) := by
  cases hmember with
  | @object members _ hmem =>
    obtain ⟨named, rfl, hnames, -, rfl⟩ := objectMembers_eq_some.mp h
    have hknown : (key, w) ∈ named.filter fun m => shape.members.contains m.1 := by
      obtain ⟨m, hm, heq⟩ := List.mem_map.mp hmem
      cases heq
      exact List.mem_filter.mpr ⟨hm, by simpa using hkey⟩
    have hlookup : (named.filter fun m => shape.members.contains m.1).lookup key = some w := by
      generalize (named.filter fun m => shape.members.contains m.1) = known at hnames hknown
      obtain ⟨l, r, rfl⟩ := List.append_of_mem hknown
      refine List.lookup_eq_some_iff.mpr ⟨l, r, rfl, fun m hm => ?_⟩
      rw [List.map_append, List.nodup_append] at hnames
      have hne := hnames.2.2 m.1 (List.mem_map_of_mem hm) key (by simp)
      simpa using fun heq => hne heq.symm
    rw [List.getElem?_map, List.getElem?_idxOf hkey, Option.map_some, hlookup]
  | @array elements i _ hplace hw =>
    have hi : shape.members.idxOf key = i := by
      obtain ⟨hlt, rfl⟩ := List.getElem?_eq_some_iff.mp hplace
      exact hnodup.idxOf_getElem i hlt
    rw [membersOf] at h
    split at h
    · cases h
      have hlt : i < (elements.map some).length := by
        rw [List.length_map]
        exact (List.getElem?_eq_some_iff.mp hw).1
      rw [hi, List.getElem?_append_left hlt, List.getElem?_map, hw]
      rfl
    · cases h

/-- A structure that admits no others has no undeclared member. -/
theorem not_undeclared {shape : Shape} {v : Value} {ms : List (Option Value)} (hothers : shape.admitsOthers = false)
    (h : membersOf shape v = some ms) : ¬ Undeclared shape v := by
  cases v with
  | object members =>
    rintro ⟨m, hm, hnone⟩
    obtain ⟨named, rfl, -, hall, -⟩ := objectMembers_eq_some.mp h
    obtain ⟨n, hn, rfl⟩ := List.mem_map.mp hm
    exact hnone n.1 (hall hothers n hn) rfl
  | null => exact id
  | bool b => exact id
  | number n => exact id
  | text value => exact id
  | array elements => exact id

/-! ## 2. Structures of a configuration

`Occurs` is the only definition that says where structures are.  It follows the structures down from the whole
configuration and does not mention reading, so that a statement about it says something about the text as its author
wrote it. -/

/-- The structures that a configuration is made of. -/
inductive Structure where
  | config
  | root
  | rule
  | policy
  | pattern
  deriving DecidableEq, Repr

/-- How a structure is written. -/
def Structure.shape : Structure → Shape
  | config => Config.shape
  | root => rootShape
  | rule => ruleShape
  | policy => policyShape
  | pattern => patternShape

/-- Whether a value is read as a structure. -/
def Structure.reads (v : Value) : Structure → Bool
  | config => (ofValue v).isSome
  | root => (readRoot v).isSome
  | rule => (readRule v).isSome
  | policy => (readNormalizer normalizerDepth v).isSome
  | pattern => (readPattern v).isSome

/-- Where the value of a configuration has its structures. -/
inductive Occurs (v : Value) : Structure → Value → Prop where
  | config : Occurs v .config v
  | root {w : Value} : HasMember shape "root" v w → Occurs v .root w
  | rule {ws : List Value} {w : Value} : HasMember shape "rules" v (.array ws) → w ∈ ws → Occurs v .rule w
  | policy {u : Value} {ws : List Value} {members : List (Option String × Value)} : Occurs v .rule u →
      HasMember ruleShape "normalize" u (.array ws) → .object members ∈ ws → Occurs v .policy (.object members)
  | pattern {u w : Value} {ws ps : List Value} : Occurs v .rule u → HasMember ruleShape "normalize" u (.array ws) →
      .array ps ∈ ws → w ∈ ps → Occurs v .pattern w
  | policyPattern {u w : Value} {ps : List Value} : Occurs v .policy u → HasMember policyShape "rules" u (.array ps) →
      w ∈ ps → Occurs v .pattern w

/-! ## 3. What is read

Each reader is turned into an equation for what it needs to succeed.  Then a structure that occurs has been read because
everything that holds it has been, by induction on how it occurs. -/

/-- A configuration is read from its four members. -/
theorem ofValue_eq_some {v : Value} {c : Config} : ofValue v = some c ↔
    ∃ root sourceNamespaces vocabulary rules, membersOf shape v = some [root, sourceNamespaces, vocabulary, rules] ∧
      required readRoot root = some c.root ∧
      optional dictionary .empty sourceNamespaces = some c.sourceNamespaces.table ∧
      optional dictionary .empty vocabulary = some c.vocabulary.table ∧
      optional (list readRule) [] rules = some c.rules := by
  rw [ofValue]
  constructor
  · intro h
    obtain ⟨ms, hms, h⟩ := Option.bind_eq_some_iff.mp h
    split at h
    · rename_i root sourceNamespaces vocabulary rules
      obtain ⟨r, hr, h⟩ := Option.bind_eq_some_iff.mp h
      obtain ⟨ns, hns, h⟩ := Option.bind_eq_some_iff.mp h
      obtain ⟨vs, hvs, h⟩ := Option.bind_eq_some_iff.mp h
      obtain ⟨rs, hrs, h⟩ := Option.bind_eq_some_iff.mp h
      cases h
      exact ⟨root, sourceNamespaces, vocabulary, rules, hms, hr, hns, hvs, hrs⟩
    · cases h
  · rintro ⟨root, sourceNamespaces, vocabulary, rules, hms, hr, hns, hvs, hrs⟩
    simp only [hms, hr, hns, hvs, hrs, Option.bind_eq_bind, Option.bind_some]
    rfl

/-- A rule is read from its five members. -/
theorem readRule_eq_some {v : Value} {e : RuleEntry} : readRule v = some e ↔
    ∃ destination source values template normalize,
      membersOf ruleShape v = some [destination, source, values, template, normalize] ∧
      required text destination = some e.destination ∧ required text source = some e.source ∧
      required (list text) values = some e.values ∧ required text template = some e.template ∧
      optional (nullable (list (nullable (readNormalizer normalizerDepth)))) none normalize = some e.normalize := by
  rw [readRule]
  constructor
  · intro h
    obtain ⟨ms, hms, h⟩ := Option.bind_eq_some_iff.mp h
    split at h
    · rename_i destination source values template normalize
      obtain ⟨d, hd, h⟩ := Option.bind_eq_some_iff.mp h
      obtain ⟨s, hs, h⟩ := Option.bind_eq_some_iff.mp h
      obtain ⟨vs, hvs, h⟩ := Option.bind_eq_some_iff.mp h
      obtain ⟨t, ht, h⟩ := Option.bind_eq_some_iff.mp h
      obtain ⟨n, hn, h⟩ := Option.bind_eq_some_iff.mp h
      cases h
      exact ⟨destination, source, values, template, normalize, hms, hd, hs, hvs, ht, hn⟩
    · cases h
  · rintro ⟨destination, source, values, template, normalize, hms, hd, hs, hvs, ht, hn⟩
    simp only [hms, hd, hs, hvs, ht, hn, Option.bind_eq_bind, Option.bind_some]
    rfl

/-- An object among the normalizers is a policy, which is kept as a value before it is read. -/
theorem readNormalizer_object_eq_some {depth : Nat} {members : List (Option String × Value)} {e : NormalizerEntry} :
    readNormalizer depth (.object members) = some e ↔ (Value.object members).isKept depth = true ∧
      ∃ patterns noMatch ps policy, membersOf policyShape (.object members) = some [patterns, noMatch] ∧
        required (list readPattern) patterns = some ps ∧ optional readNoMatch .keep noMatch = some policy ∧
        e = .policy ps policy := by
  unfold readNormalizer
  constructor
  · intro h
    split at h
    · cases h
    · rename_i hkept
      obtain ⟨ms, hms, h⟩ := Option.bind_eq_some_iff.mp h
      split at h
      · rename_i patterns noMatch
        obtain ⟨ps, hps, h⟩ := Option.bind_eq_some_iff.mp h
        obtain ⟨policy, hpolicy, h⟩ := Option.bind_eq_some_iff.mp h
        cases h
        exact ⟨by simpa using hkept, patterns, noMatch, ps, policy, hms, hps, hpolicy, rfl⟩
      · cases h
  · rintro ⟨hkept, patterns, noMatch, ps, policy, hms, hps, hpolicy, rfl⟩
    rw [if_neg (by simp [hkept])]
    simp only [hms, hps, hpolicy, Option.bind_eq_bind, Option.bind_some]
    rfl

/-- Of a list that has been read every element has been. -/
theorem isSome_of_mem {α : Type} {f : Value → Option α} {vs : List Value} {as : List α}
    (h : list f (.array vs) = some as) {v : Value} (hv : v ∈ vs) : (f v).isSome = true :=
  Xml.mapM_isSome.mp (Option.isSome_iff_exists.mpr ⟨as, h⟩) v hv

/-- Of a rule that has been read every normalizer has been, unless there is none. -/
theorem isSome_normalizer {u w : Value} {ws : List Value} (h : (readRule u).isSome = true)
    (hmember : HasMember ruleShape "normalize" u (.array ws)) (hw : w ∈ ws) (hnull : w ≠ .null) :
    (readNormalizer normalizerDepth w).isSome = true := by
  obtain ⟨e, he⟩ := Option.isSome_iff_exists.mp h
  obtain ⟨_, _, _, _, normalize, hms, -, -, -, -, hnormalize⟩ := readRule_eq_some.mp he
  obtain rfl : normalize = some _ := Option.some.inj (getElem_of_hasMember (by decide) (by decide) hms hmember)
  obtain ⟨entries, hentries, -⟩ := Option.map_eq_some_iff.mp hnormalize
  have hread := isSome_of_mem hentries hw
  rw [nullable] at hread
  · rwa [Option.isSome_map] at hread
  · exact hnull

/-- **If a configuration is read then all structures in it are.** -/
theorem Occurs.reads {v w : Value} {s : Structure} (h : Occurs v s w) (hv : (ofValue v).isSome = true) :
    s.reads w = true := by
  -- On the way to a structure all that holds it has been read, the whole configuration first.
  induction h with
  | config => exact hv
  | root hmember =>
    obtain ⟨c, hc⟩ := Option.isSome_iff_exists.mp hv
    obtain ⟨root, _, _, _, hms, hroot, -⟩ := ofValue_eq_some.mp hc
    obtain rfl : root = some _ := Option.some.inj (getElem_of_hasMember (by decide) (by decide) hms hmember)
    exact Option.isSome_iff_exists.mpr ⟨c.root, hroot⟩
  | rule hmember hw =>
    obtain ⟨c, hc⟩ := Option.isSome_iff_exists.mp hv
    obtain ⟨_, _, _, rules, hms, -, -, -, hrules⟩ := ofValue_eq_some.mp hc
    obtain rfl : rules = some _ := Option.some.inj (getElem_of_hasMember (by decide) (by decide) hms hmember)
    exact isSome_of_mem hrules hw
  | policy _ hmember hw ih => exact isSome_normalizer ih hmember hw nofun
  | pattern _ hmember hps hw ih =>
    obtain ⟨entry, hentry⟩ := Option.isSome_iff_exists.mp (isSome_normalizer ih hmember hps nofun)
    rw [readNormalizer] at hentry
    split at hentry
    · cases hentry
    · obtain ⟨patterns, hpatterns, -⟩ := Option.map_eq_some_iff.mp hentry
      exact isSome_of_mem hpatterns hw
  | policyPattern hpolicy hmember hw ih =>
    -- A policy is an object, so it is read from its members.
    cases hpolicy with
    | policy _ _ _ =>
      obtain ⟨entry, hentry⟩ := Option.isSome_iff_exists.mp ih
      obtain ⟨-, patterns, _, ps, _, hms, hpatterns, -, -⟩ := readNormalizer_object_eq_some.mp hentry
      obtain rfl : patterns = some _ := Option.some.inj (getElem_of_hasMember (by decide) (by decide) hms hmember)
      exact isSome_of_mem hpatterns hw

/-- A structure that admits no other members is read from its members. -/
theorem exists_membersOf {v : Value} {s : Structure} (hs : s.shape.admitsOthers = false) (h : s.reads v = true) :
    ∃ ms, membersOf s.shape v = some ms := by
  cases s with
  | config =>
    obtain ⟨c, hc⟩ := Option.isSome_iff_exists.mp h
    obtain ⟨_, _, _, _, hms, -⟩ := ofValue_eq_some.mp hc
    exact ⟨_, hms⟩
  | rule =>
    obtain ⟨e, he⟩ := Option.isSome_iff_exists.mp h
    obtain ⟨_, _, _, _, _, hms, -⟩ := readRule_eq_some.mp he
    exact ⟨_, hms⟩
  | pattern =>
    obtain ⟨e, he⟩ := Option.isSome_iff_exists.mp h
    obtain ⟨ms, hms, -⟩ := Option.bind_eq_some_iff.mp he
    exact ⟨ms, hms⟩
  | root => cases hs
  | policy => cases hs

/-! ## 4. Configurations without undeclared members

`tidy` drops what is not declared, in the root and in the policies of all rules, and leaves everything else as it is.  A
reader that succeeds on a value succeeds on the tidy value with the same result.  It is shown for each reader from the
readers that it calls; what one member is changed to is the only thing that is different (`membersOf_atMember`). -/

/-- An object with the declared members alone. -/
def keepDeclared (shape : Shape) : Value → Value
  | .object members => .object (members.filter fun m => m.1.any shape.members.contains)
  | v => v

/-- A structure with one of its members changed, in an object or in an array. -/
def atMember (shape : Shape) (key : String) (f : Value → Value) : Value → Value
  | .object members => .object (members.map fun m => if m.1 = some key then (m.1, f m.2) else m)
  | .array elements => .array (elements.modify (shape.members.idxOf key) f)
  | v => v

/-- A list with each of its elements changed. -/
def inList (f : Value → Value) : Value → Value
  | .array elements => .array (elements.map f)
  | v => v

/-- A rule without the undeclared members of its policies. -/
def tidyRule : Value → Value := atMember ruleShape "normalize" (inList (keepDeclared policyShape))

/-- A configuration without the undeclared members of its root and of its policies. -/
def tidy (v : Value) : Value :=
  atMember shape "rules" (inList tidyRule) (atMember shape "root" (keepDeclared rootShape) v)

variable {shape : Shape} {v : Value} {ms : List (Option Value)}

/-- Members that are not declared make no difference to those that are. -/
theorem membersOf_keepDeclared (h : membersOf shape v = some ms) :
    membersOf shape (keepDeclared shape v) = some ms := by
  cases v with
  | object members =>
    obtain ⟨named, rfl, hnodup, hall, rfl⟩ := objectMembers_eq_some.mp h
    refine objectMembers_eq_some.mpr ⟨named.filter fun m => shape.members.contains m.1, ?_, ?_, ?_, ?_⟩
    · rw [List.filter_map]
      rfl
    · simpa only [List.filter_filter, Bool.and_self] using hnodup
    · intro _ m hm
      simpa using (List.mem_filter.mp hm).2
    · simp only [List.filter_filter, Bool.and_self]
  | null => exact h
  | bool b => exact h
  | number n => exact h
  | text value => exact h
  | array elements => exact h

/-- What is found after the value under one key has been changed. -/
theorem lookup_map_if (key : String) (f : Value → Value) (k : String) (named : List (String × Value)) :
    (named.map fun m => if m.1 = key then (m.1, f m.2) else m).lookup k =
      if k = key then (named.lookup k).map f else named.lookup k := by
  induction named with
  | nil => simp
  | cons m named ih =>
    have hfst : (if m.1 = key then (m.1, f m.2) else m).1 = m.1 := by split <;> rfl
    rw [List.map_cons, List.lookup_cons, List.lookup_cons, hfst, ih]
    by_cases hm : k = m.1
    · subst hm
      rw [beq_self_eq_true]
      dsimp only
      split <;> rfl
    · rw [beq_eq_false_iff_ne.mpr hm]

theorem map_modify_idxOf {α : Type} (key : String) (f : α → α) (g : String → α) {keys : List String}
    (hkeys : keys.Nodup) :
    (keys.map g).modify (keys.idxOf key) f = keys.map fun k => if k = key then f (g k) else g k := by
  induction keys with
  | nil => rfl
  | cons k keys ih =>
    obtain ⟨hk, hkeys⟩ := List.nodup_cons.mp hkeys
    by_cases heq : k = key
    · subst heq
      have hrest : (keys.map fun j => if j = k then f (g j) else g j) = keys.map g :=
        List.map_congr_left fun j hj => if_neg fun (heq : j = k) => hk (heq ▸ hj)
      rw [List.idxOf_cons_self, List.map_cons, List.map_cons, hrest, if_pos rfl]
      rfl
    · rw [List.idxOf_cons_ne _ heq, List.map_cons, List.map_cons, ← ih hkeys, if_neg heq]
      rfl

/-- To change a place is to change the element there, if there is one. -/
theorem modify_map_some (f : Value → Value) (n : Nat) (elements : List Value) (i : Nat) :
    (elements.map some ++ List.replicate n none).modify i (Option.map f) =
      (elements.modify i f).map some ++ List.replicate n none := by
  induction elements generalizing i with
  | nil =>
    rw [List.map_nil, List.nil_append, List.modify_nil, List.map_nil, List.nil_append]
    induction n generalizing i with
    | zero => rw [List.replicate_zero, List.modify_nil]
    | succ n ih =>
      cases i with
      | zero => rfl
      | succ i => exact congrArg (none :: ·) (ih i)
  | cons v elements ih =>
    cases i with
    | zero => rfl
    | succ i => exact congrArg (some v :: ·) (ih i)

/-- To change one member is to change what is sorted at its place. -/
theorem membersOf_atMember {key : String} (f : Value → Value) (hnodup : shape.members.Nodup)
    (h : membersOf shape v = some ms) :
    membersOf shape (atMember shape key f v) = some (ms.modify (shape.members.idxOf key) (Option.map f)) := by
  cases v with
  | object members =>
    obtain ⟨named, rfl, hnames, hall, rfl⟩ := objectMembers_eq_some.mp h
    have hfst (m : String × Value) : (if m.1 = key then (m.1, f m.2) else m).1 = m.1 := by split <;> rfl
    -- Names do not change, so the same members are declared, in the same order.
    have hknown : ((named.map fun m => if m.1 = key then (m.1, f m.2) else m).filter fun m =>
          shape.members.contains m.1) =
        (named.filter fun m => shape.members.contains m.1).map fun m => if m.1 = key then (m.1, f m.2) else m := by
      rw [List.filter_map]
      congr 2
      funext m
      rw [Function.comp_apply, hfst]
    refine objectMembers_eq_some.mpr ⟨named.map fun m => if m.1 = key then (m.1, f m.2) else m, ?_, ?_, ?_, ?_⟩
    · rw [List.map_map, List.map_map]
      refine List.map_congr_left fun m _ => ?_
      by_cases hm : m.1 = key
      · simp [hm]
      · simp [hm]
    · rw [hknown, List.map_map]
      simpa only [Function.comp_def, hfst] using hnames
    · intro hothers m hm
      obtain ⟨n, hn, rfl⟩ := List.mem_map.mp hm
      rw [hfst]
      exact hall hothers n hn
    · rw [map_modify_idxOf key (Option.map f) _ hnodup, hknown]
      refine List.map_congr_left fun k _ => ?_
      rw [lookup_map_if]
  | array elements =>
    rw [membersOf] at h
    rw [atMember, membersOf, List.length_modify]
    split at h
    · rename_i hfits
      cases h
      rw [if_pos hfits, modify_map_some]
    · cases h
  | null => cases h
  | bool b => cases h
  | number n => cases h
  | text value => cases h

/-- What is read from a value is read from the changed value. -/
def ReadsAlike {α : Type} (f : Value → Option α) (g : Value → Value) : Prop :=
  ∀ ⦃v : Value⦄ ⦃a : α⦄, f v = some a → f (g v) = some a

/-- A list is read the same if each of its elements is. -/
theorem ReadsAlike.list {α : Type} {f : Value → Option α} {g : Value → Value} (hg : ReadsAlike f g) :
    ReadsAlike (list f) (inList g) := by
  intro v as h
  cases v with
  | array elements =>
    rw [Config.list] at h
    rw [inList, Config.list]
    induction elements generalizing as with
    | nil => exact h
    | cons w elements ih =>
      rw [List.mapM_cons] at h
      obtain ⟨a, ha, h⟩ := Option.bind_eq_some_iff.mp h
      obtain ⟨others, hothers, h⟩ := Option.bind_eq_some_iff.mp h
      cases h
      rw [List.map_cons, List.mapM_cons, hg ha, ih hothers]
      rfl
  | null => cases h
  | bool b => cases h
  | number n => cases h
  | text value => cases h
  | object members => cases h

theorem membersKept_eq_all (depth : Nat) (members : List (Option String × Value)) :
    Json.membersKept depth members = members.all fun m => m.1.isSome && m.2.isKept depth := by
  induction members with
  | nil => rfl
  | cons m members ih => rw [Json.membersKept, List.all_cons, ih]

theorem isKept_keepDeclared {depth : Nat} (h : v.isKept depth = true) : (keepDeclared shape v).isKept depth = true := by
  cases v with
  | object members =>
    rw [Value.isKept, Bool.and_eq_true, membersKept_eq_all, List.all_eq_true] at h
    rw [keepDeclared, Value.isKept, Bool.and_eq_true, membersKept_eq_all, List.all_eq_true]
    exact ⟨h.1, fun m hm => h.2 m (List.mem_filter.mp hm).1⟩
  | null => exact h
  | bool b => exact h
  | number n => exact h
  | text value => exact h
  | array elements => exact h

theorem readRoot_alike : ReadsAlike readRoot (keepDeclared rootShape) := by
  intro v r h
  obtain ⟨ms, hms, h⟩ := Option.bind_eq_some_iff.mp h
  rw [readRoot, membersOf_keepDeclared hms]
  exact h

theorem nullable_readNormalizer_alike (depth : Nat) :
    ReadsAlike (nullable (readNormalizer depth)) (keepDeclared policyShape) := by
  intro v e h
  cases v with
  | object members =>
    obtain ⟨entry, hentry, rfl⟩ := Option.map_eq_some_iff.mp h
    obtain ⟨hkept, patterns, noMatch, ps, policy, hms, hread⟩ := readNormalizer_object_eq_some.mp hentry
    have hentry' : readNormalizer depth (keepDeclared policyShape (.object members)) = some entry :=
      readNormalizer_object_eq_some.mpr
        ⟨isKept_keepDeclared hkept, patterns, noMatch, ps, policy, membersOf_keepDeclared hms, hread⟩
    exact Option.map_eq_some_iff.mpr ⟨entry, hentry', rfl⟩
  | null => exact h
  | bool b => exact h
  | number n => exact h
  | text value => exact h
  | array elements => exact h

theorem ReadsAlike.nullable_list {α : Type} {f : Value → Option α} {g : Value → Value} (hg : ReadsAlike f g) :
    ReadsAlike (nullable (Config.list f)) (inList g) := by
  intro v as h
  cases v with
  | array elements =>
    obtain ⟨bs, hbs, rfl⟩ := Option.map_eq_some_iff.mp h
    exact Option.map_eq_some_iff.mpr ⟨bs, hg.list hbs, rfl⟩
  | null => exact h
  | bool b => exact h
  | number n => exact h
  | text value => exact h
  | object members => exact h

/-- A member that may be left out is read the same if its value is. -/
theorem ReadsAlike.optional {α : Type} {f : Value → Option α} {g : Value → Value} (hg : ReadsAlike f g)
    {member : Option Value} {otherwise a : α} (h : optional f otherwise member = some a) :
    Config.optional f otherwise (member.map g) = some a := by
  cases member with
  | none => exact h
  | some w => exact hg h

theorem readRule_alike : ReadsAlike readRule tidyRule := by
  intro v e h
  obtain ⟨destination, source, values, template, normalize, hms, hd, hs, hvs, ht, hn⟩ := readRule_eq_some.mp h
  exact readRule_eq_some.mpr ⟨destination, source, values, template, _, membersOf_atMember _ (by decide) hms,
    hd, hs, hvs, ht, (nullable_readNormalizer_alike normalizerDepth).nullable_list.optional hn⟩

/-- **A configuration is read as if the undeclared members of its root and of its policies were not there.** -/
theorem ofValue_alike : ReadsAlike ofValue tidy := by
  intro v c h
  obtain ⟨root, sourceNamespaces, vocabulary, rules, hms, hroot, hns, hvs, hrules⟩ := ofValue_eq_some.mp h
  have hroot' : required readRoot (root.map (keepDeclared rootShape)) = some c.root := by
    obtain ⟨w, rfl, hw⟩ := Option.bind_eq_some_iff.mp hroot
    exact readRoot_alike hw
  exact ofValue_eq_some.mpr ⟨_, sourceNamespaces, vocabulary, _,
    membersOf_atMember _ (by decide) (membersOf_atMember _ (by decide) hms), hroot', hns, hvs,
    readRule_alike.list.optional hrules⟩

/-- What a structure with a changed member has under a name. -/
theorem HasMember.of_atMember {key k : String} {f : Value → Value} {w : Value} (hnodup : shape.members.Nodup)
    (h : HasMember shape k (atMember shape key f v) w) :
    ∃ u, HasMember shape k v u ∧ w = if k = key then f u else u := by
  cases v with
  | object members =>
    rw [atMember] at h
    cases h with
    | object hmem =>
      obtain ⟨m, hm, heq⟩ := List.mem_map.mp hmem
      obtain ⟨name, u⟩ := m
      by_cases hname : name = some key
      · rw [if_pos hname] at heq
        obtain ⟨rfl, rfl⟩ := Prod.mk.inj heq
        exact ⟨u, .object hm, by rw [if_pos (Option.some.inj hname)]⟩
      · rw [if_neg hname] at heq
        obtain ⟨rfl, rfl⟩ := Prod.mk.inj heq
        exact ⟨u, .object hm, by rw [if_neg fun hk => hname (congrArg some hk)]⟩
  | array elements =>
    rw [atMember] at h
    cases h with
    | @array _ i _ hplace hw =>
      obtain ⟨hlt, rfl⟩ := List.getElem?_eq_some_iff.mp hplace
      rw [List.getElem?_modify] at hw
      obtain ⟨u, hu, rfl⟩ := Option.map_eq_some_iff.mp hw
      refine ⟨u, .array hplace hu, ?_⟩
      -- A place stands for one name, as no name is declared twice.
      have hi : shape.members.idxOf key = i ↔ shape.members[i] = key := by
        constructor
        · rintro rfl
          exact List.getElem_idxOf hlt
        · rintro rfl
          exact hnodup.idxOf_getElem i hlt
      by_cases hk : shape.members[i] = key
      · rw [if_pos hk, if_pos (hi.mpr hk)]
      · rw [if_neg hk, if_neg fun heq => hk (hi.mp heq)]
  | null => cases h
  | bool b => cases h
  | number n => cases h
  | text value => cases h

theorem not_undeclared_keepDeclared (shape : Shape) (v : Value) : ¬ Undeclared shape (keepDeclared shape v) := by
  cases v with
  | object members =>
    rintro ⟨m, hm, hnone⟩
    obtain ⟨key, hname, hkey⟩ := (Option.any_eq_true _ _).mp (List.mem_filter.mp hm).2
    exact hnone key (by simpa using hkey) hname
  | null => exact id
  | bool b => exact id
  | number n => exact id
  | text value => exact id
  | array elements => exact id

theorem mem_inList {f : Value → Value} {ws : List Value} {w : Value} (h : .array ws = inList f v) (hw : w ∈ ws) :
    ∃ u, w = f u := by
  cases v with
  | array elements =>
    cases h
    obtain ⟨u, -, rfl⟩ := List.mem_map.mp hw
    exact ⟨u, rfl⟩
  | null => cases h
  | bool b => cases h
  | number n => cases h
  | text value => cases h
  | object members => cases h

/-- Without them nothing undeclared is left. -/
theorem Occurs.not_undeclared_of_tidy {s : Structure} {w : Value} (hread : (ofValue v).isSome = true)
    (h : Occurs (tidy v) s w) : ¬ Undeclared s.shape w := by
  have hstrict (hs : s.shape.admitsOthers = false) : ¬ Undeclared s.shape w := by
    obtain ⟨c, hc⟩ := Option.isSome_iff_exists.mp hread
    obtain ⟨ms, hms⟩ := exists_membersOf hs (h.reads (Option.isSome_iff_exists.mpr ⟨c, ofValue_alike hc⟩))
    exact not_undeclared hs hms
  cases h with
  | config => exact hstrict rfl
  | rule _ _ => exact hstrict rfl
  | pattern _ _ _ _ => exact hstrict rfl
  | policyPattern _ _ _ => exact hstrict rfl
  | root hmember =>
    obtain ⟨u, hu, rfl⟩ := hmember.of_atMember (by decide)
    obtain ⟨u, -, rfl⟩ := hu.of_atMember (by decide)
    exact not_undeclared_keepDeclared rootShape u
  | policy hrule hmember hw =>
    cases hrule with
    | rule hrules hmem =>
      obtain ⟨us, -, hus⟩ := hrules.of_atMember (by decide)
      obtain ⟨u, rfl⟩ := mem_inList hus hmem
      obtain ⟨ns, -, hns⟩ := hmember.of_atMember (by decide)
      obtain ⟨n, hn⟩ := mem_inList hns hw
      exact hn ▸ not_undeclared_keepDeclared policyShape n

/-! ## 5. Typos

The two halves together, with a configuration for each of the structures: a typo in a pattern is reported, one in the
root or in a policy is not. -/

/-- **Where a configuration, a rule or a pattern has a member that is not declared, at whatever place, the configuration
is not accepted.  The root and the policies of normalizers admit others: what is accepted is the same without them.** -/
theorem undeclared_reported {text : String} {v : Value} (htext : Value.parse text = some v) :
    (∀ s w, Occurs v s w → s ≠ .root → s ≠ .policy → Undeclared s.shape w →
        parse text = .error .malformedConfig) ∧
      ∀ c, parse text = .ok c → ofValue (tidy v) = some c ∧ ∀ s w, Occurs (tidy v) s w → ¬ Undeclared s.shape w := by
  have hok {c : Config} (hv : ofValue v = some c) : parse text = .ok c := by
    rw [parse, htext, Option.bind_some, hv]
  have herror (hv : ofValue v = none) : parse text = .error .malformedConfig := by
    rw [parse, htext, Option.bind_some, hv]
  constructor
  · intro s w hw hroot hpolicy hnot
    have hs : s.shape.admitsOthers = false := by
      cases s with
      | root => exact absurd rfl hroot
      | policy => exact absurd rfl hpolicy
      | config => rfl
      | rule => rfl
      | pattern => rfl
    refine herror (Option.eq_none_iff_forall_not_mem.mpr fun c hc => ?_)
    obtain ⟨ms, hms⟩ := exists_membersOf hs (hw.reads (Option.isSome_iff_exists.mpr ⟨c, hc⟩))
    exact not_undeclared hs hms hnot
  · intro c hc
    have hv : ofValue v = some c := by
      cases hread : ofValue v with
      | some c' => exact congrArg some (Except.ok.inj ((hok hread).symm.trans hc))
      | none =>
        rw [herror hread] at hc
        cases hc
    exact ⟨ofValue_alike hv, fun s w hw => hw.not_undeclared_of_tidy (Option.isSome_iff_exists.mpr ⟨c, hv⟩)⟩

/-- A rule for one value, written as an array. -/
def sampleRule (normalizer : Value) : Value :=
  .array [.text (some "y"), .text (some "b"), .array [.text (some ".")], .text (some "%s"), .array [normalizer]]

/-- A configuration with a rule. -/
def sample (root normalizer : Value) : Value :=
  .object [(some "root", root), (some "rules", .array [sampleRule normalizer])]

theorem occurs_root (root normalizer : Value) : Occurs (sample root normalizer) .root root :=
  .root (.object (List.mem_cons_self ..))

theorem occurs_rule (root normalizer : Value) : Occurs (sample root normalizer) .rule (sampleRule normalizer) :=
  .rule (.object (List.mem_cons_of_mem _ (List.mem_singleton.mpr rfl))) (List.mem_singleton.mpr rfl)

theorem hasMember_normalize (normalizer : Value) :
    HasMember ruleShape "normalize" (sampleRule normalizer) (.array [normalizer]) :=
  .array (i := 4) rfl rfl

/-- A configuration with a typo in a pattern. -/
def misspelledPattern : String :=
  "\x7b\"root\":[\"z\"],\"rules\":[[\"y\",\"b\",[\".\"],\"%s\",[[\x7b\"patern\":\"a\"\x7d]]]]\x7d"

theorem misspelledPattern_reported : parse misspelledPattern = .error .malformedConfig := by
  have htext : Value.parse misspelledPattern = some (sample (.array [.text (some "z")])
      (.array [.object [(some "patern", .text (some "a"))]])) := by cbv
  have hpattern : Undeclared patternShape (.object [(some "patern", .text (some "a"))]) :=
    ⟨_, List.mem_singleton.mpr rfl, by decide⟩
  exact (undeclared_reported htext).1 .pattern _
    (.pattern (occurs_rule _ _) (hasMember_normalize _) (List.mem_singleton.mpr rfl) (List.mem_singleton.mpr rfl))
    (by decide) (by decide) hpattern

/-- A configuration with a typo in its root and one in a policy. -/
def misspelled : String :=
  "\x7b\"root\":\x7b\"name\":\"z\",\"nmae\":\"x\"\x7d," ++
    "\"rules\":[[\"y\",\"b\",[\".\"],\"%s\",[\x7b\"rules\":[],\"no_mach\":\"filter\"\x7d]]]\x7d"

/-- Neither typo is reported. -/
theorem misspelled_accepted : ∃ v c, Value.parse misspelled = some v ∧
    (∃ w, Occurs v .root w ∧ Undeclared rootShape w) ∧ (∃ w, Occurs v .policy w ∧ Undeclared policyShape w) ∧
    parse misspelled = .ok c ∧ c.root.name = "z" ∧ c.rules.map (·.normalize) = [some [some (.policy [] .keep)]] := by
  have htext : Value.parse misspelled = some (sample
      (.object [(some "name", .text (some "z")), (some "nmae", .text (some "x"))])
      (.object [(some "rules", .array []), (some "no_mach", .text (some "filter"))])) := by cbv
  have hnmae : Undeclared rootShape (.object [(some "name", .text (some "z")), (some "nmae", .text (some "x"))]) :=
    ⟨(some "nmae", .text (some "x")), by simp, by decide⟩
  have hnoMach : Undeclared policyShape
      (.object [(some "rules", .array []), (some "no_mach", .text (some "filter"))]) :=
    ⟨(some "no_mach", .text (some "filter")), by simp, by decide⟩
  refine ⟨_, ⟨⟨"z", none, ⟨.empty⟩, .empty⟩, ⟨.empty⟩, ⟨.empty⟩,
      [⟨"y", "b", ["."], "%s", some [some (.policy [] .keep)]⟩]⟩, htext, ⟨_, occurs_root _ _, hnmae⟩,
    ⟨_, .policy (occurs_rule _ _) (hasMember_normalize _) (List.mem_singleton.mpr rfl), hnoMach⟩, ?_, rfl, rfl⟩
  rw [parse, htext]
  rfl

end Regraft.Config
