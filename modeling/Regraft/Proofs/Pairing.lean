import Regraft.Proofs.Success
/-!
# Elements of one name, and what becomes of them

A descent changes a content in two ways only: it adds empty elements at the end (`padded`), and it pairs
edits with the elements of a name.  `EachNamed q R c c'` says of two contents that the second is the first
with the elements of the name `q` changed, the `i`-th of them as `R i` allows, and nothing else.

* `named_induction`: the induction on contents that all proofs about pairing make;
* `eachNamed_eq_done`: pairing edits with elements succeeds exactly if each edit does on its element;
* `EachNamed.trans`: changes one after the other are one change of each element;
* `EachNamed.append`: what comes later in the content is not touched, so elements may as well have been
  added beforehand.

The last two are what makes the order of pairing and padding immaterial.
-/

namespace Regraft

open Xml (Node QName Tag)
open Edit (countNamed)

/-! ## 1. Elements of one name -/

namespace Edit

theorem isNamed_element (q : QName) (tag : Tag) (k : List Node) :
    Node.isNamed q (.element tag k) = decide (tag.name = q) := by
  unfold Node.isNamed
  by_cases h : tag.name = q
  · simp [Node.name?, h]
  · simp [Node.name?, h]

theorem isNamed_of_name {q : QName} {tag : Tag} (h : tag.name = q) (k : List Node) :
    Node.isNamed q (.element tag k) = true := by
  rw [isNamed_element]
  exact decide_eq_true h

/-- Induction on a content whose nodes are elements of a name or others.  Whatever has the name is an
element. -/
theorem named_induction (q : QName) {P : List Node → Prop} (nil : P [])
    (named : ∀ (tag : Tag) (k c : List Node), tag.name = q → P c → P (.element tag k :: c))
    (other : ∀ (n : Node) (c : List Node), n.isNamed q = false → P c → P (n :: c)) :
    ∀ c, P c
  | [] => nil
  | .element tag k :: c => by
    have hc := named_induction q nil named other c
    by_cases h : tag.name = q
    · exact named tag k c h hc
    · exact other _ c ((isNamed_element q tag k).trans (decide_eq_false h)) hc
  | .text v :: c => other (.text v) c rfl (named_induction q nil named other c)
  | .comment v :: c => other (.comment v) c rfl (named_induction q nil named other c)
  | .instruction t d :: c => other (.instruction t d) c rfl (named_induction q nil named other c)

theorem countNamed_cons_named {q : QName} {tag : Tag} (h : tag.name = q) (k c : List Node) :
    countNamed q (.element tag k :: c) = countNamed q c + 1 := by
  unfold countNamed
  rw [List.countP_cons, if_pos (isNamed_of_name h k)]

theorem countNamed_cons_other {q : QName} {n : Node} {c : List Node} (h : n.isNamed q = false) :
    countNamed q (n :: c) = countNamed q c := by
  unfold countNamed
  rw [List.countP_cons, if_neg (by simp [h]), Nat.add_zero]

theorem countNamed_append (q : QName) (c c' : List Node) :
    countNamed q (c ++ c') = countNamed q c + countNamed q c' := by
  unfold countNamed
  exact List.countP_append

end Edit

/-! ## 2. Elements added at the end -/

/-- An empty element of a name. -/
def emptyElement (q : QName) : Node := .element (.plain q) []

/-- A content with empty elements of a name added at its end until there are at least `n`. -/
def padded (q : QName) (n : Nat) (c : List Node) : List Node :=
  c ++ List.replicate (n - countNamed q c) (emptyElement q)

/-- Whatever is no text is added without being joined. -/
theorem appendNode_of_not_text {n : Node} (hn : n.isText = false) :
    ∀ c : List Node, Xml.appendNode c n = c ++ [n]
  | [] => rfl
  | [m] => by
    cases n with
    | text v => simp [Node.isText] at hn
    | element tag k => cases m <;> rfl
    | comment v => cases m <;> rfl
    | instruction t d => cases m <;> rfl
  | m :: m' :: c => by
    rw [Xml.appendNode, appendNode_of_not_text hn (m' :: c)]
    rfl

theorem appendNodes_of_not_text {ns : List Node} (hns : ∀ n ∈ ns, n.isText = false) (c : List Node) :
    Xml.appendNodes c ns = c ++ ns := by
  unfold Xml.appendNodes
  induction ns generalizing c with
  | nil => rw [List.append_nil]; rfl
  | cons n ns ih =>
    rw [List.foldl_cons, appendNode_of_not_text (hns n List.mem_cons_self),
      ih (fun m hm => hns m (List.mem_cons_of_mem _ hm)), List.append_assoc]
    rfl

theorem pad_eq (q : QName) (n : Nat) (c : List Node) : Edit.pad q n c = ⟨padded q n c, none⟩ := by
  unfold Edit.pad padded
  rw [appendNodes_of_not_text]
  · rfl
  · intro m hm
    rw [(List.mem_replicate.mp hm).2]
    rfl

theorem countNamed_replicate (q : QName) (n : Nat) :
    countNamed q (List.replicate n (emptyElement q)) = n := by
  induction n with
  | zero => rfl
  | succ n ih =>
    have hq : (Tag.plain q).name = q := rfl
    rw [List.replicate_succ, emptyElement, Edit.countNamed_cons_named hq, ← emptyElement, ih]

theorem countNamed_padded (q : QName) (n : Nat) (c : List Node) :
    countNamed q (padded q n c) = max n (countNamed q c) := by
  rw [padded, Edit.countNamed_append, countNamed_replicate]
  omega

/-- Elements added in two goes may be added in one. -/
theorem padded_padded (q : QName) (m n : Nat) (c : List Node) :
    padded q n (padded q m c) = padded q (max m n) c := by
  have hcount := countNamed_padded q m c
  rw [padded, hcount, padded, padded, List.append_assoc, List.replicate_append_replicate]
  congr 2
  omega

/-! ## 3. Changes of the elements of a name -/

/-- `EachNamed q R c c'`: the content `c'` is `c` with the content of the `i`-th element of the name `q`,
counted from zero, changed from `k` to some `k'` with `R i k k'`. -/
inductive EachNamed (q : QName) : (Nat → List Node → List Node → Prop) → List Node → List Node → Prop
  | nil {R} : EachNamed q R [] []
  | named {R tag k k' c c'} (hq : tag.name = q) (hk : R 0 k k')
      (hc : EachNamed q (fun i => R (i + 1)) c c') :
      EachNamed q R (.element tag k :: c) (.element tag k' :: c')
  | other {R n c c'} (hn : n.isNamed q = false) (hc : EachNamed q R c c') :
      EachNamed q R (n :: c) (n :: c')

namespace EachNamed

variable {q : QName} {R S : Nat → List Node → List Node → Prop} {c c₁ c' : List Node}

/-- What becomes of a content that begins with an element of the name. -/
theorem named_inv {tag : Tag} {k x : List Node} (hq : tag.name = q)
    (h : EachNamed q R (.element tag k :: c) x) :
    ∃ k' c', x = .element tag k' :: c' ∧ R 0 k k' ∧ EachNamed q (fun i => R (i + 1)) c c' := by
  cases h with
  | named _ hk hc => exact ⟨_, _, rfl, hk, hc⟩
  | other hn _ =>
    rw [Edit.isNamed_element] at hn
    exact absurd hq (of_decide_eq_false hn)

/-- What becomes of a content that begins with anything else. -/
theorem other_inv {n : Node} {x : List Node} (hn : n.isNamed q = false)
    (h : EachNamed q R (n :: c) x) : ∃ c', x = n :: c' ∧ EachNamed q R c c' := by
  cases h with
  | named hq _ _ =>
    rw [Edit.isNamed_element] at hn
    exact absurd hq (of_decide_eq_false hn)
  | other _ hc => exact ⟨_, rfl, hc⟩

/-- Only as many changes matter as there are elements. -/
theorem mono_of_lt (h : EachNamed q R c c')
    (hRS : ∀ i < countNamed q c, ∀ k k', R i k k' → S i k k') : EachNamed q S c c' := by
  induction h generalizing S with
  | nil => exact .nil
  | named hq hk _ ih =>
    rw [Edit.countNamed_cons_named hq] at hRS
    exact .named hq (hRS 0 (Nat.succ_pos _) _ _ hk)
      (ih fun i hi => hRS (i + 1) (Nat.succ_lt_succ hi))
  | other hn _ ih =>
    rw [Edit.countNamed_cons_other hn] at hRS
    exact .other hn (ih hRS)

theorem mono (h : EachNamed q R c c') (hRS : ∀ i k k', R i k k' → S i k k') : EachNamed q S c c' :=
  h.mono_of_lt fun i _ => hRS i

/-- If every change may be none, the content may stay as it is. -/
theorem refl (hR : ∀ i k, R i k k) (c : List Node) : EachNamed q R c c := by
  induction c using Edit.named_induction q generalizing R with
  | nil => exact .nil
  | named tag k c hq ih => exact .named hq (hR 0 k) (ih fun i k => hR (i + 1) k)
  | other n c hn ih => exact .other hn (ih hR)

/-- If every change is none, the content is as it was. -/
theorem eq_of_forall_eq (h : EachNamed q R c c') (hR : ∀ i k k', R i k k' → k' = k) : c' = c := by
  induction h with
  | nil => rfl
  | named _ hk _ ih => rw [hR 0 _ _ hk, ih fun i k k' hR' => hR (i + 1) k k' hR']
  | other _ _ ih => rw [ih hR]

/-- One change of all elements after another is one change of each element after another. -/
theorem trans (h : EachNamed q R c c₁) (h' : EachNamed q S c₁ c') :
    EachNamed q (fun i k k' => ∃ k₁, R i k k₁ ∧ S i k₁ k') c c' := by
  induction h generalizing S c' with
  | nil =>
    cases h'
    exact .nil
  | named hq hk _ ih =>
    obtain ⟨k', c', rfl, hk', hc'⟩ := named_inv hq h'
    exact .named hq ⟨_, hk, hk'⟩ (ih hc')
  | other hn _ ih =>
    obtain ⟨c', rfl, hc'⟩ := other_inv hn h'
    exact .other hn (ih hc')

theorem countNamed_eq (h : EachNamed q R c c') : countNamed q c' = countNamed q c := by
  induction h with
  | nil => rfl
  | named hq _ _ ih => rw [Edit.countNamed_cons_named hq, Edit.countNamed_cons_named hq, ih]
  | other hn _ ih => rw [Edit.countNamed_cons_other hn, Edit.countNamed_cons_other hn, ih]

/-- Every element of the name has its change. -/
theorem exists_of_lt (h : EachNamed q R c c') {i : Nat} (hi : i < countNamed q c) : ∃ k k', R i k k' := by
  induction h generalizing i with
  | nil => exact absurd hi (Nat.not_lt_zero i)
  | named hq hk _ ih =>
    cases i with
    | zero => exact ⟨_, _, hk⟩
    | succ i =>
      rw [Edit.countNamed_cons_named hq] at hi
      exact ih (Nat.lt_of_succ_lt_succ hi)
  | other hn _ ih =>
    rw [Edit.countNamed_cons_other hn] at hi
    exact ih hi

/-- What the changes keep of elements holds of all nodes afterwards. -/
theorem forall_mem {Q : Node → Prop} (h : EachNamed q R c c')
    (hR : ∀ i t k k', R i k k' → Q (.element t k) → Q (.element t k')) (hc : ∀ n ∈ c, Q n) : ∀ n ∈ c', Q n := by
  induction h with
  | nil => exact hc
  | @named _ tag k k' _ _ _ hk _ ih =>
    obtain ⟨helement, hrest⟩ := List.forall_mem_cons.mp hc
    exact List.forall_mem_cons.mpr ⟨hR 0 tag k k' hk helement, ih (fun i => hR (i + 1)) hrest⟩
  | other _ _ ih =>
    obtain ⟨hother, hrest⟩ := List.forall_mem_cons.mp hc
    exact List.forall_mem_cons.mpr ⟨hother, ih hR hrest⟩

theorem map_isText (h : EachNamed q R c c') : c'.map Node.isText = c.map Node.isText := by
  induction h with
  | nil => rfl
  | named _ _ _ ih => simp [Node.isText, ih]
  | other _ _ ih => simp [ih]

/-- Where there is an element of the name, there is a change. -/
theorem exists_of_pos (h : EachNamed q R c c') (hc : 0 < countNamed q c) : ∃ i k k', R i k k' :=
  ⟨0, h.exists_of_lt hc⟩

/-- Elements that come after all that are changed may be there already. -/
theorem append (h : EachNamed q R c c') (hR : ∀ i k, countNamed q c ≤ i → R i k k) (x : List Node) :
    EachNamed q R (c ++ x) (c' ++ x) := by
  induction h with
  | nil => exact refl (fun i k => hR i k (Nat.zero_le i)) x
  | named hq hk _ ih =>
    refine .named hq hk (ih fun i k hi => hR (i + 1) k ?_)
    rw [Edit.countNamed_cons_named hq]
    exact Nat.succ_le_succ hi
  | other hn _ ih =>
    rw [Edit.countNamed_cons_other hn] at hR
    exact .other hn (ih hR)

theorem padded (h : EachNamed q R c c') (hR : ∀ i k, countNamed q c ≤ i → R i k k) (n : Nat) :
    EachNamed q R (padded q n c) (padded q n c') := by
  unfold Regraft.padded
  rw [h.countNamed_eq]
  exact h.append hR _

end EachNamed

/-! ## 4. Edits paired with elements -/

namespace Edit

variable {q : QName}

theorem eachNamed_nil (c : List Node) : eachNamed q [] c = ⟨c, none⟩ := by
  cases c <;> rfl

theorem eachNamed_of_nil (fs : List Edit) : eachNamed q fs [] = ⟨[], none⟩ := by
  cases fs <;> rfl

theorem eachNamed_other {n : Node} (hn : n.isNamed q = false) (fs : List Edit) (c : List Node) :
    eachNamed q fs (n :: c) = { eachNamed q fs c with content := n :: (eachNamed q fs c).content } := by
  cases fs with
  | nil => rw [eachNamed_nil, eachNamed_nil]
  | cons f fs =>
    cases n with
    | element tag k =>
      rw [isNamed_element] at hn
      rw [eachNamed, if_neg (of_decide_eq_false hn)]
    | text v => rfl
    | comment v => rfl
    | instruction t d => rfl

theorem eachNamed_named_done {tag : Tag} {k k' : List Node} {f : Edit} (hq : tag.name = q)
    (hf : f k = ⟨k', none⟩) (fs : List Edit) (c : List Node) :
    eachNamed q (f :: fs) (.element tag k :: c) =
      { eachNamed q fs c with content := .element tag k' :: (eachNamed q fs c).content } := by
  rw [eachNamed, if_pos hq, hf]

theorem eachNamed_named_fault {tag : Tag} {k k' : List Node} {f : Edit} {e : Error} (hq : tag.name = q)
    (hf : f k = ⟨k', some e⟩) (fs : List Edit) (c : List Node) :
    eachNamed q (f :: fs) (.element tag k :: c) = ⟨.element tag k' :: c, some e⟩ := by
  rw [eachNamed, if_pos hq, hf]

/-- Whatever comes of it, pairing changes nothing but elements of the name, each by one of the edits or not at
all. -/
theorem eachNamed_changes (fs : List Edit) (c : List Node) :
    EachNamed q (fun _ k k' => k' = k ∨ ∃ f ∈ fs, k' = (f k).content) c (eachNamed q fs c).content := by
  have hrefl : ∀ (fs : List Edit) (c : List Node),
      EachNamed q (fun _ k k' => k' = k ∨ ∃ f ∈ fs, k' = (f k).content) c c :=
    fun _ c => .refl (fun _ _ => .inl rfl) c
  induction c using named_induction q generalizing fs with
  | nil =>
    rw [eachNamed_of_nil]
    exact .nil
  | named tag k c hq ih =>
    match fs with
    | [] =>
      rw [eachNamed_nil]
      exact hrefl [] _
    | f :: fs =>
      have hfirst : (f k).content = k ∨ ∃ g ∈ f :: fs, (f k).content = (g k).content :=
        .inr ⟨f, List.mem_cons_self, rfl⟩
      match hf : f k with
      | ⟨k', none⟩ =>
        rw [hf] at hfirst
        rw [eachNamed_named_done hq hf]
        refine .named hq hfirst ((ih fs).mono fun _ m m' hm => hm.imp_right ?_)
        exact fun ⟨g, hg, hm'⟩ => ⟨g, List.mem_cons_of_mem _ hg, hm'⟩
      | ⟨k', some e⟩ =>
        rw [hf] at hfirst
        rw [eachNamed_named_fault hq hf]
        exact .named hq hfirst (hrefl (f :: fs) c)
  | other n c hn ih =>
    rw [eachNamed_other hn]
    exact .other hn (ih fs)

/-- What the `i`-th edit does, if there is one, is done to the `i`-th element. -/
def Paired (fs : List Edit) (i : Nat) (k k' : List Node) : Prop := fs.getD i done k = ⟨k', none⟩

theorem paired_of_length_le {fs : List Edit} {i : Nat} (hi : fs.length ≤ i) (k : List Node) :
    Paired fs i k k := by
  unfold Paired
  rw [List.getD_eq_getElem?_getD, List.getElem?_eq_none hi]
  rfl

theorem paired_replicate {n i : Nat} (hi : i < n) {f : Edit} {k k' : List Node} :
    Paired (List.replicate n f) i k k' ↔ f k = ⟨k', none⟩ := by
  unfold Paired
  rw [List.getD_eq_getElem?_getD, List.getElem?_replicate, if_pos hi]
  exact Iff.rfl

theorem eachNamed_eq_done {fs : List Edit} {c c' : List Node} :
    eachNamed q fs c = ⟨c', none⟩ ↔ EachNamed q (Paired fs) c c' := by
  induction c using named_induction q generalizing fs c' with
  | nil =>
    rw [eachNamed_of_nil]
    exact ⟨fun h => by cases h; exact .nil, fun h => by cases h; rfl⟩
  | named tag k c hq ih =>
    -- Without edits left nothing changes, and every element is paired with no edit.
    match fs with
    | [] =>
      rw [eachNamed_nil]
      constructor
      · intro h
        cases h
        exact .refl (fun i k => paired_of_length_le (Nat.zero_le i) k) _
      · intro h
        rw [h.eq_of_forall_eq fun i k k' hk => (sequence_nil_eq_done (c := k)).mp hk]
    | f :: fs =>
      match hf : f k with
      | ⟨k', none⟩ =>
        rw [eachNamed_named_done hq hf]
        constructor
        · intro h
          injection h with hc hnone
          subst hc
          exact .named hq hf (ih.mp (by rw [← hnone]))
        · intro h
          obtain ⟨_, _, rfl, hk, hc⟩ := h.named_inv hq
          cases hf.symm.trans hk
          rw [ih.mpr hc]
      | ⟨k', some e⟩ =>
        rw [eachNamed_named_fault hq hf]
        constructor
        · intro h
          cases h
        · intro h
          obtain ⟨_, _, _, hk, _⟩ := h.named_inv hq
          cases hf.symm.trans hk
  | other n c hn ih =>
    rw [eachNamed_other hn]
    constructor
    · intro h
      injection h with hc hf
      subst hc
      exact .other hn (ih.mp (by rw [← hf]))
    · intro h
      obtain ⟨_, rfl, hc⟩ := h.other_inv hn
      rw [ih.mpr hc]

/-- A list of edits paired with the elements of a name, of which enough are made before. -/
def pairing (q : QName) (fs : List Edit) : Edit := .andThen (.pad q fs.length) (.eachNamed q fs)

/-- It is how a descent goes on in elements for matches. -/
theorem pairing_map {α : Type} (q : QName) (k : α → Edit) (as : List α) :
    pairing q (as.map k) = Work.andThen (Work.pad q as.length) (Work.eachNamed q (as.map k)) := by
  rw [pairing, List.length_map]
  rfl

theorem pairing_eq_done {q : QName} {fs : List Edit} {c c' : List Node} :
    pairing q fs c = ⟨c', none⟩ ↔ EachNamed q (Paired fs) (padded q fs.length c) c' := by
  unfold pairing
  rw [andThen_of_done (pad_eq q fs.length c), eachNamed_eq_done]

theorem allNamed_done {f : Edit} {c c' : List Node} (h : allNamed q f c = ⟨c', none⟩) :
    EachNamed q (fun _ k k' => f k = ⟨k', none⟩) c c' :=
  (eachNamed_eq_done.mp h).mono_of_lt fun _ hi _ _ hk => (paired_replicate hi).mp hk

end Edit

end Regraft
