import Mathlib
import CrowdSim.Proofs.RealPlane
import CrowdSim.Proofs.SortPermutes

/-!
# What an R-tree holds, and what a search finds

A search skips a whole child when the child's stored rectangle misses the query, so it finds
everything only if every child is stored under the rectangle covering its entries. This file
shows that insertion and bulk loading keep that invariant (`Node.Boxed`) and keep the entries,
and that over exact numbers a search then lists exactly the stored entries whose rectangles meet
the query:

* `RTree.Holds`: the tree is boxed and holds a given list of entries, in some order;
* `RTree.holds_empty`, `RTree.Holds.insert`, `RTree.holds_load`: the empty tree holds nothing,
  an insertion that succeeds adds its entry, a bulk load holds exactly what it was given;
* `RTree.Node.search_eq`: the search of a boxed node filters its entries, depth first;
* `RTree.Holds.mem_search`: what a search of a tree holding `es` returns.

Which child an insertion descends into, how a split shares the entries, and how the bulk load
sorts and cuts them change the shape of the tree but never its contents: the structural lemmas
hold over every scalar type. Only the search needs exact comparisons, where a rectangle that
covers another meets every query the other meets.
-/

namespace CrowdSim

namespace RTree

/-! ## Entries and the boxing invariant -/

section Structure

variable {α K : Type}

mutual

/-- The entries stored under a node, depth first. -/
def Node.entries : Node α K → List (Rect K × α)
  | .leaf es => es
  | .branch cs => childEntries cs

/-- The entries stored under the children, child after child. -/
def childEntries : List (Rect K × Node α K) → List (Rect K × α)
  | [] => []
  | (_, c) :: rest => c.entries ++ childEntries rest

end

theorem childEntries_eq (cs : List (Rect K × Node α K)) :
    childEntries cs = cs.flatMap fun p => p.2.entries := by
  induction cs with
  | nil => rfl
  | cons p cs ih =>
    obtain ⟨r, c⟩ := p
    simp only [childEntries, ih, List.flatMap_cons]

@[simp] theorem entries_leaf (es : List (Rect K × α)) : (Node.leaf es : Node α K).entries = es := by
  simp only [Node.entries]

@[simp] theorem entries_branch (cs : List (Rect K × Node α K)) :
    (Node.branch cs).entries = cs.flatMap fun p => p.2.entries := by
  rw [Node.entries, childEntries_eq]

variable [Scalar K]

mutual

/-- Every branch below the node stores each child under the rectangle covering the child. -/
def Node.Boxed : Node α K → Prop
  | .leaf _ => True
  | .branch cs => ChildrenBoxed cs

/-- Each child is stored under its own covering rectangle and is boxed itself. -/
def ChildrenBoxed : List (Rect K × Node α K) → Prop
  | [] => True
  | (r, c) :: rest => r = c.box ∧ c.Boxed ∧ ChildrenBoxed rest

end

theorem childrenBoxed_iff (cs : List (Rect K × Node α K)) :
    ChildrenBoxed cs ↔ ∀ p ∈ cs, p.1 = p.2.box ∧ p.2.Boxed := by
  induction cs with
  | nil => simp [ChildrenBoxed]
  | cons p cs ih =>
    obtain ⟨r, c⟩ := p
    simp [ChildrenBoxed, ih, and_assoc]

@[simp] theorem boxed_leaf (es : List (Rect K × α)) : (Node.leaf es : Node α K).Boxed := by
  simp only [Node.Boxed]

@[simp] theorem boxed_branch (cs : List (Rect K × Node α K)) :
    (Node.branch cs).Boxed ↔ ∀ p ∈ cs, p.1 = p.2.box ∧ p.2.Boxed := by
  rw [Node.Boxed, childrenBoxed_iff]

/-- The entries held by a node and by the sibling split off it, if any. -/
def pairEntries (r : Node α K × Option (Node α K)) : List (Rect K × α) :=
  r.1.entries ++ (r.2.map Node.entries).getD []

/-- The node and the sibling split off it, if any, are both boxed. -/
def PairBoxed (r : Node α K × Option (Node α K)) : Prop :=
  r.1.Boxed ∧ ∀ m ∈ r.2, m.Boxed

end Structure

/-! ## Splitting shares the entries -/

section Split

variable {K β : Type} [Scalar K]

/-- A fold keeps `P` when every step does, reading elements that satisfy `Q`. -/
theorem foldl_invariant {γ δ : Type} {f : δ → γ → δ} (P : δ → Prop) (Q : γ → Prop)
    (hf : ∀ b p, P b → Q p → P (f b p)) :
    ∀ (l : List γ) (b : δ), P b → (∀ p ∈ l, Q p) → P (l.foldl f b)
  | [], _, hb, _ => hb
  | p :: l, b, hb, hl =>
    foldl_invariant P Q hf l (f b p) (hf b p hb (hl p List.mem_cons_self))
      fun q hq => hl q (List.mem_cons_of_mem p hq)

theorem perm_cons_eraseIdx {γ : Type} {l : List γ} {i : Nat} {e : γ} (h : l[i]? = some e) :
    l.Perm (e :: l.eraseIdx i) := by
  obtain ⟨hi, rfl⟩ := List.getElem?_eq_some_iff.mp h
  exact (List.getElem_cons_eraseIdx_perm hi).symm

/-- The seeds are two distinct positions, the first before the second. -/
theorem pickSeeds_lt (es : List (Rect K × β)) : (pickSeeds es).1 < (pickSeeds es).2 := by
  unfold pickSeeds
  dsimp only
  apply foldl_invariant (fun b : Nat × Nat × K => b.1 < b.2.1)
    (fun p : Nat × Nat × K => p.1 < p.2.1)
  · intro b p hb hp
    split <;> assumption
  · exact Nat.zero_lt_one
  · intro p hp
    simp only [List.mem_flatMap, List.mem_map] at hp
    obtain ⟨⟨r, i⟩, -, ⟨s, j⟩, -, rfl⟩ := hp
    dsimp only
    omega

/-- The next entry to hand out is one of those left. -/
theorem pickNext_lt (left right : Rect K) {rest : List (Rect K × β)} (h : rest ≠ []) :
    pickNext left right rest < rest.length := by
  unfold pickNext
  apply foldl_invariant (fun b : Nat × K => b.1 < rest.length)
    (fun p : (Rect K × β) × Nat => p.2 < rest.length)
  · intro b p hb hp
    dsimp only
    split <;> assumption
  · exact List.length_pos_of_ne_nil h
  · rintro ⟨x, i⟩ hp
    have := (List.mem_zipIdx hp).2.1
    dsimp only
    omega

/-- The chosen child is one of the children. -/
theorem choose_lt (r : Rect K) (cs : List (Rect K × β)) {k : Nat} (h : choose r cs = some k) :
    k < cs.length := by
  unfold choose at h
  simp only [Option.map_eq_some_iff] at h
  obtain ⟨⟨k', s⟩, hk, rfl⟩ := h
  refine foldl_invariant
    (fun st : K × Option (Nat × K) => ∀ k s, st.2 = some (k, s) → k < cs.length)
    (fun p : (Rect K × β) × Nat => p.2 < cs.length) ?_ _ _ ?_ ?_ k' s hk
  · intro st p hst hp k s h
    split_ifs at h
    · simp only [Option.some.injEq, Prod.mk.injEq] at h
      omega
    · exact hst k s h
  · intro k s h
    cases h
  · rintro ⟨x, i⟩ hp
    simpa using (List.mem_zipIdx hp).2.1

/-- Handing out the remaining entries loses none: the two sides end up with the entries they
had and those that were left. -/
theorem distribute_perm :
    ∀ (fuel : Nat) (left right rest : List (Rect K × β)), rest.length < fuel →
      ((distribute fuel left right rest).1 ++ (distribute fuel left right rest).2).Perm
        (left ++ right ++ rest)
  | 0, _, _, _, h => absurd h (Nat.not_lt_zero _)
  | fuel + 1, left, right, rest, h => by
    unfold distribute
    dsimp only
    have hnext : rest ≠ [] →
        pickNext (Rect.unionAll (left.map (·.1))) (Rect.unionAll (right.map (·.1))) rest <
          rest.length :=
      pickNext_lt _ _
    generalize pickNext (Rect.unionAll (left.map (·.1))) (Rect.unionAll (right.map (·.1))) rest =
      next at hnext ⊢
    split
    · -- nothing left to hand out
      rename_i hnone
      have hrest : rest = [] := by
        by_contra hne
        have := hnext hne
        rw [List.getElem?_eq_none_iff] at hnone
        omega
      simp [hrest]
    · rename_i e he
      have hp := perm_cons_eraseIdx he
      have hlen : (rest.eraseIdx next).length < fuel := by
        have := hp.length_eq
        simp only [List.length_cons] at this
        omega
      -- the entry joins one side or the other; the rest is handed out by the next round
      have hL' : (left ++ [e] ++ right ++ rest.eraseIdx next).Perm (left ++ right ++ rest) := by
        simp only [List.append_assoc, List.singleton_append]
        exact ((hp.append_left right).trans List.perm_middle).symm.append_left left
      have hR' : (left ++ (right ++ [e]) ++ rest.eraseIdx next).Perm (left ++ right ++ rest) := by
        simp only [List.append_assoc]
        exact (hp.append_left right).symm.append_left left
      have hL := (distribute_perm fuel (left ++ [e]) right _ hlen).trans hL'
      have hR := (distribute_perm fuel left (right ++ [e]) _ hlen).trans hR'
      split
      · exact hL
      split
      · exact hR
      split
      · exact hL
      · exact hR

/-- **A split shares the entries between its two sides.** -/
theorem split_perm (es : List (Rect K × β)) : ((split es).1 ++ (split es).2).Perm es := by
  unfold split
  have hij := pickSeeds_lt es
  generalize pickSeeds es = ij at hij ⊢
  obtain ⟨i, j⟩ := ij
  dsimp only at hij ⊢
  split
  · rename_i a b ha hb
    -- the seeds leave the entries, `b` first so that `a` keeps its position
    have hb' := perm_cons_eraseIdx hb
    have ha' : (es.eraseIdx j).Perm (a :: (es.eraseIdx j).eraseIdx i) :=
      perm_cons_eraseIdx (by rw [List.getElem?_eraseIdx_of_lt hij]; exact ha)
    refine (distribute_perm _ [a] [b] _ (Nat.lt_succ_self _)).trans ?_
    exact (((ha'.cons b).trans (List.Perm.swap a b _)).symm.trans hb'.symm)
  · simp

/-- Settling a node either keeps it whole or splits its entries between it and a sibling. -/
theorem settle_cases {α : Type} (make : List (Rect K × β) → Node α K) (es : List (Rect K × β)) :
    settle make es = (make es, none) ∨
      ∃ l r, (l ++ r).Perm es ∧ settle make es = (make l, some (make r)) := by
  unfold settle
  split
  · right
    have hp := split_perm es
    generalize split es = lr at hp ⊢
    obtain ⟨l, r⟩ := lr
    exact ⟨l, r, hp, rfl⟩
  · left
    rfl

end Split

/-! ## Insertion keeps the invariant and adds the entry -/

section Insert

variable {α K : Type} [Scalar K]

theorem settle_leaf (es : List (Rect K × α)) :
    PairBoxed (settle .leaf es) ∧ (pairEntries (settle .leaf es)).Perm es := by
  rcases settle_cases Node.leaf es with h | ⟨l, r, hp, h⟩ <;> rw [h]
  · simp [PairBoxed, pairEntries]
  · simpa [PairBoxed, pairEntries] using hp

theorem settle_branch (cs : List (Rect K × Node α K)) (hb : ∀ p ∈ cs, p.1 = p.2.box ∧ p.2.Boxed) :
    PairBoxed (settle .branch cs) ∧
      (pairEntries (settle .branch cs)).Perm (cs.flatMap fun p => p.2.entries) := by
  rcases settle_cases Node.branch cs with h | ⟨l, r, hp, h⟩ <;> rw [h]
  · simpa [PairBoxed, pairEntries] using hb
  · refine ⟨⟨?_, ?_⟩, ?_⟩
    · simpa using fun p hp' => hb p (hp.subset (List.mem_append_left r hp'))
    · simpa using fun p hp' => hb p (hp.subset (List.mem_append_right l hp'))
    · simpa [pairEntries, List.flatMap_append] using hp.flatMap_right fun p => p.2.entries

mutual

/-- **Inserting under a boxed node keeps it boxed and adds the entry.** The node and the
sibling split off it are boxed and hold the node's entries and the new one between them. -/
theorem Node.insert_spec (e : Rect K × α) :
    ∀ (n : Node α K) {r : Node α K × Option (Node α K)}, n.insert e = .ok r → n.Boxed →
      PairBoxed r ∧ (pairEntries r).Perm (n.entries ++ [e])
  | .leaf es, r, h, _ => by
    simp only [Node.insert, Except.ok.injEq] at h
    subst h
    simpa using settle_leaf (es ++ [e])
  | .branch cs, r, h, hb => by
    rw [boxed_branch] at hb
    simp only [Node.insert] at h
    split at h
    · cases h
    rename_i k hk
    split at h
    · cases h
    · -- the child took the entry without splitting
      rename_i cs' hins
      cases h
      obtain ⟨hb', -, hp⟩ := insertAt_spec e k cs hins (choose_lt _ _ hk) hb
      obtain ⟨hpair, hp'⟩ := settle_branch cs' hb'
      exact ⟨hpair, hp'.trans (by simpa using hp)⟩
    · -- the child split: its sibling joins the children at the end
      rename_i cs' extra hins
      cases h
      obtain ⟨hb', hx, hp⟩ := insertAt_spec e k cs hins (choose_lt _ _ hk) hb
      have hb'' : ∀ p ∈ cs' ++ [(extra.box, extra)], p.1 = p.2.box ∧ p.2.Boxed := by
        simp only [List.mem_append, List.mem_singleton]
        rintro p (hp | rfl)
        · exact hb' p hp
        · exact ⟨rfl, hx extra rfl⟩
      obtain ⟨hpair, hp'⟩ := settle_branch _ hb''
      exact ⟨hpair, hp'.trans (by simpa using hp)⟩

/-- Inserting under the child at position `k` keeps the children boxed and adds the entry to
them and the sibling split off the child. -/
theorem insertAt_spec (e : Rect K × α) :
    ∀ (k : Nat) (cs : List (Rect K × Node α K)) {cs' : List (Rect K × Node α K)}
      {x : Option (Node α K)}, insertAt e k cs = .ok (cs', x) → k < cs.length →
      (∀ p ∈ cs, p.1 = p.2.box ∧ p.2.Boxed) →
      (∀ p ∈ cs', p.1 = p.2.box ∧ p.2.Boxed) ∧ (∀ m ∈ x, m.Boxed) ∧
        (cs'.flatMap (fun p => p.2.entries) ++ (x.map Node.entries).getD []).Perm
          (cs.flatMap (fun p => p.2.entries) ++ [e])
  | _, [], _, _, _, hk, _ => absurd hk (Nat.not_lt_zero _)
  | 0, (r, c) :: rest, cs', x, h, _, hb => by
    simp only [insertAt] at h
    split at h
    · cases h
    rename_i c' extra hc
    simp only [Except.ok.injEq, Prod.mk.injEq] at h
    obtain ⟨rfl, rfl⟩ := h
    obtain ⟨⟨hc1, hc2⟩, hp⟩ := Node.insert_spec e c hc (hb _ List.mem_cons_self).2
    refine ⟨?_, hc2, ?_⟩
    · intro p hp
      rcases List.mem_cons.mp hp with rfl | hp
      · exact ⟨rfl, hc1⟩
      · exact hb p (List.mem_cons_of_mem _ hp)
    · -- the child's entries and its sibling's stand where the child's stood
      have hx := hp.append_right (rest.flatMap fun p => p.2.entries)
      simp only [pairEntries, List.append_assoc] at hx
      simp only [List.flatMap_cons, List.append_assoc]
      exact (List.perm_append_comm.append_left _).trans
        (hx.trans (List.perm_append_comm.append_left _))
  | k + 1, p :: rest, cs', x, h, hk, hb => by
    simp only [insertAt] at h
    split at h
    · cases h
    rename_i rest' extra hrest
    simp only [Except.ok.injEq, Prod.mk.injEq] at h
    obtain ⟨rfl, rfl⟩ := h
    obtain ⟨hb', hx, hp⟩ := insertAt_spec e k rest hrest (by simpa using hk)
      fun q hq => hb q (List.mem_cons_of_mem _ hq)
    refine ⟨?_, hx, ?_⟩
    · simp only [List.mem_cons, forall_eq_or_imp]
      exact ⟨hb p List.mem_cons_self, hb'⟩
    · simpa [List.append_assoc] using hp.append_left p.2.entries

end

end Insert

/-! ## Bulk loading keeps the entries -/

section Load

variable {α K : Type} [Scalar K]

/-- Cut into pieces of a positive size and put back together, an array is unchanged. -/
theorem pieces_flatMap {β : Type} {size : Nat} (hs : 0 < size) (xs : Array β) :
    (pieces size xs).flatMap Array.toList = xs.toList := by
  -- the first `m` pieces make up the first `m * size` elements
  have prefix_eq : ∀ m, ((List.range m).map fun i => xs.extract (i * size) ((i + 1) * size)).flatMap
      Array.toList = (xs.extract 0 (m * size)).toList := by
    intro m
    induction m with
    | zero => simp
    | succ m ih =>
      rw [List.range_succ, List.map_append, List.flatMap_append, ih]
      simp only [List.map_cons, List.map_nil, List.flatMap_cons, List.flatMap_nil,
        List.append_nil, ← Array.toList_append, Array.extract_append_extract]
      congr 2
      simp only [Nat.add_mul, Nat.one_mul]
      omega
  unfold pieces
  rw [prefix_eq, Array.extract_eq_self_of_le]
  have h1 := Nat.div_add_mod (xs.size + size - 1) size
  have h2 := Nat.mod_lt (xs.size + size - 1) hs
  rw [Nat.mul_comm]
  omega

theorem sortByAxis_perm (axis : Nat) (es : Array (Rect K × α)) :
    (sortByAxis axis es).toList.Perm es.toList :=
  (Quicksort.sort_perm _ es).toList

/-- **A bulk-loaded subtree is boxed and holds exactly the entries it was given.** -/
theorem loadLevel_spec (height : Nat) :
    ∀ (level slices : Nat) (es : Array (Rect K × α)) (m : Nat), 0 < m →
      (loadLevel height level slices es m).Boxed ∧
        (loadLevel height level slices es m).entries.Perm es.toList
  | 0, _, es, _, _ => by simp [loadLevel]
  | level + 1, slices, es, m, hm => by
    unfold loadLevel
    split
    · split
      · obtain ⟨hb, hp⟩ := loadLevel_spec height level slices es m hm
        simpa using ⟨hb, hp⟩
      · simp
    rename_i hbig
    dsimp only
    -- the entries are cut into slices of `v`, each slice sorted and cut into groups of `k`, and
    -- each group loaded one level down
    have hsub : ∀ part : Array (Rect K × α),
        (loadLevel height level 1 part maxEntries).Boxed ∧
          (loadLevel height level 1 part maxEntries).entries.Perm part.toList :=
      fun part => loadLevel_spec height level 1 part maxEntries (by decide)
    have hk : 0 < (es.size + m - 1) / m := Nat.div_pos (by omega) hm
    generalize (es.size + m - 1) / m = k at hk ⊢
    have hv : 0 < (if slices > 1 then slices * k else es.size) := by
      split
      · exact Nat.mul_pos (by omega) hk
      · omega
    generalize (if slices > 1 then slices * k else es.size) = v at hv ⊢
    generalize (height - (level + 1) + 1) % 2 = axis
    have hslice : ∀ slice : Array (Rect K × α),
        (((pieces k (sortByAxis axis slice)).map fun part =>
          loadLevel height level 1 part maxEntries).flatMap Node.entries).Perm slice.toList := by
      intro slice
      rw [List.flatMap_map]
      refine (List.Perm.flatMap_left _ fun part _ => (hsub part).2).trans ?_
      rw [pieces_flatMap hk]
      exact sortByAxis_perm axis slice
    simp only [boxed_branch, entries_branch, List.mem_map, List.flatMap_map]
    constructor
    · rintro _ ⟨c, hc, rfl⟩
      simp only [List.mem_flatMap, List.mem_map] at hc
      obtain ⟨slice, -, part, -, rfl⟩ := hc
      exact ⟨rfl, (hsub part).1⟩
    · rw [List.flatMap_assoc]
      refine (List.Perm.flatMap_left _ fun slice _ => hslice slice).trans ?_
      rw [pieces_flatMap hv]

end Load

/-! ## What the tree holds -/

section Holds

variable {α K : Type} [Scalar K]

/-- The tree is boxed and holds the entries `es`, in some order. -/
def Holds (t : RTree α K) (es : List (Rect K × α)) : Prop :=
  t.root.Boxed ∧ t.root.entries.Perm es

theorem holds_empty : (empty : RTree α K).Holds [] := by
  simp [Holds, empty]

/-- **An insertion that succeeds adds its entry to what the tree holds.** -/
theorem Holds.insert {t t' : RTree α K} {es : List (Rect K × α)} (ht : t.Holds es)
    {e : Rect K × α} (h : t.insert e = .ok t') : t'.Holds (es ++ [e]) := by
  unfold RTree.insert at h
  split at h
  · cases h
  · rename_i root hroot
    cases h
    obtain ⟨⟨hb, -⟩, hp⟩ := Node.insert_spec e t.root hroot ht.1
    exact ⟨hb, by simpa [pairEntries] using hp.trans (ht.2.append_right [e])⟩
  · -- the root split: a new root holds the old one and its sibling
    rename_i root extra hroot
    cases h
    obtain ⟨⟨hb, hx⟩, hp⟩ := Node.insert_spec e t.root hroot ht.1
    refine ⟨?_, ?_⟩
    · simp only [boxed_branch, List.mem_cons, List.not_mem_nil, or_false]
      rintro p (rfl | rfl)
      · exact ⟨rfl, hb⟩
      · exact ⟨rfl, hx extra rfl⟩
    · simpa [pairEntries] using hp.trans (ht.2.append_right [e])

/-- **A bulk load holds exactly the entries it was given.** -/
theorem holds_load (es : List (Rect K × α)) : (load es).Holds es := by
  unfold load
  split
  · simp [Holds]
  rename_i hbig
  dsimp only
  have hsub : 0 < Nat.pow maxEntries (heightFor es.length - 1) := Nat.pow_pos (by decide)
  have hs : 0 < (es.length + Nat.pow maxEntries (heightFor es.length - 1) - 1) /
      Nat.pow maxEntries (heightFor es.length - 1) := Nat.div_pos (by omega) hsub
  obtain ⟨hb, hp⟩ := loadLevel_spec (heightFor es.length) (heightFor es.length)
    (Nat.sqrt _) (sortByAxis 0 es.toArray) _ hs
  exact ⟨hb, hp.trans (by simpa using sortByAxis_perm 0 es.toArray)⟩

end Holds

end RTree

/-! ## Search over exact numbers -/

namespace Rect

/-- `R` covers `r`: it reaches at least as far as `r` on every side. -/
def Covers (R r : Rect ℝ) : Prop :=
  R.lo.x ≤ r.lo.x ∧ R.lo.y ≤ r.lo.y ∧ r.hi.x ≤ R.hi.x ∧ r.hi.y ≤ R.hi.y

theorem Covers.refl (r : Rect ℝ) : r.Covers r :=
  ⟨le_rfl, le_rfl, le_rfl, le_rfl⟩

theorem Covers.trans {A B C : Rect ℝ} (h1 : A.Covers B) (h2 : B.Covers C) : A.Covers C := by
  obtain ⟨a1, a2, a3, a4⟩ := h1
  obtain ⟨b1, b2, b3, b4⟩ := h2
  exact ⟨a1.trans b1, a2.trans b2, b3.trans a3, b4.trans a4⟩

@[simp] theorem lower_real (a b : ℝ) : Rect.lower a b = min a b := by
  unfold Rect.lower
  split_ifs with h
  · exact (min_eq_left h).symm
  · exact (min_eq_right (le_of_not_ge h)).symm

@[simp] theorem upper_real (a b : ℝ) : Rect.upper a b = max a b := by
  unfold Rect.upper
  split_ifs with h
  · exact (max_eq_right h).symm
  · exact (max_eq_left (le_of_not_ge h)).symm

theorem union_covers_left (r s : Rect ℝ) : (r.union s).Covers r := by
  simp [Covers, Rect.union]

theorem union_covers_right (r s : Rect ℝ) : (r.union s).Covers s := by
  simp [Covers, Rect.union]

theorem Covers.union {R r : Rect ℝ} (h : R.Covers r) (s : Rect ℝ) : (R.union s).Covers r :=
  (union_covers_left R s).trans h

/-- Folding `union` over a list covers the start and every rectangle of the list. -/
theorem foldl_union_covers :
    ∀ (rest : List (Rect ℝ)) (init : Rect ℝ),
      (rest.foldl union init).Covers init ∧ ∀ r ∈ rest, (rest.foldl union init).Covers r
  | [], init => ⟨Covers.refl init, by simp⟩
  | s :: rest, init => by
    obtain ⟨h1, h2⟩ := foldl_union_covers rest (init.union s)
    refine ⟨h1.trans (union_covers_left init s), ?_⟩
    simp only [List.mem_cons, forall_eq_or_imp]
    exact ⟨h1.trans (union_covers_right init s), h2⟩

theorem unionAll_covers : ∀ {rs : List (Rect ℝ)} {r : Rect ℝ}, r ∈ rs → (unionAll rs).Covers r
  | [], _, h => absurd h List.not_mem_nil
  | [r], _, h => by
    rw [List.mem_singleton.mp h]
    exact Covers.refl r
  | r :: s :: rest, _, h => by
    obtain ⟨h1, h2⟩ := foldl_union_covers rest (r.union s)
    rcases List.mem_cons.mp h with rfl | h
    · exact h1.trans (union_covers_left _ s)
    rcases List.mem_cons.mp h with rfl | h
    · exact h1.trans (union_covers_right _ _)
    · exact h2 _ h

/-- A rectangle meets every query that a rectangle it covers meets. -/
theorem Covers.meets {R r q : Rect ℝ} (h : R.Covers r) (hm : r.meets q = true) :
    R.meets q = true := by
  obtain ⟨h1, h2, h3, h4⟩ := h
  rw [meets_iff] at hm ⊢
  obtain ⟨m1, m2, m3, m4⟩ := hm
  exact ⟨h1.trans_lt m1, m2.trans_le h3, h2.trans_lt m3, m4.trans_le h4⟩

end Rect

namespace RTree

section Search

variable {α : Type}

mutual

/-- The box of a boxed node covers every entry under it. -/
theorem Node.box_covers : ∀ (n : Node α ℝ), n.Boxed → ∀ e ∈ n.entries, n.box.Covers e.1
  | .leaf es, _, e, he => Rect.unionAll_covers (List.mem_map_of_mem he)
  | .branch cs, hb, e, he => by
    rw [Node.Boxed] at hb
    rw [entries_branch, List.mem_flatMap] at he
    obtain ⟨p, hp, he⟩ := he
    exact (Rect.unionAll_covers (List.mem_map_of_mem hp)).trans (children_cover cs hb p hp e he)

/-- The rectangle each boxed child is stored under covers every entry under the child. -/
theorem children_cover :
    ∀ (cs : List (Rect ℝ × Node α ℝ)), ChildrenBoxed cs →
      ∀ p ∈ cs, ∀ e ∈ p.2.entries, p.1.Covers e.1
  | [], _, _, hp, _, _ => absurd hp List.not_mem_nil
  | (r, c) :: rest, ⟨hr, hc, hrest⟩, p, hp, e, he => by
    rcases List.mem_cons.mp hp with rfl | hp
    · rw [hr]
      exact Node.box_covers c hc e he
    · exact children_cover rest hrest p hp e he

end

mutual

/-- **The search of a boxed node lists its entries that meet the query, depth first.** -/
theorem Node.search_eq (q : Rect ℝ) :
    ∀ (n : Node α ℝ), n.Boxed → n.search q = (n.entries.filter fun e => e.1.meets q).map (·.2)
  | .leaf es, _ => by simp only [Node.search, Node.entries]
  | .branch cs, hb => by
    simp only [Node.search, Node.entries]
    exact searchChildren_eq q cs hb

theorem searchChildren_eq (q : Rect ℝ) :
    ∀ (cs : List (Rect ℝ × Node α ℝ)), ChildrenBoxed cs →
      searchChildren q cs = ((childEntries cs).filter fun e => e.1.meets q).map (·.2)
  | [], _ => rfl
  | (r, c) :: rest, ⟨hr, hc, hrest⟩ => by
    simp only [searchChildren, childEntries, List.filter_append, List.map_append,
      searchChildren_eq q rest hrest]
    congr 1
    split
    · exact Node.search_eq q c hc
    · -- a child whose rectangle misses the query has no entry that meets it
      rename_i hmiss
      have hnone : c.entries.filter (fun e => e.1.meets q) = [] :=
        List.filter_eq_nil_iff.mpr fun e he hm =>
          hmiss (hr ▸ (Node.box_covers c hc e he).meets hm)
      rw [hnone, List.map_nil]

end

/-- The search of a tree holding `es` lists, in some order, the entries of `es` that meet the
query. -/
theorem Holds.search_perm {t : RTree α ℝ} {es : List (Rect ℝ × α)} (ht : t.Holds es)
    (q : Rect ℝ) : (t.search q).Perm ((es.filter fun e => e.1.meets q).map (·.2)) := by
  unfold RTree.search
  rw [Node.search_eq q t.root ht.1]
  exact (ht.2.filter _).map _

/-- **A search finds exactly the stored values whose rectangles meet the query.** -/
theorem Holds.mem_search {t : RTree α ℝ} {es : List (Rect ℝ × α)} (ht : t.Holds es)
    (q : Rect ℝ) (x : α) : x ∈ t.search q ↔ ∃ r, (r, x) ∈ es ∧ r.meets q = true := by
  rw [(ht.search_perm q).mem_iff]
  simp

end Search

end RTree

end CrowdSim
