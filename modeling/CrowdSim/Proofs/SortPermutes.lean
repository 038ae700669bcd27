import Mathlib
import CrowdSim.Order.Quicksort

/-!
# The sort permutes its input

Every stage of pattern-defeating quicksort changes the array only by exchanging two of its
positions (`swap`, which leaves the array alone when a position is out of range). So every stage,
and the sort itself, returns a permutation of the array it was given (`sort_perm`), whatever the
comparison. The proofs follow the stages: one lemma per loop, by induction on its fuel, and the
folds of the insertion sort, the heap sort, the reversal and the pattern breaker through
`foldl_perm`.
-/

namespace CrowdSim

namespace Quicksort

variable {α : Type} (lt : α → α → Bool)

theorem swap_perm (a : Array α) (i j : Nat) : (swap a i j).Perm a := by
  unfold swap Array.swapIfInBounds
  split
  · split
    · exact Array.swap_perm ..
    · exact .rfl
  · exact .rfl

/-- A fold whose every step permutes the array permutes it. -/
theorem foldl_perm {β : Type} (f : Array α → β → Array α) (hf : ∀ a x, (f a x).Perm a) :
    ∀ (l : List β) (a : Array α), (l.foldl f a).Perm a
  | [], _ => .rfl
  | x :: l, a => (foldl_perm f hf l (f a x)).trans (hf a x)

theorem sinkLeft_perm (lo : Nat) : ∀ (j : Nat) (a : Array α), (sinkLeft lt lo j a).Perm a
  | 0, _ => .rfl
  | j + 1, a => by
    unfold sinkLeft
    split
    · exact (sinkLeft_perm lo j _).trans (swap_perm a _ _)
    · exact .rfl

theorem insertionSort_perm (lo hi : Nat) (a : Array α) : (insertionSort lt lo hi a).Perm a :=
  foldl_perm _ (fun a i => sinkLeft_perm lt lo i a) _ a

theorem siftDown_perm (hi first : Nat) :
    ∀ (fuel root : Nat) (a : Array α), (siftDown lt hi first fuel root a).Perm a
  | 0, _, _ => .rfl
  | fuel + 1, root, a => by
    unfold siftDown
    dsimp only
    -- past the heap's end nothing moves; otherwise the larger child is chosen, then maybe swapped
    split
    · exact .rfl
    · split <;> split
      all_goals first
        | exact .rfl
        | exact (siftDown_perm hi first fuel _ _).trans (swap_perm a _ _)

theorem heapSort_perm (lo hi : Nat) (a : Array α) : (heapSort lt lo hi a).Perm a := by
  unfold heapSort
  dsimp only
  refine (foldl_perm _ (fun a i => ?_) _ _).trans (foldl_perm _ (fun a i => ?_) _ a)
  · exact (siftDown_perm lt _ _ _ _ _).trans (swap_perm a _ _)
  · exact siftDown_perm lt _ _ _ _ _

theorem partitionLoop_perm (p : Nat) :
    ∀ (fuel i j : Nat) (a : Array α), (partitionLoop lt p fuel i j a).2.Perm a
  | 0, _, _, _ => .rfl
  | fuel + 1, i, j, a => by
    unfold partitionLoop
    dsimp only
    split
    · exact .rfl
    · exact (partitionLoop_perm p fuel _ _ _).trans (swap_perm a _ _)

theorem partition_perm (lo hi pivot : Nat) (a : Array α) :
    (partition lt lo hi pivot a).2.2.Perm a := by
  unfold partition
  dsimp only
  split
  · exact (swap_perm _ _ _).trans (swap_perm a _ _)
  · exact (swap_perm _ _ _).trans
      ((partitionLoop_perm lt _ _ _ _ _).trans ((swap_perm _ _ _).trans (swap_perm a _ _)))

theorem equalLoop_perm (p : Nat) :
    ∀ (fuel i j : Nat) (a : Array α), (equalLoop lt p fuel i j a).2.Perm a
  | 0, _, _, _ => .rfl
  | fuel + 1, i, j, a => by
    unfold equalLoop
    dsimp only
    split
    · exact .rfl
    · exact (equalLoop_perm p fuel _ _ _).trans (swap_perm a _ _)

theorem partitionEqual_perm (lo hi pivot : Nat) (a : Array α) :
    (partitionEqual lt lo hi pivot a).2.Perm a :=
  (equalLoop_perm lt _ _ _ _ _).trans (swap_perm a _ _)

theorem shiftRight_perm (hi : Nat) :
    ∀ (fuel j : Nat) (a : Array α), (shiftRight lt hi fuel j a).Perm a
  | 0, _, _ => .rfl
  | fuel + 1, j, a => by
    unfold shiftRight
    split
    · exact (shiftRight_perm hi fuel _ _).trans (swap_perm a _ _)
    · exact .rfl

theorem partialInsertionSort_go_perm (lo hi : Nat) :
    ∀ (steps i : Nat) (a : Array α), (partialInsertionSort.go lt lo hi steps i a).2.Perm a
  | 0, _, _ => .rfl
  | steps + 1, i, a => by
    unfold partialInsertionSort.go
    dsimp only
    split
    · exact .rfl
    · split
      · exact .rfl
      · refine (partialInsertionSort_go_perm lo hi steps _ _).trans ?_
        -- a swap, then possibly a sink to the left and a shift to the right
        have h1 := swap_perm a (ascend lt hi a (hi + 1) i) (ascend lt hi a (hi + 1) i - 1)
        split <;> split
        all_goals first
          | exact (shiftRight_perm lt _ _ _ _).trans ((sinkLeft_perm lt _ _ _).trans h1)
          | exact (shiftRight_perm lt _ _ _ _).trans h1
          | exact (sinkLeft_perm lt _ _ _).trans h1
          | exact h1

theorem partialInsertionSort_perm (lo hi : Nat) (a : Array α) :
    (partialInsertionSort lt lo hi a).2.Perm a :=
  partialInsertionSort_go_perm lt lo hi _ _ a

theorem reverseRange_perm (lo hi : Nat) (a : Array α) : (reverseRange lo hi a).Perm a :=
  foldl_perm _ (fun a _ => swap_perm a _ _) _ a

theorem breakPatterns_perm (lo hi : Nat) (a : Array α) : (breakPatterns lo hi a).Perm a := by
  unfold breakPatterns
  dsimp only
  split
  · exact .rfl
  · -- the generator state rides along; each of the three steps is one swap
    have step : ∀ (l : List Nat) (st : UInt64 × Array α),
        (l.foldl (fun (st : UInt64 × Array α) (i : Nat) =>
          (xorshift st.1, swap st.2 (lo + (hi - lo) / 4 * 2 - 1 + i)
            (lo + (if (xorshift st.1).toNat % Nat.pow 2 (Nat.log2 (hi - lo) + 1) ≥ hi - lo
              then (xorshift st.1).toNat % Nat.pow 2 (Nat.log2 (hi - lo) + 1) - (hi - lo)
              else (xorshift st.1).toNat % Nat.pow 2 (Nat.log2 (hi - lo) + 1))))) st).2.Perm st.2 := by
      intro l
      induction l with
      | nil => intro st; exact .rfl
      | cons i l ih => intro st; exact (ih _).trans (swap_perm st.2 _ _)
    exact step _ _

theorem pdq_perm :
    ∀ (fuel lo hi limit : Nat) (balanced partitioned : Bool) (a : Array α),
      (pdq lt fuel lo hi limit balanced partitioned a).Perm a
  | 0, _, _, _, _, _, _ => .rfl
  | fuel + 1, lo, hi, limit, balanced, partitioned, a => by
    unfold pdq
    dsimp only
    split
    · exact insertionSort_perm lt lo hi a
    split
    · exact heapSort_perm lt lo hi a
    -- each array the round works on is a permutation of `a`, whichever branches it took
    generalize hb : (if balanced = true then (a, limit) else (breakPatterns lo hi a, limit - 1)) = b
    have h1 : b.1.Perm a := by
      subst hb
      split
      · exact .rfl
      · exact breakPatterns_perm lo hi a
    generalize hc : (if ((choosePivot lt b.1 lo hi).2 == Hint.decreasing) = true then
        (reverseRange lo hi b.1, hi - 1 - ((choosePivot lt b.1 lo hi).1 - lo), Hint.increasing)
      else (b.1, (choosePivot lt b.1 lo hi).1, (choosePivot lt b.1 lo hi).2)) = c
    have h2 : c.1.Perm a := by
      subst hc
      split
      · exact (reverseRange_perm lo hi _).trans h1
      · exact h1
    generalize hd : (if (balanced && partitioned && c.2.2 == Hint.increasing) = true then
        partialInsertionSort lt lo hi c.1 else (false, c.1)) = d
    have h3 : d.2.Perm a := by
      subst hd
      split
      · exact (partialInsertionSort_perm lt lo hi _).trans h2
      · exact h2
    split
    · exact h3
    split
    · exact (pdq_perm ..).trans ((partitionEqual_perm ..).trans h3)
    · split <;> exact (pdq_perm ..).trans ((pdq_perm ..).trans ((partition_perm ..).trans h3))

/-- **The sort returns a permutation of its input.** -/
theorem sort_perm (a : Array α) : (sort lt a).Perm a := by
  unfold sort
  split
  · exact .rfl
  · exact pdq_perm lt _ _ _ _ _ _ a

end Quicksort

end CrowdSim
