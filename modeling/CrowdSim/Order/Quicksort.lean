/-!
# Pattern-defeating quicksort

The bulk loader of the spatial index sorts its entries with an unstable sort, and the order in
which equal keys come out decides the shape of the tree and so the order of query results. This
module is that sort, step for step: pattern-defeating quicksort over an array, compared only
through a strict order `lt`.

* ranges of at most twelve elements are sorted by insertion;
* the pivot is the middle element for ranges below eight, the median of three positions up to
  fifty, and Tukey's ninther from there; comparisons that found the positions out of order are
  counted, and twelve of them mean the range looked descending, so it is reversed first;
* a range that looked sorted after a balanced partition is first tried with a bounded insertion
  sort (at most five elements shifted, none in ranges below fifty);
* a pivot not above the element before the range puts the elements equal to it first;
* after an unbalanced partition (a side below an eighth of the range) three elements are swapped
  with positions from a xorshift generator seeded by the length, and after as many unbalanced
  partitions as the length has bits the range is heapsorted instead;
* the smaller side of a partition is sorted first, by a call of its own.

Every loop runs on fuel that exceeds the number of steps it can take.
-/

namespace CrowdSim

namespace Quicksort

variable {α : Type}

/-- The element at `i` is below the one at `j`; false when either is missing. -/
def less (lt : α → α → Bool) (a : Array α) (i j : Nat) : Bool :=
  match a[i]?, a[j]? with
  | some x, some y => lt x y
  | _, _ => false

/-- Exchanges two positions. -/
def swap (a : Array α) (i j : Nat) : Array α := a.swapIfInBounds i j

/-! ## Insertion sort and heapsort -/

/-- Moves the element at `j` left while it is below its neighbour, not past `lo`. -/
def sinkLeft (lt : α → α → Bool) (lo : Nat) : Nat → Array α → Array α
  | 0, a => a
  | j + 1, a =>
    if lo < j + 1 && less lt a (j + 1) j then sinkLeft lt lo j (swap a (j + 1) j) else a

/-- Insertion sort of the positions `[lo, hi)`. -/
def insertionSort (lt : α → α → Bool) (lo hi : Nat) (a : Array α) : Array α :=
  (List.range' (lo + 1) (hi - (lo + 1))).foldl (fun a i => sinkLeft lt lo i a) a

/-- Restores the heap order below `root` in the heap of `hi` elements stored from `first`. -/
def siftDown (lt : α → α → Bool) (hi first : Nat) : Nat → Nat → Array α → Array α
  | 0, _, a => a
  | fuel + 1, root, a =>
    let child := 2 * root + 1
    if child ≥ hi then a
    else
      let child :=
        if child + 1 < hi && less lt a (first + child) (first + child + 1) then child + 1
        else child
      if !less lt a (first + root) (first + child) then a
      else siftDown lt hi first fuel child (swap a (first + root) (first + child))

/-- Heapsort of the positions `[lo, hi)`. -/
def heapSort (lt : α → α → Bool) (lo hi : Nat) (a : Array α) : Array α :=
  let n := hi - lo
  let a := (List.range ((n - 1) / 2 + 1)).reverse.foldl (fun a i => siftDown lt n lo (n + 1) i a) a
  (List.range n).reverse.foldl (fun a i => siftDown lt i lo (n + 1) 0 (swap a lo (lo + i))) a

/-! ## Scans -/

/-- Advances `i` while `i ≤ j` and `ok i`. -/
def upWhile (ok : Nat → Bool) (j : Nat) : Nat → Nat → Nat
  | 0, i => i
  | fuel + 1, i => if i ≤ j && ok i then upWhile ok j fuel (i + 1) else i

/-- Moves `j` back while `i ≤ j` and `ok j`. -/
def downWhile (ok : Nat → Bool) (i : Nat) : Nat → Nat → Nat
  | 0, j => j
  | fuel + 1, j => if i ≤ j && ok j then downWhile ok i fuel (j - 1) else j

/-- Swaps the out-of-place pairs found by scanning from both ends towards each other, keeping the
elements below the pivot at `p` on the left; the position where the scans crossed. -/
def partitionLoop (lt : α → α → Bool) (p : Nat) : Nat → Nat → Nat → Array α → Nat × Array α
  | 0, _, j, a => (j, a)
  | fuel + 1, i, j, a =>
    let i := upWhile (fun k => less lt a k p) j (a.size + 1) i
    let j := downWhile (fun k => !less lt a k p) i (a.size + 1) j
    if i > j then (j, a) else partitionLoop lt p fuel (i + 1) (j - 1) (swap a i j)

/-- One quicksort partition of `[lo, hi)` around the element at `pivot`: the pivot's final
position, whether no swap was needed, and the array. -/
def partition (lt : α → α → Bool) (lo hi pivot : Nat) (a : Array α) : Nat × Bool × Array α :=
  let a := swap a lo pivot
  let i := upWhile (fun k => less lt a k lo) (hi - 1) (a.size + 1) (lo + 1)
  let j := downWhile (fun k => !less lt a k lo) i (a.size + 1) (hi - 1)
  if i > j then (j, true, swap a j lo)
  else
    let (j, a) := partitionLoop lt lo (a.size + 1) (i + 1) (j - 1) (swap a i j)
    (j, false, swap a j lo)

/-- Puts the elements equal to the pivot first, when none is below it; where the greater ones
start. -/
def equalLoop (lt : α → α → Bool) (p : Nat) : Nat → Nat → Nat → Array α → Nat × Array α
  | 0, i, _, a => (i, a)
  | fuel + 1, i, j, a =>
    let i := upWhile (fun k => !less lt a p k) j (a.size + 1) i
    let j := downWhile (fun k => less lt a p k) i (a.size + 1) j
    if i > j then (i, a) else equalLoop lt p fuel (i + 1) (j - 1) (swap a i j)

/-- Partitions `[lo, hi)` into the elements equal to the one at `pivot` and the greater ones. -/
def partitionEqual (lt : α → α → Bool) (lo hi pivot : Nat) (a : Array α) : Nat × Array α :=
  equalLoop lt lo (a.size + 1) (lo + 1) (hi - 1) (swap a lo pivot)

/-! ## Nearly sorted ranges -/

/-- The first position from `i` on that is `hi` or holds an element below its neighbour. -/
def ascend (lt : α → α → Bool) (hi : Nat) (a : Array α) : Nat → Nat → Nat
  | 0, i => i
  | fuel + 1, i => if i < hi && !less lt a i (i - 1) then ascend lt hi a fuel (i + 1) else i

/-- Moves the element at `j + 1` right while it is below its left neighbour. -/
def shiftRight (lt : α → α → Bool) (hi : Nat) : Nat → Nat → Array α → Array α
  | 0, _, a => a
  | fuel + 1, j, a =>
    if j < hi && less lt a j (j - 1) then shiftRight lt hi fuel (j + 1) (swap a j (j - 1))
    else a

/-- Sorts `[lo, hi)` by insertion when it is sorted but for at most five elements; whether it
is sorted afterwards. The array may have changed either way. -/
def partialInsertionSort (lt : α → α → Bool) (lo hi : Nat) (a : Array α) : Bool × Array α :=
  go 5 (lo + 1) a
where
  /-- Up to `steps` more shifts, from position `i`. -/
  go : Nat → Nat → Array α → Bool × Array α
    | 0, _, a => (false, a)
    | steps + 1, i, a =>
      let i := ascend lt hi a (hi + 1) i
      if i == hi then (true, a)
      else if hi - lo < 50 then (false, a)
      else
        let a := swap a i (i - 1)
        let a := if i - lo ≥ 2 then sinkLeft lt 0 (i - 1) a else a
        let a := if hi - i ≥ 2 then shiftRight lt hi (hi + 1) (i + 1) a else a
        go steps i a

/-! ## Pivots -/

/-- What the pivot choice saw of the order of the range. -/
inductive Hint where
  | unknown
  | increasing
  | decreasing
  deriving DecidableEq

/-- Two positions in order of their elements, counting a swap when they were not. -/
def order2 (lt : α → α → Bool) (a : Array α) (x y swaps : Nat) : Nat × Nat × Nat :=
  if less lt a y x then (y, x, swaps + 1) else (x, y, swaps)

/-- The position of the median of three, with the swap count. -/
def median (lt : α → α → Bool) (a : Array α) (x y z swaps : Nat) : Nat × Nat :=
  let (x, y, swaps) := order2 lt a x y swaps
  let (y, _, swaps) := order2 lt a y z swaps
  let (_, y, swaps) := order2 lt a x y swaps
  (y, swaps)

/-- The pivot of `[lo, hi)` and what its choice saw of the order. -/
def choosePivot (lt : α → α → Bool) (a : Array α) (lo hi : Nat) : Nat × Hint :=
  let l := hi - lo
  let i := lo + l / 4
  let j := lo + l / 4 * 2
  let k := lo + l / 4 * 3
  let (j, swaps) :=
    if l ≥ 8 then
      let (i, j, k, swaps) :=
        if l ≥ 50 then
          let (i, s) := median lt a (i - 1) i (i + 1) 0
          let (j, s) := median lt a (j - 1) j (j + 1) s
          let (k, s) := median lt a (k - 1) k (k + 1) s
          (i, j, k, s)
        else (i, j, k, 0)
      median lt a i j k swaps
    else (j, 0)
  (j, if swaps == 0 then .increasing else if swaps == 12 then .decreasing else .unknown)

/-- Reverses `[lo, hi)`. -/
def reverseRange (lo hi : Nat) (a : Array α) : Array α :=
  (List.range ((hi - lo) / 2)).foldl (fun a d => swap a (lo + d) (hi - 1 - d)) a

/-- One step of the xorshift generator with shifts 13, 7 and 17. -/
def xorshift (r : UInt64) : UInt64 :=
  let r := r ^^^ (r <<< 13)
  let r := r ^^^ (r >>> 7)
  r ^^^ (r <<< 17)

/-- Swaps the three elements around the middle of `[lo, hi)` (the middle is `lo` plus twice a
quarter of the length, rounded down) with positions drawn from a generator seeded by the length,
to break patterns that unbalance partitions. -/
def breakPatterns (lo hi : Nat) (a : Array α) : Array α :=
  let length := hi - lo
  if length < 8 then a
  else
    let modulus := Nat.pow 2 (Nat.log2 length + 1)
    let idx := lo + length / 4 * 2
    let step (st : UInt64 × Array α) (i : Nat) : UInt64 × Array α :=
      let r := xorshift st.1
      let other := r.toNat % modulus
      let other := if other ≥ length then other - length else other
      (r, swap st.2 (idx - 1 + i) (lo + other))
    ([0, 1, 2].foldl step (UInt64.ofNat length, a)).2

/-! ## The sort -/

/-- Sorts `[lo, hi)`. `limit` counts the unbalanced partitions still allowed before heapsort;
`balanced` and `partitioned` tell whether the last partition was balanced and needed no swap.
Every round shrinks the range, so `fuel` above its length suffices. -/
def pdq (lt : α → α → Bool) :
    Nat → Nat → Nat → Nat → Bool → Bool → Array α → Array α
  | 0, _, _, _, _, _, a => a
  | fuel + 1, lo, hi, limit, balanced, partitioned, a =>
    let length := hi - lo
    if length ≤ 12 then insertionSort lt lo hi a
    else if limit == 0 then heapSort lt lo hi a
    else
      let (a, limit) := if balanced then (a, limit) else (breakPatterns lo hi a, limit - 1)
      let (pivot, hint) := choosePivot lt a lo hi
      let (a, pivot, hint) :=
        if hint == .decreasing then (reverseRange lo hi a, hi - 1 - (pivot - lo), Hint.increasing)
        else (a, pivot, hint)
      let (sorted, a) :=
        if balanced && partitioned && hint == .increasing then partialInsertionSort lt lo hi a
        else (false, a)
      if sorted then a
      else if lo > 0 && !less lt a (lo - 1) pivot then
        let (mid, a) := partitionEqual lt lo hi pivot a
        pdq lt fuel mid hi limit balanced partitioned a
      else
        let (mid, already, a) := partition lt lo hi pivot a
        let leftLen := mid - lo
        let rightLen := hi - mid
        if leftLen < rightLen then
          let a := pdq lt fuel lo mid limit true true a
          pdq lt fuel (mid + 1) hi limit (leftLen ≥ length / 8) already a
        else
          let a := pdq lt fuel (mid + 1) hi limit true true a
          pdq lt fuel lo mid limit (rightLen ≥ length / 8) already a

/-- Sorts the array by `lt`, not keeping equal elements in order. -/
def sort (lt : α → α → Bool) (a : Array α) : Array α :=
  if a.size ≤ 1 then a else pdq lt (a.size + 1) 0 a.size (Nat.log2 a.size + 1) true true a

end Quicksort

end CrowdSim
