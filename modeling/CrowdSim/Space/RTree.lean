import CrowdSim.Plane.Box
import CrowdSim.Order.Quicksort

/-!
# R-trees

The spatial index keeps its pedestrians and walls in R-trees (Guttman, 1984): a balanced tree
whose leaves hold the entries with their rectangles and whose branches hold their children with
the rectangle covering each. A node holds at most sixteen entries, and a split leaves at least
eight on each side.

The order of query results, and whether an insertion succeeds at all, follow from the exact
shape of the tree, so the tree is built exactly as follows.

* **Insertion** descends from the root, at each branch into the child whose rectangle grows
  least (in area) by covering the new one, ties going to the smaller child; the comparison
  starts from the largest finite double, so when every growth is NaN or infinite no child is
  chosen and the insertion fails. The entry is appended to the leaf, and on the way back up each
  rectangle on the path is recomputed, split nodes adding their new sibling at the end of the
  parent. A root that splits gets a new root above it.
* **Splitting** is quadratic: the two entries that waste most area together are the seeds, and
  the others go, the one with the strongest preference first, to the side that grows least, then
  the smaller side, then the side with fewer entries, unless one side needs all that are left to
  reach eight.
* **Bulk loading** (overlap minimizing top-down) builds a tree of height `⌈log₁₆ n⌉` at once:
  the entries are sorted by `x`, cut into vertical slices, each slice sorted by `y` and cut into
  groups, and each group loaded the same way one level down, sorting by `x` and `y` in turn.
  The sorts are unstable (`Quicksort.sort`). Sixteen entries or fewer make a single leaf.
* **Search** walks the tree depth first, children and entries in their stored order.

Rectangles are compared with the ordering of doubles, so a NaN coordinate propagates through
covering rectangles in a fixed way: the lower corner keeps the second rectangle's coordinate
unless the first is at most it, the upper corner the first's unless it is at most the second's.
-/

namespace CrowdSim

/-- A rectangle of the tree: its low corner and its far corner. -/
structure Rect (K : Type := Float) where
  lo : Vec K
  hi : Vec K
  deriving Inhabited

namespace Rect

variable {K : Type} [Scalar K]

/-- The rectangle of a box, grown by `tolerance` on every side. The far corner is the low corner
plus the side lengths; a side length that is not positive stops the construction there, the far
corner keeping zero on that axis and the next. -/
def ofBox (b : Box K) : Rect K :=
  let lo : Vec K := ⟨b.min.x - tolerance, b.min.y - tolerance⟩
  let wx := b.max.x - b.min.x + 2.0 * tolerance
  let wy := b.max.y - b.min.y + 2.0 * tolerance
  if wx ≤ 0.0 then ⟨lo, ⟨0.0, 0.0⟩⟩
  else if wy ≤ 0.0 then ⟨lo, ⟨lo.x + wx, 0.0⟩⟩
  else ⟨lo, ⟨lo.x + wx, lo.y + wy⟩⟩

/-- The rectangles `e` and `s` overlap with positive width on both axes (a NaN makes an axis
pass). -/
def meets (e s : Rect K) : Bool :=
  !(s.hi.x ≤ e.lo.x || e.hi.x ≤ s.lo.x) && !(s.hi.y ≤ e.lo.y || e.hi.y ≤ s.lo.y)

/-- The area. -/
def size (r : Rect K) : K := (r.hi.x - r.lo.x) * (r.hi.y - r.lo.y)

/-- The smaller coordinate, the first unless it is above the second. -/
def lower (a b : K) : K := if a ≤ b then a else b

/-- The larger coordinate, the second unless the first is above it. -/
def upper (a b : K) : K := if a ≤ b then b else a

/-- The rectangle covering both. -/
def union (r s : Rect K) : Rect K :=
  ⟨⟨lower r.lo.x s.lo.x, lower r.lo.y s.lo.y⟩, ⟨upper r.hi.x s.hi.x, upper r.hi.y s.hi.y⟩⟩

/-- The rectangle covering all, folded from the left. -/
def unionAll : List (Rect K) → Rect K
  | [] => default
  | [r] => r
  | r :: s :: rest => rest.foldl union (r.union s)

/-- The area `r` gains by being grown to cover `s`. -/
def growth (r s : Rect K) : K := (r.union s).size - r.size

end Rect

namespace RTree

/-- The most entries a node holds. -/
def maxEntries : Nat := 16

/-- The fewest entries a split leaves on a side. -/
def minEntries : Nat := 8

/-- The largest finite double, `(2 ^ 53 - 1) · 2 ^ 971`, where the search for the child that grows
least starts. -/
def maxFinite {K : Type} [Scalar K] : K := Scalar.ofNat (Nat.pow 2 1024 - Nat.pow 2 971)

/-- A node: a leaf of entries, or a branch of children, each with its rectangle. -/
inductive Node (α : Type) (K : Type := Float) where
  | leaf (entries : List (Rect K × α))
  | branch (children : List (Rect K × Node α K))
  deriving Inhabited

/-- Why an insertion fails: a branch where no child could be chosen. -/
inductive Fault where
  | noChild
  deriving DecidableEq, Repr

/-- How the failure is reported: the missing child is dereferenced. -/
def Fault.message : Fault → String
  | .noChild => "runtime error: invalid memory address or nil pointer dereference"

/-- The rectangle covering a node's entries, from their stored rectangles. -/
def Node.box {α K : Type} [Scalar K] : Node α K → Rect K
  | .leaf es => Rect.unionAll (es.map (·.1))
  | .branch cs => Rect.unionAll (cs.map (·.1))

/-! ## Search -/

mutual

/-- The entries under a node whose rectangle meets `q`, depth first. -/
def Node.search {α K : Type} [Scalar K] (q : Rect K) : Node α K → List α
  | .leaf es => (es.filter fun e => e.1.meets q).map (·.2)
  | .branch cs => searchChildren q cs

/-- The entries under the children whose rectangle meets `q`, in order. -/
def searchChildren {α K : Type} [Scalar K] (q : Rect K) : List (Rect K × Node α K) → List α
  | [] => []
  | (r, c) :: rest => (if r.meets q then c.search q else []) ++ searchChildren q rest

end

/-! ## Quadratic split -/

section Split

variable {K β : Type} [Scalar K]

/-- The two positions whose rectangles waste most area when covered together; the first pair
unless some pair wastes more than `-1`. -/
def pickSeeds (es : List (Rect K × β)) : Nat × Nat :=
  let rs := es.map (·.1)
  let pairs := rs.zipIdx.flatMap fun (r, i) =>
    ((rs.drop (i + 1)).zipIdx).map fun (s, j) => (i, i + 1 + j, (r.union s).size - r.size - s.size)
  let best := pairs.foldl (fun (b : Nat × Nat × K) (p : Nat × Nat × K) =>
    if p.2.2 > b.2.2 then p else b) (0, 1, -1.0)
  (best.1, best.2.1)

/-- The position of the entry whose growths of the two sides differ most. -/
def pickNext (left right : Rect K) (rest : List (Rect K × β)) : Nat :=
  (rest.zipIdx.foldl (fun (b : Nat × K) (p : (Rect K × β) × Nat) =>
    let d := Scalar.abs (left.growth p.1.1 - right.growth p.1.1)
    if d > b.2 then (p.2, d) else b) (0, -1.0)).1

/-- The entry with rectangle `r` joins the left side: it grows less, or as little and is
smaller, or as small and holds no more entries. -/
def joinsLeft (left right : List (Rect K × β)) (r : Rect K) : Bool :=
  let lb := Rect.unionAll (left.map (·.1))
  let rb := Rect.unionAll (right.map (·.1))
  let diff := lb.growth r - rb.growth r
  if diff < 0.0 then true
  else if diff > 0.0 then false
  else
    let diff := lb.size - rb.size
    if diff < 0.0 then true
    else if diff > 0.0 then false
    else left.length ≤ right.length

/-- Hands out the remaining entries one at a time; a side that needs all that are left to reach
`minEntries` takes them. -/
def distribute : Nat → List (Rect K × β) → List (Rect K × β) → List (Rect K × β) →
    List (Rect K × β) × List (Rect K × β)
  | 0, left, right, _ => (left, right)
  | fuel + 1, left, right, rest =>
    let next := pickNext (Rect.unionAll (left.map (·.1))) (Rect.unionAll (right.map (·.1))) rest
    match rest[next]? with
    | none => (left, right)
    | some e =>
      let others := rest.eraseIdx next
      if rest.length + left.length ≤ minEntries then distribute fuel (left ++ [e]) right others
      else if rest.length + right.length ≤ minEntries then
        distribute fuel left (right ++ [e]) others
      else if joinsLeft left right e.1 then distribute fuel (left ++ [e]) right others
      else distribute fuel left (right ++ [e]) others

/-- Splits an overflowing node's entries in two. -/
def split (es : List (Rect K × β)) : List (Rect K × β) × List (Rect K × β) :=
  let (i, j) := pickSeeds es
  match es[i]?, es[j]? with
  | some a, some b =>
    let rest := (es.eraseIdx j).eraseIdx i
    distribute (rest.length + 1) [a] [b] rest
  | _, _ => (es, [])

/-- The child to descend into for a new rectangle: the one that grows least, ties going to the
smaller; none when no growth is below the largest finite double. -/
def choose (r : Rect K) (cs : List (Rect K × β)) : Option Nat :=
  let step (st : K × Option (Nat × K)) (p : (Rect K × β) × Nat) :=
    let bb := p.1.1
    let d := bb.growth r
    let chosenSize := match st.2 with
      | some (_, s) => s
      | none => 1.0
    if d < st.1 || (d == st.1 && bb.size < chosenSize) then (d, some (p.2, bb.size)) else st
  ((cs.zipIdx.foldl step (maxFinite, none)).2).map (·.1)

end Split

/-! ## Insertion -/

/-- A node that overflowed keeps the first part of its entries and hands the second to a new
sibling. -/
def settle {α K β : Type} [Scalar K] (make : List (Rect K × β) → Node α K)
    (es : List (Rect K × β)) : Node α K × Option (Node α K) :=
  if es.length > maxEntries then
    let (l, r) := split es
    (make l, some (make r))
  else (make es, none)

mutual

/-- Inserts an entry under the node: the node afterwards and the sibling split off it, if any. -/
def Node.insert {α K : Type} [Scalar K] (e : Rect K × α) :
    Node α K → Except Fault (Node α K × Option (Node α K))
  | .leaf es => .ok (settle .leaf (es ++ [e]))
  | .branch cs =>
    match choose e.1 cs with
    | none => .error .noChild
    | some k =>
      match insertAt e k cs with
      | .error f => .error f
      | .ok (cs, none) => .ok (settle .branch cs)
      | .ok (cs, some extra) => .ok (settle .branch (cs ++ [(extra.box, extra)]))

/-- Inserts an entry under the child at position `k`, recomputing that child's rectangle; the
sibling split off it, if any. -/
def insertAt {α K : Type} [Scalar K] (e : Rect K × α) :
    Nat → List (Rect K × Node α K) → Except Fault (List (Rect K × Node α K) × Option (Node α K))
  | _, [] => .ok ([], none)
  | 0, (_, c) :: rest =>
    match c.insert e with
    | .error f => .error f
    | .ok (c, extra) => .ok ((c.box, c) :: rest, extra)
  | k + 1, x :: rest =>
    match insertAt e k rest with
    | .error f => .error f
    | .ok (rest, extra) => .ok (x :: rest, extra)

end

/-! ## Bulk loading -/

/-- The pieces of `size` consecutive elements, the last possibly shorter. -/
def pieces {β : Type} (size : Nat) (xs : Array β) : List (Array β) :=
  (List.range ((xs.size + size - 1) / size)).map fun i => xs.extract (i * size) ((i + 1) * size)

/-- Sorts entries by the low corner's `x` (axis 0) or `y` (axis 1). -/
def sortByAxis {α K : Type} [Scalar K] (axis : Nat) (es : Array (Rect K × α)) :
    Array (Rect K × α) :=
  let key (e : Rect K × α) : K := if axis == 0 then e.1.lo.x else e.1.lo.y
  Quicksort.sort (fun a b => key a < key b) es

/-- Loads the entries as a subtree whose root is at `level` (leaves are at level 1) of a tree of
the given height, cutting them into `slices` vertical slices and at most `m` groups. -/
def loadLevel {α K : Type} [Scalar K] (height : Nat) :
    Nat → Nat → Array (Rect K × α) → Nat → Node α K
  | 0, _, es, _ => .leaf es.toList
  | level + 1, slices, es, m =>
    if es.size ≤ m then
      if level ≥ 1 then
        let child := loadLevel height level slices es m
        .branch [(child.box, child)]
      else .leaf es.toList
    else
      let k := (es.size + m - 1) / m
      let vertical := if slices > 1 then slices * k else es.size
      let axis := (height - (level + 1) + 1) % 2
      let children := (pieces vertical es).flatMap fun slice =>
        (pieces k (sortByAxis axis slice)).map fun part => loadLevel height level 1 part maxEntries
      .branch (children.map fun c => (c.box, c))

/-- The least `h` with `16 ^ h ≥ n`. -/
def heightFor (n : Nat) : Nat :=
  ((List.range 64).find? fun h => n ≤ Nat.pow maxEntries h).getD 64

end RTree

/-- An R-tree of entries of type `α`. -/
structure RTree (α : Type) (K : Type := Float) where
  root : RTree.Node α K
  deriving Inhabited

namespace RTree

variable {α K : Type} [Scalar K]

/-- The empty tree: an empty leaf. -/
def empty : RTree α K := ⟨.leaf []⟩

/-- Adds an entry, growing a new root when the old one splits. -/
def insert (t : RTree α K) (e : Rect K × α) : Except Fault (RTree α K) :=
  match t.root.insert e with
  | .error f => .error f
  | .ok (root, none) => .ok ⟨root⟩
  | .ok (root, some extra) => .ok ⟨.branch [(root.box, root), (extra.box, extra)]⟩

/-- A tree holding the entries: one leaf in their order when they fit in one (as inserting them
one by one would give), the bulk-loaded tree otherwise. -/
def load (es : List (Rect K × α)) : RTree α K :=
  if es.length ≤ maxEntries then ⟨.leaf es⟩
  else
    let n := es.length
    let h := heightFor n
    let sub := Nat.pow maxEntries (h - 1)
    let s := (n + sub - 1) / sub
    ⟨loadLevel h h (Nat.sqrt s) (sortByAxis 0 es.toArray) s⟩

/-- The entries whose rectangle meets `q`, depth first. -/
def search (t : RTree α K) (q : Rect K) : List α := t.root.search q

end RTree

end CrowdSim
