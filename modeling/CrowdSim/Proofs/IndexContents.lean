import Mathlib
import CrowdSim.Proofs.RTreeSearch

/-!
# What the index holds, and what its queries see

An index is only ever built one way: empty, then new snapshots (`Index.rebuild`) and added walls
(`Index.addBoundaries`), in any order (`Index.Reachable`). Every such index keeps its trees in step
with its lists (`Index.Stored`): the agent tree holds the located agents, each under the rectangle
of its position, and the wall tree holds the walls, each under its box, which is the wall's
bounding box grown by the padding the index was made with.

Over exact numbers this makes the queries complete. A query for a box returns, in some order,
exactly the located agents or walls whose rectangles meet the box's (`Stored.queryAgents_perm`,
`Stored.queryWalls_perm`). And the broad phase of `visible` drops no wall the exact test would
report: whenever the sight line touches a wall by `Segment.intersects`, their boxes come within
`tolerance`, so the wall's grown rectangle meets the sight line's. So the line between two points
is visible exactly when it meets none of the segments ever added
(`Index.visible_iff_crosses_no_boundary`), each taken in either direction.
-/

namespace CrowdSim

namespace Index

section Invariant

variable {K : Type} [Scalar K]

/-- The indexes the program builds: an empty one, then new snapshots and added walls. -/
inductive Reachable : Index K → Prop
  | empty (pad : K) : Reachable (Index.empty pad)
  | rebuild {idx : Index K} (agents : List (Agent K)) : Reachable idx →
      Reachable (idx.rebuild agents)
  | addBoundaries {idx idx' : Index K} (segs : List (Segment K)) : Reachable idx →
      idx.addBoundaries segs = .ok idx' → Reachable idx'

/-- The entry of a located agent in the agent tree. -/
def agentEntry (a : Agent K) : Rect K × Agent K := (Rect.ofBox (Box.point a.position), a)

/-- The entry of a wall in the wall tree. -/
def wallEntry (w : Wall K) : Rect K × Wall K := (Rect.ofBox w.box, w)

/-- The trees hold what the lists say, and each wall's box is its bounding box grown by the
padding. -/
structure Stored (idx : Index K) : Prop where
  agents : idx.agentTree.Holds (idx.located.map agentEntry)
  walls : idx.wallTree.Holds (idx.walls.map wallEntry)
  boxes : ∀ w ∈ idx.walls, w.box = w.segment.bound.pad idx.pad

theorem stored_empty (pad : K) : (Index.empty pad).Stored :=
  ⟨RTree.holds_empty, RTree.holds_empty, by simp [Index.empty]⟩

@[simp] theorem rebuild_pad (idx : Index K) (agents : List (Agent K)) :
    (idx.rebuild agents).pad = idx.pad := rfl

@[simp] theorem rebuild_walls (idx : Index K) (agents : List (Agent K)) :
    (idx.rebuild agents).walls = idx.walls := rfl

@[simp] theorem located_rebuild (idx : Index K) (agents : List (Agent K)) :
    (idx.rebuild agents).located = agents.filter fun a => !a.position.isNaN := rfl

theorem Stored.rebuild {idx : Index K} (hs : idx.Stored) (agents : List (Agent K)) :
    (idx.rebuild agents).Stored :=
  ⟨RTree.holds_load _, hs.walls, hs.boxes⟩

/-- Adding a wall either leaves the index as it was or appends the wall of the segment's
canonical direction, grown by the padding, to both the list and the tree. -/
theorem addWall_cases {idx idx' : Index K} {s : Segment K} (h : idx.addWall s = .ok idx') :
    idx' = idx ∨
      ∃ t, idx.wallTree.insert (wallEntry ⟨s.canonical, s.canonical.bound.pad idx.pad⟩) = .ok t ∧
        idx' = { idx with walls := idx.walls ++ [⟨s.canonical, s.canonical.bound.pad idx.pad⟩],
                          wallTree := t } := by
  unfold addWall at h
  dsimp only at h
  split at h
  · cases h
    exact Or.inl rfl
  split at h
  · cases h
    exact Or.inl rfl
  split at h
  · cases h
  · rename_i t ht
    cases h
    exact Or.inr ⟨t, ht, rfl⟩

theorem addWall_pad {idx idx' : Index K} {s : Segment K} (h : idx.addWall s = .ok idx') :
    idx'.pad = idx.pad := by
  rcases addWall_cases h with rfl | ⟨-, -, rfl⟩ <;> rfl

theorem Stored.addWall {idx idx' : Index K} (hs : idx.Stored) {s : Segment K}
    (h : idx.addWall s = .ok idx') : idx'.Stored := by
  rcases addWall_cases h with rfl | ⟨t, hins, rfl⟩
  · exact hs
  refine ⟨hs.agents, ?_, ?_⟩
  · simpa using hs.walls.insert hins
  · -- the new wall is grown by the padding, like the others
    simp only [List.mem_append, List.mem_singleton]
    rintro w (hw | rfl)
    · exact hs.boxes w hw
    · rfl

theorem addBoundaries_pad {idx idx' : Index K} {segs : List (Segment K)}
    (h : idx.addBoundaries segs = .ok idx') : idx'.pad = idx.pad := by
  induction segs generalizing idx with
  | nil => cases h; rfl
  | cons s rest ih =>
    simp only [addBoundaries] at h
    split at h
    · cases h
    · rename_i mid hmid
      rw [ih h, addWall_pad hmid]

theorem Stored.addBoundaries {idx idx' : Index K} (hs : idx.Stored) {segs : List (Segment K)}
    (h : idx.addBoundaries segs = .ok idx') : idx'.Stored := by
  induction segs generalizing idx with
  | nil => cases h; exact hs
  | cons s rest ih =>
    simp only [Index.addBoundaries] at h
    split at h
    · cases h
    · rename_i mid hmid
      exact ih (hs.addWall hmid) h

/-- **Every index the program builds keeps its trees in step with its lists.** -/
theorem Reachable.stored {idx : Index K} (h : idx.Reachable) : idx.Stored := by
  induction h with
  | empty pad => exact stored_empty pad
  | rebuild agents _ ih => exact ih.rebuild agents
  | addBoundaries segs _ hadd ih => exact ih.addBoundaries hadd

end Invariant

/-! ## Queries over exact numbers -/

section Real

theorem Stored.queryAgents_perm {idx : Index ℝ} (hs : idx.Stored) (box : Box ℝ) :
    (idx.queryAgents box).Perm
      (idx.located.filter fun a => (Rect.ofBox (Box.point a.position)).meets (Rect.ofBox box)) := by
  unfold queryAgents
  refine (hs.agents.search_perm _).trans ?_
  rw [List.filter_map, List.map_map]
  simp [Function.comp_def, agentEntry]

theorem Stored.queryWalls_perm {idx : Index ℝ} (hs : idx.Stored) (box : Box ℝ) :
    (idx.queryWalls box).Perm (idx.walls.filter fun w => (Rect.ofBox w.box).meets (Rect.ofBox box)) := by
  unfold queryWalls
  refine (hs.walls.search_perm _).trans ?_
  rw [List.filter_map, List.map_map]
  simp [Function.comp_def, wallEntry]

@[simp] theorem empty_pad_real (pad : ℝ) : (Index.empty pad).pad = max pad 0 := by
  simp only [Index.empty]
  split_ifs with h
  · norm_num at h ⊢
    linarith
  · norm_num at h ⊢
    exact h

/-- The padding of an index the program builds is never negative. -/
theorem Reachable.pad_nonneg {idx : Index ℝ} (h : idx.Reachable) : 0 ≤ idx.pad := by
  induction h with
  | empty pad => simp
  | rebuild agents _ ih => exact ih
  | addBoundaries segs _ hadd ih => rw [addBoundaries_pad hadd]; exact ih

theorem Vec.equal_real (v w : Vec ℝ) : v.equal w = true ↔ v = w := by
  obtain ⟨vx, vy⟩ := v
  obtain ⟨wx, wy⟩ := w
  simp [Vec.equal]

theorem Segment.sameAs_real (s t : Segment ℝ) : s.sameAs t = true ↔ s = t := by
  obtain ⟨sa, sb⟩ := s
  obtain ⟨ta, tb⟩ := t
  simp [Segment.sameAs, Vec.equal_real]

/-- Adding a segment adds its canonical direction to the wall segments, if not there yet. -/
theorem addWall_segments {idx idx' : Index ℝ} {s : Segment ℝ} (h : idx.addWall s = .ok idx')
    (t : Segment ℝ) :
    t ∈ idx'.walls.map (·.segment) ↔ t ∈ idx.walls.map (·.segment) ∨ t = s.canonical := by
  unfold addWall at h
  dsimp only at h
  split at h
  · -- the wall is there already
    cases h
    rename_i hdup
    obtain ⟨w, hw, hsame⟩ := List.any_eq_true.mp hdup
    rw [Segment.sameAs_real] at hsame
    constructor
    · exact Or.inl
    · rintro (ht | rfl)
      · exact ht
      · exact List.mem_map.mpr ⟨w, hw, hsame⟩
  split at h
  · rename_i hnan
    simp at hnan
  split at h
  · cases h
  · cases h
    simp [eq_comm]

theorem addBoundaries_segments {idx idx' : Index ℝ} {segs : List (Segment ℝ)}
    (h : idx.addBoundaries segs = .ok idx') (t : Segment ℝ) :
    t ∈ idx'.walls.map (·.segment) ↔
      t ∈ idx.walls.map (·.segment) ∨ ∃ s ∈ segs, t = s.canonical := by
  induction segs generalizing idx with
  | nil => cases h; simp
  | cons s rest ih =>
    simp only [Index.addBoundaries] at h
    split at h
    · cases h
    · rename_i mid hmid
      rw [ih h, addWall_segments hmid]
      simp only [List.mem_cons, exists_eq_or_imp]
      tauto

/-- The sight line meets a wall only if the wall's grown rectangle meets the sight line's
rectangle: the search of `visible` sees every wall the exact test could report. -/
theorem meets_of_intersects {idx : Index ℝ} (hs : idx.Stored) (hpad : 0 ≤ idx.pad)
    {w : Wall ℝ} (hw : w ∈ idx.walls) {sight : Segment ℝ} (h : sight.intersects w.segment = true) :
    (Rect.ofBox w.box).meets (Rect.ofBox sight.bound) = true := by
  rw [hs.boxes w hw]
  exact Rect.meets_of_near sight.bound_ordered w.segment.bound_ordered hpad
    (Segment.near_of_intersects sight w.segment h)

/-- A stored index sees from `a` to `b` exactly when the line between them meets no wall. -/
theorem visible_iff_walls {idx : Index ℝ} (hs : idx.Stored) (hpad : 0 ≤ idx.pad) (a b : Vec ℝ) :
    idx.visible a b = true ↔ ∀ w ∈ idx.walls, (⟨a, b⟩ : Segment ℝ).intersects w.segment = false := by
  unfold visible
  simp only [Vec.isNaN_real, Bool.or_false, Bool.false_eq_true, if_false, Bool.not_eq_true',
    List.any_eq_false]
  constructor
  · intro h w hw
    by_contra hx
    rw [Bool.not_eq_false] at hx
    exact h w ((hs.queryWalls_perm _).mem_iff.mpr
      (List.mem_filter.mpr ⟨hw, meets_of_intersects hs hpad hw hx⟩)) hx
  · intro h w hq
    have hw := (List.mem_filter.mp ((hs.queryWalls_perm _).mem_iff.mp hq)).1
    simp [h w hw]

/-- A run of `addBoundaries` calls keeps an index one the program builds, and its wall segments
are those it had and the canonical directions of the segments added. -/
theorem foldlM_addBoundaries :
    ∀ (calls : List (List (Segment ℝ))) {start idx : Index ℝ},
      calls.foldlM Index.addBoundaries start = .ok idx → start.Reachable →
        idx.Reachable ∧ ∀ t, t ∈ idx.walls.map (·.segment) ↔
          t ∈ start.walls.map (·.segment) ∨ ∃ s ∈ calls.flatten, t = s.canonical
  | [], start, idx, h, hr => by
    cases h
    simpa using hr
  | segs :: calls, start, idx, h, hr => by
    rw [List.foldlM_cons] at h
    cases hmid : start.addBoundaries segs with
    | error f =>
      rw [hmid] at h
      cases h
    | ok mid =>
      rw [hmid] at h
      obtain ⟨hidx, hseg⟩ := foldlM_addBoundaries calls h (.addBoundaries segs hr hmid)
      refine ⟨hidx, fun t => ?_⟩
      rw [hseg, addBoundaries_segments hmid, List.flatten_cons]
      simp only [List.mem_append]
      constructor
      · rintro ((h1 | ⟨s, hs, rfl⟩) | ⟨s, hs, rfl⟩)
        · exact Or.inl h1
        · exact Or.inr ⟨s, Or.inl hs, rfl⟩
        · exact Or.inr ⟨s, Or.inr hs, rfl⟩
      · rintro (h1 | ⟨s, hs | hs, rfl⟩)
        · exact Or.inl (Or.inl h1)
        · exact Or.inl (Or.inr ⟨s, hs, rfl⟩)
        · exact Or.inr ⟨s, hs, rfl⟩

/-- **The broad phase of `visible` loses no wall.** Over exact numbers, after any run of
`addBoundaries` calls on an empty index of any padding, the line between two points is visible
exactly when both points are finite and the line meets none of the finite segments added. -/
theorem visible_iff_crosses_no_boundary (pad : ℝ) (calls : List (List (Segment ℝ)))
    {idx : Index ℝ} (h : calls.foldlM Index.addBoundaries (Index.empty pad) = .ok idx)
    (a b : Vec ℝ) :
    idx.visible a b = true ↔
      a.isNaN = false ∧ b.isNaN = false ∧
        ∀ s ∈ calls.flatten, s.a.isNaN = false → s.b.isNaN = false →
          (⟨a, b⟩ : Segment ℝ).intersects s = false := by
  obtain ⟨hr, hseg⟩ := foldlM_addBoundaries calls h (.empty pad)
  rw [visible_iff_walls hr.stored hr.pad_nonneg]
  simp only [Vec.isNaN_real, true_and, forall_const]
  constructor
  · -- an added segment is stored in its canonical direction, which meets the same lines
    intro hw s hs
    obtain ⟨w, hw', hws⟩ := List.mem_map.mp ((hseg s.canonical).mpr (Or.inr ⟨s, hs, rfl⟩))
    rw [← Segment.intersects_canonical, ← hws]
    exact hw w hw'
  · intro hs w hw
    rcases (hseg w.segment).mp (List.mem_map_of_mem hw) with hnil | ⟨s, hs', hws⟩
    · simp [Index.empty] at hnil
    · rw [hws, Segment.intersects_canonical]
      exact hs s hs'

/-- A single wall across the line of sight blocks it. -/
theorem visible_blocked_by_one_wall :
    ∃ idx : Index ℝ,
      [[(⟨⟨0, 0⟩, ⟨0, 1⟩⟩ : Segment ℝ)]].foldlM Index.addBoundaries (Index.empty 0) = .ok idx ∧
        idx.visible ⟨-1, 0.5⟩ ⟨1, 0.5⟩ = false := by
  have hadd : ∃ idx : Index ℝ,
      [[(⟨⟨0, 0⟩, ⟨0, 1⟩⟩ : Segment ℝ)]].foldlM Index.addBoundaries (Index.empty 0) = .ok idx := by
    simp [List.foldlM, Index.addBoundaries, Index.addWall, Index.empty, RTree.insert,
      RTree.Node.insert, RTree.settle, RTree.empty, Segment.canonical, RTree.maxEntries]
  obtain ⟨idx, h⟩ := hadd
  refine ⟨idx, h, ?_⟩
  have hcross : (⟨⟨-1, 0.5⟩, ⟨1, 0.5⟩⟩ : Segment ℝ).intersects ⟨⟨0, 0⟩, ⟨0, 1⟩⟩ = true := by
    rw [Segment.intersects_iff]
    left
    simp only [Segment.Apart, Segment.orient_real, tolerance_real]
    norm_num
  rw [← Bool.not_eq_true, visible_iff_crosses_no_boundary 0 _ h]
  simp [hcross]

end Real

end Index

end CrowdSim
