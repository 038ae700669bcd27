import Mathlib
import CrowdSim.Proofs.IndexContents
import CrowdSim.Force.Model

/-!
# The interaction forces are sums over everything in range

The pedestrian and boundary forces are folds over what a query of the index returns, each step
adding one neighbour's or one wall's push or skipping it. Over exact numbers both are plain sums
over everything within the cutoff, whatever the shape of the trees:

* the pedestrian force sums the push of every located agent other than the subject within
  `maxPedestrian` of it (`ForceModel.pedestrianTerm_eq_sum`): the query box reaches `maxPedestrian`
  on every axis, so it takes in every such agent;
* the boundary force sums the push of every wall whose nearest point lies within `maxBoundary`
  (`ForceModel.boundaryTerm_eq_sum`), as long as the index grows its walls' boxes by at least
  `maxBoundary`: the query is only the subject's position, which such a wall's grown box takes in.
  A model whose cutoff reaches past the padding can miss walls.

Both hold for every index the program builds (`Index.Reachable`), so for the index of every tick.
The sums are order-free because addition of exact vectors commutes; the folds add in query order.
-/

namespace CrowdSim

namespace ForceModel

/-- A fold whose every step adds the term of the element or skips it adds up the terms of the
elements it keeps. -/
theorem foldl_eq_sum {α : Type} (g : Vec ℝ → α → Vec ℝ) (keep : α → Bool) (term : α → Vec ℝ)
    (hg : ∀ f a, g f a = if keep a then f + term a else f) :
    ∀ (l : List α) (f : Vec ℝ), l.foldl g f = f + ((l.filter keep).map term).sum
  | [], f => by simp
  | a :: l, f => by
    rw [List.foldl_cons, foldl_eq_sum g keep term hg l, hg, List.filter_cons]
    cases keep a <;> simp [add_assoc]

/-- One step of the pedestrian force: the push of an agent other than the subject and within the
cutoff, added to the sum so far. -/
theorem pedestrianStep_real (m : ForceModel ℝ) (s : Subject ℝ) (e f : Vec ℝ) (a : Agent ℝ) :
    m.pedestrianStep s e f a =
      if (a.id != s.id && decide (s.position.dist a.position ≤ m.maxPedestrian))
      then f + m.pedestrianStep s e 0 a else f := by
  unfold pedestrianStep
  by_cases hid : a.id = s.id
  · simp [hid]
  by_cases hd : s.position.dist a.position ≤ m.maxPedestrian
  · -- the push does not depend on the sum it is added to
    have hbeq : (a.id == s.id) = false := by simpa using hid
    have hnear : ¬ (s.position - a.position).length > m.maxPedestrian := by simpa using hd
    have hkeep : (a.id != s.id && decide (s.position.dist a.position ≤ m.maxPedestrian)) = true := by
      simpa using ⟨hid, hd⟩
    rw [if_pos hkeep]
    simp only [hbeq, hnear, Bool.false_eq_true, if_false]
    split <;> split <;> simp [add_assoc]
  · simp [hid, hd]

/-- One step of the boundary force: the push of a wall whose nearest point is within the cutoff,
added to the sum so far. -/
theorem boundaryStep_real (m : ForceModel ℝ) (s : Subject ℝ) (f : Vec ℝ) (w : Wall ℝ) :
    m.boundaryStep s f w =
      if decide (s.position.dist (w.segment.closest s.position) ≤ m.maxBoundary)
      then f + m.boundaryStep s 0 w else f := by
  unfold boundaryStep
  by_cases hd : s.position.dist (w.segment.closest s.position) ≤ m.maxBoundary
  · have hnear : ¬ (s.position - w.segment.closest s.position).length > m.maxBoundary := by
      simpa using hd
    simp only [hd, hnear, decide_true, if_true, if_false]
    split <;> simp
  · simp [hd]

/-- **The pedestrian force sums the pushes of every agent in range.** Over exact numbers, for
every index the program builds, it is the sum of the push of each located agent with another id
within `maxPedestrian` of the subject. -/
theorem pedestrianTerm_eq_sum (m : ForceModel ℝ) (s : Subject ℝ) {idx : Index ℝ}
    (hidx : idx.Reachable) :
    m.pedestrianTerm s (some idx) =
      ((idx.located.filter fun a =>
          a.id != s.id && decide (s.position.dist a.position ≤ m.maxPedestrian)).map
        (m.pedestrianStep s (heading s) 0)).sum := by
  unfold pedestrianTerm
  dsimp only
  rw [foldl_eq_sum _ _ _ (pedestrianStep_real m s (heading s)), Vec.zero_eq, zero_add]
  refine List.Perm.sum_eq (List.Perm.map _ ?_)
  refine ((hidx.stored.queryAgents_perm _).filter _).trans ?_
  rw [List.filter_filter]
  -- an agent in range lies in the query box
  refine List.Perm.of_eq (List.filter_congr fun a _ => ?_)
  cases hkeep : (a.id != s.id && decide (s.position.dist a.position ≤ m.maxPedestrian))
  · simp
  · simp only [Bool.and_eq_true, decide_eq_true_eq] at hkeep
    rw [Rect.meets_comm, Rect.meets_pad_of_dist_le (Box.ordered_point s.position)
      (Box.contains_point s.position) (by rw [Vec.dist_comm]; exact hkeep.2)]
    rfl

/-- **The boundary force sums the pushes of every wall in range**, for every index the program
builds whose padding is at least the boundary cutoff. -/
theorem boundaryTerm_eq_sum (m : ForceModel ℝ) (s : Subject ℝ) {idx : Index ℝ}
    (hidx : idx.Reachable) (hpad : m.maxBoundary ≤ idx.pad) :
    m.boundaryTerm s (some idx) =
      ((idx.walls.filter fun w =>
          decide (s.position.dist (w.segment.closest s.position) ≤ m.maxBoundary)).map
        (m.boundaryStep s 0)).sum := by
  unfold boundaryTerm
  dsimp only
  rw [foldl_eq_sum _ _ _ (boundaryStep_real m s), Vec.zero_eq, zero_add]
  refine List.Perm.sum_eq (List.Perm.map _ ?_)
  have hs := hidx.stored
  refine ((hs.queryWalls_perm _).filter _).trans ?_
  rw [List.filter_filter]
  -- a wall in range has the position inside its grown box
  refine List.Perm.of_eq (List.filter_congr fun w hw => ?_)
  cases hkeep : decide (s.position.dist (w.segment.closest s.position) ≤ m.maxBoundary)
  · simp
  · simp only [decide_eq_true_eq] at hkeep
    rw [hs.boxes w hw, Rect.meets_pad_of_dist_le w.segment.bound_ordered
      (w.segment.closest_mem_bound s.position) (hkeep.trans hpad)]
    rfl

/-- **Both interaction forces are sums over everything in range.** Over exact numbers, for every
index the program builds whose padding is at least the boundary cutoff (as in every tick of a
simulation whose model's cutoff does not exceed the padding its index was created with), the
pedestrian force is the sum of the pushes of the located agents with another id within
`maxPedestrian`, and the boundary force the sum of the pushes of the walls whose nearest point is
within `maxBoundary`. -/
theorem interactions_sum_in_range (m : ForceModel ℝ) (s : Subject ℝ) {idx : Index ℝ}
    (hidx : idx.Reachable) (hpad : m.maxBoundary ≤ idx.pad) :
    m.pedestrianTerm s (some idx) =
        ((idx.located.filter fun a =>
            a.id != s.id && decide (s.position.dist a.position ≤ m.maxPedestrian)).map
          (m.pedestrianStep s (heading s) 0)).sum ∧
      m.boundaryTerm s (some idx) =
        ((idx.walls.filter fun w =>
            decide (s.position.dist (w.segment.closest s.position) ≤ m.maxBoundary)).map
          (m.boundaryStep s 0)).sum :=
  ⟨pedestrianTerm_eq_sum m s hidx, boundaryTerm_eq_sum m s hidx hpad⟩

/-- An index padded by one holding two agents a metre either side of the origin, and a wall a
metre long at height one. -/
noncomputable def twoAgentsAndWall : Index ℝ :=
  match ((Index.empty 1).rebuild [⟨2, 0, ⟨1, 0⟩, 0⟩, ⟨3, 0, ⟨-1, 0⟩, 0⟩]).addBoundaries
      [⟨⟨0, 1⟩, ⟨1, 1⟩⟩] with
  | .ok idx => idx
  | .error _ => Index.empty 1

/-- The index of two agents and a wall, built by the program's own calls, serves a model whose
boundary cutoff is its padding of one: a subject at the origin sums the pushes of the agents and
the wall in range. -/
theorem interactions_sum_in_range_beside_wall :
    twoAgentsAndWall.Reachable ∧
      (⟨default, 2, 1⟩ : ForceModel ℝ).maxBoundary ≤ twoAgentsAndWall.pad ∧
      ((⟨default, 2, 1⟩ : ForceModel ℝ).pedestrianTerm default (some twoAgentsAndWall) =
          ((twoAgentsAndWall.located.filter fun a =>
              a.id != (default : Subject ℝ).id &&
                decide ((default : Subject ℝ).position.dist a.position ≤ 2)).map
            ((⟨default, 2, 1⟩ : ForceModel ℝ).pedestrianStep default (heading default) 0)).sum ∧
        (⟨default, 2, 1⟩ : ForceModel ℝ).boundaryTerm default (some twoAgentsAndWall) =
          ((twoAgentsAndWall.walls.filter fun w =>
              decide ((default : Subject ℝ).position.dist
                (w.segment.closest (default : Subject ℝ).position) ≤ 1)).map
            ((⟨default, 2, 1⟩ : ForceModel ℝ).boundaryStep default 0)).sum) := by
  -- the index is the empty one, rebuilt with the two agents, then given the wall
  have hadd : ((Index.empty (1 : ℝ)).rebuild [⟨2, 0, ⟨1, 0⟩, 0⟩, ⟨3, 0, ⟨-1, 0⟩, 0⟩]).addBoundaries
      [⟨⟨0, 1⟩, ⟨1, 1⟩⟩] = .ok twoAgentsAndWall := rfl
  have hidx : twoAgentsAndWall.Reachable := .addBoundaries _ (.rebuild _ (.empty 1)) hadd
  have hpad : (⟨default, 2, 1⟩ : ForceModel ℝ).maxBoundary ≤ twoAgentsAndWall.pad := by
    rw [Index.addBoundaries_pad hadd]
    simp
  exact ⟨hidx, hpad, interactions_sum_in_range _ default hidx hpad⟩

end ForceModel

end CrowdSim
