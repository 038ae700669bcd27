import Mathlib
import CrowdSim.Proofs.IndexContents

/-!
# What a rebuilt snapshot answers

`Index.rebuild` replaces the pedestrian snapshot with the given agents, loaded into a fresh
tree; the walls are left as they are. Over exact numbers, where every position is finite, the
snapshot then answers as follows, whatever index it was rebuilt from:

* a query for a box returns, up to order, the agents strictly inside the box grown by
  `2 · tolerance` on every side (`Index.queryAgents_rebuild_perm`), provided each side of the
  box, grown by `tolerance` at both ends, keeps a positive length (`Box.Spans`);
* the lookup of an id returns the last agent of the list with that id (`Index.agent?_rebuild`);
* the count is the number of distinct ids (`Index.countAgents_rebuild`).

The proviso on the box is needed. A box inverted by more than `2 · tolerance` on an axis cannot
become a search rectangle: its construction stops at the first side that is not positive and
leaves the far corner at zero on that axis and the next (`Rect.ofBox`). The search then looks
at the rectangle from the box's low corner to the origin, and finds agents near the origin that
no grown box holds (`Index.inverted_box_query_finds_agent_outside`).
-/

namespace CrowdSim

/-- Each side of the box, grown by `tolerance` at both ends, has a positive length: the box is
not inverted by `2 · tolerance` or more on either axis. -/
def Box.Spans (b : Box ℝ) : Prop :=
  0 < (b.max.x + tolerance) - (b.min.x - tolerance) ∧
    0 < (b.max.y + tolerance) - (b.min.y - tolerance)

/-- The point lies strictly inside the box grown by `d` on every side. -/
def Box.StrictlyInside (b : Box ℝ) (d : ℝ) (p : Vec ℝ) : Prop :=
  b.min.x - d < p.x ∧ p.x < b.max.x + d ∧ b.min.y - d < p.y ∧ p.y < b.max.y + d

noncomputable instance (b : Box ℝ) (d : ℝ) (p : Vec ℝ) : Decidable (b.StrictlyInside d p) := by
  unfold Box.StrictlyInside
  infer_instance

namespace Rect

/-- A box whose grown sides are positive becomes the rectangle grown by `tolerance` on every
side; unlike `Rect.ofBox_eq`, the box may be inverted by less than `2 · tolerance`. -/
theorem ofBox_of_spans {b : Box ℝ} (h : b.Spans) :
    Rect.ofBox b = ⟨⟨b.min.x - tolerance, b.min.y - tolerance⟩,
      ⟨b.max.x + tolerance, b.max.y + tolerance⟩⟩ := by
  obtain ⟨hx, hy⟩ := h
  have hwx : ¬ b.max.x - b.min.x + 2.0 * tolerance ≤ (0.0 : ℝ) := by norm_num; linarith
  have hwy : ¬ b.max.y - b.min.y + 2.0 * tolerance ≤ (0.0 : ℝ) := by norm_num; linarith
  simp only [Rect.ofBox, hwx, hwy, if_false]
  congr 2 <;> norm_num <;> ring

/-- **A point's rectangle meets a spanning box's exactly when the point lies strictly inside the
box grown by twice the tolerance.** -/
theorem meets_point_iff {b : Box ℝ} (hb : b.Spans) (p : Vec ℝ) :
    (Rect.ofBox (Box.point p)).meets (Rect.ofBox b) = true ↔ b.StrictlyInside (2 * tolerance) p := by
  rw [ofBox_eq (Box.ordered_point p), ofBox_of_spans hb, meets_iff]
  simp only [Box.point, Box.StrictlyInside]
  constructor <;> rintro ⟨h1, h2, h3, h4⟩ <;> refine ⟨?_, ?_, ?_, ?_⟩ <;> linarith

/-- A box inverted by `2 · tolerance` or more along `x` gives no rectangle of its own: the
construction stops at that side and leaves the far corner at the origin. -/
theorem ofBox_of_inverted_x {b : Box ℝ} (h : b.max.x - b.min.x + 2 * tolerance ≤ 0) :
    Rect.ofBox b = ⟨⟨b.min.x - tolerance, b.min.y - tolerance⟩, ⟨0, 0⟩⟩ := by
  have hwx : b.max.x - b.min.x + 2.0 * tolerance ≤ (0.0 : ℝ) := by norm_num; linarith
  simp only [Rect.ofBox, hwx, if_true]
  norm_num

end Rect

namespace Index

/-- Removing repeats leaves no repeats. -/
theorem eraseDups_nodup {α : Type} [DecidableEq α] : (l : List α) → l.eraseDups.Nodup
  | [] => by simp
  | a :: l => by
    rw [List.eraseDups_cons, List.nodup_cons]
    refine ⟨?_, eraseDups_nodup (l.filter fun b => !b == a)⟩
    rw [List.mem_eraseDups, List.mem_filter]
    rintro ⟨-, hne⟩
    simp at hne
  termination_by l => l.length
  decreasing_by exact Nat.lt_succ_of_le (List.length_filter_le _ _)

/-- Removing repeats keeps one copy of each element, so it leaves as many elements as there are
distinct ones. -/
theorem length_eraseDups {α : Type} [DecidableEq α] (l : List α) :
    l.eraseDups.length = l.toFinset.card := by
  have hset : l.eraseDups.toFinset = l.toFinset := by
    ext x
    simp [List.mem_eraseDups]
  rw [← hset, List.toFinset_card_of_nodup (eraseDups_nodup l)]

/-- Over exact numbers every agent of a new snapshot is located. -/
@[simp] theorem located_rebuild_real (idx : Index ℝ) (agents : List (Agent ℝ)) :
    (idx.rebuild agents).located = agents := by
  simp

/-- A query of a rebuilt snapshot for a spanning box returns, up to order, the agents strictly
inside the box grown by twice the tolerance. -/
theorem queryAgents_rebuild_perm (idx : Index ℝ) (agents : List (Agent ℝ)) {b : Box ℝ}
    (hb : b.Spans) :
    ((idx.rebuild agents).queryAgents b).Perm
      (agents.filter fun a => decide (b.StrictlyInside (2 * tolerance) a.position)) := by
  unfold queryAgents
  refine ((RTree.holds_load _).search_perm _).trans ?_
  -- the fresh tree holds the agents of the new snapshot, all located
  simp only [List.filter_map, List.map_map, located, Vec.isNaN_real, Bool.not_false,
    List.filter_true, Function.comp_def, List.map_id']
  refine List.Perm.of_eq (List.filter_congr fun a _ => ?_)
  rw [Bool.eq_iff_iff, Rect.meets_point_iff hb, decide_eq_true_iff]

/-- The lookup of an id in a rebuilt snapshot finds the last agent of the list with that id. -/
theorem agent?_rebuild (idx : Index ℝ) (agents : List (Agent ℝ)) (id : Int) :
    (idx.rebuild agents).agent? id = (agents.filter fun a => a.id == id).getLast? := by
  rw [agent?, located_rebuild_real, ← List.head?_filter, List.filter_reverse, List.head?_reverse]

/-- A rebuilt snapshot counts the distinct ids of its agents. -/
theorem countAgents_rebuild (idx : Index ℝ) (agents : List (Agent ℝ)) :
    (idx.rebuild agents).countAgents = (agents.map (·.id)).toFinset.card := by
  rw [countAgents, located_rebuild_real, length_eraseDups]

/-- **A rebuilt snapshot answers for exactly the agents it was given.** Over exact numbers, after
`rebuild agents` on any index: a query for any box whose sides, grown by `tolerance` at both
ends, stay positive returns, as a multiset, the agents strictly inside the box grown by
`2 · tolerance`; the lookup of an id returns the last agent with that id; the count is the
number of distinct ids; and the walls, their tree and the padding are those of the index before.
The snapshot is a value of its own, so nothing done later to the list it was built from reaches
it. -/
theorem rebuild_answers_for_its_agents (idx : Index ℝ) (agents : List (Agent ℝ)) :
    (∀ b : Box ℝ, b.Spans → ((idx.rebuild agents).queryAgents b).Perm
        (agents.filter fun a => decide (b.StrictlyInside (2 * tolerance) a.position))) ∧
      (∀ id, (idx.rebuild agents).agent? id = (agents.filter fun a => a.id == id).getLast?) ∧
      (idx.rebuild agents).countAgents = (agents.map (·.id)).toFinset.card ∧
      (idx.rebuild agents).walls = idx.walls ∧ (idx.rebuild agents).wallTree = idx.wallTree ∧
      (idx.rebuild agents).pad = idx.pad :=
  ⟨fun _ hb => queryAgents_rebuild_perm idx agents hb, agent?_rebuild idx agents,
    countAgents_rebuild idx agents, rfl, rfl, rfl⟩

/-- Two agents, one of them inside the unit box and one far outside: the query of the unit box
returns the first. -/
theorem rebuild_answers_for_two_agents :
    (⟨⟨0, 0⟩, ⟨1, 1⟩⟩ : Box ℝ).Spans ∧
      (((Index.empty (0 : ℝ)).rebuild [⟨1, 0, ⟨0.5, 0.5⟩, ⟨0, 0⟩⟩, ⟨2, 0, ⟨5, 5⟩, ⟨0, 0⟩⟩]).queryAgents
          ⟨⟨0, 0⟩, ⟨1, 1⟩⟩).Perm
        ([⟨1, 0, ⟨0.5, 0.5⟩, ⟨0, 0⟩⟩, ⟨2, 0, ⟨5, 5⟩, ⟨0, 0⟩⟩].filter fun a : Agent ℝ =>
          decide ((⟨⟨0, 0⟩, ⟨1, 1⟩⟩ : Box ℝ).StrictlyInside (2 * tolerance) a.position)) := by
  have hb : (⟨⟨0, 0⟩, ⟨1, 1⟩⟩ : Box ℝ).Spans := by
    have ht := tolerance_pos
    constructor <;> dsimp only <;> linarith
  exact ⟨hb, (rebuild_answers_for_its_agents _ _).1 _ hb⟩

/-- **A box inverted by a whole unit finds an agent outside it.** The box from `(0, 0)` to
`(-1, -1)` becomes the search rectangle from `(-tolerance, -tolerance)` to the origin, which meets
the rectangle of an agent standing at the origin; yet the origin is not inside that box grown by
`2 · tolerance`. -/
theorem inverted_box_query_finds_agent_outside :
    (⟨1, 0, ⟨0, 0⟩, ⟨0, 0⟩⟩ : Agent ℝ) ∈
        ((Index.empty (0 : ℝ)).rebuild [⟨1, 0, ⟨0, 0⟩, ⟨0, 0⟩⟩]).queryAgents ⟨⟨0, 0⟩, ⟨-1, -1⟩⟩ ∧
      ¬ (⟨⟨0, 0⟩, ⟨-1, -1⟩⟩ : Box ℝ).StrictlyInside (2 * tolerance) ⟨0, 0⟩ := by
  have ht := tolerance_pos
  have ht1 : (tolerance : ℝ) < 1 / 4 := by rw [tolerance_real]; norm_num
  constructor
  · simp only [queryAgents, rebuild]
    rw [(RTree.holds_load _).mem_search]
    refine ⟨Rect.ofBox (Box.point ⟨0, 0⟩), by simp [located], ?_⟩
    rw [Rect.ofBox_eq (Box.ordered_point _), Rect.ofBox_of_inverted_x (by dsimp only; linarith),
      Rect.meets_iff]
    simp only [Box.point]
    refine ⟨?_, ?_, ?_, ?_⟩ <;> linarith
  · rintro ⟨-, hx, -, -⟩
    dsimp only at hx
    linarith

end Index

end CrowdSim
