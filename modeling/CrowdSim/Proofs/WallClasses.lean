import Mathlib
import CrowdSim.Proofs.IndexContents
import CrowdSim.Proofs.FloatOrder

/-!
# One wall per boundary

Walls are compared as doubles: two segments are the same boundary when their ends are equal
coordinate by coordinate, `0` and `-0` alike, in the same direction or in opposite ones
(`Segment.SameBoundary`). This relation is symmetric and transitive, and reflexive on finite
segments. Putting a segment in canonical direction picks one member of each boundary up to
equality: the canonical directions of two segments of one boundary are equal as doubles
(`Segment.canonical_sameAs`), in the tie cases of equal `x` and of a segment whose ends are equal
too, because away from NaN the order of the ends is total.

Adding walls therefore keeps an invariant (`Index.HoldsBoundaries`): every wall is an added finite
segment in canonical direction, every finite added segment has a wall of its boundary, and no two
walls are of one boundary. After any run of `addBoundaries` calls that succeeds
(`Index.addBoundaries_one_wall_per_boundary`):

* the wall tree holds the walls, each under its bound grown by the padding;
* the walls are one per boundary of the finite segments added, so there are as many as in any list
  that holds one segment of each such boundary (`Index.Represents`);
* two runs that add the same boundaries, in any order, grouping or direction, store walls equal as
  doubles, as many in each.

The runs must succeed for this, and they need not: once the boxes' areas overflow, the wall after a
split of the root finds no child to go under (`Index.addBoundaries_faults_on_infinite_padding`).
-/

namespace CrowdSim

/-! ## Lists of representatives -/

section Representatives

variable {α : Type} {r : α → α → Prop}

/-- Pairwise unrelated elements, each related to one of `ys`, are no more than `ys` when the
relation is symmetric and transitive: no two of them can share a partner. -/
theorem length_le_of_pairwise_related (hsymm : ∀ {a b}, r a b → r b a)
    (htrans : ∀ {a b c}, r a b → r b c → r a c) :
    ∀ {xs ys : List α}, xs.Pairwise (fun a b => ¬ r a b) → (∀ x ∈ xs, ∃ y ∈ ys, r x y) →
      xs.length ≤ ys.length
  | [], _, _, _ => Nat.zero_le _
  | x :: xs, ys, hp, hcov => by
    classical
    obtain ⟨hx, hxs⟩ := List.pairwise_cons.mp hp
    obtain ⟨y, hy, hxy⟩ := hcov x List.mem_cons_self
    -- the others have their partners among the rest of `ys`
    have hrest : ∀ x' ∈ xs, ∃ y' ∈ ys.erase y, r x' y' := by
      intro x' hx'
      obtain ⟨y', hy', hxy'⟩ := hcov x' (List.mem_cons_of_mem x hx')
      refine ⟨y', (List.mem_erase_of_ne ?_).mpr hy', hxy'⟩
      rintro rfl
      exact hx x' hx' (htrans hxy (hsymm hxy'))
    have hle := length_le_of_pairwise_related hsymm htrans hxs hrest
    have hpos := List.length_pos_of_mem hy
    rw [List.length_erase_of_mem hy] at hle
    rw [List.length_cons]
    omega

end Representatives

/-! ## Ends compared as doubles -/

namespace Vec

theorem isNaN_eq_false_iff (v : Vec) :
    v.isNaN = false ↔ v.x.isFinite = true ∧ v.y.isFinite = true := by
  show (!(Float.isFinite v.x && Float.isFinite v.y)) = false ↔ _
  simp

theorem equal_iff {v w : Vec} : v.equal w = true ↔ (v.x == w.x) = true ∧ (v.y == w.y) = true := by
  simp [Vec.equal]

theorem equal_symm {v w : Vec} (h : v.equal w = true) : w.equal v = true := by
  rw [equal_iff] at h ⊢
  exact ⟨float_beq_symm h.1, float_beq_symm h.2⟩

theorem equal_trans {u v w : Vec} (h1 : u.equal v = true) (h2 : v.equal w = true) :
    u.equal w = true := by
  rw [equal_iff] at h1 h2 ⊢
  exact ⟨float_beq_trans h1.1 h2.1, float_beq_trans h1.2 h2.2⟩

theorem equal_self {v : Vec} (h : v.isNaN = false) : v.equal v = true := by
  rw [isNaN_eq_false_iff] at h
  rw [equal_iff]
  exact ⟨float_beq_self (float_isNaN_of_isFinite h.1), float_beq_self (float_isNaN_of_isFinite h.2)⟩

theorem isNaN_congr {v w : Vec} (h : v.equal w = true) : v.isNaN = w.isNaN := by
  rw [equal_iff] at h
  show (!(Float.isFinite v.x && Float.isFinite v.y)) = !(Float.isFinite w.x && Float.isFinite w.y)
  rw [float_isFinite_congr h.1, float_isFinite_congr h.2]

/-- `v` comes before `w`: a smaller `x`, or an equal `x` and a smaller `y`. A wall is stored with
its earlier end first. -/
def lexLt (v w : Vec) : Bool := v.x < w.x || (v.x == w.x && v.y < w.y)

theorem lexLt_congr {v v' w w' : Vec} (hv : v.equal v' = true) (hw : w.equal w' = true) :
    v.lexLt w = v'.lexLt w' := by
  rw [equal_iff] at hv hw
  have hx : (v.x == w.x) = (v'.x == w'.x) := by
    apply Bool.eq_iff_iff.mpr
    constructor
    · intro h
      exact float_beq_trans (float_beq_trans (float_beq_symm hv.1) h) hw.1
    · intro h
      exact float_beq_trans (float_beq_trans hv.1 h) (float_beq_symm hw.1)
  simp only [lexLt, hx, float_lt_congr hv.1 hw.1, float_lt_congr hv.2 hw.2]

theorem lexLt_asymm {v w : Vec} (h : v.lexLt w = true) : w.lexLt v = false := by
  simp only [lexLt, Bool.or_eq_true, Bool.and_eq_true, decide_eq_true_eq] at h
  simp only [lexLt, Bool.or_eq_false_iff, Bool.and_eq_false_iff, decide_eq_false_iff_not]
  rcases h with h | ⟨hx, hy⟩
  · refine ⟨float_lt_asymm h, .inl ?_⟩
    -- ends apart in `x` are not equal in `x`
    cases hwv : (w.x == v.x)
    · rfl
    · exact absurd h (float_not_lt_of_beq (float_beq_symm hwv))
  · exact ⟨float_not_lt_of_beq (float_beq_symm hx), .inr (float_lt_asymm hy)⟩

/-- Away from NaN, of two ends neither of which comes before the other, each equals the other. -/
theorem equal_of_not_lexLt {v w : Vec} (hv : v.isNaN = false) (hw : w.isNaN = false)
    (h1 : v.lexLt w = false) (h2 : w.lexLt v = false) : v.equal w = true := by
  rw [isNaN_eq_false_iff] at hv hw
  simp only [lexLt, Bool.or_eq_false_iff, Bool.and_eq_false_iff, decide_eq_false_iff_not] at h1 h2
  have hx : (v.x == w.x) = true := float_beq_of_not_lt (float_isNaN_of_isFinite hv.1)
    (float_isNaN_of_isFinite hw.1) h1.1 h2.1
  have hy1 : ¬ v.y < w.y := by
    rcases h1.2 with h | h
    · simp [hx] at h
    · exact h
  have hy2 : ¬ w.y < v.y := by
    rcases h2.2 with h | h
    · simp [float_beq_symm hx] at h
    · exact h
  rw [equal_iff]
  exact ⟨hx, float_beq_of_not_lt (float_isNaN_of_isFinite hv.2) (float_isNaN_of_isFinite hw.2)
    hy1 hy2⟩

end Vec

/-! ## Segments of one boundary -/

namespace Segment

/-- A segment whose four coordinates are finite. -/
def Finite (s : Segment) : Prop := s.a.isNaN = false ∧ s.b.isNaN = false

instance (s : Segment) : Decidable s.Finite := inferInstanceAs (Decidable (_ ∧ _))

/-- The segment run the other way. -/
def flip (s : Segment) : Segment := ⟨s.b, s.a⟩

@[simp] theorem flip_a (s : Segment) : s.flip.a = s.b := rfl

@[simp] theorem flip_b (s : Segment) : s.flip.b = s.a := rfl

@[simp] theorem flip_flip (s : Segment) : s.flip.flip = s := rfl

/-- Two segments are the same boundary: their ends are equal as doubles, in the same direction or
in opposite ones. -/
def SameBoundary (s t : Segment) : Prop := s.sameAs t = true ∨ s.sameAs t.flip = true

instance (s t : Segment) : Decidable (s.SameBoundary t) := inferInstanceAs (Decidable (_ ∨ _))

variable {s t u : Segment}

theorem sameAs_iff : s.sameAs t = true ↔ s.a.equal t.a = true ∧ s.b.equal t.b = true := by
  simp [sameAs]

theorem sameAs_symm (h : s.sameAs t = true) : t.sameAs s = true := by
  rw [sameAs_iff] at h ⊢
  exact ⟨Vec.equal_symm h.1, Vec.equal_symm h.2⟩

theorem sameAs_trans (h1 : s.sameAs t = true) (h2 : t.sameAs u = true) : s.sameAs u = true := by
  rw [sameAs_iff] at h1 h2 ⊢
  exact ⟨Vec.equal_trans h1.1 h2.1, Vec.equal_trans h1.2 h2.2⟩

theorem sameAs_self (h : s.Finite) : s.sameAs s = true :=
  sameAs_iff.mpr ⟨Vec.equal_self h.1, Vec.equal_self h.2⟩

theorem sameAs_flip (h : s.sameAs t = true) : s.flip.sameAs t.flip = true := by
  rw [sameAs_iff] at h ⊢
  exact ⟨h.2, h.1⟩

theorem finite_flip : s.flip.Finite ↔ s.Finite := and_comm

theorem finite_congr (h : s.sameAs t = true) : s.Finite ↔ t.Finite := by
  rw [sameAs_iff] at h
  simp only [Finite, Vec.isNaN_congr h.1, Vec.isNaN_congr h.2]

theorem SameBoundary.symm (h : s.SameBoundary t) : t.SameBoundary s := by
  rcases h with h | h
  · exact .inl (sameAs_symm h)
  · have h' := sameAs_flip (sameAs_symm h)
    rw [flip_flip] at h'
    exact .inr h'

theorem SameBoundary.trans (h1 : s.SameBoundary t) (h2 : t.SameBoundary u) : s.SameBoundary u := by
  rcases h1 with h1 | h1 <;> rcases h2 with h2 | h2
  · exact .inl (sameAs_trans h1 h2)
  · exact .inr (sameAs_trans h1 h2)
  · exact .inr (sameAs_trans h1 (sameAs_flip h2))
  · have h2' := sameAs_flip h2
    rw [flip_flip] at h2'
    exact .inl (sameAs_trans h1 h2')

theorem SameBoundary.refl (h : s.Finite) : s.SameBoundary s := .inl (sameAs_self h)

theorem SameBoundary.finite_iff (h : s.SameBoundary t) : s.Finite ↔ t.Finite := by
  rcases h with h | h
  · exact finite_congr h
  · exact (finite_congr h).trans finite_flip

theorem canonical_eq (s : Segment) :
    s.canonical = if s.b.lexLt s.a then s.flip else s := rfl

/-- A segment in canonical direction stays as it is. -/
theorem canonical_canonical (s : Segment) : s.canonical.canonical = s.canonical := by
  cases h : s.b.lexLt s.a
  · rw [canonical_eq s, if_neg (by simp [h]), canonical_eq, if_neg (by simp [h])]
  · rw [canonical_eq s, if_pos h, canonical_eq, if_neg (by simp [Vec.lexLt_asymm h])]

theorem finite_canonical : s.canonical.Finite ↔ s.Finite := by
  rw [canonical_eq]
  split
  · exact finite_flip
  · rfl

theorem sameBoundary_canonical (h : s.Finite) : s.canonical.SameBoundary s := by
  rw [canonical_eq]
  split
  · exact .inr (sameAs_self (finite_flip.mpr h))
  · exact .refl h

/-- **Canonical direction picks one member of a boundary.** A finite segment and any segment of
its boundary, in either direction, are put in canonical direction alike. -/
theorem canonical_sameAs (hs : s.Finite) (h : s.SameBoundary t) :
    s.canonical.sameAs t.canonical = true := by
  rcases h with h | h
  · -- the same direction: both take the same branch
    have hc : t.b.lexLt t.a = s.b.lexLt s.a :=
      (Vec.lexLt_congr (sameAs_iff.mp h).2 (sameAs_iff.mp h).1).symm
    rw [canonical_eq, canonical_eq, hc]
    split
    · exact sameAs_flip h
    · exact h
  · -- opposite directions: the test on `t` is the reversed test on `s`
    obtain ⟨ha, hb⟩ := sameAs_iff.mp h
    have hc : t.b.lexLt t.a = s.a.lexLt s.b := (Vec.lexLt_congr ha hb).symm
    rw [canonical_eq, canonical_eq, hc]
    cases hba : s.b.lexLt s.a <;> cases hab : s.a.lexLt s.b
    · -- neither end comes first, so they are equal and the segment is its own reverse
      have he := Vec.equal_of_not_lexLt hs.2 hs.1 hba hab
      simp only [Bool.false_eq_true, if_false]
      exact sameAs_iff.mpr ⟨Vec.equal_trans (Vec.equal_symm he) hb, Vec.equal_trans he ha⟩
    · simpa using h
    · simpa using sameAs_flip h
    · exact absurd (Vec.lexLt_asymm hba) (by simp [hab])

end Segment

/-! ## The walls of an index -/

open Segment

namespace Index

/-- What the walls of an index hold once the segments `segs` have been added to an empty one:
each wall is an added finite segment in canonical direction, each finite added segment has a wall
of its boundary, and no two walls are of one boundary. -/
structure HoldsBoundaries (idx : Index) (segs : List Segment) : Prop where
  canonical : ∀ w ∈ idx.walls, ∃ s ∈ segs, s.Finite ∧ w.segment = s.canonical
  covers : ∀ s ∈ segs, s.Finite → ∃ w ∈ idx.walls, w.segment.SameBoundary s
  distinct : idx.walls.Pairwise fun w w' => ¬ w.segment.SameBoundary w'.segment

variable {idx idx' : Index} {segs : List Segment}

theorem holdsBoundaries_empty (pad : Float) : (Index.empty pad).HoldsBoundaries [] :=
  ⟨by simp [Index.empty], by simp, by simp [Index.empty]⟩

theorem HoldsBoundaries.finite (h : idx.HoldsBoundaries segs) {w : Wall} (hw : w ∈ idx.walls) :
    w.segment.Finite := by
  obtain ⟨s, -, hs, hws⟩ := h.canonical w hw
  rw [hws]
  exact finite_canonical.mpr hs

theorem HoldsBoundaries.canonical_self (h : idx.HoldsBoundaries segs) {w : Wall}
    (hw : w ∈ idx.walls) : w.segment.canonical = w.segment := by
  obtain ⟨s, -, -, hws⟩ := h.canonical w hw
  rw [hws, canonical_canonical]

/-- A segment that leaves the walls as they are keeps the invariant, provided its boundary is
there already if it is finite. -/
theorem HoldsBoundaries.keep (h : idx.HoldsBoundaries segs) {s : Segment}
    (hs : s.Finite → ∃ w ∈ idx.walls, w.segment.SameBoundary s) :
    idx.HoldsBoundaries (segs ++ [s]) := by
  refine ⟨fun w hw => ?_, fun s' hs' hfin => ?_, h.distinct⟩
  · obtain ⟨s', hs', hfin, hws⟩ := h.canonical w hw
    exact ⟨s', List.mem_append_left _ hs', hfin, hws⟩
  · rcases List.mem_append.mp hs' with hs' | hs'
    · exact h.covers s' hs' hfin
    · rw [List.mem_singleton.mp hs'] at hfin ⊢
      exact hs hfin

/-- **Adding one wall keeps the invariant.** -/
theorem HoldsBoundaries.addWall (h : idx.HoldsBoundaries segs) {s : Segment}
    (hadd : idx.addWall s = .ok idx') : idx'.HoldsBoundaries (segs ++ [s]) := by
  unfold Index.addWall at hadd
  dsimp only at hadd
  split at hadd
  · -- a wall of the same boundary is there already
    rename_i hdup
    cases hadd
    obtain ⟨w, hw, hsame⟩ := List.any_eq_true.mp hdup
    exact h.keep fun hs => ⟨w, hw, SameBoundary.trans (.inl hsame) (sameBoundary_canonical hs)⟩
  split at hadd
  · -- the segment is not finite
    rename_i hnan
    cases hadd
    refine h.keep fun hs => absurd (finite_canonical.mpr hs) ?_
    simp only [Bool.or_eq_true] at hnan
    rintro ⟨ha, hb⟩
    rcases hnan with hn | hn
    · rw [ha] at hn
      cases hn
    · rw [hb] at hn
      cases hn
  split at hadd
  · cases hadd
  rename_i hdup hnan _ _ _
  cases hadd
  have hfin : s.canonical.Finite := by
    simp only [Bool.or_eq_true, not_or, Bool.not_eq_true] at hnan
    exact hnan
  refine ⟨fun w hw => ?_, fun s' hs' hfin' => ?_, ?_⟩
  · rcases List.mem_append.mp hw with hw | hw
    · obtain ⟨s', hs', hfin', hws⟩ := h.canonical w hw
      exact ⟨s', List.mem_append_left _ hs', hfin', hws⟩
    · rw [List.mem_singleton.mp hw]
      exact ⟨s, by simp, finite_canonical.mp hfin, rfl⟩
  · rcases List.mem_append.mp hs' with hs' | hs'
    · obtain ⟨w, hw, hws⟩ := h.covers s' hs' hfin'
      exact ⟨w, List.mem_append_left _ hw, hws⟩
    · rw [List.mem_singleton.mp hs'] at hfin' ⊢
      exact ⟨_, List.mem_append_right _ (List.mem_singleton_self _),
        sameBoundary_canonical hfin'⟩
  · refine List.pairwise_append.mpr ⟨h.distinct, List.pairwise_singleton _ _, ?_⟩
    intro w hw w' hw' hsb
    rw [List.mem_singleton.mp hw'] at hsb
    -- the new wall would be equal, as doubles, to one that is there
    have hsame := canonical_sameAs (h.finite hw) hsb
    rw [h.canonical_self hw, canonical_canonical] at hsame
    exact hdup (List.any_eq_true.mpr ⟨w, hw, hsame⟩)

theorem HoldsBoundaries.addBoundaries (h : idx.HoldsBoundaries segs) {added : List Segment}
    (hadd : idx.addBoundaries added = .ok idx') : idx'.HoldsBoundaries (segs ++ added) := by
  induction added generalizing idx segs with
  | nil =>
    cases hadd
    simpa using h
  | cons s rest ih =>
    simp only [Index.addBoundaries] at hadd
    split at hadd
    · cases hadd
    · rename_i mid hmid
      simpa using ih (h.addWall hmid) hadd

/-- **A run of `addBoundaries` calls keeps the invariant.** -/
theorem HoldsBoundaries.foldlM :
    ∀ (calls : List (List Segment)) {idx idx' : Index} {segs : List Segment},
      idx.HoldsBoundaries segs → calls.foldlM Index.addBoundaries idx = .ok idx' →
        idx'.HoldsBoundaries (segs ++ calls.flatten)
  | [], _, _, _, h, hrun => by
    cases hrun
    simpa using h
  | added :: calls, idx, idx', segs, h, hrun => by
    rw [List.foldlM_cons] at hrun
    cases hmid : idx.addBoundaries added with
    | error f =>
      rw [hmid] at hrun
      cases hrun
    | ok mid =>
      rw [hmid] at hrun
      simpa using HoldsBoundaries.foldlM calls (h.addBoundaries hmid) hrun

/-- A run of `addBoundaries` calls from an index the program builds ends in one. -/
theorem Reachable.foldlM :
    ∀ (calls : List (List Segment)) {idx idx' : Index},
      idx.Reachable → calls.foldlM Index.addBoundaries idx = .ok idx' → idx'.Reachable
  | [], _, _, h, hrun => by
    cases hrun
    exact h
  | added :: calls, idx, idx', h, hrun => by
    rw [List.foldlM_cons] at hrun
    cases hmid : idx.addBoundaries added with
    | error f =>
      rw [hmid] at hrun
      cases hrun
    | ok mid =>
      rw [hmid] at hrun
      exact Reachable.foldlM calls (.addBoundaries added h hmid) hrun

/-! ## Counting boundaries -/

/-- `reps` holds one segment of each boundary of the finite segments of `segs`, and no two of one
boundary. -/
structure Represents (reps segs : List Segment) : Prop where
  sound : ∀ r ∈ reps, ∃ s ∈ segs, s.Finite ∧ r.SameBoundary s
  complete : ∀ s ∈ segs, s.Finite → ∃ r ∈ reps, r.SameBoundary s
  distinct : reps.Pairwise fun r r' => ¬ r.SameBoundary r'

/-- Two lists that each hold one segment of every boundary are equally long. -/
theorem Represents.length_eq {reps reps' : List Segment} (h : Represents reps segs)
    (h' : Represents reps' segs) : reps.length = reps'.length := by
  have hcov : ∀ {xs ys : List Segment}, Represents xs segs → Represents ys segs →
      ∀ x ∈ xs, ∃ y ∈ ys, x.SameBoundary y := by
    intro xs ys hx hy x hxs
    obtain ⟨s, hs, hfin, hxs⟩ := hx.sound x hxs
    obtain ⟨y, hys, hys'⟩ := hy.complete s hs hfin
    exact ⟨y, hys, hxs.trans hys'.symm⟩
  exact le_antisymm
    (length_le_of_pairwise_related (r := SameBoundary) SameBoundary.symm SameBoundary.trans h.distinct (hcov h h'))
    (length_le_of_pairwise_related (r := SameBoundary) SameBoundary.symm SameBoundary.trans h'.distinct (hcov h' h))

theorem HoldsBoundaries.represents (h : idx.HoldsBoundaries segs) :
    Represents (idx.walls.map (·.segment)) segs := by
  refine ⟨fun r hr => ?_, fun s hs hfin => ?_, List.pairwise_map.mpr h.distinct⟩
  · obtain ⟨w, hw, rfl⟩ := List.mem_map.mp hr
    obtain ⟨s, hs, hfin, hws⟩ := h.canonical w hw
    rw [hws]
    exact ⟨s, hs, hfin, sameBoundary_canonical hfin⟩
  · obtain ⟨w, hw, hws⟩ := h.covers s hs hfin
    exact ⟨w.segment, List.mem_map_of_mem hw, hws⟩

/-- The finite segments of two lists are of the same boundaries. -/
def SameBoundaries (segs segs' : List Segment) : Prop :=
  (∀ s ∈ segs, s.Finite → ∃ s' ∈ segs', s.SameBoundary s') ∧
    ∀ s' ∈ segs', s'.Finite → ∃ s ∈ segs, s'.SameBoundary s

/-- A list that holds one segment of each boundary of `segs` does so for any list of the same
boundaries. -/
theorem Represents.of_sameBoundaries {reps segs' : List Segment} (h : Represents reps segs)
    (hsame : SameBoundaries segs segs') : Represents reps segs' := by
  refine ⟨fun r hr => ?_, fun s' hs' hfin => ?_, h.distinct⟩
  · obtain ⟨s, hs, hfin, hrs⟩ := h.sound r hr
    obtain ⟨s', hs', hss'⟩ := hsame.1 s hs hfin
    exact ⟨s', hs', hss'.finite_iff.mp hfin, hrs.trans hss'⟩
  · obtain ⟨s, hs, hs's⟩ := hsame.2 s' hs' hfin
    obtain ⟨r, hr, hrs⟩ := h.complete s hs (hs's.finite_iff.mp hfin)
    exact ⟨r, hr, hrs.trans hs's.symm⟩

/-- Walls of the same boundaries, both in canonical direction, are equal as doubles. -/
theorem HoldsBoundaries.sameAs_of_sameBoundaries {idx' : Index} {segs' : List Segment}
    (h : idx.HoldsBoundaries segs) (h' : idx'.HoldsBoundaries segs')
    (hsame : SameBoundaries segs segs') {w : Wall} (hw : w ∈ idx.walls) :
    ∃ w' ∈ idx'.walls, w.segment.sameAs w'.segment = true := by
  obtain ⟨s, hs, hfin, hws⟩ := h.canonical w hw
  obtain ⟨s', hs', hss'⟩ := hsame.1 s hs hfin
  obtain ⟨w', hw', hws'⟩ := h'.covers s' hs' (hss'.finite_iff.mp hfin)
  refine ⟨w', hw', ?_⟩
  have hws0 : w.segment.SameBoundary s := by
    rw [hws]
    exact sameBoundary_canonical hfin
  have hsb : w.segment.SameBoundary w'.segment := hws0.trans (hss'.trans hws'.symm)
  have hc := canonical_sameAs (h.finite hw) hsb
  rwa [h.canonical_self hw, h'.canonical_self hw'] at hc

/-- **One wall per boundary.** After any run of `addBoundaries` calls on an empty index that
succeeds, the wall tree holds the walls, each under its bound grown by the padding; each wall is
an added finite segment in canonical direction, each finite segment added has a wall of its
boundary, and no two walls are of one boundary. So the walls are counted as the boundaries are: as
many as in any list holding one segment of each. And a second run that adds the same boundaries,
in any order, grouping and direction and with any padding, stores walls equal to these as
doubles, as many of them. -/
theorem addBoundaries_one_wall_per_boundary (pad : Float) (calls : List (List Segment))
    {idx : Index} (h : calls.foldlM Index.addBoundaries (Index.empty pad) = .ok idx) :
    idx.Stored ∧ idx.HoldsBoundaries calls.flatten ∧
      (∀ reps, Represents reps calls.flatten → idx.countWalls = reps.length) ∧
      ∀ (pad' : Float) (calls' : List (List Segment)) {idx' : Index},
        calls'.foldlM Index.addBoundaries (Index.empty pad') = .ok idx' →
        SameBoundaries calls.flatten calls'.flatten →
        (∀ w ∈ idx.walls, ∃ w' ∈ idx'.walls, w.segment.sameAs w'.segment = true) ∧
          idx.countWalls = idx'.countWalls := by
  have hholds : idx.HoldsBoundaries calls.flatten := by
    simpa using HoldsBoundaries.foldlM calls (holdsBoundaries_empty pad) h
  have hcount : ∀ reps, Represents reps calls.flatten → idx.countWalls = reps.length := by
    intro reps hreps
    rw [countWalls, ← List.length_map (f := (·.segment))]
    exact hholds.represents.length_eq hreps
  refine ⟨(Reachable.foldlM calls (.empty pad) h).stored, hholds, hcount, ?_⟩
  intro pad' calls' idx' h' hsame
  have hholds' : idx'.HoldsBoundaries calls'.flatten := by
    simpa using HoldsBoundaries.foldlM calls' (holdsBoundaries_empty pad') h'
  refine ⟨fun w hw => hholds.sameAs_of_sameBoundaries hholds' hsame hw, ?_⟩
  rw [hcount _ (hholds'.represents.of_sameBoundaries ⟨hsame.2, hsame.1⟩), List.length_map]
  rfl

/-- A segment added, then added again the other way with its zero end negated, is one wall. -/
theorem one_wall_for_a_segment_and_its_reverse :
    ∃ idx : Index,
      [[(⟨⟨0.0, 0.0⟩, ⟨1.0, 1.0⟩⟩ : Segment)], [⟨⟨1.0, 1.0⟩, ⟨-0.0, 0.0⟩⟩]].foldlM
          Index.addBoundaries (Index.empty 0.0) = .ok idx ∧ idx.countWalls = 1 := by
  have hok : ([[(⟨⟨0.0, 0.0⟩, ⟨1.0, 1.0⟩⟩ : Segment)], [⟨⟨1.0, 1.0⟩, ⟨-0.0, 0.0⟩⟩]].foldlM
      Index.addBoundaries (Index.empty 0.0)).toBool = true := by
    decide +kernel
  cases hrun : [[(⟨⟨0.0, 0.0⟩, ⟨1.0, 1.0⟩⟩ : Segment)], [⟨⟨1.0, 1.0⟩, ⟨-0.0, 0.0⟩⟩]].foldlM
      Index.addBoundaries (Index.empty 0.0) with
  | error f =>
    rw [hrun] at hok
    cases hok
  | ok idx =>
    refine ⟨idx, rfl, (addBoundaries_one_wall_per_boundary 0.0 _ hrun).2.2.1
      [⟨⟨0.0, 0.0⟩, ⟨1.0, 1.0⟩⟩] ⟨?_, ?_, ?_⟩⟩ <;> decide +kernel

/-- Walls side by side along the `x` axis, each a unit diagonal. -/
def diagonals (n : Nat) : List Segment :=
  (List.range n).map fun i => ⟨⟨Float.ofNat (2 * i), 0.0⟩, ⟨Float.ofNat (2 * i + 1), 1.0⟩⟩

/-- **Overflowing boxes make an addition fail.** With an infinite padding every box has an
infinite area. Seventeen walls go in, the last of them splitting the root; then no child's growth
is below the largest finite double, and the eighteenth wall finds no child to go under. -/
theorem addBoundaries_faults_on_infinite_padding :
    ([diagonals 17].foldlM Index.addBoundaries (Index.empty (1.0 / 0.0))).toBool = true ∧
      ([diagonals 18].foldlM Index.addBoundaries (Index.empty (1.0 / 0.0))).toBool = false := by
  decide +kernel

end Index

end CrowdSim
