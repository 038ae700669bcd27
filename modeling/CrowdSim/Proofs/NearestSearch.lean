import Mathlib
import CrowdSim.Proofs.IndexContents
import CrowdSim.Space.Nearest

/-!
# The nearest pedestrian, over exact numbers

`Index.nearest` searches squares around a point, doubling the half-side from the starting
radius, and stops when the nearest hit lies within the half-side (then nothing outside the square
can be nearer) or when the square holds as many hits as the index counts pedestrians. Over exact
numbers, and when the located agents have distinct ids, the count test means the square holds
every located agent, so both stops are sound: the agent found is a located agent other than
`self` at the least distance (`Index.nearest_is_nearest`).

The search tries 32 squares, the last of half-side `2 ^ 31` times the starting radius
(`Index.searchReach`). It finds an agent exactly when there is one other than `self` and either
such an agent lies within that reach or every located agent lies in that last square
(`Index.nearest_isSome_iff`). An agent farther than the reach is not found when others lie
outside the last square too (`Index.nearest_misses_far_agent`).

With repeated ids the count test can stop early: two located copies of `self` fill a square that
holds only them, and the search gives up although another pedestrian stands further out.
-/

namespace CrowdSim

namespace Index

/-! ## One round -/

/-- The agent's rectangle meets the square of half-side `R` around `pos`: it lies within
`R + 2 · tolerance` on both axes. -/
def InSquare (pos : Vec ℝ) (R : ℝ) (a : Agent ℝ) : Prop :=
  |a.position.x - pos.x| < R + 2 * tolerance ∧ |a.position.y - pos.y| < R + 2 * tolerance

/-- `best` is what the scan of `seen` has found: nothing when every agent of `seen` is `self`,
otherwise an agent of `seen` other than `self` with its distance, no farther than any other. -/
def BestOf (pos : Vec ℝ) (self : Int) (seen : List (Agent ℝ)) : Option (Agent ℝ × ℝ) → Prop
  | none => ∀ b ∈ seen, b.id = self
  | some (a, d) => a ∈ seen ∧ a.id ≠ self ∧ d = pos.dist a.position ∧
      ∀ b ∈ seen, b.id ≠ self → d ≤ pos.dist b.position

theorem inSquare_of_dist_le {pos : Vec ℝ} {R : ℝ} {a : Agent ℝ} (h : pos.dist a.position ≤ R) :
    InSquare pos R a := by
  have ht := tolerance_pos
  have hx := Vec.abs_sub_x_le_dist a.position pos
  have hy := Vec.abs_sub_y_le_dist a.position pos
  rw [Vec.dist_comm] at h
  exact ⟨by linarith, by linarith⟩

theorem InSquare.mono {pos : Vec ℝ} {R R' : ℝ} {a : Agent ℝ} (h : InSquare pos R a) (hR : R ≤ R') :
    InSquare pos R' a :=
  ⟨h.1.trans_le (by linarith), h.2.trans_le (by linarith)⟩

theorem meets_square_iff {pos : Vec ℝ} {R : ℝ} (hR : 0 ≤ R) (a : Agent ℝ) :
    (Rect.ofBox (Box.point a.position)).meets (Rect.ofBox ((Box.point pos).pad R)) = true ↔
      InSquare pos R a := by
  rw [Rect.meets_ofBox_iff (Box.ordered_point _) ((Box.ordered_point pos).pad hR), InSquare,
    abs_lt, abs_lt]
  simp only [Box.point, Box.pad]
  constructor
  · rintro ⟨h1, h2, h3, h4⟩
    exact ⟨⟨by linarith, by linarith⟩, by linarith, by linarith⟩
  · rintro ⟨⟨h1, h2⟩, h3, h4⟩
    exact ⟨by linarith, by linarith, by linarith, by linarith⟩

/-- A fold keeps a property of the prefix read so far when every step does. -/
theorem foldl_prefix {α β : Type} (f : β → α → β) (I : List α → β → Prop)
    (hf : ∀ pre b x, I pre b → I (pre ++ [x]) (f b x)) :
    ∀ (l pre : List α) (b : β), I pre b → I (pre ++ l) (l.foldl f b)
  | [], pre, _, hb => by simpa using hb
  | x :: l, pre, b, hb => by
    simpa using foldl_prefix f I hf l (pre ++ [x]) (f b x) (hf pre b x hb)

/-- One step of the scan keeps the best of what it has seen. -/
theorem bestOf_step (pos : Vec ℝ) (self : Int) (pre : List (Agent ℝ))
    (best : Option (Agent ℝ × ℝ)) (x : Agent ℝ) (h : BestOf pos self pre best) :
    BestOf pos self (pre ++ [x]) (closestHit.step pos self best x) := by
  unfold closestHit.step
  by_cases hx : x.id = self
  · -- `self` is skipped
    simp only [hx, beq_self_eq_true, if_true]
    cases best with
    | none => exact List.forall_mem_append.mpr ⟨h, List.forall_mem_singleton.mpr hx⟩
    | some p =>
      obtain ⟨a, d⟩ := p
      obtain ⟨ha, hid, hd, hmin⟩ := h
      exact ⟨List.mem_append_left _ ha, hid, hd,
        List.forall_mem_append.mpr ⟨hmin, List.forall_mem_singleton.mpr fun hx' => absurd hx hx'⟩⟩
  have hbeq : (x.id == self) = false := by simpa using hx
  simp only [hbeq, Bool.false_eq_true, if_false]
  cases best with
  | none =>
    -- the first agent other than `self` is the best so far
    simp only [Scalar.belowInfinity_real, if_true]
    exact ⟨by simp, hx, rfl, List.forall_mem_append.mpr
      ⟨fun b hb hb' => absurd (h b hb) hb', List.forall_mem_singleton.mpr fun _ => le_rfl⟩⟩
  | some p =>
    obtain ⟨a, d⟩ := p
    obtain ⟨ha, hid, hd, hmin⟩ := h
    dsimp only
    split
    · -- strictly nearer: `x` takes over
      rename_i hlt
      simp only [decide_eq_true_eq] at hlt
      exact ⟨by simp, hx, rfl, List.forall_mem_append.mpr
        ⟨fun b hb hb' => hlt.le.trans (hmin b hb hb'), List.forall_mem_singleton.mpr fun _ => le_rfl⟩⟩
    · rename_i hnlt
      simp only [decide_eq_true_eq, not_lt] at hnlt
      exact ⟨List.mem_append_left _ ha, hid, hd,
        List.forall_mem_append.mpr ⟨hmin, List.forall_mem_singleton.mpr fun _ => hnlt⟩⟩

/-- **The scan finds the nearest hit other than `self`**, or nothing when there is none. -/
theorem bestOf_closestHit (pos : Vec ℝ) (self : Int) (hits : List (Agent ℝ)) :
    BestOf pos self hits (closestHit pos self hits) := by
  unfold closestHit
  simpa using foldl_prefix (closestHit.step pos self) (BestOf pos self) (bestOf_step pos self)
    hits [] none (fun b hb => absurd hb List.not_mem_nil)

/-- A round of the search at half-side `R` sees exactly the located agents in its square, and
counts all of them exactly when the square holds every located agent. -/
theorem round_hits {idx : Index ℝ} (hs : idx.Stored) (pos : Vec ℝ) {R : ℝ} (hR : 0 ≤ R) :
    (∀ b, b ∈ idx.queryAgents ((Box.point pos).pad R) ↔ b ∈ idx.located ∧ InSquare pos R b) ∧
      (idx.located.length ≤ (idx.queryAgents ((Box.point pos).pad R)).length ↔
        ∀ b ∈ idx.located, InSquare pos R b) := by
  have hp := hs.queryAgents_perm ((Box.point pos).pad R)
  refine ⟨fun b => ?_, ?_⟩
  · rw [hp.mem_iff, List.mem_filter, meets_square_iff hR]
  · rw [hp.length_eq]
    constructor
    · intro hle
      have heq := le_antisymm (List.length_filter_le _ _) hle
      intro b hb
      exact (meets_square_iff hR b).mp (List.length_filter_eq_length_iff.mp heq b hb)
    · intro hall
      rw [List.length_filter_eq_length_iff.mpr fun b hb => (meets_square_iff hR b).mpr (hall b hb)]

/-! ## The whole search -/

section Search

variable {idx : Index ℝ} (hs : idx.Stored) (pos : Vec ℝ) (self : Int)
include hs

/-- Whatever the count it is given, the search only ever returns a located agent other than
`self`. -/
theorem nearestWithin_candidate (total : Nat) :
    ∀ (fuel : Nat) (R : ℝ) (a : Agent ℝ), 0 ≤ R →
      idx.nearestWithin pos self total fuel R = some a → a ∈ idx.located ∧ a.id ≠ self
  | 0, _, _, _, h => by cases h
  | fuel + 1, R, a, hR, h => by
    have hround := round_hits hs pos hR
    have hbest := bestOf_closestHit pos self (idx.queryAgents ((Box.point pos).pad R))
    unfold nearestWithin at h
    dsimp only at h
    have hR2 : 0 ≤ R * 2.0 := by norm_num; linarith
    cases hb : closestHit pos self (idx.queryAgents ((Box.point pos).pad R)) with
    | some p =>
      obtain ⟨b, d⟩ := p
      rw [hb] at hbest h
      obtain ⟨hmem, hid, -, -⟩ := hbest
      dsimp only at h
      split at h
      · cases h
        exact ⟨((hround.1 _).mp hmem).1, hid⟩
      split at h
      · cases h
        exact ⟨((hround.1 _).mp hmem).1, hid⟩
      · exact nearestWithin_candidate total fuel _ a hR2 h
    | none =>
      rw [hb] at h
      dsimp only at h
      split at h
      · cases h
      · exact nearestWithin_candidate total fuel _ a hR2 h

/-- Given the number of located agents as its count, the search returns an agent other than
`self` at the least distance. -/
theorem nearestWithin_nearest :
    ∀ (fuel : Nat) (R : ℝ) (a : Agent ℝ), 0 ≤ R →
      idx.nearestWithin pos self idx.located.length fuel R = some a →
        ∀ b ∈ idx.located, b.id ≠ self → pos.dist a.position ≤ pos.dist b.position
  | 0, _, _, _, h => by cases h
  | fuel + 1, R, a, hR, h => by
    have hround := round_hits hs pos hR
    have hbest := bestOf_closestHit pos self (idx.queryAgents ((Box.point pos).pad R))
    unfold nearestWithin at h
    dsimp only at h
    have hR2 : 0 ≤ R * 2.0 := by norm_num; linarith
    cases hb : closestHit pos self (idx.queryAgents ((Box.point pos).pad R)) with
    | some p =>
      obtain ⟨a', d⟩ := p
      rw [hb] at hbest h
      obtain ⟨-, -, hd, hmin⟩ := hbest
      dsimp only at h
      split at h
      · -- inside the inscribed circle: an agent nearer than `a'` would be in the square
        rename_i hdR
        cases h
        intro b hb hid
        by_contra hlt
        rw [not_le, ← hd] at hlt
        have hin : b ∈ idx.queryAgents ((Box.point pos).pad R) :=
          (hround.1 b).mpr ⟨hb, inSquare_of_dist_le (hlt.le.trans hdR)⟩
        exact absurd (hmin b hin hid) (not_le.mpr hlt)
      split at h
      · -- the square holds every located agent
        rename_i hcount
        cases h
        intro b hb hid
        rw [← hd]
        exact hmin b ((hround.1 b).mpr ⟨hb, hround.2.mp hcount b hb⟩) hid
      · exact nearestWithin_nearest fuel _ a hR2 h
    | none =>
      rw [hb] at h
      dsimp only at h
      split at h
      · cases h
      · exact nearestWithin_nearest fuel _ a hR2 h

/-- Given the number of located agents as its count, the search finds an agent exactly when there
is one other than `self` and, in one of its squares, such an agent lies within the half-side or
every located agent lies in the square. -/
theorem nearestWithin_isSome_iff :
    ∀ (fuel : Nat) (R : ℝ), 0 ≤ R →
      ((idx.nearestWithin pos self idx.located.length fuel R).isSome ↔
        (∃ b ∈ idx.located, b.id ≠ self) ∧
          ∃ k < fuel, (∃ b ∈ idx.located, b.id ≠ self ∧ pos.dist b.position ≤ R * 2 ^ k) ∨
            ∀ b ∈ idx.located, InSquare pos (R * 2 ^ k) b)
  | 0, _, _ => by simp [nearestWithin]
  | fuel + 1, R, hR => by
    have hround := round_hits hs pos hR
    have hbest := bestOf_closestHit pos self (idx.queryAgents ((Box.point pos).pad R))
    have hR2 : 0 ≤ R * 2.0 := by norm_num; linarith
    have ih := nearestWithin_isSome_iff fuel (R * 2.0) hR2
    -- the later squares are this one doubled
    have hshift : ∀ k : Nat, R * 2.0 * 2 ^ k = R * 2 ^ (k + 1) := fun k => by norm_num; ring
    simp only [hshift] at ih
    rw [Nat.exists_lt_succ_left]
    simp only [pow_zero, mul_one]
    unfold nearestWithin
    dsimp only
    cases hb : closestHit pos self (idx.queryAgents ((Box.point pos).pad R)) with
    | some p =>
      obtain ⟨a, d⟩ := p
      rw [hb] at hbest
      obtain ⟨hmem, hid, hd, hmin⟩ := hbest
      have hcand : ∃ b ∈ idx.located, b.id ≠ self := ⟨a, ((hround.1 a).mp hmem).1, hid⟩
      dsimp only
      split
      · rename_i hdR
        simp only [Option.isSome_some, true_iff]
        exact ⟨hcand, Or.inl (Or.inl ⟨a, ((hround.1 a).mp hmem).1, hid, hd ▸ hdR⟩)⟩
      split
      · rename_i hcount
        simp only [Option.isSome_some, true_iff]
        exact ⟨hcand, Or.inl (Or.inr (hround.2.mp hcount))⟩
      · -- neither stop: no agent within `R`, and some agent outside the square
        rename_i hdR hcount
        rw [ih]
        have hnear : ¬ ∃ b ∈ idx.located, b.id ≠ self ∧ pos.dist b.position ≤ R := by
          rintro ⟨b, hbl, hbid, hbR⟩
          have := hmin b ((hround.1 b).mpr ⟨hbl, inSquare_of_dist_le hbR⟩) hbid
          exact hdR (hd ▸ this.trans hbR)
        have hall : ¬ ∀ b ∈ idx.located, InSquare pos R b := fun h => hcount (hround.2.mpr h)
        simp only [hnear, hall, or_self, false_or]
    | none =>
      rw [hb] at hbest
      dsimp only
      split
      · -- every located agent is in the square, and each is `self`
        rename_i hcount
        simp only [Option.isSome_none, Bool.false_eq_true, false_iff, not_and]
        rintro ⟨b, hbl, hbid⟩
        exact absurd (hbest b ((hround.1 b).mpr ⟨hbl, hround.2.mp hcount b hbl⟩)) hbid
      · rename_i hcount
        rw [ih]
        have hnear : ¬ ∃ b ∈ idx.located, b.id ≠ self ∧ pos.dist b.position ≤ R := by
          rintro ⟨b, hbl, hbid, hbR⟩
          exact hbid (hbest b ((hround.1 b).mpr ⟨hbl, inSquare_of_dist_le hbR⟩))
        have hall : ¬ ∀ b ∈ idx.located, InSquare pos R b := fun h => hcount (hround.2.mpr h)
        simp only [hnear, hall, or_self, false_or]

end Search

/-! ## The search from a radius -/

/-- The half-side of the last square the search tries: `2 ^ 31` times the starting radius, which
is one when the radius given is not positive. -/
noncomputable def searchReach (radius : ℝ) : ℝ := (if radius ≤ 0 then 1 else radius) * 2 ^ 31

theorem eraseDups_of_nodup : ∀ {l : List Int}, l.Nodup → l.eraseDups = l
  | [], _ => rfl
  | a :: as, h => by
    rw [List.nodup_cons] at h
    have hf : as.filter (fun b => !b == a) = as := List.filter_eq_self.mpr fun b hb => by
      simp only [Bool.not_eq_true', beq_eq_false_iff_ne, ne_eq]
      rintro rfl
      exact h.1 hb
    rw [List.eraseDups_cons, hf, eraseDups_of_nodup h.2]

/-- With distinct ids the index counts every located agent. -/
theorem countAgents_of_nodup {idx : Index ℝ} (h : (idx.located.map (·.id)).Nodup) :
    idx.countAgents = idx.located.length := by
  rw [countAgents, eraseDups_of_nodup h, List.length_map]

/-- The search finds an agent exactly when there is one other than `self` and either one lies
within `searchReach radius` or every located agent lies in the last square. -/
theorem nearest_isSome_iff {idx : Index ℝ} (hs : idx.Stored) (hids : (idx.located.map (·.id)).Nodup)
    (pos : Vec ℝ) (self : Int) (radius : ℝ) :
    (idx.nearest pos self radius).isSome ↔
      (∃ b ∈ idx.located, b.id ≠ self) ∧
        ((∃ b ∈ idx.located, b.id ≠ self ∧ pos.dist b.position ≤ searchReach radius) ∨
          ∀ b ∈ idx.located, InSquare pos (searchReach radius) b) := by
  have hr : 0 < (if radius ≤ 0 then 1 else radius : ℝ) := by
    split_ifs with h
    · exact one_pos
    · exact lt_of_not_ge h
  unfold nearest searchReach
  dsimp only
  rw [countAgents_of_nodup hids, show ((if radius ≤ 0.0 then 1.0 else radius) : ℝ) =
    if radius ≤ 0 then 1 else radius by norm_num,
    nearestWithin_isSome_iff hs pos self searchDoublings _ hr.le]
  -- the squares grow, so the last one decides
  have hmono : ∀ k < searchDoublings,
      (if radius ≤ 0 then 1 else radius : ℝ) * 2 ^ k ≤ (if radius ≤ 0 then 1 else radius) * 2 ^ 31 :=
    fun k hk => mul_le_mul_of_nonneg_left
      (pow_le_pow_right₀ (by norm_num) (by simp only [searchDoublings] at hk; omega)) hr.le
  constructor
  · rintro ⟨hc, k, hk, (⟨b, hb, hid, hd⟩ | hall)⟩
    · exact ⟨hc, Or.inl ⟨b, hb, hid, hd.trans (hmono k hk)⟩⟩
    · exact ⟨hc, Or.inr fun b hb => (hall b hb).mono (hmono k hk)⟩
  · rintro ⟨hc, h⟩
    exact ⟨hc, 31, by simp [searchDoublings], h⟩

/-- **An agent beyond the reach of the search is missed.** Alone at `10 ^ 12` from the point, with
a starting radius of one, the only other pedestrian is never found: the last square has half-side
`2 ^ 31`. -/
theorem nearest_misses_far_agent :
    (∃ b ∈ ((Index.empty (0 : ℝ)).rebuild [⟨1, 0, ⟨10 ^ 12, 0⟩, ⟨0, 0⟩⟩]).located, b.id ≠ 0) ∧
      ((Index.empty (0 : ℝ)).rebuild [⟨1, 0, ⟨10 ^ 12, 0⟩, ⟨0, 0⟩⟩]).nearest ⟨0, 0⟩ 0 1 = none := by
  have hs := ((Reachable.empty (0 : ℝ)).rebuild [⟨1, 0, ⟨10 ^ 12, 0⟩, ⟨0, 0⟩⟩]).stored
  have hreach : searchReach (1 : ℝ) = 2 ^ 31 := by norm_num [searchReach]
  have hbeyond : (2 : ℝ) ^ 31 + 2 * tolerance < 10 ^ 12 := by
    rw [tolerance_real]
    norm_num
  refine ⟨⟨⟨1, 0, ⟨10 ^ 12, 0⟩, ⟨0, 0⟩⟩, by simp, by decide⟩, ?_⟩
  rw [← Option.not_isSome_iff_eq_none, nearest_isSome_iff hs (by simp) _ _ _, hreach]
  simp only [located_rebuild, Vec.isNaN_real, Bool.not_false, List.filter_cons_of_pos,
    List.filter_nil, List.mem_singleton, forall_eq, exists_eq_left, ne_eq, not_and, not_or]
  -- the agent is farther than the reach on the first axis alone
  have hx := Vec.abs_sub_x_le_dist ⟨0, 0⟩ ⟨10 ^ 12, 0⟩
  simp only [InSquare] at *
  norm_num at hx hbeyond ⊢
  exact ⟨by linarith, fun h => absurd h (not_lt.mpr hbeyond.le)⟩

/-- **The nearest pedestrian, over exact numbers.** For every index the program builds whose
located agents have distinct ids, an agent the search returns is a located agent other than
`self` at the least distance from `pos`; and the search returns one exactly when there is such an
agent and either one lies within `searchReach radius` of `pos` or every located agent lies in the
last square searched. -/
theorem nearest_is_nearest {idx : Index ℝ} (hidx : idx.Reachable)
    (hids : (idx.located.map (·.id)).Nodup) (pos : Vec ℝ) (self : Int) (radius : ℝ) :
    (∀ a, idx.nearest pos self radius = some a →
        a ∈ idx.located ∧ a.id ≠ self ∧
          ∀ b ∈ idx.located, b.id ≠ self → pos.dist a.position ≤ pos.dist b.position) ∧
      ((idx.nearest pos self radius).isSome ↔
        (∃ b ∈ idx.located, b.id ≠ self) ∧
          ((∃ b ∈ idx.located, b.id ≠ self ∧ pos.dist b.position ≤ searchReach radius) ∨
            ∀ b ∈ idx.located, InSquare pos (searchReach radius) b)) := by
  have hs := hidx.stored
  have hr : (0 : ℝ) ≤ if radius ≤ 0.0 then 1.0 else radius := by
    split_ifs with h
    · norm_num
    · norm_num at h
      exact h.le
  refine ⟨fun a h => ?_, nearest_isSome_iff hs hids pos self radius⟩
  unfold nearest at h
  dsimp only at h
  obtain ⟨hmem, hid⟩ := nearestWithin_candidate hs pos self _ _ _ a hr h
  rw [countAgents_of_nodup hids] at h
  exact ⟨hmem, hid, nearestWithin_nearest hs pos self _ _ a hr h⟩

/-- Of two pedestrians, the search from the first finds the second. -/
theorem nearest_of_two :
    ((Index.empty (0 : ℝ)).rebuild [⟨1, 0, ⟨0, 0⟩, ⟨0, 0⟩⟩, ⟨2, 0, ⟨3, 4⟩, ⟨0, 0⟩⟩]).nearest
      ⟨0, 0⟩ 1 1 = some ⟨2, 0, ⟨3, 4⟩, ⟨0, 0⟩⟩ := by
  have hr := (Reachable.empty (0 : ℝ)).rebuild [⟨1, 0, ⟨0, 0⟩, ⟨0, 0⟩⟩, ⟨2, 0, ⟨3, 4⟩, ⟨0, 0⟩⟩]
  have hids : (((Index.empty (0 : ℝ)).rebuild
      [⟨1, 0, ⟨0, 0⟩, ⟨0, 0⟩⟩, ⟨2, 0, ⟨3, 4⟩, ⟨0, 0⟩⟩]).located.map (·.id)).Nodup := by simp
  obtain ⟨hsound, hfound⟩ := nearest_is_nearest hr hids ⟨0, 0⟩ 1 1
  have hdist : Vec.dist (⟨0, 0⟩ : Vec ℝ) ⟨3, 4⟩ = 5 := by
    rw [Vec.dist_real, show ((0 : ℝ) - 3) ^ 2 + (0 - 4) ^ 2 = 5 ^ 2 by norm_num]
    exact Real.sqrt_sq (by norm_num)
  have hsome : (((Index.empty (0 : ℝ)).rebuild
      [⟨1, 0, ⟨0, 0⟩, ⟨0, 0⟩⟩, ⟨2, 0, ⟨3, 4⟩, ⟨0, 0⟩⟩]).nearest ⟨0, 0⟩ 1 1).isSome := by
    rw [hfound]
    refine ⟨⟨⟨2, 0, ⟨3, 4⟩, ⟨0, 0⟩⟩, by simp, by decide⟩,
      Or.inl ⟨⟨2, 0, ⟨3, 4⟩, ⟨0, 0⟩⟩, by simp, by decide, ?_⟩⟩
    rw [hdist]
    norm_num [searchReach]
  -- the only agent other than the first is the second
  obtain ⟨a, ha⟩ := Option.isSome_iff_exists.mp hsome
  obtain ⟨hmem, hid, -⟩ := hsound a ha
  simp only [located_rebuild, Vec.isNaN_real, Bool.not_false, List.filter_cons_of_pos,
    List.filter_nil, List.mem_cons, List.not_mem_nil, or_false] at hmem
  rcases hmem with rfl | rfl
  · exact absurd rfl hid
  · exact ha

end Index

end CrowdSim
