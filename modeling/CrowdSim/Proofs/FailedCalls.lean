import Mathlib
import CrowdSim.Sim.Simulation

/-!
# What a refused call leaves behind

The calls that can fail differ in what they touch before they fail. Choosing a scheme by name and
applying control settings check the name first, so a refusal changes nothing. Making a route and
spawning a crowd number what they make before checking it: a refused route has used up its route
number, and a refused crowd its crowd number, the numbers of the groups it completed and of the
pedestrians it tried, and the speed draws of the pedestrians it placed.

`Simulation.spend` names that change. The main statement, `failed_call_spends_only_numbers`,
says that a refused call changes the simulation by exactly such a spending and nothing else: the
crowds, routes, index, engine, clock, paused flag and time scale stay as they were.
`failed_route_uses_up_its_number` is a refused route whose number is gone.
-/

namespace CrowdSim

namespace Simulation

/-- The random stream after the speeds of one pedestrian are drawn: a normal speed, then a
maximum speed. -/
def speedDraw (cfg : Config) (rng : Random.Source) : Random.Source :=
  (sampleSpeed cfg.maxSpeed (sampleSpeed cfg.normalSpeed rng).2).2

/-- The simulation after `groups` group numbers and `peds` pedestrian numbers are used up and
`draws` pedestrians have drawn their speeds. -/
def spend (s : Simulation) (groups peds draws : Nat) : Simulation :=
  { s with
    nextGroup := s.nextGroup + groups
    nextPedestrian := s.nextPedestrian + peds
    rng := (speedDraw s.config)^[draws] s.rng }

theorem sampleSpeeds_snd (s : Simulation) :
    s.sampleSpeeds.2 = { s with rng := speedDraw s.config s.rng } := by
  simp only [sampleSpeeds, speedDraw]

@[simp] theorem spend_zero (s : Simulation) : s.spend 0 0 0 = s := rfl

@[simp] theorem spend_config (s : Simulation) (g p d : Nat) : (s.spend g p d).config = s.config :=
  rfl

/-- Spending twice is spending the sums. -/
theorem spend_spend (s : Simulation) (g p d g' p' d' : Nat) :
    (s.spend g p d).spend g' p' d' = s.spend (g + g') (p + p') (d + d') := by
  simp only [spend, Nat.add_assoc]
  rw [Nat.add_comm d d', Function.iterate_add_apply]

/-! ## Spawning -/

/-- One more pedestrian number is taken. -/
theorem takePedestrian_eq (s : Simulation) :
    { s with nextPedestrian := s.nextPedestrian + 1 } = s.spend 0 1 0 := rfl

/-- One more pedestrian number is taken, and then the speeds are drawn. -/
theorem placePedestrian_eq (s : Simulation) :
    ({ s with nextPedestrian := s.nextPedestrian + 1 } : Simulation).sampleSpeeds.2 =
      s.spend 0 1 1 := by
  rw [sampleSpeeds_snd]
  rfl

/-- **A refused group** has used up one pedestrian number for each member it tried, the last one
the member that could not walk the route, and drawn the speeds of the members before it. -/
theorem spawnMembers_error {route : Option Route} {ps : List Vec} {s : Simulation}
    {acc : List Pedestrian} {e : SightError} (h : (spawnMembers route ps s acc).2 = .error e) :
    ∃ j < ps.length, (spawnMembers route ps s acc).1 = s.spend 0 (j + 1) j := by
  induction ps generalizing s acc with
  | nil => simp [spawnMembers] at h
  | cons pos rest ih =>
    simp only [spawnMembers] at h ⊢
    split
    · -- this member cannot walk the route: it is the one that fails
      exact ⟨0, by simp, takePedestrian_eq s⟩
    · next heq =>
      simp only [heq] at h
      obtain ⟨j, hj, hstate⟩ := ih h
      refine ⟨j + 1, by simp; omega, ?_⟩
      rw [hstate, placePedestrian_eq, spend_spend]
      congr 1 <;> omega

/-- A group spawned in full has used up one pedestrian number and one speed draw per member. -/
theorem spawnMembers_ok {route : Option Route} {ps : List Vec} {s : Simulation}
    {acc ms : List Pedestrian} (h : (spawnMembers route ps s acc).2 = .ok ms) :
    (spawnMembers route ps s acc).1 = s.spend 0 ps.length ps.length := by
  induction ps generalizing s acc with
  | nil => rfl
  | cons pos rest ih =>
    simp only [spawnMembers] at h ⊢
    split
    · next heq =>
      simp only [heq] at h
      cases h
    · next heq =>
      simp only [heq] at h
      rw [ih h, placePedestrian_eq, spend_spend]
      congr 1 <;> simp <;> omega

/-- The members of the first `g` groups. -/
def placedBefore (groups : List (List Vec)) (g : Nat) : Nat := ((groups.take g).map List.length).sum

/-- **A refused crowd's groups**: the groups before the failing one are complete and numbered;
the failing group `g` has tried its first `j + 1` members. -/
theorem spawnGroups_error {route : Option Route} {groups : List (List Vec)} {s : Simulation}
    {acc : List Group} {e : SightError} (h : (spawnGroups route groups s acc).2 = .error e) :
    ∃ g j, g < groups.length ∧ j < (groups.getD g []).length ∧
      (spawnGroups route groups s acc).1 =
        s.spend g (placedBefore groups g + j + 1) (placedBefore groups g + j) := by
  induction groups generalizing s acc with
  | nil => simp [spawnGroups] at h
  | cons ps rest ih =>
    simp only [spawnGroups] at h ⊢
    rcases hm : spawnMembers route ps s [] with ⟨s', _ | ms⟩
    · -- the first group fails
      next e' =>
      have hfail : (spawnMembers route ps s []).2 = .error e' := by rw [hm]
      obtain ⟨j, hj, hstate⟩ := spawnMembers_error hfail
      rw [hm] at hstate
      exact ⟨0, j, by simp, by simpa using hj, by simpa [placedBefore] using hstate⟩
    · -- the first group is complete and numbered; the failure lies further on
      have hdone : (spawnMembers route ps s []).2 = .ok ms := by rw [hm]
      have hs' : s' = s.spend 0 ps.length ps.length := by
        have := spawnMembers_ok hdone
        rwa [hm] at this
      rw [hm] at h
      obtain ⟨g, j, hg, hj, hstate⟩ := ih h
      refine ⟨g + 1, j, by simp; omega, by simpa using hj, ?_⟩
      have hnum : ({ s' with nextGroup := s'.nextGroup + 1 } : Simulation) =
          s.spend 1 ps.length ps.length := by
        rw [hs']
        rfl
      rw [hstate, hnum, spend_spend]
      simp only [placedBefore, List.take_succ_cons, List.map_cons, List.sum_cons]
      congr 1 <;> omega

end Simulation

/-! ## Refused calls -/

/-- An unknown scheme name is refused before anything changes. -/
theorem setSchemeByName_of_error {s : Simulation} {name e : String}
    (h : (s.setSchemeByName name).2 = .error e) : (s.setSchemeByName name).1 = s := by
  unfold Simulation.setSchemeByName at h ⊢
  split at h
  · rfl
  · cases h

/-- Control settings naming an unknown scheme are refused before anything changes. -/
theorem applyControl_of_error {s : Simulation} {cs : ControlSettings} {e : String}
    (h : (s.applyControl cs).2 = .error e) : (s.applyControl cs).1 = s := by
  unfold Simulation.applyControl at h ⊢
  by_cases hi : (cs.integrator == "") = true
  · simp [hi] at h
  · cases hn : Scheme.ofName cs.integrator with
    | error msg => simp [hi]
    | ok sc => simp [hi, hn] at h

/-- Making a route uses up a route number, whether or not the route is made, and changes nothing
else. -/
theorem newRoute_fst (s : Simulation) (wps : List Waypoint) :
    (s.newRoute wps).1 = { s with nextRoute := s.nextRoute + 1 } := by
  unfold Simulation.newRoute
  dsimp only
  split <;> rfl

/-- A refused crowd has used up its crowd number and what its groups spent. -/
theorem spawnCrowd_of_error {s : Simulation} {route : Option Route} {groups : List (List Vec)}
    {e : Simulation.SpawnError} (h : (s.spawnCrowd route groups).2 = .error e) :
    ∃ g j, g < groups.length ∧ j < (groups.getD g []).length ∧
      (s.spawnCrowd route groups).1 =
        { s.spend g (Simulation.placedBefore groups g + j + 1)
            (Simulation.placedBefore groups g + j) with nextCrowd := s.nextCrowd + 1 } := by
  unfold Simulation.spawnCrowd at h ⊢
  dsimp only at h ⊢
  rcases hg : Simulation.spawnGroups route groups { s with nextCrowd := s.nextCrowd + 1 } []
    with ⟨s', _ | gs⟩
  · next e' =>
    have hfail : (Simulation.spawnGroups route groups
        { s with nextCrowd := s.nextCrowd + 1 } []).2 = .error e' := by rw [hg]
    obtain ⟨g, j, hlt, hj, hstate⟩ := Simulation.spawnGroups_error hfail
    rw [hg] at hstate
    exact ⟨g, j, hlt, hj, by rw [hstate]; rfl⟩
  · rw [hg] at h
    cases h

/-- **A refused call spends only numbers.** Choosing an unknown scheme by name and applying
control settings with an unknown scheme leave the simulation exactly as it was. A refused route
leaves it with its route number used up. A refused crowd leaves it with its crowd number used up,
the numbers of the `g` groups before the failing one, the numbers of the pedestrians it tried (the
members of those groups and the first `j + 1` of the failing group) and the speed draws of all
but the last of them. No crowd or route is added, and the engine, the clock, the paused flag and
the time scale are those of before. -/
theorem failed_call_spends_only_numbers (s : Simulation) :
    (∀ name e, (s.setSchemeByName name).2 = .error e → (s.setSchemeByName name).1 = s) ∧
    (∀ cs e, (s.applyControl cs).2 = .error e → (s.applyControl cs).1 = s) ∧
    (∀ wps e, (s.newRoute wps).2 = .error e →
      (s.newRoute wps).1 = { s with nextRoute := s.nextRoute + 1 }) ∧
    (∀ route groups e, (s.spawnCrowd route groups).2 = .error e →
      ∃ g j, g < groups.length ∧ j < (groups.getD g []).length ∧
        (s.spawnCrowd route groups).1 =
          { s.spend g (Simulation.placedBefore groups g + j + 1)
              (Simulation.placedBefore groups g + j) with nextCrowd := s.nextCrowd + 1 }) :=
  ⟨fun _ _ h => setSchemeByName_of_error h, fun _ _ h => applyControl_of_error h,
    fun wps _ _ => newRoute_fst s wps, fun _ _ _ h => spawnCrowd_of_error h⟩

/-- Each kind of refusal at a simulation that checks routes strictly: an unknown scheme name,
control settings naming one, a waypoint of negative width, and a crowd of two groups on a route
of one waypoint whose second group's second member stands at a NaN position, which sees nothing.
That crowd has completed one group and tried three pedestrians, the first two of whom drew their
speeds. -/
theorem failed_call_spends_only_numbers_when_strict :
    let s : Simulation :=
      { (default : Simulation) with config := { (default : Config) with strictRoutes := true } }
    let route : Route := ⟨1, [⟨⟨1, Vec.zero, 2.0, 0.0⟩, 0.0, none, none, []⟩], false⟩
    let groups : List (List Vec) := [[Vec.zero], [Vec.zero, ⟨0.0 / 0.0, 0.0⟩]]
    ((s.setSchemeByName "leapfrog").2 = .error (Scheme.unknownMessage "leapfrog") ∧
      (s.setSchemeByName "leapfrog").1 = s) ∧
    ((s.applyControl ⟨"verlet", some true, none⟩).2 =
        .error ("apply control: " ++ Scheme.unknownMessage "verlet") ∧
      (s.applyControl ⟨"verlet", some true, none⟩).1 = s) ∧
    ((s.newRoute [⟨0, Vec.zero, -1.0, 0.0⟩]).2 = .error (.negativeSize 1 1) ∧
      (s.newRoute [⟨0, Vec.zero, -1.0, 0.0⟩]).1 = { s with nextRoute := s.nextRoute + 1 }) ∧
    ((s.spawnCrowd (some route) groups).2 = .error ⟨1, .start 3 1⟩ ∧
      (s.spawnCrowd (some route) groups).1 = { s.spend 1 3 2 with nextCrowd := s.nextCrowd + 1 }) := by
  intro s route groups
  have h1 : (s.setSchemeByName "leapfrog").2 = .error (Scheme.unknownMessage "leapfrog") := rfl
  have h2 : (s.applyControl ⟨"verlet", some true, none⟩).2 =
      .error ("apply control: " ++ Scheme.unknownMessage "verlet") := rfl
  have h3 : (s.newRoute [⟨0, Vec.zero, -1.0, 0.0⟩]).2 = .error (.negativeSize 1 1) := by
    simp only [s]
    rfl
  -- the spawn is evaluated by the kernel, through Boolean and numeric readings of its result
  have h4b : (match (s.spawnCrowd (some route) groups).2 with
      | .error ⟨c, .start p w⟩ => c == 1 && p == 3 && w == 1
      | _ => false) = true := by
    decide +kernel
  have h4 : (s.spawnCrowd (some route) groups).2 = .error ⟨1, .start 3 1⟩ := by
    revert h4b
    generalize (s.spawnCrowd (some route) groups).2 = r
    rcases r with ⟨c, _ | ⟨p, w⟩⟩ | _ <;> simp
    omega
  obtain ⟨c1, c2, c3, c4⟩ := failed_call_spends_only_numbers s
  refine ⟨⟨h1, c1 _ _ h1⟩, ⟨h2, c2 _ _ h2⟩, ⟨h3, c3 _ _ h3⟩, ⟨h4, ?_⟩⟩
  -- the counters of the result fix how many groups were completed and members tried
  obtain ⟨g, j, -, -, hst⟩ := c4 _ _ _ h4
  have hgrp : (s.spawnCrowd (some route) groups).1.nextGroup = 1 := by decide +kernel
  have hped : (s.spawnCrowd (some route) groups).1.nextPedestrian = 3 := by decide +kernel
  rw [hst] at hgrp hped
  have hzero : (default : Simulation).nextGroup = 0 ∧ (default : Simulation).nextPedestrian = 0 :=
    ⟨rfl, rfl⟩
  obtain rfl : g = 1 := by simpa [s, Simulation.spend, hzero.1] using hgrp
  obtain rfl : j = 1 := by
    simp [s, Simulation.spend, Simulation.placedBefore, groups, hzero.2] at hped
    omega
  exact hst

/-- A route whose only waypoint has a negative width is refused, and the next route is numbered
as if it had been made. -/
theorem failed_route_uses_up_its_number :
    let s : Simulation := default
    let wps : List Waypoint := [⟨0, Vec.zero, -1.0, 0.0⟩]
    (s.newRoute wps).2 = .error (.negativeSize 1 1) ∧ (s.newRoute wps).1.nextRoute ≠ s.nextRoute := by
  refine ⟨?_, ?_⟩
  · rfl
  · decide

end CrowdSim
