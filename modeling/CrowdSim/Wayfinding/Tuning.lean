import CrowdSim.Plane.Vec

/-!
# Wayfinding constants

The constants that shape how a pedestrian finds its way: how finely a target line is sampled,
when a held direction counts as off course, how long a target is kept, how wide the passing areas
are, when slow progress forces a fresh orientation, and how a follower keeps its distance.
-/

namespace CrowdSim

/-- The wayfinding constants. Lengths are in metres, times in seconds, angles in radians. -/
structure Tuning where
  /-- Samples of a target line per metre of waypoint width. -/
  samplingDivisor : Float
  /-- The angle between held and required direction above which the course has deviated. -/
  courseDeviationThreshold : Float
  /-- The time between two course checks. -/
  deviationCheckInterval : Float
  /-- How far a pedestrian may move and still keep its last target. -/
  hysteresisDistance : Float
  /-- How long a pedestrian may keep its last target. -/
  hysteresisTime : Float
  /-- The half-width of the passing area around a target line. -/
  passingAreaBuffer : Float
  /-- The distance kept between a target line's ends and the walls. -/
  targetClearance : Float
  /-- The fraction of normal speed below which progress is slow. -/
  slowProgressFactor : Float
  /-- The time after assignment before slow progress is checked. -/
  slowProgressDelay : Float
  /-- The least time between two orientations forced by slow progress. -/
  orientationInterval : Float
  /-- The distance at which a follower stops behind its leader. -/
  followStopDistance : Float
  /-- The half-side of the first box of the nearest-pedestrian search. -/
  followSearchRadius : Float
  deriving Inhabited

/-- The constants used unless configured otherwise; the course threshold is one degree. -/
def Tuning.default : Tuning where
  samplingDivisor := 10.0
  courseDeviationThreshold := 0.017453292519943295
  deviationCheckInterval := 0.5
  hysteresisDistance := 0.3
  hysteresisTime := 1.0
  passingAreaBuffer := 0.5
  targetClearance := 0.05
  slowProgressFactor := 0.5
  slowProgressDelay := 5.0
  orientationInterval := 2.0
  followStopDistance := 0.8
  followSearchRadius := 2.0

end CrowdSim
