import CrowdSim.Json.Record
import CrowdSim.Force.Params
import CrowdSim.Motion.Scheme
import CrowdSim.Wayfinding.Tuning

/-!
# Simulation configuration

Everything a simulation is built from: the integration scheme, the force constants, the
wayfinding constants, the distributions of normal and maximum walking speed, the waypoint
defaults, the worker pool size, and the seed of the speed draws.

A configuration is read from JSON over the defaults (`Config.decode`), field names matched
without regard to case and unknown names refused, and then checked (`Config.validate`), which
names the first unusable setting.
-/

namespace CrowdSim

/-- A Gaussian from which per-pedestrian speeds are drawn, in metres per second. -/
structure SpeedDistribution where
  mean : Float
  stdDev : Float
  deriving Inhabited

/-- The settings of a simulation. -/
structure Config where
  integrator : String
  force : ForceParams
  wayfinding : Tuning
  normalSpeed : SpeedDistribution
  maxSpeed : SpeedDistribution
  /-- The width of a waypoint given none, in metres. -/
  waypointWidth : Float
  /-- The waiting period of a waypoint given none, in seconds. -/
  waitingPeriod : Float
  /-- The pool size: zero for one worker per processor, negative for moving groups inline. -/
  workers : Int
  queueSize : Int
  /-- The duration after which a slow tick is reported, in seconds. -/
  stallWarning : Float
  strictRoutes : Bool
  seed : Int
  deriving Inhabited

/-- Why a configuration is unusable. -/
inductive ConfigError where
  /-- The text is not a configuration: bad syntax, an unknown field or a wrong type. -/
  | decode
  /-- The integration scheme is unknown. -/
  | integrator (name : String)
  /-- The force constants are unusable. -/
  | force (e : ParamError)
  /-- A speed distribution has a negative mean or deviation. -/
  | negativeSpeed (field : String) (d : SpeedDistribution)
  /-- A length or duration is negative. -/
  | negative (field : String) (got : Float)
  /-- The queue size is negative. -/
  | negativeQueue (got : Int)
  /-- Target lines would be sampled less than once per metre. -/
  | samplingDivisor (got : Float)

/-- The text of a speed distribution in messages: `{Mean:1.3 StdDev:0.2}`. -/
def SpeedDistribution.describe (d : SpeedDistribution) : String :=
  "\x7bMean:" ++ FloatStyle.message.render d.mean ++ " StdDev:" ++
    FloatStyle.message.render d.stdDev ++ "\x7d"

namespace ConfigError

/-- The message of a configuration error. -/
def message : ConfigError → String
  | .decode => "decode config"
  | .integrator n => "config: " ++ Scheme.unknownMessage n
  | .force e => "config: " ++ e.message
  | .negativeSpeed f d => "config: " ++ f ++ " must not be negative, got " ++ d.describe
  | .negative f x => "config: " ++ f ++ " must not be negative, got " ++ FloatStyle.message.render x
  | .negativeQueue n => "config: queue_size must not be negative, got " ++ toString n
  | .samplingDivisor x =>
    "config: wayfinding.sampling_divisor must be at least 1, got " ++ FloatStyle.message.render x

end ConfigError

namespace Config

/-- The configuration used when none is given. -/
def default : Config where
  integrator := Scheme.default.name
  force := ForceParams.default
  wayfinding := Tuning.default
  normalSpeed := ⟨1.3, 0.2⟩
  maxSpeed := ⟨1.8, 0.2⟩
  waypointWidth := 2.0
  waitingPeriod := 0.0
  workers := 0
  queueSize := 4096
  stallWarning := 2.0
  strictRoutes := false
  seed := 1

/-- The first unusable setting, checked in the order scheme, forces, normal speed, maximum speed,
waypoint width, waiting period, queue size, stall warning, sampling divisor. -/
def validate (c : Config) : Option ConfigError :=
  if (Scheme.ofName? c.integrator).isNone then some (.integrator c.integrator)
  else match c.force.validate with
  | some e => some (.force e)
  | none =>
    if c.normalSpeed.mean < 0.0 || c.normalSpeed.stdDev < 0.0 then
      some (.negativeSpeed "normal_speed" c.normalSpeed)
    else if c.maxSpeed.mean < 0.0 || c.maxSpeed.stdDev < 0.0 then
      some (.negativeSpeed "max_speed" c.maxSpeed)
    else if c.waypointWidth < 0.0 then some (.negative "waypoint_width" c.waypointWidth)
    else if c.waitingPeriod < 0.0 then some (.negative "waiting_period" c.waitingPeriod)
    else if c.queueSize < 0 then some (.negativeQueue c.queueSize)
    else if c.stallWarning < 0.0 then some (.negative "stall_warning" c.stallWarning)
    else if c.wayfinding.samplingDivisor < 1.0 then
      some (.samplingDivisor c.wayfinding.samplingDivisor)
    else none

/-! ## Reading from JSON -/

/-- The fields of the group constants. -/
def groupFields : List (Field GroupParams) :=
  [Record.float "field_of_view" fun g x => { g with fieldOfView := x },
   Record.float "beta1" fun g x => { g with beta1 := x },
   Record.float "beta2" fun g x => { g with beta2 := x },
   Record.float "beta3" fun g x => { g with beta3 := x },
   Record.float "comfort_distance" fun g x => { g with comfortDistance := x }]

/-- The fields of the force constants. -/
def forceFields : List (Field ForceParams) :=
  [Record.float "tau" fun p x => { p with tau := x },
   Record.float "a1" fun p x => { p with a1 := x },
   Record.float "b1" fun p x => { p with b1 := x },
   Record.float "a2" fun p x => { p with a2 := x },
   Record.float "b2" fun p x => { p with b2 := x },
   Record.float "lambda" fun p x => { p with lambda := x },
   Record.float "boundary_a" fun p x => { p with boundaryA := x },
   Record.float "boundary_b" fun p x => { p with boundaryB := x },
   Record.float "radius" fun p x => { p with radius := x },
   Record.float "min_force" fun p x => { p with minForce := x },
   Record.nested "group" groupFields (·.group) fun p g => { p with group := g }]

/-- The fields of the wayfinding constants. -/
def tuningFields : List (Field Tuning) :=
  [Record.float "sampling_divisor" fun t x => { t with samplingDivisor := x },
   Record.float "course_deviation_threshold" fun t x => { t with courseDeviationThreshold := x },
   Record.float "deviation_check_interval" fun t x => { t with deviationCheckInterval := x },
   Record.float "hysteresis_distance" fun t x => { t with hysteresisDistance := x },
   Record.float "hysteresis_time" fun t x => { t with hysteresisTime := x },
   Record.float "passing_area_buffer" fun t x => { t with passingAreaBuffer := x },
   Record.float "target_clearance" fun t x => { t with targetClearance := x },
   Record.float "slow_progress_factor" fun t x => { t with slowProgressFactor := x },
   Record.float "slow_progress_delay" fun t x => { t with slowProgressDelay := x },
   Record.float "orientation_interval" fun t x => { t with orientationInterval := x },
   Record.float "follow_stop_distance" fun t x => { t with followStopDistance := x },
   Record.float "follow_search_radius" fun t x => { t with followSearchRadius := x }]

/-- The fields of a speed distribution. -/
def speedFields : List (Field SpeedDistribution) :=
  [Record.float "mean" fun d x => { d with mean := x },
   Record.float "std_dev" fun d x => { d with stdDev := x }]

/-- The fields of a configuration. -/
def fields : List (Field Config) :=
  [Record.text "integrator" fun c s => { c with integrator := s },
   Record.nested "force" forceFields (·.force) fun c p => { c with force := p },
   Record.nested "wayfinding" tuningFields (·.wayfinding) fun c t => { c with wayfinding := t },
   Record.nested "normal_speed" speedFields (·.normalSpeed) fun c d => { c with normalSpeed := d },
   Record.nested "max_speed" speedFields (·.maxSpeed) fun c d => { c with maxSpeed := d },
   Record.float "waypoint_width" fun c x => { c with waypointWidth := x },
   Record.float "waiting_period" fun c x => { c with waitingPeriod := x },
   Record.int "workers" fun c n => { c with workers := n },
   Record.int "queue_size" fun c n => { c with queueSize := n },
   Record.float "stall_warning" fun c x => { c with stallWarning := x },
   Record.flag "strict_routes" fun c b => { c with strictRoutes := b },
   Record.int "seed" fun c n => { c with seed := n }]

/-- The configuration a JSON value describes over the defaults, checked. -/
def decode (j : Json) : Except ConfigError Config :=
  match Record.read fields j default with
  | none => .error .decode
  | some c =>
    match c.validate with
    | some e => .error e
    | none => .ok c

/-- The configuration the first JSON value of a text describes, checked. -/
def parse (text : String) : Except ConfigError Config :=
  match Record.firstValue text with
  | none => .error .decode
  | some j => decode j

end Config

end CrowdSim
