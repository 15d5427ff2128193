import ScriptArena.Document.Challenge
import ScriptArena.Service.Coercion
import ScriptArena.Text.Casing

namespace ScriptArena.Service

inductive Environment where
  | development | staging | production
deriving Repr, DecidableEq

namespace Environment

def all : List Environment := [.development, .staging, .production]

def name : Environment → String
  | .development => "development" | .staging => "staging" | .production => "production"

def ofDatum? : Datum → Option Environment
  | .str s => all.find? (·.name == s)
  | _ => none

end Environment

structure Settings where
  environment : Environment := .development
  debug : Bool := true
  logLevel : String := "INFO"
  gridSize : Int := 15
  foodPoints : Int := 10
  bugPenalty : Int := 20
  bugFloor : Int := 3
  blockReverse : Bool := false
  seed : Option Int := none
  loopEnabled : Bool := true
  tickMillis : Int := 250
  countdownMillis : Int := 1000
  countdownStart : Int := 3
  maxSteps : Int := 100000
  timeoutSeconds : Float := 2.0
  maxCallDepth : Int := 50
  maxOutputLines : Int := 200
  metricsEnabled : Bool := true

namespace Settings

def setting {α : Type} (d : Datum) (name : String) (read : Datum → Option α) (default : α) :
    Option α :=
  match d.field? name with
  | some value => read value
  | none => some default

-- A setting that is not given has its default; one that cannot be read spoils them all.
def ofDatum? (d : Datum) : Option Settings := do
  let base : Settings := {}
  let int := fun name default => setting d name Coercion.toInt? default
  let bool := fun name default => setting d name Coercion.toBool? default
  return {
    environment := ← setting d "environment" Environment.ofDatum? base.environment
    debug := ← bool "debug" base.debug
    logLevel := Text.upper (← setting d "log_level" Coercion.toText? base.logLevel)
    gridSize := ← int "grid_size" base.gridSize
    foodPoints := ← int "food_points" base.foodPoints
    bugPenalty := ← int "bug_penalty" base.bugPenalty
    bugFloor := ← int "bug_floor" base.bugFloor
    blockReverse := ← bool "block_reverse_direction" base.blockReverse
    seed := ← setting d "game_seed" (Coercion.orNothing Coercion.toInt?) base.seed
    loopEnabled := ← bool "game_loop_enabled" base.loopEnabled
    tickMillis := ← int "tick_interval_ms" base.tickMillis
    countdownMillis := ← int "countdown_interval_ms" base.countdownMillis
    countdownStart := ← int "countdown_start" base.countdownStart
    maxSteps := ← int "evaluator_max_steps" base.maxSteps
    timeoutSeconds := ← setting d "evaluator_timeout_seconds" Coercion.toFloat? base.timeoutSeconds
    maxCallDepth := ← int "evaluator_max_call_depth" base.maxCallDepth
    maxOutputLines := ← int "evaluator_max_output_lines" base.maxOutputLines
    metricsEnabled := ← bool "metrics_enabled" base.metricsEnabled }

def isDevelopment (s : Settings) : Bool := s.environment = .development

def document (s : Settings) : Datum :=
  .object [("environment", .str s.environment.name), ("debug", .bool s.debug),
    ("log_level", .str s.logLevel), ("grid_size", .int s.gridSize),
    ("food_points", .int s.foodPoints), ("bug_penalty", .int s.bugPenalty),
    ("bug_floor", .int s.bugFloor), ("block_reverse_direction", .bool s.blockReverse),
    ("game_seed", .orNone .int s.seed), ("game_loop_enabled", .bool s.loopEnabled),
    ("tick_interval_ms", .int s.tickMillis), ("countdown_interval_ms", .int s.countdownMillis),
    ("countdown_start", .int s.countdownStart), ("evaluator_max_steps", .int s.maxSteps),
    ("evaluator_timeout_seconds", .float s.timeoutSeconds),
    ("evaluator_max_call_depth", .int s.maxCallDepth),
    ("evaluator_max_output_lines", .int s.maxOutputLines),
    ("metrics_enabled", .bool s.metricsEnabled)]

end Settings
end ScriptArena.Service
