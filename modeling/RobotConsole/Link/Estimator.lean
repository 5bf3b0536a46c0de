import RobotConsole.Link.Basic
import RobotConsole.Numeric.FixedPlaces

/-!
# Estimating the health of the link

Each tick halves the smoothed rate and mixes in the rate seen over the arrivals
that are kept. The link is down once the last arrival is as old as the
disconnect timeout; otherwise its status follows from the relative rate.
-/

namespace RobotConsole
namespace Link

variable {α : Type} [RateScalar α]

open RateScalar (ofInt millisBetween seconds tiny less isFinite)

def secondsBetween (start finish : Int) : α :=
  millisBetween start finish / 1000.0

def decay : α := 0.5

/-- The part of the old rate and of the new one that make `1`. -/
def renewal : α := 0.5

def healthyRatio : α := 0.9

/-- The smoothed rate after a tick. A window that is not positive adds nothing. -/
def nextRate (link : Link α) (now : Int) : α :=
  let kept := link.smoothedRate * decay
  match link.arrivals.oldest? with
  | none => kept
  | some first =>
      let window : α := secondsBetween first now
      if less 0.0 window then
        kept + renewal * ofInt link.arrivals.size / window
      else kept

/-- The seconds since the last arrival; without one, as many as it takes to be down. -/
def silence (link : Link α) (now : Int) : α :=
  match link.arrivals.latest? with
  | none => seconds link.disconnectTimeout
  | some last => secondsBetween last now

def expectedRate (link : Link α) : α :=
  let interval : α := seconds link.expectedInterval
  1.0 / (if less interval tiny then tiny else interval)

def clampUnit (x : α) : α :=
  if less x 0.0 then 0.0
  else if less 1.0 x then 1.0
  else x

def relativeTo (link : Link α) (rate : α) : α :=
  let relative := rate / link.expectedRate
  if isFinite relative then clampUnit relative else 0.0

def tick (link : Link α) (now : Int) : Link α :=
  let smoothedRate := link.nextRate now
  let relativeRate := link.relativeTo smoothedRate
  let link' := { link with smoothedRate, relativeRate }
  if less (link.silence now) (seconds link.disconnectTimeout) then
    { link' with
      status := if less healthyRatio relativeRate then .healthy else .unhealthy }
  else { link' with status := .disconnected, mode := .idle, errorFlag := false }

def tickMessages (before after : Link Float) : List Message :=
  if before.status = after.status then []
  else
    [.info ("Link status " ++ before.status.symbol ++ " -> " ++ after.status.symbol ++
      " (relative rate " ++ Numeric.fixedPlaces 2 after.relativeRate ++ ")")]

end Link
end RobotConsole
