import CoSimulation.Binary64.Arithmetic

/-!
# The two clocks

Hosts and datacenters count in seconds, workload engines in milliseconds.  Every
time that crosses between them goes through `toEngineTime` or `ofEngineTime`.
-/

namespace CoSimulation

/-- A time or duration of the outer clock, in seconds. -/
abbrev Seconds := Binary64

/-- A time of an engine's clock, in milliseconds. -/
abbrev Milliseconds := Binary64

def millisecondsPerSecond : Binary64 := 1000

/-- An outer time on the engines' clock. -/
def toEngineTime (time : Seconds) : Milliseconds := time * millisecondsPerSecond

/-- An engine's time on the outer clock. -/
def ofEngineTime (time : Milliseconds) : Seconds := time / millisecondsPerSecond

end CoSimulation
