import Manifests.Failure
import Manifests.Object.Pod
import Manifests.Service

/-! Health checks as probes. -/

namespace Manifests

namespace HealthCheck

variable (c : HealthCheck)

/-- A command comes before a web address, and that before a port. -/
def handler? : Option ProbeHandler :=
  if c.test ≠ [] then some (.exec c.test)
  else
    match filled c.httpPath, nonzero c.httpPort, nonzero c.tcpPort with
    | some path, some port, _ => some (.httpGet path port)
    | _, _, some port => some (.tcpSocket port)
    | _, _, none => none

/-- A check that is off or says nothing makes no probe; any other has to name a target. -/
def probe (service : String) : Except Failure (Option Probe) :=
  if c.disable ∨ c = {} then .ok none
  else
    match c.handler? with
    | none => .error (.malformedHealthCheck service)
    | some handler =>
      .ok (some
        { handler
          failureThreshold := nonzero c.retries
          initialDelay := nonzero c.startPeriod
          period := nonzero c.interval
          timeout := nonzero c.timeout })

end HealthCheck

end Manifests
