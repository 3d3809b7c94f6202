import Manifests.FirstWins
import Manifests.Label
import Manifests.Object.Network

/-! The addresses under which a service is reached. -/

namespace Manifests

inductive ServiceType where
  | clusterIp
  | nodePort
  | loadBalancer
  | headless
deriving DecidableEq

namespace ServiceType

/-- The type a text stands for in any case of letters; what is unknown stays in the cluster. -/
def ofText (s : String) : ServiceType :=
  match lowered s with
  | "nodeport" => nodePort
  | "loadbalancer" => loadBalancer
  | "headless" => headless
  | _ => clusterIp

def name : ServiceType → String
  | clusterIp | headless => "ClusterIP"
  | nodePort => "NodePort"
  | loadBalancer => "LoadBalancer"

end ServiceType

/-- A service without ports is refused, so one without an address gets this port. -/
def headlessPort : Int := 55555

def Port.exposed (p : Port) : Int := (nonzero p.hostPort).getD p.containerPort

def Port.servicePort (p : Port) : ServicePort where
  name := if p.protocolName = "UDP" then toString p.exposed ++ "-udp" else toString p.exposed
  port := p.exposed
  targetPort := some p.containerPort
  protocol := if p.protocolName = "TCP" then none else some p.protocolName

def ServicePort.isDatagram (p : ServicePort) : Bool := p.protocol == some "UDP"

namespace Service

variable (s : Service) (workload : String)

def servicePorts : List ServicePort :=
  (firstOfEach (fun p : Port => (p.exposed, p.protocolName)) s.ports).map Port.servicePort

/-- A service of the given name in front of the workload's pods. -/
def frontNamed (name : String) (ports : List ServicePort) : ClusterService where
  metadata :=
    { name := some name
      labels := some (selectorLabels name)
      annotations := if s.annotations.isEmpty then none else some s.annotations }
  selector := selectorLabels (resourceName workload)
  ports

/-- A load balancer takes one sort of protocol, so it is made twice if need be; a service without
ports is made only where it has no address. -/
def fronts : List ClusterService :=
  let name := resourceName s.name
  let type := ServiceType.ofText s.serviceType
  if s.ports = [] then
    if type = .headless then
      [{ s.frontNamed workload name [{ name := "headless", port := headlessPort }] with
          clusterIp := some "None" }]
    else []
  else
    match type with
    | .loadBalancer =>
      let streams := s.servicePorts.filter (!·.isDatagram)
      let datagrams := s.servicePorts.filter (·.isDatagram)
      ([("tcp", streams), ("udp", datagrams)].filter (·.2 ≠ [])).map fun (suffix, ports) =>
        { s.frontNamed workload (name ++ "-" ++ suffix) ports with serviceType := some type.name }
    | _ =>
      [{ s.frontNamed workload name s.servicePorts with
          serviceType := some type.name
          clusterIp := if type = .headless then some "None" else none }]

end Service

/-- The pods of a network take traffic from one another. -/
def networkPolicy (network : String) : NetworkPolicy :=
  let selector : Dict String := .singleton (networkLabel network) "true"
  { metadata := { name := some (resourceName network ++ "-network-policy") }
    selector
    peers := [selector] }

end Manifests
