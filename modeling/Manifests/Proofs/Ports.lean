import Mathlib.Data.List.Perm.Basic
import Manifests.Exposure
import Manifests.PodStep
import Manifests.Proofs.FirstWins

/-! The ports of a service, shared out among the addresses under which it is reached. -/
namespace Manifests

/-- The protocol of a port. TCP is not written down. -/
def ServicePort.protocolName (q : ServicePort) : String := q.protocol.getD "TCP"

/-- The number and the protocol that a port is reached by. -/
def ServicePort.channel (q : ServicePort) : Int × String := (q.port, q.protocolName)

/-- The number and the protocol that a declared port is to be reached by. -/
def Port.channel (p : Port) : Int × String := (p.exposed, p.protocolName)

/-- The addresses of a service have all its ports between them, in order, and each leads to a port
of the container. A load balancer does not mix datagrams with other protocols. -/
structure Service.Exposes (s : Service) (fronts : List ClusterService) : Prop where
  shared : (fronts.flatMap (·.ports)).Perm s.servicePorts
  ordered : ∀ f ∈ fronts, f.ports.Sublist s.servicePorts
  distinct : (s.servicePorts.map (·.channel)).Nodup
  declared : ∀ a, a ∈ s.servicePorts.map (·.channel) ↔ ∃ p ∈ s.ports, p.channel = a
  nonempty : ∀ f ∈ fronts, f.ports ≠ []
  unmixed : ServiceType.ofText s.serviceType = .loadBalancer → ∀ f ∈ fronts,
    ∀ q ∈ f.ports, ∀ r ∈ f.ports, q.protocolName = "UDP" → r.protocolName = "UDP"
  targets : ∀ q ∈ s.servicePorts, ∃ c ∈ s.containerPorts,
    q.targetPort = some c.port ∧ q.protocolName = c.protocol

variable {s : Service} {workload : String} {p : Port} {q r : ServicePort}

theorem isDatagram_servicePort : p.servicePort.isDatagram = (p.protocolName = "UDP" : Bool) := by
  rw [Bool.eq_iff_iff]
  by_cases ht : p.protocolName = "TCP" <;> simp [ServicePort.isDatagram, Port.servicePort, ht]

theorem protocolName_servicePort : p.servicePort.protocolName = p.protocolName := by
  by_cases ht : p.protocolName = "TCP" <;> simp [ServicePort.protocolName, Port.servicePort, ht]

theorem channel_servicePort : p.servicePort.channel = p.channel :=
  Prod.ext rfl protocolName_servicePort

namespace Service

theorem channels_servicePorts :
    s.servicePorts.map (·.channel) = (firstOfEach Port.channel s.ports).map Port.channel := by
  rw [servicePorts, List.map_map]
  exact List.map_congr_left fun p _ => channel_servicePort

theorem nodup_channels : (s.servicePorts.map (·.channel)).Nodup := by
  rw [channels_servicePorts]
  exact nodup_unionBy List.nodup_nil

/-- Ports that repeat others take no channel away. -/
theorem mem_channels {a : Int × String} :
    a ∈ s.servicePorts.map (·.channel) ↔ ∃ p ∈ s.ports, p.channel = a := by
  rw [channels_servicePorts, firstOfEach, mem_map_unionBy, List.map_nil, List.mem_map]
  exact or_iff_right List.not_mem_nil

theorem isDatagram_eq (h : q ∈ s.servicePorts) : q.isDatagram = decide (q.channel.2 = "UDP") := by
  obtain ⟨p, _, rfl⟩ := List.mem_map.1 h
  rw [isDatagram_servicePort, channel_servicePort]
  rfl

/-- Ports that repeat others take no sort of protocol away. -/
theorem filter_servicePorts_ne_nil (s : Service) (test : Bool → Bool) :
    s.servicePorts.filter (fun q => test q.isDatagram) ≠ [] ↔
      s.ports.any fun p => test (p.protocolName = "UDP") := by
  constructor
  · intro hne
    obtain ⟨q, hq⟩ := List.exists_mem_of_ne_nil _ hne
    obtain ⟨hq, htest⟩ := List.mem_filter.1 hq
    obtain ⟨p, hp, hchannel⟩ := mem_channels.1 (List.mem_map_of_mem hq)
    rw [isDatagram_eq hq, ← hchannel] at htest
    exact List.any_eq_true.2 ⟨p, hp, htest⟩
  · intro hany
    obtain ⟨p, hp, htest⟩ := List.any_eq_true.1 hany
    obtain ⟨q, hq, hchannel⟩ := List.mem_map.1 (mem_channels.2 ⟨p, hp, rfl⟩)
    refine List.ne_nil_of_mem (List.mem_filter.2 ⟨hq, ?_⟩)
    rw [isDatagram_eq hq, hchannel]
    exact htest

/-- The container opens the port that is led to, for its protocol. -/
theorem exists_containerPort (h : q ∈ s.servicePorts) : ∃ c ∈ s.containerPorts,
    q.targetPort = some c.port ∧ q.protocolName = c.protocol := by
  obtain ⟨p, hp, rfl⟩ := List.mem_map.1 h
  obtain ⟨p', hp', hkey⟩ := exists_mem_firstOfEach
    (fun p : Port => (p.containerPort, p.protocolName)) (mem_of_mem_firstOfEach hp)
  obtain ⟨hport, hprotocol⟩ := Prod.mk.inj hkey
  refine ⟨_, List.mem_map_of_mem hp', congrArg some hport.symm, ?_⟩
  rw [protocolName_servicePort]
  exact hprotocol.symm

/-- The ports of a service of one sort: datagrams, or all others. -/
def portsOfSort (s : Service) (datagrams : Bool) : List ServicePort :=
  s.servicePorts.filter (·.isDatagram == datagrams)

/-- The ports of a service as its addresses share them out. A load balancer takes the sorts apart,
and a sort without ports has no address. -/
def portShares (s : Service) : List (List ServicePort) :=
  if ServiceType.ofText s.serviceType = .loadBalancer then
    ([false, true].map s.portsOfSort).filter (· ≠ [])
  else [s.servicePorts]

theorem ports_fronts (h : s.ports ≠ []) : (s.fronts workload).map (·.ports) = s.portShares := by
  cases ht : ServiceType.ofText s.serviceType with
  | loadBalancer =>
    have hstreams : s.servicePorts.filter (!·.isDatagram) = s.portsOfSort false := by
      simp [portsOfSort]
    have hdatagrams : s.servicePorts.filter (·.isDatagram) = s.portsOfSort true := by
      simp [portsOfSort]
    simp only [fronts, portShares, frontNamed, ht, if_neg h, if_pos, List.map_map, hstreams,
      hdatagrams]
    by_cases hs : s.portsOfSort false = [] <;> by_cases hd : s.portsOfSort true = [] <;>
      simp [hs, hd]
  | clusterIp | nodePort | headless => simp [fronts, portShares, frontNamed, ht, h]

theorem servicePorts_ne_nil (h : s.ports ≠ []) : s.servicePorts ≠ [] := by
  obtain ⟨p, hp⟩ := List.exists_mem_of_ne_nil _ h
  obtain ⟨q, hq, _⟩ := List.mem_map.1 (mem_channels.2 ⟨p, hp, rfl⟩)
  exact List.ne_nil_of_mem hq

section Shares

variable {share : List ServicePort}

theorem mem_portShares_iff (hlb : ServiceType.ofText s.serviceType = .loadBalancer) :
    share ∈ s.portShares ↔ share ≠ [] ∧ ∃ datagrams, s.portsOfSort datagrams = share := by
  rw [portShares, if_pos hlb, List.mem_filter, decide_eq_true_eq, and_comm, List.mem_map]
  simp

theorem flatten_portShares : s.portShares.flatten.Perm s.servicePorts := by
  rw [portShares]
  split
  · rw [List.flatten_filter_ne_nil]
    simpa [portsOfSort] using List.filter_append_perm (!·.isDatagram) s.servicePorts
  · rw [List.flatten_singleton]

theorem sublist_of_mem_portShares (h : share ∈ s.portShares) : share.Sublist s.servicePorts := by
  by_cases hlb : ServiceType.ofText s.serviceType = .loadBalancer
  · obtain ⟨_, datagrams, rfl⟩ := (mem_portShares_iff hlb).1 h
    exact List.filter_sublist
  · rw [portShares, if_neg hlb, List.mem_singleton] at h
    rw [h]

theorem ne_nil_of_mem_portShares (hports : s.ports ≠ []) (h : share ∈ s.portShares) :
    share ≠ [] := by
  by_cases hlb : ServiceType.ofText s.serviceType = .loadBalancer
  · exact ((mem_portShares_iff hlb).1 h).1
  · rw [portShares, if_neg hlb, List.mem_singleton] at h
    rw [h]
    exact servicePorts_ne_nil hports

theorem isDatagram_eq_of_mem_portShares (hlb : ServiceType.ofText s.serviceType = .loadBalancer)
    (h : share ∈ s.portShares) (hq : q ∈ share) (hr : r ∈ share) :
    q.isDatagram = r.isDatagram := by
  obtain ⟨_, datagrams, rfl⟩ := (mem_portShares_iff hlb).1 h
  have hq := (List.mem_filter.1 hq).2
  have hr := (List.mem_filter.1 hr).2
  rw [eq_of_beq hq, eq_of_beq hr]

/-- Ports of one sort stay together. -/
theorem exists_portShare (hq : q ∈ s.servicePorts) (hr : r ∈ s.servicePorts)
    (hsame : q.isDatagram = r.isDatagram) : ∃ share ∈ s.portShares, q ∈ share ∧ r ∈ share := by
  by_cases hlb : ServiceType.ofText s.serviceType = .loadBalancer
  · have hmem : ∀ p ∈ s.servicePorts, p.isDatagram = r.isDatagram →
        p ∈ s.portsOfSort r.isDatagram :=
      fun p hp hp' => List.mem_filter.2 ⟨hp, beq_iff_eq.2 hp'⟩
    have hr' := hmem r hr rfl
    exact ⟨_, (mem_portShares_iff hlb).2 ⟨List.ne_nil_of_mem hr', _, rfl⟩, hmem q hq hsame, hr'⟩
  · rw [portShares, if_neg hlb]
    exact ⟨_, List.mem_singleton_self _, hq, hr⟩

theorem ports_mem_portShares {f : ClusterService} (h : s.ports ≠ []) (hf : f ∈ s.fronts workload) :
    f.ports ∈ s.portShares :=
  ports_fronts h ▸ List.mem_map_of_mem hf

theorem exists_front (workload : String) (hports : s.ports ≠ []) (hq : q ∈ s.servicePorts)
    (hr : r ∈ s.servicePorts) (hsame : q.isDatagram = r.isDatagram) :
    ∃ f ∈ s.fronts workload, q ∈ f.ports ∧ r ∈ f.ports := by
  have hshares : (s.fronts workload).map (·.ports) = s.portShares := ports_fronts hports
  obtain ⟨share, hshare, hq, hr⟩ := exists_portShare hq hr hsame
  rw [← hshares] at hshare
  obtain ⟨f, hf, rfl⟩ := List.mem_map.1 hshare
  exact ⟨f, hf, hq, hr⟩

end Shares

end Service

/-- Every declared port of a service is reached, once. -/
theorem ports_exposed (h : s.ports ≠ []) : s.Exposes (s.fronts workload) := by
  have hshare : ∀ f ∈ s.fronts workload, f.ports ∈ s.portShares :=
    fun f hf => Service.ports_mem_portShares h hf
  have hall : (s.fronts workload).flatMap (·.ports) = s.portShares.flatten := by
    rw [List.flatMap_def, Service.ports_fronts h]
  constructor
  case shared => exact hall ▸ Service.flatten_portShares
  case ordered => exact fun f hf => Service.sublist_of_mem_portShares (hshare f hf)
  case distinct => exact Service.nodup_channels
  case declared => exact fun a => Service.mem_channels
  case nonempty => exact fun f hf => Service.ne_nil_of_mem_portShares h (hshare f hf)
  case unmixed =>
    intro hlb f hf q hq r hr hudp
    have hordered := Service.sublist_of_mem_portShares (hshare f hf)
    have hsame := Service.isDatagram_eq_of_mem_portShares hlb (hshare f hf) hq hr
    rw [Service.isDatagram_eq (hordered.subset hq), Service.isDatagram_eq (hordered.subset hr),
      decide_eq_decide] at hsame
    exact hsame.1 hudp
  case targets => exact fun q => Service.exists_containerPort

/-- A load balancer with ports that repeat each other and three protocols. -/
def balancedService : Service :=
  { name := "web"
    serviceType := "LoadBalancer"
    ports :=
      [{ hostPort := some 8080, containerPort := 80 },
        { containerPort := 53, protocol := some "udp" },
        { hostPort := some 8080, containerPort := 81, protocol := some "TCP" },
        { hostPort := some 0, containerPort := 53, protocol := some "" },
        { hostPort := some 8080, containerPort := 80, protocol := some "Sctp" }] }

theorem ports_exposed_balanced : balancedService.Exposes (balancedService.fronts "web") ∧
    (balancedService.fronts "web").map (·.ports.map (·.channel)) =
      [[(8080, "TCP"), (53, "TCP"), (8080, "SCTP")], [(53, "UDP")]] :=
  ⟨ports_exposed (by decide), by decide +kernel⟩

end Manifests
