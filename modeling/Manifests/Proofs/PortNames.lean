import Manifests.Proofs.Ports
import Manifests.Proofs.Text

/-! Names of ports. They tell UDP from other protocols, but not these from each other. -/
namespace Manifests

/-- Two ports of one number, for two protocols other than UDP. -/
structure Port.SharesName (p p' : Port) : Prop where
  exposed : p.exposed = p'.exposed
  protocols : p.protocolName ≠ p'.protocolName
  notUdp : p.protocolName ≠ "UDP" ∧ p'.protocolName ≠ "UDP"

/-- What a port is called after its channel. -/
def portName (a : Int × String) : String :=
  if a.2 = "UDP" then toString a.1 ++ "-udp" else toString a.1

variable {s : Service} {workload : String} {p p' : Port} {q : ServicePort} {f : ClusterService}

theorem portName_eq_iff {a b : Int × String} :
    portName a = portName b ↔ a.1 = b.1 ∧ (a.2 = "UDP" ↔ b.2 = "UDP") := by
  have hending : ∀ m n : Int, toString m ++ "-udp" ≠ toString n := by
    intro m n h
    have hletter : 'u' ∈ (toString n).toList := by
      rw [← h, String.toList_append]
      exact List.mem_append_right _ (by decide)
    exact absurd (isDigit_or_sign_of_mem_toString hletter) (by decide)
  have hsame : ∀ m n : Int, toString m = toString n ↔ m = n :=
    fun _ _ => ⟨eq_of_toString_eq, congrArg toString⟩
  rw [portName, portName]
  by_cases ha : a.2 = "UDP" <;> by_cases hb : b.2 = "UDP"
  · rw [if_pos ha, if_pos hb, String.append_left_inj, hsame]
    exact (and_iff_left (iff_of_true ha hb)).symm
  · rw [if_pos ha, if_neg hb]
    exact iff_of_false (hending _ _) fun h => hb (h.2.1 ha)
  · rw [if_neg ha, if_pos hb]
    exact iff_of_false (hending _ _).symm fun h => ha (h.2.2 hb)
  · rw [if_neg ha, if_neg hb, hsame]
    exact (and_iff_left (iff_of_false ha hb)).symm

theorem name_eq_portName (h : q ∈ s.servicePorts) : q.name = portName q.channel := by
  obtain ⟨p, _, rfl⟩ := List.mem_map.1 h
  rw [channel_servicePort]
  rfl

theorem nodup_names_servicePorts (h : ∀ p ∈ s.ports, ∀ p' ∈ s.ports, ¬ p.SharesName p') :
    (s.servicePorts.map (·.name)).Nodup := by
  refine (Service.nodup_channels.of_map _).map_on fun q hq r hr hname => ?_
  refine List.inj_on_of_nodup_map Service.nodup_channels hq hr ?_
  obtain ⟨p, hp, hchannel⟩ := Service.mem_channels.1 (List.mem_map_of_mem hq)
  obtain ⟨p', hp', hchannel'⟩ := Service.mem_channels.1 (List.mem_map_of_mem hr)
  rw [name_eq_portName hq, name_eq_portName hr, portName_eq_iff, ← hchannel, ← hchannel'] at hname
  obtain ⟨hexposed, hudp⟩ := hname
  rw [← hchannel, ← hchannel']
  by_contra hne
  have hprotocols : p.protocolName ≠ p'.protocolName := fun h => hne (Prod.ext hexposed h)
  have hnot : p.protocolName ≠ "UDP" := fun h => hprotocols (h.trans (hudp.1 h).symm)
  exact h p hp p' hp' ⟨hexposed, hprotocols, hnot, fun h => hnot (hudp.2 h)⟩

/-- Ports that share a name stand side by side. -/
theorem exists_front_of_sharesName (workload : String) (hports : s.ports ≠ []) (hp : p ∈ s.ports)
    (hp' : p' ∈ s.ports) (h : p.SharesName p') :
    ∃ f ∈ s.fronts workload, ¬ (f.ports.map (·.name)).Nodup := by
  obtain ⟨q, hq, hchannel⟩ := List.mem_map.1 (Service.mem_channels.2 ⟨p, hp, rfl⟩)
  obtain ⟨r, hr, hchannel'⟩ := List.mem_map.1 (Service.mem_channels.2 ⟨p', hp', rfl⟩)
  have hname : q.name = r.name := by
    rw [name_eq_portName hq, name_eq_portName hr, hchannel, hchannel', portName_eq_iff]
    exact ⟨h.exposed, iff_of_false h.notUdp.1 h.notUdp.2⟩
  have hsort : q.isDatagram = r.isDatagram := by
    rw [Service.isDatagram_eq hq, Service.isDatagram_eq hr, hchannel, hchannel', decide_eq_decide]
    exact iff_of_false h.notUdp.1 h.notUdp.2
  obtain ⟨f, hf, hqf, hrf⟩ := Service.exists_front workload hports hq hr hsort
  refine ⟨f, hf, fun hnodup => h.protocols ?_⟩
  have hsame : q = r := List.inj_on_of_nodup_map hnodup hqf hrf hname
  rw [hsame] at hchannel
  exact congrArg Prod.snd (hchannel.symm.trans hchannel')

/-- Without declared ports there is at most one port that stands in for them. -/
theorem names_of_no_ports (hports : s.ports = []) (hf : f ∈ s.fronts workload) :
    f.ports.map (·.name) = ["headless"] := by
  rw [Service.fronts, if_pos hports] at hf
  dsimp only at hf
  split at hf
  · rw [List.mem_singleton.1 hf]
    rfl
  · cases hf

/-- The ports of every address have names of their own exactly where no number is declared for two
protocols other than UDP. -/
theorem port_names_distinct_iff (s : Service) (workload : String) :
    (∀ f ∈ s.fronts workload, (f.ports.map (·.name)).Nodup) ↔
      ∀ p ∈ s.ports, ∀ p' ∈ s.ports, ¬ p.SharesName p' := by
  by_cases hports : s.ports = []
  · refine iff_of_true (fun f hf => ?_) (by simp [hports])
    rw [names_of_no_ports hports hf]
    exact List.nodup_singleton _
  constructor
  · intro hnodup p hp p' hp' hshares
    obtain ⟨f, hf, hrepeated⟩ := exists_front_of_sharesName workload hports hp hp' hshares
    exact hrepeated (hnodup f hf)
  · intro hapart f hf
    have hordered := Service.sublist_of_mem_portShares (Service.ports_mem_portShares hports hf)
    exact (nodup_names_servicePorts hapart).sublist (hordered.map _)

/-- A service that takes TCP and SCTP on one port. -/
def streamingService : Service :=
  { name := "web"
    ports := [{ containerPort := 80 }, { containerPort := 80, protocol := some "sctp" }] }

theorem not_all_port_names_distinct : ¬ ∀ (s : Service) (workload : String),
    ∀ f ∈ s.fronts workload, (f.ports.map (·.name)).Nodup := by
  intro h
  have hnames : (streamingService.fronts "web").map (·.ports.map (·.name)) = [["80", "80"]] := by
    decide +kernel
  obtain ⟨f, hf, hports⟩ := List.mem_map.1 (hnames ▸ List.mem_singleton_self ["80", "80"])
  have hnodup := h streamingService "web" f hf
  rw [hports] at hnodup
  exact absurd hnodup (by decide)

end Manifests
