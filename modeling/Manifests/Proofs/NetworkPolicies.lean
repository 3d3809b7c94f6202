import Manifests.Proofs.CanonicalList
import Manifests.Proofs.Origin
import Manifests.Proofs.Text

/-! The labels that pods carry for their networks, and the policies by which these take effect. -/
namespace Manifests

variable {services : Dict Service} {opt : Options} {objects : List Object} {o : Object}
  {u : WorkloadUnit} {s : Service} {n : String} {e : String × String} {p : NetworkPolicy}

section Labels

variable {key : String} {networks : List String}

/-- The label stands for a network. -/
def Label.isNetwork (key : String) : Bool := (Text.after? network.toList key.toList).isSome

theorem isNetwork_networkLabel : Label.isNetwork (networkLabel n) := by
  have hafter : Text.after? Label.network.toList (networkLabel n).toList =
      some (resourceName n).toList := after?_eq_some.2 String.toList_append
  rw [Label.isNetwork, hafter]
  rfl

/-- A label for a network is no label of a service's own. -/
theorem after?_reserved_of_isNetwork (h : Label.isNetwork key) :
    (Text.after? Label.reserved.toList key.toList).isSome := by
  obtain ⟨rest, hrest⟩ := Option.isSome_iff_exists.1 h
  have hparts : Label.network.toList = Label.reserved.toList ++ "network/".toList := by
    rw [← String.toList_append]
    rfl
  rw [after?_eq_some, hparts, List.append_assoc] at hrest
  rw [after?_eq_some.2 hrest]
  rfl

theorem isNetwork_service : Label.isNetwork Label.service = false := rfl

theorem networkLabel_inj {n' : String} :
    networkLabel n = networkLabel n' ↔ resourceName n = resourceName n' :=
  String.append_right_inj _

theorem get?_selectorLabels_network (hkey : Label.isNetwork key) :
    (selectorLabels n).get? key = none := by
  rw [selectorLabels, Dict.get?_singleton, if_neg]
  rintro rfl
  rw [isNetwork_service] at hkey
  cases hkey

/-- Of the labels that a conversion gives to pods, those of the networks are for networks. -/
theorem get?_podLabels_network (hkey : Label.isNetwork key) :
    (podLabels n networks opt).get? key =
      if opt.networkPolicies ∧ key ∈ networks.map networkLabel then some "true" else none := by
  have hself := get?_selectorLabels_network (n := n) hkey
  rw [podLabels]
  by_cases hon : opt.networkPolicies
  · have hpairs : networks.map (fun n => (networkLabel n, "true")) =
        (networks.map networkLabel).map fun k => (k, "true") := by
      rw [List.map_map]
      rfl
    rw [if_pos hon, hpairs, Dict.get?_insertAll_const, hself]
    simp only [hon, true_and]
  · rw [if_neg hon, hself, if_neg fun h => hon h.1]

end Labels

namespace Object

/-- The labels that the pods of a workload carry for networks, with their values. -/
def networkLabels (o : Object) : List (String × String) :=
  (o.podLabels?.getD ∅).entries.filter fun e => Label.isNetwork e.1

theorem mem_networkLabels :
    e ∈ o.networkLabels ↔ (o.podLabels?.getD ∅).get? e.1 = some e.2 ∧ Label.isNetwork e.1 := by
  rw [networkLabels, List.mem_filter]
  exact and_congr_left fun _ => ⟨Dict.get?_of_mem, Dict.mem_of_get?⟩

theorem networkLabels_of_not_isWorkload (h : o.isWorkload = false) : o.networkLabels = [] := by
  cases o with
  | controller | specless | pod => cases h
  | service | claim | configMap | autoscaler | networkPolicy => rfl

end Object

namespace WorkloadUnit

variable {kind : WorkloadKind} {primary : Service} {spec : PodSpec} {a : Object}
  {units : List WorkloadUnit} {joins : List Join}

/-- No service can label its pods as members of a network by itself. -/
theorem get?_firstLabels (hkey : Label.isNetwork n) :
    (u.firstLabels kind primary).get? n = none := by
  rw [firstLabels]
  split
  · exact get?_selectorLabels_network hkey
  · rw [Service.workloadLabels, Dict.get?_union, get?_selectorLabels_network hkey, Option.or_none]
    cases hget : (primary.labels.filter fun key _ =>
      (Text.after? Label.reserved.toList key.toList).isNone).get? n with
    | none => rfl
    | some v =>
      have hown := (List.mem_filter.1 (Dict.mem_of_get? hget)).2
      have hreserved := after?_reserved_of_isNetwork hkey
      rw [Option.isNone_iff_eq_none] at hown
      rw [hown] at hreserved
      cases hreserved

/-- Pods are labelled for the networks of the services of their unit, and for no others. -/
theorem Origin.mem_networkLabels_iff (h : Origin units opt joins u a o) :
    e ∈ o.networkLabels ↔ opt.networkPolicies ∧ e.2 = "true" ∧
      ∃ s ∈ u.members, ∃ n ∈ s.networks, e.1 = networkLabel n := by
  obtain ⟨spec, os, hc⟩ := h.converted
  obtain ⟨primary, _, ha⟩ := hc.workload_eq
  let networks := firstOfEach id ((u.servicesUnder (u.chosen opt)).flatMap (·.networks))
  have hmem : e.1 ∈ networks.map networkLabel ↔
      ∃ s ∈ u.members, ∃ n ∈ s.networks, e.1 = networkLabel n := by
    rw [List.mem_map]
    constructor
    · rintro ⟨n, hn, hlabel⟩
      rw [mem_firstOfEach_id, flatMap_servicesUnder _ fun _ _ => rfl] at hn
      obtain ⟨s, hs, hn⟩ := List.mem_flatMap.1 hn
      exact ⟨s, hs, n, hn, hlabel.symm⟩
    · rintro ⟨s, hs, n, hn, hlabel⟩
      refine ⟨n, ?_, hlabel.symm⟩
      rw [mem_firstOfEach_id, flatMap_servicesUnder _ fun _ _ => rfl]
      exact List.mem_flatMap.2 ⟨s, hs, hn⟩
  have hlabels : o.podLabels? = some ((u.firstLabels (u.chosen opt) primary).union
      (podLabels u.name networks opt)) := by
    rw [h.observed fun _ => Object.podLabels?_emptied, podLabels?_placed, ha,
      podLabels?_workload]
  rw [Object.mem_networkLabels, hlabels, Option.getD_some, Dict.get?_union, ← hmem]
  constructor
  · rintro ⟨hget, hkey⟩
    rw [get?_firstLabels hkey, Option.or_none, get?_podLabels_network hkey] at hget
    split at hget
    · rename_i hon
      exact ⟨hon.1, (Option.some_inj.1 hget).symm, hon.2⟩
    · cases hget
  · rintro ⟨hon, hvalue, hlabel⟩
    obtain ⟨n, _, hn⟩ := List.mem_map.1 hlabel
    have hkey : Label.isNetwork e.1 := hn ▸ isNetwork_networkLabel
    refine ⟨?_, hkey⟩
    rw [get?_firstLabels hkey, Option.or_none, get?_podLabels_network hkey, if_pos ⟨hon, hlabel⟩,
      hvalue]

/-- The networks of all members of a unit get policies beside its workload. -/
theorem networkPolicy_mem_siblings {workload : String} :
    Object.networkPolicy p ∈ siblings workload kind opt s ↔
      opt.networkPolicies ∧ ∃ n ∈ s.networks, p = networkPolicy n := by
  simp only [siblings, List.mem_append, List.mem_map, reduceCtorEq, and_false, exists_false,
    false_or, apply_ite (Object.networkPolicy p ∈ ·), List.not_mem_nil, ite_self]
  by_cases hon : opt.networkPolicies
  · simp [hon, eq_comm]
  · simp [hon]

end WorkloadUnit

namespace Object

/-- The object as a network policy, if it is one. -/
def policy? : Object → Option NetworkPolicy
  | networkPolicy p => some p
  | _ => none

theorem policy?_eq_some : o.policy? = some p ↔ o = networkPolicy p := by
  cases o <;> simp [policy?]

theorem exists_policy_of_kind (h : o.kind = "NetworkPolicy") : ∃ p, o = networkPolicy p := by
  cases o with
  | networkPolicy p => exact ⟨p, rfl⟩
  | controller c =>
    rcases c with ⟨_, form, _, _⟩
    cases form <;> simp [kind, Controller.kind, WorkloadKind.name] at h
  | specless k m => cases k <;> simp [kind, SpeclessKind.kind, WorkloadKind.name] at h
  | pod | service | claim | configMap | autoscaler => simp [kind, WorkloadKind.name] at h

end Object

/-- The network policies among some objects. -/
def policies (objects : List Object) : List NetworkPolicy := objects.filterMap Object.policy?

theorem mem_policies : p ∈ policies objects ↔ .networkPolicy p ∈ objects := by
  rw [policies, List.mem_filterMap]
  simp only [Object.policy?_eq_some, exists_eq_right]

/-- The policy lets pods with a label be reached by pods with the same label only. -/
structure NetworkPolicy.Connects (p : NetworkPolicy) (label : String) : Prop where
  selector_eq : p.selector = .singleton label "true"
  peers_eq : p.peers = [.singleton label "true"]

/-- The policy for a network is in some namespace, and has not changed otherwise. -/
def NetworkPolicy.IsFor (p : NetworkPolicy) (opt : Options) (network : String) : Prop :=
  .networkPolicy p = placed opt (.networkPolicy (networkPolicy network))

namespace NetworkPolicy.IsFor

variable {p' : NetworkPolicy} {n' : String} (h : p.IsFor opt n)

include h

theorem connects : p.Connects (networkLabel n) := by
  rw [IsFor, placed] at h
  split at h <;> cases h <;> exact ⟨rfl, rfl⟩

theorem key_eq : (Object.networkPolicy p).key =
    ⟨"NetworkPolicy", filled opt.namespaceName, resourceName n ++ "-network-policy"⟩ := by
  rw [h, key_placed]
  exact congrArg (ObjectKey.mk "NetworkPolicy" · _) Option.or_none

/-- Policies for one label have one key. -/
theorem key_eq_of_selector_eq (h' : p'.IsFor opt n') (hselector : p.selector = p'.selector) :
    (Object.networkPolicy p).key = (Object.networkPolicy p').key := by
  rw [h.connects.selector_eq, h'.connects.selector_eq] at hselector
  have hlabel : networkLabel n = networkLabel n' :=
    congrArg Prod.fst (List.head_eq_of_cons_eq (congrArg Dict.entries hselector))
  rw [h.key_eq, h'.key_eq, networkLabel_inj.1 hlabel]

end NetworkPolicy.IsFor

/-- Policies are made for networks, and only where they are asked for. -/
theorem exists_isFor (h : convert services opt = .ok objects) (hp : p ∈ policies objects) :
    opt.networkPolicies ∧ ∃ n, p.IsFor opt n := by
  obtain ⟨u, hu, os, hos, b, hb, hplaced⟩ := exists_made_of_mem h (mem_policies.1 hp) rfl
  obtain ⟨spec, a, hc⟩ := WorkloadUnit.convert_ok (members_ne_nil hu) hos
  have hkind : b.kind = "NetworkPolicy" := by
    rw [← kind_placed, ← hplaced]
    rfl
  obtain ⟨q, rfl⟩ := Object.exists_policy_of_kind hkind
  rcases hc.mem_cases hb with rfl | ⟨s, _, hb⟩ | ⟨scaling, hscaling⟩
  · cases hc.made.isWorkload
  · obtain ⟨hon, n, _, rfl⟩ := WorkloadUnit.networkPolicy_mem_siblings.1 hb
    exact ⟨hon, n, hplaced⟩
  · cases hscaling

/-- The networks of all services get policies. -/
theorem exists_policy (h : convert services opt = .ok objects) (hon : opt.networkPolicies)
    (hu : u ∈ unitsOf (keyed services) opt.groupMode) (hs : s ∈ u.members) (hn : n ∈ s.networks) :
    ∃ p ∈ policies objects, p.IsFor opt n := by
  obtain ⟨made, merged, hmade, hmerge, hobjects⟩ := convert_ok h
  obtain ⟨os, hos, hconvert⟩ := exists_right hmade hu
  obtain ⟨spec, a, hc⟩ := WorkloadUnit.convert_ok (members_ne_nil hu) hconvert
  have hnetworks : (s.underKind (u.chosen opt)).networks = s.networks :=
    WorkloadUnit.underKind_observed _ fun _ => rfl
  have hsibling : Object.networkPolicy (networkPolicy n) ∈ os := by
    refine hc.mem_of_sibling (List.mem_map_of_mem hs) ?_
    rw [WorkloadUnit.networkPolicy_mem_siblings, hnetworks]
    exact ⟨hon, n, hn, rfl⟩
  have hmerged : Object.networkPolicy (networkPolicy n) ∈ merged :=
    (mem_mergeJoins_iff hmerge rfl).2 (List.mem_flatten_of_mem hos hsibling)
  -- Another policy may stand for this one, but it has the same name and so is the same.
  obtain ⟨b, hb, hkey⟩ := exists_mem_arranged opt hmerged
  rw [← hobjects] at hb
  obtain ⟨p, rfl⟩ := Object.exists_policy_of_kind
    ((congrArg ObjectKey.kind hkey).trans kind_placed)
  obtain ⟨_, n', hp⟩ := exists_isFor h (mem_policies.2 hb)
  refine ⟨p, mem_policies.2 hb, ?_⟩
  have hname : resourceName n' = resourceName n := by
    rw [hp.key_eq, key_placed] at hkey
    exact (String.append_left_inj _).1 (congrArg ObjectKey.name hkey)
  have hsame : networkPolicy n' = networkPolicy n := by
    rw [networkPolicy, networkPolicy, networkLabel, networkLabel, hname]
  rwa [NetworkPolicy.IsFor, ← hsame]

/-- No two policies select one label. -/
theorem nodup_selectors (h : convert services opt = .ok objects) :
    ((policies objects).map (·.selector)).Nodup := by
  have hkeys := List.pairwise_map.1 (nodup_keys_convert h)
  refine List.pairwise_map.2 (List.pairwise_filterMap.2 (hkeys.imp_of_mem ?_))
  intro a b ha hb hne p hp q hq hselector
  rw [Object.policy?_eq_some] at hp hq
  subst hp hq
  obtain ⟨_, n, hn⟩ := exists_isFor h (mem_policies.2 ha)
  obtain ⟨_, n', hn'⟩ := exists_isFor h (mem_policies.2 hb)
  exact hne (hn.key_eq_of_selector_eq hn' hselector)

/-- Without network policies there is neither a policy nor a label for a network. With them, every
such label of a pod is selected by exactly one policy, which lets the pods with this label reach
one another. -/
theorem networks_match (h : convert services opt = .ok objects) :
    (opt.networkPolicies = false →
      policies objects = [] ∧ ∀ o ∈ objects, o.networkLabels = []) ∧
    (opt.networkPolicies = true →
      (∀ o ∈ objects, ∀ e ∈ o.networkLabels, e.2 = "true" ∧
        ∃ p, (policies objects).filter (·.selector = .singleton e.1 "true") = [p] ∧
          p.Connects e.1) ∧
      ((policies objects).map (·.selector)).Nodup) := by
  have horigin : ∀ o ∈ objects, ∀ e ∈ o.networkLabels, opt.networkPolicies ∧ e.2 = "true" ∧
      ∃ u ∈ unitsOf (keyed services) opt.groupMode, ∃ s ∈ u.members, ∃ n ∈ s.networks,
        e.1 = networkLabel n := by
    intro o ho e he
    have hw : o.isWorkload := by
      by_contra hw
      rw [Object.networkLabels_of_not_isWorkload (Bool.not_eq_true _ ▸ hw)] at he
      cases he
    obtain ⟨u, a, hu⟩ := exists_origin h ho hw
    obtain ⟨hon, hvalue, hlabel⟩ := hu.mem_networkLabels_iff.1 he
    exact ⟨hon, hvalue, u, hu.mem, hlabel⟩
  refine ⟨fun hoff => ⟨?_, fun o ho => ?_⟩, fun hon => ⟨fun o ho e he => ?_, nodup_selectors h⟩⟩
  · refine List.eq_nil_iff_forall_not_mem.2 fun p hp => ?_
    rw [(exists_isFor h hp).1] at hoff
    cases hoff
  · refine List.eq_nil_iff_forall_not_mem.2 fun e he => ?_
    rw [(horigin o ho e he).1] at hoff
    cases hoff
  · obtain ⟨_, hvalue, u, hu, s, hs, n, hn, hlabel⟩ := horigin o ho e he
    obtain ⟨p, hp, hfor⟩ := exists_policy h hon hu hs hn
    rw [hlabel, ← hfor.connects.selector_eq]
    exact ⟨hvalue, p, filter_key_of_nodup (nodup_selectors h) hp, hfor.connects⟩

/-- Two spellings of one network, and a bare pod that is labelled as if it were in another one. -/
def networkedServices : Dict Service :=
  let task : Service :=
    { image := "busybox"
      restart := "no"
      networks := ["front_end"]
      labels := .singleton (networkLabel "back") "true" }
  .ofList [("task", task), ("web", { image := "nginx", networks := ["front-end", "back"] })]

theorem networks_match_spelled :
    policies (output networkedServices {}) = [] ∧
    ∃ o ∈ output networkedServices { networkPolicies := true }, o.kind = "Pod" ∧
      o.networkLabels = [(networkLabel "front-end", "true")] ∧
      ∃ p, (policies (output networkedServices { networkPolicies := true })).filter
          (·.selector = .singleton (networkLabel "front-end") "true") = [p] ∧
        p.Connects (networkLabel "front-end") := by
  have hpod : ∃ o ∈ output networkedServices { networkPolicies := true },
      o.kind = "Pod" ∧ o.networkLabels = [(networkLabel "front-end", "true")] := by
    decide +kernel
  constructor
  · have hok : convert networkedServices {} = .ok (output networkedServices {}) :=
      convert_output (by decide +kernel)
    exact ((networks_match hok).1 rfl).1
  · have hok : convert networkedServices { networkPolicies := true } =
        .ok (output networkedServices { networkPolicies := true }) :=
      convert_output (by decide +kernel)
    obtain ⟨o, ho, hkind, hlabels⟩ := hpod
    have hmem : (networkLabel "front-end", "true") ∈ o.networkLabels := by
      rw [hlabels]
      exact List.mem_singleton_self _
    exact ⟨o, ho, hkind, hlabels, (((networks_match hok).2 rfl).1 o ho _ hmem).2⟩

end Manifests
