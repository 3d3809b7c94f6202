import Manifests.Proofs.Faults
import Manifests.Proofs.PodRuns

/-! What a health check becomes: nothing, a failure, or a probe that is made in one way. That way is
the first of those for which the check gives all that is needed. -/
namespace Manifests

theorem filled_eq_some_iff {s : Option String} {t : String} :
    filled s = some t ↔ s = some t ∧ t ≠ "" := by
  simp [filled, Option.filter_eq_some_iff]

theorem nonzero_eq_some_iff {o : Option Int} {n : Int} :
    nonzero o = some n ↔ o = some n ∧ n ≠ 0 := by
  simp [nonzero, Option.filter_eq_some_iff]

namespace ProbeHandler

/-- Commands come first, then web addresses, then ports. -/
def rank : ProbeHandler → Nat
  | exec _ => 0
  | httpGet .. => 1
  | tcpSocket _ => 2

/-- The field that a handler is written as. -/
def field : ProbeHandler → String × Document
  | exec command => ("exec", .mapping [("command", .sequence (command.map .text))])
  | httpGet path port => ("httpGet", .mapping [("path", .text path), ("port", .integer port)])
  | tcpSocket port => ("tcpSocket", .mapping [("port", .integer port)])

/-- The names of the fields that say how a probe is made. -/
def keys : List String := ["exec", "httpGet", "tcpSocket"]

theorem ne_field {handler : ProbeHandler} {key : String} {value : Document} (h : key ∉ keys) :
    (key, value) ≠ handler.field := by
  intro heq
  apply h
  have hkey : key = handler.field.1 := congrArg Prod.fst heq
  rw [hkey]
  cases handler <;> simp [field, keys]

end ProbeHandler

namespace Probe

variable {p : Probe}

/-- The numbers of a probe, under the names of their fields. -/
def numbers (p : Probe) : List (String × Option Int) :=
  [("failureThreshold", p.failureThreshold), ("initialDelaySeconds", p.initialDelay),
    ("periodSeconds", p.period), ("timeoutSeconds", p.timeout)]

/-- The field of this name is written when the number is given and not zero, and it holds that
number. -/
def Times (p : Probe) (key : String) (given : Option Int) : Prop :=
  ∀ value, (key, value) ∈ p.document.fields ↔ ∃ n, given = some n ∧ n ≠ 0 ∧ value = .integer n

/-- The fields of a probe are its handler's field and the numbers that it has. -/
theorem mem_fields {key : String} {value : Document} :
    (key, value) ∈ p.document.fields ↔
      (key, value) = p.handler.field ∨
      (key, value) ∈ Document.optional "failureThreshold" .integer p.failureThreshold ∨
      (key, value) ∈ Document.optional "initialDelaySeconds" .integer p.initialDelay ∨
      (key, value) ∈ Document.optional "periodSeconds" .integer p.period ∨
      (key, value) ∈ Document.optional "timeoutSeconds" .integer p.timeout := by
  cases hhandler : p.handler <;>
    simp [document, hhandler, Document.fields, ProbeHandler.field, Document.always, Document.texts,
      or_left_comm]

/-- A probe is written with the field of its handler and of no other. -/
theorem fields_filter_keys :
    p.document.fields.filter (fun field => field.1 ∈ ProbeHandler.keys) = [p.handler.field] := by
  have hnone : ∀ (key : String) (o : Option Int), key ∉ ProbeHandler.keys →
      (Document.optional key Document.integer o).filter
        (fun field => field.1 ∈ ProbeHandler.keys) = [] := by
    intro key o hkey
    cases o <;> simp [Document.optional, hkey]
  have hfailure := hnone "failureThreshold" p.failureThreshold (by decide)
  have hdelay := hnone "initialDelaySeconds" p.initialDelay (by decide)
  have hperiod := hnone "periodSeconds" p.period (by decide)
  have htimeout := hnone "timeoutSeconds" p.timeout (by decide)
  cases hhandler : p.handler <;>
    simp only [document, hhandler, Document.fields, List.filter_append, hfailure, hdelay, hperiod,
      htimeout, List.append_nil, List.nil_append] <;>
    rfl

/-- The field of a number is written when the probe has that number. -/
theorem mem_fields_of_mem_numbers {key : String} {own : Option Int} {value : Document}
    (h : (key, own) ∈ p.numbers) :
    (key, value) ∈ p.document.fields ↔ ∃ n, own = some n ∧ value = .integer n := by
  rw [mem_fields]
  simp only [numbers, List.mem_cons, List.not_mem_nil, Prod.mk.injEq, or_false] at h
  rcases h with ⟨rfl, rfl⟩ | ⟨rfl, rfl⟩ | ⟨rfl, rfl⟩ | ⟨rfl, rfl⟩ <;>
    simp [Document.mem_optional, ProbeHandler.ne_field, ProbeHandler.keys]

theorem times_iff {key : String} {own given : Option Int} (h : (key, own) ∈ p.numbers) :
    p.Times key given ↔ own = nonzero given := by
  constructor
  · intro htimes
    refine Option.ext fun n => ?_
    have hsame := (mem_fields_of_mem_numbers h).symm.trans (htimes (.integer n))
    simpa [nonzero_eq_some_iff] using hsame
  · rintro rfl value
    rw [mem_fields_of_mem_numbers h]
    simp only [nonzero_eq_some_iff, and_assoc]

end Probe

namespace HealthCheck

variable {c : HealthCheck} {service : String} {handler other : ProbeHandler} {p : Probe}

/-- The ways in which a check can be made with what it gives: a command, a web address with its path
and its port, a port. -/
inductive Offers (c : HealthCheck) : ProbeHandler → Prop
  | exec (htest : c.test ≠ []) : c.Offers (.exec c.test)
  | httpGet {path : String} {port : Int} (hpath : c.httpPath = some path) (hfilled : path ≠ "")
      (hport : c.httpPort = some port) (hnonzero : port ≠ 0) : c.Offers (.httpGet path port)
  | tcpSocket {port : Int} (hport : c.tcpPort = some port) (hnonzero : port ≠ 0) :
      c.Offers (.tcpSocket port)

/-- The check is off, or says nothing. -/
def Silent (c : HealthCheck) : Prop := c.disable ∨ c = {}

/-- The numbers that a check gives, under the names of the fields that they belong in. -/
def numbers (c : HealthCheck) : List (String × Option Int) :=
  [("failureThreshold", c.retries), ("initialDelaySeconds", c.startPeriod),
    ("periodSeconds", c.interval), ("timeoutSeconds", c.timeout)]

/-- A probe that is made in the first way that a check offers, with the check's own numbers. -/
structure ProbedBy (c : HealthCheck) (p : Probe) : Prop where
  offered : c.Offers p.handler
  first : ∀ other, c.Offers other → p.handler.rank ≤ other.rank
  /-- Of the fields that say how a probe is made, the one for this way is written alone. This is so
  for every probe, because it has one handler only. -/
  alone : p.document.fields.filter (fun field => field.1 ∈ ProbeHandler.keys) = [p.handler.field]
  times : ∀ number ∈ c.numbers, p.Times number.1 number.2

theorem Offers.eq_of_rank_eq (h : c.Offers handler) (hother : c.Offers other)
    (hrank : handler.rank = other.rank) : handler = other := by
  cases h <;> cases hother <;> simp_all [ProbeHandler.rank]

/-- The handler of a check is a way that it offers, and none that it offers comes before. -/
theorem offers_of_handler? (h : c.handler? = some handler) :
    c.Offers handler ∧ ∀ other, c.Offers other → handler.rank ≤ other.rank := by
  rw [handler?] at h
  by_cases htest : c.test = []
  · rw [if_neg (not_not.2 htest)] at h
    split at h
    · rename_i path port _ hpath hport
      obtain ⟨hpath, hfilled⟩ := filled_eq_some_iff.1 hpath
      obtain ⟨hport, hnonzero⟩ := nonzero_eq_some_iff.1 hport
      cases h
      refine ⟨.httpGet hpath hfilled hport hnonzero, fun other hother => ?_⟩
      cases hother with
      | exec hnot => exact absurd htest hnot
      | httpGet => exact Nat.le_refl _
      | tcpSocket => exact Nat.le_succ 1
    · rename_i port htcp hweb
      obtain ⟨htcp, hnonzero⟩ := nonzero_eq_some_iff.1 htcp
      cases h
      refine ⟨.tcpSocket htcp hnonzero, fun other hother => ?_⟩
      cases hother with
      | exec hnot => exact absurd htest hnot
      | httpGet hpath hfilled hport hnonzero =>
        exact absurd (nonzero_eq_some_iff.2 ⟨hport, hnonzero⟩)
          (hweb _ _ (filled_eq_some_iff.2 ⟨hpath, hfilled⟩))
      | tcpSocket => exact Nat.le_refl _
    · cases h
  · rw [if_pos htest] at h
    cases h
    exact ⟨.exec htest, fun _ _ => Nat.zero_le _⟩

/-- There is no handler where no command, no complete web address and no port is given. -/
theorem handler?_eq_none_iff :
    c.handler? = none ↔ c.test = [] ∧ (filled c.httpPath = none ∨ nonzero c.httpPort = none) ∧
      nonzero c.tcpPort = none := by
  by_cases htest : c.test = []
  · cases hpath : filled c.httpPath <;> cases hport : nonzero c.httpPort <;>
      cases htcp : nonzero c.tcpPort <;> simp [handler?, htest, hpath, hport, htcp]
  · simp [handler?, htest]

theorem not_offers (h : c.handler? = none) : ¬c.Offers handler := by
  obtain ⟨htest, hweb, htcp⟩ := handler?_eq_none_iff.1 h
  intro hoffers
  cases hoffers with
  | exec hnot => exact hnot htest
  | httpGet hpath hfilled hport hnonzero =>
    simp [filled_eq_some_iff.2 ⟨hpath, hfilled⟩, nonzero_eq_some_iff.2 ⟨hport, hnonzero⟩] at hweb
  | tcpSocket hport hnonzero => simp [nonzero_eq_some_iff.2 ⟨hport, hnonzero⟩] at htcp

theorem handler?_eq_some_iff :
    c.handler? = some handler ↔
      c.Offers handler ∧ ∀ other, c.Offers other → handler.rank ≤ other.rank := by
  refine ⟨offers_of_handler?, fun ⟨hoffers, hfirst⟩ => ?_⟩
  cases hhandler : c.handler? with
  | none => exact absurd hoffers (not_offers hhandler)
  | some other =>
    obtain ⟨hother, hleast⟩ := offers_of_handler? hhandler
    have hrank := Nat.le_antisymm (hleast handler hoffers) (hfirst other hother)
    rw [hother.eq_of_rank_eq hoffers hrank]

/-- A probe has the numbers of a check when each of them is the check's number, zero left out. -/
theorem times_numbers_iff : (∀ number ∈ c.numbers, p.Times number.1 number.2) ↔
    p.failureThreshold = nonzero c.retries ∧ p.initialDelay = nonzero c.startPeriod ∧
      p.period = nonzero c.interval ∧ p.timeout = nonzero c.timeout := by
  have hfailure : ("failureThreshold", p.failureThreshold) ∈ p.numbers := by simp [Probe.numbers]
  have hdelay : ("initialDelaySeconds", p.initialDelay) ∈ p.numbers := by simp [Probe.numbers]
  have hperiod : ("periodSeconds", p.period) ∈ p.numbers := by simp [Probe.numbers]
  have htimeout : ("timeoutSeconds", p.timeout) ∈ p.numbers := by simp [Probe.numbers]
  simp only [numbers, List.forall_mem_cons, List.not_mem_nil, false_implies, implies_true, and_true]
  rw [Probe.times_iff hfailure, Probe.times_iff hdelay, Probe.times_iff hperiod,
    Probe.times_iff htimeout]

theorem probedBy_iff : c.ProbedBy p ↔ c.handler? = some p.handler ∧
    p.failureThreshold = nonzero c.retries ∧ p.initialDelay = nonzero c.startPeriod ∧
    p.period = nonzero c.interval ∧ p.timeout = nonzero c.timeout := by
  rw [handler?_eq_some_iff, ← times_numbers_iff]
  constructor
  · intro h
    exact ⟨⟨h.offered, h.first⟩, h.times⟩
  · rintro ⟨⟨hoffered, hfirst⟩, htimes⟩
    exact ⟨hoffered, hfirst, Probe.fields_filter_keys, htimes⟩

theorem probe_of_silent (h : c.Silent) : c.probe service = .ok none := if_pos h

theorem probe_of_handler (h : ¬c.Silent) (hhandler : c.handler? = some handler) :
    c.probe service =
      .ok (some
        { handler
          failureThreshold := nonzero c.retries
          initialDelay := nonzero c.startPeriod
          period := nonzero c.interval
          timeout := nonzero c.timeout }) := by
  rw [probe, hhandler]
  exact if_neg h

theorem probe_of_no_handler (h : ¬c.Silent) (hnone : c.handler? = none) :
    c.probe service = .error (.malformedHealthCheck service) := by
  rw [probe, hnone]
  exact if_neg h

theorem probe_eq_none_iff : c.probe service = .ok none ↔ c.Silent := by
  refine ⟨fun hnothing => ?_, probe_of_silent⟩
  by_contra hsilent
  cases hhandler : c.handler? with
  | none =>
    rw [probe_of_no_handler hsilent hhandler] at hnothing
    cases hnothing
  | some handler =>
    rw [probe_of_handler hsilent hhandler] at hnothing
    cases hnothing

theorem probe_eq_error_iff {failure : Failure} :
    c.probe service = .error failure ↔ failure = .malformedHealthCheck service ∧ c.Malformed := by
  rw [← failure?_eq_some, failure?_probe, Option.ite_none_right_eq_some, Option.some.injEq,
    and_comm, eq_comm]

theorem probe_eq_some_iff : c.probe service = .ok (some p) ↔ ¬c.Silent ∧ c.ProbedBy p := by
  rw [probedBy_iff]
  by_cases hsilent : c.Silent
  · simp [probe_of_silent hsilent, hsilent]
  · cases hhandler : c.handler? with
    | none => simp [probe_of_no_handler hsilent hhandler]
    | some own =>
      obtain ⟨handler, failureThreshold, initialDelay, period, timeout⟩ := p
      rw [probe_of_handler hsilent hhandler]
      simp only [Except.ok.injEq, Option.some.injEq, Probe.mk.injEq, hsilent, not_false_eq_true,
        true_and]
      tauto

theorem exists_probe_iff : (∃ p, c.probe service = .ok (some p)) ↔ ¬c.Silent ∧ ¬c.Malformed := by
  constructor
  · rintro ⟨p, hp⟩
    refine ⟨(probe_eq_some_iff.1 hp).1, fun hmalformed => ?_⟩
    rw [probe_eq_error_iff.2 ⟨rfl, hmalformed⟩] at hp
    cases hp
  · rintro ⟨hspoken, hsound⟩
    cases houtcome : c.probe service with
    | error failure => exact absurd (probe_eq_error_iff.1 houtcome).2 hsound
    | ok made =>
      cases made with
      | none => exact absurd (probe_eq_none_iff.1 houtcome) hspoken
      | some p => exact ⟨p, rfl⟩

/-- A check makes no probe if it is off or says nothing. It fails, under the name of its service, if
it has no way to be made. Otherwise it is made in the first way that it offers, and in no other. -/
theorem probe_outcome :
    (c.probe service = .ok none ↔ c.disable ∨ c = {}) ∧
      (∀ failure, c.probe service = .error failure ↔
        failure = .malformedHealthCheck service ∧ c.Malformed) ∧
      ((∃ p, c.probe service = .ok (some p)) ↔ ¬(c.disable ∨ c = {}) ∧ ¬c.Malformed) ∧
      ∀ p, c.probe service = .ok (some p) ↔ ¬(c.disable ∨ c = {}) ∧ c.ProbedBy p :=
  ⟨probe_eq_none_iff, fun _ => probe_eq_error_iff, exists_probe_iff, fun _ => probe_eq_some_iff⟩

end HealthCheck

end Manifests
