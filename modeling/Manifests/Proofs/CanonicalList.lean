import Manifests.Proofs.Conversion

/-! The list of objects that a conversion ends with. Whatever order its two passes run in, and
whatever parts of a list they have run over before, the outcome is the same. -/
namespace Manifests

namespace ObjectList

variable {xs ys l l' : List Object} {k : ObjectKey} {b : Bool}

/-- The first object of each key, services before all else. -/
def canonical (xs : List Object) : List Object := servicesFirst (distinct xs)

/-- A service comes before what is none. Among services, and among all else, the object whose key
comes up first does. -/
def Precedes (xs : List Object) (a b : Object) : Prop :=
  (a.isService ∧ ¬ b.isService) ∨
    (a.isService = b.isService ∧ xs.findIdx (·.key = a.key) < xs.findIdx (·.key = b.key))

/-- Of each key that comes up, the list holds the first object and no other, all of them in
order. -/
structure IsCanonical (xs l : List Object) : Prop where
  first : ∀ k, l.filter (·.key = k) = (xs.find? (·.key = k)).toList
  ordered : l.Pairwise (Precedes xs)

theorem isService_of_key {o o' : Object} (h : o.key = o'.key) : o.isService = o'.isService :=
  Object.isService_of_kind (congrArg ObjectKey.kind h)

theorem filter_service_distinct : (distinct xs).filter (·.isService == b) =
    distinct (xs.filter (·.isService == b)) := by
  refine filter_unionBy fun o o' h => ?_
  rw [isService_of_key h]

theorem servicesFirst_eq :
    servicesFirst xs = xs.filter (·.isService == true) ++ xs.filter (·.isService == false) := by
  simp only [servicesFirst, beq_true, beq_false]

theorem filter_service_servicesFirst :
    (servicesFirst xs).filter (·.isService == b) = xs.filter (·.isService == b) :=
  filter_servicesFirst fun _ h => beq_iff_eq.1 h

theorem canonical_eq : canonical xs =
    distinct (xs.filter (·.isService == true)) ++ distinct (xs.filter (·.isService == false)) := by
  rw [canonical, servicesFirst_eq, filter_service_distinct, filter_service_distinct]

/-- The passes commute: a key tells whether an object is a service, so no key is on both sides. -/
theorem distinct_servicesFirst : distinct (servicesFirst xs) = canonical xs := by
  have hapart : ∀ o ∈ xs.filter (·.isService == true), ∀ o' ∈ xs.filter (·.isService == false),
      o'.key ≠ o.key := by
    intro o ho o' ho' h
    have hservice : o.isService = true := by simpa using (List.mem_filter.1 ho).2
    have hother : o'.isService = false := by simpa using (List.mem_filter.1 ho').2
    rw [isService_of_key h, hservice] at hother
    cases hother
  rw [canonical_eq, servicesFirst_eq]
  exact firstOfEach_append_of_disjoint hapart

theorem servicesFirst_servicesFirst : servicesFirst (servicesFirst xs) = servicesFirst xs := by
  rw [servicesFirst_eq, filter_service_servicesFirst, filter_service_servicesFirst,
    ← servicesFirst_eq]

theorem distinct_distinct : distinct (distinct xs) = distinct xs :=
  firstOfEach_of_nodup (nodup_unionBy List.nodup_nil)

theorem servicesFirst_canonical : servicesFirst (canonical xs) = canonical xs :=
  servicesFirst_servicesFirst

theorem distinct_canonical : distinct (canonical xs) = canonical xs := by
  rw [canonical, distinct_servicesFirst, canonical, distinct_distinct]

theorem canonical_canonical : canonical (canonical xs) = canonical xs := by
  rw [canonical, distinct_canonical, servicesFirst_canonical]

theorem filter_service_canonical :
    (canonical xs).filter (·.isService == b) = distinct (xs.filter (·.isService == b)) := by
  rw [canonical, filter_service_servicesFirst, filter_service_distinct]

/-- Parts of a list may be made canonical first. -/
theorem canonical_append_canonical :
    canonical (canonical xs ++ canonical ys) = canonical (xs ++ ys) := by
  have hhalf : ∀ b, distinct ((canonical xs ++ canonical ys).filter (·.isService == b)) =
      distinct ((xs ++ ys).filter (·.isService == b)) := by
    intro b
    rw [List.filter_append, filter_service_canonical, filter_service_canonical, List.filter_append]
    exact firstOfEach_append_firstOfEach
  rw [canonical_eq, hhalf, hhalf, ← canonical_eq]

theorem filter_key_canonical :
    (canonical xs).filter (·.key = k) = (xs.find? (·.key = k)).toList := by
  have hside : ∀ o : Object, o.key = k → o.isService = decide (k.kind = "Service") := by
    rintro o rfl
    rw [Bool.eq_iff_iff, Object.isService_iff_kind, decide_eq_true_eq]
    rfl
  rw [canonical, filter_servicesFirst fun o ho => hside o (of_decide_eq_true ho)]
  exact filter_key_firstOfEach

theorem pairwise_canonical : (canonical xs).Pairwise (Precedes xs) := by
  have hside : ∀ b, ((distinct xs).filter (·.isService == b)).Pairwise (Precedes xs) := by
    intro b
    refine (pairwise_firstOfEach.sublist List.filter_sublist).imp_of_mem fun {o o'} ho ho' hlt => ?_
    have hb : o.isService = b := by simpa using (List.mem_filter.1 ho).2
    have hb' : o'.isService = b := by simpa using (List.mem_filter.1 ho').2
    exact Or.inr ⟨hb.trans hb'.symm, hlt⟩
  rw [canonical, servicesFirst_eq]
  refine List.pairwise_append.2 ⟨hside true, hside false, fun o ho o' ho' => Or.inl ⟨?_, ?_⟩⟩
  · simpa using (List.mem_filter.1 ho).2
  · simpa using (List.mem_filter.1 ho').2

theorem isCanonical_canonical : IsCanonical xs (canonical xs) :=
  ⟨fun _ => filter_key_canonical, pairwise_canonical⟩

theorem Precedes.asymm {a b : Object} (h : Precedes xs a b) : ¬ Precedes xs b a := by
  rintro (⟨hb, ha⟩ | ⟨hsame, hlt⟩)
  · rcases h with ⟨ha', _⟩ | ⟨hsame, _⟩
    · exact ha ha'
    · exact ha (hsame ▸ hb)
  · rcases h with ⟨ha, hb⟩ | ⟨_, hlt'⟩
    · exact hb (hsame ▸ ha)
    · exact Nat.lt_asymm hlt hlt'

/-- There is one canonical list only. -/
theorem IsCanonical.unique (h : IsCanonical xs l) (h' : IsCanonical xs l') : l = l' := by
  have hmem : ∀ o, o ∈ l ↔ o ∈ l' := by
    intro o
    have hside : ∀ m : List Object, o ∈ m ↔ o ∈ m.filter (·.key = o.key) := by
      simp
    rw [hside l, hside l', h.first, h'.first]
  have hnodup : ∀ {m : List Object}, IsCanonical xs m → m.Nodup := fun hm =>
    hm.ordered.imp fun {a b} hab he => by subst he; exact hab.asymm hab
  refine List.Perm.eq_of_pairwise (fun a b _ _ hab hba => (hab.asymm hba).elim) h.ordered h'.ordered
    ((List.perm_ext_iff_of_nodup (hnodup h) (hnodup h')).2 hmem)

end ObjectList

open ObjectList

variable {services : Dict Service} {opt : Options} {objects : List Object}

/-- A conversion that succeeds ends with a canonical list. -/
theorem exists_canonical_of_convert (h : convert services opt = .ok objects) :
    ∃ xs, objects = canonical xs := by
  obtain ⟨made, merged, _, _, rfl⟩ := convert_ok h
  exact ⟨merged.map (placed opt), arranged_eq⟩

theorem nodup_keys_convert (h : convert services opt = .ok objects) :
    (objects.map Object.key).Nodup := by
  obtain ⟨xs, rfl⟩ := exists_canonical_of_convert h
  exact firstOfEach_eq_self_iff.1 distinct_canonical

/-- Both passes over a list of objects lead to its canonical list, in either order and also over
parts of it. That is what a conversion ends with, so neither pass changes its outcome any more. -/
theorem canonical_form (xs ys : List Object) :
    distinct (servicesFirst xs) = canonical xs ∧
    canonical (canonical xs ++ canonical ys) = canonical (xs ++ ys) ∧
    canonical (canonical xs) = canonical xs ∧
    (∀ l, IsCanonical xs l ↔ l = canonical xs) ∧
    ∀ services opt objects, convert services opt = .ok objects →
      (objects.map Object.key).Nodup ∧
      objects.Pairwise (fun a b => b.isService → a.isService) ∧
      distinct objects = objects ∧ servicesFirst objects = objects := by
  refine ⟨distinct_servicesFirst, canonical_append_canonical, canonical_canonical, fun l => ?_,
    fun services opt objects h => ?_⟩
  · constructor
    · exact fun h => h.unique isCanonical_canonical
    · rintro rfl
      exact isCanonical_canonical
  · have hkeys := nodup_keys_convert h
    obtain ⟨zs, rfl⟩ := exists_canonical_of_convert h
    refine ⟨hkeys, pairwise_canonical.imp ?_, distinct_canonical, servicesFirst_canonical⟩
    rintro a b (⟨ha, _⟩ | ⟨hsame, _⟩) hb
    · exact ha
    · rwa [hsame]

/-- Two services with ports, and one file of variables for both. -/
def listedServices : Dict Service :=
  let shared : EnvFile := { path := "./shared.env", values := .singleton "MODE" "prod" }
  .ofList
    [("api", { image := "api", ports := [{ containerPort := 8080 }], envFiles := [shared] }),
      ("web", { image := "nginx", ports := [{ containerPort := 80 }], envFiles := [shared] })]

theorem canonical_form_listed :
    (output listedServices {}).map (fun o => (o.kind, o.name)) =
      [("Service", "api"), ("Service", "web"), ("Deployment", "api"), ("ConfigMap", "shared-env"),
        ("Deployment", "web")] ∧
    ((output listedServices {}).map Object.key).Nodup ∧
    distinct (output listedServices {}) = output listedServices {} ∧
    servicesFirst (output listedServices {}) = output listedServices {} := by
  have hok : convert listedServices {} = .ok (output listedServices {}) :=
    convert_output (by decide +kernel)
  obtain ⟨_, _, _, _, hconvert⟩ := canonical_form [] []
  obtain ⟨hkeys, _, hdistinct, hfirst⟩ := hconvert _ _ _ hok
  exact ⟨by decide +kernel, hkeys, hdistinct, hfirst⟩

end Manifests
