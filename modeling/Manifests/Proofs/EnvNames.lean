import Manifests.Proofs.Name
import Manifests.Proofs.Text

/-! Names of the config maps of environment files. They can be used if the name of the service can,
which stands in front of those that would begin with a hyphen, and they are not changed again. -/
namespace Manifests

def isLowerOrDigit (c : Char) : Bool := ('a' ≤ c && c ≤ 'z') || ('0' ≤ c && c ≤ '9')

/-- Letters and hyphens, with a letter in front; what is taken for a letter is given. -/
structure IsHyphened (letter : Char → Bool) (s : List Char) : Prop where
  opens : ∃ c rest, s = c :: rest ∧ letter c
  made : ∀ c ∈ s, letter c ∨ c = '-'

theorem isHyphened_iff {letter : Char → Bool} {s : List Char} : IsHyphened letter s ↔
    s.head?.any letter ∧ s.all fun c => letter c || c == '-' := by
  constructor
  · rintro ⟨⟨c, rest, rfl, hc⟩, hmade⟩
    exact ⟨hc, by simpa using hmade⟩
  · rintro ⟨hopens, hmade⟩
    obtain ⟨c, hhead, hc⟩ := (Option.any_eq_true ..).1 hopens
    obtain ⟨rest, hs⟩ := List.head?_eq_some_iff.1 hhead
    exact ⟨⟨c, rest, hs, hc⟩, by simpa using hmade⟩

instance (letter : Char → Bool) (s : List Char) : Decidable (IsHyphened letter s) :=
  decidable_of_iff _ isHyphened_iff.symm

/-- A name that a cluster takes. -/
structure IsUsable (name : String) : Prop where
  hyphened : IsHyphened isLowerOrDigit name.toList
  short : name.length ≤ maxNameLength

section Ascii

variable {s before : List Char} {c : Char}

theorem toLower_of_ascii (hc : c.toNat < 128) : Text.lowerChar c = [c.toLower] ∧
    (isAsciiAlphanumeric c → isLowerOrDigit c.toLower) ∧ (isLowerOrDigit c → c.toLower = c) := by
  obtain ⟨n, hn, rfl⟩ : ∃ n < 128, Char.ofNat n = c := ⟨_, hc, Char.ofNat_toNat c⟩
  clear hc
  revert n
  decide +kernel

/-- Among ASCII characters the lower case of one does not hang on those around it. -/
theorem lowerFrom_of_ascii (h : ∀ c ∈ s, c.toNat < 128) :
    Text.lowerFrom before s = s.map Char.toLower := by
  induction s generalizing before with
  | nil => rfl
  | cons c s ih =>
    obtain ⟨hc, hs⟩ := List.forall_mem_cons.1 h
    have hsigma : c ≠ 'Σ' := by
      rintro rfl
      exact absurd hc (by decide)
    rw [Text.lowerFrom, if_neg hsigma, (toLower_of_ascii hc).1, ih hs]
    rfl

theorem toNat_lt_of_isAsciiAlphanumeric (h : isAsciiAlphanumeric c) : c.toNat < 128 := by
  simp only [isAsciiAlphanumeric, Bool.or_eq_true] at h
  rcases h with (h | h) | h
  · exact Nat.lt_of_le_of_lt (toNat_of_between h).2 (by decide)
  · exact Nat.lt_of_le_of_lt (toNat_of_between h).2 (by decide)
  · exact Nat.lt_of_le_of_lt (toNat_of_between h).2 (by decide)

theorem isAsciiAlphanumeric_of_isLowerOrDigit (h : isLowerOrDigit c) : isAsciiAlphanumeric c := by
  rw [isLowerOrDigit, Bool.or_eq_true] at h
  rcases h with h | h <;> simp [isAsciiAlphanumeric, h]

theorem isLowerOrDigit_toLower (h : isAsciiAlphanumeric c) : isLowerOrDigit c.toLower :=
  (toLower_of_ascii (toNat_lt_of_isAsciiAlphanumeric h)).2.1 h

theorem toLower_of_isLowerOrDigit (h : isLowerOrDigit c) : c.toLower = c :=
  (toLower_of_ascii (toNat_lt_of_isAsciiAlphanumeric (isAsciiAlphanumeric_of_isLowerOrDigit h))).2.2 h

end Ascii

namespace IsHyphened

variable {letter letter' : Char → Bool} {s t : List Char} {n : Nat}

theorem notMem {d : Char} (h : IsHyphened letter s) (hd : letter d = false) (hne : d ≠ '-') :
    d ∉ s := by
  intro hmem
  rcases h.made d hmem with hletter | hhyphen
  · exact Bool.false_ne_true (hd.symm.trans hletter)
  · exact hne hhyphen

theorem mono (h : IsHyphened letter s) (hle : ∀ c, letter c → letter' c) :
    IsHyphened letter' s := by
  obtain ⟨⟨c, rest, hs, hc⟩, hmade⟩ := h
  exact ⟨⟨c, rest, hs, hle c hc⟩, fun d hd => (hmade d hd).imp_left (hle d)⟩

theorem append (h : IsHyphened letter s) (ht : ∀ c ∈ t, letter c ∨ c = '-') :
    IsHyphened letter (s ++ t) := by
  obtain ⟨⟨c, rest, rfl, hc⟩, hmade⟩ := h
  exact ⟨⟨c, rest ++ t, rfl, hc⟩, fun d hd => (List.mem_append.1 hd).elim (hmade d) (ht d)⟩

theorem take (h : IsHyphened letter s) (hn : 0 < n) : IsHyphened letter (s.take n) := by
  obtain ⟨⟨c, rest, rfl, hc⟩, hmade⟩ := h
  obtain ⟨n, rfl⟩ := Nat.exists_eq_succ_of_ne_zero (Nat.ne_of_gt hn)
  exact ⟨⟨c, rest.take n, rfl, hc⟩, fun d hd => hmade d (List.mem_of_mem_take hd)⟩

theorem toNat_lt (h : IsHyphened isAsciiAlphanumeric s) : ∀ c ∈ s, c.toNat < 128 := by
  intro c hc
  rcases h.made c hc with hletter | rfl
  · exact toNat_lt_of_isAsciiAlphanumeric hletter
  · decide

theorem lower_eq (h : IsHyphened isAsciiAlphanumeric s) : Text.lower s = s.map Char.toLower :=
  lowerFrom_of_ascii h.toNat_lt

theorem lower (h : IsHyphened isAsciiAlphanumeric s) : IsHyphened isLowerOrDigit (Text.lower s) := by
  rw [h.lower_eq]
  obtain ⟨⟨c, rest, rfl, hc⟩, hmade⟩ := h
  refine ⟨⟨c.toLower, rest.map Char.toLower, rfl, isLowerOrDigit_toLower hc⟩, fun d hd => ?_⟩
  obtain ⟨e, he, rfl⟩ := List.mem_map.1 hd
  rcases hmade e he with hletter | rfl
  · exact .inl (isLowerOrDigit_toLower hletter)
  · exact .inr rfl

theorem lower_eq_self (h : IsHyphened isLowerOrDigit s) : Text.lower s = s := by
  rw [(h.mono fun _ => isAsciiAlphanumeric_of_isLowerOrDigit).lower_eq]
  refine (List.map_congr_left fun c hc => ?_).trans (List.map_id' s)
  rcases h.made c hc with hletter | rfl
  · exact toLower_of_isLowerOrDigit hletter
  · rfl

/-- A name in letters of both cases can be used in lower case, if it is not too long. -/
theorem isUsable_lower (h : IsHyphened isAsciiAlphanumeric s) (hshort : s.length ≤ maxNameLength) :
    IsUsable (.ofList (Text.lower s)) where
  hyphened := by
    rw [String.toList_ofList]
    exact h.lower
  short := by
    rwa [String.length_ofList, h.lower_eq, List.length_map]

end IsHyphened

section EnvNames

variable {path service name : String}

/-- What is left of the service's name, cut to length, where it stands alone. -/
def frontName (service : String) : List Char := (resourceName service).toList.take maxNameLength

theorem isUsable_usableName (hservice : IsHyphened isLowerOrDigit (frontName service))
    (hname : ∀ c ∈ name.toList, isAsciiAlphanumeric c ∨ c = '-') :
    IsUsable (usableName name service) := by
  have hfront := hservice.mono fun _ => isAsciiAlphanumeric_of_isLowerOrDigit
  unfold usableName
  refine IsHyphened.isUsable_lower ?_ (List.length_take_le ..)
  split
  · exact hfront
  · rename_i rest hrest
    rw [List.take_append]
    refine hfront.append fun c hc => hname c ?_
    rw [hrest]
    exact List.mem_of_mem_take hc
  · rename_i hnil hhyphen
    refine IsHyphened.take ⟨?_, hname⟩ (by decide)
    cases hlist : name.toList with
    | nil => exact (hnil hlist).elim
    | cons c rest =>
      rcases hname c (hlist ▸ List.mem_cons_self) with hc | rfl
      · exact ⟨c, rest, rfl, hc⟩
      · exact (hhyphen rest hlist).elim

theorem isUsable_envMapName (hservice : IsHyphened isLowerOrDigit (frontName service)) :
    IsUsable (envMapName path service) := by
  rw [envMapName]
  apply isUsable_usableName hservice
  rw [String.toList_ofList]
  intro c hc
  obtain ⟨d, _, rfl⟩ := List.mem_map.1 hc
  split
  · rename_i hd
    exact .inl hd
  · exact .inr rfl

theorem envMapName_empty : envMapName "" service = .ofList (frontName service) := by
  have hsettled : ∀ c ∈ frontName service, Text.Settled c :=
    fun c hc => settled_resourceName (List.mem_of_mem_take hc)
  exact congrArg String.ofList (Text.lowerFrom_of_settled hsettled)

/-- All files have names that can be used if the service's own name can be, cut to length. It must,
because that is the name of a file without one. -/
theorem isUsable_envMapName_iff :
    (∀ path, IsUsable (envMapName path service)) ↔ IsHyphened isLowerOrDigit (frontName service) := by
  constructor
  · intro h
    have hfront := (h "").hyphened
    rwa [envMapName_empty, String.toList_ofList] at hfront
  · exact fun h _ => isUsable_envMapName h

theorem IsUsable.usableName_eq (h : IsUsable name) : usableName name service = name := by
  obtain ⟨hname, hshort⟩ := h
  obtain ⟨c, rest, hlist, hc⟩ := hname.opens
  have htake : name.toList.take maxNameLength = name.toList :=
    List.take_of_length_le (String.length_toList ▸ hshort)
  unfold usableName
  split
  · rename_i hnil
    cases hlist.symm.trans hnil
  · rename_i hhyphen
    cases hlist.symm.trans hhyphen
    cases hc
  · dsimp only
    rw [htake, hname.lower_eq_self, String.ofList_toList]

/-- Nothing is trimmed from a name that can be used, nothing in it is replaced or lowered, and
nothing is put in front. -/
theorem IsUsable.envMapName_eq (h : IsUsable name) : envMapName name service = name := by
  have hkept : ∀ c ∈ name.toList, (decide (c = '.') || decide (c = '/')) = false := by
    intro c hc
    have hpoint : c ≠ '.' := fun he => h.hyphened.notMem (by decide) (by decide) (he ▸ hc)
    have hslash : c ≠ '/' := fun he => h.hyphened.notMem (by decide) (by decide) (he ▸ hc)
    simp [hpoint, hslash]
  have htrim : Text.trimWhere (fun c => c = '.' || c = '/') name.toList = name.toList :=
    trimWhere_eq_self (fun c hc => hkept c (List.mem_of_mem_head? hc))
      fun c hc => hkept c (List.mem_of_mem_getLast? hc)
  have hmap : (name.toList.map fun c => if isAsciiAlphanumeric c then c else '-') = name.toList := by
    refine (List.map_congr_left fun c hc => ?_).trans (List.map_id' _)
    rcases h.hyphened.made c hc with hletter | rfl
    · rw [if_pos (isAsciiAlphanumeric_of_isLowerOrDigit hletter)]
    · rfl
  rw [envMapName, htrim, hmap, String.ofList_toList, h.usableName_eq]

/-- If the name of a service, as objects carry it, has letters, digits and hyphens only and does not
begin with a hyphen, then the name of each of its environment files can be used, and a file that is
called by that name keeps it. -/
theorem envMapName_usable (h : IsHyphened isLowerOrDigit (resourceName service).toList) :
    IsUsable (envMapName path service) ∧
      envMapName (envMapName path service) service = envMapName path service := by
  have husable : IsUsable (envMapName path service) :=
    isUsable_envMapName_iff.2 (h.take (by decide)) path
  exact ⟨husable, husable.envMapName_eq⟩

/-- A hyphen is left in front of the name of the file. -/
theorem envMapName_usable_repaired : IsHyphened isLowerOrDigit (resourceName "My_Web").toList ∧
    envMapName "../-Été.env" "My_Web" = "my-web--t--env" ∧ IsUsable "my-web--t--env" ∧
      envMapName "my-web--t--env" "My_Web" = "my-web--t--env" := by
  have hservice : IsHyphened isLowerOrDigit (resourceName "My_Web").toList := by decide +kernel
  have hname : envMapName "../-Été.env" "My_Web" = "my-web--t--env" := by decide +kernel
  refine ⟨hservice, hname, ?_⟩
  rw [← hname]
  exact envMapName_usable hservice

end EnvNames

end Manifests
