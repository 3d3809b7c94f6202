/-! Finite maps from texts, kept in the order of their keys. -/

namespace Manifests

/-- A finite map from texts. Equal maps are equal values, because the keys increase strictly. -/
structure Dict (β : Type) where
  entries : List (String × β)
  increasing : entries.Pairwise (fun a b => a.1 < b.1)
deriving DecidableEq

namespace Dict

variable {α β : Type}

def empty : Dict β := ⟨[], .nil⟩

instance : EmptyCollection (Dict β) := ⟨empty⟩

instance : Inhabited (Dict β) := ⟨empty⟩

theorem ext_entries {d e : Dict β} (h : d.entries = e.entries) : d = e := by
  cases d; cases e; cases h; rfl

/-- Puts a key into its place, over an entry of the same key. -/
def place (k : String) (v : β) : List (String × β) → List (String × β)
  | [] => [(k, v)]
  | e :: rest =>
    if k < e.1 then (k, v) :: e :: rest
    else if e.1 < k then e :: place k v rest
    else (k, v) :: rest

theorem mem_place {k : String} {v : β} {l : List (String × β)} {e : String × β}
    (h : e ∈ place k v l) : e = (k, v) ∨ e ∈ l := by
  induction l with
  | nil => simpa [place] using h
  | cons x xs ih =>
    unfold place at h
    split at h
    · simpa using h
    · split at h
      · rcases List.mem_cons.1 h with h | h
        · simp [h]
        · rcases ih h with h | h <;> simp [h]
      · rcases List.mem_cons.1 h with h | h <;> simp [h]

theorem eq_of_not_lt {a b : String} (hab : ¬ a < b) (hba : ¬ b < a) : a = b :=
  String.le_antisymm hba hab

theorem increasing_place {k : String} {v : β} {l : List (String × β)}
    (h : l.Pairwise (fun a b => a.1 < b.1)) :
    (place k v l).Pairwise (fun a b => a.1 < b.1) := by
  induction l with
  | nil => simp [place]
  | cons x xs ih =>
    have hx := List.pairwise_cons.1 h
    unfold place
    split
    · rename_i hk
      refine List.pairwise_cons.2 ⟨fun e he => ?_, h⟩
      rcases List.mem_cons.1 he with he | he
      · exact he ▸ hk
      · exact String.lt_trans hk (hx.1 e he)
    · split
      · rename_i hk
        refine List.pairwise_cons.2 ⟨fun e he => ?_, ih hx.2⟩
        rcases mem_place he with he | he
        · exact he ▸ hk
        · exact hx.1 e he
      · rename_i hk hx'
        have hkx : k = x.1 := eq_of_not_lt hk hx'
        refine List.pairwise_cons.2 ⟨fun e he => ?_, hx.2⟩
        exact hkx ▸ hx.1 e he

def insert (d : Dict β) (k : String) (v : β) : Dict β :=
  ⟨place k v d.entries, increasing_place d.increasing⟩

def singleton (k : String) (v : β) : Dict β := insert ∅ k v

/-- All entries of a list, the last one of a key in force. -/
def insertAll (d : Dict β) (l : List (String × β)) : Dict β :=
  l.foldl (fun d e => d.insert e.1 e.2) d

def ofList (l : List (String × β)) : Dict β := insertAll ∅ l

/-- Both maps, the second in force where they share a key. -/
def union (d e : Dict β) : Dict β := d.insertAll e.entries

def get? (d : Dict β) (k : String) : Option β := d.entries.lookup k

def contains (d : Dict β) (k : String) : Bool := (d.get? k).isSome

def keys (d : Dict β) : List String := d.entries.map Prod.fst

def values (d : Dict β) : List β := d.entries.map Prod.snd

def isEmpty (d : Dict β) : Bool := d.entries.isEmpty

def size (d : Dict β) : Nat := d.entries.length

theorem increasing_map (f : String → α → β) {l : List (String × α)}
    (h : l.Pairwise (fun a b => a.1 < b.1)) :
    (l.map fun e => (e.1, f e.1 e.2)).Pairwise (fun a b => a.1 < b.1) :=
  List.pairwise_map.2 h

def map (f : String → α → β) (d : Dict α) : Dict β :=
  ⟨d.entries.map fun e => (e.1, f e.1 e.2), increasing_map f d.increasing⟩

def filter (p : String → β → Bool) (d : Dict β) : Dict β :=
  ⟨d.entries.filter fun e => p e.1 e.2, d.increasing.filter _⟩

end Dict

end Manifests
