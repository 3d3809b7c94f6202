import Mathlib.Data.List.Basic

/-! Texts are in the order of their bytes. -/
namespace Manifests

/-- The bytes that a text is written with. -/
def Text.bytes (s : String) : List UInt8 := s.toUTF8.data.toList

variable {a b : String} {c d : Char}

theorem bytes_eq (s : String) : Text.bytes s = s.toList.flatMap String.utf8EncodeChar := by
  have h := String.toByteArray_ofList (l := s.toList)
  rw [String.ofList_toList] at h
  rw [Text.bytes, String.toUTF8, h, List.utf8Encode, List.toList_data_toByteArray]

theorem byte_eq_iff {m n : Nat} : UInt8.ofNat m = UInt8.ofNat n ↔ m % 256 = n % 256 := by
  rw [← UInt8.toNat_inj, UInt8.toNat_ofNat', UInt8.toNat_ofNat']

theorem byte_lt_iff {m n : Nat} : UInt8.ofNat m < UInt8.ofNat n ↔ m % 256 < n % 256 := by
  rw [UInt8.lt_iff_toNat_lt, UInt8.toNat_ofNat', UInt8.toNat_ofNat']

theorem toNat_lt_of_char (d : Char) : d.val.toNat < 0x110000 := by
  have hvalid := d.valid
  rcases hvalid with h | h
  · have hlow : d.val.toNat < 0xd800 := h
    omega
  · exact h.2

/-- The first byte in which two characters differ tells them apart, whatever comes behind. A longer
character has a larger first byte, and with one length the bytes are the digits of the code point. -/
theorem bytes_char_lt (h : c < d) (l l' : List UInt8) :
    String.utf8EncodeChar c ++ l < String.utf8EncodeChar d ++ l' := by
  have hlt : c.val.toNat < d.val.toNat := h
  have hd := toNat_lt_of_char d
  simp only [String.utf8EncodeChar]
  split_ifs <;>
    simp only [List.cons_append, List.nil_append, List.cons_lt_cons_iff, byte_eq_iff,
      byte_lt_iff] <;>
    simp (disch := omega) only [Nat.mod_eq_of_lt] <;> omega

theorem bytes_chars_lt {l l' : List Char} (h : l < l') :
    l.flatMap String.utf8EncodeChar < l'.flatMap String.utf8EncodeChar := by
  induction h with
  | nil =>
    rename_i c l
    rw [List.flatMap_nil, List.flatMap_cons]
    cases hbytes : String.utf8EncodeChar c with
    | nil => exact (String.utf8EncodeChar_ne_nil hbytes).elim
    | cons b bytes => exact List.Lex.nil
  | rel h =>
    rw [List.flatMap_cons, List.flatMap_cons]
    exact bytes_char_lt h _ _
  | cons _ ih =>
    rw [List.flatMap_cons, List.flatMap_cons]
    exact List.append_left_lt ih

theorem bytes_lt_of_lt (h : a < b) : Text.bytes a < Text.bytes b := by
  rw [bytes_eq, bytes_eq]
  exact bytes_chars_lt (String.lt_iff.1 h)

/-- Lists in the order of their keys are told by what is in them. -/
theorem eq_of_ordered {α : Type} {f : α → String} {l l' : List α}
    (hl : (l.map f).Pairwise fun a b => Text.bytes a < Text.bytes b)
    (hl' : (l'.map f).Pairwise fun a b => Text.bytes a < Text.bytes b)
    (hmem : ∀ a, a ∈ l ↔ a ∈ l') : l = l' := by
  rw [List.pairwise_map] at hl hl'
  have hnodup : ∀ {m : List α}, m.Pairwise (fun a b => Text.bytes (f a) < Text.bytes (f b)) →
      m.Nodup := by
    intro m hm
    refine hm.imp ?_
    intro a b hlt heq
    exact List.lt_irrefl _ (heq ▸ hlt)
  exact List.Perm.eq_of_pairwise (fun a b _ _ hab hba => (List.lt_asymm hab hba).elim) hl hl'
    ((List.perm_ext_iff_of_nodup (hnodup hl) (hnodup hl')).2 hmem)

end Manifests
