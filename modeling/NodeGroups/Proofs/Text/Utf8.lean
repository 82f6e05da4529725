set_option autoImplicit false

namespace NodeGroups.Text

def bytes (s : String) : List UInt8 := s.toUTF8.data.toList

theorem bytes_eq_flatMap (s : String) : bytes s = s.toList.flatMap String.utf8EncodeChar := by
  change s.toByteArray.data.toList = _
  rw [← String.utf8Encode_toList, List.utf8Encode, List.toList_data_toByteArray]

/-- One byte is not above another, and where they are the same what follows is less. -/
theorem byte_cons_lt {m n : Nat} {x y : List UInt8} (within : n < 256) (le : m ≤ n)
    (onward : m = n → x < y) : UInt8.ofNat m :: x < UInt8.ofNat n :: y := by
  rw [List.cons_lt_cons_iff, UInt8.lt_iff_toNat_lt,
    UInt8.toNat_ofNat_of_lt' (Nat.lt_of_le_of_lt le within), UInt8.toNat_ofNat_of_lt' within]
  rcases Nat.lt_or_eq_of_le le with less | same
  · exact .inl less
  · exact .inr ⟨congrArg UInt8.ofNat same, onward same⟩

/-- The bytes of a lower character come before those of a higher one, whatever follows either. -/
theorem encode_append_lt {c d : Char} (lt : c < d) (x y : List UInt8) :
    String.utf8EncodeChar c ++ x < String.utf8EncodeChar d ++ y := by
  have order : c.val.toNat < d.val.toNat := lt
  have bounded : d.val.toNat < 0x110000 := by
    have whole : d.val.toNat.isValidChar := d.valid
    unfold Nat.isValidChar at whole
    omega
  unfold String.utf8EncodeChar
  generalize c.val.toNat = v at order
  generalize d.val.toNat = w at order bounded
  dsimp only
  repeat' split
  any_goals omega
  -- The first bytes tell, or they are the same, and with them how many follow.
  all_goals refine byte_cons_lt (by omega) (by omega) fun first => ?_
  any_goals omega
  all_goals refine byte_cons_lt (by omega) (by omega) fun second => ?_
  any_goals omega
  all_goals refine byte_cons_lt (by omega) (by omega) fun third => ?_
  any_goals omega
  exact byte_cons_lt (by omega) (by omega) fun fourth => by omega

theorem bytes_lt_of_lt {s t : String} (lt : s < t) : bytes s < bytes t := by
  rw [bytes_eq_flatMap, bytes_eq_flatMap]
  have chars : s.toList < t.toList := lt
  generalize s.toList = cs at chars
  generalize t.toList = ds at chars
  induction chars with
  | @nil d ds =>
    rw [List.flatMap_cons]
    cases front : String.utf8EncodeChar d with
    | nil => exact absurd front String.utf8EncodeChar_ne_nil
    | cons b bs => exact List.nil_lt_cons b _
  | rel lt => exact encode_append_lt lt _ _
  | cons _ ih => exact List.append_left_lt ih

end NodeGroups.Text
