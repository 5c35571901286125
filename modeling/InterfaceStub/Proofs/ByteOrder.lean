import Mathlib.Data.List.Sort
import InterfaceStub.Text.Raw

/-!
# The order of texts and the order of their bytes

Texts are compared character by character.  In UTF-8 that is the order of their bytes: a character
before another one is written with bytes before those of the other, whatever comes after the two.
`utf8EncodeChar_append_lt` is the case of one character, and `bytes_lt_bytes` goes through the
texts.
-/

namespace InterfaceStub.Text

theorem bytes_eq_flatMap (text : String) :
    bytes text = text.toList.flatMap String.utf8EncodeChar := by
  have htext : text.toByteArray = text.toList.utf8Encode := by
    rw [← String.toByteArray_ofList, String.ofList_toList]
  rw [bytes, String.toUTF8_eq_toByteArray, htext]
  exact List.toList_data_toByteArray

theorem ofNat_cons_lt_iff {first second : Nat} (hfirst : first < 256) (hsecond : second < 256)
    {before after : List UInt8} :
    UInt8.ofNat first :: before < UInt8.ofNat second :: after ↔
      first < second ∨ first = second ∧ before < after := by
  rw [List.cons_lt_cons_iff, UInt8.lt_iff_toNat_lt, ← UInt8.toNat_inj, UInt8.toNat_ofNat',
    UInt8.toNat_ofNat', Nat.mod_eq_of_lt hfirst, Nat.mod_eq_of_lt hsecond]

/-- The bytes of a character come before those of a later one, whatever follows them. -/
theorem utf8EncodeChar_append_lt {first second : Char} (h : first < second)
    (before after : List UInt8) :
    String.utf8EncodeChar first ++ before < String.utf8EncodeChar second ++ after := by
  have hlt : first.val.toNat < second.val.toNat := Char.lt_def.1 h
  have hmax : second.val.toNat < 1114112 := by
    rcases second.valid with hvalid | hvalid <;> omega
  have hdigits (n : Nat) : n / 4096 = n / 64 / 64 ∧ n / 262144 = n / 64 / 64 / 64 := by omega
  unfold String.utf8EncodeChar
  simp only [hdigits]
  generalize first.val.toNat = v at hlt ⊢
  generalize second.val.toNat = w at hlt hmax ⊢
  -- Each byte holds a digit of six bits.  Between characters of one length the first digit that
  -- differs decides, and between two lengths the first byte.
  have hcases : v / 64 / 64 / 64 < w / 64 / 64 / 64 ∨ v / 64 / 64 / 64 = w / 64 / 64 / 64 ∧
      (v / 64 / 64 % 64 < w / 64 / 64 % 64 ∨ v / 64 / 64 % 64 = w / 64 / 64 % 64 ∧
        (v / 64 % 64 < w / 64 % 64 ∨ v / 64 % 64 = w / 64 % 64 ∧ v % 64 < w % 64)) := by
    omega
  split_ifs <;> simp (disch := omega) only [List.cons_append, ofNat_cons_lt_iff] <;> omega

theorem utf8EncodeChar_ne_nil (char : Char) : String.utf8EncodeChar char ≠ [] := by
  unfold String.utf8EncodeChar
  dsimp only
  split_ifs <;> exact List.cons_ne_nil _ _

theorem flatMap_utf8EncodeChar_lt {first second : List Char} (h : first < second) :
    first.flatMap String.utf8EncodeChar < second.flatMap String.utf8EncodeChar := by
  induction first generalizing second with
  | nil =>
    cases second with
    | nil => cases h
    | cons char second =>
      obtain ⟨byte, bytes, hbytes⟩ := List.exists_cons_of_ne_nil (utf8EncodeChar_ne_nil char)
      rw [List.flatMap_cons, hbytes]
      exact List.nil_lt_cons _ _
  | cons char first ih =>
    cases second with
    | nil => cases h
    | cons other second =>
      rw [List.flatMap_cons, List.flatMap_cons]
      rcases List.cons_lt_cons_iff.1 h with hlt | ⟨rfl, hlt⟩
      · exact utf8EncodeChar_append_lt hlt _ _
      · exact List.append_left_lt (ih hlt)

/-- The order of texts is the order of their bytes. -/
theorem bytes_lt_bytes {first second : String} (h : first < second) :
    bytes first < bytes second := by
  rw [bytes_eq_flatMap, bytes_eq_flatMap]
  exact flatMap_utf8EncodeChar_lt h

end InterfaceStub.Text
