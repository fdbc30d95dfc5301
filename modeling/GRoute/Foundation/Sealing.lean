import Mathlib.Data.List.Basic

/-!
# Sealing with a derived key

A cipher that authenticates what it encrypts, under a key that is derived from some material and
a salt. That a sealed text can be opened again is part of every such cipher. What is needed
against other keys is idealized: the derivation is injective, and no other key opens a text.
-/

namespace GRoute

structure Cipher (Material : Type) where
  Key : Type
  /-- The key for the material and the salt. -/
  derive : Material → List UInt8 → Key
  /-- The sealed form of a text under a key and a nonce. -/
  encrypt : Key → List UInt8 → List UInt8 → List UInt8
  decrypt : Key → List UInt8 → List UInt8 → Option (List UInt8)
  decrypt_encrypt (key : Key) (iv plain : List UInt8) :
    decrypt key iv (encrypt key iv plain) = some plain
  /-- There is room for the tag. -/
  tag_le_length (key : Key) (iv plain : List UInt8) : 16 ≤ (encrypt key iv plain).length

namespace Cipher

variable {Material : Type}

structure Ideal (cipher : Cipher Material) : Prop where
  derive_injective (salt : List UInt8) : Function.Injective fun material =>
    cipher.derive material salt
  rejects {key other : cipher.Key} (ne : other ≠ key) (iv plain : List UInt8) :
    cipher.decrypt other iv (cipher.encrypt key iv plain) = none

/-- Other material opens nothing. -/
theorem Ideal.decrypt_of_ne {cipher : Cipher Material} (ideal : cipher.Ideal)
    {material other : Material} (ne : other ≠ material) (salt iv plain : List UInt8) :
    cipher.decrypt (cipher.derive other salt) iv
      (cipher.encrypt (cipher.derive material salt) iv plain) = none := by
  apply ideal.rejects
  intro same
  exact ne (ideal.derive_injective salt same)

variable (label : Material → List UInt8)

/-- What is put before a text that is sealed under the key. -/
def mark (key : Material) : List UInt8 := List.replicate 16 0 ++ label key

/-- No label continues another. -/
def PrefixFree : Prop := ∀ (material other : Material) (rest more : List UInt8),
  label material ++ rest = label other ++ more → material = other

variable {label} in
theorem eq_of_mark_append (prefixFree : PrefixFree label) {key other : Material}
    {rest more : List UInt8} (same : mark label key ++ rest = mark label other ++ more) :
    key = other := by
  rw [mark, mark, List.append_assoc, List.append_assoc, List.append_cancel_left_eq] at same
  exact prefixFree key other rest more same

/-- The key is the material, and a sealed text says under which key it was sealed. -/
def labelled : Cipher Material where
  Key := Material
  derive material _ := material
  encrypt key _ plain := mark label key ++ plain
  decrypt key _ sealed :=
    if mark label key <+: sealed then some (sealed.drop (mark label key).length) else none
  decrypt_encrypt key _ plain := by
    rw [if_pos (List.prefix_append _ _), List.drop_left]
  tag_le_length key _ plain := by
    rw [mark, List.append_assoc, List.length_append, List.length_replicate]
    exact Nat.le_add_right _ _

variable {label} in
theorem ideal_labelled (prefixFree : PrefixFree label) : (labelled label).Ideal where
  derive_injective _ material other same := same
  rejects {key other} ne _ plain := by
    apply if_neg
    rintro ⟨rest, same⟩
    exact ne (eq_of_mark_append prefixFree same)

end Cipher

end GRoute
