import GRoute.Foundation.Base64
import GRoute.Foundation.Utf8

/-!
# Encrypted texts

`Crypto.kt`: a text is encoded in UTF-8 and sealed by AES/GCM under a key of the key store, and the
nonce and the sealed bytes are written in Base64. What comes back is the text with a question mark
for every half of a surrogate pair that stands alone. The decoder of Base64 skips foreign units, so
that other texts than those that were written may be decrypted too.

Whether a call succeeds is up to the key store, and is an argument of the functions that use it.
-/

namespace GRoute

open Text

/-- The twelve bytes that the cipher draws for a text. -/
def Nonce := { iv : List UInt8 // iv.length = 12 }

instance : Inhabited Nonce := ⟨⟨List.replicate 12 0, List.length_replicate⟩⟩

/-- What the stores see of `Crypto`. -/
structure Crypto where
  encrypt : Nonce → Text → Text
  decrypt : Text → Option Text

/-- AES/GCM under the key of the key store. -/
structure KeyCipher where
  /-- What is sealed is the text and its tag. -/
  sealed : Nonce → List UInt8 → List UInt8
  /-- There is nothing if the tag is wrong. -/
  opened : List UInt8 → List UInt8 → Option (List UInt8)
  opened_sealed (nonce : Nonce) (plain : List UInt8) :
    opened nonce.val (sealed nonce plain) = some plain

namespace KeyCipher

variable (cipher : KeyCipher)

/-- `Crypto.encrypt`. -/
def encrypt (nonce : Nonce) (plain : Text) : Text :=
  Base64.encodeToString .standard true (nonce.val ++ cipher.sealed nonce (encodeUtf8 plain))

/-- `Crypto.decrypt`; `copyOfRange` throws if there are fewer than twelve bytes. -/
def decrypt (blob : Text) : Option Text :=
  (Base64.decode .standard blob).bind fun all =>
    if all.length < 12 then none
    else (cipher.opened (all.take 12) (all.drop 12)).map decodeUtf8

/-- The two functions of `Crypto`. -/
def crypto : Crypto := ⟨cipher.encrypt, cipher.decrypt⟩

/-- A text comes back sanitized. -/
theorem decrypt_encrypt (nonce : Nonce) (plain : Text) :
    cipher.crypto.decrypt (cipher.crypto.encrypt nonce plain) = some (sanitize plain) := by
  have decodes : Base64.decode .standard (cipher.encrypt nonce plain) =
      some (nonce.val ++ cipher.sealed nonce (encodeUtf8 plain)) :=
    Base64.decode_encode .standard _
  have long : ¬(nonce.val ++ cipher.sealed nonce (encodeUtf8 plain)).length < 12 := by
    rw [List.length_append, nonce.property]
    omega
  have front : (nonce.val ++ cipher.sealed nonce (encodeUtf8 plain)).take 12 =
      nonce.val := List.take_left' (nonce.property)
  have back : (nonce.val ++ cipher.sealed nonce (encodeUtf8 plain)).drop 12 =
      cipher.sealed nonce (encodeUtf8 plain) := List.drop_left' (nonce.property)
  change cipher.decrypt (cipher.encrypt nonce plain) = _
  rw [decrypt, decodes, Option.bind_some, if_neg long, front, back, cipher.opened_sealed,
    Option.map_some, decodeUtf8_encodeUtf8]

/-- What is written starts with a letter or a digit of Base64. -/
theorem exists_encrypt (nonce : Nonce) (plain : Text) :
    ∃ v < 64, ∃ rest, cipher.crypto.encrypt nonce plain =
      Base64.Alphabet.standard.encode v :: rest := by
  change ∃ v < 64, ∃ rest, cipher.encrypt nonce plain = _
  rw [encrypt]
  cases shape : nonce.val with
  | nil => exact absurd (nonce.property) (by rw [shape]; decide)
  | cons first others =>
      rw [List.cons_append]
      rcases Base64.exists_sextets first (others ++ cipher.sealed nonce (encodeUtf8 plain)) with
        ⟨v, lt, rest, isCons⟩
      rw [Base64.encodeToString, isCons]
      exact ⟨v, lt, _, rfl⟩

/-- A cipher that hides nothing. -/
def transparent : KeyCipher where
  sealed _ plain := plain
  opened _ ct := some ct
  opened_sealed _ _ := rfl

end KeyCipher

end GRoute
