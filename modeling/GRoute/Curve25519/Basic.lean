import GRoute.Foundation.Base64

/-!
# The Curve25519 object

This file embeds `Curve25519.kt`. Kotlin's `Long` is a 64-bit word with wrapping
arithmetic, so a limb is a `BitVec 64`; `shr` is the arithmetic shift, `Byte` and
`Int` are 8 and 32 bits wide, and widening conversions extend the sign. A
`LongArray` of fixed size is a vector, and each `for` loop is a left fold over its
index range, `downTo` loops included.

The functions that mutate their argument (`car25519`, `sel25519`) return the new
arrays. Everything else keeps the order of the source's assignments.
-/

namespace GRoute.Curve25519

abbrev Long := BitVec 64

abbrev Int32 := BitVec 32

abbrev Byte := BitVec 8

abbrev LongArray (size : ℕ) := Vector Long size

abbrev ByteArray (size : ℕ) := Vector Byte size

/-- A field element: sixteen limbs of weight `2^(16 i)`, not necessarily reduced. -/
abbrev Limbs := LongArray 16

/-- `LongArray(size)`: all entries are zero. -/
def longArray (size : ℕ) : LongArray size := Vector.replicate size 0

/-- One iteration of the loop of `car25519`. -/
def carStep (o : Limbs) (i : Fin 16) : Limbs :=
  let o := o.set i (o[i] + ((1 : Long) <<< 16))
  let c := o[i].sshiftRight 16
  let next : Fin 16 := ⟨(i + 1) * (if i.val < 15 then 1 else 0), by split <;> omega⟩
  let o := o.set next (o[next] + (c - 1 + 37 * (c - 1) * (if i.val = 15 then 1 else 0)))
  o.set i (o[i] - c <<< 16)

def car25519 (o : Limbs) : Limbs :=
  Fin.foldl 16 carStep o

/-- One iteration of the loop of `sel25519`. -/
def selStep (c : Long) (pq : Limbs × Limbs) (i : Fin 16) : Limbs × Limbs :=
  let t := c &&& (pq.1[i] ^^^ pq.2[i])
  (pq.1.set i (pq.1[i] ^^^ t), pq.2.set i (pq.2[i] ^^^ t))

/-- Exchange the two arrays when `b` is one, without branching on it. -/
def sel25519 (p q : Limbs) (b : Int32) : Limbs × Limbs :=
  let c := ~~~(b.signExtend 64 - 1)
  Fin.foldl 16 (selStep c) (p, q)

/-- The borrow left by the limb below, bit 16 of its unmasked difference. -/
def borrow (m : Limbs) (i : Fin 16) : Long := (m[i].sshiftRight 16) &&& 1

/-- The inner loop of `pack25519` at `i = k + 1`. -/
def subtractStep (t m : Limbs) (k : Fin 14) : Limbs :=
  let i : Fin 16 := ⟨k + 1, by omega⟩
  let below : Fin 16 := ⟨k, by omega⟩
  let m := m.set i (t[i] - 0xffff - borrow m below)
  m.set below (m[below] &&& 0xffff)

/-- The trial subtraction of the modulus in `pack25519`. -/
def subtractModulus (t : Limbs) : Limbs :=
  let m := longArray 16
  let m := m.set 0 (t[0] - 0xffed)
  let m := Fin.foldl 14 (subtractStep t) m
  m.set 15 (t[15] - 0x7fff - borrow m 14)

/-- One iteration of the loop of `pack25519`. -/
def packStep (t : Limbs) : Limbs :=
  let m := subtractModulus t
  let b : Int32 := (borrow m 15).setWidth 32
  let m := m.set 14 (m[14] &&& 0xffff)
  (sel25519 t m (1 - b)).1

def pack25519 (n : Limbs) : ByteArray 32 :=
  let t := car25519 (car25519 (car25519 n))
  let t := Fin.foldl 2 (fun t _ => packStep t) t
  Fin.foldl 16 (fun o i =>
    let o := o.set (2 * i.val) ((t[i] &&& 0xff).setWidth 8)
    o.set (2 * i.val + 1) (((t[i].sshiftRight 8) &&& 0xff).setWidth 8)) (Vector.replicate 32 0)

/-- The limb that `unpack25519` reads from two bytes. -/
def unpackLimb (low high : Byte) : Long :=
  (low.signExtend 64 &&& (0xff : Long)) + ((high.signExtend 64 &&& (0xff : Long)) <<< 8)

def unpack25519 (n : ByteArray 32) : Limbs :=
  let o := Fin.foldl 16 (fun o i =>
    o.set i (unpackLimb n[2 * i.val] n[2 * i.val + 1])) (longArray 16)
  o.set 15 (o[15] &&& 0x7fff)

def add (a b : Limbs) : Limbs :=
  Fin.foldl 16 (fun o i => o.set i (a[i] + b[i])) (longArray 16)

def sub (a b : Limbs) : Limbs :=
  Fin.foldl 16 (fun o i => o.set i (a[i] - b[i])) (longArray 16)

/-- The schoolbook product, before the upper limbs are folded back. -/
def product (a b : Limbs) : LongArray 31 :=
  Fin.foldl 16 (fun t i =>
    Fin.foldl 16 (fun t j =>
      t.set (i.val + j.val) (t[i.val + j.val] + a[i] * b[j])) t) (longArray 31)

/-- Fold limb `i + 16` onto limb `i` with weight `38`. -/
def foldUpper (t : LongArray 31) : LongArray 31 :=
  Fin.foldl 15 (fun t i => t.set i.val (t[i.val] + 38 * t[i.val + 16])) t

def mul (a b : Limbs) : Limbs :=
  let t := foldUpper (product a b)
  let o : Limbs := Vector.ofFn fun i : Fin 16 => t[i.val]
  car25519 (car25519 o)

def sqr (a : Limbs) : Limbs := mul a a

/-- One iteration of the loop of `inv25519`, for the loop variable `a`. -/
def invStep (i c : Limbs) (a : ℕ) : Limbs :=
  let c := sqr c
  if a ≠ 2 ∧ a ≠ 4 then mul c i else c

def inv25519 (i : Limbs) : Limbs :=
  Fin.foldl 254 (fun c k => invStep i c (253 - k.val)) i

def _121665 : Limbs := ((longArray 16).set 0 0xDB41).set 1 1

/-- The scalar with the bits set and cleared that X25519 prescribes. -/
def clamp (n : ByteArray 32) : ByteArray 32 :=
  let z := n.set 31 ((((n[31].signExtend 32) &&& 127) ||| 64).setWidth 8)
  z.set 0 ((z[0].signExtend 32 &&& 248).setWidth 8)

/-- Bit `i` of the clamped scalar. -/
def scalarBit (z : ByteArray 32) (i : Fin 255) : Int32 :=
  (((z[i.val >>> 3].signExtend 32) &&& 0xff).sshiftRight (i.val &&& 7)) &&& 1

/-- The variables `a`, `b`, `c`, `d` of `scalarmult`. -/
structure Ladder where
  a : Limbs
  b : Limbs
  c : Limbs
  d : Limbs

/-- The field operations of one iteration, between the two exchanges. -/
def ladderArith (x : Limbs) (s : Ladder) : Ladder :=
  let ⟨a, b, c, d⟩ := s
  let e := add a c
  let a := sub a c
  let c := add b d
  let b := sub b d
  let d := sqr e
  let f := sqr a
  let a := mul c a
  let c := mul b e
  let e := add a c
  let a := sub a c
  let b := sqr a
  let c := sub d f
  let a := mul c _121665
  let a := add a d
  let c := mul c a
  let a := mul d f
  let d := mul b x
  let b := sqr e
  ⟨a, b, c, d⟩

/-- `sel25519(a, b, r); sel25519(c, d, r)`. -/
def ladderSel (s : Ladder) (r : Int32) : Ladder :=
  let ab := sel25519 s.a s.b r
  let cd := sel25519 s.c s.d r
  ⟨ab.1, ab.2, cd.1, cd.2⟩

/-- One iteration of the loop of `scalarmult`. -/
def ladderStep (x : Limbs) (s : Ladder) (r : Int32) : Ladder :=
  ladderSel (ladderArith x (ladderSel s r)) r

def ladderStart (x : Limbs) : Ladder :=
  ⟨(longArray 16).set 0 1, x, longArray 16, (longArray 16).set 0 1⟩

def scalarmult (n p : ByteArray 32) : ByteArray 32 :=
  let z := clamp n
  let x := unpack25519 p
  let s := Fin.foldl 255 (fun s k =>
    let i : Fin 255 := ⟨254 - k.val, by omega⟩
    ladderStep x s (scalarBit z i)) (ladderStart x)
  pack25519 (mul s.a (inv25519 s.c))

def scalarmultBase (n : ByteArray 32) : ByteArray 32 :=
  scalarmult n ((Vector.replicate 32 0).set 0 9)

/-- The private key that `generateKeyPair` makes of the bytes of `SecureRandom`. -/
def privateKey (random : ByteArray 32) : ByteArray 32 :=
  let priv := random.set 0 ((random[0].signExtend 32 &&& 248).setWidth 8)
  priv.set 31 ((((priv[31].signExtend 32) &&& 127) ||| 64).setWidth 8)

/-- `Base64.encodeToString(bytes, Base64.NO_WRAP)`. -/
def keyText (bytes : ByteArray 32) : Text :=
  Base64.encodeToString .standard true (bytes.toList.map UInt8.ofBitVec)

/-- The pair of key texts, for the bytes that `SecureRandom` gives. -/
def generateKeyPair (random : ByteArray 32) : Text × Text :=
  let priv := privateKey random
  let pub := scalarmultBase priv
  (keyText priv, keyText pub)

end GRoute.Curve25519
