import Mathlib

/-!
# Octet memory

A C program reads and writes octets through pointers: a memory is a function from addresses to
octets, a buffer is an address with a length, and what lies behind the end of a buffer is whatever
the memory holds there.

* `Memory.read`, `Memory.write`: copy octets out of and into a memory; `read_write_self`,
  `read_write_of_disjoint`, `read_add`.
* `Memory.ofList bs beyond`: the list `bs` followed by the memory `beyond`; `read_ofList`.
* `be32`, `ofBe32`: a 32-bit word in network order; `ofBe32_be32`.
* `nibbles`: an octet of two half octets.
* `xorKeystream`: XOR with a keystream; `xorKeystream_xorKeystream`.
-/

namespace Oai5g

/-- A memory: the octet at every address. -/
abbrev Memory : Type := ℕ → UInt8

namespace Memory

/-- The `n` octets from address `p` on. -/
def read (m : Memory) (p n : ℕ) : List UInt8 := (List.range n).map fun i => m (p + i)

/-- Copy the octets `bs` to address `p`. -/
def write (m : Memory) (p : ℕ) (bs : List UInt8) : Memory := fun a =>
  if p ≤ a ∧ a < p + bs.length then bs.getD (a - p) 0 else m a

/-- The octets `bs` from address `0` on, followed by `beyond`. -/
def ofList (bs : List UInt8) (beyond : Memory) : Memory := fun a =>
  if a < bs.length then bs.getD a 0 else beyond (a - bs.length)

variable (m : Memory) (p q n : ℕ) (bs : List UInt8)

@[simp] theorem length_read : (m.read p n).length = n := by simp [read]

@[simp] theorem read_zero : m.read p 0 = [] := rfl

theorem read_add (a b : ℕ) : m.read p (a + b) = m.read p a ++ m.read (p + a) b := by
  simp only [read, List.range_add, List.map_append, List.map_map]
  congr 1
  exact List.map_congr_left fun i _ => by simp [Nat.add_assoc]

theorem read_one : m.read p 1 = [m p] := by simp [read]

theorem take_read {k : ℕ} (hk : k ≤ n) : (m.read p n).take k = m.read p k := by
  simp [read, ← List.map_take, List.take_range, Nat.min_eq_left hk]

theorem read_congr {m m' : Memory} {p n : ℕ} (h : ∀ a, p ≤ a → a < p + n → m a = m' a) :
    m.read p n = m'.read p n :=
  List.map_congr_left fun i hi => h _ (Nat.le_add_right _ _) (by
    have := List.mem_range.mp hi
    omega)

/-- **Reading back what was written.** -/
theorem read_write_self : (m.write p bs).read p bs.length = bs := by
  apply List.ext_getElem (by simp)
  intro i h₁ h₂
  simp [read, write, h₂]

/-- **A write changes no octet outside its range.** -/
theorem read_write_of_disjoint (h : q + n ≤ p ∨ p + bs.length ≤ q) :
    (m.write p bs).read q n = m.read q n :=
  read_congr fun a h₁ h₂ => if_neg (by omega)

theorem write_apply_of_disjoint {a : ℕ} (h : a < p ∨ p + bs.length ≤ a) :
    m.write p bs a = m a := if_neg (by omega)

theorem read_write_take {k : ℕ} (hk : k ≤ bs.length) : (m.write p bs).read p k = bs.take k := by
  rw [← take_read _ _ _ hk, read_write_self]

theorem ofList_apply {a : ℕ} (beyond : Memory) (h : a < bs.length) : ofList bs beyond a = bs[a] := by
  simp [ofList, h]

theorem read_ofList (beyond : Memory) (h : p + n ≤ bs.length) :
    (ofList bs beyond).read p n = (bs.drop p).take n := by
  apply List.ext_getElem (by simp; omega)
  intro i h₁ h₂
  have hi : p + i < bs.length := by simp at h₁; omega
  simp [read, ofList_apply _ _ hi]

theorem read_ofList_all (beyond : Memory) : (ofList bs beyond).read 0 bs.length = bs := by
  rw [read_ofList _ _ _ _ (by omega)]
  simp

end Memory

/-! ## Words in network order -/

/-- The four octets of a word, most significant first. -/
def be32 (w : UInt32) : List UInt8 :=
  [UInt8.ofNat (w.toNat / 2 ^ 24), UInt8.ofNat (w.toNat / 2 ^ 16), UInt8.ofNat (w.toNat / 2 ^ 8),
    UInt8.ofNat w.toNat]

/-- The word of four octets, most significant first. -/
def ofBe32 (a b c d : UInt8) : UInt32 :=
  UInt32.ofNat (a.toNat * 2 ^ 24 + b.toNat * 2 ^ 16 + c.toNat * 2 ^ 8 + d.toNat)

@[simp] theorem length_be32 (w : UInt32) : (be32 w).length = 4 := rfl

theorem ofBe32_be32 (w : UInt32) :
    ofBe32 (UInt8.ofNat (w.toNat / 2 ^ 24)) (UInt8.ofNat (w.toNat / 2 ^ 16))
      (UInt8.ofNat (w.toNat / 2 ^ 8)) (UInt8.ofNat w.toNat) = w := by
  apply UInt32.toNat_inj.mp
  have := w.toNat_lt
  simp only [ofBe32, UInt32.toNat_ofNat', UInt8.toNat_ofNat']
  omega

/-! ## Half octets -/

/-- The octet with these low and high four bits. -/
def nibbles (low high : ℕ) : UInt8 := UInt8.ofNat (low % 16 + high % 16 * 16)

@[simp] theorem nibbles_mod (low high : ℕ) : (nibbles low high).toNat % 16 = low % 16 := by
  rw [nibbles, UInt8.toNat_ofNat']
  omega

@[simp] theorem nibbles_div (low high : ℕ) : (nibbles low high).toNat / 16 = high % 16 := by
  rw [nibbles, UInt8.toNat_ofNat']
  omega

/-! ## Keystreams -/

/-- XOR with a keystream. -/
def xorKeystream (ks : ℕ → UInt8) (bs : List UInt8) : List UInt8 := bs.mapIdx fun i b => b ^^^ ks i

variable (ks : ℕ → UInt8) (bs : List UInt8)

@[simp] theorem length_xorKeystream : (xorKeystream ks bs).length = bs.length := by
  simp [xorKeystream]

theorem xorKeystream_take (n : ℕ) :
    (xorKeystream ks bs).take n = xorKeystream ks (bs.take n) := by
  apply List.ext_getElem (by simp)
  intro i h₁ h₂
  simp [xorKeystream]

theorem xorKeystream_zero : xorKeystream (fun _ => 0) bs = bs := by
  apply List.ext_getElem (by simp)
  intro i h₁ h₂
  simp [xorKeystream]

/-- **XOR with the same keystream twice is the identity.** -/
theorem xorKeystream_xorKeystream : xorKeystream ks (xorKeystream ks bs) = bs := by
  apply List.ext_getElem (by simp)
  intro i h₁ h₂
  simp [xorKeystream]

end Oai5g
