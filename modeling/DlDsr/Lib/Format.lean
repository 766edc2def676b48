import Mathlib.Algebra.Ring.Nat
import Mathlib.Data.List.Basic

/-!
# Binary formats

A format writes values as bytes and reads a value off the front of some bytes. It may
refuse to write a value that it has no room for, and it carries its own law: what it writes
it reads back, whatever follows (`Format.read_write`). So formats compose: numbers, fields
in a row, lists behind their length, the variants of an enumeration behind their index, and
values seen as values of another type.
-/

universe u v

/-- A way to write values of `α` as bytes, and to read them back. -/
structure Format (α : Type u) where
  write : α → Option (List UInt8)
  read : List UInt8 → Option (α × List UInt8)
  read_write : ∀ a bytes, write a = some bytes → ∀ rest, read (bytes ++ rest) = some (a, rest)

namespace Format

variable {α : Type u} {β : Type v}

/-! ## Numbers -/

/-- A number as `k` bytes, the least significant first. -/
def littleEndian : Nat → Nat → List UInt8
  | 0, _ => []
  | k + 1, n => UInt8.ofNat n :: littleEndian k (n / 256)

/-- The number that some bytes stand for. -/
def ofLittleEndian : List UInt8 → Nat
  | [] => 0
  | b :: bytes => b.toNat + 256 * ofLittleEndian bytes

@[simp] theorem length_littleEndian (k n : Nat) : (littleEndian k n).length = k := by
  induction k generalizing n with
  | zero => rfl
  | succ k ih => rw [littleEndian, List.length_cons, ih]

theorem ofLittleEndian_littleEndian {k n : Nat} (h : n < 256 ^ k) :
    ofLittleEndian (littleEndian k n) = n := by
  induction k generalizing n with
  | zero =>
    rw [Nat.pow_zero, Nat.lt_one_iff] at h
    exact h.symm
  | succ k ih =>
    have hrest : n / 256 < 256 ^ k := Nat.div_lt_of_lt_mul (by rwa [Nat.pow_succ'] at h)
    rw [littleEndian, ofLittleEndian, ih hrest]
    have hbyte : (UInt8.ofNat n).toNat = n % 256 := rfl
    omega

/-- Numbers of `k` bytes. -/
def number (k : Nat) : Format Nat where
  write n := if n < 256 ^ k then some (littleEndian k n) else none
  read bytes :=
    if k ≤ bytes.length then some (ofLittleEndian (bytes.take k), bytes.drop k) else none
  read_write n bytes h rest := by
    split at h
    · next hn =>
      cases h
      have hlength : (littleEndian k n).length = k := length_littleEndian k n
      rw [if_pos (by rw [List.length_append, hlength]; exact Nat.le_add_right ..),
        List.take_left' hlength, List.drop_left' hlength, ofLittleEndian_littleEndian hn]
    · cases h

/-! ## Fields, views, lists and variants -/

/-- One value and then another. -/
def seq (f : Format α) (g : Format β) : Format (α × β) where
  write p := (f.write p.1).bind fun front => (g.write p.2).map (front ++ ·)
  read bytes := (f.read bytes).bind fun a => (g.read a.2).map fun b => ((a.1, b.1), b.2)
  read_write p bytes h rest := by
    obtain ⟨front, hfront, h⟩ := Option.bind_eq_some_iff.mp h
    obtain ⟨back, hback, rfl⟩ := Option.map_eq_some_iff.mp h
    rw [List.append_assoc, f.read_write _ _ hfront]
    show (g.read (back ++ rest)).map _ = _
    rw [g.read_write _ _ hback]
    rfl

/-- Values of `β`, written as the values of `α` that they are seen as. A value that cannot
be seen as one is not written, and a value of `α` may be rejected. -/
def via (f : Format α) (view : β → Option α) (build : α → Option β)
    (build_view : ∀ b a, view b = some a → build a = some b) : Format β where
  write b := (view b).bind f.write
  read bytes := (f.read bytes).bind fun a => (build a.1).map fun b => (b, a.2)
  read_write b bytes h rest := by
    obtain ⟨a, ha, hwrite⟩ := Option.bind_eq_some_iff.mp h
    rw [f.read_write _ _ hwrite]
    show (build a).map _ = _
    rw [build_view b a ha]
    rfl

/-- Values of `β`, each written as the value of `α` that stands for it. -/
def iso (f : Format α) (view : β → α) (build : α → β) (build_view : ∀ b, build (view b) = b) :
    Format β :=
  f.via (fun b => some (view b)) (fun a => some (build a)) fun b a h => by
    obtain rfl := Option.some.inj h
    rw [build_view]

/-- All values of a list, one after the other. -/
def writeAll (f : Format α) : List α → Option (List UInt8)
  | [] => some []
  | a :: l => (f.write a).bind fun front => (f.writeAll l).map (front ++ ·)

/-- That many values. -/
def readAll (f : Format α) : Nat → List UInt8 → Option (List α × List UInt8)
  | 0, bytes => some ([], bytes)
  | k + 1, bytes =>
    (f.read bytes).bind fun a => (f.readAll k a.2).map fun l => (a.1 :: l.1, l.2)

theorem readAll_writeAll (f : Format α) {l : List α} {bytes : List UInt8}
    (h : f.writeAll l = some bytes) (rest : List UInt8) :
    f.readAll l.length (bytes ++ rest) = some (l, rest) := by
  induction l generalizing bytes with
  | nil =>
    cases h
    rfl
  | cons a l ih =>
    obtain ⟨front, hfront, h⟩ := Option.bind_eq_some_iff.mp h
    obtain ⟨back, hback, rfl⟩ := Option.map_eq_some_iff.mp h
    rw [List.append_assoc, List.length_cons, readAll, f.read_write _ _ hfront]
    show (f.readAll l.length (back ++ rest)).map _ = _
    rw [ih hback]
    rfl

/-- A list behind its length. -/
def list (count : Format Nat) (f : Format α) : Format (List α) where
  write l := (count.write l.length).bind fun front => (f.writeAll l).map (front ++ ·)
  read bytes := (count.read bytes).bind fun n => f.readAll n.1 n.2
  read_write l bytes h rest := by
    obtain ⟨front, hfront, h⟩ := Option.bind_eq_some_iff.mp h
    obtain ⟨back, hback, rfl⟩ := Option.map_eq_some_iff.mp h
    rw [List.append_assoc, count.read_write _ _ hfront]
    exact f.readAll_writeAll hback rest

/-- The variants of an enumeration: the index of the variant, and then what the variant
holds. -/
def variant (tag : Format Nat) (index : α → Nat) (branch : Nat → Format α) : Format α where
  write a := (tag.write (index a)).bind fun front =>
    ((branch (index a)).write a).map (front ++ ·)
  read bytes := (tag.read bytes).bind fun i => (branch i.1).read i.2
  read_write a bytes h rest := by
    obtain ⟨front, hfront, h⟩ := Option.bind_eq_some_iff.mp h
    obtain ⟨back, hback, rfl⟩ := Option.map_eq_some_iff.mp h
    rw [List.append_assoc, tag.read_write _ _ hfront]
    exact (branch (index a)).read_write _ _ hback rest

/-- No value at all, as behind an index that no variant has. -/
def never : Format α where
  write _ := none
  read _ := none
  read_write _ _ h _ := by cases h

/-- What is read off the front, if a value is there. -/
theorem read_of_write {f : Format α} {a : α} {bytes : List UInt8} (h : f.write a = some bytes) :
    (f.read bytes).map Prod.fst = some a := by
  have hread := f.read_write a bytes h []
  rw [List.append_nil] at hread
  rw [hread]
  rfl

end Format
