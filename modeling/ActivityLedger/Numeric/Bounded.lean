/-!
# Bounded integers

Every number that is stored or exchanged fits a fixed range: amounts are signed
with 64 bits, counts are unsigned with 64 bits, and calendar parts and limits are
unsigned with 32 bits.  A bounded integer carries the proof that it lies in its
range, so a sum is either in range again or refused.
-/

namespace ActivityLedger

/-- An integer between two given ends, both included. -/
structure Bounded (lo hi : Int) where
  val : Int
  lo_le : lo ≤ val
  le_hi : val ≤ hi
deriving DecidableEq

/-- What a counter holds and what an update adds: a signed number of 64 bits. -/
abbrev Amount := Bounded (-9223372036854775808) 9223372036854775807

/-- How often something happened in one event: an unsigned number of 64 bits. -/
abbrev Count := Bounded 0 18446744073709551615

/-- A calendar part or a limit: an unsigned number of 32 bits. -/
abbrev Small := Bounded 0 4294967295

namespace Bounded

variable {lo hi : Int}

@[ext] theorem ext {a b : Bounded lo hi} (h : a.val = b.val) : a = b := by
  cases a; cases b; simp_all

def ofInt? (n : Int) : Option (Bounded lo hi) :=
  if h : lo ≤ n ∧ n ≤ hi then some ⟨n, h.1, h.2⟩ else none

theorem ofInt?_eq_some_iff {n : Int} {b : Bounded lo hi} :
    ofInt? n = some b ↔ b.val = n := by
  unfold ofInt?
  split
  · constructor
    · intro h
      cases h
      rfl
    · intro h
      exact congrArg some (Bounded.ext h.symm)
  · rename_i outside
    constructor
    · intro h
      cases h
    · intro h
      exact absurd ⟨h ▸ b.lo_le, h ▸ b.le_hi⟩ outside

theorem ofInt?_eq_none_iff {n : Int} :
    (ofInt? n : Option (Bounded lo hi)) = none ↔ ¬ (lo ≤ n ∧ n ≤ hi) := by
  unfold ofInt?
  split <;> simp_all

theorem ofInt?_val (b : Bounded lo hi) : ofInt? b.val = some b :=
  ofInt?_eq_some_iff.mpr rfl

/-- The exact sum, refused where it leaves the range. -/
def add? (a b : Bounded lo hi) : Option (Bounded lo hi) :=
  ofInt? (a.val + b.val)

theorem add?_eq_some_iff {a b c : Bounded lo hi} :
    a.add? b = some c ↔ c.val = a.val + b.val :=
  ofInt?_eq_some_iff

end Bounded

namespace Amount

def zero : Amount := ⟨0, by decide, by decide⟩

def one : Amount := ⟨1, by decide, by decide⟩

@[simp] theorem val_zero : zero.val = 0 := rfl

@[simp] theorem val_one : one.val = 1 := rfl

def ofBool (condition : Bool) : Amount := if condition then one else zero

/-- The amount that agrees with an integer modulo 2^64. -/
def wrap (n : Int) : Amount :=
  ⟨Int.bmod n 18446744073709551616,
    Int.le_bmod (by decide),
    by
      have below := Int.bmod_lt (x := n) (m := 18446744073709551616) (by decide)
      omega⟩

def ofCount? (count : Count) : Option Amount := Bounded.ofInt? count.val

end Amount

namespace Count

def zero : Count := ⟨0, by decide, by decide⟩

def one : Count := ⟨1, by decide, by decide⟩

def greatest : Count := ⟨18446744073709551615, by decide, by decide⟩

end Count

namespace Small

def ofNat (n : Nat) (h : n ≤ 4294967295) : Small := ⟨n, by omega, by omega⟩

def toNat (n : Small) : Nat := n.val.toNat

def lowBits (n : Int) : Small :=
  ⟨n % 4294967296, by omega, by omega⟩

end Small

end ActivityLedger
