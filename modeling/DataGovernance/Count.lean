/-!
# Counts and totals

Counts and versions have 64 bits. The total of a list of numbers is exact.

Key definitions: `wordSize`, `Count`, `total`.
-/

namespace DataGovernance

/-- How many numbers there are of 64 bits. -/
abbrev wordSize : Nat := 18446744073709551616

/-- How many nonnegative numbers there are of 64 bits with a sign. -/
abbrev signedSize : Nat := 9223372036854775808

/-- Numerals can stand for counts. -/
instance : @NeZero Nat Zero.ofOfNat0 wordSize := @NeZero.mk _ _ _ (by decide)

/-- A count that fits 64 bits. -/
abbrev Count := Fin wordSize

/-- The total of a list of numbers. -/
def total (ns : List Nat) : Nat := ns.foldr (fun n rest => n + rest) 0

@[simp] theorem total_nil : total [] = 0 := rfl

@[simp] theorem total_cons (n : Nat) (ns : List Nat) : total (n :: ns) = n + total ns := rfl

@[simp] theorem total_append : ∀ ms ns : List Nat, total (ms ++ ns) = total ms + total ns
  | [], ns => by simp
  | m :: ms, ns => by simp [total_append ms ns, Nat.add_assoc]

theorem total_eq_zero_iff : ∀ {ns : List Nat}, total ns = 0 ↔ ∀ n ∈ ns, n = 0
  | [] => by simp
  | n :: ns => by simp [total_eq_zero_iff]

theorem total_map_le {α : Type} {f : α → Nat} {k : Nat} (as : List α) (h : ∀ a, f a ≤ k) :
    total (as.map f) ≤ as.length * k := by
  induction as with
  | nil => simp
  | cons a as ih =>
    have ha := h a
    rw [List.map_cons, total_cons, List.length_cons, Nat.add_mul]
    omega

end DataGovernance
