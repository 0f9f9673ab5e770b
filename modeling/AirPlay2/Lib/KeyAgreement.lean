import Mathlib.Data.ZMod.Basic

/- The key agreement of SRP, in its arithmetic. The server knows the verifier `g ^ x` and
   sends `k g^x + g^b`; the client knows `x` and takes `k g^x` off again, which leaves it
   `g ^ b`, and both raise what they have to the same exponent of `g`. -/
namespace Lib

section
variable {R : Type*} [CommRing R]

/-- Both sides reach `g ^ (b (a + u x))`. -/
theorem secret_agree (g k : R) (a b u x : ℕ) :
    (g ^ a * (g ^ x) ^ u) ^ b = (k * g ^ x + g ^ b - k * g ^ x) ^ (a + u * x) := by
  have hclient : k * g ^ x + g ^ b - k * g ^ x = g ^ b := add_sub_cancel_left _ _
  calc (g ^ a * (g ^ x) ^ u) ^ b = (g ^ (a + u * x)) ^ b := by
        rw [← pow_mul, ← pow_add, Nat.mul_comm x u]
    _ = (g ^ b) ^ (a + u * x) := by rw [← pow_mul, ← pow_mul, Nat.mul_comm]
    _ = (k * g ^ x + g ^ b - k * g ^ x) ^ (a + u * x) := by rw [hclient]

end

/-- The same on numbers reduced where the two sides reduce them; the client subtracts by
    adding what is left to the modulus. -/
theorem secret_agree_mod {N : ℕ} (hN : 0 < N) (g k a b u x : ℕ) :
    ((g ^ a % N) * (g ^ x % N) ^ u) ^ b % N =
      ((k * (g ^ x % N) % N + g ^ b % N) % N + (N - k * (g ^ x % N) % N)) ^ (a + u * x) % N := by
  have hle : k * (g ^ x % N) % N ≤ N := (Nat.mod_lt _ hN).le
  rw [← ZMod.natCast_eq_natCast_iff']
  push_cast [hle]
  simp only [ZMod.natCast_mod, Nat.cast_pow, Nat.cast_mul, Nat.cast_add, ZMod.natCast_self]
  rw [secret_agree (g : ZMod N) k a b u x]
  congr 1
  rw [sub_eq_add_neg, zero_sub]

/-- Reducing on the way does not change the result. -/
theorem pow_mod_mod (A v u b N : ℕ) :
    (A * (v ^ u % N) % N) ^ b % N = (A * v ^ u) ^ b % N := by
  rw [← Nat.pow_mod, Nat.pow_mod, Nat.mul_mod_mod, ← Nat.pow_mod]

end Lib
