import Mathlib.Logic.Function.Iterate
import Mathlib.Tactic

/-!
# Shift registers with feedback

A register of `w` bits moves down one place at a time; when the bit that leaves is set, a polynomial
is added to what is left.  Bytes are added to the low end of the register and shifted through: the
remainder a cyclic redundancy check keeps.

A shift is linear (`shift_xor`), and injective when the polynomial has its top bit set
(`shift_injective`).  Bytes that fit in the register are added to it at once (`absorb_eq_shifts`).
Hence two messages that differ within the width of the register leave different remainders
(`absorb_burst`).
-/

namespace ShiftRegister

variable {w : ℕ}

/-- One place down. -/
def shift (poly x : BitVec w) : BitVec w :=
  if x.getLsbD 0 then (x >>> 1) ^^^ poly else x >>> 1

/-- The bytes of a message, one after the other. -/
def absorb (poly : BitVec w) (state : BitVec w) (bytes : List (BitVec 8)) : BitVec w :=
  bytes.foldl (fun state b => (shift poly)^[8] (state ^^^ b.setWidth w)) state

/-- A few bytes as they lie in the register, the first at the low end. -/
def word (w : ℕ) : List (BitVec 8) → BitVec w
  | [] => 0
  | b :: bytes => b.setWidth w ^^^ (word w bytes <<< 8)

/-! ## Shifting -/

section
variable (poly : BitVec w)

/-- A shift is linear. -/
lemma shift_xor (x y : BitVec w) : shift poly (x ^^^ y) = shift poly x ^^^ shift poly y := by
  unfold shift
  simp only [BitVec.getLsbD_xor, BitVec.ushiftRight_xor_distrib]
  cases x.getLsbD 0 <;> cases y.getLsbD 0 <;> simp
  · ac_rfl
  · ac_rfl
  · rw [BitVec.xor_assoc, BitVec.xor_comm poly, BitVec.xor_assoc, BitVec.xor_self,
      BitVec.xor_zero]

lemma shifts_xor (n : ℕ) (x y : BitVec w) :
    (shift poly)^[n] (x ^^^ y) = (shift poly)^[n] x ^^^ (shift poly)^[n] y := by
  induction n generalizing x y with
  | zero => rfl
  | succ n ih => simp only [Function.iterate_succ_apply, shift_xor, ih]

/-- While the bits that leave are zero nothing is fed back. -/
lemma shifts_low_zero (n : ℕ) (x : BitVec w) (h : ∀ i < n, x.getLsbD i = false) :
    (shift poly)^[n] x = x >>> n := by
  induction n with
  | zero => simp
  | succ n ih =>
      have hbit : (x >>> n).getLsbD 0 = false := by
        rw [BitVec.getLsbD_ushiftRight]
        exact h n (Nat.lt_succ_self n)
      rw [Function.iterate_succ_apply', ih fun i hi => h i (Nat.lt_succ_of_lt hi), shift, hbit,
        if_neg Bool.false_ne_true, BitVec.shiftRight_add]

/-- Shifting the low end through and moving the rest down: the step of a table of all low ends. -/
lemma shifts_split (n : ℕ) (x : BitVec w) :
    (shift poly)^[n] x =
      (shift poly)^[n] (x &&& BitVec.ofNat w (2 ^ n - 1)) ^^^ (x >>> n) := by
  have hmask : ∀ i < w, (BitVec.ofNat w (2 ^ n - 1)).getLsbD i = decide (i < n) := by
    intro i hi
    rw [BitVec.getLsbD_ofNat, Nat.testBit_two_pow_sub_one, decide_eq_true hi, Bool.true_and]
  have hsplit : x = (x &&& BitVec.ofNat w (2 ^ n - 1)) ^^^ (x >>> n <<< n) := by
    apply BitVec.eq_of_getLsbD_eq
    intro i hi
    rw [BitVec.getLsbD_xor, BitVec.getLsbD_and, hmask i hi, BitVec.getLsbD_shiftLeft,
      BitVec.getLsbD_ushiftRight]
    by_cases hn : i < n
    · simp [hn]
    · simp [hi, hn, Nat.add_sub_cancel' (not_lt.mp hn)]
  have hhigh : (shift poly)^[n] (x >>> n <<< n) = x >>> n := by
    rw [shifts_low_zero poly n _ fun i hi => by rw [BitVec.getLsbD_shiftLeft]; simp [hi]]
    apply BitVec.eq_of_getLsbD_eq
    intro i hi
    rw [BitVec.getLsbD_ushiftRight, BitVec.getLsbD_shiftLeft, BitVec.getLsbD_ushiftRight]
    by_cases hn : n + i < w
    · simp [hn]
    · simp [hn, BitVec.getLsbD_of_ge x (n + i) (by omega)]
  conv_lhs => rw [hsplit]
  rw [shifts_xor, hhigh]

variable {poly}

/-- What leaves is remembered in the top bit, so a shift can be undone. -/
lemma shift_injective (htop : poly.msb = true) : Function.Injective (shift poly) := by
  have hmsb : ∀ x : BitVec w, (shift poly x).msb = x.getLsbD 0 := by
    intro x
    have hzero : (x >>> 1).msb = false := by simp
    unfold shift
    split_ifs with hx
    · rw [BitVec.msb_xor, hzero, htop, hx]
      rfl
    · rw [hzero, Bool.eq_false_iff.mpr hx]
  intro x y hxy
  have hlow : x.getLsbD 0 = y.getLsbD 0 := by rw [← hmsb x, ← hmsb y, hxy]
  have hrest : x >>> 1 = y >>> 1 := by
    unfold shift at hxy
    rw [hlow] at hxy
    split_ifs at hxy with hy
    · exact (BitVec.xor_left_inj _).mp hxy
    · exact hxy
  apply BitVec.eq_of_getLsbD_eq
  intro i hi
  cases i with
  | zero => exact hlow
  | succ i =>
      have hbit := congrArg (fun z : BitVec w => z.getLsbD i) hrest
      simpa only [BitVec.getLsbD_ushiftRight, Nat.add_comm 1 i] using hbit

lemma absorb_append (state : BitVec w) (front back : List (BitVec 8)) :
    absorb poly state (front ++ back) = absorb poly (absorb poly state front) back :=
  List.foldl_append

/-- The same bytes keep two states apart. -/
lemma absorb_injective (htop : poly.msb = true) (bytes : List (BitVec 8)) :
    Function.Injective fun state => absorb poly state bytes := by
  induction bytes with
  | nil => exact fun _ _ h => h
  | cons b bytes ih =>
      intro x y hxy
      exact (BitVec.xor_left_inj _).mp ((shift_injective htop).iterate 8 (ih hxy))

end

/-! ## Bytes in the register -/

section
variable {b : BitVec 8} {bytes : List (BitVec 8)}

lemma getLsbD_word_cons {i : ℕ} (hi : i < w) :
    (word w (b :: bytes)).getLsbD i =
      if i < 8 then b.getLsbD i else (word w bytes).getLsbD (i - 8) := by
  rw [word, BitVec.getLsbD_xor, BitVec.getLsbD_shiftLeft, BitVec.getLsbD_setWidth]
  by_cases h : i < 8
  · simp [hi, h]
  · simp [hi, h, BitVec.getLsbD_of_ge b i (by omega)]

/-- The places above the last byte are empty. -/
lemma getLsbD_word_above {i : ℕ} (h : 8 * bytes.length ≤ i) : (word w bytes).getLsbD i = false := by
  by_cases hi : i < w
  · induction bytes generalizing i with
    | nil => simp [word]
    | cons b bytes ih =>
        rw [List.length_cons] at h
        rw [getLsbD_word_cons hi, if_neg (by omega)]
        exact ih (by omega) (by omega)
  · exact BitVec.getLsbD_of_ge _ i (by omega)

/-- Bytes that fit can be read back. -/
lemma word_injective {other : List (BitVec 8)} (hlen : bytes.length = other.length)
    (hfit : 8 * bytes.length ≤ w) (h : word w bytes = word w other) : bytes = other := by
  induction bytes generalizing other with
  | nil => exact (List.length_eq_zero_iff.mp hlen.symm).symm
  | cons b bytes ih =>
      cases other with
      | nil => cases hlen
      | cons c other =>
          rw [List.length_cons] at hfit hlen
          have hbits : ∀ i < w, (if i < 8 then b.getLsbD i else (word w bytes).getLsbD (i - 8)) =
              if i < 8 then c.getLsbD i else (word w other).getLsbD (i - 8) := by
            intro i hi
            rw [← getLsbD_word_cons hi, h, getLsbD_word_cons hi]
          have hhead : b = c := by
            apply BitVec.eq_of_getLsbD_eq
            intro i hi
            simpa [hi] using hbits i (by omega)
          have hlength : bytes.length = other.length := by simpa using hlen
          have htail : word w bytes = word w other := by
            apply BitVec.eq_of_getLsbD_eq
            intro i _
            by_cases hi : i + 8 < w
            · simpa using hbits (i + 8) hi
            · rw [getLsbD_word_above (by omega), getLsbD_word_above (by omega)]
          rw [hhead, ih hlength (by omega) htail]

/-- Eight shifts bring back what was moved up to make room for a byte. -/
lemma shifts_word (poly : BitVec w) (h : 8 * bytes.length + 8 ≤ w) :
    (shift poly)^[8] (word w bytes <<< 8) = word w bytes := by
  rw [shifts_low_zero]
  · apply BitVec.eq_of_getLsbD_eq
    intro i hi
    by_cases hfit : 8 + i < w
    · rw [BitVec.getLsbD_ushiftRight, BitVec.getLsbD_shiftLeft]
      simp [hfit]
    · rw [BitVec.getLsbD_ushiftRight, getLsbD_word_above (by omega),
        BitVec.getLsbD_of_ge _ _ (by omega)]
  · intro i hi
    rw [BitVec.getLsbD_shiftLeft]
    simp [hi]

/-- Bytes that fit in the register may be added all at once. -/
lemma absorb_eq_shifts (poly state : BitVec w) (hfit : 8 * bytes.length ≤ w) :
    absorb poly state bytes = (shift poly)^[8 * bytes.length] (state ^^^ word w bytes) := by
  induction bytes generalizing state with
  | nil => simp [absorb, word]
  | cons b bytes ih =>
      rw [List.length_cons] at hfit
      have hstep : absorb poly state (b :: bytes) =
          absorb poly ((shift poly)^[8] (state ^^^ b.setWidth w)) bytes := rfl
      have hword : word w bytes = (shift poly)^[8] (word w bytes <<< 8) :=
        (shifts_word poly (by omega)).symm
      rw [hstep, ih _ (by omega), hword, ← shifts_xor, ← Function.iterate_add_apply,
        BitVec.xor_assoc, List.length_cons, Nat.mul_succ]
      rfl

end

/-- **A burst within the register is seen.**  Two messages of one length that differ only in a
stretch as long as the register leave different remainders. -/
theorem absorb_burst {poly : BitVec w} (htop : poly.msb = true) (state : BitVec w)
    {front back bytes other : List (BitVec 8)} (hlen : bytes.length = other.length)
    (hfit : 8 * bytes.length ≤ w) (hne : bytes ≠ other) :
    absorb poly state (front ++ (bytes ++ back)) ≠ absorb poly state (front ++ (other ++ back)) := by
  intro h
  simp only [absorb_append] at h
  have hburst := absorb_injective htop back h
  rw [@absorb_eq_shifts w bytes _ _ hfit, @absorb_eq_shifts w other _ _ (hlen ▸ hfit), ← hlen]
    at hburst
  have hwords := (shift_injective htop).iterate (8 * bytes.length) hburst
  exact hne (word_injective hlen hfit ((BitVec.xor_right_inj _).mp hwords))

end ShiftRegister
