import ImitationGame.Proofs.Text.Numeral
import ImitationGame.Random.Keystream
import Mathlib.Data.Set.Function

namespace ImitationGame.Random

open Text.Numeral

variable {base seed : UInt64} {i j : Int}

/-- The word of the id whose seed this is. The factor of the seed is odd, so it has an inverse. -/
def gameWord (base seed : UInt64) : UInt64 := (seed - 3 - base) * 0xF1DE83E19937733D

theorem gameWord_gameSeed (base : UInt64) (i : Int) :
    gameWord base (gameSeed base i) = UInt64.ofInt i := by
  have hinv : (0x9E3779B97F4A7C15 : UInt64) * 0xF1DE83E19937733D = 1 := by decide
  rw [gameWord, gameSeed, UInt64.add_sub_cancel, UInt64.add_comm base, UInt64.add_sub_cancel,
    UInt64.mul_assoc, hinv, UInt64.mul_one]

theorem gameSeed_of_gameWord (h : UInt64.ofInt i = gameWord base seed) :
    gameSeed base i = seed := by
  have hinv : (0xF1DE83E19937733D : UInt64) * 0x9E3779B97F4A7C15 = 1 := by decide
  rw [gameSeed, h, gameWord, UInt64.mul_assoc, hinv, UInt64.mul_one, UInt64.add_comm base,
    UInt64.sub_add_cancel, UInt64.sub_add_cancel]

theorem ofInt_inj (hi : IsLong i) (hj : IsLong j) (h : UInt64.ofInt i = UInt64.ofInt j) :
    i = j := by
  rw [isLong_iff] at hi hj
  have hw : (i % 2 ^ 64).toNat % 2 ^ 64 = (j % 2 ^ 64).toNat % 2 ^ 64 :=
    congrArg UInt64.toNat h
  omega

theorem exists_ofInt (w : UInt64) : ∃ i, IsLong i ∧ UInt64.ofInt i = w := by
  have hw : w.toNat < 2 ^ 64 := w.toNat_lt
  refine ⟨if w.toNat < 2 ^ 63 then w.toNat else w.toNat - 2 ^ 64, ?_, ?_⟩
  · rw [isLong_iff]
    split <;> omega
  · refine UInt64.toNat_inj.mp ?_
    change (_ % 2 ^ 64 : Int).toNat % 2 ^ 64 = w.toNat
    split <;> omega

theorem bijective_gameSeed (i : Int) : Function.Bijective fun base => gameSeed base i := by
  refine Function.bijective_iff_has_inverse.mpr
    ⟨fun seed => seed - 3 - UInt64.ofInt i * 0x9E3779B97F4A7C15, fun base => ?_, fun seed => ?_⟩
  · simp only [gameSeed, UInt64.add_sub_cancel]
  · simp only [gameSeed, UInt64.sub_add_cancel]

theorem gameSeed_bijOn : (∀ base, Set.BijOn (gameSeed base) {i | IsLong i} Set.univ) ∧
    ∀ i, Function.Bijective fun base => gameSeed base i := by
  refine ⟨fun base => ⟨fun _ _ => trivial, fun i hi j hj h => ?_, fun seed _ => ?_⟩,
    bijective_gameSeed⟩
  · refine ofInt_inj hi hj ?_
    rw [← gameWord_gameSeed base, ← gameWord_gameSeed base, h]
  · obtain ⟨i, hi, hw⟩ := exists_ofInt (gameWord base seed)
    exact ⟨i, hi, gameSeed_of_gameWord hw⟩

end ImitationGame.Random
