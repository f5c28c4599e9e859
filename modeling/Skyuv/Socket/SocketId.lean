import Mathlib.Tactic.Ring
import Skyuv.Socket.Types

/-!
# Packed socket ids

`skyuv_socket_id_*`: an id is a 15-bit generation above a slot number of
`slotBits` bits, stored in a signed 32-bit `int`.  For every configured width
the packed value is positive and both halves can be read back.
-/

set_option autoImplicit false

namespace Skyuv.Socket

/-- `(uint32_t)value` of an `int`. -/
def toUint32 (value : Int) : Nat := (value % 4294967296).toNat

/-- `(int)value` of a `uint32_t`. -/
def toInt32 (value : Nat) : Int :=
  if value % 4294967296 < 2147483648 then (value % 4294967296 : Nat)
  else (value % 4294967296 : Nat) - 4294967296

def idSlot (cfg : Config) (id : Int) : Nat :=
  (toUint32 id &&& (cfg.slotCount - 1)) % 65536

def idGeneration (cfg : Config) (id : Int) : Nat :=
  ((toUint32 id >>> cfg.slotBits) &&& generationMax) % 65536

def idNextGeneration (generation : Nat) : Nat :=
  let generation := (generation + 1) % 65536
  if generation = 0 ∨ generation > generationMax then 1 else generation

def idMake (cfg : Config) (slot generation : Nat) : Int :=
  if generation = 0 ∨ generation > generationMax then -1
  else if cfg.slotBits < 16 ∧ slot ≥ cfg.slotCount then -1
  else toInt32 ((generation <<< cfg.slotBits % 4294967296) ||| slot)

variable (cfg : Config)

theorem slotCount_pos : 0 < cfg.slotCount := Nat.two_pow_pos _

theorem slotCount_le : cfg.slotCount ≤ 65536 :=
  Nat.pow_le_pow_right (j := 16) (by omega) cfg.slotBits_le

theorem slotCount_dvd : cfg.slotCount ∣ 4294967296 :=
  Nat.pow_dvd_pow (n := 32) 2 (by have := cfg.slotBits_le; omega)

/-- The mask of the source is reduction modulo the slot count. -/
theorem mask_eq_mod (value : Nat) :
    (value &&& (cfg.slotCount - 1)) % 65536 = value % cfg.slotCount := by
  rw [Config.slotCount, Nat.and_two_pow_sub_one_eq_mod]
  apply Nat.mod_eq_of_lt
  exact lt_of_lt_of_le (Nat.mod_lt _ (slotCount_pos cfg)) (slotCount_le cfg)

theorem idSlot_lt (id : Int) : idSlot cfg id < cfg.slotCount := by
  rw [idSlot, mask_eq_mod]
  exact Nat.mod_lt _ (slotCount_pos cfg)

variable {cfg}

theorem packed_lt {slot generation : Nat} (slotBound : slot < cfg.slotCount)
    (high : generation ≤ generationMax) :
    generation * cfg.slotCount + slot < 2147483648 := by
  have countBound := slotCount_le cfg
  have step : generation * cfg.slotCount + slot < (generation + 1) * cfg.slotCount := by
    rw [Nat.succ_mul]
    omega
  calc generation * cfg.slotCount + slot < (generation + 1) * cfg.slotCount := step
    _ ≤ 32768 * cfg.slotCount := Nat.mul_le_mul_right _ (by rw [generationMax] at high; omega)
    _ ≤ 32768 * 65536 := Nat.mul_le_mul_left _ countBound
    _ = 2147483648 := by norm_num

/-- For a slot and a generation in range the bit operations of
`skyuv_socket_id_make` are plain positional arithmetic. -/
theorem idMake_eq {slot generation : Nat} (slotBound : slot < cfg.slotCount)
    (low : 1 ≤ generation) (high : generation ≤ generationMax) :
    idMake cfg slot generation = (generation * cfg.slotCount + slot : Nat) := by
  have small := packed_lt slotBound high
  have shifted : generation <<< cfg.slotBits % 4294967296 = generation <<< cfg.slotBits := by
    apply Nat.mod_eq_of_lt
    rw [Nat.shiftLeft_eq]
    have : generation * 2 ^ cfg.slotBits ≤ generation * cfg.slotCount + slot :=
      Nat.le_add_right _ _
    omega
  have packed : generation <<< cfg.slotBits ||| slot = generation * cfg.slotCount + slot := by
    rw [← Nat.shiftLeft_add_eq_or_of_lt slotBound, Nat.shiftLeft_eq]
    rfl
  rw [idMake, if_neg (by omega), if_neg (by omega), shifted, packed, toInt32,
    Nat.mod_eq_of_lt (by omega), if_pos small]

theorem idMake_pos {slot generation : Nat} (slotBound : slot < cfg.slotCount)
    (low : 1 ≤ generation) (high : generation ≤ generationMax) :
    0 < idMake cfg slot generation := by
  rw [idMake_eq slotBound low high]
  have : 1 * 1 ≤ generation * cfg.slotCount := Nat.mul_le_mul low (slotCount_pos cfg)
  omega

theorem toUint32_natCast {value : Nat} (small : value < 4294967296) :
    toUint32 (value : Int) = value := by
  rw [toUint32]
  omega

theorem idSlot_idMake {slot generation : Nat} (slotBound : slot < cfg.slotCount)
    (low : 1 ≤ generation) (high : generation ≤ generationMax) :
    idSlot cfg (idMake cfg slot generation) = slot := by
  have small := packed_lt slotBound high
  rw [idMake_eq slotBound low high, idSlot, toUint32_natCast (by omega), mask_eq_mod,
    Nat.mul_add_mod_self_right, Nat.mod_eq_of_lt slotBound]

theorem idGeneration_idMake {slot generation : Nat} (slotBound : slot < cfg.slotCount)
    (low : 1 ≤ generation) (high : generation ≤ generationMax) :
    idGeneration cfg (idMake cfg slot generation) = generation := by
  have small := packed_lt slotBound high
  have shifted : (generation * cfg.slotCount + slot) >>> cfg.slotBits = generation := by
    rw [Nat.shiftRight_eq_div_pow]
    change (generation * cfg.slotCount + slot) / cfg.slotCount = generation
    rw [Nat.mul_comm, Nat.mul_add_div (slotCount_pos cfg), Nat.div_eq_of_lt slotBound,
      Nat.add_zero]
  rw [idMake_eq slotBound low high, idGeneration, toUint32_natCast (by omega), shifted]
  have mask : generation &&& generationMax = generation % 2 ^ 15 :=
    Nat.and_two_pow_sub_one_eq_mod generation 15
  rw [generationMax] at high
  rw [mask]
  omega

/-- Packing is injective, so an id names one slot and one generation of it. -/
theorem idMake_inj {slot slot' generation generation' : Nat}
    (slotBound : slot < cfg.slotCount) (slotBound' : slot' < cfg.slotCount)
    (low : 1 ≤ generation) (high : generation ≤ generationMax)
    (low' : 1 ≤ generation') (high' : generation' ≤ generationMax)
    (same : idMake cfg slot generation = idMake cfg slot' generation') :
    slot = slot' ∧ generation = generation' := by
  constructor
  · rw [← idSlot_idMake slotBound low high, same, idSlot_idMake slotBound' low' high']
  · rw [← idGeneration_idMake slotBound low high, same,
      idGeneration_idMake slotBound' low' high']

/-! ## The generation counter -/

/-- The generation a slot carries after its `count`-th reservation. -/
def generationAfter (count : Nat) : Nat :=
  if count = 0 then 0 else (count - 1) % 32767 + 1

theorem generationAfter_bounds {count : Nat} (used : count ≠ 0) :
    1 ≤ generationAfter count ∧ generationAfter count ≤ generationMax := by
  rw [generationAfter, if_neg used, generationMax]
  omega

/-- `skyuv_socket_id_next_generation` walks `1, 2, ..., 32767` and starts again
at `1`; the value `0` is only the initial one. -/
theorem idNextGeneration_generationAfter (count : Nat) :
    idNextGeneration (generationAfter count) = generationAfter (count + 1) := by
  have next : generationAfter (count + 1) = count % 32767 + 1 := by
    simp [generationAfter]
  rw [next]
  by_cases fresh : count = 0
  · subst fresh
    rfl
  · have current : generationAfter count = (count - 1) % 32767 + 1 := by
      simp [generationAfter, fresh]
    simp only [idNextGeneration, current, generationMax]
    split <;> omega

/-- Within a window of 32767 reservations no generation of a slot repeats. -/
theorem generationAfter_ne {first second : Nat} (used : first ≠ 0) (later : first < second)
    (window : second < first + 32767) : generationAfter first ≠ generationAfter second := by
  rw [generationAfter, generationAfter, if_neg used, if_neg (by omega)]
  omega

end Skyuv.Socket
