import Mathlib.Data.BitVec
import Mathlib.Logic.Function.Basic

/-!
# Ports — the signals `src/sim/simlib/sim.hpp` drives, and its bit helpers

The simulator talks to the Verilated GPU (`Vgpu`, generated from the RTL and not under src/)
through its ports: 1-bit control signals, 8-bit (`CData`) valid/ready masks with one bit per
memory channel, and 32-bit (`IData`) address and data arrays indexed by channel. The memories
are `std::unordered_map` / `std::map` from `IData` to `IData`; `operator[]` inserts a zero cell
for a key it has not seen, so only the memory read as a total map with default 0 is observable.

`setBit` is `sim::set_bit`; its one lemma `getLsbD_setBit` is what every ready-bit fact below is
read through.
-/

namespace RiscvGpu
namespace Sim

/-! ## Bits -/

/-- `sim::set_bit` on a `CData` signal: `1 << bit` is truncated to the signal's 8 bits. -/
def setBit (signal : BitVec 8) (bit : Nat) (value : Bool) : BitVec 8 :=
  if value then signal ||| 1#8 <<< bit else signal &&& ~~~(1#8 <<< bit)

@[simp] theorem getLsbD_setBit (signal : BitVec 8) (bit : Nat) (value : Bool) (j : Nat) :
    (setBit signal bit value).getLsbD j =
      if j = bit ∧ bit < 8 then value else signal.getLsbD j := by
  simp only [setBit]
  by_cases hj : j < 8
  · by_cases hji : j = bit
    · subst hji
      cases value <;> simp [hj]
    · cases value <;> simp [BitVec.getLsbD_shiftLeft, hji, Nat.sub_eq_zero_iff_le] <;> omega
  · cases value <;> simp [BitVec.getLsbD_ge _ _ (Nat.le_of_not_lt hj)]
    omega

/-- The channel test `*valid & (1 << i)` of the memories' loops holds when bit `i` is set. -/
theorem and_shiftLeft_ne_zero (mask : BitVec 8) (i : Nat) :
    mask &&& 1#8 <<< i ≠ 0 ↔ mask.getLsbD i = true := by
  constructor
  · intro h
    by_contra hb
    apply h
    apply BitVec.eq_of_getLsbD_eq
    intro j
    by_cases hji : (j : Nat) = i
    · subst hji
      simp_all
    · simp [BitVec.getLsbD_shiftLeft, hji, Nat.sub_eq_zero_iff_le]
      omega
  · intro hb h
    have hi : i < 8 := BitVec.lt_of_getLsbD hb
    have := congrArg (fun x => x.getLsbD i) h
    simp [BitVec.getLsbD_shiftLeft, hb, hi] at this

/-- The 8-bit mask whose bits below `n` are those of `lo` and whose other bits are those of
`hi`. -/
def mergeBits (n : Nat) (lo hi : BitVec 8) : BitVec 8 :=
  (lo &&& BitVec.ofNat 8 (2 ^ n - 1)) ||| (hi &&& ~~~BitVec.ofNat 8 (2 ^ n - 1))

@[simp] theorem getLsbD_mergeBits (n : Nat) (lo hi : BitVec 8) (j : Nat) :
    (mergeBits n lo hi).getLsbD j = if j < n then lo.getLsbD j else hi.getLsbD j := by
  by_cases hj : j < 8
  · by_cases hjn : j < n <;>
      simp [mergeBits, BitVec.getLsbD_ofNat, Nat.testBit_two_pow_sub_one, hj, hjn]
  · simp [BitVec.getLsbD_ge _ _ (Nat.le_of_not_lt hj)]

/-- Taking one more low bit from `lo` is setting that bit to `lo`'s. -/
theorem mergeBits_succ (n : Nat) (lo hi : BitVec 8) :
    mergeBits (n + 1) lo hi = setBit (mergeBits n lo hi) n (lo.getLsbD n) := by
  apply BitVec.eq_of_getLsbD_eq
  intro j
  by_cases hjn : (j : Nat) = n
  · have := j.isLt
    simp_all
  · simp only [getLsbD_mergeBits, getLsbD_setBit, hjn, false_and, if_false]
    split_ifs <;> first | rfl | omega

/-! ## Ports -/

/-- The read channels of a memory: the GPU drives `valid` and `address`, the memory drives `ready`
and `data`. -/
@[ext] structure ReadChannels where
  valid : BitVec 8
  address : Nat → BitVec 32
  ready : BitVec 8
  data : Nat → BitVec 32

/-- The write channels of the data memory: the GPU drives `valid`, `address` and `data`, the memory
drives `ready`. -/
@[ext] structure WriteChannels where
  valid : BitVec 8
  address : Nat → BitVec 32
  data : Nat → BitVec 32
  ready : BitVec 8

/-- Modelled from the spec: the ports of `Vgpu` that `sim.hpp` reads and writes (`clk`,
`execution_start`, `execution_done`, and the `instruction_mem_read_*`, `data_mem_read_*` and
`data_mem_write_*` signals), the 1-bit ones as `Bool`. -/
structure Ports where
  clk : Bool
  executionStart : Bool
  executionDone : Bool
  instructionMemRead : ReadChannels
  dataMemRead : ReadChannels
  dataMemWrite : WriteChannels

/-! ## Memories -/

/-- `std::numeric_limits<IData>::max()`, the `MAX_SIZE` of both memories. -/
def maxSize : BitVec 32 := BitVec.allOnes 32

/-- The cells of a memory written so far (`std::unordered_map<IData, IData>`, or
`data_memory_container_t`). -/
abbrev MemoryMap := BitVec 32 → Option (BitVec 32)

/-- `memory[addr]` (`operator[]`) read as a value: the cell, a cell not yet in the map being
inserted as 0. -/
def subscript (memory : MemoryMap) (addr : BitVec 32) : BitVec 32 × MemoryMap :=
  match memory addr with
  | some value => (value, memory)
  | none => (0, Function.update memory addr (some 0))

/-- A memory as the total map it stands for, a never-written cell reading 0. -/
def lookup (memory : MemoryMap) (addr : BitVec 32) : BitVec 32 := (memory addr).getD 0

@[simp] theorem subscript_fst (memory : MemoryMap) (addr : BitVec 32) :
    (subscript memory addr).1 = lookup memory addr := by
  unfold subscript lookup
  split <;> simp_all

/-- Reading through `operator[]` does not change the memory as a total map. -/
@[simp] theorem lookup_subscript_snd (memory : MemoryMap) (addr : BitVec 32) :
    lookup (subscript memory addr).2 = lookup memory := by
  funext a
  unfold subscript lookup
  split
  · rfl
  · by_cases h : a = addr
    · subst h
      simp_all
    · simp [h]

@[simp] theorem lookup_update (memory : MemoryMap) (addr value : BitVec 32) :
    lookup (Function.update memory addr (some value)) =
      Function.update (lookup memory) addr value := by
  funext a
  by_cases h : a = addr
  · subst h
    simp [lookup]
  · simp [lookup, h]

end Sim
end RiscvGpu
