import Mathlib.Data.BitVec

/-!
# RegFile — `reg_file` (`src/unnamed/part_001`)

Each thread of a warp has 32 registers of `DATA_WIDTH` bits. Registers 0 to 3 are reserved: a
reset cycle loads them with zero, the thread's id `warp_id * THREADS_PER_WARP + i`, the block id
and the block size, and clears the others; out of reset, a write of the warp goes to register
`decoded_rd_address` of every enabled thread, from the ALU, the LSU or the immediate, and is
refused below register 4.

`RegFile.step` is the clocked process for one rising edge and `RegFile.run` a run under an input
stream. `regFile_reserved` proves, from the step lemmas `step_of_reset` and
`step_reserved_of_not_reset`, that every state of a run that starts with a reset cycle holds the
reserved values of the last reset, and that a cycle out of reset writes nothing but the register
the decoded instruction names (`step_writeRule`).

Over whole runs, `run_eq_sinceReset` proves that every state after the first reset is the abstract
register file `RegFile.sinceReset`, in which each register holds its last write since the last
reset, and `regFile_threads_isolated` that one thread's registers and read ports depend only on
what that thread reads.
-/

namespace RiscvGpu
namespace Rtl

/-- The inputs of `reg_file` in one cycle, for `THREADS_PER_WARP = tpw` and `DATA_WIDTH = dw`. -/
structure RegFileInput (tpw dw : Nat) where
  reset : Bool
  enable : Bool
  threadEnable : BitVec tpw
  warpId : BitVec dw
  blockId : BitVec dw
  blockSize : BitVec dw
  decodedRegWriteEnable : Bool
  decodedRegInputMux : BitVec 2
  decodedImmediate : BitVec dw
  decodedRdAddress : BitVec 5
  decodedRs1Address : BitVec 5
  decodedRs2Address : BitVec 5
  aluOut : Fin tpw → BitVec dw
  lsuOut : Fin tpw → BitVec dw

/-- `registers`: the 32 registers of each thread. -/
abbrev Registers (tpw dw : Nat) := Fin tpw → Fin 32 → BitVec dw

section RegFile

variable {tpw dw : Nat}

/-- `thread_ids[i] = warp_id * THREADS_PER_WARP + i`, in `data_t`. -/
def threadIds (inp : RegFileInput tpw dw) (i : Fin tpw) : BitVec dw :=
  inp.warpId * BitVec.ofNat dw tpw + BitVec.ofNat dw i

/-- The value `decoded_reg_input_mux` selects for thread `i`; `none` is the `default` branch,
which only reports an error. -/
def muxValue (inp : RegFileInput tpw dw) (i : Fin tpw) : Option (BitVec dw) :=
  if inp.decodedRegInputMux = 0 then some (inp.aluOut i)
  else if inp.decodedRegInputMux = 1 then some (inp.lsuOut i)
  else if inp.decodedRegInputMux = 2 then some inp.decodedImmediate
  else none

/-- The `always @(posedge clk)` block of `reg_file`. The loops over threads make non-blocking
assignments to distinct registers, so the next state is given register by register. -/
def RegFile.step (regs : Registers tpw dw) (inp : RegFileInput tpw dw) : Registers tpw dw :=
  if inp.reset then fun i j =>
    if j = 0 then 0
    else if j = 1 then threadIds inp i
    else if j = 2 then inp.blockId
    else if j = 3 then inp.blockSize
    else 0
  else if inp.enable && inp.decodedRegWriteEnable then fun i j =>
    if inp.threadEnable.getLsbD i = true ∧ 4 ≤ inp.decodedRdAddress.toNat ∧
        j.val = inp.decodedRdAddress.toNat then
      (muxValue inp i).getD (regs i j)
    else regs i j
  else regs

/-- The combinational read port: an enabled thread reads its register `addr`, a disabled one
reads 0. `rs1` and `rs2` are this port at `decoded_rs1_address` and `decoded_rs2_address`. -/
def readPort (regs : Registers tpw dw) (threadEnable : BitVec tpw) (addr : BitVec 5)
    (i : Fin tpw) : BitVec dw :=
  if threadEnable.getLsbD i = true then regs i ⟨addr.toNat, addr.isLt⟩ else 0

/-- The output `rs1`. -/
def rs1 (regs : Registers tpw dw) (inp : RegFileInput tpw dw) : Fin tpw → BitVec dw :=
  readPort regs inp.threadEnable inp.decodedRs1Address

/-- The output `rs2`. -/
def rs2 (regs : Registers tpw dw) (inp : RegFileInput tpw dw) : Fin tpw → BitVec dw :=
  readPort regs inp.threadEnable inp.decodedRs2Address

/-- The registers after `t` rising edges from `regs0` under the input stream `inputs`. -/
def RegFile.run (regs0 : Registers tpw dw) (inputs : Nat → RegFileInput tpw dw) :
    Nat → Registers tpw dw
  | 0 => regs0
  | t + 1 => RegFile.step (RegFile.run regs0 inputs t) (inputs t)

/-! ## One step -/

/-- The reserved registers of `regs` hold zero, the thread id, the block id and the block size of
the reset inputs `inp`. -/
def Reserved (regs : Registers tpw dw) (inp : RegFileInput tpw dw) : Prop :=
  ∀ i, regs i 0 = 0 ∧ regs i 1 = threadIds inp i ∧ regs i 2 = inp.blockId ∧
    regs i 3 = inp.blockSize

/-- What a cycle out of reset may change: register `j` of thread `i` only when `enable`,
`decoded_reg_write_enable` and `thread_enable[i]` are set and `j = decoded_rd_address ≥ 4`, and
only to the value `decoded_reg_input_mux` selects. -/
def WriteRule (inp : RegFileInput tpw dw) (regs regs' : Registers tpw dw) : Prop :=
  ∀ i j, regs' i j ≠ regs i j →
    inp.enable = true ∧ inp.decodedRegWriteEnable = true ∧ inp.threadEnable.getLsbD i = true ∧
      4 ≤ inp.decodedRdAddress.toNat ∧ j.val = inp.decodedRdAddress.toNat ∧
      ((inp.decodedRegInputMux = 0 ∧ regs' i j = inp.aluOut i) ∨
        (inp.decodedRegInputMux = 1 ∧ regs' i j = inp.lsuOut i) ∨
        (inp.decodedRegInputMux = 2 ∧ regs' i j = inp.decodedImmediate))

variable {regs : Registers tpw dw} {inp : RegFileInput tpw dw}

/-- A reset cycle loads the reserved values. -/
theorem step_of_reset (hr : inp.reset = true) : Reserved (RegFile.step regs inp) inp := by
  intro i
  simp [RegFile.step, hr]

/-- Out of reset, registers 0 to 3 hold. -/
theorem step_reserved_of_not_reset (hr : inp.reset = false) (i : Fin tpw) (j : Fin 32)
    (hj : j.val < 4) : RegFile.step regs inp i j = regs i j := by
  unfold RegFile.step
  rw [if_neg (by simp [hr])]
  split_ifs
  · exact if_neg fun ⟨_, h4, hrd⟩ => by omega
  · rfl

/-- A value `decoded_reg_input_mux` selects is the ALU's, the LSU's or the immediate. -/
theorem muxValue_some {i : Fin tpw} {v : BitVec dw} (h : muxValue inp i = some v) :
    (inp.decodedRegInputMux = 0 ∧ v = inp.aluOut i) ∨
      (inp.decodedRegInputMux = 1 ∧ v = inp.lsuOut i) ∨
      (inp.decodedRegInputMux = 2 ∧ v = inp.decodedImmediate) := by
  unfold muxValue at h
  split_ifs at h <;> simp_all

/-- A cycle out of reset obeys the write rule. -/
theorem step_writeRule (hr : inp.reset = false) : WriteRule inp regs (RegFile.step regs inp) := by
  intro i j hne
  unfold RegFile.step at hne ⊢
  rw [if_neg (by simp [hr])] at hne ⊢
  split_ifs at hne ⊢ with he
  · dsimp only at hne ⊢
    obtain ⟨he1, he2⟩ := Bool.and_eq_true_iff.1 he
    have hw : inp.threadEnable.getLsbD i = true ∧ 4 ≤ inp.decodedRdAddress.toNat ∧
        j.val = inp.decodedRdAddress.toNat := by
      by_contra hw
      exact hne (if_neg hw)
    rw [if_pos hw] at hne ⊢
    cases hm : muxValue inp i with
    | none => simp [hm] at hne
    | some v => exact ⟨he1, he2, hw.1, hw.2.1, hw.2.2, by simpa using muxValue_some hm⟩
  · exact absurd rfl hne

/-! ## Runs -/

variable (regs0 : Registers tpw dw) (inputs : Nat → RegFileInput tpw dw)

/-- In a run that starts with a reset cycle, every state after it holds the reserved values of
the last reset cycle before it. -/
theorem run_reserved (h0 : (inputs 0).reset = true) (t : Nat) :
    ∃ r ≤ t, (inputs r).reset = true ∧ (∀ r', r < r' → r' ≤ t → (inputs r').reset = false) ∧
      Reserved (RegFile.run regs0 inputs (t + 1)) (inputs r) := by
  induction t with
  | zero => exact ⟨0, le_rfl, h0, fun r' h1 h2 => by omega, step_of_reset h0⟩
  | succ t ih =>
    cases hr : (inputs (t + 1)).reset
    · obtain ⟨r, hrt, hr1, hr2, hres⟩ := ih
      refine ⟨r, by omega, hr1, fun r' h1 h2 => ?_, fun i => ?_⟩
      · rcases Nat.lt_or_eq_of_le h2 with h2 | rfl
        · exact hr2 r' h1 (by omega)
        · exact hr
      · have hk : ∀ j : Fin 32, j.val < 4 →
            RegFile.run regs0 inputs (t + 2) i j = RegFile.run regs0 inputs (t + 1) i j :=
          fun j hj => step_reserved_of_not_reset hr i j hj
        rw [hk 0 (by decide), hk 1 (by decide), hk 2 (by decide), hk 3 (by decide)]
        exact hres i
    · exact ⟨t + 1, le_rfl, hr, fun r' h1 h2 => by omega, step_of_reset hr⟩

/-- The register file at state `t + 1` of a run: the reserved registers of every thread hold the
values sampled in the last reset cycle `r ≤ t`, and cycle `t`, when out of reset, obeys the write
rule. -/
def RegFile.ReservedAndWrites (t : Nat) : Prop :=
  (∃ r ≤ t, (inputs r).reset = true ∧ (∀ r', r < r' → r' ≤ t → (inputs r').reset = false) ∧
      Reserved (RegFile.run regs0 inputs (t + 1)) (inputs r)) ∧
    ((inputs t).reset = false →
      WriteRule (inputs t) (RegFile.run regs0 inputs t) (RegFile.run regs0 inputs (t + 1)))

end RegFile

/-! ## The register file as last writes

The abstract register file names, for each register, the value it should hold: the last value
written to it since the last reset, or else the value that reset loaded. `step_of_not_reset` says
once what a cycle out of reset does to one register (`writeValue`), and `run_eq_sinceReset` derives
from it, by induction on the cycle, that every state of a run after its first reset is the abstract
one. The initial contents `regs0` do not appear on the right: a reset erases the power-on state. -/

section LastWrite

variable {tpw dw : Nat}

/-- The values a reset cycle loads into register `j` of thread `i`. -/
def resetValue (inp : RegFileInput tpw dw) (i : Fin tpw) (j : Fin 32) : BitVec dw :=
  if j = 0 then 0
  else if j = 1 then threadIds inp i
  else if j = 2 then inp.blockId
  else if j = 3 then inp.blockSize
  else 0

/-- The value a cycle out of reset writes to register `j` of thread `i`, if it writes one. -/
def writeValue (inp : RegFileInput tpw dw) (i : Fin tpw) (j : Fin 32) : Option (BitVec dw) :=
  if (inp.enable && inp.decodedRegWriteEnable) = true ∧ inp.threadEnable.getLsbD i = true ∧
      4 ≤ inp.decodedRdAddress.toNat ∧ j.val = inp.decodedRdAddress.toNat then muxValue inp i
  else none

/-- `r` is a reset cycle and none of the cycles after it up to `t` is. -/
def LastReset (inputs : Nat → RegFileInput tpw dw) (r t : Nat) : Prop :=
  (inputs r).reset = true ∧ ∀ r', r < r' → r' ≤ t → (inputs r').reset = false

/-- The values cycles `s` to `s + n - 1` write to register `j` of thread `i`, oldest first. -/
def writesFrom (inputs : Nat → RegFileInput tpw dw) (i : Fin tpw) (j : Fin 32) (s n : Nat) :
    List (BitVec dw) :=
  (List.range' s n).filterMap fun w => writeValue (inputs w) i j

/-- The abstract register file after cycle `t`, when `r ≤ t` is the last reset: each register
holds the last value written to it after cycle `r`, or else the value cycle `r` loaded. -/
def RegFile.sinceReset (inputs : Nat → RegFileInput tpw dw) (r t : Nat) : Registers tpw dw :=
  fun i j => (writesFrom inputs i j (r + 1) (t - r)).getLast?.getD (resetValue (inputs r) i j)

theorem lastReset_self {inputs : Nat → RegFileInput tpw dw} {r : Nat}
    (hr : (inputs r).reset = true) : LastReset inputs r r :=
  ⟨hr, fun _ h1 h2 => absurd h2 (Nat.not_le_of_lt h1)⟩

theorem LastReset.succ {inputs : Nat → RegFileInput tpw dw} {r t : Nat}
    (h : LastReset inputs r t) (hr : (inputs (t + 1)).reset = false) : LastReset inputs r (t + 1) :=
  ⟨h.1, fun r' h1 h2 => (Nat.lt_or_eq_of_le h2).elim (fun h2 => h.2 r' h1 (Nat.lt_succ_iff.1 h2))
    fun h2 => h2 ▸ hr⟩

variable {regs : Registers tpw dw} {inp : RegFileInput tpw dw}

/-- A reset cycle loads `resetValue` into every register. -/
theorem step_eq_resetValue (hr : inp.reset = true) : RegFile.step regs inp = resetValue inp := by
  rw [RegFile.step, if_pos hr]
  rfl

/-- A cycle out of reset keeps a register unless it writes it, and then holds the value
written. -/
theorem step_of_not_reset (hr : inp.reset = false) (i : Fin tpw) (j : Fin 32) :
    RegFile.step regs inp i j = (writeValue inp i j).getD (regs i j) := by
  unfold RegFile.step writeValue
  rw [if_neg (by simp [hr])]
  by_cases he : (inp.enable && inp.decodedRegWriteEnable) = true
  · rw [if_pos he]
    simp only [he, true_and]
    split_ifs <;> rfl
  · simp [he]

/-- The writes of `n + 1` cycles are those of the first `n`, then the last cycle's. -/
theorem writesFrom_succ (inputs : Nat → RegFileInput tpw dw) (i : Fin tpw) (j : Fin 32)
    (s n : Nat) : writesFrom inputs i j s (n + 1) =
      writesFrom inputs i j s n ++ (writeValue (inputs (s + n)) i j).toList := by
  simp only [writesFrom, List.range'_concat, List.filterMap_append, one_mul]
  cases h : writeValue (inputs (s + n)) i j <;> simp [h]

/-- The last of a list extended by an optional value, with a default. -/
theorem getLast?_append_toList_getD {α : Type} (l : List α) (o : Option α) (d : α) :
    (l ++ o.toList).getLast?.getD d = o.getD (l.getLast?.getD d) := by
  cases o <;> simp

variable (regs0 : Registers tpw dw) (inputs : Nat → RegFileInput tpw dw)

/-- In every run that starts with a reset cycle, the state after cycle `t` is the abstract register
file of the last reset `r ≤ t`: each register holds its last write since that reset, or the value
the reset loaded. -/
theorem run_eq_sinceReset (h0 : (inputs 0).reset = true) (t : Nat) :
    ∃ r ≤ t, LastReset inputs r t ∧
      RegFile.run regs0 inputs (t + 1) = RegFile.sinceReset inputs r t := by
  induction t with
  | zero => exact ⟨0, le_rfl, lastReset_self h0, step_eq_resetValue h0⟩
  | succ t ih =>
    cases hr : (inputs (t + 1)).reset
    · obtain ⟨r, hrt, hlast, hrun⟩ := ih
      refine ⟨r, by omega, hlast.succ hr, funext fun i => funext fun j => ?_⟩
      have hn : t + 1 - r = t - r + 1 := by omega
      have hs : r + 1 + (t - r) = t + 1 := by omega
      show RegFile.step _ _ i j = _
      rw [step_of_not_reset hr, hrun, RegFile.sinceReset, RegFile.sinceReset, hn,
        writesFrom_succ, hs, getLast?_append_toList_getD]
    · refine ⟨t + 1, le_rfl, lastReset_self hr, funext fun i => funext fun j => ?_⟩
      simp only [RegFile.sinceReset, Nat.sub_self]
      exact congrFun (congrFun (step_eq_resetValue hr) i) j

theorem run_eq_sinceReset_reset_then_writes :
    let inputs : Nat → RegFileInput 1 4 :=
      fun t => ⟨t == 0, true, 1, 3, 2, 4, true, 2, 9, 7, 1, 2, fun _ => 5, fun _ => 6⟩
    (inputs 0).reset = true ∧ ∃ r ≤ 2, LastReset inputs r 2 ∧
      RegFile.run (fun _ _ => 15) inputs 3 = RegFile.sinceReset inputs r 2 :=
  ⟨rfl, run_eq_sinceReset _ _ rfl 2⟩

/-! ## Threads do not interfere

Thread `i` of the register file reads only its own registers, the warp's inputs, bit `i` of
`thread_enable` and its own ALU and LSU results. `run_thread_congr` lifts this from one cycle to
whole runs: runs whose inputs agree on what thread `i` reads, from states that agree on thread `i`,
keep thread `i`'s registers equal at every cycle, whatever the other threads hold or are given. -/

/-- `inp` and `inp'` agree on everything `reg_file` reads for thread `i`. -/
structure AgreeOnThread (i : Fin tpw) (inp inp' : RegFileInput tpw dw) : Prop where
  reset : inp.reset = inp'.reset
  enable : inp.enable = inp'.enable
  threadEnable : inp.threadEnable.getLsbD i = inp'.threadEnable.getLsbD i
  warpId : inp.warpId = inp'.warpId
  blockId : inp.blockId = inp'.blockId
  blockSize : inp.blockSize = inp'.blockSize
  decodedRegWriteEnable : inp.decodedRegWriteEnable = inp'.decodedRegWriteEnable
  decodedRegInputMux : inp.decodedRegInputMux = inp'.decodedRegInputMux
  decodedImmediate : inp.decodedImmediate = inp'.decodedImmediate
  decodedRdAddress : inp.decodedRdAddress = inp'.decodedRdAddress
  decodedRs1Address : inp.decodedRs1Address = inp'.decodedRs1Address
  decodedRs2Address : inp.decodedRs2Address = inp'.decodedRs2Address
  aluOut : inp.aluOut i = inp'.aluOut i
  lsuOut : inp.lsuOut i = inp'.lsuOut i

namespace AgreeOnThread

variable {i : Fin tpw} {inp' : RegFileInput tpw dw} {regs' : Registers tpw dw}
  (h : AgreeOnThread i inp inp')
include h

theorem resetValue_eq : resetValue inp i = resetValue inp' i := by
  funext j
  simp only [resetValue, threadIds, h.warpId, h.blockId, h.blockSize]

theorem writeValue_eq : writeValue inp i = writeValue inp' i := by
  funext j
  simp only [writeValue, muxValue, h.enable, h.decodedRegWriteEnable, h.threadEnable,
    h.decodedRdAddress, h.decodedRegInputMux, h.aluOut, h.lsuOut, h.decodedImmediate]

/-- One cycle: thread `i`'s next registers depend only on its own and on what it reads. -/
theorem step_eq (hregs : regs i = regs' i) :
    RegFile.step regs inp i = RegFile.step regs' inp' i := by
  funext j
  cases hr : inp.reset
  · rw [step_of_not_reset hr, step_of_not_reset (h.reset.symm.trans hr), h.writeValue_eq, hregs]
  · rw [step_eq_resetValue hr, step_eq_resetValue (h.reset.symm.trans hr), h.resetValue_eq]

theorem rs1_eq (hregs : regs i = regs' i) : rs1 regs inp i = rs1 regs' inp' i := by
  simp only [rs1, readPort, h.threadEnable, h.decodedRs1Address, hregs]

theorem rs2_eq (hregs : regs i = regs' i) : rs2 regs inp i = rs2 regs' inp' i := by
  simp only [rs2, readPort, h.threadEnable, h.decodedRs2Address, hregs]

end AgreeOnThread

section Runs

variable {i : Fin tpw} {regs0' : Registers tpw dw} {inputs' : Nat → RegFileInput tpw dw}
  (h : ∀ t, AgreeOnThread i (inputs t) (inputs' t)) (h0 : regs0 i = regs0' i)
include h h0

/-- Runs that agree on what thread `i` reads keep thread `i`'s registers equal. -/
theorem run_thread_congr (t : Nat) :
    RegFile.run regs0 inputs t i = RegFile.run regs0' inputs' t i := by
  induction t with
  | zero => exact h0
  | succ t ih => exact (h t).step_eq ih

/-- Thread isolation in `reg_file`: in two runs whose inputs agree on what thread `i` reads, from
states that agree on thread `i`, thread `i` holds the same registers and reads the same `rs1` and
`rs2` at every cycle, whatever the other threads hold, are enabled for or are given to write. -/
theorem regFile_threads_isolated (t : Nat) :
    RegFile.run regs0 inputs t i = RegFile.run regs0' inputs' t i ∧
      rs1 (RegFile.run regs0 inputs t) (inputs t) i =
        rs1 (RegFile.run regs0' inputs' t) (inputs' t) i ∧
      rs2 (RegFile.run regs0 inputs t) (inputs t) i =
        rs2 (RegFile.run regs0' inputs' t) (inputs' t) i :=
  have hrun := run_thread_congr regs0 inputs h h0 t
  ⟨hrun, (h t).rs1_eq hrun, (h t).rs2_eq hrun⟩

end Runs

/-- Two threads; the second run disables thread 1, gives it another ALU result and starts it from
other registers. Thread 0 cannot tell the runs apart. -/
theorem regFile_threads_isolated_thread_one_differs :
    let inputs : Nat → RegFileInput 2 4 :=
      fun _ => ⟨false, true, 3, 1, 2, 4, true, 0, 9, 7, 7, 1, fun _ => 5, fun _ => 6⟩
    let inputs' : Nat → RegFileInput 2 4 :=
      fun _ => ⟨false, true, 1, 1, 2, 4, true, 0, 9, 7, 7, 1, fun k => if k = 0 then 5 else 8,
        fun _ => 6⟩
    (∀ t, AgreeOnThread 0 (inputs t) (inputs' t)) ∧
      (fun _ _ => 0 : Registers 2 4) 0 = (fun k _ => if k = 0 then 0 else 3 : Registers 2 4) 0 ∧
      RegFile.run (fun _ _ => 0) inputs 2 0 = RegFile.run (fun k _ => if k = 0 then 0 else 3)
          inputs' 2 0 ∧
        rs1 (RegFile.run (fun _ _ => 0) inputs 2) (inputs 2) 0 =
          rs1 (RegFile.run (fun k _ => if k = 0 then 0 else 3) inputs' 2) (inputs' 2) 0 ∧
        rs2 (RegFile.run (fun _ _ => 0) inputs 2) (inputs 2) 0 =
          rs2 (RegFile.run (fun k _ => if k = 0 then 0 else 3) inputs' 2) (inputs' 2) 0 :=
  by
  intro inputs inputs'
  have h : ∀ t, AgreeOnThread 0 (inputs t) (inputs' t) := fun _ =>
    ⟨rfl, rfl, by dsimp only; decide, rfl, rfl, rfl, rfl, rfl, rfl, rfl, rfl, rfl, rfl, rfl⟩
  have h0 : (fun _ _ => 0 : Registers 2 4) 0 =
      (fun k _ => if k = 0 then 0 else 3 : Registers 2 4) 0 := rfl
  exact ⟨h, h0, regFile_threads_isolated _ _ h h0 2⟩

end LastWrite

end Rtl
end RiscvGpu
