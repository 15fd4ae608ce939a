import RiscvGpu.Simulator.Memory

/-!
# Simulate — `sim::tick` and `sim::simulate`

The driver raises `execution_start`, then runs up to `max_num_cycles` cycles. A cycle settles the
GPU (`eval`), stops with `true` if `execution_done` is high, and otherwise services the instruction
memory, then the data memory, settles the GPU again and clocks it (`tick`). The GPU is any
transition system over its ports: `eval` is a parameter.

The reference run `refLoop` is the spec's reading of the same loop, with each memory a total map
and the memory service the reference of `Memory`. Against it:

* `simulateLoop_refines`, `simulate_refines`: on a data memory whose read-data ports are bound as
  `make_data_memory` binds them, whatever `push_data` stored in it, and as long as no valid read
  asks for address `MAX_SIZE`, the driver's run is the reference run, cycle for cycle, and both
  memories are the reference's as total maps.
* `simulate_reads_through_null_pointer`: one out-of-range read is enough for a later read on the
  same channel to write through the null pointer the data memory left (`none`), where the
  reference run carries on.
* `simulate_keeps_instructionMem`: no run changes what the instruction memory holds.
-/

namespace RiscvGpu
namespace Sim

/-- Modelled from the spec: `Vgpu`, the Verilated GPU: the ports `sim.hpp` drives and the state
`σ` of the design behind them. -/
structure Vgpu (σ : Type) where
  ports : Ports
  core : σ

/-- `top.clk = clk`. -/
def Vgpu.setClk {σ : Type} (top : Vgpu σ) (clk : Bool) : Vgpu σ :=
  { top with ports := { top.ports with clk } }

section Simulate

variable {σ : Type} (eval : Vgpu σ → Vgpu σ) (numChannels : Nat)

/-- `sim::tick`: a falling and a rising clock edge, each settled by `eval`. -/
def tick (top : Vgpu σ) : Vgpu σ :=
  eval ((eval (top.setClk false)).setClk true)

/-- The loop of `sim::simulate` over its `k` remaining cycles: the result, with the GPU and the
memories as the call leaves them, or `none` when a memory writes through a null pointer. -/
def simulateLoop : Nat → Vgpu σ → InstructionMemory → DataMemory →
    Option (Bool × Vgpu σ × InstructionMemory × DataMemory)
  | 0, top, im, dm => some (false, top, im, dm)
  | k + 1, top, im, dm =>
    let top := eval top
    if top.ports.executionDone then some (true, top, im, dm)
    else
      let (im, ports) := im.process numChannels top.ports
      match dm.process numChannels ports with
      | none => none
      | some (dm, ports) => simulateLoop k (tick eval (eval { top with ports })) im dm

/-- `sim::simulate`: raise `execution_start`, then run `max_num_cycles` cycles. -/
def simulate (top : Vgpu σ) (im : InstructionMemory) (dm : DataMemory) (maxNumCycles : Nat) :
    Option (Bool × Vgpu σ × InstructionMemory × DataMemory) :=
  simulateLoop eval numChannels maxNumCycles
    { top with ports := { top.ports with executionStart := true } } im dm

/-! ## The reference run -/

/-- A state of the reference run: the GPU, and each memory as a total map. -/
structure RefState (σ : Type) where
  top : Vgpu σ
  instructionMem : BitVec 32 → BitVec 32
  dataMem : BitVec 32 → BitVec 32

/-- The driver's state seen as a reference state: each memory as the total map it stands for. -/
def RefState.abs (top : Vgpu σ) (im : InstructionMemory) (dm : DataMemory) : RefState σ :=
  ⟨top, lookup im.memory, lookup dm.memory⟩

/-- The spec's memory service of one cycle: the instruction memory's reads, then the data
memory's writes in channel order and its reads from the memory so written. -/
def serviceRef (s : RefState σ) : RefState σ :=
  let p := s.top.ports
  let dataMem := p.dataMemWrite.apply numChannels s.dataMem
  { s with
    top := { s.top with
      ports := { p with
        instructionMemRead := p.instructionMemRead.serve numChannels s.instructionMem
        dataMemWrite := p.dataMemWrite.serve numChannels
        dataMemRead := p.dataMemRead.serve numChannels dataMem } }
    dataMem }

/-- The reference run over `k` remaining cycles: settle; stop with `true` on `execution_done`;
otherwise service the memories, settle and tick. -/
def refLoop : Nat → RefState σ → Bool × RefState σ
  | 0, s => (false, s)
  | k + 1, s =>
    let s := { s with top := eval s.top }
    if s.top.ports.executionDone then (true, s)
    else
      let s := serviceRef numChannels s
      refLoop k { s with top := tick eval (eval s.top) }

/-- No valid read below `num_channels` asks for address `MAX_SIZE` at the service step of a
serviced cycle of the reference run over `k` cycles. -/
def InRangeReads : Nat → RefState σ → Prop
  | 0, _ => True
  | k + 1, s =>
    let s := { s with top := eval s.top }
    s.top.ports.executionDone = true ∨
      ((∀ j < numChannels, s.top.ports.dataMemRead.valid.getLsbD j = true →
          s.top.ports.dataMemRead.address j < maxSize) ∧
        InRangeReads k
          (let s := serviceRef numChannels s; { s with top := tick eval (eval s.top) }))

/-- One serviced cycle of the driver, on a data memory still bound to its ports and with every
read in range, is the reference's service. -/
theorem service_refines (top : Vgpu σ) (im : InstructionMemory) (dm : DataMemory)
    (hb : ∀ i < numChannels, dm.dataMemReadData i = some i)
    (hr : ∀ j < numChannels, top.ports.dataMemRead.valid.getLsbD j = true →
      top.ports.dataMemRead.address j < maxSize) :
    ∃ dm', (∀ i < numChannels, dm'.dataMemReadData i = some i) ∧
      dm.process numChannels (im.process numChannels top.ports).2 =
        some (dm', (serviceRef numChannels (RefState.abs top im dm)).top.ports) ∧
      RefState.abs { top with ports := (serviceRef numChannels (RefState.abs top im dm)).top.ports }
          (im.process numChannels top.ports).1 dm' =
        serviceRef numChannels (RefState.abs top im dm) := by
  have hi2 := InstructionMemory.process_ports numChannels im top.ports
  have hi1 := InstructionMemory.lookup_process numChannels im top.ports
  obtain ⟨memory, hm, hd⟩ := DataMemory.process_serves_in_range numChannels dm
    (im.process numChannels top.ports).2 hb (by rw [hi2]; exact hr)
  refine ⟨{ dm with memory }, hb, ?_, ?_⟩
  · rw [hd, hi2]
    rfl
  · simp only [RefState.abs, serviceRef, hi1, hm, hi2]

/-- As long as every read is in range, the driver's loop is the reference run: the same answer,
the same GPU, and both memories the reference's as total maps. -/
theorem simulateLoop_refines (k : Nat) (top : Vgpu σ) (im : InstructionMemory) (dm : DataMemory)
    (hb : ∀ i < numChannels, dm.dataMemReadData i = some i)
    (hr : InRangeReads eval numChannels k (RefState.abs top im dm)) :
    (simulateLoop eval numChannels k top im dm).map
        (fun r => (r.1, RefState.abs r.2.1 r.2.2.1 r.2.2.2)) =
      some (refLoop eval numChannels k (RefState.abs top im dm)) := by
  induction k generalizing top im dm with
  | zero => rfl
  | succ k ih =>
    simp only [InRangeReads] at hr
    simp only [simulateLoop, refLoop]
    by_cases hd : (eval top).ports.executionDone = true
    · simp [hd, RefState.abs]
    · obtain ⟨hin, hnext⟩ := hr.resolve_left hd
      obtain ⟨dm', hb', hproc, habs⟩ := service_refines numChannels (eval top) im dm hb hin
      rcases hq : im.process numChannels (eval top).ports with ⟨im', ports⟩
      rw [hq] at hproc habs
      change InRangeReads eval numChannels k
        (let s := serviceRef numChannels (RefState.abs (eval top) im dm)
         { s with top := tick eval (eval s.top) }) at hnext
      rw [← habs] at hnext
      rw [if_neg hd, if_neg (show ¬(eval (RefState.abs top im dm).top).ports.executionDone = true
        from hd)]
      simp only [hproc]
      change _ = some (refLoop eval numChannels k
        (let s := serviceRef numChannels (RefState.abs (eval top) im dm)
         { s with top := tick eval (eval s.top) }))
      rw [← habs]
      exact ih _ _ _ hb' hnext

/-- `sim::simulate` on a data memory whose read-data ports are bound as `make_data_memory` binds
them, whatever `push_data` has stored in it: with every read in range, it is the reference run
from the raised `execution_start`. -/
theorem simulate_refines (top : Vgpu σ) (im : InstructionMemory) (dm : DataMemory)
    (maxNumCycles : Nat) (hb : ∀ i < numChannels, dm.dataMemReadData i = some i)
    (hr : InRangeReads eval numChannels maxNumCycles
      (RefState.abs { top with ports := { top.ports with executionStart := true } } im dm)) :
    (simulate eval numChannels top im dm maxNumCycles).map
        (fun r => (r.1, RefState.abs r.2.1 r.2.2.1 r.2.2.2)) =
      some (refLoop eval numChannels maxNumCycles
        (RefState.abs { top with ports := { top.ports with executionStart := true } } im dm)) :=
  simulateLoop_refines eval numChannels maxNumCycles _ im dm hb hr

/-- A GPU that reads address 0 on data channel 0 in every cycle, from a data memory `push_data`
has loaded with 7 there: its reads are in range, and two cycles of `simulate` are two cycles of the
reference run. -/
theorem simulate_refines_reading_pushed_word :
    let eval : Vgpu Nat → Vgpu Nat := fun top =>
      { core := top.core + 1,
        ports := { top.ports with
          executionDone := false,
          dataMemRead := { top.ports.dataMemRead with valid := 1, address := fun _ => 0 } } }
    let top : Vgpu Nat :=
      ⟨⟨false, false, false, ⟨0, fun _ => 0, 0, fun _ => 0⟩, ⟨0, fun _ => 0, 0, fun _ => 0⟩,
        ⟨0, fun _ => 0, fun _ => 0, 0⟩⟩, 0⟩
    let dm : DataMemory := (makeDataMemory 1).pushData 7
    let s : RefState Nat :=
      RefState.abs { top with ports := { top.ports with executionStart := true } } {} dm
    (∀ i < 1, dm.dataMemReadData i = some i) ∧ InRangeReads eval 1 2 s ∧
      (simulate eval 1 top {} dm 2).map
          (fun r => (r.1, RefState.abs r.2.1 r.2.2.1 r.2.2.2)) = some (refLoop eval 1 2 s) := by
  intro eval top dm s
  have hb : ∀ i < 1, dm.dataMemReadData i = some i := fun i hi => by
    simp only [dm, DataMemory.pushData, makeDataMemory, if_pos hi]
  have hr : InRangeReads eval 1 2 s :=
    Or.inr ⟨fun _ _ _ => show (0 : BitVec 32) < maxSize by decide,
      Or.inr ⟨fun _ _ _ => show (0 : BitVec 32) < maxSize by decide, trivial⟩⟩
  exact ⟨hb, hr, simulate_refines eval 1 top {} dm 2 hb hr⟩

/-- Every run of the loop that returns leaves the instruction memory as the total map it started
with: its reads only ever insert cells reading 0. -/
theorem simulateLoop_instructionMem (k : Nat) (top : Vgpu σ) (im : InstructionMemory)
    (dm : DataMemory) {r : Bool × Vgpu σ × InstructionMemory × DataMemory}
    (h : simulateLoop eval numChannels k top im dm = some r) :
    lookup r.2.2.1.memory = lookup im.memory := by
  induction k generalizing top im dm with
  | zero => cases h; rfl
  | succ k ih =>
    rw [simulateLoop] at h
    by_cases hd : (eval top).ports.executionDone = true
    · rw [if_pos hd] at h
      cases h
      rfl
    · rw [if_neg hd] at h
      have hl := InstructionMemory.lookup_process numChannels im (eval top).ports
      rcases hq : im.process numChannels (eval top).ports with ⟨im', ports⟩
      rw [hq] at h hl
      dsimp only at h
      split at h
      · cases h
      · exact (ih _ _ _ h).trans hl

/-- `sim::simulate` never changes what the instruction memory holds: whatever the GPU does, out-of-
range reads included, every call that returns leaves it the total map it was given. -/
theorem simulate_keeps_instructionMem (top : Vgpu σ) (im : InstructionMemory) (dm : DataMemory)
    (maxNumCycles : Nat) {r : Bool × Vgpu σ × InstructionMemory × DataMemory}
    (h : simulate eval numChannels top im dm maxNumCycles = some r) :
    lookup r.2.2.1.memory = lookup im.memory :=
  simulateLoop_instructionMem eval numChannels maxNumCycles _ im dm h

/-- A GPU that fetches address 3 of an empty instruction memory in every cycle: the reads insert a
cell, which reads 0 as before. -/
theorem simulate_keeps_instructionMem_fetching :
    let eval : Vgpu Nat → Vgpu Nat := fun top =>
      { core := top.core + 1,
        ports := { top.ports with
          executionDone := false,
          instructionMemRead := { top.ports.instructionMemRead with
            valid := 1, address := fun _ => 3 } } }
    let top : Vgpu Nat :=
      ⟨⟨false, false, false, ⟨0, fun _ => 0, 0, fun _ => 0⟩, ⟨0, fun _ => 0, 0, fun _ => 0⟩,
        ⟨0, fun _ => 0, fun _ => 0, 0⟩⟩, 0⟩
    ∃ r, simulate eval 1 top {} (makeDataMemory 1) 2 = some r ∧
      lookup r.2.2.1.memory = lookup ({} : InstructionMemory).memory := by
  intro eval top
  have hsome : (simulate eval 1 top {} (makeDataMemory 1) 2).isSome = true := by
    dsimp only [eval, top]
    rfl
  obtain ⟨r, hr⟩ := Option.isSome_iff_exists.1 hsome
  exact ⟨r, hr, simulate_keeps_instructionMem eval 1 top {} (makeDataMemory 1) 2 hr⟩

end Simulate

/-- A GPU that reads address `MAX_SIZE` on data channel 0 in its first cycle and address 0 after:
`simulate` with one channel and two cycles writes through the pointer the first read nulled, where
the reference run answers both reads and ends with `false`. -/
theorem simulate_reads_through_null_pointer :
    let eval : Vgpu Nat → Vgpu Nat := fun top =>
      { core := top.core + 1,
        ports := { top.ports with
          executionDone := false,
          dataMemRead := { top.ports.dataMemRead with
            valid := 1, address := fun _ => if top.core = 0 then maxSize else 0 } } }
    let top : Vgpu Nat :=
      ⟨⟨false, true, false, ⟨0, fun _ => 0, 0, fun _ => 0⟩, ⟨0, fun _ => 0, 0, fun _ => 0⟩,
        ⟨0, fun _ => 0, fun _ => 0, 0⟩⟩, 0⟩
    simulate eval 1 top {} (makeDataMemory 1) 2 = none ∧
      (refLoop eval 1 2 (RefState.abs top {} (makeDataMemory 1))).1 = false :=
  ⟨rfl, rfl⟩

end Sim
end RiscvGpu
