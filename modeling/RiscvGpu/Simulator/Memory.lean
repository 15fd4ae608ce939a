import RiscvGpu.Simulator.Ports

/-!
# Memory — `InstructionMemory` and `DataMemory` of `sim.hpp`

Both memories serve the GPU's channels once per cycle in `process`: a loop over the channels that
reads each channel's valid bit and address off the ports and answers on its ready bit and data
port. The data memory runs a write loop first, so a read sees the writes of the same cycle.

The reference is written first, in the spec's words: `ReadChannels.serve` (every valid read
answered from the memory, 0 out of range), `WriteChannels.serve` and `WriteChannels.apply`
(every valid write acknowledged and applied, in channel order). Against it:

* `InstructionMemory.process_serves`: the instruction memory meets the reference, on every
  channel count, memory and port values.
* `DataMemory.process_eq`: what the data memory does when its port bindings are those
  `make_data_memory` made. Its read loop, on an out-of-range address, assigns
  `data_mem_read_data[i] = 0`: it nulls the channel's pointer instead of writing 0 through it, so
  the data port keeps its old value and a later read on that channel writes through a null
  pointer (`DataMemory.process_out_of_range_read_keeps_port`).
* `DataMemory.process_serves_in_range`: with no out-of-range read, the data memory meets the
  reference.
* `DataMemory.process_last_write_wins`: of several writes to one address in a cycle the highest
  channel's lands, and the reads of the same cycle see it.
* `InstructionMemory.process_fetches_pushed`: a program loaded with `push_instruction` is fetched
  back word by word.
* `DataMemory.process_eq_none_iff`: a call fails exactly on a valid in-range read through a null
  pointer.
-/

namespace RiscvGpu
namespace Sim

/-! ## The service the spec prescribes -/

/-- The reads of the channels below `n` answered from the total map `M`: ready bit `j` copies
valid bit `j`, and a valid channel's data port takes `M` at its address, or 0 when the address is
`MAX_SIZE`. Everything else is kept. -/
def ReadChannels.serve (n : Nat) (M : BitVec 32 → BitVec 32) (r : ReadChannels) : ReadChannels :=
  { r with
    ready := mergeBits n r.valid r.ready
    data := fun j =>
      if j < n ∧ r.valid.getLsbD j = true then
        if r.address j < maxSize then M (r.address j) else 0
      else r.data j }

@[simp] theorem ReadChannels.serve_valid (n : Nat) (M : BitVec 32 → BitVec 32) (r : ReadChannels) :
    (r.serve n M).valid = r.valid := rfl

@[simp] theorem ReadChannels.serve_address (n : Nat) (M : BitVec 32 → BitVec 32)
    (r : ReadChannels) : (r.serve n M).address = r.address := rfl

@[simp] theorem ReadChannels.serve_zero (M : BitVec 32 → BitVec 32) (r : ReadChannels) :
    r.serve 0 M = r :=
  ReadChannels.ext rfl rfl (BitVec.eq_of_getLsbD_eq fun _ => by simp [serve])
    (funext fun _ => by simp [serve])

/-- The writes of the channels below `n` acknowledged: ready bit `j` copies valid bit `j`. -/
def WriteChannels.serve (n : Nat) (w : WriteChannels) : WriteChannels :=
  { w with ready := mergeBits n w.valid w.ready }

/-- The total map `M` updated by the valid writes of the channels below `n`, in increasing channel
order; a write to `MAX_SIZE` is dropped. -/
def WriteChannels.apply (n : Nat) (w : WriteChannels) (M : BitVec 32 → BitVec 32) :
    BitVec 32 → BitVec 32 :=
  (List.range n).foldl (fun M i =>
    if w.valid.getLsbD i = true ∧ w.address i < maxSize then
      Function.update M (w.address i) (w.data i)
    else M) M

theorem ReadChannels.serve_data (n : Nat) (M : BitVec 32 → BitVec 32) (r : ReadChannels)
    (j : Nat) :
    (r.serve n M).data j =
      if j < n ∧ r.valid.getLsbD j = true then
        if r.address j < maxSize then M (r.address j) else 0
      else r.data j := rfl

theorem ReadChannels.serve_ready_succ (n : Nat) (M : BitVec 32 → BitVec 32) (r : ReadChannels) :
    (r.serve (n + 1) M).ready = setBit (r.serve n M).ready n (r.valid.getLsbD n) :=
  mergeBits_succ n r.valid r.ready

/-- Serving one more read channel answers channel `n` and leaves the others. -/
theorem ReadChannels.serve_succ (n : Nat) (M : BitVec 32 → BitVec 32) (r : ReadChannels) :
    r.serve (n + 1) M =
      if r.valid.getLsbD n = true then
        { r.serve n M with
          ready := setBit (r.serve n M).ready n true
          data := Function.update (r.serve n M).data n
            (if r.address n < maxSize then M (r.address n) else 0) }
      else { r.serve n M with ready := setBit (r.serve n M).ready n false } := by
  have hdata : ∀ j, j ≠ n → (j < n + 1 ↔ j < n) := fun j hj => by omega
  by_cases hv : r.valid.getLsbD n = true
  · rw [if_pos hv]
    refine ReadChannels.ext rfl rfl (hv ▸ serve_ready_succ n M r) (funext fun j => ?_)
    by_cases hjn : j = n
    · subst hjn
      simp [serve_data, hv]
    · simp [serve_data, hjn, hdata j hjn]
  · rw [if_neg hv]
    refine ReadChannels.ext rfl rfl (by simpa [hv] using serve_ready_succ n M r)
      (funext fun j => ?_)
    by_cases hjn : j = n
    · subst hjn
      simp [serve_data, hv]
    · simp [serve_data, hdata j hjn]

@[simp] theorem WriteChannels.serve_zero (w : WriteChannels) : w.serve 0 = w :=
  WriteChannels.ext rfl rfl rfl (BitVec.eq_of_getLsbD_eq fun _ => by simp [serve])

/-- Acknowledging one more write channel sets channel `n`'s ready bit to its valid bit. -/
theorem WriteChannels.serve_succ (n : Nat) (w : WriteChannels) :
    w.serve (n + 1) =
      { w.serve n with ready := setBit (w.serve n).ready n (w.valid.getLsbD n) } := by
  simp [serve, mergeBits_succ]

/-- Applying one more write channel applies channel `n`'s write after the others. -/
theorem WriteChannels.apply_succ (n : Nat) (w : WriteChannels) (M : BitVec 32 → BitVec 32) :
    w.apply (n + 1) M =
      if w.valid.getLsbD n = true ∧ w.address n < maxSize then
        Function.update (w.apply n M) (w.address n) (w.data n)
      else w.apply n M := by
  simp only [apply, List.range_succ, List.foldl_append, List.foldl_cons, List.foldl_nil]

/-! ## `InstructionMemory` -/

/-- `sim::InstructionMemory`: the memory and the `stack_ptr` that `push_instruction` fills it from.
`make_instruction_memory` binds channel `i`'s port pointers to channel `i`'s ports and nothing
rebinds them, so `process` reads and writes the ports themselves. -/
structure InstructionMemory where
  memory : MemoryMap := fun _ => none
  stackPtr : BitVec 32 := 0

/-- `InstructionMemory::load_instruction`. -/
def InstructionMemory.loadInstruction (mem : InstructionMemory) (addr instruction : BitVec 32) :
    InstructionMemory :=
  if addr < maxSize then { mem with memory := Function.update mem.memory addr (some instruction) }
  else mem

/-- `InstructionMemory::push_instruction`, the instruction given as the `IData` it is cast to. -/
def InstructionMemory.pushInstruction (mem : InstructionMemory) (instruction : BitVec 32) :
    InstructionMemory :=
  { memory := Function.update mem.memory mem.stackPtr (some instruction),
    stackPtr := mem.stackPtr + 1 }

/-- One iteration of the loop of `InstructionMemory::process`, for channel `i`. -/
def InstructionMemory.processChannel (st : MemoryMap × ReadChannels) (i : Nat) :
    MemoryMap × ReadChannels :=
  let (memory, r) := st
  if r.valid &&& 1#8 <<< i ≠ 0 then
    let addr := r.address i
    if addr < maxSize then
      let (value, memory) := subscript memory addr
      (memory, { r with data := Function.update r.data i value, ready := setBit r.ready i true })
    else (memory, { r with data := Function.update r.data i 0, ready := setBit r.ready i true })
  else (memory, { r with ready := setBit r.ready i false })

/-- `InstructionMemory::process`: serve the read channels `0 .. num_channels - 1` in order. -/
def InstructionMemory.process (numChannels : Nat) (mem : InstructionMemory) (top : Ports) :
    InstructionMemory × Ports :=
  let (memory, r) :=
    (List.range numChannels).foldl InstructionMemory.processChannel
      (mem.memory, top.instructionMemRead)
  ({ mem with memory }, { top with instructionMemRead := r })

/-- One iteration on the ports the earlier channels were served on serves channel `n` too, and
keeps the memory as a total map. -/
theorem InstructionMemory.processChannel_serve (memory : MemoryMap) (r : ReadChannels) (n : Nat) :
    (processChannel (memory, r.serve n (lookup memory)) n).2 = r.serve (n + 1) (lookup memory) ∧
      lookup (processChannel (memory, r.serve n (lookup memory)) n).1 = lookup memory := by
  rw [ReadChannels.serve_succ]
  by_cases hv : r.valid.getLsbD n = true
  · have ht : r.valid &&& 1#8 <<< n ≠ 0#8 := (and_shiftLeft_ne_zero _ _).2 hv
    by_cases ha : r.address n < maxSize <;> simp [processChannel, ht, hv, ha, ReadChannels.serve]
  · have ht : r.valid &&& 1#8 <<< n = 0#8 := not_not.1 (mt (and_shiftLeft_ne_zero _ _).1 hv)
    simp [processChannel, ht, hv]

/-- The loop of `InstructionMemory::process` serves the channels below `n` from the memory it
started with, and keeps that memory as a total map. -/
theorem InstructionMemory.foldl_processChannel (memory : MemoryMap) (r : ReadChannels) (n : Nat) :
    ((List.range n).foldl processChannel (memory, r)).2 = r.serve n (lookup memory) ∧
      lookup ((List.range n).foldl processChannel (memory, r)).1 = lookup memory := by
  induction n with
  | zero => simp
  | succ n ih =>
    rw [List.range_succ, List.foldl_append, List.foldl_cons, List.foldl_nil]
    obtain ⟨h2, h1⟩ := ih
    set st := (List.range n).foldl processChannel (memory, r)
    have hst : st = (st.1, r.serve n (lookup st.1)) := by rw [h1, ← h2]
    rw [hst, ← h1]
    exact processChannel_serve st.1 r n

/-- `InstructionMemory::process` meets the reference: the instruction-memory read channels below
`num_channels` are served from the memory as a total map, which it leaves unchanged, and no other
port changes. -/
theorem InstructionMemory.process_serves (numChannels : Nat) (mem : InstructionMemory)
    (top : Ports) :
    (mem.process numChannels top).2 =
        { top with
          instructionMemRead := top.instructionMemRead.serve numChannels (lookup mem.memory) } ∧
      lookup (mem.process numChannels top).1.memory = lookup mem.memory := by
  obtain ⟨h2, h1⟩ := foldl_processChannel mem.memory top.instructionMemRead numChannels
  exact ⟨by simp only [process, h2], h1⟩

/-- The ports `InstructionMemory::process` leaves: its read channels served from the memory. -/
theorem InstructionMemory.process_ports (numChannels : Nat) (mem : InstructionMemory)
    (top : Ports) :
    (mem.process numChannels top).2 =
      { top with
        instructionMemRead := top.instructionMemRead.serve numChannels (lookup mem.memory) } := by
  simp only [process, (foldl_processChannel mem.memory top.instructionMemRead numChannels).1]

/-- `InstructionMemory::process` keeps the memory as a total map. -/
theorem InstructionMemory.lookup_process (numChannels : Nat) (mem : InstructionMemory)
    (top : Ports) : lookup (mem.process numChannels top).1.memory = lookup mem.memory :=
  (foldl_processChannel mem.memory top.instructionMemRead numChannels).2

/-! ### Loading a program

A test loads its program with `push_instruction`, one word after the other from `stack_ptr`, which
is a `uint32_t` and wraps around. -/

/-- After pushing the words `xs` (at most `2 ^ 32` of them) from stack pointer `p`, an address `a`
in the window `p, p + 1, …` holds `xs[a - p]`, and any other address its old value. -/
theorem InstructionMemory.lookup_foldl_pushInstruction (mem : InstructionMemory)
    (xs : List (BitVec 32)) (hlen : xs.length ≤ 2 ^ 32) (a : BitVec 32) :
    lookup (xs.foldl pushInstruction mem).memory a =
      if h : (a - mem.stackPtr).toNat < xs.length then xs[(a - mem.stackPtr).toNat]
      else lookup mem.memory a := by
  induction xs generalizing mem with
  | nil => rfl
  | cons x xs ih =>
    rw [List.foldl_cons, ih _ (by simp at hlen; omega)]
    simp only [pushInstruction, lookup_update, List.length_cons]
    by_cases ha : a = mem.stackPtr
    · subst ha
      have hwrap : ¬(mem.stackPtr - (mem.stackPtr + 1)).toNat < xs.length := by
        simp only [List.length_cons] at hlen
        bv_omega
      rw [dif_neg hwrap]
      simp only [Function.update_same, sub_self, BitVec.ofNat_eq_ofNat, BitVec.toNat_ofNat,
        Nat.zero_mod, Nat.zero_lt_succ, dif_pos, List.getElem_cons_zero]
    · have hk : (a - mem.stackPtr).toNat = (a - (mem.stackPtr + 1)).toNat + 1 := by bv_omega
      simp only [hk, List.getElem_cons_succ, Nat.add_lt_add_iff_right,
        Function.update_noteq ha]

/-- A program pushed from stack pointer `p` is fetched back: after the pushes, a cycle of
`InstructionMemory::process` answers a valid read of an in-range address `p + k` on any of its
channels with the `k`-th word pushed. -/
theorem InstructionMemory.process_fetches_pushed (numChannels : Nat) (mem : InstructionMemory)
    (xs : List (BitVec 32)) (hlen : xs.length ≤ 2 ^ 32) (top : Ports) {j k : Nat}
    (hj : j < numChannels) (hv : top.instructionMemRead.valid.getLsbD j = true)
    (hk : k < xs.length)
    (ha : top.instructionMemRead.address j = mem.stackPtr + BitVec.ofNat 32 k)
    (hin : top.instructionMemRead.address j < maxSize) :
    (((xs.foldl pushInstruction mem).process numChannels top).2.instructionMemRead.data j) =
      xs[k] := by
  have hoff : (mem.stackPtr + BitVec.ofNat 32 k - mem.stackPtr).toNat = k := by
    rw [add_sub_cancel_left, BitVec.toNat_ofNat, Nat.mod_eq_of_lt (by omega)]
  rw [process_ports, ReadChannels.serve_data, if_pos ⟨hj, hv⟩, if_pos hin,
    lookup_foldl_pushInstruction mem xs hlen, ha]
  simp only [hoff, hk, dif_pos]

/-- The program `7, 8, 9` pushed into a fresh instruction memory: a read of address 1 on channel
0 gets 8. -/
theorem InstructionMemory.process_fetches_pushed_second_word :
    let top : Ports :=
      { clk := false, executionStart := true, executionDone := false,
        instructionMemRead := ⟨1, fun _ => 1, 0, fun _ => 0⟩,
        dataMemRead := ⟨0, fun _ => 0, 0, fun _ => 0⟩,
        dataMemWrite := ⟨0, fun _ => 0, fun _ => 0, 0⟩ }
    let xs : List (BitVec 32) := [7, 8, 9]
    xs.length ≤ 2 ^ 32 ∧ 0 < 1 ∧ top.instructionMemRead.valid.getLsbD 0 = true ∧
      1 < xs.length ∧
      top.instructionMemRead.address 0 = (({} : InstructionMemory).stackPtr + BitVec.ofNat 32 1) ∧
      top.instructionMemRead.address 0 < maxSize ∧
      ((xs.foldl InstructionMemory.pushInstruction {}).process 1 top).2.instructionMemRead.data 0 =
        xs[1] := by
  intro top xs
  have hv : top.instructionMemRead.valid.getLsbD 0 = true := by dsimp only [top]; decide
  have ha : top.instructionMemRead.address 0 < maxSize := by dsimp only [top]; decide
  exact ⟨by decide, by decide, hv, by decide, rfl, ha,
    InstructionMemory.process_fetches_pushed 1 {} xs (by decide) top (by decide) hv (by decide)
      rfl ha⟩

/-! ## `DataMemory` -/

/-- `sim::DataMemory`: the memory, the `stack_ptr` that `push_data` fills it from, and
`data_mem_read_data`, the read-data port each channel writes through (`none` is a null pointer).
The other port pointers are bound to channel `i`'s ports by `make_data_memory` and never rebound,
so `process` reads and writes those ports themselves. -/
structure DataMemory where
  memory : MemoryMap := fun _ => none
  dataMemReadData : Nat → Option Nat
  stackPtr : BitVec 32 := 0

/-- `make_data_memory`: channel `i` reads into read-data port `i`. -/
def makeDataMemory (numChannels : Nat) : DataMemory where
  dataMemReadData i := if i < numChannels then some i else none

/-- `DataMemory::push_data`. -/
def DataMemory.pushData (mem : DataMemory) (data : BitVec 32) : DataMemory :=
  { mem with
    memory := Function.update mem.memory mem.stackPtr (some data)
    stackPtr := mem.stackPtr + 1 }

/-- One iteration of the write loop of `DataMemory::process`, for channel `i`. -/
def DataMemory.writeChannel (st : MemoryMap × WriteChannels) (i : Nat) :
    MemoryMap × WriteChannels :=
  let (memory, w) := st
  if w.valid &&& 1#8 <<< i ≠ 0 then
    let addr := w.address i
    let memory :=
      if addr < maxSize then Function.update memory addr (some (w.data i)) else memory
    (memory, { w with ready := setBit w.ready i true })
  else (memory, { w with ready := setBit w.ready i false })

/-- One iteration of the read loop of `DataMemory::process`, for channel `i`; `none` when it writes
through a null pointer. On an out-of-range address it assigns the pointer, not the port. -/
def DataMemory.readChannel (st : DataMemory × ReadChannels) (i : Nat) :
    Option (DataMemory × ReadChannels) :=
  let (mem, r) := st
  if r.valid &&& 1#8 <<< i ≠ 0 then
    let addr := r.address i
    if addr < maxSize then
      let (value, memory) := subscript mem.memory addr
      match mem.dataMemReadData i with
      | some port =>
        some ({ mem with memory },
          { r with data := Function.update r.data port value, ready := setBit r.ready i true })
      | none => none
    else
      some ({ mem with dataMemReadData := Function.update mem.dataMemReadData i none },
        { r with ready := setBit r.ready i true })
  else some (mem, { r with ready := setBit r.ready i false })

/-- `DataMemory::process`: the write loop, then the read loop, over channels
`0 .. num_channels - 1`. -/
def DataMemory.process (numChannels : Nat) (mem : DataMemory) (top : Ports) :
    Option (DataMemory × Ports) := do
  let (memory, w) :=
    (List.range numChannels).foldl DataMemory.writeChannel (mem.memory, top.dataMemWrite)
  let (mem, r) ← (List.range numChannels).foldlM DataMemory.readChannel
    ({ mem with memory }, top.dataMemRead)
  return (mem, { top with dataMemWrite := w, dataMemRead := r })

/-- One write iteration on the ports the earlier channels were acknowledged on acknowledges channel
`n` too, and applies its write. -/
theorem DataMemory.writeChannel_serve (memory : MemoryMap) (w : WriteChannels) (n : Nat) :
    (writeChannel (memory, w.serve n) n).2 = w.serve (n + 1) ∧
      lookup (writeChannel (memory, w.serve n) n).1 =
        if w.valid.getLsbD n = true ∧ w.address n < maxSize then
          Function.update (lookup memory) (w.address n) (w.data n)
        else lookup memory := by
  rw [WriteChannels.serve_succ]
  by_cases hv : w.valid.getLsbD n = true
  · have ht : w.valid &&& 1#8 <<< n ≠ 0#8 := (and_shiftLeft_ne_zero _ _).2 hv
    by_cases ha : w.address n < maxSize <;> simp [writeChannel, WriteChannels.serve, ht, hv, ha]
  · have ht : w.valid &&& 1#8 <<< n = 0#8 := not_not.1 (mt (and_shiftLeft_ne_zero _ _).1 hv)
    simp [writeChannel, WriteChannels.serve, ht, hv]

/-- The write loop acknowledges the channels below `n` and applies their writes in order. -/
theorem DataMemory.foldl_writeChannel (memory : MemoryMap) (w : WriteChannels) (n : Nat) :
    ((List.range n).foldl writeChannel (memory, w)).2 = w.serve n ∧
      lookup ((List.range n).foldl writeChannel (memory, w)).1 = w.apply n (lookup memory) := by
  induction n with
  | zero => simp [WriteChannels.apply]
  | succ n ih =>
    rw [List.range_succ, List.foldl_append, List.foldl_cons, List.foldl_nil,
      WriteChannels.apply_succ]
    obtain ⟨h2, h1⟩ := ih
    set st := (List.range n).foldl writeChannel (memory, w)
    have hst : st = (st.1, w.serve n) := by rw [← h2]
    rw [hst, ← h1]
    exact writeChannel_serve st.1 w n

/-- The read ports the read loop of `DataMemory::process` leaves: those of `serve`, except that a
channel whose address is out of range keeps its data port. -/
def ReadChannels.serveKeepingOutOfRange (n : Nat) (M : BitVec 32 → BitVec 32) (r : ReadChannels) :
    ReadChannels :=
  { r.serve n M with
    data := fun j => if r.address j < maxSize then (r.serve n M).data j else r.data j }

theorem ReadChannels.serveKeepingOutOfRange_data (n : Nat) (M : BitVec 32 → BitVec 32)
    (r : ReadChannels) (j : Nat) :
    (r.serveKeepingOutOfRange n M).data j =
      if r.address j < maxSize then (r.serve n M).data j else r.data j := rfl

/-- With no valid out-of-range read below `n`, the data memory's reads are the reference's. -/
theorem ReadChannels.serveKeepingOutOfRange_eq_serve {n : Nat} {M : BitVec 32 → BitVec 32}
    {r : ReadChannels} (h : ∀ j < n, r.valid.getLsbD j = true → r.address j < maxSize) :
    r.serveKeepingOutOfRange n M = r.serve n M := by
  refine ReadChannels.ext rfl rfl rfl (funext fun j => ?_)
  by_cases ha : r.address j < maxSize
  · simp [serveKeepingOutOfRange, ha]
  · have : ¬(j < n ∧ r.valid.getLsbD j = true) := fun hj => ha (h j hj.1 hj.2)
    simp [serveKeepingOutOfRange, serve, ha, this]

/-- Serving one more channel the data memory's way: a valid in-range read answers channel `n`, an
out-of-range one only raises its ready bit. -/
theorem ReadChannels.serveKeepingOutOfRange_succ (n : Nat) (M : BitVec 32 → BitVec 32)
    (r : ReadChannels) :
    r.serveKeepingOutOfRange (n + 1) M =
      if r.valid.getLsbD n = true then
        if r.address n < maxSize then
          { r.serveKeepingOutOfRange n M with
            ready := setBit (r.serveKeepingOutOfRange n M).ready n true
            data := Function.update (r.serveKeepingOutOfRange n M).data n (M (r.address n)) }
        else
          { r.serveKeepingOutOfRange n M with
            ready := setBit (r.serveKeepingOutOfRange n M).ready n true }
      else
        { r.serveKeepingOutOfRange n M with
          ready := setBit (r.serveKeepingOutOfRange n M).ready n false } := by
  have hdata : ∀ j, j ≠ n → (j < n + 1 ↔ j < n) := fun j hj => by omega
  have hready := ReadChannels.serve_ready_succ n M r
  by_cases hv : r.valid.getLsbD n = true
  · rw [if_pos hv]
    by_cases ha : r.address n < maxSize
    · rw [if_pos ha]
      refine ReadChannels.ext rfl rfl (hv ▸ hready) (funext fun j => ?_)
      by_cases hjn : j = n
      · subst hjn
        simp [serveKeepingOutOfRange_data, ReadChannels.serve_data, hv, ha]
      · simp [serveKeepingOutOfRange_data, ReadChannels.serve_data, hjn, hdata j hjn]
    · rw [if_neg ha]
      refine ReadChannels.ext rfl rfl (hv ▸ hready) (funext fun j => ?_)
      by_cases hjn : j = n
      · subst hjn
        simp [serveKeepingOutOfRange_data, ha]
      · simp [serveKeepingOutOfRange_data, ReadChannels.serve_data, hdata j hjn]
  · rw [if_neg hv]
    refine ReadChannels.ext rfl rfl (by simpa [hv] using hready) (funext fun j => ?_)
    by_cases hjn : j = n
    · subst hjn
      simp [serveKeepingOutOfRange_data, ReadChannels.serve_data, hv]
    · simp [serveKeepingOutOfRange_data, ReadChannels.serve_data, hdata j hjn]

@[simp] theorem ReadChannels.serveKeepingOutOfRange_zero (M : BitVec 32 → BitVec 32)
    (r : ReadChannels) : r.serveKeepingOutOfRange 0 M = r :=
  ReadChannels.ext rfl rfl (by simp [serveKeepingOutOfRange])
    (funext fun _ => by simp [serveKeepingOutOfRange])

/-- The read-data bindings `b` after the read loop has run over the channels below `n`: each
out-of-range read has nulled its channel's pointer. -/
def ReadChannels.unbindOutOfRange (n : Nat) (r : ReadChannels) (b : Nat → Option Nat) :
    Nat → Option Nat :=
  fun j => if j < n ∧ r.valid.getLsbD j = true ∧ ¬r.address j < maxSize then none else b j

theorem ReadChannels.unbindOutOfRange_succ (n : Nat) (r : ReadChannels) (b : Nat → Option Nat) :
    r.unbindOutOfRange (n + 1) b =
      if r.valid.getLsbD n = true ∧ ¬r.address n < maxSize then
        Function.update (r.unbindOutOfRange n b) n none
      else r.unbindOutOfRange n b := by
  funext j
  by_cases hjn : j = n
  · subst hjn
    split_ifs <;> simp_all [unbindOutOfRange]
  · have : j < n + 1 ↔ j < n := by omega
    split_ifs <;> simp [unbindOutOfRange, Function.update_apply, hjn, this]

/-- With no valid out-of-range read below `n`, the read loop keeps every binding. -/
theorem ReadChannels.unbindOutOfRange_eq_self {n : Nat} {r : ReadChannels} (b : Nat → Option Nat)
    (h : ∀ j < n, r.valid.getLsbD j = true → r.address j < maxSize) :
    r.unbindOutOfRange n b = b :=
  funext fun j => if_neg fun hj => hj.2.2 (h j hj.1 hj.2.1)

/-- One read iteration, on channel `n` still bound to port `n`, serves channel `n` the data
memory's way and keeps the memory as a total map. -/
theorem DataMemory.readChannel_serve (memory : MemoryMap) (b : Nat → Option Nat)
    (stackPtr : BitVec 32) (r : ReadChannels) (n : Nat) (hb : b n = some n) :
    ∃ memory', lookup memory' = lookup memory ∧
      readChannel (⟨memory, r.unbindOutOfRange n b, stackPtr⟩,
          r.serveKeepingOutOfRange n (lookup memory)) n =
        some (⟨memory', r.unbindOutOfRange (n + 1) b, stackPtr⟩,
          r.serveKeepingOutOfRange (n + 1) (lookup memory)) := by
  have hbn : r.unbindOutOfRange n b n = some n := by simp [ReadChannels.unbindOutOfRange, hb]
  rw [ReadChannels.serveKeepingOutOfRange_succ, ReadChannels.unbindOutOfRange_succ]
  by_cases hv : r.valid.getLsbD n = true
  · have ht : r.valid &&& 1#8 <<< n ≠ 0#8 := (and_shiftLeft_ne_zero _ _).2 hv
    by_cases ha : r.address n < maxSize
    · exact ⟨_, lookup_subscript_snd memory (r.address n),
        by simp [readChannel, ReadChannels.serveKeepingOutOfRange, ht, hv, ha, hbn]⟩
    · exact ⟨memory, rfl, by simp [readChannel, ReadChannels.serveKeepingOutOfRange, ht, hv, ha]⟩
  · have ht : r.valid &&& 1#8 <<< n = 0#8 := not_not.1 (mt (and_shiftLeft_ne_zero _ _).1 hv)
    exact ⟨memory, rfl, by simp [readChannel, ReadChannels.serveKeepingOutOfRange, ht, hv]⟩

/-- The read loop, on channels bound to their own ports, serves the channels below `n` the data
memory's way, nulls the pointer of each out-of-range read, and keeps the memory as a total map. -/
theorem DataMemory.foldlM_readChannel (memory : MemoryMap) (b : Nat → Option Nat)
    (stackPtr : BitVec 32) (r : ReadChannels) (n : Nat) (hb : ∀ i < n, b i = some i) :
    ∃ memory', lookup memory' = lookup memory ∧
      (List.range n).foldlM readChannel (⟨memory, b, stackPtr⟩, r) =
        some (⟨memory', r.unbindOutOfRange n b, stackPtr⟩,
          r.serveKeepingOutOfRange n (lookup memory)) := by
  induction n with
  | zero =>
    refine ⟨memory, rfl, ?_⟩
    simp [ReadChannels.unbindOutOfRange]
    rfl
  | succ n ih =>
    obtain ⟨m1, h1, hrun⟩ := ih fun i hi => hb i (by omega)
    obtain ⟨m2, h2, hstep⟩ := readChannel_serve m1 b stackPtr r n (hb n (by omega))
    refine ⟨m2, h2.trans h1, ?_⟩
    rw [List.range_succ, List.foldlM_append, hrun, ← h1]
    simpa using hstep

/-- `DataMemory::process`, on channels bound to their own ports as `make_data_memory` binds them:
every write is acknowledged and applied in channel order; then every read is acknowledged, a
valid in-range one answered from the written memory, while an out-of-range one leaves its data
port and nulls the channel's pointer. -/
theorem DataMemory.process_eq (numChannels : Nat) (mem : DataMemory) (top : Ports)
    (hb : ∀ i < numChannels, mem.dataMemReadData i = some i) :
    ∃ memory, lookup memory = top.dataMemWrite.apply numChannels (lookup mem.memory) ∧
      mem.process numChannels top =
        some ({ mem with
                memory
                dataMemReadData :=
                  top.dataMemRead.unbindOutOfRange numChannels mem.dataMemReadData },
          { top with
            dataMemWrite := top.dataMemWrite.serve numChannels
            dataMemRead := top.dataMemRead.serveKeepingOutOfRange numChannels
              (top.dataMemWrite.apply numChannels (lookup mem.memory)) }) := by
  obtain ⟨hw2, hw1⟩ := foldl_writeChannel mem.memory top.dataMemWrite numChannels
  set st := (List.range numChannels).foldl writeChannel (mem.memory, top.dataMemWrite)
  obtain ⟨memory, hm, hrun⟩ :=
    foldlM_readChannel st.1 mem.dataMemReadData mem.stackPtr top.dataMemRead numChannels hb
  refine ⟨memory, hm.trans hw1, ?_⟩
  simp only [process, ← hw2]
  rw [show ({ mem with memory := st.1 } : DataMemory) = ⟨st.1, mem.dataMemReadData, mem.stackPtr⟩
    from rfl, hrun, ← hw1]
  rfl

/-- With no valid out-of-range read, `DataMemory::process` meets the reference: the writes are
acknowledged and applied in channel order, the reads are served from the memory so written, and
the bindings are kept, so the next call serves every channel again. -/
theorem DataMemory.process_serves_in_range (numChannels : Nat) (mem : DataMemory) (top : Ports)
    (hb : ∀ i < numChannels, mem.dataMemReadData i = some i)
    (hr : ∀ j < numChannels, top.dataMemRead.valid.getLsbD j = true →
      top.dataMemRead.address j < maxSize) :
    ∃ memory, lookup memory = top.dataMemWrite.apply numChannels (lookup mem.memory) ∧
      mem.process numChannels top =
        some ({ mem with memory },
          { top with
            dataMemWrite := top.dataMemWrite.serve numChannels
            dataMemRead := top.dataMemRead.serve numChannels
              (top.dataMemWrite.apply numChannels (lookup mem.memory)) }) := by
  obtain ⟨memory, hm, h⟩ := process_eq numChannels mem top hb
  rw [ReadChannels.unbindOutOfRange_eq_self _ hr,
    ReadChannels.serveKeepingOutOfRange_eq_serve hr] at h
  exact ⟨memory, hm, h⟩

/-! ## One cycle of the data memory

Several channels may write one address in the same cycle; the write loop applies them in channel
order, so the highest channel's write is the one that lands, and the read loop, which runs after
it, answers every read of that address with it. -/

/-- The valid in-range write of channel `j` lands when no later channel below `n` writes the same
address. -/
theorem WriteChannels.apply_of_last {n j : Nat} {w : WriteChannels} {M : BitVec 32 → BitVec 32}
    (hj : j < n) (hv : w.valid.getLsbD j = true) (ha : w.address j < maxSize)
    (hlast : ∀ k, j < k → k < n → w.valid.getLsbD k = true → w.address k ≠ w.address j) :
    w.apply n M (w.address j) = w.data j := by
  induction n with
  | zero => omega
  | succ n ih =>
    rw [WriteChannels.apply_succ]
    rcases Nat.lt_succ_iff_lt_or_eq.1 hj with hj | rfl
    · have hrest : ∀ k, j < k → k < n → w.valid.getLsbD k = true → w.address k ≠ w.address j :=
        fun k h1 h2 => hlast k h1 (by omega)
      split_ifs with h
      · rw [Function.update_noteq (hlast n hj (by omega) h.1).symm]
        exact ih hj hrest
      · exact ih hj hrest
    · rw [if_pos ⟨hv, ha⟩, Function.update_same]

/-- An address no valid in-range write below `n` names keeps its value. -/
theorem WriteChannels.apply_of_unwritten {n : Nat} {w : WriteChannels}
    {M : BitVec 32 → BitVec 32} {a : BitVec 32}
    (h : ∀ k < n, w.valid.getLsbD k = true → w.address k < maxSize → w.address k ≠ a) :
    w.apply n M a = M a := by
  induction n with
  | zero => rfl
  | succ n ih =>
    have hn := ih fun k hk => h k (by omega)
    rw [WriteChannels.apply_succ]
    split_ifs with hw
    · rw [Function.update_noteq (h n (by omega) hw.1 hw.2).symm, hn]
    · exact hn

/-- One cycle of `DataMemory::process` on channels bound as `make_data_memory` binds them: when
channel `j` makes the last valid write to an in-range address, that write lands, every valid read
of the address in the same cycle returns it, and every address no valid in-range write names keeps
its value. -/
theorem DataMemory.process_last_write_wins (numChannels : Nat) (mem : DataMemory) (top : Ports)
    (hb : ∀ i < numChannels, mem.dataMemReadData i = some i) {j : Nat} (hj : j < numChannels)
    (hv : top.dataMemWrite.valid.getLsbD j = true) (ha : top.dataMemWrite.address j < maxSize)
    (hlast : ∀ k, j < k → k < numChannels → top.dataMemWrite.valid.getLsbD k = true →
      top.dataMemWrite.address k ≠ top.dataMemWrite.address j) :
    ∃ mem' top', mem.process numChannels top = some (mem', top') ∧
      lookup mem'.memory (top.dataMemWrite.address j) = top.dataMemWrite.data j ∧
      (∀ c < numChannels, top.dataMemRead.valid.getLsbD c = true →
        top.dataMemRead.address c = top.dataMemWrite.address j →
        top'.dataMemRead.data c = top.dataMemWrite.data j) ∧
      ∀ a, (∀ k < numChannels, top.dataMemWrite.valid.getLsbD k = true →
          top.dataMemWrite.address k < maxSize → top.dataMemWrite.address k ≠ a) →
        lookup mem'.memory a = lookup mem.memory a := by
  obtain ⟨memory, hm, h⟩ := process_eq numChannels mem top hb
  have hland := WriteChannels.apply_of_last (M := lookup mem.memory) hj hv ha hlast
  refine ⟨_, _, h, by rw [hm, hland], fun c hc hrv hra => ?_, fun a ha' => ?_⟩
  · simp [ReadChannels.serveKeepingOutOfRange_data, ReadChannels.serve_data, hrv, hra, ha, hc,
      hland]
  · rw [hm, WriteChannels.apply_of_unwritten ha']

/-- Channels 0 and 1 both write address 5, with 1 and 2, and both read it: channel 1's write
lands and both reads return 2. -/
theorem DataMemory.process_last_write_wins_two_writers :
    let top : Ports :=
      { clk := false, executionStart := true, executionDone := false,
        instructionMemRead := ⟨0, fun _ => 0, 0, fun _ => 0⟩,
        dataMemRead := ⟨3, fun _ => 5, 0, fun _ => 0⟩,
        dataMemWrite := ⟨3, fun _ => 5, fun k => if k = 0 then 1 else 2, 0⟩ }
    (∀ i < 2, (makeDataMemory 2).dataMemReadData i = some i) ∧ 1 < 2 ∧
      top.dataMemWrite.valid.getLsbD 1 = true ∧ top.dataMemWrite.address 1 < maxSize ∧
      (∀ k, 1 < k → k < 2 → top.dataMemWrite.valid.getLsbD k = true →
        top.dataMemWrite.address k ≠ top.dataMemWrite.address 1) ∧
      ∃ mem' top', (makeDataMemory 2).process 2 top = some (mem', top') ∧
        lookup mem'.memory (top.dataMemWrite.address 1) = top.dataMemWrite.data 1 ∧
        (∀ c < 2, top.dataMemRead.valid.getLsbD c = true →
          top.dataMemRead.address c = top.dataMemWrite.address 1 →
          top'.dataMemRead.data c = top.dataMemWrite.data 1) ∧
        ∀ a, (∀ k < 2, top.dataMemWrite.valid.getLsbD k = true →
            top.dataMemWrite.address k < maxSize → top.dataMemWrite.address k ≠ a) →
          lookup mem'.memory a = lookup (makeDataMemory 2).memory a := by
  intro top
  have hb : ∀ i < 2, (makeDataMemory 2).dataMemReadData i = some i := by decide
  have hlast : ∀ k, 1 < k → k < 2 → top.dataMemWrite.valid.getLsbD k = true →
      top.dataMemWrite.address k ≠ top.dataMemWrite.address 1 := fun k h1 h2 => by omega
  have hv : top.dataMemWrite.valid.getLsbD 1 = true := by dsimp only [top]; decide
  have ha : top.dataMemWrite.address 1 < maxSize := by dsimp only [top]; decide
  exact ⟨hb, by decide, hv, ha, hlast,
    DataMemory.process_last_write_wins 2 _ top hb (by decide) hv ha hlast⟩

/-! ## When the data memory fails

The read loop writes through `data_mem_read_data[i]` on every valid in-range read, and a channel's
pointer is nulled only by that channel's own out-of-range read, after its turn. So a call fails
exactly when a valid in-range read is on a channel whose pointer is already null. -/

/-- One read iteration fails exactly on a valid in-range read through a null pointer. -/
theorem DataMemory.readChannel_eq_none_iff (mem : DataMemory) (r : ReadChannels) (i : Nat) :
    readChannel (mem, r) i = none ↔
      r.valid.getLsbD i = true ∧ r.address i < maxSize ∧ mem.dataMemReadData i = none := by
  unfold readChannel
  by_cases hv : r.valid.getLsbD i = true
  · have ht : r.valid &&& 1#8 <<< i ≠ 0#8 := (and_shiftLeft_ne_zero _ _).2 hv
    by_cases ha : r.address i < maxSize
    · cases hb : mem.dataMemReadData i <;> simp [ht, ha, hb, hv]
    · simp [ht, ha]
  · have ht : r.valid &&& 1#8 <<< i = 0#8 := not_not.1 (mt (and_shiftLeft_ne_zero _ _).1 hv)
    simp [ht, hv]

/-- A read iteration that succeeds changes no other channel's pointer, nor the valid bits or the
addresses. -/
theorem DataMemory.readChannel_some {mem : DataMemory} {r : ReadChannels} {i : Nat}
    {x : DataMemory × ReadChannels} (h : readChannel (mem, r) i = some x) :
    (∀ j, j ≠ i → x.1.dataMemReadData j = mem.dataMemReadData j) ∧ x.2.valid = r.valid ∧
      x.2.address = r.address := by
  unfold readChannel at h
  dsimp only at h
  split_ifs at h with ht ha
  · cases hb : mem.dataMemReadData i <;> simp [hb] at h
    cases h
    exact ⟨fun _ _ => rfl, rfl, rfl⟩
  · cases h
    exact ⟨fun j hj => Function.update_noteq hj _ _, rfl, rfl⟩
  · cases h
    exact ⟨fun _ _ => rfl, rfl, rfl⟩

/-- The read loop over the channels below `n` fails exactly when one of them makes a valid
in-range read through a pointer that is null when the loop starts; when it succeeds, the pointers
of the channels from `n` on, the valid bits and the addresses are as they were. -/
theorem DataMemory.foldlM_readChannel_none (n : Nat) (mem : DataMemory) (r : ReadChannels) :
    ((List.range n).foldlM readChannel (mem, r) = none ↔
      ∃ c < n, r.valid.getLsbD c = true ∧ r.address c < maxSize ∧ mem.dataMemReadData c = none) ∧
    ∀ x, (List.range n).foldlM readChannel (mem, r) = some x →
      (∀ j, n ≤ j → x.1.dataMemReadData j = mem.dataMemReadData j) ∧ x.2.valid = r.valid ∧
        x.2.address = r.address := by
  induction n with
  | zero =>
    refine ⟨by simp, fun x hx => ?_⟩
    cases hx
    exact ⟨fun _ _ => rfl, rfl, rfl⟩
  | succ n ih =>
    obtain ⟨ih1, ih2⟩ := ih
    rw [List.range_succ, List.foldlM_append]
    cases hfold : (List.range n).foldlM readChannel (mem, r) with
    | none =>
      obtain ⟨c, hc, hrest⟩ := ih1.1 hfold
      exact ⟨iff_of_true rfl ⟨c, by omega, hrest⟩, fun x hx => nomatch hx⟩
    | some x =>
      obtain ⟨hb, hv, ha⟩ := ih2 x hfold
      have hnone : ¬∃ c < n, r.valid.getLsbD c = true ∧ r.address c < maxSize ∧
          mem.dataMemReadData c = none := fun h => by simp [ih1.2 h] at hfold
      have hbind : ∀ o : Option (DataMemory × ReadChannels), (o.bind fun y => pure y) = o :=
        fun o => by cases o <;> rfl
      simp only [Option.bind_eq_bind, Option.some_bind, List.foldlM_cons, List.foldlM_nil, hbind]
      refine ⟨?_, fun y hy => ?_⟩
      · rw [readChannel_eq_none_iff, hv, ha, hb n le_rfl]
        constructor
        · exact fun h => ⟨n, Nat.lt_succ_self n, h⟩
        · rintro ⟨c, hc, hP⟩
          rcases Nat.lt_succ_iff_lt_or_eq.1 hc with hc | rfl
          · exact absurd ⟨c, hc, hP⟩ hnone
          · exact hP
      · obtain ⟨hb', hv', ha'⟩ := readChannel_some hy
        exact ⟨fun j hj => (hb' j (by omega)).trans (hb j (by omega)), hv'.trans hv, ha'.trans ha⟩

/-- An out-of-range read on channel 0 leaves the channel's data port at its old value 7, where the
reference answers 0, and nulls the channel's pointer, so the next call with an in-range read on
that channel writes through a null pointer. -/
theorem DataMemory.process_out_of_range_read_keeps_port :
    let top : Ports :=
      { clk := false, executionStart := true, executionDone := false,
        instructionMemRead := ⟨0, fun _ => 0, 0, fun _ => 0⟩,
        dataMemRead := ⟨1, fun _ => maxSize, 0, fun _ => 7⟩,
        dataMemWrite := ⟨0, fun _ => 0, fun _ => 0, 0⟩ }
    ((makeDataMemory 1).process 1 top).map
        (fun r => (r.2.dataMemRead.data 0, r.1.dataMemReadData 0)) = some (7, none) ∧
      (top.dataMemRead.serve 1 (lookup (makeDataMemory 1).memory)).data 0 = 0 ∧
      ((makeDataMemory 1).process 1 top).bind
          (fun r => r.1.process 1
            { r.2 with dataMemRead := { r.2.dataMemRead with address := fun _ => 0 } }) =
        none :=
  ⟨rfl, rfl, rfl⟩

end Sim
end RiscvGpu
