import Mathlib.Data.BitVec

/-!
# Fetcher — `src/src/fetcher.sv`

The fetcher is one clocked process: on reset it goes `IDLE` with no request; otherwise `IDLE`
raises a read request for `pc` when the warp is in `FETCH`, `FETCHING` waits for the memory's
ready and latches the instruction, and `DONE` returns to `IDLE` when the warp is in `DECODE`.
`common.sv`, which declares the state and signal types, is not under src/: the warp state is any
type with its two values `FETCH` and `DECODE`, and the address and instruction widths are
parameters.

`Fetcher.step` is the process for one rising edge and `Fetcher.run` a run under an input stream.
The protocol is `Fetcher.Protocol`; `fetcher_protocol` proves it of every state of every run that
starts with a reset cycle, from what one step does (`step_fetcherState_fetching`, `step_address`,
`step_instruction`) and the invariant `Fetcher.Valid`, which reset establishes and every step
keeps. Against a memory that answers requests with its contents, `fetcher_fetches_memory_word`
proves that a fetch ends with the memory word at the `pc` sampled when it began, the last cycle
the fetcher was `IDLE`.
-/

namespace RiscvGpu
namespace Rtl

/-- Modelled from the spec: `fetcher_state_t`; `other` is any value the `case`'s `default`
branch handles (an encoding beyond the three states, or the unknown value before a reset). -/
inductive FetcherState
  | idle
  | fetching
  | done
  | other
  deriving DecidableEq, Repr

/-- The registers of the fetcher. -/
structure Fetcher (aw iw : Nat) where
  fetcherState : FetcherState
  instructionMemReadValid : Bool
  instructionMemReadAddress : BitVec aw
  instruction : BitVec iw
  deriving DecidableEq, Repr

/-- The inputs of the fetcher in one cycle. -/
structure FetcherInput (W : Type) (aw iw : Nat) where
  reset : Bool
  warpState : W
  pc : BitVec aw
  instructionMemReadReady : Bool
  instructionMemReadData : BitVec iw

section Fetcher

variable {W : Type} [DecidableEq W] (fetch decode : W) {aw iw : Nat}

/-- The `always @(posedge clk)` block of `fetcher`. The `default` branch only reports an error
(`$error`), so the registers hold. -/
def Fetcher.step (s : Fetcher aw iw) (inp : FetcherInput W aw iw) : Fetcher aw iw :=
  if inp.reset then ⟨.idle, false, 0, 0⟩
  else
    match s.fetcherState with
    | .idle =>
      if inp.warpState = fetch then
        { s with
          fetcherState := .fetching
          instructionMemReadValid := true
          instructionMemReadAddress := inp.pc }
      else s
    | .fetching =>
      if inp.instructionMemReadReady then
        { s with
          fetcherState := .done
          instructionMemReadValid := false
          instruction := inp.instructionMemReadData }
      else s
    | .done => if inp.warpState = decode then { s with fetcherState := .idle } else s
    | .other => s

/-- The state after `t` rising edges from `s0` under the input stream `inputs`. -/
def Fetcher.run (s0 : Fetcher aw iw) (inputs : Nat → FetcherInput W aw iw) : Nat → Fetcher aw iw
  | 0 => s0
  | t + 1 => (Fetcher.run s0 inputs t).step fetch decode (inputs t)

/-- The invariant: a declared state, and the read request raised exactly while fetching. -/
structure Fetcher.Valid (s : Fetcher aw iw) : Prop where
  declared : s.fetcherState ≠ .other
  valid_iff : s.instructionMemReadValid = true ↔ s.fetcherState = .fetching

variable {fetch decode} {s : Fetcher aw iw} {inp : FetcherInput W aw iw}

/-! ## One step -/

@[simp] theorem Fetcher.step_of_reset (hr : inp.reset = true) :
    s.step fetch decode inp = ⟨.idle, false, 0, 0⟩ := by
  simp [Fetcher.step, hr]

theorem Fetcher.step_of_not_reset (hr : inp.reset = false) :
    s.step fetch decode inp =
      match s.fetcherState with
      | .idle =>
        if inp.warpState = fetch then
          { s with
            fetcherState := .fetching
            instructionMemReadValid := true
            instructionMemReadAddress := inp.pc }
        else s
      | .fetching =>
        if inp.instructionMemReadReady then
          { s with
            fetcherState := .done
            instructionMemReadValid := false
            instruction := inp.instructionMemReadData }
        else s
      | .done => if inp.warpState = decode then { s with fetcherState := .idle } else s
      | .other => s := by
  simp [Fetcher.step, hr]

/-- A step enters `FETCHING` from `IDLE` on `FETCH`, or stays in it while the memory is not
ready. -/
theorem step_fetcherState_fetching :
    (s.step fetch decode inp).fetcherState = .fetching ↔ inp.reset = false ∧
      ((s.fetcherState = .idle ∧ inp.warpState = fetch) ∨
        (s.fetcherState = .fetching ∧ inp.instructionMemReadReady = false)) := by
  cases hr : inp.reset
  · rw [Fetcher.step_of_not_reset hr]
    cases hs : s.fetcherState <;> dsimp only <;> (try split_ifs) <;> simp_all
  · simp [hr]

/-- A step into `FETCHING` holds the address, unless it comes from `IDLE`, where it samples
`pc`. -/
theorem step_address (h : (s.step fetch decode inp).fetcherState = .fetching) :
    (s.step fetch decode inp).instructionMemReadAddress =
      if s.fetcherState = .idle then inp.pc else s.instructionMemReadAddress := by
  obtain ⟨hr, ⟨hs, hw⟩ | ⟨hs, hy⟩⟩ := step_fetcherState_fetching.1 h
  · simp [Fetcher.step_of_not_reset hr, hs, hw]
  · simp [Fetcher.step_of_not_reset hr, hs, hy]

/-- Out of reset, the instruction changes only on the step from `FETCHING` to `DONE`, to the data
the memory presents. -/
theorem step_instruction (hr : inp.reset = false) :
    (s.step fetch decode inp).instruction =
      if s.fetcherState = .fetching ∧ (s.step fetch decode inp).fetcherState = .done then
        inp.instructionMemReadData
      else s.instruction := by
  rw [Fetcher.step_of_not_reset hr]
  cases hs : s.fetcherState <;> dsimp only <;> (try split_ifs) <;> simp_all

/-- Reset establishes the invariant. -/
theorem Fetcher.step_valid_of_reset (hr : inp.reset = true) :
    (s.step fetch decode inp).Valid := by
  simp [hr, Fetcher.Valid.mk]

/-- Every step keeps the invariant. -/
theorem Fetcher.Valid.step (h : s.Valid) : (s.step fetch decode inp).Valid := by
  cases hr : inp.reset
  · obtain ⟨hd, hv⟩ := h
    rw [Fetcher.step_of_not_reset hr]
    cases hs : s.fetcherState <;> dsimp only <;> (try split_ifs) <;> simp_all [Fetcher.Valid.mk]
  · exact Fetcher.step_valid_of_reset hr

variable (fetch decode)

/-- Every state of a run that starts with a reset cycle satisfies the invariant. -/
theorem Fetcher.run_valid (s0 : Fetcher aw iw) (inputs : Nat → FetcherInput W aw iw)
    (h0 : (inputs 0).reset = true) (t : Nat) :
    (Fetcher.run fetch decode s0 inputs (t + 1)).Valid := by
  induction t with
  | zero => exact Fetcher.step_valid_of_reset h0
  | succ t ih => exact ih.step

/-- In a run that starts with a reset cycle, a state in `FETCHING` at `t + 1` was entered from
`IDLE` on `FETCH` at some cycle `t0 ≤ t`, has been `FETCHING` since, and still requests the `pc`
sampled then. -/
theorem Fetcher.run_address (s0 : Fetcher aw iw) (inputs : Nat → FetcherInput W aw iw)
    (h0 : (inputs 0).reset = true) (t : Nat)
    (hf : (Fetcher.run fetch decode s0 inputs (t + 1)).fetcherState = .fetching) :
    ∃ t0 ≤ t, (Fetcher.run fetch decode s0 inputs t0).fetcherState = .idle ∧
      (inputs t0).reset = false ∧ (inputs t0).warpState = fetch ∧
      (∀ t', t0 < t' → t' ≤ t + 1 →
        (Fetcher.run fetch decode s0 inputs t').fetcherState = .fetching) ∧
      (Fetcher.run fetch decode s0 inputs (t + 1)).instructionMemReadAddress = (inputs t0).pc := by
  induction t with
  | zero =>
    have := step_fetcherState_fetching.1 hf
    simp_all
  | succ t ih =>
    have ha := step_address hf
    obtain ⟨hr, ⟨hs, hw⟩ | ⟨hs, -⟩⟩ := step_fetcherState_fetching.1 hf
    · refine ⟨t + 1, le_rfl, hs, hr, hw, fun t' h1 h2 => ?_, by simpa [hs] using ha⟩
      obtain rfl : t' = t + 2 := by omega
      exact hf
    · obtain ⟨t0, ht0, h1, h2, h3, h4, h5⟩ := ih hs
      refine ⟨t0, by omega, h1, h2, h3, fun t' ha' hb' => ?_, ?_⟩
      · rcases Nat.lt_or_eq_of_le hb' with hb' | rfl
        · exact h4 t' ha' (by omega)
        · exact hf
      · exact ha.trans (by rw [if_neg (by simp [hs]), h5])

/-! ## The protocol -/

/-- The fetcher's request protocol at state `t + 1` of the run from `s0` under `inputs`: the
state is `IDLE`, `FETCHING` or `DONE`, so the `default` branch is not taken; the request is
raised exactly while fetching; while fetching, the address is the `pc` sampled on the step from
`IDLE` that began it; and a cycle out of reset changes the instruction only on the step from
`FETCHING` to `DONE`, to the data the memory presents. -/
def Fetcher.Protocol (s0 : Fetcher aw iw) (inputs : Nat → FetcherInput W aw iw) (t : Nat) : Prop :=
  let run := Fetcher.run fetch decode s0 inputs
  (run (t + 1)).fetcherState ≠ .other ∧
    ((run (t + 1)).instructionMemReadValid = true ↔ (run (t + 1)).fetcherState = .fetching) ∧
    ((run (t + 1)).fetcherState = .fetching →
      ∃ t0 ≤ t, (run t0).fetcherState = .idle ∧ (inputs t0).reset = false ∧
        (inputs t0).warpState = fetch ∧
        (∀ t', t0 < t' → t' ≤ t + 1 → (run t').fetcherState = .fetching) ∧
        (run (t + 1)).instructionMemReadAddress = (inputs t0).pc) ∧
    ((inputs (t + 1)).reset = false →
      (run (t + 2)).instruction =
        if (run (t + 1)).fetcherState = .fetching ∧ (run (t + 2)).fetcherState = .done then
          (inputs (t + 1)).instructionMemReadData
        else (run (t + 1)).instruction)

/-- Every state of every run of the fetcher that starts with a reset cycle keeps the protocol,
whatever the inputs after it. -/
theorem fetcher_protocol (s0 : Fetcher aw iw) (inputs : Nat → FetcherInput W aw iw)
    (h0 : (inputs 0).reset = true) (t : Nat) : Fetcher.Protocol fetch decode s0 inputs t :=
  ⟨(Fetcher.run_valid fetch decode s0 inputs h0 t).declared,
    (Fetcher.run_valid fetch decode s0 inputs h0 t).valid_iff,
    Fetcher.run_address fetch decode s0 inputs h0 t,
    step_instruction⟩

/-- The protocol one cycle after reset, when the fetcher is `FETCHING` the `pc` 2 it sampled. -/
theorem fetcher_protocol_after_reset :
    ((fun t => ⟨t == 0, true, 2, true, 1⟩ : Nat → FetcherInput Bool 2 2) 0).reset = true ∧
      (Fetcher.run true false (⟨.other, true, 3, 2⟩ : Fetcher 2 2)
        (fun t => ⟨t == 0, true, 2, true, 1⟩) 2).fetcherState = .fetching ∧
      Fetcher.Protocol true false (⟨.other, true, 3, 2⟩ : Fetcher 2 2)
        (fun t => ⟨t == 0, true, 2, true, 1⟩) 1 :=
  ⟨rfl, rfl, fetcher_protocol true false _ _ rfl 1⟩

/-! ## Fetching from a memory

The fetcher against a memory that answers every request it acknowledges with its word `M` at the
requested address. `step_fetcherState_done` says how a step reaches `DONE`, and
`fetcher_fetches_memory_word` derives, by induction on the cycle, that whenever the fetcher is
`DONE` its instruction is the memory word at the `pc` sampled when the fetch began, carrying
`Fetcher.run_address`'s "`FETCHING` since" clause through the cycles spent in `DONE`. -/

variable {fetch decode}

/-- A step reaches `DONE` from `FETCHING` when the memory is ready, or stays in it until the warp
is in `DECODE`. -/
theorem step_fetcherState_done :
    (s.step fetch decode inp).fetcherState = .done ↔ inp.reset = false ∧
      ((s.fetcherState = .fetching ∧ inp.instructionMemReadReady = true) ∨
        (s.fetcherState = .done ∧ inp.warpState ≠ decode)) := by
  cases hr : inp.reset
  · rw [Fetcher.step_of_not_reset hr]
    cases hs : s.fetcherState <;> dsimp only <;> (try split_ifs) <;> simp_all
  · simp [hr]

/-- A step that stays in `DONE` keeps the instruction. -/
theorem step_instruction_of_done (hs : s.fetcherState = .done) (hr : inp.reset = false) :
    (s.step fetch decode inp).instruction = s.instruction := by
  rw [step_instruction hr, if_neg (by simp [hs])]

variable (fetch decode)

/-- Against a memory that answers every acknowledged request with its word `M` at the requested
address, the fetcher is `DONE` only with the instruction `M pc`, for the `pc` it sampled on
`FETCH` at the cycle `t0` out of reset when it was `IDLE` and began this fetch: it has been
`FETCHING` or `DONE` at every cycle since. -/
theorem fetcher_fetches_memory_word (s0 : Fetcher aw iw) (inputs : Nat → FetcherInput W aw iw)
    (M : BitVec aw → BitVec iw) (h0 : (inputs 0).reset = true)
    (hmem : ∀ t, (Fetcher.run fetch decode s0 inputs t).instructionMemReadValid = true →
      (inputs t).instructionMemReadReady = true →
      (inputs t).instructionMemReadData =
        M (Fetcher.run fetch decode s0 inputs t).instructionMemReadAddress)
    (t : Nat) (hd : (Fetcher.run fetch decode s0 inputs (t + 1)).fetcherState = .done) :
    ∃ t0 ≤ t, (Fetcher.run fetch decode s0 inputs t0).fetcherState = .idle ∧
      (inputs t0).reset = false ∧ (inputs t0).warpState = fetch ∧
      (∀ t', t0 < t' → t' ≤ t + 1 →
        (Fetcher.run fetch decode s0 inputs t').fetcherState = .fetching ∨
          (Fetcher.run fetch decode s0 inputs t').fetcherState = .done) ∧
      (Fetcher.run fetch decode s0 inputs (t + 1)).instruction = M (inputs t0).pc := by
  induction t with
  | zero => simp [(step_fetcherState_done.1 hd).1] at h0
  | succ t ih =>
    obtain ⟨hr, ⟨hs, hy⟩ | ⟨hs, -⟩⟩ := step_fetcherState_done.1 hd
    · obtain ⟨t0, ht0, h1, h2, h3, h4, h5⟩ :=
        Fetcher.run_address fetch decode s0 inputs h0 t hs
      have hv := (Fetcher.run_valid fetch decode s0 inputs h0 t).valid_iff.2 hs
      refine ⟨t0, by omega, h1, h2, h3, fun t' ha hb => ?_, ?_⟩
      · rcases Nat.le_succ_iff.1 hb with hb | rfl
        · exact .inl (h4 t' ha hb)
        · exact .inr hd
      · calc (Fetcher.run fetch decode s0 inputs (t + 2)).instruction
            = (inputs (t + 1)).instructionMemReadData := by
              rw [show t + 2 = t + 1 + 1 from rfl, Fetcher.run, step_instruction hr,
                if_pos ⟨hs, hd⟩]
          _ = M (inputs t0).pc := by rw [hmem (t + 1) hv hy, h5]
    · obtain ⟨t0, ht0, h1, h2, h3, h4, h5⟩ := ih hs
      refine ⟨t0, by omega, h1, h2, h3, fun t' ha hb => ?_,
        (step_instruction_of_done hs hr).trans h5⟩
      rcases Nat.le_succ_iff.1 hb with hb | rfl
      · exact h4 t' ha hb
      · exact .inr hd

/-- Two fetches, of `pc` 1 and then of `pc` 2, from the memory `M a = a + 1`: the second ends
`DONE` with `M 2`, from the fetch begun at cycle 4, not the one of cycle 1. -/
theorem fetcher_fetches_memory_word_second_fetch :
    let inputs : Nat → FetcherInput Bool 2 2 := fun t =>
      ⟨t == 0, t == 1 || t == 4, if t ≤ 1 then 1 else 2, t == 2 || t == 5,
        if t = 2 then 2 else 3⟩
    let run := Fetcher.run true false (⟨.other, true, 0, 0⟩ : Fetcher 2 2) inputs
    (inputs 0).reset = true ∧
      (∀ t, (run t).instructionMemReadValid = true → (inputs t).instructionMemReadReady = true →
        (inputs t).instructionMemReadData = (fun a => a + 1) (run t).instructionMemReadAddress) ∧
      (run 6).fetcherState = .done ∧
      ∃ t0 ≤ 5, (run t0).fetcherState = .idle ∧ (inputs t0).reset = false ∧
        (inputs t0).warpState = true ∧
        (∀ t', t0 < t' → t' ≤ 5 + 1 → (run t').fetcherState = .fetching ∨
          (run t').fetcherState = .done) ∧
        (run 6).instruction = (fun a => a + 1) (inputs t0).pc := by
  intro inputs run
  have hmem : ∀ t, (run t).instructionMemReadValid = true →
      (inputs t).instructionMemReadReady = true →
      (inputs t).instructionMemReadData = (fun a => a + 1) (run t).instructionMemReadAddress := by
    intro t _ hy
    have : t = 2 ∨ t = 5 := by simpa [inputs] using hy
    rcases this with rfl | rfl <;> rfl
  have h6 : (run 6).fetcherState = .done := rfl
  exact ⟨rfl, hmem, h6,
    fetcher_fetches_memory_word true false _ inputs (fun a => a + 1) rfl hmem 5 h6⟩

end Fetcher

end Rtl
end RiscvGpu
