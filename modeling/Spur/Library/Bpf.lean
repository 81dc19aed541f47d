import Mathlib.Data.List.Basic
import Mathlib.Logic.Function.Basic

/-! The eBPF machine, for what a forward-branching filter over a read-only context needs. -/
namespace Spur.Library.Bpf
open List

/-- An instruction as the kernel reads it: the destination register in the low nibble of `regs`, the source in the
high one, and `off` and `imm` in two's complement. -/
structure Insn where
  code : BitVec 8
  regs : BitVec 8
  off : BitVec 16
  imm : BitVec 32
  deriving DecidableEq

namespace Insn

def dst (insn : Insn) : BitVec 4 := insn.regs.setWidth 4

def src (insn : Insn) : BitVec 4 := (insn.regs >>> 4).setWidth 4

end Insn

inductive Op where
  | ldxW | movImm | movReg | andImm | rshImm | jneImm | exit
  deriving DecidableEq

def decode (code : BitVec 8) : Option Op :=
  if code = 0x61 then some .ldxW
  else if code = 0xb4 then some .movImm
  else if code = 0xbc then some .movReg
  else if code = 0x54 then some .andImm
  else if code = 0x74 then some .rshImm
  else if code = 0x55 then some .jneImm
  else if code = 0x95 then some .exit
  else none

structure Context where
  base : BitVec 64
  words : List (BitVec 32)

def Context.load (ctx : Context) (addr : BitVec 64) : Option (BitVec 32) :=
  if (addr - ctx.base).toNat % 4 = 0 then ctx.words[(addr - ctx.base).toNat / 4]? else none

structure Machine where
  pc : Nat
  regs : BitVec 4 → BitVec 64

inductive Fault where
  | pastEnd | outsideContext | readOnlyRegister | unsupported
  deriving DecidableEq

inductive Outcome where
  | running (m : Machine)
  | exited (value : BitVec 32)
  | faulted (fault : Fault)

namespace Machine

variable (m : Machine)

def low (reg : BitVec 4) : BitVec 32 := (m.regs reg).setWidth 32

/-- A 32-bit result clears the upper half; the frame pointer and what lies beyond it are not written. -/
def write (reg : BitVec 4) (value : BitVec 32) : Outcome :=
  if reg ≤ 9 then .running ⟨m.pc + 1,Function.update m.regs reg (value.setWidth 64)⟩ else .faulted .readOnlyRegister

def jump (off : BitVec 16) : Outcome :=
  let target : Int := m.pc + 1 + off.toInt
  if target < 0 then .faulted .pastEnd else .running { m with pc := target.toNat }

def exec (ctx : Context) (insn : Insn) : Op → Outcome
  | .ldxW =>
    match ctx.load (m.regs insn.src + insn.off.signExtend 64) with
    | some word => m.write insn.dst word
    | none => .faulted .outsideContext
  | .movImm => m.write insn.dst insn.imm
  | .movReg => m.write insn.dst (m.low insn.src)
  | .andImm => m.write insn.dst (m.low insn.dst &&& insn.imm)
  | .rshImm => m.write insn.dst (m.low insn.dst >>> (insn.imm &&& 31))
  | .jneImm =>
    if m.regs insn.dst = insn.imm.signExtend 64 then .running { m with pc := m.pc + 1 } else m.jump insn.off
  | .exit => .exited (m.low 0)

def step (prog : List Insn) (ctx : Context) : Outcome :=
  match prog[m.pc]? with
  | none => .faulted .pastEnd
  | some insn =>
    match decode insn.code with
    | some op => m.exec ctx insn op
    | none => .faulted .unsupported

end Machine

def run (prog : List Insn) (ctx : Context) : Nat → Machine → Outcome
  | 0,m => .running m
  | fuel + 1,m =>
    match m.step prog ctx with
    | .running next => run prog ctx fuel next
    | .exited value => .exited value
    | .faulted fault => .faulted fault

def entry (ctx : Context) (regs : BitVec 4 → BitVec 64) : Machine := ⟨0,Function.update regs 1 ctx.base⟩

section

variable {prog : List Insn} {ctx : Context} {m next : Machine}

theorem run_running {fuel : Nat} (stepped : m.step prog ctx = .running next) :
    run prog ctx (fuel + 1) m = run prog ctx fuel next := by
  rw [run,stepped]

theorem run_exited {fuel : Nat} {value : BitVec 32} (stepped : m.step prog ctx = .exited value) :
    run prog ctx (fuel + 1) m = .exited value := by
  rw [run,stepped]

theorem step_eq {insn : Insn} {op : Op} (fetched : prog[m.pc]? = some insn) (decoded : decode insn.code = some op) :
    m.step prog ctx = m.exec ctx insn op := by
  unfold Machine.step
  rw [fetched]
  dsimp only
  rw [decoded]

section

variable {insn : Insn} {dst src : BitVec 4}

theorem low_update (pc : Nat) (regs : BitVec 4 → BitVec 64) (reg : BitVec 4) (value : BitVec 32) :
    Machine.low ⟨pc,Function.update regs reg (value.setWidth 64)⟩ reg = value := by
  unfold Machine.low
  dsimp only
  rw [Function.update_self]
  apply BitVec.eq_of_toNat_eq
  simp only [BitVec.toNat_setWidth]
  omega

theorem write_of_le {value : BitVec 32} (writable : dst ≤ 9) :
    m.write dst value = .running ⟨m.pc + 1,Function.update m.regs dst (value.setWidth 64)⟩ := by
  unfold Machine.write
  rw [if_pos writable]

theorem step_ldxW {word : BitVec 32} (fetched : prog[m.pc]? = some insn) (code : decode insn.code = some .ldxW)
    (to_ : insn.dst = dst) (writable : dst ≤ 9)
    (loads : ctx.load (m.regs insn.src + insn.off.signExtend 64) = some word) :
    m.step prog ctx = .running ⟨m.pc + 1,Function.update m.regs dst (word.setWidth 64)⟩ := by
  rw [step_eq fetched code]
  unfold Machine.exec
  rw [loads]
  subst to_
  exact write_of_le writable

theorem step_movImm (fetched : prog[m.pc]? = some insn) (code : decode insn.code = some .movImm)
    (to_ : insn.dst = dst) (writable : dst ≤ 9) :
    m.step prog ctx = .running ⟨m.pc + 1,Function.update m.regs dst (insn.imm.setWidth 64)⟩ := by
  rw [step_eq fetched code]
  subst to_
  exact write_of_le writable

theorem step_movReg (fetched : prog[m.pc]? = some insn) (code : decode insn.code = some .movReg)
    (to_ : insn.dst = dst) (from_ : insn.src = src) (writable : dst ≤ 9) :
    m.step prog ctx = .running ⟨m.pc + 1,Function.update m.regs dst ((m.low src).setWidth 64)⟩ := by
  rw [step_eq fetched code]
  subst to_ from_
  exact write_of_le writable

theorem step_andImm (fetched : prog[m.pc]? = some insn) (code : decode insn.code = some .andImm)
    (to_ : insn.dst = dst) (writable : dst ≤ 9) :
    m.step prog ctx = .running ⟨m.pc + 1,Function.update m.regs dst ((m.low dst &&& insn.imm).setWidth 64)⟩ := by
  rw [step_eq fetched code]
  subst to_
  exact write_of_le writable

theorem step_rshImm (fetched : prog[m.pc]? = some insn) (code : decode insn.code = some .rshImm)
    (to_ : insn.dst = dst) (writable : dst ≤ 9) :
    m.step prog ctx =
      .running ⟨m.pc + 1,Function.update m.regs dst ((m.low dst >>> (insn.imm &&& 31)).setWidth 64)⟩ := by
  rw [step_eq fetched code]
  subst to_
  exact write_of_le writable

theorem step_exit (fetched : prog[m.pc]? = some insn) (code : decode insn.code = some .exit) :
    m.step prog ctx = .exited (m.low 0) := step_eq fetched code

end

def At (prog : List Insn) (pc : Nat) (code : List Insn) : Prop := ∀ i, i < code.length → prog[pc + i]? = code[i]?

theorem At.head {insn : Insn} {code : List Insn} {pc : Nat} (at_ : At prog pc (insn :: code)) :
    prog[pc]? = some insn := at_ 0 (Nat.succ_pos _)

theorem At.tail {insn : Insn} {code : List Insn} {pc : Nat} (at_ : At prog pc (insn :: code)) :
    At prog (pc + 1) code := by
  intro i small
  have found := at_ _ (Nat.succ_lt_succ small)
  rw [List.getElem?_cons_succ] at found
  rw [← found,Nat.add_assoc,Nat.add_comm 1 i]

theorem At.append {front back : List Insn} {pc : Nat} (at_ : At prog pc (front ++ back)) :
    At prog pc front ∧ At prog (pc + front.length) back := by
  constructor
  · intro i small
    rw [at_ i (by rw [length_append]; omega),List.getElem?_append_left small]
  intro i small
  have found := at_ (front.length + i) (by rw [length_append]; omega)
  rw [List.getElem?_append_right (by omega),Nat.add_sub_cancel_left] at found
  rw [← found,Nat.add_assoc]

theorem At.all (prog : List Insn) : At prog 0 prog := by
  intro i _
  rw [Nat.zero_add]

end

section

variable {prog : List Insn} {ctx : Context} {m : Machine}

/-- A chain of conditional jumps that all leave to the same place, each given by its register and its immediate. -/
def Guards (prog : List Insn) (stop : Nat) : Nat → List (BitVec 4 × BitVec 32) → Prop
  | _,[] => True
  | pc,guard :: guards =>
    (∃ insn, prog[pc]? = some insn ∧ decode insn.code = some .jneImm ∧ insn.dst = guard.1 ∧ insn.imm = guard.2 ∧
      (pc : Int) + 1 + insn.off.toInt = stop) ∧ Guards prog stop (pc + 1) guards

def Machine.Meets (m : Machine) (guards : List (BitVec 4 × BitVec 32)) : Prop :=
  ∀ guard ∈ guards, m.regs guard.1 = guard.2.signExtend 64

theorem run_guards {stop pc : Nat} {guards : List (BitVec 4 × BitVec 32)} (chain : Guards prog stop pc guards)
    (here : m.pc = pc) :
    ∃ steps, steps ≤ guards.length ∧ ∃ last,
      (m.Meets guards ∧ last = pc + guards.length ∨ ¬m.Meets guards ∧ last = stop) ∧
      ∀ fuel, run prog ctx (steps + fuel) m = run prog ctx fuel { m with pc := last } := by
  induction guards generalizing m pc with
  | nil =>
    refine ⟨0,Nat.le_refl 0,pc,.inl ⟨fun guard listed => (nomatch listed),rfl⟩,fun fuel => ?_⟩
    subst here
    rw [Nat.zero_add]
  | cons guard guards ih =>
    obtain ⟨⟨insn,fetched,decoded,reg,imm,target⟩,rest⟩ := chain
    subst here
    have stepped := @step_eq prog ctx m insn _ fetched decoded
    by_cases met : m.regs guard.1 = guard.2.signExtend 64
    · have passes : m.step prog ctx = .running { m with pc := m.pc + 1 } := by
        rw [stepped]
        unfold Machine.exec
        rw [reg,imm,if_pos met]
      obtain ⟨steps,few,last,which,reached⟩ := @ih { m with pc := m.pc + 1 } _ rest rfl
      refine ⟨steps + 1,Nat.succ_le_succ few,last,which.imp ?_ ?_,fun fuel => ?_⟩
      · rintro ⟨meets,rfl⟩
        refine ⟨fun other listed => ?_,by rw [length_cons]; omega⟩
        rcases mem_cons.mp listed with rfl | later
        · exact met
        · exact meets other later
      · rintro ⟨fails,rfl⟩
        exact ⟨fun meets => fails fun other listed => meets other (mem_cons_of_mem _ listed),rfl⟩
      · rw [Nat.add_right_comm,run_running passes,reached]
    · have leaves : m.step prog ctx = .running { m with pc := stop } := by
        rw [stepped]
        unfold Machine.exec Machine.jump
        rw [reg,imm,if_neg met]
        rw [target,if_neg (by omega),Int.toNat_natCast]
      refine ⟨1,Nat.succ_le_succ (Nat.zero_le _),stop,.inr ⟨fun meets => met (meets guard mem_cons_self),rfl⟩,?_⟩
      intro fuel
      rw [Nat.add_comm,run_running leaves]

end

end Spur.Library.Bpf
