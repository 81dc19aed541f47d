import Spur.Library.Bpf
import Mathlib

/-! The device filter of a job's cgroup, from `spurd::device_cgroup`: its rules and the eBPF program of them. -/
namespace Spur.DeviceFilter
open Spur.Library.Bpf List

def accMknod : BitVec 8 := 1

def accRead : BitVec 8 := 2

def accWrite : BitVec 8 := 4

def accAll : BitVec 8 := accMknod ||| accRead ||| accWrite

inductive DevType where
  | char | block
  deriving DecidableEq

/-- No major or minor matches any value. -/
structure DeviceRule where
  devType : DevType
  major : Option (BitVec 32)
  minor : Option (BitVec 32)
  access : BitVec 8
  deriving DecidableEq

def DeviceRule.charDev (major : BitVec 32) (minor : Option (BitVec 32)) : DeviceRule := ⟨.char,some major,minor,accAll⟩

def baseDeviceRules : List DeviceRule :=
  [.charDev 1 (some 3),.charDev 1 (some 5),.charDev 1 (some 7),.charDev 1 (some 8),.charDev 1 (some 9),
    .charDev 5 (some 0),.charDev 5 (some 1),.charDev 5 (some 2),.charDev 136 none]

def rulesForDevicePaths (paths : List String) (statDev : String → Option (DevType × BitVec 32 × BitVec 32)) :
    List DeviceRule :=
  baseDeviceRules ++ paths.filterMap fun path =>
    (statDev path).map fun node => ⟨node.1,some node.2.1,some node.2.2,accAll⟩

section

def bpfLdx : BitVec 8 := 0x01

def bpfAlu : BitVec 8 := 0x04

def bpfJmp : BitVec 8 := 0x05

def bpfW : BitVec 8 := 0x00

def bpfMem : BitVec 8 := 0x60

def bpfK : BitVec 8 := 0x00

def bpfX : BitVec 8 := 0x08

def bpfAnd : BitVec 8 := 0x50

def bpfRsh : BitVec 8 := 0x70

def bpfMov : BitVec 8 := 0xb0

def bpfJne : BitVec 8 := 0x50

def bpfExit : BitVec 8 := 0x90

def mismatchJump : BitVec 8 := bpfJmp ||| bpfJne ||| bpfK

def r0 : BitVec 8 := 0

def r1 : BitVec 8 := 1

def r2 : BitVec 8 := 2

def r3 : BitVec 8 := 3

def r4 : BitVec 8 := 4

def r5 : BitVec 8 := 5

def r6 : BitVec 8 := 6

def ctxAccessType : BitVec 16 := 0

def ctxMajor : BitVec 16 := 4

def ctxMinor : BitVec 16 := 8

def devTypeMask : BitVec 32 := 0xffff

def accessShift : BitVec 32 := 16

def devcgDevBlock : BitVec 32 := 1

def devcgDevChar : BitVec 32 := 2

def allow : BitVec 32 := 1

def deny : BitVec 32 := 0

def regs (dst src : BitVec 8) : BitVec 8 := (src <<< 4) ||| (dst &&& 0x0f)

def ldxW (dst src : BitVec 8) (off : BitVec 16) : Insn := ⟨bpfLdx ||| bpfMem ||| bpfW,regs dst src,off,0⟩

def movImm (dst : BitVec 8) (imm : BitVec 32) : Insn := ⟨bpfAlu ||| bpfMov ||| bpfK,regs dst 0,0,imm⟩

def movReg (dst src : BitVec 8) : Insn := ⟨bpfAlu ||| bpfMov ||| bpfX,regs dst src,0,0⟩

def andImm (dst : BitVec 8) (imm : BitVec 32) : Insn := ⟨bpfAlu ||| bpfAnd ||| bpfK,regs dst 0,0,imm⟩

def rshImm (dst : BitVec 8) (imm : BitVec 32) : Insn := ⟨bpfAlu ||| bpfRsh ||| bpfK,regs dst 0,0,imm⟩

def jneImm (dst : BitVec 8) (imm : BitVec 32) : Insn := ⟨mismatchJump,regs dst 0,0,imm⟩

def exit : Insn := ⟨bpfJmp ||| bpfExit,0,0,0⟩

end

def DevType.code : DevType → BitVec 32
  | char => devcgDevChar
  | block => devcgDevBlock

def unpatched (rule : DeviceRule) : List Insn :=
  [jneImm r2 rule.devType.code] ++ (rule.major.map (jneImm r3)).toList ++ (rule.minor.map (jneImm r4)).toList ++
    [movReg r6 r5,andImm r6 ((~~~(rule.access.setWidth 16)).setWidth 32),jneImm r6 0,movImm r0 allow,exit]

/-- Every mismatch jumps to the first instruction after the block. -/
def patch (block : List Insn) : List Insn :=
  block.mapIdx fun i insn =>
    if insn.code = mismatchJump then { insn with off := BitVec.ofNat 16 (block.length - 1 - i) } else insn

def ruleBlock (rule : DeviceRule) : List Insn := patch (unpatched rule)

def prologue : List Insn :=
  [ldxW r2 r1 ctxAccessType,andImm r2 devTypeMask,ldxW r5 r1 ctxAccessType,rshImm r5 accessShift,ldxW r3 r1 ctxMajor,
    ldxW r4 r1 ctxMinor]

def buildDeviceFilter (rules : List DeviceRule) : List Insn :=
  prologue ++ rules.flatMap ruleBlock ++ [movImm r0 deny,exit]

structure Request where
  devType : DevType
  access : BitVec 16
  major : BitVec 32
  minor : BitVec 32
  deriving DecidableEq

/-- The words of the kernel's `bpf_cgroup_dev_ctx`. -/
def Request.words (request : Request) : List (BitVec 32) :=
  [(request.access.setWidth 32 <<< 16) ||| request.devType.code,request.major,request.minor]

/-- The rule covers the request: its type, its numbers where the rule names them, and every access bit. -/
def DeviceRule.Permits (rule : DeviceRule) (request : Request) : Prop :=
  rule.devType = request.devType ∧ (∀ major, rule.major = some major → major = request.major) ∧
    (∀ minor, rule.minor = some minor → minor = request.minor) ∧
    ∀ bit < 16, request.access.getLsbD bit = true → rule.access.getLsbD bit = true

theorem permits_rulesForDevicePaths (paths : List String)
    (statDev : String → Option (DevType × BitVec 32 × BitVec 32)) (request : Request) :
    (∃ rule ∈ rulesForDevicePaths paths statDev, rule.Permits request) ↔
      (∃ rule ∈ baseDeviceRules, rule.Permits request) ∨
        (∃ path ∈ paths, statDev path = some (request.devType,request.major,request.minor)) ∧
          ∀ bit < 16, request.access.getLsbD bit = true → accAll.getLsbD bit = true := by
  constructor
  · rintro ⟨rule,listed,permits⟩
    rcases mem_append.mp listed with base | allocated
    · exact .inl ⟨rule,base,permits⟩
    obtain ⟨path,member,found⟩ := mem_filterMap.mp allocated
    obtain ⟨⟨devType,major,minor⟩,node,rfl⟩ := Option.map_eq_some_iff.mp found
    obtain ⟨same,sameMajor,sameMinor,covered⟩ := permits
    refine .inr ⟨⟨path,member,?_⟩,covered⟩
    rw [node]
    exact congrArg some (Prod.ext same (Prod.ext (sameMajor major rfl) (sameMinor minor rfl)))
  · rintro (⟨rule,base,permits⟩ | ⟨⟨path,member,node⟩,covered⟩)
    · exact ⟨rule,mem_append_left _ base,permits⟩
    · refine ⟨⟨request.devType,some request.major,some request.minor,accAll⟩,mem_append_right _ ?_,rfl,?_,?_,covered⟩
      · exact mem_filterMap.mpr ⟨path,member,by rw [node]; rfl⟩
      · exact fun major same => (Option.some.inj same).symm
      · exact fun minor same => (Option.some.inj same).symm

end Spur.DeviceFilter
