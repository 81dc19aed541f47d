import Spur.Resource
import Spur.Library.Text

/-! The split of a node's CPUs into spec and general cores, from `spur_core::core_layout` and `cpu_topology`. -/
namespace Spur
open Spur.Library

def maxCpuId : Nat := 2 ^ 16

inductive CpuListError where
  | badItem (item : String)
  | reversed (low high : Nat)
  | tooLarge (cpu : Nat)
  deriving DecidableEq

inductive LayoutError where
  | missingTopology
  | badSpecList (error : CpuListError)
  | specCpuNotOnline (cpu : Nat)
  | specTakesAllCores (cores : Nat)
  | reservedMemoryTakesAll (reservedMb memoryMb : Nat)
  deriving DecidableEq

structure NodeConfig where
  names : String := ""
  selector : Table String String := ∅
  cpus : Nat := 0
  memoryMb : Nat := 0
  reservedMemoryMb : Nat := 0
  features : List String := []
  address : Option String := none
  weight : Nat := 1
  coreSpecCount : Option Nat := none
  cpuSpecList : Option String := none
  daemonsOffSpec : Bool := true

structure NodeCoreSettings where
  coreSpecCount : Option Nat
  cpuSpecList : Option String
  reservedMemoryMb : Nat
  daemonsOffSpec : Bool

structure GpuReservedCpus where
  stableId : Nat
  cpus : List Nat
  deriving DecidableEq

structure CoreLayout where
  specCpus : List Nat
  memSpecMb : Nat
  gpuReserved : List GpuReservedCpus
  generalCpus : List Nat
  daemonsOffSpec : Bool
  deriving DecidableEq

inductive SpecRequest where
  | count (cores : Nat)
  | list (cpus : String)

def sortCpus (cpus : List Nat) : List Nat := cpus.insertionSort (· ≤ ·)

private def parseCpuId (item part : List Char) : Except CpuListError Nat :=
  match Text.parseUnsigned (2 ^ 32) (Text.trim part) with
  | none => .error (.badItem (String.ofList item))
  | some cpu => if cpu ≥ maxCpuId then .error (.tooLarge cpu) else .ok cpu

private def parseCpuItem (item : List Char) : Except CpuListError (List Nat) :=
  match Text.cutAt '-' item with
  | some (low,high) => do
    let low ← parseCpuId item low
    let high ← parseCpuId item high
    if low > high then .error (.reversed low high) else .ok (List.range' low (high - low + 1))
  | none => do
    let cpu ← parseCpuId item item
    .ok [cpu]

def parseCpuList (text : String) : Except CpuListError (List Nat) :=
  let trimmed := Text.trim text.toList
  if trimmed.isEmpty then .ok []
  else do
    let items ← (trimmed.splitOn ',').mapM fun item => parseCpuItem (Text.trim item)
    .ok ((sortCpus items.flatten).destutter (· ≠ ·))

def CpuTopology.coreOfCpu (topology : CpuTopology) (cpu : Nat) : Option Nat :=
  topology.cores.findIdx? fun core => core.cpus.contains cpu

namespace NodeCoreSettings

def fromConfig (nc : NodeConfig) : NodeCoreSettings :=
  ⟨nc.coreSpecCount,nc.cpuSpecList,nc.reservedMemoryMb,nc.daemonsOffSpec⟩

def specRequest (settings : NodeCoreSettings) : Option SpecRequest :=
  match settings.coreSpecCount.filter (· > 0) with
  | some count => some (.count count)
  | none => (settings.cpuSpecList.filter fun list => !(Text.trim list.toList).isEmpty).map .list

end NodeCoreSettings

private def coresBySocket (topology : CpuTopology) : List (List Nat) :=
  let sockets := ((topology.cores.map CoreInfo.socket).dedup).insertionSort (· ≥ ·)
  sockets.map fun socket =>
    (topology.cores.zipIdx.filter fun entry => entry.1.socket = socket).map Prod.snd

/-- The highest local core index first, sockets from highest to lowest at each index. -/
def pickSpecCores (topology : CpuTopology) (count : Nat) : List Nat :=
  let bySocket := coresBySocket topology
  let widest := (bySocket.map List.length).foldl max 0
  (List.range widest).reverse.foldl (fun picked localIndex =>
    bySocket.foldl (fun picked cores =>
      if picked.length ≥ count then picked
      else match cores[localIndex]? with
        | some core => if picked.contains core then picked else picked ++ [core]
        | none => picked) picked) []

def coresOfCpus (topology : CpuTopology) (cpus : List Nat) : Except LayoutError (List Nat) := do
  let cores ← cpus.mapM fun cpu =>
    match topology.coreOfCpu cpu with
    | some core => .ok core
    | none => .error (LayoutError.specCpuNotOnline cpu)
  .ok cores.dedup

namespace CoreLayout

/-- No layout when the node sets no spec cores; `memoryMb` is zero when unknown. -/
def compute (topology : Option CpuTopology) (settings : NodeCoreSettings) (memoryMb : Nat) :
    Except LayoutError (Option CoreLayout) :=
  match settings.specRequest with
  | none => .ok none
  | some spec =>
    if memoryMb > 0 && settings.reservedMemoryMb ≥ memoryMb then
      .error (.reservedMemoryTakesAll settings.reservedMemoryMb memoryMb)
    else match topology with
    | none => .error .missingTopology
    | some topology => do
      let specCores ← match spec with
        | .count cores => .ok (pickSpecCores topology cores)
        | .list text => match parseCpuList text with
          | .error error => .error (.badSpecList error)
          | .ok cpus => coresOfCpus topology cpus
      if specCores.length ≥ topology.cores.length then .error (.specTakesAllCores topology.cores.length)
      else
        let indexed := topology.cores.zipIdx
        let cpusOf (inSpec : Bool) : List Nat :=
          ((indexed.filter fun entry => specCores.contains entry.2 == inSpec).map fun entry => entry.1.cpus).flatten
        .ok (some {
          specCpus := sortCpus (cpusOf true)
          memSpecMb := settings.reservedMemoryMb
          gpuReserved := []
          generalCpus := sortCpus (cpusOf false)
          daemonsOffSpec := settings.daemonsOffSpec })

private def littleEndian (width n : Nat) : List Nat := (List.range width).map fun i => n / 256 ^ i % 256

private def listBytes (items : List Nat) : List Nat :=
  littleEndian 8 items.length ++ (items.map (littleEndian 4)).flatten

def fingerprint (layout : CoreLayout) : Nat :=
  let gpus := layout.gpuReserved.insertionSort fun left right => left.stableId ≤ right.stableId
  let bytes := listBytes layout.specCpus ++ littleEndian 8 layout.memSpecMb ++ littleEndian 8 gpus.length ++
    (gpus.map fun gpu => littleEndian 8 gpu.stableId ++ listBytes gpu.cpus).flatten ++
    listBytes layout.generalCpus ++ [if layout.daemonsOffSpec then 1 else 0]
  let hash := bytes.foldl (fun hash byte => Nat.xor hash byte * 0x100000001b3 % 2 ^ 64) 0xcbf29ce484222325
  if hash = 0 then 1 else hash

end CoreLayout
end Spur
