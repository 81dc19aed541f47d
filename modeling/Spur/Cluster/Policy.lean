import Spur.Hostlist
import Spur.Cluster.State

/-! Partition membership and the `[[nodes]]` policy of the configuration, re-derived for a node. -/
namespace Spur.Cluster
open Spur Spur.Library

def matchesNames (pattern nodeName : String) : Bool :=
  if pattern.isEmpty then false
  else if pattern.toList.map Text.toAsciiLower = "all".toList then true
  else match Hostlist.expand pattern with
    | .ok hosts => hosts.contains nodeName
    | .error _ => false

def matchesSelector (selector labels : Table String String) : Bool :=
  !selector.isEmpty && selector.toList.all fun entry => labels[entry.1]? == some entry.2

def partitionMatchesNode (partition : Partition) (nodeName : String) (labels : Table String String) : Bool :=
  matchesSelector partition.selector labels || matchesNames partition.nodes nodeName

def nodeConfigMatches (nc : NodeConfig) (nodeName : String) (labels : Table String String) : Bool :=
  matchesNames nc.names nodeName || matchesSelector nc.selector labels

/-- The partitions a node belongs to: those it matches, else the default one, else the first one. -/
def matchedPartitions (partitions : List Partition) (nodeName : String) (labels : Table String String) :
    List String :=
  let matched := (partitions.filter fun part => partitionMatchesNode part nodeName labels).map Partition.name
  if matched.isEmpty then
    match (partitions.find? Partition.isDefault).or partitions.head? with
    | some part => [part.name]
    | none => []
  else matched

def deriveCoreLayout (nc : Option NodeConfig) (node : Node) : Node :=
  match nc with
  | none => { node with coreLayout := none, layoutError := none, specMemoryMb := 0 }
  | some nc =>
    match node.source with
    | .kubernetes _ => { node with coreLayout := none, layoutError := none, specMemoryMb := nc.reservedMemoryMb }
    | .nativeHost =>
      match CoreLayout.compute node.detectedResources.topology (NodeCoreSettings.fromConfig nc)
          node.detectedResources.memoryMb with
      | .ok layout => { node with coreLayout := layout, layoutError := none, specMemoryMb := nc.reservedMemoryMb }
      -- The last good layout stays: dropping it would free the reserved cores under running jobs.
      | .error error => { node with layoutError := some error, specMemoryMb := nc.reservedMemoryMb }

def recomputeCoreLayout (nc : Option NodeConfig) (node : Node) : Node :=
  let next := deriveCoreLayout nc node
  if next.coreLayout.map CoreLayout.fingerprint ≠ node.coreLayout.map CoreLayout.fingerprint then
    { next with layoutSeq := next.layoutSeq + 1 }
  else next

/-- Features, weight, layout and schedulable totals of a node under a matching entry, or under none. -/
def applyNodePolicy (nc : Option NodeConfig) (node : Node) : Node :=
  match nc with
  | some nc =>
    let node := recomputeCoreLayout (some nc) { node with features := nc.features, weight := nc.weight }
    let specCpus := node.coreLayout.elim 0 fun layout => layout.specCpus.length
    { node with
      totalResources :=
        node.detectedResources.clamped nc.cpus nc.memoryMb nc.reservedMemoryMb specCpus
      address := node.address.or nc.address }
  | none =>
    recomputeCoreLayout none { node with totalResources := node.detectedResources }.resetConfigPolicy

def applyNodeConfigPolicy (config : Config) (node : Node) : Node :=
  let node := applyNodePolicy (config.nodes.find? fun nc => nodeConfigMatches nc node.name node.labels) node
  if node.state.isUp then node.updateStateFromAlloc else node

def reconcileNode (config : Config) (partitions : List Partition) (node : Node) : Node :=
  applyNodeConfigPolicy config { node with partitions := matchedPartitions partitions node.name node.labels }

def reconcilePartitions (config : Config) (partitions : List Partition) (nodes : Table String Node) :
    Table String Node :=
  nodes.map fun _ node => reconcileNode config partitions node

end Spur.Cluster
