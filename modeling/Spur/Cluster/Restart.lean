import Spur.Cluster.Policy

/-! Which changes of the `[[nodes]]` entries wait for a restart, from `spur_core::core_layout`. -/
namespace Spur.Cluster
open Spur.Library List Option

deriving instance DecidableEq for NodeCoreSettings

abbrev EntryMatcher := String × List (String × String)

def entryMatcher (nc : NodeConfig) : EntryMatcher := (nc.names,nc.selector.toList)

def unsetSettings : NodeCoreSettings := ⟨none,none,0,true⟩

/-- An entry that sets no spec cores has no layout to keep in step. -/
def restartRelevant (nc : NodeConfig) : NodeCoreSettings :=
  let s := NodeCoreSettings.fromConfig nc
  let hasCore := s.coreSpecCount.any (· > 0) || s.cpuSpecList.any fun list => !(Text.trim list.toList).isEmpty
  if hasCore then s else unsetSettings

def keyed (nodes : List NodeConfig) : List (EntryMatcher × NodeCoreSettings) :=
  nodes.map fun nc => (entryMatcher nc,restartRelevant nc)

/-- The entries up to the last one that sets spec cores. -/
def relevantPart (entries : List (EntryMatcher × NodeCoreSettings)) : List (EntryMatcher × NodeCoreSettings) :=
  entries.rdropWhile fun entry => entry.2 = unsetSettings

/-- `debug` is the formatter's text of a selector. -/
def entryKey (debug : List (String × String) → String) (nc : NodeConfig) : String :=
  if !nc.names.isEmpty then nc.names else debug nc.selector.toList

def restartOnlyNodeChanges (debug : List (String × String) → String) (old new : List NodeConfig) : List String :=
  let oldPart := relevantPart (keyed old)
  let newPart := relevantPart (keyed new)
  if oldPart = newPart then []
  else
    let changed := (List.range (max oldPart.length newPart.length)).flatMap fun i =>
      if oldPart[i]? = newPart[i]? then []
      else (old.take oldPart.length)[i]?.toList ++ (new.take newPart.length)[i]?.toList
    (changed.map (entryKey debug)).eraseDups

/-- The layout of the first entry that matches a node; a node that none matches has none. -/
def layoutUnder (nodes : List NodeConfig) (name : String) (labels : Table String String)
    (topology : Option CpuTopology) (memoryMb : Nat) : Except LayoutError (Option CoreLayout) :=
  match nodes.find? fun nc => nodeConfigMatches nc name labels with
  | none => .ok none
  | some nc => CoreLayout.compute topology (.fromConfig nc) memoryMb

variable {name : String} {labels : Table String String} {topology : Option CpuTopology} {memoryMb : Nat}

theorem compute_restartRelevant {nc : NodeConfig} : CoreLayout.compute topology (restartRelevant nc) memoryMb =
      CoreLayout.compute topology (.fromConfig nc) memoryMb := by
  unfold restartRelevant
  dsimp only
  split
  · rfl
  next plain =>
    have none_ : (NodeCoreSettings.fromConfig nc).specRequest = none := by
      rw [Bool.or_eq_true,not_or,Option.any_eq_true,Option.any_eq_true] at plain
      unfold NodeCoreSettings.specRequest
      rw [filter_eq_none_iff.mpr fun n found => fun positive => plain.1 ⟨n,found,positive⟩]
      simp only [map_eq_none_iff]
      exact filter_eq_none_iff.mpr fun list found => fun filled => plain.2 ⟨list,found,filled⟩
    unfold CoreLayout.compute
    rw [none_]
    rfl

theorem layoutUnder_of_keyed {old new : List NodeConfig} (same : keyed old = keyed new) :
    layoutUnder old name labels topology memoryMb = layoutUnder new name labels topology memoryMb := by
  induction old generalizing new with
  | nil =>
    cases new with
    | nil => rfl
    | cons => cases same
  | cons nc old ih =>
    cases new with
    | nil => cases same
    | cons other new =>
      obtain ⟨here,rest⟩ := List.cons.inj same
      obtain ⟨matcher,settings⟩ := Prod.mk.inj here
      obtain ⟨names,selector⟩ := Prod.mk.inj matcher
      have matches_ : nodeConfigMatches nc name labels = nodeConfigMatches other name labels := by
        unfold nodeConfigMatches
        rw [names,Std.ExtTreeMap.toList_inj.mp selector]
      specialize ih rest
      unfold layoutUnder at ih ⊢
      rw [List.find?_cons,List.find?_cons,matches_]
      cases nodeConfigMatches other name labels with
      | true =>
        dsimp only
        rw [← compute_restartRelevant,← compute_restartRelevant,settings]
      | false => exact ih

theorem exists_relevant (nodes : List NodeConfig) : ∃ kept, keyed kept = relevantPart (keyed nodes) ∧
    layoutUnder kept name labels topology memoryMb = layoutUnder nodes name labels topology memoryMb := by
  induction nodes using List.reverseRecOn with
  | nil => exact ⟨[],rfl,rfl⟩
  | append_singleton nodes nc ih =>
    unfold relevantPart keyed at ih ⊢
    rw [map_append,map_singleton]
    by_cases unset : restartRelevant nc = unsetSettings
    · rw [rdropWhile_concat_pos _ _ _ (by simpa using unset)]
      obtain ⟨kept,same,layout⟩ := ih
      refine ⟨kept,same,layout.trans ?_⟩
      unfold layoutUnder
      rw [List.find?_append]
      cases nodes.find? fun nc => nodeConfigMatches nc name labels with
      | some => rfl
      | none =>
        cases found : [nc].find? fun nc => nodeConfigMatches nc name labels with
        | none => rfl
        | some last =>
          obtain rfl := mem_singleton.mp (List.mem_of_find?_eq_some found)
          change _ = CoreLayout.compute topology _ memoryMb
          rw [← compute_restartRelevant,unset]
          rfl
    · rw [rdropWhile_concat_neg _ _ _ (by simpa using unset)]
      exact ⟨nodes ++ [nc],by simp,rfl⟩

theorem relevantPart_of_unreported {debug : List (String × String) → String} {old new : List NodeConfig}
    (unreported : restartOnlyNodeChanges debug old new = []) : relevantPart (keyed old) = relevantPart (keyed new) := by
  have short (nodes : List NodeConfig) : (relevantPart (keyed nodes)).length ≤ nodes.length :=
    ( rdropWhile_prefix _ _).length_le.trans_eq (length_map _)
  have shorter := short old
  have fewer := short new
  unfold restartOnlyNodeChanges at unreported
  generalize relevantPart _ = oldPart at *
  generalize relevantPart _ = newPart at *
  by_contra differ
  rw [if_neg differ,eq_nil_iff_forall_not_mem] at unreported
  refine differ (ext_getElem? fun i => ?_)
  by_contra here
  have within : i < max oldPart.length newPart.length := by
    by_contra beyond
    rw [List.getElem?_eq_none (by omega),List.getElem?_eq_none (by omega)] at here
    exact here rfl
  have empty : (old.take oldPart.length)[i]?.toList ++ (new.take newPart.length)[i]?.toList = [] := by
    refine eq_nil_iff_forall_not_mem.mpr fun nc changed => unreported (entryKey debug nc) ?_
    refine mem_eraseDups.mpr (List.mem_map_of_mem (mem_flatMap.mpr ⟨i,mem_range.mpr within,?_⟩))
    rwa [if_neg here]
  rw [append_eq_nil_iff,toList_eq_nil_iff,toList_eq_nil_iff,List.getElem?_eq_none_iff,
    List.getElem?_eq_none_iff,length_take,length_take,min_eq_left shorter] at empty
  omega

/-- A change that is not reported leaves the layout of every node as it was. -/
theorem unreported_keeps_layout (debug : List (String × String) → String) (old new : List NodeConfig)
    (unreported : restartOnlyNodeChanges debug old new = []) (name : String) (labels : Table String String)
    (topology : Option CpuTopology) (memoryMb : Nat) :
    layoutUnder old name labels topology memoryMb = layoutUnder new name labels topology memoryMb := by
  obtain ⟨before,oldPart,oldLayout⟩ := exists_relevant old
  obtain ⟨after,newPart,newLayout⟩ := exists_relevant new
  rw [← oldLayout,← newLayout]
  exact layoutUnder_of_keyed (oldPart.trans ((relevantPart_of_unreported unreported).trans newPart.symm))

theorem unreported_keeps_layout_features :
    layoutUnder [{ names := "n[1-2]", coreSpecCount := some 1 },{ names := "ALL", weight := 3 }] "n1" ∅ none 0 =
      layoutUnder [{ names := "n[1-2]", coreSpecCount := some 1, weight := 2 }] "n1" ∅ none 0 :=
  unreported_keeps_layout (fun _ => "") _ _ (by decide +kernel) "n1" ∅ none 0

end Spur.Cluster
