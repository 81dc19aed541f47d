import Spur.Library.Fallible
import Spur.Library.Text

/-! Slurm hostlist patterns, as `spur_core::hostlist` expands them, and the fallback for malformed ones. -/
namespace Spur.Hostlist
open Spur.Library Spur.Library.Text List Fallible

def maxHostlistSize : Nat := 1000000

inductive HostlistError where
  | invalidPattern (message : String)
  | invalidRange (message : String)
  | tooLarge (count max : Nat)
  deriving DecidableEq

def HostlistError.message : HostlistError → String
  | .invalidPattern message => "invalid hostlist pattern: " ++ message
  | .invalidRange message => "invalid range: " ++ message
  | .tooLarge count max => "hostlist too large: " ++ toString count ++ " hosts exceeds maximum " ++ toString max

structure Limits where
  maxHosts : Nat
  maxNameBytes : Nat
  maxDepth : Nat

/-- Split at commas outside brackets; a surplus `]` leaves the depth at zero. -/
def splitTopLevel : Nat → List Char → List Char → List (List Char)
  | _, part, [] => [part.reverse]
  | depth, part, c :: cs =>
    if c = '[' then splitTopLevel (depth + 1) (c :: part) cs
    else if c = ']' then splitTopLevel (depth - 1) (c :: part) cs
    else if c = ',' && depth = 0 then part.reverse :: splitTopLevel 0 [] cs
    else splitTopLevel depth (c :: part) cs

/-- The bounds and pad width of a `start-end` term; a term without a dash is no range. -/
def parseRangeBounds (part : List Char) : Except HostlistError (Option (Nat × Nat × Nat)) :=
  match cutAt '-' part with
  | none => .ok none
  | some (startStr,endStr) =>
    match parseUnsigned (2 ^ 64) startStr,parseUnsigned (2 ^ 64) endStr with
    | some start,some finish =>
      if start > finish then
        .error (.invalidRange (String.ofList (decimal start ++ " > ".toList ++ decimal finish)))
      else .ok (some (start,finish,utf8Length startStr))
    | _,_ => .error (.invalidRange (String.ofList part))

private def push (limits : Limits) (results : List String) (name : List Char) : Except HostlistError (List String) :=
  if utf8Length name > limits.maxNameBytes then .error (.invalidPattern "hostname exceeds length limit")
  else if results.length ≥ limits.maxHosts then .error (.tooLarge (results.length + 1) limits.maxHosts)
  else .ok (results ++ [String.ofList name])

/-- One term without top-level commas. Every nested call has one `[` less, so `fuel` bounds the nesting
when it is at least the number of `[` in the pattern. -/
def expandSingle (limits : Limits) : Nat → Nat → List Char → List String → Except HostlistError (List String)
  | 0, _, _, _ => .error (.invalidPattern "hostlist nesting exceeds limit")
  | fuel + 1, depth, pattern, results =>
    if depth > limits.maxDepth then .error (.invalidPattern "hostlist nesting exceeds limit")
    else match cutAt '[' pattern with
    | none => push limits results pattern
    | some (before,rest) =>
      if !pattern.contains ']' then .error (.invalidPattern "unmatched [")
      else match cutAt ']' rest with
      | none => .error (.invalidPattern (String.ofList ("']' before '[': ".toList ++ pattern)))
      | some (rangeStr,suffix) =>
        if before.contains ']' then .error (.invalidPattern (String.ofList ("']' before '[': ".toList ++ pattern)))
        else
          let emit (value : List Char) (acc : List String) : Except HostlistError (List String) :=
            let name := before ++ value ++ suffix
            if suffix.contains '[' then expandSingle limits fuel (depth + 1) name acc else push limits acc name
          (rangeStr.splitOn ',').foldlM (fun acc part => do
            match ← parseRangeBounds part with
            | some (start,finish,width) =>
              let rangeCount := min (finish - start + 1) (2 ^ 64 - 1)
              let count := min (acc.length + rangeCount) (2 ^ 64 - 1)
              if count > limits.maxHosts then .error (.tooLarge count limits.maxHosts)
              else (List.range' start (finish - start + 1)).foldlM (fun acc i => do
                let next ← emit (padLeft '0' width (decimal i)) acc
                if next.length > limits.maxHosts then .error (.tooLarge next.length limits.maxHosts) else .ok next) acc
            | none => emit part acc) results

def partFields (part : List Char) : Except HostlistError (List (List Char)) := do
  match ← parseRangeBounds part with
  | some (start,finish,width) =>
    .ok ((List.range' start (finish - start + 1)).map fun i => padLeft '0' width (decimal i))
  | none => .ok [part]

variable {limits : Limits} {acc : List String} {text : List Char}

private theorem push_ok {results : List String} {name : List Char}
    (bytes : utf8Length name ≤ limits.maxNameBytes) (room : results.length < limits.maxHosts) :
    push limits results name = .ok (results ++ [String.ofList name]) := by
  unfold push
  rw [if_neg (Nat.not_lt.mpr bytes),if_neg (Nat.not_le.mpr room)]

theorem expandSingle_plain {depth fuel : Nat} {pattern : List Char}
    (depthOk : depth ≤ limits.maxDepth) (plain : '[' ∉ pattern) (bytes : utf8Length pattern ≤ limits.maxNameBytes)
    (room : acc.length < limits.maxHosts) :
    expandSingle limits (fuel + 1) depth pattern acc = .ok (acc ++ [String.ofList pattern]) := by
  unfold expandSingle
  rw [if_neg (Nat.not_lt.mpr depthOk),cutAt_eq_none plain]
  exact push_ok bytes room

private theorem part_ok {stem part : List Char} {out : List (List Char)}
    (small : limits.maxHosts < 2 ^ 64 - 1) (read : partFields part = .ok out)
    (bytes : ∀ text ∈ out, utf8Length (stem ++ text) ≤ limits.maxNameBytes)
    (room : acc.length + (out.map fun text => String.ofList (stem ++ text)).length ≤ limits.maxHosts) :
    (do
      match ← parseRangeBounds part with
      | some (start,finish,width) =>
        if min (acc.length + min (finish - start + 1) (2 ^ 64 - 1)) (2 ^ 64 - 1) > limits.maxHosts then
          .error (.tooLarge (min (acc.length + min (finish - start + 1) (2 ^ 64 - 1)) (2 ^ 64 - 1)) limits.maxHosts)
        else (List.range' start (finish - start + 1)).foldlM (fun acc i => do
          let next ← push limits acc (stem ++ padLeft '0' width (decimal i))
          if next.length > limits.maxHosts then .error (.tooLarge next.length limits.maxHosts) else .ok next) acc
      | none => push limits acc (stem ++ part)) = .ok (acc ++ out.map fun text => String.ofList (stem ++ text)) := by
  obtain ⟨bounds,parsed,fields⟩ := bind_ok.mp read
  rw [parsed]
  cases bounds with
  | none =>
    obtain rfl := Except.ok.inj fields
    exact push_ok (bytes part mem_cons_self) room
  | some bounds =>
    obtain ⟨start,finish,width⟩ := bounds
    obtain rfl := Except.ok.inj fields
    rw [map_map,length_map,length_range'] at room
    change (if min _ _ > limits.maxHosts then _ else _) = _
    rw [if_neg (by omega),map_map,map_eq_flatMap]
    refine foldlM_append (fun i within acc room => ?_) (by simpa using room)
    rw [push_ok (bytes _ (mem_map_of_mem within)) room]
    change (if (acc ++ [_]).length > limits.maxHosts then _ else _) = _
    rw [if_neg (by simpa using room)]
    rfl

theorem expandSingle_bracket {depth fuel : Nat} {stem : List Char} {parts : List (List Char)}
    {outs : List (List (List Char))} (depthOk : depth ≤ limits.maxDepth)
    (small : limits.maxHosts < 2 ^ 64 - 1) (filled : parts ≠ []) (plain : ∀ c ∈ stem, c ≠ '[' ∧ c ≠ ']')
    (inside : ∀ part ∈ parts, ',' ∉ part ∧ ']' ∉ part)
    (read : List.Forall₂ (fun part out => partFields part = .ok out) parts outs)
    (bytes : ∀ text ∈ outs.flatten, utf8Length (stem ++ text) ≤ limits.maxNameBytes)
    (room : acc.length + outs.flatten.length ≤ limits.maxHosts) :
    expandSingle limits (fuel + 1) depth (stem ++ '[' :: [','].intercalate parts ++ [']']) acc =
      .ok (acc ++ outs.flatten.map fun text => String.ofList (stem ++ text)) := by
  have opening : '[' ∉ stem := fun listed => (plain _ listed).1 rfl
  have closing : ']' ∉ [','].intercalate parts := by
    intro listed
    rcases mem_intercalate listed with comma | ⟨part,here,within⟩
    · cases comma
    · exact (inside part here).2 within
  have pieces : ([','].intercalate parts).splitOn ',' = parts :=
    splitOn_intercalate ',' (fun part listed => (inside part listed).1) filled
  have bytesOf (out) (listed : out ∈ outs) (text) (within : text ∈ out) :=
    bytes text (mem_flatten.mpr ⟨out,listed,within⟩)
  unfold expandSingle
  rw [if_neg (Nat.not_lt.mpr depthOk),append_assoc,cons_append,cutAt_append opening]
  dsimp only
  rw [if_neg (by simp),cutAt_append closing]
  dsimp only
  rw [if_neg (by simpa using fun listed => (plain ']' listed).2 rfl),pieces,map_flatten]
  simp only [append_nil,Bool.false_eq_true]
  rw [← length_map fun text => String.ofList (stem ++ text),map_flatten] at room
  refine foldlM_append_each ?_ room
  clear pieces closing inside filled room bytes
  induction read with
  | nil => exact .nil
  | cons here _ ih =>
    refine .cons (fun acc room => part_ok small here (bytesOf _ mem_cons_self) room) (ih ?_)
    exact fun out listed => bytesOf out (mem_cons_of_mem _ listed)

def expandWithLimits (pattern : String) (limits : Limits) : Except HostlistError (List String) := do
  let results ← (splitTopLevel 0 [] pattern.toList).foldlM
    (fun acc part => expandSingle limits (part.count '[' + 1) 0 (trim part) acc) []
  .ok (results.filter (· ≠ ""))

def expand (pattern : String) : Except HostlistError (List String) :=
  expandWithLimits pattern ⟨maxHostlistSize,2 ^ 64 - 1,2 ^ 64 - 1⟩

/-- The text leaves the split where it found it: outside brackets, with the text added to the open part. -/
def Closed (text : List Char) : Prop :=
  ∀ part rest, splitTopLevel 0 part (text ++ rest) = splitTopLevel 0 (text.reverse ++ part) rest

private theorem splitTopLevel_plain {depth : Nat} (plain : ∀ c ∈ text, c ≠ '[' ∧ c ≠ ']')
    (commas : depth = 0 → ',' ∉ text) (part rest : List Char) :
    splitTopLevel depth part (text ++ rest) = splitTopLevel depth (text.reverse ++ part) rest := by
  induction text generalizing part with
  | nil => rfl
  | cons c text ih =>
    have here := plain c mem_cons_self
    have comma : ¬(c = ',' && depth = 0) = true := by
      simp only [Bool.and_eq_true,decide_eq_true_eq,not_and]
      rintro rfl zero
      exact commas zero mem_cons_self
    rw [cons_append,splitTopLevel,if_neg here.1,if_neg here.2,if_neg comma,
      ih (fun d listed => plain d (mem_cons_of_mem c listed))
        fun zero listed => commas zero (mem_cons_of_mem c listed)]
    simp

theorem closed_of_plain (plain : ∀ c ∈ text, c ≠ ',' ∧ c ≠ '[' ∧ c ≠ ']') : Closed text :=
  splitTopLevel_plain (fun c listed => (plain c listed).2) fun _ listed => (plain ',' listed).1 rfl

theorem closed_bracket {stem body : List Char} (plain : ∀ c ∈ stem, c ≠ ',' ∧ c ≠ '[' ∧ c ≠ ']')
    (flat : ∀ c ∈ body, c ≠ '[' ∧ c ≠ ']') : Closed (stem ++ '[' :: body ++ [']']) := by
  intro part rest
  rw [append_assoc,append_assoc,closed_of_plain plain,cons_append,splitTopLevel,if_pos rfl,
    splitTopLevel_plain flat (by simp),singleton_append,splitTopLevel,if_neg (by decide)]
  simp

theorem splitTopLevel_intercalate {terms : List (List Char)} (filled : terms ≠ [])
    (closed : ∀ text ∈ terms, Closed text) : splitTopLevel 0 [] ([','].intercalate terms) = terms := by
  induction terms with
  | nil => exact absurd rfl filled
  | cons first rest ih =>
    have here := closed first mem_cons_self
    cases rest with
    | nil =>
      have alone := here [] []
      rw [append_nil,append_nil] at alone
      rw [intercalate_singleton,alone,splitTopLevel,reverse_reverse]
    | cons second rest =>
      rw [intercalate_cons_cons,append_assoc,here,append_nil,singleton_append,splitTopLevel,
        if_neg (by decide),if_neg (by decide),if_pos (by decide),reverse_reverse,
        ih (cons_ne_nil _ _) fun text listed => closed text (mem_cons_of_mem first listed)]

structure Reads (text : List Char) (names : List String) : Prop where
  closed : Closed text
  trimmed : trim text = text
  expands : ∀ acc : List String, acc.length + names.length ≤ maxHostlistSize →
    expandSingle ⟨maxHostlistSize,2 ^ 64 - 1,2 ^ 64 - 1⟩ (text.count '[' + 1) 0 text acc = .ok (acc ++ names)

theorem expand_intercalate {texts : List (List Char)} {outs : List (List String)} (each : List.Forall₂ Reads texts outs)
    (few : outs.flatten.length ≤ maxHostlistSize) (named : "" ∉ outs.flatten) :
    expand (String.ofList ([','].intercalate texts)) = .ok outs.flatten := by
  cases texts with
  | nil =>
    cases each
    rfl
  | cons first rest =>
    have parts : splitTopLevel 0 [] ([','].intercalate (first :: rest)) = first :: rest := by
      refine splitTopLevel_intercalate (cons_ne_nil _ _) fun text listed => ?_
      obtain ⟨names,-,reads⟩ := exists_related each.flip listed
      exact reads.closed
    have all : (first :: rest).foldlM (fun acc part => expandSingle ⟨maxHostlistSize,2 ^ 64 - 1,2 ^ 64 - 1⟩
        (part.count '[' + 1) 0 (trim part) acc) [] = .ok ([] ++ outs.flatten) := by
      refine foldlM_append_each (each.imp fun text names reads acc room => ?_) (by simpa using few)
      rw [reads.trimmed]
      exact reads.expands acc room
    unfold expand expandWithLimits
    rw [String.toList_ofList,parts,all]
    change Except.ok _ = _
    rw [nil_append,filter_eq_self.mpr]
    intro name listed
    exact decide_eq_true fun empty => named (empty ▸ listed)

def expandHostlistOrSplit (pattern : String) : List String :=
  let names := match expand pattern with
    | .ok names => names
    | .error _ => (pattern.toList.splitOn ',').map fun part => String.ofList (trim part)
  names.filter (· ≠ "")

example : expandHostlistOrSplit "node[08-10],gpu[1,3]" = ["node08","node09","node10","gpu1","gpu3"] := by decide +kernel

end Spur.Hostlist
