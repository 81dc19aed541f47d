import Spur.Job
import Spur.Library.Fallible
import Spur.Library.Text

/-! Array specifications, as `spur_core::array` parses them, and the jobs they expand into. -/
namespace Spur.JobArray
open Spur.Library Spur.Library.Text List Fallible

inductive ArrayError where
  | invalidSpec (message : String)
  | tooLarge (count max : Nat)

def ArrayError.message : ArrayError → String
  | .invalidSpec message => "invalid array spec: " ++ message
  | .tooLarge count max => "array too large: " ++ toString count ++ " tasks (max " ++ toString max ++ ")"

structure ArraySpec where
  taskIds : List Nat
  maxConcurrent : Nat

def maxArraySize : Nat := 100000

inductive Item where
  | single (id : Nat)
  | range (start finish step : Nat)

def number (what : String) (text : List Char) : Except ArrayError Nat :=
  match parseUnsigned (2 ^ 32) text with
  | some n => .ok n
  | none => .error (.invalidSpec (what ++ String.ofList text))

def readStep (part : List Char) : Except ArrayError (List Char × Nat) :=
  match cutAt ':' part with
  | none => .ok (part,1)
  | some (range,text) => do
    let step ← number "invalid step: " text
    if step = 0 then .error (.invalidSpec "step cannot be 0") else .ok (range,step)

def readItem (part : List Char) : Except ArrayError Item := do
  let (range,step) ← readStep part
  match cutAt '-' range with
  | none => return .single (← number "invalid id: " range)
  | some (startText,endText) =>
    let start ← number "invalid start: " startText
    let finish ← number "invalid end: " endText
    if start > finish then .error (.invalidSpec (toString start ++ " > " ++ toString finish))
    else .ok (.range start finish step)

/-- The loop of a range: it ends behind `finish` or at the top of the 32-bit range. -/
def enumerate (finish step : Nat) : Nat → Nat → List Nat
  | 0, _ => []
  | fuel + 1, i =>
    if i ≤ finish then i :: if i + step < 2 ^ 32 then enumerate finish step fuel (i + step) else [] else []

def addItem (taskIds : List Nat) : Item → Except ArrayError (List Nat)
  | .single id => .ok (taskIds ++ [id])
  | .range start finish step =>
    let count := taskIds.length + ((finish - start) / step + 1)
    if count > maxArraySize then .error (.tooLarge count maxArraySize)
    else .ok (taskIds ++ enumerate finish step (finish + 1 - start) start)

def addPart (taskIds : List Nat) (part : List Char) : Except ArrayError (List Nat) :=
  if (trim part).isEmpty then .ok taskIds else do addItem taskIds (← readItem (trim part))

def splitLimit (spec : List Char) : Except ArrayError (List Char × Nat) :=
  match cutAt '%' spec.reverse with
  | none => .ok (spec,0)
  | some (limit,ranges) => do return (ranges.reverse,← number "invalid limit: " limit.reverse)

def parseArraySpec (text : List Char) : Except ArrayError ArraySpec :=
  if (trim text).isEmpty then .error (.invalidSpec "empty spec")
  else do
    let (ranges,maxConcurrent) ← splitLimit (trim text)
    let taskIds ← (ranges.splitOn ',').foldlM addPart []
    if taskIds.length > maxArraySize then .error (.tooLarge taskIds.length maxArraySize)
    else .ok ⟨(taskIds.insertionSort (· ≤ ·)).dedup,maxConcurrent⟩

def expandJobSpecs (spec : JobSpec) (parent : JobId) : Except String (List JobSpec) :=
  match spec.arraySpec with
  | none => .ok [spec]
  | some text =>
    match parseArraySpec text.toList with
    | .error e => .error ("invalid array spec: " ++ e.message)
    | .ok array =>
      let maxConcurrent := if array.maxConcurrent > 0 then some array.maxConcurrent else none
      .ok (array.taskIds.map fun task => { spec with
        arraySpec := none
        arrayJobId := some parent
        arrayTaskId := some task
        arrayMaxConcurrent := maxConcurrent })

def Item.Has : Item → Nat → Prop
  | .single id, task => task = id
  | .range start finish step, task => ∃ k, task = start + k * step ∧ task ≤ finish

def parts (text : List Char) : List (List Char) :=
  match splitLimit (trim text) with
  | .ok (ranges,_) => ranges.splitOn ','
  | .error _ => []

def Lists (part : List Char) (task : Nat) : Prop := ∃ item, readItem (trim part) = .ok item ∧ item.Has task

structure Means (text : List Char) (array : ArraySpec) : Prop where
  increasing : array.taskIds.Pairwise (· < ·)
  filled : array.taskIds ≠ []
  few : array.taskIds.length ≤ maxArraySize
  exact : ∀ task, task ∈ array.taskIds ↔ ∃ part ∈ parts text, Lists part task
  jobs : ∀ spec parent specs, spec.arraySpec = some (.ofList text) → expandJobSpecs spec parent = .ok specs →
    specs ≠ [] ∧ specs.map JobSpec.arrayTaskId = array.taskIds.map some

theorem number_lt {what : String} {text : List Char} {n : Nat} (read : number what text = .ok n) : n < 2 ^ 32 := by
  unfold number at read
  split at read
  next found => exact Except.ok.inj read ▸ parseUnsigned_lt found
  next => cases read

theorem mem_enumerate {finish step fuel i task : Nat} (moves : 0 < step) (small : finish < 2 ^ 32)
    (enough : finish + 1 - i ≤ fuel) :
    task ∈ enumerate finish step fuel i ↔ ∃ k, task = i + k * step ∧ task ≤ finish := by
  have behind {i : Nat} (past : finish < i) : ¬∃ k, task = i + k * step ∧ task ≤ finish := by
    omega
  induction fuel generalizing i with
  | zero => exact ⟨nofun,fun some_ => absurd some_ (behind (by omega))⟩
  | succ fuel ih =>
    unfold enumerate
    split
    next within =>
      rw [mem_cons]
      constructor
      · rintro (rfl | later)
        · exact ⟨0,by omega,within⟩
        · split at later
          · obtain ⟨k,rfl,last⟩ := (ih (by omega)).mp later
            exact ⟨k + 1,by rw [Nat.succ_mul]; omega,last⟩
          · cases later
      · rintro ⟨_ | k,rfl,last⟩
        · exact .inl (by omega)
        · have more : (k + 1) * step = k * step + step := Nat.succ_mul k step
          rw [if_pos (by omega)]
          exact .inr ((ih (by omega)).mpr ⟨k,by omega,last⟩)
    next past => exact ⟨nofun,fun some_ => absurd some_ (behind (by omega))⟩

theorem readStep_pos {part range : List Char} {step : Nat} (read : readStep part = .ok (range,step)) : 0 < step := by
  unfold readStep at read
  split at read
  next => cases read; decide
  next =>
    obtain ⟨n,-,rest⟩ := bind_ok.mp read
    split at rest
    next => cases rest
    next positive => cases rest; exact Nat.pos_of_ne_zero positive

theorem addItem_ok {part : List Char} {item : Item} {taskIds out : List Nat} (read : readItem part = .ok item)
    (added : addItem taskIds item = .ok out) :
    ∃ more, out = taskIds ++ more ∧ more ≠ [] ∧ ∀ task, task ∈ more ↔ item.Has task := by
  obtain ⟨⟨range,step⟩,stepped,read⟩ := bind_ok.mp read
  dsimp only at read
  split at read
  next =>
    obtain ⟨id,-,read⟩ := bind_ok.mp read
    cases read
    cases added
    exact ⟨[id],rfl,cons_ne_nil _ _,fun task => mem_singleton⟩
  next =>
    obtain ⟨start,-,read⟩ := bind_ok.mp read
    obtain ⟨finish,ends,read⟩ := bind_ok.mp read
    split at read
    next => cases read
    next order =>
      cases read
      unfold addItem at added
      dsimp only at added
      split at added
      next => cases added
      next =>
        have listed (task : Nat) := @mem_enumerate _ _ _ _ task (readStep_pos stepped) (number_lt ends)
          (Nat.le_refl (finish + 1 - start))
        cases added
        refine ⟨_,rfl,?_,listed⟩
        exact ne_nil_of_mem ((listed start).mpr ⟨0,by omega,by omega⟩)

theorem addPart_ok {part : List Char} {taskIds out : List Nat} (added : addPart taskIds part = .ok out) :
    ∃ more, out = taskIds ++ more ∧ (more ≠ [] ↔ trim part ≠ []) ∧ ∀ task, task ∈ more ↔ Lists part task := by
  unfold addPart at added
  split at added
  next blank =>
    cases added
    rw [List.isEmpty_iff] at blank
    refine ⟨[],(append_nil _).symm,by simp [blank],fun task => ⟨nofun,?_⟩⟩
    rintro ⟨item,read,-⟩
    rw [blank] at read
    cases read
  next filled =>
    obtain ⟨item,read,added⟩ := bind_ok.mp added
    obtain ⟨more,rfl,some_,listed⟩ := addItem_ok read added
    refine ⟨more,rfl,by simpa [some_] using filled,fun task => (listed task).trans ⟨fun has => ⟨item,read,has⟩,?_⟩⟩
    rintro ⟨other,again,has⟩
    cases read.symm.trans again
    exact has

theorem foldlM_addPart_ok {all : List (List Char)} {taskIds out : List Nat}
    (added : all.foldlM addPart taskIds = .ok out) :
    ∃ more, out = taskIds ++ more ∧ (more ≠ [] ↔ ∃ part ∈ all, trim part ≠ []) ∧
      ∀ task, task ∈ more ↔ ∃ part ∈ all, Lists part task := by
  induction all generalizing taskIds with
  | nil =>
    cases added
    exact ⟨[],(append_nil _).symm,by simp,by simp⟩
  | cons part all ih =>
    obtain ⟨next,here,rest⟩ := bind_ok.mp added
    obtain ⟨more,rfl,some_,listed⟩ := addPart_ok here
    obtain ⟨others,rfl,filled,lists⟩ := ih rest
    refine ⟨more ++ others,append_assoc _ _ _,?_,fun task => ?_⟩
    · rw [exists_mem_cons_iff,← some_,← filled]
      simp only [ne_eq,append_eq_nil_iff,not_and_or]
    · rw [mem_append,listed,lists,exists_mem_cons_iff]

/-- A parsed specification means its set of tasks exactly when one of its parts is not blank. -/
theorem array_spec_means {text : List Char} {array : ArraySpec} (parsed : parseArraySpec text = .ok array) :
    Means text array ↔ ∃ part ∈ parts text, trim part ≠ [] := by
  have whole := parsed
  unfold parseArraySpec at parsed
  split at parsed
  next => cases parsed
  obtain ⟨⟨ranges,limit⟩,cut,parsed⟩ := bind_ok.mp parsed
  obtain ⟨taskIds,added,parsed⟩ := bind_ok.mp parsed
  have all : parts text = ranges.splitOn ',' := by
    unfold parts
    rw [cut]
  split at parsed
  next => cases parsed
  next few =>
    cases parsed
    obtain ⟨more,same,filled,listed⟩ := foldlM_addPart_ok added
    subst same
    rw [all,← filled]
    constructor
    · intro means
      have some_ := means.filled
      rintro rfl
      exact some_ rfl
    · intro some_
      have member (task : Nat) : task ∈ (taskIds.insertionSort (· ≤ ·)).dedup ↔ task ∈ taskIds := by
        rw [mem_dedup,mem_insertionSort]
      have sorted := (pairwise_insertionSort (· ≤ ·) taskIds).sublist (dedup_sublist _)
      have present : (taskIds.insertionSort (· ≤ ·)).dedup ≠ [] := by
        obtain ⟨task,there⟩ := exists_mem_of_ne_nil _ some_
        exact ne_nil_of_mem ((member task).mpr there)
      refine ⟨(sorted.and (nodup_dedup _)).imp fun ⟨le,ne⟩ => lt_of_le_of_ne le ne,present,?_,?_,?_⟩
      · have shorter := (dedup_sublist (taskIds.insertionSort (· ≤ ·))).length_le
        rw [length_insertionSort] at shorter
        exact shorter.trans (Nat.le_of_not_lt few)
      · intro task
        rw [member,listed,all]
      · intro spec parent specs asked expanded
        unfold expandJobSpecs at expanded
        rw [asked] at expanded
        dsimp only at expanded
        rw [String.toList_ofList,whole] at expanded
        cases expanded
        refine ⟨by simpa using present,?_⟩
        rw [map_map]
        rfl

theorem array_spec_means_overlap : Means "7,0-4:2, 4%3".toList ⟨[0,2,4,7],3⟩ :=
  (array_spec_means rfl).mpr ⟨"7".toList,by decide,by decide⟩

theorem blank_parts_give_no_task :
    parseArraySpec ",".toList = .ok ⟨[],0⟩ ∧ expandJobSpecs { arraySpec := some "%5" } 7 = .ok [] :=
  ⟨rfl,rfl⟩

end Spur.JobArray
