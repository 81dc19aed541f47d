import Spur.Library.Path
import Spur.Library.Text

/-! The file that a job's output pattern names. -/
namespace Spur
open Spur.Library.Path Spur.Library.Text List

structure OutputPathContext where
  jobId : Nat
  name : List Char
  user : List Char
  node : Option (List Char)
  workDir : List Char
  arrayJobId : Option Nat
  arrayTaskId : Option Nat

def defaultWorkDir : List Char := "/tmp".toList

def patternCode (ctx : OutputPathContext) (code : Char) : List Char :=
  match code,ctx.arrayTaskId,ctx.node with
  | 'j',_,_ | 'J',_,_ => decimal ctx.jobId
  | 'x',_,_ => ctx.name
  | 'u',_,_ => ctx.user
  | 'a',some task,_ => decimal task
  | 'A',some _,_ => decimal (ctx.arrayJobId.getD ctx.jobId)
  | 'N',_,some node => node
  | other,_,_ => ['%',other]

/-- One pass over the template: what is put in for a code is not read again. -/
def expandPatternCodes (ctx : OutputPathContext) : List Char → List Char
  | [] => []
  | '%' :: code :: rest => patternCode ctx code ++ expandPatternCodes ctx rest
  | c :: rest => c :: expandPatternCodes ctx rest

def outputTemplate (pattern : List Char) (jobId : Nat) : List Char :=
  if pattern.isEmpty then "spur-".toList ++ decimal jobId ++ ".out".toList else pattern

def resolveOutputPattern (pattern : List Char) (ctx : OutputPathContext) : List Char :=
  let template := outputTemplate pattern ctx.jobId
  let expanded := expandPatternCodes ctx template
  if template.head? = some '/' then expanded
  else
    let base := if ctx.workDir.isEmpty then defaultWorkDir else ctx.workDir
    base.rdropWhile (· = '/') ++ '/' :: expanded.dropWhile (· = '/')

def WorkDir (dir : List Char) : Prop := dir.head? = some '/' ∧ ['.','.'] ∉ dir.splitOn '/'

def Contained (pattern : List Char) (ctx : OutputPathContext) : Prop :=
  join [] ctx.workDir <:+ join [] (resolveOutputPattern pattern ctx)

variable {pattern : List Char} {ctx : OutputPathContext} {dir : List Char}

theorem expandPatternCodes_workDir (template : List Char) :
    expandPatternCodes { ctx with workDir := dir } template = expandPatternCodes ctx template := by
  fun_induction expandPatternCodes ctx template with
  | case1 => rfl
  | case2 code rest ih => exact congrArg _ ih
  | case3 c rest plain ih =>
    rw [expandPatternCodes.eq_3 _ _ _ plain,ih]

private theorem follow_split (dir : List Name) (front back : List Char) :
    follow dir ((front ++ '/' :: back).splitOn '/') = follow (follow dir (front.splitOn '/')) (back.splitOn '/') := by
  unfold follow List.splitOn
  rw [splitOnP_append_cons _ _ (by decide),foldl_append]

private theorem follow_trimmed (text : List Char) :
    follow [] ((text.rdropWhile (· = '/')).splitOn '/') = follow [] (text.splitOn '/') := by
  induction text using List.reverseRecOn with
  | nil => rfl
  | append_singleton text c ih =>
    by_cases slash : c = '/'
    · rw [rdropWhile_concat_pos _ _ _ (by simpa using slash),ih,slash,follow_split]
      rfl
    · rw [rdropWhile_concat_neg _ _ _ (by simpa using slash)]

theorem join_resolveOutputPattern (relative : pattern.head? ≠ some '/') (absolute : dir.head? = some '/') :
    join [] (resolveOutputPattern pattern { ctx with workDir := dir }) = follow (join [] dir)
      (((expandPatternCodes ctx (outputTemplate pattern ctx.jobId)).dropWhile (· = '/')).splitOn '/') := by
  have filled : dir.isEmpty = false := by
    cases dir with
    | nil => cases absolute
    | cons => rfl
  have anchored : (outputTemplate pattern ctx.jobId).head? ≠ some '/' := by
    unfold outputTemplate
    split
    · simp
    · exact relative
  have start (text : List Char) : join [] text = follow [] (text.splitOn '/') := by
    unfold join
    rw [ite_self]
  unfold resolveOutputPattern
  dsimp only
  rw [expandPatternCodes_workDir,if_neg anchored,filled,start,start,if_neg Bool.false_ne_true,follow_split,
    follow_trimmed]

def arrayOutput : OutputPathContext where
  jobId := 8
  name := "a/../b".toList
  user := []
  node := none
  workDir := "/home".toList
  arrayJobId := some 7
  arrayTaskId := some 1

end Spur
