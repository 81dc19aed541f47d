import Spur.Cluster.State
import Spur.Library.Text

/-! Job dependencies, from `spur_core::dependency` and `spur_core::array`. Array tasks are visited in id order. -/
namespace Spur

/-- A run stopped for a time limit that is still inside its kill wait. -/
def Job.isStoppingForTimeLimit (job : Job) : Bool :=
  job.state == .completing && job.timeLimitSignaledAt.isSome

def Job.occupiesResources (job : Job) : Bool :=
  job.state == .running || (job.state == .pending && job.holdsAPlacement)

namespace Cluster
open Spur.Library Spur.Library.Text

inductive Dependency where
  | after (jobId : JobId) (delayMinutes : Nat)
  | afterOk (jobId : JobId)
  | afterAny (jobId : JobId)
  | afterNotOk (jobId : JobId)
  | afterCorr (jobId : JobId)
  | singleton
  deriving DecidableEq

/-- Nothing for `singleton`, which goes by name and user. -/
def Dependency.targetJobId : Dependency → Option JobId
  | .after id _ | .afterOk id | .afterAny id | .afterNotOk id | .afterCorr id => some id
  | .singleton => none

/-- Lower case as far as it can give one of the dependency words: ASCII and the Kelvin sign. -/
private def lowered (text : List Char) : String :=
  String.ofList (text.map fun c => if c.toNat = 0x212A then 'k' else toAsciiLower c)

private def afterKind (word : String) : Option (JobId → Dependency) :=
  match word with
  | "after" => some fun id => .after id 0
  | "afterok" | "after_ok" => some .afterOk
  | "afterany" | "after_any" => some .afterAny
  | "afternotok" | "after_not_ok" => some .afterNotOk
  | "aftercorr" | "after_corr" => some .afterCorr
  | _ => none

/-- One target of a dependency; only `after` takes a delay. -/
private def parseTarget (word : String) (kind : JobId → Dependency) (text : List Char) : Option Dependency :=
  match cutAt '+' text with
  | some (id,delay) =>
    if word ≠ "after" then none
    else do
      let minutes ← parseUnsigned (2 ^ 32) (trim delay)
      let jobId ← parseUnsigned (2 ^ 32) (trim id)
      some (.after jobId minutes)
  | none => (parseUnsigned (2 ^ 32) text).map kind

/-- The dependencies of one comma-separated part; nothing when it is malformed. -/
def tryParsePart (part : List Char) : Option (List Dependency) :=
  let text := trim part
  if text.isEmpty then some []
  else if String.ofList (text.map toAsciiLower) = "singleton" then some [.singleton]
  else do
    let (word,ids) ← cutAt ':' text
    let kind ← afterKind (lowered word)
    let deps ← (((ids.splitOn ':').map trim).filter (· ≠ [])).mapM (parseTarget (lowered word) kind)
    if deps.isEmpty then none else some deps

def tryParseDependencies (specs : List String) : Option (List Dependency) := do
  let parts ← (specs.flatMap fun spec => spec.toList.splitOn ',').mapM tryParsePart
  some parts.flatten

def parseDependencies (specs : List String) : List Dependency :=
  (tryParseDependencies specs).getD
    (((specs.flatMap fun spec => spec.toList.splitOn ',').filterMap tryParsePart).flatten)

def severity : JobState → Nat
  | .outOfMemory => 6
  | .failed => 5
  | .deadline => 4
  | .nodeFail => 3
  | .timeout => 2
  | .cancelled => 1
  | _ => 0

/-- The state of a finished array: completed, or its worst end. -/
def aggregateArrayState (states : List JobState) : Option JobState :=
  if states.isEmpty || states.any fun s => !s.isTerminal then none
  else if states.all (· == .completed) then some .completed
  else (states.filter (· ≠ .completed)).foldl (fun worst s => match worst with
    | none => some s
    | some w => if severity w ≤ severity s then some s else some w) none

def arrayTasks (jobs : Table JobId Job) (arrayId : JobId) : List Job :=
  (jobs.toList.map Prod.snd).filter fun job => job.spec.arrayJobId == some arrayId

def resolveTargetState (jobs : Table JobId Job) (target : JobId) : Option JobState :=
  match jobs[target]? with
  | some job => some job.state
  | none =>
    let tasks := arrayTasks jobs target
    if tasks.isEmpty then none else some ((aggregateArrayState (tasks.map Job.state)).getD .running)

inductive DependencyResult where
  | satisfied | waiting | failed
  deriving DecidableEq

def failedEnd : JobState → Bool
  | .failed | .cancelled | .timeout | .nodeFail | .deadline => true
  | _ => false

/-- The verdict of `afterok` on one state; `aftercorr` counts every other terminal state as failed. -/
def okVerdict (fails : JobState → Bool) : Option JobState → DependencyResult
  | none => .failed
  | some .completed => .satisfied
  | some s => if fails s then .failed else .waiting

private def earliest (times : List Time) : Option Time := times.min?

def checkDependency (jobs : Table JobId Job) (now : Time) (job : Job) : Dependency → DependencyResult
  | .after target delay =>
    let start := ((jobs[target]?).bind Job.startTime).or (earliest ((arrayTasks jobs target).filterMap Job.startTime))
    match start with
    | some start => if now < start + Duration.seconds (delay * 60) then .waiting else .satisfied
    | none => match resolveTargetState jobs target with
      | some s => if s.isTerminal then .satisfied else .waiting
      | none => .satisfied
  | .afterOk target => okVerdict failedEnd (resolveTargetState jobs target)
  | .afterAny target => match resolveTargetState jobs target with
    | some s => if s.isTerminal then .satisfied else .waiting
    | none => .satisfied
  | .afterNotOk target => match resolveTargetState jobs target with
    | none => .failed
    | some .completed => .failed
    | some s => if failedEnd s then .satisfied else .waiting
  | .afterCorr target =>
    let tasks := arrayTasks jobs target
    match job.spec.arrayTaskId with
    | none => okVerdict JobState.isTerminal (resolveTargetState jobs target)
    | some task =>
      if tasks.isEmpty then okVerdict JobState.isTerminal (resolveTargetState jobs target)
      else okVerdict JobState.isTerminal
        ((tasks.find? fun t => t.spec.arrayTaskId == some task).map Job.state)
  | .singleton =>
    let active := (jobs.toList.map Prod.snd).any fun other =>
      other.spec.name == job.spec.name && other.spec.user == job.spec.user && other.jobId != job.jobId &&
        (other.state == .running || other.state == .pending || other.isStoppingForTimeLimit)
    if active then .waiting else .satisfied

def checkDependencies (jobs : Table JobId Job) (now : Time) (job : Job) : DependencyResult :=
  (((parseDependencies job.spec.dependency).map (checkDependency jobs now job)).find? (· ≠ .satisfied)).getD .satisfied

end Cluster
end Spur
