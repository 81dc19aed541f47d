import Mathlib

/-! Directories as stacks of path components, innermost first, and texts followed from one. -/
namespace Spur.Library.Path
open List

abbrev Name := List Char

def enter (dir : List Name) (name : Name) : List Name :=
  if name = ['.','.'] then dir.tail else if name = ['.'] ∨ name = [] then dir else name :: dir

def follow (dir names : List Name) : List Name := names.foldl enter dir

/-- `Path::join` and the resolution of the result: a text that starts at the file system's root
does not depend on the directory. -/
def join (dir : List Name) (text : List Char) : List Name :=
  follow (if text.head? = some '/' then [] else dir) (text.splitOn '/')

def Ordinary (name : Name) : Prop := name ≠ [] ∧ name ≠ ['.'] ∧ name ≠ ['.','.']

def StrictlyBelow (root dir : List Name) : Prop := root <:+ dir ∧ root ≠ dir

/-- Whether a walk from `depth` levels below a directory never goes above that directory. -/
def stays : Nat → List Name → Bool
  | _, [] => true
  | depth, name :: rest =>
    if name = ['.','.'] then
      match depth with
      | 0 => false
      | depth + 1 => stays depth rest
    else stays (if name = ['.'] ∨ name = [] then depth else depth + 1) rest

variable {dir root names : List Name} {name : Name} {text : List Char}

theorem join_component (whole : '/' ∉ text) : join dir text = enter dir text := by
  have single : text.splitOn '/' = [text] := by
    apply splitOnP_eq_singleton
    intro c listed
    rw [beq_eq_false_iff_ne]
    rintro rfl
    exact whole listed
  have relative : text.head? ≠ some '/' := fun first => whole (List.mem_of_mem_head? first)
  unfold join
  rw [single,if_neg relative]
  rfl

theorem enter_ordinary (ordinary : Ordinary name) : enter dir name = name :: dir := by
  unfold enter
  rw [if_neg ordinary.2.2,if_neg (not_or.mpr ⟨ordinary.2.1,ordinary.1⟩)]

theorem strictlyBelow_cons {name : Name} : StrictlyBelow dir (name :: dir) :=
  ⟨suffix_cons name dir,(cons_ne_self name dir).symm⟩

theorem StrictlyBelow.cons (below : StrictlyBelow root dir) {name : Name} : StrictlyBelow root (name :: dir) := by
  refine ⟨below.1.trans (suffix_cons name dir),?_⟩
  rintro rfl
  have := below.1.length_le
  rw [length_cons] at this
  omega

theorem strictlyBelow_enter : StrictlyBelow dir (enter dir name) ↔ Ordinary name := by
  constructor
  · rintro ⟨inside,other⟩
    unfold enter at inside other
    refine ⟨?_,?_,?_⟩ <;> rintro rfl
    · exact other rfl
    · exact other rfl
    · -- the parent of a directory is never below it
      apply other
      exact inside.eq_of_length_le (by simp)
  · intro ordinary
    rw [enter_ordinary ordinary]
    exact strictlyBelow_cons

/-- A walk that stays keeps every root it may have come from; one that leaves forgets which it was. -/
theorem follow_append (extra : List Name) :
    stays extra.length names = true ∧ (∀ root, root <:+ follow (extra ++ root) names) ∨
      stays extra.length names = false ∧
        ∀ a b dir, follow (extra ++ a :: dir) names = follow (extra ++ b :: dir) names := by
  induction names generalizing extra with
  | nil => exact .inl ⟨rfl,fun root => suffix_append extra root⟩
  | cons name names ih =>
    unfold stays follow
    simp only [foldl_cons]
    unfold enter
    split
    next up =>
      cases extra with
      | nil => exact .inr ⟨rfl,fun _ _ _ => rfl⟩
      | cons top extra => exact ih extra
    next down =>
      split
      next still => exact ih extra
      next deeper => exact ih (name :: extra)

theorem suffix_follow (kept : stays 0 names = true) {root : List Name} : root <:+ follow root names := by
  rcases follow_append [] with inside | left
  · exact inside.2 root
  · exact absurd kept (Bool.eq_false_iff.mp left.1)

/-- A walk that leaves ends up in one place for all directories, so it is not below two of them. -/
theorem stays_of_suffix {a b : Name} (different : a ≠ b) (first : a :: dir <:+ follow (a :: dir) names)
    (second : b :: dir <:+ follow (b :: dir) names) : stays 0 names = true := by
  rcases follow_append [] with inside | left
  · exact inside.1
  · have met := left.2 a b dir
    rw [nil_append,nil_append] at met
    rw [← met] at second
    have same := (suffix_of_suffix_length_le first second le_rfl).eq_of_length rfl
    exact absurd (List.cons.inj same).1 different

end Spur.Library.Path
