import Spur.Library.Table

/-! Coordinators and the accounts under them, from `association_cache`. Tables list their entries by key. -/
namespace Spur.Accounts
open Spur.Library List Relation

abbrev Links := List (String × String)

def childLinks (parentOf : Table String String) : Links := parentOf.toList.filter fun link => link.2 ≠ ""

def children (links : Links) (name : String) : List String := (links.filter fun link => link.2 = name).map Prod.fst

theorem unseen_split {links : Links} {name : String} {seen : List String} (fresh : name ∉ seen) :
    links.countP (·.2 ∉ seen) = (children links name).length + links.countP (·.2 ∉ name :: seen) := by
  unfold children
  rw [length_map,← countP_eq_length_filter]
  induction links with
  | nil => rfl
  | cons link links ih =>
    simp only [countP_cons]
    grind

/-- The names seen once the stack is empty; its top comes first. -/
def walk (links : Links) (stack seen : List String) : List String :=
  match stack with
  | [] => seen
  | name :: rest =>
    if name ∈ seen then walk links rest seen
    else walk links ((children links name).reverse ++ rest) (name :: seen)
termination_by stack.length + links.countP (·.2 ∉ seen)
decreasing_by
  · simp
  next fresh =>
    rw [unseen_split fresh,length_append,length_reverse,length_cons]
    omega

def withSubAccounts (direct : List (String × String)) (parentOf : Table String String) : Finset (String × String) :=
  (direct.flatMap fun assigned =>
    (walk (childLinks parentOf) [assigned.2] []).map fun account => (assigned.1,account)).toFinset

variable {links : Links}

theorem walk_sound {stack seen : List String} {name : String} (found : name ∈ walk links stack seen) :
    name ∈ seen ∨ ∃ start ∈ stack, ReflTransGen (fun parent child => (child,parent) ∈ links) start name := by
  fun_induction walk links stack seen with
  | case1 => exact .inl found
  | case2 _ _ _ _ ih =>
    exact (ih found).imp_right fun ⟨start,listed,path⟩ => ⟨start,mem_cons_of_mem _ listed,path⟩
  | case3 seen top rest _ ih =>
    rcases ih found with known | ⟨start,listed,path⟩
    · rcases mem_cons.mp known with rfl | before
      · exact .inr ⟨name,mem_cons_self,.refl⟩
      · exact .inl before
    rcases mem_append.mp listed with kid | waiting
    · refine .inr ⟨top,mem_cons_self,.head ?_ path⟩
      simpa [children] using kid
    · exact .inr ⟨start,mem_cons_of_mem _ waiting,path⟩

/-- What is seen at the end holds what was seen and what waited, and every account under one that it holds, as long as
the children of what was seen were seen or waited. -/
theorem walk_closed {stack seen : List String}
    (waiting : ∀ parent ∈ seen, ∀ child, (child,parent) ∈ links → child ∈ seen ∨ child ∈ stack) :
    (∀ name, name ∈ seen ∨ name ∈ stack → name ∈ walk links stack seen) ∧
      ∀ parent ∈ walk links stack seen, ∀ child, (child,parent) ∈ links → child ∈ walk links stack seen := by
  fun_induction walk links stack seen with
  | case1 => simpa using waiting
  | case2 seen top rest known ih =>
    have covered {name : String} (listed : name ∈ seen ∨ name ∈ top :: rest) : name ∈ seen ∨ name ∈ rest := by
      rcases listed with before | waits
      · exact .inl before
      · rcases mem_cons.mp waits with rfl | later
        · exact .inl known
        · exact .inr later
    obtain ⟨kept,closed⟩ := ih fun parent listed child link => covered (waiting parent listed child link)
    exact ⟨fun name listed => kept name (covered listed),closed⟩
  | case3 seen top rest fresh ih =>
    have covered {name : String} (listed : name ∈ seen ∨ name ∈ top :: rest) :
        name ∈ top :: seen ∨ name ∈ (children links top).reverse ++ rest := by
      simp only [mem_cons,mem_append] at listed ⊢
      tauto
    obtain ⟨kept,closed⟩ := ih fun parent listed child link => by
      rcases mem_cons.mp listed with rfl | before
      · refine .inr (mem_append_left _ ?_)
        simpa [children] using link
      · exact covered (waiting parent before child link)
    exact ⟨fun name listed => kept name (covered listed),closed⟩

theorem mem_walk {account name : String} :
    name ∈ walk links [account] [] ↔ ReflTransGen (fun parent child => (child,parent) ∈ links) account name := by
  constructor
  · intro found
    rcases walk_sound found with known | ⟨start,listed,path⟩
    · cases known
    · rw [mem_singleton.mp listed] at path
      exact path
  · obtain ⟨kept,closed⟩ := @walk_closed links [account] [] nofun
    intro path
    induction path with
    | refl => exact kept account (.inr mem_cons_self)
    | tail _ link ih => exact closed _ ih _ link

/-- `child` names `parent` as its parent; an empty parent is no parent. -/
def Under (parentOf : Table String String) (parent child : String) : Prop :=
  parentOf[child]? = some parent ∧ parent ≠ ""

theorem coordinators_get_accounts_below (direct : List (String × String)) (parentOf : Table String String)
    (user account : String) :
    (user,account) ∈ withSubAccounts direct parentOf ↔
      ∃ start, (user,start) ∈ direct ∧ ReflTransGen (Under parentOf) start account := by
  have same : (fun parent child => (child,parent) ∈ childLinks parentOf) = Under parentOf := by
    funext parent child
    simp [childLinks,Under]
  rw [← same]
  simp only [withSubAccounts,mem_toFinset,mem_flatMap,mem_map,mem_walk]
  constructor
  · rintro ⟨⟨_,start⟩,listed,_,path,equal⟩
    cases equal
    exact ⟨start,listed,path⟩
  · rintro ⟨start,listed,path⟩
    exact ⟨(user,start),listed,account,path,rfl⟩

example : withSubAccounts [("ann","root"),("bob","lab")] (.ofList [("lab","root"),("root","lab"),("x","none")] compare) =
    {("ann","root"),("ann","lab"),("bob","lab"),("bob","root")} := by
  decide +kernel

theorem mem_withSubAccounts {direct : List (String × String)} {parentOf : Table String String} {user account : String} :
    (user,account) ∈ withSubAccounts direct parentOf ↔
      ∃ start, (user,start) ∈ direct ∧ account ∈ walk (childLinks parentOf) [start] [] := by
  simp [withSubAccounts]

/-- Assignments that another set covers give nothing beyond it: expanding twice or from more never takes away. -/
theorem sub_accounts_closed (direct also : List (String × String)) (parentOf : Table String String) :
    withSubAccounts direct parentOf ⊆ withSubAccounts also parentOf ↔
      ∀ assigned ∈ direct, assigned ∈ withSubAccounts also parentOf := by
  constructor
  · rintro inside ⟨user,account⟩ listed
    exact inside (mem_withSubAccounts.mpr ⟨account,listed,mem_walk.mpr .refl⟩)
  · rintro covered ⟨user,account⟩ inside
    obtain ⟨start,listed,below⟩ := mem_withSubAccounts.mp inside
    obtain ⟨first,given,above⟩ := mem_withSubAccounts.mp (covered _ listed)
    refine mem_withSubAccounts.mpr ⟨first,given,mem_walk.mpr ?_⟩
    exact (mem_walk.mp above).trans (mem_walk.mp below)

end Spur.Accounts
