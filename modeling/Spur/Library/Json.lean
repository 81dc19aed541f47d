import Spur.Library.Table

/-! JSON trees and codecs into them. A codec says what its decoder makes of its encoder's output. -/
namespace Spur.Library
open Std

inductive Json where
  | null
  | bool (b : Bool)
  | num (n : Int)
  | str (s : String)
  | arr (items : List Json)
  | obj (fields : List (String × Json))

namespace Json

def isNull : Json → Bool
  | null => true
  | _ => false

def lookup (fields : List (String × Json)) (name : String) : Option Json :=
  (fields.find? fun field => field.1 == name).map Prod.snd

end Json

class Coded (α : Type) where
  encode : α → Json
  decode : Json → Option α
  readBack : α → α
  law : ∀ a, decode (encode a) = some (readBack a)

namespace Coded

class Exact (α : Type) [Coded α] : Prop where
  same : ∀ a : α, readBack a = a

class NeverNull (α : Type) [Coded α] : Prop where
  notNull : ∀ a : α, (encode a).isNull = false

section

instance : Coded Bool where
  encode := .bool
  decode
    | .bool b => some b
    | _ => none
  readBack := id
  law := fun _ => rfl

instance : Coded Int where
  encode := .num
  decode
    | .num n => some n
    | _ => none
  readBack := id
  law := fun _ => rfl

instance : Coded Nat where
  encode n := .num n
  decode
    | .num n => if 0 ≤ n then some n.toNat else none
    | _ => none
  readBack := id
  law := fun n => by simp

instance : Coded String where
  encode := .str
  decode
    | .str s => some s
    | _ => none
  readBack := id
  law := fun _ => rfl

instance : Exact Bool := ⟨fun _ => rfl⟩

instance : Exact Int := ⟨fun _ => rfl⟩

instance : Exact Nat := ⟨fun _ => rfl⟩

instance : Exact String := ⟨fun _ => rfl⟩

instance : NeverNull Bool := ⟨fun _ => rfl⟩

instance : NeverNull Int := ⟨fun _ => rfl⟩

instance : NeverNull Nat := ⟨fun _ => rfl⟩

instance : NeverNull String := ⟨fun _ => rfl⟩

end

section

variable {α : Type} [Coded α]

instance : Coded (Option α) where
  encode
    | none => .null
    | some a => encode a
  decode j := if j.isNull then some none else (decode j).map some
  readBack
    | none => none
    | some a => if (encode a).isNull then none else some (readBack a)
  law := by
    intro o
    cases o with
    | none => rfl
    | some a =>
      dsimp only
      split
      · rfl
      · rw [law]; rfl

instance [Exact α] [NeverNull α] : Exact (Option α) where
  same := by
    intro o
    cases o with
    | none => rfl
    | some a =>
      change (if (encode a).isNull = true then none else some (readBack a)) = some a
      rw [NeverNull.notNull,Exact.same]
      rfl

private theorem mapM_encode (items : List α) : (items.map encode).mapM decode = some (items.map readBack) := by
  induction items with
  | nil => rfl
  | cons a items ih => simp [law,ih]

instance : Coded (List α) where
  encode items := .arr (items.map encode)
  decode
    | .arr items => items.mapM decode
    | _ => none
  readBack := List.map readBack
  law := mapM_encode

instance [Exact α] : Exact (List α) where
  same := fun items => (List.map_congr_left fun a _ => Exact.same a).trans (List.map_id items)

instance : NeverNull (List α) := ⟨fun _ => rfl⟩

private def readEntry (entry : String × Json) : Option (String × α) := (decode entry.2).map (entry.1,·)

private theorem mapM_readEntry (entries : List (String × α)) :
    (entries.map fun entry => (entry.1,encode entry.2)).mapM readEntry =
      some (entries.map fun entry => (entry.1,readBack entry.2)) := by
  induction entries with
  | nil => rfl
  | cons entry entries ih => simp [readEntry,law,ih]

instance : Coded (Table String α) where
  encode t := .obj (t.toList.map fun entry => (entry.1,encode entry.2))
  decode
    | .obj fields => (fields.mapM readEntry).map fun entries => ExtTreeMap.ofList entries compare
    | _ => none
  readBack t := t.map fun _ a => readBack a
  law := fun t => by
    dsimp only
    rw [mapM_readEntry,Option.map_some,Table.ofList_map_toList]

instance [Exact α] : Exact (Table String α) where
  same := by
    intro t
    apply Table.ext
    intro name
    change (t.map fun _ a => readBack a)[name]? = t[name]?
    rw [Table.find_map]
    cases t[name]? with
    | none => rfl
    | some a => rw [Option.map_some,Exact.same]

instance : NeverNull (Table String α) := ⟨fun _ => rfl⟩

end

end Coded
end Spur.Library
