import Spur.Library.Json

/-! Records and tagged unions as JSON objects, built field by field. -/
namespace Spur.Library
open Std List Option

/-- How one field of `ρ` is written; nothing when it is skipped. -/
structure Field (ρ : Type) where
  name : String
  emit : ρ → Option Json

/-- Writes fields of `ρ` and reads an `α` from them. -/
structure Record (ρ α : Type) where
  fields : List (Field ρ)
  read : (String → Option Json) → Option α
  value : ρ → α
  law : ∀ (r : ρ) (look : String → Option Json), (∀ field ∈ fields, look field.name = field.emit r) →
    read look = some (value r)

namespace Record

variable {ρ α β : Type}

instance : Applicative (Record ρ) where
  pure a := ⟨[],fun _ => some a,fun _ => a,fun _ _ _ => rfl⟩
  seq f x :=
    { fields := f.fields ++ (x ()).fields
      read := fun look => (f.read look).bind fun g => ((x ()).read look).map g
      value := fun r => f.value r ((x ()).value r)
      law := by
        intro r look found
        rw [f.law r look fun field member => found field (mem_append_left _ member),bind_some,
          (x ()).law r look fun field member => found field (mem_append_right _ member),map_some] }

/-- What the record reads is what `get` reads from the value that was written. -/
class Reads (x : Record ρ α) (get : outParam (ρ → α)) : Prop where
  same : ∀ r, x.value r = get r

instance (f : α → β) (x : Record ρ α) (get : ρ → α) [Reads x get] : Reads (f <$> x) fun r => f (get r) :=
  ⟨fun r => congrArg f (Reads.same r)⟩

instance (f : Record ρ (α → β)) (x : Record ρ α) (apply : ρ → α → β) (get : ρ → α) [Reads f apply] [Reads x get] :
    Reads (f <*> x) fun r => apply r (get r) :=
  ⟨fun r => congr (Reads.same r) (Reads.same r)⟩

def names (record : Record ρ α) : List String := record.fields.map Field.name

class Named (x : Record ρ α) (listed : outParam (List String)) : Prop where
  same : x.names = listed

instance (f : α → β) (x : Record ρ α) (listed : List String) [Named x listed] : Named (f <$> x) listed :=
  ⟨Named.same (x := x)⟩

instance (f : Record ρ (α → β)) (x : Record ρ α) (first rest : List String) [Named f first] [Named x rest] :
    Named (f <*> x) (first ++ rest) := by
  constructor
  rw [← Named.same (x := f),← Named.same (x := x)]
  exact map_append

theorem distinct_of_named {x : Record ρ α} {listed : List String} [Named x listed] (distinct : listed.Nodup) :
    x.names.Nodup := by
  rw [Named.same (x := x)]
  exact distinct

def entry (name : String) (emit : ρ → Option Json) (read : Option Json → Option α) (value : ρ → α)
    (law : ∀ r, read (emit r) = some (value r)) : Record ρ α where
  fields := [⟨name,emit⟩]
  read := fun look => read (look name)
  value := value
  law := by
    intro r look found
    rw [found ⟨name,emit⟩ (mem_singleton.mpr rfl)]
    exact law r

variable [Coded α]

def required (name : String) (get : ρ → α) : Record ρ α :=
  entry name (fun r => some (Coded.encode (get r))) (fun j => j.bind Coded.decode) (fun r => Coded.readBack (get r))
    fun r => Coded.law (get r)

def defaulted (name : String) (fallback : α) (get : ρ → α) : Record ρ α :=
  entry name (fun r => some (Coded.encode (get r))) (fun j => j.elim (some fallback) Coded.decode)
    (fun r => Coded.readBack (get r)) fun r => Coded.law (get r)

/-- A field left out where `skip` says so, whose absence means `fallback`. -/
def skipped (name : String) (fallback : α) (skip : α → Bool) (get : ρ → α) : Record ρ α :=
  entry name (fun r => if skip (get r) then none else some (Coded.encode (get r)))
    (fun j => j.elim (some fallback) Coded.decode)
    (fun r => if skip (get r) then fallback else Coded.readBack (get r)) fun r => by
      split
      · rfl
      · exact Coded.law (get r)

def nullable (name : String) (get : ρ → Option α) : Record ρ (Option α) := defaulted name none get

/-- A patch of an optional value: left out when there is none, null when it clears. -/
def clearOrSet (name : String) (get : ρ → Option (Option α)) : Record ρ (Option (Option α)) :=
  entry name (fun r => (get r).map Coded.encode) (fun j => j.elim (some none) fun j => (Coded.decode j).map some)
    (fun r => (get r).map Coded.readBack) fun r => by
      cases get r with
      | none => rfl
      | some o => exact congrArg (Option.map some) (Coded.law o)

section

variable (name : String)

instance (get : ρ → α) : Named (required name get) [name] := ⟨rfl⟩

instance (fallback : α) (get : ρ → α) : Named (defaulted name fallback get) [name] := ⟨rfl⟩

instance (fallback : α) (skip : α → Bool) (get : ρ → α) : Named (skipped name fallback skip get) [name] := ⟨rfl⟩

instance (get : ρ → Option α) : Named (nullable name get) [name] := ⟨rfl⟩

instance (get : ρ → Option (Option α)) : Named (clearOrSet name get) [name] := ⟨rfl⟩

end

section

variable [Coded.Exact α] (name : String)

instance (get : ρ → α) : Reads (required name get) get := ⟨fun r => Coded.Exact.same (get r)⟩

instance (fallback : α) (get : ρ → α) : Reads (defaulted name fallback get) get := ⟨fun r => Coded.Exact.same (get r)⟩

theorem reads_skipped {fallback : α} {skip : α → Bool} (sound : ∀ a, skip a = true → a = fallback) (get : ρ → α) :
    Reads (skipped name fallback skip get) get := by
  constructor
  intro r
  change (if skip _ = true then fallback else Coded.readBack _) = get r
  split
  next given => exact (sound _ given).symm
  next => exact Coded.Exact.same _

instance [Coded.NeverNull α] (get : ρ → Option α) : Reads (nullable name get) get :=
  ⟨fun r => Coded.Exact.same (get r)⟩

instance [Coded.NeverNull α] (get : ρ → Option (Option α)) : Reads (clearOrSet name get) get := by
  constructor
  intro r
  change (get r).map Coded.readBack = get r
  cases get r with
  | none => rfl
  | some o => rw [map_some,Coded.Exact.same]

end

variable {r : ρ}

def emits (record : Record ρ α) (r : ρ) : List (String × Json) :=
  record.fields.filterMap fun field => (field.emit r).map (field.name,·)

private theorem lookup_skipped {fields : List (Field ρ)} {r : ρ} {name : String}
    (absent : name ∉ fields.map Field.name) :
    Json.lookup (fields.filterMap fun field => (field.emit r).map (field.name,·)) name = none := by
  unfold Json.lookup
  rw [map_eq_none_iff,List.find?_eq_none]
  intro written member named
  obtain ⟨field,listed,emitted⟩ := mem_filterMap.mp member
  obtain ⟨j,_,rfl⟩ := map_eq_some_iff.mp emitted
  exact absent (List.mem_map.mpr ⟨field,listed,beq_iff_eq.mp named⟩)

theorem lookup_emits {fields : List (Field ρ)} (distinct : (fields.map Field.name).Nodup) {r : ρ} {field : Field ρ}
    (member : field ∈ fields) :
    Json.lookup (fields.filterMap fun field => (field.emit r).map (field.name,·)) field.name = field.emit r := by
  induction fields with
  | nil => cases member
  | cons first fields ih =>
    rw [map_cons,nodup_cons] at distinct
    rw [filterMap_cons]
    rcases mem_cons.mp member with rfl | later
    · cases emitted : field.emit r with
      | none => exact lookup_skipped distinct.1
      | some j => simp [Json.lookup]
    · have different : first.name ≠ field.name := fun same =>
        distinct.1 (List.mem_map.mpr ⟨field,later,same.symm⟩)
      cases first.emit r with
      | none => exact ih distinct.2 later
      | some j =>
        rw [← ih distinct.2 later]
        simp [Json.lookup,different]

@[reducible] def coded (record : Record ρ ρ)
    (distinct : record.names.Nodup := by exact distinct_of_named (by decide +kernel)) : Coded ρ where
  encode r := .obj (record.emits r)
  decode
    | .obj fields => record.read (Json.lookup fields)
    | _ => none
  readBack := record.value
  law := fun r => record.law r _ fun field member => lookup_emits distinct member

end Record

private theorem find_named {β : Type*} {name : β → String} {members : List β} (distinct : (members.map name).Nodup)
    {b : β} (member : b ∈ members) : (members.find? fun other => name other == name b) = some b := by
  induction members with
  | nil => cases member
  | cons first members ih =>
    rw [map_cons,nodup_cons] at distinct
    rcases mem_cons.mp member with rfl | later
    · simp
    · have different : name first ≠ name b := fun same => distinct.1 (List.mem_map.mpr ⟨b,later,same.symm⟩)
      rw [List.find?_cons_of_neg (by simpa using different)]
      exact ih distinct.2 later

@[reducible] def Coded.names {α : Type} (name : α → String) (members : List α)
    (complete : ∀ a, a ∈ members := by intro a; cases a <;> decide)
    (distinct : (members.map name).Nodup := by decide +kernel) : Coded α where
  encode a := .str (name a)
  decode
    | .str s => members.find? fun a => name a == s
    | _ => none
  readBack := id
  law := fun a => find_named distinct (complete a)

/-- One alternative of a tagged union: its payload, if the value is of this alternative. -/
structure Choice (α : Type) where
  tag : String
  write : α → Option Json
  read : Json → Option α
  readBack : α → α
  law : ∀ a j, write a = some j → read j = some (readBack a)

namespace Choice

variable {α : Type}

def of {P : Type} (tag : String) (payload : Coded P) (project : α → Option P) (inject : P → α) : Choice α where
  tag := tag
  write a := (project a).map payload.encode
  read j := (payload.decode j).map inject
  readBack a := (project a).elim a fun p => inject (payload.readBack p)
  law := by
    intro a j written
    obtain ⟨p,given,rfl⟩ := map_eq_some_iff.mp written
    rw [payload.law,given]
    rfl

def record {P : Type} (tag : String) (payload : Record P P) (project : α → Option P) (inject : P → α)
    (distinct : payload.names.Nodup := by exact Record.distinct_of_named (by decide +kernel)) : Choice α :=
  of tag (payload.coded distinct) project inject

theorem tag_record {P : Type} (tag : String) (payload : Record P P) (project : α → Option P) (inject : P → α)
    (distinct : payload.names.Nodup) : (record tag payload project inject distinct).tag = tag := rfl

def pick (choices : List (Choice α)) (a : α) : Option (Choice α × Json) :=
  choices.findSome? fun choice => (choice.write a).map (choice,·)

private theorem pick_mem {choices : List (Choice α)} {a : α} {choice : Choice α} {j : Json}
    (picked : pick choices a = some (choice,j)) : choice ∈ choices ∧ choice.write a = some j := by
  obtain ⟨other,member,written⟩ := List.exists_of_findSome?_eq_some picked
  obtain ⟨k,emitted,pair⟩ := map_eq_some_iff.mp written
  cases pair
  exact ⟨member,emitted⟩

@[reducible] def coded (choices : List (Choice α)) (distinct : (choices.map Choice.tag).Nodup)
    (complete : ∀ a, (pick choices a).isSome = true) : Coded α where
  encode a := .obj ((pick choices a).toList.map fun picked => (picked.1.tag,picked.2))
  decode
    | .obj [(tag,payload)] => (choices.find? fun choice => choice.tag == tag).bind fun choice => choice.read payload
    | _ => none
  readBack a := (pick choices a).elim a fun picked => picked.1.readBack a
  law := fun a => by
    obtain ⟨⟨choice,j⟩,picked⟩ := isSome_iff_exists.mp (complete a)
    obtain ⟨member,written⟩ := pick_mem picked
    rw [picked]
    simp only [toList_some,map_cons,map_nil,find_named distinct member,bind_some]
    exact choice.law a j written

end Choice
end Spur.Library
