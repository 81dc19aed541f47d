import Spur.Auth.Delivery

/-! What a command digest says about the command, from `native_exec`. SHA-256 is a parameter. -/
namespace Spur.Auth.Signing
open Spur.Library.Wire

structure Command where
  script : String
  argv : List String
  image : String
  deriving DecidableEq

namespace Command

def digestInput (command : Command) : Bytes :=
  textBytes command.script ++ 0 :: command.argv.flatMap (fun arg => textBytes arg ++ [0]) ++ textBytes command.image

def commandDigest (sha256 : Bytes → Vector UInt8 32) (command : Command) : Vector UInt8 32 :=
  sha256 command.digestInput

def pieces (command : Command) : List (List Char) :=
  command.script.toList :: command.argv.map String.toList ++ [command.image.toList]

def NulFree (command : Command) : Prop := ∀ piece ∈ command.pieces, '\x00' ∉ piece

instance (command : Command) : Decidable command.NulFree := inferInstanceAs (Decidable (∀ piece ∈ _, _))

variable {command other : Command}

theorem pieces_injective (same : command.pieces = other.pieces) : command = other := by
  obtain ⟨script,argv,image⟩ := command
  obtain ⟨first,rest⟩ := List.cons.inj same
  obtain ⟨middle,last⟩ := List.append_inj' rest rfl
  cases String.toList_injective first
  cases List.map_injective_iff.mpr (fun _ _ => String.toList_injective) middle
  cases String.toList_injective (List.singleton_inj.mp last)
  rfl

theorem exists_pieces {all : List (List Char)} (two : 2 ≤ all.length) : ∃ command : Command, command.pieces = all := by
  obtain ⟨first,rest,rfl⟩ := List.exists_cons_of_length_pos (Nat.zero_lt_of_lt two)
  have more : rest ≠ [] := List.ne_nil_of_length_pos (Nat.le_of_succ_le_succ two)
  have back : String.toList ∘ String.ofList = id := funext fun _ => String.toList_ofList
  refine ⟨⟨.ofList first,rest.dropLast.map .ofList,.ofList (rest.getLast more)⟩,?_⟩
  simp [pieces,List.dropLast_concat_getLast]

private theorem textBytes_append (s t : String) : textBytes (s ++ t) = textBytes s ++ textBytes t := by
  simp [textBytes,String.toUTF8]

private theorem textBytes_piece {piece : String} {rest : List (List Char)} (more : rest ≠ []) :
    textBytes (.ofList (['\x00'].intercalate (piece.toList :: rest))) =
      textBytes piece ++ 0 :: textBytes (.ofList (['\x00'].intercalate rest)) := by
  have separator : textBytes (.ofList ['\x00']) = [0] := by decide
  rw [List.intercalate_cons_of_ne_nil more,String.ofList_append,String.ofList_append,textBytes_append,
    textBytes_append,String.ofList_toList,separator,List.append_assoc,List.singleton_append]

theorem digestInput_eq (command : Command) :
    command.digestInput = textBytes (.ofList (['\x00'].intercalate command.pieces)) := by
  obtain ⟨script,argv,image⟩ := command
  unfold digestInput pieces
  rw [List.cons_append,textBytes_piece (by simp)]
  rw [List.append_assoc]
  refine congrArg (textBytes script ++ 0 :: ·) ?_
  induction argv with
  | nil => simp
  | cons arg argv ih =>
    rw [List.map_cons,List.cons_append,textBytes_piece (by simp),← ih]
    simp

theorem digestInput_inj (same : command.digestInput = other.digestInput) :
    ['\x00'].intercalate command.pieces = ['\x00'].intercalate other.pieces := by
  rw [digestInput_eq,digestInput_eq] at same
  have texts := String.toByteArray_inj.mp (ByteArray.ext (Array.toList_inj.mp same))
  exact String.ofList_injective texts

theorem NulFree.splitOn (free : command.NulFree) :
    (['\x00'].intercalate command.pieces).splitOn '\x00' = command.pieces :=
  List.splitOn_intercalate _ free (by simp [pieces])

theorem eq_of_digestInput (free : command.NulFree) (otherFree : other.NulFree)
    (same : command.digestInput = other.digestInput) : command = other := by
  refine pieces_injective ?_
  rw [← free.splitOn,← otherFree.splitOn,digestInput_inj same]

/-- The pieces between the zero bytes make a command too, one without a zero in its pieces. -/
theorem exists_nulFree (command : Command) :
    ∃ other : Command, other.NulFree ∧ other.digestInput = command.digestInput := by
  have two : 2 ≤ ((['\x00'].intercalate command.pieces).splitOn '\x00').length := by
    unfold pieces List.splitOn
    rw [List.cons_append,List.intercalate_cons_of_ne_nil (by simp),List.append_assoc,List.singleton_append,
      List.splitOnP_append_cons _ _ (by decide),List.length_append]
    exact Nat.add_le_add (List.length_pos_of_ne_nil (List.splitOnP_ne_nil _ _))
      (List.length_pos_of_ne_nil (List.splitOnP_ne_nil _ _))
  obtain ⟨other,found⟩ := exists_pieces two
  refine ⟨other,?_,?_⟩
  · intro piece listed zero
    rw [found] at listed
    exact absurd (Spur.Library.Text.separator_of_mem_splitOnP listed _ zero) (by decide)
  · rw [digestInput_eq,digestInput_eq,found,List.intercalate_splitOn]

end Command

def echo : Command := ⟨"",["echo","hi"],"img"⟩

def marking (input : Bytes) : Vector UInt8 32 := .replicate 32 (if input = echo.digestInput then 1 else 0)

def echoCredential : ExecutionCredential := { Delivery.testCredential 0 with commandDigest := .replicate 32 1 }

end Spur.Auth.Signing
