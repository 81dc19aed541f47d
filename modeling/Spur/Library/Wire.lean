import Mathlib.Data.List.Basic
import Mathlib.Tactic.Ring

/-! Writers that append to a byte string and readers that take from its front. -/
namespace Spur.Library.Wire
open List

abbrev Bytes := List UInt8

section

variable {ε α β : Type}

/-- The state is what has been written so far. -/
abbrev ByteWriter (ε : Type) := StateT Bytes (Except ε)

/-- The state is what is left to read. -/
abbrev ByteReader (ε : Type) := StateT Bytes (Except ε)

def put (bytes : Bytes) : ByteWriter ε Unit := modify (· ++ bytes)

def take (short : ε) (n : Nat) : ByteReader ε Bytes := fun bytes =>
  if bytes.length < n then .error short else .ok (bytes.take n,bytes.drop n)

def ensure (ok : Bool) (e : ε) : StateT Bytes (Except ε) Unit := if ok then pure () else throw e

def readMany (r : ByteReader ε α) : Nat → ByteReader ε (List α)
  | 0 => pure []
  | n + 1 => do
    let a ← r
    let rest ← readMany r n
    return a :: rest

def bigEndian : Nat → Nat → Bytes
  | 0,_ => []
  | width + 1,n => UInt8.ofNat (n / 256 ^ width) :: bigEndian width n

def ofBigEndian (bytes : Bytes) : Nat := bytes.foldl (fun n byte => n * 256 + byte.toNat) 0

end

section

@[simp] theorem length_bigEndian (width n : Nat) : (bigEndian width n).length = width := by
  induction width with
  | zero => rfl
  | succ width ih => rw [bigEndian,length_cons,ih]

theorem foldl_bigEndian (width n start : Nat) :
    (bigEndian width n).foldl (fun n byte => n * 256 + byte.toNat) start = start * 256 ^ width + n % 256 ^ width := by
  induction width generalizing start with
  | zero => simp [bigEndian,Nat.mod_one]
  | succ width ih =>
    have byte : (UInt8.ofNat _).toNat = n / 256 ^ width % 256 := UInt8.toNat_ofNat'
    rw [bigEndian,foldl_cons,ih,byte,Nat.pow_succ,Nat.mod_mul]
    ring

theorem ofBigEndian_bigEndian {width n : Nat} (fits : n < 256 ^ width) : ofBigEndian (bigEndian width n) = n := by
  unfold ofBigEndian
  rw [foldl_bigEndian,Nat.zero_mul,Nat.zero_add,Nat.mod_eq_of_lt fits]

end

section

variable {ε α β : Type}

def Carries (w : ByteWriter ε Unit) (r : ByteReader ε α) (a : α) : Prop :=
  ∀ before after, w.run before = .ok ((),after) →
    ∃ new, after = before ++ new ∧ ∀ rest, r.run (new ++ rest) = .ok (a,rest)

namespace Carries

variable {w v : ByteWriter ε Unit} {r : ByteReader ε α} {a : α}

theorem run_bind {γ : Type} {x : StateT Bytes (Except ε) γ} {f : γ → StateT Bytes (Except ε) β} {c : γ}
    {before mid : Bytes} (first : x.run before = .ok (c,mid)) : (x >>= f).run before = (f c).run mid := by
  rw [StateT.run_bind,first]
  rfl

theorem bind {f : α → ByteReader ε β} {b : β} (first : Carries w r a) (second : Carries v (f a) b) :
    Carries (w >>= fun _ => v) (r >>= f) b := by
  intro before after wrote
  cases head : w.run before with
  | error e =>
    rw [StateT.run_bind,head] at wrote
    cases wrote
  | ok mid =>
    obtain ⟨⟨⟩,mid⟩ := mid
    rw [run_bind head] at wrote
    obtain ⟨front,rfl,taken⟩ := first before mid head
    obtain ⟨back,rfl,read⟩ := second _ after wrote
    refine ⟨front ++ back,append_assoc _ _ _,fun rest => ?_⟩
    rw [append_assoc,run_bind (taken _),read]

theorem pure : Carries (Pure.pure ()) (Pure.pure a : ByteReader ε α) a := by
  rintro before after ⟨⟩
  exact ⟨[],(append_nil _).symm,fun rest => rfl⟩

theorem last {f : α → β} (carries : Carries w r a) : Carries w (r >>= fun a => Pure.pure (f a)) (f a) := by
  intro before after wrote
  obtain ⟨new,rfl,read⟩ := carries before after wrote
  refine ⟨new,rfl,fun rest => ?_⟩
  rw [run_bind (read rest)]
  rfl

theorem ensure {f : Unit → ByteReader ε β} {b : β} {ok : Bool} {e : ε} (holds : ok = true) (carries : Carries w (f ()) b) :
    Carries w (Wire.ensure ok e >>= f) b := by
  intro before after wrote
  obtain ⟨new,rfl,read⟩ := carries before after wrote
  refine ⟨new,rfl,fun rest => ?_⟩
  subst holds
  exact read rest

theorem checked {ok : Bool} {e : ε} (carries : ok = true → Carries w r a) :
    Carries (Wire.ensure ok e >>= fun _ => w) r a := by
  intro before after wrote
  cases ok with
  | false => cases wrote
  | true => exact carries rfl before after wrote

theorem put {bytes : Bytes} (read : ∀ rest, r.run (bytes ++ rest) = .ok (a,rest)) : Carries (Wire.put bytes) r a := by
  rintro before after ⟨⟩
  exact ⟨bytes,rfl,read⟩

theorem forM {w : α → ByteWriter ε Unit} {as : List α} (each : ∀ a ∈ as, Carries (w a) r a) :
    Carries (as.forM w) (readMany r as.length) as := by
  induction as with
  | nil => exact pure
  | cons a as ih =>
    exact bind (each a mem_cons_self) (last (ih fun other listed => each other (mem_cons_of_mem a listed)))

theorem read_all {bytes : Bytes} (carries : Carries w r a) (wrote : w.run [] = .ok ((),bytes)) :
    r.run bytes = .ok (a,[]) := by
  obtain ⟨new,rfl,read⟩ := carries [] bytes wrote
  have whole := read []
  rw [append_nil] at whole
  exact whole

end Carries

theorem take_append {short : ε} {bytes rest : Bytes} :
    (take short bytes.length).run (bytes ++ rest) = .ok (bytes,rest) := by
  have enough : ¬(bytes ++ rest).length < bytes.length := by
    rw [length_append]
    omega
  change (if (bytes ++ rest).length < bytes.length then _ else _) = _
  rw [if_neg enough,take_left',drop_left'] <;> rfl

end

end Spur.Library.Wire
