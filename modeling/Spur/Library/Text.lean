import Mathlib

/-! Text as lists of characters: trimming, unsigned decimal numbers, and left padding. -/
namespace Spur.Library.Text
open List Option

def isWhitespace (c : Char) : Bool :=
  let n := c.toNat
  (9 ≤ n && n ≤ 13) || n == 0x20 || n == 0x85 || n == 0xA0 || n == 0x1680 ||
    (0x2000 ≤ n && n ≤ 0x200A) || n == 0x2028 || n == 0x2029 || n == 0x202F || n == 0x205F || n == 0x3000

def trimStart (cs : List Char) : List Char := cs.dropWhile isWhitespace

def trimEnd (cs : List Char) : List Char := (cs.reverse.dropWhile isWhitespace).reverse

def trim (cs : List Char) : List Char := trimEnd (trimStart cs)

def cutAt (sep : Char) : List Char → Option (List Char × List Char)
  | [] => none
  | c :: cs => if c = sep then some ([],cs) else (cutAt sep cs).map fun (before,after) => (c :: before,after)

def isDigit (c : Char) : Bool := '0' ≤ c && c ≤ '9'

def isLower (c : Char) : Bool := 'a' ≤ c && c ≤ 'z'

def isUpper (c : Char) : Bool := 'A' ≤ c && c ≤ 'Z'

def toAsciiLower (c : Char) : Char := if isUpper c then Char.ofNat (c.toNat + 32) else c

def toAsciiUpper (c : Char) : Char := if isLower c then Char.ofNat (c.toNat - 32) else c

private def digitsValue (cs : List Char) : Nat := cs.foldl (fun n c => 10 * n + (c.toNat - '0'.toNat)) 0

/-- An unsigned decimal number below `bound`, with an optional leading plus sign. -/
def parseUnsigned (bound : Nat) (cs : List Char) : Option Nat :=
  let digits := match cs with
    | '+' :: rest => rest
    | other => other
  if digits.isEmpty || !digits.all isDigit then none
  else if digitsValue digits < bound then some (digitsValue digits) else none

variable {cs : List Char}

theorem parseUnsigned_lt {bound n : Nat} (read : parseUnsigned bound cs = some n) : n < bound := by
  unfold parseUnsigned at read
  rw [ite_none_left_eq_some] at read
  obtain ⟨small,same⟩ := ite_none_right_eq_some.mp read.2
  exact Option.some.inj same ▸ small

def decimal (n : Nat) : List Char := Nat.toDigits 10 n

def padLeft (fill : Char) (width : Nat) (cs : List Char) : List Char :=
  List.replicate (width - cs.length) fill ++ cs

theorem padLeft_decimal_concat {n d width : Nat} (digit : d < 10) (positive : 0 < n) :
    padLeft '0' (width + 1) (decimal (10 * n + d)) = padLeft '0' width (decimal n) ++ [d.digitChar] := by
  have last : decimal (10 * n + d) = decimal n ++ [d.digitChar] := by
    unfold decimal
    rw [← Nat.toDigits_append_toDigits (by decide) positive digit,Nat.toDigits_of_lt_base digit]
  unfold padLeft
  rw [last,length_append,length_singleton,Nat.add_sub_add_right,append_assoc]

private theorem eq_digitChar {c : Char} (digit : isDigit c) :
    c.toNat - '0'.toNat < 10 ∧ (c.toNat - '0'.toNat).digitChar = c := by
  have range : ∀ n, n < 58 → 48 ≤ n → n - 48 < 10 ∧ (n - 48).digitChar = Char.ofNat n := by decide
  unfold isDigit at digit
  rw [Bool.and_eq_true,decide_eq_true_eq,decide_eq_true_eq] at digit
  have low : 48 ≤ c.toNat := digit.1
  have high : c.toNat ≤ 57 := digit.2
  have found := range _ (by omega) low
  rw [Char.ofNat_toNat] at found
  exact found

private theorem padLeft_digitsValue (digits : cs.all isDigit) (filled : cs ≠ []) :
    padLeft '0' cs.length (decimal (digitsValue cs)) = cs := by
  induction cs using List.reverseRecOn with
  | nil => exact absurd rfl filled
  | append_singleton cs c ih =>
    rw [all_append,Bool.and_eq_true] at digits
    have last : isDigit c := by simpa using digits.2
    obtain ⟨small,same⟩ := eq_digitChar last
    have value : digitsValue (cs ++ [c]) = 10 * digitsValue cs + (c.toNat - '0'.toNat) := by
      unfold digitsValue
      rw [foldl_append]
      rfl
    rw [value,length_append,length_singleton]
    rcases Nat.eq_zero_or_pos (digitsValue cs) with zero | positive
    · -- only zeros before the last digit
      have zeros : cs = List.replicate cs.length '0' := by
        cases cs with
        | nil => rfl
        | cons first rest =>
          have before := ih digits.1 (cons_ne_nil _ _)
          rw [zero] at before
          rw [← before]
          simp [padLeft,decimal,replicate_succ']
      have only : decimal (10 * digitsValue cs + (c.toNat - '0'.toNat)) = [c] := by
        rw [zero,Nat.zero_add]
        unfold decimal
        rw [Nat.toDigits_of_lt_base small,same]
      rw [only]
      unfold padLeft
      rw [length_singleton,Nat.add_sub_cancel,← zeros]
    · have filled : cs ≠ [] := by
        rintro rfl
        exact absurd positive (by decide)
      rw [padLeft_decimal_concat small positive,ih digits.1 filled,same]

private theorem digitsValue_padLeft (width n : Nat) : digitsValue (padLeft '0' width (decimal n)) = n := by
  have zeros (k : Nat) : digitsValue (List.replicate k '0') = 0 := by
    induction k with
    | zero => rfl
    | succ k ih =>
      exact ih
  unfold padLeft digitsValue
  rw [foldl_append]
  change List.foldl _ (digitsValue _) _ = n
  rw [zeros]
  exact Nat.ofDigitChars_toDigits (by decide) (by decide)

theorem all_isDigit_padLeft {width n : Nat} : (padLeft '0' width (decimal n)).all isDigit := by
  rw [List.all_eq_true]
  intro c listed
  rcases mem_append.mp listed with fill | digit
  · rw [eq_of_mem_replicate fill]
    decide
  · exact Nat.isDigit_of_mem_toDigits (by decide) (by decide) digit

theorem padLeft_decimal_ne_nil {width n : Nat} : padLeft '0' width (decimal n) ≠ [] := by
  intro empty
  exact Nat.length_toDigits_pos.ne' (eq_nil_iff_length_eq_zero.mp (append_eq_nil_iff.mp empty).2)

private theorem parseUnsigned_digits {bound : Nat} (digits : cs.all isDigit) (filled : cs ≠ []) :
    parseUnsigned bound cs = if digitsValue cs < bound then some (digitsValue cs) else none := by
  cases cs with
  | nil => exact absurd rfl filled
  | cons c cs =>
    have plain : c ≠ '+' := by
      rintro rfl
      exact absurd digits (by simp [isDigit])
    unfold parseUnsigned
    split
    next rest same => exact absurd (List.cons.inj same).1 plain
    next => rw [if_neg (by simp [digits])]

theorem parseUnsigned_padLeft {bound n width : Nat} (small : n < bound) :
    parseUnsigned bound (padLeft '0' width (decimal n)) = some n := by
  rw [parseUnsigned_digits all_isDigit_padLeft padLeft_decimal_ne_nil,digitsValue_padLeft,if_pos small]

theorem padLeft_of_parseUnsigned {bound n : Nat} (digits : cs.all isDigit)
    (read : parseUnsigned bound cs = some n) : padLeft '0' cs.length (decimal n) = cs := by
  have filled : cs ≠ [] := by
    rintro rfl
    cases read
  rw [parseUnsigned_digits digits filled,ite_none_right_eq_some] at read
  obtain rfl := Option.some.inj read.2
  exact padLeft_digitsValue digits filled

def utf8Length (cs : List Char) : Nat := (cs.map Char.utf8Size).sum

theorem cutAt_append {sep : Char} {before after : List Char} (absent : sep ∉ before) :
    cutAt sep (before ++ sep :: after) = some (before,after) := by
  induction before with
  | nil => exact if_pos rfl
  | cons c cs ih =>
    have other : c ≠ sep := fun same => absent (same ▸ mem_cons_self)
    rw [cons_append]
    unfold cutAt
    rw [if_neg other,ih fun later => absent (mem_cons_of_mem _ later)]
    rfl

theorem cutAt_eq_none {sep : Char} (absent : sep ∉ cs) : cutAt sep cs = none := by
  induction cs with
  | nil => rfl
  | cons c cs ih =>
    rw [mem_cons,not_or] at absent
    unfold cutAt
    rw [if_neg (Ne.symm absent.1),ih absent.2]
    rfl

theorem trim_sublist {cs : List Char} : (trim cs).Sublist cs :=
  ( rdropWhile_prefix _ _).sublist.trans (dropWhile_suffix _).sublist

theorem trim_trim {cs : List Char} : trim (trim cs) = trim cs := by
  have start : trimStart (trim cs) = trim cs := by
    refine dropWhile_eq_self_iff.mpr fun filled => ?_
    have front : trim cs <+: trimStart cs := rdropWhile_prefix _ _
    have nonempty : 0 < (trimStart cs).length := filled.trans_le front.length_le
    have head : (trim cs)[0] = (trimStart cs)[0] := front.getElem filled
    rw [head]
    exact dropWhile_get_zero_not _ cs _
  unfold trim at start ⊢
  rw [start]
  exact rdropWhile_idempotent _ _

theorem head_of_trim {c : Char} (trimmed : trim (c :: cs) = c :: cs) : isWhitespace c = false := by
  by_contra blank
  have shorter : (trimStart (c :: cs)).length ≤ cs.length := by
    unfold trimStart
    rw [dropWhile_cons,if_pos (by simpa using blank)]
    exact (dropWhile_suffix _).length_le
  have length := ( rdropWhile_prefix isWhitespace (trimStart (c :: cs))).length_le
  have whole : (trim (c :: cs)).length = cs.length + 1 := by rw [trimmed,length_cons]
  unfold trim trimEnd at whole
  unfold List.rdropWhile at length
  omega

theorem trim_of_ends {c d : Char} {mid : List Char} (first : isWhitespace c = false) (last : isWhitespace d = false) :
    trim (c :: mid ++ [d]) = c :: mid ++ [d] := by
  have start : trimStart (c :: mid ++ [d]) = c :: mid ++ [d] := by
    unfold trimStart
    rw [cons_append,dropWhile_cons,if_neg (by simp [first])]
  unfold trim trimEnd
  rw [start,reverse_append,reverse_singleton,singleton_append,dropWhile_cons,
    if_neg (by simp [last])]
  simp

theorem isWhitespace_digit {c : Char} (digit : isDigit c = true) : isWhitespace c = false := by
  unfold isDigit at digit
  rw [Bool.and_eq_true,decide_eq_true_eq,decide_eq_true_eq] at digit
  have low : 48 ≤ c.toNat := digit.1
  have high : c.toNat ≤ 57 := digit.2
  unfold isWhitespace
  simp
  omega

theorem utf8Length_digits (digits : cs.all isDigit) : utf8Length cs = cs.length := by
  unfold utf8Length
  induction cs with
  | nil => rfl
  | cons c cs ih =>
    rw [all_cons,Bool.and_eq_true] at digits
    have one : c.utf8Size = 1 := by
      have here := digits.1
      unfold isDigit at here
      rw [Bool.and_eq_true,decide_eq_true_eq,decide_eq_true_eq] at here
      have high : c.val ≤ 57 := here.2
      exact if_pos (UInt32.le_trans high (by decide))
    rw [map_cons,sum_cons,ih digits.2,length_cons]
    omega

theorem separator_of_mem_splitOnP {α : Type} {p : α → Bool} {items piece : List α} (inside : piece ∈ items.splitOnP p) :
    ∀ x ∈ piece, p x = false := by
  induction items generalizing piece with
  | nil =>
    rw [splitOnP_nil,mem_singleton] at inside
    simp [inside]
  | cons item items ih =>
    rw [splitOnP_cons_eq_if_modifyHead] at inside
    split at inside
    · rcases mem_cons.mp inside with rfl | later
      · simp
      · exact ih later
    next plain =>
      cases pieces : items.splitOnP p with
      | nil => exact absurd pieces (splitOnP_ne_nil p items)
      | cons first rest =>
        rw [pieces] at ih inside
        rcases mem_cons.mp inside with rfl | later
        · intro x there
          rcases mem_cons.mp there with rfl | within
          · simpa using plain
          · exact ih mem_cons_self x within
        · exact ih (mem_cons_of_mem first later)

theorem mem_intercalate {α : Type} {separator : α} {pieces : List (List α)} {x : α}
    (inside : x ∈ [separator].intercalate pieces) : x = separator ∨ ∃ piece ∈ pieces, x ∈ piece := by
  induction pieces with
  | nil => cases inside
  | cons first rest ih =>
    cases rest with
    | nil => exact .inr ⟨first,mem_cons_self,by simpa using inside⟩
    | cons second rest =>
      rcases mem_append.mp inside with here | later
      · exact .inr ⟨first,mem_cons_self,here⟩
      · rcases mem_append.mp later with separates | behind
        · exact .inl (mem_singleton.mp separates)
        · exact (ih behind).imp_right fun ⟨piece,listed,within⟩ => ⟨piece,mem_cons_of_mem _ listed,within⟩

end Spur.Library.Text
