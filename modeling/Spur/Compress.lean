import Spur.Hostlist
import Spur.Library.Fallible

/-! `hostlist::compress`. The formatter panics on a width above 16 bits; a missing pattern is that panic. -/
namespace Spur.Hostlist
open Spur.Library Spur.Library.Text List Option Fallible

def maxFormatWidth : Nat := 2 ^ 16 - 1

def splitNameNumber (name : List Char) : Option (List Char × Nat × Nat) :=
  let stem := name.rdropWhile isDigit
  let numStr := name.rtakeWhile isDigit
  if stem.isEmpty || numStr.isEmpty then none
  else (parseUnsigned (2 ^ 64) numStr).map fun num => (stem,num,numStr.length)

def digitCount (n : Nat) : Nat := Nat.log 10 n + 1

def zeroPadded (num width : Nat) : Nat := width - digitCount num

def widthEquiv (n wn m wm : Nat) : Option Nat :=
  if wn = wm then some wn
  else if zeroPadded n wn ≠ zeroPadded n wm ∧ zeroPadded m wm ≠ zeroPadded m wn then none
  else if zeroPadded n wn ≠ zeroPadded n wm then some wn
  else some wm

structure Range where
  lo : Nat
  hi : Nat
  width : Nat
  deriving DecidableEq

/-- `last` is the range still open. -/
def coalesceInto (last : Range) : List (Nat × Nat) → List Range
  | [] => [last]
  | (num,width) :: rest =>
    if num = last.hi ∧ width = last.width then coalesceInto last rest
    else match if last.hi + 1 < 2 ^ 64 ∧ last.hi + 1 = num then widthEquiv last.lo last.width num width else none with
      | some combined => coalesceInto ⟨last.lo,num,combined⟩ rest
      | none => last :: coalesceInto ⟨num,num,width⟩ rest

def coalesceRanges : List (Nat × Nat) → List Range
  | [] => []
  | (num,width) :: rest => coalesceInto ⟨num,num,width⟩ rest

def field (num width : Nat) : List Char := padLeft '0' width (decimal num)

def formatRange (range : Range) : Option (List Char) :=
  if range.width > maxFormatWidth then none
  else if range.lo = range.hi then some (field range.lo range.width)
  else some (field range.lo range.width ++ '-' :: field range.hi range.width)

def renderPrefix (stem : List Char) : List Range → Option (List Char)
  | [] => none
  | first :: more => do
    let body := [','].intercalate (← (first :: more).mapM formatRange)
    if !more.isEmpty || first.lo ≠ first.hi then some (stem ++ '[' :: body ++ [']']) else some (stem ++ body)

def trimLeadingZeros (digits : List Char) : List Char :=
  digits.drop (digits.dropLast.takeWhile (· = '0')).length

/-- Runs of digits by value, then by length; everything else by character. `fuel` is at least the length of `a`. -/
def naturalCmp : Nat → List Char → List Char → Ordering
  | _, [], b => compare 0 b.length
  | _, a, [] => compare a.length 0
  | 0, _, _ => .eq
  | fuel + 1, c :: cs, d :: ds =>
    if isDigit c && isDigit d then
      let aRun := (c :: cs).takeWhile isDigit
      let bRun := (d :: ds).takeWhile isDigit
      let aNum := trimLeadingZeros aRun
      let bNum := trimLeadingZeros bRun
      match (((compare aNum.length bNum.length).then (compare (String.ofList aNum) (String.ofList bNum))).then
          (compare aRun.length bRun.length)) with
      | .eq => naturalCmp fuel ((c :: cs).dropWhile isDigit) ((d :: ds).dropWhile isDigit)
      | ord => ord
    else match compare c d with
      | .eq => naturalCmp fuel cs ds
      | ord => ord

structure Term where
  stem : List Char
  bare : Bool
  minNum : Nat
  rendered : List Char

def Term.cmp (a b : Term) : Ordering :=
  (((naturalCmp a.stem.length a.stem b.stem).then (compare b.bare a.bare)).then (compare a.minNum b.minNum)).then
    (compare (String.ofList a.rendered) (String.ofList b.rendered))

/-- The numbers of each stem, and the names without one, in the order in which they come. -/
structure Groups where
  numeric : List (List Char × List (Nat × Nat))
  bare : List (List Char)

def addNumber (stem : List Char) (entry : Nat × Nat) :
    List (List Char × List (Nat × Nat)) → List (List Char × List (Nat × Nat))
  | [] => [(stem,[entry])]
  | (p,nums) :: rest => if p = stem then (p,nums ++ [entry]) :: rest else (p,nums) :: addNumber stem entry rest

def Groups.add (groups : Groups) (host : List Char) : Groups :=
  match splitNameNumber host with
  | some (stem,num,width) => { groups with numeric := addNumber stem (num,width) groups.numeric }
  | none => { groups with bare := groups.bare ++ [host] }

def EntryLe (a b : Nat × Nat) : Prop := a.1 < b.1 ∨ a.1 = b.1 ∧ a.2 ≤ b.2

instance : DecidableRel EntryLe := fun _ _ => inferInstanceAs (Decidable (_ ∨ _))

def numericTerm (group : List Char × List (Nat × Nat)) : Option Term := do
  let ranges := coalesceRanges (group.2.insertionSort EntryLe)
  some ⟨group.1,false,(ranges.head?.map Range.lo).getD 0,← renderPrefix group.1 ranges⟩

def bareTerm (name : List Char) : Term := ⟨name,true,0,name⟩

def unique (hosts : List String) : List String := hosts.reverse.dedup.reverse

def compress (hosts : List String) : Option String := do
  let groups := ((unique hosts).map String.toList).foldl Groups.add ⟨[],[]⟩
  let numeric ← groups.numeric.mapM numericTerm
  let terms := (groups.bare.map bareTerm ++ numeric).insertionSort fun a b => (a.cmp b).isLE
  some (String.ofList ([','].intercalate (terms.map Term.rendered)))

example : compress ["node9","rack2","node010","node","node011","rack10","node9"] =
    some "node,node[9,010-011],rack[2,10]" := by decide +kernel

def Fits (entry : Nat × Nat) : Prop := entry.1 < 2 ^ 64 ∧ (decimal entry.1).length ≤ entry.2

theorem digitCount_eq (n : Nat) : digitCount n = (decimal n).length := by
  unfold digitCount decimal
  rcases Nat.eq_zero_or_pos n with rfl | positive
  · decide
  have upper := Nat.length_toDigits_le_iff (b := 10) (n := n) (by decide) (Nat.succ_pos (Nat.log 10 n))
  have most := upper.mpr (Nat.lt_pow_succ_log_self (by decide) n)
  have least : Nat.log 10 n < (Nat.toDigits 10 n).length :=
    Nat.log_lt_of_lt_pow positive.ne' ((Nat.length_toDigits_le_iff (by decide) Nat.length_toDigits_pos).mp le_rfl)
  omega

theorem length_decimal_mono {n m : Nat} (le : n ≤ m) : (decimal n).length ≤ (decimal m).length := by
  rw [← digitCount_eq,← digitCount_eq]
  exact Nat.succ_le_succ (Nat.log_mono_right le)

theorem length_field (num : Nat) {width : Nat} : (field num width).length = max width (decimal num).length := by
  unfold field padLeft
  rw [length_append,length_replicate]
  omega

variable {num width : Nat}

theorem utf8Length_field (fits : (decimal num).length ≤ width) : utf8Length (field num width) = width := calc
  utf8Length _ = (field num width).length := utf8Length_digits all_isDigit_padLeft
  _ = max width _ := length_field num
  _ = width := max_eq_left fits

variable {entry : Nat × Nat} {entries : List (Nat × Nat)} {groups : Groups}

theorem length_field_of_fits (fits : Fits entry) : (field entry.1 entry.2).length = entry.2 := by
  rw [length_field]
  exact max_eq_left fits.2

theorem splitNameNumber_eq_some {name stem : List Char} (split : splitNameNumber name = some (stem,num,width)) :
    stem ++ field num width = name ∧ stem ≠ [] ∧ Fits (num,width) := by
  unfold splitNameNumber at split
  rw [ite_none_left_eq_some] at split
  obtain ⟨filled,split⟩ := split
  obtain ⟨read,parsed,same⟩ := map_eq_some_iff.mp split
  cases same
  have digits : (name.rtakeWhile isDigit).all isDigit := by
    rw [List.all_eq_true]
    exact fun c listed => mem_rtakeWhile_imp listed
  have text : field num _ = name.rtakeWhile isDigit :=
    padLeft_of_parseUnsigned digits parsed
  refine ⟨?_,?_,parseUnsigned_lt parsed,?_⟩
  · rw [text,rdropWhile_append_rtakeWhile]
  · intro empty
    simp [empty] at filled
  · have length := congrArg List.length text
    rw [length_field] at length
    exact le_of_max_le_right length.le

theorem widthEquiv_eq_some {n wn m wm combined : Nat} (first : (decimal n).length ≤ wn)
    (second : (decimal m).length ≤ wm) (le : n ≤ m) (common : widthEquiv n wn m wm = some combined) :
    combined = wn ∧ field m wn = field m wm := by
  have digits := length_decimal_mono le
  unfold widthEquiv zeroPadded at common
  rw [digitCount_eq,digitCount_eq] at common
  split at common
  next same =>
    cases common
    exact ⟨rfl,by rw [same]⟩
  next differ =>
    rw [ite_none_left_eq_some] at common
    obtain ⟨some_,common⟩ := common
    split at common
    next padded =>
      cases common
      have equal : wn - (decimal m).length = wm - (decimal m).length := by
        by_contra other
        exact some_ ⟨padded,Ne.symm other⟩
      refine ⟨rfl,?_⟩
      unfold field padLeft
      rw [equal]
    next unpadded => omega

namespace Range

def fields (range : Range) : List (List Char) :=
  (List.range' range.lo (range.hi - range.lo + 1)).map fun i => field i range.width

def Valid (range : Range) : Prop :=
  range.lo ≤ range.hi ∧ range.hi < 2 ^ 64 ∧ (decimal range.lo).length ≤ range.width

theorem fields_single (num width : Nat) : (Range.mk num num width).fields = [field num width] := by
  simp [fields]

theorem fields_extend {range : Range} (valid : range.Valid) :
    (Range.mk range.lo (range.hi + 1) range.width).fields = range.fields ++ [field (range.hi + 1) range.width] := by
  obtain ⟨le,-,-⟩ := valid
  have length : range.hi + 1 - range.lo + 1 = (range.hi - range.lo + 1) + 1 := by omega
  have last : range.lo + (range.hi - range.lo + 1) = range.hi + 1 := by omega
  unfold fields
  rw [length,range'_1_concat,map_append,last]
  rfl

end Range

def EntryLt (a b : Nat × Nat) : Prop := a.1 < b.1 ∨ a.1 = b.1 ∧ a.2 < b.2

/-- The range still open and what follows it come out as they went in. `own` is the width at which the last number of
the range came in. -/
theorem coalesceInto_spec {last : Range} {own : Nat} {rest : List (Nat × Nat)} (valid : last.Valid)
    (fits : Fits (last.hi,own)) (printed : field last.hi last.width = field last.hi own)
    (later : ∀ entry ∈ rest, Fits entry) (sorted : ((last.hi,own) :: rest).Pairwise EntryLt) :
    (coalesceInto last rest).flatMap Range.fields = last.fields ++ rest.map (fun entry => field entry.1 entry.2) ∧
      ∀ range ∈ coalesceInto last rest, range.Valid := by
  induction rest generalizing last own with
  | nil =>
    refine ⟨by simp [coalesceInto],fun range listed => ?_⟩
    rw [mem_singleton.mp listed]
    exact valid
  | cons entry rest ih =>
    obtain ⟨num,width⟩ := entry
    have fitsHere := later _ mem_cons_self
    have laterRest (entry) (listed : entry ∈ rest) := later entry (mem_cons_of_mem _ listed)
    obtain ⟨after,sortedRest⟩ := pairwise_cons.mp sorted
    have apart : ¬(num = last.hi ∧ width = last.width) := by
      -- an equal number of this width would be the one the range ends with
      rintro ⟨rfl,rfl⟩
      have same := congrArg List.length printed
      rw [length_field_of_fits fitsHere,length_field_of_fits fits] at same
      rcases after _ mem_cons_self with less | ⟨-,less⟩
      · exact absurd less (lt_irrefl _)
      · exact absurd same less.ne'
    unfold coalesceInto
    rw [if_neg apart]
    split
    next combined joined =>
      rw [ite_none_right_eq_some] at joined
      obtain ⟨⟨-,rfl⟩,common⟩ := joined
      obtain ⟨rfl,text⟩ := widthEquiv_eq_some valid.2.2 fitsHere.2 (by have := valid.1; omega) common
      have grown : (Range.mk last.lo _ _).Valid :=
        ⟨by have := valid.1; dsimp only; omega,fitsHere.1,valid.2.2⟩
      obtain ⟨out,all⟩ := ih grown fitsHere text laterRest sortedRest
      refine ⟨?_,all⟩
      rw [out,Range.fields_extend valid,append_assoc,text]
      rfl
    next =>
      have fresh : (Range.mk num num width).Valid := ⟨le_rfl,fitsHere.1,fitsHere.2⟩
      obtain ⟨out,all⟩ := ih fresh fitsHere rfl laterRest sortedRest
      constructor
      · rw [flatMap_cons,out,Range.fields_single]
        rfl
      intro range listed
      rcases mem_cons.mp listed with rfl | within
      · exact valid
      · exact all range within

theorem coalesceRanges_spec (fits : ∀ entry ∈ entries, Fits entry) (sorted : entries.Pairwise EntryLt) :
    (coalesceRanges entries).flatMap Range.fields = entries.map (fun entry => field entry.1 entry.2) ∧
      ∀ range ∈ coalesceRanges entries, range.Valid := by
  cases entries with
  | nil => exact ⟨rfl,fun _ listed => nomatch listed⟩
  | cons entry rest =>
    have here := fits entry mem_cons_self
    have valid : (Range.mk _ _ _).Valid := ⟨le_rfl,here.1,here.2⟩
    have out := coalesceInto_spec valid here rfl (fun entry listed => fits entry (mem_cons_of_mem _ listed)) sorted
    rw [Range.fields_single] at out
    exact out

instance : Std.Total EntryLe where
  total a b := by
    unfold EntryLe
    omega

instance : IsTrans (Nat × Nat) EntryLe where
  trans a b c := by
    unfold EntryLe
    omega

theorem sorted_entries (distinct : entries.Nodup) : (entries.insertionSort EntryLe).Pairwise EntryLt := by
  have sorted := pairwise_insertionSort EntryLe entries
  have different := (perm_insertionSort EntryLe entries).nodup_iff.mpr distinct
  refine List.Pairwise.imp₂ (fun a b le ne => ?_) sorted different
  rcases le with less | ⟨same,le⟩
  · exact .inl less
  · refine .inr ⟨same,lt_of_le_of_ne le fun width => ne (Prod.ext same width)⟩

/-- A host name: not empty, without commas and brackets, without white space at its ends, and of a length that a
machine word holds. -/
structure HostName (name : List Char) : Prop where
  filled : name ≠ []
  plain : ∀ c ∈ name, c ≠ ',' ∧ c ≠ '[' ∧ c ≠ ']'
  trimmed : trim name = name
  bytes : utf8Length name ≤ 2 ^ 64 - 1

instance (name : List Char) : Decidable (HostName name) :=
  haveI : Decidable (∀ c ∈ name, c ≠ ',' ∧ c ≠ '[' ∧ c ≠ ']') := List.decidableBAll _ _
  decidable_of_iff (name ≠ [] ∧ (∀ c ∈ name, c ≠ ',' ∧ c ≠ '[' ∧ c ≠ ']') ∧ trim name = name ∧
      utf8Length name ≤ 2 ^ 64 - 1)
    ⟨fun ⟨filled,plain,trimmed,bytes⟩ => ⟨filled,plain,trimmed,bytes⟩,
      fun host => ⟨host.filled,host.plain,host.trimmed,host.bytes⟩⟩

theorem HostName.reads {name : List Char} (host : HostName name) : Reads name [String.ofList name] where
  closed := closed_of_plain host.plain
  trimmed := host.trimmed
  expands _ room := expandSingle_plain (Nat.zero_le _) (fun listed => (host.plain _ listed).2.1 rfl) host.bytes room

theorem isDigit_of_mem_field {c : Char} (listed : c ∈ field num width) : isDigit c = true :=
  List.all_eq_true.mp all_isDigit_padLeft c listed

theorem notMem_field {c : Char} (other : isDigit c = false) : c ∉ field num width := by
  intro listed
  rw [isDigit_of_mem_field listed] at other
  cases other

theorem formatRange_eq_some {range : Range} {text : List Char} (valid : range.Valid)
    (formatted : formatRange range = some text) :
    range.width ≤ maxFormatWidth ∧ partFields text = .ok range.fields ∧
      ∀ c, isDigit c = false → c ≠ '-' → c ∉ text := by
  unfold formatRange at formatted
  rw [ite_none_left_eq_some] at formatted
  obtain ⟨narrow,formatted⟩ := formatted
  refine ⟨Nat.not_lt.mp narrow,?_⟩
  obtain ⟨lo,hi,width⟩ := range
  dsimp only at formatted
  obtain ⟨le,small,fits⟩ := valid
  split at formatted
  next same =>
    subst same
    cases formatted
    refine ⟨?_,fun c other _ => notMem_field other⟩
    unfold partFields parseRangeBounds
    rw [cutAt_eq_none (notMem_field rfl),Range.fields_single]
    rfl
  next differ =>
    cases formatted
    constructor
    · have start : parseUnsigned _ (field lo width) = some lo := parseUnsigned_padLeft (le.trans_lt small)
      have finish : parseUnsigned _ (field hi width) = some hi := parseUnsigned_padLeft small
      unfold partFields parseRangeBounds
      rw [cutAt_append (notMem_field rfl)]
      dsimp only
      rw [start,finish]
      dsimp only
      rw [if_neg (Nat.not_lt.mpr le),utf8Length_field fits]
      rfl
    · intro c other dash listed
      rcases mem_append.mp listed with first | second
      · exact notMem_field other first
      · rcases mem_cons.mp second with here | last
        · exact dash here
        · exact notMem_field other last

theorem Range.fields_ne_nil (range : Range) : range.fields ≠ [] := by
  exact cons_ne_nil _ _

theorem bracket_reads {stem : List Char} {ranges : List Range} {parts : List (List Char)}
    (valid : ∀ range ∈ ranges, range.Valid) (filled : stem ≠ []) (some_ : ranges ≠ [])
    (hosts : ∀ text ∈ ranges.flatMap Range.fields, HostName (stem ++ text))
    (formatted : ranges.mapM formatRange = some parts) :
    Reads (stem ++ '[' :: [','].intercalate parts ++ [']'])
      ((ranges.flatMap Range.fields).map fun text => String.ofList (stem ++ text)) := by
  have each := mapM_eq_some_iff.mp formatted
  have parts_ (part) (listed : part ∈ parts) (c : Char) (other : isDigit c = false) (dash : c ≠ '-') : c ∉ part := by
    obtain ⟨range,inside,printed⟩ := exists_of_mem_mapM formatted listed
    exact (formatRange_eq_some (valid range inside) printed).2.2 c other dash
  have read : List.Forall₂ (fun part out => partFields part = .ok out) parts (ranges.map Range.fields) := by
    rw [forall₂_map_right_iff]
    refine (((forall₂_and_left _ _).mpr ⟨valid,each⟩).imp fun range part both => ?_).flip
    exact (formatRange_eq_some both.1 both.2).2.1
  have nonempty : parts ≠ [] := by
    rintro rfl
    cases each
    exact some_ rfl
  obtain ⟨text,here⟩ : ∃ text, text ∈ ranges.flatMap _ := by
    obtain ⟨first,more,rfl⟩ := exists_cons_of_ne_nil some_
    obtain ⟨text,inside⟩ := exists_mem_of_ne_nil _ first.fields_ne_nil
    exact ⟨text,mem_flatMap.mpr ⟨first,mem_cons_self,inside⟩⟩
  have host := hosts text here
  have plain (c : Char) (listed : c ∈ stem) := host.plain c (mem_append_left _ listed)
  refine ⟨closed_bracket plain ?_,?_,fun acc room => ?_⟩
  · intro c listed
    rcases mem_intercalate listed with rfl | ⟨part,inside,within⟩
    · decide
    · constructor <;> (rintro rfl; exact parts_ part inside _ rfl (by decide) within)
  · obtain ⟨c,rest,rfl⟩ := exists_cons_of_ne_nil filled
    exact trim_of_ends (head_of_trim host.trimmed) rfl
  · rw [length_map] at room
    exact expandSingle_bracket (Nat.zero_le _) (by decide) nonempty (fun c listed => (plain c listed).2)
      (fun part listed => ⟨parts_ part listed _ rfl (by decide),parts_ part listed _ rfl (by decide)⟩) read
      (fun text listed => (hosts text listed).bytes) room

theorem renderPrefix_reads {stem rendered : List Char} {ranges : List Range} (valid : ∀ range ∈ ranges, range.Valid)
    (filled : stem ≠ []) (hosts : ∀ text ∈ ranges.flatMap Range.fields, HostName (stem ++ text))
    (done : renderPrefix stem ranges = some rendered) :
    Reads rendered ((ranges.flatMap Range.fields).map fun text => String.ofList (stem ++ text)) := by
  cases ranges with
  | nil => cases done
  | cons first more =>
    obtain ⟨parts,formatted,done⟩ := bind_eq_some_iff.mp done
    split at done
    next bracket =>
      cases done
      exact bracket_reads valid filled (cons_ne_nil _ _) hosts formatted
    next single =>
      cases done
      simp only [Bool.or_eq_true,Bool.not_eq_true',isEmpty_eq_false_iff,decide_eq_true_eq,not_or,not_not] at single
      obtain ⟨rfl,same⟩ := single
      obtain ⟨lo,hi,width⟩ := first
      obtain rfl : lo = hi := same
      rw [flatMap_singleton,Range.fields_single] at hosts ⊢
      obtain ⟨part,printed,rfl⟩ : ∃ part, formatRange ⟨lo,lo,width⟩ = some part ∧ parts = [part] := by
        cases mapM_eq_some_iff.mp formatted with
        | cons printed none_ =>
          cases none_
          exact ⟨_,printed,rfl⟩
      unfold formatRange at printed
      rw [ite_none_left_eq_some,if_pos rfl] at printed
      obtain rfl := Option.some.inj printed.2
      rw [intercalate_singleton]
      exact (hosts _ mem_cons_self).reads

theorem formatRange_isSome_iff (range : Range) : (∃ text, formatRange range = some text) ↔ range.width ≤ maxFormatWidth := by
  unfold formatRange
  split
  next wide => exact ⟨fun printed => (nomatch printed.choose_spec),fun narrow => absurd wide (Nat.not_lt.mpr narrow)⟩
  next narrow =>
    refine ⟨fun _ => Nat.not_lt.mp narrow,fun _ => ?_⟩
    split <;> exact ⟨_,rfl⟩

theorem renderPrefix_isSome_iff {stem : List Char} {ranges : List Range} (some_ : ranges ≠ []) :
    (∃ rendered, renderPrefix stem ranges = some rendered) ↔ ∀ range ∈ ranges, range.width ≤ maxFormatWidth := by
  simp only [← formatRange_isSome_iff]
  rw [← mapM_isSome_iff]
  obtain ⟨first,more,rfl⟩ := exists_cons_of_ne_nil some_
  unfold renderPrefix
  constructor
  · rintro ⟨rendered,done⟩
    obtain ⟨parts,formatted,-⟩ := bind_eq_some_iff.mp done
    exact ⟨parts,formatted⟩
  · rintro ⟨parts,formatted⟩
    simp only [formatted,bind_eq_bind]
    split <;> exact ⟨_,rfl⟩

theorem widths_coalesceRanges (fits : ∀ entry ∈ entries, Fits entry) (sorted : entries.Pairwise EntryLt) :
    (∀ range ∈ coalesceRanges entries, range.width ≤ maxFormatWidth) ↔ ∀ entry ∈ entries, entry.2 ≤ maxFormatWidth := by
  obtain ⟨out,valid⟩ := coalesceRanges_spec fits sorted
  constructor
  · intro narrow entry listed
    have printed : field entry.1 entry.2 ∈ (coalesceRanges entries).flatMap Range.fields := by
      rw [out]
      exact List.mem_map_of_mem listed
    obtain ⟨range,inside,within⟩ := mem_flatMap.mp printed
    obtain ⟨i,between,same⟩ := List.mem_map.mp within
    have length := congrArg List.length same
    rw [length_field,length_field_of_fits (fits entry listed)] at length
    -- a number below `2 ^ 64` has at most twenty digits
    have below : i < 10 ^ 20 := by
      have bounds := mem_range'_1.mp between
      have small := valid range inside
      obtain ⟨le,top,-⟩ := small
      omega
    have digits : (decimal i).length ≤ 20 := (Nat.length_toDigits_le_iff (by decide) (by decide)).mpr below
    have here := narrow range inside
    unfold maxFormatWidth at here ⊢
    omega
  · intro narrow range inside
    have printed : field range.lo range.width ∈ (coalesceRanges entries).flatMap Range.fields := by
      refine mem_flatMap.mpr ⟨range,inside,List.mem_map.mpr ⟨range.lo,?_,rfl⟩⟩
      rw [mem_range'_1]
      omega
    rw [out] at printed
    obtain ⟨entry,listed,same⟩ := List.mem_map.mp printed
    have length := congrArg List.length same
    rw [length_field range.lo,length_field_of_fits (fits entry listed),max_eq_left (valid range inside).2.2] at length
    rw [← length]
    exact narrow entry listed

structure GroupOk (group : List Char × List (Nat × Nat)) : Prop where
  filled : group.2 ≠ []
  splits : ∀ entry ∈ group.2, splitNameNumber (group.1 ++ field entry.1 entry.2) = some (group.1,entry.1,entry.2)

def groupNames (group : List Char × List (Nat × Nat)) : List (List Char) :=
  group.2.map fun entry => group.1 ++ field entry.1 entry.2

section

variable {group : List Char × List (Nat × Nat)} (ok : GroupOk group) (distinct : group.2.Nodup)
include ok distinct

private theorem sorted_spec :
    (∀ entry ∈ group.2.insertionSort EntryLe, Fits entry) ∧ (group.2.insertionSort EntryLe).Pairwise EntryLt := by
  refine ⟨fun entry listed => ?_,sorted_entries distinct⟩
  have inside := (perm_insertionSort EntryLe _).mem_iff.mp listed
  exact (splitNameNumber_eq_some (ok.splits entry inside)).2.2

theorem numericTerm_isSome_iff :
    (∃ term, numericTerm group = some term) ↔ ∀ entry ∈ group.2, entry.2 ≤ maxFormatWidth := by
  obtain ⟨fits,sorted⟩ := sorted_spec ok distinct
  have some_ : coalesceRanges (group.2.insertionSort EntryLe) ≠ [] := by
    intro empty
    have out := (coalesceRanges_spec fits sorted).1
    rw [empty,flatMap_nil,eq_comm,map_eq_nil_iff] at out
    have length := (perm_insertionSort EntryLe group.2).length_eq
    rw [out,length_nil,eq_comm,length_eq_zero_iff] at length
    exact ok.filled length
  have widths := widths_coalesceRanges fits sorted
  simp only [(perm_insertionSort EntryLe _).mem_iff] at widths
  rw [← widths,← renderPrefix_isSome_iff some_]
  constructor
  · rintro ⟨term,done⟩
    obtain ⟨rendered,printed,-⟩ := bind_eq_some_iff.mp done
    exact ⟨rendered,printed⟩
  · rintro ⟨rendered,printed⟩
    exact ⟨_,bind_eq_some_iff.mpr ⟨rendered,printed,rfl⟩⟩

theorem numericTerm_reads (hosts : ∀ name ∈ groupNames group, HostName name) {term : Term}
    (done : numericTerm group = some term) :
    ∃ names, Reads term.rendered names ∧ names.Perm ((groupNames group).map String.ofList) := by
  obtain ⟨fits,sorted⟩ := sorted_spec ok distinct
  obtain ⟨out,valid⟩ := coalesceRanges_spec fits sorted
  obtain ⟨entry,listed⟩ := exists_mem_of_ne_nil _ ok.filled
  have stem := (splitNameNumber_eq_some (ok.splits entry listed)).2.1
  have inOrder := (perm_insertionSort EntryLe group.2).map fun entry => group.1 ++ field entry.1 entry.2
  obtain ⟨rendered,printed,same⟩ := bind_eq_some_iff.mp done
  obtain rfl := Option.some.inj same
  refine ⟨_,renderPrefix_reads valid stem (fun text inside => ?_) printed,?_⟩
  · rw [out] at inside
    obtain ⟨entry,here,rfl⟩ := List.mem_map.mp inside
    exact hosts _ (inOrder.mem_iff.mp (List.mem_map_of_mem here))
  · rw [out,List.map_map]
    have names := inOrder.map String.ofList
    rw [List.map_map] at names
    exact names

end

namespace Groups

def names (groups : Groups) : List (List Char) := groups.bare ++ groups.numeric.flatMap groupNames

structure Ok (groups : Groups) : Prop where
  numeric : ∀ group ∈ groups.numeric, GroupOk group
  bare : ∀ name ∈ groups.bare, splitNameNumber name = none

theorem addNumber_names (stem : List Char) (entry : Nat × Nat) (numeric : List (List Char × List (Nat × Nat))) :
    ((addNumber stem entry numeric).flatMap groupNames).Perm
      ((stem ++ field entry.1 entry.2) :: numeric.flatMap groupNames) := by
  induction numeric with
  | nil => exact List.Perm.refl _
  | cons group rest ih =>
    unfold addNumber
    split
    next same =>
      subst same
      rw [flatMap_cons]
      have grown : groupNames (group.1,group.2 ++ [entry]) =
          groupNames group ++ [group.1 ++ field entry.1 entry.2] := by
        unfold groupNames
        rw [map_append]
        rfl
      rw [grown,append_assoc]
      exact perm_middle
    next other =>
      exact (ih.append_left _).trans perm_middle

theorem addNumber_ok {stem : List Char} {numeric : List (List Char × List (Nat × Nat))}
    (ok : ∀ group ∈ numeric, GroupOk group)
    (split : splitNameNumber (stem ++ field num width) = some (stem,num,width)) :
    ∀ group ∈ addNumber stem (num,width) numeric, GroupOk group := by
  induction numeric with
  | nil =>
    intro group listed
    rw [mem_singleton.mp listed]
    refine ⟨cons_ne_nil _ _,fun entry inside => ?_⟩
    rw [mem_singleton.mp inside]
    exact split
  | cons first rest ih =>
    unfold addNumber
    have later (group) (listed : group ∈ rest) := ok group (mem_cons_of_mem first listed)
    split
    next same =>
      intro group listed
      rcases mem_cons.mp listed with rfl | inside
      · refine ⟨by simp,fun entry here => ?_⟩
        rcases mem_append.mp here with before | last
        · exact (ok first mem_cons_self).splits entry before
        · rw [mem_singleton.mp last,same]
          exact split
      · exact later group inside
    next other =>
      intro group listed
      rcases mem_cons.mp listed with rfl | inside
      · exact ok _ mem_cons_self
      · exact ih later group inside

theorem add_spec (ok : groups.Ok) {host : List Char} :
    (groups.add host).Ok ∧ (groups.add host).names.Perm (host :: groups.names) := by
  unfold add
  split
  next stem num width split =>
    have whole := (splitNameNumber_eq_some split).1
    constructor
    · refine ⟨addNumber_ok ok.numeric ?_,ok.bare⟩
      rw [whole]
      exact split
    · have added := addNumber_names stem (num,width) groups.numeric
      rw [whole] at added
      exact (added.append_left _).trans perm_middle
  next none_ =>
    constructor
    · refine ⟨ok.numeric,fun name listed => ?_⟩
      rcases mem_append.mp listed with before | last
      · exact ok.bare name before
      · rw [mem_singleton.mp last]
        exact none_
    · unfold names
      rw [append_assoc]
      exact perm_middle

theorem foldl_add_spec (ok : groups.Ok) (hosts : List (List Char)) :
    (hosts.foldl add groups).Ok ∧ (hosts.foldl add groups).names.Perm (hosts ++ groups.names) := by
  induction hosts generalizing groups with
  | nil => exact ⟨ok,List.Perm.refl _⟩
  | cons host hosts ih =>
    obtain ⟨okHere,added⟩ := add_spec ok
    obtain ⟨okAll,all⟩ := ih okHere
    exact ⟨okAll,all.trans ((added.append_left hosts).trans perm_middle)⟩

end Groups

theorem unique_nodup {hosts : List String} : (unique hosts).Nodup :=
  nodup_reverse.mpr (nodup_dedup _)

theorem mem_unique {hosts : List String} {host : String} : host ∈ unique hosts ↔ host ∈ hosts := by
  unfold unique
  rw [mem_reverse,mem_dedup,mem_reverse]

theorem length_unique_le {hosts : List String} : (unique hosts).length ≤ hosts.length := by
  unfold unique
  rw [length_reverse]
  exact (dedup_sublist _).length_le.trans_eq (length_reverse)

def groupsOf (hosts : List String) : Groups := ((unique hosts).map String.toList).foldl Groups.add ⟨[],[]⟩

theorem groupsOf_spec {hosts : List String} :
    (groupsOf hosts).Ok ∧ (groupsOf hosts).names.Perm ((unique hosts).map String.toList) := by
  have empty : (Groups.mk [] []).Ok := ⟨by simp,by simp⟩
  have all := Groups.foldl_add_spec empty ((unique hosts).map String.toList)
  rw [show (Groups.mk [] []).names = [] from rfl,append_nil] at all
  exact all

theorem groupsOf_nodup (hosts : List String) : (groupsOf hosts).names.Nodup := by
  rw [groupsOf_spec.2.nodup_iff]
  exact unique_nodup.map fun a b same => String.toList_inj.mp same

theorem groupsOf_distinct {hosts : List String} {group : List Char × List (Nat × Nat)}
    (listed : group ∈ (groupsOf hosts).numeric) : group.2.Nodup := by
  have numeric := (nodup_append.mp (groupsOf_nodup hosts)).2.1
  exact ((nodup_flatMap.mp numeric).1 group listed).of_map _

theorem numericTerms_read {groups : List (List Char × List (Nat × Nat))} {terms : List Term}
    (ok : ∀ group ∈ groups, GroupOk group ∧ group.2.Nodup ∧ ∀ name ∈ groupNames group, HostName name)
    (done : groups.mapM numericTerm = some terms) :
    ∃ outs, List.Forall₂ (fun term names => Reads term.rendered names) terms outs ∧
      outs.flatten.Perm ((groups.flatMap groupNames).map String.ofList) := by
  have each := mapM_eq_some_iff.mp done
  clear done
  induction each with
  | nil => exact ⟨[],.nil,List.Perm.refl _⟩
  | cons printed _ ih =>
    obtain ⟨here,distinct,hosts⟩ := ok _ mem_cons_self
    obtain ⟨names,reads,same⟩ := numericTerm_reads here distinct hosts printed
    obtain ⟨outs,more,rest⟩ := ih fun group listed => ok group (mem_cons_of_mem _ listed)
    refine ⟨names :: outs,.cons reads more,?_⟩
    rw [flatMap_cons,map_append]
    exact same.append rest

theorem bareTerms_read {bare : List (List Char)} (hosts : ∀ name ∈ bare, HostName name) :
    List.Forall₂ (fun term names => Reads term.rendered names) (bare.map bareTerm)
      (bare.map fun name => [String.ofList name]) := by
  rw [forall₂_map_left_iff,forall₂_map_right_iff,forall₂_same]
  exact fun name listed => (hosts name listed).reads

/-- The digits at the end of the name, when they follow something and their number fits a `u64`, are no more than the
formatter takes. -/
def Narrow (name : List Char) : Prop :=
  name.rdropWhile isDigit = [] ∨ parseUnsigned (2 ^ 64) (name.rtakeWhile isDigit) = none ∨
    (name.rtakeWhile isDigit).length ≤ maxFormatWidth

instance (name : List Char) : Decidable (Narrow name) := inferInstanceAs (Decidable (_ ∨ _ ∨ _))

theorem narrow_iff (name : List Char) :
    Narrow name ↔ ∀ stem num width, splitNameNumber name = some (stem,num,width) → width ≤ maxFormatWidth := by
  unfold Narrow splitNameNumber
  constructor
  · intro narrow stem num width split
    rw [ite_none_left_eq_some] at split
    obtain ⟨filled,split⟩ := split
    obtain ⟨read,parsed,same⟩ := map_eq_some_iff.mp split
    cases same
    rcases narrow with whole | large | few
    · simp [whole] at filled
    · rw [large] at parsed
      cases parsed
    · exact few
  · intro each
    by_contra wide
    rw [not_or,not_or,Nat.not_le] at wide
    obtain ⟨filled,fits,long⟩ := wide
    obtain ⟨num,parsed⟩ := ne_none_iff_exists'.mp fits
    have digits : name.rtakeWhile isDigit ≠ [] := by
      intro none_
      rw [none_] at long
      exact absurd long (Nat.not_lt_zero _)
    refine absurd (each (name.rdropWhile isDigit) num _ ?_) (Nat.not_le.mpr long)
    rw [if_neg (by simp [filled,digits]),parsed]
    rfl

theorem group_of_split {hosts : List String} {host : String} (listed : host ∈ hosts) {stem : List Char}
    (split : splitNameNumber host.toList = some (stem,entry)) :
    ∃ group ∈ (groupsOf hosts).numeric, group.1 = stem ∧ entry ∈ group.2 := by
  obtain ⟨ok,names⟩ := groupsOf_spec
  have there : host.toList ∈ (groupsOf hosts).names :=
    names.mem_iff.mpr (List.mem_map_of_mem (mem_unique.mpr listed))
  rcases mem_append.mp there with bare | numeric
  · rw [ok.bare _ bare] at split
    cases split
  obtain ⟨group,inside,named⟩ := mem_flatMap.mp numeric
  obtain ⟨entry,here,same⟩ := List.mem_map.mp named
  have own := (ok.numeric group inside).splits entry here
  rw [same,split] at own
  cases own
  exact ⟨group,inside,rfl,here⟩

theorem split_of_group {hosts : List String} {group : List Char × List (Nat × Nat)}
    (inside : group ∈ (groupsOf hosts).numeric) (here : entry ∈ group.2) :
    ∃ host ∈ hosts, splitNameNumber host.toList = some (group.1,entry) := by
  obtain ⟨ok,names⟩ := groupsOf_spec
  have there : group.1 ++ field _ _ ∈ (groupsOf hosts).names :=
    mem_append_right _ (mem_flatMap.mpr ⟨group,inside,List.mem_map_of_mem here⟩)
  obtain ⟨host,listed,same⟩ := List.mem_map.mp (names.mem_iff.mp there)
  refine ⟨host,mem_unique.mp listed,?_⟩
  rw [same]
  exact (ok.numeric group inside).splits entry here

theorem groups_narrow_iff (hosts : List String) :
    (∀ group ∈ (groupsOf hosts).numeric, ∀ entry ∈ group.2, entry.2 ≤ maxFormatWidth) ↔
      ∀ host ∈ hosts, Narrow host.toList := by
  simp only [narrow_iff]
  constructor
  · intro narrow host listed stem num width split
    obtain ⟨group,inside,-,here⟩ := group_of_split listed split
    exact narrow group inside _ here
  · intro narrow group inside entry here
    obtain ⟨host,listed,split⟩ := split_of_group inside here
    exact narrow host listed _ _ _ split

theorem numericTerms_isSome_iff (hosts : List String) :
    (∃ terms, (groupsOf hosts).numeric.mapM numericTerm = some terms) ↔ ∀ host ∈ hosts, Narrow host.toList := by
  rw [← groups_narrow_iff,mapM_isSome_iff]
  refine forall₂_congr fun group listed => ?_
  exact numericTerm_isSome_iff (groupsOf_spec.1.numeric group listed) (groupsOf_distinct listed)

theorem expand_of_terms {hosts : List String} (few : hosts.length ≤ maxHostlistSize)
    (plain : ∀ host ∈ hosts, HostName host.toList) {numeric : List Term}
    (done : (groupsOf hosts).numeric.mapM numericTerm = some numeric) :
    ∃ pattern names, compress hosts = some pattern ∧ expand pattern = .ok names ∧ names.Perm (unique hosts) := by
  obtain ⟨ok,same⟩ := groupsOf_spec
  have named (name) (listed : name ∈ (groupsOf hosts).names) : HostName name := by
    obtain ⟨host,inside,rfl⟩ := List.mem_map.mp (same.mem_iff.mp listed)
    exact plain host (mem_unique.mp inside)
  obtain ⟨outs,reads,outNames⟩ := numericTerms_read (fun group listed => ⟨ok.numeric group listed,groupsOf_distinct listed,
    fun name inside => named name (mem_append_right _ (mem_flatMap.mpr ⟨group,listed,inside⟩))⟩) done
  have bareReads := bareTerms_read fun name listed => named name (mem_append_left _ listed)
  have sorted := perm_insertionSort (fun a b : Term => (a.cmp b).isLE) ((groupsOf hosts).bare.map bareTerm ++ numeric)
  obtain ⟨found,each,order⟩ := perm_comp_forall₂ sorted (rel_append bareReads reads)
  have all : found.flatten.Perm (unique hosts) := by
    have back : ((unique hosts).map String.toList).map String.ofList = unique hosts := by
      rw [List.map_map]
      exact map_id'' (fun host => String.ofList_toList) _
    have bare : ((groupsOf hosts).bare.map fun name => [String.ofList name]).flatten =
        (groupsOf hosts).bare.map String.ofList := by
      rw [← flatMap_def,map_eq_flatMap]
    calc found.flatten
      _ ~ ((groupsOf hosts).bare.map fun name => [String.ofList name]).flatten ++ outs.flatten := by
        rw [← flatten_append]
        exact order.flatten
      _ ~ (groupsOf hosts).bare.map _ ++ ((groupsOf hosts).numeric.flatMap groupNames).map _ := by
        rw [bare]
        exact outNames.append_left _
      _ ~ ((unique hosts).map _).map _ := by
        rw [← map_append]
        exact same.map _
      _ ~ unique hosts := by rw [back]
  refine ⟨_,found.flatten,?_,expand_intercalate (forall₂_map_left_iff.mpr each) ?_ ?_,all⟩
  · change ((groupsOf hosts).numeric.mapM numericTerm).bind _ = _
    rw [done]
    rfl
  · rw [all.length_eq]
    exact length_unique_le.trans few
  · intro empty
    have listed := mem_unique.mp (all.mem_iff.mp empty)
    exact (plain "" listed).filled rfl

/-- Every list of host names comes back as the set of its names just when each name is narrow. -/
theorem expand_compress_iff (hosts : List String) (few : hosts.length ≤ maxHostlistSize)
    (plain : ∀ host ∈ hosts, HostName host.toList) :
    (∃ pattern names, compress hosts = some pattern ∧ expand pattern = .ok names ∧ names.Nodup ∧
      ∀ name, name ∈ names ↔ name ∈ hosts) ↔ ∀ host ∈ hosts, Narrow host.toList := by
  rw [← numericTerms_isSome_iff]
  constructor
  · rintro ⟨pattern,names,done,-⟩
    obtain ⟨terms,printed,-⟩ := bind_eq_some_iff.mp done
    exact ⟨terms,printed⟩
  · rintro ⟨terms,printed⟩
    obtain ⟨pattern,names,done,read,same⟩ := expand_of_terms few plain printed
    refine ⟨pattern,names,done,read,same.nodup_iff.mpr unique_nodup,fun name => ?_⟩
    rw [same.mem_iff,mem_unique]

theorem expand_compress_iff_mixed :
    let hosts := ["node9","rack 2","node010","node","node011","007","node9","n99999999999999999999"]
    ∃ pattern names, compress hosts = some pattern ∧ expand pattern = .ok names ∧ names.Nodup ∧
      ∀ name, name ∈ names ↔ name ∈ hosts :=
  (expand_compress_iff _ (by decide) (by decide +kernel)).mpr (by decide +kernel)

theorem splitNameNumber_field {c : Char} (letter : isDigit c = false) (small : num < 2 ^ 64)
    (fits : (decimal num).length ≤ width) : splitNameNumber (c :: field num width) = some ([c],num,width) := by
  have digits : (c :: field num width).rtakeWhile isDigit = field num width := by
    unfold List.rtakeWhile
    rw [reverse_cons,takeWhile_append_of_pos]
    · simp [letter]
    · exact fun d listed => isDigit_of_mem_field (mem_reverse.mp listed)
  have stem : (c :: field num width).rdropWhile isDigit = [c] := by
    have both := rdropWhile_append_rtakeWhile (p := isDigit) (l := c :: field num width)
    rw [digits] at both
    exact append_cancel_right both
  have filled : field num width ≠ [] := padLeft_decimal_ne_nil
  unfold splitNameNumber
  have value : parseUnsigned _ (field num width) = some num := parseUnsigned_padLeft small
  have length : (field num width).length = width := (length_field num).trans (max_eq_left fits)
  rw [digits,stem,if_neg (by simp [filled]),value,length]
  rfl

theorem hostName_field {c : Char} (letter : isWhitespace c = false) (plain : c ≠ ',' ∧ c ≠ '[' ∧ c ≠ ']')
    (ascii : c.utf8Size = 1) (fits : (decimal num).length ≤ width) (small : width < 2 ^ 64 - 1) :
    HostName (c :: field num width) := by
  refine ⟨cons_ne_nil _ _,fun d listed => ?_,?_,?_⟩
  · rcases mem_cons.mp listed with rfl | digit
    · exact plain
    · refine ⟨?_,?_,?_⟩ <;> (rintro rfl; exact notMem_field rfl digit)
  · obtain ⟨front,last,text⟩ : ∃ front last, field num width = front ++ [last] :=
      ⟨_,_,(dropLast_append_getLast padLeft_decimal_ne_nil).symm⟩
    have digit : isDigit last = true := by
      have inside : last ∈ field num width := by
        rw [text]
        simp
      exact isDigit_of_mem_field inside
    rw [text]
    exact trim_of_ends letter (isWhitespace_digit digit)
  · have size := utf8Length_field fits
    unfold utf8Length at size ⊢
    rw [map_cons,sum_cons,size]
    omega

theorem compress_wide {c : Char} (letter : isDigit c = false) (small : num < 2 ^ 64)
    (fits : (decimal num).length ≤ width) (wide : maxFormatWidth < width) :
    compress [String.ofList (c :: field num width)] = none := by
  by_contra done
  obtain ⟨pattern,done⟩ := ne_none_iff_exists'.mp done
  unfold compress at done
  obtain ⟨terms,printed,-⟩ := bind_eq_some_iff.mp done
  have narrow := (numericTerms_isSome_iff _).mp ⟨terms,printed⟩ _ mem_cons_self
  rw [String.toList_ofList,narrow_iff] at narrow
  exact absurd (narrow _ _ _ (splitNameNumber_field letter small fits)) (Nat.not_le.mpr wide)

theorem compress_panics_on_long_padding :
    let host := 'n' :: (List.replicate 65535 '0' ++ ['1'])
    HostName host ∧ compress [String.ofList host] = none := by
  have text : 'n' :: (List.replicate 65535 '0' ++ ['1']) = 'n' :: field 1 65536 := rfl
  rw [text]
  exact ⟨hostName_field rfl (by decide) rfl (by decide) (by decide),
    compress_wide rfl (by decide) (by decide) (by decide)⟩

end Spur.Hostlist
