import Spur.DeviceFilter

/-! The compiled device filter decides every access on the eBPF machine as its rules do. -/
namespace Spur.DeviceFilter
open Spur.Library.Bpf List

section

/-- A chain of mismatch branches with `after` instructions between its end and the place they leave to. -/
def guardCode (after : Nat) : List (BitVec 8 × BitVec 32) → List Insn
  | [] => []
  | guard :: guards =>
    { jneImm guard.1 guard.2 with off := BitVec.ofNat 16 (guards.length + after) } :: guardCode after guards

def ruleGuards (rule : DeviceRule) : List (BitVec 8 × BitVec 32) :=
  [(r2,rule.devType.code)] ++ (rule.major.map fun major => (r3,major)).toList ++
    (rule.minor.map fun minor => (r4,minor)).toList

def accessTest (rule : DeviceRule) : List Insn :=
  [movReg r6 r5,andImm r6 ((~~~(rule.access.setWidth 16)).setWidth 32),{ jneImm r6 0 with off := 2 },movImm r0 allow,exit]

theorem ruleBlock_eq (rule : DeviceRule) : ruleBlock rule = guardCode 5 (ruleGuards rule) ++ accessTest rule := by
  obtain ⟨devType,_ | major,_ | minor,access⟩ := rule <;> rfl

theorem length_guardCode (after : Nat) (guards : List (BitVec 8 × BitVec 32)) :
    (guardCode after guards).length = guards.length := by
  induction guards with
  | nil => rfl
  | cons guard guards ih => rw [guardCode,length_cons,ih,length_cons]

theorem length_ruleGuards (rule : DeviceRule) : (ruleGuards rule).length ≤ 3 := by
  obtain ⟨devType,_ | major,_ | minor,access⟩ := rule <;> simp [ruleGuards]

theorem length_ruleBlock (rule : DeviceRule) : (ruleBlock rule).length = (ruleGuards rule).length + 5 := by
  rw [ruleBlock_eq,length_append,length_guardCode]
  rfl

def asReg (guard : BitVec 8 × BitVec 32) : BitVec 4 × BitVec 32 := ((regs guard.1 0).setWidth 4,guard.2)

theorem guards_of_at {prog : List Insn} {after pc : Nat} {guards : List (BitVec 8 × BitVec 32)}
    (near : guards.length + after < 2 ^ 15) (at_ : At prog pc (guardCode after guards)) :
    Guards prog (pc + guards.length + after) pc (guards.map asReg) := by
  induction guards generalizing pc with
  | nil => exact True.intro
  | cons guard guards ih =>
    rw [length_cons] at near
    refine ⟨⟨_,at_.head,rfl,rfl,rfl,?_⟩,?_⟩
    · have small : (BitVec.ofNat 16 (guards.length + after)).toInt = guards.length + after := by
        rw [BitVec.toInt_eq_toNat_of_lt] <;> simp <;> omega
      rw [small,length_cons]
      omega
    · have rest := ih (by omega) at_.tail
      rw [length_cons,Nat.add_comm _ 1,← Nat.add_assoc pc]
      exact rest

end

section

variable {prog : List Insn} {ctx : Context} {m : Machine} {request : Request}

structure Loaded (request : Request) (m : Machine) : Prop where
  devType : m.regs 2 = request.devType.code.setWidth 64
  major : m.regs 3 = request.major.setWidth 64
  minor : m.regs 4 = request.minor.setWidth 64
  access : m.regs 5 = request.access.setWidth 64

structure DeviceRule.Small (rule : DeviceRule) : Prop where
  major : ∀ major, rule.major = some major → major.toNat < 2 ^ 31
  minor : ∀ minor, rule.minor = some minor → minor.toNat < 2 ^ 31

theorem signExtend_of_small {v : BitVec 32} (small : v.toNat < 2 ^ 31) : v.signExtend 64 = v.setWidth 64 := by
  apply BitVec.signExtend_eq_setWidth_of_msb_false
  rw [BitVec.msb_eq_decide]
  simpa using small

theorem setWidth_inj {v w : BitVec 32} : v.setWidth 64 = w.setWidth 64 ↔ v = w := by
  constructor
  · intro same
    apply BitVec.eq_of_toNat_eq
    have numbers := congrArg BitVec.toNat same
    simp only [BitVec.toNat_setWidth] at numbers
    omega
  · rintro rfl
    rfl

theorem DevType.code_inj {a b : DevType} : a.code = b.code ↔ a = b := by
  cases a <;> cases b <;> decide

theorem DevType.code_small (devType : DevType) : devType.code.toNat < 2 ^ 31 := by
  cases devType <;> decide

theorem forall_optional {number : Option (BitVec 32)} {reg : BitVec 8} {P : BitVec 4 × BitVec 32 → Prop} :
    (∀ guard ∈ ((number.map fun v => (reg,v)).toList.map asReg), P guard) ↔
      ∀ v, number = some v → P (asReg (reg,v)) := by
  cases number <;> simp

variable {rule : DeviceRule}

theorem meets_ruleGuards (loaded : Loaded request m) (small : rule.Small) :
    m.Meets ((ruleGuards rule).map asReg) ↔ rule.devType = request.devType ∧
      (∀ major, rule.major = some major → major = request.major) ∧
      ∀ minor, rule.minor = some minor → minor = request.minor := by
  unfold Machine.Meets ruleGuards
  rw [map_append,map_append,forall_mem_append,forall_mem_append,forall_optional,forall_optional,
    map_singleton,forall_mem_singleton,and_assoc]
  refine and_congr ?_ (and_congr (forall₂_congr fun major named => ?_) (forall₂_congr fun minor named => ?_))
  · change m.regs ((regs r2 0).setWidth 4) = rule.devType.code.signExtend 64 ↔ _
    rw [show (regs r2 0).setWidth 4 = (2 : BitVec 4) by decide,loaded.devType,signExtend_of_small rule.devType.code_small,setWidth_inj,DevType.code_inj,eq_comm]
  · change m.regs ((regs r3 0).setWidth 4) = major.signExtend 64 ↔ _
    rw [show (regs r3 0).setWidth 4 = (3 : BitVec 4) by decide,loaded.major,signExtend_of_small (small.major major named),setWidth_inj,eq_comm]
  · change m.regs ((regs r4 0).setWidth 4) = minor.signExtend 64 ↔ _
    rw [show (regs r4 0).setWidth 4 = (4 : BitVec 4) by decide,loaded.minor,signExtend_of_small (small.minor minor named),setWidth_inj,eq_comm]

theorem masked_eq_zero {requested : BitVec 16} {granted : BitVec 8} :
    requested.setWidth 32 &&& (~~~(granted.setWidth 16)).setWidth 32 = 0 ↔
      ∀ bit < 16, requested.getLsbD bit = true → granted.getLsbD bit = true := by
  constructor
  · intro none_ bit small asked
    have at_ := congrArg (fun v => v.getLsbD bit) none_
    simp only [BitVec.getLsbD_and,BitVec.getLsbD_setWidth,BitVec.getLsbD_not] at at_
    simpa [small,asked,show bit < 32 by omega] using at_
  · intro covered
    apply BitVec.eq_of_getLsbD_eq
    intro bit small
    by_cases inside : bit < 16
    · have grants := covered bit inside
      cases asked : requested.getLsbD bit <;> simp_all
    · simp [inside]

theorem low_of_access (loaded : Loaded request m) : m.low 5 = request.access.setWidth 32 := by
  unfold Machine.low
  rw [loaded.access]
  apply BitVec.eq_of_toNat_eq
  simp only [BitVec.toNat_setWidth]
  omega

theorem Loaded.scratch (loaded : Loaded request m) {pc : Nat} {value : BitVec 64} :
    Loaded request ⟨pc,Function.update m.regs 6 value⟩ :=
  ⟨loaded.devType,loaded.major,loaded.minor,loaded.access⟩

def refusedBits (rule : DeviceRule) (request : Request) : BitVec 32 :=
  request.access.setWidth 32 &&& (~~~(rule.access.setWidth 16)).setWidth 32

theorem run_masked (at_ : At prog m.pc (accessTest rule)) (loaded : Loaded request m) (fuel : Nat) :
    run prog ctx (fuel + 2) m =
      run prog ctx fuel ⟨m.pc + 2,Function.update m.regs 6 ((refusedBits rule request).setWidth 64)⟩ := by
  have copied := @step_movReg prog ctx m _ 6 5 at_.head (by decide) (by decide) (by decide) (by decide)
  rw [low_of_access loaded] at copied
  have masked := @step_andImm prog ctx ⟨m.pc + 1,Function.update m.regs 6 ((request.access.setWidth 32).setWidth 64)⟩ _ 6
    at_.tail.head rfl (show (regs r6 0).setWidth 4 = (6 : BitVec 4) by decide) (by decide)
  rw [low_update,Function.update_idem] at masked
  rw [run_running copied,run_running masked]
  rfl

theorem run_verdict {pc : Nat} {values : BitVec 4 → BitVec 64} {verdict : BitVec 32}
    (at_ : At prog pc [movImm r0 verdict,exit]) {fuel : Nat} :
    run prog ctx (fuel + 2) ⟨pc,values⟩ = .exited verdict := by
  have said := @step_movImm prog ctx ⟨pc,values⟩ _ 0 at_.head rfl (show (regs r0 0).setWidth 4 = (0 : BitVec 4) by decide)
    (by decide)
  have left := @step_exit prog ctx ⟨pc + 1,Function.update values 0 (verdict.setWidth 64)⟩ _ at_.tail.head (by decide)
  rw [low_update] at left
  rw [run_running said]
  exact run_exited left

theorem run_accessTest (at_ : At prog m.pc (accessTest rule)) (loaded : Loaded request m) (fuel : Nat) :
    refusedBits rule request = 0 ∧ run prog ctx (fuel + 5) m = .exited allow ∨
      refusedBits rule request ≠ 0 ∧ ∃ left ≥ fuel, ∃ next, next.pc = m.pc + 5 ∧ Loaded request next ∧
        run prog ctx (fuel + 5) m = run prog ctx left next := by
  have test : Guards prog (m.pc + 5) (m.pc + 2) [(6,0)] := by
    refine ⟨⟨_,at_.tail.tail.head,by decide,by decide,by decide,?_⟩,True.intro⟩
    rw [show (2 : BitVec 16).toInt = 2 by decide]
    omega
  have masked := @run_masked prog ctx m request rule at_ loaded (fuel + 3)
  obtain ⟨steps,few,last,which,reached⟩ := @run_guards prog ctx ⟨m.pc + 2,Function.update m.regs 6 _⟩ _ _ _ test rfl
  have meets : Machine.Meets ⟨m.pc + 2,Function.update m.regs 6 ((refusedBits rule request).setWidth 64)⟩ [(6,0)] ↔
      refusedBits rule request = 0 := by
    have scratch : Function.update m.regs 6 _ 6 = (refusedBits rule request).setWidth 64 := Function.update_self ..
    unfold Machine.Meets
    rw [forall_mem_singleton]
    dsimp only
    rw [scratch,signExtend_of_small (by decide),setWidth_inj]
  rw [meets] at which
  have split : fuel + 3 = steps + (fuel + 3 - steps) := by
    rw [length_singleton] at few
    omega
  rw [masked,split,reached]
  rcases which with ⟨none_,rfl⟩ | ⟨some_,rfl⟩
  · refine .inl ⟨none_,?_⟩
    rw [show fuel + 3 - steps = fuel + 1 - steps + 2 by rw [length_singleton] at few; omega]
    exact run_verdict at_.tail.tail.tail
  · refine .inr ⟨some_,fuel + 3 - steps,by rw [length_singleton] at few; omega,_,rfl,?_,rfl⟩
    exact loaded.scratch

theorem run_ruleBlock (small : rule.Small) (at_ : At prog m.pc (ruleBlock rule))
    (loaded : Loaded request m) (fuel : Nat) :
    rule.Permits request ∧ run prog ctx ((ruleBlock rule).length + fuel) m = .exited allow ∨
      ¬rule.Permits request ∧ ∃ left ≥ fuel, ∃ next, next.pc = m.pc + (ruleBlock rule).length ∧ Loaded request next ∧
        run prog ctx ((ruleBlock rule).length + fuel) m = run prog ctx left next := by
  have permits : rule.Permits request ↔ m.Meets ((ruleGuards rule).map asReg) ∧ refusedBits rule request = 0 := by
    unfold refusedBits DeviceRule.Permits
    rw [meets_ruleGuards loaded small,masked_eq_zero,and_assoc,and_assoc]
  rw [ruleBlock_eq] at at_
  obtain ⟨front,back⟩ := at_.append
  rw [length_guardCode] at back
  have chain := guards_of_at (by have := length_ruleGuards rule; omega) front
  obtain ⟨steps,few,last,which,reached⟩ := @run_guards prog ctx m _ _ _ chain rfl
  rw [length_map] at few which
  rw [length_ruleBlock,show (ruleGuards rule).length + 5 + fuel =
    steps + ((ruleGuards rule).length - steps + fuel + 5) by omega,reached,permits]
  rcases which with ⟨meets,rfl⟩ | ⟨fails,rfl⟩
  · rcases @run_accessTest prog ctx { m with pc := m.pc + (ruleGuards rule).length } request rule back
        ⟨loaded.devType,loaded.major,loaded.minor,loaded.access⟩ _ with
      ⟨none_,allowed⟩ | ⟨some_,left,enough,next,place,kept,same⟩
    · exact .inl ⟨⟨meets,none_⟩,allowed⟩
    · exact .inr ⟨fun both => some_ both.2,left,by omega,next,place,kept,same⟩
  · refine .inr ⟨fun both => fails both.1,_,?_,_,rfl,?_,rfl⟩
    · omega
    · exact ⟨loaded.devType,loaded.major,loaded.minor,loaded.access⟩

theorem run_blocks {rules : List DeviceRule} (small : ∀ rule ∈ rules, rule.Small)
    (at_ : At prog m.pc (rules.flatMap ruleBlock ++ [movImm r0 deny,exit])) (loaded : Loaded request m) {fuel : Nat}
    (enough : (rules.flatMap ruleBlock ++ [movImm r0 deny,exit]).length ≤ fuel) :
    (∃ rule ∈ rules, rule.Permits request) ∧ run prog ctx fuel m = .exited allow ∨
      ¬(∃ rule ∈ rules, rule.Permits request) ∧ run prog ctx fuel m = .exited deny := by
  induction rules generalizing m fuel with
  | nil =>
    refine .inr ⟨fun ⟨rule,listed,_⟩ => (nomatch listed),?_⟩
    rw [show fuel = fuel - 2 + 2 from (Nat.sub_add_cancel enough).symm]
    exact run_verdict at_
  | cons rule rules ih =>
    rw [flatMap_cons,append_assoc] at at_ enough
    rw [length_append] at enough
    obtain ⟨block,later⟩ := at_.append
    obtain ⟨spare,rfl⟩ := Nat.exists_eq_add_of_le (Nat.le_of_add_right_le enough)
    rcases @run_ruleBlock prog ctx m request rule (small rule mem_cons_self) block loaded spare with
      ⟨permits,allowed⟩ | ⟨refuses,left,more,next,place,kept,same⟩
    · exact .inl ⟨⟨rule,mem_cons_self,permits⟩,allowed⟩
    · rw [← place] at later
      rw [same]
      have rest := ih (fun other listed => small other (mem_cons_of_mem rule listed)) later kept
        (show _ ≤ left by omega)
      refine rest.imp (fun ⟨some_,done⟩ => ⟨?_,done⟩) fun ⟨none_,done⟩ => ⟨?_,done⟩
      · obtain ⟨other,listed,permits⟩ := some_
        exact ⟨other,mem_cons_of_mem rule listed,permits⟩
      rintro ⟨other,listed,permits⟩
      rcases mem_cons.mp listed with rfl | listed
      · exact refuses permits
      · exact none_ ⟨other,listed,permits⟩

end

section

variable {prog : List Insn} {request : Request}

def Request.context (request : Request) (base : BitVec 64) : Context := ⟨base,request.words⟩

theorem load_word {base : BitVec 64} {off : BitVec 16} {word : BitVec 32} (aligned : (off.signExtend 64).toNat % 4 = 0)
    (found : request.words[(off.signExtend 64).toNat / 4]? = some word) :
    (request.context base).load (base + off.signExtend 64) = some word := by
  have inside : base + off.signExtend 64 - base = off.signExtend 64 := add_sub_cancel_left _ _
  unfold Context.load Request.context
  rw [inside,if_pos aligned,found]

def accessType (request : Request) : BitVec 32 := (request.access.setWidth 32 <<< 16) ||| request.devType.code

theorem toNat_accessType (request : Request) :
    (accessType request).toNat = request.access.toNat * 2 ^ 16 + request.devType.code.toNat := by
  have small : request.devType.code.toNat < 2 ^ 16 := by cases request.devType <;> decide
  have shifted : (request.access.setWidth 32 <<< 16).toNat = request.access.toNat <<< 16 := by
    rw [BitVec.toNat_shiftLeft,BitVec.toNat_setWidth,Nat.shiftLeft_eq]
    omega
  unfold accessType
  rw [BitVec.toNat_or,shifted,← Nat.shiftLeft_add_eq_or_of_lt small,Nat.shiftLeft_eq]

theorem accessType_low (request : Request) : accessType request &&& devTypeMask = request.devType.code := by
  have small : request.devType.code.toNat < 2 ^ 16 := by cases request.devType <;> decide
  apply BitVec.eq_of_toNat_eq
  rw [BitVec.toNat_and,show devTypeMask.toNat = 2 ^ 16 - 1 by decide,Nat.and_two_pow_sub_one_eq_mod,toNat_accessType]
  omega

theorem accessType_high (request : Request) :
    accessType request >>> (accessShift &&& 31) = request.access.setWidth 32 := by
  have small : request.devType.code.toNat < 2 ^ 16 := by cases request.devType <;> decide
  apply BitVec.eq_of_toNat_eq
  rw [BitVec.ushiftRight_eq',BitVec.toNat_ushiftRight,
    toNat_accessType,Nat.shiftRight_eq_div_pow,BitVec.toNat_setWidth]
  change _ / 2 ^ 16 = _
  omega

theorem step_load {m : Machine} {base : BitVec 64} {dst : BitVec 8} {reg : BitVec 4} {off : BitVec 16} {word : BitVec 32}
    (fetched : prog[m.pc]? = some (ldxW dst r1 off)) (pointer : m.regs 1 = base)
    (registers : (regs dst r1).setWidth 4 = reg ∧ (regs dst r1 >>> 4).setWidth 4 = (1 : BitVec 4) ∧ reg ≤ 9)
    (aligned : (off.signExtend 64).toNat % 4 = 0)
    (found : request.words[(off.signExtend 64).toNat / 4]? = some word) :
    m.step prog (request.context base) = .running ⟨m.pc + 1,Function.update m.regs reg (word.setWidth 64)⟩ := by
  refine step_ldxW fetched rfl registers.1 registers.2.2 ?_
  change (request.context base).load (m.regs ((regs dst r1 >>> 4).setWidth 4) + off.signExtend 64) = _
  rw [registers.2.1,pointer]
  exact load_word aligned found

variable {m : Machine} {base : BitVec 64}

theorem run_loadType (first : prog[m.pc]? = some (ldxW r2 r1 ctxAccessType))
    (second : prog[m.pc + 1]? = some (andImm r2 devTypeMask)) (pointer : m.regs 1 = base) (fuel : Nat) :
    run prog (request.context base) (fuel + 2) m = run prog (request.context base) fuel
        ⟨m.pc + 2,Function.update m.regs 2 (request.devType.code.setWidth 64)⟩ := by
  have loaded := @step_load prog request m base r2 2 _ (accessType request) first pointer (by decide) (by decide) rfl
  have masked := @step_andImm prog (request.context base)
    ⟨m.pc + 1,Function.update m.regs 2 ((accessType request).setWidth 64)⟩ _ 2 second (by decide)
    (by decide) (by decide)
  rw [low_update,Function.update_idem,show (andImm r2 devTypeMask).imm = devTypeMask from rfl,accessType_low] at masked
  rw [run_running loaded,run_running masked]

theorem run_loadAccess (first : prog[m.pc]? = some (ldxW r5 r1 ctxAccessType))
    (second : prog[m.pc + 1]? = some (rshImm r5 accessShift)) (pointer : m.regs 1 = base) {fuel : Nat} :
    run prog (request.context base) (fuel + 2) m = run prog (request.context base) fuel
        ⟨m.pc + 2,Function.update m.regs 5 ((request.access.setWidth 32).setWidth 64)⟩ := by
  have loaded := @step_load prog request m base r5 5 _ (accessType request) first pointer (by decide) (by decide) rfl
  have shifted := @step_rshImm prog (request.context base)
    ⟨m.pc + 1,Function.update m.regs 5 ((accessType request).setWidth 64)⟩ _ 5 second (by decide)
    (by decide) (by decide)
  rw [low_update,Function.update_idem,show (rshImm r5 accessShift).imm = accessShift from rfl,accessType_high] at shifted
  rw [run_running loaded,run_running shifted]

theorem run_loadNumbers (first : prog[m.pc]? = some (ldxW r3 r1 ctxMajor))
    (second : prog[m.pc + 1]? = some (ldxW r4 r1 ctxMinor)) (pointer : m.regs 1 = base) {fuel : Nat} :
    run prog (request.context base) (fuel + 2) m = run prog (request.context base) fuel ⟨m.pc + 2,Function.update
        (Function.update m.regs 3 (request.major.setWidth 64)) 4 (request.minor.setWidth 64)⟩ := by
  have major := @step_load prog request m base r3 3 ctxMajor _ first pointer (by decide) (by decide) rfl
  have minor := @step_load prog request ⟨m.pc + 1,Function.update m.regs 3 (request.major.setWidth 64)⟩ base r4 4 ctxMinor
    _ second pointer (by decide) (by decide) rfl
  rw [run_running major,run_running minor]

theorem run_prologue {values : BitVec 4 → BitVec 64} (at_ : At prog 0 prologue) (fuel : Nat) :
    ∃ m, m.pc = 6 ∧ Loaded request m ∧
      run prog (request.context base) (fuel + 6) (entry (request.context base) values) =
        run prog (request.context base) fuel m := by
  have typed := @run_loadType prog request (entry (request.context base) values) base at_.head at_.tail.head rfl (fuel + 4)
  have accessed := typed.trans (run_loadAccess at_.tail.tail.head at_.tail.tail.tail.head rfl)
  have numbered := accessed.trans (run_loadNumbers at_.tail.tail.tail.tail.head at_.tail.tail.tail.tail.tail.head rfl)
  have access : ((request.access.setWidth 32).setWidth 64 : BitVec 64) = request.access.setWidth 64 := by
    apply BitVec.eq_of_toNat_eq
    simp only [BitVec.toNat_setWidth]
    omega
  exact ⟨_,rfl,⟨rfl,rfl,rfl,access⟩,numbered⟩

end

/-- For every list of rules and every request the program reaches its exit, and allows exactly what some rule of the
list permits. -/
theorem device_filter_enforces_rules (rules : List DeviceRule) (small : ∀ rule ∈ rules, rule.Small) (request : Request)
    (base : BitVec 64) (values : BitVec 4 → BitVec 64) (fuel : Nat)
    (enough : (buildDeviceFilter rules).length ≤ fuel) :
    (∃ rule ∈ rules, rule.Permits request) ∧
        run (buildDeviceFilter rules) (request.context base) fuel (entry (request.context base) values) = .exited allow ∨
      ¬(∃ rule ∈ rules, rule.Permits request) ∧
        run (buildDeviceFilter rules) (request.context base) fuel (entry (request.context base) values) =
          .exited deny := by
  have whole : buildDeviceFilter rules = prologue ++ (rules.flatMap ruleBlock ++ [movImm r0 deny,exit]) :=
    append_assoc _ _ _
  have at_ := At.all (buildDeviceFilter rules)
  rw [whole] at at_ enough
  rw [length_append] at enough
  obtain ⟨front,later⟩ := at_.append
  obtain ⟨spare,rfl⟩ := Nat.exists_eq_add_of_le (Nat.le_of_add_right_le enough)
  obtain ⟨m,place,loaded,same⟩ := @run_prologue _ request base values front spare
  rw [whole,show prologue.length + spare = spare + 6 from Nat.add_comm _ _,same]
  exact run_blocks small (by rw [place]; exact later) loaded (Nat.le_of_add_le_add_left enough)

theorem device_filter_enforces_rules_kfd : run (buildDeviceFilter [.charDev 136 none,⟨.char,some 234,some 0,accAll⟩])
      (Request.context ⟨.char,2,234,0⟩ 0x1000) 40 (entry (Request.context ⟨.char,2,234,0⟩ 0x1000) 0) = .exited allow := by
  have small : ∀ rule ∈ [DeviceRule.charDev 136 none,⟨.char,some 234,some 0,accAll⟩], rule.Small := by
    intro rule listed
    rcases mem_cons.mp listed with rfl | listed
    · exact ⟨by rintro _ ⟨⟩; decide,by rintro _ ⟨⟩⟩
    · rcases mem_singleton.mp listed with rfl
      exact ⟨by rintro _ ⟨⟩; decide,by rintro _ ⟨⟩; decide⟩
  rcases device_filter_enforces_rules _ small ⟨.char,2,234,0⟩ 0x1000 0 40 (by decide) with ⟨-,allowed⟩ | ⟨none_,-⟩
  · exact allowed
  refine absurd ⟨⟨.char,some 234,some 0,accAll⟩,by simp,rfl,?_,?_,by decide⟩ none_
  · rintro _ ⟨⟩
    rfl
  · rintro _ ⟨⟩
    rfl

end Spur.DeviceFilter
