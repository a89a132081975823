import Mathlib.Data.Nat.Bitwise
import TableAssembler.Proofs.Assembly.Builtin
import TableAssembler.Proofs.Lexeme.Literal

/-!
# Loads and jumps of the builtin set

The instructions of the builtin set take four bits of an operand.  Its pseudo-instructions split
longer operands: `lim` into two digits of four bits, and `brc` and `jmp` into four, by arithmetic on
whole words.  The digits add up to the low bits of the operand again, whatever it is.
-/

namespace TableAssembler
namespace Builtin

/-! ## Digits -/

/-- The digit above the lowest, as `lim` computes it. -/
def upper (value : UInt64) : UInt64 := ((value >>> 4) + ((value &&& 8) <<< 1)) &&& 15

/-- The lowest digit. -/
def lower (value : UInt64) : UInt64 := value &&& 15

/-- The byte above the lowest, as `brc` computes it. -/
def high (value : UInt64) : UInt64 := (value >>> 8) &&& 255

/-- The lowest byte. -/
def low (value : UInt64) : UInt64 := value &&& 255

theorem toNat_and_mask (value : UInt64) {mask : UInt64} (bits : Nat)
    (ones : mask.toNat = 2 ^ bits - 1) : (value &&& mask).toNat = value.toNat % 2 ^ bits := by
  rw [UInt64.toNat_and, ones, Nat.and_two_pow_sub_one_eq_mod]

theorem toNat_shiftRight (value : UInt64) {count : UInt64} (bits : Nat)
    (same : count.toNat % 64 = bits) : (value >>> count).toNat = value.toNat / 2 ^ bits := by
  rw [UInt64.toNat_shiftRight, same, Nat.shiftRight_eq_div_pow]

/-- What is added for the sign of the lower digit does not reach into the upper one. -/
theorem toNat_upper (value : UInt64) : (upper value).toNat = value.toNat / 16 % 16 := by
  have sign : (value &&& 8).toNat = (value.toNat.testBit 3).toNat * 8 := by
    rw [UInt64.toNat_and]
    exact Nat.and_two_pow value.toNat 3
  have doubled : ((value &&& 8) <<< 1).toNat = (value.toNat.testBit 3).toNat * 16 := by
    rw [UInt64.toNat_shiftLeft, sign]
    cases value.toNat.testBit 3 <;> rfl
  rw [upper, toNat_and_mask _ 4 rfl, UInt64.toNat_add, toNat_shiftRight value 4 rfl, doubled]
  omega

theorem toNat_lower (value : UInt64) : (lower value).toNat = value.toNat % 16 :=
  toNat_and_mask value 4 rfl

theorem upper_lt (value : UInt64) : (upper value).toNat < 16 := by
  rw [toNat_upper]
  omega

theorem lower_lt (value : UInt64) : (lower value).toNat < 16 := by
  rw [toNat_lower]
  omega

theorem digits_add_up (value : UInt64) :
    16 * (upper value).toNat + (lower value).toNat = value.toNat % 256 := by
  rw [toNat_upper, toNat_lower]
  omega

/-- The digits of both bytes of an address. -/
theorem digits_of_bytes_add_up (value : UInt64) :
    4096 * (upper (high value)).toNat + 256 * (lower (high value)).toNat +
      16 * (upper (low value)).toNat + (lower (low value)).toNat = value.toNat % 65536 := by
  have high_eq : (high value).toNat = value.toNat / 256 % 256 := by
    rw [high, toNat_and_mask _ 8 rfl, toNat_shiftRight value 8 rfl]
    rfl
  have low_eq : (low value).toNat = value.toNat % 256 := toNat_and_mask value 8 rfl
  have of_high := digits_add_up (high value)
  have of_low := digits_add_up (low value)
  rw [high_eq] at of_high
  rw [low_eq] at of_low
  omega

/-! ## Operands -/

section Operands

variable {left right imm addr : Lexeme} {a b value : UInt64} {operator : String}

theorem evaluate_combine {operation : Operation} (left_value : left.evaluate = .ok a)
    (right_value : right.evaluate = .ok b) (known : Operation.ofText? operator = some operation)
    (computed : operation.result? a b = some value) :
    (combine left operator right).evaluate = .ok value := by
  refine (Lexeme.evaluate_eq_ok_iff_of_closure rfl).mpr
    ⟨left, _, right, [], a, b, rfl, left_value, right_value, ?_⟩
  exact Operation.compute_eq_ok_iff.mpr ⟨rfl, operation, known, computed⟩

theorem evaluate_upperDigit (evaluates : imm.evaluate = .ok value) :
    (upperDigit imm).evaluate = .ok (upper value) := by
  have four : (numeral 10 "4").evaluate = .ok 4 := rfl
  have eight : (numeral 10 "8").evaluate = .ok 8 := rfl
  have one : (numeral 10 "1").evaluate = .ok 1 := rfl
  have mask : (numeral 2 "00001111").evaluate = .ok 15 := rfl
  have shifted : (combine imm ">>" (numeral 10 "4")).evaluate = .ok (value >>> 4) :=
    evaluate_combine evaluates four rfl rfl
  have sign : (combine imm "&" (numeral 10 "8")).evaluate = .ok (value &&& 8) :=
    evaluate_combine evaluates eight rfl rfl
  have doubled : (combine (combine imm "&" (numeral 10 "8")) "<<" (numeral 10 "1")).evaluate =
      .ok ((value &&& 8) <<< 1) :=
    evaluate_combine sign one rfl rfl
  exact evaluate_combine (evaluate_combine shifted doubled rfl rfl) mask rfl rfl

theorem evaluate_lowerDigit (evaluates : imm.evaluate = .ok value) :
    (lowerDigit imm).evaluate = .ok (lower value) := by
  have mask : (numeral 2 "00001111").evaluate = .ok 15 := rfl
  exact evaluate_combine evaluates mask rfl rfl

theorem evaluate_upperByte (evaluates : addr.evaluate = .ok value) :
    (upperByte addr).evaluate = .ok (high value) := by
  have eight : (numeral 10 "8").evaluate = .ok 8 := rfl
  have mask : (numeral 16 "FF").evaluate = .ok 255 := rfl
  have shifted : (combine addr ">>" (numeral 10 "8")).evaluate = .ok (value >>> 8) :=
    evaluate_combine evaluates eight rfl rfl
  exact evaluate_combine shifted mask rfl rfl

theorem evaluate_lowerByte (evaluates : addr.evaluate = .ok value) :
    (lowerByte addr).evaluate = .ok (low value) := by
  have mask : (numeral 16 "FF").evaluate = .ok 255 := rfl
  exact evaluate_combine evaluates mask rfl rfl

/-! ## Operands put into bodies -/

variable {change : Lexeme → Lexeme}

theorem mapIdentifiers_word (name : String) :
    (word name).mapIdentifiers change = change (word name) :=
  Lexeme.mapIdentifiers_of_identifier rfl

theorem mapIdentifiers_numeral (radix : Int) (digits : String) :
    (numeral radix digits).mapIdentifiers change = numeral radix digits :=
  Lexeme.mapIdentifiers_of_other (by simp [numeral]) (by simp [numeral])

theorem mapIdentifiers_combine (left : Lexeme) (operator : String) (right : Lexeme) :
    (combine left operator right).mapIdentifiers change =
      combine (left.mapIdentifiers change) operator (right.mapIdentifiers change) := by
  have sign : Lexeme.mapIdentifiers change { value := operator, kind := .operator } =
      { value := operator, kind := .operator } :=
    Lexeme.mapIdentifiers_of_other (by simp) (by simp)
  rw [Lexeme.mapIdentifiers_of_closure rfl]
  simp only [combine, Lexeme.ofOperation, List.map_cons, List.map_nil, sign]

/-- A statement whose name is no parameter is put where the call stands. -/
theorem bindStatement_statement {binding : Dictionary Lexeme} {name : String}
    (no_parameter : Dictionary.find? binding name = none) (location : Location)
    (args : List Lexeme) :
    Pseudo.bindStatement binding location (statement {} name args) =
      statement location name
        (args.map (Lexeme.mapIdentifiers (Pseudo.bindIdentifier binding))) := by
  have same : Dictionary.find? binding (statement {} name args).name.value = none := no_parameter
  rw [Pseudo.bindStatement, same]
  rfl

theorem bindIdentifier_parameter {binding : Dictionary Lexeme} {name : String} {actual : Lexeme}
    (found : Dictionary.find? binding name = some actual) :
    (word name).mapIdentifiers (Pseudo.bindIdentifier binding) = actual := by
  have same : Dictionary.find? binding (word name).value = some actual := found
  rw [mapIdentifiers_word, Pseudo.bindIdentifier, same]
  rfl

theorem bindIdentifier_other {binding : Dictionary Lexeme} {name : String}
    (absent : Dictionary.find? binding name = none) :
    (word name).mapIdentifiers (Pseudo.bindIdentifier binding) = word name := by
  have same : Dictionary.find? binding (word name).value = none := absent
  rw [mapIdentifiers_word, Pseudo.bindIdentifier, same]
  rfl

theorem map_loadBody (location : Location) (imm : Lexeme) :
    (loadBody {} (word "imm")).map (Pseudo.bindStatement [("imm", imm)] location) =
      loadBody location imm := by
  have parameter : (word "imm").mapIdentifiers (Pseudo.bindIdentifier [("imm", imm)]) = imm :=
    bindIdentifier_parameter rfl
  have zero : (word "zero").mapIdentifiers (Pseudo.bindIdentifier [("imm", imm)]) =
      word "zero" := bindIdentifier_other rfl
  have acc : (word "acc").mapIdentifiers (Pseudo.bindIdentifier [("imm", imm)]) = word "acc" :=
    bindIdentifier_other rfl
  have place (name : String) (args : List Lexeme)
      (no_parameter : Dictionary.find? [("imm", imm)] name = none) :=
    bindStatement_statement no_parameter location args
  simp only [loadBody, List.map_cons, List.map_nil, place "swa" _ rfl, place "addi" _ rfl,
    place "add" _ rfl, upperDigit, lowerDigit, mapIdentifiers_combine, mapIdentifiers_numeral,
    parameter, zero, acc]

theorem map_branchBody (location : Location) (cond addr : Lexeme) :
    (branchBody {} (word "cond") (word "addr")).map
        (Pseudo.bindStatement [("addr", addr), ("cond", cond)] location) =
      branchBody location cond addr := by
  have condition : (word "cond").mapIdentifiers
      (Pseudo.bindIdentifier [("addr", addr), ("cond", cond)]) = cond :=
    bindIdentifier_parameter rfl
  have address : (word "addr").mapIdentifiers
      (Pseudo.bindIdentifier [("addr", addr), ("cond", cond)]) = addr :=
    bindIdentifier_parameter rfl
  have seg : (word "seg").mapIdentifiers
      (Pseudo.bindIdentifier [("addr", addr), ("cond", cond)]) = word "seg" :=
    bindIdentifier_other rfl
  have place (name : String) (args : List Lexeme)
      (no_parameter : Dictionary.find? [("addr", addr), ("cond", cond)] name = none) :=
    bindStatement_statement no_parameter location args
  simp only [branchBody, List.map_cons, List.map_nil, place "lim" _ rfl, place "swa" _ rfl,
    place "b" _ rfl, upperByte, lowerByte, mapIdentifiers_combine, mapIdentifiers_numeral,
    condition, address, seg]

theorem map_jumpBody (location : Location) (addr : Lexeme) :
    (jumpBody {} (word "addr")).map (Pseudo.bindStatement [("addr", addr)] location) =
      jumpBody location addr := by
  have address : (word "addr").mapIdentifiers (Pseudo.bindIdentifier [("addr", addr)]) = addr :=
    bindIdentifier_parameter rfl
  have always : (word "true").mapIdentifiers (Pseudo.bindIdentifier [("addr", addr)]) =
      word "true" := bindIdentifier_other rfl
  have no_parameter : Dictionary.find? [("addr", addr)] "brc" = none := rfl
  simp only [jumpBody, List.map_cons, List.map_nil,
    bindStatement_statement no_parameter location, address, always]

end Operands

/-! ## Statements -/

section Statements

variable {location : Location} {name : String} {args folded : List Lexeme}

theorem mnemonic_statement (small : Text.lower name = name) :
    (statement location name args).mnemonic = name := small

private theorem fold_statement (folds : args.mapM Lexeme.fold = .ok folded) :
    (statement location name args).fold = .ok (statement location name folded) := by
  have same : (statement location name args).args.mapM Lexeme.fold = .ok folded := folds
  have instruction : (statement location name args).kind = .instruction := rfl
  rw [Statement.fold, if_pos instruction, same]
  rfl

private theorem displaced_statement (location other : Location) (name : String)
    (args : List Lexeme) :
    (statement location name args).Displaced .anywhere (statement other name args) :=
  ⟨rfl, .intro rfl rfl rfl .nil trivial trivial,
    List.forall₂_same.mpr fun arg _ => arg.displaced_refl⟩

end Statements

variable {assembler : Assembler} {location : Location} {depth : Nat} {imm addr : Lexeme}
  {value : UInt64}

/-- A call of a pseudo-instruction whose body is known apart from places. -/
theorem Has.emits {name : String} {formals : List String} {body : List Statement}
    {args : List Lexeme} {codes : List (List UInt8)}
    (has : Has assembler.library name formals body) (small : Text.lower name = name)
    (arity : formals.length ≤ args.length)
    (emits : List.Forall₂ (assembler.Emits depth)
      (body.map (Pseudo.bindStatement (formals.zip args).reverse location)) codes) :
    assembler.Emits (depth + 1) (statement location name args) codes.flatten := by
  obtain ⟨pseudo, found, rfl, same⟩ := has
  refine Assembler.emits_of_body rfl ?_ arity same emits
  rw [mnemonic_statement small]
  exact found

namespace Machine

/-- An instruction of the machine, with operands that fold into others. -/
theorem encodes (machine : Machine assembler) {name : String} {args folded : List Lexeme}
    {code : List UInt8} (listed : name ∈ ["swa", "add", "addi", "b"])
    (folds : args.mapM Lexeme.fold = .ok folded)
    (encoded : Encoding.encode assembler.set (statement {} name folded) = .ok code)
    (location : Location) : assembler.Encodes (statement location name args) code := by
  obtain ⟨no_call, no_directive, size⟩ := machine.instructions name listed
  have all_small : ∀ name ∈ ["swa", "add", "addi", "b"], Text.lower name = name := by decide
  have mnemonic : (statement {} name args).mnemonic = name :=
    mnemonic_statement (all_small name listed)
  have anywhere : assembler.Encodes (statement {} name args) code := by
    refine ⟨rfl, ?_, ?_, ⟨1, ?_⟩, _, fold_statement folds, encoded⟩
    all_goals rwa [mnemonic]
  exact anywhere.displaced (displaced_statement _ _ _ _)

theorem emits_word (machine : Machine assembler) {name operand : String} {code : List UInt8}
    (listed : name ∈ ["swa", "add", "addi", "b"])
    (encoded : Encoding.encode assembler.set (statement {} name [word operand]) = .ok code) :
    assembler.Emits depth (statement location name [word operand]) code := by
  have folds : [word operand].mapM Lexeme.fold = .ok [word operand] := rfl
  exact (machine.encodes listed folds encoded location).emits depth

private theorem emits_addi (machine : Machine assembler) {left right : Lexeme} {operator : String}
    (evaluates : (combine left operator right).evaluate = .ok value) (small : value.toNat < 16) :
    assembler.Emits depth (statement location "addi" [combine left operator right])
      [addi value.toNat] := by
  have fold_eq : (combine left operator right).fold = .ok (.ofWord value {}) := by
    have closure : (combine left operator right).kind = .closure := rfl
    rw [Lexeme.fold, if_pos closure, evaluates]
    rfl
  have folds : [combine left operator right].mapM Lexeme.fold = .ok [.ofWord value {}] := by
    rw [List.mapM_cons, fold_eq]
    rfl
  have encoded := machine.codes.addi value.toNat small
  rw [UInt64.ofNat_toNat] at encoded
  exact (machine.encodes (by decide) folds encoded location).emits depth

/-- A load adds the upper digit, makes sixteen times as much of it, and adds the lower digit. -/
theorem emits_lim (machine : Machine assembler) (evaluates : imm.evaluate = .ok value) :
    assembler.Emits (depth + 1) (statement location "lim" [imm])
      (loadCode (upper value).toNat (lower value).toNat) := by
  have swa_zero : assembler.Emits depth (statement location "swa" [word "zero"]) [swa 0] :=
    machine.emits_word (by decide) machine.codes.swa_zero
  have add_acc : assembler.Emits depth (statement location "add" [word "acc"]) [add 1] :=
    machine.emits_word (by decide) machine.codes.add_acc
  have add_upper : assembler.Emits depth (statement location "addi" [upperDigit imm])
      [addi (upper value).toNat] :=
    machine.emits_addi (evaluate_upperDigit evaluates) (upper_lt value)
  have add_lower : assembler.Emits depth (statement location "addi" [lowerDigit imm])
      [addi (lower value).toNat] :=
    machine.emits_addi (evaluate_lowerDigit evaluates) (lower_lt value)
  have body : List.Forall₂ (assembler.Emits depth) (loadBody location imm)
      [[swa 0], [addi (upper value).toNat], [add 1], [add 1], [add 1], [add 1],
        [addi (lower value).toNat]] :=
    .cons swa_zero (.cons add_upper (.cons add_acc (.cons add_acc (.cons add_acc
      (.cons add_acc (.cons add_lower .nil))))))
  have arity : ["imm"].length ≤ [imm].length := Nat.le_refl 1
  rw [← map_loadBody location imm] at body
  exact machine.lim.emits (by decide) arity body

/-- A branch loads both bytes of its address, and keeps the upper one in a register. -/
theorem emits_brc (machine : Machine assembler) {condition : String × UInt64}
    (listed : condition ∈ conditions) (evaluates : addr.evaluate = .ok value) :
    assembler.Emits (depth + 2) (statement location "brc" [word condition.1, addr])
      (branchCode condition.2.toNat (upper (high value)).toNat (lower (high value)).toNat
        (upper (low value)).toNat (lower (low value)).toNat) := by
  have load_high : assembler.Emits (depth + 1) (statement location "lim" [upperByte addr]) _ :=
    machine.emits_lim (evaluate_upperByte evaluates)
  have load_low : assembler.Emits (depth + 1) (statement location "lim" [lowerByte addr]) _ :=
    machine.emits_lim (evaluate_lowerByte evaluates)
  have swa_seg : assembler.Emits (depth + 1) (statement location "swa" [word "seg"]) [swa 3] :=
    machine.emits_word (by decide) machine.codes.swa_seg
  have branches : assembler.Emits (depth + 1) (statement location "b" [word condition.1])
      [branch condition.2.toNat] :=
    machine.emits_word (by decide) (machine.codes.branch condition listed)
  have body : List.Forall₂ (assembler.Emits (depth + 1))
      (branchBody location (word condition.1) addr) _ :=
    .cons load_high (.cons swa_seg (.cons load_low (.cons branches .nil)))
  have arity : ["cond", "addr"].length ≤ [word condition.1, addr].length := Nat.le_refl 2
  rw [← map_branchBody location (word condition.1) addr] at body
  have emits := machine.brc.emits (by decide) arity body
  simpa [branchCode] using emits

/-- A jump is a branch that is always taken. -/
theorem emits_jmp (machine : Machine assembler) {code : List UInt8}
    (emits : assembler.Emits depth (statement location "brc" [word "true", addr]) code) :
    assembler.Emits (depth + 1) (statement location "jmp" [addr]) code := by
  have body : List.Forall₂ (assembler.Emits depth) (jumpBody location addr) [code] :=
    .cons emits .nil
  have arity : ["addr"].length ≤ [addr].length := Nat.le_refl 1
  rw [← map_jumpBody location addr] at body
  have emits := machine.jmp.emits (by decide) arity body
  rwa [List.flatten_singleton] at emits

end Machine

/-! ## Texts -/

section Texts

variable {name : String} {args written part : List Lexeme} {operand : Lexeme}
  {literal : List Char} {code : List UInt8}

theorem isGlobalName_of_mem :
    ∀ name ∈ ["lim", "brc", "jmp"] ++ Dictionary.names conditions, Scan.IsGlobalName name := by
  decide +kernel

theorem isStringFree_of_spelled (spelled : operand.Spelled literal)
    (no_text : operand.kind ≠ .text) : operand.isStringFree = true :=
  Lexeme.isStringFree_iff.mpr ⟨no_text, by simp [spelled.scanned.args]⟩

/-- The text of a call gives what the call emits. -/
theorem gives_render_statement (isName : Scan.IsGlobalName name)
    (derives : Statement.AreOperands part written)
    (same : List.Forall₂ (Lexeme.Displaced .anywhere) args written)
    (spelled : Lexeme.AllSpelled part)
    (stringFree : ∀ arg ∈ written, arg.isStringFree = true)
    (emits : assembler.Emits Library.depthLimit (statement {} name args) code) :
    assembler.Gives (statement {} name args).render code := by
  obtain ⟨mnemonic, mnemonic_spelled, name_same⟩ := Lexeme.exists_spelled_of_name isName
  have displaced : (statement {} name args).Displaced .anywhere (.instruction mnemonic written) :=
    Statement.displaced_instruction name_same same
  exact emits.gives_render displaced (.operands name_same.kind.symm derives)
    (List.forall_mem_cons.mpr ⟨⟨_, mnemonic_spelled⟩, spelled⟩) stringFree

theorem gives_call (isName : Scan.IsGlobalName name) (spelled : operand.Spelled literal)
    (kind : operand.kind = .number)
    (emits : assembler.Emits Library.depthLimit (statement {} name [operand]) code) :
    assembler.Gives (name ++ " " ++ operand.source) code := by
  have stringFree := isStringFree_of_spelled spelled (by simp [kind])
  have gives := gives_render_statement isName (.single (.word (.inr (.inl kind))))
    (.cons operand.displaced_refl .nil) (List.forall_mem_singleton.mpr ⟨_, spelled⟩)
    (List.forall_mem_singleton.mpr stringFree) emits
  simpa [Statement.render, statement, Statement.instruction] using gives

theorem gives_branch {condition : String} (isName : Scan.IsGlobalName name)
    (isCondition : Scan.IsGlobalName condition) (spelled : operand.Spelled literal)
    (kind : operand.kind = .number)
    (emits : assembler.Emits Library.depthLimit (statement {} name [word condition, operand])
      code) :
    assembler.Gives (name ++ " " ++ condition ++ ", " ++ operand.source) code := by
  obtain ⟨first, first_spelled, first_same⟩ := Lexeme.exists_spelled_of_name isCondition
  have identifier : first.kind = .identifier := first_same.kind.symm
  have comma_spelled : ((Reading.verbatim .punctuation ',' []).place {}).Spelled [','] :=
    .intro {} (by decide) rfl rfl
  have first_free := isStringFree_of_spelled first_spelled (by simp [identifier])
  have operand_free := isStringFree_of_spelled spelled (by simp [kind])
  have derives : Statement.AreOperands
      ([first] ++ (Reading.verbatim .punctuation ',' []).place {} :: [operand])
      [first, operand] :=
    .cons (.word (.inl identifier)) rfl (.single (.word (.inr (.inl kind))))
  have all_spelled : Lexeme.AllSpelled
      [first, (Reading.verbatim .punctuation ',' []).place {}, operand] :=
    List.forall_mem_cons.mpr ⟨⟨_, first_spelled⟩, List.forall_mem_cons.mpr
      ⟨⟨_, comma_spelled⟩, List.forall_mem_singleton.mpr ⟨_, spelled⟩⟩⟩
  have gives := gives_render_statement isName derives
    (.cons first_same (.cons operand.displaced_refl .nil)) all_spelled
    (List.forall_mem_cons.mpr ⟨first_free, List.forall_mem_singleton.mpr operand_free⟩) emits
  simpa [Statement.render, statement, Statement.instruction, word, Lexeme.source,
    String.intercalate_cons_cons, String.append_assoc] using gives

private theorem exists_operand {number : Nat} (literal_eq : Lexeme.IsLiteral literal number)
    (small : number < 2 ^ 64) :
    ∃ operand : Lexeme, operand.Spelled literal ∧ operand.kind = .number ∧
      operand.source.toList = literal ∧ operand.evaluate = .ok (UInt64.ofNat number) := by
  obtain ⟨operand, spelled, kind, writes⟩ := literal_eq.exists_spelled
  have source := spelled.source_eq (by simp [kind]) (by simp [kind])
  have value := writes.word_eq kind
  rw [if_pos small] at value
  refine ⟨operand, spelled, kind, source, ?_⟩
  rw [Lexeme.evaluate_eq_word (by simp [kind]) (by simp [kind]), value]

end Texts

/-- Loads and jumps split every operand, whatever number below two to the power of sixty-four it
is and however it is written: the digits that are added in the seven bytes of a load make the number
up again modulo two to the power of eight, and those in the sixteen bytes of a branch modulo two to
the power of sixteen.  A jump is the branch that is always taken. -/
theorem operands_are_split {literal : String} {number : Nat}
    (written : Lexeme.IsLiteral literal.toList number) (small : number < 2 ^ 64) :
    ∃ set assembler, InstructionSet.builtin = .ok set ∧ Assembler.ofSet set = .ok assembler ∧
      Codes set ∧
      (∃ h < 16, ∃ l < 16, 16 * h + l = number % 256 ∧
        assembler.Gives ("lim " ++ literal) (loadCode h l)) ∧
      ∃ n3 < 16, ∃ n2 < 16, ∃ n1 < 16, ∃ n0 < 16,
        4096 * n3 + 256 * n2 + 16 * n1 + n0 = number % 65536 ∧
        (∀ condition ∈ conditions, assembler.Gives ("brc " ++ condition.1 ++ ", " ++ literal)
          (branchCode condition.2.toNat n3 n2 n1 n0)) ∧
        ∃ code, assembler.Gives ("brc true, " ++ literal) code ∧
          assembler.Gives ("jmp " ++ literal) code := by
  obtain ⟨set, assembler, built, compiled, rfl, machine, -⟩ := exists_machine
  obtain ⟨operand, spelled, kind, source, evaluates⟩ := exists_operand written small
  obtain rfl := String.toList_inj.mp source
  have value : (UInt64.ofNat number).toNat = number := by
    rw [UInt64.toNat_ofNat', Nat.mod_eq_of_lt small]
  have isName (name : String) (listed : name ∈ ["lim", "brc", "jmp"]) : Scan.IsGlobalName name :=
    isGlobalName_of_mem name (List.mem_append_left _ listed)
  have loads := gives_call (isName "lim" (by decide)) spelled kind (machine.emits_lim evaluates)
  have branches (condition : String × UInt64) (listed : condition ∈ conditions) :=
    gives_branch (isName "brc" (by decide))
      (isGlobalName_of_mem condition.1 (List.mem_append_right _ (List.mem_map_of_mem listed)))
      spelled kind (machine.emits_brc listed evaluates)
  have always : ("true", (1 : UInt64)) ∈ conditions := by decide
  have jumps := gives_call (isName "jmp" (by decide)) spelled kind
    (machine.emits_jmp (machine.emits_brc always evaluates))
  have taken := branches _ always
  have lim_front : "lim" ++ " " = "lim " := by decide
  have brc_front : "brc" ++ " " = "brc " := by decide
  have jmp_front : "jmp" ++ " " = "jmp " := by decide
  have taken_front : "brc " ++ "true" ++ ", " = "brc true, " := by decide
  rw [lim_front] at loads
  rw [brc_front, taken_front] at taken
  rw [jmp_front] at jumps
  simp only [brc_front] at branches
  refine ⟨_, assembler, built, compiled, machine.codes,
    ⟨_, upper_lt _, _, lower_lt _, ?_, loads⟩,
    ⟨_, upper_lt _, _, lower_lt _, _, upper_lt _, _, lower_lt _, ?_, branches, _, taken, jumps⟩⟩
  · rw [digits_add_up, value]
  · rw [digits_of_bytes_add_up, value]

/-- Mixed letter case, and a digit that the addition for a sign could reach into. -/
theorem operands_are_split_hexadecimal :
    Lexeme.IsLiteral "0x1f2E".toList 7982 ∧ 7982 < 2 ^ 64 ∧
      ∃ set assembler, InstructionSet.builtin = .ok set ∧ Assembler.ofSet set = .ok assembler ∧
        assembler.Gives "lim 0x1f2E" (loadCode 2 14) ∧
        assembler.Gives "brc carry, 0x1f2E" (branchCode 13 1 15 2 14) ∧
        ∃ code, assembler.Gives "brc true, 0x1f2E" code ∧ assembler.Gives "jmp 0x1f2E" code := by
  have written : Lexeme.IsLiteral "0x1f2E".toList 7982 :=
    ⟨.hexadecimal, "1f2E".toList, by decide, by decide, by decide⟩
  have small : 7982 < 2 ^ 64 := by decide
  obtain ⟨set, assembler, built, compiled, -, ⟨h, h_lt, l, l_lt, sum, loads⟩,
    n3, n3_lt, n2, n2_lt, n1, n1_lt, n0, n0_lt, address, branches, jumps⟩ :=
    operands_are_split written small
  obtain ⟨rfl, rfl⟩ : h = 2 ∧ l = 14 := by omega
  obtain ⟨rfl, rfl, rfl, rfl⟩ : n3 = 1 ∧ n2 = 15 ∧ n1 = 2 ∧ n0 = 14 := by omega
  have carries := branches ("carry", 13) (by decide)
  have load_text : "lim " ++ "0x1f2E" = "lim 0x1f2E" := by decide
  have carry_text : "brc " ++ "carry" ++ ", " ++ "0x1f2E" = "brc carry, 0x1f2E" := by decide
  have true_text : "brc true, " ++ "0x1f2E" = "brc true, 0x1f2E" := by decide
  have jump_text : "jmp " ++ "0x1f2E" = "jmp 0x1f2E" := by decide
  rw [load_text] at loads
  rw [carry_text] at carries
  rw [true_text, jump_text] at jumps
  exact ⟨written, small, set, assembler, built, compiled, loads, carries, jumps⟩

end Builtin
end TableAssembler
