import TableAssembler.Proofs.Image.Records
import TableAssembler.Proofs.Outcome
import TableAssembler.Proofs.Pseudo.Expansion

/-!
# Letter case

Instructions are looked up by their mnemonics, which are in lower case: in the library, among the
directives and in the instruction set.  Nothing but the text of a record shows how the name of an
instruction was written, so two programs that differ only there are assembled alike.
-/

namespace TableAssembler

/-! ## Statements -/

/-- The statements are the same, but the name of an instruction may be written in another letter
case. -/
structure Statement.Recased (first second : Statement) : Prop where
  kind : first.kind = second.kind
  args : first.args = second.args
  /-- The names differ in nothing but their text. -/
  name : { first.name with value := second.name.value } = second.name
  mnemonic : first.mnemonic = second.mnemonic
  /-- Only the names of instructions differ. -/
  other : first.kind ≠ .instruction → first.name = second.name

namespace Statement

variable {first second : Statement}

theorem recased_refl (statement : Statement) : statement.Recased statement := by
  obtain ⟨kind, name, args⟩ := statement
  cases name
  exact ⟨rfl, rfl, rfl, rfl, fun _ => rfl⟩

theorem Recased.location (recased : first.Recased second) :
    first.location = second.location := by
  have location_eq := congrArg Lexeme.location recased.name
  exact location_eq

theorem Recased.eq_of_ne (recased : first.Recased second) (other : first.kind ≠ .instruction) :
    first = second := by
  obtain ⟨kind, args, -, -, name⟩ := recased
  obtain ⟨_, _, _⟩ := first
  obtain ⟨_, _, _⟩ := second
  obtain rfl := kind
  obtain rfl := args
  obtain rfl := name other
  rfl

theorem Recased.name_of_label (recased : first.Recased second) (label : first.kind = .label) :
    first.name = second.name :=
  recased.other (by simp [label])

/-- Two instructions with other operands, one list for both. -/
theorem Recased.withArgs (recased : first.Recased second) (args : List Lexeme) :
    Recased { first with args } { second with args } :=
  ⟨recased.kind, rfl, recased.name, recased.mnemonic, recased.other⟩

theorem Recased.mapArgs (recased : first.Recased second) (change : Lexeme → Lexeme) :
    (first.mapArgs change).Recased (second.mapArgs change) := by
  by_cases instruction : first.kind = .instruction
  · rw [Statement.mapArgs, Statement.mapArgs, if_pos instruction,
      if_pos (recased.kind.symm.trans instruction), ← recased.args]
    exact recased.withArgs (first.args.map change)
  · rw [recased.eq_of_ne instruction]
    exact recased_refl _

theorem Recased.fold (recased : first.Recased second) :
    Outcome.Alike Eq Recased first.fold second.fold := by
  by_cases instruction : first.kind = .instruction
  · rw [Statement.fold, Statement.fold, if_pos instruction,
      if_pos (recased.kind.symm.trans instruction), ← recased.args]
    cases first.args.mapM Lexeme.fold with
    | error fault => exact .error rfl
    | ok args => exact .ok (recased.withArgs args)
  · rw [recased.eq_of_ne instruction]
    exact .refl recased_refl _

end Statement

/-! ## Expansion -/

variable {first second : Statement} {program other : List Statement}

theorem Pseudo.bind_eq_of_recased (pseudo : Pseudo) (recased : first.Recased second) :
    pseudo.bind first = pseudo.bind second := by
  rw [bind, bind, recased.args, recased.location]

namespace Library

private theorem recased_inline (library : Library) (depth : Nat) (recased : first.Recased second) :
    Outcome.Alike Eq (List.Forall₂ Statement.Recased) (library.inline depth first)
      (library.inline depth second) := by
  unfold inline
  rw [← recased.kind, ← recased.mnemonic, ← recased.location]
  split_ifs
  · exact .error rfl
  · cases library.find? first.mnemonic with
    | none => exact .ok (.cons recased .nil)
    | some pseudo =>
        cases depth with
        | zero => exact .error rfl
        | succ room =>
            -- From here on both sides expand one body.
            dsimp only
            rw [← pseudo.bind_eq_of_recased recased]
            exact .refl (fun _ => List.forall₂_same.mpr fun statement _ =>
              statement.recased_refl) _

private theorem recased_expandStatement (library : Library) (recased : first.Recased second) :
    Outcome.Alike Eq (List.Forall₂ Statement.Recased) (library.expandStatement first)
      (library.expandStatement second) := by
  unfold expandStatement
  rw [← recased.kind]
  split_ifs
  · exact .ok (.cons recased .nil)
  · exact library.recased_inline depthLimit recased

theorem recased_expand (library : Library)
    (recased : List.Forall₂ Statement.Recased program other) :
    Outcome.Alike Eq (List.Forall₂ Statement.Recased) (library.expand program)
      (library.expand other) := by
  refine (Outcome.Alike.mapM recased fun _ _ => library.recased_expandStatement).bind ?_
  exact fun _ _ parts => .ok (List.rel_flatten parts)

end Library

/-! ## Labels -/

namespace Scope

private theorem after_eq_of_recased (scope : String) (recased : first.Recased second) :
    after scope first = after scope second := by
  by_cases label : first.kind = .label
  · rw [after, after, ← recased.kind, recased.name_of_label label]
  · rw [after, after, ← recased.kind, if_neg fun both => label both.1,
      if_neg fun both => label both.1]

private theorem recased_qualifyStatement (scope : String) (recased : first.Recased second) :
    (qualifyStatement scope first).Recased (qualifyStatement scope second) := by
  by_cases label : first.kind = .label
  · rw [recased.eq_of_ne (by simp [label])]
    exact Statement.recased_refl _
  · rw [qualifyStatement, qualifyStatement, ← recased.kind, if_neg label, if_neg label]
    exact recased.mapArgs (qualifyOperand scope)

theorem recased_qualifyFrom (recased : List.Forall₂ Statement.Recased program other)
    (scope : String) :
    List.Forall₂ Statement.Recased (qualifyFrom scope program) (qualifyFrom scope other) := by
  induction recased generalizing scope with
  | nil => exact .nil
  | cons first _ induction =>
      rw [qualifyFrom, qualifyFrom, after_eq_of_recased scope first]
      exact .cons (recased_qualifyStatement scope first) (induction _)

end Scope

theorem Layout.statementSize_eq_of_recased (layout : Layout) (sizer? : Option Sizer)
    (recased : first.Recased second) :
    layout.statementSize sizer? first = layout.statementSize sizer? second := by
  have instruction_eq : layout.instructionSize sizer? first =
      layout.instructionSize sizer? second := by
    unfold instructionSize
    rw [recased.mnemonic, recased.location]
  rw [statementSize, statementSize, instruction_eq, recased.mnemonic, recased.args]

namespace Placement

/-- The placements have the same labels, and their code is the same but for letter case. -/
structure Recased (first second : Placement) : Prop where
  code : List.Forall₂ Statement.Recased first.code second.code
  labels : first.labels = second.labels

private theorem originAddress_eq_of_recased (recased : first.Recased second) :
    originAddress first = originAddress second := by
  rw [originAddress, originAddress, recased.args, recased.location]

/-- What placing one statement preserves, said of all that follows. -/
theorem recased_placeFrom (layout : Layout) (sizer? : Option Sizer)
    (recased : List.Forall₂ Statement.Recased program other) (address : UInt64)
    (labels : Labels) :
    Outcome.Alike Eq Recased (placeFrom layout sizer? address labels program)
      (placeFrom layout sizer? address labels other) := by
  induction recased generalizing address labels with
  | nil => exact .ok ⟨.nil, rfl⟩
  | @cons first second _ _ recased _ induction =>
      by_cases label : first.kind = .label
      · dsimp only [placeFrom]
        rw [← recased.kind, if_pos label, if_pos label, ← recased.name_of_label label,
          ← recased.location]
        split_ifs
        · exact .error rfl
        · exact induction _ _
      · dsimp only [placeFrom]
        rw [← recased.kind, if_neg label, if_neg label, ← recased.mnemonic]
        split_ifs
        · rw [← originAddress_eq_of_recased recased]
          cases originAddress first with
          | error fault => exact .error rfl
          | ok origin => exact induction origin labels
        · rw [← layout.statementSize_eq_of_recased sizer? recased]
          cases layout.statementSize sizer? first with
          | error fault => exact .error rfl
          | ok size =>
              refine (induction (address + size) labels).bind fun _ _ later => .ok ?_
              exact ⟨.cons recased later.code, later.labels⟩

end Placement

/-! ## Code -/

theorem Encoding.encode_eq_of_recased (set : InstructionSet) (recased : first.Recased second) :
    encode set first = encode set second := by
  by_cases instruction : first.kind = .instruction
  · have data_eq (data : Directive.Data) : encodeData data first = encodeData data second := by
      rw [encodeData, encodeData, recased.args, recased.location]
    have instruction_eq (instruction : Instruction) :
        encodeInstruction set instruction first = encodeInstruction set instruction second := by
      rw [encodeInstruction, encodeInstruction, recased.args, recased.location]
    simp only [encode, ← recased.kind, instruction, ne_eq, not_true_eq_false, if_false,
      recased.mnemonic, recased.location, data_eq, instruction_eq]
  · rw [recased.eq_of_ne instruction]

/-- The images have the same bytes, and their records differ in nothing but the text. -/
structure Image.Recased (first second : Image) : Prop where
  bytes : first.bytes = second.bytes
  records : List.Forall₂ Record.Aligned first.records second.records

theorem Image.recased_generateFrom (set : InstructionSet)
    (recased : List.Forall₂ Statement.Recased program other) (offset : Nat) :
    Outcome.Alike Eq Image.Recased (generateFrom set offset program)
      (generateFrom set offset other) := by
  induction recased generalizing offset with
  | nil => exact .ok ⟨rfl, .nil⟩
  | @cons first second _ _ recased _ induction =>
      rw [generateFrom, generateFrom, ← Encoding.encode_eq_of_recased set recased]
      cases Encoding.encode set first with
      | error fault => exact .error rfl
      | ok code =>
          refine (induction (offset + code.length)).bind fun _ _ later => .ok ?_
          have aligned : Record.Aligned (.ofCode first offset code) (.ofCode second offset code) :=
            ⟨recased.location, recased.mnemonic, rfl, rfl⟩
          exact ⟨congrArg (code ++ ·) later.bytes, .cons aligned later.records⟩

/-! ## Assemblies -/

/-- The assemblies have the same labels, and images that differ only in the texts of records. -/
structure Assembly.Recased (first second : Assembly) : Prop where
  image : first.image.Recased second.image
  labels : first.labels = second.labels

namespace Target

private theorem recased_finish {placement renamed : Placement}
    (recased : placement.Recased renamed) :
    Outcome.Alike Eq
      (fun resolution other => resolution.labels = other.labels ∧
        List.Forall₂ Statement.Recased resolution.statements other.statements)
      (finish placement) (finish renamed) := by
  have substituted : List.Forall₂ Statement.Recased
      (placement.labels.substitute placement.code) (placement.labels.substitute renamed.code) := by
    unfold Labels.substitute
    rw [List.forall₂_map_left_iff, List.forall₂_map_right_iff]
    exact recased.code.imp fun _ _ statement => statement.mapArgs _
  unfold finish
  rw [← recased.labels]
  refine (Outcome.Alike.mapM substituted fun _ _ statement => statement.fold).bind ?_
  exact fun _ _ folded => .ok ⟨rfl, folded⟩

private theorem recased_assembleStatements (target : Target) (set : InstructionSet)
    (recased : List.Forall₂ Statement.Recased program other) :
    Outcome.Alike Eq Assembly.Recased (target.assembleStatements set program)
      (target.assembleStatements set other) := by
  refine (target.library.recased_expand recased).bind fun _ _ expanded => ?_
  have qualified := Scope.recased_qualifyFrom expanded ""
  refine (Placement.recased_placeFrom _ _ qualified 0 []).bind fun _ _ placed => ?_
  refine (recased_finish placed).bind fun _ _ ⟨labels_eq, finished⟩ => ?_
  exact (Image.recased_generateFrom set finished 0).bind fun _ _ image => .ok ⟨image, labels_eq⟩

end Target

namespace Assembler

/-- Programs that differ only in the letter case of instructions are assembled alike: into the same
labels, bytes and records, or to the same fault at the same place. -/
theorem letter_case_does_not_matter :
    (∀ (target : Target) (set : InstructionSet) (program other : List Statement),
      List.Forall₂ Statement.Recased program other →
      Outcome.Alike Eq Assembly.Recased (target.assembleStatements set program)
        (target.assembleStatements set other)) ∧
    (∀ (assembler : Assembler) (layout : Layout) (file text text' : String)
        (program other : List Statement),
      Statement.parse file text = .ok program → Statement.parse file text' = .ok other →
      List.Forall₂ Statement.Recased program other →
      Outcome.Alike Eq Assembly.Recased (assembler.assemble layout file text)
        (assembler.assemble layout file text')) := by
  constructor
  · intro target set program other recased
    exact target.recased_assembleStatements set recased
  · intro assembler layout file text text' program other parsed parsed' recased
    rw [assemble_eq_assembleStatements, assemble_eq_assembleStatements, parsed, parsed']
    exact (assembler.target layout).recased_assembleStatements assembler.set recased

/-- A program with an origin, a call and data, whose instructions are written in some way. -/
def written (origin call data : String) : List Statement :=
  [.instruction { value := origin } [{ value := "2", kind := .number, radix := 10 }],
    .label { value := "a" }, .instruction { value := call } [{ value := "a" }],
    .instruction { value := data } [{ value := "7", kind := .number, radix := 10 }]]

theorem letter_case_does_not_matter_written :
    ∃ library assembly other, Library.compile [("pair x", "dw x, (x + 1)")] = .ok library ∧
      Target.assembleStatements { library, layout := .bytes, sizer? := none } ⟨[], [], []⟩
        (written "ORG" "Pair" "dB") = .ok assembly ∧
      Target.assembleStatements { library, layout := .bytes, sizer? := none } ⟨[], [], []⟩
        (written "org" "pair" "db") = .ok other ∧
      assembly.image.records.map (·.text) = ["dw 2, 3", "dB 7"] ∧
      other.image.records.map (·.text) = ["dw 2, 3", "db 7"] ∧
      assembly.image.bytes = [0, 2, 0, 3, 7] ∧ assembly.Recased other := by
  have loud : (Library.compile [("pair x", "dw x, (x + 1)")] >>= fun library =>
      (Target.assembleStatements { library, layout := .bytes, sizer? := none } ⟨[], [], []⟩
        (written "ORG" "Pair" "dB")).map fun assembly =>
          (assembly.image.records.map (·.text), assembly.image.bytes)) =
      .ok (["dw 2, 3", "dB 7"], [0, 2, 0, 3, 7]) := by
    decide +kernel
  have quiet : (Library.compile [("pair x", "dw x, (x + 1)")] >>= fun library =>
      (Target.assembleStatements { library, layout := .bytes, sizer? := none } ⟨[], [], []⟩
        (written "org" "pair" "db")).map fun assembly => assembly.image.records.map (·.text)) =
      .ok ["dw 2, 3", "db 7"] := by
    decide +kernel
  have recased : List.Forall₂ Statement.Recased (written "ORG" "Pair" "dB")
      (written "org" "pair" "db") := by
    refine .cons ?_ (.cons (Statement.recased_refl _) (.cons ?_ (.cons ?_ .nil)))
    all_goals exact ⟨rfl, rfl, rfl, by decide +kernel, fun other => absurd rfl other⟩
  obtain ⟨library, compiled, loud⟩ := Success.bind_eq_ok.mp loud
  obtain ⟨assembly, assembled, observed⟩ := Success.map_eq_ok.mp loud
  obtain ⟨texts, bytes⟩ := Prod.mk.inj observed
  obtain ⟨again, compiled_again, quiet⟩ := Success.bind_eq_ok.mp quiet
  obtain rfl := Except.ok.inj (compiled.symm.trans compiled_again)
  obtain ⟨other, other_assembled, other_texts⟩ := Success.map_eq_ok.mp quiet
  have alike := letter_case_does_not_matter.1 { library, layout := .bytes, sizer? := none }
    ⟨[], [], []⟩ _ _ recased
  rw [assembled, other_assembled] at alike
  cases alike with
  | ok related =>
      exact ⟨library, assembly, other, compiled, assembled, other_assembled, texts, other_texts,
        bytes, related⟩

end Assembler
end TableAssembler
