import TableAssembler.Proofs.Assembly.Displacement
import TableAssembler.Proofs.Assembly.LayoutChoice
import TableAssembler.Proofs.InstructionSet.WellFormed
import TableAssembler.Proofs.Label.Completion
import TableAssembler.Proofs.Label.Placement
import TableAssembler.Proofs.Pseudo.Expansion
import TableAssembler.Proofs.Statement.Spelling

/-!
# What a statement emits

In a program without labels and origins every statement can be assembled by itself.  What it emits
is what the instructions emit that it is expanded into, call by call, and no place matters for it.
So a call emits what the statements of its body emit when they are looked at apart.
-/

namespace TableAssembler
namespace Assembler

variable {assembler : Assembler} {statement other : Statement} {code : List UInt8}

/-! ## Instructions -/

/-- The statement is no call and no directive, and is encoded into the bytes. -/
structure Encodes (assembler : Assembler) (statement : Statement) (code : List UInt8) : Prop where
  kind : statement.kind = .instruction
  no_call : assembler.library.find? statement.mnemonic = none
  no_directive : Directive.isDirective statement.mnemonic = false
  /-- Its size is known before it is encoded. -/
  size : ∃ size, assembler.set.encodedSize statement.mnemonic = .ok size
  code : ∃ folded, statement.fold = .ok folded ∧
    Encoding.encode assembler.set folded = .ok code

theorem Encodes.displaced (encodes : assembler.Encodes statement code)
    (displaced : statement.Displaced .anywhere other) : assembler.Encodes other code := by
  have mnemonic := displaced.mnemonic_eq
  refine ⟨displaced.kind.symm.trans encodes.kind, mnemonic ▸ encodes.no_call,
    mnemonic ▸ encodes.no_directive, mnemonic ▸ encodes.size, ?_⟩
  obtain ⟨folded, folded_ok, encoded⟩ := encodes.code
  have folds := displaced.fold
  rw [folded_ok] at folds
  generalize other.fold = other_folded at folds ⊢
  cases folds with
  | @ok _ again same =>
      have encodings := Encoding.displaced_encode assembler.set same
      rw [encoded] at encodings
      refine ⟨again, rfl, ?_⟩
      generalize Encoding.encode assembler.set again = result at encodings ⊢
      cases encodings with
      | ok equal => rw [equal]

theorem Encodes.isCode (encodes : assembler.Encodes statement code) : statement.isCode = true := by
  have no_origin : statement.mnemonic ≠ Directive.origin := by
    intro origin
    have directive := encodes.no_directive
    rw [origin] at directive
    simp [Directive.isDirective, Directive.all] at directive
  simp [Statement.isCode, encodes.kind, no_origin]

theorem Encodes.exists_statementSize (encodes : assembler.Encodes statement code)
    (layout : Layout) :
    ∃ size, layout.statementSize (some assembler.set.encodedSize) statement = .ok size := by
  obtain ⟨size, sized⟩ := encodes.size
  have no_data : Directive.data? statement.mnemonic = none := by
    cases found : Directive.data? statement.mnemonic with
    | none => rfl
    | some data =>
        have directive := Directive.isDirective_of_data? found
        rw [encodes.no_directive] at directive
        contradiction
  rw [Layout.statementSize, no_data]
  dsimp only
  unfold Layout.instructionSize
  split
  · exact ⟨1, rfl⟩
  · exact ⟨1, rfl⟩
  · next found =>
      obtain rfl := Option.some.inj found
      exact ⟨UInt64.ofNat size, by rw [sized]⟩

/-! ## Calls -/

/-- With room for some nested calls the statement is expanded into instructions that are encoded
into the bytes. -/
def Emits (assembler : Assembler) (depth : Nat) (statement : Statement) (code : List UInt8) :
    Prop :=
  statement.kind = .instruction ∧ ∃ out codes,
    assembler.library.inline depth statement = .ok out ∧
      List.Forall₂ assembler.Encodes out codes ∧ codes.flatten = code

theorem Encodes.emits (encodes : assembler.Encodes statement code) (depth : Nat) :
    assembler.Emits depth statement code := by
  have kept : assembler.library.inline depth statement = .ok [statement] :=
    Library.inline_of_unknown (by simp [encodes.kind]) encodes.no_call
  exact ⟨encodes.kind, [statement], [code], kept, .cons encodes .nil, by simp⟩

theorem Emits.displaced {depth : Nat} (emits : assembler.Emits depth statement code)
    (displaced : statement.Displaced .anywhere other) : assembler.Emits depth other code := by
  obtain ⟨kind, out, codes, inlined, encoded, flat⟩ := emits
  have inlines := assembler.library.displaced_refl.inline depth displaced
  rw [inlined] at inlines
  generalize other_inlined : assembler.library.inline depth other = result at inlines
  cases inlines with
  | @ok _ again same =>
      refine ⟨displaced.kind.symm.trans kind, again, codes, other_inlined, ?_, flat⟩
      have turned : List.Forall₂ (fun second first => first.Displaced .anywhere second) again out :=
        same.flip
      exact Success.forall₂_comp turned encoded fun _ _ _ moved encodes => encodes.displaced moved

/-- Statements side by side. -/
theorem exists_of_forall₂_emits {depth : Nat} {statements : List Statement}
    {codes : List (List UInt8)} (emits : List.Forall₂ (assembler.Emits depth) statements codes) :
    ∃ parts pieces, statements.mapM (assembler.library.inline depth) = .ok parts ∧
      List.Forall₂ assembler.Encodes parts.flatten pieces ∧ pieces.flatten = codes.flatten := by
  induction emits with
  | nil => exact ⟨[], [], rfl, .nil, rfl⟩
  | cons first _ induction =>
      obtain ⟨-, out, front, inlined, encoded, rfl⟩ := first
      obtain ⟨parts, pieces, others, others_encoded, flat⟩ := induction
      refine ⟨out :: parts, front ++ pieces, ?_, List.rel_append encoded others_encoded, ?_⟩
      · rw [List.mapM_cons, inlined, others]
        rfl
      · rw [List.flatten_append, flat, List.flatten_cons]

/-- A call emits what the statements of its body emit; the places in the body do not matter. -/
theorem emits_of_body {depth : Nat} {pseudo : Pseudo} {body : List Statement}
    {codes : List (List UInt8)} (kind : statement.kind = .instruction)
    (found : assembler.library.find? statement.mnemonic = some pseudo)
    (arity : pseudo.formals.length ≤ statement.args.length)
    (same : List.Forall₂ (Statement.Displaced .anywhere) body pseudo.body)
    (emits : List.Forall₂ (assembler.Emits depth)
      (body.map (Pseudo.bindStatement (pseudo.binding statement.args) statement.location)) codes) :
    assembler.Emits (depth + 1) statement codes.flatten := by
  have bound (binding : Dictionary Lexeme) :
      List.Forall₂ (Pseudo.EntriesDisplaced .anywhere) binding binding :=
    List.forall₂_same.mpr fun entry _ => ⟨rfl, entry.2.displaced_refl⟩
  have moved : List.Forall₂ (assembler.Emits depth)
      (pseudo.body.map (Pseudo.bindStatement (pseudo.binding statement.args) statement.location))
      codes := by
    rw [List.forall₂_map_left_iff] at emits ⊢
    refine Success.forall₂_comp same.flip emits fun _ _ _ displaced emitted => ?_
    exact emitted.displaced (Pseudo.displaced_bindStatement (bound _) _ _ displaced)
  obtain ⟨parts, pieces, inlined, encoded, flat⟩ := exists_of_forall₂_emits moved
  refine ⟨kind, parts.flatten, pieces, ?_, encoded, flat⟩
  rw [Library.inline_of_call (by simp [kind]) found, if_neg (by omega)]
  rw [List.mapM_map] at inlined
  exact congrArg (Except.map List.flatten) inlined

/-! ## Programs -/

section Programs

variable {statements folded : List Statement} {codes : List (List UInt8)}

theorem qualify_of_encodes (encodes : List.Forall₂ assembler.Encodes statements codes) :
    Scope.qualify statements = statements := by
  unfold Scope.qualify
  induction encodes with
  | nil => rfl
  | @cons statement _ _ _ first _ induction =>
      have still : Scope.after "" statement = "" := if_neg (by simp [first.kind])
      rw [Scope.qualifyFrom, Scope.qualifyStatement_empty, still, induction]

theorem placeFrom_of_encodes (encodes : List.Forall₂ assembler.Encodes statements codes)
    (layout : Layout) (address : UInt64) :
    Placement.placeFrom layout (some assembler.set.encodedSize) address [] statements =
      .ok { code := statements, labels := [] } := by
  induction encodes generalizing address with
  | nil => rfl
  | cons first _ induction =>
      obtain ⟨size, sized⟩ := first.exists_statementSize layout
      rw [Placement.placeFrom_of_code first.isCode, sized]
      change Except.map _ _ = _
      rw [induction]
      rfl

private theorem exists_foldAll_of_encodes
    (encodes : List.Forall₂ assembler.Encodes statements codes) :
    ∃ folded, Statement.foldAll statements = .ok folded ∧
      List.Forall₂ (fun statement code => Encoding.encode assembler.set statement = .ok code)
        folded codes := by
  induction encodes with
  | nil => exact ⟨[], rfl, .nil⟩
  | cons first _ induction =>
      obtain ⟨statement, first_folded, first_encoded⟩ := first.code
      obtain ⟨folded, others_folded, others_encoded⟩ := induction
      refine ⟨statement :: folded, ?_, .cons first_encoded others_encoded⟩
      rw [Statement.foldAll] at others_folded ⊢
      rw [List.mapM_cons, first_folded, others_folded]
      rfl

private theorem exists_generateFrom {set : InstructionSet}
    (encoded : List.Forall₂ (fun statement code => Encoding.encode set statement = .ok code)
      folded codes) (offset : Nat) :
    ∃ image, Image.generateFrom set offset folded = .ok image ∧ image.bytes = codes.flatten := by
  induction encoded generalizing offset with
  | nil => exact ⟨{}, rfl, rfl⟩
  | @cons statement code _ _ first _ induction =>
      obtain ⟨image, generated, bytes⟩ := induction (offset + code.length)
      refine ⟨⟨code ++ image.bytes, .ofCode statement offset code :: image.records⟩, ?_, ?_⟩
      · rw [Image.generateFrom, first]
        change (Image.generateFrom _ _ _ >>= _) = _
        rw [generated]
        rfl
      · rw [List.flatten_cons, ← bytes]

private theorem exists_assembleStatements
    (emits : List.Forall₂ (assembler.Emits Library.depthLimit) statements codes)
    (layout : Layout) :
    ∃ assembly, (assembler.target layout).assembleStatements assembler.set statements =
      .ok assembly ∧ assembly.image.bytes = codes.flatten := by
  obtain ⟨parts, pieces, inlined, encodes, flat⟩ := exists_of_forall₂_emits emits
  have expanded : assembler.library.expand statements = .ok parts.flatten := by
    have instructions : ∀ statement ∈ statements, statement.kind = .instruction := by
      intro statement member
      obtain ⟨_, _, emitted⟩ := Success.exists_input_of_forall₂ emits.flip member
      exact emitted.1
    have replaced : statements.mapM assembler.library.expandStatement = .ok parts := by
      rw [Success.mapM_eq_ok] at inlined ⊢
      have each := (List.forall₂_and_left _ _).mpr ⟨instructions, inlined⟩
      refine each.imp fun statement part ⟨kind, inlined⟩ => ?_
      rwa [Library.expandStatement, if_neg (by simp [kind])]
    rw [Library.expand, replaced]
    rfl
  have placed : (assembler.target layout).place parts.flatten =
      .ok { code := parts.flatten, labels := [] } := by
    rw [Target.place, qualify_of_encodes encodes]
    exact placeFrom_of_encodes encodes layout 0
  have unchanged : Labels.substitute [] parts.flatten = parts.flatten := by
    rw [Labels.substitute]
    refine (List.map_congr_left fun statement _ => ?_).trans (List.map_id _)
    exact Labels.mapArgs_substituteOperand_of_unused (by simp [Dictionary.names])
  obtain ⟨folded, folds, encoded⟩ := exists_foldAll_of_encodes encodes
  obtain ⟨image, generated, bytes⟩ := exists_generateFrom encoded 0
  have finished : Target.finish { code := parts.flatten, labels := [] } =
      .ok { statements := folded, labels := [] } := by
    rw [Target.finish]
    change (Statement.foldAll (Labels.substitute [] parts.flatten) >>= _) = _
    rw [unchanged, folds]
    rfl
  refine ⟨{ image, labels := [] }, ?_, bytes.trans flat⟩
  simp only [Target.assembleStatements, Success.bind_eq_ok]
  exact ⟨_, expanded, _, placed, _, finished, image, generated, rfl⟩

/-- The text is assembled into the bytes, in every layout and under every name of a file. -/
def Gives (assembler : Assembler) (text : String) (bytes : List UInt8) : Prop :=
  ∀ layout file, ∃ assembly,
    assembler.assemble layout file text = .ok assembly ∧ assembly.image.bytes = bytes

private theorem gives_of_yields {text : String} {lexemes : List Lexeme}
    (yields : Scan.Yields text.toList lexemes) (grouped : Statement.group lexemes = .ok statements)
    (emits : List.Forall₂ (assembler.Emits Library.depthLimit) statements codes) :
    assembler.Gives text codes.flatten := by
  intro layout file
  obtain ⟨others, scanned, displaced⟩ := yields.scan file
  obtain ⟨assembly, assembled, bytes⟩ := exists_assembleStatements emits layout
  have by_lexemes : assembler.assembleLexemes layout lexemes =
      Statement.group lexemes >>=
        (assembler.target layout).assembleStatements assembler.set := by
    simp only [assembleLexemes, Target.resolve, bind_assoc]
    rfl
  have ends := assembler.displaced_assembleLexemes layout displaced
  rw [by_lexemes, grouped] at ends
  change Displacement.anywhere.Ends _ (Target.assembleStatements _ _ _) _ at ends
  rw [assembled] at ends
  generalize other_assembled : assembler.assembleLexemes layout others = result at ends
  cases ends with
  | @ok _ other same =>
      refine ⟨other, ?_, same.image.bytes.symm.trans bytes⟩
      rw [assemble_eq_assembleLexemes, scanned]
      exact other_assembled

/-- The text of an instruction gives what the instruction emits.  The one that is read may have
places of its own. -/
theorem Emits.gives_render {written : Statement} {part : List Lexeme}
    (emits : assembler.Emits Library.depthLimit statement code)
    (displaced : statement.Displaced .anywhere written)
    (derives : Statement.IsInstruction part written) (spelled : Lexeme.AllSpelled part)
    (stringFree : ∀ arg ∈ written.args, arg.isStringFree = true) :
    assembler.Gives statement.render code := by
  have yields := derives.yields spelled stringFree
  have grouped := Statement.group_of_isProgram (.last derives)
  have gives := gives_of_yields yields grouped (.cons (emits.displaced displaced) .nil)
  rw [displaced.render_eq]
  rwa [List.flatten_singleton] at gives

end Programs

end Assembler
end TableAssembler
