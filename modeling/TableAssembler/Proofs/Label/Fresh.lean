import TableAssembler.Proofs.Assembly.Resolution
import TableAssembler.Proofs.Lexeme.Name
import TableAssembler.Proofs.Pseudo.Inlining

/-!
# A program with one more label

A global label behind a program changes neither its expansion nor its addresses.  When its name is
new, resolving the longer program gives what the program is resolved to, with the address put in
for the name wherever the name is left: in a closure it cannot be left, since the closure would
have no value.
-/

namespace TableAssembler

/-! ## Operands -/

namespace Lexeme

variable {address? further? : Lexeme → Option UInt64}

theorem HasValue.mono {lexeme : Lexeme} {value : Nat} (hasValue : HasValue address? lexeme value)
    (more : ∀ name address, address? name = some address → further? name = some address) :
    HasValue further? lexeme value := by
  induction hasValue with
  | number read => exact .number read
  | name identifier found => exact .name identifier (more _ _ found)
  | closure closure args kind known _ _ result left_ih right_ih =>
      exact .closure closure args kind known left_ih right_ih result

end Lexeme

namespace Scope

/-- Without a global label in front, names are full. -/
theorem qualifyOperand_empty (operand : Lexeme) : qualifyOperand "" operand = operand := by
  refine Lexeme.mapIdentifiers_eq_self fun lexeme _ => ?_
  unfold qualifyLexeme
  split_ifs
  · rw [String.empty_append]
    cases lexeme
    rfl
  · rfl

end Scope

namespace Labels

private theorem fold_substituteOperand_iff_means {labels : Labels} {operand result : Lexeme} :
    (labels.substituteOperand operand).fold = .ok result ↔
      operand.Means (Dictionary.find? labels) "" result := by
  rw [← fold_substituteOperand_eq_ok_iff, Scope.qualifyOperand_empty]

theorem substituteOperand_of_other {labels : Labels} {operand : Lexeme}
    (no_identifier : operand.kind ≠ .identifier) (no_closure : operand.kind ≠ .closure) :
    labels.substituteOperand operand = operand :=
  Lexeme.mapIdentifiers_of_other no_identifier no_closure

private theorem fold_substituteOperand_append {labels : Labels} {operand result : Lexeme}
    (name : String)
    (address : UInt64) (folded : (labels.substituteOperand operand).fold = .ok result) :
    (Labels.substituteOperand (labels ++ [(name, address)]) operand).fold =
      .ok (Labels.substituteOperand [(name, address)] result) := by
  by_cases identifier : operand.kind = .identifier
  · rw [substituteOperand, Lexeme.mapIdentifiers_of_identifier identifier] at folded ⊢
    unfold substituteIdentifier at folded ⊢
    rw [Dictionary.find?_append]
    cases found : Dictionary.find? labels operand.value with
    | some early =>
        rw [found] at folded
        obtain rfl := Except.ok.inj folded
        rw [substituteOperand_of_other (by simp [Lexeme.ofWord]) (by simp [Lexeme.ofWord])]
        rfl
    | none =>
        rw [found] at folded
        obtain rfl : operand = result := by simpa [Lexeme.fold, identifier] using folded
        rw [Option.none_or, substituteOperand, Lexeme.mapIdentifiers_of_identifier identifier,
          substituteIdentifier]
        cases Dictionary.find? [(name, address)] operand.value with
        | some late => rfl
        | none => simp [Lexeme.fold, identifier]
  · by_cases closure : operand.kind = .closure
    · rw [fold_substituteOperand_iff_means] at folded ⊢
      unfold Lexeme.Means at folded ⊢
      rw [closure] at folded ⊢
      obtain ⟨value, hasValue, rfl⟩ := folded
      have more : ∀ (lexeme : Lexeme) early,
          Dictionary.find? labels (Scope.fullName "" lexeme) = some early →
          Dictionary.find? (labels ++ [(name, address)]) (Scope.fullName "" lexeme) =
            some early := by
        intro lexeme early found
        rw [Dictionary.find?_append, found, Option.some_or]
      refine ⟨value, hasValue.mono more, ?_⟩
      exact substituteOperand_of_other (by simp [Lexeme.ofWord]) (by simp [Lexeme.ofWord])
    · rw [substituteOperand_of_other identifier closure, Lexeme.fold, if_neg closure] at folded ⊢
      obtain rfl := Except.ok.inj folded
      rw [substituteOperand_of_other identifier closure]

theorem fold_mapArgs_append {labels : Labels} {statement result : Statement} (name : String)
    (address : UInt64)
    (folded : (statement.mapArgs labels.substituteOperand).fold = .ok result) :
    (statement.mapArgs (Labels.substituteOperand (labels ++ [(name, address)]))).fold =
      .ok (result.mapArgs (Labels.substituteOperand [(name, address)])) := by
  by_cases instruction : statement.kind = .instruction
  · simp only [Statement.mapArgs, instruction, if_true, Statement.fold, Success.bind_eq_ok,
      Success.pure_eq_ok, Success.mapM_eq_ok, List.forall₂_map_left_iff] at folded ⊢
    obtain ⟨args, each, rfl⟩ := folded
    refine ⟨args.map (Labels.substituteOperand [(name, address)]), ?_, by simp⟩
    rw [List.forall₂_map_right_iff]
    exact each.imp fun _ _ operand => fold_substituteOperand_append name address operand
  · simp only [Statement.mapArgs, instruction, if_false, Statement.fold,
      Except.ok.injEq] at folded ⊢
    subst folded
    rw [if_neg instruction]

end Labels

/-! ## Programs -/

namespace Library

/-- A label behind a program stays behind it. -/
theorem expand_append_label {library : Library} {program out : List Statement}
    (expanded : library.expand program = .ok out) {label : Statement}
    (kind : label.kind = .label) : library.expand (program ++ [label]) = .ok (out ++ [label]) := by
  simp only [expand, Success.bind_eq_ok, Success.pure_eq_ok, Success.mapM_eq_ok] at expanded ⊢
  obtain ⟨parts, each, rfl⟩ := expanded
  have last : library.expandStatement label = .ok [label] := by rw [expandStatement, if_pos kind]
  exact ⟨parts ++ [[label]], List.rel_append each (.cons last .nil), by simp⟩

end Library

namespace Placement

theorem placeFrom_append_label {layout : Layout} {sizer? : Option Sizer} {address : UInt64}
    {labels : Labels} {program : List Statement} {placement : Placement} {label : Statement}
    (placed : placeFrom layout sizer? address labels program = .ok placement)
    (kind : label.kind = .label) (fresh : label.name.value ∉ Dictionary.names placement.labels) :
    ∃ last, placeFrom layout sizer? address labels (program ++ [label]) =
      .ok { placement with labels := placement.labels ++ [(label.name.value, last)] } := by
  induction program generalizing address labels placement with
  | nil =>
      obtain rfl := Except.ok.inj placed
      have unused := Dictionary.find?_eq_none_iff.mpr fresh
      exact ⟨address, by simp [placeFrom, kind, unused]⟩
  | cons statement program induction =>
      dsimp only [List.cons_append, placeFrom] at placed ⊢
      split_ifs at placed ⊢
      · exact induction placed fresh
      · obtain ⟨origin, origin_eq, placed⟩ := Success.bind_eq_ok.mp placed
        rw [origin_eq]
        exact induction placed fresh
      · simp only [Success.bind_eq_ok, Success.pure_eq_ok] at placed
        obtain ⟨size, size_eq, inner, placed, rfl⟩ := placed
        obtain ⟨last, later⟩ := induction placed fresh
        refine ⟨last, ?_⟩
        rw [size_eq]
        simp only [bind, Except.bind, later]
        rfl

end Placement

namespace Target

variable {target : Target}

private theorem finish_append {placement : Placement} {resolution : Resolution} (name : String)
    (address : UInt64) (finished : finish placement = .ok resolution) :
    finish { placement with labels := placement.labels ++ [(name, address)] } =
      .ok ⟨Labels.substitute [(name, address)] resolution.statements,
        resolution.labels ++ [(name, address)]⟩ := by
  obtain ⟨labels_eq, folded⟩ := finish_eq_ok finished
  simp only [finish, Success.bind_eq_ok, Success.pure_eq_ok, Statement.foldAll,
    Success.mapM_eq_ok, Labels.substitute, List.forall₂_map_left_iff]
  refine ⟨resolution.statements.map
    (Statement.mapArgs (Labels.substituteOperand [(name, address)])), ?_, by rw [labels_eq]⟩
  rw [List.forall₂_map_right_iff]
  exact folded.imp fun _ _ statement => Labels.fold_mapArgs_append name address statement

/-- A program is resolved as it is without a new global label behind it, up to the places where
the name is left. -/
theorem resolve_append_label {lexemes others : List Lexeme} {program : List Statement}
    {name : Lexeme} {resolution : Resolution} (grouped : Statement.group lexemes = .ok program)
    (grouped_others : Statement.group others = .ok (program ++ [.label name]))
    (resolved : target.resolve lexemes = .ok resolution) (global : name.isLocal = false)
    (fresh : name.value ∉ Dictionary.names resolution.labels) :
    ∃ address, target.resolve others =
      .ok ⟨Labels.substitute [(name.value, address)] resolution.statements,
        resolution.labels ++ [(name.value, address)]⟩ := by
  simp only [resolve, grouped, Success.bind_eq_ok, Except.ok.injEq] at resolved
  obtain ⟨_, rfl, out, expanded, placement, placed, finished⟩ := resolved
  obtain ⟨labels_eq, -⟩ := finish_eq_ok finished
  rw [labels_eq] at fresh
  have kind : (Statement.label name).kind = .label := rfl
  have qualified : Scope.qualify (out ++ [.label name]) = Scope.qualify out ++ [.label name] := by
    have no_local : ¬ (Statement.label name).name.isLocal = true := Bool.eq_false_iff.mp global
    rw [Scope.qualify_append_singleton, Scope.qualifyStatement, if_pos kind, Scope.qualifyLexeme,
      if_neg no_local]
  obtain ⟨address, placed_label⟩ := Placement.placeFrom_append_label placed kind fresh
  rw [← qualified] at placed_label
  refine ⟨address, ?_⟩
  simp only [resolve, Success.bind_eq_ok]
  exact ⟨_, grouped_others, _, Library.expand_append_label expanded kind, _, placed_label,
    finish_append name.value address finished⟩

end Target
end TableAssembler
