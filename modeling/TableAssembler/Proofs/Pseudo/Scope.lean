import TableAssembler.Proofs.Label.Scope
import TableAssembler.Proofs.Lexeme.Name
import TableAssembler.Proofs.Pseudo.Expansion

/-!
# Local names in calls

A local name in an argument belongs to the scope of the call, however deep the argument is handed
on.  Where the bodies of a library use no local names of their own, it therefore does not matter
whether the names of a program are completed before its calls are expanded or afterwards.
-/

namespace TableAssembler

namespace Statement

@[simp]
theorem location_mapArgs (change : Lexeme → Lexeme) (statement : Statement) :
    (statement.mapArgs change).location = statement.location := by
  rw [location, name_mapArgs, location]

@[simp]
theorem mnemonic_mapArgs (change : Lexeme → Lexeme) (statement : Statement) :
    (statement.mapArgs change).mnemonic = statement.mnemonic := by
  rw [mnemonic, name_mapArgs, mnemonic]

theorem args_mapArgs {statement : Statement} (instruction : statement.kind = .instruction)
    (change : Lexeme → Lexeme) :
    (statement.mapArgs change).args = statement.args.map change := by
  rw [mapArgs, if_pos instruction]

/-- The statement is a label or an instruction, as every statement that is read from text. -/
def Classified (statement : Statement) : Prop :=
  statement.kind = .label ∨ statement.kind = .instruction

theorem Writable.classified {statement : Statement} (writable : statement.Writable) :
    statement.Classified :=
  writable.kind.imp_left And.left

end Statement

/-! ## Calls -/

namespace Pseudo

/-- The body leaves the scopes of its calls alone. -/
structure LeavesScopes (pseudo : Pseudo) : Prop where
  /-- No parameter stands in the place of a name. -/
  name : ∀ statement ∈ pseudo.body, statement.name.value ∉ pseudo.formals
  /-- The operands use no local names but parameters. -/
  args : ∀ statement ∈ pseudo.body, ∀ identifier ∈ statement.identifiers,
    identifier.isLocal = true → identifier.value ∈ pseudo.formals

instance (pseudo : Pseudo) : Decidable pseudo.LeavesScopes :=
  decidable_of_iff (_ ∧ _) ⟨fun both => ⟨both.1, both.2⟩, fun leaves => ⟨leaves.1, leaves.2⟩⟩

variable {pseudo : Pseudo} {statement : Statement} {args : List Lexeme}

private theorem binding_map (pseudo : Pseudo) (change : Lexeme → Lexeme) (args : List Lexeme) :
    pseudo.binding (args.map change) =
      (pseudo.binding args).map fun entry => (entry.1, change entry.2) := by
  unfold binding
  rw [List.map_reverse, List.zip_map_right]
  rfl

theorem LeavesScopes.bindIdentifier_eq (leaves : pseudo.LeavesScopes)
    (member : statement ∈ pseudo.body) (arity : pseudo.formals.length ≤ args.length)
    {identifier : Lexeme} (used : identifier ∈ statement.identifiers) (scope : String) :
    bindIdentifier (pseudo.binding (args.map (Scope.qualifyOperand scope))) identifier =
      Scope.qualifyOperand scope (bindIdentifier (pseudo.binding args) identifier) := by
  unfold bindIdentifier
  rw [binding_map, Dictionary.find?_map_value]
  cases found : Dictionary.find? (pseudo.binding args) identifier.value with
  | some actual => rfl
  | none =>
      have no_parameter : identifier.value ∉ pseudo.formals := fun formal => by
        simpa [found] using isSome_find?_binding arity formal
      have global : identifier.isLocal ≠ true :=
        mt (leaves.args statement member identifier used) no_parameter
      obtain ⟨arg, -, within⟩ := List.mem_flatMap.mp used
      have kind := Lexeme.kind_of_mem_identifiers within
      simp only [Option.map_none, Option.getD_none]
      rw [Scope.qualifyOperand, Lexeme.mapIdentifiers_of_identifier kind, Scope.qualifyLexeme,
        if_neg global]

theorem LeavesScopes.bindStatement_eq (leaves : pseudo.LeavesScopes)
    (member : statement ∈ pseudo.body) (arity : pseudo.formals.length ≤ args.length)
    (instruction : statement.kind = .instruction) (location : Location) (scope : String) :
    bindStatement (pseudo.binding (args.map (Scope.qualifyOperand scope))) location statement =
      (bindStatement (pseudo.binding args) location statement).mapArgs
        (Scope.qualifyOperand scope) := by
  have unnamed (args : List Lexeme) :
      Dictionary.find? (pseudo.binding args) statement.name.value = none := by
    exact Dictionary.find?_eq_none_iff.mpr
      (mt mem_formals_of_mem_names (leaves.name statement member))
  have operands : ∀ arg ∈ statement.args,
      arg.mapIdentifiers
          (bindIdentifier (pseudo.binding (args.map (Scope.qualifyOperand scope)))) =
        Scope.qualifyOperand scope
          (arg.mapIdentifiers (bindIdentifier (pseudo.binding args))) := by
    intro arg arg_member
    rw [Scope.qualifyOperand, Lexeme.mapIdentifiers_comp]
    refine Lexeme.mapIdentifiers_congr fun identifier used => ?_
    exact leaves.bindIdentifier_eq member arity
      (List.mem_flatMap.mpr ⟨arg, arg_member, used⟩) scope
  rw [Statement.mapArgs, if_pos (by exact instruction)]
  unfold bindStatement
  rw [unnamed, unnamed, List.map_congr_left operands, List.map_map]
  rfl

end Pseudo

namespace Library

/-! ## Expansion -/

/-- No body of the library takes part in the scopes of a program. -/
def LeavesScopes (library : Library) : Prop :=
  ∀ pseudo ∈ library.pseudos, pseudo.LeavesScopes

instance (library : Library) : Decidable library.LeavesScopes :=
  inferInstanceAs (Decidable (∀ pseudo ∈ library.pseudos, pseudo.LeavesScopes))

/-- The bodies of the library consist of labels and instructions. -/
def Classified (library : Library) : Prop :=
  ∀ pseudo ∈ library.pseudos, ∀ statement ∈ pseudo.body, statement.Classified

theorem classified_of_compile {sources : Dictionary String} {library : Library}
    (compiled : compile sources = .ok library) : library.Classified :=
  fun pseudo pseudo_member statement member =>
    ((parsed_of_compile compiled).writable pseudo pseudo_member statement member).classified

variable {library : Library} {statement : Statement}

theorem LeavesScopes.inline_eq (leaves : library.LeavesScopes) (classified : library.Classified)
    (scope : String) (depth : Nat) (instruction : statement.kind = .instruction) :
    library.inline depth (statement.mapArgs (Scope.qualifyOperand scope)) =
      (library.inline depth statement).map
        (List.map (Statement.mapArgs (Scope.qualifyOperand scope))) := by
  -- Induction on the room for calls: the statements of a body are inlined with less of it.
  induction depth using Nat.strongRecOn generalizing statement with
  | ind depth induction =>
      have no_label : statement.kind ≠ .label := by simp [instruction]
      have still_no_label : (statement.mapArgs (Scope.qualifyOperand scope)).kind ≠ .label := by
        simpa using no_label
      cases found : library.find? statement.mnemonic with
      | none =>
          rw [inline_of_unknown no_label found, inline_of_unknown still_no_label (by simpa)]
          rfl
      | some pseudo =>
          cases depth with
          | zero =>
              unfold inline
              simp only [Statement.kind_mapArgs, Statement.mnemonic_mapArgs,
                Statement.location_mapArgs, if_neg no_label, found]
              rfl
          | succ room =>
              have pseudo_member := List.mem_of_find?_eq_some found
              have pseudo_leaves := leaves pseudo pseudo_member
              rw [inline_of_call no_label found, inline_of_call still_no_label (by simpa),
                Statement.args_mapArgs instruction, Statement.location_mapArgs, List.length_map]
              split_ifs with missing
              · rfl
              · have parts : ∀ inner ∈ pseudo.body,
                    library.inline room (Pseudo.bindStatement
                        (pseudo.binding (statement.args.map (Scope.qualifyOperand scope)))
                        statement.location inner) =
                      (library.inline room (Pseudo.bindStatement
                        (pseudo.binding statement.args) statement.location inner)).map
                        (List.map (Statement.mapArgs (Scope.qualifyOperand scope))) := by
                  intro inner member
                  rcases classified pseudo pseudo_member inner member with label | inner_instruction
                  · -- A label is refused at the place of the call, whatever its arguments are.
                    rw [inline_of_label (by exact label), inline_of_label (by exact label)]
                    rfl
                  · rw [pseudo_leaves.bindStatement_eq member (by omega) inner_instruction]
                    exact induction room (Nat.lt_succ_self room) inner_instruction
                rw [Success.mapM_eq_map parts, Success.map_map, Success.map_map]
                simp only [List.map_flatten]

/-! ## Programs -/

private theorem no_label_of_inline {part : List Statement} (other : statement.kind ≠ .label)
    (inlined : library.inline depthLimit statement = .ok part) :
    ∀ inner ∈ part, inner.kind ≠ .label := by
  have expanded : library.expand [statement] = .ok part := by
    rw [expand, List.mapM_cons, expandStatement, if_neg other, inlined]
    exact congrArg Except.ok (by simp)
  exact forall_mem_of_expand expanded (fun _ _ _ _ _ _ no_label => no_label) (by simpa using other)

/-- A statement of a program is completed along with what it stands for, and both leave the same
scope behind. -/
theorem LeavesScopes.expandStatement_eq (leaves : library.LeavesScopes)
    (classified : library.Classified) (scope : String) (kind : statement.Classified) :
    library.expandStatement (Scope.qualifyStatement scope statement) =
        (library.expandStatement statement).map (Scope.qualifyFrom scope) ∧
      ∀ part, library.expandStatement statement = .ok part →
        part.foldl Scope.after scope = Scope.after scope statement := by
  unfold expandStatement
  rw [Scope.kind_qualifyStatement]
  rcases kind with label | instruction
  · rw [if_pos label, if_pos label]
    refine ⟨rfl, fun part kept => ?_⟩
    obtain rfl := Except.ok.inj kept
    rfl
  · have other : statement.kind ≠ .label := by simp [instruction]
    rw [if_neg other, if_neg other, Scope.qualifyStatement, if_neg other,
      leaves.inline_eq classified scope depthLimit instruction]
    cases inlined : library.inline depthLimit statement with
    | error fault => exact ⟨rfl, fun part failed => by contradiction⟩
    | ok part =>
        obtain ⟨qualified, kept⟩ :=
          Scope.qualifyFrom_of_no_label scope (no_label_of_inline other inlined)
        refine ⟨congrArg Except.ok qualified.symm, fun part' same => ?_⟩
        obtain rfl := Except.ok.inj same
        rw [kept, Scope.after_of_ne_label other]

theorem LeavesScopes.expand_qualifyFrom (leaves : library.LeavesScopes)
    (classified : library.Classified) (scope : String) {program : List Statement}
    (kinds : ∀ statement ∈ program, statement.Classified) :
    library.expand (Scope.qualifyFrom scope program) =
      (library.expand program).map (Scope.qualifyFrom scope) := by
  induction program generalizing scope with
  | nil => rfl
  | cons statement program induction =>
      obtain ⟨first, others⟩ := List.forall_mem_cons.mp kinds
      obtain ⟨first_eq, behind⟩ := leaves.expandStatement_eq classified scope first
      rw [Scope.qualifyFrom, expand_cons, expand_cons, first_eq, induction _ others]
      cases expanded : library.expandStatement statement with
      | error fault => rfl
      | ok part =>
          cases library.expand program with
          | error fault => rfl
          | ok rest =>
              refine congrArg Except.ok ?_
              rw [Scope.qualifyFrom_append, behind part expanded]

/-- Names can be completed before calls are expanded or afterwards, with the same statements or the
same fault.  The bodies of a library that is compiled from texts are always classified. -/
theorem expand_qualify_comm {library : Library} (classified : library.Classified)
    (leaves : library.LeavesScopes) {lexemes : List Lexeme} {program : List Statement}
    (grouped : Statement.group lexemes = .ok program) :
    library.expand (Scope.qualify program) = (library.expand program).map Scope.qualify :=
  leaves.expand_qualifyFrom classified "" fun statement member =>
    ((Statement.group_eq_ok_iff.mp grouped).writable statement member).classified

/-- Calls that hand their arguments on, inside a closure and under the name of a local label. -/
def handingOn : Dictionary String :=
  [("jump .to, by", "b .to, (by + start)"), ("both a, b", "jump (a - 1), b\njump b, a")]

theorem expand_qualify_comm_handingOn :
    ∃ library lexemes program, compile handingOn = .ok library ∧ library.Classified ∧
      library.LeavesScopes ∧ Lexeme.scan "a.s" "main:\n.x: both .x, (.y + 2)\nend:\njump .x, 0" =
        .ok lexemes ∧
      Statement.group lexemes = .ok program ∧
      ((library.expand program).map Scope.qualify).map (·.map Statement.render) =
        .ok ["main:", "main.x:", "b (main.x - 1), ((main.y + 2) + start)",
          "b (main.y + 2), (main.x + start)", "end:", "b end.x, (0 + start)"] ∧
      library.expand (Scope.qualify program) = (library.expand program).map Scope.qualify := by
  have evaluated : (compile handingOn >>= fun library =>
      Lexeme.scan "a.s" "main:\n.x: both .x, (.y + 2)\nend:\njump .x, 0" >>= fun lexemes =>
        (Statement.group lexemes).map fun program =>
          (decide library.LeavesScopes,
            ((library.expand program).map Scope.qualify).map (·.map Statement.render))) =
      .ok (true, .ok ["main:", "main.x:", "b (main.x - 1), ((main.y + 2) + start)",
        "b (main.y + 2), (main.x + start)", "end:", "b end.x, (0 + start)"]) := by
    decide +kernel
  obtain ⟨library, compiled, computed⟩ := Success.bind_eq_ok.mp evaluated
  obtain ⟨lexemes, scanned, computed⟩ := Success.bind_eq_ok.mp computed
  obtain ⟨program, grouped, observed⟩ := Success.map_eq_ok.mp computed
  simp only [Prod.mk.injEq, decide_eq_true_eq] at observed
  obtain ⟨leaves, rendered⟩ := observed
  have classified := classified_of_compile compiled
  exact ⟨library, lexemes, program, compiled, classified, leaves, scanned, grouped, rendered,
    expand_qualify_comm classified leaves grouped⟩

end Library
end TableAssembler
