import TableAssembler.Proofs.Label.Fresh
import TableAssembler.Proofs.Lexeme.Spelling
import TableAssembler.Proofs.Pseudo.Scope

/-!
# Full names are final

Completing the names of a program a second time changes nothing, and behind the first label
without a dot no name starts with a dot any more.  The second pass has other scopes than the first
one: a full name of a label counts as global by then and opens a scope.  That makes no difference,
because a scope with a name has left nothing to complete, and in front of the first such scope
both passes leave every name as it is.
-/

namespace TableAssembler

/-! ## Dotted names -/

namespace Lexeme

/-- The text of the lexeme starts with a dot. -/
def isDotted (lexeme : Lexeme) : Bool := lexeme.value.toList.head? == some '.'

theorem isLocal_eq_isDotted {lexeme : Lexeme} (identifier : lexeme.kind = .identifier) :
    lexeme.isLocal = lexeme.isDotted := by
  simp [isLocal, isDotted, identifier]

/-- Identifiers that are read from text have a character. -/
theorem value_ne_of_scan {file text : String} {lexemes : List Lexeme}
    (scanned : scan file text = .ok lexemes) :
    ∀ lexeme ∈ lexemes, lexeme.kind = .identifier → lexeme.value ≠ "" := by
  intro lexeme member identifier empty
  obtain ⟨characters, spelled⟩ := spelled_of_scan scanned lexeme member
  have nothing : characters = [] := by
    rw [← spelled.value_eq identifier, empty]
    rfl
  subst nothing
  cases spelled

end Lexeme

namespace Statement

/-- The names in a statement: that of a label, and the identifiers in the operands of an
instruction, at any depth of their closures. -/
def names (statement : Statement) : List Lexeme :=
  if statement.kind = .label then [statement.name] else statement.identifiers

end Statement

namespace Scope

variable {scope other : String} {statement : Statement} {program : List Statement}

/-! ## Scopes with a name -/

/-- The scope has a name, and what the name stands in front of does not start with a dot. -/
def Completes (scope : String) : Prop := ∃ c ∈ scope.toList.head?, c ≠ '.'

/-- A name with a character completes others unless it starts with a dot. -/
theorem completes_of_isDotted {name : Lexeme} (named : name.value ≠ "")
    (undotted : name.isDotted = false) : Completes name.value := by
  cases characters : name.value.toList with
  | nil => exact absurd (String.toList_eq_nil_iff.mp characters) named
  | cons c rest =>
      refine ⟨c, by rw [characters]; rfl, ?_⟩
      simpa [Lexeme.isDotted, characters] using undotted

theorem Completes.isLocal_qualifyLexeme (completes : Completes scope) (lexeme : Lexeme) :
    (qualifyLexeme scope lexeme).isLocal = false := by
  obtain ⟨c, head, no_dot⟩ := completes
  rw [Option.mem_def] at head
  unfold qualifyLexeme
  split_ifs with is_local
  · simp [Lexeme.isLocal, head, no_dot]
  · simpa using is_local

/-- No identifier of an operand is local behind a scope with a name. -/
theorem Completes.isLocal_of_mem (completes : Completes scope) {operand identifier : Lexeme}
    (used : identifier ∈ (qualifyOperand scope operand).identifiers) :
    identifier.isLocal = false := by
  rw [qualifyOperand, Lexeme.identifiers_mapIdentifiers, List.mem_flatMap] at used
  obtain ⟨original, member, used⟩ := used
  have kind : (qualifyLexeme scope original).kind = .identifier :=
    (kind_qualifyLexeme scope original).trans (Lexeme.kind_of_mem_identifiers member)
  rw [Lexeme.identifiers_of_identifier kind, List.mem_singleton] at used
  rw [used]
  exact completes.isLocal_qualifyLexeme original

theorem qualifyLexeme_of_isLocal {lexeme : Lexeme} (global : lexeme.isLocal = false) :
    qualifyLexeme scope lexeme = lexeme := by
  simp [qualifyLexeme, global]

theorem Completes.qualifyOperand_qualifyOperand (completes : Completes scope) (other : String)
    (operand : Lexeme) :
    qualifyOperand other (qualifyOperand scope operand) = qualifyOperand scope operand :=
  Lexeme.mapIdentifiers_eq_self fun _ used =>
    qualifyLexeme_of_isLocal (completes.isLocal_of_mem used)

/-! ## Without a scope -/

private theorem qualifyLexeme_empty (lexeme : Lexeme) : qualifyLexeme "" lexeme = lexeme := by
  unfold qualifyLexeme
  split_ifs
  · rw [String.empty_append]
    cases lexeme
    rfl
  · rfl

theorem mapArgs_eq_self {change : Lexeme → Lexeme}
    (keeps : statement.kind = .instruction → ∀ arg ∈ statement.args, change arg = arg) :
    statement.mapArgs change = statement := by
  unfold Statement.mapArgs
  split_ifs with instruction
  · rw [List.map_congr_left (keeps instruction), List.map_id']
  · rfl

theorem qualifyStatement_empty (statement : Statement) :
    qualifyStatement "" statement = statement := by
  unfold qualifyStatement
  split_ifs
  · rw [qualifyLexeme_empty]
  · exact mapArgs_eq_self fun _ arg _ => qualifyOperand_empty arg

/-- In front of the first global label nothing is completed. -/
theorem qualifyFrom_empty_append {front : List Statement}
    (no_scope : ∀ statement ∈ front, isGlobalLabel statement = false) (back : List Statement) :
    qualifyFrom "" (front ++ back) = front ++ qualifyFrom "" back := by
  induction front with
  | nil => rfl
  | cons statement front induction =>
      obtain ⟨first, others⟩ := List.forall_mem_cons.mp no_scope
      have still : after "" statement = "" := by
        refine if_neg fun ⟨label, global⟩ => ?_
        simp [isGlobalLabel, Statement.isLabel, label, global] at first
      rw [List.cons_append, qualifyFrom, qualifyStatement_empty, still, induction others,
        List.cons_append]

/-! ## Two passes -/

/-- The second pass is in the scope `other` where the first one was in `scope`. -/
inductive Revisits : String → String → Prop
  /-- Neither pass has met a scope with a name. -/
  | front : Revisits "" ""
  | behind {scope other : String} : Completes scope → Revisits scope other

theorem Revisits.qualifyStatement_eq (revisits : Revisits scope other) (statement : Statement) :
    qualifyStatement other (qualifyStatement scope statement) =
      qualifyStatement scope statement := by
  cases revisits with
  | front => rw [qualifyStatement_empty, qualifyStatement_empty]
  | behind completes =>
      have same_kind := kind_qualifyStatement scope statement
      by_cases label : statement.kind = .label
      · have completed : qualifyLexeme other (qualifyStatement scope statement).name =
            (qualifyStatement scope statement).name := by
          rw [qualifyStatement, if_pos label]
          exact qualifyLexeme_of_isLocal (completes.isLocal_qualifyLexeme statement.name)
        rw [qualifyStatement, if_pos (same_kind.trans label), completed]
      · rw [qualifyStatement, if_neg (same_kind ▸ label)]
        refine mapArgs_eq_self fun instruction arg member => ?_
        rw [qualifyStatement, if_neg label,
          Statement.args_mapArgs (same_kind.symm.trans instruction), List.mem_map] at member
        obtain ⟨operand, -, rfl⟩ := member
        exact completes.qualifyOperand_qualifyOperand other operand

theorem Revisits.after (revisits : Revisits scope other)
    (identifier : statement.kind = .label → statement.name.kind = .identifier) :
    Revisits (after scope statement) (Scope.after other (qualifyStatement scope statement)) := by
  by_cases label : statement.kind = .label
  · have completed : (qualifyStatement scope statement).name =
        qualifyLexeme scope statement.name := by
      rw [qualifyStatement, if_pos label]
    by_cases is_local : statement.name.isLocal
    · have same : Scope.after scope statement = scope := if_neg fun both => both.2 is_local
      rw [same]
      cases revisits with
      | front =>
          rw [qualifyStatement_empty, same]
          exact .front
      | behind completes => exact .behind completes
    · have global : statement.name.isLocal = false := by simpa using is_local
      rw [qualifyLexeme_of_isLocal global] at completed
      have opened (before : String) (opening : Statement) (name : opening.name = statement.name)
          (kind : opening.kind = .label) :
          Scope.after before opening = statement.name.value := by
        rw [Scope.after, name, if_pos ⟨kind, is_local⟩]
      rw [opened scope statement rfl label, opened other _ completed (by simp [label])]
      by_cases named : statement.name.value = ""
      · rw [named]
        exact .front
      · rw [Lexeme.isLocal_eq_isDotted (identifier label)] at global
        exact .behind (completes_of_isDotted named global)
  · rw [after_of_ne_label label, after_of_ne_label (by simpa using label)]
    exact revisits

/-- A program that the first pass has completed is left as it is by the second one. -/
theorem Revisits.qualifyFrom_eq (revisits : Revisits scope other)
    (identifiers : ∀ statement ∈ program, statement.kind = .label →
      statement.name.kind = .identifier) :
    qualifyFrom other (qualifyFrom scope program) = qualifyFrom scope program := by
  induction program generalizing scope other with
  | nil => rfl
  | cons statement program induction =>
      obtain ⟨first, others⟩ := List.forall_mem_cons.mp identifiers
      rw [qualifyFrom, qualifyFrom, revisits.qualifyStatement_eq,
        induction (revisits.after first) others]

/-! ## Behind a scope with a name -/

theorem Completes.isDotted_of_mem (completes : Completes scope) (writable : statement.Writable)
    {name : Lexeme} (member : name ∈ (qualifyStatement scope statement).names) :
    name.isDotted = false := by
  unfold Statement.names at member
  rw [kind_qualifyStatement] at member
  split_ifs at member with label
  · rw [List.mem_singleton, qualifyStatement, if_pos label] at member
    have kind : name.kind = .identifier := by
      rw [member, kind_qualifyLexeme, writable.name]
    rw [← Lexeme.isLocal_eq_isDotted kind, member]
    exact completes.isLocal_qualifyLexeme statement.name
  · have instruction : statement.kind = .instruction :=
      writable.classified.resolve_left label
    rw [Statement.identifiers, qualifyStatement, if_neg label,
      Statement.args_mapArgs instruction, List.flatMap_map, List.mem_flatMap] at member
    obtain ⟨operand, -, used⟩ := member
    rw [← Lexeme.isLocal_eq_isDotted (Lexeme.kind_of_mem_identifiers used)]
    exact completes.isLocal_of_mem used

theorem Completes.after (completes : Completes scope)
    (identifier : statement.name.kind = .identifier)
    (named : statement.name.value ≠ "") : Completes (after scope statement) := by
  unfold Scope.after
  split_ifs with opens
  · have global : statement.name.isLocal = false := by simpa using opens.2
    rw [Lexeme.isLocal_eq_isDotted identifier] at global
    exact completes_of_isDotted named global
  · exact completes

theorem Completes.isDotted_of_mem_qualifyFrom (completes : Completes scope)
    (writable : ∀ statement ∈ program, statement.Writable)
    (named : ∀ statement ∈ program, statement.name.value ≠ "") :
    ∀ statement ∈ qualifyFrom scope program, ∀ name ∈ statement.names,
      name.isDotted = false := by
  induction program generalizing scope with
  | nil => exact fun _ member => absurd member List.not_mem_nil
  | cons statement program induction =>
      obtain ⟨first, others⟩ := List.forall_mem_cons.mp writable
      obtain ⟨first_named, others_named⟩ := List.forall_mem_cons.mp named
      rw [qualifyFrom]
      refine List.forall_mem_cons.mpr
        ⟨fun name member => completes.isDotted_of_mem first member, ?_⟩
      exact induction (completes.after first.name first_named) others others_named

/-! ## Programs -/

/-- Up to its first label without a dot a program stays as it is when its names are completed. -/
def KeepsFront (program : List Statement) : Prop :=
  ∀ front back, program = front ++ back →
    (∀ statement ∈ front, statement.kind = .label → statement.name.isDotted = true) →
    front <+: qualify program

/-- Behind a label without a dot no name starts with a dot when names are completed. -/
def CompletesBehind (program : List Statement) : Prop :=
  ∀ front label back, program = front ++ label :: back → label.kind = .label →
    label.name.isDotted = false →
    ∀ statement ∈ (qualify program).drop (front.length + 1), ∀ name ∈ statement.names,
      name.isDotted = false

private theorem length_qualifyFrom (scope : String) (program : List Statement) :
    (qualifyFrom scope program).length = program.length := by
  induction program generalizing scope with
  | nil => rfl
  | cons statement program induction => simp [qualifyFrom, induction]

/-- Names are completed once and for all.  Identifiers have a character in every text. -/
theorem names_are_final {lexemes : List Lexeme} (grouped : Statement.group lexemes = .ok program) :
    qualify (qualify program) = qualify program ∧ KeepsFront program ∧
      ((∀ lexeme ∈ lexemes, lexeme.kind = .identifier → lexeme.value ≠ "") →
        CompletesBehind program) := by
  have derives := Statement.group_eq_ok_iff.mp grouped
  have writable := derives.writable
  refine ⟨?_, ?_, fun named => ?_⟩
  · exact Revisits.front.qualifyFrom_eq fun statement member _ => (writable statement member).name
  · rintro front back rfl dotted
    refine ⟨qualifyFrom "" back, (qualifyFrom_empty_append (fun statement member => ?_) back).symm⟩
    have identifier := (writable statement (List.mem_append_left back member)).name
    by_cases label : statement.kind = .label
    · simp [isGlobalLabel, Lexeme.isLocal_eq_isDotted identifier, dotted statement member label]
    · simp [isGlobalLabel, Statement.isLabel, label]
  · rintro front label back rfl kind undotted
    have name_ne : ∀ statement ∈ front ++ label :: back, statement.name.value ≠ "" := by
      intro statement member
      have readFrom := derives.readFrom statement member
      exact named statement.name readFrom.name readFrom.name_kind
    have label_member : label ∈ front ++ label :: back := by simp
    have later {statement : Statement} (member : statement ∈ back) :
        statement ∈ front ++ label :: back := by simp [member]
    have opened : after (behind front) label = label.name.value := by
      refine if_pos ⟨kind, ?_⟩
      rw [Lexeme.isLocal_eq_isDotted (writable label label_member).name, undotted]
      exact Bool.false_ne_true
    have rest : (qualify (front ++ label :: back)).drop (front.length + 1) =
        qualifyFrom label.name.value back := by
      rw [qualify_append_cons, opened, ← length_qualifyFrom "" front, ← List.drop_drop]
      exact congrArg (List.drop 1) List.drop_left
    rw [rest]
    have completes := completes_of_isDotted (name_ne label label_member) undotted
    exact completes.isDotted_of_mem_qualifyFrom (fun statement member =>
      writable statement (later member)) fun statement member => name_ne statement (later member)

/-- A local label in front of a global one, and local names behind it that are labels themselves. -/
def nestedScopes : String := ".a: b .a\nmain: b .a\n.b: b (.b + (.a - main))\nend:\n.b: b .b"

theorem names_are_final_nestedScopes :
    ∃ lexemes program, Lexeme.scan "a.s" nestedScopes = .ok lexemes ∧
      Statement.group lexemes = .ok program ∧
      (qualify program).map Statement.render =
        [".a:", "b .a", "main:", "b main.a", "main.b:", "b (main.b + (main.a - main))", "end:",
          "end.b:", "b end.b"] ∧
      qualify (qualify program) = qualify program ∧ KeepsFront program ∧
      CompletesBehind program := by
  have evaluated : (Lexeme.scan "a.s" nestedScopes >>= fun lexemes =>
      (Statement.group lexemes).map fun program => (qualify program).map Statement.render) =
      .ok [".a:", "b .a", "main:", "b main.a", "main.b:", "b (main.b + (main.a - main))", "end:",
        "end.b:", "b end.b"] := by
    decide +kernel
  obtain ⟨lexemes, scanned, computed⟩ := Success.bind_eq_ok.mp evaluated
  obtain ⟨program, grouped, rendered⟩ := Success.map_eq_ok.mp computed
  obtain ⟨again, front, behind⟩ := names_are_final grouped
  exact ⟨lexemes, program, scanned, grouped, rendered, again, front,
    behind (Lexeme.value_ne_of_scan scanned)⟩

end Scope
end TableAssembler
