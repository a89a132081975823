import TableAssembler.Proofs.Encoding.Symbol
import TableAssembler.Proofs.Lexeme.Name
import TableAssembler.Proofs.Pseudo.Expansion
import TableAssembler.Proofs.Statement.Grouping
import TableAssembler.Proofs.Statement.Lines

/-!
# Labels that a program does not use

A label behind a program whose name the program does not use leaves the bytes of the program as
they are, or it takes a name away from a table: pseudo-instructions write names of their own, and
an address is put in for them too.  Only names that some body writes can be taken away like that.
-/

namespace TableAssembler

/-! ## Names that are new -/

/-- The name is not one of the identifiers among lexemes. -/
def Lexeme.Unused (name : String) (lexemes : List Lexeme) : Prop :=
  ∀ lexeme ∈ lexemes, lexeme.kind = .identifier → lexeme.value ≠ name

instance (name : String) (lexemes : List Lexeme) : Decidable (Lexeme.Unused name lexemes) :=
  inferInstanceAs
    (Decidable (∀ lexeme ∈ lexemes, lexeme.kind = .identifier → lexeme.value ≠ name))

namespace Scope

/-- The full name of a local name has a dot. -/
theorem fullName_ne_of_no_dot {scope name : String} {lexeme : Lexeme} (no_dot : '.' ∉ name.toList)
    (different : lexeme.value ≠ name) : fullName scope lexeme ≠ name := by
  unfold fullName
  split_ifs with is_local
  · rintro rfl
    have dotted : lexeme.value.toList.head? = some '.' := by
      simpa using ((Bool.and_eq_true _ _).mp is_local).2
    obtain ⟨rest, characters⟩ := List.head?_eq_some_iff.mp dotted
    exact no_dot (by simp [characters])
  · exact different

end Scope

namespace Library

/-- Labels of an expanded program are labels of the program. -/
theorem label_mem_of_expand {library : Library} {program out : List Statement}
    (expanded : library.expand program = .ok out) :
    ∀ statement ∈ out, statement.kind = .label → statement ∈ program :=
  forall_mem_of_expand expanded
    (fun _ _ _ _ _ _ no_label inner member label => absurd label (no_label inner member))
    fun _ member _ => member

/-- Some body writes the name, and not for one of its parameters. -/
def Writes (library : Library) (name : String) : Prop :=
  ∃ pseudo ∈ library.pseudos, ∃ statement ∈ pseudo.body, ∃ identifier ∈ statement.identifiers,
    identifier.value = name ∧ name ∉ pseudo.formals

instance (library : Library) (name : String) : Decidable (library.Writes name) :=
  inferInstanceAs (Decidable (∃ pseudo ∈ library.pseudos, ∃ statement ∈ pseudo.body,
    ∃ identifier ∈ statement.identifiers, identifier.value = name ∧ name ∉ pseudo.formals))

/-- The name is used in no operand of the statement. -/
abbrev Avoids (name : String) (statement : Statement) : Prop :=
  ∀ identifier ∈ statement.identifiers, identifier.value ≠ name

end Library

namespace Pseudo

private theorem avoids_of_bind {pseudo : Pseudo} {call : Statement} {out : List Statement}
    {name : String} (body : ∀ statement ∈ pseudo.body, ∀ identifier ∈ statement.identifiers,
      identifier.value = name → name ∈ pseudo.formals)
    (call_avoids : Library.Avoids name call) (bound : pseudo.bind call = .ok out) :
    ∀ statement ∈ out, Library.Avoids name statement := by
  obtain ⟨arity, rfl⟩ := bind_eq_ok_iff.mp bound
  refine List.forall_mem_map.mpr fun statement member => ?_
  intro identifier used same
  simp only [Statement.identifiers, bindStatement, List.flatMap_map, List.mem_flatMap,
    Lexeme.identifiers_mapIdentifiers] at used
  obtain ⟨arg, arg_member, written, written_member, used⟩ := used
  unfold bindIdentifier at used
  cases found : Dictionary.find? (pseudo.binding call.args) written.value with
  | some actual =>
      rw [found] at used
      have actual_member := mem_of_find?_binding found
      exact call_avoids identifier (List.mem_flatMap.mpr ⟨actual, actual_member, used⟩) same
  | none =>
      -- The body wrote the name itself, so it is a parameter and would have been replaced.
      rw [found, Option.getD_none,
        Lexeme.identifiers_of_identifier (Lexeme.kind_of_mem_identifiers written_member),
        List.mem_singleton] at used
      subst used
      have formal := body statement member identifier
        (List.mem_flatMap.mpr ⟨arg, arg_member, written_member⟩) same
      have present := isSome_find?_binding arity formal
      rw [← same, found] at present
      contradiction

end Pseudo

namespace Library

theorem avoids_of_expand {library : Library} {name : String} {program out : List Statement}
    (foreign : ¬ library.Writes name) (expanded : library.expand program = .ok out)
    (avoids : ∀ statement ∈ program, Avoids name statement) :
    ∀ statement ∈ out, Avoids name statement := by
  refine forall_mem_of_expand expanded (fun call pseudo _ call_avoids found bound _ => ?_) avoids
  refine Pseudo.avoids_of_bind ?_ call_avoids bound
  intro statement member identifier used same
  by_contra own
  exact foreign ⟨pseudo, List.mem_of_find?_eq_some found, statement, member, identifier, used,
    same, own⟩

end Library

namespace Target

variable {target : Target}

/-- A global name that is not written in a program is none of its labels. -/
theorem not_mem_names_of_resolve {lexemes : List Lexeme} {resolution : Resolution} {name : String}
    (no_dot : '.' ∉ name.toList) (unused : Lexeme.Unused name lexemes)
    (resolved : target.resolve lexemes = .ok resolution) :
    name ∉ Dictionary.names resolution.labels := by
  simp only [resolve, Success.bind_eq_ok] at resolved
  obtain ⟨program, grouped, out, expanded, placement, placed, finished⟩ := resolved
  have denotes := denotes_of_finish placed finished
  rw [denotes.names]
  rintro ⟨front, label, back, rfl, is_label, same⟩
  have kind : label.kind = .label := by simpa [Statement.isLabel] using is_label
  have member : label ∈ program :=
    Library.label_mem_of_expand expanded label (List.mem_append_right _ List.mem_cons_self) kind
  have readFrom := (Statement.group_eq_ok_iff.mp grouped).readFrom label member
  exact Scope.fullName_ne_of_no_dot no_dot
    (unused label.name readFrom.name readFrom.name_kind) same

end Target

theorem Lexeme.Means.is_eq_false {labels : Labels} {scope name : String}
    {operand result : Lexeme} (means : operand.Means (Dictionary.find? labels) scope result)
    (no_dot : '.' ∉ name.toList)
    (avoids : ∀ identifier ∈ operand.identifiers, identifier.value ≠ name) :
    result.is .identifier name = false := by
  unfold Means at means
  split at means
  · next identifier =>
      subst means
      cases found : Dictionary.find? labels (Scope.fullName scope operand) with
      | some address => simp [located_of_some found, ofWord, is]
      | none =>
          have different := avoids operand (by simp [identifiers_of_identifier identifier])
          simp [located_of_none found, is, Scope.fullName_ne_of_no_dot no_dot different]
  · obtain ⟨value, -, rfl⟩ := means
    simp [ofWord, is]
  · next no_identifier _ =>
      subst means
      rw [is, decide_eq_false no_identifier, Bool.false_and]

namespace Target

variable {target : Target}

/-- A global name that neither a program nor a body writes is not left in what the program is
resolved to. -/
theorem is_eq_false_of_resolve {lexemes : List Lexeme} {resolution : Resolution} {name : String}
    (no_dot : '.' ∉ name.toList) (unused : Lexeme.Unused name lexemes)
    (foreign : ¬ target.library.Writes name)
    (resolved : target.resolve lexemes = .ok resolution) :
    ∀ statement ∈ resolution.statements, ∀ arg ∈ statement.args,
      arg.is .identifier name = false := by
  simp only [resolve, Success.bind_eq_ok] at resolved
  obtain ⟨program, grouped, out, expanded, placement, placed, finished⟩ := resolved
  have avoids : ∀ statement ∈ out, Library.Avoids name statement := by
    refine Library.avoids_of_expand foreign expanded fun statement member identifier used => ?_
    have readFrom := (Statement.group_eq_ok_iff.mp grouped).readFrom statement member
    obtain ⟨arg, -, within⟩ := List.mem_flatMap.mp used
    exact unused identifier (readFrom.identifiers_mem identifier used)
      (Lexeme.kind_of_mem_identifiers within)
  intro result member arg arg_member
  obtain ⟨front, statement, back, rfl, -, means⟩ :=
    exists_means_of_finish placed finished result member
  have statement_avoids := avoids statement (List.mem_append_right _ List.mem_cons_self)
  by_cases instruction : statement.kind = .instruction
  · obtain ⟨operand, operand_member, operand_means⟩ :=
      Success.exists_input_of_forall₂ (means.args instruction) arg_member
    refine operand_means.is_eq_false no_dot fun identifier within => ?_
    exact statement_avoids identifier (List.mem_flatMap.mpr ⟨operand, operand_member, within⟩)
  · rw [means.kept instruction] at arg_member
    by_contra same
    obtain ⟨identifier, value⟩ : arg.kind = .identifier ∧ arg.value = name := by
      simpa [Lexeme.is] using same
    refine statement_avoids arg (List.mem_flatMap.mpr ⟨arg, arg_member, ?_⟩) value
    simp [Lexeme.identifiers_of_identifier identifier]

end Target

/-! ## Texts with one more line -/

theorem Lexeme.scan_append_label {file text name : String} {lexemes : List Lexeme}
    (isName : Scan.IsGlobalName name) (scanned : scan file text = .ok lexemes) :
    ∃ newline label colon,
      scan file (text ++ "\n" ++ (name ++ ":")) = .ok (lexemes ++ [newline, label, colon]) ∧
        newline.kind = .newline ∧ label.kind = .identifier ∧ label.value = name ∧
        colon.is .punctuation ":" = true := by
  obtain ⟨newline, newline_kind, both⟩ := scan_append_newline scanned (name ++ ":")
  obtain ⟨label, colon, scanned_label, kind, value, is_colon⟩ := scan_label isName file
  have label_moved := displaced_down (Text.rows text) label
  have colon_moved := displaced_down (Text.rows text) colon
  rw [scanned_label] at both
  exact ⟨newline, label.down (Text.rows text), colon.down (Text.rows text), both, newline_kind,
    label_moved.kind ▸ kind, label_moved.value ▸ value, colon_moved.is_eq _ _ ▸ is_colon⟩

theorem Statement.group_append_label {lexemes : List Lexeme} {program : List Statement}
    {newline label colon : Lexeme} (grouped : group lexemes = .ok program)
    (newline_kind : newline.kind = .newline) (kind : label.kind = .identifier)
    (is_colon : colon.is .punctuation ":" = true) :
    group (lexemes ++ [newline, label, colon]) = .ok (program ++ [.label label]) := by
  have last : group [label, colon] = .ok [.label label] :=
    group_eq_ok_iff.mpr (.label kind is_colon .nil)
  rw [group, groupFrom_append_newline grouped newline_kind, last]
  rfl

namespace Assembler

variable {assembler : Assembler} {layout : Layout} {file text name : String}
  {lexemes : List Lexeme}

/-- Assembling a program with a new label behind it is encoding what the program is resolved to,
with an address put in for the name. -/
private theorem assemble_append_label {resolution : Resolution} (isName : Scan.IsGlobalName name)
    (unused : Lexeme.Unused name lexemes) (scanned : Lexeme.scan file text = .ok lexemes)
    (resolved : (assembler.target layout).resolve lexemes = .ok resolution) :
    ∃ address, assembler.assemble layout file (text ++ "\n" ++ (name ++ ":")) =
      (Image.generate assembler.set (Labels.substitute [(name, address)] resolution.statements)).map
        fun image => { image, labels := resolution.labels ++ [(name, address)] } := by
  obtain ⟨program, grouped, -⟩ := Success.bind_eq_ok.mp resolved
  obtain ⟨newline, label, colon, longer, newline_kind, kind, rfl, is_colon⟩ :=
    Lexeme.scan_append_label isName scanned
  have global : label.isLocal = false := by
    rw [Lexeme.isLocal, kind, Bool.and_eq_false_iff, beq_eq_false_iff_ne]
    exact .inr fun dotted => isName.no_dot (List.mem_of_mem_head? dotted)
  have fresh := Target.not_mem_names_of_resolve isName.no_dot unused resolved
  obtain ⟨address, resolved_longer⟩ := Target.resolve_append_label grouped
    (Statement.group_append_label grouped newline_kind kind is_colon) resolved global fresh
  refine ⟨address, ?_⟩
  rw [assemble_eq_assembleLexemes, longer]
  simp only [bind, Except.bind, assembleLexemes, resolved_longer]
  cases Image.generate assembler.set
    (Labels.substitute [(label.value, address)] resolution.statements) <;> rfl

/-- What a new label behind a program does: it changes no byte, and it is refused exactly when the
resolved program looks its name up in a table.  Then some body of the library writes the name. -/
theorem label_changes_no_byte {assembly : Assembly} (isName : Scan.IsGlobalName name)
    (scanned : Lexeme.scan file text = .ok lexemes) (unused : Lexeme.Unused name lexemes)
    (assembled : assembler.assemble layout file text = .ok assembly) :
    (∀ longer, assembler.assemble layout file (text ++ "\n" ++ (name ++ ":")) = .ok longer →
        longer.image.bytes = assembly.image.bytes ∧
          ∃ address, longer.labels = assembly.labels ++ [(name, address)]) ∧
      ((∃ longer, assembler.assemble layout file (text ++ "\n" ++ (name ++ ":")) = .ok longer) ↔
        ∀ resolution, (assembler.target layout).resolve lexemes = .ok resolution →
          Image.Spares assembler.set name resolution.statements) ∧
      (¬ assembler.library.Writes name →
        ∃ longer, assembler.assemble layout file (text ++ "\n" ++ (name ++ ":")) = .ok longer) := by
  simp only [assemble, scanned, Success.bind_eq_ok, Success.pure_eq_ok,
    Except.ok.injEq] at assembled
  obtain ⟨_, rfl, resolution, resolved, image, generated, rfl⟩ := assembled
  obtain ⟨address, longer_eq⟩ := assemble_append_label isName unused scanned resolved
  have accepted : Image.Spares assembler.set name resolution.statements →
      ∃ longer, assembler.assemble layout file (text ++ "\n" ++ (name ++ ":")) = .ok longer := by
    intro spares
    obtain ⟨longer, longer_generated, -⟩ := Success.map_eq_ok.mp
      ((Image.generateFrom_substitute_iff generated).mpr ⟨spares, rfl⟩)
    rw [longer_eq]
    exact ⟨_, Success.map_eq_ok.mpr ⟨longer, longer_generated, rfl⟩⟩
  have refused : ∀ longer,
      assembler.assemble layout file (text ++ "\n" ++ (name ++ ":")) = .ok longer →
      Image.Spares assembler.set name resolution.statements ∧
        image.bytes = longer.image.bytes ∧
        ∃ address, longer.labels = resolution.labels ++ [(name, address)] := by
    intro longer assembled
    rw [longer_eq] at assembled
    obtain ⟨longer, longer_generated, rfl⟩ := Success.map_eq_ok.mp assembled
    obtain ⟨spares, bytes⟩ := (Image.generateFrom_substitute_iff generated).mp
      (Success.map_eq_ok.mpr ⟨longer, longer_generated, rfl⟩)
    exact ⟨spares, bytes, address, rfl⟩
  refine ⟨?_, ⟨?_, ?_⟩, ?_⟩
  · intro longer assembled
    obtain ⟨-, bytes, labels⟩ := refused longer assembled
    exact ⟨bytes.symm, labels⟩
  · rintro ⟨longer, assembled⟩ other other_resolved
    obtain rfl := Except.ok.inj (resolved.symm.trans other_resolved)
    exact (refused longer assembled).1
  · exact fun spares => accepted (spares resolution resolved)
  · intro foreign
    refine accepted fun statement member operand looked_up => ?_
    exact Target.is_eq_false_of_resolve isName.no_dot unused foreign resolved statement member
      operand (Encoding.mem_args_of_mem_lookedUp looked_up)

/-- The part of the builtin set that doing nothing needs. -/
def idling : Config :=
  { tables := [("C", Builtin.conditions)]
    instructions := [("b", Builtin.braced "C4" " 0 111")]
    pseudo := [("nop", "b false")] }

theorem label_changes_no_byte_idleBranch :
    ∃ set assembler lexemes assembly longer, InstructionSet.compile idling = .ok set ∧
      ofSet set = .ok assembler ∧ Lexeme.scan "s" "nop\nb odd" = .ok lexemes ∧
      Scan.IsGlobalName "end" ∧ Lexeme.Unused "end" lexemes ∧
      ¬ assembler.library.Writes "end" ∧
      assembler.assemble .bytes "s" "nop\nb odd" = .ok assembly ∧
      assembler.assemble .bytes "s" ("nop\nb odd" ++ "\n" ++ ("end" ++ ":")) = .ok longer ∧
      assembly.image.bytes = [0x07, 0x77] ∧ longer.image.bytes = [0x07, 0x77] := by
  have evaluated :
      ((InstructionSet.compile idling).mapError Fault.nowhere >>= fun set =>
        ofSet set >>= fun assembler =>
          Lexeme.scan "s" "nop\nb odd" >>= fun lexemes =>
            (assembler.assemble .bytes "s" "nop\nb odd").map fun assembly =>
              (decide (Lexeme.Unused "end" lexemes), decide (assembler.library.Writes "end"),
                assembly.image.bytes)) =
        .ok (true, false, [0x07, 0x77]) := by
    decide +kernel
  obtain ⟨set, compiled, evaluated⟩ := Success.bind_eq_ok.mp evaluated
  obtain ⟨assembler, made, evaluated⟩ := Success.bind_eq_ok.mp evaluated
  obtain ⟨lexemes, scanned, evaluated⟩ := Success.bind_eq_ok.mp evaluated
  obtain ⟨assembly, assembled, observed⟩ := Success.map_eq_ok.mp evaluated
  simp only [Prod.mk.injEq, decide_eq_true_eq, decide_eq_false_iff_not] at observed
  obtain ⟨unused, foreign, bytes⟩ := observed
  have isName : Scan.IsGlobalName "end" :=
    ⟨⟨'e', rfl, by decide⟩, List.all_eq_true.mp (by decide), by decide⟩
  obtain ⟨same, -, accepted⟩ := label_changes_no_byte isName scanned unused assembled
  obtain ⟨longer, longer_assembled⟩ := accepted foreign
  exact ⟨set, assembler, lexemes, assembly, longer, Success.mapError_eq_ok.mp compiled, made,
    scanned, isName, unused, foreign, assembled, longer_assembled, bytes,
    (same longer longer_assembled).1.trans bytes⟩

/-- A label takes away the name that only the body of a pseudo-instruction looks up. -/
theorem label_captures_symbol :
    ∃ set assembler lexemes assembly fault, InstructionSet.compile idling = .ok set ∧
      ofSet set = .ok assembler ∧ Lexeme.scan "s" "nop" = .ok lexemes ∧
      Scan.IsGlobalName "false" ∧ Lexeme.Unused "false" lexemes ∧
      assembler.assemble .bytes "s" "nop" = .ok assembly ∧
      assembler.assemble .bytes "s" ("nop" ++ "\n" ++ ("false" ++ ":")) = .error fault ∧
      fault.cause? = some (.identifierExpected .number) := by
  have evaluated :
      ((InstructionSet.compile idling).mapError Fault.nowhere >>= fun set =>
        ofSet set >>= fun assembler =>
          Lexeme.scan "s" "nop" >>= fun lexemes =>
            (assembler.assemble .bytes "s" "nop").map fun _ =>
              (decide (Lexeme.Unused "false" lexemes),
                match assembler.assemble .bytes "s" ("nop" ++ "\n" ++ ("false" ++ ":")) with
                | .ok _ => none
                | .error fault => fault.cause?)) =
        .ok (true, some (.identifierExpected .number)) := by
    decide +kernel
  obtain ⟨set, compiled, evaluated⟩ := Success.bind_eq_ok.mp evaluated
  obtain ⟨assembler, made, evaluated⟩ := Success.bind_eq_ok.mp evaluated
  obtain ⟨lexemes, scanned, evaluated⟩ := Success.bind_eq_ok.mp evaluated
  obtain ⟨assembly, assembled, observed⟩ := Success.map_eq_ok.mp evaluated
  obtain ⟨unused, refused⟩ := Prod.mk.inj observed
  have isName : Scan.IsGlobalName "false" :=
    ⟨⟨'f', rfl, by decide⟩, List.all_eq_true.mp (by decide), by decide⟩
  split at refused
  · contradiction
  · next fault failed =>
      exact ⟨set, assembler, lexemes, assembly, fault, Success.mapError_eq_ok.mp compiled, made,
        scanned, isName, of_decide_eq_true unused, assembled, failed, refused⟩

end Assembler
end TableAssembler
