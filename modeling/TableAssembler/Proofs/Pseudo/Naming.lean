import TableAssembler.Proofs.Pseudo.Expansion

/-!
# Names of expanded statements

An expanded program consists of the statements that its expansion meets and that are no calls.  The
name of a statement is the one that the program or a body gives it, unless a body gives it the name
of a parameter: then it is the text of the argument, and nothing asks whether that is an
identifier.
-/

namespace TableAssembler
namespace Library

/-! ## Statements that an expansion meets -/

/-- The statement is replaced by the body of a pseudo-instruction. -/
def Calls (library : Library) (call : Statement) (pseudo : Pseudo) : Prop :=
  call.kind ≠ .label ∧ library.find? call.mnemonic = some pseudo

/-- The statements of a program, and of the bodies that stand for its calls, as deep as they go. -/
inductive Meets (library : Library) (program : List Statement) : Statement → Prop
  | source {statement : Statement} : statement ∈ program → Meets library program statement
  | body {call inner : Statement} {pseudo : Pseudo} :
      Meets library program call → library.Calls call pseudo → inner ∈ pseudo.instantiate call →
        Meets library program inner

variable {library : Library} {program out : List Statement}

/-- A statement is no call exactly when it is kept. -/
theorem not_calls_iff {statement : Statement} :
    (¬ ∃ pseudo, library.Calls statement pseudo) ↔
      statement.kind = .label ∨ library.find? statement.mnemonic = none := by
  unfold Calls
  cases library.find? statement.mnemonic with
  | none => simp
  | some pseudo => simp

namespace Meets

private theorem trans {others : List Statement} {statement : Statement}
    (meets : library.Meets others statement)
    (all : ∀ other ∈ others, library.Meets program other) : library.Meets program statement := by
  induction meets with
  | source member => exact all _ member
  | body _ calls member induction => exact .body induction calls member

private theorem of_cons {first statement : Statement} {rest : List Statement}
    (meets : library.Meets (first :: rest) statement) :
    library.Meets [first] statement ∨ library.Meets rest statement := by
  induction meets with
  | source member =>
      rcases List.mem_cons.mp member with rfl | later
      · exact .inl (.source List.mem_cons_self)
      · exact .inr (.source later)
  | body _ calls member induction =>
      rcases induction with first_meets | rest_meets
      · exact .inl (.body first_meets calls member)
      · exact .inr (.body rest_meets calls member)

private theorem of_singleton {first statement : Statement}
    (meets : library.Meets [first] statement) :
    statement = first ∨
      ∃ pseudo, library.Calls first pseudo ∧
        library.Meets (pseudo.instantiate first) statement := by
  induction meets with
  | source member => exact .inl (List.mem_singleton.mp member)
  | body _ calls member induction =>
      rcases induction with rfl | ⟨pseudo, first_calls, inner_meets⟩
      · exact .inr ⟨_, calls, .source member⟩
      · exact .inr ⟨pseudo, first_calls, .body inner_meets calls member⟩

private theorem not_nil {statement : Statement} : ¬ library.Meets [] statement := by
  intro meets
  induction meets with
  | source member => contradiction
  | body _ _ _ induction => exact induction

end Meets

namespace Inlining

variable {statements : List Statement} {statement : Statement}

private theorem meets_of_mem (inlining : Inlining library statements out)
    (member : statement ∈ out) :
    library.Meets statements statement := by
  induction inlining with
  | nil => contradiction
  | keep _ _ induction =>
      rcases List.mem_cons.mp member with rfl | later
      · exact .source List.mem_cons_self
      · exact (induction later).trans fun other inside => .source (List.mem_cons_of_mem _ inside)
  | call instruction found _ _ body_induction rest_induction =>
      rcases List.mem_append.mp member with inner | later
      · exact (body_induction inner).trans fun other inside =>
          .body (.source List.mem_cons_self) ⟨instruction, found⟩ inside
      · exact (rest_induction later).trans fun other inside =>
          .source (List.mem_cons_of_mem _ inside)

private theorem mem_of_meets (inlining : Inlining library statements out)
    (meets : library.Meets statements statement)
    (kept : ¬ ∃ pseudo, library.Calls statement pseudo) : statement ∈ out := by
  induction inlining with
  | nil => exact absurd meets Meets.not_nil
  | keep keeps _ induction =>
      rcases meets.of_cons with first_meets | rest_meets
      · rcases first_meets.of_singleton with rfl | ⟨pseudo, calls, -⟩
        · exact List.mem_cons_self
        · exact absurd ⟨pseudo, calls⟩ (not_calls_iff.mpr keeps)
      · exact List.mem_cons_of_mem _ (induction rest_meets)
  | call instruction found _ _ body_induction rest_induction =>
      rcases meets.of_cons with first_meets | rest_meets
      · rcases first_meets.of_singleton with rfl | ⟨other, calls, inner_meets⟩
        · exact absurd ⟨_, instruction, found⟩ kept
        · obtain rfl := Option.some.inj (found.symm.trans calls.2)
          exact List.mem_append_left _ (body_induction inner_meets)
      · exact List.mem_append_right _ (rest_induction rest_meets)

end Inlining

/-- An expanded program consists of the statements that are met and not replaced. -/
theorem mem_expand_iff (expanded : library.expand program = .ok out) (statement : Statement) :
    statement ∈ out ↔
      library.Meets program statement ∧ ¬ ∃ pseudo, library.Calls statement pseudo := by
  obtain ⟨inlining, -⟩ := expand_eq_ok_iff.mp expanded
  constructor
  · intro member
    exact ⟨inlining.meets_of_mem member, not_calls_iff.mpr (inlining.no_calls statement member)⟩
  · rintro ⟨meets, kept⟩
    exact inlining.mem_of_meets meets kept

/-! ## Where names come from -/

/-- The lexeme is passed for a parameter that a body has in the place of a name. -/
def PassedForName (library : Library) (program : List Statement) (actual : Lexeme) : Prop :=
  ∃ call pseudo, library.Meets program call ∧ library.Calls call pseudo ∧
    ∃ inner ∈ pseudo.body,
      Dictionary.find? (pseudo.binding call.args) inner.name.value = some actual

/-- The lexemes that statements are named after. -/
inductive NameOrigin (library : Library) (program : List Statement) : Lexeme → Prop
  | source {statement : Statement} : statement ∈ program → NameOrigin library program statement.name
  /-- The name that a body gives, when it is no parameter. -/
  | body {call inner : Statement} {pseudo : Pseudo} :
      library.Meets program call → library.Calls call pseudo → inner ∈ pseudo.body →
        Dictionary.find? (pseudo.binding call.args) inner.name.value = none →
        NameOrigin library program inner.name
  | argument {actual : Lexeme} :
      library.PassedForName program actual → NameOrigin library program actual

theorem Meets.exists_nameOrigin {statement : Statement} (meets : library.Meets program statement) :
    ∃ origin, library.NameOrigin program origin ∧ statement.name.value = origin.value := by
  cases meets with
  | source member => exact ⟨statement.name, .source member, rfl⟩
  | @body call _ pseudo call_meets calls member =>
      obtain ⟨inner, inside, rfl⟩ := List.mem_map.mp member
      cases found : Dictionary.find? (pseudo.binding call.args) inner.name.value with
      | none =>
          refine ⟨inner.name, .body call_meets calls inside found, ?_⟩
          simp [Pseudo.bindStatement, found]
      | some actual =>
          refine ⟨actual, .argument ⟨call, pseudo, call_meets, calls, inner, inside, found⟩, ?_⟩
          simp [Pseudo.bindStatement, found]

theorem PassedForName.exists_meets {actual : Lexeme}
    (passed : library.PassedForName program actual) :
    ∃ statement, library.Meets program statement ∧ statement.name.value = actual.value := by
  obtain ⟨call, pseudo, meets, calls, inner, inside, found⟩ := passed
  refine ⟨_, .body meets calls (List.mem_map_of_mem inside), ?_⟩
  simp [Pseudo.bindStatement, found]

theorem Meets.name_kind (bodies : library.Writable)
    (writable : ∀ statement ∈ program, statement.Writable) {statement : Statement}
    (meets : library.Meets program statement) : statement.name.kind = .identifier := by
  cases meets with
  | source member => exact (writable statement member).name
  | @body call _ pseudo _ calls member =>
      obtain ⟨inner, inside, rfl⟩ := List.mem_map.mp member
      exact (bodies pseudo (List.mem_of_find?_eq_some calls.2) inner inside).name

theorem NameOrigin.kind_or_passed (bodies : library.Writable)
    (writable : ∀ statement ∈ program, statement.Writable) {origin : Lexeme}
    (named : library.NameOrigin program origin) :
    origin.kind = .identifier ∨ library.PassedForName program origin := by
  cases named with
  | source member => exact .inl (writable _ member).name
  | body _ calls inside _ =>
      exact .inl (bodies _ (List.mem_of_find?_eq_some calls.2) _ inside).name
  | argument passed => exact .inr passed

/-- What holds of the names in an expanded program. -/
structure Named (library : Library) (program out : List Statement) : Prop where
  /-- The class of a name is that of an identifier, even where its text is not. -/
  kind : ∀ statement ∈ out, statement.name.kind = .identifier
  /-- The text is that of a name in the program or in a body, or of an argument. -/
  origin : ∀ statement ∈ out,
    ∃ origin, library.NameOrigin program origin ∧ statement.name.value = origin.value
  /-- All of these are identifiers exactly when no other argument is passed for a name. -/
  identifier_iff : (∀ origin, library.NameOrigin program origin → origin.kind = .identifier) ↔
    ∀ actual, library.PassedForName program actual → actual.kind = .identifier
  /-- Every such argument becomes a name, of a statement that stays or that is a call again. -/
  becomes : ∀ actual, library.PassedForName program actual →
    ∃ statement, library.Meets program statement ∧ statement.name.value = actual.value ∧
      (statement ∈ out ∨ ∃ pseudo, library.Calls statement pseudo)

/-- Names of expanded statements are identifiers, unless something else is passed for a name. -/
theorem named_of_expand {sources : Dictionary String} {lexemes : List Lexeme}
    (compiled : compile sources = .ok library) (grouped : Statement.group lexemes = .ok program)
    (expanded : library.expand program = .ok out) : library.Named program out := by
  have bodies := (parsed_of_compile compiled).writable
  have writable := (Statement.group_eq_ok_iff.mp grouped).writable
  have members := mem_expand_iff expanded
  refine ⟨?_, ?_, ⟨?_, ?_⟩, ?_⟩
  · intro statement member
    exact ((members statement).mp member).1.name_kind bodies writable
  · intro statement member
    exact ((members statement).mp member).1.exists_nameOrigin
  · intro identifiers actual passed
    exact identifiers actual (.argument passed)
  · intro identifiers origin named
    exact (named.kind_or_passed bodies writable).elim id (identifiers origin)
  · intro actual passed
    obtain ⟨statement, meets, value⟩ := passed.exists_meets
    refine ⟨statement, meets, value, ?_⟩
    by_cases calls : ∃ pseudo, library.Calls statement pseudo
    · exact .inr calls
    · exact .inl ((members statement).mpr ⟨meets, calls⟩)

/-- A pseudo-instruction that calls what it is given. -/
def applying : Dictionary String := [("op kind", "kind 1")]

theorem named_of_expand_applying :
    ∃ library lexemes program out, compile applying = .ok library ∧
      Lexeme.scan "a.s" "op swa" = .ok lexemes ∧ Statement.group lexemes = .ok program ∧
      library.expand program = .ok out ∧ out.map Statement.render = ["swa 1"] ∧
      library.Named program out := by
  have evaluated : (compile applying >>= fun library =>
      Lexeme.scan "a.s" "op swa" >>= fun lexemes =>
        Statement.group lexemes >>= library.expand).map (fun out => out.map Statement.render) =
      .ok ["swa 1"] := by
    decide +kernel
  obtain ⟨out, computed, rendered⟩ := Success.map_eq_ok.mp evaluated
  obtain ⟨library, compiled, computed⟩ := Success.bind_eq_ok.mp computed
  obtain ⟨lexemes, scanned, computed⟩ := Success.bind_eq_ok.mp computed
  obtain ⟨program, grouped, expanded⟩ := Success.bind_eq_ok.mp computed
  exact ⟨library, lexemes, program, out, compiled, scanned, grouped, expanded, rendered,
    named_of_expand compiled grouped expanded⟩

/-- A number becomes the name of an instruction, where the only names are `op` in the program and
`kind` in the body, and no argument is an identifier. -/
theorem number_becomes_name :
    ∃ library program out, compile applying = .ok library ∧
      Statement.parse "a.s" "op 5" = .ok program ∧ library.expand program = .ok out ∧
      out.map Statement.render = ["5 1"] ∧ program.map (·.name.value) = ["op"] ∧
      library.pseudos.flatMap (·.body.map (·.name.value)) = ["kind"] ∧
      program.flatMap (·.args.map (·.kind)) = [.number] := by
  have evaluated : (compile applying >>= fun library =>
      Statement.parse "a.s" "op 5" >>= fun program =>
        (library.expand program).map fun out =>
          (out.map Statement.render, program.map (·.name.value),
            library.pseudos.flatMap (·.body.map (·.name.value)),
            program.flatMap (·.args.map (·.kind)))) =
      .ok (["5 1"], ["op"], ["kind"], [.number]) := by
    decide +kernel
  obtain ⟨library, compiled, computed⟩ := Success.bind_eq_ok.mp evaluated
  obtain ⟨program, parsed, computed⟩ := Success.bind_eq_ok.mp computed
  obtain ⟨out, expanded, observed⟩ := Success.map_eq_ok.mp computed
  simp only [Prod.mk.injEq] at observed
  exact ⟨library, program, out, compiled, parsed, expanded, observed⟩

end Library
end TableAssembler
