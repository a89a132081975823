import TableAssembler.Assembly.Basic
import TableAssembler.Proofs.Dictionary
import TableAssembler.Proofs.Pseudo.Inlining
import TableAssembler.Proofs.Statement.Writable

/-!
# Programs expanded by hand

A program and what it is expanded into are assembled alike.  The expanded program can be written,
since the bodies of pseudo-instructions are read from text and arguments are operands.
-/

namespace TableAssembler

namespace Pseudo

/-- An argument of a call takes the place of a parameter. -/
theorem mem_of_find?_binding {pseudo : Pseudo} {args : List Lexeme} {name : String}
    {actual : Lexeme} (found : Dictionary.find? (pseudo.binding args) name = some actual) :
    actual ∈ args := by
  have member := Dictionary.mem_of_find? found
  rw [binding, List.mem_reverse] at member
  exact (List.of_mem_zip member).2

theorem writable_bindStatement {pseudo : Pseudo} {args : List Lexeme} {statement : Statement}
    (location : Location) (writable : statement.Writable)
    (args_writable : ∀ arg ∈ args, arg.Writable) :
    (bindStatement (pseudo.binding args) location statement).Writable := by
  refine ⟨writable.name, ?_, ?_⟩
  · rcases writable.kind with ⟨label, no_args⟩ | instruction
    · exact .inl ⟨label, by simp [bindStatement, no_args]⟩
    · exact .inr instruction
  · refine List.forall_mem_map.mpr fun arg member => ?_
    refine (writable.args arg member).mapIdentifiers fun lexeme identifier => ?_
    unfold bindIdentifier
    cases found : Dictionary.find? (pseudo.binding args) lexeme.value with
    | none => exact ⟨[lexeme], .word (.inl identifier)⟩
    | some actual => exact args_writable actual (mem_of_find?_binding found)

/-- The body of a pseudo-instruction is read from text, in a file that the header names. -/
theorem parse_of_compile {header body : String} {pseudo : Pseudo}
    (compiled : compile header body = .ok pseudo) :
    Statement.parse (fileOf header ++ "_BODY") body = .ok pseudo.body := by
  simp only [compile, Success.bind_eq_ok, Success.pure_eq_ok] at compiled
  obtain ⟨head, -, formals, -, statements, parsed, rfl⟩ := compiled
  exact parsed

end Pseudo

namespace Library

/-- Every pseudo-instruction is compiled from a header and its body. -/
def CompiledFrom (library : Library) (sources : Dictionary String) : Prop :=
  ∀ pseudo ∈ library.pseudos, ∃ header body, (header, body) ∈ sources ∧
    Pseudo.compile header body = .ok pseudo

private theorem compiledFrom_of_addAll {library result : Library} {sources rest : Dictionary String}
    (compiledFrom : library.CompiledFrom sources) (subset : rest ⊆ sources)
    (added : library.addAll rest = .ok result) : result.CompiledFrom sources := by
  induction rest generalizing library with
  | nil =>
      obtain rfl := Except.ok.inj added
      exact compiledFrom
  | cons source rest induction =>
      obtain ⟨first, others⟩ := List.cons_subset.mp subset
      simp only [addAll, Success.bind_eq_ok] at added
      obtain ⟨pseudo, compiled, added⟩ := added
      split_ifs at added with duplicate
      refine induction (List.forall_mem_append.mpr ⟨compiledFrom, ?_⟩) others added
      exact List.forall_mem_singleton.mpr ⟨source.1, source.2, first, compiled⟩

theorem compiledFrom_of_compile {sources : Dictionary String} {library : Library}
    (compiled : compile sources = .ok library) : library.CompiledFrom sources :=
  compiledFrom_of_addAll (fun _ member => absurd member List.not_mem_nil)
    (Dictionary.perm_sorted sources).subset compiled

/-- The bodies of all pseudo-instructions are read from text. -/
def Parsed (library : Library) : Prop :=
  ∀ pseudo ∈ library.pseudos, ∃ file text, Statement.parse file text = .ok pseudo.body

theorem parsed_of_compile {sources : Dictionary String} {library : Library}
    (compiled : compile sources = .ok library) : library.Parsed := by
  intro pseudo member
  obtain ⟨header, body, -, source_compiled⟩ := compiledFrom_of_compile compiled pseudo member
  exact ⟨_, body, Pseudo.parse_of_compile source_compiled⟩

/-- The bodies of all pseudo-instructions can be written. -/
def Writable (library : Library) : Prop :=
  ∀ pseudo ∈ library.pseudos, ∀ statement ∈ pseudo.body, statement.Writable

theorem Parsed.writable {library : Library} (parsed : library.Parsed) : library.Writable := by
  intro pseudo member
  obtain ⟨file, text, body_parsed⟩ := parsed pseudo member
  obtain ⟨lexemes, -, grouped⟩ := Success.bind_eq_ok.mp body_parsed
  exact (Statement.group_eq_ok_iff.mp grouped).writable

theorem Writable.of_expand {library : Library} {program out : List Statement}
    (bodies : library.Writable) (expanded : library.expand program = .ok out)
    (writable : ∀ statement ∈ program, statement.Writable) :
    ∀ statement ∈ out, statement.Writable := by
  refine forall_mem_of_expand expanded (fun call pseudo body call_writable found bound _ => ?_)
    writable
  obtain ⟨-, rfl⟩ := Pseudo.bind_eq_ok_iff.mp bound
  refine List.forall_mem_map.mpr fun inner member => ?_
  have inner_writable := bodies pseudo (List.mem_of_find?_eq_some found) inner member
  exact Pseudo.writable_bindStatement _ inner_writable call_writable.args

end Library

/-! ## Assemblies -/

/-- Assembles a program that is given as statements. -/
def Target.assembleStatements (target : Target) (set : InstructionSet) (program : List Statement) :
    Except Fault Assembly := do
  let expanded ← target.library.expand program
  let placement ← target.place expanded
  let resolution ← finish placement
  let image ← Image.generate set resolution.statements
  return { image, labels := resolution.labels }

namespace Assembler

/-- Assembles a program that is given as lexemes. -/
def assembleLexemes (assembler : Assembler) (layout : Layout) (lexemes : List Lexeme) :
    Except Fault Assembly := do
  let resolution ← (assembler.target layout).resolve lexemes
  let image ← Image.generate assembler.set resolution.statements
  return { image, labels := resolution.labels }

theorem assemble_eq_assembleLexemes (assembler : Assembler) (layout : Layout)
    (file text : String) :
    assembler.assemble layout file text =
      Lexeme.scan file text >>= assembler.assembleLexemes layout := rfl

theorem assemble_eq_assembleStatements (assembler : Assembler) (layout : Layout)
    (file text : String) :
    assembler.assemble layout file text =
      Statement.parse file text >>=
        (assembler.target layout).assembleStatements assembler.set := by
  simp only [assemble, Statement.parse, Target.resolve, bind_assoc]
  rfl

private theorem assembleLexemes_congr {assembler : Assembler} {source byHand : List Lexeme}
    {program out : List Statement} (grouped : Statement.group source = .ok program)
    (expanded : assembler.library.expand program = .ok out)
    (by_hand : Statement.group byHand = .ok out) (layout : Layout) :
    assembler.assembleLexemes layout byHand = assembler.assembleLexemes layout source := by
  have resolved : (assembler.target layout).resolve byHand =
      (assembler.target layout).resolve source := by
    have again : (assembler.target layout).library.expand out = .ok out :=
      Library.expand_of_expand expanded
    have once : (assembler.target layout).library.expand program = .ok out := expanded
    simp only [Target.resolve, grouped, by_hand, bind, Except.bind, again, once]
  rw [assembleLexemes, assembleLexemes, resolved]

end Assembler

namespace Library

/-- What holds of a program and its expansion. -/
structure Expanded (library : Library) (program out : List Statement) : Prop where
  /-- Nothing else comes from inlining the program. -/
  unique : ∀ other, Nonempty (Inlining library program other) → other = out
  no_calls : ∀ statement ∈ out, statement.kind ≠ .label →
    library.find? statement.mnemonic = none
  again : library.expand out = .ok out
  /-- A source of the expanded program is assembled as one of the program is. -/
  alike : ∀ (assembler : Assembler) layout source byHand, assembler.library = library →
    Statement.group source = .ok program → Statement.group byHand = .ok out →
    assembler.assembleLexemes layout byHand = assembler.assembleLexemes layout source
  /-- There is such a source. -/
  byHand : ∀ source, Statement.group source = .ok program →
    ∃ byHand, Statement.group byHand = .ok out

private theorem expanded_of_expand {sources : Dictionary String} {library : Library}
    (compiled : compile sources = .ok library) {program out : List Statement}
    (expanded : library.expand program = .ok out) : library.Expanded program out := by
  obtain ⟨inlining, -⟩ := expand_eq_ok_iff.mp expanded
  refine ⟨fun other ⟨another⟩ => inlining.unique another, ?_, expand_of_expand expanded, ?_, ?_⟩
  · intro statement member instruction
    exact (inlining.no_calls statement member).resolve_left instruction
  · rintro assembler layout source byHand rfl grouped by_hand
    exact Assembler.assembleLexemes_congr grouped expanded by_hand layout
  · intro source grouped
    have program_writable := (Statement.group_eq_ok_iff.mp grouped).writable
    have out_writable := (parsed_of_compile compiled).writable.of_expand expanded program_writable
    obtain ⟨byHand, derives⟩ := Statement.exists_isProgram out_writable
    exact ⟨byHand, Statement.group_eq_ok_iff.mpr derives⟩

/-- Expansion is inlining with a bound on nested calls, and leaves a program without calls. -/
theorem expand_inlines_calls {sources : Dictionary String} {library : Library}
    (compiled : compile sources = .ok library) (program out : List Statement) :
    (library.expand program = .ok out ↔
        ∃ inlining : Inlining library program out,
          inlining.Saturated ∧ inlining.LabelFree ∧ inlining.depth ≤ depthLimit) ∧
      (library.expand program = .ok out → library.Expanded program out) := by
  refine ⟨expand_eq_ok_iff.trans ?_, expanded_of_expand compiled⟩
  refine exists_congr fun inlining => ⟨?_, ?_⟩
  · intro admitted
    exact ⟨admitted.saturated, admitted.labelFree, admitted.depth_le⟩
  · rintro ⟨saturated, labelFree, depth_le⟩
    exact ⟨saturated, labelFree, depth_le⟩

/-- Which pseudo-instruction the first one calls depends on its first argument. -/
def dispatching : Dictionary String := [("twice f, x", "f x\nF x"), ("inc r", "addi (r + 1)")]

/-- A label, and a call of a call. -/
def dispatchedCall : List Statement :=
  [.label { value := "inc" },
    .instruction { value := "TWICE" } [{ value := "Inc" }, { value := "a" }]]

theorem expand_inlines_calls_dispatchedCall :
    ∃ library out, compile dispatching = .ok library ∧
      library.expand dispatchedCall = .ok out ∧
      out.map Statement.render = ["inc:", "addi (a + 1)", "F a"] ∧
      (∃ inlining : Inlining library dispatchedCall out,
        inlining.Saturated ∧ inlining.LabelFree ∧ inlining.depth ≤ depthLimit) ∧
      library.Expanded dispatchedCall out := by
  have evaluated :
      (compile dispatching >>= fun library => library.expand dispatchedCall).map
          (fun out => out.map Statement.render) =
        .ok ["inc:", "addi (a + 1)", "F a"] := by
    decide +kernel
  obtain ⟨out, computed, rendered⟩ := Success.map_eq_ok.mp evaluated
  obtain ⟨library, compiled, expanded⟩ := Success.bind_eq_ok.mp computed
  obtain ⟨inlines, consequence⟩ := expand_inlines_calls compiled dispatchedCall out
  exact ⟨library, out, compiled, expanded, rendered, inlines.mp expanded, consequence expanded⟩

end Library
end TableAssembler
