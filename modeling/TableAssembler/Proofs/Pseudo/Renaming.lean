import TableAssembler.Proofs.Lexeme.Name
import TableAssembler.Proofs.Pseudo.Displacement
import TableAssembler.Proofs.Pseudo.Inlining

/-!
# Names of parameters

The names of parameters do not matter: a pseudo-instruction whose parameters are renamed, in its
header and wherever its body uses them, stands for the same statements.  The arguments of a call
take the place of all parameters at once, so it does not matter either whether they use the old
names or the new ones.  Expansion looks at a pseudo-instruction only through what calls of it stand
for, so it is the same with either.
-/

namespace TableAssembler

/-- The names that a statement uses: its own name and those in its operands. -/
def Statement.usedNames (statement : Statement) : List String :=
  statement.name.value :: statement.identifiers.map Lexeme.value

namespace Pseudo

/-! ## Renaming -/

/-- The new name of a parameter; other names stay. -/
def renamed (pseudo : Pseudo) (change : String → String) (name : String) : String :=
  if name ∈ pseudo.formals then change name else name

/-- A lexeme with the new name of a parameter. -/
def renameLexeme (pseudo : Pseudo) (change : String → String) (lexeme : Lexeme) : Lexeme :=
  { lexeme with value := pseudo.renamed change lexeme.value }

/-- A statement of the body with the new names, in its operands and in the place of its name. -/
def renameStatement (pseudo : Pseudo) (change : String → String) (statement : Statement) :
    Statement :=
  { statement with
    name := pseudo.renameLexeme change statement.name
    args := statement.args.map (Lexeme.mapIdentifiers (pseudo.renameLexeme change)) }

/-- The pseudo-instruction with other names for its parameters. -/
def rename (pseudo : Pseudo) (change : String → String) : Pseudo where
  name := pseudo.name
  formals := pseudo.formals.map change
  body := pseudo.body.map (pseudo.renameStatement change)

/-- A change of names that keeps parameters apart from each other, and from the other names that
the body uses. -/
structure Renames (pseudo : Pseudo) (change : String → String) : Prop where
  injective : ∀ first ∈ pseudo.formals, ∀ second ∈ pseudo.formals,
    change first = change second → first = second
  fresh : ∀ statement ∈ pseudo.body, ∀ name ∈ statement.usedNames,
    name ∉ pseudo.formals → ∀ formal ∈ pseudo.formals, change formal ≠ name

instance (pseudo : Pseudo) (change : String → String) : Decidable (pseudo.Renames change) :=
  decidable_of_iff (_ ∧ _) ⟨fun both => ⟨both.1, both.2⟩, fun renames => ⟨renames.1, renames.2⟩⟩

variable {pseudo : Pseudo} {change : String → String}

private theorem binding_rename (pseudo : Pseudo) (change : String → String) (args : List Lexeme) :
    (pseudo.rename change).binding args =
      (pseudo.binding args).map fun entry => (change entry.1, entry.2) := by
  unfold binding rename
  rw [List.map_reverse, List.zip_map_left]
  rfl

/-- A name that the body uses has the same argument under its new name. -/
theorem Renames.find?_binding (renames : pseudo.Renames change) {statement : Statement}
    (member : statement ∈ pseudo.body) {name : String} (used : name ∈ statement.usedNames)
    (args : List Lexeme) :
    Dictionary.find? ((pseudo.rename change).binding args) (pseudo.renamed change name) =
      Dictionary.find? (pseudo.binding args) name := by
  rw [binding_rename, renamed]
  split_ifs with formal
  · refine Dictionary.find?_map_name fun other other_member same => ?_
    exact renames.injective name formal other (mem_formals_of_mem_names other_member) same
  · have absent : name ∉ Dictionary.names (pseudo.binding args) :=
      mt mem_formals_of_mem_names formal
    rw [Dictionary.find?_eq_none_iff.mpr absent, Dictionary.find?_eq_none_iff, Dictionary.names,
      List.map_map]
    intro renamed_member
    obtain ⟨entry, entry_member, rfl⟩ := List.mem_map.mp renamed_member
    have other : entry.1 ∈ pseudo.formals :=
      mem_formals_of_mem_names (List.mem_map_of_mem entry_member)
    exact renames.fresh statement member _ used formal entry.1 other rfl

/-! ## Calls -/

/-- Every parameter of a call has an argument, so what has none keeps its name. -/
theorem renamed_of_find?_eq_none {args : List Lexeme}
    (arity : pseudo.formals.length ≤ args.length) {name : String}
    (absent : Dictionary.find? (pseudo.binding args) name = none) :
    pseudo.renamed change name = name := by
  have other : name ∉ pseudo.formals := fun formal => by
    simpa [absent] using isSome_find?_binding arity formal
  exact if_neg other

theorem Renames.bindIdentifier_eq (renames : pseudo.Renames change) {statement : Statement}
    (member : statement ∈ pseudo.body) {args : List Lexeme}
    (arity : pseudo.formals.length ≤ args.length) {identifier : Lexeme}
    (used : identifier ∈ statement.identifiers) :
    bindIdentifier ((pseudo.rename change).binding args)
        (pseudo.renameLexeme change identifier) =
      bindIdentifier (pseudo.binding args) identifier := by
  have named : identifier.value ∈ statement.usedNames :=
    List.mem_cons_of_mem _ (List.mem_map_of_mem used)
  unfold bindIdentifier renameLexeme
  dsimp only
  rw [renames.find?_binding member named args]
  cases found : Dictionary.find? (pseudo.binding args) identifier.value with
  | some actual => rfl
  | none =>
      rw [renamed_of_find?_eq_none arity found]
      cases identifier
      rfl

theorem Renames.bindStatement_eq (renames : pseudo.Renames change) {statement : Statement}
    (member : statement ∈ pseudo.body) {args : List Lexeme}
    (arity : pseudo.formals.length ≤ args.length) (location : Location) :
    bindStatement ((pseudo.rename change).binding args) location
        (pseudo.renameStatement change statement) =
      bindStatement (pseudo.binding args) location statement := by
  have keeps : ∀ lexeme : Lexeme, lexeme.kind = .identifier →
      (pseudo.renameLexeme change lexeme).kind = .identifier := fun _ identifier => identifier
  have operands : ∀ arg ∈ statement.args,
      (arg.mapIdentifiers (pseudo.renameLexeme change)).mapIdentifiers
          (bindIdentifier ((pseudo.rename change).binding args)) =
        arg.mapIdentifiers (bindIdentifier (pseudo.binding args)) := by
    intro arg arg_member
    rw [Lexeme.mapIdentifiers_mapIdentifiers keeps]
    refine Lexeme.mapIdentifiers_congr fun identifier used => ?_
    exact renames.bindIdentifier_eq member arity (List.mem_flatMap.mpr ⟨arg, arg_member, used⟩)
  have args_eq : (pseudo.renameStatement change statement).args.map
        (Lexeme.mapIdentifiers (bindIdentifier ((pseudo.rename change).binding args))) =
      statement.args.map (Lexeme.mapIdentifiers (bindIdentifier (pseudo.binding args))) := by
    rw [renameStatement, List.map_map]
    exact List.map_congr_left operands
  have found := renames.find?_binding member List.mem_cons_self args
  unfold bindStatement
  rw [args_eq]
  dsimp only [renameStatement, renameLexeme]
  rw [found]
  cases absent : Dictionary.find? (pseudo.binding args) statement.name.value with
  | some actual => rfl
  | none => rw [renamed_of_find?_eq_none arity absent]

/-- A call of the renamed pseudo-instruction stands for the same statements, or fails alike. -/
theorem Renames.bind_eq (renames : pseudo.Renames change) (call : Statement) :
    (pseudo.rename change).bind call = pseudo.bind call := by
  have formals_eq : (pseudo.rename change).formals.length = pseudo.formals.length :=
    List.length_map _
  have name_eq : (pseudo.rename change).name = pseudo.name := rfl
  unfold bind
  rw [formals_eq, name_eq]
  split_ifs with missing
  · rfl
  · have body : ∀ statement ∈ pseudo.body,
        bindStatement ((pseudo.rename change).binding call.args) call.location
            (pseudo.renameStatement change statement) =
          bindStatement (pseudo.binding call.args) call.location statement :=
      fun statement member => renames.bindStatement_eq member (by omega) call.location
    rw [rename, List.map_map]
    exact congrArg Except.ok (List.map_congr_left body)

/-- Pseudo-instructions that no call tells apart. -/
structure Interchangeable (first second : Pseudo) : Prop where
  name : first.name = second.name
  arity : first.formals.length = second.formals.length
  bind : ∀ call, first.bind call = second.bind call

theorem interchangeable_refl (pseudo : Pseudo) : pseudo.Interchangeable pseudo :=
  ⟨rfl, rfl, fun _ => rfl⟩

theorem Renames.interchangeable (renames : pseudo.Renames change) :
    (pseudo.rename change).Interchangeable pseudo :=
  ⟨rfl, List.length_map _, renames.bind_eq⟩

end Pseudo

namespace Library

/-! ## Libraries -/

/-- Libraries in which every name stands for pseudo-instructions that no call tells apart. -/
def Interchangeable (first second : Library) : Prop :=
  ∀ mnemonic, Option.Rel Pseudo.Interchangeable (first.find? mnemonic) (second.find? mnemonic)

variable {first second : Library}

theorem Interchangeable.inline_eq (same : first.Interchangeable second) (depth : Nat)
    (statement : Statement) : first.inline depth statement = second.inline depth statement := by
  induction depth using Nat.strongRecOn generalizing statement with
  | ind depth induction =>
      unfold inline
      have found := same statement.mnemonic
      generalize first.find? statement.mnemonic = pseudo? at found
      generalize second.find? statement.mnemonic = other? at found
      cases found with
      | none => rfl
      | some interchangeable =>
          cases depth with
          | zero => rfl
          | succ room =>
              have inner : first.inline room = second.inline room :=
                funext (induction room (Nat.lt_succ_self room))
              dsimp only
              rw [interchangeable.bind, inner]

theorem Interchangeable.expandStatement_eq (same : first.Interchangeable second) :
    first.expandStatement = second.expandStatement := by
  funext statement
  rw [expandStatement, expandStatement, same.inline_eq]

theorem Interchangeable.inlineWarnings_eq (same : first.Interchangeable second) (depth : Nat)
    (statement : Statement) :
    first.inlineWarnings depth statement = second.inlineWarnings depth statement := by
  induction depth using Nat.strongRecOn generalizing statement with
  | ind depth induction =>
      unfold inlineWarnings
      have found := same statement.mnemonic
      generalize first.find? statement.mnemonic = pseudo? at found
      generalize second.find? statement.mnemonic = other? at found
      cases found with
      | none => rfl
      | some interchangeable =>
          cases depth with
          | zero => rfl
          | succ room =>
              have inner : first.inline room = second.inline room := funext (same.inline_eq room)
              have warnings : first.inlineWarnings room = second.inlineWarnings room :=
                funext (induction room (Nat.lt_succ_self room))
              dsimp only
              rw [interchangeable.bind, inner, warnings, callWarning, callWarning,
                interchangeable.arity, interchangeable.name]

theorem Interchangeable.expand_eq (same : first.Interchangeable second)
    (program : List Statement) :
    first.expand program = second.expand program ∧
      first.warnings program = second.warnings program := by
  have warnings : first.inlineWarnings depthLimit = second.inlineWarnings depthLimit :=
    funext (same.inlineWarnings_eq depthLimit)
  constructor
  · rw [expand, expand, same.expandStatement_eq]
  · rw [Library.warnings, Library.warnings, same.expandStatement_eq, warnings]

/-- The library with another pseudo-instruction in place of the one with its name. -/
def replace (library : Library) (other : Pseudo) : Library where
  pseudos := library.pseudos.map fun pseudo => if pseudo.name = other.name then other else pseudo

theorem find?_replace (library : Library) (other : Pseudo) (mnemonic : String) :
    (library.replace other).find? mnemonic =
      if mnemonic = other.name then (library.find? mnemonic).map fun _ => other
      else library.find? mnemonic := by
  obtain ⟨pseudos⟩ := library
  unfold replace find?
  dsimp only
  induction pseudos with
  | nil => split_ifs <;> rfl
  | cons pseudo pseudos induction =>
      rw [List.map_cons, List.find?_cons, List.find?_cons, induction]
      grind

private theorem rel_find?_replace {related : Pseudo → Pseudo → Prop}
    (refl : ∀ pseudo, related pseudo pseudo) {library : Library} {pseudo other : Pseudo}
    (named : other.name = pseudo.name) (replaced : related other pseudo)
    (found : library.find? pseudo.name = some pseudo) (mnemonic : String) :
    Option.Rel related ((library.replace other).find? mnemonic) (library.find? mnemonic) := by
  rw [find?_replace]
  split_ifs with same
  · rw [same, named, found]
    exact .some replaced
  · cases library.find? mnemonic with
    | none => exact .none
    | some kept => exact .some (refl kept)

private theorem replace_replace (library : Library) {pseudo other : Pseudo}
    (named : pseudo.name = other.name) :
    (library.replace pseudo).replace other = library.replace other := by
  unfold replace
  rw [List.map_map]
  refine congrArg Library.mk (List.map_congr_left fun entry _ => ?_)
  dsimp only [Function.comp_apply]
  by_cases same : entry.name = other.name
  · rw [named, if_pos same, if_pos named, if_pos same]
  · rw [named, if_neg same, if_neg same]

/-! ## Renamed parameters -/

/-- Whatever names parameters have, calls stand for the same statements, with the same faults, and
so do programs with them.  A text with the new names has other places in its body, but nothing
else is different. -/
theorem parameter_names_do_not_matter {pseudo : Pseudo} {change : String → String}
    (renames : pseudo.Renames change) :
    (∀ call, (pseudo.rename change).bind call = pseudo.bind call) ∧
    (∀ library : Library, library.find? pseudo.name = some pseudo → ∀ program,
      (library.replace (pseudo.rename change)).expand program = library.expand program ∧
      (library.replace (pseudo.rename change)).warnings program = library.warnings program) ∧
    (∀ written : Pseudo, written.Displaced (pseudo.rename change) →
      (∀ call, Displacement.anywhere.Ends (List.Forall₂ (Statement.Displaced .anywhere))
        (written.bind call) (pseudo.bind call)) ∧
      ∀ library : Library, library.find? pseudo.name = some pseudo → ∀ program,
        Displacement.anywhere.Ends (List.Forall₂ (Statement.Displaced .anywhere))
          ((library.replace written).expand program) (library.expand program)) := by
  have replaced (library : Library) (found : library.find? pseudo.name = some pseudo) :
      (library.replace (pseudo.rename change)).Interchangeable library :=
    rel_find?_replace Pseudo.interchangeable_refl renames.interchangeable.name
      renames.interchangeable found
  refine ⟨renames.bind_eq, fun library found => (replaced library found).expand_eq, ?_⟩
  intro written displaced
  refine ⟨fun call => ?_, fun library found program => ?_⟩
  · rw [← renames.bind_eq]
    exact displaced.bind call.displaced_refl
  · have found_again : (library.replace (pseudo.rename change)).find? (pseudo.rename change).name =
        some (pseudo.rename change) := by
      rw [find?_replace, if_pos rfl]
      exact congrArg (Option.map _) found
    have moved := rel_find?_replace Pseudo.displaced_refl displaced.name displaced found_again
    rw [replace_replace library displaced.name.symm] at moved
    rw [← ((replaced library found).expand_eq program).1]
    exact Displaced.expand moved (List.forall₂_same.mpr fun statement _ => statement.displaced_refl)

/-- New names for the parameters `a` and `b`. -/
def pairNames (name : String) : String := if name = "a" then "p" else "q"

/-- The arguments of the call are a new name and an old one. -/
theorem parameter_names_do_not_matter_pairNames :
    ∃ pseudo program, Pseudo.compile "pair a, b" "dw b, (a + b)" = .ok pseudo ∧
      Statement.parse "a.s" "pair q, a" = .ok program ∧ pseudo.Renames pairNames ∧
      (pseudo.rename pairNames).body.map Statement.render = ["dw q, (p + q)"] ∧
      (expand ⟨[pseudo]⟩ program).map (·.map Statement.render) = .ok ["dw a, (q + a)"] ∧
      (replace ⟨[pseudo]⟩ (pseudo.rename pairNames)).expand program =
        expand ⟨[pseudo]⟩ program := by
  have evaluated : (Pseudo.compile "pair a, b" "dw b, (a + b)" >>= fun pseudo =>
      (Statement.parse "a.s" "pair q, a").map fun program =>
        (decide (pseudo.Renames pairNames),
          (pseudo.rename pairNames).body.map Statement.render,
          (expand ⟨[pseudo]⟩ program).map (·.map Statement.render))) =
      .ok (true, ["dw q, (p + q)"], .ok ["dw a, (q + a)"]) := by
    decide +kernel
  obtain ⟨pseudo, compiled, computed⟩ := Success.bind_eq_ok.mp evaluated
  obtain ⟨program, parsed, observed⟩ := Success.map_eq_ok.mp computed
  simp only [Prod.mk.injEq, decide_eq_true_eq] at observed
  obtain ⟨renames, renamed, expanded⟩ := observed
  have found : find? ⟨[pseudo]⟩ pseudo.name = some pseudo := by simp [find?]
  have unchanged := (parameter_names_do_not_matter renames).2.1 ⟨[pseudo]⟩ found program
  exact ⟨pseudo, program, compiled, parsed, renames, renamed, expanded, unchanged.1⟩

end Library
end TableAssembler
