import TableAssembler.InstructionSet.Basic
import TableAssembler.Proofs.Dictionary
import TableAssembler.Proofs.Outcome
import TableAssembler.Proofs.Success
import TableAssembler.Proofs.Text.ByteOrder
import TableAssembler.Pseudo.Library

/-!
# The order of a configuration

A configuration maps names to values, and what lists it has no order in mind.  Compiling it gives
the same set and the same library, or the same fault, in whatever order its maps are enumerated:
the fault is that of the least name that has one.
-/

namespace TableAssembler

/-! ## The least fault -/

namespace Dictionary

variable {α ε : Type} {entries : Dictionary α} {faulty : String × α → ε → Prop} {fault : ε}

/-- The fault is that of the entry whose name has the least bytes among those with a fault. -/
def LeastFault (faulty : String × α → ε → Prop) (entries : Dictionary α) (fault : ε) : Prop :=
  ∃ entry ∈ entries, faulty entry fault ∧
    ∀ earlier ∈ entries, Text.bytes earlier.1 < Text.bytes entry.1 →
      ∀ other, ¬ faulty earlier other

/-- In ascending order the least fault comes first. -/
theorem isFirst_sorted_iff (distinct : (names entries).Nodup) :
    Outcome.IsFirst faulty (sorted entries) fault ↔ LeastFault faulty entries fault := by
  have ascending := pairwise_lt_sorted distinct
  have listed (entry : String × α) : entry ∈ sorted entries ↔ entry ∈ entries :=
    (perm_sorted entries).mem_iff
  constructor
  · rintro ⟨front, entry, back, split, sound, here⟩
    have member : entry ∈ entries := (listed entry).mp (by simp [split])
    refine ⟨entry, member, here, fun earlier earlier_member less => sound earlier ?_⟩
    exact (mem_front_iff ascending split).mpr
      ⟨(listed earlier).mpr earlier_member, Text.bytes_lt_iff.mp less⟩
  · rintro ⟨entry, member, here, least⟩
    obtain ⟨front, back, split⟩ := List.append_of_mem ((listed entry).mpr member)
    refine ⟨front, entry, back, split, fun earlier in_front => ?_, here⟩
    obtain ⟨earlier_member, less⟩ := (mem_front_iff ascending split).mp in_front
    exact least earlier ((listed earlier).mp earlier_member) (Text.bytes_lt_of_lt less)

end Dictionary

/-! ## Tables -/

namespace Tables

variable {tables : Tables} {tag symbol : String} {word : UInt64}

private theorem value_eq_ok_iff : tables.value tag symbol = .ok word ↔
    ∃ table, Dictionary.find? tables (Text.upper tag) = some table ∧
      Dictionary.find? table (Text.lower symbol) = some word := by
  unfold value
  split
  · next absent => simp [absent]
  · next table found =>
      split
      · next absent => simp [found, absent]
      · next word found_word => simp [found, found_word]

/-- No two tags, and no two symbols of one table, differ only in letter case. -/
structure Distinct (tables : Tables) : Prop where
  tags : ((Dictionary.names tables).map Text.upper).Nodup
  symbols : ∀ table ∈ tables, ((Dictionary.names table.2).map Text.lower).Nodup

/-- The symbol has the value in the table with the tag, up to letter case. -/
def Gives (tables : Tables) (tag symbol : String) (word : UInt64) : Prop :=
  ∃ table ∈ tables, Text.upper table.1 = Text.upper tag ∧
    ∃ entry ∈ table.2, Text.lower entry.1 = Text.lower symbol ∧ entry.2 = word

/-- The symbols of a table in the letter case they are looked up by. -/
def lowered (symbols : Dictionary UInt64) : Dictionary UInt64 :=
  symbols.map fun entry => (Text.lower entry.1, entry.2)

theorem normalize_eq (tables : Tables) :
    tables.normalize = Dictionary.sorted (tables.map fun table =>
      (Text.upper table.1, Dictionary.sorted (lowered table.2))) := rfl

private theorem names_lowered (symbols : Dictionary UInt64) :
    Dictionary.names (lowered symbols) = (Dictionary.names symbols).map Text.lower := by
  simp [Dictionary.names, lowered]

theorem Distinct.nodup_names (distinct : tables.Distinct) :
    (Dictionary.names (tables.map fun table =>
      (Text.upper table.1, Dictionary.sorted (lowered table.2)))).Nodup := by
  simpa [Dictionary.names, Function.comp_def] using distinct.tags

theorem Distinct.nodup_names_lowered (distinct : tables.Distinct)
    {table : String × Dictionary UInt64} (member : table ∈ tables) :
    (Dictionary.names (lowered table.2)).Nodup := by
  rw [names_lowered]
  exact distinct.symbols table member

/-- Looking up finds what the tables give, and nothing else. -/
theorem Distinct.value_normalize_iff (distinct : tables.Distinct) :
    tables.normalize.value tag symbol = .ok word ↔ tables.Gives tag symbol word := by
  have tags := Dictionary.nodup_names_sorted distinct.nodup_names
  rw [value_eq_ok_iff, normalize_eq]
  simp only [Dictionary.find?_eq_some_iff tags, (Dictionary.perm_sorted _).mem_iff, List.mem_map]
  constructor
  · rintro ⟨_, ⟨table, member, same⟩, found⟩
    obtain ⟨tag_eq, rfl⟩ := Prod.mk.inj same
    have symbols := Dictionary.nodup_names_sorted (distinct.nodup_names_lowered member)
    rw [Dictionary.find?_eq_some_iff symbols, (Dictionary.perm_sorted _).mem_iff, lowered,
      List.mem_map] at found
    obtain ⟨entry, listed, same⟩ := found
    exact ⟨table, member, tag_eq, entry, listed, Prod.mk.inj same⟩
  · rintro ⟨table, member, tag_eq, entry, listed, symbol_eq, word_eq⟩
    have symbols := Dictionary.nodup_names_sorted (distinct.nodup_names_lowered member)
    refine ⟨_, ⟨table, member, by rw [tag_eq]⟩, ?_⟩
    rw [Dictionary.find?_eq_some_iff symbols, (Dictionary.perm_sorted _).mem_iff, lowered,
      List.mem_map]
    exact ⟨entry, listed, by rw [symbol_eq, word_eq]⟩

/-- The same tables in another order, and their symbols too. -/
def Reordered (tables others : Tables) : Prop :=
  ∃ middle : Tables, tables.Perm middle ∧
    List.Forall₂ (fun table other => table.1 = other.1 ∧ table.2.Perm other.2) middle others

theorem Distinct.normalize_eq_of_reordered {others : Tables} (distinct : tables.Distinct)
    (reordered : tables.Reordered others) : tables.normalize = others.normalize := by
  obtain ⟨middle, perm, related⟩ := reordered
  rw [normalize_eq, Dictionary.sorted_eq_of_perm distinct.nodup_names (perm.map _), normalize_eq]
  refine congrArg _ (Success.map_eq_map_of_forall₂ ?_)
  have in_middle : ∀ table ∈ middle, table ∈ tables := fun table => perm.mem_iff.mpr
  clear perm
  induction related with
  | nil => exact .nil
  | cons same _ induction =>
      obtain ⟨member, others⟩ := List.forall_mem_cons.mp in_middle
      refine .cons ?_ (induction others)
      rw [same.1, Dictionary.sorted_eq_of_perm (distinct.nodup_names_lowered member)
        (same.2.map _), lowered]

end Tables

/-! ## Instruction sets -/

/-- What the maps of a configuration promise: no name is listed twice, and those of tables and of
their symbols not in different letter cases either. -/
structure Config.Distinct (config : Config) : Prop where
  tables : config.tables.Distinct
  instructions : (Dictionary.names config.instructions).Nodup
  pseudo : (Dictionary.names config.pseudo).Nodup

/-- The same configuration, with its maps enumerated in another order. -/
structure Config.Reordered (config other : Config) : Prop where
  tables : config.tables.Reordered other.tables
  instructions : config.instructions.Perm other.instructions
  pseudo : config.pseudo.Perm other.pseudo

namespace InstructionSet

variable {config other : Config}

/-- What is wrong with an instruction of a configuration.  Its name is looked at first, for itself
and then among the smaller ones, and its template last. -/
inductive Offends (config : Config) : String × String → Cause → Prop
  | reserved {name template : String} :
      Directive.isDirective (Text.lower name) = true →
        Offends config (name, template) (.reservedInstruction (Text.lower name))
  | duplicate {name template earlier : String} :
      Directive.isDirective (Text.lower name) = false →
        earlier ∈ Dictionary.names config.instructions → Text.bytes earlier < Text.bytes name →
        Text.lower earlier = Text.lower name →
        Offends config (name, template) (.duplicateInstruction (Text.lower name))
  | template {name template : String} {cause : Cause} :
      Directive.isDirective (Text.lower name) = false →
        (∀ earlier ∈ Dictionary.names config.instructions, Text.bytes earlier < Text.bytes name →
          Text.lower earlier ≠ Text.lower name) →
        Template.compile (Text.lower name) template config.tables.normalize = .error cause →
        Offends config (name, template) cause

theorem Offends.unique {entry : String × String} {cause second : Cause}
    (offends : Offends config entry cause) (again : Offends config entry second) :
    cause = second := by
  cases offends with
  | reserved reserved =>
      cases again with
      | reserved => rfl
      | duplicate plain => simp [reserved] at plain
      | template plain => simp [reserved] at plain
  | duplicate plain listed less same =>
      cases again with
      | reserved reserved => simp [reserved] at plain
      | duplicate => rfl
      | template _ fresh => exact absurd same (fresh _ listed less)
  | template plain fresh failed =>
      cases again with
      | reserved reserved => simp [reserved] at plain
      | duplicate _ listed less same => exact absurd same (fresh _ listed less)
      | template _ _ failed_again => exact Except.error.inj (failed.symm.trans failed_again)

/-- What is known of a set when some entries have been added to it. -/
structure Holds (config : Config) (front : Dictionary String) (set : InstructionSet) : Prop where
  tables : set.tables = config.tables.normalize
  names : set.instructions.map (·.name) = (Dictionary.names front).map Text.lower

theorem Holds.isSome_find?_iff {front : Dictionary String} {set : InstructionSet}
    (holds : Holds config front set) {mnemonic : String} :
    (set.find? mnemonic).isSome = true ↔
      ∃ earlier ∈ Dictionary.names front, Text.lower earlier = mnemonic := by
  have listed : mnemonic ∈ set.instructions.map (·.name) ↔
      mnemonic ∈ (Dictionary.names front).map Text.lower := by
    rw [holds.names]
  simpa only [find?, List.find?_isSome, beq_iff_eq, List.mem_map] using listed

/-- Adding one entry behind those with smaller names. -/
theorem reports_add {front back : Dictionary String} {entry : String × String}
    {set : InstructionSet} (distinct : (Dictionary.names config.instructions).Nodup)
    (split : Dictionary.sorted config.instructions = front ++ entry :: back)
    (holds : Holds config front set) :
    Outcome.Reports (Offends config) [entry] (Holds config (front ++ [entry]))
      (set.add entry.1 entry.2) := by
  obtain ⟨name, template⟩ := entry
  have ascending := Dictionary.pairwise_lt_sorted distinct
  have smaller (earlier : String) : earlier ∈ Dictionary.names front ↔
      earlier ∈ Dictionary.names config.instructions ∧ Text.bytes earlier < Text.bytes name := by
    simp only [Dictionary.names, List.mem_map, Dictionary.mem_front_iff ascending split,
      (Dictionary.perm_sorted _).mem_iff, Text.bytes_lt_iff]
    grind
  unfold InstructionSet.add
  dsimp only
  split_ifs with reserved duplicate
  · exact .single_error (.reserved reserved)
  · obtain ⟨earlier, listed, same⟩ := holds.isSome_find?_iff.mp duplicate
    obtain ⟨member, less⟩ := (smaller earlier).mp listed
    exact .single_error (.duplicate (Bool.eq_false_iff.mpr reserved) member less same)
  · have fresh : ∀ earlier ∈ Dictionary.names config.instructions,
        Text.bytes earlier < Text.bytes name → Text.lower earlier ≠ Text.lower name :=
      fun earlier member less same => duplicate <| holds.isSome_find?_iff.mpr
        ⟨earlier, (smaller earlier).mpr ⟨member, less⟩, same⟩
    rw [holds.tables]
    cases compiled : Template.compile (Text.lower name) template config.tables.normalize with
    | error cause =>
        exact .single_error (.template (Bool.eq_false_iff.mpr reserved) fresh compiled)
    | ok fields =>
        refine .single_ok ?_ ⟨rfl, ?_⟩
        · intro cause offends
          cases offends with
          | reserved directive => exact reserved directive
          | duplicate _ listed less same => exact fresh _ listed less same
          | template _ _ failed => simp [compiled] at failed
        · simp [holds.names, Dictionary.names]

/-- Compiling reports the least offending name. -/
theorem reports_compile (distinct : (Dictionary.names config.instructions).Nodup) :
    Outcome.Reports (Offends config) (Dictionary.sorted config.instructions)
      (Holds config (Dictionary.sorted config.instructions)) (compile config) :=
  .foldlM (Holds config) ⟨rfl, rfl⟩ fun _ _ _ _ split holds => reports_add distinct split holds

theorem compile_eq_error_iff (distinct : (Dictionary.names config.instructions).Nodup)
    (cause : Cause) :
    compile config = .error cause ↔ config.instructions.LeastFault (Offends config) cause := by
  rw [(reports_compile distinct).eq_error_iff (fun _ _ _ => Offends.unique),
    Dictionary.isFirst_sorted_iff distinct]

theorem compile_eq_of_reordered (distinct : config.Distinct) (reordered : config.Reordered other) :
    compile config = compile other := by
  rw [compile, compile, distinct.tables.normalize_eq_of_reordered reordered.tables,
    Dictionary.sorted_eq_of_perm distinct.instructions reordered.instructions,
    Dictionary.sorted_eq_of_perm distinct.pseudo reordered.pseudo]

end InstructionSet

/-! ## Libraries -/

namespace Library

variable {sources : Dictionary String}

/-- What is wrong with a pseudo-instruction among others: its header or its body, or its name
among those of smaller headers. -/
inductive Offends (sources : Dictionary String) : String × String → Fault → Prop
  | source {header body : String} {fault : Fault} :
      Pseudo.compile header body = .error fault → Offends sources (header, body) fault
  | duplicate {header body : String} {earlier : String × String} {pseudo first : Pseudo} :
      Pseudo.compile header body = .ok pseudo → earlier ∈ sources →
        Text.bytes earlier.1 < Text.bytes header →
        Pseudo.compile earlier.1 earlier.2 = .ok first → first.name = pseudo.name →
        Offends sources (header, body) (.nowhere (.duplicatePseudo pseudo.name))

theorem Offends.unique {entry : String × String} {fault second : Fault}
    (offends : Offends sources entry fault) (again : Offends sources entry second) :
    fault = second := by
  cases offends with
  | source failed =>
      cases again with
      | source failed_again => exact Except.error.inj (failed.symm.trans failed_again)
      | duplicate compiled => simp [failed] at compiled
  | duplicate compiled =>
      cases again with
      | source failed => simp [compiled] at failed
      | duplicate compiled_again =>
          rw [Except.ok.inj (compiled.symm.trans compiled_again)]

/-- Adds one pseudo-instruction to a library. -/
def add (library : Library) (entry : String × String) : Except Fault Library := do
  let pseudo ← Pseudo.compile entry.1 entry.2
  if (library.find? pseudo.name).isSome then .error (.nowhere (.duplicatePseudo pseudo.name))
  else .ok ⟨library.pseudos ++ [pseudo]⟩

theorem addAll_eq_foldlM (library : Library) (entries : Dictionary String) :
    library.addAll entries = entries.foldlM add library := by
  induction entries generalizing library with
  | nil => rfl
  | cons entry entries induction =>
      rw [List.foldlM_cons, addAll, add]
      cases Pseudo.compile entry.1 entry.2 with
      | error fault => rfl
      | ok pseudo =>
          change (if _ then _ else _) = (if _ then _ else _) >>= _
          split_ifs
          · rfl
          · exact induction _

/-- The pseudo-instructions of a library are compiled from some entries. -/
def Holds (front : Dictionary String) (library : Library) : Prop :=
  List.Forall₂ (fun entry pseudo => Pseudo.compile entry.1 entry.2 = .ok pseudo) front
    library.pseudos

/-- Adding one entry behind those with smaller headers. -/
theorem reports_add {front back : Dictionary String} {entry : String × String}
    {library : Library} (distinct : (Dictionary.names sources).Nodup)
    (split : Dictionary.sorted sources = front ++ entry :: back) (holds : Holds front library) :
    Outcome.Reports (Offends sources) [entry] (Holds (front ++ [entry])) (library.add entry) := by
  obtain ⟨header, body⟩ := entry
  have ascending := Dictionary.pairwise_lt_sorted distinct
  have smaller (earlier : String × String) : earlier ∈ front ↔
      earlier ∈ sources ∧ Text.bytes earlier.1 < Text.bytes header := by
    rw [Dictionary.mem_front_iff ascending split, (Dictionary.perm_sorted _).mem_iff,
      Text.bytes_lt_iff]
  unfold add
  cases compiled : Pseudo.compile header body with
  | error fault => exact .single_error (.source compiled)
  | ok pseudo =>
      change Outcome.Reports _ _ _ (if _ then _ else _)
      split_ifs with duplicate
      · rw [find?, List.find?_isSome] at duplicate
        obtain ⟨first, listed, same⟩ := duplicate
        obtain ⟨earlier, in_front, earlier_compiled⟩ :=
          Success.exists_input_of_forall₂ holds listed
        obtain ⟨member, less⟩ := (smaller earlier).mp in_front
        exact .single_error
          (.duplicate compiled member less earlier_compiled (beq_iff_eq.mp same))
      · refine .single_ok ?_ (List.rel_append holds (.cons compiled .nil))
        intro fault offends
        cases offends with
        | source failed => simp [compiled] at failed
        | @duplicate _ _ earlier _ first again member less earlier_compiled same =>
            have in_front := (smaller earlier).mpr ⟨member, less⟩
            obtain ⟨found, listed, found_compiled⟩ :=
              Success.exists_input_of_forall₂ holds.flip in_front
            refine duplicate ?_
            rw [find?, List.find?_isSome]
            refine ⟨found, listed, beq_iff_eq.mpr ?_⟩
            rw [Except.ok.inj (found_compiled.symm.trans earlier_compiled), same,
              Except.ok.inj (again.symm.trans compiled)]

/-- Compiling reports the least offending header. -/
theorem compile_eq_error_iff (distinct : (Dictionary.names sources).Nodup) (fault : Fault) :
    compile sources = .error fault ↔ sources.LeastFault (Offends sources) fault := by
  have reports : Outcome.Reports (Offends sources) (Dictionary.sorted sources)
      (Holds (Dictionary.sorted sources)) (compile sources) := by
    rw [compile, addAll_eq_foldlM]
    exact .foldlM Holds .nil fun _ _ _ _ split holds => reports_add distinct split holds
  rw [reports.eq_error_iff (fun _ _ _ => Offends.unique), Dictionary.isFirst_sorted_iff distinct]

end Library

/-! ## Both -/

/-- The order in which a configuration is enumerated does not matter: what it compiles to is the
same, its faults are those of the least names that have any, and its tables are looked up up to
letter case. -/
theorem Config.enumeration_does_not_matter {config other : Config} (distinct : config.Distinct)
    (reordered : config.Reordered other) :
    InstructionSet.compile config = InstructionSet.compile other ∧
      Library.compile config.pseudo = Library.compile other.pseudo ∧
      (∀ cause, InstructionSet.compile config = .error cause ↔
        config.instructions.LeastFault (InstructionSet.Offends config) cause) ∧
      (∀ fault, Library.compile config.pseudo = .error fault ↔
        config.pseudo.LeastFault (Library.Offends config.pseudo) fault) ∧
      ∀ set, InstructionSet.compile config = .ok set → ∀ tag symbol word,
        set.tables.value tag symbol = .ok word ↔ config.tables.Gives tag symbol word := by
  refine ⟨InstructionSet.compile_eq_of_reordered distinct reordered, ?_,
    InstructionSet.compile_eq_error_iff distinct.instructions,
    Library.compile_eq_error_iff distinct.pseudo, ?_⟩
  · rw [Library.compile, Dictionary.sorted_eq_of_perm distinct.pseudo reordered.pseudo]
    rfl
  · intro set compiled tag symbol word
    have holds := (InstructionSet.reports_compile distinct.instructions).results_of_ok compiled
    rw [holds.tables]
    exact distinct.tables.value_normalize_iff

/-- Tags and symbols in both letter cases, and two headers that do not differ otherwise. -/
def Config.mixedCase : Config where
  tables := [("r", [("Acc", 1), ("flg", 2)]), ("C", [("Acc", 3)])]
  instructions := [("nop", "0000"), ("LD", "0001")]
  pseudo := [("clr", "ld zero"), ("CLR x", "add x")]

/-- The same, the other way round. -/
def Config.mixedCaseTurned : Config where
  tables := [("C", [("Acc", 3)]), ("r", [("flg", 2), ("Acc", 1)])]
  instructions := [("LD", "0001"), ("nop", "0000")]
  pseudo := [("CLR x", "add x"), ("clr", "ld zero")]

theorem Config.enumeration_does_not_matter_mixedCase :
    (∃ set, InstructionSet.compile mixedCaseTurned = .ok set ∧
        set.tables.value "R" "ACC" = .ok 1) ∧
      Library.compile mixedCaseTurned.pseudo = .error (.nowhere (.duplicatePseudo "clr")) ∧
      mixedCase.pseudo.LeastFault (Library.Offends mixedCase.pseudo)
        (.nowhere (.duplicatePseudo "clr")) := by
  have distinct : mixedCase.Distinct :=
    ⟨⟨by decide +kernel, by decide +kernel⟩, by decide +kernel, by decide +kernel⟩
  have reordered : mixedCase.Reordered mixedCaseTurned :=
    ⟨⟨_, .swap _ _ _, .cons ⟨rfl, .refl _⟩ (.cons ⟨rfl, .swap _ _ _⟩ .nil)⟩, .swap _ _ _,
      .swap _ _ _⟩
  have compiled : (InstructionSet.compile mixedCase).map (fun _ => ()) = .ok () := by
    decide +kernel
  have failed : (Library.compile mixedCase.pseudo).map (fun _ => ()) =
      .error (.nowhere (.duplicatePseudo "clr")) := by
    decide +kernel
  obtain ⟨same, same_library, -, least, value⟩ := enumeration_does_not_matter distinct reordered
  obtain ⟨set, compiled, -⟩ := Success.map_eq_ok.mp compiled
  have failed := Success.map_eq_error.mp failed
  have given : mixedCase.tables.Gives "R" "ACC" 1 :=
    ⟨_, List.mem_cons_self, by decide, _, List.mem_cons_self, by decide, rfl⟩
  exact ⟨⟨set, same ▸ compiled, (value set compiled _ _ _).mpr given⟩, same_library ▸ failed,
    (least _).mp failed⟩

end TableAssembler
