import TableAssembler.Proofs.Label.Address
import TableAssembler.Proofs.Lexeme.Value
import TableAssembler.Proofs.Outcome

/-!
# When labels can be placed

Placement looks at the statements of a program in order.  A label must not have the name of an
earlier one, an origin must be given as one number, and every other statement must have a size.
The first statement that fails in this is reported.  When none does, every label has the address
that the statements in front of it add up to.
-/

namespace TableAssembler
namespace Placement

variable {layout : Layout} {sizer? : Option Sizer} {front : List Statement}
  {statement : Statement}

/-! ## Conditions -/

/-- The names of the labels of a program, in order. -/
def labelNames (program : List Statement) : List String :=
  (program.filter Statement.isLabel).map fun label => label.name.value

/-- What placement relies on. -/
structure Placeable (layout : Layout) (sizer? : Option Sizer) (program : List Statement) :
    Prop where
  /-- No two labels have the same name. -/
  labels : (labelNames program).Nodup
  /-- Every origin is given as one number that a word holds. -/
  origins : ∀ statement ∈ program, statement.isOrigin = true →
    ∃ arg target, statement.args = [arg] ∧ arg.kind = .number ∧ arg.word = .ok target
  /-- Every other statement has a size. -/
  sizes : ∀ statement ∈ program, statement.isCode = true →
    ∃ size, layout.statementSize sizer? statement = .ok size

/-- What is wrong with a statement that stands behind others. -/
inductive Misplaced (layout : Layout) (sizer? : Option Sizer) :
    List Statement × Statement → Fault → Prop
  /-- A label has the name of one in front of it. -/
  | duplicateLabel {front : List Statement} {label : Statement} :
      label.isLabel = true → label.name.value ∈ labelNames front →
        Misplaced layout sizer? (front, label)
          (.located label.location (.duplicateLabel label.name.value))
  /-- An origin has no argument, or more than one. -/
  | originArity {front : List Statement} {origin : Statement} :
      origin.isOrigin = true → origin.args.length ≠ 1 →
        Misplaced layout sizer? (front, origin) (.located origin.location .originArgument)
  /-- The argument of an origin is no number. -/
  | originKind {front : List Statement} {origin : Statement} {arg : Lexeme} :
      origin.isOrigin = true → origin.args = [arg] → arg.kind ≠ .number →
        Misplaced layout sizer? (front, origin) (.located arg.location .originArgument)
  /-- No word holds the argument of an origin. -/
  | originRange {front : List Statement} {origin : Statement} {arg : Lexeme} :
      origin.isOrigin = true → origin.args = [arg] → arg.kind = .number →
        Numeral.parse? arg.radix arg.value.toList = none →
        Misplaced layout sizer? (front, origin)
          (.located arg.location (.numberOutOfRange arg.source))
  /-- Another statement has no size. -/
  | noSize {front : List Statement} {code : Statement} {fault : Fault} :
      code.isCode = true → layout.statementSize sizer? code = .error fault →
        Misplaced layout sizer? (front, code) fault

/-- The statements that follow others, each with all that stands in front of it. -/
def positions : List Statement → List Statement → List (List Statement × Statement)
  | _, [] => []
  | front, statement :: rest => (front, statement) :: positions (front ++ [statement]) rest

@[simp]
theorem map_snd_positions (front rest : List Statement) :
    (positions front rest).map Prod.snd = rest := by
  induction rest generalizing front with
  | nil => rfl
  | cons statement rest induction => rw [positions, List.map_cons, induction]

@[simp]
theorem labelNames_append (front back : List Statement) :
    labelNames (front ++ back) = labelNames front ++ labelNames back := by
  simp [labelNames]

theorem labelNames_of_isLabel (label : statement.isLabel = true) :
    labelNames [statement] = [statement.name.value] := by
  simp [labelNames, label]

theorem labelNames_of_other (other : statement.isLabel = false) : labelNames [statement] = [] := by
  simp [labelNames, other]

/-! ## One statement -/

theorem isLabel_or_isOrigin_or_isCode (statement : Statement) :
    statement.isLabel = true ∨ statement.isOrigin = true ∨ statement.isCode = true := by
  unfold Statement.isLabel Statement.isOrigin Statement.isCode
  by_cases label : statement.kind = .label
  · simp [label]
  · by_cases origin : statement.mnemonic = Directive.origin
    · simp [label, origin]
    · simp [label, origin]

theorem originAddress_eq_ok {arg : Lexeme} {target : UInt64} (args : statement.args = [arg])
    (number : arg.kind = .number) (value : arg.word = .ok target) :
    originAddress statement = .ok target := by
  rw [originAddress, args]
  dsimp only
  rw [if_pos number, value]

/-- Nothing is wrong with a statement exactly when it can be placed behind the others. -/
theorem forall_not_misplaced_iff :
    (∀ fault, ¬ Misplaced layout sizer? (front, statement) fault) ↔
      (statement.isLabel = true → statement.name.value ∉ labelNames front) ∧
      (statement.isOrigin = true → ∃ arg target,
        statement.args = [arg] ∧ arg.kind = .number ∧ arg.word = .ok target) ∧
      (statement.isCode = true → ∃ size, layout.statementSize sizer? statement = .ok size) := by
  constructor
  · intro sound
    refine ⟨fun label used => sound _ (.duplicateLabel label used), fun origin => ?_,
      fun code => ?_⟩
    · by_cases single : statement.args.length = 1
      · obtain ⟨arg, args⟩ := List.length_eq_one_iff.mp single
        by_cases number : arg.kind = .number
        · cases value : Numeral.parse? arg.radix arg.value.toList with
          | none => exact absurd (.originRange origin args number value) (sound _)
          | some target =>
              exact ⟨arg, target, args, number, by rw [Lexeme.word, if_pos number, value]⟩
        · exact absurd (.originKind origin args number) (sound _)
      · exact absurd (.originArity origin single) (sound _)
    · cases sized : layout.statementSize sizer? statement with
      | error fault => exact absurd (.noSize code sized) (sound fault)
      | ok size => exact ⟨size, rfl⟩
  · rintro ⟨unused, origins, sizes⟩ fault misplaced
    cases misplaced with
    | duplicateLabel label used => exact unused label used
    | originArity origin arity =>
        obtain ⟨arg, target, args, -⟩ := origins origin
        simp [args] at arity
    | originKind origin args kind =>
        obtain ⟨arg, target, same, number, -⟩ := origins origin
        obtain rfl := List.singleton_inj.mp (args.symm.trans same)
        exact kind number
    | originRange origin args number great =>
        obtain ⟨arg, target, same, -, value⟩ := origins origin
        obtain rfl := List.singleton_inj.mp (args.symm.trans same)
        simp [Lexeme.word, number, great] at value
    | noSize code failed =>
        obtain ⟨size, sized⟩ := sizes code
        simp [sized] at failed

section Steps

variable {address : UInt64} {labels : Labels} {rest : List Statement}

theorem placeFrom_of_label (label : statement.isLabel = true)
    (unused : statement.name.value ∉ Dictionary.names labels) :
    placeFrom layout sizer? address labels (statement :: rest) =
      placeFrom layout sizer? address (labels ++ [(statement.name.value, address)]) rest := by
  have kind : statement.kind = .label := by simpa [Statement.isLabel] using label
  simp [placeFrom, kind, Dictionary.find?_eq_none_iff.mpr unused]

theorem placeFrom_of_origin (origin : statement.isOrigin = true) :
    placeFrom layout sizer? address labels (statement :: rest) =
      originAddress statement >>= fun target => placeFrom layout sizer? target labels rest := by
  have kind : statement.kind ≠ .label ∧ statement.mnemonic = Directive.origin := by
    simpa [Statement.isOrigin] using origin
  rw [placeFrom, if_neg kind.1, if_pos kind.2]

theorem placeFrom_of_code (code : statement.isCode = true) :
    placeFrom layout sizer? address labels (statement :: rest) =
      layout.statementSize sizer? statement >>= fun size =>
        (placeFrom layout sizer? (address + size) labels rest).map (cons statement) := by
  have kind : statement.kind ≠ .label ∧ statement.mnemonic ≠ Directive.origin := by
    simpa [Statement.isCode] using code
  rw [placeFrom, if_neg kind.1, if_neg kind.2]
  rfl

/-- A statement that is misplaced is reported, when the labels in front of it are known. -/
theorem Misplaced.placeFrom_eq {fault : Fault}
    (misplaced : Misplaced layout sizer? (front, statement) fault)
    (names : Dictionary.names labels = labelNames front) :
    placeFrom layout sizer? address labels (statement :: rest) = .error fault := by
  cases misplaced with
  | duplicateLabel label used =>
      have kind : statement.kind = .label := by simpa [Statement.isLabel] using label
      have found : (Dictionary.find? labels statement.name.value).isSome = true := by
        rw [Option.isSome_iff_ne_none, Ne, Dictionary.find?_eq_none_iff, not_not, names]
        exact used
      rw [placeFrom, if_pos kind]
      exact if_pos found
  | originArity origin arity =>
      have failed : originAddress statement =
          .error (.located statement.location .originArgument) := by
        unfold originAddress
        split
        · next args => simp [args] at arity
        · rfl
      rw [placeFrom_of_origin origin, failed]
      rfl
  | @originKind _ _ arg origin args kind =>
      have failed : originAddress statement = .error (.located arg.location .originArgument) := by
        rw [originAddress, args]
        exact if_neg kind
      rw [placeFrom_of_origin origin, failed]
      rfl
  | @originRange _ _ arg origin args number great =>
      have failed : originAddress statement =
          .error (.located arg.location (.numberOutOfRange arg.source)) := by
        rw [originAddress, args]
        dsimp only
        rw [if_pos number, Lexeme.word, if_pos number, great]
      rw [placeFrom_of_origin origin, failed]
      rfl
  | noSize code failed =>
      rw [placeFrom_of_code code, failed]
      rfl

end Steps

/-- At most one thing is wrong with a statement. -/
theorem Misplaced.unique {item : List Statement × Statement} {fault other : Fault}
    (misplaced : Misplaced layout sizer? item fault)
    (again : Misplaced layout sizer? item other) : fault = other := by
  obtain ⟨front, statement⟩ := item
  -- Both are what placing the statement reports, behind any labels with the names in front.
  let labels : Labels := (labelNames front).map fun name => (name, 0)
  have names : Dictionary.names labels = labelNames front := by
    simp [labels, Dictionary.names, Function.comp_def]
  have failed := @Misplaced.placeFrom_eq _ _ _ _ 0 labels [] _ misplaced names
  rw [again.placeFrom_eq names] at failed
  exact (Except.error.inj failed).symm

/-! ## Programs -/

/-- Placing statements behind others reports the first that is misplaced. -/
theorem reports_placeFrom {rest : List Statement} {address : UInt64} {labels : Labels}
    (names : Dictionary.names labels = labelNames front) :
    Outcome.Reports (Misplaced layout sizer?) (positions front rest) (fun _ => True)
      (placeFrom layout sizer? address labels rest) := by
  induction rest generalizing front address labels with
  | nil => exact .ok (by simp [positions]) trivial
  | cons statement rest induction =>
      rw [positions]
      by_cases sound : ∀ fault, ¬ Misplaced layout sizer? (front, statement) fault
      · refine .cons sound ?_
        obtain ⟨unused, origins, sizes⟩ := forall_not_misplaced_iff.mp sound
        rcases isLabel_or_isOrigin_or_isCode statement with label | origin | code
        · rw [placeFrom_of_label label (names ▸ unused label)]
          refine induction ?_
          rw [Dictionary.names_append, names, labelNames_append, labelNames_of_isLabel label]
          rfl
        · obtain ⟨arg, target, args, number, value⟩ := origins origin
          rw [placeFrom_of_origin origin, originAddress_eq_ok args number value]
          have other := labelNames_of_other (Statement.isLabel_of_isOrigin origin)
          exact induction (by simp [names, other])
        · obtain ⟨size, sized⟩ := sizes code
          rw [placeFrom_of_code code, sized]
          have other := labelNames_of_other (Statement.isLabel_of_isCode code)
          exact (induction (by simp [names, other])).map fun _ _ => trivial
      · push Not at sound
        obtain ⟨fault, misplaced⟩ := sound
        rw [misplaced.placeFrom_eq names]
        exact .error ⟨[], (front, statement), _, rfl, by simp, misplaced⟩

private theorem nodup_labelNames_append_iff {front : List Statement} (rest : List Statement)
    (nodup : (labelNames front).Nodup) :
    (labelNames (front ++ rest)).Nodup ↔ ∀ item ∈ positions front rest,
      item.2.isLabel = true → item.2.name.value ∉ labelNames item.1 := by
  induction rest generalizing front with
  | nil => simpa [positions] using nodup
  | cons statement rest induction =>
      rw [List.append_cons, positions, List.forall_mem_cons]
      by_cases label : statement.isLabel = true
      · have names := labelNames_of_isLabel label
        by_cases used : statement.name.value ∈ labelNames front
        · refine iff_of_false (fun all => ?_) fun both => both.1 label used
          rw [labelNames_append, labelNames_append, names] at all
          exact List.disjoint_of_nodup_append all.of_append_left used (List.mem_singleton_self _)
        · have longer : (labelNames (front ++ [statement])).Nodup := by
            rw [labelNames_append, names]
            exact nodup.append (List.nodup_singleton _) (List.disjoint_singleton.mpr used)
          rw [induction longer]
          exact (and_iff_right fun _ => used).symm
      · have names := labelNames_of_other (Bool.not_eq_true _ ▸ label)
        have same : labelNames (front ++ [statement]) = labelNames front := by
          rw [labelNames_append, names, List.append_nil]
        rw [induction (same ▸ nodup)]
        exact (and_iff_right fun is_label => absurd is_label label).symm

theorem placeable_iff {program : List Statement} :
    Placeable layout sizer? program ↔
      ∀ item ∈ positions [] program, ∀ fault, ¬ Misplaced layout sizer? item fault := by
  have each {holds : Statement → Prop} : (∀ statement ∈ program, holds statement) ↔
      ∀ item ∈ positions [] program, holds item.2 := by
    have mapped := @List.forall_mem_map _ _ Prod.snd (positions [] program) holds
    rwa [map_snd_positions] at mapped
  have nodup := @nodup_labelNames_append_iff [] program List.nodup_nil
  rw [List.nil_append] at nodup
  constructor
  · rintro ⟨labels, origins, sizes⟩ ⟨front, statement⟩ member
    exact forall_not_misplaced_iff.mpr
      ⟨nodup.mp labels _ member, each.mp origins _ member, each.mp sizes _ member⟩
  · intro sound
    have conditions := fun item member => forall_not_misplaced_iff.mp (sound item member)
    exact ⟨nodup.mpr fun item member => (conditions item member).1,
      each.mpr fun item member => (conditions item member).2.1,
      each.mpr fun item member => (conditions item member).2.2⟩

/-! ## Addresses -/

/-- The address behind statements: what the last origin sets, or zero, and the sizes of the
statements since, modulo the size of a word. -/
def addressAfter (layout : Layout) (sizer? : Option Sizer) (front : List Statement) :
    Except Fault UInt64 := do
  let start ← base front
  let sizes ← ((sinceOrigin front).filter Statement.isCode).mapM (layout.statementSize sizer?)
  return start + sizes.sum

theorem AddressBehind.addressAfter_eq {address : UInt64}
    (behind : AddressBehind layout sizer? front address) :
    addressAfter layout sizer? front = .ok address := by
  obtain ⟨start, sizes, base_eq, sized, rfl⟩ := behind.eq_base_add_sum
  simp only [addressAfter, Success.bind_eq_ok, Success.pure_eq_ok, Success.mapM_eq_ok]
  exact ⟨start, base_eq, sizes, sized, rfl⟩

/-- What a placed program consists of. -/
structure Places (layout : Layout) (sizer? : Option Sizer) (program : List Statement)
    (placement : Placement) : Prop where
  /-- The code is the program without its labels and origins. -/
  code : placement.code = program.filter Statement.isCode
  /-- There is one entry for each label, and no other. -/
  names : Dictionary.names placement.labels = labelNames program
  /-- The address of a label depends on nothing but what stands in front of it. -/
  address : ∀ front label back, program = front ++ label :: back → label.isLabel = true →
    ∃ address, addressAfter layout sizer? front = .ok address ∧
      Dictionary.find? placement.labels label.name.value = some address

/-- A program is placed exactly when labels are different, origins are numbers and everything else
has a size; every label then has its address, once.  Otherwise the first statement that is misplaced
is reported. -/
theorem place_assigns_every_label (layout : Layout) (sizer? : Option Sizer)
    (program : List Statement) :
    ((∃ placement, place layout sizer? program = .ok placement) ↔
        Placeable layout sizer? program) ∧
      (∀ placement, place layout sizer? program = .ok placement →
        Places layout sizer? program placement) ∧
      ∀ fault, place layout sizer? program = .error fault ↔
        Outcome.IsFirst (Misplaced layout sizer?) (positions [] program) fault := by
  have reports : Outcome.Reports (Misplaced layout sizer?) (positions [] program) (fun _ => True)
      (place layout sizer? program) := reports_placeFrom rfl
  refine ⟨reports.exists_ok_iff.trans placeable_iff.symm, ?_,
    reports.eq_error_iff fun item fault other => Misplaced.unique⟩
  intro placement placed
  obtain ⟨code, describes⟩ := describes_of_place placed
  refine ⟨code, describes.names, fun front label back split is_label => ?_⟩
  obtain ⟨address, behind, found⟩ := describes.find? front label back split is_label
  exact ⟨address, behind.addressAfter_eq, found⟩

end Placement
end TableAssembler
