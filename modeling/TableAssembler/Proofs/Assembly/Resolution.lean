import TableAssembler.Assembly.Resolution
import TableAssembler.Proofs.Label.Substitution

/-!
# Resolution gives the meaning of a program

Five passes rewrite a program: calls are expanded, names are qualified, labels are placed, put in
and folded.  Together they give every instruction its meaning in one environment, the addresses of
the full names of all labels, wherever in the program a label stands.
-/

namespace TableAssembler

namespace Scope

/-- The statements of a qualified program are those of the program, each in its scope. -/
theorem mem_qualify_iff {program : List Statement} {qualified : Statement} :
    qualified ∈ qualify program ↔
      ∃ front statement back, program = front ++ statement :: back ∧
        qualifyStatement (behind front) statement = qualified := by
  constructor
  · intro member
    induction program using List.reverseRecOn with
    | nil => simp [qualify, qualifyFrom] at member
    | append_singleton program last induction =>
        rw [qualify_append_singleton, List.mem_append, List.mem_singleton] at member
        rcases member with earlier | rfl
        · obtain ⟨front, statement, back, rfl, same⟩ := induction earlier
          exact ⟨front, statement, back ++ [last], by simp, same⟩
        · exact ⟨program, last, [], rfl, rfl⟩
  · rintro ⟨front, statement, back, rfl, rfl⟩
    rw [qualify_append_cons]
    exact List.mem_append_right _ List.mem_cons_self

/-- The code in front of a statement tells where the statement is among the code. -/
theorem getElem?_filter_isCode_qualify {front : List Statement} {statement : Statement}
    (code : statement.isCode = true) (back : List Statement) :
    ((qualify (front ++ statement :: back)).filter
        Statement.isCode)[front.countP Statement.isCode]? =
      some (qualifyStatement (behind front) statement) := by
  have qualified_code : (qualifyStatement (behind front) statement).isCode = true := by
    rwa [isCode_qualifyStatement]
  rw [qualify_append_cons, List.filter_append, List.filter_cons_of_pos qualified_code,
    ← countP_isCode_qualify, List.countP_eq_length_filter, List.getElem?_append_right le_rfl,
    Nat.sub_self, List.getElem?_cons_zero]

end Scope

namespace Target

/-- The output and the labels that a program, with its calls expanded, means. -/
structure Denotes (target : Target) (program : List Statement) (resolution : Resolution) :
    Prop where
  /-- The output has the statements that are neither labels nor origins. -/
  length : resolution.statements.length = program.countP Statement.isCode
  /-- Each of them has its meaning in its scope, and its place among the others. -/
  statement : ∀ front statement back, program = front ++ statement :: back →
    statement.isCode = true →
    ∃ result, resolution.statements[front.countP Statement.isCode]? = some result ∧
      statement.Means (Dictionary.find? resolution.labels) (Scope.behind front) result
  /-- The names are the full names of the labels of the program, and no others. -/
  names : ∀ name, name ∈ Dictionary.names resolution.labels ↔
    ∃ front label back, program = front ++ label :: back ∧ label.isLabel = true ∧
      Scope.fullName (Scope.behind front) label.name = name
  /-- No name stands twice. -/
  nodup : (Dictionary.names resolution.labels).Nodup
  /-- The address of a label is the one behind the statements before it. -/
  address : ∀ front label back, program = front ++ label :: back → label.isLabel = true →
    ∃ address, Placement.AddressBehind target.layout target.sizer? front address ∧
      Dictionary.find? resolution.labels (Scope.fullName (Scope.behind front) label.name) =
        some address

variable {target : Target} {program : List Statement}

/-- Finishing puts in addresses and folds, one statement at a time. -/
theorem finish_eq_ok {placement : Placement} {resolution : Resolution}
    (finished : finish placement = .ok resolution) :
    resolution.labels = placement.labels ∧
      List.Forall₂
        (fun statement result =>
          (statement.mapArgs placement.labels.substituteOperand).fold = .ok result)
        placement.code resolution.statements := by
  simp only [finish, Success.bind_eq_ok, Success.pure_eq_ok, Statement.foldAll,
    Success.mapM_eq_ok, Labels.substitute, List.forall₂_map_left_iff] at finished
  obtain ⟨statements, folded, rfl⟩ := finished
  exact ⟨rfl, folded⟩

/-- Every statement of the output is what a statement of the program means in its scope. -/
theorem exists_means_of_finish {placement : Placement} {resolution : Resolution}
    (placed : target.place program = .ok placement)
    (finished : finish placement = .ok resolution) :
    ∀ result ∈ resolution.statements, ∃ front statement back,
      program = front ++ statement :: back ∧ statement.isCode = true ∧
        statement.Means (Dictionary.find? resolution.labels) (Scope.behind front) result := by
  intro result member
  obtain ⟨code_eq, -⟩ := Placement.describes_of_place placed
  obtain ⟨labels_eq, folded⟩ := finish_eq_ok finished
  obtain ⟨qualified, qualified_member, folded⟩ := Success.exists_input_of_forall₂ folded member
  rw [code_eq, List.mem_filter, Scope.mem_qualify_iff] at qualified_member
  obtain ⟨⟨front, statement, back, split, rfl⟩, code⟩ := qualified_member
  rw [Scope.isCode_qualifyStatement] at code
  rw [labels_eq]
  exact ⟨front, statement, back, split, code,
    Labels.means_of_fold (Statement.isLabel_of_isCode code) folded⟩

/-- A placed program whose addresses are put in and whose closures are folded has its meaning. -/
theorem denotes_of_finish {placement : Placement} {resolution : Resolution}
    (placed : target.place program = .ok placement)
    (finished : finish placement = .ok resolution) : target.Denotes program resolution := by
  obtain ⟨code_eq, describes⟩ := Placement.describes_of_place placed
  obtain ⟨labels_eq, folded⟩ := finish_eq_ok finished
  rw [code_eq, ← labels_eq] at folded
  rw [← labels_eq] at describes
  constructor
  · rw [← folded.length_eq, ← List.countP_eq_length_filter, Scope.countP_isCode_qualify]
  · rintro front statement back rfl code
    obtain ⟨result, found, step⟩ :=
      Success.getElem?_of_forall₂ folded (Scope.getElem?_filter_isCode_qualify code back)
    exact ⟨result, found, Labels.means_of_fold (Statement.isLabel_of_isCode code) step⟩
  · intro name
    simp only [describes.names, List.mem_map, List.mem_filter, Scope.mem_qualify_iff]
    constructor
    · rintro ⟨_, ⟨⟨front, label, back, split, rfl⟩, is_label⟩, rfl⟩
      rw [Scope.isLabel_qualifyStatement] at is_label
      exact ⟨front, label, back, split, is_label,
        (Scope.value_name_qualifyStatement is_label).symm⟩
    · rintro ⟨front, label, back, split, is_label, rfl⟩
      have qualified : (Scope.qualifyStatement (Scope.behind front) label).isLabel = true := by
        rwa [Scope.isLabel_qualifyStatement]
      exact ⟨_, ⟨⟨front, label, back, split, rfl⟩, qualified⟩,
        Scope.value_name_qualifyStatement is_label⟩
  · exact describes.nodup
  · rintro front label back rfl is_label
    obtain ⟨address, behind, found⟩ :=
      describes.find? _ _ _ (Scope.qualify_append_cons front label back) (by simpa using is_label)
    rw [Scope.value_name_qualifyStatement is_label] at found
    exact ⟨address, Scope.addressBehind_of_qualify behind, found⟩

/-- Resolving lexemes gives the meaning of the program that they write. -/
theorem denotes_of_resolve {lexemes : List Lexeme} {resolution : Resolution}
    (resolved : target.resolve lexemes = .ok resolution) :
    ∃ grouped program, Statement.group lexemes = .ok grouped ∧
      target.library.expand grouped = .ok program ∧ target.Denotes program resolution := by
  simp only [resolve, Success.bind_eq_ok] at resolved
  obtain ⟨grouped, grouped_eq, program, expanded, placement, placed, finished⟩ := resolved
  exact ⟨grouped, program, grouped_eq, expanded, denotes_of_finish placed finished⟩

/-- A target without pseudo-instructions, where every instruction counts one. -/
def plain : Target := { library := ⟨[]⟩, layout := .bytes, sizer? := none }

/-- A jump to a local label behind it, from inside a closure. -/
def forwardJump : List Lexeme :=
  [{ value := "start" }, { value := ":", kind := .punctuation }, { value := "jmp" },
    { value := "(", kind := .punctuation }, { value := ".end" },
    { value := "+", kind := .operator }, { value := "3", kind := .number, radix := 10 },
    { value := ")", kind := .punctuation }, { value := "\n", kind := .newline },
    { value := ".end" }, { value := ":", kind := .punctuation }, { value := "nop" }]

theorem denotes_of_resolve_forwardJump :
    ∃ resolution, plain.resolve forwardJump = .ok resolution ∧
      resolution.statements.map Statement.render = ["jmp 4", "nop"] ∧
      resolution.labels = [("start", 0), ("start.end", 1)] ∧
      ∃ grouped program, Statement.group forwardJump = .ok grouped ∧
        plain.library.expand grouped = .ok program ∧ plain.Denotes program resolution := by
  have evaluated :
      (plain.resolve forwardJump).map
          (fun resolution => (resolution.statements.map Statement.render, resolution.labels)) =
        .ok (["jmp 4", "nop"], [("start", 0), ("start.end", 1)]) := by
    decide +kernel
  obtain ⟨resolution, resolved, outcome⟩ := Success.map_eq_ok.mp evaluated
  obtain ⟨rendered, labels⟩ := Prod.mk.inj outcome
  exact ⟨resolution, resolved, rendered, labels, denotes_of_resolve resolved⟩

end Target
end TableAssembler
