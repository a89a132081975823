import TableAssembler.Proofs.Dictionary
import TableAssembler.Proofs.Success
import TableAssembler.Pseudo.Library

/-!
# Expansion is inlining

An inlining replaces every call by the body of its pseudo-instruction, and the calls in there, as
deep as they go.  Its tree tells how deep calls are nested.  Expanding a program succeeds exactly
for the trees that expansion admits, and leaves no call.
-/

namespace TableAssembler

namespace Pseudo

/-- The body of a pseudo-instruction with the arguments of a call, as far as there are any. -/
def instantiate (pseudo : Pseudo) (call : Statement) : List Statement :=
  pseudo.body.map (bindStatement (pseudo.binding call.args) call.location)

theorem bind_eq_ok_iff {pseudo : Pseudo} {call : Statement} {body : List Statement} :
    pseudo.bind call = .ok body ↔
      pseudo.formals.length ≤ call.args.length ∧ pseudo.instantiate call = body := by
  unfold bind
  split_ifs with missing
  · simp only [false_iff, not_and]
    omega
  · rw [Except.ok.injEq]
    exact ⟨fun same => ⟨by omega, same⟩, fun same => same.2⟩

/-- Only parameters have arguments. -/
theorem mem_formals_of_mem_names {pseudo : Pseudo} {args : List Lexeme} {name : String}
    (member : name ∈ Dictionary.names (pseudo.binding args)) : name ∈ pseudo.formals := by
  obtain ⟨entry, entry_member, rfl⟩ := List.mem_map.mp member
  rw [binding, List.mem_reverse] at entry_member
  exact (List.of_mem_zip entry_member).1

/-- Every parameter of a call with enough arguments has one. -/
theorem isSome_find?_binding {pseudo : Pseudo} {args : List Lexeme} {name : String}
    (arity : pseudo.formals.length ≤ args.length) (formal : name ∈ pseudo.formals) :
    (Dictionary.find? (pseudo.binding args) name).isSome = true := by
  rw [Option.isSome_iff_ne_none, Ne, Dictionary.find?_eq_none_iff, not_not, Dictionary.names,
    binding, List.map_reverse, List.map_fst_zip arity, List.mem_reverse]
  exact formal

end Pseudo

namespace Library

/-! ## Trees of calls -/

/-- How statements are inlined, call by call, into others. -/
inductive Inlining (library : Library) : List Statement → List Statement → Type
  | nil : Inlining library [] []
  /-- A label stays, and so does an instruction that is no call. -/
  | keep {statement : Statement} {rest out : List Statement} :
      statement.kind = .label ∨ library.find? statement.mnemonic = none →
        Inlining library rest out → Inlining library (statement :: rest) (statement :: out)
  /-- A call is replaced by what the body of its pseudo-instruction is inlined into. -/
  | call {statement : Statement} {pseudo : Pseudo} {rest body out : List Statement} :
      statement.kind ≠ .label → library.find? statement.mnemonic = some pseudo →
        Inlining library (pseudo.instantiate statement) body → Inlining library rest out →
        Inlining library (statement :: rest) (body ++ out)

namespace Inlining

variable {library : Library} {statements out : List Statement}

/-- How deep calls are nested in one another. -/
def depth {statements out : List Statement} : Inlining library statements out → Nat
  | .nil => 0
  | .keep _ rest => rest.depth
  | .call _ _ body rest => max (body.depth + 1) rest.depth

/-- Every call has an argument for each parameter. -/
def Saturated {statements out : List Statement} : Inlining library statements out → Prop
  | .nil => True
  | .keep _ rest => rest.Saturated
  | @call _ statement pseudo _ _ _ _ _ body rest =>
      pseudo.formals.length ≤ statement.args.length ∧ body.Saturated ∧ rest.Saturated

/-- No body that is put in place of a call has a label. -/
def LabelFree {statements out : List Statement} : Inlining library statements out → Prop
  | .nil => True
  | .keep _ rest => rest.LabelFree
  | @call _ statement pseudo _ _ _ _ _ body rest =>
      (∀ inner ∈ pseudo.instantiate statement, inner.kind ≠ .label) ∧ body.LabelFree ∧
        rest.LabelFree

/-- An inlining that expansion with room for some nested calls goes along with. -/
structure Admitted (inlining : Inlining library statements out) (limit : Nat) : Prop where
  saturated : inlining.Saturated
  labelFree : inlining.LabelFree
  depth_le : inlining.depth ≤ limit

/-- Statements are inlined into nothing but one result. -/
theorem unique (inlining : Inlining library statements out) {other : List Statement}
    (another : Inlining library statements other) : other = out := by
  induction inlining generalizing other with
  | nil =>
      cases another
      rfl
  | keep kept _ induction =>
      cases another with
      | keep _ rest => rw [induction rest]
      | call instruction found =>
          rcases kept with label | unknown
          · exact absurd label instruction
          · rw [unknown] at found
            contradiction
  | call instruction found _ _ body_induction rest_induction =>
      cases another with
      | keep kept =>
          rcases kept with label | unknown
          · exact absurd label instruction
          · rw [unknown] at found
            contradiction
      | call _ found_again body rest =>
          obtain rfl := Option.some.inj (found.symm.trans found_again)
          rw [body_induction body, rest_induction rest]

/-- No call is left. -/
theorem no_calls (inlining : Inlining library statements out) :
    ∀ statement ∈ out, statement.kind = .label ∨ library.find? statement.mnemonic = none := by
  induction inlining with
  | nil => simp
  | keep kept _ induction => exact List.forall_mem_cons.mpr ⟨kept, induction⟩
  | call _ _ _ _ body_induction rest_induction =>
      exact List.forall_mem_append.mpr ⟨body_induction, rest_induction⟩

/-- What a program has, and calls hand on to what stands for them, the inlined program has. -/
theorem forall_mem {holds : Statement → Prop} (inlining : Inlining library statements out)
    (saturated : inlining.Saturated) (labelFree : inlining.LabelFree)
    (calls : ∀ call pseudo body, holds call → library.find? call.mnemonic = some pseudo →
      pseudo.bind call = .ok body → (∀ inner ∈ body, inner.kind ≠ .label) →
      ∀ inner ∈ body, holds inner)
    (all : ∀ statement ∈ statements, holds statement) : ∀ statement ∈ out, holds statement := by
  induction inlining with
  | nil => exact all
  | keep _ _ induction =>
      obtain ⟨first, others⟩ := List.forall_mem_cons.mp all
      exact List.forall_mem_cons.mpr ⟨first, induction saturated labelFree others⟩
  | @call statement pseudo _ _ _ _ found _ _ body_induction rest_induction =>
      obtain ⟨first, others⟩ := List.forall_mem_cons.mp all
      obtain ⟨arity, body_saturated, rest_saturated⟩ := saturated
      obtain ⟨no_label, body_labelFree, rest_labelFree⟩ := labelFree
      have bound := Pseudo.bind_eq_ok_iff.mpr ⟨arity, rfl⟩
      have inner := calls statement pseudo _ first found bound no_label
      exact List.forall_mem_append.mpr ⟨body_induction body_saturated body_labelFree inner,
        rest_induction rest_saturated rest_labelFree others⟩

/-- Statements without calls are inlined into themselves. -/
theorem exists_of_no_calls {limit : Nat}
    (kept : ∀ statement ∈ out, statement.kind = .label ∨ library.find? statement.mnemonic = none) :
    ∃ inlining : Inlining library out out, inlining.Admitted limit := by
  induction out with
  | nil => exact ⟨.nil, trivial, trivial, Nat.zero_le _⟩
  | cons statement out induction =>
      obtain ⟨first, others⟩ := List.forall_mem_cons.mp kept
      obtain ⟨rest, admitted⟩ := induction others
      exact ⟨.keep first rest, admitted.saturated, admitted.labelFree, admitted.depth_le⟩

end Inlining

/-! ## One statement -/

variable {library : Library}

/-- What a statement is replaced by, with room for some nested calls; a label stays. -/
def Replaced (library : Library) (limit : Nat) (statement : Statement) (part : List Statement) :
    Prop :=
  if statement.kind = .label then part = [statement] else library.inline limit statement = .ok part

theorem inline_of_label {limit : Nat} {statement : Statement} (label : statement.kind = .label) :
    library.inline limit statement = .error (.located statement.location .labelInPseudo) := by
  unfold inline
  rw [if_pos label]

theorem inline_of_unknown {limit : Nat} {statement : Statement} (other : statement.kind ≠ .label)
    (unknown : library.find? statement.mnemonic = none) :
    library.inline limit statement = .ok [statement] := by
  unfold inline
  rw [if_neg other, unknown]

/-- A call with enough arguments is replaced by what the statements of the body stand for. -/
theorem inline_of_call {room : Nat} {statement : Statement} {pseudo : Pseudo}
    (other : statement.kind ≠ .label) (found : library.find? statement.mnemonic = some pseudo) :
    library.inline (room + 1) statement =
      if statement.args.length < pseudo.formals.length then
        .error (.located statement.location
          (.pseudoArity pseudo.name pseudo.formals.length statement.args.length))
      else
        (pseudo.body.mapM fun inner => library.inline room
          (Pseudo.bindStatement (pseudo.binding statement.args) statement.location inner)).map
          List.flatten := by
  rw [inline.eq_def]
  dsimp only
  rw [if_neg other, found]
  dsimp only [Pseudo.bind]
  split_ifs with missing
  · rfl
  · change (pseudo.body.map _).mapM (library.inline room) >>= _ = _
    rw [List.mapM_map]
    rfl

private theorem kind_ne_label_of_inline {limit : Nat} {statement : Statement}
    {part : List Statement}
    (inlined : library.inline limit statement = .ok part) : statement.kind ≠ .label := by
  intro label
  rw [inline_of_label label] at inlined
  contradiction

private theorem forall₂_inline_iff {limit : Nat} {body : List Statement}
    {parts : List (List Statement)} :
    List.Forall₂ (fun statement part => library.inline limit statement = .ok part) body parts ↔
      (∀ inner ∈ body, inner.kind ≠ .label) ∧
        List.Forall₂ (library.Replaced limit) body parts := by
  constructor
  · intro inlined
    induction inlined with
    | nil => exact ⟨by simp, .nil⟩
    | @cons statement part body parts first _ induction =>
        have instruction := kind_ne_label_of_inline first
        have replaced : library.Replaced limit statement part := by
          rwa [Replaced, if_neg instruction]
        exact ⟨List.forall_mem_cons.mpr ⟨instruction, induction.1⟩, .cons replaced induction.2⟩
  · rintro ⟨no_label, replaced⟩
    induction replaced with
    | nil => exact .nil
    | cons first _ induction =>
        obtain ⟨instruction, others⟩ := List.forall_mem_cons.mp no_label
        rw [Replaced, if_neg instruction] at first
        exact .cons first (induction others)

/-- An instruction stays, or it is a call and there is room for it. -/
theorem inline_eq_ok_iff {limit : Nat} {statement : Statement} {part : List Statement} :
    library.inline limit statement = .ok part ↔
      statement.kind ≠ .label ∧
        (library.find? statement.mnemonic = none ∧ part = [statement] ∨
          ∃ pseudo room parts, library.find? statement.mnemonic = some pseudo ∧
            limit = room + 1 ∧ pseudo.formals.length ≤ statement.args.length ∧
            (∀ inner ∈ pseudo.instantiate statement, inner.kind ≠ .label) ∧
            List.Forall₂ (library.Replaced room) (pseudo.instantiate statement) parts ∧
            parts.flatten = part) := by
  unfold inline
  by_cases label : statement.kind = .label
  · simp [label]
  rw [if_neg label]
  cases found : library.find? statement.mnemonic with
  | none => simp [label, eq_comm]
  | some pseudo =>
      cases limit with
      | zero => simp
      | succ room =>
          simp only [Success.bind_eq_ok, Success.pure_eq_ok, Success.mapM_eq_ok,
            Pseudo.bind_eq_ok_iff, forall₂_inline_iff]
          constructor
          · rintro ⟨_, ⟨saturated, rfl⟩, parts, ⟨no_label, replaced⟩, flat⟩
            exact ⟨label, .inr ⟨pseudo, room, parts, rfl, rfl, saturated, no_label, replaced, flat⟩⟩
          · rintro ⟨-, ⟨unknown, -⟩ |
              ⟨_, _, parts, same, size, saturated, no_label, replaced, flat⟩⟩
            · contradiction
            · obtain rfl := Option.some.inj same
              obtain rfl := Nat.succ.inj size
              exact ⟨_, ⟨saturated, rfl⟩, parts, ⟨no_label, replaced⟩, flat⟩

theorem expandStatement_eq_ok_iff {statement : Statement} {part : List Statement} :
    library.expandStatement statement = .ok part ↔
      library.Replaced depthLimit statement part := by
  unfold expandStatement Replaced
  split_ifs with label
  · rw [Except.ok.injEq]
    exact eq_comm
  · rfl

/-! ## Programs -/

theorem expand_cons (library : Library) (statement : Statement) (program : List Statement) :
    library.expand (statement :: program) = do
      let part ← library.expandStatement statement
      let rest ← library.expand program
      return part ++ rest := by
  unfold expand
  rw [List.mapM_cons]
  cases library.expandStatement statement with
  | error fault => rfl
  | ok part =>
      cases program.mapM library.expandStatement with
      | error fault => rfl
      | ok parts => rfl

theorem Inlining.exists_cons {limit : Nat} {statement : Statement}
    {part rest out : List Statement} (replaced : library.Replaced limit statement part)
    (bodies : ∀ room body parts, room < limit → List.Forall₂ (library.Replaced room) body parts →
      ∃ inlining : Inlining library body parts.flatten, inlining.Admitted room)
    (others : ∃ inlining : Inlining library rest out, inlining.Admitted limit) :
    ∃ inlining : Inlining library (statement :: rest) (part ++ out),
      inlining.Admitted limit := by
  obtain ⟨rest_inlining, admitted⟩ := others
  have kept (keeps : statement.kind = .label ∨ library.find? statement.mnemonic = none)
      (part_eq : part = [statement]) :
      ∃ inlining : Inlining library (statement :: rest) (part ++ out),
        inlining.Admitted limit := by
    subst part_eq
    exact ⟨.keep keeps rest_inlining, admitted.saturated, admitted.labelFree, admitted.depth_le⟩
  unfold Replaced at replaced
  split_ifs at replaced with label
  · exact kept (.inl label) replaced
  · obtain ⟨-, ⟨unknown, part_eq⟩ | ⟨pseudo, room, parts, found, rfl, saturated, no_label, inner,
      rfl⟩⟩ := inline_eq_ok_iff.mp replaced
    · exact kept (.inr unknown) part_eq
    · obtain ⟨body, body_admitted⟩ := bodies room _ parts (Nat.lt_succ_self room) inner
      refine ⟨.call label found body rest_inlining,
        ⟨saturated, body_admitted.saturated, admitted.saturated⟩,
        ⟨no_label, body_admitted.labelFree, admitted.labelFree⟩, ?_⟩
      have body_depth := body_admitted.depth_le
      have rest_depth := admitted.depth_le
      rw [depth]
      omega

private theorem exists_inlining_of_replaced {limit : Nat} {program : List Statement}
    {parts : List (List Statement)}
    (replaced : List.Forall₂ (library.Replaced limit) program parts) :
    ∃ inlining : Inlining library program parts.flatten, inlining.Admitted limit := by
  -- The outer induction is on the room for nested calls, the inner one on the program.
  induction limit using Nat.strongRecOn generalizing program parts with
  | ind limit bodies =>
      induction replaced with
      | nil => exact ⟨.nil, trivial, trivial, Nat.zero_le _⟩
      | cons first _ induction =>
          exact Inlining.exists_cons first (fun room _ _ less inner => bodies room less inner)
            induction

private theorem exists_replaced_of_inlining {limit : Nat} {program out : List Statement}
    (inlining : Inlining library program out) (admitted : inlining.Admitted limit) :
    ∃ parts, List.Forall₂ (library.Replaced limit) program parts ∧ parts.flatten = out := by
  induction inlining generalizing limit with
  | nil => exact ⟨[], .nil, rfl⟩
  | @keep statement rest out keeps rest_inlining induction =>
      obtain ⟨parts, replaced, flat⟩ :=
        induction ⟨admitted.saturated, admitted.labelFree, admitted.depth_le⟩
      have first : library.Replaced limit statement [statement] := by
        unfold Replaced
        split_ifs with label
        · rfl
        · exact inline_eq_ok_iff.mpr ⟨label, .inl ⟨keeps.resolve_left label, rfl⟩⟩
      exact ⟨[statement] :: parts, .cons first replaced, by rw [List.flatten_cons, flat]; rfl⟩
  | @call statement pseudo rest body out label found body_inlining rest_inlining body_induction
      rest_induction =>
      obtain ⟨⟨saturated, body_saturated, rest_saturated⟩,
        ⟨no_label, body_labelFree, rest_labelFree⟩, deep⟩ := admitted
      rw [Inlining.depth] at deep
      obtain ⟨room, rfl⟩ : ∃ room, limit = room + 1 := ⟨limit - 1, by omega⟩
      have body_depth : body_inlining.depth ≤ room := by omega
      have rest_depth : rest_inlining.depth ≤ room + 1 := by omega
      obtain ⟨inner, inner_replaced, inner_flat⟩ :=
        body_induction ⟨body_saturated, body_labelFree, body_depth⟩
      obtain ⟨parts, replaced, flat⟩ :=
        rest_induction ⟨rest_saturated, rest_labelFree, rest_depth⟩
      have first : library.Replaced (room + 1) statement body := by
        rw [Replaced, if_neg label, inline_eq_ok_iff]
        exact ⟨label, .inr ⟨pseudo, room, inner, found, rfl, saturated, no_label, inner_replaced,
          inner_flat⟩⟩
      exact ⟨body :: parts, .cons first replaced, by rw [List.flatten_cons, flat]⟩

/-- A program is expanded into what it is inlined into, when the inlining is admitted. -/
theorem expand_eq_ok_iff {program out : List Statement} :
    library.expand program = .ok out ↔
      ∃ inlining : Inlining library program out, inlining.Admitted depthLimit := by
  simp only [expand, Success.bind_eq_ok, Success.pure_eq_ok, Success.mapM_eq_ok,
    expandStatement_eq_ok_iff]
  constructor
  · rintro ⟨parts, replaced, rfl⟩
    exact exists_inlining_of_replaced replaced
  · rintro ⟨inlining, admitted⟩
    exact exists_replaced_of_inlining inlining admitted

/-- What a program has, and calls hand on to what stands for them, the expanded program has. -/
theorem forall_mem_of_expand {holds : Statement → Prop} {program out : List Statement}
    (expanded : library.expand program = .ok out)
    (calls : ∀ call pseudo body, holds call → library.find? call.mnemonic = some pseudo →
      pseudo.bind call = .ok body → (∀ inner ∈ body, inner.kind ≠ .label) →
      ∀ inner ∈ body, holds inner)
    (all : ∀ statement ∈ program, holds statement) : ∀ statement ∈ out, holds statement := by
  obtain ⟨inlining, admitted⟩ := expand_eq_ok_iff.mp expanded
  exact inlining.forall_mem admitted.saturated admitted.labelFree calls all

/-- An expanded program is expanded into itself. -/
theorem expand_of_expand {program out : List Statement}
    (expanded : library.expand program = .ok out) : library.expand out = .ok out := by
  obtain ⟨inlining, -⟩ := expand_eq_ok_iff.mp expanded
  exact expand_eq_ok_iff.mpr (Inlining.exists_of_no_calls inlining.no_calls)

end Library
end TableAssembler
