import TableAssembler.Image.Basic
import TableAssembler.Proofs.Statement.Displacement

/-!
# Code does not depend on places

Displaced statements are encoded into the same bytes, and what cannot be encoded fails for the same
reason.  The records of an image keep the places of their statements and differ in nothing else.
-/

namespace TableAssembler

variable {displacement : Displacement}

namespace Encoding

variable {first second : Lexeme} {args others : List Lexeme}

/-! ## Operands -/

theorem displaced_number (displaced : first.Displaced displacement second) :
    displacement.Ends Eq (number first) (number second) := by
  unfold number
  rw [displaced.kind, displaced.value]
  split
  · exact displaced.word
  · exact .error (Fault.Displaced.located _ displaced.location)
  · exact .error (Fault.Displaced.located _ displaced.location)

private theorem displaced_fit {location other : Location}
    (moved : displacement.Locations location other) (width : Int) (value : UInt64) :
    displacement.Ends Eq (fit location width value) (fit other width value) := by
  unfold fit
  split
  · exact .ok rfl
  · exact .error (Fault.Displaced.located _ moved)

private theorem displaced_symbolValue (tables : Tables) (tag : String)
    (displaced : first.Displaced displacement second) :
    displacement.Ends Eq (symbolValue tables tag first) (symbolValue tables tag second) := by
  unfold symbolValue
  rw [displaced.kind, displaced.value]
  split
  · cases tables.value tag second.value with
    | ok value => exact .ok rfl
    | error cause => exact .error (Fault.Displaced.located cause displaced.location)
  · exact .error (Fault.Displaced.located _ displaced.location)

private theorem displaced_fit_read {read : Lexeme → Except Fault UInt64} (width : Int)
    (displaced : first.Displaced displacement second)
    (alike : displacement.Ends Eq (read first) (read second))
    (rest : List.Forall₂ (Lexeme.Displaced displacement) args others) :
    displacement.Ends
      (fun result result' => result.1 = result'.1 ∧
        List.Forall₂ (Lexeme.Displaced displacement) result.2 result'.2)
      (do let value ← read first; let piece ← fit first.location width value; return (piece, args))
      (do
        let value ← read second
        let piece ← fit second.location width value
        return (piece, others)) := by
  refine alike.bind ?_
  rintro value _ rfl
  refine (displaced_fit displaced.location width value).bind ?_
  rintro piece _ rfl
  exact .ok ⟨rfl, rest⟩

/-! ## Instructions -/

private theorem displaced_encodeField (tables : Tables) {location other : Location} (field : Field)
    (moved : displacement.Locations location other)
    (displaced : List.Forall₂ (Lexeme.Displaced displacement) args others) :
    displacement.Ends
      (fun result result' => result.1 = result'.1 ∧
        List.Forall₂ (Lexeme.Displaced displacement) result.2 result'.2)
      (encodeField tables location field args) (encodeField tables other field others) := by
  cases field with
  | constant bits => exact .ok ⟨rfl, displaced⟩
  | symbol tag width =>
      cases displaced with
      | nil => exact .error (Fault.Displaced.located _ moved)
      | cons arg rest =>
          exact displaced_fit_read width arg (displaced_symbolValue tables tag arg) rest
  | immediate width =>
      cases displaced with
      | nil => exact .error (Fault.Displaced.located _ moved)
      | cons arg rest => exact displaced_fit_read width arg (displaced_number arg) rest
  | optional width =>
      cases displaced with
      | nil =>
          dsimp only [encodeField]
          split_ifs
          · exact .ok ⟨rfl, .nil⟩
          · exact .error (.panicked _)
      | cons arg rest => exact displaced_fit_read width arg (displaced_number arg) rest

private theorem displaced_encodeFields (tables : Tables) {location other : Location}
    (fields : List Field) (moved : displacement.Locations location other)
    (displaced : List.Forall₂ (Lexeme.Displaced displacement) args others) :
    displacement.Ends (fun result result' => result.1 = result'.1)
      (encodeFields tables location fields args) (encodeFields tables other fields others) := by
  induction fields generalizing args others with
  | nil => exact .ok rfl
  | cons field fields induction =>
      refine (displaced_encodeField tables field moved displaced).bind ?_
      rintro ⟨piece, args⟩ ⟨_, others⟩ ⟨rfl, rest⟩
      refine (induction rest).bind ?_
      rintro ⟨pieces, args⟩ ⟨_, others⟩ rfl
      exact .ok rfl

/-! ## Statements -/

variable {statement other : Statement}

private theorem displaced_argumentUnits (data : Directive.Data)
    (displaced : first.Displaced displacement second) :
    displacement.Ends Eq (argumentUnits data first) (argumentUnits data second) := by
  unfold argumentUnits
  rw [displaced.kind, displaced.value]
  split
  · exact .ok rfl
  · exact (displaced_number displaced).map fun _ _ same => congrArg (unit data) same

private theorem displaced_encodeData (data : Directive.Data)
    (displaced : statement.Displaced displacement other) :
    displacement.Ends Eq (encodeData data statement) (encodeData data other) := by
  unfold encodeData
  rw [displaced.isEmpty_args_eq]
  split
  · exact .error (Fault.Displaced.located _ displaced.location)
  · refine (Outcome.Alike.mapM displaced.args fun _ _ => displaced_argumentUnits data).bind ?_
    intro units others same
    obtain rfl := List.forall₂_eq_eq_eq ▸ same
    exact .ok rfl

private theorem displaced_encodeInstruction (set : InstructionSet) (instruction : Instruction)
    (displaced : statement.Displaced displacement other) :
    displacement.Ends Eq (encodeInstruction set instruction statement)
      (encodeInstruction set instruction other) := by
  refine (displaced_encodeFields set.tables instruction.fields displaced.location
    displaced.args).bind ?_
  rintro ⟨pieces, args⟩ ⟨_, others⟩ rfl
  cases packed : pack pieces with
  | ok bytes => simpa only [packed] using .ok rfl
  | error cause =>
      simpa only [packed] using .error (Fault.Displaced.located cause displaced.location)

/-- Displaced statements have the same bytes. -/
theorem displaced_encode (set : InstructionSet)
    (displaced : statement.Displaced displacement other) :
    displacement.Ends Eq (encode set statement) (encode set other) := by
  have refused (cause : Cause) := Fault.Displaced.located cause displaced.location
  dsimp only [encode]
  rw [displaced.kind, displaced.mnemonic_eq, displaced.render_eq]
  cases Directive.data? other.mnemonic with
  | some data =>
      dsimp only
      split_ifs
      · exact .error (refused _)
      · exact displaced_encodeData data displaced
  | none =>
      dsimp only
      split_ifs
      · exact .error (refused _)
      · exact .error (refused _)
      · cases set.instruction? other.mnemonic with
        | some instruction => exact displaced_encodeInstruction set instruction displaced
        | none => exact .error (refused _)

end Encoding

/-! ## Images -/

/-- The records are the same apart from places. -/
structure Record.Displaced (displacement : Displacement) (first second : Record) : Prop where
  location : displacement.Locations first.location second.location
  mnemonic : first.mnemonic = second.mnemonic
  text : first.text = second.text
  offset : first.offset = second.offset
  size : first.size = second.size

/-- The images are the same apart from places. -/
structure Image.Displaced (displacement : Displacement) (first second : Image) : Prop where
  bytes : first.bytes = second.bytes
  records : List.Forall₂ (Record.Displaced displacement) first.records second.records

theorem Record.displaced_ofCode {statement other : Statement}
    (displaced : statement.Displaced displacement other) (offset : Nat) (code : List UInt8) :
    Record.Displaced displacement (.ofCode statement offset code) (.ofCode other offset code) :=
  ⟨displaced.location, displaced.mnemonic_eq, displaced.render_eq, rfl, rfl⟩

namespace Image

/-- Displaced statements have displaced images, from any offset on. -/
theorem displaced_generateFrom (set : InstructionSet) {statements others : List Statement}
    (displaced : List.Forall₂ (Statement.Displaced displacement) statements others)
    (offset : Nat) :
    displacement.Ends (Image.Displaced displacement) (generateFrom set offset statements)
      (generateFrom set offset others) := by
  induction displaced generalizing offset with
  | nil => exact .ok ⟨rfl, .nil⟩
  | cons first _ induction =>
      refine (Encoding.displaced_encode set first).bind ?_
      rintro code _ rfl
      refine (induction (offset + code.length)).bind fun image image' later => .ok ?_
      exact ⟨congrArg (code ++ ·) later.bytes,
        .cons (Record.displaced_ofCode first offset code) later.records⟩

end Image
end TableAssembler
