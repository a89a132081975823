import Mathlib.Data.List.Chain
import TableAssembler.Proofs.InstructionSet.Template
import TableAssembler.Proofs.Text.LetterCase

/-!
# Templates from fields

The fields of a template, written one after the other with any white space around them, are a
template with the same fields.  Their tags are in upper case already.  Bits with nothing but white
space between them are in one field, so that no two fields are gathered into one.
-/

namespace TableAssembler

/-- The pieces one after the other, with any white space around each of them. -/
inductive Text.Spaced : List (List Char) → List Char → Prop
  | nil {space : List Char} : (∀ c ∈ space, isWhiteSpace c = true) → Spaced [] space
  | cons {space piece text : List Char} {pieces : List (List Char)} :
      (∀ c ∈ space, isWhiteSpace c = true) → Spaced pieces text →
        Spaced (piece :: pieces) (space ++ (piece ++ text))

namespace Template

variable {tables : Tables} {text : List Char} {parts : List Part} {part : Part} {field : Field}

/-! ## Reading what is written -/

theorem Group.field_of_gives {tag digits rest : List Char} {number : Nat} (tag_ne : tag ≠ [])
    (width : writtenWidth digits = number) (gives : Part.Gives tables (.braces tag number) field) :
    (Group.mk tag digits ('\x7d' :: rest)).field tables = .ok field := by
  unfold Group.field
  subst width
  cases gives with
  | immediate tag_eq nonzero => simp [tag_ne, tag_eq, nonzero]
  | optional tag_eq nonzero =>
      have other : Field.optionalTag ≠ Field.immediateTag := by decide
      simp [tag_ne, tag_eq, nonzero, other]
  | symbol other known nonzero =>
      simp only [List.mem_cons, List.not_mem_nil, or_false, not_or] at other
      simp [tag_ne, nonzero, other, known]

/-- A template that writes parts has the fields of the parts. -/
theorem fields_of_writes {all : List Field} (writes : Writes text parts)
    (gives : List.Forall₂ (Part.Gives tables) parts all) : fields tables text = .ok all := by
  induction writes generalizing all with
  | nil =>
      cases gives
      rw [fields]
  | space white _ induction =>
      rw [fields, if_pos white]
      exact induction gives
  | bits bit continued stops _ induction =>
      obtain _ | ⟨first, others⟩ := gives
      cases first
      have taken := Text.takeWhile_append_eq continued stops
      have left := Text.dropWhile_append_eq continued stops
      unfold continuesBits at taken left
      rw [fields, if_neg (by simp [isWhiteSpace_eq_false_of_isBit bit]), if_pos bit]
      simp only [taken, left, induction others]
      rfl
  | braces white tag_ne letters value _ induction =>
      obtain _ | ⟨first, others⟩ := gives
      obtain ⟨decimal, width⟩ := value?_eq_some_iff.mp value
      rw [fields, if_neg (by decide), if_neg (by decide), if_pos rfl]
      simp only [Group.ofText_append white tag_ne letters decimal,
        Group.field_of_gives tag_ne width first, Group.afterBrace, List.tail_cons,
        induction others]
      rfl

/-! ## Divided bits -/

/-- The part writes bits. -/
def Part.isBits : Part → Bool
  | .bits _ => true
  | .braces _ _ => false

/-- The parts do not both write bits. -/
def Part.Divided (first second : Part) : Prop :=
  ¬ (first.isBits = true ∧ second.isBits = true)

theorem Writes.isBits_eq_false (writes : Writes text parts)
    (stops : ∀ c ∈ text.head?, continuesBits c = false) :
    ∀ part ∈ parts.head?, part.isBits = false := by
  cases writes with
  | nil => simp
  | space white => simp [continuesBits, white] at stops
  | bits bit => simp [continuesBits, bit] at stops
  | braces => simp [Part.isBits]

theorem Writes.divided (writes : Writes text parts) : parts.IsChain Part.Divided := by
  induction writes with
  | nil => exact List.isChain_nil
  | space _ _ induction => exact induction
  | bits _ _ stops rest induction =>
      refine List.isChain_cons.mpr ⟨fun part ahead => ?_, induction⟩
      simp [Part.Divided, rest.isBits_eq_false stops part ahead]
  | braces _ _ _ _ _ induction =>
      refine List.isChain_cons.mpr ⟨fun part ahead => ?_, induction⟩
      simp [Part.Divided, Part.isBits]

/-! ## Parts as text -/

/-- A part without white space. -/
def Part.render : Part → List Char
  | .bits run => run
  | .braces tag number => '\x7b' :: (tag ++ (Nat.toDigits 10 number ++ ['\x7d']))

theorem Writes.space_append {space : List Char}
    (white : ∀ c ∈ space, Text.isWhiteSpace c = true) (writes : Writes text parts) :
    Writes (space ++ text) parts := by
  induction space with
  | nil => exact writes
  | cons c space induction =>
      obtain ⟨first, others⟩ := List.forall_mem_cons.mp white
      exact .space first (induction others)

/-- In front of the first part there is white space, and then nothing that continues bits if the
part does not. -/
private theorem exists_ahead (spaced : Text.Spaced (parts.map Part.render) text)
    (no_bits : ∀ part ∈ parts.head?, part.isBits = false) :
    ∃ space rest, text = space ++ rest ∧ (∀ c ∈ space, Text.isWhiteSpace c = true) ∧
      Text.Spaced (parts.map Part.render) rest ∧ ∀ c ∈ rest.head?, continuesBits c = false := by
  cases parts with
  | nil =>
      cases spaced with
      | nil white => exact ⟨text, [], by simp, white, .nil (by simp), by simp⟩
  | cons part parts =>
      cases part with
      | bits run => simp [Part.isBits] at no_bits
      | braces tag number =>
          cases spaced with
          | @cons space _ rest _ white further =>
              have stopped : continuesBits '\x7b' = false := by decide
              refine ⟨space, _, rfl, white, ?_, by simp [Part.render, stopped]⟩
              exact @Text.Spaced.cons [] _ _ _ (by simp) further

theorem Writes.bits_append {run space rest : List Char} (run_ne : run ≠ [])
    (bits : ∀ c ∈ run, isBit c = true) (white : ∀ c ∈ space, Text.isWhiteSpace c = true)
    (stops : ∀ c ∈ rest.head?, continuesBits c = false) (writes : Writes rest parts) :
    Writes (run ++ (space ++ rest)) (.bits run :: parts) := by
  obtain ⟨first, run, rfl⟩ := List.exists_cons_of_ne_nil run_ne
  obtain ⟨bit, bits⟩ := List.forall_mem_cons.mp bits
  have continued : ∀ c ∈ run ++ space, continuesBits c = true := by
    refine List.forall_mem_append.mpr ⟨fun c member => ?_, fun c member => ?_⟩
    · simp [continuesBits, bits c member]
    · simp [continuesBits, white c member]
  have kept : (run ++ space).filter isBit = run := by
    have no_bit : space.filter isBit = [] := by
      refine List.filter_eq_nil_iff.mpr fun c member bit => ?_
      exact absurd (white c member) (by simp [isWhiteSpace_eq_false_of_isBit bit])
    rw [List.filter_append, List.filter_eq_self.mpr bits, no_bit, List.append_nil]
  have written := Writes.bits bit continued stops writes
  rwa [kept, List.append_assoc] at written

/-- Divided parts with white space around them are written. -/
theorem writes_of_spaced (spaced : Text.Spaced (parts.map Part.render) text)
    (wellFormed : ∀ part ∈ parts, part.WellFormed) (divided : parts.IsChain Part.Divided) :
    Writes text parts := by
  induction parts generalizing text with
  | nil =>
      cases spaced with
      | nil white => simpa using Writes.nil.space_append white
  | cons part parts induction =>
      obtain ⟨here, others⟩ := List.forall_mem_cons.mp wellFormed
      obtain ⟨ahead_divided, rest_divided⟩ := List.isChain_cons.mp divided
      cases spaced with
      | cons white further =>
          refine Writes.space_append white ?_
          cases part with
          | bits run =>
              obtain ⟨space, rest, rfl, space_white, spaced, stops⟩ := exists_ahead further
                fun part ahead => by
                  simpa [Part.Divided, Part.isBits] using ahead_divided part ahead
              exact (induction spaced others rest_divided).bits_append here.1 here.2 space_white
                stops
          | braces tag number =>
              have written := @Writes.braces [] tag [] _ [] _ number _ (by simp) here.1 here.2
                (Numeral.value?_toDigits (by decide) (by decide) number)
                (induction further others rest_divided)
              simpa [Part.render] using written

/-! ## Fields as text -/

/-- A part with its tag in upper case. -/
def Part.upper : Part → Part
  | .bits run => .bits run
  | .braces tag number => .braces (tag.map Text.upperChar) number

/-- A signed 64-bit number can be as great as the number in the braces. -/
def Part.Narrow : Part → Prop
  | .bits _ => True
  | .braces _ number => number < 2 ^ 63

@[simp]
theorem Part.isBits_upper (part : Part) : part.upper.isBits = part.isBits := by
  cases part <;> rfl

theorem Part.WellFormed.upper (wellFormed : part.WellFormed) : part.upper.WellFormed := by
  cases part with
  | bits run => exact wellFormed
  | braces tag number =>
      obtain ⟨tag_ne, letters⟩ := wellFormed
      refine ⟨by simpa using tag_ne, ?_⟩
      exact List.forall_mem_map.mpr fun c member => Text.isLetter_upperChar (letters c member)

theorem upper_ofList (tag : List Char) :
    Text.upper (String.ofList tag) = String.ofList (tag.map Text.upperChar) := by
  simp [Text.upper]

private theorem toList_group (tag : String) (number : Nat) :
    (Field.group tag number).toList =
      '\x7b' :: (tag.toList ++ (Nat.toDigits 10 number ++ ['\x7d'])) := by
  have nonnegative : ¬ (number : Int) < 0 := by omega
  simp [Field.group, Numeral.signed, Numeral.decimal, nonnegative]

namespace Part.Gives

private theorem isBits_eq (gives : part.Gives tables field) :
    part.isBits = decide (field.kind = .constant) := by
  cases gives <;> rfl

/-- The field does not depend on the letter case of the tag. -/
theorem upper (gives : part.Gives tables field) : part.upper.Gives tables field := by
  have upper_map (tag : List Char) : Text.upper (String.ofList (tag.map Text.upperChar)) =
      Text.upper (String.ofList tag) := by
    rw [← upper_ofList, Text.upper_upper]
  cases gives with
  | bits => exact .bits
  | immediate tag_eq nonzero => exact .immediate (by rwa [upper_map]) nonzero
  | optional tag_eq nonzero => exact .optional (by rwa [upper_map]) nonzero
  | @symbol tag number other known nonzero =>
      rw [← upper_map] at other known
      have again := Part.Gives.symbol other known nonzero
      rwa [upper_map] at again

private theorem toList_render (gives : part.Gives tables field) (narrow : part.Narrow) :
    field.render.toList = part.upper.render := by
  cases gives with
  | bits => simp [Field.render, Part.upper, Part.render]
  | immediate tag_eq | optional tag_eq =>
      rw [Field.render, (Numeral.wrap_natCast_eq_iff _).mpr narrow, toList_group, ← tag_eq,
        upper_ofList, String.toList_ofList]
      rfl
  | symbol =>
      rw [Field.render, (Numeral.wrap_natCast_eq_iff _).mpr narrow, toList_group,
        upper_ofList, String.toList_ofList]
      rfl

end Part.Gives

private theorem map_toList_render {all : List Field} (narrow : ∀ part ∈ parts, part.Narrow)
    (gives : List.Forall₂ (Part.Gives tables) parts all) :
    all.map (fun field => field.render.toList) = (parts.map Part.upper).map Part.render := by
  have both := (List.forall₂_and_left _ _).mpr ⟨narrow, gives⟩
  rw [List.map_map]
  exact (Success.map_eq_map_of_forall₂ (both.imp fun part field given =>
    (given.2.toList_render given.1).symm)).symm

private theorem isChain_constants {all : List Field} (divided : parts.IsChain Part.Divided)
    (gives : List.Forall₂ (Part.Gives tables) parts all) :
    all.IsChain fun first second => ¬ (first.kind = .constant ∧ second.kind = .constant) := by
  have same : parts.map Part.isBits = all.map fun field => decide (field.kind = .constant) :=
    Success.map_eq_map_of_forall₂ (gives.imp fun part field given => given.isBits_eq)
  have apart : (parts.map Part.isBits).IsChain fun first second =>
      ¬ (first = true ∧ second = true) :=
    (List.isChain_map _).mpr divided
  rw [same, List.isChain_map] at apart
  simpa using apart

/-- The fields of a template write a template with the same fields, whatever white space is put
around them.  There is a bit in each constant, and no constant behind another. -/
theorem compile_of_spaced_render {mnemonic template : String} {fields : List Field}
    (accepted : compile mnemonic template tables = .ok fields)
    (narrow : ∀ parts, Writes template.toList parts → ∀ part ∈ parts, part.Narrow) :
    (∀ name text : String,
        Text.Spaced (fields.map fun field => field.render.toList) text.toList →
          compile name text tables = .ok fields) ∧
      Field.constant [] ∉ fields ∧
      fields.IsChain fun first second => ¬ (first.kind = .constant ∧ second.kind = .constant) := by
  obtain ⟨parts, writes, gives⟩ := exists_writes_of_fields (Success.mapError_eq_ok.mp accepted)
  refine ⟨fun name text spaced => ?_, fun empty => ?_, isChain_constants writes.divided gives⟩
  · rw [map_toList_render (narrow parts writes) gives] at spaced
    refine Success.mapError_eq_ok.mpr (fields_of_writes (writes_of_spaced spaced ?_ ?_) ?_)
    · exact List.forall_mem_map.mpr fun part member => (writes.wellFormed part member).upper
    · exact (List.isChain_map _).mpr <| writes.divided.imp fun first second apart => by
        simpa [Part.Divided] using apart
    · exact List.forall₂_map_left_iff.mpr (gives.imp fun part field given => given.upper)
  · obtain ⟨part, member, given⟩ := Success.exists_input_of_forall₂ gives empty
    cases given
    exact (writes.wellFormed _ member).1 rfl

/-! ### White space and small letters -/

/-- A template with white space in a group and between bits, and with tags in lower case. -/
def looseTemplate : String := "\x7b r 4 \x7d0 01\x7bimm3\x7d"

/-- The table of the symbols in the template. -/
def looseTables : Tables := [("R", [])]

/-- The fields of the template. -/
def looseFields : List Field := [.symbol "R" 4, .constant ['0', '0', '1'], .immediate 3]

private theorem writes_looseTemplate :
    Writes looseTemplate.toList
      [.braces ['r'] 4, .bits ['0', '0', '1'], .braces "imm".toList 3] := by
  have text : looseTemplate.toList =
      '\x7b' :: ([' '] ++ (['r'] ++ ([' '] ++ (['4'] ++ ([' '] ++ '\x7d' ::
        ('0' :: ([' ', '0', '1'] ++
          '\x7b' :: ([] ++ ("imm".toList ++ ([] ++ (['3'] ++ ([] ++ '\x7d' :: [])))))))))))) := rfl
  have blank : Text.isWhiteSpace ' ' = true := by decide
  have letters : Text.isLetter 'r' = true ∧ Text.isLetter 'i' = true ∧
      Text.isLetter 'm' = true := by
    decide
  have continued : continuesBits ' ' = true ∧ continuesBits '0' = true ∧
      continuesBits '1' = true := by
    decide
  have stopped : continuesBits '\x7b' = false := by decide
  rw [text]
  refine .braces (by simpa using blank) (by simp) (by simpa using letters.1) (by decide) ?_
  refine @Writes.bits '0' [' ', '0', '1'] _ _ (by decide) (by simpa using continued)
    (by simpa using stopped) ?_
  exact .braces (by simp) (by simp) (by simpa using letters.2) (by decide) .nil

theorem compile_of_spaced_render_looseTemplate :
    compile "x" looseTemplate looseTables = .ok looseFields ∧
      (∀ parts, Writes looseTemplate.toList parts → ∀ part ∈ parts, part.Narrow) ∧
      Text.Spaced (looseFields.map fun field => field.render.toList)
        "\x7bR4\x7d \t001\x7bIMM3\x7d".toList ∧
      compile "y" "\x7bR4\x7d \t001\x7bIMM3\x7d" looseTables = .ok looseFields := by
  have accepted : compile "x" looseTemplate looseTables = .ok looseFields := by decide +kernel
  have narrow : ∀ parts, Writes looseTemplate.toList parts → ∀ part ∈ parts, part.Narrow := by
    intro parts writes
    rw [writes.unique writes_looseTemplate]
    simp [Part.Narrow]
  have spaced : Text.Spaced (looseFields.map fun field => field.render.toList)
      "\x7bR4\x7d \t001\x7bIMM3\x7d".toList := by
    have pieces : looseFields.map (fun field => field.render.toList) =
        ["\x7bR4\x7d".toList, "001".toList, "\x7bIMM3\x7d".toList] := rfl
    have blanks : Text.isWhiteSpace ' ' = true ∧ Text.isWhiteSpace '\t' = true := by decide
    rw [pieces]
    exact @Text.Spaced.cons [] _ _ _ (by simp) <|
      @Text.Spaced.cons [' ', '\t'] _ _ _ (by simpa using blanks) <|
      @Text.Spaced.cons [] _ _ _ (by simp) <| @Text.Spaced.nil [] (by simp)
  exact ⟨accepted, narrow, spaced, (compile_of_spaced_render accepted narrow).1 "y" _ spaced⟩

end Template
end TableAssembler
