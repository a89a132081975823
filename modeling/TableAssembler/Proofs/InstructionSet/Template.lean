import TableAssembler.Proofs.InstructionSet.WellFormed
import TableAssembler.Proofs.Lexeme.Name
import TableAssembler.Proofs.Text.Numeral

/-!
# What templates write

A template is read as the bits and brace groups that it writes, and every part gives one field.
The width of a field is the number in its braces, as far as signed 64-bit numbers hold it.
-/

namespace TableAssembler

namespace Template

/-! ## Written parts -/

/-- A part of a template as it is written. -/
inductive Part
  /-- Bits, without the white space between them. -/
  | bits (run : List Char)
  /-- A tag and a number between braces. -/
  | braces (tag : List Char) (number : Nat)

/-- The number of bits that a part asks for. -/
def Part.width : Part → Nat
  | .bits run => run.length
  | .braces _ number => number

/-- There is a bit, and nothing but bits, or there is a letter, and nothing but letters. -/
def Part.WellFormed : Part → Prop
  | .bits run => run ≠ [] ∧ ∀ c ∈ run, isBit c = true
  | .braces tag _ => tag ≠ [] ∧ ∀ c ∈ tag, Text.isLetter c = true

/-- The character continues a run of bits. -/
def continuesBits (c : Char) : Bool := isBit c || Text.isWhiteSpace c

/-- The text writes the parts, with white space anywhere but inside a tag or a number. -/
inductive Writes : List Char → List Part → Prop
  | nil : Writes [] []
  | space {c : Char} {text : List Char} {parts : List Part} :
      Text.isWhiteSpace c = true → Writes text parts → Writes (c :: text) parts
  | bits {first : Char} {run rest : List Char} {parts : List Part} :
      isBit first = true → (∀ c ∈ run, continuesBits c = true) →
        (∀ c ∈ rest.head?, continuesBits c = false) → Writes rest parts →
        Writes (first :: (run ++ rest)) (.bits (first :: run.filter isBit) :: parts)
  | braces {before tag between digits after rest : List Char} {number : Nat}
      {parts : List Part} :
      (∀ c ∈ before ++ between ++ after, Text.isWhiteSpace c = true) → tag ≠ [] →
        (∀ c ∈ tag, Text.isLetter c = true) → Numeral.value? 10 digits = some number →
        Writes rest parts →
        Writes ('\x7b' :: (before ++ (tag ++ (between ++ (digits ++ (after ++ '\x7d' :: rest))))))
          (.braces tag number :: parts)

/-- The field that a part gives.  The width may wrap around, but not to zero. -/
inductive Part.Gives (tables : Tables) : Part → Field → Prop
  | bits {run : List Char} : Gives tables (.bits run) (.constant run)
  | immediate {tag : List Char} {number : Nat} :
      Text.upper (String.ofList tag) = Field.immediateTag → Numeral.wrap number ≠ 0 →
        Gives tables (.braces tag number) (.immediate (Numeral.wrap number))
  | optional {tag : List Char} {number : Nat} :
      Text.upper (String.ofList tag) = Field.optionalTag → Numeral.wrap number ≠ 0 →
        Gives tables (.braces tag number) (.optional (Numeral.wrap number))
  | symbol {tag : List Char} {number : Nat} :
      Text.upper (String.ofList tag) ∉ [Field.immediateTag, Field.optionalTag] →
        tables.hasTag (Text.upper (String.ofList tag)) = true → Numeral.wrap number ≠ 0 →
        Gives tables (.braces tag number)
          (.symbol (Text.upper (String.ofList tag)) (Numeral.wrap number))

/-! ## Characters -/

theorem isWhiteSpace_eq_false_of_isLetter {c : Char} (letter : Text.isLetter c = true) :
    Text.isWhiteSpace c = false :=
  Scan.isWhiteSpace_eq_false_of_isWordCharacter (by simp [Scan.isWordCharacter, letter])

theorem isLetter_eq_false_of_isWhiteSpace {c : Char} (white : Text.isWhiteSpace c = true) :
    Text.isLetter c = false := by
  by_contra letter
  simp [isWhiteSpace_eq_false_of_isLetter (Bool.not_eq_false _ ▸ letter)] at white

theorem isWhiteSpace_eq_false_of_isBit {c : Char} (bit : isBit c = true) :
    Text.isWhiteSpace c = false := by
  rcases (by simpa [isBit] using bit : c = '0' ∨ c = '1') with rfl | rfl <;> decide

/-- A digit of a width is neither white space nor a letter. -/
theorem isWhiteSpace_isLetter_of_isWidthDigit {c : Char} (digit : isWidthDigit c = true) :
    Text.isWhiteSpace c = false ∧ Text.isLetter c = false := by
  have digits : ∀ point < 58, isWidthDigit (Char.ofNat point) = true →
      Text.isWhiteSpace (Char.ofNat point) = false ∧
        Text.isLetter (Char.ofNat point) = false := by
    decide +kernel
  have bounds : '0' ≤ c ∧ c ≤ '9' := by simpa [isWidthDigit] using digit
  have small : c.toNat ≤ 57 := bounds.2
  have here := digits c.toNat (by omega)
  rw [Char.ofNat_toNat] at here
  exact here digit

theorem isWidthDigit_eq_false_of_isWhiteSpace {c : Char} (white : Text.isWhiteSpace c = true) :
    isWidthDigit c = false := by
  by_contra digit
  have black := (isWhiteSpace_isLetter_of_isWidthDigit (Bool.not_eq_false _ ▸ digit)).1
  simp [black] at white

/-- A numeral is written with digits, and its value is the width that they write. -/
theorem value?_eq_some_iff {digits : List Char} {number : Nat} :
    Numeral.value? 10 digits = some number ↔
      (∀ c ∈ digits, isWidthDigit c = true) ∧ writtenWidth digits = number := by
  unfold Numeral.value? writtenWidth
  generalize 0 = sofar
  induction digits generalizing sofar with
  | nil => simp
  | cons c digits induction =>
      rw [Numeral.valueFrom?, List.forall_mem_cons, List.foldl_cons, and_assoc, ← induction]
      by_cases decimal : '0' ≤ c ∧ c ≤ '9'
      · have digit : isWidthDigit c = true := by simpa [isWidthDigit] using decimal
        have small : c.toNat - 48 < 10 := by
          have bound : c.toNat ≤ 57 := decimal.2
          omega
        simp [Numeral.digitValue?, decimal, digit, small]
      · have other : isWidthDigit c = false := by simpa [isWidthDigit] using decimal
        -- Letters are digits only of a greater radix.
        have great (value : Nat) (read : Numeral.digitValue? c = some value) : ¬ value < 10 := by
          rw [Numeral.digitValue?, if_neg decimal] at read
          split_ifs at read with small capital
          · have bound : 97 ≤ c.toNat := small.1
            have value_eq := Option.some.inj read
            omega
          · have bound : 65 ≤ c.toNat := capital.1
            have value_eq := Option.some.inj read
            omega
        cases read : Numeral.digitValue? c with
        | none => simp [other]
        | some value => simp [other, great value read]

/-! ## Brace groups -/

private theorem exists_skipSpace (text : List Char) :
    ∃ space, text = space ++ skipSpace text ∧ ∀ c ∈ space, Text.isWhiteSpace c = true :=
  ⟨text.takeWhile Text.isWhiteSpace, List.takeWhile_append_dropWhile.symm,
    fun _ member => List.mem_takeWhile_imp member⟩

private theorem skipSpace_append {space : List Char}
    (white : ∀ c ∈ space, Text.isWhiteSpace c = true)
    (text : List Char) : skipSpace (space ++ text) = skipSpace text :=
  List.dropWhile_append_of_pos white

private theorem skipSpace_cons {c : Char} (black : Text.isWhiteSpace c = false) (text : List Char) :
    skipSpace (c :: text) = c :: text :=
  List.dropWhile_cons_of_neg (by simp [black])

/-- A closed group is its tag and its width, with white space around them. -/
theorem Group.exists_split {text : List Char}
    (closed : (ofText text).rest.head? = some '\x7d') :
    ∃ before between after,
      (∀ c ∈ before ++ between ++ after, Text.isWhiteSpace c = true) ∧
        text = before ++ ((ofText text).tag ++ (between ++ ((ofText text).width ++
          (after ++ '\x7d' :: (ofText text).afterBrace)))) := by
  obtain ⟨before, text_eq, before_white⟩ := exists_skipSpace text
  obtain ⟨between, tail_eq, between_white⟩ :=
    exists_skipSpace ((skipSpace text).dropWhile Text.isLetter)
  obtain ⟨after, rest_eq, after_white⟩ :=
    exists_skipSpace ((skipSpace ((skipSpace text).dropWhile Text.isLetter)).dropWhile isWidthDigit)
  obtain ⟨behind, brace⟩ := List.head?_eq_some_iff.mp closed
  have rest_brace : (ofText text).rest = '\x7d' :: (ofText text).afterBrace := by
    rw [afterBrace, brace, List.tail_cons]
  refine ⟨before, between, after, ?_, ?_⟩
  · simp only [List.mem_append]
    rintro c ((member | member) | member)
    · exact before_white c member
    · exact between_white c member
    · exact after_white c member
  · rw [← rest_brace]
    dsimp only [ofText]
    rw [← rest_eq, List.takeWhile_append_dropWhile, ← tail_eq, List.takeWhile_append_dropWhile,
      ← text_eq]

/-- The tag and the width of a group are found wherever there is white space around them. -/
theorem Group.ofText_append {before tag between digits after rest : List Char}
    (white : ∀ c ∈ before ++ between ++ after, Text.isWhiteSpace c = true) (tag_ne : tag ≠ [])
    (letters : ∀ c ∈ tag, Text.isLetter c = true)
    (decimal : ∀ c ∈ digits, isWidthDigit c = true) :
    ofText (before ++ (tag ++ (between ++ (digits ++ (after ++ '\x7d' :: rest))))) =
      ⟨tag, digits, '\x7d' :: rest⟩ := by
  simp only [List.forall_mem_append] at white
  obtain ⟨⟨before_white, between_white⟩, after_white⟩ := white
  have start : skipSpace (before ++ (tag ++ (between ++ (digits ++ (after ++ '\x7d' :: rest))))) =
      tag ++ (between ++ (digits ++ (after ++ '\x7d' :: rest))) := by
    obtain ⟨first, further, rfl⟩ := List.exists_cons_of_ne_nil tag_ne
    rw [skipSpace_append before_white, List.cons_append]
    exact skipSpace_cons (isWhiteSpace_eq_false_of_isLetter (letters first List.mem_cons_self)) _
  have no_letter : ∀ c ∈ (between ++ (digits ++ (after ++ '\x7d' :: rest))).head?,
      Text.isLetter c = false := by
    intro c ahead
    rw [← List.append_assoc, ← List.append_assoc] at ahead
    rcases Text.mem_or_eq_of_mem_head?_append_cons ahead with inside | rfl
    · simp only [List.mem_append] at inside
      rcases inside with (between_mem | digits_mem) | after_mem
      · exact isLetter_eq_false_of_isWhiteSpace (between_white c between_mem)
      · exact (isWhiteSpace_isLetter_of_isWidthDigit (decimal c digits_mem)).2
      · exact isLetter_eq_false_of_isWhiteSpace (after_white c after_mem)
    · decide
  have no_digit : ∀ c ∈ (after ++ '\x7d' :: rest).head?, isWidthDigit c = false := by
    intro c ahead
    rcases Text.mem_or_eq_of_mem_head?_append_cons ahead with inside | rfl
    · exact isWidthDigit_eq_false_of_isWhiteSpace (after_white c inside)
    · decide
  have stop : skipSpace (after ++ '\x7d' :: rest) = '\x7d' :: rest := by
    rw [skipSpace_append after_white]
    exact skipSpace_cons (by decide) rest
  dsimp only [ofText]
  rw [start, Text.takeWhile_append_eq letters no_letter, Text.dropWhile_append_eq letters no_letter,
    skipSpace_append between_white]
  cases digits with
  | nil =>
      -- Without digits all white space is skipped at once, and the brace is already ahead.
      have brace : isWidthDigit '\x7d' = false := by decide
      rw [List.nil_append, stop, List.takeWhile_cons_of_neg (by simp [brace]),
        List.dropWhile_cons_of_neg (by simp [brace]), skipSpace_cons (by decide)]
  | cons first further =>
      have black := (isWhiteSpace_isLetter_of_isWidthDigit (decimal first List.mem_cons_self)).1
      rw [List.cons_append, skipSpace_cons black, ← List.cons_append,
        Text.takeWhile_append_eq decimal no_digit, Text.dropWhile_append_eq decimal no_digit, stop]

theorem Group.gives_of_field {tables : Tables} {group : Group} {field : Field}
    (accepted : group.field tables = .ok field) :
    group.tag ≠ [] ∧ group.rest.head? = some '\x7d' ∧
      Part.Gives tables (.braces group.tag (writtenWidth group.width)) field := by
  simp only [Group.field] at accepted
  split_ifs at accepted with no_tag no_width unclosed immediate optional symbol
  all_goals
    obtain rfl := Except.ok.inj accepted
    refine ⟨by simpa using no_tag, not_not.mp unclosed, ?_⟩
  · exact .immediate immediate no_width
  · exact .optional optional no_width
  · exact .symbol (by simp [immediate, optional]) symbol no_width

/-! ## Templates -/

/-- Every field of a template is that of a part which the template writes. -/
theorem exists_writes_of_fields {tables : Tables} {text : List Char} {all : List Field}
    (accepted : fields tables text = .ok all) :
    ∃ parts, Writes text parts ∧ List.Forall₂ (Part.Gives tables) parts all := by
  fun_induction fields tables text generalizing all with
  | case1 =>
      obtain rfl := Except.ok.inj accepted
      exact ⟨[], .nil, .nil⟩
  | case2 c rest space induction =>
      obtain ⟨parts, writes, gives⟩ := induction accepted
      exact ⟨parts, .space space writes, gives⟩
  | case3 c rest space bit gathers constant =>
      rename_i induction
      simp only [Success.bind_eq_ok, Success.pure_eq_ok] at accepted
      obtain ⟨others, others_ok, rfl⟩ := accepted
      obtain ⟨parts, writes, gives⟩ := induction others_ok
      have written : Writes (c :: (rest.takeWhile gathers ++ rest.dropWhile gathers))
          (.bits (c :: (rest.takeWhile gathers).filter isBit) :: parts) :=
        .bits bit (fun c member => List.mem_takeWhile_imp member)
          (fun c ahead => Text.eq_false_of_mem_head?_dropWhile ahead) writes
      rw [List.takeWhile_append_dropWhile] at written
      exact ⟨_, written, .cons .bits gives⟩
  | case4 rest group space bit =>
      rename_i induction
      simp only [Success.bind_eq_ok, Success.pure_eq_ok] at accepted
      obtain ⟨first, first_ok, others, others_ok, rfl⟩ := accepted
      obtain ⟨parts, writes, gives⟩ := induction others_ok
      obtain ⟨tag_ne, closed, first_gives⟩ := Group.gives_of_field first_ok
      obtain ⟨before, between, after, white, rest_eq⟩ := Group.exists_split closed
      have decimal : ∀ c ∈ group.width, isWidthDigit c = true :=
        fun c member => List.mem_takeWhile_imp member
      refine ⟨_, ?_, .cons first_gives gives⟩
      rw [rest_eq]
      exact .braces white tag_ne (fun c member => List.mem_takeWhile_imp member)
        (value?_eq_some_iff.mpr ⟨decimal, rfl⟩) writes
  | case5 => contradiction

/-- A text writes its parts in no other way. -/
theorem Writes.unique {text : List Char} {parts others : List Part} (writes : Writes text parts)
    (again : Writes text others) : parts = others := by
  induction writes generalizing others with
  | nil =>
      cases again
      rfl
  | space white _ induction =>
      cases again with
      | space _ rest => exact induction rest
      | bits bit => simp [isWhiteSpace_eq_false_of_isBit bit] at white
      | braces => exact absurd white (by decide)
  | @bits first run rest parts bit continued stops _ induction =>
      -- The run is all that can be taken, so another way to cut the text takes the same.
      generalize written : first :: (run ++ rest) = text at again
      cases again with
      | nil => contradiction
      | space white =>
          obtain ⟨rfl, -⟩ := List.cons.inj written
          simp [isWhiteSpace_eq_false_of_isBit bit] at white
      | @bits first' run' rest' others _ continued' stops' others_writes =>
          obtain ⟨rfl, same⟩ := List.cons.inj written
          obtain rfl : run = run' := by
            rw [← Text.takeWhile_append_eq continued stops, same,
              Text.takeWhile_append_eq continued' stops']
          obtain rfl := List.append_cancel_left same
          rw [induction others_writes]
      | braces =>
          obtain ⟨rfl, -⟩ := List.cons.inj written
          exact absurd bit (by decide)
  | @braces before tag between digits after rest number parts white tag_ne letters value _
      induction =>
      generalize written :
        '\x7b' :: (before ++ (tag ++ (between ++ (digits ++ (after ++ '\x7d' :: rest))))) = text
        at again
      cases again with
      | nil => contradiction
      | space white =>
          obtain ⟨rfl, -⟩ := List.cons.inj written
          exact absurd white (by decide)
      | bits bit =>
          obtain ⟨rfl, -⟩ := List.cons.inj written
          exact absurd bit (by decide)
      | braces white' tag_ne' letters' value' others_writes =>
          have same := congrArg Group.ofText (List.cons.inj written).2
          rw [Group.ofText_append white tag_ne letters (value?_eq_some_iff.mp value).1,
            Group.ofText_append white' tag_ne' letters' (value?_eq_some_iff.mp value').1] at same
          simp only [Group.mk.injEq, List.cons.injEq, true_and] at same
          obtain ⟨rfl, rfl, rfl⟩ := same
          obtain rfl := Option.some.inj (value.symm.trans value')
          rw [induction others_writes]

/-- A template writes nothing exactly when it is all white space. -/
theorem Writes.eq_nil_iff {text : List Char} {parts : List Part} (writes : Writes text parts) :
    parts = [] ↔ ∀ c ∈ text, Text.isWhiteSpace c = true := by
  induction writes with
  | nil => simp
  | space white _ induction => simp [white, induction]
  | bits bit => simp [isWhiteSpace_eq_false_of_isBit bit]
  | braces =>
      have black : Text.isWhiteSpace '\x7b' = false := by decide
      simp [black]

theorem Writes.wellFormed {text : List Char} {parts : List Part} (writes : Writes text parts) :
    ∀ part ∈ parts, part.WellFormed := by
  induction writes with
  | nil => simp
  | space _ _ induction => exact induction
  | bits bit _ _ _ induction =>
      refine List.forall_mem_cons.mpr ⟨⟨by simp, ?_⟩, induction⟩
      simp [bit]
  | braces _ tag_ne letters _ _ induction =>
      exact List.forall_mem_cons.mpr ⟨⟨tag_ne, letters⟩, induction⟩

end Template

namespace InstructionSet

/-- The fields of an instruction are those of its template. -/
theorem template_compile_of_mem {config : Config} {set : InstructionSet}
    {instruction : Instruction} (compiled : compile config = .ok set)
    (member : instruction ∈ set.instructions) :
    Template.compile instruction.name instruction.template set.tables =
      .ok instruction.fields := by
  refine Success.of_foldlM_eq_ok
    (motive := fun set => ∀ instruction ∈ set.instructions,
      Template.compile instruction.name instruction.template set.tables = .ok instruction.fields)
    (by simp) (fun before entry after holds added => ?_) compiled instruction member
  simp only [add] at added
  split_ifs at added with directive duplicate
  simp only [Success.bind_eq_ok, Success.pure_eq_ok] at added
  obtain ⟨fields, fields_ok, rfl⟩ := added
  intro instruction member
  rcases List.mem_append.mp member with old | new
  · exact holds instruction old
  · obtain rfl := List.mem_singleton.mp new
    exact fields_ok

end InstructionSet
end TableAssembler
