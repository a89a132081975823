import TableAssembler.Text.Numeral

/-!
# Positions in source text

Rows and columns count from one, and columns count characters.  A position moves over text one
character at a time; only the line feed starts a new row.
-/

namespace TableAssembler

/-- A position in a named source text. -/
structure Location where
  /-- Name of the text; may be empty. -/
  file : String := ""
  /-- Row, starting at one in text. -/
  row : Int := 0
  /-- Column in characters, starting at one in text. -/
  col : Int := 0
  deriving DecidableEq, Repr, Inhabited

namespace Location

/-- The first character of a file. -/
def start (file : String) : Location := ⟨file, 1, 1⟩

/-- The position after one character. -/
def step (location : Location) (c : Char) : Location :=
  if c = '\n' then { location with row := location.row + 1, col := 1 }
  else { location with col := location.col + 1 }

/-- The position after a text. -/
def advance (location : Location) (text : List Char) : Location :=
  text.foldl step location

/-- The position some columns further on the same row; columns are signed 64-bit numbers. -/
def right (location : Location) (columns : Int) : Location :=
  { location with col := Numeral.wrap (location.col + columns) }

/-- The row and column, after the file name if there is one. -/
def render (location : Location) : String :=
  let position := Numeral.signed location.row ++ ":" ++ Numeral.signed location.col
  if location.file.isEmpty then position else location.file ++ ":" ++ position

@[simp]
theorem advance_nil (location : Location) : location.advance [] = location := rfl

@[simp]
theorem advance_cons (location : Location) (c : Char) (text : List Char) :
    location.advance (c :: text) = (location.step c).advance text := rfl

theorem advance_append (location : Location) (front back : List Char) :
    location.advance (front ++ back) = (location.advance front).advance back := by
  simp [advance, List.foldl_append]

@[simp]
theorem file_step (location : Location) (c : Char) : (location.step c).file = location.file := by
  unfold step
  split <;> rfl

@[simp]
theorem file_advance (location : Location) (text : List Char) :
    (location.advance text).file = location.file := by
  induction text generalizing location with
  | nil => rfl
  | cons c text ih => simp [ih]

end Location
end TableAssembler
