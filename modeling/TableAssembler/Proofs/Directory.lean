import TableAssembler.Directory
import TableAssembler.Proofs.Dictionary

/-!
# Writing files

A file takes the front of what is written to it, and all of it when nothing goes wrong.  A write
changes what one path leads to and leaves all other paths alone.  It goes unnoticed only where
nothing is kept, or where the same contents were there before.
-/

namespace TableAssembler

/-! ## Writers -/

theorem Refusal.isPrefix_keep (refusal? : Option Refusal) (text : List UInt8) :
    keep refusal? text <+: text := by
  cases refusal? with
  | none => exact List.prefix_rfl
  | some refusal => exact List.take_prefix _ _

namespace Writer

variable {writer : Writer}

private theorem isPrefix_writeBehind (earlier texts : List (List UInt8)) :
    (writer.writeBehind earlier texts).bytes <+: texts.flatten := by
  induction texts generalizing earlier with
  | nil => exact List.prefix_rfl
  | cons text texts induction =>
      rw [writeBehind, List.flatten_cons]
      split
      · exact (List.take_prefix _ _).trans (List.prefix_append _ _)
      · exact (List.prefix_append_right_inj _).mpr (induction _)

private theorem bytes_writeBehind_of_taken {earlier texts : List (List UInt8)}
    (taken : (writer.writeBehind earlier texts).refused? = none) :
    (writer.writeBehind earlier texts).bytes = texts.flatten := by
  induction texts generalizing earlier with
  | nil => rfl
  | cons text texts induction =>
      rw [writeBehind] at taken ⊢
      split at taken
      · contradiction
      · rw [List.flatten_cons, ← induction taken]

end Writer

namespace Directory

open Dictionary (find?)

/-! ## One file -/

variable {directory : Directory} {file : FileWriter} {path : String}
variable {texts : List (List UInt8)}

/-- An opened file holds the front of what was written to it. -/
theorem isPrefix_save (file : FileWriter) (path : String) (texts : List (List UInt8)) :
    (save file path texts).1 <+: texts.flatten :=
  (Refusal.isPrefix_keep _ _).trans (file.isPrefix_writeBehind [] texts)

theorem save_of_ok (saved : (save file path texts).2 = none) :
    (save file path texts).1 = texts.flatten := by
  unfold save at saved ⊢
  dsimp only at saved ⊢
  split at saved
  · contradiction
  · contradiction
  · next taken unspoiled =>
      rw [unspoiled]
      exact Writer.bytes_writeBehind_of_taken taken

theorem create_eq_ok {place : List (List Char)} :
    directory.create file path = .ok place ↔
      directory.target path = .ok place ∧ file.blocked? = none := by
  unfold create
  cases directory.target path with
  | error reason => simp
  | ok found => cases file.blocked? <;> simp

theorem write_of_create {place : List (List Char)}
    (created : directory.create file path = .ok place) :
    directory.write file path texts =
      (directory.put (join place) (save file path texts).1, (save file path texts).2) := by
  simp only [write, created]

theorem write_of_blocked {fault : FileFault} (blocked : directory.create file path = .error fault) :
    directory.write file path texts = (directory, some fault) := by
  simp only [write, blocked]

theorem usable_eq (path : String) :
    usable path =
      if Char.ofNat 0 ∈ path.toList then .error .invalid
      else if path.isEmpty then .error .missing
      else if path.utf8ByteSize ≤ longestPath then .ok ()
      else .error .nameTooLong := by
  simp only [usable, String.contains_char_eq, decide_eq_true_eq]

theorem put_nullFile (directory : Directory) (bytes : List UInt8) :
    directory.put (join nullFile) bytes = directory :=
  if_pos rfl

/-- A file that is kept is the only one to change. -/
theorem find?_put (kept : path ≠ join nullFile)
    (bytes : List UInt8) (other : String) :
    find? (directory.put path bytes).files other =
      if other = path then some bytes else find? directory.files other := by
  rw [put, if_neg kept]
  cases found : find? directory.files path with
  | some old =>
      rw [if_pos Option.isSome_some, Dictionary.find?_map_replace, found, Option.map_some]
  | none =>
      rw [if_neg (by simp), Dictionary.find?_append, Dictionary.find?_cons]
      split
      · next same => rw [same, found, Option.none_or]
      · exact Option.or_none

/-! ## Several files -/

/-- The directory with other contents at some paths; the first of them is put last. -/
def putAll (directory : Directory) (saves : Dictionary (List UInt8)) : Directory :=
  saves.foldr (fun file directory => directory.put file.1 file.2) directory

theorem putAll_append (directory : Directory) (later earlier : Dictionary (List UInt8)) :
    directory.putAll (later ++ earlier) = (directory.putAll earlier).putAll later :=
  List.foldr_append

private theorem find?_putAll {saves : Dictionary (List UInt8)} (kept : path ≠ join nullFile) :
    find? (directory.putAll saves).files path =
      (find? saves path).or (find? directory.files path) := by
  induction saves with
  | nil => rfl
  | cons save saves induction =>
      obtain ⟨name, bytes⟩ := save
      change find? ((directory.putAll saves).put name bytes).files path = _
      rw [Dictionary.find?_cons]
      by_cases dropped : name = join nullFile
      · rw [dropped, put_nullFile, induction, if_neg kept]
      · rw [find?_put dropped, induction]
        split <;> rfl

private theorem find?_putAll_nullFile (saves : Dictionary (List UInt8)) :
    find? (directory.putAll saves).files (join nullFile) =
      find? directory.files (join nullFile) := by
  induction saves with
  | nil => rfl
  | cons save saves induction =>
      obtain ⟨name, bytes⟩ := save
      change find? ((directory.putAll saves).put name bytes).files _ = _
      by_cases dropped : name = join nullFile
      · rw [dropped, put_nullFile, induction]
      · rw [find?_put dropped, if_neg (Ne.symm dropped), induction]

/-- Writes go unnoticed where nothing is kept and where the last contents are there already. -/
theorem find?_putAll_eq_iff {saves : Dictionary (List UInt8)} :
    (∀ path, find? (directory.putAll saves).files path = find? directory.files path) ↔
      ∀ path bytes, find? saves path = some bytes →
        path = join nullFile ∨ find? directory.files path = some bytes := by
  constructor
  · intro unchanged path bytes saved
    refine or_iff_not_imp_left.mpr fun kept => ?_
    rw [← unchanged path, find?_putAll kept, saved, Option.some_or]
  · intro unnoticed path
    by_cases dropped : path = join nullFile
    · rw [dropped, find?_putAll_nullFile]
    · rw [find?_putAll dropped]
      cases saved : find? saves path with
      | none => exact Option.none_or
      | some bytes => rw [(unnoticed path bytes saved).resolve_left dropped, Option.some_or]

end Directory
end TableAssembler
