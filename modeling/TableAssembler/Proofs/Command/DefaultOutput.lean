import TableAssembler.Proofs.Command.Effects
import TableAssembler.Proofs.Directory.Sibling

/-!
# The default name of the image

Without a name for it, the image is written next to its source, under a name with the extension of
assembled files.  This is never the name of the source itself, whatever dots and slashes are in
its path, and so a run cannot destroy the text that it assembles.
-/

namespace TableAssembler
namespace Command

open Dictionary (find?)
open TableAssembler.Path (binaryName binaryExtension directoryPart)

variable {environment : Environment} {directory : Directory} {options : Options}
variable {files : List String} {source : String}

private theorem read_put_of_binaryName {place : List (List Char)} {bytes : List UInt8}
    (read : directory.read source = .ok bytes)
    (target : directory.target (binaryName source) = .ok place) (written : List UInt8) :
    (directory.put (Directory.join place) written).read source = .ok bytes := by
  obtain ⟨folder, name, cut⟩ := Path.exists_cut source.toList
  obtain ⟨front, output_cut, different⟩ := cut.exists_binaryName
  have nonempty : front ++ binaryExtension.toList ≠ [] := by simp [binaryExtension]
  exact Directory.read_put_of_target cut output_cut nonempty different read target written

/-- A run that writes no file but its image, under the default name, leaves its source as it
was. -/
private theorem read_execute_of_default (member : source ∈ files) (unset : options.output = "")
    (printed : options.listing = "" ∨ options.listing = "-") :
    (execute environment directory options files).directory.read source =
      directory.read source := by
  by_cases delivers : ∃ delivery, Delivers environment directory options files delivery
  · obtain ⟨delivery, delivers⟩ := delivers
    obtain ⟨rfl, bytes, read⟩ := delivers.exists_read
    obtain rfl := List.mem_singleton.mp member
    have target : directory.target (binaryName delivery.source) = .ok delivery.place := by
      have created := delivers.create
      rw [outputPath, if_pos (by rw [unset]; rfl)] at created
      exact (Directory.create_eq_ok.mp created).1
    obtain ⟨saves, fault?, ends⟩ := delivery.exists_ends environment directory options
    obtain ⟨written, rfl⟩ := ends.eq_singleton printed
    rw [(delivers.execute_of_ends ends).1, read]
    exact read_put_of_binaryName read target written
  · rw [directory_execute_of_not_delivers (not_exists.mp delivers)]

/-- The default name of an image is not the name of its source, ends in the extension of assembled
files, and is in the folder of the source.  So a source outlives every run whose output has no
other name, unless the run is told to write a listing into a file; what is refused of the image
makes no difference. -/
theorem default_output_keeps_source (source : String) :
    binaryName source ≠ source ∧ binaryExtension.toList <:+ (binaryName source).toList ∧
      directoryPart (binaryName source) = directoryPart source ∧
      ∀ {environment : Environment} {directory : Directory} {options : Options}
        {files : List String}, source ∈ files → options.output = "" →
        (options.listing = "" ∨ options.listing = "-") →
        (execute environment directory options files).directory.read source =
          directory.read source := by
  obtain ⟨folder, name, cut⟩ := Path.exists_cut source.toList
  obtain ⟨front, output_cut, different⟩ := cut.exists_binaryName
  refine ⟨fun same => different ?_, ?_, ?_, read_execute_of_default⟩
  · rw [same] at output_cut
    exact List.append_cancel_left (output_cut.whole.symm.trans cut.whole)
  · rw [output_cut.whole, ← List.append_assoc]
    exact List.suffix_append _ _
  · rw [output_cut.directoryPart_eq, cut.directoryPart_eq]

/-- The program is assembled next to itself, and is still there. -/
theorem default_output_keeps_source_unbuilt :
    binaryName "prog.s" ≠ "prog.s" ∧
      find? (execute {} unbuilt {} ["prog.s"]).directory.files "prog.bin" = some [7] ∧
      (execute {} unbuilt {} ["prog.s"]).directory.read "prog.s" = .ok nopSource := by
  obtain ⟨different, -, -, keeps⟩ := default_output_keeps_source "prog.s"
  obtain ⟨image, bytes, delivers⟩ :=
    exists_delivers_nopSource {} rfl rfl rfl rfl read_unbuilt target_unbuilt
  refine ⟨different, ?_, ?_⟩
  · have ends : Delivery.Ends {} unbuilt {} ⟨"prog.s", ["prog.bin".toList], image⟩ _ _ :=
      .printed rfl (.unset rfl)
    rw [(delivers.execute_of_ends ends).1, bytes]
    dsimp only
    rfl
  · rw [keeps List.mem_cons_self rfl (.inl rfl), read_unbuilt]

end Command
end TableAssembler
