import Mathlib.Data.List.DropRight
import TableAssembler.Proofs.Text.Span
import TableAssembler.Text.Path

/-!
# The name of an assembled file

A path is cut behind its last slash into a folder and a name.  The default name of an assembled
file is cut into the same folder and another name, so the two files lie next to each other.
-/

namespace TableAssembler
namespace Path

variable {path folder name : List Char}

/-- A path is a folder, with the slash at its end, and a name.  Without a slash there is only a
name. -/
structure Cut (path folder name : List Char) : Prop where
  whole : path = folder ++ name
  slash : ∀ c ∈ folder.getLast?, c = '/'
  no_slash : '/' ∉ name

/-- Everything up to the last slash of a path, the slash included. -/
def directoryPart (path : String) : String :=
  String.ofList (path.toList.rdropWhile (· != '/'))

theorem bne_of_mem_reverse {stop : Char} (absent : stop ∉ name) :
    ∀ c ∈ name.reverse, (c != stop) = true := by
  intro c member
  rw [bne_iff_ne]
  rintro rfl
  exact absent (List.mem_reverse.mp member)

/-- The name is what is read backwards up to a slash. -/
theorem Cut.takeWhile_reverse (cut : Cut path folder name) :
    path.reverse.takeWhile (· != '/') = name.reverse := by
  rw [cut.whole, List.reverse_append]
  apply Text.takeWhile_append_eq (bne_of_mem_reverse cut.no_slash)
  simpa using cut.slash

theorem Cut.directoryPart_eq {path : String} (cut : Cut path.toList folder name) :
    directoryPart path = String.ofList folder := by
  have split := List.takeWhile_append_dropWhile (p := (· != '/')) (l := path.toList.reverse)
  rw [cut.takeWhile_reverse, cut.whole, List.reverse_append] at split
  rw [directoryPart, List.rdropWhile, cut.whole, List.reverse_append,
    List.append_cancel_left split, List.reverse_reverse]

/-- Every path is cut in this way. -/
theorem exists_cut (path : List Char) : ∃ folder name, Cut path folder name := by
  refine ⟨path.rdropWhile (· != '/'), path.rtakeWhile (· != '/'),
    List.rdropWhile_append_rtakeWhile.symm, ?_, ?_⟩
  · intro c last
    rw [List.rdropWhile, List.getLast?_reverse] at last
    simpa using Text.eq_false_of_mem_head?_dropWhile last
  · intro member
    simpa using List.mem_rtakeWhile_imp member

/-! ## Extensions -/

theorem Cut.extensionLength_of_no_dot (cut : Cut path folder name) (no_dot : '.' ∉ name) :
    extensionLength path = 0 := by
  have all : name.reverse.takeWhile (· != '.') = name.reverse :=
    List.takeWhile_eq_self_iff.mpr (bne_of_mem_reverse no_dot)
  simp only [extensionLength, reversedElement, cut.takeWhile_reverse, all, lt_irrefl, if_false]

theorem Cut.extensionLength_of_dot {front back : List Char}
    (cut : Cut path folder (front ++ '.' :: back)) (no_dot : '.' ∉ back) :
    extensionLength path = back.length + 1 := by
  have behind : (front ++ '.' :: back).reverse.takeWhile (· != '.') = back.reverse := by
    rw [List.reverse_append, List.reverse_cons, List.append_assoc]
    apply Text.takeWhile_append_eq (bne_of_mem_reverse no_dot)
    simp
  simp only [extensionLength, reversedElement, cut.takeWhile_reverse, behind]
  rw [if_pos (by simp), List.length_reverse]

private theorem exists_last_dot (dot : '.' ∈ name) :
    ∃ front back, name = front ++ '.' :: back ∧ '.' ∉ back := by
  obtain ⟨back, front, split, no_dot⟩ := List.eq_append_cons_of_mem (List.mem_reverse.mpr dot)
  refine ⟨front.reverse, back.reverse, ?_, by simpa using no_dot⟩
  rw [← List.reverse_reverse name, split]
  simp

theorem Cut.exists_extension {source : String} (cut : Cut source.toList folder name) :
    ∃ front back, name = front ++ back ∧ stem source = String.ofList (folder ++ front) ∧
      extension source = String.ofList back := by
  obtain ⟨front, back, rfl, length⟩ :
      ∃ front back, name = front ++ back ∧ extensionLength source.toList = back.length := by
    by_cases dot : '.' ∈ name
    · obtain ⟨front, back, rfl, no_dot⟩ := exists_last_dot dot
      exact ⟨front, '.' :: back, rfl, cut.extensionLength_of_dot no_dot⟩
    · exact ⟨name, [], (List.append_nil name).symm, cut.extensionLength_of_no_dot dot⟩
  have whole : source.toList = (folder ++ front) ++ back := by
    rw [cut.whole, List.append_assoc]
  have first : source.toList.length - back.length = (folder ++ front).length := by
    rw [whole, List.length_append]
    omega
  refine ⟨front, back, rfl, ?_, ?_⟩
  · rw [stem, length, first, whole, List.take_left]
  · rw [extension, length, first, whole, List.drop_left]

/-! ## The default name -/

/-- The default name lies in the folder of the source, and is another name with the extension of
assembled files. -/
theorem Cut.exists_binaryName {source : String} (cut : Cut source.toList folder name) :
    ∃ front, Cut (binaryName source).toList folder (front ++ binaryExtension.toList) ∧
      front ++ binaryExtension.toList ≠ name := by
  have no_slash : ∀ front : List Char, '/' ∉ front → '/' ∉ front ++ binaryExtension.toList := by
    intro front absent
    simpa [binaryExtension] using absent
  obtain ⟨front, back, rfl, stem_eq, extension_eq⟩ := cut.exists_extension
  by_cases binary : extension source = binaryExtension
  · refine ⟨front ++ back, ⟨?_, cut.slash, no_slash _ cut.no_slash⟩, ?_⟩
    · rw [binaryName, if_pos binary, String.toList_append, cut.whole, List.append_assoc]
    · simp [binaryExtension]
  · refine ⟨front, ⟨?_, cut.slash, no_slash _ fun member => ?_⟩, fun same => binary ?_⟩
    · rw [binaryName, if_neg binary, stem_eq, String.toList_append, String.toList_ofList,
        List.append_assoc]
    · exact cut.no_slash (List.mem_append_left back member)
    · rw [extension_eq, ← List.append_cancel_left same, String.ofList_toList]

/-- A name that is nothing but the extension gets it a second time. -/
example : binaryName "src.d/.bin" = "src.d/.bin.bin" := rfl

end Path
end TableAssembler
