import TableAssembler.Proofs.Directory
import TableAssembler.Proofs.Success
import TableAssembler.Proofs.Text.Path

/-!
# Files of one folder

Two paths with the same folder lead to the same place and go on with one part each.  A file that is
written at one of them is not the file at the other one, and is in nobody's way.
-/

namespace TableAssembler
namespace Directory

open TableAssembler.Path (Cut)

variable {directory : Directory}

/-! ## Parts of a path -/

theorem parts_ne_nil (path : String) : parts path ≠ [] := by
  unfold parts
  cases path.toList with
  | nil => simp
  | cons c text =>
      rw [List.foldr_cons]
      split
      · split_ifs <;> simp
      · simp

/-- A character goes in front of the first part, unless it is a slash. -/
theorem parts_ofList_cons (c : Char) (text : List Char) :
    ∃ part rest, parts (String.ofList text) = part :: rest ∧
      parts (String.ofList (c :: text)) =
        if c = '/' then [] :: part :: rest else (c :: part) :: rest := by
  cases split : parts (String.ofList text) with
  | nil => exact absurd split (parts_ne_nil _)
  | cons part rest =>
      refine ⟨part, rest, rfl, ?_⟩
      rw [parts, String.toList_ofList] at split ⊢
      rw [List.foldr_cons, split]
      simp

private theorem parts_of_no_slash {name : List Char} (no_slash : '/' ∉ name) :
    parts (String.ofList name) = [name] := by
  induction name with
  | nil => rfl
  | cons c name induction =>
      rw [List.mem_cons, not_or] at no_slash
      obtain ⟨part, rest, split, whole⟩ := parts_ofList_cons c name
      obtain ⟨rfl, rfl⟩ := List.cons.inj (split.symm.trans (induction no_slash.2))
      rw [whole, if_neg (Ne.symm no_slash.1)]

private theorem parts_append_slash (front back : List Char) :
    parts (String.ofList (front ++ '/' :: back)) =
      parts (String.ofList front) ++ parts (String.ofList back) := by
  induction front with
  | nil =>
      obtain ⟨part, rest, split, whole⟩ := parts_ofList_cons '/' back
      rw [List.nil_append, whole, if_pos rfl, split]
      rfl
  | cons c front induction =>
      obtain ⟨part, rest, split, whole⟩ := parts_ofList_cons c front
      obtain ⟨part', rest', split', whole'⟩ := parts_ofList_cons c (front ++ '/' :: back)
      rw [induction, split] at split'
      obtain ⟨rfl, rfl⟩ := List.cons.inj split'
      rw [List.cons_append, whole', whole]
      split <;> rfl

/-- All names in a folder are looked up from the same start, along the same parts. -/
theorem exists_origin (folder : List Char) (slash : ∀ c ∈ folder.getLast?, c = '/') :
    ∃ start parents, ∀ {path : String} {name : List Char}, Cut path.toList folder name →
      path ≠ "" → origin path = (start, parents ++ [name]) := by
  have cut_path : ∀ {path : String} {name : List Char}, Cut path.toList folder name →
      path = String.ofList (folder ++ name) := by
    intro path name cut
    rw [← cut.whole, String.ofList_toList]
  rcases List.eq_nil_or_concat' folder with rfl | ⟨front, c, rfl⟩
  · refine ⟨[], [], fun {path name} cut nonempty => ?_⟩
    have parts_eq : parts path = [name] := by
      rw [cut_path cut, List.nil_append, parts_of_no_slash cut.no_slash]
    cases name with
    | nil => exact absurd (cut_path cut) nonempty
    | cons c name => simp [origin, parts_eq]
  · obtain rfl : c = '/' := slash c (by simp)
    have parts_eq : ∀ {path : String} {name : List Char},
        Cut path.toList (front ++ ['/']) name →
          parts path = parts (String.ofList front) ++ [name] := by
      intro path name cut
      rw [cut_path cut, List.append_assoc, List.singleton_append, parts_append_slash,
        parts_of_no_slash cut.no_slash]
    -- An empty part in front of the first slash sends the walk to the root.
    match split : parts (String.ofList front) with
    | [] => exact absurd split (parts_ne_nil _)
    | [] :: rest =>
        refine ⟨root, rest, fun cut _ => ?_⟩
        simp [origin, parts_eq cut, split]
    | (c :: part) :: rest =>
        refine ⟨[], (c :: part) :: rest, fun cut _ => ?_⟩
        simp [origin, parts_eq cut, split]

/-! ## Walks -/

@[simp]
theorem enter_nil (place : List (List Char)) : enter place [] = place := rfl

theorem enter_of_name {name : List Char} (nonempty : name ≠ []) (elsewhere : name ≠ ['.'])
    (below : name ≠ up) (place : List (List Char)) : enter place name = place ++ [name] := by
  simp [enter, nonempty, elsewhere, below]

/-- Every step of a walk starts in a folder. -/
theorem walk_cons_eq_ok {place stop : List (List Char)} {part : List Char}
    {rest : List (List Char)} :
    directory.walk place (part :: rest) = .ok stop ↔
      directory.item place = .folder ∧ (String.ofList part).utf8ByteSize ≤ longestPart ∧
        directory.walk (enter place part) rest = .ok stop := by
  rw [walk]
  cases directory.item place with
  | file => simp
  | missing => simp
  | folder => by_cases short : (String.ofList part).utf8ByteSize ≤ longestPart <;> simp [short]

/-- The last step of a walk starts in the folder that the others lead to. -/
theorem walk_append_eq_ok {place stop : List (List Char)} {parents : List (List Char)}
    {name : List Char} :
    directory.walk place (parents ++ [name]) = .ok stop ↔
      ∃ folder, directory.walk place parents = .ok folder ∧ directory.item folder = .folder ∧
        (String.ofList name).utf8ByteSize ≤ longestPart ∧ enter folder name = stop := by
  induction parents generalizing place with
  | nil =>
      rw [List.nil_append, walk_cons_eq_ok]
      simp [walk]
  | cons part parents induction =>
      simp only [List.cons_append, walk_cons_eq_ok, induction]
      constructor
      · rintro ⟨first, short, folder, walked, last⟩
        exact ⟨folder, ⟨first, short, walked⟩, last⟩
      · rintro ⟨folder, ⟨first, short, walked⟩, last⟩
        exact ⟨first, short, folder, walked, last⟩

variable {path : String} {start parents : List (List Char)} {name : List Char}

/-- A file is read by its name in the folder of its path. -/
theorem read_eq_ok (looked_up : origin path = (start, parents ++ [name])) {bytes : List UInt8} :
    directory.read path = .ok bytes ↔
      usable path = .ok () ∧ ∃ folder, directory.walk start parents = .ok folder ∧
        directory.item folder = .folder ∧ (String.ofList name).utf8ByteSize ≤ longestPart ∧
        directory.item (enter folder name) = .file bytes := by
  have located : directory.read path = .ok bytes ↔
      ∃ place, directory.locate path = .ok place ∧ directory.item place = .file bytes := by
    rw [read]
    cases directory.locate path with
    | error reason => simp
    | ok place => cases found : directory.item place <;> simp [found]
  have walked (place : List (List Char)) : directory.locate path = .ok place ↔
      usable path = .ok () ∧ directory.walk start (parents ++ [name]) = .ok place := by
    rw [locate, looked_up, Success.bind_eq_ok]
    exact ⟨fun ⟨_, usable, walked⟩ => ⟨usable, walked⟩, fun ⟨usable, walked⟩ => ⟨_, usable, walked⟩⟩
  simp only [located, walked, walk_append_eq_ok]
  constructor
  · rintro ⟨_, ⟨usable, folder, walked, item, short, rfl⟩, file⟩
    exact ⟨usable, folder, walked, item, short, file⟩
  · rintro ⟨usable, folder, walked, item, short, file⟩
    exact ⟨_, ⟨usable, folder, walked, item, short, rfl⟩, file⟩

/-- A file is written under its name in the folder of its path. -/
theorem exists_of_target (looked_up : origin path = (start, parents ++ [name]))
    (nonempty : name ≠ []) {place : List (List Char)} (target : directory.target path = .ok place) :
    ∃ folder, directory.walk start parents = .ok folder ∧ place = folder ++ [name] ∧
      directory.item place ≠ .folder := by
  have backwards : ((parents ++ [name]).reverse.dropWhile List.isEmpty) =
      name :: parents.reverse := by
    simp [nonempty]
  simp only [Directory.target, looked_up, backwards, Success.bind_eq_ok,
    List.reverse_reverse] at target
  obtain ⟨-, -, folder, walked, target⟩ := target
  obtain ⟨parent, reached, -, -, rfl⟩ := walk_append_eq_ok.mp walked
  rw [enter_nil] at target
  split_ifs at target with special
  simp only [Bool.or_eq_true, beq_iff_eq, not_or] at special
  obtain ⟨last, walked_last, free⟩ := Success.bind_eq_ok.mp target
  obtain ⟨-, -, walked_last⟩ := walk_cons_eq_ok.mp walked_last
  split_ifs at free with taken
  obtain rfl := Except.ok.inj free
  refine ⟨parent, reached, ?_, taken⟩
  rw [← Except.ok.inj walked_last, enter_of_name nonempty special.1.2 special.2]

/-! ## What lies at a place -/

/-- The directory itself, the folders above it and the root are always there. -/
def IsFixed (place : List (List Char)) : Prop :=
  (∀ part ∈ place, part = up) ∨ place = root

/-- A folder is known from the files in it, or because it is listed. -/
def ShowsFolder (directory : Directory) (path : String) : Prop :=
  (∃ name ∈ Dictionary.names directory.files, path.toList ++ ['/'] <+: name.toList) ∨
    path ∈ directory.folders

instance (directory : Directory) (path : String) : Decidable (directory.ShowsFolder path) :=
  inferInstanceAs (Decidable (_ ∨ _))

theorem item_of_isFixed {place : List (List Char)} (fixed : IsFixed place) :
    directory.item place = .folder := by
  have found : (place.all (· == up) || place == root) = true := by
    simpa [IsFixed] using fixed
  simp only [item, found, if_true]

/-- Other places are as the files and the listed folders tell. -/
theorem item_of_not_isFixed {place : List (List Char)} (free : ¬ IsFixed place)
    (kept : place ≠ nullFile) :
    directory.item place =
      match Dictionary.find? directory.files (join place) with
      | some bytes => .file bytes
      | none => if directory.ShowsFolder (join place) then .folder else .missing := by
  have found : (place.all (· == up) || place == root) = false := by
    simpa [IsFixed] using free
  have shows_iff : (directory.files.any (fun file =>
        ((join place).toList ++ ['/']).isPrefixOf file.1.toList) ||
      directory.folders.contains (join place)) = true ↔ directory.ShowsFolder (join place) := by
    simp [ShowsFolder, Dictionary.names]
  simp only [item, found, beq_eq_false_iff_ne.mpr kept, Bool.false_eq_true, if_false]
  cases Dictionary.find? directory.files (join place) with
  | some bytes => rfl
  | none => simp only [shows_iff]

/-! ## Writing at another place -/

theorem ShowsFolder.put {path : String} (shows_folder : directory.ShowsFolder path)
    (other : String) (bytes : List UInt8) : (directory.put other bytes).ShowsFolder path := by
  by_cases dropped : other = join nullFile
  · rwa [dropped, put_nullFile]
  rcases shows_folder with ⟨name, member, inside⟩ | listed
  · refine .inl ⟨name, ?_, inside⟩
    rw [← not_not (a := name ∈ _), ← Dictionary.find?_eq_none_iff, find?_put dropped]
    split_ifs
    · simp
    · rwa [Dictionary.find?_eq_none_iff, not_not]
  · right
    unfold Directory.put
    split_ifs <;> exact listed

variable {place other : List (List Char)} {image : List UInt8}

/-- A folder stays, as the file is written where no folder is. -/
theorem item_put_of_folder (folder : directory.item place = .folder)
    (free : directory.item other ≠ .folder) :
    (directory.put (join other) image).item place = .folder := by
  by_cases dropped : join other = join nullFile
  · rwa [dropped, put_nullFile]
  by_cases fixed : IsFixed place
  · exact item_of_isFixed fixed
  have kept : place ≠ nullFile := by
    rintro rfl
    contradiction
  rw [item_of_not_isFixed fixed kept] at folder
  cases found : Dictionary.find? directory.files (join place) with
  | some bytes => simp [found] at folder
  | none =>
      rw [found] at folder
      dsimp only at folder
      split_ifs at folder with shows_folder
      have apart : join place ≠ join other := by
        intro same
        apply free
        rw [item_of_not_isFixed (mt item_of_isFixed free) (mt (congrArg join) dropped), ← same,
          found]
        exact if_pos shows_folder
      rw [item_of_not_isFixed fixed kept, find?_put dropped, if_neg apart, found]
      exact if_pos (shows_folder.put _ _)

/-- A file stays as it is when another one is written. -/
theorem item_put_of_file {bytes : List UInt8} (file : directory.item place = .file bytes)
    (apart : join place ≠ join other) :
    (directory.put (join other) image).item place = .file bytes := by
  by_cases dropped : join other = join nullFile
  · rwa [dropped, put_nullFile]
  by_cases null : place = nullFile
  · subst null
    exact file
  have free : ¬ IsFixed place := by
    intro fixed
    rw [item_of_isFixed fixed] at file
    contradiction
  rw [item_of_not_isFixed free null] at file ⊢
  rw [find?_put dropped, if_neg apart]
  cases found : Dictionary.find? directory.files (join place) with
  | some old => simpa [found] using file
  | none =>
      rw [found] at file
      dsimp only at file
      split_ifs at file

/-- A walk passes folders only, so it is the same in the directory with one more file. -/
theorem walk_put (free : directory.item other ≠ .folder) {stop parts : List (List Char)}
    (walked : directory.walk place parts = .ok stop) :
    (directory.put (join other) image).walk place parts = .ok stop := by
  induction parts generalizing place with
  | nil => exact walked
  | cons part rest induction =>
      obtain ⟨folder, short, walked⟩ := walk_cons_eq_ok.mp walked
      exact walk_cons_eq_ok.mpr ⟨item_put_of_folder folder free, short, induction walked⟩

/-! ## Two names in one folder -/

theorem toList_join_concat (place : List (List Char)) (name : List Char) :
    (join (place ++ [name])).toList =
      if place = [] then name else (join place).toList ++ '/' :: name := by
  simp only [join, String.toList_ofList]
  induction place with
  | nil => simp [List.intercalate]
  | cons part place induction =>
      cases place with
      | nil => simp [List.intercalate]
      | cons next place => simpa [List.intercalate] using induction

private theorem join_concat_inj {first second : List Char} :
    join (place ++ [first]) = join (place ++ [second]) ↔ first = second := by
  rw [← String.toList_inj, toList_join_concat, toList_join_concat]
  split_ifs
  · rfl
  · simp

private theorem length_join_le (place : List (List Char)) (name : List Char) :
    (join place).toList.length ≤ (join (place ++ [name])).toList.length := by
  rw [toList_join_concat]
  split_ifs with empty
  · simp [empty, join, List.intercalate]
  · simp

private theorem join_ne_concat_concat (place : List (List Char)) (last name : List Char) :
    join place ≠ join (place ++ [last] ++ [name]) := by
  intro same
  have lengths := congrArg (fun path => path.toList.length) same
  have shorter := length_join_le place last
  rw [toList_join_concat, if_neg (by simp)] at lengths
  simp only [List.length_append, List.length_cons] at lengths
  omega

private theorem join_enter_ne {folder : List (List Char)} {name other : List Char}
    {bytes : List UInt8} (base : directory.item folder = .folder)
    (file : directory.item (enter folder name) = .file bytes) (different : other ≠ name) :
    join (enter folder name) ≠ join (folder ++ [other]) := by
  have moved : enter folder name ≠ folder := by
    intro same
    rw [same, base] at file
    contradiction
  -- Only a step upwards leads to a place whose path does not end in the name.
  by_cases back : name = up
  · have entered : enter folder name = above folder := by simp [back, enter, up]
    rw [entered] at file moved ⊢
    unfold above at file moved ⊢
    split_ifs at file moved ⊢ with top outside
    · contradiction
    · have fixed : IsFixed (folder ++ [up]) := .inl (by simpa [or_imp, forall_and] using outside)
      rw [item_of_isFixed fixed] at file
      contradiction
    · rcases List.eq_nil_or_concat' folder with rfl | ⟨parents, last, rfl⟩
      · exact absurd rfl outside
      · rw [List.dropLast_concat]
        exact join_ne_concat_concat parents last other
  · have entered : enter folder name = folder ++ [name] := by
      apply enter_of_name
      · rintro rfl
        exact moved rfl
      · rintro rfl
        exact moved rfl
      · exact back
    rw [entered, Ne, join_concat_inj]
    exact different.symm

/-- A file that can be read is read in the same way when another one was written in its folder. -/
theorem read_put_of_target {path other : String} {folder name otherName : List Char}
    (cut : Cut path.toList folder name) (other_cut : Cut other.toList folder otherName)
    (nonempty : otherName ≠ []) (different : otherName ≠ name) {bytes : List UInt8}
    {place : List (List Char)} (read : directory.read path = .ok bytes)
    (target : directory.target other = .ok place) (written : List UInt8) :
    (directory.put (join place) written).read path = .ok bytes := by
  obtain ⟨start, parents, looked_up⟩ := exists_origin folder cut.slash
  have path_ne : path ≠ "" := by
    rintro rfl
    simp [Directory.read, locate, usable_eq, bind, Except.bind] at read
  have other_ne : other ≠ "" := by
    rintro rfl
    exact nonempty (List.append_eq_nil_iff.mp other_cut.whole.symm).2
  obtain ⟨usable, home, walked, base, short, file⟩ := (read_eq_ok (looked_up cut path_ne)).mp read
  obtain ⟨folder, reached, rfl, free⟩ :=
    exists_of_target (looked_up other_cut other_ne) nonempty target
  obtain rfl : home = folder := Except.ok.inj (walked.symm.trans reached)
  rw [read_eq_ok (looked_up cut path_ne)]
  refine ⟨usable, home, walk_put free walked, item_put_of_folder base free, short, ?_⟩
  exact item_put_of_file file (join_enter_ne base file different)

end Directory
end TableAssembler
