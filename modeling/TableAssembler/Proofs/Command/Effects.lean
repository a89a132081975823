import TableAssembler.Command.Run
import TableAssembler.Proofs.Assembly.Builtin
import TableAssembler.Proofs.Directory
import TableAssembler.Proofs.Success

/-!
# What a failed run leaves

A run checks everything about its program before it touches a file.  From then on it writes its
image, a listing and a last line, one behind the other, and each of them can be refused.  So a run
that fails leaves all files as they were, unless it has opened a file for its image, and then its
files hold what was taken before the refusal.  All of this is shown for every environment; only the
texts that help and complete are not a part of it, and they change no file.
-/

namespace TableAssembler
namespace Command

open Dictionary (find?)
open Directory (join nullFile save)

variable {environment : Environment} {directory : Directory} {options : Options}
variable {files : List String}

/-- An image that can be written. -/
structure Delivery where
  /-- The source that it was assembled from. -/
  source : String
  /-- The place that its path leads to. -/
  place : List (List Char)
  image : Image

/-- The run has an image, and has opened a file for it. -/
def Delivers (environment : Environment) (directory : Directory) (options : Options)
    (files : List String) (delivery : Delivery) : Prop :=
  ∃ set job assembly place, loadSet directory options.isa = .ok set ∧ options.mnemonics = false ∧
    prepare directory options set files = .ok job ∧
    job.assembler.assemble job.layout job.source job.text = .ok assembly ∧
    directory.create environment.image (outputPath options job.source) = .ok place ∧
    delivery = ⟨job.source, place, assembly.image⟩

/-- A run has no more than one image, and one place for it. -/
theorem Delivers.unique {delivery other : Delivery}
    (delivers : Delivers environment directory options files delivery)
    (delivers' : Delivers environment directory options files other) : delivery = other := by
  obtain ⟨set, job, assembly, place, loaded, -, prepared, assembled, created, rfl⟩ := delivers
  obtain ⟨set', job', assembly', place', loaded', -, prepared', assembled', created', rfl⟩ :=
    delivers'
  cases loaded.symm.trans loaded'
  cases prepared.symm.trans prepared'
  cases assembled.symm.trans assembled'
  cases created.symm.trans created'
  rfl

/-! ## How a delivery ends -/

namespace Delivery

/-- The directory with the whole image in its place. -/
def written (delivery : Delivery) (directory : Directory) : Directory :=
  directory.put (join delivery.place) delivery.image.bytes

/-- What the file of the image holds in the end, and what goes wrong with it. -/
def saveImage (delivery : Delivery) (environment : Environment) (options : Options) :
    List UInt8 × Option FileFault :=
  save environment.image (outputPath options delivery.source) [delivery.image.bytes]

/-- What the file of the listing holds in the end, and what goes wrong with it. -/
def saveListing (delivery : Delivery) (environment : Environment) (options : Options) :
    List UInt8 × Option FileFault :=
  save environment.listing options.listing (encoded delivery.image.listing)

/-- What goes wrong when texts are printed, with the last line of the run behind them. -/
def printFault? (delivery : Delivery) (environment : Environment) (options : Options)
    (texts : List String) : Option FileFault :=
  let last := summary (outputPath options delivery.source) delivery.image
  (environment.stdout.write (encoded (texts ++ [last]))).refused?.map fun reason =>
    ⟨"write", stdoutPath, .refused reason⟩

section

variable (environment : Environment) (directory : Directory) (options : Options)
variable (delivery : Delivery)

/-- The listing goes through behind the image: the file that it leaves, and the texts that are to be
printed. -/
inductive Lists : Dictionary (List UInt8) → List String → Prop
  | unset : options.listing = "" → Lists [] []
  | printed : options.listing = "-" → Lists [] delivery.image.listing
  | saved {place : List (List Char)} {bytes : List UInt8} :
      options.listing ≠ "" → options.listing ≠ "-" →
        (delivery.written directory).create environment.listing options.listing = .ok place →
        delivery.saveListing environment options = (bytes, none) → Lists [(join place, bytes)] []

/-- All that can come of a delivery: the files that are written, the last one first, and what goes
wrong behind them. -/
inductive Ends : Dictionary (List UInt8) → Option FileFault → Prop
  /-- The image is not taken, or its file is not closed. -/
  | image {bytes : List UInt8} {fault : FileFault} :
      delivery.saveImage environment options = (bytes, some fault) →
        Ends [(join delivery.place, bytes)] (some fault)
  /-- The file of the listing is not opened. -/
  | unopened {fault : FileFault} :
      (delivery.saveImage environment options).2 = none →
        options.listing ≠ "" → options.listing ≠ "-" →
        (delivery.written directory).create environment.listing options.listing = .error fault →
        Ends [(join delivery.place, delivery.image.bytes)] (some fault)
  /-- The listing is not taken, or its file is not closed. -/
  | listing {place : List (List Char)} {bytes : List UInt8} {fault : FileFault} :
      (delivery.saveImage environment options).2 = none →
        options.listing ≠ "" → options.listing ≠ "-" →
        (delivery.written directory).create environment.listing options.listing = .ok place →
        delivery.saveListing environment options = (bytes, some fault) →
        Ends [(join place, bytes), (join delivery.place, delivery.image.bytes)] (some fault)
  /-- All files are written, and only standard output is left to refuse something. -/
  | printed {saves : Dictionary (List UInt8)} {texts : List String} :
      (delivery.saveImage environment options).2 = none →
        Lists environment directory options delivery saves texts →
        Ends (saves ++ [(join delivery.place, delivery.image.bytes)])
          (delivery.printFault? environment options texts)

end

variable {delivery : Delivery} {saves : Dictionary (List UInt8)} {fault? : Option FileFault}

/-- An image that is saved without a fault is saved whole. -/
theorem saveImage_of_ok (saved : (delivery.saveImage environment options).2 = none) :
    delivery.saveImage environment options = (delivery.image.bytes, none) := by
  refine Prod.ext ?_ saved
  rw [saveImage, Directory.save_of_ok saved, List.flatten_singleton]

/-- A delivery ends in some way. -/
theorem exists_ends (environment : Environment) (directory : Directory) (options : Options)
    (delivery : Delivery) :
    ∃ saves fault?, delivery.Ends environment directory options saves fault? := by
  cases image : delivery.saveImage environment options with
  | mk bytes image_fault? =>
      cases image_fault? with
      | some fault => exact ⟨_, _, .image image⟩
      | none =>
          have whole : (delivery.saveImage environment options).2 = none := by rw [image]
          by_cases unset : options.listing = ""
          · exact ⟨_, _, .printed whole (.unset unset)⟩
          by_cases printed : options.listing = "-"
          · exact ⟨_, _, .printed whole (.printed printed)⟩
          cases created :
              (delivery.written directory).create environment.listing options.listing with
          | error fault => exact ⟨_, _, .unopened whole unset printed created⟩
          | ok place =>
              cases listing : delivery.saveListing environment options with
              | mk bytes listing_fault? =>
                  cases listing_fault? with
                  | some fault => exact ⟨_, _, .listing whole unset printed created listing⟩
                  | none => exact ⟨_, _, .printed whole (.saved unset printed created listing)⟩

theorem Lists.unique {saves other : Dictionary (List UInt8)} {texts others : List String}
    (lists : delivery.Lists environment directory options saves texts)
    (lists' : delivery.Lists environment directory options other others) :
    saves = other ∧ texts = others := by
  cases lists with
  | unset unset =>
      cases lists' with
      | unset => exact ⟨rfl, rfl⟩
      | printed printed => simp [unset] at printed
      | saved given => exact absurd unset given
  | printed printed =>
      cases lists' with
      | unset unset => simp [printed] at unset
      | printed => exact ⟨rfl, rfl⟩
      | saved _ unprinted => exact absurd printed unprinted
  | saved given unprinted created saved =>
      cases lists' with
      | unset unset => exact absurd unset given
      | printed printed => exact absurd printed unprinted
      | saved _ _ created' saved' =>
          cases created.symm.trans created'
          cases saved.symm.trans saved'
          exact ⟨rfl, rfl⟩

theorem Lists.exists_saved {texts : List String}
    (lists : delivery.Lists environment directory options saves texts)
    (given : options.listing ≠ "") (unprinted : options.listing ≠ "-") :
    ∃ place bytes,
      (delivery.written directory).create environment.listing options.listing = .ok place ∧
        delivery.saveListing environment options = (bytes, none) := by
  cases lists with
  | unset unset => exact absurd unset given
  | printed printed => exact absurd printed unprinted
  | saved _ _ created saved => exact ⟨_, _, created, saved⟩

theorem Ends.unique {other : Dictionary (List UInt8)} {other? : Option FileFault}
    (ends : delivery.Ends environment directory options saves fault?)
    (ends' : delivery.Ends environment directory options other other?) :
    saves = other ∧ fault? = other? := by
  cases ends with
  | image failed =>
      cases ends' with
      | image failed' =>
          cases failed.symm.trans failed'
          exact ⟨rfl, rfl⟩
      | unopened saved | listing saved | printed saved => simp [failed] at saved
  | unopened saved given unprinted blocked =>
      cases ends' with
      | image failed => simp [failed] at saved
      | unopened _ _ _ blocked' =>
          cases blocked.symm.trans blocked'
          exact ⟨rfl, rfl⟩
      | listing _ _ _ created => cases blocked.symm.trans created
      | printed _ lists =>
          obtain ⟨_, _, created, -⟩ := lists.exists_saved given unprinted
          cases blocked.symm.trans created
  | listing saved given unprinted created failed =>
      cases ends' with
      | image failed => simp [failed] at saved
      | unopened _ _ _ blocked => cases blocked.symm.trans created
      | listing _ _ _ created' failed' =>
          cases created.symm.trans created'
          cases failed.symm.trans failed'
          exact ⟨rfl, rfl⟩
      | printed _ lists =>
          obtain ⟨_, _, -, listed⟩ := lists.exists_saved given unprinted
          cases failed.symm.trans listed
  | printed saved lists =>
      cases ends' with
      | image failed => simp [failed] at saved
      | unopened _ given unprinted blocked =>
          obtain ⟨_, _, created, -⟩ := lists.exists_saved given unprinted
          cases blocked.symm.trans created
      | listing _ given unprinted _ failed =>
          obtain ⟨_, _, -, listed⟩ := lists.exists_saved given unprinted
          cases failed.symm.trans listed
      | printed _ lists' =>
          obtain ⟨rfl, rfl⟩ := lists.unique lists'
          exact ⟨rfl, rfl⟩

/-- Only the image is written where no file is named for the listing. -/
theorem Ends.eq_singleton (ends : delivery.Ends environment directory options saves fault?)
    (printed : options.listing = "" ∨ options.listing = "-") :
    ∃ bytes, saves = [(join delivery.place, bytes)] := by
  cases ends with
  | image => exact ⟨_, rfl⟩
  | unopened => exact ⟨_, rfl⟩
  | listing _ given unprinted => exact absurd printed (not_or.mpr ⟨given, unprinted⟩)
  | printed _ lists =>
      cases lists with
      | unset => exact ⟨_, rfl⟩
      | printed => exact ⟨_, rfl⟩
      | saved given unprinted => exact absurd printed (not_or.mpr ⟨given, unprinted⟩)

private theorem isPrefix_of_saveImage {bytes : List UInt8}
    (saved : delivery.saveImage environment options = (bytes, fault?)) :
    bytes <+: delivery.image.bytes := by
  have front := Directory.isPrefix_save environment.image (outputPath options delivery.source)
    [delivery.image.bytes]
  rw [← saveImage, saved] at front
  simpa using front

private theorem isPrefix_of_saveListing {bytes : List UInt8}
    (saved : delivery.saveListing environment options = (bytes, fault?)) :
    bytes <+: (encoded delivery.image.listing).flatten := by
  have front := Directory.isPrefix_save environment.listing options.listing
    (encoded delivery.image.listing)
  rwa [← saveListing, saved] at front

/-- A file that is written holds the front of the image or of the listing. -/
theorem Ends.isPrefix (ends : delivery.Ends environment directory options saves fault?) :
    ∀ file ∈ saves, file.2 <+: delivery.image.bytes ∨
      file.2 <+: (encoded delivery.image.listing).flatten := by
  cases ends with
  | image saved => exact List.forall_mem_singleton.mpr (.inl (isPrefix_of_saveImage saved))
  | unopened => exact List.forall_mem_singleton.mpr (.inl List.prefix_rfl)
  | listing _ _ _ _ saved =>
      exact List.forall_mem_cons.mpr ⟨.inr (isPrefix_of_saveListing saved),
        List.forall_mem_singleton.mpr (.inl List.prefix_rfl)⟩
  | printed _ lists =>
      refine List.forall_mem_append.mpr
        ⟨?_, List.forall_mem_singleton.mpr (.inl List.prefix_rfl)⟩
      cases lists with
      | unset | printed => simp
      | saved _ _ _ saved =>
          exact List.forall_mem_singleton.mpr (.inr (isPrefix_of_saveListing saved))

end Delivery

/-! ## Writing -/

variable {delivery : Delivery} {saves : Dictionary (List UInt8)} {fault? : Option FileFault}

private theorem writeListing_of_lists {added : Dictionary (List UInt8)} {texts : List String}
    (lists : delivery.Lists environment directory options added texts) (last : String) :
    writeListing environment (delivery.written directory) options.listing delivery.image last =
      environment.print ((delivery.written directory).putAll added) (texts ++ [last]) := by
  cases lists with
  | unset unset =>
      rw [writeListing, unset]
      rfl
  | printed printed =>
      rw [writeListing, printed]
      rfl
  | @saved place bytes given unprinted created saved =>
      rw [writeListing, if_neg (by simpa using given), if_neg unprinted,
        Directory.write_of_create created, ← Delivery.saveListing, saved]
      rfl

private theorem writeImage_of_saved
    (created : directory.create environment.image (outputPath options delivery.source) =
      .ok delivery.place)
    (saved : (delivery.saveImage environment options).2 = none) :
    writeImage environment directory options delivery.source delivery.image =
      writeListing environment (delivery.written directory) options.listing delivery.image
        (summary (outputPath options delivery.source) delivery.image) := by
  rw [writeImage, Directory.write_of_create created, ← Delivery.saveImage,
    Delivery.saveImage_of_ok saved]
  rfl

/-- What a delivery ends in is what the run leaves. -/
theorem writeImage_of_ends
    (created : directory.create environment.image (outputPath options delivery.source) =
      .ok delivery.place)
    (ends : delivery.Ends environment directory options saves fault?) :
    (writeImage environment directory options delivery.source delivery.image).directory =
        directory.putAll saves ∧
      (writeImage environment directory options delivery.source delivery.image).failure? =
        fault?.map .file := by
  cases ends with
  | image saved =>
      rw [writeImage, Directory.write_of_create created, ← Delivery.saveImage, saved]
      exact ⟨rfl, rfl⟩
  | unopened saved given unprinted blocked =>
      rw [writeImage_of_saved created saved, writeListing, if_neg (by simpa using given),
        if_neg unprinted, Directory.write_of_blocked blocked]
      exact ⟨rfl, rfl⟩
  | listing saved given unprinted opened listed =>
      rw [writeImage_of_saved created saved, writeListing, if_neg (by simpa using given),
        if_neg unprinted, Directory.write_of_create opened, ← Delivery.saveListing, listed]
      exact ⟨rfl, rfl⟩
  | @printed added texts saved lists =>
      rw [writeImage_of_saved created saved, writeListing_of_lists lists]
      refine ⟨?_, ?_⟩
      · rw [Directory.putAll_append]
        rfl
      · rw [Delivery.printFault?, Option.map_map]
        rfl

/-! ## Runs -/

private theorem exists_read_of_prepare {set : InstructionSet} {job : Job}
    (prepared : prepare directory options set files = .ok job) :
    files = [job.source] ∧ ∃ bytes, directory.read job.source = .ok bytes := by
  unfold prepare at prepared
  split at prepared
  · next source =>
      simp only [Success.bind_eq_ok, Success.mapError_eq_ok, Success.pure_eq_ok] at prepared
      obtain ⟨_, single, _, -, _, -, bytes, read, rfl⟩ := prepared
      obtain rfl := Except.ok.inj single
      exact ⟨rfl, bytes, read⟩
  · contradiction

namespace Delivers

theorem create (delivers : Delivers environment directory options files delivery) :
    directory.create environment.image (outputPath options delivery.source) =
      .ok delivery.place := by
  obtain ⟨set, job, assembly, place, -, -, -, -, created, rfl⟩ := delivers
  exact created

/-- The one source of a run with an image can be read. -/
theorem exists_read (delivers : Delivers environment directory options files delivery) :
    files = [delivery.source] ∧ ∃ bytes, directory.read delivery.source = .ok bytes := by
  obtain ⟨set, job, assembly, place, -, -, prepared, -, -, rfl⟩ := delivers
  exact exists_read_of_prepare prepared

/-- A run with an image leaves what its delivery ends in. -/
theorem execute_of_ends (delivers : Delivers environment directory options files delivery)
    (ends : delivery.Ends environment directory options saves fault?) :
    (execute environment directory options files).directory = directory.putAll saves ∧
      (execute environment directory options files).failure? = fault?.map .file := by
  have ended := writeImage_of_ends delivers.create ends
  obtain ⟨set, job, assembly, place, loaded, assembling, prepared, assembled, -, rfl⟩ := delivers
  have executed : execute environment directory options files =
      job.run environment directory options := by
    simp [execute, loaded, assembling, prepared]
  dsimp only at ended
  simp only [executed, Job.run, assembled, ended, and_self]

end Delivers

/-- A run without an image, or without a file for it, writes nothing. -/
theorem directory_execute_of_not_delivers
    (idle : ∀ delivery, ¬ Delivers environment directory options files delivery) :
    (execute environment directory options files).directory = directory := by
  rw [execute]
  cases loaded : loadSet directory options.isa with
  | error failure => rfl
  | ok set =>
      dsimp only
      split
      · rfl
      · next assembling =>
          cases prepared : prepare directory options set files with
          | error failure => rfl
          | ok job =>
              cases assembled : job.assembler.assemble job.layout job.source job.text with
              | error fault => simp only [Job.run, assembled, Outcome.fail]
              | ok assembly =>
                  simp only [Job.run, assembled, writeImage]
                  cases created :
                      directory.create environment.image (outputPath options job.source) with
                  | error fault => rw [Directory.write_of_blocked created]; rfl
                  | ok place =>
                      exact absurd ⟨set, job, assembly, place, loaded, by simpa using assembling,
                        prepared, assembled, created, rfl⟩
                        (idle ⟨job.source, place, assembly.image⟩)

/-! ## A run that fails on the listing -/

/-- The text of a program with one statement. -/
def nopSource : List UInt8 := [110, 111, 112, 10]

/-- Options that ask for a listing in a folder that is not there. -/
def strayListing : Options := { listing := "no/such.lst" }

private theorem decode_nopSource : String.ofList (Utf8.decode nopSource) = "nop\n" := by
  simp [nopSource, Utf8.decode, Utf8.segments, Utf8.sequence?]

/-- Where the program can be read and its image written, a run with the builtin set delivers it. -/
theorem exists_delivers_nopSource {directory : Directory} (options : Options)
    (builtin : options.isa = "") (layout : options.layout = "units")
    (assembling : options.mnemonics = false) (unset : options.output = "")
    (source : directory.read "prog.s" = .ok nopSource)
    (target : directory.target "prog.bin" = .ok ["prog.bin".toList]) :
    ∃ image, image.bytes = [7] ∧
      Delivers {} directory options ["prog.s"] ⟨"prog.s", ["prog.bin".toList], image⟩ := by
  obtain ⟨set, assembler, compiled, ready, -, -, assembles⟩ := Builtin.exists_machine
  obtain ⟨assembly, assembled, bytes⟩ := Success.map_eq_ok.mp assembles
  have loaded : loadSet directory options.isa = .ok set := by
    rw [loadSet, if_pos (by rw [builtin]; rfl), Success.mapError_eq_ok]
    exact compiled
  have units : Layout.parse options.layout = .ok .units := by
    rw [layout]
    rfl
  have prepared : prepare directory options set ["prog.s"] =
      .ok ⟨assembler, .units, "prog.s", "nop\n"⟩ := by
    simp [prepare, units, ready, source, decode_nopSource, Except.mapError, bind, Except.bind]
    rfl
  have created : directory.create {} (outputPath options "prog.s") = .ok ["prog.bin".toList] := by
    have named : Path.binaryName "prog.s" = "prog.bin" := rfl
    rw [outputPath, if_pos (by rw [unset]; rfl), named, Directory.create_eq_ok]
    exact ⟨target, rfl⟩
  exact ⟨assembly.image, bytes, set, _, assembly, _, loaded, assembling, prepared, assembled,
    created, rfl⟩

/-- The run fails on its listing behind a written image. -/
theorem exists_failed_nopSource {directory : Directory}
    (source : directory.read "prog.s" = .ok nopSource)
    (target : directory.target "prog.bin" = .ok ["prog.bin".toList])
    (blocked : (directory.put "prog.bin" [7]).target "no/such.lst" = .error .missing) :
    ∃ delivery : Delivery, Delivers {} directory strayListing ["prog.s"] delivery ∧
      delivery.Ends {} directory strayListing [("prog.bin", [7])]
        (some ⟨"open", "no/such.lst", .missing⟩) := by
  obtain ⟨image, bytes, delivers⟩ :=
    exists_delivers_nopSource strayListing rfl rfl rfl rfl source target
  have joined : join ["prog.bin".toList] = "prog.bin" := rfl
  refine ⟨_, delivers, ?_⟩
  rw [← joined, ← bytes]
  refine .unopened rfl (by decide) (by decide) ?_
  simp only [Delivery.written, Directory.create, joined, bytes, strayListing, blocked]

/-- A directory with nothing but the program. -/
def unbuilt : Directory := { files := [("prog.s", nopSource)] }

theorem read_unbuilt : unbuilt.read "prog.s" = .ok nopSource := by
  rw [Directory.read, Directory.locate, Directory.usable_eq]
  rfl

theorem target_unbuilt : unbuilt.target "prog.bin" = .ok ["prog.bin".toList] := by
  rw [Directory.target, Directory.usable_eq]
  rfl

/-- The directory after a run that did not fail. -/
def built : Directory := { files := [("prog.s", nopSource), ("prog.bin", [7])] }

/-! ## Failed runs -/

/-- A run that fails leaves every file as it was, exactly when it has not opened a file for an
image, or no one could notice what it has written: the places of its files keep nothing, or held the
same bytes before.  Where it has opened that file, it fails on what it writes: the image, the listing
or the last line is refused, a file is not closed, or the one of the listing is not opened.  The
files then hold what was taken of the image and of the listing. -/
theorem failed_keeps_files_iff {failure : Failure}
    (failed : (execute environment directory options files).failure? = some failure) :
    ((∀ path, find? (execute environment directory options files).directory.files path =
        find? directory.files path) ↔
      ∀ delivery saves fault?, Delivers environment directory options files delivery →
        delivery.Ends environment directory options saves fault? →
        ∀ path bytes, find? saves path = some bytes →
          path = join nullFile ∨ find? directory.files path = some bytes) ∧
    ∀ delivery, Delivers environment directory options files delivery →
      ∃ saves fault, delivery.Ends environment directory options saves (some fault) ∧
        failure = .file fault ∧
        (execute environment directory options files).directory = directory.putAll saves ∧
        ∀ file ∈ saves, file.2 <+: delivery.image.bytes ∨
          file.2 <+: (encoded delivery.image.listing).flatten := by
  refine ⟨⟨?_, ?_⟩, ?_⟩
  · intro unchanged delivery saves fault? delivers ends
    rw [(delivers.execute_of_ends ends).1] at unchanged
    exact Directory.find?_putAll_eq_iff.mp unchanged
  · intro unnoticed
    by_cases delivers : ∃ delivery, Delivers environment directory options files delivery
    · obtain ⟨delivery, delivers⟩ := delivers
      obtain ⟨saves, fault?, ends⟩ := delivery.exists_ends environment directory options
      rw [(delivers.execute_of_ends ends).1]
      exact Directory.find?_putAll_eq_iff.mpr (unnoticed delivery saves fault? delivers ends)
    · rw [directory_execute_of_not_delivers (not_exists.mp delivers)]
      exact fun _ => rfl
  · intro delivery delivers
    obtain ⟨saves, fault?, ends⟩ := delivery.exists_ends environment directory options
    obtain ⟨left, failure_eq⟩ := delivers.execute_of_ends ends
    rw [failed] at failure_eq
    obtain ⟨fault, rfl, rfl⟩ := Option.map_eq_some_iff.mp failure_eq.symm
    exact ⟨saves, fault, ends, rfl, left, ends.isPrefix⟩

/-- The listing cannot be opened, and the image that was not there before stays. -/
theorem failed_creates_image :
    (execute {} unbuilt strayListing ["prog.s"]).failure? =
        some (.file ⟨"open", "no/such.lst", .missing⟩) ∧
      find? unbuilt.files "prog.bin" = none ∧
      find? (execute {} unbuilt strayListing ["prog.s"]).directory.files "prog.bin" =
        some [7] := by
  have blocked : (unbuilt.put "prog.bin" [7]).target "no/such.lst" = .error .missing := by
    rw [Directory.target, Directory.usable_eq]
    rfl
  obtain ⟨delivery, delivers, ends⟩ :=
    exists_failed_nopSource read_unbuilt target_unbuilt blocked
  obtain ⟨left, failed⟩ := delivers.execute_of_ends ends
  refine ⟨failed, rfl, ?_⟩
  rw [left]
  rfl

/-- The image is written once more, and nothing changes. -/
theorem failed_keeps_files_iff_built :
    (execute {} built strayListing ["prog.s"]).failure? =
        some (.file ⟨"open", "no/such.lst", .missing⟩) ∧
      ∀ path, find? (execute {} built strayListing ["prog.s"]).directory.files path =
        find? built.files path := by
  have source : built.read "prog.s" = .ok nopSource := by
    rw [Directory.read, Directory.locate, Directory.usable_eq]
    rfl
  have target : built.target "prog.bin" = .ok ["prog.bin".toList] := by
    rw [Directory.target, Directory.usable_eq]
    rfl
  have blocked : (built.put "prog.bin" [7]).target "no/such.lst" = .error .missing := by
    rw [Directory.target, Directory.usable_eq]
    rfl
  obtain ⟨delivery, delivers, ends⟩ := exists_failed_nopSource source target blocked
  obtain ⟨left, failed⟩ := delivers.execute_of_ends ends
  refine ⟨failed, (failed_keeps_files_iff failed).1.mpr ?_⟩
  intro same saves fault? delivers' ends' path bytes saved
  obtain rfl := delivers.unique delivers'
  obtain ⟨rfl, -⟩ := ends.unique ends'
  obtain ⟨rfl, rfl⟩ : path = "prog.bin" ∧ bytes = [7] := by
    simpa using Dictionary.mem_of_find? saved
  right
  rfl

end Command
end TableAssembler
