import TableAssembler.Proofs.Image.Displacement
import TableAssembler.Proofs.Label.Displacement
import TableAssembler.Proofs.Lexeme.Scanned
import TableAssembler.Proofs.Pseudo.Displacement
import TableAssembler.Proofs.Pseudo.Expansion

/-!
# Places do not matter

What is assembled depends on the class, the text and the radix of the lexemes alone.  Blanks,
comments and the name of the file only move lexemes, so they change neither code nor labels, and
they change a fault in nothing but its place.
-/

namespace TableAssembler

/-! ## Lexemes that are read alike -/

/-- The lexemes have one class, text and radix. -/
structure Lexeme.SameWord (first second : Lexeme) : Prop where
  kind : first.kind = second.kind
  value : first.value = second.value
  radix : first.radix = second.radix

theorem Lexeme.SameWord.displaced {first second : Lexeme} (same : first.SameWord second)
    (no_args : first.args = []) (no_args' : second.args = []) :
    first.Displaced .anywhere second := by
  refine .intro same.kind same.value same.radix ?_ trivial trivial
  rw [no_args, no_args']
  exact .nil

theorem Lexeme.forall₂_displaced_of_sameWord {lexemes others : List Lexeme}
    (same : List.Forall₂ SameWord lexemes others) (no_args : ∀ lexeme ∈ lexemes, lexeme.args = [])
    (no_args' : ∀ lexeme ∈ others, lexeme.args = []) :
    List.Forall₂ (Displaced .anywhere) lexemes others := by
  induction same with
  | nil => exact .nil
  | cons first _ induction =>
      obtain ⟨no_arg, no_args⟩ := List.forall_mem_cons.mp no_args
      obtain ⟨no_arg', no_args'⟩ := List.forall_mem_cons.mp no_args'
      exact .cons (first.displaced no_arg no_arg') (induction no_args no_args')

theorem Scan.result_cons (lexeme : Lexeme) (scan : Scan) :
    (cons lexeme scan).result = scan.result.map (lexeme :: ·) :=
  result_behind [lexeme] scan

theorem Scan.displaced_startingAt (location other : Location) (text : List Char) :
    Displacement.anywhere.Ends (List.Forall₂ (Lexeme.Displaced .anywhere))
      (startingAt location text).result (startingAt other text).result := by
  induction text using text_induction generalizing location other with
  | done text ahead =>
      rw [startingAt_of_drop_eq_nil _ ahead, startingAt_of_drop_eq_nil _ ahead]
      exact .ok .nil
  | misread text first rest misreading ahead read =>
      rw [startingAt_of_drop_eq_cons _ ahead, startingAt_of_drop_eq_cons _ ahead, read]
      exact .error (Fault.Displaced.located _ trivial)
  | lexeme text first rest reading ahead read induction =>
      rw [startingAt_of_drop_eq_cons _ ahead, startingAt_of_drop_eq_cons _ ahead, read]
      dsimp only
      rw [result_cons, result_cons]
      exact (induction _ _).map fun _ _ later => .cons (reading.displaced_place _ _) later

/-! ## Programs -/

/-- The assemblies have the same labels, and images that are the same apart from places. -/
structure Assembly.Displaced (displacement : Displacement) (first second : Assembly) :
    Prop where
  image : first.image.Displaced displacement second.image
  labels : first.labels = second.labels

theorem Target.displaced_resolve (target : Target) {lexemes others : List Lexeme}
    (displaced : List.Forall₂ (Lexeme.Displaced .anywhere) lexemes others) :
    Displacement.anywhere.Ends (Resolution.Displaced .anywhere) (target.resolve lexemes)
      (target.resolve others) := by
  refine (Statement.displaced_group displaced).bind fun _ _ grouped => ?_
  refine (target.library.displaced_refl.expand grouped).bind fun _ _ expanded => ?_
  refine (target.displaced_place expanded).bind fun _ _ placed => ?_
  exact displaced_finish placed

namespace Assembler

theorem displaced_assembleLexemes (assembler : Assembler) (layout : Layout)
    {lexemes others : List Lexeme}
    (displaced : List.Forall₂ (Lexeme.Displaced .anywhere) lexemes others) :
    Displacement.anywhere.Ends (Assembly.Displaced .anywhere)
      (assembler.assembleLexemes layout lexemes) (assembler.assembleLexemes layout others) := by
  refine ((assembler.target layout).displaced_resolve displaced).bind fun _ _ resolved => ?_
  have generated := Image.displaced_generateFrom assembler.set resolved.statements 0
  exact generated.bind fun _ _ image => .ok ⟨image, resolved.labels⟩

/-- The same words are assembled alike, so the name of a file does not matter, and neither do
blanks and comments. -/
theorem places_do_not_matter (assembler : Assembler) (layout : Layout) :
    (∀ lexemes others, List.Forall₂ Lexeme.SameWord lexemes others →
      (∀ lexeme ∈ lexemes, lexeme.args = []) → (∀ lexeme ∈ others, lexeme.args = []) →
      Displacement.anywhere.Ends (Assembly.Displaced .anywhere)
        (assembler.assembleLexemes layout lexemes) (assembler.assembleLexemes layout others)) ∧
    (∀ file other text,
      Displacement.anywhere.Ends (Assembly.Displaced .anywhere)
        (assembler.assemble layout file text) (assembler.assemble layout other text)) ∧
    (∀ file text lexemes file' text' others, Lexeme.scan file text = .ok lexemes →
      Lexeme.scan file' text' = .ok others → List.Forall₂ Lexeme.SameWord lexemes others →
      Displacement.anywhere.Ends (Assembly.Displaced .anywhere)
        (assembler.assemble layout file text) (assembler.assemble layout file' text')) := by
  refine ⟨?_, ?_, ?_⟩
  · intro lexemes others same no_args no_args'
    have displaced := Lexeme.forall₂_displaced_of_sameWord same no_args no_args'
    exact assembler.displaced_assembleLexemes layout displaced
  · intro file other text
    refine (Scan.displaced_startingAt (.start file) (.start other) text.toList).bind ?_
    exact fun _ _ displaced => assembler.displaced_assembleLexemes layout displaced
  · intro file text lexemes file' text' others scanned scanned' same
    have displaced := Lexeme.forall₂_displaced_of_sameWord same
      (fun lexeme member => (Lexeme.scanned_of_scan scanned lexeme member).args)
      (fun lexeme member => (Lexeme.scanned_of_scan scanned' lexeme member).args)
    rw [assemble_eq_assembleLexemes, assemble_eq_assembleLexemes, scanned, scanned']
    exact assembler.displaced_assembleLexemes layout displaced

/-- A set without instructions, and a pseudo-instruction for data. -/
def pairing : InstructionSet :=
  { tables := [], instructions := [], pseudo := [("pair x", "dw x, (x + 1)")] }

/-- A call with blanks and a comment around it. -/
def spacedCall : String := "a:\n\tpair  a // twice"

theorem places_do_not_matter_spacedCall :
    ∃ assembler assembly other, ofSet pairing = .ok assembler ∧
      assembler.assemble .bytes "p" spacedCall = .ok assembly ∧
      assembler.assemble .bytes "q" "a:\npair a" = .ok other ∧
      assembly.image.records.map (·.location) = [⟨"p", 2, 2⟩] ∧
      other.image.records.map (·.location) = [⟨"q", 2, 1⟩] ∧
      assembly.image.bytes = [0, 0, 0, 1] ∧ assembly.Displaced .anywhere other := by
  have spaced : (ofSet pairing >>= fun assembler =>
      (assembler.assemble .bytes "p" spacedCall).map fun assembly =>
        (assembly.image.records.map (·.location), assembly.image.bytes)) =
      .ok ([⟨"p", 2, 2⟩], [0, 0, 0, 1]) := by
    decide +kernel
  have dense : (ofSet pairing >>= fun assembler =>
      (assembler.assemble .bytes "q" "a:\npair a").map fun assembly =>
        assembly.image.records.map (·.location)) = .ok [⟨"q", 2, 1⟩] := by
    decide +kernel
  have words : (Lexeme.scan "p" spacedCall).map (fun lexemes =>
      lexemes.map fun lexeme => (lexeme.kind, lexeme.value, lexeme.radix)) =
      (Lexeme.scan "q" "a:\npair a").map (fun lexemes =>
        lexemes.map fun lexeme => (lexeme.kind, lexeme.value, lexeme.radix)) := by
    decide +kernel
  obtain ⟨assembler, compiled, spaced⟩ := Success.bind_eq_ok.mp spaced
  obtain ⟨assembly, assembled, observed⟩ := Success.map_eq_ok.mp spaced
  obtain ⟨places, bytes⟩ := Prod.mk.inj observed
  obtain ⟨again, compiled_again, dense⟩ := Success.bind_eq_ok.mp dense
  obtain rfl := Except.ok.inj (compiled.symm.trans compiled_again)
  obtain ⟨other, other_assembled, other_places⟩ := Success.map_eq_ok.mp dense
  refine ⟨assembler, assembly, other, compiled, assembled, other_assembled, places, other_places,
    bytes, ?_⟩
  obtain ⟨lexemes, scanned, -⟩ := Success.bind_eq_ok.mp assembled
  obtain ⟨others, others_scanned, -⟩ := Success.bind_eq_ok.mp other_assembled
  have same : List.Forall₂ Lexeme.SameWord lexemes others := by
    rw [scanned, others_scanned, Except.map, Except.map, Except.ok.injEq,
      ← List.forall₂_eq_eq_eq, List.forall₂_map_left_iff, List.forall₂_map_right_iff] at words
    refine words.imp fun first second word => ?_
    obtain ⟨kind, value, radix⟩ : _ ∧ _ ∧ _ := by simpa only [Prod.mk.injEq] using word
    exact ⟨kind, value, radix⟩
  have alike := (places_do_not_matter assembler .bytes).2.2 "p" spacedCall lexemes "q" _ others
    scanned others_scanned same
  rw [assembled, other_assembled] at alike
  cases alike with
  | ok displaced => exact displaced

end Assembler
end TableAssembler
