/-
# The hash that a run prints

The hash of a written pipeline does not depend on its indentation, whatever its tree, for neither do
the solid lines that are read back (`contentHash_render_eq`).  So the hash that a run prints, which
it takes from a writing of its own, is that of the text that it has written; and when it inserts
nothing, that is the hash of the document (`contentHash_render_parse`).
-/
import Jenkinsfile.Canonical
import Jenkinsfile.Proofs.Layout
import Jenkinsfile.Proofs.RoundTrip
import Jenkinsfile.Proofs.RunOutcome

namespace Jenkinsfile

/-! ## 1. The hash of a written pipeline -/

/-- The hash is one of the tree that is read. -/
theorem contentHash_eq_of_pipeline_eq {t t' : Text} (h : (parse t).pipeline = (parse t').pipeline) :
    contentHash t = contentHash t' := by
  unfold contentHash normalize
  rw [h]

section Render

variable {i j : Text}

/-- Writings of one pipeline differ in layout only. -/
theorem sameButLayout_render (p : Pipeline) (hi : Text.Blank i) (hj : Text.Blank j) :
    SameButLayout (render p i) (render p j) := by
  apply SameButLayout.of_solidLines_eq
  rw [solidLines_render p hi, solidLines_render p hj]

/-- **Writings of one pipeline have one hash.** -/
theorem contentHash_render_eq (p : Pipeline) (hi : Text.Blank i) (hj : Text.Blank j) :
    contentHash (render p i) = contentHash (render p j) :=
  contentHash_eq_of_pipeline_eq (pipeline_parse_eq (sameButLayout_render p hi hj))

/-- The tree of a document, when it is written, has the hash of the document. -/
theorem contentHash_render_parse (t : Text) (hi : Text.Blank i) :
    contentHash (render (parse t).pipeline i) = contentHash t :=
  contentHash_eq_of_pipeline_eq (parse_render (canonical_parse t) hi)

end Render

theorem blank_defaultIndent : Text.Blank defaultIndent := by decide

/-- Spaces are blank, however many there are. -/
theorem Text.blank_replicate_space (n : Nat) : Text.Blank (Text.replicate n [' ']) :=
  Text.blank_replicate (by decide) n

namespace Command

/-! ## 2. The hash of a run -/

/-- A run prints this hash: after the text that it has made or, where a file is named for that,
alone, with the text in the file. -/
structure PrintsHash (o : Options) (p : Pipeline) (hash : Text) (w : Workspace)
    (r : Outcome × Workspace) : Prop where
  stdout : r.1.stdout = (if (given? o.out).isSome then [] else product o p) ++ (hash ++ ['\n'])
  file : ∀ path, given? o.out = some path → ∀ place, w.resolve path = .ok (.file place) →
    r.2.file? place = some (Utf8.encode (product o p))

section Hash

variable {w after : Workspace} {stdin : List UInt8} {o : Options} {t : Text} {p : Pipeline}

theorem printed_eq (hhash : o.printHash = true) :
    printed o p = (if (given? o.out).isSome then [] else product o p) ++
      (contentHash (render p defaultIndent) ++ ['\n']) := by
  rw [printed, if_pos hhash]

/-- The output is written last, and so it stays. -/
theorem file?_product {path : Text} (h : w.WritesAll (plannedWrites o p) (.ok ()) after)
    (hout : given? o.out = some path) {place : Place} (hplace : w.resolve path = .ok (.file place)) :
    after.file? place = some (Utf8.encode (product o p)) := by
  unfold plannedWrites at h
  rw [hout] at h
  exact h.file?_last hplace

/-- What a run makes that writes the whole file has the hash that it prints. -/
theorem contentHash_product (h : o.render = true ∨ o.insertStage.isSome = true) :
    contentHash (product o p) = contentHash (render p defaultIndent) := by
  have hwhole : (o.render || o.insertStage.isSome) = true := by
    rw [Bool.or_eq_true]
    exact h
  rw [product, if_pos hwhole]
  exact contentHash_render_eq p (Text.blank_replicate_space _) blank_defaultIndent

end Hash

/-- **The hash belongs to the document, not to its indentation.**  Writings of one pipeline, whatever
its tree, are read alike and have one hash.  So a run that writes the whole file prints the hash of
what it has written, whatever its indentation and its new stage; and one that inserts nothing prints
the hash of its document. -/
theorem contentHash_render_and_printed :
    (∀ (p : Pipeline) (i j : Text), Text.Blank i → Text.Blank j →
      (parse (render p i)).pipeline = (parse (render p j)).pipeline ∧
        contentHash (render p i) = contentHash (render p j)) ∧
    ∀ (w : Workspace) (stdin : List UInt8) (arguments : List Text) (o : Options),
      Request.ofArguments arguments = .ok (.run o) → o.printHash = true →
      (runIn w stdin arguments).1.exit = 0 →
      ∃ t p hash, Prepared w stdin o t p ∧ PrintsHash o p hash w (runIn w stdin arguments) ∧
        (o.render = true ∨ o.insertStage.isSome = true → hash = contentHash (product o p)) ∧
        (o.insertStage = none → hash = contentHash t) := by
  constructor
  · intro p i j hi hj
    exact ⟨pipeline_parse_eq (sameButLayout_render p hi hj), contentHash_render_eq p hi hj⟩
  · intro w stdin arguments o hrequest hhash hexit
    obtain ⟨t, p, hp, hwrites, hstdout⟩ := done_of_exit_eq_zero hrequest hexit
    refine ⟨t, p, contentHash (render p defaultIndent), hp, ⟨?_, ?_⟩, ?_, ?_⟩
    · rw [hstdout, printed_eq hhash]
    · intro path hout place hplace
      exact file?_product hwrites hout hplace
    · intro hwhole
      exact (contentHash_product hwhole).symm
    · intro hnone
      rw [hp.eq_parse hnone]
      exact contentHash_render_parse t blank_defaultIndent

/-- A leaf with a line break and blanks in its name, and in it a block that is headed by the start
of a script and a carriage return. -/
def oddNames : Pipeline :=
  ⟨[⟨.statement, " steps \x7b\nmake\t".toList, [], Role.stage, [.block "sh '''\r".toList []]⟩]⟩

/-- A document with a place for stages. -/
def noStages : Text := "pipeline \x7b\nstages \x7b\n\x7d\n\x7d".toList

/-- Asks for a new stage with a name of two lines, one of which begins with a brace, and for the
hash. -/
def oddStageArguments : List Text :=
  ["--insert-stage=A\n\x7d".toList, "--step=make".toList, "--index=0".toList, "--indent=1".toList,
    "--print-hash".toList]

/-- What is asked for. -/
def oddStageOptions : Options :=
  { insertStage := some "A\n\x7d".toList, steps := ["make".toList], index := some (.int 0),
    indent := 1, printHash := true }

/-- The document with this stage. -/
def withOddStage : Text :=
  "pipeline \x7b\n stages \x7b\n  stage('A\n\x7d') \x7b\n   steps \x7b\n    make\n".toList
    ++ "   \x7d\n  \x7d\n \x7d\n\x7d\n".toList

/-- Such names do not make the hash depend on the indentation; and a run that inserts such a stage
ends well, and prints the text that it has made and the hash of this text. -/
theorem contentHash_oddNames_and_withOddStage :
    contentHash (render oddNames []) = contentHash (render oddNames ['\n', '\t']) ∧
    (runIn .empty (Utf8.encode noStages) oddStageArguments).1.exit = 0 ∧
    (runIn .empty (Utf8.encode noStages) oddStageArguments).1.stdout
      = withOddStage ++ (contentHash withOddStage ++ ['\n']) := by
  obtain ⟨hwritings, hruns⟩ := contentHash_render_and_printed
  have hexit : (runIn .empty (Utf8.encode noStages) oddStageArguments).1.exit = 0 := rfl
  obtain ⟨t, p, hash, hp, hprints, hwhole, -⟩ :=
    hruns .empty (Utf8.encode noStages) oddStageArguments oddStageOptions rfl rfl hexit
  obtain rfl : noStages = t := Except.ok.inj hp.document
  obtain ⟨parsed, notices, hparse, hedit⟩ := hp.edited
  obtain rfl : parse noStages = parsed := Except.ok.inj hparse
  have hmade : (edited oddStageOptions (parse noStages).pipeline).toOption.map
      (product oddStageOptions ·.1) = some withOddStage := by decide +kernel
  rw [hedit] at hmade
  have hproduct : product oddStageOptions p = withOddStage := Option.some.inj hmade
  have hstdout := hprints.stdout
  have hnoFile : (given? oddStageOptions.out).isSome = false := rfl
  rw [hnoFile, if_neg Bool.false_ne_true, hproduct, hwhole (Or.inr rfl), hproduct] at hstdout
  exact ⟨(hwritings oddNames [] ['\n', '\t'] (by decide) (by decide)).2, hexit, hstdout⟩

end Command

end Jenkinsfile
