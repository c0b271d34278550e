/-
# How a run ends

A run in a workspace reads its document, makes its pipeline of it (`Prepared`) and then writes the
export and the output to their files, where files are named for them (`plannedWrites`).  Nothing is
left that could go wrong in between: the pipeline of a document, and one with a new stage, is its own
restored form, and so its export passes the check (`conclude_eq`).  `Ends` lists the ways in which a
run can end; every run ends in one of them (`ends_runIn`).
-/
import Jenkinsfile.Command.Run
import Jenkinsfile.Proofs.TreeExport
import Jenkinsfile.Proofs.WorkspaceWrites

namespace Jenkinsfile.Command

variable {w : Workspace} {stdin : List UInt8} {o : Options}

/-! ## 1. Reading and writing in a workspace -/

/-- The text of the document that a run in a workspace reads. -/
def documentIn (w : Workspace) (stdin : List UInt8) (o : Options) : Except Fault Text :=
  match (given? o.path).filter (· ≠ ['-']) with
  | none => Files.documentText stdin
  | some path =>
    match w.read path with
    | .ok bytes => Files.documentText bytes
    | .error fault => .error (.file fault)

/-- Reading changes nothing. -/
theorem run_document (w : Workspace) (stdin : List UInt8) (o : Options) :
    ((workspaceFiles stdin).document o).run w = pure (documentIn w stdin o, w) := by
  unfold Files.document documentIn
  cases (given? o.path).filter (· ≠ ['-']) with
  | none => rfl
  | some path =>
    dsimp only [workspaceFiles]
    simp only [StateT.run_bind, StateT.run_get, pure_bind]
    cases w.read path <;> rfl

/-- The writes of a run happen one after the other. -/
theorem writesAll_run (w : Workspace) (stdin : List UInt8) (writes : List (Text × Text)) :
    w.WritesAll writes (((workspaceFiles stdin).writeAll writes).run w).1
      (((workspaceFiles stdin).writeAll writes).run w).2 := by
  induction writes generalizing w with
  | nil => exact .nil w
  | cons x writes ih =>
    obtain ⟨path, t⟩ := x
    cases hwrite : w.write path (Utf8.encode t) with
    | error fault =>
      have hrun : ((workspaceFiles stdin).writeAll ((path, t) :: writes)).run w
          = pure (.error fault, w) := by
        simp [Files.writeAll, workspaceFiles, hwrite]
      rw [hrun]
      exact .fails hwrite
    | ok w' =>
      have hrun : ((workspaceFiles stdin).writeAll ((path, t) :: writes)).run w
          = ((workspaceFiles stdin).writeAll writes).run w' := by
        simp [Files.writeAll, workspaceFiles, hwrite]
      rw [hrun]
      exact .cons hwrite (ih w')

/-! ## 2. The pipeline of a run -/

/-- A run reads this text, and this is the pipeline that it makes of it. -/
structure Prepared (w : Workspace) (stdin : List UInt8) (o : Options) (t : Text) (p : Pipeline) :
    Prop where
  document : documentIn w stdin o = .ok t
  edited : ∃ parsed notices, parseAs o.strict t = .ok parsed ∧
    edited o parsed.pipeline = .ok (p, notices)

/-- What keeps a run from getting to its pipeline. -/
inductive Stops (w : Workspace) (stdin : List UInt8) (o : Options) : Fault → Prop
  | unread {fault : Fault} (h : documentIn w stdin o = .error fault) : Stops w stdin o fault
  | unparsed {t : Text} {e : ParseError} (h : documentIn w stdin o = .ok t)
      (hparse : parseAs o.strict t = .error e) : Stops w stdin o (.parse e)
  | unedited {t : Text} {parsed : Parsed} {fault : Fault} (h : documentIn w stdin o = .ok t)
      (hparse : parseAs o.strict t = .ok parsed) (hedit : edited o parsed.pipeline = .error fault) :
      Stops w stdin o fault

/-- A new stage keeps a pipeline its own restored form. -/
theorem restored_edited {p q : Pipeline} {notices : List Notice} (hp : p.restored = p)
    (h : edited o p = .ok (q, notices)) : q.restored = q := by
  unfold edited at h
  split at h
  · obtain ⟨rfl, -⟩ := Prod.mk.inj (Except.ok.inj h)
    exact hp
  · obtain ⟨index, -, h⟩ := bind_eq_ok_iff.mp h
    split at h
    · rename_i insertion hinsertion
      obtain ⟨rfl, -⟩ := Prod.mk.inj (Except.ok.inj h)
      exact Pipeline.restored_insertStage hp hinsertion
    · exact absurd h (by simp)

theorem Prepared.restored {t : Text} {p : Pipeline} (h : Prepared w stdin o t p) :
    p.restored = p := by
  obtain ⟨parsed, notices, hparse, hedit⟩ := h.edited
  refine restored_edited ?_ hedit
  rw [pipeline_of_parseAs hparse]
  exact restored_parse t

/-- The pipeline of a run that inserts nothing is that of its document. -/
theorem Prepared.eq_parse {t : Text} {p : Pipeline} (h : Prepared w stdin o t p)
    (hnone : o.insertStage = none) : p = (parse t).pipeline := by
  obtain ⟨parsed, notices, hparse, hedit⟩ := h.edited
  unfold Command.edited at hedit
  rw [hnone] at hedit
  obtain ⟨rfl, -⟩ := Prod.mk.inj (Except.ok.inj hedit)
  exact pipeline_of_parseAs hparse

/-! ## 3. What a run writes -/

/-- The files that a run writes: the export, and then the output. -/
def plannedWrites (o : Options) (p : Pipeline) : List (Text × Text) :=
  (given? o.emitJson).toList.map (·, p.toJson.pretty) ++ (given? o.out).toList.map (·, product o p)

/-- What a run prints that did what it was asked to. -/
def printed (o : Options) (p : Pipeline) : Text :=
  (if (given? o.out).isSome then [] else product o p) ++
    if o.printHash then contentHash (render p defaultIndent) ++ ['\n'] else []

/-- **Nothing can go wrong with a pipeline that is its own restored form.** -/
theorem conclude_eq {p : Pipeline} (hp : p.restored = p) :
    ∃ closing, conclude o p = .ok ⟨plannedWrites o p, printed o p, closing⟩ := by
  have hexported : exported p = .ok p.toJson.pretty := by
    have htree := p.isTree_toJson_restored
    rw [hp] at htree
    unfold exported
    rw [Tree.checkTree_eq_ok_iff.mpr htree]
  have hexports : exportWrites o p
      = .ok ((given? o.emitJson).toList.map (·, p.toJson.pretty)) := by
    unfold exportWrites
    cases given? o.emitJson with
    | none => rfl
    | some path => simp [hexported, bind, Except.bind, pure, Except.pure]
  refine ⟨if o.printHash then (parse (render p defaultIndent)).notices else [], ?_⟩
  unfold conclude plannedWrites printed
  rw [hexports]
  cases given? o.out with
  | none => simp [bind, Except.bind, pure, Except.pure]
  | some path => simp [bind, Except.bind, pure, Except.pure]

/-! ## 4. The ways to end -/

namespace Outcome

@[simp] theorem exit_refused (e : UsageError) : (refused e).exit = 2 := rfl

@[simp] theorem exit_help : help.exit = 0 := rfl

@[simp] theorem exit_failed (o : Options) (notices : List Notice) (fault : Fault) :
    (failed o notices fault).exit = 1 := rfl

@[simp] theorem exit_done (o : Options) (notices : List Notice) (output : Text) :
    (done o notices output).exit = 0 := rfl

end Outcome

/-- The ways in which a run in a workspace ends: with what outcome, and in what workspace. -/
inductive Ends (w : Workspace) (stdin : List UInt8) (arguments : List Text) :
    Outcome → Workspace → Prop
  | refused {e : UsageError} (h : Request.ofArguments arguments = .error e) :
      Ends w stdin arguments (.refused e) w
  | help (h : Request.ofArguments arguments = .ok .help) : Ends w stdin arguments .help w
  | stopped {o : Options} {fault : Fault} (h : Request.ofArguments arguments = .ok (.run o))
      (hstops : Stops w stdin o fault) (notices : List Notice) :
      Ends w stdin arguments (.failed o notices fault) w
  | unwritten {o : Options} {t : Text} {p : Pipeline} {f : FileFault} {after : Workspace}
      (h : Request.ofArguments arguments = .ok (.run o)) (hp : Prepared w stdin o t p)
      (hwrites : w.WritesAll (plannedWrites o p) (.error f) after) (notices : List Notice) :
      Ends w stdin arguments (.failed o notices (.file f)) after
  | done {o : Options} {t : Text} {p : Pipeline} {after : Workspace}
      (h : Request.ofArguments arguments = .ok (.run o)) (hp : Prepared w stdin o t p)
      (hwrites : w.WritesAll (plannedWrites o p) (.ok ()) after) (notices : List Notice) :
      Ends w stdin arguments (.done o notices (printed o p)) after

/-- **Every run ends in one of these ways.** -/
theorem ends_runIn (w : Workspace) (stdin : List UInt8) (arguments : List Text) :
    Ends w stdin arguments (runIn w stdin arguments).1 (runIn w stdin arguments).2 := by
  -- one case for each thing that can go wrong, in the order in which a run meets them
  unfold runIn run
  cases hrequest : Request.ofArguments arguments with
  | error e => exact .refused hrequest
  | ok request =>
    cases request with
    | help => exact .help hrequest
    | run o =>
      dsimp only
      unfold runWith
      rw [StateT.run_bind, run_document, pure_bind]
      cases hread : documentIn w stdin o with
      | error fault => exact .stopped hrequest (.unread hread) []
      | ok t =>
        simp only [respond]
        cases hparse : parseAs o.strict t with
        | error e => exact .stopped hrequest (.unparsed hread hparse) []
        | ok parsed =>
          dsimp only
          cases hedit : edited o parsed.pipeline with
          | error fault =>
            exact .stopped hrequest (.unedited hread hparse hedit) parsed.notices
          | ok q =>
            obtain ⟨p, notices⟩ := q
            have hp : Prepared w stdin o t p := ⟨hread, parsed, notices, hparse, hedit⟩
            obtain ⟨closing, hconclude⟩ := conclude_eq (o := o) hp.restored
            simp only [hconclude, StateT.run_bind]
            have hwrites := writesAll_run w stdin (plannedWrites o p)
            cases hrun : ((workspaceFiles stdin).writeAll (plannedWrites o p)).run w with
            | mk result after =>
              rw [hrun] at hwrites
              cases result with
              | error f => exact .unwritten hrequest hp hwrites (parsed.notices ++ notices)
              | ok => exact .done hrequest hp hwrites (parsed.notices ++ notices ++ closing)

/-- A run that ends well has made all its writes. -/
theorem done_of_exit_eq_zero {arguments : List Text}
    (hrequest : Request.ofArguments arguments = .ok (.run o))
    (hexit : (runIn w stdin arguments).1.exit = 0) :
    ∃ t p, Prepared w stdin o t p ∧
      w.WritesAll (plannedWrites o p) (.ok ()) (runIn w stdin arguments).2 ∧
      (runIn w stdin arguments).1.stdout = printed o p := by
  have hends := ends_runIn w stdin arguments
  generalize (runIn w stdin arguments).1 = outcome at hends hexit ⊢
  generalize (runIn w stdin arguments).2 = after at hends ⊢
  cases hends with
  | refused h => simp at hexit
  | help h => exact absurd (h.symm.trans hrequest) (by simp)
  | stopped h hstops notices => simp at hexit
  | unwritten h hp hwrites notices => simp at hexit
  | done h hp hwrites notices =>
    obtain rfl := Request.run.inj (Except.ok.inj (h.symm.trans hrequest))
    exact ⟨_, _, hp, hwrites, rfl⟩

end Jenkinsfile.Command
