import RoutineAtlas.Proofs.Scan

/-!
# Sessions

A session is a workspace together with the submissions that have been made of its files, each with
the analyses that came of it. A `Step` is one call from outside, run to its end; steps on different
submissions may come in any order, and a submission may be analysed and committed again and again.

What may be committed is left open: `Obeys` restricts a run to commits that follow a rule, such as
`Submission.Last`, the last analysis only, or `Submission.Own`, any analysis of that submission.

## Main definitions

* `Step`, `Session.step`, `Session.run` — the calls and what they do.
* `Session.Effect`, `Session.effect_step` — all that a step can do to a session.
* `Session.Obeys` — the runs whose commits follow a rule.
* `Session.run_invariant` — what permitted steps keep holds after every permitted run.
-/

namespace RoutineAtlas

/-- A submitted version of a file, with the analyses made of it, the latest first. -/
structure Submission where
  ticket : Ticket
  analyses : List Analysis
deriving DecidableEq, Repr

namespace Submission

/-- Analyse a text for the submission. -/
def analyze (sub : Submission) (w : Workspace) (text : Text) (withChecks : Bool) : Submission :=
  let result := w.analyze sub.ticket text withChecks
  ⟨result.1, result.2 :: sub.analyses⟩

/-- The analysis is the last one made for the submission. -/
def Last (sub : Submission) (a : Analysis) : Prop :=
  sub.analyses.head? = some a

/-- The analysis was made for the submission. -/
def Own (sub : Submission) (a : Analysis) : Prop :=
  a ∈ sub.analyses

theorem Last.own {sub : Submission} {a : Analysis} (h : sub.Last a) : sub.Own a :=
  List.mem_of_head? h

end Submission

/-- A call from outside. Submissions are numbered in the order in which they were made. -/
inductive Step where
  | submit (p : Path)
  | analyze (number : Nat) (text : Text) (withChecks : Bool)
  | commit (number : Nat) (a : Analysis)
  | index (p : Path) (text : Text) (withChecks : Bool)
  | preview (p : Path) (text : Text) (withChecks : Bool)
  | remove (p : Path)
  | scan (disk : Disk) (roots : List Path) (incremental : Bool)
deriving DecidableEq, Repr

/-- A workspace in use. -/
structure Session where
  workspace : Workspace
  submissions : List Submission
  /-- Of every file, whether the analysis committed last was made with checks. -/
  withChecks : PathMap Bool
deriving DecidableEq, Repr

namespace Session

/-- A session at its beginning. -/
def start (patterns : List Text) : Session :=
  ⟨.empty patterns, [], []⟩

/-- Take over what became of a commit, made with checks or not. -/
def withOutcome (s : Session) (withChecks : Bool) (result : Outcome × Workspace) : Session :=
  match result.1 with
  | .committed e =>
    { s with workspace := result.2, withChecks := s.withChecks.insert e.path withChecks }
  | .superseded _ => { s with workspace := result.2 }

@[simp] theorem workspace_withOutcome (s : Session) (withChecks : Bool)
    (result : Outcome × Workspace) : (s.withOutcome withChecks result).workspace = result.2 := by
  unfold withOutcome; split <;> rfl

@[simp] theorem submissions_withOutcome (s : Session) (withChecks : Bool)
    (result : Outcome × Workspace) :
    (s.withOutcome withChecks result).submissions = s.submissions := by
  unfold withOutcome; split <;> rfl

/-- Do one step. One that names no submission, or that fails, does nothing. -/
def step (s : Session) : Step → Session
  | .submit p =>
    { s with
      workspace := (s.workspace.submit p).2
      submissions := s.submissions ++ [⟨(s.workspace.submit p).1, []⟩] }
  | .analyze i text withChecks =>
    match s.submissions[i]? with
    | some sub =>
      { s with submissions := s.submissions.set i (sub.analyze s.workspace text withChecks) }
    | none => s
  | .commit i a =>
    match s.submissions[i]? with
    | some sub =>
      s.withOutcome sub.ticket.checkedAgainst.isSome (s.workspace.commit sub.ticket a)
    | none => s
  | .index p text withChecks => s.withOutcome withChecks (s.workspace.indexFile p text withChecks)
  | .preview _ _ _ => s
  | .remove p => { s with workspace := (s.workspace.removeFile p).2 }
  | .scan disk roots incremental =>
    match s.workspace.scan disk roots incremental with
    | (.ok summary, w) =>
      { s with
        workspace := w
        withChecks := summary.indexed.foldl (fun m p => m.insert p true) s.withChecks }
    | (.error _, w) => { s with workspace := w }

/-- The paths of which a step submits a new version. A scan visits the files that it indexes and
those that it cannot read. -/
def submitted (s : Session) : Step → List Path
  | .submit p => [p]
  | .analyze _ _ _ => []
  | .commit _ _ => []
  | .index p _ _ => [p]
  | .preview _ _ _ => []
  | .remove p => [p]
  | .scan disk roots incremental =>
    match (s.workspace.scan disk roots incremental).1 with
    | .ok summary => summary.indexed ++ summary.failed.map FailedFile.path
    | .error _ => []

/-- Do steps one after the other. -/
def run (s : Session) (steps : List Step) : Session :=
  steps.foldl step s

@[simp] theorem run_nil (s : Session) : s.run [] = s := rfl

@[simp] theorem run_cons (s : Session) (step : Step) (rest : List Step) :
    s.run (step :: rest) = (s.step step).run rest := rfl

/-! ## What a step can do -/

/-- The effects of steps. Every invariant is proved by going through them. -/
inductive Effect (s : Session) : Step → Session → Prop
  /-- The step changes nothing: it only looks, names no submission, comes too late or fails. -/
  | idle {step : Step} (hnone : s.submitted step = []) : s.Effect step s
  | submit (p : Path) : s.Effect (.submit p)
      { s with
        workspace := (s.workspace.submit p).2
        submissions := s.submissions ++ [⟨(s.workspace.submit p).1, []⟩] }
  | analyze {i : Nat} {sub : Submission} (hsub : s.submissions[i]? = some sub) (text : Text)
      (withChecks : Bool) : s.Effect (.analyze i text withChecks)
      { s with submissions := s.submissions.set i (sub.analyze s.workspace text withChecks) }
  | commit {i : Nat} {sub : Submission} (hsub : s.submissions[i]? = some sub) (a : Analysis)
      (hcurrent : s.workspace.isCurrent sub.ticket = true) : s.Effect (.commit i a)
      { s with
        workspace := s.workspace.store sub.ticket (s.workspace.upToDate sub.ticket a)
        withChecks :=
          s.withChecks.insert sub.ticket.path sub.ticket.checkedAgainst.isSome }
  | index (p : Path) (text : Text) (withChecks : Bool) : s.Effect (.index p text withChecks)
      { s with
        workspace := (s.workspace.submit p).2.store (s.workspace.directTicket p withChecks)
          (s.workspace.preview p text withChecks)
        withChecks := s.withChecks.insert p withChecks }
  | remove (p : Path) : s.Effect (.remove p)
      { s with workspace := (s.workspace.removeFile p).2 }
  | scan {disk : Disk} {roots paths : List Path} {incremental : Bool}
      {result : ScanSummary × Workspace}
      (hok : s.workspace.scan disk roots incremental = (.ok result.1, result.2))
      (hresult : result = (s.workspace.runStart incremental).indexPaths disk paths incremental) :
      s.Effect (.scan disk roots incremental)
      { s with
        workspace := result.2
        withChecks := result.1.indexed.foldl (fun m p => m.insert p true) s.withChecks }

theorem effect_step (s : Session) (step : Step) : s.Effect step (s.step step) := by
  cases step with
  | submit p => exact .submit p
  | analyze i text withChecks =>
    simp only [Session.step]
    split
    · rename_i sub hsub
      exact .analyze hsub text withChecks
    · exact .idle rfl
  | commit i a =>
    simp only [Session.step]
    split
    · rename_i sub hsub
      rw [Workspace.commit_eq]
      split
      · rename_i hcurrent
        exact .commit hsub a hcurrent
      · exact .idle rfl
    · exact .idle rfl
  | index p text withChecks =>
    simp only [Session.step]
    rw [Workspace.indexFile_eq]
    exact .index p text withChecks
  | preview p text withChecks => exact .idle rfl
  | remove p => exact .remove p
  | scan disk roots incremental =>
    rcases hscan : s.workspace.scan disk roots incremental with ⟨e | summary, w⟩
    · obtain ⟨rfl, -⟩ := Workspace.scan_eq_error _ _ hscan
      simp only [Session.step, hscan]
      exact .idle (by simp only [submitted, hscan])
    · obtain ⟨-, globs, -, hresult⟩ := Workspace.scan_eq_ok _ _ hscan
      simp only [Session.step, hscan]
      exact .scan hscan hresult

/-- Only submitting and analysing touch the submissions. -/
theorem Effect.mem_submissions {s s' : Session} {step : Step} (h : s.Effect step s')
    {sub : Submission} (hsub : sub ∈ s'.submissions) :
    sub ∈ s.submissions ∨
      (∃ p, step = .submit p ∧ sub = ⟨(s.workspace.submit p).1, []⟩) ∨
      ∃ text withChecks, ∃ old ∈ s.submissions,
        sub = old.analyze s.workspace text withChecks := by
  cases h with
  | submit p =>
    rcases List.mem_append.1 hsub with hold | hnew
    · exact .inl hold
    · exact .inr (.inl ⟨p, rfl, List.mem_singleton.1 hnew⟩)
  | analyze hold text withChecks =>
    rcases List.mem_or_eq_of_mem_set hsub with hsub | hsub
    · exact .inl hsub
    · exact .inr (.inr ⟨text, withChecks, _, List.mem_of_getElem? hold, hsub⟩)
  | idle | commit | index | remove | scan => exact .inl hsub

/-! ## Rules on commits -/

section Rule

variable (rule : Submission → Analysis → Prop)

/-- If the step commits an analysis of a submission, then the rule allows it. -/
def Permits (s : Session) : Step → Prop
  | .commit i a => ∀ sub, s.submissions[i]? = some sub → rule sub a
  | _ => True

/-- All commits of a run are allowed at the time they are made. -/
def Obeys (s : Session) : List Step → Prop
  | [] => True
  | step :: rest => s.Permits rule step ∧ (s.step step).Obeys rest

variable {rule}

theorem Obeys.mono {rule' : Submission → Analysis → Prop}
    (hrule : ∀ sub a, rule sub a → rule' sub a) {s : Session} {steps : List Step}
    (h : s.Obeys rule steps) : s.Obeys rule' steps := by
  induction steps generalizing s with
  | nil => trivial
  | cons step rest ih =>
    refine ⟨?_, ih h.2⟩
    cases step with
    | commit i a => exact fun sub hsub => hrule sub a (h.1 sub hsub)
    | submit | analyze | index | preview | remove | scan => trivial

variable {I : Session → Prop}

/-- What every permitted step keeps, every permitted run keeps. -/
theorem run_invariant
    (hstep : ∀ {s s' step}, I s → s.Effect step s' → s.Permits rule step → I s')
    {s : Session} (h : I s) {steps : List Step} (hsteps : s.Obeys rule steps) :
    I (s.run steps) := by
  induction steps generalizing s with
  | nil => exact h
  | cons step rest ih => exact ih (hstep h (s.effect_step step) hsteps.1) hsteps.2

/-- What every step keeps, every run keeps. -/
theorem run_keeps (hstep : ∀ {s s' step}, I s → s.Effect step s' → I s') {s : Session} (h : I s)
    (steps : List Step) : I (s.run steps) := by
  induction steps generalizing s with
  | nil => exact h
  | cons step rest ih => exact ih (hstep h (s.effect_step step))

end Rule

/-! ## Soundness -/

theorem Effect.sound {s s' : Session} {step : Step} (h : s.Effect step s')
    (hs : s.workspace.Sound) : s'.workspace.Sound := by
  cases h with
  | idle => exact hs
  | submit p => exact hs.submit p
  | analyze => exact hs
  | commit hsub a => exact hs.store _ _
  | index p => exact (hs.submit p).store _ _
  | remove p => exact hs.removeFile p
  | scan hok hresult =>
    rw [hresult]
    exact (hs.runStart _).indexPaths _ _ _

/-- Every workspace of a session is sound, whatever has been committed. -/
theorem sound_run (patterns : List Text) (steps : List Step) :
    ((start patterns).run steps).workspace.Sound :=
  run_keeps (I := fun s => s.workspace.Sound) (fun h heffect => heffect.sound h)
    (Workspace.sound_empty patterns) steps

end Session

end RoutineAtlas
