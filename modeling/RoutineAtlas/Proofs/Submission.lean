import RoutineAtlas.Proofs.Session

/-!
# The last submission wins

Versions of a file are numbered when they are submitted, and analysed and committed later, in any
order. A commit is accepted only for the number that was given last, so a slow analysis of an old
version never overwrites a newer one, and a file that has been removed does not come back. What is
accepted is what the file is from then on.

Everything here follows from one count: the number of a file is the number of times it has been
submitted, by whatever step (`versionOf_run`). What a session commits is not restricted.

## Main definitions

* `Session.submittedAlong` — the paths that a run submits.
* `Session.Issued` — the path and the number of a submission, which never change.
* `Session.Effect.stored` — where the version of a stored file comes from.
* `Session.last_submission_wins` — the outcome of a commit, and the versions of stored files.
-/

namespace RoutineAtlas

namespace Workspace

variable {w : Workspace} {p : Path} {e : FileEntry}

theorem isCurrent_eq_false {t : Ticket} (h : t.version < w.versionOf t.path) :
    w.isCurrent t = false := by
  by_contra hcurrent
  rw [Bool.not_eq_false] at hcurrent
  have hversion := w.version_of_isCurrent t hcurrent
  omega

theorem committed_iff {t : Ticket} {a : Analysis} :
    (∃ e, (w.commit t a).1 = .committed e) ↔ w.isCurrent t = true := by
  rw [commit_eq]
  split <;> simp_all

/-- The entry that a commit answers with is what the file is from then on. -/
theorem file?_of_committed {t : Ticket} {a : Analysis} (h : (w.commit t a).1 = .committed e) :
    e = ⟨t.path, t.version, w.upToDate t a⟩ ∧
      ∀ q, t.path.same q = true → (w.commit t a).2.file? q = some e := by
  have hcurrent : w.isCurrent t = true := committed_iff.1 ⟨e, h⟩
  have he : e = ⟨t.path, t.version, w.upToDate t a⟩ := by
    rw [commit_eq, if_pos hcurrent] at h
    exact (Outcome.committed.inj h).symm
  refine ⟨he, ?_⟩
  intro q hq
  rw [he]
  exact file?_commit w q t a hcurrent hq

/-- After an accepted commit a file has the version of the ticket, or the one that it had. -/
theorem Sound.version_store (h : w.Sound) {t : Ticket} {a : Analysis}
    (he : (w.store t a).file? p = some e) :
    (t.path.same p = true ∧ e.version = t.version) ∨
      ∃ old, w.file? p = some old ∧ e.version = old.version := by
  rw [h.file?_store] at he
  split at he
  · rename_i hp
    obtain rfl := Option.some.inj he
    exact .inl ⟨hp, rfl⟩
  · obtain ⟨old, hold, rfl⟩ := Option.map_eq_some_iff.1 he
    exact .inr ⟨old, hold, FileEntry.version_rechecked _ _ _⟩

theorem version_removeFile {q : Path} (he : (w.removeFile q).2.file? p = some e) :
    ∃ old, w.file? p = some old ∧ e.version = old.version := by
  rw [file?_removeFile] at he
  split at he
  · cases he
  · obtain ⟨old, hold, rfl⟩ := Option.map_eq_some_iff.1 he
    exact ⟨old, hold, FileEntry.version_rechecked _ _ _⟩

/-- After a run a file has a version that the run has submitted, or the one that it had. -/
theorem Sound.version_indexPaths (h : w.Sound) {disk : Disk} {paths : List Path}
    {incremental : Bool} (he : (w.indexPaths disk paths incremental).2.file? p = some e) :
    (w.versionOf p < e.version ∧
        e.version ≤ (w.indexPaths disk paths incremental).2.versionOf p) ∨
      ∃ old, w.file? p = some old ∧ e.version = old.version := by
  rw [file?_indexPaths _ _ _ _ _ h] at he
  cases hlast : lastRead p (readAll disk w paths).1 with
  | some x =>
    rw [hlast] at he
    obtain rfl := Option.some.inj he
    obtain ⟨hmem, hsame⟩ := of_lastRead p hlast
    have hread := readFrom_of_mem w disk paths hmem
    left
    rw [versionOf_indexPaths, ← versionOf_congr _ hsame, ← versionOf_congr _ hsame]
    exact ⟨hread.above, hread.le⟩
  | none =>
    rw [hlast] at he
    obtain ⟨old, hold, rfl⟩ := Option.map_eq_some_iff.1 he
    refine .inr ⟨old, hold, ?_⟩
    split
    · exact FileEntry.version_rechecked _ _ _
    · rfl

end Workspace

namespace Session

/-! ## Counting submissions -/

/-- The paths of which a run submits new versions. -/
def submittedAlong (s : Session) : List Step → List Path
  | [] => []
  | step :: rest => s.submitted step ++ (s.step step).submittedAlong rest

variable {s s' : Session} {step : Step} {p : Path} {i version : Nat}

/-- A step counts every file as often as it submits it. -/
theorem Effect.versionOf (heffect : s.Effect step s') (q : Path) : s'.workspace.versionOf q =
    s.workspace.versionOf q + (s.submitted step).countP (·.same q) := by
  cases heffect with
  | idle hnone => rw [hnone, List.countP_nil, Nat.add_zero]
  | submit p => simpa [submitted] using s.workspace.versionOf_submit p q
  | analyze => rfl
  | commit => rfl
  | index p text withChecks =>
    rw [Workspace.versionOf_store]
    simpa [submitted] using s.workspace.versionOf_submit p q
  | remove p => simpa [submitted] using s.workspace.versionOf_removeFile p q
  | @scan _ _ _ incremental result hok hresult =>
    have hstart : (s.workspace.runStart incremental).versionOf q = s.workspace.versionOf q := by
      cases incremental <;> rfl
    simp only [submitted, hok]
    rw [hresult, Workspace.versionOf_indexPaths, Workspace.versionOf_submitAll, hstart,
      Workspace.countP_visited]

theorem versionOf_step (s : Session) (step : Step) (q : Path) :
    (s.step step).workspace.versionOf q =
      s.workspace.versionOf q + (s.submitted step).countP (·.same q) :=
  (s.effect_step step).versionOf q

theorem versionOf_run (s : Session) (steps : List Step) (q : Path) :
    (s.run steps).workspace.versionOf q =
      s.workspace.versionOf q + (s.submittedAlong steps).countP (·.same q) := by
  induction steps generalizing s with
  | nil => rfl
  | cons step rest ih =>
    rw [run_cons, ih, versionOf_step, submittedAlong, List.countP_append]
    omega

/-! ## Tickets -/

/-- The path and the number of a submission. -/
def Issued (s : Session) (p : Path) (i version : Nat) : Prop :=
  ∃ sub, s.submissions[i]? = some sub ∧ sub.ticket.path = p ∧ sub.ticket.version = version

theorem issued_submit (s : Session) (p : Path) :
    (s.step (.submit p)).Issued p s.submissions.length (s.workspace.versionOf p + 1) :=
  ⟨⟨(s.workspace.submit p).1, []⟩, List.getElem?_concat_length, rfl, rfl⟩

theorem Issued.of_effect (h : s.Issued p i version) (heffect : s.Effect step s') :
    s'.Issued p i version := by
  obtain ⟨sub, hsub, hpath, hversion⟩ := h
  have hi := (List.getElem?_eq_some_iff.1 hsub).1
  cases heffect with
  | submit q =>
    exact ⟨sub, (List.getElem?_append_left hi).trans hsub, hpath, hversion⟩
  | @analyze j old hold text withChecks =>
    by_cases hj : j = i
    · subst hj
      obtain rfl := Option.some.inj (hold.symm.trans hsub)
      exact ⟨_, List.getElem?_set_self hi, hpath, hversion⟩
    · exact ⟨sub, (List.getElem?_set_ne hj).trans hsub, hpath, hversion⟩
  | idle | commit | index | remove | scan => exact ⟨sub, hsub, hpath, hversion⟩

theorem Issued.run (h : s.Issued p i version) (steps : List Step) :
    (s.run steps).Issued p i version :=
  run_keeps (I := fun s => s.Issued p i version) Issued.of_effect h steps

/-- No number is given out before its submission. -/
def Numbered (s : Session) : Prop :=
  ∀ sub ∈ s.submissions, sub.ticket.version ≤ s.workspace.versionOf sub.ticket.path

theorem Numbered.of_effect (h : s.Numbered) (heffect : s.Effect step s') : s'.Numbered := by
  intro sub hsub
  rw [heffect.versionOf]
  rcases heffect.mem_submissions hsub with hold | ⟨p, rfl, rfl⟩ | ⟨text, withChecks, old, hold, rfl⟩
  · exact Nat.le_add_right_of_le (h sub hold)
  · simp [submitted, Workspace.submit]
  · exact Nat.le_add_right_of_le (h old hold)

theorem numbered_run (patterns : List Text) (steps : List Step) :
    ((start patterns).run steps).Numbered :=
  run_keeps Numbered.of_effect (by simp [Numbered, start]) steps

theorem step_commit_of_superseded {sub : Submission} (hsub : s.submissions[i]? = some sub)
    (h : s.workspace.isCurrent sub.ticket = false) (a : Analysis) : s.step (.commit i a) = s := by
  simp [Session.step, hsub, Workspace.commit_eq, h, withOutcome]

/-! ## Versions of stored files -/

/-- The version of a stored file was there before the step, or was submitted by the step, or is the
last one submitted and belongs to a commit. -/
theorem Effect.stored (heffect : s.Effect step s') (hs : s.workspace.Sound) {e : FileEntry}
    (he : s'.workspace.file? p = some e) :
    (∃ old, s.workspace.file? p = some old ∧ e.version = old.version) ∨
      (s.workspace.versionOf p < e.version ∧ e.version ≤ s'.workspace.versionOf p) ∨
      (e.version = s.workspace.versionOf p ∧
        ∃ sub ∈ s.submissions, sub.ticket.path.same p = true ∧
          sub.ticket.version = e.version) := by
  have hafter := heffect.versionOf p
  cases heffect with
  | idle | submit | analyze => exact .inl ⟨e, he, rfl⟩
  | @commit i sub hsub a hcurrent =>
    -- an accepted ticket has the number that was given out last
    have hversion := s.workspace.version_of_isCurrent sub.ticket hcurrent
    rcases hs.version_store he with ⟨hsame, heq⟩ | hold
    · rw [Workspace.versionOf_congr _ hsame] at hversion
      refine .inr (.inr ⟨heq.trans hversion.symm, sub, ?_, hsame, heq.symm⟩)
      exact List.mem_of_getElem? hsub
    · exact .inl hold
  | index q text withChecks =>
    rcases (hs.submit q).version_store he with ⟨hsame, heq⟩ | hold
    · have hq : q.same p = true := hsame
      have hversion : e.version = s.workspace.versionOf p + 1 := by
        rw [heq, ← Workspace.versionOf_congr _ hq]
        rfl
      simp only [submitted, List.countP_singleton, hq, if_true] at hafter
      exact .inr (.inl ⟨by omega, Nat.le_of_eq (hversion.trans hafter.symm)⟩)
    · exact .inl hold
  | remove q => exact .inl (Workspace.version_removeFile he)
  | @scan _ _ _ incremental result hok hresult =>
    rw [hresult] at he ⊢
    rcases (hs.runStart incremental).version_indexPaths he with hnew | ⟨old, hold, hversion⟩
    · refine .inr (.inl ?_)
      cases incremental <;> exact hnew
    · cases incremental with
      | true => exact .inl ⟨old, hold, hversion⟩
      | false => cases hold

/-- No stored file has a version beyond those that have been submitted of it. -/
structure Bounded (s : Session) : Prop where
  sound : s.workspace.Sound
  le : ∀ p e, s.workspace.file? p = some e → e.version ≤ s.workspace.versionOf p

theorem Bounded.of_effect (h : s.Bounded) (heffect : s.Effect step s') : s'.Bounded where
  sound := heffect.sound h.sound
  le := by
    intro p e he
    have hafter := heffect.versionOf p
    rcases heffect.stored h.sound he with ⟨old, hold, hversion⟩ | ⟨-, hle⟩ | ⟨hversion, -⟩
    · have hle := h.le p old hold
      omega
    · exact hle
    · omega

theorem bounded_run (patterns : List Text) (steps : List Step) :
    ((start patterns).run steps).Bounded :=
  run_keeps Bounded.of_effect
    ⟨Workspace.sound_empty patterns, fun p e he => by cases he⟩ steps

/-- At least the given version of a file has been submitted, and no older one is stored. -/
structure AtLeast (s : Session) (p : Path) (version : Nat) : Prop where
  sound : s.workspace.Sound
  submitted : version ≤ s.workspace.versionOf p
  stored : ∀ e, s.workspace.file? p = some e → version ≤ e.version

theorem AtLeast.of_effect (h : s.AtLeast p version) (heffect : s.Effect step s') :
    s'.AtLeast p version where
  sound := heffect.sound h.sound
  submitted := by
    rw [heffect.versionOf]
    exact Nat.le_add_right_of_le h.submitted
  stored := by
    intro e he
    have hle := h.submitted
    rcases heffect.stored h.sound he with ⟨old, hold, hversion⟩ | ⟨hlt, -⟩ | ⟨hversion, -⟩
    · have hstored := h.stored old hold
      omega
    · omega
    · omega

/-! ## Removed files -/

/-- A file is not there, and no ticket for it is current. -/
structure Withdrawn (s : Session) (p : Path) : Prop where
  sound : s.workspace.Sound
  absent : s.workspace.file? p = none
  outdated : ∀ sub ∈ s.submissions, sub.ticket.path.same p = true →
    sub.ticket.version < s.workspace.versionOf p

theorem withdrawn_remove (hs : s.workspace.Sound) (h : s.Numbered) (p : Path) :
    (s.step (.remove p)).Withdrawn p where
  sound := hs.removeFile p
  absent := by
    have hfile : (s.step (.remove p)).workspace.file? p = (s.workspace.removeFile p).2.file? p :=
      rfl
    rw [hfile, Workspace.file?_removeFile, if_pos (Path.same_self p)]
  outdated := by
    intro sub hsub hsame
    have hle := h sub hsub
    rw [versionOf_step, ← Workspace.versionOf_congr _ hsame]
    simp only [Session.submitted, List.countP_singleton, Path.same_self, if_true]
    omega

theorem Withdrawn.of_effect (h : s.Withdrawn p) (heffect : s.Effect step s')
    (hnot : ∀ q ∈ s.submitted step, q.same p = false) : s'.Withdrawn p := by
  have hversion : s'.workspace.versionOf p = s.workspace.versionOf p := by
    rw [heffect.versionOf, List.countP_eq_zero.2 (by simpa using hnot), Nat.add_zero]
  refine ⟨heffect.sound h.sound, ?_, ?_⟩
  · cases hfile : s'.workspace.file? p with
    | none => rfl
    | some e =>
      -- it would be an old entry, or one of this step, or the commit of a current ticket
      rcases heffect.stored h.sound hfile with
        ⟨old, hold, -⟩ | ⟨hlt, hle⟩ | ⟨heq, sub, hsub, hsame, hticket⟩
      · rw [h.absent] at hold
        cases hold
      · omega
      · have hlt := h.outdated sub hsub hsame
        omega
  · intro sub hsub hsame
    rw [hversion]
    rcases heffect.mem_submissions hsub with
      hold | ⟨r, rfl, rfl⟩ | ⟨text, withChecks, old, hold, rfl⟩
    · exact h.outdated sub hold hsame
    · have hr : r.same p = false := hnot r (List.mem_singleton.2 rfl)
      rw [show r.same p = true from hsame] at hr
      cases hr
    · exact h.outdated old hold hsame

/-- A file that is withdrawn stays so until it is submitted again. -/
theorem Withdrawn.run (h : s.Withdrawn p) {steps : List Step}
    (hnot : ∀ q ∈ s.submittedAlong steps, q.same p = false) : (s.run steps).Withdrawn p := by
  induction steps generalizing s with
  | nil => exact h
  | cons step rest ih =>
    rw [submittedAlong, List.forall_mem_append] at hnot
    exact ih (h.of_effect (s.effect_step step) hnot.1) hnot.2

/-! ## The last submission -/

/-- What happens to the versions of a file `p` when the session `early` goes on with `after`. -/
structure LastWins (early : Session) (after : List Step) (p : Path) : Prop where
  /-- A version submitted at first is accepted in the end exactly if none has been submitted
  since. -/
  accepted_iff : let issued := early.step (.submit p)
    ∃ sub, (issued.run after).submissions[early.submissions.length]? = some sub ∧
      sub.ticket.path = p ∧ ∀ a,
        (∃ e, ((issued.run after).workspace.commit sub.ticket a).1 = .committed e) ↔
          ∀ q ∈ issued.submittedAlong after, q.same p = false
  /-- What is accepted is what the file is from then on: the analysis that was given, checked again
  if the table has changed since. -/
  stored : let w := (early.run after).workspace
    ∀ t a e, (w.commit t a).1 = .committed e →
      e = ⟨t.path, t.version, w.upToDate t a⟩ ∧
        ∀ q, t.path.same q = true → (w.commit t a).2.file? q = some e
  /-- A superseded commit leaves the whole workspace as it is. -/
  superseded : let w := (early.run after).workspace
    ∀ t a v, (w.commit t a).1 = .superseded v → (w.commit t a).2 = w
  /-- The version of a stored file is one of those submitted, and it never decreases. -/
  version : ∀ e, early.workspace.file? p = some e → e.version ≤ early.workspace.versionOf p ∧
    ∀ e', (early.run after).workspace.file? p = some e' → e.version ≤ e'.version
  /-- If the file is removed at first, then no commit of an older version does anything. -/
  removed : let gone := (early.step (.remove p)).run after
    ∀ i sub, early.submissions[i]? = some sub → sub.ticket.path.same p = true →
      ∀ a, gone.step (.commit i a) = gone
  /-- A removed file is there again only if it has been submitted again. -/
  absent : let gone := early.step (.remove p)
    (∀ q ∈ gone.submittedAlong after, q.same p = false) → (gone.run after).workspace.file? p = none

theorem accepted_iff_not_submitted (early : Session) (after : List Step) (p : Path) :
    let issued := early.step (.submit p)
    ∃ sub, (issued.run after).submissions[early.submissions.length]? = some sub ∧
      sub.ticket.path = p ∧ ∀ a,
        (∃ e, ((issued.run after).workspace.commit sub.ticket a).1 = .committed e) ↔
          ∀ q ∈ issued.submittedAlong after, q.same p = false := by
  intro issued
  obtain ⟨sub, hsub, hpath, hversion⟩ := (issued_submit early p).run after
  refine ⟨sub, hsub, hpath, ?_⟩
  intro a
  have hbefore : issued.workspace.versionOf p = early.workspace.versionOf p + 1 := by
    rw [versionOf_step]
    simp [submitted]
  have hafter := issued.versionOf_run after p
  rw [Workspace.committed_iff, Workspace.isCurrent_iff _ _ (by omega), hpath, hversion]
  have hcount : (issued.run after).workspace.versionOf p = early.workspace.versionOf p + 1 ↔
      (issued.submittedAlong after).countP (·.same p) = 0 := by omega
  rw [hcount, List.countP_eq_zero]
  simp

/-- A ticket for a file is worthless from the removal of the file on. -/
theorem step_commit_after_removal {early : Session} (hs : early.workspace.Sound)
    (h : early.Numbered) {sub : Submission}
    (hsub : early.submissions[i]? = some sub) (hsame : sub.ticket.path.same p = true)
    (after : List Step) (a : Analysis) :
    ((early.step (.remove p)).run after).step (.commit i a) =
      (early.step (.remove p)).run after := by
  have hissued : early.Issued sub.ticket.path i sub.ticket.version := ⟨sub, hsub, rfl, rfl⟩
  obtain ⟨late, hlate, hpath, hversion⟩ :=
    (hissued.of_effect (early.effect_step (.remove p))).run after
  apply step_commit_of_superseded hlate
  apply Workspace.isCurrent_eq_false
  have hlt := (withdrawn_remove hs h p).outdated sub (List.mem_of_getElem? hsub) hsame
  have hlater := (early.step (.remove p)).versionOf_run after p
  rw [hpath, hversion, Workspace.versionOf_congr _ hsame]
  omega

/-- In every session, whatever is committed in whatever order, the last submission of a file wins,
and superseded work writes nothing. -/
theorem last_submission_wins (patterns : List Text) (before after : List Step) (p : Path) :
    ((start patterns).run before).LastWins after p where
  accepted_iff := accepted_iff_not_submitted _ after p
  stored := by
    intro w t a e hcommitted
    exact Workspace.file?_of_committed hcommitted
  superseded := by
    intro w t a v houtcome
    rw [Workspace.commit_eq] at houtcome ⊢
    split at houtcome
    · cases houtcome
    · rename_i hcurrent
      rw [if_neg hcurrent]
  version := by
    intro e he
    have hle := (bounded_run patterns before).le p e he
    refine ⟨hle, ?_⟩
    have hearly : ((start patterns).run before).AtLeast p e.version := by
      refine ⟨sound_run patterns before, hle, ?_⟩
      intro e' he'
      exact Nat.le_of_eq (congrArg FileEntry.version (Option.some.inj (he.symm.trans he')))
    exact (run_keeps (I := fun s => s.AtLeast p e.version) AtLeast.of_effect hearly after).stored
  removed := by
    intro gone i sub hsub hsame a
    exact step_commit_after_removal (sound_run patterns before) (numbered_run patterns before)
      hsub hsame after a
  absent := by
    intro gone hnot
    exact ((withdrawn_remove (sound_run patterns before) (numbered_run patterns before) p).run
      hnot).absent

/-- A path submitted again in another spelling supersedes its first ticket, and what is committed
for the second one is found under both. -/
theorem last_submission_wins_two_spellings :
    let s := (start []).run
      [.submit (.ofText ['d', '/', 'a']), .submit (.ofText ['d', '/', '/', 'a'])]
    ∃ first second, s.submissions[0]? = some first ∧ s.submissions[1]? = some second ∧ ∀ a,
      (¬ ∃ e, (s.workspace.commit first.ticket a).1 = .committed e) ∧
        (s.workspace.commit second.ticket a).2.file? (.ofText ['d', '/', 'a']) =
          some ⟨.ofText ['d', '/', '/', 'a'], 2, a⟩ := by
  intro s
  obtain ⟨first, hfirst, -, hfirstAccepted⟩ := (last_submission_wins [] []
    [.submit (.ofText ['d', '/', '/', 'a'])] (.ofText ['d', '/', 'a'])).accepted_iff
  obtain ⟨second, hsecond, -, hsecondAccepted⟩ := (last_submission_wins []
    [.submit (.ofText ['d', '/', 'a'])] [] (.ofText ['d', '/', '/', 'a'])).accepted_iff
  refine ⟨first, second, hfirst, hsecond, ?_⟩
  intro a
  constructor
  · intro hcommitted
    have hnot := (hfirstAccepted a).1 hcommitted (.ofText ['d', '/', '/', 'a'])
      (List.mem_singleton.2 rfl)
    exact absurd hnot (by decide)
  · obtain ⟨e, he⟩ := (hsecondAccepted a).2 (by simp [submittedAlong])
    obtain ⟨rfl, hfile⟩ := (last_submission_wins []
      [.submit (.ofText ['d', '/', 'a']), .submit (.ofText ['d', '/', '/', 'a'])] []
      (.ofText ['d', '/', 'a'])).stored second.ticket a e he
    obtain rfl : ⟨⟨.ofText ['d', '/', '/', 'a'], 2, none⟩, []⟩ = second := Option.some.inj hsecond
    exact hfile (.ofText ['d', '/', 'a']) (by decide)

end Session

end RoutineAtlas
