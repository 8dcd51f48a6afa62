import StackAws.Removal

/-!
Every way a pass of `Reconciler.Reconcile` (`eks.go`, lines 397-444) can return neither a
requeue nor an error.

`ExitInv` says what each program counter of a pass knows on the way there: before the
finalizer is added the instance holds the fetched finalizers, in the delete branch under
ReclaimPolicy Delete it holds them with the finalizer added and knows which deletions went
through, and a write or a return with the empty `Result` has a reason (`QuietReason`). `ExitInv.next` checks it against every answer, one lemma per stretch of code,
and `Reachable.forall_passes` lifts it to every pass of every run.

* `quiet_exit_reasons`: a pass that returned neither a requeue nor an error found the resource
  gone (line 405), removed its finalizer on deletion (line 392) under a ReclaimPolicy other than
  Delete or after `client.Delete`, and `DeleteWorkerNodes` of a recorded stack, answered success
  or not-found, or had `client.Create` reject the spec as a bad request (line 179).
-/

namespace StackAws

/-- Why a pass may return neither a requeue nor an error. -/
def QuietReason (p : Pass) : Prop :=
  (∃ e, Resp.get (.error e) ∈ p.trace ∧ isErrorNotFound e = true) ∨
  (p.inst.deletionTimestamp.isSome = true ∧
    p.inst.finalizers = p.fetched.finalizers.erase finalizer ∧ DeletionsDone p) ∨
  (∃ e, Resp.create (.error e) ∈ p.trace ∧ isErrorBadRequest e = true)

/-- In `_delete` under ReclaimPolicy Delete: marked, with the finalizer added. -/
def InDeleteBranch (p : Pass) : Prop :=
  p.inst.deletionTimestamp.isSome = true ∧
    p.inst.finalizers = addFinalizer p.fetched.finalizers finalizer ∧
    p.inst.spec.reclaimPolicy = .reclaimDelete

/-- What each program counter knows on the way to a quiet return. -/
def ExitInv (p : Pass) : Prop :=
  match p.pc with
  | .connect | .getStatus .. | .build .. | .resolveUpdate => p.inst.finalizers = p.fetched.finalizers
  | .delete => InDeleteBranch p
  | .deleteWorkerNodes deleteErrors =>
    InDeleteBranch p ∧ p.inst.status.cloudFormationStackID ≠ "" ∧
      (deleteErrors = [] → MasterDeleted p)
  | .update result _ => result = {} → QuietReason p
  | .done result err => result = {} → err = none → QuietReason p
  | _ => True

/-- A reason stays one while the trace grows and the instance changes only its version. -/
theorem QuietReason.mono {p q : Pass} (h : QuietReason p) (ht : p.trace ⊆ q.trace)
    (hi : q.inst = { p.inst with resourceVersion := q.inst.resourceVersion })
    (hff : q.fetched = p.fetched) : QuietReason q := by
  rcases h with ⟨e, he, hn⟩ | ⟨hd, hf, hdone⟩ | ⟨e, he, hb⟩
  · exact .inl ⟨e, ht he, hn⟩
  · refine .inr (.inl ⟨?_, ?_, hdone.mono ht (by rw [hi]) (by rw [hi])⟩)
    · rw [hi]; exact hd
    · rw [hi, hff]; exact hf
  · exact .inr (.inr ⟨e, ht he, hb⟩)

theorem ExitInv.mono {p : Pass} (h : ExitInv p) {t : List Resp} (ht : p.trace ⊆ t) :
    ExitInv { p with trace := t } := by
  obtain ⟨pc, inst, fetched, resolved, trace⟩ := p
  cases pc
  case deleteWorkerNodes => exact ⟨h.1, h.2.1, fun he => (h.2.2 he).mono ht⟩
  case update result _ => exact fun hr => (h hr).mono ht rfl rfl
  case done result err => exact fun hr he => (h hr he).mono ht rfl rfl
  all_goals exact h

namespace Pass

variable {q : Pass}

theorem fail_exitInv (q : Pass) (err : Error) : ExitInv (q.fail err) := fun h => absurd h (by decide)

theorem resolutionFailed_exitInv (q : Pass) (err : Error) : ExitInv (q.resolutionFailed err) :=
  fun h => absurd h (by decide)

theorem deleted_exitInv (hd : q.inst.deletionTimestamp.isSome = true)
    (hf : q.inst.finalizers = addFinalizer q.fetched.finalizers finalizer) (hdone : DeletionsDone q) :
    ExitInv q.deleted :=
  fun _ => .inr (.inl ⟨by simpa [deleted] using hd,
    by simp [deleted, hf, removeFinalizer_addFinalizer], hdone⟩)

theorem deleteDone_exitInv (h : InDeleteBranch q) {errs : List String}
    (hdone : errs = [] → DeletionsDone q) : ExitInv (q.deleteDone errs) := by
  unfold deleteDone; split
  · exact fail_exitInv _ _
  · exact deleted_exitInv h.1 h.2.1 (hdone (List.length_eq_zero.mp (by omega)))

theorem delete_exitInv (hd : q.inst.deletionTimestamp.isSome = true)
    (hf : q.inst.finalizers = addFinalizer q.fetched.finalizers finalizer) : ExitInv q.delete := by
  simp only [delete]; split
  · exact ⟨by simpa using hd, by simpa using hf, ‹_›⟩
  · exact deleted_exitInv (by simpa using hd) (by simpa using hf) (.inl ‹_›)

theorem dispatch_exitInv (hf : q.inst.finalizers = q.fetched.finalizers) : ExitInv q.dispatch := by
  simp only [dispatch]
  split
  · exact delete_exitInv ‹_› (congrArg (addFinalizer · finalizer) hf)
  · split <;> trivial

theorem referencesResolved_exitInv (hf : q.inst.finalizers = q.fetched.finalizers) :
    ExitInv q.referencesResolved := by
  unfold referencesResolved
  exact dispatch_exitInv (by simpa using hf)

theorem builds_exitInv (hf : q.inst.finalizers = q.fetched.finalizers) (rs : List Referencer) :
    ExitInv (q.builds rs) := by
  cases rs <;> exact hf

theorem getStatuses_exitInv (hf : q.inst.finalizers = q.fetched.finalizers)
    (rest : List Referencer) (statuses : List ReferenceStatus) :
    ExitInv (q.getStatuses rest statuses) := by
  cases rest with
  | cons r rest => exact hf
  | nil =>
    simp only [getStatuses]; split
    exacts [builds_exitInv hf _, resolutionFailed_exitInv _ _]

theorem resolveReferences_exitInv (hf : q.inst.finalizers = q.fetched.finalizers) :
    ExitInv q.resolveReferences := by
  unfold resolveReferences; split
  exacts [referencesResolved_exitInv hf, hf]

theorem created_exitInv {r : Except Error Cluster} (hr : Resp.create r ∈ q.trace) :
    ExitInv (q.created r) := by
  cases r with
  | ok cl => exact fun h => absurd h (by decide)
  | error err =>
    simp only [created]
    split
    · split
      · exact fun _ => .inr (.inr ⟨err, hr, ‹_›⟩)
      · exact fail_exitInv _ _
    · trivial

theorem gotCluster_exitInv (r : Except Error Cluster) : ExitInv (q.gotCluster r) := by
  cases r with
  | error err => exact fail_exitInv _ _
  | ok cl =>
    simp only [gotCluster]
    split
    · exact fun h => absurd h (by decide)
    · split <;> trivial

theorem createdWorkerNodes_exitInv (r : Except Error ClusterWorkers) :
    ExitInv (q.createdWorkerNodes r) := by
  cases r with
  | error err => exact fail_exitInv _ _
  | ok _ => exact fun h => absurd h (by decide)

theorem gotWorkerNodes_exitInv (cl : Cluster) (r : Except Error ClusterWorkers) :
    ExitInv (q.gotWorkerNodes cl r) := by
  cases r with
  | error err => exact fail_exitInv _ _
  | ok w =>
    simp only [gotWorkerNodes]
    split_ifs
    exacts [fail_exitInv _ _, trivial, fun h => absurd h (by decide)]

theorem published_exitInv (cl : Cluster) (r : Except Error Unit) : ExitInv (q.published cl r) := by
  cases r with
  | error err => exact fail_exitInv _ _
  | ok _ => exact fun h => absurd h (by decide)

/-- One answer of the kind the pass waits on keeps `ExitInv`, provided the answer is already on
the pass's trace. -/
theorem resume_exitInv (h : ExitInv q) {req : Req} {r : Resp} (hr : r ∈ q.trace)
    (hreq : q.request = some req) (hk : req.answeredBy r = true) : ExitInv (q.resume r) := by
  obtain ⟨pc, inst, fetched, resolved, trace⟩ := q
  cases pc <;> cases hreq <;> cases r <;> cases hk <;> rename_i x
  · -- `r.Get`: not-found ends the pass quietly
    rcases x with err | o
    exacts [fun _ hn => .inl ⟨err, hr, by simpa using hn⟩, rfl]
  · rcases x with err | ⟨⟨⟩⟩
    · exact fail_exitInv _ _
    · dsimp only [resume]; split
      exacts [dispatch_exitInv h, resolveReferences_exitInv h]
  · rcases x with err | _
    exacts [resolutionFailed_exitInv _ _, getStatuses_exitInv h _ _]
  · rcases x with err | _
    · exact resolutionFailed_exitInv _ _
    · refine builds_exitInv ?_ _; exact h
  · rcases x with err | _
    · exact resolutionFailed_exitInv _ _
    · refine referencesResolved_exitInv ?_; exact h
  · -- `client.Delete` answered: on to `DeleteWorkerNodes`, or to line 382
    dsimp only [resume]; split
    · exact ⟨h, ‹_›, fun he => ⟨x, hr, he⟩⟩
    · exact deleteDone_exitInv h fun he => .inr ⟨⟨x, hr, he⟩, fun hs => absurd hs ‹_›⟩
  · obtain ⟨h, -, hm⟩ := h
    exact deleteDone_exitInv h fun he =>
      .inr ⟨hm (List.append_eq_nil.mp he).1, fun _ => ⟨x, hr, (List.append_eq_nil.mp he).2⟩⟩
  · exact created_exitInv hr
  · exact gotCluster_exitInv _
  · exact createdWorkerNodes_exitInv _
  · exact gotWorkerNodes_exitInv _ _
  · rcases x with err | ⟨⟨⟩⟩
    exacts [fail_exitInv _ _, trivial]
  · exact published_exitInv _ _
  · -- the final write changes only the version
    rcases x with err | v
    exacts [fun _ hn => absurd hn (by simp), fun hq _ => (h hq).mono (List.Subset.refl _) rfl rfl]

end Pass

/-- **Step lemma.** After every answer of the kind a pass waits on, it keeps `ExitInv`. -/
theorem ExitInv.next {p : Pass} (h : ExitInv p) {req : Req} {r : Resp}
    (hreq : p.request = some req) (hk : req.answeredBy r = true) : ExitInv (p.next r) :=
  @Pass.resume_exitInv { p with trace := p.trace ++ [r] }
    (h.mono (List.subset_append_left _ _)) req r (by simp) hreq hk

/-- **Quiet exits.** A pass of any run that returned neither a requeue nor an error found the
resource gone; or removed the finalizer of a marked resource, under a ReclaimPolicy other than
Delete or after `client.Delete`, and `DeleteWorkerNodes` of a recorded stack, answered success or
not-found; or had `client.Create` reject the spec as a bad request. -/
theorem quiet_exit_reasons {c : Config} (hc : Reachable c) {p : Pass} (hp : p ∈ c.passes)
    (hd : p.pc = .done {} none) :
    (∃ e, Resp.get (.error e) ∈ p.trace ∧ isErrorNotFound e = true) ∨
    (p.inst.deletionTimestamp.isSome = true ∧
      p.inst.finalizers = p.fetched.finalizers.erase finalizer ∧
      (p.inst.spec.reclaimPolicy ≠ .reclaimDelete ∨
        (∃ r, Resp.delete r ∈ p.trace ∧ Pass.masterDeleteErrors r = []) ∧
        (p.inst.status.cloudFormationStackID ≠ "" →
          ∃ r, Resp.deleteWorkerNodes r ∈ p.trace ∧ Pass.workerDeleteErrors r = []))) ∨
    (∃ e, Resp.create (.error e) ∈ p.trace ∧ isErrorBadRequest e = true) := by
  have h := hc.forall_passes_answered ExitInv trivial (fun _ _ _ hreq hk h => h.next hreq hk) p hp
  unfold ExitInv at h
  rw [hd] at h
  exact h rfl rfl

open Schedule in
/-- The resource is deleted before a pass fetches it. -/
def goneRun : List (Config → Action) :=
  [act (.requestDeletion 1), act .spawn, act (.respond 0 (.get (.error ⟨.notFound, "not found"⟩)))]

def gone : Config := replay sample goneRun

/-- The pass of `gone`. -/
def gonePass : Pass := (gone.passes.head?).getD {}

theorem quiet_exit_reasons_gone :
    Reachable gone ∧ gonePass ∈ gone.passes ∧ gonePass.pc = .done {} none ∧
    ((∃ e, Resp.get (.error e) ∈ gonePass.trace ∧ isErrorNotFound e = true) ∨
      (gonePass.inst.deletionTimestamp.isSome = true ∧
        gonePass.inst.finalizers = gonePass.fetched.finalizers.erase finalizer ∧
        (gonePass.inst.spec.reclaimPolicy ≠ .reclaimDelete ∨
          (∃ r, Resp.delete r ∈ gonePass.trace ∧ Pass.masterDeleteErrors r = []) ∧
          (gonePass.inst.status.cloudFormationStackID ≠ "" →
            ∃ r, Resp.deleteWorkerNodes r ∈ gonePass.trace ∧ Pass.workerDeleteErrors r = []))) ∨
      (∃ e, Resp.create (.error e) ∈ gonePass.trace ∧ isErrorBadRequest e = true)) :=
  have hc : Reachable gone := Reachable.replay sample goneRun rfl (by decide)
  have hp : gonePass ∈ gone.passes := by decide
  have hd : gonePass.pc = .done {} none := by decide
  ⟨hc, hp, hd, quiet_exit_reasons hc hp hd⟩

end StackAws
