import StackAws.Removal

/-!
The deletion mark. A deletion request sets the object's DeletionTimestamp when it still has
finalizers, and `Reconcile` sends a pass down `_delete` exactly when the object it fetched has
one (`eks.go`, line 433); only there does a pass ask the provider to delete anything.

`DeletingInv` says that up to the delete branch a pass holds the ClusterName and the stack ID it
fetched (only `_create` and `_sync` record new ones, and no pass reaches `_delete` after them),
and that a pass in the delete branch has ReclaimPolicy Delete (line 370).
`MarkSynced` is the compare-and-swap link for the DeletionTimestamp: a live pass at the store's
version fetched the store's DeletionTimestamp, as `Synced` says of the Status and the Spec.

* `provider_deletes_only_marked`: in every run, `client.Delete` and `client.DeleteWorkerNodes`
  are called only by a pass that fetched the object with a DeletionTimestamp and ReclaimPolicy
  Delete, and only for the ClusterName and the non-empty stack ID recorded in that object.
* `deletion_mark_kept`: in every step of a run, a stored object with a DeletionTimestamp keeps
  it, or is removed; no write clears it.
-/

namespace StackAws

/-! ## The delete branch -/

/-- The pass holds the ClusterName and the stack ID it fetched. -/
def IdsAsFetched (p : Pass) : Prop :=
  p.inst.status.clusterName = p.fetched.status.clusterName ∧
    p.inst.status.cloudFormationStackID = p.fetched.status.cloudFormationStackID

/-- Up to the delete branch the pass holds the ClusterName and the stack ID it fetched, and in
the delete branch its ReclaimPolicy is Delete. -/
def DeletingInv (p : Pass) : Prop :=
  match p.pc with
  | .connect | .getStatus .. | .build .. | .resolveUpdate => IdsAsFetched p
  | .delete | .deleteWorkerNodes _ => IdsAsFetched p ∧ p.inst.spec.reclaimPolicy = .reclaimDelete
  | _ => True

theorem Pass.request_eq_deleteWorkerNodes {p : Pass} {id : String}
    (h : p.request = some (.deleteWorkerNodes id)) :
    (∃ errs, p.pc = .deleteWorkerNodes errs) ∧ id = p.inst.status.cloudFormationStackID := by
  unfold Pass.request at h; split at h <;> cases h; exact ⟨⟨_, ‹_›⟩, rfl⟩

namespace Pass

variable {q : Pass}

/-! Before `_create` and `_sync` nothing touches the identifiers; from them no path leads back. -/

theorem deleteDone_deletingInv (errs : List String) : DeletingInv (q.deleteDone errs) := by
  unfold deleteDone; split <;> trivial

theorem delete_deletingInv (h : IdsAsFetched q) : DeletingInv q.delete := by
  simp only [delete]; split
  exacts [⟨h, ‹_›⟩, trivial]

theorem dispatch_deletingInv (h : IdsAsFetched q) : DeletingInv q.dispatch := by
  simp only [dispatch]; split
  · exact delete_deletingInv h
  · split <;> trivial

theorem builds_deletingInv (h : IdsAsFetched q) (rs : List Referencer) :
    DeletingInv (q.builds rs) := by
  cases rs <;> exact h

theorem getStatuses_deletingInv (h : IdsAsFetched q) (rest : List Referencer)
    (statuses : List ReferenceStatus) : DeletingInv (q.getStatuses rest statuses) := by
  cases rest with
  | cons => exact h
  | nil => simp only [getStatuses]; split; exacts [builds_deletingInv h _, trivial]

theorem resolveReferences_deletingInv (h : IdsAsFetched q) :
    DeletingInv q.resolveReferences := by
  unfold resolveReferences; split
  exacts [dispatch_deletingInv h, h]

theorem created_deletingInv (r : Except Error Cluster) : DeletingInv (q.created r) := by
  cases r with
  | ok => trivial
  | error => simp only [created]; split_ifs <;> trivial

theorem gotCluster_deletingInv (r : Except Error Cluster) :
    DeletingInv (q.gotCluster r) := by
  cases r with
  | error => trivial
  | ok => simp only [gotCluster]; split_ifs <;> trivial

theorem gotWorkerNodes_deletingInv (cl : Cluster) (r : Except Error ClusterWorkers) :
    DeletingInv (q.gotWorkerNodes cl r) := by
  cases r with
  | error => trivial
  | ok => simp only [gotWorkerNodes]; split_ifs <;> trivial

/-- **Step lemma.** An answer of the kind the pass waits on keeps `DeletingInv`. -/
theorem resume_deletingInv (h : DeletingInv q) {req : Req} {r : Resp}
    (hreq : q.request = some req) (hk : req.answeredBy r = true) :
    DeletingInv (q.resume r) := by
  obtain ⟨pc, inst, fetched, resolved, trace⟩ := q
  cases pc <;> cases hreq <;> cases r <;> cases hk <;> rename_i x
  · rcases x with _ | _
    exacts [trivial, ⟨rfl, rfl⟩]
  · rcases x with _ | ⟨⟨⟩⟩
    · trivial
    · dsimp only [resume]; split
      exacts [dispatch_deletingInv h, resolveReferences_deletingInv h]
  · rcases x with _ | _
    exacts [trivial, getStatuses_deletingInv h _ _]
  · rcases x with _ | _
    exacts [trivial, builds_deletingInv (by exact h) _]
  · rcases x with _ | _
    exacts [trivial, dispatch_deletingInv (by exact h)]
  · dsimp only [resume]; split
    exacts [h, deleteDone_deletingInv _]
  · exact deleteDone_deletingInv _
  · exact created_deletingInv _
  · exact gotCluster_deletingInv _
  · rcases x with _ | _ <;> trivial
  · exact gotWorkerNodes_deletingInv _ _
  · rcases x with _ | ⟨⟨⟩⟩ <;> trivial
  · rcases x with _ | ⟨⟨⟩⟩ <;> trivial
  · rcases x with _ | _ <;> trivial

end Pass

theorem DeletingInv.next {p : Pass} (h : DeletingInv p) {req : Req} {r : Resp}
    (hreq : p.request = some req) (hk : req.answeredBy r = true) : DeletingInv (p.next r) :=
  @Pass.resume_deletingInv { p with trace := p.trace ++ [r] } h req r hreq hk

/-- **The provider deletes only what is marked for deletion.** In every run, a pass calls
`client.Delete(name)` only if the object it fetched has a DeletionTimestamp and ReclaimPolicy
Delete and records the ClusterName `name`, and calls `client.DeleteWorkerNodes(id)` only if the
object it fetched has a DeletionTimestamp and ReclaimPolicy Delete and records the stack ID `id`,
which is not empty. Under a ReclaimPolicy other than Delete the provider is never asked to delete. -/
theorem provider_deletes_only_marked {c : Config} (hc : Reachable c) {p : Pass}
    (hp : p ∈ c.passes) :
    (∀ name, p.request = some (.delete name) →
      p.fetched.deletionTimestamp.isSome = true ∧ p.fetched.spec.reclaimPolicy = .reclaimDelete ∧
        name = p.fetched.status.clusterName) ∧
    (∀ id, p.request = some (.deleteWorkerNodes id) →
      p.fetched.deletionTimestamp.isSome = true ∧ p.fetched.spec.reclaimPolicy = .reclaimDelete ∧
        id = p.fetched.status.cloudFormationStackID ∧ id ≠ "") := by
  have ht := (hc.inv.passes p hp).inv.tracks
  have hf := (hc.guardInv.passes p hp).2
  have hd := hc.forall_passes_answered DeletingInv trivial
    (fun _ _ _ hreq hk h => h.next hreq hk) p hp
  constructor
  · intro name hreq
    obtain ⟨hpc, rfl⟩ := Pass.request_eq_delete hreq
    simp only [FinalizerInv, DeletingInv, IdsAsFetched, hpc] at hf hd
    exact ⟨ht.deletionTimestamp ▸ hf.2, ht.spec.reclaimPolicy ▸ hd.2, hd.1.1⟩
  · intro id hreq
    obtain ⟨⟨errs, hpc⟩, rfl⟩ := Pass.request_eq_deleteWorkerNodes hreq
    simp only [FinalizerInv, DeletingInv, IdsAsFetched, hpc] at hf hd
    exact ⟨ht.deletionTimestamp ▸ hf.2.1, ht.spec.reclaimPolicy ▸ hd.2, hd.1.2, hf.2.2.1⟩

/-- `deletionRun` up to the answer of `client.Delete`: its second pass waits on it. -/
def awaitingDelete : Config := replay sample deletionRun.dropLast

def awaitingDeletePass : Pass := awaitingDelete.passes.getD 1 {}

theorem provider_deletes_only_marked_sample :
    Reachable awaitingDelete ∧ awaitingDeletePass ∈ awaitingDelete.passes ∧
    awaitingDeletePass.request = some (.delete awaitingDeletePass.inst.status.clusterName) ∧
    (∀ name, awaitingDeletePass.request = some (.delete name) →
      awaitingDeletePass.fetched.deletionTimestamp.isSome = true ∧
        awaitingDeletePass.fetched.spec.reclaimPolicy = .reclaimDelete ∧
        name = awaitingDeletePass.fetched.status.clusterName) ∧
    (∀ id, awaitingDeletePass.request = some (.deleteWorkerNodes id) →
      awaitingDeletePass.fetched.deletionTimestamp.isSome = true ∧
        awaitingDeletePass.fetched.spec.reclaimPolicy = .reclaimDelete ∧
        id = awaitingDeletePass.fetched.status.cloudFormationStackID ∧ id ≠ "") :=
  have hc : Reachable awaitingDelete := Reachable.replay sample deletionRun.dropLast rfl (by decide)
  have hp : awaitingDeletePass ∈ awaitingDelete.passes := by decide
  ⟨hc, hp, by decide, provider_deletes_only_marked hc hp⟩

/-! ## The compare-and-swap link for the mark -/

/-- A live pass at the store's version fetched the store's DeletionTimestamp. -/
def MarkSynced (c : Config) : Prop :=
  ∀ p ∈ c.passes, p.pc.live = true → ∀ o ∈ c.world.store,
    o.resourceVersion = p.inst.resourceVersion → o.deletionTimestamp = p.fetched.deletionTimestamp

theorem MarkSynced.init (o : EKSCluster) : MarkSynced (initial o) := fun _ h => by cases h

section Respond

variable {c : Config} {i : Nat} {p : Pass} {req : Req} {resp : Resp} {w : World}

/-- **Step lemma** for the answered pass. -/
theorem MarkSynced.next (hi : Inv c) (hm : MarkSynced c) (hp : c.passes[i]? = some p)
    (hreq : p.request = some req) (hw : c.world.answer req resp = some w)
    (hl : (p.next resp).pc.live = true) :
    ∀ o ∈ w.store, o.resourceVersion = (p.next resp).inst.resourceVersion →
      o.deletionTimestamp = (p.next resp).fetched.deletionTimestamp := by
  have hmem := List.getElem?_mem hp
  intro o' ho' hv
  rcases Pass.next_cases p resp with ⟨hpc, o, rfl, -, hfetched⟩ |
    ⟨hpc, v, rfl, hfetched, -, -⟩ | ⟨ref, rest, v, hpc, rfl, hfetched, hver⟩ | ⟨-, hdead⟩ |
    ⟨hlive, hfetched, hver, -⟩
  · -- `r.Get` answered the stored object
    rw [Pass.request, hpc] at hreq
    cases hreq
    obtain ⟨hs, rfl⟩ := World.answer_get hw
    cases Option.mem_some_iff.mp (hs ▸ ho')
    rw [hfetched]
  · -- the resolver's own write holds the DeletionTimestamp it fetched
    rw [Pass.request, hpc] at hreq
    cases hreq
    obtain ⟨s, -, -, rfl, hw'⟩ := World.answer_update_ok hw
    cases mem_persist (hw' ▸ ho')
    rw [hfetched]
    exact (hi.passes p hmem).inv.tracks.deletionTimestamp
  · -- `Build` answered: the store is unchanged
    have hs : w.store = c.world.store := by
      rcases World.answer_cases p hw with ⟨hs, -⟩ | ⟨o, v, h, -⟩
      exacts [hs, by rw [Pass.request, hpc] at hreq; cases hreq; cases h]
    rw [hfetched]
    exact hm p hmem (by rw [hpc]; rfl) o' (hs ▸ ho') (hver ▸ hv)
  · exact absurd hl (by rw [hdead]; decide)
  · rcases World.answer_cases p hw with ⟨hs, -⟩ | ⟨o, v, rfl, rfl, -⟩
    · rw [hfetched]
      exact hm p hmem hlive o' (hs ▸ ho') (hver ▸ hv)
    · -- the pass's own write moved the store past the version it keeps
      obtain ⟨rfl, -⟩ := Pass.request_eq_update hreq
      obtain ⟨s, -, hsv, rfl, hw'⟩ := World.answer_update_ok hw
      cases mem_persist (hw' ▸ ho')
      dsimp only at hv
      omega

/-- **Step lemma** for an answered call. -/
theorem MarkSynced.respond (hi : Inv c) (hm : MarkSynced c) (hp : c.passes[i]? = some p)
    (hreq : p.request = some req) (hw : c.world.answer req resp = some w) :
    MarkSynced { world := w, passes := c.passes.set i (p.next resp),
                 writes := c.writes ++ written p req resp } := by
  intro q hq hl
  rcases List.mem_or_eq_of_mem_set hq with hq' | rfl
  · rcases World.answer_cases p hw with ⟨hs, -⟩ | ⟨o, v, rfl, rfl, -⟩
    · exact fun o' ho' => hm q hq' hl o' (hs ▸ ho')
    · -- a write moves the store past every other live pass
      obtain ⟨rfl, -⟩ := Pass.request_eq_update hreq
      obtain ⟨s, hs, -, rfl, hw'⟩ := World.answer_update_ok hw
      have hle := ((hi.passes q hq').synced hl s hs).1
      intro o' ho' hv
      cases mem_persist (hw' ▸ ho')
      dsimp only at hv
      omega
  · exact hm.next hi hp hreq hw hl

end Respond

/-- **Step lemma.** Every action keeps `MarkSynced`. -/
theorem MarkSynced.step {c c' : Config} (hi : Inv c) (hm : MarkSynced c) (hs : Step c c') :
    MarkSynced c' := by
  obtain ⟨a, h⟩ := hs
  rcases Config.exec_cases h with rfl | ⟨i, p, req, resp, w, hp, hreq, hw, rfl⟩ |
    ⟨o, t, ho, rfl⟩ | ⟨hs, hps, -⟩
  · -- a new pass has not fetched yet
    intro q hq hl
    rcases List.mem_append.mp hq with hq | hq
    · exact hm q hq hl
    · cases List.mem_singleton.mp hq
      cases hl
  · exact hm.respond hi hp hreq hw
  · -- a deletion request keeps the object, or moves it past every live pass
    intro q hq hl o' ho' hv
    unfold requestDeletion at ho'
    split_ifs at ho'
    · cases ho'
    · cases ho'
      exact hm q hq hl o ho hv
    · cases ho'
      have := ((hi.passes q hq).synced hl o ho).1
      dsimp only at hv
      omega
  · -- the provider moved on its own
    intro q hq hl o' ho'
    exact hm q (hps ▸ hq) hl o' (hs ▸ ho')

theorem Reachable.markSynced {c : Config} (h : Reachable c) : MarkSynced c := by
  induction h with
  | init o _ => exact MarkSynced.init o
  | step hc hs ih => exact ih.step hc.inv hs

/-- **A deletion request is never undone.** In every step of a run, a stored object with a
DeletionTimestamp keeps that DeletionTimestamp, or is removed: a pass that fetched the object
before the request cannot write it back, since the request moved its version on. -/
theorem deletion_mark_kept {c c' : Config} (hc : Reachable c) (hs : Step c c') {o : EKSCluster}
    (ho : c.world.store = some o) (hdt : o.deletionTimestamp.isSome = true) :
    ∀ o' ∈ c'.world.store, o'.deletionTimestamp = o.deletionTimestamp := by
  obtain ⟨a, h⟩ := hs
  rcases Config.exec_cases h with rfl | ⟨i, p, req, resp, w, hp, hreq, hw, rfl⟩ |
    ⟨o', t, ho', rfl⟩ | ⟨hst, -, -⟩
  · rw [ho]; rintro _ ⟨⟩; rfl
  · rcases World.answer_cases p hw with ⟨hst, -⟩ | ⟨o', v, rfl, rfl, -⟩
    · rw [hst, ho]; rintro _ ⟨⟩; rfl
    · -- a write: the writer fetched the stored DeletionTimestamp and kept it
      obtain ⟨rfl, -⟩ := Pass.request_eq_update hreq
      obtain ⟨s, hs, hver, -, hw'⟩ := World.answer_update_ok hw
      cases ho.symm.trans hs
      have hmem := List.getElem?_mem hp
      rintro _ ho''
      cases mem_persist (hw' ▸ ho'')
      exact (hc.inv.passes p hmem).inv.tracks.deletionTimestamp.trans
        (hc.markSynced p hmem (Pc.live_of_request_update hreq) o ho hver).symm
  · -- a deletion request leaves a marked object as it is
    cases ho.symm.trans ho'
    intro o'' h'
    unfold requestDeletion at h'
    split_ifs at h'
    · cases h'
    · cases h'; rfl
  · rw [hst, ho]; rintro _ ⟨⟩; rfl

open Schedule in
/-- `deletionRun` with `client.Delete` failing, so that the second pass writes the marked object
back. -/
def failedDeletionRun : List (Config → Action) :=
  deletionRun.dropLast ++ [act (.respond 1 (.delete (.error ⟨.other, "throttled"⟩)))]

def deleteFailed : Config := replay sample failedDeletionRun

/-- The object `deleteFailed` stores. -/
def deleteFailedObject : EKSCluster := deleteFailed.world.store.getD {}

/-- `deleteFailed` after the second pass's write. -/
def deleteFailedWritten : Config :=
  (deleteFailed.exec (.respond 1 (.update (.ok 3)))).getD deleteFailed

theorem deletion_mark_kept_sample :
    Reachable deleteFailed ∧ Step deleteFailed deleteFailedWritten ∧
    deleteFailed.world.store = some deleteFailedObject ∧
    deleteFailedObject.deletionTimestamp.isSome = true ∧
    deleteFailedWritten.world.store.isSome = true ∧
    ∀ o' ∈ deleteFailedWritten.world.store,
      o'.deletionTimestamp = deleteFailedObject.deletionTimestamp :=
  have hc : Reachable deleteFailed := Reachable.replay sample failedDeletionRun rfl (by decide)
  have hs : Step deleteFailed deleteFailedWritten := ⟨.respond 1 (.update (.ok 3)), by decide⟩
  have ho : deleteFailed.world.store = some deleteFailedObject := by decide
  have hdt : deleteFailedObject.deletionTimestamp.isSome = true := by decide
  ⟨hc, hs, ho, hdt, by decide, deletion_mark_kept hc hs ho hdt⟩

end StackAws
