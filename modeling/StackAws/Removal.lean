import StackAws.RunInvariant

/-!
When the store may drop an `EKSCluster` that records a cluster.

`Reconcile` adds its finalizer before it runs `_create`, `_sync` or `_delete` (`eks.go`,
line 430), and only `_delete` removes it (line 387): at once under a ReclaimPolicy other than
Delete (Retain, or unset), and otherwise after `client.Delete` of the recorded ClusterName and,
with a stack ID recorded, `client.DeleteWorkerNodes` answered success or not-found. `FinalizerInv` says what each program
counter knows about the finalizers of the instance the pass will write, and `Guarded` is what
that gives the store: a write keeps the finalizers it fetched, keeps the finalizer, or drops it
after the delete branch finished.

* `recorded_cluster_keeps_finalizer`: in every run, a stored object that records a ClusterName
  carries the finalizer, or is being deleted and still has a finalizer.
* `recorded_cluster_removed_after_deletion`: a step that drops an object recording a ClusterName
  is the write of a pass whose delete branch finished for that ClusterName: under a ReclaimPolicy
  other than Delete, or after `client.Delete`, and `DeleteWorkerNodes` for a recorded stack ID,
  answered success or not-found.
-/

namespace StackAws

theorem Referencer.assign_reclaimPolicy (r : Referencer) (s : EKSClusterSpec) (v : String) :
    (r.assign s v).reclaimPolicy = s.reclaimPolicy := by
  cases r with | mk k n => cases k <;> rfl

theorem assignAll_reclaimPolicy :
    ∀ (rvs : List (Referencer × String)) (s : EKSClusterSpec),
      (assignAll s rvs).reclaimPolicy = s.reclaimPolicy
  | [], _ => rfl
  | rv :: rvs, s =>
    (assignAll_reclaimPolicy rvs (rv.1.assign s rv.2)).trans (rv.1.assign_reclaimPolicy s rv.2)

/-- Resolution never changes the ReclaimPolicy. -/
theorem AssignedOnce.reclaimPolicy {s s' : EKSClusterSpec} (h : AssignedOnce s s') :
    s'.reclaimPolicy = s.reclaimPolicy := by
  obtain ⟨pre, vs, -, -, rfl⟩ := h
  exact assignAll_reclaimPolicy _ _

/-! ## What a pass writes -/

/-- The pass still holds the finalizers, the DeletionTimestamp and the ClusterName it fetched. -/
def AsFetched (p : Pass) : Prop :=
  p.inst.finalizers = p.fetched.finalizers ∧
    p.inst.deletionTimestamp = p.fetched.deletionTimestamp ∧
    p.inst.status.clusterName = p.fetched.status.clusterName

/-- `client.Delete` answered success or not-found in this pass (lines 372-374). -/
def MasterDeleted (p : Pass) : Prop :=
  ∃ r, Resp.delete r ∈ p.trace ∧ Pass.masterDeleteErrors r = []

/-- What `_delete` has done when it reaches line 387: nothing under a ReclaimPolicy other than
Delete, and otherwise both deletions. -/
def DeletionsDone (p : Pass) : Prop :=
  p.inst.spec.reclaimPolicy ≠ .reclaimDelete ∨
    MasterDeleted p ∧ (p.inst.status.cloudFormationStackID ≠ "" →
      ∃ r, Resp.deleteWorkerNodes r ∈ p.trace ∧ Pass.workerDeleteErrors r = [])

/-- A write keeps the finalizers it fetched, keeps the finalizer, or drops it at the end of the
delete branch. -/
def WriteSafe (p : Pass) : Prop :=
  AsFetched p ∨ finalizer ∈ p.inst.finalizers ∨
    p.inst.deletionTimestamp.isSome = true ∧ DeletionsDone p

/-- What each program counter knows about the finalizers of the instance. -/
def FinalizerInv (p : Pass) : Prop :=
  match p.pc with
  | .get | .done .. | .panic => True
  | .connect | .getStatus .. | .build .. | .resolveUpdate => AsFetched p
  | .delete => finalizer ∈ p.inst.finalizers ∧ p.inst.deletionTimestamp.isSome = true
  | .deleteWorkerNodes deleteErrors =>
    finalizer ∈ p.inst.finalizers ∧ p.inst.deletionTimestamp.isSome = true ∧
      p.inst.status.cloudFormationStackID ≠ "" ∧ (deleteErrors = [] → MasterDeleted p)
  | .update .. => WriteSafe p
  | .create | .getCluster | .createWorkerNodes _ | .getWorkerNodes _ | .awsauth .. | .secret _ =>
    finalizer ∈ p.inst.finalizers

theorem MasterDeleted.mono {p q : Pass} (h : MasterDeleted p) (ht : p.trace ⊆ q.trace) :
    MasterDeleted q :=
  let ⟨r, hr, he⟩ := h
  ⟨r, ht hr, he⟩

theorem DeletionsDone.mono {p q : Pass} (h : DeletionsDone p) (ht : p.trace ⊆ q.trace)
    (hs : q.inst.spec = p.inst.spec)
    (hid : q.inst.status.cloudFormationStackID = p.inst.status.cloudFormationStackID) :
    DeletionsDone q := by
  rcases h with hr | ⟨hm, hw⟩
  · exact .inl (hs ▸ hr)
  · exact .inr ⟨hm.mono ht, fun h => let ⟨r, hr, he⟩ := hw (hid ▸ h); ⟨r, ht hr, he⟩⟩

theorem FinalizerInv.mono {p : Pass} (h : FinalizerInv p) {t : List Resp} (ht : p.trace ⊆ t) :
    FinalizerInv { p with trace := t } := by
  obtain ⟨pc, inst, fetched, resolved, trace⟩ := p
  cases pc
  case deleteWorkerNodes => exact ⟨h.1, h.2.1, h.2.2.1, fun he => (h.2.2.2 he).mono ht⟩
  case update =>
    rcases h with h | h | ⟨hd, h⟩
    exacts [.inl h, .inr (.inl h), .inr (.inr ⟨hd, h.mono ht rfl rfl⟩)]
  all_goals exact h

namespace Pass

variable {q : Pass}

theorem fail_finalizerInv (h : AsFetched q ∨ finalizer ∈ q.inst.finalizers) (err : Error) :
    FinalizerInv (q.fail err) :=
  h.elim .inl (.inr ∘ .inl)

theorem resolutionFailed_finalizerInv (h : AsFetched q) (err : Error) :
    FinalizerInv (q.resolutionFailed err) :=
  .inl h

theorem deleted_finalizerInv (hd : q.inst.deletionTimestamp.isSome = true) (h : DeletionsDone q) :
    FinalizerInv q.deleted :=
  .inr (.inr ⟨hd, h⟩)

theorem deleteDone_finalizerInv (hf : finalizer ∈ q.inst.finalizers)
    (hd : q.inst.deletionTimestamp.isSome = true) {errs : List String}
    (h : errs = [] → DeletionsDone q) : FinalizerInv (q.deleteDone errs) := by
  unfold deleteDone; split
  · exact fail_finalizerInv (.inr hf) _
  · exact deleted_finalizerInv hd (h (List.length_eq_zero.mp (by omega)))

theorem delete_finalizerInv (hf : finalizer ∈ q.inst.finalizers)
    (hd : q.inst.deletionTimestamp.isSome = true) : FinalizerInv q.delete := by
  simp only [delete]; split
  · exact ⟨hf, hd⟩
  · exact deleted_finalizerInv hd (.inl ‹_›)

/-- Once `Reconcile` added the finalizer, every branch holds it. -/
theorem dispatch_finalizerInv : FinalizerInv q.dispatch := by
  simp only [dispatch]; split
  · exact delete_finalizerInv (mem_addFinalizer _ _) ‹_›
  · split <;> exact mem_addFinalizer _ _

theorem builds_finalizerInv (h : AsFetched q) (rs : List Referencer) : FinalizerInv (q.builds rs) := by
  cases rs <;> exact h

theorem getStatuses_finalizerInv (h : AsFetched q) (rest : List Referencer)
    (statuses : List ReferenceStatus) : FinalizerInv (q.getStatuses rest statuses) := by
  cases rest with
  | cons => exact h
  | nil =>
    simp only [getStatuses]; split
    exacts [builds_finalizerInv h _, resolutionFailed_finalizerInv h _]

theorem resolveReferences_finalizerInv (h : AsFetched q) : FinalizerInv q.resolveReferences := by
  unfold resolveReferences; split
  exacts [dispatch_finalizerInv, h]

theorem created_finalizerInv (hf : finalizer ∈ q.inst.finalizers) (r : Except Error Cluster) :
    FinalizerInv (q.created r) := by
  cases r with
  | ok => exact .inr (.inl hf)
  | error =>
    simp only [created]; split
    · split
      exacts [.inr (.inl hf), fail_finalizerInv (.inr hf) _]
    · trivial

theorem gotCluster_finalizerInv (hf : finalizer ∈ q.inst.finalizers) (r : Except Error Cluster) :
    FinalizerInv (q.gotCluster r) := by
  cases r with
  | error => exact fail_finalizerInv (.inr hf) _
  | ok =>
    simp only [gotCluster]; split_ifs
    exacts [trivial, hf, hf]

theorem createdWorkerNodes_finalizerInv (hf : finalizer ∈ q.inst.finalizers)
    (r : Except Error ClusterWorkers) : FinalizerInv (q.createdWorkerNodes r) := by
  cases r
  exacts [fail_finalizerInv (.inr hf) _, .inr (.inl hf)]

theorem gotWorkerNodes_finalizerInv (hf : finalizer ∈ q.inst.finalizers) (cl : Cluster)
    (r : Except Error ClusterWorkers) : FinalizerInv (q.gotWorkerNodes cl r) := by
  cases r with
  | error => exact fail_finalizerInv (.inr hf) _
  | ok =>
    simp only [gotWorkerNodes]; split_ifs
    exacts [fail_finalizerInv (.inr hf) _, hf, .inr (.inl hf)]

theorem published_finalizerInv (hf : finalizer ∈ q.inst.finalizers) (cl : Cluster)
    (r : Except Error Unit) : FinalizerInv (q.published cl r) := by
  cases r
  exacts [fail_finalizerInv (.inr hf) _, .inr (.inl hf)]

/-- **Step lemma.** An answer of the kind the pass waits on keeps `FinalizerInv`, provided the
answer is already on the pass's trace. -/
theorem resume_finalizerInv (h : FinalizerInv q) {req : Req} {r : Resp} (hr : r ∈ q.trace)
    (hreq : q.request = some req) (hk : req.answeredBy r = true) : FinalizerInv (q.resume r) := by
  obtain ⟨pc, inst, fetched, resolved, trace⟩ := q
  cases pc <;> cases hreq <;> cases r <;> cases hk <;> rename_i x
  · rcases x with _ | _
    exacts [trivial, ⟨rfl, rfl, rfl⟩]
  · rcases x with _ | ⟨⟨⟩⟩
    · exact fail_finalizerInv (.inl h) _
    · dsimp only [resume]; split
      exacts [dispatch_finalizerInv, resolveReferences_finalizerInv h]
  · rcases x with _ | _
    exacts [resolutionFailed_finalizerInv h _, getStatuses_finalizerInv h _ _]
  · rcases x with _ | _
    exacts [resolutionFailed_finalizerInv h _, builds_finalizerInv (by exact h) _]
  · rcases x with _ | _
    exacts [resolutionFailed_finalizerInv h _, dispatch_finalizerInv]
  · -- `client.Delete` answered: on to `DeleteWorkerNodes`, or to line 382
    dsimp only [resume]; split
    · exact ⟨h.1, h.2, ‹_›, fun he => ⟨x, hr, he⟩⟩
    · exact deleteDone_finalizerInv h.1 h.2 fun he => .inr ⟨⟨x, hr, he⟩, fun hs => absurd hs ‹_›⟩
  · obtain ⟨hf, hd, -, hm⟩ := h
    exact deleteDone_finalizerInv hf hd fun he =>
      .inr ⟨hm (List.append_eq_nil.mp he).1, fun _ => ⟨x, hr, (List.append_eq_nil.mp he).2⟩⟩
  · exact created_finalizerInv h _
  · exact gotCluster_finalizerInv h _
  · exact createdWorkerNodes_finalizerInv h _
  · exact gotWorkerNodes_finalizerInv h _ _
  · rcases x with _ | ⟨⟨⟩⟩
    exacts [fail_finalizerInv (.inr h) _, h]
  · exact published_finalizerInv h _ _
  · rcases x with _ | _ <;> trivial

end Pass

/-- **Step lemma.** After every answer of the kind a pass waits on, it keeps `FinalizerInv`. -/
theorem FinalizerInv.next {p : Pass} (h : FinalizerInv p) {req : Req} {r : Resp}
    (hreq : p.request = some req) (hk : req.answeredBy r = true) : FinalizerInv (p.next r) :=
  @Pass.resume_finalizerInv { p with trace := p.trace ++ [r] }
    (h.mono (List.subset_append_left _ _)) req r (by simp) hreq hk

theorem FinalizerInv.writeSafe {p : Pass} {o : EKSCluster} (h : FinalizerInv p)
    (hreq : p.request = some (.update o)) : WriteSafe p := by
  unfold FinalizerInv at h
  rcases (Pass.request_eq_update hreq).2 with hpc | ⟨_, _, hpc⟩ <;> rw [hpc] at h
  exacts [.inl h, h]

/-! ## The store -/

/-- A stored object that records a ClusterName carries the finalizer, or is being deleted and
still has a finalizer, so the API server keeps it. -/
def Guarded (o : EKSCluster) : Prop :=
  o.status.clusterName ≠ "" →
    finalizer ∈ o.finalizers ∨ o.deletionTimestamp.isSome = true ∧ o.finalizers ≠ []

/-- The object a write persists is `Guarded` if the written instance is, up to the finalizers
that `persist` itself requires of an object it keeps. -/
theorem guarded_persist {o : EKSCluster} (v : Nat)
    (h : o.status.clusterName ≠ "" → finalizer ∈ o.finalizers ∨ o.deletionTimestamp.isSome = true) :
    ∀ o' ∈ persist o v, Guarded o' := by
  intro o' ho' hcn
  unfold persist at ho'
  split_ifs at ho' with hrm
  · cases ho'
  cases Option.mem_some_iff.mp ho'
  rcases h hcn with hf | hd
  exacts [.inl hf, .inr ⟨hd, fun hn => hrm ⟨hd, hn⟩⟩]

theorem guarded_requestDeletion {o : EKSCluster} (h : Guarded o) (t : Nat) :
    ∀ o' ∈ requestDeletion o t, Guarded o' := by
  intro o' ho'
  unfold requestDeletion at ho'
  split_ifs at ho' with hn
  · cases ho'
  · cases Option.mem_some_iff.mp ho'; exact h
  · cases Option.mem_some_iff.mp ho'; exact fun _ => .inr ⟨rfl, hn⟩

/-- What a pass writes is guarded when the object it fetched was. -/
theorem WriteSafe.guarded {p : Pass} (h : WriteSafe p) (hf : Guarded p.fetched) :
    p.inst.status.clusterName ≠ "" →
      finalizer ∈ p.inst.finalizers ∨ p.inst.deletionTimestamp.isSome = true := by
  intro hcn
  rcases h with ⟨hfin, hd, hc⟩ | hin | ⟨hd, -⟩
  · rcases hf (hc ▸ hcn) with hin | ⟨hd', -⟩
    exacts [.inl (hfin ▸ hin), .inr (hd ▸ hd')]
  · exact .inl hin
  · exact .inr hd

/-- **Run invariant.** The stored object and every object a pass fetched are `Guarded`, and every
pass keeps `FinalizerInv`. -/
structure GuardInv (c : Config) : Prop where
  store : ∀ o ∈ c.world.store, Guarded o
  passes : ∀ p ∈ c.passes, Guarded p.fetched ∧ FinalizerInv p

theorem GuardInv.init {o : EKSCluster} (ho : o.status = {}) : GuardInv (initial o) where
  store := fun _ h hcn => by cases h; exact absurd (by rw [ho]) hcn
  passes := fun _ h => by cases h

/-- An answered pass fetched a stored object, or kept the one it had. -/
theorem GuardInv.next_fetched {c : Config} (hg : GuardInv c) {p : Pass} {req : Req} {resp : Resp}
    {w : World} (hgf : Guarded p.fetched) (hreq : p.request = some req)
    (hw : c.world.answer req resp = some w) : Guarded (p.next resp).fetched := by
  rcases Pass.next_cases p resp with ⟨hpc, o, rfl, -, hfe⟩ | ⟨-, -, -, hfe, -⟩ |
    ⟨-, -, -, -, -, hfe, -⟩ | ⟨hfe, -⟩ | ⟨-, hfe, -⟩
  · rw [Pass.request, hpc] at hreq
    cases hreq
    rw [hfe]
    exact hg.store o (World.answer_get hw).1
  all_goals rw [hfe]; exact hgf

/-- **Step lemma.** Every action keeps `GuardInv`. -/
theorem GuardInv.step {c c' : Config} (hg : GuardInv c) (hs : Step c c') : GuardInv c' := by
  obtain ⟨a, h⟩ := hs
  rcases Config.exec_cases h with rfl | ⟨i, p, req, resp, w, hp, hreq, hw, rfl⟩ |
    ⟨o, t, ho, rfl⟩ | ⟨hs, hps, -⟩
  · -- a new pass
    refine ⟨hg.store, fun q hq => ?_⟩
    rcases List.mem_append.mp hq with hq | hq
    · exact hg.passes q hq
    · cases List.mem_singleton.mp hq
      exact ⟨fun hcn => absurd rfl hcn, trivial⟩
  · -- an answered call
    obtain ⟨hgf, hfi⟩ := hg.passes p (List.getElem?_mem hp)
    refine ⟨?_, fun q hq => ?_⟩
    · rcases World.answer_cases p hw with ⟨hs, -⟩ | ⟨o, v, rfl, rfl, -⟩
      · rw [hs]; exact hg.store
      · obtain ⟨rfl, -⟩ := Pass.request_eq_update hreq
        obtain ⟨-, -, -, -, hw'⟩ := World.answer_update_ok hw
        rw [hw']
        exact guarded_persist v ((hfi.writeSafe hreq).guarded hgf)
    · rcases List.mem_or_eq_of_mem_set hq with hq | rfl
      · exact hg.passes q hq
      · exact ⟨hg.next_fetched hgf hreq hw, hfi.next hreq (World.answeredBy_of_answer hw)⟩
  · -- a deletion request
    exact ⟨guarded_requestDeletion (hg.store o ho) t, hg.passes⟩
  · -- the provider moved on its own
    exact ⟨by rw [hs]; exact hg.store, by rw [hps]; exact hg.passes⟩

theorem Reachable.guardInv {c : Config} (h : Reachable c) : GuardInv c := by
  induction h with
  | init o ho => exact GuardInv.init ho
  | step _ hs ih => exact ih.step hs

/-- **A recorded cluster keeps its finalizer.** In every run, a stored `EKSCluster` that records a
ClusterName carries the controller's finalizer, or is being deleted and still has a finalizer,
so the API server does not drop it on its own. -/
theorem recorded_cluster_keeps_finalizer {c : Config} (hc : Reachable c) {o : EKSCluster}
    (ho : c.world.store = some o) (hcn : o.status.clusterName ≠ "") :
    finalizer ∈ o.finalizers ∨ o.deletionTimestamp.isSome = true ∧ o.finalizers ≠ [] :=
  hc.guardInv.store o ho hcn

/-- The object `createdSample` stores once its write succeeded. -/
def createdSampleObject : EKSCluster := createdSampleWritten.world.store.getD {}

theorem recorded_cluster_keeps_finalizer_createdSample :
    Reachable createdSampleWritten ∧ createdSampleWritten.world.store = some createdSampleObject ∧
    createdSampleObject.status.clusterName ≠ "" ∧
    (finalizer ∈ createdSampleObject.finalizers ∨
      createdSampleObject.deletionTimestamp.isSome = true ∧ createdSampleObject.finalizers ≠ []) :=
  have hc : Reachable createdSampleWritten :=
    (Reachable.replay sample createRun rfl (by decide)).step ⟨.respond 0 (.update (.ok 1)), by decide⟩
  have ho : createdSampleWritten.world.store = some createdSampleObject := by decide
  have hcn : createdSampleObject.status.clusterName ≠ "" := by decide
  ⟨hc, ho, hcn, recorded_cluster_keeps_finalizer hc ho hcn⟩

/-! ## Removal -/

theorem finalizers_of_requestDeletion_eq_none {o : EKSCluster} {t : Nat}
    (h : requestDeletion o t = none) : o.finalizers = [] := by
  unfold requestDeletion at h
  split_ifs at h with hf
  exact hf

theorem persist_eq_none {o : EKSCluster} {v : Nat} (h : persist o v = none) :
    o.deletionTimestamp.isSome = true ∧ o.finalizers = [] := by
  unfold persist at h
  split_ifs at h with hrm
  exact hrm

/-- A write that leaves a recorded cluster's object without finalizers is the one at the end of
the delete branch. -/
theorem WriteSafe.deletionsDone {p : Pass} (h : WriteSafe p) (hf : Guarded p.fetched)
    (hcn : p.fetched.status.clusterName ≠ "") (hrm : p.inst.finalizers = []) : DeletionsDone p := by
  rcases h with ⟨hfin, -, -⟩ | hin | ⟨-, hdone⟩
  · rcases hf hcn with hin | ⟨-, hne⟩
    · rw [← hfin, hrm] at hin; cases hin
    · exact absurd (hfin ▸ hrm) hne
  · rw [hrm] at hin; cases hin
  · exact hdone

/-- The spec at a pass's version has the ReclaimPolicy of the pass's instance. -/
theorem Tracks.syncedSpec_reclaimPolicy {p : Pass} (ht : Tracks p) :
    p.syncedSpec.reclaimPolicy = p.inst.spec.reclaimPolicy := by
  unfold Pass.syncedSpec; split
  exacts [ht.spec.reclaimPolicy.symm, rfl]

/-- **A recorded cluster is removed only after deletion.** A step of a run that drops a stored
`EKSCluster` recording a ClusterName is the successful write of a pass whose instance records
that ClusterName and whose delete branch finished: the object's ReclaimPolicy is not Delete, or
`client.Delete` answered success or not-found, and so did `DeleteWorkerNodes` of the stack ID
if the object records one. -/
theorem recorded_cluster_removed_after_deletion {c c' : Config} (hc : Reachable c)
    (hs : Step c c') {o : EKSCluster} (ho : c.world.store = some o)
    (hcn : o.status.clusterName ≠ "") (hgone : c'.world.store = none) :
    ∃ p ∈ c.passes, c'.writes = c.writes ++ [(p, p.inst)] ∧
      p.inst.status.clusterName = o.status.clusterName ∧
      (o.spec.reclaimPolicy ≠ .reclaimDelete ∨
        (∃ r, Resp.delete r ∈ p.trace ∧ Pass.masterDeleteErrors r = []) ∧
        (o.status.cloudFormationStackID ≠ "" →
          p.inst.status.cloudFormationStackID = o.status.cloudFormationStackID ∧
          ∃ r, Resp.deleteWorkerNodes r ∈ p.trace ∧ Pass.workerDeleteErrors r = [])) := by
  have hg := hc.guardInv
  obtain ⟨a, h⟩ := hs
  rcases Config.exec_cases h with rfl | ⟨i, p, req, resp, w, hp, hreq, hw, rfl⟩ |
    ⟨o', t, ho', rfl⟩ | ⟨hst, -, -⟩
  · rw [ho] at hgone; cases hgone
  · rcases World.answer_cases p hw with ⟨hst, -⟩ | ⟨o', v, rfl, rfl, hwr⟩
    · rw [hst, ho] at hgone; cases hgone
    obtain ⟨rfl, -⟩ := Pass.request_eq_update hreq
    obtain ⟨s, hs, hver, -, hw'⟩ := World.answer_update_ok hw
    cases ho.symm.trans hs
    have hmem := List.getElem?_mem hp
    have hf := hc.inv.passes p hmem
    obtain ⟨hgf, hfi⟩ := hg.passes p hmem
    obtain ⟨hst, hsp⟩ := (hf.synced (Pc.live_of_request_update hreq) o ho).2 hver
    rw [hst] at hcn ⊢
    rw [hsp, hf.inv.tracks.syncedSpec_reclaimPolicy]
    have hids := hf.inv.tracks.ids.kept
    refine ⟨p, hmem, by rw [hwr], hids.1 hcn, ?_⟩
    -- the write at the end of the delete branch
    rcases (hfi.writeSafe hreq).deletionsDone hgf hcn (persist_eq_none (hw' ▸ hgone)).2 with
      hr | ⟨hm, hwk⟩
    · exact .inl hr
    · exact .inr ⟨hm, fun hsk => ⟨hids.2 hsk, hwk (hids.2 hsk ▸ hsk)⟩⟩
  · -- a deletion request drops only an object without finalizers
    cases ho.symm.trans ho'
    have hn := finalizers_of_requestDeletion_eq_none hgone
    rcases hg.store o ho hcn with hin | ⟨-, hne⟩
    · rw [hn] at hin; cases hin
    · exact absurd hn hne
  · rw [hst, ho] at hgone; cases hgone

open Schedule in
/-- `createRun`'s write, a deletion request, and a second pass whose `client.Delete` succeeds. -/
def deletionRun : List (Config → Action) :=
  createRun ++ [commit 0, act (.requestDeletion 5), act .spawn, fetch 1,
    act (.respond 1 (.connect (.ok ()))), act (.respond 1 (.delete (.ok ())))]

def deletingSample : Config := replay sample deletionRun

/-- The object `deletingSample` stores. -/
def deletingSampleObject : EKSCluster := deletingSample.world.store.getD {}

/-- `deletingSample` after the second pass's write. -/
def deletedSample : Config := (deletingSample.exec (.respond 1 (.update (.ok 3)))).getD deletingSample

theorem recorded_cluster_removed_after_deletion_sample :
    Reachable deletingSample ∧ Step deletingSample deletedSample ∧
    deletingSample.world.store = some deletingSampleObject ∧
    deletingSampleObject.status.clusterName ≠ "" ∧ deletedSample.world.store = none ∧
    ∃ p ∈ deletingSample.passes, deletedSample.writes = deletingSample.writes ++ [(p, p.inst)] ∧
      p.inst.status.clusterName = deletingSampleObject.status.clusterName ∧
      (deletingSampleObject.spec.reclaimPolicy ≠ .reclaimDelete ∨
        (∃ r, Resp.delete r ∈ p.trace ∧ Pass.masterDeleteErrors r = []) ∧
        (deletingSampleObject.status.cloudFormationStackID ≠ "" →
          p.inst.status.cloudFormationStackID = deletingSampleObject.status.cloudFormationStackID ∧
          ∃ r, Resp.deleteWorkerNodes r ∈ p.trace ∧ Pass.workerDeleteErrors r = [])) :=
  have hc : Reachable deletingSample := Reachable.replay sample deletionRun rfl (by decide)
  have hs : Step deletingSample deletedSample := ⟨.respond 1 (.update (.ok 3)), by decide⟩
  have ho : deletingSample.world.store = some deletingSampleObject := by decide
  have hcn : deletingSampleObject.status.clusterName ≠ "" := by decide
  have hgone : deletedSample.world.store = none := by decide
  ⟨hc, hs, ho, hcn, hgone, recorded_cluster_removed_after_deletion hc hs ho hcn hgone⟩

end StackAws
