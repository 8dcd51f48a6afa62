import StackAws.DeletionMark
import StackAws.Creation

/-!
The lifecycle the controller exists for, and the proof that the stored object follows it.
`EKSCluster.phase` reads where a resource stands off its DeletionTimestamp, its recorded
identifiers and its Ready condition: no cluster recorded, a cluster being created (`_create`,
`eks.go` lines 166-198), worker nodes being created (`_sync`, lines 299-311), Ready (lines
333-345), or marked for deletion; `gone` once the store no longer holds it. `Phase.Next` is the
lifecycle as a state machine: provisioning moves one stage at a time and in order, a deletion
request marks the resource at any stage, and the store may let it go.

The link to the code is `Pass.Staged`: a pass keeps the phase of the object it fetched until it
writes, and then writes it advanced by at most one stage. Each stretch of the source keeps it
(one lemma per function of `StackAws.Reconcile`), and every stored object has its identifiers and
Ready set in order (`EKSCluster.Ordered`). With the compare-and-swap links `Inv` and `MarkSynced`,
a write lands on an object of the phase its pass fetched.

* `lifecycle_refines_phases`: every step of every run moves the stored object along
  `Phase.Next`.
* `ready_withdrawn_only_by_deletion`: over every run, a Ready resource stays Ready until it is
  marked for deletion or removed; no answer of the provider, a FAILED cluster included, takes it
  back to an earlier phase.
-/

namespace StackAws

/-- Where a resource stands in what the controller is for. -/
inductive Phase
  | unprovisioned
  | clusterCreating
  | workersCreating
  | ready
  | deleting
  | gone
  deriving DecidableEq, Repr

/-- The lifecycle: provisioning moves one stage at a time and in order, a deletion request marks
the resource at any stage, and the store may let it go. -/
inductive Phase.Next : Phase → Phase → Prop
  | stay (p : Phase) : Next p p
  | createCluster : Next .unprovisioned .clusterCreating
  | createWorkers : Next .clusterCreating .workersCreating
  | becomeReady : Next .workersCreating .ready
  | mark {p : Phase} : p ≠ .gone → Next p .deleting
  | remove (p : Phase) : Next p .gone

/-- How far along the lifecycle a phase is. -/
def Phase.rank : Phase → Nat
  | .unprovisioned => 0
  | .clusterCreating => 1
  | .workersCreating => 2
  | .ready => 3
  | .deleting => 4
  | .gone => 5

theorem Phase.Next.of_eq {p q : Phase} (h : p = q) : Next p q := h ▸ .stay p

/-- The lifecycle never goes back. -/
theorem Phase.Next.rank_le {p q : Phase} (h : Next p q) : p.rank ≤ q.rank := by
  cases h with
  | mark hp => cases p <;> first | exact absurd rfl hp | decide
  | remove p => cases p <;> decide
  | stay => exact le_rfl
  | _ => decide

namespace EKSCluster

/-- The phase of a stored object. -/
def phase (o : EKSCluster) : Phase :=
  if o.deletionTimestamp.isSome then .deleting
  else if o.status.clusterName = "" then .unprovisioned
  else if o.status.cloudFormationStackID = "" then .clusterCreating
  else if o.conditionTrue .typeReady then .ready
  else .workersCreating

theorem phase_of_marked {o : EKSCluster} (h : o.deletionTimestamp.isSome = true) :
    o.phase = .deleting :=
  if_pos h

theorem phase_ne_gone (o : EKSCluster) : o.phase ≠ .gone := by
  unfold phase; split_ifs <;> nofun

theorem phase_congr {o o' : EKSCluster} (hdt : o'.deletionTimestamp = o.deletionTimestamp)
    (hs : o'.status = o.status) : o'.phase = o.phase := by
  unfold phase conditionTrue; rw [hdt, hs]

/-- Setting a condition of another type than Ready keeps the phase. -/
theorem phase_setConditions (o : EKSCluster) {c : Condition} (hc : c.type ≠ .typeReady) :
    (o.setConditions [c]).phase = o.phase := by
  simp [phase, hc]

/-- A new status with the same conditions keeps every condition's truth. -/
@[simp] theorem conditionTrue_withStatus (o : EKSCluster) {s : EKSClusterStatus}
    (hs : s.conditions = o.status.conditions) (t : ConditionType) :
    ({ o with status := s } : EKSCluster).conditionTrue t = o.conditionTrue t := by
  simp only [conditionTrue, hs]

/-- `Available()` makes Ready true, and `ReconcileSuccess()` after it leaves it so. -/
@[simp] theorem conditionTrue_available (o : EKSCluster) :
    (o.setConditions [available, reconcileSuccess]).conditionTrue .typeReady = true := by
  rw [setConditions_cons]; simp

/-- Ready made true on an object with a worker stack recorded moves it on to `ready`. -/
theorem phase_next_of_ready {o o' : EKSCluster} (hdt : o'.deletionTimestamp = o.deletionTimestamp)
    (hcn : o'.status.clusterName = o.status.clusterName)
    (hs : o'.status.cloudFormationStackID = o.status.cloudFormationStackID)
    (hsne : o.status.cloudFormationStackID ≠ "") (hr : o'.conditionTrue .typeReady = true) :
    Phase.Next o.phase o'.phase := by
  unfold phase; rw [hdt, hcn, hs, hr]
  split_ifs <;> first | exact .stay _ | exact .becomeReady | contradiction

/-- With no cluster recorded, or once marked, Ready does not matter to the phase. -/
theorem phase_setConditions_of_unrecorded {o : EKSCluster} (c : Condition)
    (h : o.deletionTimestamp.isSome = true ∨ o.status.clusterName = "") :
    (o.setConditions [c]).phase = o.phase := by
  rcases h with h | h <;> simp [phase, h]

/-- Identifiers and Ready are set in order: Ready only with a worker stack recorded, a worker
stack only with a cluster recorded. -/
def Ordered (o : EKSCluster) : Prop :=
  (o.conditionTrue .typeReady = true → o.status.cloudFormationStackID ≠ "") ∧
    (o.status.cloudFormationStackID ≠ "" → o.status.clusterName ≠ "")

theorem Ordered.of_status {o o' : EKSCluster} (h : o.Ordered) (hs : o'.status = o.status) :
    o'.Ordered := by
  unfold Ordered conditionTrue; rwa [hs]

/-- A condition that does not make Ready true keeps the order. -/
theorem Ordered.setConditions {o : EKSCluster} (h : o.Ordered) {c : Condition}
    (hc : c.type = .typeReady → c.status ≠ .conditionTrue) : (o.setConditions [c]).Ordered := by
  refine ⟨fun hr => h.1 ?_, h.2⟩
  rw [conditionTrue_setConditions] at hr
  split_ifs at hr with ht
  exacts [absurd (beq_iff_eq.mp hr) (hc ht), hr]

/-- With no cluster recorded, no worker stack is recorded and Ready is not true. -/
theorem Ordered.of_clusterName_empty {o : EKSCluster} (h : o.Ordered)
    (hcn : o.status.clusterName = "") :
    o.status.cloudFormationStackID = "" ∧ o.conditionTrue .typeReady = false := by
  have hs : o.status.cloudFormationStackID = "" := by
    by_contra hs; exact h.2 hs hcn
  exact ⟨hs, by cases hr : o.conditionTrue .typeReady; rfl; exact absurd hs (h.1 hr)⟩

end EKSCluster

/-- The phase of what the store holds. -/
def storePhase : Option EKSCluster → Phase
  | none => .gone
  | some o => o.phase

/-! ## What a pass keeps of the phase it fetched -/

/-- Wherever a pass waits, its instance has the phase of the object it fetched, with what the path
there established; once it writes or ends, the phase moved along `Phase.Next`. -/
def Pass.StagedAt (p : Pass) : Prop :=
  match p.pc with
  | .update .. | .done .. | .panic => Phase.Next p.fetched.phase p.inst.phase
  | .create => p.inst.phase = p.fetched.phase ∧ p.inst.status.clusterName = ""
  | .getCluster => p.inst.phase = p.fetched.phase ∧ p.inst.status.clusterName ≠ ""
  | .createWorkerNodes _ => p.inst.phase = p.fetched.phase ∧ p.inst.status.clusterName ≠ "" ∧
      p.inst.status.cloudFormationStackID = ""
  | .getWorkerNodes _ | .awsauth .. | .secret _ =>
    p.inst.phase = p.fetched.phase ∧ p.inst.status.cloudFormationStackID ≠ ""
  | _ => p.inst.phase = p.fetched.phase

structure Pass.Staged (p : Pass) : Prop where
  fetched : p.fetched.Ordered
  inst : p.inst.Ordered
  atPc : p.StagedAt

/-- A pass that has not moved the phase of what it fetched. -/
structure Pass.Unmoved (p : Pass) : Prop where
  fetched : p.fetched.Ordered
  inst : p.inst.Ordered
  phase : p.inst.phase = p.fetched.phase

namespace Pass

variable {q : Pass}

theorem Unmoved.next (h : q.Unmoved) : Phase.Next q.fetched.phase q.inst.phase :=
  .of_eq h.phase.symm

theorem Unmoved.setConditions (h : q.Unmoved) {c : Condition} (hc : c.type ≠ .typeReady) :
    Unmoved { q with inst := q.inst.setConditions [c] } :=
  ⟨h.fetched, h.inst.setConditions fun ht => absurd ht hc,
    (q.inst.phase_setConditions hc).trans h.phase⟩

/-! Each stretch of code keeps `Staged`; only `created`, `createdWorkerNodes` and `published`
move the phase, each by one stage. -/

theorem fail_staged (h : q.Unmoved) (err : Error) : (q.fail err).Staged :=
  let h' := h.setConditions (c := reconcileError err) nofun
  ⟨h'.fetched, h'.inst, h'.next⟩

theorem resolutionFailed_staged (h : q.Unmoved) (err : Error) : (q.resolutionFailed err).Staged := by
  simp only [resolutionFailed]
  split_ifs
  · let h' := h.setConditions (c := referenceResolutionBlocked err) nofun
    exact ⟨h'.fetched, h'.inst, h'.next⟩
  · let h' := h.setConditions (c := reconcileError err) nofun
    exact ⟨h'.fetched, h'.inst, h'.next⟩

theorem deleted_staged (h : q.Unmoved) : q.deleted.Staged := by
  let q' : Pass := { q with inst := { q.inst with finalizers := removeFinalizer q.inst.finalizers finalizer } }
  let h' := Unmoved.setConditions (q := q') ⟨h.fetched, h.inst, h.phase⟩ (c := reconcileSuccess) nofun
  exact ⟨h'.fetched, h'.inst, h'.next⟩

theorem deleteDone_staged (h : q.Unmoved) (errs : List String) : (q.deleteDone errs).Staged := by
  unfold deleteDone; split
  exacts [fail_staged h _, deleted_staged h]

/-- `_delete` sets Ready false on a marked object, whose phase stays `deleting`. -/
theorem delete_staged (h : q.Unmoved) (hdt : q.inst.deletionTimestamp.isSome = true) :
    q.delete.Staged := by
  have h' : Unmoved { q with inst := q.inst.setConditions [deleting] } :=
    ⟨h.fetched, h.inst.setConditions (by simp),
      (q.inst.phase_setConditions_of_unrecorded _ (.inl hdt)).trans h.phase⟩
  simp only [delete]; split_ifs
  exacts [⟨h'.fetched, h'.inst, h'.phase⟩, deleted_staged h']

/-- `_create` sets Ready false on an object with no cluster recorded, whose phase stays. -/
theorem create_staged (h : q.Unmoved) (hcn : q.inst.status.clusterName = "") : q.create.Staged :=
  ⟨h.fetched, h.inst.setConditions (by simp),
    (q.inst.phase_setConditions_of_unrecorded _ (.inr hcn)).trans h.phase, hcn⟩

theorem dispatch_staged (h : q.Unmoved) : q.dispatch.Staged := by
  have h' : Unmoved { q with inst := { q.inst with finalizers := addFinalizer q.inst.finalizers finalizer } } :=
    ⟨h.fetched, h.inst, h.phase⟩
  simp only [dispatch]; split_ifs with hdt hcn
  exacts [delete_staged h' hdt, create_staged h' hcn, ⟨h.fetched, h.inst, h.phase, hcn⟩]

theorem referencesResolved_staged (h : q.Unmoved) : q.referencesResolved.Staged :=
  let h' := h.setConditions (c := referenceResolutionSuccess) nofun
  dispatch_staged ⟨h'.fetched, h'.inst, h'.phase⟩

theorem builds_staged (h : q.Unmoved) (rs : List Referencer) : (q.builds rs).Staged := by
  cases rs <;> exact ⟨h.fetched, h.inst, h.phase⟩

theorem getStatuses_staged (h : q.Unmoved) (rest : List Referencer)
    (statuses : List ReferenceStatus) : (q.getStatuses rest statuses).Staged := by
  cases rest with
  | cons => exact ⟨h.fetched, h.inst, h.phase⟩
  | nil => simp only [getStatuses]; split; exacts [builds_staged h _, resolutionFailed_staged h _]

theorem resolveReferences_staged (h : q.Unmoved) : q.resolveReferences.Staged := by
  unfold resolveReferences; split
  exacts [referencesResolved_staged h, ⟨h.fetched, h.inst, h.phase⟩]

/-- `client.Create` answered: a created cluster moves an object with none recorded on to
`clusterCreating`. -/
theorem created_staged (h : q.Unmoved) (hcn : q.inst.status.clusterName = "")
    (r : Except Error Cluster) : (q.created r).Staged := by
  cases r with
  | error err =>
    let h' := h.setConditions (c := reconcileError err) nofun
    simp only [created]; split_ifs
    all_goals first
      | exact fail_staged h err
      | exact ⟨h.fetched, h.inst, h.next⟩
      | exact ⟨h'.fetched, h'.inst, h'.next⟩
  | ok cl =>
    obtain ⟨hs, hr⟩ := h.inst.of_clusterName_empty hcn
    simp only [created]
    refine ⟨h.fetched, ⟨fun hr' => ?_, fun hs' => absurd hs hs'⟩, ?_⟩
    · simp [hr] at hr'
    · show Phase.Next q.fetched.phase (EKSCluster.phase _)
      rw [← h.phase]
      cases hdt : q.inst.deletionTimestamp <;>
        simp [EKSCluster.phase, hdt, hcn, hs, clusterName_ne_empty, Phase.Next.stay,
          Phase.Next.createCluster]

theorem gotCluster_staged (h : q.Unmoved) (hcn : q.inst.status.clusterName ≠ "")
    (r : Except Error Cluster) : (q.gotCluster r).Staged := by
  cases r with
  | error err => exact fail_staged h err
  | ok cl =>
    simp only [gotCluster]; split_ifs with _ hs
    · let h' := h.setConditions (c := reconcileSuccess) nofun
      exact ⟨h'.fetched, h'.inst, h'.next⟩
    · exact ⟨h.fetched, h.inst, h.phase, hcn, hs⟩
    · exact ⟨h.fetched, h.inst, h.phase, hs⟩

/-- `CreateWorkerNodes` answered: a recorded stack moves the object on to `workersCreating`. -/
theorem createdWorkerNodes_staged (h : q.Unmoved) (hcn : q.inst.status.clusterName ≠ "")
    (hs : q.inst.status.cloudFormationStackID = "") (r : Except Error ClusterWorkers) :
    (q.createdWorkerNodes r).Staged := by
  cases r with
  | error err => exact fail_staged h err
  | ok ws =>
    have hr : q.inst.conditionTrue .typeReady = false := by
      cases hr : q.inst.conditionTrue .typeReady; rfl; exact absurd hs (h.inst.1 hr)
    simp only [createdWorkerNodes]
    refine ⟨h.fetched, ⟨fun hr' => ?_, fun _ => hcn⟩, ?_⟩
    · simp [hr] at hr'
    · show Phase.Next q.fetched.phase (EKSCluster.phase _)
      rw [← h.phase]
      simp only [EKSCluster.phase, EKSCluster.setConditions_deletionTimestamp,
        EKSCluster.setConditions_clusterName, EKSCluster.setConditions_cloudFormationStackID,
        EKSCluster.conditionTrue_setConditions, reconcileSuccess, hcn, hs, if_false]
      simp [hr]
      split_ifs <;> first | exact .stay _ | exact .createWorkers

theorem gotWorkerNodes_staged (h : q.Unmoved) (hs : q.inst.status.cloudFormationStackID ≠ "")
    (cl : Cluster) (r : Except Error ClusterWorkers) : (q.gotWorkerNodes cl r).Staged := by
  cases r with
  | error err => exact fail_staged h err
  | ok ws =>
    let h' := h.setConditions (c := reconcileSuccess) nofun
    simp only [gotWorkerNodes]; split_ifs
    all_goals first
      | exact fail_staged h _
      | exact ⟨h'.fetched, h'.inst, h'.next⟩
      | exact ⟨h.fetched, h.inst, h.phase, hs⟩

/-- aws-auth and the secret pushed: Ready moves an object with a worker stack recorded on to
`ready`. -/
theorem published_staged (h : q.Unmoved) (hs : q.inst.status.cloudFormationStackID ≠ "")
    (cl : Cluster) (r : Except Error Unit) : (q.published cl r).Staged := by
  cases r with
  | error err => exact fail_staged h err
  | ok =>
    refine ⟨h.fetched, ⟨fun _ => hs, fun _ => h.inst.2 hs⟩, ?_⟩
    show Phase.Next q.fetched.phase (EKSCluster.phase _)
    rw [← h.phase]
    exact EKSCluster.phase_next_of_ready rfl rfl rfl hs
      ((EKSCluster.conditionTrue_withStatus _ rfl _).trans (EKSCluster.conditionTrue_available _))

/-- **Step lemma.** A legal answer keeps `Staged`, given that the store's object has its
identifiers and Ready in order. -/
theorem resume_staged {req : Req} {r : Resp} {w w' : World} (h : q.Staged)
    (hreq : q.request = some req) (hw : w.answer req r = some w')
    (hstore : ∀ o ∈ w.store, o.Ordered) : (q.resume r).Staged := by
  obtain ⟨pc, inst, fetched, resolved, trace⟩ := q
  obtain ⟨hf, ho, hat⟩ := h
  have hk := World.answeredBy_of_answer hw
  cases pc <;> cases hreq <;> cases r <;> cases hk <;> rename_i x
  · -- `r.Get` answered: the pass takes the store's object
    rcases x with err | o
    · exact ⟨hf, ho, .of_eq hat.symm⟩
    · have hs := hstore o (World.answer_get hw).1
      exact ⟨hs, hs, rfl⟩
  · rcases x with err | ⟨⟨⟩⟩
    · exact fail_staged ⟨hf, ho, hat⟩ err
    · dsimp only [resume]; split
      exacts [dispatch_staged ⟨hf, ho, hat⟩, resolveReferences_staged ⟨hf, ho, hat⟩]
  · rcases x with err | _
    exacts [resolutionFailed_staged ⟨hf, ho, hat⟩ err, getStatuses_staged ⟨hf, ho, hat⟩ _ _]
  · rcases x with err | _
    · exact resolutionFailed_staged ⟨hf, ho, hat⟩ err
    · refine builds_staged ?_ _; exact ⟨hf, ho, hat⟩
  · rcases x with err | _
    · exact resolutionFailed_staged ⟨hf, ho, hat⟩ err
    · refine referencesResolved_staged ?_; exact ⟨hf, ho, hat⟩
  · dsimp only [resume]; split
    exacts [⟨hf, ho, hat⟩, deleteDone_staged ⟨hf, ho, hat⟩ _]
  · exact deleteDone_staged ⟨hf, ho, hat⟩ _
  · exact created_staged ⟨hf, ho, hat.1⟩ hat.2 _
  · exact gotCluster_staged ⟨hf, ho, hat.1⟩ hat.2 _
  · exact createdWorkerNodes_staged ⟨hf, ho, hat.1⟩ hat.2.1 hat.2.2 _
  · exact gotWorkerNodes_staged ⟨hf, ho, hat.1⟩ hat.2 _ _
  · rcases x with err | ⟨⟨⟩⟩
    exacts [fail_staged ⟨hf, ho, hat.1⟩ _, ⟨hf, ho, hat⟩]
  · exact published_staged ⟨hf, ho, hat.1⟩ hat.2 _ _
  · rcases x with _ | _ <;> exact ⟨hf, ho, hat⟩

end Pass

/-! ## The run invariant and the refinement -/

structure StageInv (c : Config) : Prop where
  /-- Every stored object has its identifiers and Ready set in order. -/
  store : ∀ o ∈ c.world.store, o.Ordered
  /-- Every pass keeps the phase of what it fetched until it writes. -/
  passes : ∀ p ∈ c.passes, p.Staged

namespace StageInv

variable {c c' : Config}

theorem init {o : EKSCluster} (ho : o.status = {}) : StageInv (initial o) :=
  ⟨fun _ h => by
    cases h; exact EKSCluster.Ordered.of_status (o := {}) (by unfold EKSCluster.Ordered; decide) ho,
    fun _ hp => by cases hp⟩

/-- **Step lemma.** -/
theorem step (h : StageInv c) {a : Action} (hs : c.exec a = some c') : StageInv c' := by
  rcases Config.exec_cases hs with rfl | ⟨i, p, req, resp, w, hp, hreq, hw, rfl⟩ |
    ⟨o, t, ho, rfl⟩ | ⟨hst, hps, -⟩
  · refine ⟨h.store, fun q hq => ?_⟩
    rcases List.mem_append.mp hq with hq | hq
    · exact h.passes q hq
    · rw [List.mem_singleton.mp hq]
      exact ⟨by unfold EKSCluster.Ordered; decide, by unfold EKSCluster.Ordered; decide, rfl⟩
  · have hmem := List.getElem?_mem hp
    refine ⟨?_, fun q hq => ?_⟩
    · rcases World.answer_cases p hw with ⟨hst, -⟩ | ⟨o, v, rfl, rfl, -⟩
      · exact hst ▸ h.store
      · obtain ⟨rfl, -⟩ := Pass.request_eq_update hreq
        obtain ⟨-, -, -, -, hw'⟩ := World.answer_update_ok hw
        intro o' ho'
        rw [hw'] at ho'
        rw [mem_persist ho']
        exact (h.passes p hmem).inst
    · rcases List.mem_or_eq_of_mem_set hq with hq | rfl
      · exact h.passes q hq
      · have hs := h.passes p hmem
        exact Pass.resume_staged (q := { p with trace := p.trace ++ [resp] })
          ⟨hs.fetched, hs.inst, hs.atPc⟩ hreq hw h.store
  · exact ⟨fun o' ho' => (h.store o ho).of_status (mem_requestDeletion ho').1, h.passes⟩
  · exact ⟨hst ▸ h.store, hps ▸ h.passes⟩

/-- What a step does to the stored object's phase: a write lands on an object of the phase its
pass fetched (`Inv`, `MarkSynced`) and moves it as `Staged` says; a deletion request marks it. -/
theorem phase_next (h : StageInv c) (hi : Inv c) (hm : MarkSynced c) {a : Action}
    (hs : c.exec a = some c') : Phase.Next (storePhase c.world.store) (storePhase c'.world.store) := by
  rcases Config.exec_cases hs with rfl | ⟨i, p, req, resp, w, hp, hreq, hw, rfl⟩ |
    ⟨o, t, ho, rfl⟩ | ⟨hst, -, -⟩
  · exact .stay _
  · rcases World.answer_cases p hw with ⟨hst, -⟩ | ⟨o, v, rfl, rfl, -⟩
    · exact .of_eq (congrArg storePhase hst.symm)
    · have hmem := List.getElem?_mem hp
      have hlive := Pc.live_of_request_update hreq
      obtain ⟨rfl, hpc⟩ := Pass.request_eq_update hreq
      obtain ⟨s, hs, hver, -, hw'⟩ := World.answer_update_ok hw
      -- the object overwritten has the phase the pass fetched
      have hphase : s.phase = p.fetched.phase :=
        EKSCluster.phase_congr (hm p hmem hlive s hs hver)
          (((hi.passes p hmem).synced hlive s hs).2 hver).1
      have hnext : Phase.Next p.fetched.phase p.inst.phase := by
        have hat := (h.passes p hmem).atPc
        rcases hpc with hpc | ⟨_, _, hpc⟩ <;> simp only [Pass.StagedAt, hpc] at hat
        exacts [.of_eq hat.symm, hat]
      show Phase.Next (storePhase c.world.store) (storePhase w.store)
      rw [hs, hw']
      unfold persist
      split_ifs
      · exact .remove _
      · show Phase.Next s.phase (EKSCluster.phase _)
        rw [hphase]; exact hnext
  · show Phase.Next (storePhase c.world.store) (storePhase (requestDeletion o t))
    rw [ho]
    unfold requestDeletion
    split_ifs with hf hdt
    · exact .remove _
    · exact .stay _
    · -- the request marks the object
      have hmark : ∀ o' : EKSCluster, o'.deletionTimestamp.isSome = true →
          Phase.Next o.phase o'.phase := fun o' h' => by
        rw [EKSCluster.phase_of_marked h']; exact .mark (EKSCluster.phase_ne_gone o)
      exact hmark _ rfl
  · exact .of_eq (congrArg storePhase hst.symm)

end StageInv

theorem Reachable.stageInv {c : Config} (h : Reachable c) : StageInv c := by
  induction h with
  | init o ho => exact StageInv.init ho
  | step _ hs ih => obtain ⟨a, ha⟩ := hs; exact ih.step ha

/-- **The stored object follows the lifecycle.** Every step of every run moves the stored
object along `Phase.Next`: the controller records a cluster only for an object with none, a
worker stack only for one with a cluster, and Ready only for one with a worker stack, one stage
per write; a deletion request marks the object at any stage, and only the store lets it go. -/
theorem lifecycle_refines_phases {c c' : Config} (hc : Reachable c) (hs : Step c c') :
    Phase.Next (storePhase c.world.store) (storePhase c'.world.store) :=
  let ⟨_, ha⟩ := hs
  hc.stageInv.phase_next hc.inv hc.markSynced ha

theorem lifecycle_refines_phases_createdSample :
    Reachable createdSample ∧ Step createdSample createdSampleWritten ∧
    storePhase createdSample.world.store = .unprovisioned ∧
    storePhase createdSampleWritten.world.store = .clusterCreating ∧
    Phase.Next (storePhase createdSample.world.store) (storePhase createdSampleWritten.world.store) :=
  have hc : Reachable createdSample := Reachable.replay sample createRun rfl (by decide)
  have hs : Step createdSample createdSampleWritten := ⟨.respond 0 (.update (.ok 1)), by decide⟩
  ⟨hc, hs, by decide, by decide, lifecycle_refines_phases hc hs⟩

/-- Over a whole run the lifecycle never goes back. -/
theorem Reachable.phase_rank_le {c c' : Config} (hc : Reachable c) {as : List (Config → Action)}
    (hrun : c.run as = some c') : (storePhase c.world.store).rank ≤ (storePhase c'.world.store).rank := by
  induction as generalizing c with
  | nil => cases hrun; exact le_rfl
  | cons a as ih =>
    simp only [Config.run, Option.bind_eq_some] at hrun
    obtain ⟨c₁, h₁, hrun⟩ := hrun
    exact (hc.stageInv.phase_next hc.inv hc.markSynced h₁).rank_le.trans (ih (hc.step ⟨_, h₁⟩) hrun)

/-- **Ready is withdrawn only by deletion.** Over every run from a reachable configuration whose
stored object is Ready, the object stays Ready until it is marked for deletion or removed: no
answer of the provider, a cluster gone FAILED included, takes it back to an earlier phase. -/
theorem ready_withdrawn_only_by_deletion {c c' : Config} {as : List (Config → Action)}
    (hc : Reachable c) (hrun : c.run as = some c') (hready : storePhase c.world.store = .ready) :
    storePhase c'.world.store = .ready ∨ storePhase c'.world.store = .deleting ∨
      storePhase c'.world.store = .gone := by
  have hle := hc.phase_rank_le hrun
  rw [hready] at hle
  generalize storePhase c'.world.store = ph at hle ⊢
  cases ph <;> simp_all [Phase.rank]

/-- The worker stack of `sample` once it completed. -/
def sampleStack : ClusterWorkers := ⟨"stack-1", "CREATE_COMPLETE", "", "arn:aws:iam::1:role/node"⟩

open Schedule in
/-- The cluster is created and becomes ACTIVE, a second pass creates the worker stack and records
its ID, the stack completes, and a third pass pushes aws-auth and the secret and writes Ready. -/
def syncedSample : Config :=
  replay sample (createRun ++ [commit 0, act (.providerCluster sampleActive),
    act .spawn, fetch 1, act (.respond 1 (.connect (.ok ()))),
    act (.respond 1 (.getCluster (.ok sampleActive))),
    act (.respond 1 (.createWorkerNodes (.ok { sampleStack with workersStatus := "CREATE_IN_PROGRESS" }))),
    commit 1, act (.providerStack sampleStack),
    act .spawn, fetch 2, act (.respond 2 (.connect (.ok ()))),
    act (.respond 2 (.getCluster (.ok sampleActive))),
    act (.respond 2 (.getWorkerNodes (.ok sampleStack))), act (.respond 2 (.awsauth (.ok ()))),
    act (.respond 2 (.secret (.ok ()))), commit 2])

/-- The cluster of `syncedSample` once the provider reports it FAILED. -/
def syncedFailed : Cluster := { sampleActive with status := "FAILED" }

open Schedule in
/-- The cluster of a Ready resource fails, and a new pass finds it FAILED. -/
def failedResyncRun : List (Config → Action) :=
  [act (.providerCluster syncedFailed), act .spawn, fetch 3, act (.respond 3 (.connect (.ok ()))),
    act (.respond 3 (.getCluster (.ok syncedFailed)))]

def failedResync : Config := (syncedSample.run failedResyncRun).getD syncedSample

theorem ready_withdrawn_only_by_deletion_failedResync :
    Reachable syncedSample ∧ syncedSample.run failedResyncRun = some failedResync ∧
    storePhase syncedSample.world.store = .ready ∧
    (storePhase failedResync.world.store = .ready ∨ storePhase failedResync.world.store = .deleting ∨
      storePhase failedResync.world.store = .gone) :=
  have hc : Reachable syncedSample := Reachable.replay sample _ rfl (by decide)
  have hrun : syncedSample.run failedResyncRun = some failedResync := by decide
  have hready : storePhase syncedSample.world.store = .ready := by decide
  ⟨hc, hrun, hready, ready_withdrawn_only_by_deletion hc hrun hready⟩

end StackAws
