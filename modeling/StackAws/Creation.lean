import StackAws.RunInvariant

/-!
`_create` (`eks.go`, lines 166-198) when a creation is re-issued, and what the provider ends up
holding when status writes are lost.

* `create_already_exists_panics`: whatever the pass, an already-exists answer to `client.Create`
  makes `_create` read the version of the nil cluster returned with the error (line 186), so the
  pass crashes instead of completing the create.
* `reissued_creation_duplicates`: two runs. In one, a lost write makes the next pass re-issue
  `client.Create`, and that pass crashes. In the other, a lost write makes the next pass
  re-issue `CreateWorkerNodes`, and the provider ends up holding two worker stacks for the
  resource.
-/

namespace StackAws

theorem Pass.resume_create (inst fetched : EKSCluster) (resolved : Bool) (trace : List Resp)
    (r : Except Error Cluster) :
    (Pass.mk .create inst fetched resolved trace).resume (.create r) =
      (Pass.mk .create inst fetched resolved trace).created r := rfl

/-- An already-exists answer to `client.Create` crashes the pass. -/
theorem create_already_exists_panics (p : Pass) (hp : p.pc = .create) (err : Error)
    (h : isErrorAlreadyExists err = true) : (p.next (.create (.error err))).pc = .panic := by
  obtain ⟨pc, inst, fetched, resolved, trace⟩ := p
  cases hp
  simp only [Pass.next, Pass.resume_create, Pass.created, h, not_true_eq_false, if_false]

theorem create_already_exists_panics_fresh :
    ({ pc := .create } : Pass).pc = .create ∧
      isErrorAlreadyExists ⟨.alreadyExists, "cluster already exists"⟩ = true ∧
      (({ pc := .create } : Pass).next (.create (.error ⟨.alreadyExists, "cluster already exists"⟩))).pc =
        .panic :=
  ⟨rfl, rfl, create_already_exists_panics _ rfl _ rfl⟩

open Schedule in
/-- `client.Create` succeeds and the write that records the ClusterName is lost. -/
def lostCreateWriteRun : List (Config → Action) :=
  createRun ++ [act (.respond 0 (.update (.error ⟨.other, "etcd timeout"⟩)))]

open Schedule in
/-- After `lostCreateWriteRun` a second pass re-issues `client.Create`, which answers
already-exists. -/
def recreateRun : List (Config → Action) :=
  lostCreateWriteRun ++ [act .spawn, fetch 1, act (.respond 1 (.connect (.ok ()))),
    act (.respond 1 (.create (.error ⟨.alreadyExists, "cluster already exists"⟩)))]

/-- The cluster of `sample` once the provider reports it ACTIVE. -/
def sampleActive : Cluster :=
  { sampleCluster with status := clusterStatusActive, endpoint := "https://eks-u1.example" }

open Schedule in
/-- The cluster is created and recorded and becomes ACTIVE; a second pass creates the worker
stack, but the write that records its ID is lost; a third pass creates another. -/
def restackRun : List (Config → Action) :=
  createRun ++ [commit 0, act (.providerCluster sampleActive),
    act .spawn, fetch 1, act (.respond 1 (.connect (.ok ()))),
    act (.respond 1 (.getCluster (.ok sampleActive))),
    act (.respond 1 (.createWorkerNodes (.ok ⟨"stack-1", "CREATE_IN_PROGRESS", "", ""⟩))),
    act (.respond 1 (.update (.error ⟨.other, "etcd timeout"⟩))),
    act .spawn, fetch 2, act (.respond 2 (.connect (.ok ()))),
    act (.respond 2 (.getCluster (.ok sampleActive))),
    act (.respond 2 (.createWorkerNodes (.ok ⟨"stack-2", "CREATE_IN_PROGRESS", "", ""⟩)))]

/-- A re-issued `client.Create` crashes its pass, and a re-issued `CreateWorkerNodes` leaves the
provider with two worker stacks for one resource. -/
theorem reissued_creation_duplicates :
    (∃ c, Reachable c ∧ ∃ p ∈ c.passes, p.pc = .panic) ∧
    (∃ c, Reachable c ∧ c.world.provider.workerStacks.length = 2) :=
  ⟨⟨replay sample recreateRun, Reachable.replay sample recreateRun rfl (by decide), by decide⟩,
    ⟨replay sample restackRun, Reachable.replay sample restackRun rfl (by decide), by decide⟩⟩

end StackAws
