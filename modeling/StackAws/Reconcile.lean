import StackAws.Types

/-!
One pass of `Reconciler.Reconcile` (`eks.go`, lines 397-444) as a thread that stops at every
call to the outside world: the store (`r.Get`, `r.Update`), `r.connect`, the referencers'
`GetStatus` and `Build`, `r.awsauth`, `r.secret` and the `eks.Client`. `Pass.request` is the
call a pass waits on and `Pass.next` resumes it with the answer; the code between two calls
is the source's straight-line code, one function per stretch of it.

Three ghost fields record the pass's history for the theorems: the object `r.Get` returned,
whether `ResolveReferences` returned nil in this pass, and every answer the pass received.
-/

namespace StackAws

/-- Answers carry results, so runs are compared by comparing them. -/
instance decEqExcept {ε α : Type} [DecidableEq ε] [DecidableEq α] : DecidableEq (Except ε α)
  | .error a, .error b => decidable_of_iff (a = b) (by simp)
  | .ok a, .ok b => decidable_of_iff (a = b) (by simp)
  | .error _, .ok _ => isFalse (by simp)
  | .ok _, .error _ => isFalse (by simp)

/-- The calls a pass makes. `update` is both `r.Update` and the resolver's own store write. -/
inductive Req where
  | get
  | connect
  | getStatus (ref : Referencer)
  | build (ref : Referencer)
  | update (obj : EKSCluster)
  | create (name : String) (spec : EKSClusterSpec)
  | getCluster (name : String)
  | createWorkerNodes (name version : String) (spec : EKSClusterSpec)
  | getWorkerNodes (stackID : String)
  | awsauth (cluster : Cluster) (obj : EKSCluster) (workerARN : String)
  | secret (cluster : Cluster) (obj : EKSCluster)
  | delete (name : String)
  | deleteWorkerNodes (stackID : String)
  deriving DecidableEq, Repr

/-- The answers, one constructor per call. A successful `update` answers the new
`resourceVersion`. -/
inductive Resp where
  | get (r : Except Error EKSCluster)
  | connect (r : Except Error Unit)
  | getStatus (r : Except Error ReferenceStatus)
  | build (r : Except Error String)
  | update (r : Except Error Nat)
  | create (r : Except Error Cluster)
  | getCluster (r : Except Error Cluster)
  | createWorkerNodes (r : Except Error ClusterWorkers)
  | getWorkerNodes (r : Except Error ClusterWorkers)
  | awsauth (r : Except Error Unit)
  | secret (r : Except Error Unit)
  | delete (r : Except Error Unit)
  | deleteWorkerNodes (r : Except Error Unit)
  deriving DecidableEq, Repr

/-- Where a pass waits, with the locals of the source in scope there. -/
inductive Pc where
  | get
  | connect
  | getStatus (ref : Referencer) (rest : List Referencer) (statuses : List ReferenceStatus)
  | build (ref : Referencer) (rest : List Referencer)
  | resolveUpdate
  | delete
  | deleteWorkerNodes (deleteErrors : List String)
  | create
  | getCluster
  | createWorkerNodes (cluster : Cluster)
  | getWorkerNodes (cluster : Cluster)
  | awsauth (cluster : Cluster) (workerARN : String)
  | secret (cluster : Cluster)
  | update (result : Result) (wrap : Option String)
  | done (result : Result) (err : Option Error)
  | panic
  deriving DecidableEq, Repr

structure Pass where
  pc : Pc := .get
  inst : EKSCluster := {}
  fetched : EKSCluster := {}
  resolved : Bool := false
  trace : List Resp := []
  deriving DecidableEq, Repr

namespace Pass

def request (p : Pass) : Option Req :=
  match p.pc with
  | .get => some .get
  | .connect => some .connect
  | .getStatus ref _ _ => some (.getStatus ref)
  | .build ref _ => some (.build ref)
  | .resolveUpdate => some (.update p.inst)
  | .delete => some (.delete p.inst.status.clusterName)
  | .deleteWorkerNodes _ => some (.deleteWorkerNodes p.inst.status.cloudFormationStackID)
  | .create => some (.create (clusterNamePrefix ++ p.inst.uid) p.inst.spec)
  | .getCluster => some (.getCluster p.inst.status.clusterName)
  | .createWorkerNodes _ =>
    some (.createWorkerNodes p.inst.status.clusterName p.inst.status.clusterVersion p.inst.spec)
  | .getWorkerNodes _ => some (.getWorkerNodes p.inst.status.cloudFormationStackID)
  | .awsauth cluster workerARN => some (.awsauth cluster p.inst workerARN)
  | .secret cluster => some (.secret cluster p.inst)
  | .update _ _ => some (.update p.inst)
  | .done _ _ => none
  | .panic => none

theorem request_eq_get {p : Pass} (h : p.request = some .get) : p.pc = .get := by
  unfold request at h; split at h <;> cases h; assumption

theorem request_eq_update {p : Pass} {o : EKSCluster} (h : p.request = some (.update o)) :
    o = p.inst ∧ (p.pc = .resolveUpdate ∨ ∃ result wrap, p.pc = .update result wrap) := by
  unfold request at h
  split at h <;> cases h
  exacts [⟨rfl, .inl ‹_›⟩, ⟨rfl, .inr ⟨_, _, ‹_›⟩⟩]

theorem request_eq_delete {p : Pass} {name : String} (h : p.request = some (.delete name)) :
    p.pc = .delete ∧ name = p.inst.status.clusterName := by
  unfold request at h; split at h <;> cases h; exact ⟨‹_›, rfl⟩

theorem request_eq_create {p : Pass} {name : String} {spec : EKSClusterSpec}
    (h : p.request = some (.create name spec)) : p.pc = .create := by
  unfold request at h; split at h <;> cases h; assumption

theorem request_eq_createWorkerNodes {p : Pass} {name version : String} {spec : EKSClusterSpec}
    (h : p.request = some (.createWorkerNodes name version spec)) :
    ∃ cluster, p.pc = .createWorkerNodes cluster := by
  unfold request at h; split at h <;> cases h; exact ⟨_, ‹_›⟩

/-- `fail` (lines 133-140): the error is `r.Update`'s. -/
def fail (p : Pass) (err : Error) : Pass :=
  { p with pc := .update { requeueAfter := aShortWait } none,
           inst := p.inst.setConditions [reconcileError err] }

/-! ## `_delete` -/

/-- Lines 387-392. -/
def deleted (p : Pass) : Pass :=
  { p with pc := .update { requeue := false } none,
           inst := { p.inst with finalizers := removeFinalizer p.inst.finalizers finalizer
                   }.setConditions [reconcileSuccess] }

/-- Lines 369-370; with a ReclaimPolicy other than Delete (Retain, or unset) straight on to line 387. -/
def delete (p : Pass) : Pass :=
  let p := { p with inst := p.inst.setConditions [deleting] }
  if p.inst.spec.reclaimPolicy = .reclaimDelete then { p with pc := .delete } else p.deleted

/-- One deletion's entry in `deleteErrors` (lines 372-374 and 377-379): not-found counts as
success. -/
def deleteErrorsOf (label : String) : Except Error Unit → List String
  | .error err => if isErrorNotFound err then [] else [label ++ err.message]
  | .ok () => []

def masterDeleteErrors : Except Error Unit → List String := deleteErrorsOf "Master Delete Error: "

def workerDeleteErrors : Except Error Unit → List String := deleteErrorsOf "Worker Delete Error: "

/-- Lines 382-384: all failed deletions in one error; else on to line 387. -/
def deleteDone (p : Pass) (deleteErrors : List String) : Pass :=
  if deleteErrors.length > 0 then p.fail ⟨.other, ", ".intercalate deleteErrors⟩ else p.deleted

/-! ## `_create` -/

/-- Lines 167-171. -/
def create (p : Pass) : Pass := { p with pc := .create, inst := p.inst.setConditions [creating] }

/-- Lines 172-197. On already-exists the source reads `createdCluster.Version` of the nil
cluster `client.Create` returned with the error, and panics. -/
def created (p : Pass) : Except Error Cluster → Pass
  | .error err =>
    if ¬ isErrorAlreadyExists err then
      if isErrorBadRequest err then
        { p with pc := .update {} none, inst := p.inst.setConditions [reconcileError err] }
      else p.fail err
    else { p with pc := .panic }
  | .ok createdCluster =>
    { p with pc := .update { requeueAfter := aShortWait } none,
             inst := { p.inst with
                       status := { p.inst.status with
                                   clusterVersion := createdCluster.version
                                   state := clusterStatusCreating
                                   clusterName := clusterNamePrefix ++ p.inst.uid }
                     }.setConditions [reconcileSuccess] }

/-! ## `_sync` -/

/-- Lines 287-312 up to `client.CreateWorkerNodes` or `client.GetWorkerNodes`. A cluster that
is not yet ACTIVE ends the pass with no status write. -/
def gotCluster (p : Pass) : Except Error Cluster → Pass
  | .error err => p.fail err
  | .ok cluster =>
    if cluster.status ≠ clusterStatusActive then
      { p with pc := .done { requeueAfter := aShortWait } none,
               inst := p.inst.setConditions [reconcileSuccess] }
    else if p.inst.status.cloudFormationStackID = "" then { p with pc := .createWorkerNodes cluster }
    else { p with pc := .getWorkerNodes cluster }

/-- Lines 302-311. -/
def createdWorkerNodes (p : Pass) : Except Error ClusterWorkers → Pass
  | .error err => p.fail err
  | .ok clusterWorkers =>
    { p with pc := .update { requeueAfter := aShortWait } none,
             inst := { p.inst with
                       status := { p.inst.status with
                                   cloudFormationStackID := clusterWorkers.workerStackID }
                     }.setConditions [reconcileSuccess] }

/-- The error of line 320; Go's `%q` quoting is rendered as plain double quotes. -/
def stackFailed (w : ClusterWorkers) : Error :=
  ⟨.other, "clusterworker stack failed with status \"" ++ w.workersStatus ++ "\" and reason \"" ++
    w.workerReason ++ "\""⟩

/-- Lines 315-329. -/
def gotWorkerNodes (p : Pass) (cluster : Cluster) : Except Error ClusterWorkers → Pass
  | .error err => p.fail err
  | .ok clusterWorker =>
    if failedCFState clusterWorker.workersStatus then p.fail (stackFailed clusterWorker)
    else if ¬ completedCFState clusterWorker.workersStatus then
      { p with pc := .update { requeueAfter := aShortWait } none,
               inst := p.inst.setConditions [reconcileSuccess] }
    else { p with pc := .awsauth cluster clusterWorker.workerARN }

/-- Lines 333-345. -/
def published (p : Pass) (cluster : Cluster) : Except Error Unit → Pass
  | .error err => p.fail err
  | .ok () =>
    let o := { p.inst with
               status := { p.inst.status with endpoint := cluster.endpoint
                                              state := clusterStatusActive }
             }.setConditions [available, reconcileSuccess]
    { p with pc := .update { requeueAfter := aLongWait } none,
             inst := { o with status := { o.status with
                                          bindingPhase := setBindable o.status.bindingPhase } } }

/-! ## `Reconcile` and reference resolution -/

/-- Lines 429-443. -/
def dispatch (p : Pass) : Pass :=
  let p := { p with inst := { p.inst with finalizers := addFinalizer p.inst.finalizers finalizer } }
  if p.inst.deletionTimestamp.isSome then p.delete
  else if p.inst.status.clusterName = "" then p.create
  else { p with pc := .getCluster }

/-- Lines 425-426: `ResolveReferences` returned nil. -/
def referencesResolved (p : Pass) : Pass :=
  { p with inst := p.inst.setConditions [referenceResolutionSuccess], resolved := true }.dispatch

/-- Lines 416-422: the whole in-memory instance is written. -/
def resolutionFailed (p : Pass) (err : Error) : Pass :=
  let condition :=
    if isReferencesAccessError err then referenceResolutionBlocked err else reconcileError err
  { p with pc := .update { requeueAfter := aLongWait } (some errUpdateManagedStatus),
           inst := p.inst.setConditions [condition] }

/-- Modelled from the spec: the blocked outcome of §4.1, which `IsReferencesAccessError`
recognises. -/
def referencesAccessErr : Error :=
  ⟨.referencesAccess, "one or more referenced resources do not exist, or are not yet Ready"⟩

/-- Modelled from the spec: `ResolveReferences` builds and assigns each reference in turn
(§4.1), then writes the resource to the store. -/
def builds (p : Pass) : List Referencer → Pass
  | r :: rest => { p with pc := .build r rest }
  | [] => { p with pc := .resolveUpdate }

/-- Modelled from the spec: `ResolveReferences` first asks every unresolved referencer for its
status; a NotFound or NotReady one blocks the resolution. -/
def getStatuses (p : Pass) : List Referencer → List ReferenceStatus → Pass
  | r :: rest, statuses => { p with pc := .getStatus r rest statuses }
  | [], statuses =>
    if statuses.all (· == .referenceReady) then p.builds (unresolvedReferencers p.inst.spec)
    else p.resolutionFailed referencesAccessErr

/-- Modelled from the spec: `ResolveReferences` handles only the references whose literal field
is still empty (§4.1), and with none of them returns at once. -/
def resolveReferences (p : Pass) : Pass :=
  match unresolvedReferencers p.inst.spec with
  | [] => p.referencesResolved
  | r :: rest => { p with pc := .getStatus r rest [] }

/-- The code that runs once the call `p` waits on answered `r`. -/
def resume (p : Pass) (r : Resp) : Pass :=
  match p.pc, r with
  | .get, .get (.error err) => { p with pc := .done {} (if isErrorNotFound err then none else some err) }
  | .get, .get (.ok o) => { p with pc := .connect, inst := o, fetched := o }
  | .connect, .connect (.error err) => p.fail err
  | .connect, .connect (.ok ()) =>
    if p.inst.conditionTrue .typeReferencesResolved then p.dispatch else p.resolveReferences
  | .getStatus _ rest statuses, .getStatus (.ok s) => p.getStatuses rest (statuses ++ [s])
  | .getStatus .., .getStatus (.error err) => p.resolutionFailed err
  | .build ref rest, .build (.ok v) =>
    { p with inst := { p.inst with spec := ref.assign p.inst.spec v } }.builds rest
  | .build .., .build (.error err) => p.resolutionFailed err
  | .resolveUpdate, .update (.ok v) =>
    { p with inst := { p.inst with resourceVersion := v } }.referencesResolved
  | .resolveUpdate, .update (.error err) => p.resolutionFailed err
  | .delete, .delete r =>
    if p.inst.status.cloudFormationStackID ≠ "" then
      { p with pc := .deleteWorkerNodes (masterDeleteErrors r) }
    else p.deleteDone (masterDeleteErrors r)
  | .deleteWorkerNodes deleteErrors, .deleteWorkerNodes r =>
    p.deleteDone (deleteErrors ++ workerDeleteErrors r)
  | .create, .create r => p.created r
  | .getCluster, .getCluster r => p.gotCluster r
  | .createWorkerNodes _, .createWorkerNodes r => p.createdWorkerNodes r
  | .getWorkerNodes cluster, .getWorkerNodes r => p.gotWorkerNodes cluster r
  | .awsauth _ _, .awsauth (.error err) => p.fail (err.wrap "failed to set auth map on eks")
  | .awsauth cluster _, .awsauth (.ok ()) => { p with pc := .secret cluster }
  | .secret cluster, .secret r => p.published cluster r
  | .update result _, .update (.ok v) =>
    { p with pc := .done result none, inst := { p.inst with resourceVersion := v } }
  | .update result wrap, .update (.error err) =>
    { p with pc := .done result (some (match wrap with | some m => err.wrap m | none => err)) }
  | _, _ => p

/-- Record the answer, and resume. -/
def next (p : Pass) (r : Resp) : Pass := { p with trace := p.trace ++ [r] }.resume r

end Pass

end StackAws
