import Mathlib

/-!
The data the EKS cluster reconciler (`pkg/controller/compute/eks.go`) reads and writes:
the `EKSCluster` managed resource (`apis/compute/v1alpha2/types.go`), its condition set,
the referencers whose `Assign` fills spec fields from other resources, and the records the
`eks.Client` answers with.

The condition tracker and the finalizer helpers belong to crossplane-runtime, which is not
in this repository; they are modelled from the spec (§3, §4.4). Transition times are not
modelled, so setting a condition that is already present changes nothing.
-/

namespace StackAws

/-! ## Errors -/

/-- What the error predicates of the source test: `resource.IgnoreNotFound`,
`eks.IsErrorAlreadyExists`, `eks.IsErrorBadRequest`, `eks.IsErrorNotFound`,
`cloudformationclient.IsErrorNotFound` and `resource.IsReferencesAccessError`. -/
inductive ErrorCode where
  | notFound
  | alreadyExists
  | badRequest
  | referencesAccess
  | other
  deriving DecidableEq, Repr

structure Error where
  code : ErrorCode
  message : String
  deriving DecidableEq, Repr

def isErrorNotFound (e : Error) : Bool := e.code == .notFound

def isErrorAlreadyExists (e : Error) : Bool := e.code == .alreadyExists

def isErrorBadRequest (e : Error) : Bool := e.code == .badRequest

def isReferencesAccessError (e : Error) : Bool := e.code == .referencesAccess

/-- `errors.Wrap(err, msg)`: the cause keeps its code. -/
def Error.wrap (e : Error) (msg : String) : Error := { e with message := msg ++ ": " ++ e.message }

/-! ## Conditions -/

inductive ConditionType where
  | typeReady
  | typeSynced
  | typeReferencesResolved
  deriving DecidableEq, Repr

inductive ConditionStatus where
  | conditionTrue
  | conditionFalse
  | conditionUnknown
  deriving DecidableEq, Repr

inductive ConditionReason where
  | reasonAvailable
  | reasonCreating
  | reasonDeleting
  | reasonReconcileSuccess
  | reasonReconcileError
  | reasonReferenceResolveSuccess
  | reasonResolveReferencesBlocked
  deriving DecidableEq, Repr

structure Condition where
  type : ConditionType
  status : ConditionStatus
  reason : ConditionReason
  message : String := ""
  deriving DecidableEq, Repr

@[simp] def creating : Condition := ⟨.typeReady, .conditionFalse, .reasonCreating, ""⟩

@[simp] def deleting : Condition := ⟨.typeReady, .conditionFalse, .reasonDeleting, ""⟩

@[simp] def available : Condition := ⟨.typeReady, .conditionTrue, .reasonAvailable, ""⟩

@[simp] def reconcileSuccess : Condition := ⟨.typeSynced, .conditionTrue, .reasonReconcileSuccess, ""⟩

@[simp] def reconcileError (err : Error) : Condition :=
  ⟨.typeSynced, .conditionFalse, .reasonReconcileError, err.message⟩

@[simp] def referenceResolutionSuccess : Condition :=
  ⟨.typeReferencesResolved, .conditionTrue, .reasonReferenceResolveSuccess, ""⟩

@[simp] def referenceResolutionBlocked (err : Error) : Condition :=
  ⟨.typeReferencesResolved, .conditionFalse, .reasonResolveReferencesBlocked, err.message⟩

/-- Modelled from the spec: `SetConditions` (§4.4) replaces the condition of the same type
in place, or appends it when there is none. -/
def setCondition (cs : List Condition) (c : Condition) : List Condition :=
  if cs.any (·.type == c.type) then cs.map (fun e => if e.type = c.type then c else e)
  else cs ++ [c]

def setConditions (cs new : List Condition) : List Condition := new.foldl setCondition cs

/-- `GetCondition`; `none` stands for the runtime's condition of status Unknown. -/
def getCondition (cs : List Condition) (t : ConditionType) : Option Condition :=
  cs.find? (·.type == t)

def isConditionTrue : Option Condition → Bool
  | some c => c.status == .conditionTrue
  | none => false

theorem getCondition_setCondition (cs : List Condition) (c : Condition) (t : ConditionType) :
    getCondition (setCondition cs c) t = if c.type = t then some c else getCondition cs t := by
  unfold getCondition setCondition
  split
  · rename_i hany
    rw [List.find?_map]
    split
    · subst t
      obtain ⟨e, he, het⟩ := List.any_eq_true.mp hany
      have hp : ((·.type == c.type) ∘ fun e : Condition => if e.type = c.type then c else e) =
          (·.type == c.type) := by
        funext e; by_cases h : e.type = c.type <;> simp [h]
      rw [hp]
      cases hf : cs.find? (·.type == c.type) with
      | none => exact absurd het (List.find?_eq_none.mp hf e he)
      | some e' =>
        have h : e'.type = c.type := by simpa using List.find?_some hf
        simp [h]
    · rename_i hct
      have hp : ((·.type == t) ∘ fun e : Condition => if e.type = c.type then c else e) =
          (·.type == t) := by
        funext e; by_cases h : e.type = c.type <;> simp [h, hct]
      rw [hp]
      cases hf : cs.find? (·.type == t) with
      | none => rfl
      | some e' =>
        have h : e'.type = t := by simpa using List.find?_some hf
        simp [h, Ne.symm hct]
  · rename_i hany
    rw [List.find?_append]
    split
    · subst t
      have : cs.find? (·.type == c.type) = none :=
        List.find?_eq_none.mpr fun e he h => hany (List.any_eq_true.mpr ⟨e, he, h⟩)
      simp [this]
    · cases cs.find? (·.type == t) <;> simp [*]

@[simp] theorem getCondition_setConditions_single (cs : List Condition) (c : Condition)
    (t : ConditionType) :
    getCondition (setConditions cs [c]) t = if c.type = t then some c else getCondition cs t :=
  getCondition_setCondition cs c t

/-! ## Binding and finalizers -/

inductive BindingPhase where
  | unset
  | unbindable
  | unbound
  | bound
  | released
  deriving DecidableEq, Repr

/-- `resource.SetBindable`: a no-op in phases Bound and Released. -/
def setBindable : BindingPhase → BindingPhase
  | .bound => .bound
  | .released => .released
  | _ => .unbound

/-- Modelled from the spec: `meta.AddFinalizer` adds a finalizer once. -/
def addFinalizer (fs : List String) (f : String) : List String :=
  if f ∈ fs then fs else fs ++ [f]

/-- Modelled from the spec: `meta.RemoveFinalizer`. -/
def removeFinalizer (fs : List String) (f : String) : List String := fs.erase f

theorem mem_addFinalizer (fs : List String) (f : String) : f ∈ addFinalizer fs f := by
  unfold addFinalizer
  split
  · assumption
  · exact List.mem_append_right _ (List.mem_singleton_self _)

/-- Adding and then removing a finalizer removes the one that was there. -/
theorem removeFinalizer_addFinalizer (fs : List String) (f : String) :
    removeFinalizer (addFinalizer fs f) f = fs.erase f := by
  unfold removeFinalizer addFinalizer
  split
  · rfl
  · rw [List.erase_append_right [f] ‹f ∉ fs›, List.erase_of_not_mem ‹f ∉ fs›]; simp

/-! ## The EKSCluster managed resource -/

/-- crossplane-runtime's `ReclaimPolicy`: `Delete`, `Retain`, or `unset`, the empty string of a
Spec that leaves the optional field out. The controller only compares it with `ReclaimDelete`
(`eks.go`, line 370). -/
inductive ReclaimPolicy where
  | reclaimDelete
  | reclaimRetain
  | unset
  deriving DecidableEq, Repr

/-- `MapRole` (`types.go`, lines 211-220). -/
structure MapRole where
  roleARN : String
  username : String
  groups : List String
  deriving DecidableEq, Repr

/-- `MapUser` (`types.go`, lines 225-234). -/
structure MapUser where
  userARN : String
  username : String
  groups : List String
  deriving DecidableEq, Repr

/-- The referencer fields hold the name of the referenced resource
(`corev1.LocalObjectReference`). -/
structure WorkerNodesSpec where
  clusterControlPlaneSecurityGroup : String := ""
  clusterControlPlaneSecurityGroupRef : Option String := none
  deriving DecidableEq, Repr

structure EKSClusterSpec where
  reclaimPolicy : ReclaimPolicy := .unset
  roleARN : String := ""
  roleARNRef : Option String := none
  vpcId : String := ""
  vpcIdRef : Option String := none
  subnetIds : List String := []
  subnetIdRefs : List String := []
  securityGroupIds : List String := []
  securityGroupIdRefs : List String := []
  workerNodes : WorkerNodesSpec := {}
  mapRoles : List MapRole := []
  mapUsers : List MapUser := []
  deriving DecidableEq, Repr

structure EKSClusterStatus where
  conditions : List Condition := []
  bindingPhase : BindingPhase := .unset
  state : String := ""
  clusterName : String := ""
  clusterVersion : String := ""
  endpoint : String := ""
  cloudFormationStackID : String := ""
  deriving DecidableEq, Repr

/-- `DeletionTimestamp` is `some t` once deletion was requested at `t`. -/
structure EKSCluster where
  uid : String := ""
  resourceVersion : Nat := 0
  deletionTimestamp : Option Nat := none
  finalizers : List String := []
  spec : EKSClusterSpec := {}
  status : EKSClusterStatus := {}
  deriving DecidableEq, Repr

instance : Inhabited EKSCluster := ⟨{}⟩

namespace EKSCluster

def setConditions (o : EKSCluster) (cs : List Condition) : EKSCluster :=
  { o with status := { o.status with conditions := StackAws.setConditions o.status.conditions cs } }

def conditionTrue (o : EKSCluster) (t : ConditionType) : Bool :=
  isConditionTrue (getCondition o.status.conditions t)

@[simp] theorem setConditions_uid (o : EKSCluster) (cs) : (o.setConditions cs).uid = o.uid := rfl
@[simp] theorem setConditions_resourceVersion (o : EKSCluster) (cs) :
    (o.setConditions cs).resourceVersion = o.resourceVersion := rfl
@[simp] theorem setConditions_deletionTimestamp (o : EKSCluster) (cs) :
    (o.setConditions cs).deletionTimestamp = o.deletionTimestamp := rfl
@[simp] theorem setConditions_finalizers (o : EKSCluster) (cs) :
    (o.setConditions cs).finalizers = o.finalizers := rfl
@[simp] theorem setConditions_spec (o : EKSCluster) (cs) : (o.setConditions cs).spec = o.spec := rfl
@[simp] theorem setConditions_clusterName (o : EKSCluster) (cs) :
    (o.setConditions cs).status.clusterName = o.status.clusterName := rfl
@[simp] theorem setConditions_cloudFormationStackID (o : EKSCluster) (cs) :
    (o.setConditions cs).status.cloudFormationStackID = o.status.cloudFormationStackID := rfl
@[simp] theorem setConditions_endpoint (o : EKSCluster) (cs) :
    (o.setConditions cs).status.endpoint = o.status.endpoint := rfl
@[simp] theorem setConditions_state (o : EKSCluster) (cs) :
    (o.setConditions cs).status.state = o.status.state := rfl

theorem conditionTrue_of_conditions {o o' : EKSCluster}
    (h : o'.status.conditions = o.status.conditions) (t : ConditionType) :
    o'.conditionTrue t = o.conditionTrue t := by
  simp only [conditionTrue, h]

theorem setConditions_cons (o : EKSCluster) (c : Condition) (cs : List Condition) :
    o.setConditions (c :: cs) = (o.setConditions [c]).setConditions cs := rfl

/-- Setting a condition decides its type's truth and leaves the other types alone. -/
@[simp] theorem conditionTrue_setConditions (o : EKSCluster) (c : Condition) (t : ConditionType) :
    (o.setConditions [c]).conditionTrue t =
      if c.type = t then c.status == .conditionTrue else o.conditionTrue t := by
  unfold conditionTrue setConditions
  simp only [StackAws.setConditions, List.foldl_cons, List.foldl_nil, getCondition_setCondition]
  split <;> rfl

end EKSCluster

/-! ## Referencers -/

/-- The attribute referencers of an `EKSCluster`, one kind per referencer type of
`types.go`. -/
inductive ReferencerKind where
  | iamRoleARN
  | vpcID
  | subnetID
  | securityGroupID
  | workerSecurityGroupID
  deriving DecidableEq, Repr

structure Referencer where
  kind : ReferencerKind
  name : String
  deriving DecidableEq, Repr

/-- `VPCIDReferencerForEKSCluster.Assign`. -/
def VPCIDReferencerForEKSCluster.assign (s : EKSClusterSpec) (value : String) : EKSClusterSpec :=
  { s with vpcId := value }

/-- `IAMRoleARNReferencerForEKSCluster.Assign`. -/
def IAMRoleARNReferencerForEKSCluster.assign (s : EKSClusterSpec) (value : String) :
    EKSClusterSpec :=
  { s with roleARN := value }

/-- `SubnetIDReferencerForEKSCluster.Assign` appends. -/
def SubnetIDReferencerForEKSCluster.assign (s : EKSClusterSpec) (value : String) :
    EKSClusterSpec :=
  { s with subnetIds := s.subnetIds ++ [value] }

/-- `SecurityGroupIDReferencerForEKSCluster.Assign` appends. -/
def SecurityGroupIDReferencerForEKSCluster.assign (s : EKSClusterSpec) (value : String) :
    EKSClusterSpec :=
  { s with securityGroupIds := s.securityGroupIds ++ [value] }

/-- `SecurityGroupIDReferencerForEKSWorkerNodes.Assign`. -/
def SecurityGroupIDReferencerForEKSWorkerNodes.assign (s : EKSClusterSpec) (value : String) :
    EKSClusterSpec :=
  { s with workerNodes := { s.workerNodes with clusterControlPlaneSecurityGroup := value } }

def Referencer.assign (r : Referencer) (s : EKSClusterSpec) (value : String) : EKSClusterSpec :=
  match r.kind with
  | .iamRoleARN => IAMRoleARNReferencerForEKSCluster.assign s value
  | .vpcID => VPCIDReferencerForEKSCluster.assign s value
  | .subnetID => SubnetIDReferencerForEKSCluster.assign s value
  | .securityGroupID => SecurityGroupIDReferencerForEKSCluster.assign s value
  | .workerSecurityGroupID => SecurityGroupIDReferencerForEKSWorkerNodes.assign s value

/-- Modelled from the spec: the fields tagged `resource:"attributereferencer"`, in the order
of `EKSClusterParameters` (§9: an explicit tagged list). -/
def referencers (s : EKSClusterSpec) : List Referencer :=
  (s.roleARNRef.map (⟨.iamRoleARN, ·⟩)).toList ++ (s.vpcIdRef.map (⟨.vpcID, ·⟩)).toList ++
    s.subnetIdRefs.map (⟨.subnetID, ·⟩) ++ s.securityGroupIdRefs.map (⟨.securityGroupID, ·⟩) ++
    (s.workerNodes.clusterControlPlaneSecurityGroupRef.map (⟨.workerSecurityGroupID, ·⟩)).toList

/-- `Assign` never touches a referencer field. -/
theorem referencers_assign (r : Referencer) (s : EKSClusterSpec) (v : String) :
    referencers (r.assign s v) = referencers s := by
  cases r with | mk k n => cases k <;> rfl

/-- Modelled from the spec (§4.1): a reference is unresolved while its literal field is still
empty. -/
def Referencer.unresolved (r : Referencer) (s : EKSClusterSpec) : Bool :=
  match r.kind with
  | .iamRoleARN => s.roleARN == ""
  | .vpcID => s.vpcId == ""
  | .subnetID => s.subnetIds.isEmpty
  | .securityGroupID => s.securityGroupIds.isEmpty
  | .workerSecurityGroupID => s.workerNodes.clusterControlPlaneSecurityGroup == ""

/-- Modelled from the spec (§4.1): the references `ResolveReferences` looks up and assigns. -/
def unresolvedReferencers (s : EKSClusterSpec) : List Referencer :=
  (referencers s).filter (·.unresolved s)

inductive ReferenceStatus where
  | referenceNotFound
  | referenceNotReady
  | referenceReady
  deriving DecidableEq, Repr

/-! ## What the `eks.Client` answers with -/

/-- `eks.Cluster`, the fields the reconciler reads. -/
structure Cluster where
  name : String
  status : String
  version : String := ""
  endpoint : String := ""
  deriving DecidableEq, Repr

/-- `eks.ClusterWorkers`. -/
structure ClusterWorkers where
  workerStackID : String
  workersStatus : String
  workerReason : String := ""
  workerARN : String := ""
  deriving DecidableEq, Repr

/-- `reconcile.Result`; `requeueAfter` in seconds. -/
structure Result where
  requeue : Bool := false
  requeueAfter : Nat := 0
  deriving DecidableEq, Repr

/-! ## Constants of `eks.go` and `types.go` -/

def controllerName : String := "eks.compute.aws.crossplane.io"

def finalizer : String := "finalizer." ++ controllerName

def clusterNamePrefix : String := "eks-"

def aShortWait : Nat := 30

def aLongWait : Nat := 60

def errUpdateManagedStatus : String := "cannot update managed resource status"

def clusterStatusCreating : String := "CREATING"

def clusterStatusActive : String := "ACTIVE"

def completedCFState (s : String) : Bool := s ∈ ["CREATE_COMPLETE", "UPDATE_COMPLETE"]

def failedCFState (s : String) : Bool :=
  s ∈ ["CREATE_FAILED", "ROLLBACK_COMPLETE", "ROLLBACK_FAILED", "DELETE_COMPLETE", "DELETE_FAILED"]

end StackAws
