import StackAws.RunInvariant

/-!
The attribute referencers of `apis/network/v1alpha2` that resolve the security groups of an
`EKSCluster` (`SecurityGroupIDReferencerForEKSCluster` and
`SecurityGroupIDReferencerForEKSWorkerNodes` embed `SecurityGroupIDReferencer`), and
`InternetGatewayIDReferencer`, whose code is the same.

`GetStatus` and `Build` each read the target through `reader.Get`, at the time of the call, so
the target may change between the two reads. `getStatusOf` and `buildOf` are the code the two
referencers share, with the target's conditions and ID as parameters. `Targets` is the store the
reader reads, modelled from the spec: objects by name, written or deleted at any time.

* `build_reads_target_as_found`: whatever happens to the target between the two reads,
  `GetStatus` answers Ready exactly for a target whose Ready condition is True, and `Build`
  returns the ID of the object it then reads, whatever its conditions, failing exactly when that
  read fails. Only when no change touched the target's name is that the ID of the Ready target.
* `build_assigns_unready_target`: a target that became not ready, was deleted and recreated, or
  lost its ID after `GetStatus` found it Ready is built all the same; and in a run the
  resolution of an `EKSCluster` assigns such an ID, persists it, and asks `client.Create` for a
  cluster with it.
-/

namespace StackAws

/-- A `resource.ReferenceStatus`: the referenced object's name and what its referencer found. -/
structure NamedReferenceStatus where
  name : String
  status : ReferenceStatus
  deriving DecidableEq, Repr

/-- The part of a `SecurityGroup` its referencer reads. -/
structure SecurityGroup where
  conditions : List Condition := []
  securityGroupID : String := ""
  deriving DecidableEq, Repr

/-- The part of an `InternetGateway` its referencer reads. -/
structure InternetGateway where
  conditions : List Condition := []
  internetGatewayID : String := ""
  deriving DecidableEq, Repr

section Shared

variable {α : Type}

/-- The `GetStatus` both referencers run on what `reader.Get` returned for `name`. -/
def getStatusOf (conditions : α → List Condition) (name : String) :
    Except Error α → Except Error (List NamedReferenceStatus)
  | .error err => if isErrorNotFound err then .ok [⟨name, .referenceNotFound⟩] else .error err
  | .ok t =>
    if ¬ isConditionTrue (getCondition (conditions t) .typeReady) then
      .ok [⟨name, .referenceNotReady⟩]
    else .ok [⟨name, .referenceReady⟩]

/-- The `Build` both referencers run on what `reader.Get` returned: the ID the target records. -/
def buildOf (id : α → String) : Except Error α → Except Error String
  | .error err => .error err
  | .ok t => .ok (id t)

/-- `GetStatus` answers Ready exactly for an object whose Ready condition is True. -/
theorem getStatusOf_eq_ready (conditions : α → List Condition) (name : String)
    (r : Except Error α) :
    getStatusOf conditions name r = .ok [⟨name, .referenceReady⟩] ↔
      ∃ t, r = .ok t ∧ isConditionTrue (getCondition (conditions t) .typeReady) = true := by
  cases r with
  | error err => simp only [getStatusOf]; split <;> simp
  | ok t => by_cases h : isConditionTrue (getCondition (conditions t) .typeReady) = true <;>
      simp [getStatusOf, h]

/-- `Build` returns a value exactly for an object it read, and the value is that object's ID;
its conditions play no part. -/
theorem buildOf_eq_ok (id : α → String) (r : Except Error α) (val : String) :
    buildOf id r = .ok val ↔ ∃ t, r = .ok t ∧ id t = val := by
  cases r <;> simp [buildOf]

end Shared

/-- `SecurityGroupIDReferencer` (`securitygroup_referencers.go`, lines 34-36): the name of a
`SecurityGroup` in the referencing resource's namespace. -/
structure SecurityGroupIDReferencer where
  name : String
  deriving DecidableEq, Repr

namespace SecurityGroupIDReferencer

/-- Lines 39-56; `reader` is `reader.Get` in the referencing resource's namespace. -/
def getStatus (v : SecurityGroupIDReferencer) (reader : String → Except Error SecurityGroup) :
    Except Error (List NamedReferenceStatus) :=
  getStatusOf SecurityGroup.conditions v.name (reader v.name)

/-- Lines 59-67. The comment at line 58 says it builds the SubnetID; it returns the
SecurityGroupID. -/
def build (v : SecurityGroupIDReferencer) (reader : String → Except Error SecurityGroup) :
    Except Error String :=
  buildOf SecurityGroup.securityGroupID (reader v.name)

end SecurityGroupIDReferencer

/-- `InternetGatewayIDReferencer` (`subnet_type_test.go`, lines 91-93). -/
structure InternetGatewayIDReferencer where
  name : String
  deriving DecidableEq, Repr

namespace InternetGatewayIDReferencer

/-- Lines 96-112. -/
def getStatus (v : InternetGatewayIDReferencer) (reader : String → Except Error InternetGateway) :
    Except Error (List NamedReferenceStatus) :=
  getStatusOf InternetGateway.conditions v.name (reader v.name)

/-- Lines 115-123. -/
def build (v : InternetGatewayIDReferencer) (reader : String → Except Error InternetGateway) :
    Except Error String :=
  buildOf InternetGateway.internetGatewayID (reader v.name)

end InternetGatewayIDReferencer

/-- The objects of one kind in the referencing resource's namespace, by name, as the API server
holds them. -/
structure Targets (α : Type) where
  objects : List (String × α) := []
  deriving DecidableEq, Repr

/-- What may happen to a target between two reads: it is written (created, updated or created
again), or deleted. -/
inductive Targets.Change (α : Type) where
  | put (name : String) (t : α)
  | delete (name : String)

namespace Targets

variable {α : Type}

/-- `reader.Get`: the object of that name, or not-found. -/
def read (ts : Targets α) (name : String) : Except Error α :=
  match ts.objects.lookup name with
  | some t => .ok t
  | none => .error ⟨.notFound, name ++ " not found"⟩

def apply (ts : Targets α) : Change α → Targets α
  | .put name t => ⟨(name, t) :: ts.objects.filter (·.1 != name)⟩
  | .delete name => ⟨ts.objects.filter (·.1 != name)⟩

/-- The store after the changes `cs`, in turn. -/
def applyAll (ts : Targets α) (cs : List (Change α)) : Targets α := cs.foldl apply ts

/-- The name of the object a change writes or deletes. -/
def Change.name : Change α → String
  | .put name _ | .delete name => name

theorem lookup_filter_ne {n name : String} (h : n ≠ name) :
    ∀ l : List (String × α), (l.filter (·.1 != n)).lookup name = l.lookup name
  | [] => rfl
  | (k, t) :: l => by
    have ih := lookup_filter_ne h l
    by_cases hk : k = n
    · subst hk
      have hne : (name == k) = false := beq_false_of_ne (Ne.symm h)
      simp [List.filter, List.lookup, hne, ih]
    · have hkn : (k != n) = true := bne_iff_ne.mpr hk
      simp only [List.filter, hkn, List.lookup, ih]

/-- A change to another name leaves what `reader.Get` reads of `name` as it was. -/
theorem read_apply_of_ne (ts : Targets α) {ch : Change α} {name : String} (h : ch.name ≠ name) :
    (ts.apply ch).read name = ts.read name := by
  have hl : (ts.apply ch).objects.lookup name = ts.objects.lookup name := by
    cases ch with
    | put n t =>
      have hne : (name == n) = false := beq_false_of_ne (Ne.symm h)
      simp only [apply, List.lookup, hne]
      exact lookup_filter_ne h _
    | delete n => exact lookup_filter_ne h _
  simp only [read, hl]

theorem read_applyAll_of_ne {name : String} :
    ∀ (ts : Targets α) (cs : List (Change α)), (∀ ch ∈ cs, ch.name ≠ name) →
      (ts.applyAll cs).read name = ts.read name
  | _, [], _ => rfl
  | ts, ch :: cs, h =>
    (read_applyAll_of_ne (ts.apply ch) cs fun c hc => h c (.tail _ hc)).trans
      (read_apply_of_ne ts (h ch (.head _)))

end Targets

section TwoReads

variable {α : Type}

/-- What the two reads of one resolution give, for the code both referencers share: `GetStatus`
reads `ts`, `Build` reads `ts` after the changes `cs`. -/
theorem getStatusOf_buildOf (conditions : α → List Condition) (id : α → String)
    (ts : Targets α) (cs : List (Targets.Change α)) (name val : String) :
    (getStatusOf conditions name (ts.read name) = .ok [⟨name, .referenceReady⟩] ↔
      ∃ t, ts.read name = .ok t ∧ isConditionTrue (getCondition (conditions t) .typeReady)) ∧
    (buildOf id ((ts.applyAll cs).read name) = .ok val ↔
      ∃ t, (ts.applyAll cs).read name = .ok t ∧ id t = val) ∧
    ((∀ ch ∈ cs, ch.name ≠ name) →
      getStatusOf conditions name (ts.read name) = .ok [⟨name, .referenceReady⟩] →
      buildOf id ((ts.applyAll cs).read name) = .ok val →
      ∃ t, ts.read name = .ok t ∧ isConditionTrue (getCondition (conditions t) .typeReady) ∧
        id t = val) := by
  refine ⟨getStatusOf_eq_ready _ _ _, buildOf_eq_ok _ _ _, fun hcs hs hb => ?_⟩
  obtain ⟨t, ht, hr⟩ := (getStatusOf_eq_ready _ _ _).mp hs
  rw [Targets.read_applyAll_of_ne ts cs hcs] at hb
  obtain ⟨t', ht', hv⟩ := (buildOf_eq_ok _ _ _).mp hb
  cases ht.symm.trans ht'
  exact ⟨t, ht, hr, hv⟩

end TwoReads

/-- The security group an `EKSCluster` refers to by the name `web`. -/
def webGroup : SecurityGroupIDReferencer := ⟨"web"⟩

/-- `web` once its controller has created it: Ready, with its ID. -/
def readyWeb : SecurityGroup := { conditions := [available], securityGroupID := "sg-1" }

def readyTargets : Targets SecurityGroup := ⟨[("web", readyWeb)]⟩

/-- `web` after `GetStatus` found it Ready: its controller marked it Deleting, the ID kept. -/
def unreadyTargets : Targets SecurityGroup :=
  readyTargets.applyAll [.put "web" { readyWeb with conditions := [deleting] }]

/-- `web` deleted and created again; the new one is not Ready yet. -/
def recreatedTargets : Targets SecurityGroup :=
  readyTargets.applyAll [.delete "web", .put "web" { conditions := [creating], securityGroupID := "sg-2" }]

/-- `web` still Ready, with its ID cleared. -/
def idLostTargets : Targets SecurityGroup :=
  readyTargets.applyAll [.put "web" { readyWeb with securityGroupID := "" }]

/-- A resource whose security group is given by the reference `web`. -/
def sampleWithGroup : EKSCluster := { uid := "u3", spec := { securityGroupIdRefs := ["web"] } }

open Schedule in
/-- One pass of `sampleWithGroup`: `GetStatus` of `web` answers Ready, as the code does reading
`readyTargets`; `Build` answers what the code returns reading `unreadyTargets`; the resolver's
write succeeds. -/
def staleBuildRun : List (Config → Action) :=
  [act .spawn, fetch 0, act (.respond 0 (.connect (.ok ()))),
    act (.respond 0 (.getStatus (.ok .referenceReady))),
    act (.respond 0 (.build (webGroup.build unreadyTargets.read))), commit 0]

/-- **`Build` reads the target as it finds it.** Take a resolution whose `GetStatus` reads the
targets `ts` and whose `Build` reads them after the changes `cs`. For both referencers
`GetStatus` answers Ready exactly for an object whose Ready condition is True, while `Build`
returns a value exactly when it reads an object, and the value is that object's ID, whatever its
conditions. When no change touched the referenced name, the value is the ID of the target
`GetStatus` found Ready. -/
theorem build_reads_target_as_found :
    (∀ (v : SecurityGroupIDReferencer) (ts : Targets SecurityGroup)
      (cs : List (Targets.Change SecurityGroup)) (val : String),
      (v.getStatus ts.read = .ok [⟨v.name, .referenceReady⟩] ↔
        ∃ sg, ts.read v.name = .ok sg ∧ isConditionTrue (getCondition sg.conditions .typeReady)) ∧
      (v.build (ts.applyAll cs).read = .ok val ↔
        ∃ sg, (ts.applyAll cs).read v.name = .ok sg ∧ sg.securityGroupID = val) ∧
      ((∀ ch ∈ cs, ch.name ≠ v.name) → v.getStatus ts.read = .ok [⟨v.name, .referenceReady⟩] →
        v.build (ts.applyAll cs).read = .ok val →
        ∃ sg, ts.read v.name = .ok sg ∧ isConditionTrue (getCondition sg.conditions .typeReady) ∧
          sg.securityGroupID = val)) ∧
    (∀ (v : InternetGatewayIDReferencer) (ts : Targets InternetGateway)
      (cs : List (Targets.Change InternetGateway)) (val : String),
      (v.getStatus ts.read = .ok [⟨v.name, .referenceReady⟩] ↔
        ∃ ig, ts.read v.name = .ok ig ∧ isConditionTrue (getCondition ig.conditions .typeReady)) ∧
      (v.build (ts.applyAll cs).read = .ok val ↔
        ∃ ig, (ts.applyAll cs).read v.name = .ok ig ∧ ig.internetGatewayID = val) ∧
      ((∀ ch ∈ cs, ch.name ≠ v.name) → v.getStatus ts.read = .ok [⟨v.name, .referenceReady⟩] →
        v.build (ts.applyAll cs).read = .ok val →
        ∃ ig, ts.read v.name = .ok ig ∧ isConditionTrue (getCondition ig.conditions .typeReady) ∧
          ig.internetGatewayID = val)) :=
  ⟨fun v ts cs val => getStatusOf_buildOf _ _ ts cs v.name val,
    fun v ts cs val => getStatusOf_buildOf _ _ ts cs v.name val⟩

/-- **`Build` assigns a target that is no longer Ready.** After `GetStatus` found `web` Ready, a
`web` that became not ready, was deleted and created again, or lost its ID is built all the
same; and in a run the resolution of an `EKSCluster` assigns the ID of the not-ready `web`,
persists it, and waits on `client.Create`. -/
theorem build_assigns_unready_target :
    webGroup.getStatus readyTargets.read = .ok [⟨"web", .referenceReady⟩] ∧
    (webGroup.getStatus unreadyTargets.read = .ok [⟨"web", .referenceNotReady⟩] ∧
      webGroup.build unreadyTargets.read = .ok "sg-1") ∧
    (webGroup.getStatus recreatedTargets.read = .ok [⟨"web", .referenceNotReady⟩] ∧
      webGroup.build recreatedTargets.read = .ok "sg-2") ∧
    webGroup.build idLostTargets.read = .ok "" ∧
    ∃ c, Reachable c ∧ ∃ p ∈ c.passes, Resp.getStatus (.ok .referenceReady) ∈ p.trace ∧
      Resp.build (webGroup.build unreadyTargets.read) ∈ p.trace ∧ p.pc = .create ∧
      p.inst.spec.securityGroupIds = ["sg-1"] ∧
      ∃ o, c.world.store = some o ∧ o.spec.securityGroupIds = ["sg-1"] :=
  ⟨by decide, by decide, by decide, by decide, replay sampleWithGroup staleBuildRun,
    Reachable.replay sampleWithGroup staleBuildRun rfl (by decide), by decide⟩

end StackAws
