import StackAws.World
import StackAws.Assignment

/-!
What a pass knows about its in-memory instance wherever it waits. `Tracks` relates the
instance to the object the pass fetched: the same UID and `DeletionTimestamp`, identifiers
that only advance (`IdsAdvance`), Ready=True only as fetched or after everything Available
needs was seen (`AvailableObserved`), and TypeReferencesResolved=True only as fetched or after
`ResolveReferences` returned nil. `AtPc` adds what the path to each call established.

Each stretch of the source keeps both (one lemma per function of `StackAws.Reconcile`), so
`PassInv.next` shows that any answer keeps them.
-/

namespace StackAws

/-- An empty ClusterName may become `eks-<UID>`; an empty stack ID may be filled in once
ClusterName is set. -/
def IdsAdvance (f o : EKSCluster) : Prop :=
  (o.status.clusterName = f.status.clusterName ∨
      f.status.clusterName = "" ∧ o.status.clusterName = clusterNamePrefix ++ f.uid) ∧
    (o.status.cloudFormationStackID = f.status.cloudFormationStackID ∨
      f.status.cloudFormationStackID = "" ∧ f.status.clusterName ≠ "" ∧
        o.status.clusterName = f.status.clusterName)

/-- Client.Get reported the cluster ACTIVE, GetWorkerNodes a completed stack, aws-auth and
the connection secret succeeded, and `o` carries that cluster's endpoint and State ACTIVE. -/
def AvailableObserved (trace : List Resp) (o : EKSCluster) : Prop :=
  ∃ cl ws, Resp.getCluster (.ok cl) ∈ trace ∧ cl.status = clusterStatusActive ∧
    Resp.getWorkerNodes (.ok ws) ∈ trace ∧ completedCFState ws.workersStatus = true ∧
    Resp.awsauth (.ok ()) ∈ trace ∧ Resp.secret (.ok ()) ∈ trace ∧
    o.status.endpoint = cl.endpoint ∧ o.status.state = clusterStatusActive

structure Tracks (p : Pass) : Prop where
  uid : p.inst.uid = p.fetched.uid
  deletionTimestamp : p.inst.deletionTimestamp = p.fetched.deletionTimestamp
  ids : IdsAdvance p.fetched p.inst
  ready : p.inst.conditionTrue .typeReady = true →
    (p.fetched.conditionTrue .typeReady = true ∧ p.inst.status.endpoint = p.fetched.status.endpoint ∧
      p.inst.status.state = p.fetched.status.state) ∨ AvailableObserved p.trace p.inst
  refs : p.inst.conditionTrue .typeReferencesResolved = true →
    p.resolved = true ∨ p.fetched.conditionTrue .typeReferencesResolved = true
  spec : AssignedOnce p.fetched.spec p.inst.spec

/-- Resolution succeeded in this pass, or the pass fetched it as done. -/
def Gate (p : Pass) : Prop :=
  p.resolved = true ∨ p.fetched.conditionTrue .typeReferencesResolved = true

def SawActive (p : Pass) (cl : Cluster) : Prop :=
  Resp.getCluster (.ok cl) ∈ p.trace ∧ cl.status = clusterStatusActive

def SawCompleted (p : Pass) : Prop :=
  ∃ ws, Resp.getWorkerNodes (.ok ws) ∈ p.trace ∧ completedCFState ws.workersStatus = true

/-- At `build ref rest` the references before `ref` have their values. -/
def BuildsFrom (f s : EKSClusterSpec) (ref : Referencer) (rest : List Referencer) : Prop :=
  ∃ pre vs, pre ++ ref :: rest = unresolvedReferencers f ∧ vs.length = pre.length ∧
    s = assignAll f (pre.zip vs)

def AtPc (p : Pass) : Prop :=
  match p.pc with
  | .connect | .getStatus .. =>
    p.inst.status = p.fetched.status ∧ p.inst.resourceVersion = p.fetched.resourceVersion ∧
      p.inst.spec = p.fetched.spec
  | .build ref rest =>
    p.inst.status = p.fetched.status ∧ p.inst.resourceVersion = p.fetched.resourceVersion ∧
      BuildsFrom p.fetched.spec p.inst.spec ref rest
  | .resolveUpdate =>
    p.inst.status = p.fetched.status ∧ p.inst.resourceVersion = p.fetched.resourceVersion
  | .create =>
    p.fetched.status.clusterName = "" ∧ p.fetched.deletionTimestamp = none ∧ Gate p ∧
      p.inst.conditionTrue .typeReady = false
  | .getCluster =>
    p.fetched.status.clusterName ≠ "" ∧ p.fetched.deletionTimestamp = none ∧ Gate p
  | .createWorkerNodes cl =>
    p.fetched.status.clusterName ≠ "" ∧ p.fetched.status.cloudFormationStackID = "" ∧
      p.fetched.deletionTimestamp = none ∧ Gate p ∧ SawActive p cl
  | .getWorkerNodes cl => SawActive p cl
  | .awsauth cl _ => SawActive p cl ∧ SawCompleted p
  | .secret cl => SawActive p cl ∧ SawCompleted p ∧ Resp.awsauth (.ok ()) ∈ p.trace
  | _ => True

structure PassInv (p : Pass) : Prop where
  tracks : Tracks p
  atPc : AtPc p

theorem BuildsFrom.assignedOnce {f s : EKSClusterSpec} {ref : Referencer} {rest : List Referencer}
    (h : BuildsFrom f s ref rest) : AssignedOnce f s :=
  let ⟨pre, vs, hl, hv, hs⟩ := h
  ⟨pre, vs, ⟨_, hl⟩, hv, hs⟩

/-- `ref`'s value assigned: the build loop moves on, or every unresolved reference has its value. -/
theorem BuildsFrom.assign {f s : EKSClusterSpec} {ref : Referencer} {rest : List Referencer}
    (h : BuildsFrom f s ref rest) (v : String) :
    AssignedOnce f (ref.assign s v) ∧
      ∀ r rest', rest = r :: rest' → BuildsFrom f (ref.assign s v) r rest' := by
  obtain ⟨pre, vs, hl, hv, rfl⟩ := h
  have he := assignAll_zip_append_single f hv ref v
  have hv' : (vs ++ [v]).length = (pre ++ [ref]).length := by simp [hv]
  exact ⟨⟨pre ++ [ref], vs ++ [v], ⟨rest, by simpa using hl⟩, hv', he.symm⟩,
    fun r rest' hr => ⟨pre ++ [ref], vs ++ [v], by simpa [hr] using hl, hv', he.symm⟩⟩

/-! ## Instances that look the same to `Tracks` -/

structure SameTracked (o o' : EKSCluster) : Prop where
  uid : o'.uid = o.uid
  deletionTimestamp : o'.deletionTimestamp = o.deletionTimestamp
  clusterName : o'.status.clusterName = o.status.clusterName
  cloudFormationStackID : o'.status.cloudFormationStackID = o.status.cloudFormationStackID
  endpoint : o'.status.endpoint = o.status.endpoint
  state : o'.status.state = o.status.state
  ready : o'.conditionTrue .typeReady = o.conditionTrue .typeReady
  refs : o'.conditionTrue .typeReferencesResolved = o.conditionTrue .typeReferencesResolved
  spec : o'.spec = o.spec

theorem SameTracked.trans {o o' o'' : EKSCluster} (h : SameTracked o o') (h' : SameTracked o' o'') :
    SameTracked o o'' :=
  ⟨h'.1.trans h.1, h'.2.trans h.2, h'.3.trans h.3, h'.4.trans h.4, h'.5.trans h.5, h'.6.trans h.6,
    h'.7.trans h.7, h'.8.trans h.8, h'.9.trans h.9⟩

theorem sameTracked_synced (o : EKSCluster) {c : Condition} (hc : c.type = .typeSynced) :
    SameTracked o (o.setConditions [c]) :=
  ⟨rfl, rfl, rfl, rfl, rfl, rfl, by simp [hc], by simp [hc], rfl⟩

theorem sameTracked_finalizers (o : EKSCluster) (fs : List String) :
    SameTracked o { o with finalizers := fs } := ⟨rfl, rfl, rfl, rfl, rfl, rfl, rfl, rfl, rfl⟩

theorem sameTracked_resourceVersion (o : EKSCluster) (v : Nat) :
    SameTracked o { o with resourceVersion := v } := ⟨rfl, rfl, rfl, rfl, rfl, rfl, rfl, rfl, rfl⟩

theorem Tracks.congr {p : Pass} {o : EKSCluster} (h : Tracks p) (hs : SameTracked p.inst o) :
    Tracks { p with inst := o } where
  uid := hs.uid.trans h.uid
  deletionTimestamp := hs.deletionTimestamp.trans h.deletionTimestamp
  ids := by simpa only [IdsAdvance, hs.clusterName, hs.cloudFormationStackID] using h.ids
  ready := by
    simpa only [AvailableObserved, hs.ready, hs.endpoint, hs.state] using h.ready
  refs := by simpa only [hs.refs] using h.refs
  spec := by rw [hs.spec]; exact h.spec

theorem Tracks.pc {p : Pass} (h : Tracks p) (pc : Pc) : Tracks { p with pc := pc } :=
  ⟨h.1, h.2, h.3, h.4, h.5, h.6⟩

/-- An assignment of the resolution keeps everything `Tracks` says but the spec. -/
theorem Tracks.withSpec {p : Pass} {s : EKSClusterSpec} (h : Tracks p)
    (hs : AssignedOnce p.fetched.spec s) : Tracks { p with inst := { p.inst with spec := s } } :=
  ⟨h.1, h.2, h.3, h.4, h.5, hs⟩

/-- A Ready condition that is not True makes the Ready part vacuous. -/
theorem Tracks.notReady {p : Pass} {c : Condition} (h : Tracks p) (hc : c.type = .typeReady)
    (hs : c.status ≠ .conditionTrue) : Tracks { p with inst := p.inst.setConditions [c] } where
  uid := h.uid
  deletionTimestamp := h.deletionTimestamp
  ids := h.ids
  ready := by simp [hc, hs]
  refs := by simpa [hc] using h.refs
  spec := h.spec

theorem Tracks.mono {p : Pass} {t : List Resp} (h : Tracks p) (ht : p.trace ⊆ t) :
    Tracks { p with trace := t } where
  uid := h.uid
  deletionTimestamp := h.deletionTimestamp
  ids := h.ids
  ready hr := (h.ready hr).imp id fun ⟨cl, ws, h1, h2, h3, h4, h5, h6, h7⟩ =>
    ⟨cl, ws, ht h1, h2, ht h3, h4, ht h5, ht h6, h7⟩
  refs := h.refs
  spec := h.spec

theorem AtPc.mono {p : Pass} {t : List Resp} (h : AtPc p) (ht : p.trace ⊆ t) :
    AtPc { p with trace := t } := by
  rcases p with ⟨pc, inst, fetched, resolved, trace⟩
  cases pc <;> simp only [AtPc, SawActive, SawCompleted, Gate] at h ⊢ <;> try trivial
  all_goals first
    | exact h
    | exact ⟨ht h.1, h.2⟩
    | exact ⟨h.1, h.2.1, h.2.2.1, h.2.2.2.1, ht h.2.2.2.2.1, h.2.2.2.2.2⟩
    | exact ⟨⟨ht h.1.1, h.1.2⟩, h.2.imp fun _ hw => ⟨ht hw.1, hw.2⟩⟩
    | exact ⟨⟨ht h.1.1, h.1.2⟩, h.2.1.imp (fun _ hw => ⟨ht hw.1, hw.2⟩), ht h.2.2⟩

theorem PassInv.mono {p : Pass} {t : List Resp} (h : PassInv p) (ht : p.trace ⊆ t) :
    PassInv { p with trace := t } :=
  ⟨h.tracks.mono ht, h.atPc.mono ht⟩

/-! ## One lemma per stretch of the source -/

namespace Pass

variable {q : Pass}

theorem fail_inv (h : Tracks q) (err : Error) : PassInv (q.fail err) :=
  ⟨(h.congr (sameTracked_synced _ rfl)).pc _, trivial⟩

theorem deleted_inv (h : Tracks q) : PassInv q.deleted :=
  ⟨(h.congr ((sameTracked_finalizers _ _).trans (sameTracked_synced _ rfl))).pc _, trivial⟩

theorem deleteDone_inv (h : Tracks q) (errs : List String) : PassInv (q.deleteDone errs) := by
  unfold deleteDone; split
  · exact fail_inv h _
  · exact deleted_inv h

theorem delete_inv (h : Tracks q) : PassInv q.delete := by
  have h' := h.notReady (c := deleting) rfl (by decide)
  simp only [delete]; split
  · exact ⟨h'.pc _, trivial⟩
  · exact deleted_inv h'

theorem create_inv (h : Tracks q) (hc : q.fetched.status.clusterName = "")
    (hd : q.fetched.deletionTimestamp = none) (hg : Gate q) : PassInv q.create :=
  ⟨(h.notReady (c := creating) rfl (by decide)).pc _, hc, hd, hg, by simp [Pass.create]⟩

theorem dispatch_inv (h : Tracks q) (hc : q.inst.status.clusterName = q.fetched.status.clusterName)
    (hg : Gate q) : PassInv q.dispatch := by
  have h' := h.congr (sameTracked_finalizers _ (addFinalizer q.inst.finalizers finalizer))
  simp only [dispatch]
  split
  · exact delete_inv h'
  · rename_i hdel
    have hd : q.fetched.deletionTimestamp = none := by
      rw [← h.deletionTimestamp]; exact Option.not_isSome_iff_eq_none.mp hdel
    split
    · exact create_inv h' (by rw [← hc]; assumption) hd hg
    · exact ⟨h'.pc _, by rw [← hc]; assumption, hd, hg⟩

theorem referencesResolved_inv (h : Tracks q)
    (hc : q.inst.status.clusterName = q.fetched.status.clusterName) :
    PassInv q.referencesResolved := by
  refine dispatch_inv ⟨h.uid, h.deletionTimestamp, h.ids, ?_, fun _ => .inl rfl, h.spec⟩ hc (.inl rfl)
  simpa [referenceResolutionSuccess] using h.ready

theorem resolutionFailed_inv (h : Tracks q) (err : Error) : PassInv (q.resolutionFailed err) := by
  unfold resolutionFailed
  split
  · refine ⟨⟨h.uid, h.deletionTimestamp, h.ids, ?_, by simp [referenceResolutionBlocked], h.spec⟩,
      trivial⟩
    simpa [referenceResolutionBlocked] using h.ready
  · exact ⟨(h.congr (sameTracked_synced _ rfl)).pc _, trivial⟩

theorem builds_inv (h : Tracks q) (hs : q.inst.status = q.fetched.status)
    (hv : q.inst.resourceVersion = q.fetched.resourceVersion) (rs : List Referencer)
    (hb : ∀ r rest, rs = r :: rest → BuildsFrom q.fetched.spec q.inst.spec r rest) :
    PassInv (q.builds rs) := by
  cases rs with
  | nil => exact ⟨h.pc _, hs, hv⟩
  | cons r rest => exact ⟨h.pc _, hs, hv, hb r rest rfl⟩

theorem getStatuses_inv (h : Tracks q) (hs : q.inst.status = q.fetched.status)
    (hv : q.inst.resourceVersion = q.fetched.resourceVersion) (hsp : q.inst.spec = q.fetched.spec)
    (rest : List Referencer) (statuses : List ReferenceStatus) :
    PassInv (q.getStatuses rest statuses) := by
  cases rest with
  | cons r rest => exact ⟨h.pc _, hs, hv, hsp⟩
  | nil =>
    simp only [getStatuses]; split
    · refine builds_inv h hs hv _ fun r rest hr => ⟨[], [], ?_, rfl, ?_⟩
      · rw [← hsp, ← hr]; rfl
      · rw [hsp]; rfl
    · exact resolutionFailed_inv h _

theorem resolveReferences_inv (h : Tracks q) (hs : q.inst.status = q.fetched.status)
    (hv : q.inst.resourceVersion = q.fetched.resourceVersion) (hsp : q.inst.spec = q.fetched.spec) :
    PassInv q.resolveReferences := by
  unfold resolveReferences; split
  · exact referencesResolved_inv h (by rw [hs])
  · exact ⟨h.pc _, hs, hv, hsp⟩

theorem created_inv (h : Tracks q) (hc : q.fetched.status.clusterName = "")
    (hr : q.inst.conditionTrue .typeReady = false) (r : Except Error Cluster) :
    PassInv (q.created r) := by
  cases r with
  | error err =>
    simp only [created]; split
    · split
      · exact ⟨(h.congr (sameTracked_synced _ rfl)).pc _, trivial⟩
      · exact fail_inv h err
    · exact ⟨h.pc _, trivial⟩
  | ok cl =>
    refine ⟨⟨h.uid, h.deletionTimestamp, ?_, ?_, ?_, h.spec⟩, trivial⟩
    · refine ⟨.inr ⟨hc, by simp [created, h.uid]⟩, ?_⟩
      rcases h.ids.2 with hs | ⟨-, hne, -⟩
      · exact .inl hs
      · exact absurd hc hne
    · intro hready
      simp only [created, EKSCluster.conditionTrue_setConditions, reconcileSuccess] at hready
      simp only [EKSCluster.conditionTrue] at hready hr
      rw [hr] at hready
      cases hready
    · simpa [created] using h.refs

theorem gotCluster_inv (h : Tracks q) (hc : q.fetched.status.clusterName ≠ "")
    (hd : q.fetched.deletionTimestamp = none) (hg : Gate q) {r : Except Error Cluster}
    (hr : Resp.getCluster r ∈ q.trace) : PassInv (q.gotCluster r) := by
  cases r with
  | error err => exact fail_inv h err
  | ok cl =>
    simp only [gotCluster]
    split
    · exact ⟨(h.congr (sameTracked_synced _ rfl)).pc _, trivial⟩
    · rename_i hact
      have hsaw : SawActive q cl := ⟨hr, not_ne_iff.mp hact⟩
      split
      · rename_i hs
        refine ⟨h.pc _, hc, ?_, hd, hg, hsaw⟩
        rcases h.ids.2 with h2 | ⟨h2, -⟩
        · rw [← h2]; exact hs
        · exact h2
      · exact ⟨h.pc _, hsaw⟩

theorem createdWorkerNodes_inv (h : Tracks q) (hc : q.fetched.status.clusterName ≠ "")
    (hs : q.fetched.status.cloudFormationStackID = "") (r : Except Error ClusterWorkers) :
    PassInv (q.createdWorkerNodes r) := by
  cases r with
  | error err => exact fail_inv h err
  | ok ws =>
    have hcn : q.inst.status.clusterName = q.fetched.status.clusterName :=
      h.ids.1.resolve_right fun h1 => hc h1.1
    have e : ∀ t, ({ q.inst with status := { q.inst.status with
        cloudFormationStackID := ws.workerStackID } } : EKSCluster).conditionTrue t =
        q.inst.conditionTrue t := fun t => EKSCluster.conditionTrue_of_conditions rfl t
    refine ⟨⟨h.uid, h.deletionTimestamp, ⟨.inl hcn, .inr ⟨hs, hc, hcn⟩⟩, ?_, ?_, h.spec⟩, trivial⟩
    · simpa [createdWorkerNodes, e, AvailableObserved] using h.ready
    · simpa [createdWorkerNodes, e] using h.refs

theorem gotWorkerNodes_inv (h : Tracks q) {cl : Cluster} (hsaw : SawActive q cl)
    {r : Except Error ClusterWorkers} (hr : Resp.getWorkerNodes r ∈ q.trace) :
    PassInv (q.gotWorkerNodes cl r) := by
  cases r with
  | error err => exact fail_inv h err
  | ok ws =>
    simp only [gotWorkerNodes]
    split
    · exact fail_inv h _
    · split
      · exact ⟨(h.congr (sameTracked_synced _ rfl)).pc _, trivial⟩
      · rename_i hcomp
        exact ⟨h.pc _, hsaw, ws, hr, by simpa using hcomp⟩

theorem published_inv (h : Tracks q) {cl : Cluster} (hsaw : SawActive q cl) (hws : SawCompleted q)
    (ha : Resp.awsauth (.ok ()) ∈ q.trace) {r : Except Error Unit} (hr : Resp.secret r ∈ q.trace) :
    PassInv (q.published cl r) := by
  cases r with
  | error err => exact fail_inv h err
  | ok u =>
    obtain ⟨ws, hw, hc⟩ := hws
    refine ⟨⟨h.uid, h.deletionTimestamp, by simpa [published] using h.ids,
      fun _ => .inr ⟨cl, ws, hsaw.1, hsaw.2, hw, hc, ha, hr, rfl, rfl⟩, ?_, h.spec⟩, trivial⟩
    have hrefs := h.refs
    simp only [EKSCluster.conditionTrue] at hrefs
    simpa [published, EKSCluster.conditionTrue, EKSCluster.setConditions, StackAws.setConditions,
      getCondition_setCondition]
      using hrefs

/-- One answer keeps what a pass knows, provided the answer is already on its trace. -/
theorem resume_inv (h : PassInv q) {r : Resp} (hr : r ∈ q.trace) : PassInv (q.resume r) := by
  obtain ⟨ht, hpc⟩ := h
  unfold resume
  split
  next => exact ⟨ht.pc _, trivial⟩
  next o heq =>
    exact ⟨⟨rfl, rfl, ⟨.inl rfl, .inl rfl⟩, fun h => .inl ⟨h, rfl, rfl⟩, fun h => .inr h,
      AssignedOnce.refl _⟩, rfl, rfl, rfl⟩
  next => exact fail_inv ht _
  next heq =>
    simp only [AtPc, heq] at hpc
    split
    · exact dispatch_inv ht (by rw [hpc.1]) ((ht.refs ‹_›).elim .inl .inr)
    · exact resolveReferences_inv ht hpc.1 hpc.2.1 hpc.2.2
  next heq =>
    simp only [AtPc, heq] at hpc
    exact getStatuses_inv ht hpc.1 hpc.2.1 hpc.2.2 _ _
  next => exact resolutionFailed_inv ht _
  next ref rest v heq =>
    simp only [AtPc, heq] at hpc
    obtain ⟨hs, hv, hb⟩ := hpc
    have hstep := hb.assign v
    exact builds_inv (ht.withSpec hstep.1) hs hv rest hstep.2
  next => exact resolutionFailed_inv ht _
  next heq =>
    simp only [AtPc, heq] at hpc
    exact referencesResolved_inv (ht.congr (sameTracked_resourceVersion _ _)) (by rw [← hpc.1])
  next => exact resolutionFailed_inv ht _
  next =>
    split
    · exact ⟨ht.pc _, trivial⟩
    · exact deleteDone_inv ht _
  next => exact deleteDone_inv ht _
  next heq =>
    simp only [AtPc, heq] at hpc
    exact created_inv ht hpc.1 hpc.2.2.2 _
  next heq =>
    simp only [AtPc, heq] at hpc
    exact gotCluster_inv ht hpc.1 hpc.2.1 hpc.2.2 hr
  next heq =>
    simp only [AtPc, heq] at hpc
    exact createdWorkerNodes_inv ht hpc.1 hpc.2.1 _
  next heq =>
    simp only [AtPc, heq] at hpc
    exact gotWorkerNodes_inv ht hpc hr
  next => exact fail_inv ht _
  next heq =>
    simp only [AtPc, heq] at hpc
    exact ⟨ht.pc _, hpc.1, hpc.2, hr⟩
  next heq =>
    simp only [AtPc, heq] at hpc
    exact published_inv ht hpc.1 hpc.2.1 hpc.2.2 hr
  next => exact ⟨(ht.congr (sameTracked_resourceVersion _ _)).pc _, trivial⟩
  next => exact ⟨ht.pc _, trivial⟩
  next => exact ⟨ht, hpc⟩

end Pass

/-- **Step lemma.** Whatever a pass is told, it keeps `PassInv`. -/
theorem PassInv.next {p : Pass} (h : PassInv p) (r : Resp) : PassInv (p.next r) := by
  have h' := h.mono (t := p.trace ++ [r]) (List.subset_append_left _ _)
  have hr : r ∈ ({ p with trace := p.trace ++ [r] } : Pass).trace := by simp
  exact Pass.resume_inv h' hr

/-! ## What an answer does to the fetched object and the instance's version -/

/-- A pass that may still write: it fetched, and it is neither done nor crashed. -/
def Pc.live : Pc → Bool
  | .get | .done .. | .panic => false
  | _ => true

/-- `q` still holds the fetched object of `p`, and an instance with the same `resourceVersion`
and spec. -/
def Pass.Keeps (p q : Pass) : Prop :=
  q.fetched = p.fetched ∧ q.inst.resourceVersion = p.inst.resourceVersion ∧ q.inst.spec = p.inst.spec

namespace Pass

variable {q : Pass}

theorem deleteDone_keeps (errs : List String) : Keeps q (q.deleteDone errs) := by
  unfold deleteDone; split <;> exact ⟨rfl, rfl, rfl⟩

theorem dispatch_keeps : Keeps q q.dispatch := by
  simp only [dispatch, delete]; split_ifs <;> exact ⟨rfl, rfl, rfl⟩

theorem builds_keeps (rs : List Referencer) : Keeps q (q.builds rs) := by
  cases rs <;> exact ⟨rfl, rfl, rfl⟩

theorem getStatuses_keeps (rest : List Referencer) (statuses : List ReferenceStatus) :
    Keeps q (q.getStatuses rest statuses) := by
  cases rest with
  | cons => exact ⟨rfl, rfl, rfl⟩
  | nil => simp only [getStatuses]; split; exacts [builds_keeps _, ⟨rfl, rfl, rfl⟩]

theorem resolveReferences_keeps : Keeps q q.resolveReferences := by
  unfold resolveReferences; split; exacts [dispatch_keeps, ⟨rfl, rfl, rfl⟩]

/-- **Inversion lemma.** An answer hands the pass the object `r.Get` fetched, or the version
of the resolver's own write, or a value `Build` returned; or it ends the pass with the fetched
object kept; or it changes neither the fetched object nor the instance's version and spec of a
pass that was already live. -/
theorem resume_cases (r : Resp) :
    (q.pc = .get ∧ ∃ o, r = .get (.ok o) ∧ (q.resume r).inst = o ∧ (q.resume r).fetched = o) ∨
    (q.pc = .resolveUpdate ∧ ∃ v, r = .update (.ok v) ∧ (q.resume r).fetched = q.fetched ∧
      (q.resume r).inst.resourceVersion = v ∧ (q.resume r).inst.spec = q.inst.spec) ∨
    (∃ ref rest v, q.pc = .build ref rest ∧ r = .build (.ok v) ∧
      (q.resume r).fetched = q.fetched ∧
      (q.resume r).inst.resourceVersion = q.inst.resourceVersion) ∨
    ((q.resume r).fetched = q.fetched ∧ (q.resume r).pc.live = false) ∨
    (q.pc.live = true ∧ Keeps q (q.resume r)) := by
  unfold resume
  split
  next => exact .inr (.inr (.inr (.inl ⟨rfl, rfl⟩)))
  next o heq => exact .inl ⟨heq, o, rfl, rfl, rfl⟩
  next heq => exact .inr (.inr (.inr (.inr ⟨by rw [heq]; rfl, rfl, rfl, rfl⟩)))
  next heq =>
    refine .inr (.inr (.inr (.inr ⟨by rw [heq]; rfl, ?_⟩)))
    split; exacts [dispatch_keeps, resolveReferences_keeps]
  next heq => exact .inr (.inr (.inr (.inr ⟨by rw [heq]; rfl, getStatuses_keeps _ _⟩)))
  next heq => exact .inr (.inr (.inr (.inr ⟨by rw [heq]; rfl, rfl, rfl, rfl⟩)))
  next ref rest v heq =>
    exact .inr (.inr (.inl ⟨ref, rest, v, heq, rfl, (builds_keeps _).1, (builds_keeps _).2.1⟩))
  next heq => exact .inr (.inr (.inr (.inr ⟨by rw [heq]; rfl, rfl, rfl, rfl⟩)))
  next v heq =>
    exact .inr (.inl ⟨heq, v, rfl, dispatch_keeps.1, dispatch_keeps.2.1, dispatch_keeps.2.2⟩)
  next heq => exact .inr (.inr (.inr (.inr ⟨by rw [heq]; rfl, rfl, rfl, rfl⟩)))
  next heq =>
    refine .inr (.inr (.inr (.inr ⟨by rw [heq]; rfl, ?_⟩)))
    split; exacts [⟨rfl, rfl, rfl⟩, deleteDone_keeps _]
  next heq => exact .inr (.inr (.inr (.inr ⟨by rw [heq]; rfl, deleteDone_keeps _⟩)))
  next r heq =>
    refine .inr (.inr (.inr (.inr ⟨by rw [heq]; rfl, ?_⟩)))
    cases r with
    | ok => exact ⟨rfl, rfl, rfl⟩
    | error => simp only [created]; split_ifs <;> exact ⟨rfl, rfl, rfl⟩
  next r heq =>
    refine .inr (.inr (.inr (.inr ⟨by rw [heq]; rfl, ?_⟩)))
    cases r with
    | ok => simp only [gotCluster]; split_ifs <;> exact ⟨rfl, rfl, rfl⟩
    | error => exact ⟨rfl, rfl, rfl⟩
  next r heq =>
    refine .inr (.inr (.inr (.inr ⟨by rw [heq]; rfl, ?_⟩)))
    cases r <;> exact ⟨rfl, rfl, rfl⟩
  next r heq =>
    refine .inr (.inr (.inr (.inr ⟨by rw [heq]; rfl, ?_⟩)))
    cases r with
    | ok => simp only [gotWorkerNodes]; split_ifs <;> exact ⟨rfl, rfl, rfl⟩
    | error => exact ⟨rfl, rfl, rfl⟩
  next heq => exact .inr (.inr (.inr (.inr ⟨by rw [heq]; rfl, rfl, rfl, rfl⟩)))
  next heq => exact .inr (.inr (.inr (.inr ⟨by rw [heq]; rfl, rfl, rfl, rfl⟩)))
  next r heq =>
    refine .inr (.inr (.inr (.inr ⟨by rw [heq]; rfl, ?_⟩)))
    cases r <;> exact ⟨rfl, rfl, rfl⟩
  next => exact .inr (.inr (.inr (.inl ⟨rfl, rfl⟩)))
  next => exact .inr (.inr (.inr (.inl ⟨rfl, rfl⟩)))
  next =>
    cases h : q.pc.live
    exacts [.inr (.inr (.inr (.inl ⟨rfl, rfl⟩))), .inr (.inr (.inr (.inr ⟨rfl, rfl, rfl, rfl⟩)))]

/-- `resume_cases` for the recorded answer. -/
theorem next_cases (p : Pass) (r : Resp) :
    (p.pc = .get ∧ ∃ o, r = .get (.ok o) ∧ (p.next r).inst = o ∧ (p.next r).fetched = o) ∨
    (p.pc = .resolveUpdate ∧ ∃ v, r = .update (.ok v) ∧ (p.next r).fetched = p.fetched ∧
      (p.next r).inst.resourceVersion = v ∧ (p.next r).inst.spec = p.inst.spec) ∨
    (∃ ref rest v, p.pc = .build ref rest ∧ r = .build (.ok v) ∧
      (p.next r).fetched = p.fetched ∧ (p.next r).inst.resourceVersion = p.inst.resourceVersion) ∨
    ((p.next r).fetched = p.fetched ∧ (p.next r).pc.live = false) ∨
    (p.pc.live = true ∧ Keeps p (p.next r)) :=
  @resume_cases { p with trace := p.trace ++ [r] } r

end Pass

end StackAws
