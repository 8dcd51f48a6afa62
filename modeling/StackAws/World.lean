import StackAws.Reconcile

/-!
The world the passes talk to, and runs of any number of interleaved passes.

The store holds the one `EKSCluster` until it is removed. `r.Update` is a compare-and-swap on
`resourceVersion`, as the API server does it; a write may also fail for any other reason and
then changes nothing. An object written with a `DeletionTimestamp` and no finalizer left is
removed. A deletion request removes an object with no finalizer at once, and otherwise sets
its `DeletionTimestamp`.

The provider is modelled from the spec (§4.2): `pkg/clients/eks` is not in this repository.
It holds clusters by name and worker stacks by ID, and `Create` of a name it holds answers
already-exists; any call may fail for another reason and then changes nothing. Clusters and
stacks change state on their own (`Action.providerCluster`). `connect`, the referencers,
`awsauth` and `secret` may answer anything.

A run interleaves the calls of the passes the scheduler starts with deletion requests and
the provider's own progress. `Config.writes` is a ghost log of the successful store writes,
each with the pass that made it.
-/

namespace StackAws

structure Provider where
  clusters : List Cluster := []
  workerStacks : List ClusterWorkers := []
  deriving DecidableEq, Repr

namespace Provider

def holdsCluster (pr : Provider) (name : String) : Bool := pr.clusters.any (·.name == name)

def holdsStack (pr : Provider) (id : String) : Bool := pr.workerStacks.any (·.workerStackID == id)

/-- An error answer is legal unless it claims a code that the provider's state contradicts. -/
def answer (pr : Provider) : Req → Resp → Option Provider
  | .create name _, .create (.ok cl) =>
    if cl.name = name ∧ !pr.holdsCluster name then some { pr with clusters := pr.clusters ++ [cl] }
    else none
  | .create name _, .create (.error e) =>
    if isErrorAlreadyExists e && !pr.holdsCluster name then none else some pr
  | .getCluster name, .getCluster (.ok cl) => if cl ∈ pr.clusters ∧ cl.name = name then some pr else none
  | .getCluster name, .getCluster (.error e) =>
    if isErrorNotFound e && pr.holdsCluster name then none else some pr
  | .createWorkerNodes .., .createWorkerNodes (.ok ws) =>
    if pr.holdsStack ws.workerStackID then none else some { pr with workerStacks := pr.workerStacks ++ [ws] }
  | .createWorkerNodes .., .createWorkerNodes (.error _) => some pr
  | .getWorkerNodes id, .getWorkerNodes (.ok ws) =>
    if ws ∈ pr.workerStacks ∧ ws.workerStackID = id then some pr else none
  | .getWorkerNodes id, .getWorkerNodes (.error e) =>
    if isErrorNotFound e && pr.holdsStack id then none else some pr
  | .delete name, .delete (.ok ()) =>
    if pr.holdsCluster name then some { pr with clusters := pr.clusters.filter (·.name != name) }
    else none
  | .delete name, .delete (.error e) =>
    if isErrorNotFound e && pr.holdsCluster name then none else some pr
  | .deleteWorkerNodes id, .deleteWorkerNodes (.ok ()) =>
    if pr.holdsStack id then some { pr with workerStacks := pr.workerStacks.filter (·.workerStackID != id) }
    else none
  | .deleteWorkerNodes id, .deleteWorkerNodes (.error e) =>
    if isErrorNotFound e && pr.holdsStack id then none else some pr
  | _, _ => none

end Provider

structure World where
  store : Option EKSCluster
  provider : Provider := {}
  deriving DecidableEq, Repr

/-- What a successful `r.Update` of `o` leaves in the store at version `v`. -/
def persist (o : EKSCluster) (v : Nat) : Option EKSCluster :=
  if o.deletionTimestamp.isSome ∧ o.finalizers = [] then none
  else some { o with resourceVersion := v }

/-- A deletion request at time `t`. -/
def requestDeletion (o : EKSCluster) (t : Nat) : Option EKSCluster :=
  if o.finalizers = [] then none
  else if o.deletionTimestamp.isSome then some o
  else some { o with deletionTimestamp := some t, resourceVersion := o.resourceVersion + 1 }

theorem mem_persist {o o' : EKSCluster} {v : Nat} (h : o' ∈ persist o v) :
    o' = { o with resourceVersion := v } := by
  unfold persist at h
  split_ifs at h
  · cases h
  · exact (Option.mem_some_iff.mp h).symm

/-- A deletion request changes no Status and no Spec, and never lowers the version. -/
theorem mem_requestDeletion {o o' : EKSCluster} {t : Nat} (h : o' ∈ requestDeletion o t) :
    o'.status = o.status ∧ o'.spec = o.spec ∧ o'.uid = o.uid ∧
      o.resourceVersion ≤ o'.resourceVersion := by
  unfold requestDeletion at h
  split_ifs at h
  · cases h
  · cases h; exact ⟨rfl, rfl, rfl, le_rfl⟩
  · cases h; exact ⟨rfl, rfl, rfl, Nat.le_succ _⟩

/-- Each call is answered by its own kind of answer, as each Go call returns its own result type. -/
def Req.answeredBy : Req → Resp → Bool
  | .get, .get _ | .connect, .connect _ | .getStatus _, .getStatus _ | .build _, .build _
  | .update _, .update _ | .create .., .create _ | .getCluster _, .getCluster _
  | .createWorkerNodes .., .createWorkerNodes _ | .getWorkerNodes _, .getWorkerNodes _
  | .awsauth .., .awsauth _ | .secret .., .secret _ | .delete _, .delete _
  | .deleteWorkerNodes _, .deleteWorkerNodes _ => true
  | _, _ => false

namespace World

def answerStore (w : World) : Req → Resp → Option World
  | .get, .get (.ok o) => if w.store = some o then some w else none
  | .get, .get (.error e) => if isErrorNotFound e && w.store.isSome then none else some w
  | .update o, .update (.ok v) =>
    match w.store with
    | some s =>
      if s.resourceVersion = o.resourceVersion ∧ v = s.resourceVersion + 1 then
        some { w with store := persist o v }
      else none
    | none => none
  | .update _, .update (.error _) => some w
  | _, _ => none

/-- Calls answered by what the model leaves open: any answer of the right kind. -/
def answersFreely : Req → Resp → Bool
  | .connect, .connect _ => true
  | .getStatus _, .getStatus _ => true
  | .build _, .build _ => true
  | .awsauth .., .awsauth _ => true
  | .secret _ _, .secret _ => true
  | _, _ => false

/-- The world after it answered `req` with `resp`, if that answer is a legal one. -/
def answer (w : World) (req : Req) (resp : Resp) : Option World :=
  match req with
  | .get | .update _ => w.answerStore req resp
  | .connect | .getStatus _ | .build _ | .awsauth .. | .secret _ _ =>
    if answersFreely req resp then some w else none
  | _ => (w.provider.answer req resp).map fun pr => { w with provider := pr }

theorem answer_get {w w' : World} {o : EKSCluster} (h : w.answer .get (.get (.ok o)) = some w') :
    w.store = some o ∧ w' = w := by
  simp only [answer, answerStore] at h
  split_ifs at h with hs
  exact ⟨hs, (Option.some.inj h).symm⟩

/-- A successful write is a compare-and-swap at the written object's version. -/
theorem answer_update_ok {w w' : World} {o : EKSCluster} {v : Nat}
    (h : w.answer (.update o) (.update (.ok v)) = some w') :
    ∃ s, w.store = some s ∧ s.resourceVersion = o.resourceVersion ∧ v = s.resourceVersion + 1 ∧
      w'.store = persist o v := by
  simp only [answer, answerStore] at h
  split at h
  next s hs =>
    split_ifs at h with hv
    cases h
    exact ⟨s, hs, hv.1, hv.2, rfl⟩
  next => cases h

/-- A legal answer is of the kind the call expects. -/
theorem answeredBy_of_answer {w w' : World} {req : Req} {resp : Resp}
    (h : w.answer req resp = some w') : req.answeredBy resp = true := by
  cases req <;> cases resp <;> first | rfl | cases h

end World

structure Config where
  world : World
  passes : List Pass := []
  writes : List (Pass × EKSCluster) := []
  deriving DecidableEq, Repr

inductive Action where
  | spawn
  | respond (i : Nat) (resp : Resp)
  | requestDeletion (time : Nat)
  | providerCluster (cl : Cluster)
  | providerStack (ws : ClusterWorkers)
  deriving DecidableEq, Repr

/-- The entry a call adds to the write log. -/
def written (p : Pass) : Req → Resp → List (Pass × EKSCluster)
  | .update o, .update (.ok _) => [(p, o)]
  | _, _ => []

/-- **Inversion lemma.** A legal answer leaves the store alone and logs no write, or it is a
successful `r.Update`. -/
theorem World.answer_cases {w w' : World} {req : Req} {resp : Resp} (p : Pass)
    (h : w.answer req resp = some w') :
    (w'.store = w.store ∧ written p req resp = []) ∨
    ∃ o v, req = .update o ∧ resp = .update (.ok v) ∧ written p req resp = [(p, o)] := by
  cases req
  case update o =>
    cases resp
    case update r =>
      cases r
      case ok v => exact .inr ⟨o, v, rfl, rfl, rfl⟩
      case error => simp only [World.answer, World.answerStore, Option.some.injEq] at h; simp [← h, written]
    all_goals simp [World.answer, World.answerStore] at h
  case get =>
    cases resp
    case get r =>
      cases r <;> simp only [World.answer, World.answerStore] at h <;> split_ifs at h <;> cases h <;>
        exact .inl ⟨rfl, rfl⟩
    all_goals simp [World.answer, World.answerStore] at h
  all_goals
    simp only [World.answer] at h
    first
    | (split_ifs at h; cases h; exact .inl ⟨rfl, by cases resp <;> rfl⟩)
    | (obtain ⟨pr, -, rfl⟩ := Option.map_eq_some'.mp h; exact .inl ⟨rfl, by cases resp <;> rfl⟩)

namespace Config

def exec (c : Config) : Action → Option Config
  | .spawn => some { c with passes := c.passes ++ [{}] }
  | .respond i resp =>
    match c.passes[i]? with
    | none => none
    | some p =>
      match p.request with
      | none => none
      | some req =>
        match c.world.answer req resp with
        | none => none
        | some w =>
          some { world := w, passes := c.passes.set i (p.next resp),
                 writes := c.writes ++ written p req resp }
  | .requestDeletion t =>
    match c.world.store with
    | none => none
    | some o => some { c with world := { c.world with store := requestDeletion o t } }
  | .providerCluster cl =>
    if c.world.provider.holdsCluster cl.name then
      some { c with world := { c.world with provider := { c.world.provider with
        clusters := c.world.provider.clusters.map fun e => if e.name = cl.name then cl else e } } }
    else none
  | .providerStack ws =>
    if c.world.provider.holdsStack ws.workerStackID then
      some { c with world := { c.world with provider := { c.world.provider with
        workerStacks := c.world.provider.workerStacks.map fun e =>
          if e.workerStackID = ws.workerStackID then ws else e } } }
    else none

/-- **Inversion lemma.** A step starts a pass, answers one pass's call, requests deletion, or
touches only the provider. -/
theorem exec_cases {c c' : Config} {a : Action} (h : c.exec a = some c') :
    c' = { c with passes := c.passes ++ [{}] } ∨
    (∃ i p req resp w, c.passes[i]? = some p ∧ p.request = some req ∧
      c.world.answer req resp = some w ∧
      c' = { world := w, passes := c.passes.set i (p.next resp),
             writes := c.writes ++ written p req resp }) ∨
    (∃ o t, c.world.store = some o ∧
      c' = { c with world := { c.world with store := requestDeletion o t } }) ∨
    (c'.world.store = c.world.store ∧ c'.passes = c.passes ∧ c'.writes = c.writes) := by
  cases a with
  | spawn => exact .inl (Option.some.inj h).symm
  | respond i resp =>
    simp only [exec] at h
    split at h; · cases h
    split at h; · cases h
    split at h; · cases h
    cases h
    exact .inr (.inl ⟨i, _, _, resp, _, ‹_›, ‹_›, ‹_›, rfl⟩)
  | requestDeletion t =>
    simp only [exec] at h
    split at h
    · cases h
    · cases h; exact .inr (.inr (.inl ⟨_, t, ‹_›, rfl⟩))
  | providerCluster cl =>
    simp only [exec] at h
    split_ifs at h; cases h; exact .inr (.inr (.inr ⟨rfl, rfl, rfl⟩))
  | providerStack ws =>
    simp only [exec] at h
    split_ifs at h; cases h; exact .inr (.inr (.inr ⟨rfl, rfl, rfl⟩))

/-- A run under a scheduler that picks each action by looking at the configuration reached. -/
def run (c : Config) : List (Config → Action) → Option Config
  | [] => some c
  | a :: as => (c.exec (a c)).bind (·.run as)

end Config

def Step (c c' : Config) : Prop := ∃ a, c.exec a = some c'

def initial (o : EKSCluster) : Config := { world := { store := some o } }

/-- The runs start from a resource its owner created, whose status is still empty. -/
inductive Reachable : Config → Prop where
  | init (o : EKSCluster) : o.status = {} → Reachable (initial o)
  | step {c c' : Config} : Reachable c → Step c c' → Reachable c'

theorem Reachable.run {c c' : Config} {as : List (Config → Action)} (hc : Reachable c)
    (h : c.run as = some c') : Reachable c' := by
  induction as generalizing c with
  | nil => cases h; exact hc
  | cons a as ih =>
    simp only [Config.run, Option.bind_eq_some] at h
    obtain ⟨c₁, h₁, h⟩ := h
    exact ih (hc.step ⟨a c, h₁⟩) h

/-- Where a run from `o` ends; a run that gets stuck ends where it started. -/
def replay (o : EKSCluster) (as : List (Config → Action)) : Config :=
  ((initial o).run as).getD (initial o)

theorem Reachable.replay (o : EKSCluster) (as : List (Config → Action)) (ho : o.status = {})
    (h : ((initial o).run as).isSome = true) : Reachable (replay o as) := by
  obtain ⟨c, hc⟩ := Option.isSome_iff_exists.mp h
  rw [StackAws.replay, hc]
  exact (Reachable.init o ho).run hc

/-- **Run lemma for one pass.** A property that a fresh pass has and that every legal answer
keeps holds of every pass of every reachable configuration. -/
theorem Reachable.forall_passes_legal (P : Pass → Prop) (hfresh : P {})
    (hnext : ∀ (w w' : World) p req r, p.request = some req → w.answer req r = some w' → P p →
      P (p.next r))
    {c : Config} (hc : Reachable c) : ∀ p ∈ c.passes, P p := by
  induction hc with
  | init o _ => exact fun p hp => absurd hp (List.not_mem_nil p)
  | step _ hs ih =>
    obtain ⟨a, h⟩ := hs
    rcases Config.exec_cases h with rfl | ⟨i, p, req, resp, w, hp, hreq, hw, rfl⟩ | ⟨o, t, -, rfl⟩ |
      ⟨-, hps, -⟩
    · intro q hq
      rcases List.mem_append.mp hq with hq | hq
      · exact ih q hq
      · rw [List.mem_singleton.mp hq]; exact hfresh
    · intro q hq
      rcases List.mem_or_eq_of_mem_set hq with hq | rfl
      · exact ih q hq
      · exact hnext _ w p req resp hreq hw (ih p (List.getElem?_mem hp))
    · exact ih
    · rw [hps]; exact ih

/-- `forall_passes_legal` for a property every answer of the kind the call expects keeps. -/
theorem Reachable.forall_passes_answered (P : Pass → Prop) (hfresh : P {})
    (hnext : ∀ p req r, p.request = some req → req.answeredBy r = true → P p → P (p.next r))
    {c : Config} (hc : Reachable c) : ∀ p ∈ c.passes, P p :=
  hc.forall_passes_legal P hfresh fun _ _ p req r hreq hw =>
    hnext p req r hreq (World.answeredBy_of_answer hw)

/-- `forall_passes_answered` for a property every answer keeps. -/
theorem Reachable.forall_passes (P : Pass → Prop) (hfresh : P {})
    (hnext : ∀ p r, P p → P (p.next r)) {c : Config} (hc : Reachable c) : ∀ p ∈ c.passes, P p :=
  hc.forall_passes_answered P hfresh fun p _ r _ _ => hnext p r

/-! ## Schedulers -/

namespace Schedule

/-- The same action whatever the configuration. -/
def act (a : Action) : Config → Action := fun _ => a

/-- Pass `i`'s `r.Get` answers with what the store holds. -/
def fetch (i : Nat) (c : Config) : Action :=
  .respond i (.get (match c.world.store with
    | some o => .ok o
    | none => .error ⟨.notFound, "not found"⟩))

/-- Pass `i`'s `r.Update` succeeds. -/
def commit (i : Nat) (c : Config) : Action :=
  .respond i (.update (.ok ((c.world.store.map (·.resourceVersion + 1)).getD 0)))

end Schedule

end StackAws
