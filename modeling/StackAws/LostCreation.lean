import StackAws.ClusterName
import StackAws.DeletionMark

/-!
What a lost creation write does to every later run. `_create` records `eks-<UID>` only in the
instance it writes after `client.Create` succeeded (`eks.go`, lines 172-197); if that write
fails, the store still records no cluster while the provider holds one. Every later pass then
finds ClusterName empty and calls `client.Create` again (line 437), which the provider refuses:
already-exists, on which `_create` reads the nil cluster and panics, or another error.

`LostCreation u c` is that state for the resource of UID `u`. It is kept by every step of the
world, whatever the passes, the provider and the owner do, because the only answers that change
the UID or the ClusterName a pass carries are `client.Get`'s (`Pass.resume_sameName`), which
loads the unnamed object of the store, and a successful `client.Create`, which the provider no
longer gives.

* `lost_creation_blocks_provisioning`: from such a state, in every run, the provider keeps the
  cluster, the store never records a ClusterName, and every `client.Create` a pass issues is
  refused: the resource is never provisioned. Deleting the resource does not help: `_delete`
  asks `client.Delete` for the empty ClusterName (line 372), so the cluster outlives the object.
-/

namespace StackAws

/-- `q` carries the UID and the ClusterName of `p`'s instance. -/
def Pass.SameName (p q : Pass) : Prop :=
  q.inst.uid = p.inst.uid ∧ q.inst.status.clusterName = p.inst.status.clusterName

namespace Pass

variable {q : Pass}

/-! Every stretch of code but `client.Create`'s success keeps the UID and the ClusterName. -/

theorem deleteDone_sameName (errs : List String) : SameName q (q.deleteDone errs) := by
  unfold deleteDone; split <;> exact ⟨rfl, rfl⟩

theorem dispatch_sameName : SameName q q.dispatch := by
  simp only [dispatch, delete]; split_ifs <;> exact ⟨rfl, rfl⟩

theorem builds_sameName (rs : List Referencer) : SameName q (q.builds rs) := by
  cases rs <;> exact ⟨rfl, rfl⟩

theorem getStatuses_sameName (rest : List Referencer) (statuses : List ReferenceStatus) :
    SameName q (q.getStatuses rest statuses) := by
  cases rest with
  | cons => exact ⟨rfl, rfl⟩
  | nil => simp only [getStatuses]; split; exacts [builds_sameName _, ⟨rfl, rfl⟩]

theorem resolveReferences_sameName : SameName q q.resolveReferences := by
  unfold resolveReferences; split; exacts [dispatch_sameName, ⟨rfl, rfl⟩]

theorem created_error_sameName (err : Error) : SameName q (q.created (.error err)) := by
  simp only [created]; split_ifs <;> exact ⟨rfl, rfl⟩

theorem gotCluster_sameName (r : Except Error Cluster) : SameName q (q.gotCluster r) := by
  cases r with
  | error => exact ⟨rfl, rfl⟩
  | ok => simp only [gotCluster]; split_ifs <;> exact ⟨rfl, rfl⟩

theorem gotWorkerNodes_sameName (cl : Cluster) (r : Except Error ClusterWorkers) :
    SameName q (q.gotWorkerNodes cl r) := by
  cases r with
  | error => exact ⟨rfl, rfl⟩
  | ok => simp only [gotWorkerNodes]; split_ifs <;> exact ⟨rfl, rfl⟩

/-- **Frame lemma.** Past `client.Get`, an answer of the kind the call expects keeps the UID
and the ClusterName of the instance, unless it is a successful `client.Create`. -/
theorem resume_sameName {req : Req} {r : Resp} (hpc : q.pc ≠ .get)
    (hreq : q.request = some req) (hk : req.answeredBy r = true)
    (hcr : ∀ cl, r ≠ .create (.ok cl)) : SameName q (q.resume r) := by
  obtain ⟨pc, inst, fetched, resolved, trace⟩ := q
  cases pc <;> cases hreq <;> cases r <;> cases hk <;> rename_i x
  · exact absurd rfl hpc
  · rcases x with _ | ⟨⟨⟩⟩
    · exact ⟨rfl, rfl⟩
    · dsimp only [resume]; split
      exacts [dispatch_sameName, resolveReferences_sameName]
  · rcases x with _ | _
    exacts [⟨rfl, rfl⟩, getStatuses_sameName _ _]
  · rcases x with _ | _
    exacts [⟨rfl, rfl⟩, builds_sameName _]
  · rcases x with _ | _
    exacts [⟨rfl, rfl⟩, dispatch_sameName]
  · dsimp only [resume]; split
    exacts [⟨rfl, rfl⟩, deleteDone_sameName _]
  · exact deleteDone_sameName _
  · rcases x with err | cl
    exacts [created_error_sameName err, absurd rfl (hcr cl)]
  · exact gotCluster_sameName _
  · rcases x with _ | _ <;> exact ⟨rfl, rfl⟩
  · exact gotWorkerNodes_sameName _ _
  · rcases x with _ | ⟨⟨⟩⟩ <;> exact ⟨rfl, rfl⟩
  · rcases x with _ | ⟨⟨⟩⟩ <;> exact ⟨rfl, rfl⟩
  · rcases x with _ | _ <;> exact ⟨rfl, rfl⟩

end Pass

/-- The passes, the provider and the owner keep a cluster that no pass is about to delete. -/
theorem Config.exec_holdsCluster {c c' : Config} {a : Action} {name : String}
    (hs : c.exec a = some c') (hheld : c.world.provider.holdsCluster name = true)
    (hdel : ∀ p ∈ c.passes, p.request ≠ some (.delete name)) :
    c'.world.provider.holdsCluster name = true := by
  simp only [Provider.holdsCluster, List.any_eq_true, beq_iff_eq] at hheld ⊢
  obtain ⟨x, hx, rfl⟩ := hheld
  rcases Config.exec_clusters hs with hcl | ⟨_, _, _, _, _, _, _, _, hcl⟩ | ⟨p, hp, name, hreq, hcl⟩ |
    ⟨cl, -, hcl⟩ <;> rw [hcl]
  · exact ⟨x, hx, rfl⟩
  · exact ⟨x, List.mem_append_left _ hx, rfl⟩
  · have hne : name ≠ x.name := fun he => hdel p hp (he ▸ hreq)
    exact ⟨x, List.mem_filter.mpr ⟨hx, by simpa using hne.symm⟩, rfl⟩
  · exact ⟨_, List.mem_map_of_mem _ hx, by split_ifs with he <;> simp [he]⟩

/-- `client.Create` succeeds only for a name the provider does not hold. -/
theorem World.answer_create_ok_free {w w' : World} {name : String} {spec : EKSClusterSpec}
    {cl : Cluster} (h : w.answer (.create name spec) (.create (.ok cl)) = some w') :
    w.provider.holdsCluster name = false := by
  change Option.map _ (if cl.name = name ∧ !w.provider.holdsCluster name then
    some ({ w.provider with clusters := w.provider.clusters ++ [cl] } : Provider) else none) =
      some w' at h
  split_ifs at h with hc
  exacts [by simpa using hc.2, absurd h nofun]

/-- `client.Create` succeeded for the resource of UID `u` and its write was lost: the provider
holds `eks-<u>`, the store records no cluster, and no pass still to write carries one. -/
structure LostCreation (u : String) (c : Config) : Prop where
  held : c.world.provider.holdsCluster (clusterNamePrefix ++ u) = true
  store : ∀ o ∈ c.world.store, o.uid = u ∧ o.status.clusterName = ""
  passes : ∀ p ∈ c.passes, p.pc.live = true → p.inst.uid = u ∧ p.inst.status.clusterName = ""

namespace LostCreation

variable {u : String} {c : Config}

/-- A live pass deletes the cluster its instance records, which is none. -/
theorem no_delete (h : LostCreation u c) : ∀ p ∈ c.passes,
    p.request ≠ some (.delete (clusterNamePrefix ++ u)) := fun p hp hreq => by
  obtain ⟨hpc, hname⟩ := Pass.request_eq_delete hreq
  exact clusterName_ne_empty u (hname.trans (h.passes p hp (by rw [hpc]; rfl)).2)

/-- A live pass's `client.Create` asks for `eks-<u>`, which the provider holds. -/
theorem no_create_ok (h : LostCreation u c) {p : Pass} (hp : p ∈ c.passes) {name : String}
    {spec : EKSClusterSpec} (hreq : p.request = some (.create name spec)) (cl : Cluster) :
    c.world.answer (.create name spec) (.create (.ok cl)) = none := by
  have hpc := Pass.request_eq_create hreq
  have hname := Pass.request_create_name hreq
  rw [Option.eq_none_iff_forall_not_mem]
  intro w hw
  have hfree := World.answer_create_ok_free hw
  rw [hname, (h.passes p hp (by rw [hpc]; rfl)).1, h.held] at hfree
  cases hfree

/-- The answered pass carries `u` and no ClusterName: `client.Get` loads the store's object, and
every other call but a successful `client.Create`, which the provider refuses, keeps both. -/
theorem next_pass (h : LostCreation u c) {p : Pass} (hp : p ∈ c.passes) {req : Req} {resp : Resp}
    {w : World} (hreq : p.request = some req) (hw : c.world.answer req resp = some w)
    (hlive : (p.next resp).pc.live = true) :
    (p.next resp).inst.uid = u ∧ (p.next resp).inst.status.clusterName = "" := by
  have hk := World.answeredBy_of_answer hw
  by_cases hpc : p.pc = .get
  · exact h.store _ (Pass.next_get_mem hreq hw hpc hlive)
  · obtain ⟨hu, hcn⟩ := h.passes p hp (Pass.live_of_request hreq hpc)
    have hcr : ∀ cl, resp ≠ .create (.ok cl) := by
      rintro cl rfl
      cases req <;> cases hk
      exact absurd hw (by rw [h.no_create_ok hp hreq cl]; nofun)
    obtain ⟨h₁, h₂⟩ := Pass.resume_sameName (q := { p with trace := p.trace ++ [resp] }) hpc hreq hk hcr
    exact ⟨h₁.trans hu, h₂.trans hcn⟩

/-- **Step lemma.** Every step of the world keeps a lost creation lost. -/
theorem step (h : LostCreation u c) {c' : Config} {a : Action} (hs : c.exec a = some c') :
    LostCreation u c' := by
  refine ⟨Config.exec_holdsCluster hs h.held h.no_delete, ?_, ?_⟩
  all_goals rcases Config.exec_cases hs with rfl | ⟨i, p, req, resp, w, hp, hreq, hw, rfl⟩ |
    ⟨o, t, ho, rfl⟩ | ⟨hst, hps, -⟩
  · exact h.store
  · rcases World.answer_cases p hw with ⟨hst, -⟩ | ⟨o, v, rfl, rfl, -⟩
    · exact hst ▸ h.store
    · obtain ⟨rfl, -⟩ := Pass.request_eq_update hreq
      obtain ⟨-, -, -, -, hw'⟩ := World.answer_update_ok hw
      intro o' ho'
      rw [hw'] at ho'
      rw [mem_persist ho']
      exact h.passes p (List.getElem?_mem hp) (Pc.live_of_request_update hreq)
  · intro o' ho'
    obtain ⟨hs, -, hu, -⟩ := mem_requestDeletion ho'
    obtain ⟨h₁, h₂⟩ := h.store o ho
    exact ⟨hu.trans h₁, hs ▸ h₂⟩
  · exact hst ▸ h.store
  · intro q hq hlive
    rcases List.mem_append.mp hq with hq | hq
    · exact h.passes q hq hlive
    · rw [List.mem_singleton] at hq; subst hq; exact absurd hlive nofun
  · intro q hq hlive
    rcases List.mem_or_eq_of_mem_set hq with hq | rfl
    · exact h.passes q hq hlive
    · exact h.next_pass (List.getElem?_mem hp) hreq hw hlive
  · exact h.passes
  · exact hps ▸ h.passes

/-- **Run lemma.** -/
theorem run (h : LostCreation u c) {as : List (Config → Action)} {c' : Config}
    (hrun : c.run as = some c') : LostCreation u c' := by
  induction as generalizing c with
  | nil => cases hrun; exact h
  | cons a as ih =>
    simp only [Config.run, Option.bind_eq_some] at hrun
    obtain ⟨c₁, h₁, hrun⟩ := hrun
    exact ih (h.step h₁) hrun

end LostCreation

/-- Once `client.Create` made `eks-<u>` and the write that was to record it is lost, every run
from there keeps the cluster, never records a ClusterName, and refuses every `client.Create` a
pass issues: the resource is never provisioned. -/
theorem lost_creation_blocks_provisioning {u : String} {c c' : Config} {as : List (Config → Action)}
    (h : LostCreation u c) (hrun : c.run as = some c') :
    c'.world.provider.holdsCluster (clusterNamePrefix ++ u) = true ∧
    (∀ o ∈ c'.world.store, o.status.clusterName = "") ∧
    ∀ p ∈ c'.passes, ∀ name spec, p.request = some (.create name spec) →
      ∀ cl, c'.world.answer (.create name spec) (.create (.ok cl)) = none :=
  have h' := h.run hrun
  ⟨h'.held, fun o ho => (h'.store o ho).2, fun _ hp _ _ hreq cl => h'.no_create_ok hp hreq cl⟩

open Schedule in
/-- After the lost write of `lostCreateWriteRun`, a new pass fetches the resource and reaches
`client.Create` again. -/
def retryRun : List (Config → Action) :=
  [act .spawn, fetch 1, act (.respond 1 (.connect (.ok ())))]

theorem lost_creation_blocks_provisioning_sample :
    LostCreation sample.uid (replay sample lostCreateWriteRun) ∧
    (replay sample lostCreateWriteRun).run retryRun = some (replay sample (lostCreateWriteRun ++ retryRun)) ∧
    (∃ p ∈ (replay sample (lostCreateWriteRun ++ retryRun)).passes, p.pc = .create) ∧
    (replay sample (lostCreateWriteRun ++ retryRun)).world.provider.holdsCluster
      (clusterNamePrefix ++ sample.uid) = true ∧
    (∀ o ∈ (replay sample (lostCreateWriteRun ++ retryRun)).world.store, o.status.clusterName = "") ∧
    ∀ p ∈ (replay sample (lostCreateWriteRun ++ retryRun)).passes, ∀ name spec,
      p.request = some (.create name spec) → ∀ cl,
        (replay sample (lostCreateWriteRun ++ retryRun)).world.answer (.create name spec)
          (.create (.ok cl)) = none :=
  have hL : LostCreation sample.uid (replay sample lostCreateWriteRun) := ⟨by decide, by decide, by decide⟩
  have hR : (replay sample lostCreateWriteRun).run retryRun =
      some (replay sample (lostCreateWriteRun ++ retryRun)) := by decide
  ⟨hL, hR, by decide, @lost_creation_blocks_provisioning sample.uid _ _ retryRun hL hR⟩

end StackAws
