import StackAws.PassInvariant

/-!
What holds in every reachable configuration, whatever the scheduler, the provider and the
store answer, and the laws that follow from it.

`Inv` ties the store to the passes. The persisted Status has its identifiers in shape
(`StatusShape`); a persisted TypeReferencesResolved=True goes back to a write of a pass whose
`ResolveReferences` returned nil (`ResolvedWritten`); every pass keeps `PassInv`, fetched an
object in shape; and a live pass is never ahead of the store and, at the store's version,
was built from the Status stored there (`Synced`, the compare-and-swap link). `Inv.step`
checks it against every action, from the inversion lemmas `Config.exec_cases`,
`World.answer_cases` and `Pass.resume_cases`.

* `provisioning_stage_only_advances`: a step keeps the store's identifiers in shape, never
  changes or clears a recorded one, and makes the store Ready only by a write of a pass that
  saw everything Available needs.
* `creation_requests_gated`: `client.Create` and `client.CreateWorkerNodes` wait only in passes
  that fetched the right stage with no deletion, after resolution succeeded in the pass or was
  persisted by one where it did.
* `successful_write_loses_no_update`: a write that succeeds overwrites only the Status its pass
  fetched and a Spec its pass fetched or wrote itself.
-/

namespace StackAws

/-- ClusterName is empty or `eks-<UID>`; a stack ID is recorded only with a ClusterName. -/
def StatusShape (o : EKSCluster) : Prop :=
  (o.status.clusterName = "" ∨ o.status.clusterName = clusterNamePrefix ++ o.uid) ∧
    (o.status.cloudFormationStackID ≠ "" → o.status.clusterName ≠ "")

/-- The identifiers recorded in `o` are still there in `o'`. -/
def IdsKept (o o' : EKSCluster) : Prop :=
  (o.status.clusterName ≠ "" → o'.status.clusterName = o.status.clusterName) ∧
    (o.status.cloudFormationStackID ≠ "" →
      o'.status.cloudFormationStackID = o.status.cloudFormationStackID)

/-- Some logged write of a pass whose `ResolveReferences` returned nil carried
TypeReferencesResolved=True. -/
def ResolvedWritten (ws : List (Pass × EKSCluster)) : Prop :=
  ∃ w ∈ ws, w.1.resolved = true ∧ w.2.conditionTrue .typeReferencesResolved = true

/-- Resolution succeeded in the pass, or the pass fetched the condition that such a pass
persisted. -/
def ResolutionGate (ws : List (Pass × EKSCluster)) (p : Pass) : Prop :=
  p.resolved = true ∨ p.fetched.conditionTrue .typeReferencesResolved = true ∧ ResolvedWritten ws

/-- The spec stored at a pass's version: the one it fetched until its resolver wrote, and then
its own. -/
def Pass.syncedSpec (p : Pass) : EKSClusterSpec :=
  if p.inst.resourceVersion = p.fetched.resourceVersion then p.fetched.spec else p.inst.spec

/-- The compare-and-swap link between a live pass and the stored object `o`. -/
def Synced (p : Pass) (o : EKSCluster) : Prop :=
  p.inst.resourceVersion ≤ o.resourceVersion ∧
    (o.resourceVersion = p.inst.resourceVersion → o.status = p.fetched.status ∧ o.spec = p.syncedSpec)

/-- What `Inv` asks of one pass, against the store `s` and the write log `ws`. -/
structure PassFits (s : Option EKSCluster) (ws : List (Pass × EKSCluster)) (p : Pass) : Prop where
  inv : PassInv p
  shape : StatusShape p.fetched
  refs : p.fetched.conditionTrue .typeReferencesResolved = true → ResolvedWritten ws
  synced : p.pc.live = true → ∀ o ∈ s, Synced p o

structure Inv (c : Config) : Prop where
  shape : ∀ o ∈ c.world.store, StatusShape o
  refs : ∀ o ∈ c.world.store,
    o.conditionTrue .typeReferencesResolved = true → ResolvedWritten c.writes
  passes : ∀ p ∈ c.passes, PassFits c.world.store c.writes p

/-! ## Identifiers -/

theorem clusterName_ne_empty (uid : String) : clusterNamePrefix ++ uid ≠ "" := fun h => by
  have h4 : clusterNamePrefix.length = 4 := by decide
  have := congrArg String.length h
  rw [String.length_append, h4] at this
  simp at this

theorem IdsAdvance.kept {f o : EKSCluster} (h : IdsAdvance f o) : IdsKept f o :=
  ⟨fun hne => h.1.resolve_right fun h' => hne h'.1, fun hne => h.2.resolve_right fun h' => hne h'.1⟩

theorem IdsAdvance.shape {f o : EKSCluster} (h : IdsAdvance f o) (hf : StatusShape f)
    (hu : o.uid = f.uid) : StatusShape o := by
  obtain ⟨hc, hs⟩ := h
  refine ⟨?_, fun hne => ?_⟩
  · rcases hc with hc | ⟨-, hc⟩
    · rw [hc, hu]; exact hf.1
    · rw [hc, hu]; exact .inr rfl
  · rcases hs with hs | ⟨-, hf', hs⟩
    · rcases hc with hc | ⟨-, hc⟩
      · rw [hc]; exact hf.2 (hs ▸ hne)
      · rw [hc]; exact clusterName_ne_empty _
    · rw [hs]; exact hf'

theorem IdsKept.of_status {f o s o' : EKSCluster} (h : IdsKept f o) (hs : s.status = f.status)
    (ho : o'.status = o.status) : IdsKept s o' := by
  simpa only [IdsKept, hs, ho] using h

/-! ## The compare-and-swap link -/

theorem ResolvedWritten.mono {ws ws' : List (Pass × EKSCluster)} (h : ResolvedWritten ws)
    (hs : ws ⊆ ws') : ResolvedWritten ws' :=
  let ⟨w, hw, hr⟩ := h
  ⟨w, hs hw, hr⟩

/-- A store object whose version did not go down, and whose Status and Spec changed only with
it. -/
theorem Synced.later {p : Pass} {o o' : EKSCluster} (h : Synced p o)
    (hv : o.resourceVersion ≤ o'.resourceVersion)
    (hs : o'.resourceVersion = o.resourceVersion → o'.status = o.status ∧ o'.spec = o.spec) :
    Synced p o' :=
  ⟨h.1.trans hv, fun he => by
    have he' : o'.resourceVersion = o.resourceVersion := by have := h.1; omega
    rw [(hs he').1, (hs he').2]
    exact h.2 (by omega)⟩

/-- Each object the new store holds has a predecessor in the old one that `Synced.later`
applies to. -/
def StoreLater (s s' : Option EKSCluster) : Prop :=
  ∀ o' ∈ s', ∃ o ∈ s, o.resourceVersion ≤ o'.resourceVersion ∧
    (o'.resourceVersion = o.resourceVersion → o'.status = o.status ∧ o'.spec = o.spec)

theorem StoreLater.refl (s : Option EKSCluster) : StoreLater s s :=
  fun o' h => ⟨o', h, le_rfl, fun _ => ⟨rfl, rfl⟩⟩

theorem PassFits.later {s s' : Option EKSCluster} {ws ws' : List (Pass × EKSCluster)} {p : Pass}
    (h : PassFits s ws p) (hl : StoreLater s s') (hw : ws ⊆ ws') : PassFits s' ws' p where
  inv := h.inv
  shape := h.shape
  refs := fun hr => (h.refs hr).mono hw
  synced := fun hp o' ho' =>
    let ⟨o, ho, hv, hs⟩ := hl o' ho'
    (h.synced hp o ho).later hv hs

/-- A write at the version after `s`'s leaves every other pass behind the store. -/
theorem storeLater_persist {s : EKSCluster} {o : EKSCluster} :
    StoreLater (some s) (persist o (s.resourceVersion + 1)) := fun o' ho' => by
  cases mem_persist ho'
  exact ⟨s, rfl, Nat.le_succ _, fun h => absurd h (Nat.succ_ne_self _)⟩

theorem storeLater_requestDeletion (o : EKSCluster) (t : Nat) :
    StoreLater (some o) (requestDeletion o t) := fun _ ho' =>
  let ⟨hs, hsp, _, hv⟩ := mem_requestDeletion ho'
  ⟨o, rfl, hv, fun _ => ⟨hs, hsp⟩⟩

/-! ## The invariant over a step -/

theorem PassInv.fresh : PassInv {} :=
  ⟨⟨rfl, rfl, ⟨.inl rfl, .inl rfl⟩, fun h => .inl ⟨h, rfl, rfl⟩, fun h => .inr h,
    AssignedOnce.refl _⟩, trivial⟩

theorem PassFits.fresh (s : Option EKSCluster) (ws : List (Pass × EKSCluster)) : PassFits s ws {} where
  inv := PassInv.fresh
  shape := ⟨.inl rfl, fun h => absurd rfl h⟩
  refs := fun h => by cases h
  synced := fun h => by cases h

/-- A pass that still holds the object it fetched keeps the parts of `PassFits` about that
object; only the compare-and-swap link is left to show. -/
theorem PassFits.of_fetched {s s' : Option EKSCluster} {ws ws' : List (Pass × EKSCluster)} {p q : Pass}
    (hf : PassFits s ws p) (hinv : PassInv q) (hfetched : q.fetched = p.fetched) (hsub : ws ⊆ ws')
    (hsy : q.pc.live = true → ∀ o ∈ s', Synced q o) : PassFits s' ws' q :=
  ⟨hinv, hfetched ▸ hf.shape, fun hr => (hf.refs (hfetched ▸ hr)).mono hsub, hsy⟩

section Respond

variable {c : Config} {p : Pass} {req : Req} {resp : Resp} {w : World}

/-- **Step lemma** for the answered pass. -/
theorem PassFits.next (hi : Inv c) (hf : PassFits c.world.store c.writes p)
    (hreq : p.request = some req) (hw : c.world.answer req resp = some w) :
    PassFits w.store (c.writes ++ written p req resp) (p.next resp) := by
  have hsub : c.writes ⊆ c.writes ++ written p req resp := List.subset_append_left _ _
  have hinv : PassInv (p.next resp) := hf.inv.next resp
  rcases Pass.next_cases p resp with ⟨hpc, o, hr, hinst, hfetched⟩ |
    ⟨hpc, v, hr, hfetched, hver, hspec⟩ | ⟨ref, rest, v, hpc, hr, hfetched, hver⟩ |
    ⟨hfetched, hlive⟩ | ⟨hlive, hfetched, hver, hspec⟩
  · -- `r.Get` answered the stored object
    subst hr
    rw [Pass.request, hpc] at hreq
    cases hreq
    obtain ⟨hs, rfl⟩ := World.answer_get hw
    refine ⟨hinv, by rw [hfetched]; exact hi.shape o hs,
      fun hr => (hi.refs o hs (by rwa [hfetched] at hr)).mono hsub, ?_⟩
    intro _ o' ho'
    cases Option.mem_some_iff.mp (hs ▸ ho')
    refine ⟨le_of_eq (congrArg EKSCluster.resourceVersion hinst), fun _ => ⟨by rw [hfetched], ?_⟩⟩
    rw [Pass.syncedSpec, hinst, hfetched, if_pos rfl]
  · -- the resolver's own write
    subst hr
    have hat : p.inst.status = p.fetched.status ∧ p.inst.resourceVersion = p.fetched.resourceVersion := by
      have := hf.inv.atPc; simp only [AtPc, hpc] at this; exact this
    rw [Pass.request, hpc] at hreq
    cases hreq
    obtain ⟨s, -, hsv, rfl, hs⟩ := World.answer_update_ok hw
    refine hf.of_fetched hinv hfetched hsub fun _ o' ho' => ?_
    cases mem_persist (hs ▸ ho')
    refine ⟨le_of_eq hver, fun _ => ⟨by rw [hfetched]; exact hat.1, ?_⟩⟩
    rw [Pass.syncedSpec, hver, hfetched, if_neg (by omega), hspec]
  · -- `Build` answered: the store is unchanged and the pass has not written yet
    subst hr
    have hat : p.inst.resourceVersion = p.fetched.resourceVersion := by
      have := hf.inv.atPc; simp only [AtPc, hpc] at this; exact this.2.1
    rw [Pass.request, hpc] at hreq
    cases hreq
    have hs : w.store = c.world.store := by
      rcases World.answer_cases p hw with ⟨hs, -⟩ | ⟨o, v, h, -⟩
      · exact hs
      · cases h
    refine hf.of_fetched hinv hfetched hsub fun _ o' ho' => ?_
    have := hf.synced (by rw [hpc]; rfl) o' (hs ▸ ho')
    refine ⟨hver ▸ this.1, fun he => ⟨by rw [hfetched]; exact (this.2 (hver ▸ he)).1, ?_⟩⟩
    rw [(this.2 (hver ▸ he)).2, Pass.syncedSpec, Pass.syncedSpec, hver, hfetched, if_pos hat,
      if_pos hat]
  · -- the pass ended
    exact hf.of_fetched hinv hfetched hsub fun h => absurd (hlive ▸ h) Bool.false_ne_true
  · -- neither the fetched object nor the instance's version and spec changed
    have hsy : (p.next resp).syncedSpec = p.syncedSpec := by
      rw [Pass.syncedSpec, Pass.syncedSpec, hver, hfetched, hspec]
    have hold : ∀ o ∈ c.world.store, Synced (p.next resp) o := fun o ho => by
      have := hf.synced hlive o ho
      exact ⟨hver ▸ this.1, fun h => by rw [hfetched, hsy]; exact this.2 (hver ▸ h)⟩
    refine hf.of_fetched hinv hfetched hsub fun _ o' ho' => ?_
    rcases World.answer_cases p hw with ⟨hs, -⟩ | ⟨o, v, rfl, rfl, -⟩
    · exact hold o' (hs ▸ ho')
    · obtain ⟨s, hs, -, rfl, hw'⟩ := World.answer_update_ok hw
      obtain ⟨s', hs', hle, heq⟩ := storeLater_persist o' (hw' ▸ ho')
      cases Option.mem_some_iff.mp hs'
      exact (hold s hs).later hle heq

/-- **Step lemma** for an answered call: the store is unchanged, or the answered pass wrote its
instance by compare-and-swap. -/
theorem Inv.respond {i : Nat} (hi : Inv c) (hp : c.passes[i]? = some p)
    (hreq : p.request = some req) (hw : c.world.answer req resp = some w) :
    Inv { world := w, passes := c.passes.set i (p.next resp),
          writes := c.writes ++ written p req resp } := by
  have hf := hi.passes p (List.getElem?_mem hp)
  have hsub : c.writes ⊆ c.writes ++ written p req resp := List.subset_append_left _ _
  have hnew := PassFits.next hi hf hreq hw
  rcases World.answer_cases p hw with ⟨hs, -⟩ | ⟨o, v, rfl, rfl, hwr⟩
  · -- nothing written
    refine ⟨by rw [hs]; exact hi.shape, fun o ho hr => (hi.refs o (hs ▸ ho) hr).mono hsub,
      fun q hq => ?_⟩
    rcases List.mem_or_eq_of_mem_set hq with hq | rfl
    · exact (hi.passes q hq).later (by rw [hs]; exact StoreLater.refl _) hsub
    · exact hnew
  · -- `r.Update` of the instance succeeded
    obtain ⟨rfl, -⟩ := Pass.request_eq_update hreq
    obtain ⟨s, hs, -, rfl, hw'⟩ := World.answer_update_ok hw
    have ht := hf.inv.tracks
    refine ⟨fun o' ho' => ?_, fun o' ho' hr => ?_, fun q hq => ?_⟩
    · cases mem_persist (hw' ▸ ho')
      exact ht.ids.shape hf.shape ht.uid
    · cases mem_persist (hw' ▸ ho')
      rcases ht.refs hr with hres | hf'
      · exact ⟨(p, p.inst), List.mem_append_right _ (by rw [hwr]; exact List.mem_singleton_self _),
          hres, hr⟩
      · exact (hf.refs hf').mono hsub
    · rcases List.mem_or_eq_of_mem_set hq with hq | rfl
      · exact (hi.passes q hq).later (by rw [hs, hw']; exact storeLater_persist) hsub
      · exact hnew

end Respond

theorem Inv.init {o : EKSCluster} (ho : o.status = {}) : Inv (initial o) where
  shape := fun _ h => by
    cases h
    exact ⟨.inl (by rw [ho]), fun h => absurd (by rw [ho]) h⟩
  refs := fun _ h hr => by
    cases h
    simp [EKSCluster.conditionTrue, ho, getCondition, isConditionTrue] at hr
  passes := fun _ h => by cases h

/-- **Step lemma.** Every action keeps `Inv`. -/
theorem Inv.step {c c' : Config} (hi : Inv c) (hs : Step c c') : Inv c' := by
  obtain ⟨a, h⟩ := hs
  rcases Config.exec_cases h with rfl | ⟨i, p, req, resp, w, hp, hreq, hw, rfl⟩ |
    ⟨o, t, ho, rfl⟩ | ⟨hs, hp, hw⟩
  · -- a new pass
    refine ⟨hi.shape, hi.refs, fun q hq => ?_⟩
    rcases List.mem_append.mp hq with hq | hq
    · exact hi.passes q hq
    · cases List.mem_singleton.mp hq
      exact PassFits.fresh _ _
  · exact hi.respond hp hreq hw
  · -- a deletion request
    refine ⟨fun o' h => ?_, fun o' h hr => ?_, fun q hq => ?_⟩
    · obtain ⟨hst, -, hu, -⟩ := mem_requestDeletion h
      simpa only [StatusShape, hst, hu] using hi.shape o ho
    · obtain ⟨hst, -, -, -⟩ := mem_requestDeletion h
      exact hi.refs o ho (by rwa [EKSCluster.conditionTrue_of_conditions (congrArg _ hst)] at hr)
    · exact (hi.passes q hq).later (by rw [ho]; exact storeLater_requestDeletion o t)
        (List.Subset.refl _)
  · -- the provider moved on its own
    exact ⟨by rw [hs]; exact hi.shape, by rw [hs, hw]; exact hi.refs,
      by rw [hs, hp, hw]; exact hi.passes⟩

/-- **The invariant holds in every reachable configuration.** -/
theorem Reachable.inv {c : Config} (h : Reachable c) : Inv c := by
  induction h with
  | init o ho => exact Inv.init ho
  | step _ hs ih => exact ih.step hs

/-! ## The stage laws -/

theorem Pc.live_of_request_update {p : Pass} {o : EKSCluster} (h : p.request = some (.update o)) :
    p.pc.live = true := by
  rcases (Pass.request_eq_update h).2 with hpc | ⟨_, _, hpc⟩ <;> rw [hpc] <;> rfl

/-- What a step does to the store: nothing, a deletion request, or a logged compare-and-swap
write of a live pass's instance. -/
theorem Inv.step_store {c c' : Config} (hi : Inv c) (hs : Step c c') :
    (c'.world.store = c.world.store ∧ c'.writes = c.writes) ∨
    (∃ o t, c.world.store = some o ∧ c'.world.store = requestDeletion o t ∧ c'.writes = c.writes) ∨
    ∃ p s v, PassFits c.world.store c.writes p ∧ p.pc.live = true ∧ c.world.store = some s ∧
      s.resourceVersion = p.inst.resourceVersion ∧ c'.world.store = persist p.inst v ∧
      c'.writes = c.writes ++ [(p, p.inst)] := by
  obtain ⟨a, h⟩ := hs
  rcases Config.exec_cases h with rfl | ⟨i, p, req, resp, w, hp, hreq, hw, rfl⟩ |
    ⟨o, t, ho, rfl⟩ | ⟨hs, -, hwr⟩
  · exact .inl ⟨rfl, rfl⟩
  · rcases World.answer_cases p hw with ⟨hs, hwr⟩ | ⟨o, v, rfl, rfl, hwr⟩
    · exact .inl ⟨hs, by rw [hwr, List.append_nil]⟩
    · have hlive := Pc.live_of_request_update hreq
      obtain ⟨rfl, -⟩ := Pass.request_eq_update hreq
      obtain ⟨s, hs, hver, -, hw'⟩ := World.answer_update_ok hw
      exact .inr (.inr ⟨p, s, v, hi.passes p (List.getElem?_mem hp), hlive, hs, hver, hw',
        by rw [hwr]⟩)
  · exact .inr (.inl ⟨o, t, ho, rfl, rfl⟩)
  · exact .inl ⟨hs, hwr⟩

theorem IdsKept.of_eq {o o' : EKSCluster} (h : o'.status = o.status) : IdsKept o o' :=
  ⟨fun _ => by rw [h], fun _ => by rw [h]⟩

/-- **The provisioning stage only advances.** In every step of a run, the stored ClusterName
and stack ID stay in shape and a recorded one is never changed or cleared; and a stored
Ready=True either was there before with the same Endpoint and State, or was just written by a
pass that saw the cluster ACTIVE, a completed worker stack, and aws-auth and the connection
secret succeed. -/
theorem provisioning_stage_only_advances {c c' : Config} (hc : Reachable c) (hs : Step c c') :
    (∀ o' ∈ c'.world.store, StatusShape o') ∧
    (∀ o ∈ c.world.store, ∀ o' ∈ c'.world.store, IdsKept o o') ∧
    (∀ o' ∈ c'.world.store, o'.conditionTrue .typeReady = true →
      (∃ o ∈ c.world.store, o.conditionTrue .typeReady = true ∧
        o'.status.endpoint = o.status.endpoint ∧ o'.status.state = o.status.state) ∨
      ∃ p o, c'.writes = c.writes ++ [(p, o)] ∧ o'.status = o.status ∧
        AvailableObserved p.trace o') := by
  have hi := hc.inv
  refine ⟨(hi.step hs).shape, ?_⟩
  rcases hi.step_store hs with ⟨hst, -⟩ | ⟨o, t, ho, hst, -⟩ | ⟨p, s, v, hf, hlive, hs0, hver, hst, hwr⟩
  · -- the store is unchanged
    refine ⟨fun o ho o' ho' => ?_, fun o' ho' hr => .inl ⟨o', hst ▸ ho', hr, rfl, rfl⟩⟩
    cases Option.mem_some_iff.mp ((hst ▸ ho').symm.trans ho)
    exact IdsKept.of_eq rfl
  · -- a deletion request keeps the Status
    refine ⟨fun o₀ ho₀ o' ho' => ?_, fun o' ho' hr => ?_⟩ <;>
      obtain ⟨hst', -, -, -⟩ := mem_requestDeletion (hst ▸ ho')
    · cases Option.mem_some_iff.mp (ho.symm.trans ho₀)
      exact IdsKept.of_eq hst'
    · refine .inl ⟨o, ho, ?_, by rw [hst'], by rw [hst']⟩
      rwa [EKSCluster.conditionTrue_of_conditions (congrArg _ hst')] at hr
  · -- a pass wrote its instance over the Status it fetched
    have ht := hf.inv.tracks
    have hsst : s.status = p.fetched.status := ((hf.synced hlive s hs0).2 hver).1
    refine ⟨fun o₀ ho₀ o' ho' => ?_, fun o' ho' hr => ?_⟩ <;> cases mem_persist (hst ▸ ho')
    · cases Option.mem_some_iff.mp (hs0.symm.trans ho₀)
      exact ht.ids.kept.of_status hsst rfl
    · rcases ht.ready hr with ⟨hfr, he, hstate⟩ | hobs
      · refine .inl ⟨s, hs0, ?_, by rw [hsst]; exact he, by rw [hsst]; exact hstate⟩
        rwa [EKSCluster.conditionTrue_of_conditions (congrArg _ hsst)]
      · exact .inr ⟨p, p.inst, hwr, rfl, hobs⟩

/-- A resource as its owner creates it, asking for its cluster to be deleted with it. -/
def sample : EKSCluster := { uid := "u1", spec := { reclaimPolicy := .reclaimDelete } }

/-- The cluster `client.Create` returns for `sample`. -/
def sampleCluster : Cluster := ⟨clusterNamePrefix ++ sample.uid, clusterStatusCreating, "1.14", ""⟩

open Schedule in
/-- One pass of `sample` fetches it, connects and gets the created cluster back. -/
def createRun : List (Config → Action) :=
  [act .spawn, fetch 0, act (.respond 0 (.connect (.ok ()))),
    act (.respond 0 (.create (.ok sampleCluster)))]

def createdSample : Config := replay sample createRun

/-- The same run after the write of the created ClusterName succeeded. -/
def createdSampleWritten : Config :=
  (createdSample.exec (.respond 0 (.update (.ok 1)))).getD createdSample

theorem provisioning_stage_only_advances_createdSample :
    Reachable createdSample ∧ Step createdSample createdSampleWritten ∧
    (∀ o' ∈ createdSampleWritten.world.store, StatusShape o') ∧
    (∀ o ∈ createdSample.world.store, ∀ o' ∈ createdSampleWritten.world.store, IdsKept o o') ∧
    (∀ o' ∈ createdSampleWritten.world.store, o'.conditionTrue .typeReady = true →
      (∃ o ∈ createdSample.world.store, o.conditionTrue .typeReady = true ∧
        o'.status.endpoint = o.status.endpoint ∧ o'.status.state = o.status.state) ∨
      ∃ p o, createdSampleWritten.writes = createdSample.writes ++ [(p, o)] ∧
        o'.status = o.status ∧ AvailableObserved p.trace o') :=
  have hc : Reachable createdSample := Reachable.replay sample createRun rfl (by decide)
  have hs : Step createdSample createdSampleWritten := ⟨.respond 0 (.update (.ok 1)), by decide⟩
  ⟨hc, hs, provisioning_stage_only_advances hc hs⟩

/-- **Creation requests are gated.** A pass waits on `client.Create` only if it fetched an empty
ClusterName and no deletion, and on `client.CreateWorkerNodes` only if it fetched a ClusterName,
no stack ID and no deletion and saw the cluster ACTIVE; either only after its own resolution
succeeded, or with TypeReferencesResolved=True fetched as written by a pass whose resolution
succeeded. -/
theorem creation_requests_gated {c : Config} {p : Pass} (hc : Reachable c) (hp : p ∈ c.passes) :
    (∀ name spec, p.request = some (.create name spec) →
      p.fetched.status.clusterName = "" ∧ p.fetched.deletionTimestamp = none ∧
        ResolutionGate c.writes p) ∧
    (∀ name version spec, p.request = some (.createWorkerNodes name version spec) →
      p.fetched.status.clusterName ≠ "" ∧ p.fetched.status.cloudFormationStackID = "" ∧
        p.fetched.deletionTimestamp = none ∧
        (∃ cl, Resp.getCluster (.ok cl) ∈ p.trace ∧ cl.status = clusterStatusActive) ∧
        ResolutionGate c.writes p) := by
  have hf := hc.inv.passes p hp
  have hgate : Gate p → ResolutionGate c.writes p := fun h => h.imp_right fun hr => ⟨hr, hf.refs hr⟩
  have hpc := hf.inv.atPc
  refine ⟨fun _ _ h => ?_, fun _ _ _ h => ?_⟩
  · simp only [AtPc, Pass.request_eq_create h] at hpc
    exact ⟨hpc.1, hpc.2.1, hgate hpc.2.2.1⟩
  · obtain ⟨cl, hcl⟩ := Pass.request_eq_createWorkerNodes h
    simp only [AtPc, hcl] at hpc
    exact ⟨hpc.1, hpc.2.1, hpc.2.2.1, ⟨cl, hpc.2.2.2.2⟩, hgate hpc.2.2.2.1⟩

/-- The run `createRun` before `client.Create` answered: the pass waits on it. -/
def awaitingCreate : Config := replay sample (createRun.take 3)

/-- The pass `awaitingCreate` holds. -/
def awaitingCreatePass : Pass := (awaitingCreate.passes.head?).getD {}

theorem creation_requests_gated_awaitingCreate :
    Reachable awaitingCreate ∧ awaitingCreatePass ∈ awaitingCreate.passes ∧
    (∀ name spec, awaitingCreatePass.request = some (.create name spec) →
      awaitingCreatePass.fetched.status.clusterName = "" ∧
        awaitingCreatePass.fetched.deletionTimestamp = none ∧
        ResolutionGate awaitingCreate.writes awaitingCreatePass) ∧
    (∀ name version spec, awaitingCreatePass.request = some (.createWorkerNodes name version spec) →
      awaitingCreatePass.fetched.status.clusterName ≠ "" ∧
        awaitingCreatePass.fetched.status.cloudFormationStackID = "" ∧
        awaitingCreatePass.fetched.deletionTimestamp = none ∧
        (∃ cl, Resp.getCluster (.ok cl) ∈ awaitingCreatePass.trace ∧
          cl.status = clusterStatusActive) ∧
        ResolutionGate awaitingCreate.writes awaitingCreatePass) :=
  have hc : Reachable awaitingCreate := Reachable.replay sample (createRun.take 3) rfl (by decide)
  have hp : awaitingCreatePass ∈ awaitingCreate.passes := by decide
  ⟨hc, hp, creation_requests_gated hc hp⟩

/-- **No lost update.** A write that succeeds in a run overwrites only what its pass read: the
stored object is at the version the pass holds, its Status is the one the pass fetched, and its
Spec the one the pass fetched or the one it wrote itself at its resolver write. A Status or Spec
change made after the pass fetched the object is never overwritten. -/
theorem successful_write_loses_no_update {c c' : Config} (hc : Reachable c) (hs : Step c c')
    {p : Pass} {o : EKSCluster} (hw : c'.writes = c.writes ++ [(p, o)]) :
    ∃ s ∈ c.world.store, s.resourceVersion = p.inst.resourceVersion ∧
      s.status = p.fetched.status ∧ (s.spec = p.fetched.spec ∨ s.spec = p.inst.spec) := by
  rcases hc.inv.step_store hs with ⟨-, hwr⟩ | ⟨-, -, -, -, hwr⟩ |
    ⟨q, s, v, hf, hlive, hs0, hver, -, hwr⟩
  · simp [hwr] at hw
  · simp [hwr] at hw
  · obtain ⟨rfl, -⟩ : q = p ∧ q.inst = o := by simpa using hwr.symm.trans hw
    obtain ⟨hst, hsp⟩ := (hf.synced hlive s hs0).2 hver
    refine ⟨s, hs0, hver, hst, ?_⟩
    rw [hsp, Pass.syncedSpec]
    split
    · exact .inl rfl
    · exact .inr rfl

/-- The pass of `createdSample`, about to write the created ClusterName. -/
def createdSamplePass : Pass := (createdSample.passes.head?).getD {}

theorem successful_write_loses_no_update_createdSample :
    Reachable createdSample ∧ Step createdSample createdSampleWritten ∧
    createdSampleWritten.writes = createdSample.writes ++ [(createdSamplePass, createdSamplePass.inst)] ∧
    ∃ s ∈ createdSample.world.store, s.resourceVersion = createdSamplePass.inst.resourceVersion ∧
      s.status = createdSamplePass.fetched.status ∧
      (s.spec = createdSamplePass.fetched.spec ∨ s.spec = createdSamplePass.inst.spec) :=
  have hc : Reachable createdSample := Reachable.replay sample createRun rfl (by decide)
  have hs : Step createdSample createdSampleWritten := ⟨.respond 0 (.update (.ok 1)), by decide⟩
  have hw : createdSampleWritten.writes =
      createdSample.writes ++ [(createdSamplePass, createdSamplePass.inst)] := by decide
  ⟨hc, hs, hw, successful_write_loses_no_update hc hs hw⟩

end StackAws
