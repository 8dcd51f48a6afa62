import StackAws.Creation

/-!
The name of a resource's cluster. `_create` asks `client.Create` for `eks-<UID>` (`eks.go`,
line 168), no pass changes the UID of the object it works on, and the provider answers
already-exists for a name it holds. So whatever passes interleave and whatever writes are lost,
the provider holds at most one cluster for the resource; worker stacks, whose IDs the provider
picks, can pile up (`reissued_creation_duplicates`).

`Config.exec_clusters` says once what a step of the world can do to the provider's clusters; the
invariants on clusters here and in `StackAws.LostCreation` are derived from it.

* `one_cluster_per_resource`: in every run there is one UID that the stored object carries, and
  every cluster the provider holds is named `eks-<UID>`: it holds at most one.
-/

namespace StackAws

namespace Pass

/-- A pass with a call to make is live, unless it waits on its fetch. -/
theorem live_of_request {q : Pass} {req : Req} (h : q.request = some req) (hpc : q.pc ≠ .get) :
    q.pc.live = true := by
  unfold request at h
  split at h <;> rename_i hq <;> first | exact absurd hq hpc | (rw [hq]; rfl) | cases h

/-- `client.Create` asks for the name `_create` derives from the instance's UID. -/
theorem request_create_name {p : Pass} {name : String} {spec : EKSClusterSpec}
    (h : p.request = some (.create name spec)) : name = clusterNamePrefix ++ p.inst.uid := by
  have hpc := request_eq_create h
  unfold request at h; rw [hpc] at h; cases h; rfl

end Pass

/-- A pass that `client.Get` leaves live holds the object the store held. -/
theorem Pass.next_get_mem {w w' : World} {p : Pass} {req : Req} {resp : Resp}
    (hreq : p.request = some req) (hw : w.answer req resp = some w') (hpc : p.pc = .get)
    (hlive : (p.next resp).pc.live = true) : (p.next resp).inst ∈ w.store := by
  have hk := World.answeredBy_of_answer hw
  obtain ⟨pc, inst, fetched, resolved, trace⟩ := p
  cases hpc
  cases hreq
  cases resp <;> cases hk
  rename_i x
  rcases x with err | o
  · exact absurd hlive nofun
  · exact (World.answer_get hw).1

/-- Past `client.Get`, no answer changes the UID of a pass's instance. -/
theorem PassInv.next_uid {p : Pass} (h : PassInv p) (hpc : p.pc ≠ .get) (r : Resp) :
    (p.next r).inst.uid = p.inst.uid := by
  have hf : (p.next r).fetched = p.fetched := by
    rcases Pass.next_cases p r with ⟨hg, -⟩ | ⟨-, -, -, hf, -⟩ | ⟨-, -, -, -, -, hf, -⟩ | ⟨hf, -⟩ |
      ⟨-, hf, -⟩
    exacts [absurd hg hpc, hf, hf, hf, hf]
  rw [(h.next r).tracks.uid, hf, h.tracks.uid]

/-! ## What a step does to the provider's clusters -/

/-- **Inversion lemma.** A legal answer of the provider leaves its clusters alone, adds the
cluster `client.Create` made under a name it did not hold, or drops the deleted name. -/
theorem Provider.answer_clusters {pr pr' : Provider} {req : Req} {resp : Resp}
    (h : pr.answer req resp = some pr') :
    pr'.clusters = pr.clusters ∨
    (∃ name spec cl, req = .create name spec ∧ cl.name = name ∧ pr.holdsCluster name = false ∧
      pr'.clusters = pr.clusters ++ [cl]) ∨
    ∃ name, req = .delete name ∧ pr'.clusters = pr.clusters.filter (·.name != name) := by
  unfold Provider.answer at h
  split at h <;> (try split_ifs at h with hc) <;> cases h
  all_goals first
    | exact .inl rfl
    | exact .inr (.inl ⟨_, _, _, rfl, hc.1, by simpa using hc.2, rfl⟩)
    | exact .inr (.inr ⟨_, rfl, rfl⟩)

theorem World.answerStore_provider {w w' : World} {req : Req} {resp : Resp}
    (h : w.answerStore req resp = some w') : w'.provider = w.provider := by
  unfold answerStore at h
  split at h <;> (try split at h) <;> (try split_ifs at h) <;> cases h <;> rfl

/-- `Provider.answer_clusters` for the world: the store and the calls answered freely leave the
clusters alone. -/
theorem World.answer_clusters {w w' : World} {req : Req} {resp : Resp}
    (h : w.answer req resp = some w') :
    w'.provider.clusters = w.provider.clusters ∨
    (∃ name spec cl, req = .create name spec ∧ cl.name = name ∧
      w.provider.holdsCluster name = false ∧ w'.provider.clusters = w.provider.clusters ++ [cl]) ∨
    ∃ name, req = .delete name ∧
      w'.provider.clusters = w.provider.clusters.filter (·.name != name) := by
  unfold World.answer at h
  split at h <;> first
    | exact .inl (congrArg Provider.clusters (World.answerStore_provider h))
    | (split_ifs at h; cases h; exact .inl rfl)
    | (obtain ⟨pr, hpr, rfl⟩ := Option.map_eq_some'.mp h
       exact Provider.answer_clusters hpr)

/-- **Inversion lemma.** A step leaves the provider's clusters alone, adds the cluster a pass's
`client.Create` made under a name the provider did not hold, drops the name a pass's
`client.Delete` asked for, or moves a held cluster's state. -/
theorem Config.exec_clusters {c c' : Config} {a : Action} (hs : c.exec a = some c') :
    c'.world.provider.clusters = c.world.provider.clusters ∨
    (∃ p ∈ c.passes, ∃ name spec cl, p.request = some (.create name spec) ∧ cl.name = name ∧
      c.world.provider.holdsCluster name = false ∧
      c'.world.provider.clusters = c.world.provider.clusters ++ [cl]) ∨
    (∃ p ∈ c.passes, ∃ name, p.request = some (.delete name) ∧
      c'.world.provider.clusters = c.world.provider.clusters.filter (·.name != name)) ∨
    ∃ cl, c.world.provider.holdsCluster cl.name = true ∧
      c'.world.provider.clusters =
        c.world.provider.clusters.map fun e => if e.name = cl.name then cl else e := by
  cases a with
  | spawn => cases hs; exact .inl rfl
  | respond i resp =>
    simp only [Config.exec] at hs
    split at hs
    next => cases hs
    next p hp =>
      split at hs
      next => cases hs
      next req hreq =>
        split at hs
        next => cases hs
        next w hw =>
          cases hs
          rcases World.answer_clusters hw with h | ⟨name, spec, cl, rfl, hcn, hfree, h⟩ |
            ⟨name, rfl, h⟩
          · exact .inl h
          · exact .inr (.inl ⟨p, List.getElem?_mem hp, name, spec, cl, hreq, hcn, hfree, h⟩)
          · exact .inr (.inr (.inl ⟨p, List.getElem?_mem hp, name, hreq, h⟩))
  | requestDeletion t => simp only [Config.exec] at hs; split at hs <;> cases hs; exact .inl rfl
  | providerCluster cl =>
    simp only [Config.exec] at hs
    split_ifs at hs with hheld; cases hs; exact .inr (.inr (.inr ⟨cl, hheld, rfl⟩))
  | providerStack ws => simp only [Config.exec] at hs; split_ifs at hs; cases hs; exact .inl rfl

/-! ## One cluster per resource -/

/-- The provider holds only clusters named `n`, and no name twice. -/
def Provider.NamedFor (pr : Provider) (n : String) : Prop :=
  (∀ cl ∈ pr.clusters, cl.name = n) ∧ (pr.clusters.map (·.name)).Nodup

theorem Provider.NamedFor.length_le {pr : Provider} {n : String} (h : pr.NamedFor n) :
    pr.clusters.length ≤ 1 := by
  have hsub : pr.clusters.map (·.name) ⊆ [n] := fun x hx => by
    obtain ⟨cl, hcl, rfl⟩ := List.mem_map.mp hx
    exact List.mem_singleton.mpr (h.1 cl hcl)
  simpa using (List.subperm_of_subset h.2 hsub).length_le

/-- Every step keeps the provider's clusters named `n`, provided every `client.Create` a pass
makes asks for `n`. -/
theorem Provider.NamedFor.exec {c c' : Config} {a : Action} {n : String}
    (h : c.world.provider.NamedFor n) (hs : c.exec a = some c')
    (hcreate : ∀ p ∈ c.passes, ∀ name spec, p.request = some (.create name spec) → name = n) :
    c'.world.provider.NamedFor n := by
  obtain ⟨hn, hnd⟩ := h
  rcases Config.exec_clusters hs with hcl | ⟨p, hp, name, spec, cl, hreq, hcn, hfree, hcl⟩ |
    ⟨p, hp, name, -, hcl⟩ | ⟨cl, -, hcl⟩ <;> unfold Provider.NamedFor <;> rw [hcl]
  · exact ⟨hn, hnd⟩
  · -- `client.Create` made `cl` under the name `n`, which the provider did not hold
    have hname : cl.name = n := hcn.trans (hcreate p hp name spec hreq)
    have hout : cl.name ∉ c.world.provider.clusters.map (·.name) := by
      simpa [Provider.holdsCluster, hcn] using hfree
    refine ⟨fun x hx => ?_, ?_⟩
    · rcases List.mem_append.mp hx with hx | hx
      exacts [hn x hx, (List.mem_singleton.mp hx) ▸ hname]
    · rw [List.map_append, List.map_singleton]
      exact hnd.append (List.nodup_singleton _) (List.disjoint_singleton.mpr hout)
  · exact ⟨fun x hx => hn x (List.mem_filter.mp hx).1, hnd.sublist ((List.filter_sublist _).map _)⟩
  · -- the provider moved `cl`'s state: every name stays
    have hsame : ∀ e : Cluster, (if e.name = cl.name then cl else e).name = e.name := fun e => by
      split_ifs with he <;> simp [he]
    refine ⟨fun x hx => ?_, by simpa [List.map_map, Function.comp_def, hsame] using hnd⟩
    obtain ⟨e, he, rfl⟩ := List.mem_map.mp hx
    exact (hsame e).trans (hn e he)

/-- The provider holds only clusters named `eks-<u>`, the stored object has UID `u`, and so has
every live pass's instance. -/
structure OneName (u : String) (c : Config) : Prop where
  provider : c.world.provider.NamedFor (clusterNamePrefix ++ u)
  store : ∀ o ∈ c.world.store, o.uid = u
  passes : ∀ p ∈ c.passes, p.pc.live = true → p.inst.uid = u

namespace OneName

variable {u : String} {c c' : Config}

theorem init (o : EKSCluster) : OneName o.uid (initial o) :=
  ⟨⟨nofun, .nil⟩, fun _ ho => by cases ho; rfl, fun _ hp => by cases hp⟩

/-- **Step lemma.** -/
theorem step (hi : Inv c) (h : OneName u c) {a : Action} (hs : c.exec a = some c') :
    OneName u c' := by
  refine ⟨h.provider.exec hs fun p hp name spec hreq => ?_, ?_, ?_⟩
  · -- a pass at `client.Create` is live and asks for `eks-<u>`
    have hlive : p.pc.live = true := by rw [Pass.request_eq_create hreq]; rfl
    rw [Pass.request_create_name hreq, h.passes p hp hlive]
  all_goals rcases Config.exec_cases hs with rfl | ⟨i, p, req, resp, w, hp, hreq, hw, rfl⟩ |
    ⟨o, t, ho, rfl⟩ | ⟨hst, hps, -⟩
  · exact h.store
  · rcases World.answer_cases p hw with ⟨hst, -⟩ | ⟨o, v, rfl, rfl, -⟩
    · exact hst ▸ h.store
    · obtain ⟨rfl, -⟩ := Pass.request_eq_update hreq
      intro o' ho'
      rw [(World.answer_update_ok hw).choose_spec.2.2.2] at ho'
      rw [mem_persist ho']
      exact h.passes p (List.getElem?_mem hp) (Pc.live_of_request_update hreq)
  · intro o' ho'
    exact (mem_requestDeletion ho').2.2.1.trans (h.store o ho)
  · exact hst ▸ h.store
  · intro q hq hlive
    rcases List.mem_append.mp hq with hq | hq
    · exact h.passes q hq hlive
    · rw [List.mem_singleton.mp hq] at hlive; exact absurd hlive nofun
  · intro q hq hlive
    rcases List.mem_or_eq_of_mem_set hq with hq | rfl
    · exact h.passes q hq hlive
    · have hmem := List.getElem?_mem hp
      by_cases hpc : p.pc = .get
      · exact h.store _ (Pass.next_get_mem hreq hw hpc hlive)
      · rw [(hi.passes p hmem).inv.next_uid hpc]
        exact h.passes p hmem (Pass.live_of_request hreq hpc)
  · exact h.passes
  · exact hps ▸ h.passes

theorem reachable {c : Config} (hc : Reachable c) : ∃ u, OneName u c := by
  induction hc with
  | init o _ => exact ⟨o.uid, init o⟩
  | step hc hs ih =>
    obtain ⟨u, h⟩ := ih
    obtain ⟨a, ha⟩ := hs
    exact ⟨u, h.step hc.inv ha⟩

end OneName

/-- **One cluster per resource.** In every run there is one UID `u`: the stored object, while
there is one, carries it, every cluster the provider holds is named `eks-<u>`, and the provider
holds at most one, whatever passes interleave and whatever writes are lost. -/
theorem one_cluster_per_resource {c : Config} (hc : Reachable c) :
    ∃ u, (∀ o ∈ c.world.store, o.uid = u) ∧
      (∀ cl ∈ c.world.provider.clusters, cl.name = clusterNamePrefix ++ u) ∧
      c.world.provider.clusters.length ≤ 1 :=
  let ⟨u, h⟩ := OneName.reachable hc
  ⟨u, h.store, h.provider.1, h.provider.length_le⟩

theorem one_cluster_per_resource_recreated :
    Reachable (replay sample recreateRun) ∧
    ∃ u, (∀ o ∈ (replay sample recreateRun).world.store, o.uid = u) ∧
      (∀ cl ∈ (replay sample recreateRun).world.provider.clusters,
        cl.name = clusterNamePrefix ++ u) ∧
      (replay sample recreateRun).world.provider.clusters.length ≤ 1 :=
  have hc := Reachable.replay sample recreateRun rfl (by decide)
  ⟨hc, one_cluster_per_resource hc⟩

end StackAws
