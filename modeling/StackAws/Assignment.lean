import StackAws.Types

/-!
What one reference resolution can do to a spec, field by field.

`assignAll` assigns values to referencers in turn, as `ResolveReferences` does (§4.1).
`AssignedOnce s s'` says that `s'` is `s` with one value assigned to each of a prefix of the
references unresolved in `s`: one resolution, complete or cut short. `AssignedOnce.resolveOnce`
unfolds it: each list is filled at most once, from empty, with at most one value per reference,
and a single value, once set, is kept.
-/

namespace StackAws

/-- Assign each value to its referencer, in turn. -/
def assignAll (s : EKSClusterSpec) (rvs : List (Referencer × String)) : EKSClusterSpec :=
  rvs.foldl (fun s rv => rv.1.assign s rv.2) s

theorem assignAll_append_single (s : EKSClusterSpec) (rvs : List (Referencer × String))
    (r : Referencer) (v : String) : assignAll s (rvs ++ [(r, v)]) = r.assign (assignAll s rvs) v := by
  simp only [assignAll, List.foldl_append, List.foldl_cons, List.foldl_nil]

/-- Assigning one more value extends the assigned prefix by its referencer. -/
theorem assignAll_zip_append_single (s : EKSClusterSpec) {pre : List Referencer} {vs : List String}
    (h : vs.length = pre.length) (r : Referencer) (v : String) :
    assignAll s ((pre ++ [r]).zip (vs ++ [v])) = r.assign (assignAll s (pre.zip vs)) v := by
  rw [List.zip_append h.symm, List.zip_cons_cons, List.zip_nil_left, assignAll_append_single]

/-- `s'` is `s` with one value assigned to each of a prefix of the references unresolved in
`s`. -/
def AssignedOnce (s s' : EKSClusterSpec) : Prop :=
  ∃ pre vs, pre <+: unresolvedReferencers s ∧ vs.length = pre.length ∧ s' = assignAll s (pre.zip vs)

theorem AssignedOnce.refl (s : EKSClusterSpec) : AssignedOnce s s :=
  ⟨[], [], List.nil_prefix, rfl, rfl⟩

/-- Resolving a spec with no unresolved reference leaves it as it is. -/
theorem AssignedOnce.of_resolved {s s' : EKSClusterSpec} (h : AssignedOnce s s')
    (hr : unresolvedReferencers s = []) : s' = s := by
  obtain ⟨pre, vs, hp, -, rfl⟩ := h
  rw [hr, List.prefix_nil] at hp
  subst hp
  rfl

/-! ## Field by field -/

/-- A field that referencers of kind `k` never touch is not changed by their assignments. -/
theorem assignAll_keep {α : Type} (g : EKSClusterSpec → α) (k : ReferencerKind)
    (hg : ∀ (r : Referencer) (t : EKSClusterSpec) (v : String), r.kind ≠ k → g (r.assign t v) = g t) :
    ∀ (rvs : List (Referencer × String)) (s : EKSClusterSpec),
      (∀ rv ∈ rvs, rv.1.kind ≠ k) → g (assignAll s rvs) = g s
  | [], _, _ => rfl
  | rv :: rvs, s, h => by
    have hs := assignAll_keep g k hg rvs (rv.1.assign s rv.2)
      fun x hx => h x (List.mem_cons_of_mem _ hx)
    exact hs.trans (hg _ _ _ (h rv (List.mem_cons_self _ _)))

/-- A list field that referencers of kind `k` append to, and no other referencer touches, ends
with their values in turn. -/
theorem assignAll_list (g : EKSClusterSpec → List String) (k : ReferencerKind)
    (hk : ∀ (r : Referencer) (t : EKSClusterSpec) (v : String), r.kind = k → g (r.assign t v) = g t ++ [v])
    (hg : ∀ (r : Referencer) (t : EKSClusterSpec) (v : String), r.kind ≠ k → g (r.assign t v) = g t) :
    ∀ (rvs : List (Referencer × String)) (s : EKSClusterSpec),
      g (assignAll s rvs) = g s ++ (rvs.filter (·.1.kind == k)).map Prod.snd
  | [], _ => by simp [assignAll]
  | rv :: rvs, s => by
    have hs := assignAll_list g k hk hg rvs (rv.1.assign s rv.2)
    by_cases h : rv.1.kind = k
    · rw [List.filter_cons_of_pos (by simpa using h)]
      exact hs.trans (by rw [hk _ _ _ h]; simp)
    · rw [List.filter_cons_of_neg (by simpa using h)]
      exact hs.trans (by rw [hg _ _ _ h])

theorem length_filter_zip_le (p : Referencer → Bool) :
    ∀ (pre : List Referencer) (vs : List String),
      ((pre.zip vs).filter (p ·.1)).length ≤ (pre.filter p).length
  | [], _ => by simp
  | _ :: _, [] => by simp
  | r :: pre, v :: vs => by
    have := length_filter_zip_le p pre vs
    by_cases h : p r <;> simp [List.filter_cons, h, this]

/-- An optional reference of another kind contributes no referencer of kind `k`. -/
theorem filter_kind_option (k k' : ReferencerKind) (o : Option String) (h : k' ≠ k) :
    (o.map (Referencer.mk k')).toList.filter (·.kind == k) = [] := by
  cases o <;> simp [h]

/-- There is one subnet referencer per subnet reference, and one security group referencer per
security group reference. -/
theorem referencers_filter_kind (s : EKSClusterSpec) :
    ((referencers s).filter (·.kind == .subnetID)).length = s.subnetIdRefs.length ∧
    ((referencers s).filter (·.kind == .securityGroupID)).length = s.securityGroupIdRefs.length := by
  simp [referencers, List.filter_map, Function.comp_def, filter_kind_option]

theorem unresolved_of_mem {r : Referencer} {s : EKSClusterSpec} (h : r ∈ unresolvedReferencers s) :
    r.unresolved s = true :=
  (List.mem_filter.mp h).2

/-- A referencer of the prefix `pre` of the unresolved ones has an empty literal field. -/
theorem kind_ne_of_prefix_unresolved {pre : List Referencer} {s : EKSClusterSpec}
    (hp : pre <+: unresolvedReferencers s) (vs : List String) (k : ReferencerKind)
    (hk : ∀ r : Referencer, r.kind = k → r.unresolved s = false) :
    ∀ rv ∈ pre.zip vs, rv.1.kind ≠ k := fun rv hrv he => by
  have := unresolved_of_mem (hp.subset (List.of_mem_zip hrv).1)
  rw [hk _ he] at this
  cases this

/-- Resolve-once, field by field: each list is filled at most once, from empty, with at most one
value per reference, and each single value, once set, is kept. -/
structure ResolveOnce (s s' : EKSClusterSpec) : Prop where
  subnetIds : s'.subnetIds = s.subnetIds ∨
    s.subnetIds = [] ∧ s'.subnetIds.length ≤ s.subnetIdRefs.length
  securityGroupIds : s'.securityGroupIds = s.securityGroupIds ∨
    s.securityGroupIds = [] ∧ s'.securityGroupIds.length ≤ s.securityGroupIdRefs.length
  roleARN : s.roleARN ≠ "" → s'.roleARN = s.roleARN
  vpcId : s.vpcId ≠ "" → s'.vpcId = s.vpcId
  workerSecurityGroup : s.workerNodes.clusterControlPlaneSecurityGroup ≠ "" →
    s'.workerNodes.clusterControlPlaneSecurityGroup = s.workerNodes.clusterControlPlaneSecurityGroup

section Fields

variable {s : EKSClusterSpec} {pre : List Referencer} {vs : List String}

/-- A list field appended to by referencers of kind `k` only: if it was not empty none of them
was unresolved, and otherwise it got one value at most from each. -/
theorem assignAll_list_once (g : EKSClusterSpec → List String) (k : ReferencerKind)
    (hk : ∀ (r : Referencer) (t : EKSClusterSpec) (v : String), r.kind = k → g (r.assign t v) = g t ++ [v])
    (hg : ∀ (r : Referencer) (t : EKSClusterSpec) (v : String), r.kind ≠ k → g (r.assign t v) = g t)
    (hu : ∀ r : Referencer, r.kind = k → r.unresolved s = (g s).isEmpty)
    (hp : pre <+: unresolvedReferencers s) {n : Nat}
    (hn : ((referencers s).filter (·.kind == k)).length = n) :
    g (assignAll s (pre.zip vs)) = g s ∨ g s = [] ∧ (g (assignAll s (pre.zip vs))).length ≤ n := by
  rw [assignAll_list g k hk hg]
  by_cases he : g s = []
  · refine .inr ⟨he, ?_⟩
    rw [he, List.nil_append, List.length_map]
    calc ((pre.zip vs).filter (·.1.kind == k)).length
        ≤ (pre.filter (·.kind == k)).length := length_filter_zip_le (·.kind == k) pre vs
      _ ≤ ((referencers s).filter (·.kind == k)).length :=
        ((hp.sublist.trans (List.filter_sublist _)).filter _).length_le
      _ = n := hn
  · refine .inl ?_
    have hne := kind_ne_of_prefix_unresolved hp vs k fun r hr => by
      rw [hu r hr]; simpa using he
    rw [List.filter_eq_nil_iff.mpr fun rv hrv => by simpa using hne rv hrv, List.map_nil,
      List.append_nil]

/-- A single field assigned by referencers of kind `k` only is kept once it is set. -/
theorem assignAll_single_once (g : EKSClusterSpec → String) (k : ReferencerKind)
    (hg : ∀ (r : Referencer) (t : EKSClusterSpec) (v : String), r.kind ≠ k → g (r.assign t v) = g t)
    (hu : ∀ r : Referencer, r.kind = k → r.unresolved s = (g s == ""))
    (hp : pre <+: unresolvedReferencers s) (hne : g s ≠ "") :
    g (assignAll s (pre.zip vs)) = g s :=
  assignAll_keep g k hg _ s (kind_ne_of_prefix_unresolved hp vs k fun r hr => by rw [hu r hr]; simpa using hne)

end Fields

/-- **Resolve-once.** One resolution, complete or cut short, fills each list at most once, from
empty, with one value per reference at most, and keeps every single value already set. -/
theorem AssignedOnce.resolveOnce {s s' : EKSClusterSpec} (h : AssignedOnce s s') : ResolveOnce s s' := by
  obtain ⟨pre, vs, hp, -, rfl⟩ := h
  have hc := referencers_filter_kind s
  refine ⟨?_, ?_, fun hne => ?_, fun hne => ?_, fun hne => ?_⟩
  · exact assignAll_list_once (·.subnetIds) .subnetID
      (fun ⟨k, _⟩ _ _ hk => by subst hk; rfl) (fun ⟨k, _⟩ _ _ hk => by cases k <;> simp_all <;> rfl)
      (fun ⟨k, _⟩ hk => by subst hk; rfl) hp hc.1
  · exact assignAll_list_once (·.securityGroupIds) .securityGroupID
      (fun ⟨k, _⟩ _ _ hk => by subst hk; rfl) (fun ⟨k, _⟩ _ _ hk => by cases k <;> simp_all <;> rfl)
      (fun ⟨k, _⟩ hk => by subst hk; rfl) hp hc.2
  · exact assignAll_single_once (·.roleARN) .iamRoleARN
      (fun ⟨k, _⟩ _ _ hk => by cases k <;> simp_all <;> rfl) (fun ⟨k, _⟩ hk => by subst hk; rfl) hp hne
  · exact assignAll_single_once (·.vpcId) .vpcID
      (fun ⟨k, _⟩ _ _ hk => by cases k <;> simp_all <;> rfl) (fun ⟨k, _⟩ hk => by subst hk; rfl) hp hne
  · exact assignAll_single_once (·.workerNodes.clusterControlPlaneSecurityGroup) .workerSecurityGroupID
      (fun ⟨k, _⟩ _ _ hk => by cases k <;> simp_all <;> rfl) (fun ⟨k, _⟩ hk => by subst hk; rfl) hp hne

end StackAws
