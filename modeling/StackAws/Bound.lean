import StackAws.RunInvariant

/-!
How many calls one pass of `Reconciler.Reconcile` (`eks.go`, lines 397-444) makes.

The only loops of a pass are the referencers' (§4.1 of the spec: each unresolved reference is
asked for its status, then built), so a pass ends. `Pass.rank` counts the calls still ahead on
the longest path of the code from a program counter, and every answer of the kind the pass waits
on lowers it. A pass that fetched an object with `u` unresolved references makes at most
`2u + 8` calls: `r.Get`, `connect`, `u` statuses, `u` builds, the resolver's write, and then at
most `client.Get`, `GetWorkerNodes`, `awsauth`, `secret` and `r.Update`.

* `pass_calls_bounded`: in every run, every pass has been answered at most `callBound` times of
  the object it fetched, and a pass answered that many times waits on no call.
-/

namespace StackAws

/-- The most calls a pass that fetched `o` makes. -/
def callBound (o : EKSCluster) : Nat := 2 * (unresolvedReferencers o.spec).length + 8

namespace Pass

/-- The calls still ahead of a pass on the longest path of the code from its program counter;
before `r.Get` answers the count is not known. -/
def rank (p : Pass) : Nat :=
  match p.pc with
  | .get | .done .. | .panic => 0
  | .connect => 2 * (unresolvedReferencers p.inst.spec).length + 7
  | .getStatus _ rest _ => rest.length + (unresolvedReferencers p.inst.spec).length + 7
  | .build _ rest => rest.length + 7
  | .resolveUpdate => 6
  | .getCluster => 5
  | .getWorkerNodes _ => 4
  | .delete | .awsauth .. => 3
  | .deleteWorkerNodes _ | .create | .createWorkerNodes _ | .secret _ => 2
  | .update .. => 1

/-- A pass that has fetched and has no call ahead waits on nothing. -/
theorem request_eq_none_of_rank {p : Pass} (hpc : p.pc ≠ .get) (h : p.rank = 0) :
    p.request = none := by
  obtain ⟨pc, inst, fetched, resolved, trace⟩ := p
  cases pc <;> first | rfl | exact absurd rfl hpc | (simp only [rank] at h; omega)

/-- `p` goes on with a pass that received the answers `t` and fetched `f`: it holds them, has
left `r.Get` behind, and has at most `n` calls ahead. -/
structure Continues (p : Pass) (t : List Resp) (f : EKSCluster) (n : Nat) : Prop where
  pc : p.pc ≠ .get
  rank : p.rank ≤ n
  trace : p.trace = t
  fetched : p.fetched = f

theorem Continues.mono {p : Pass} {t : List Resp} {f : EKSCluster} {n m : Nat}
    (h : Continues p t f n) (hnm : n ≤ m) : Continues p t f m :=
  ⟨h.pc, h.rank.trans hnm, h.trace, h.fetched⟩

variable {q : Pass}

theorem fail_continues (err : Error) : Continues (q.fail err) q.trace q.fetched 1 :=
  ⟨nofun, le_rfl, rfl, rfl⟩

theorem resolutionFailed_continues (err : Error) :
    Continues (q.resolutionFailed err) q.trace q.fetched 1 :=
  ⟨nofun, le_rfl, rfl, rfl⟩

theorem deleted_continues : Continues q.deleted q.trace q.fetched 1 := ⟨nofun, le_rfl, rfl, rfl⟩

theorem deleteDone_continues (errs : List String) :
    Continues (q.deleteDone errs) q.trace q.fetched 1 := by
  unfold deleteDone; split
  exacts [fail_continues _, deleted_continues]

theorem delete_continues : Continues q.delete q.trace q.fetched 3 := by
  simp only [delete]; split
  exacts [⟨nofun, le_rfl, rfl, rfl⟩, deleted_continues.mono (by omega)]

theorem dispatch_continues : Continues q.dispatch q.trace q.fetched 5 := by
  simp only [dispatch]; split
  · exact delete_continues.mono (by omega)
  · split
    exacts [⟨nofun, by simp [create, rank], rfl, rfl⟩, ⟨nofun, le_rfl, rfl, rfl⟩]

theorem builds_continues (rs : List Referencer) :
    Continues (q.builds rs) q.trace q.fetched (rs.length + 6) := by
  cases rs
  exacts [⟨nofun, le_rfl, rfl, rfl⟩, ⟨nofun, by simp [builds, rank], rfl, rfl⟩]

theorem getStatuses_continues (rest : List Referencer) (statuses : List ReferenceStatus) :
    Continues (q.getStatuses rest statuses) q.trace q.fetched
      (rest.length + (unresolvedReferencers q.inst.spec).length + 6) := by
  cases rest with
  | cons => exact ⟨nofun, by simp [getStatuses, rank]; omega, rfl, rfl⟩
  | nil =>
    simp only [getStatuses]; split
    exacts [(builds_continues _).mono (by simp), (resolutionFailed_continues _).mono (by omega)]

theorem resolveReferences_continues :
    Continues q.resolveReferences q.trace q.fetched
      (2 * (unresolvedReferencers q.inst.spec).length + 6) := by
  unfold resolveReferences; split
  · exact dispatch_continues.mono (by omega)
  · exact ⟨nofun, by simp [rank, *]; omega, rfl, rfl⟩

theorem created_continues (r : Except Error Cluster) : Continues (q.created r) q.trace q.fetched 1 := by
  cases r with
  | ok => exact ⟨nofun, le_rfl, rfl, rfl⟩
  | error =>
    simp only [created]; split
    · split
      exacts [⟨nofun, le_rfl, rfl, rfl⟩, fail_continues _]
    · exact ⟨nofun, by simp [rank], rfl, rfl⟩

theorem gotCluster_continues (r : Except Error Cluster) :
    Continues (q.gotCluster r) q.trace q.fetched 4 := by
  cases r with
  | error => exact (fail_continues _).mono (by omega)
  | ok => simp only [gotCluster]; split_ifs <;> exact ⟨nofun, by simp [rank], rfl, rfl⟩

theorem createdWorkerNodes_continues (r : Except Error ClusterWorkers) :
    Continues (q.createdWorkerNodes r) q.trace q.fetched 1 := by
  cases r
  exacts [fail_continues _, ⟨nofun, le_rfl, rfl, rfl⟩]

theorem gotWorkerNodes_continues (cl : Cluster) (r : Except Error ClusterWorkers) :
    Continues (q.gotWorkerNodes cl r) q.trace q.fetched 3 := by
  cases r with
  | error => exact (fail_continues _).mono (by omega)
  | ok =>
    simp only [gotWorkerNodes]; split_ifs
    exacts [(fail_continues _).mono (by omega), ⟨nofun, le_rfl, rfl, rfl⟩,
      ⟨nofun, by simp [rank], rfl, rfl⟩]

theorem published_continues (cl : Cluster) (r : Except Error Unit) :
    Continues (q.published cl r) q.trace q.fetched 1 := by
  cases r
  exacts [fail_continues _, ⟨nofun, le_rfl, rfl, rfl⟩]

/-- **Step lemma.** An answer of the kind a pass past `r.Get` waits on leaves fewer calls ahead,
one program counter at a time. -/
theorem resume_continues {req : Req} {r : Resp} (hpc : q.pc ≠ .get) (hreq : q.request = some req)
    (hk : req.answeredBy r = true) : ∃ n < q.rank, Continues (q.resume r) q.trace q.fetched n := by
  obtain ⟨pc, inst, fetched, resolved, trace⟩ := q
  cases pc <;> cases hreq <;> cases r <;> cases hk <;> rename_i x
  · exact absurd rfl hpc
  · -- `connect`
    rcases x with _ | ⟨⟨⟩⟩
    · exact ⟨1, by simp only [rank]; omega, fail_continues _⟩
    · dsimp only [resume]; split
      exacts [⟨5, by simp only [rank]; omega, dispatch_continues⟩,
        ⟨_, by simp only [rank]; omega, resolveReferences_continues⟩]
  · -- `GetStatus`
    rcases x with _ | s
    exacts [⟨1, by simp only [rank]; omega, resolutionFailed_continues _⟩,
      ⟨_, by simp only [rank]; omega, getStatuses_continues _ _⟩]
  · -- `Build`
    rcases x with _ | v
    exacts [⟨1, by simp only [rank]; omega, resolutionFailed_continues _⟩,
      ⟨_, by simp only [rank]; omega, builds_continues _⟩]
  · -- the resolver's write
    rcases x with _ | v
    exacts [⟨1, by simp only [rank]; omega, resolutionFailed_continues _⟩,
      ⟨5, by simp only [rank]; omega, dispatch_continues⟩]
  · -- `client.Delete`
    dsimp only [resume]; split
    exacts [⟨2, by simp only [rank]; omega, nofun, le_rfl, rfl, rfl⟩,
      ⟨1, by simp only [rank]; omega, deleteDone_continues _⟩]
  · exact ⟨1, by simp only [rank]; omega, deleteDone_continues _⟩
  · exact ⟨1, by simp only [rank]; omega, created_continues _⟩
  · exact ⟨4, by simp only [rank]; omega, gotCluster_continues _⟩
  · exact ⟨1, by simp only [rank]; omega, createdWorkerNodes_continues _⟩
  · exact ⟨3, by simp only [rank]; omega, gotWorkerNodes_continues _ _⟩
  · -- `awsauth`
    rcases x with _ | ⟨⟨⟩⟩
    exacts [⟨1, by simp only [rank]; omega, fail_continues _⟩,
      ⟨2, by simp only [rank]; omega, nofun, le_rfl, rfl, rfl⟩]
  · exact ⟨1, by simp only [rank]; omega, published_continues _ _⟩
  · -- `r.Update`
    rcases x with _ | v
    exacts [⟨0, by simp only [rank]; omega, nofun, le_rfl, rfl, rfl⟩,
      ⟨0, by simp only [rank]; omega, nofun, le_rfl, rfl, rfl⟩]

end Pass

/-- A pass waits on `r.Get` with nothing answered, or has fetched and its answers and the calls
still ahead of it fit in the bound of the object it fetched. -/
def Pass.Within (p : Pass) : Prop :=
  p.pc = .get ∧ p.trace = [] ∨ p.pc ≠ .get ∧ p.trace.length + p.rank ≤ callBound p.fetched

/-- **Step lemma.** Every answer of the kind the pass waits on keeps it within its bound. -/
theorem Pass.Within.next {p : Pass} {req : Req} {r : Resp} (h : p.Within)
    (hreq : p.request = some req) (hk : req.answeredBy r = true) : (p.next r).Within := by
  rcases h with ⟨hpc, ht⟩ | ⟨hpc, hle⟩
  · -- `r.Get` answers: the bound is that of the object fetched
    obtain ⟨pc, inst, fetched, resolved, trace⟩ := p
    cases hpc; cases ht; cases hreq
    cases r <;> cases hk
    rename_i x
    rcases x with e | o
    all_goals dsimp only [Pass.next, Pass.resume]
    · exact .inr ⟨nofun, by simp [Pass.rank, callBound]⟩
    · exact .inr ⟨nofun, by simp [Pass.rank, callBound]; omega⟩
  · obtain ⟨n, hn, hc⟩ := @Pass.resume_continues { p with trace := p.trace ++ [r] } req r hpc hreq hk
    have hr : ({ p with trace := p.trace ++ [r] } : Pass).rank = p.rank := rfl
    have hrank := hc.rank
    refine .inr ⟨hc.pc, ?_⟩
    simp only [Pass.next, hc.trace, hc.fetched, List.length_append, List.length_singleton]
    omega

/-- **Every pass ends within a bounded number of calls.** In every run, a pass has been
answered at most `callBound` times of the object it fetched, `2u + 8` for `u` references
unresolved in its spec, and a pass answered that many times waits on no call. -/
theorem pass_calls_bounded {c : Config} (hc : Reachable c) {p : Pass} (hp : p ∈ c.passes) :
    p.trace.length ≤ callBound p.fetched ∧
      (p.trace.length = callBound p.fetched → p.request = none) := by
  rcases hc.forall_passes_answered Pass.Within (.inl ⟨rfl, rfl⟩)
    (fun _ _ _ hreq hk h => h.next hreq hk) p hp with ⟨-, ht⟩ | ⟨hpc, hle⟩
  · simp [ht, callBound]
  · exact ⟨by omega, fun h => Pass.request_eq_none_of_rank hpc (by omega)⟩

theorem pass_calls_bounded_createdSample :
    Reachable createdSample ∧ createdSamplePass ∈ createdSample.passes ∧
    createdSamplePass.trace.length ≤ callBound createdSamplePass.fetched ∧
    (createdSamplePass.trace.length = callBound createdSamplePass.fetched →
      createdSamplePass.request = none) :=
  have hc : Reachable createdSample := Reachable.replay sample createRun rfl (by decide)
  have hp : createdSamplePass ∈ createdSample.passes := by decide
  ⟨hc, hp, pass_calls_bounded hc hp⟩

end StackAws
