import IamAuthenticator.ConfigMap.Client

/-!
# Concurrent `add` calls

Any number of `AddRole` and `AddUser` calls run against one server, their
`getMap` and `updateMap` steps interleaved in any order. The server takes an
`Update` only at the resourceVersion the call read, so a call writes only what
it computed from the server's current copy: the invariant's `fresh` field says
that a call holding the current version holds the current data.

Each write keeps what the document had (`keeps_of_addToData`): the exact
records of both principals, the accounts, and pairwise distinct exact ARNs.
The **cluster invariant** (`clients_keep_exact_records`) follows: from the
initial document, every exact record stays, every exact record a call added
with success stays, the accounts do not change, and distinct ARNs stay
distinct.

Every call keeps to the retry bound of `RetryOnConflict` with `DefaultRetry`
(`clients_retry_bound`): it returns the conflict error only at the fifth
conflict, and a call still running has met fewer. So `add` is wait-free
(`clients_wait_free`): each step belongs to one call and lowers the steps that
call can still take (`AddCall.stepsLeft`), so a call takes at most ten steps of
its own whatever the others do, and until it returns it always has one to take.

No update is lost and none is made twice (`clients_no_lost_update`): the
resourceVersion counts the calls that returned without error, and the exact
records are the initial ones followed by one copy of each record those calls
added. The step that makes a call succeed replaces one slot of the call list,
and `flatMap_set_perm` carries the count of added records across it.

The calls are linearizable (`clients_linearizable`): the server's copy is what
the calls that returned without error write when made one after another, in
the order of their writes, each on the document the one before wrote
(`addAll`). A call writes only at the version it read, and the invariant's
`fresh` field makes what it read the current copy.

`add` writes back the exact lists only. Once any call has written, the
server's copy is what one successful call wrote, and holds no ARN-like record
but the pattern that call added, if it added one (`clients_erase_patterns`):
the document's ARN-like records do not survive a write.

Distinct ARNs are compared as written. Two exact records whose ARNs differ only
in case have one store key, and the client adds the second
(`clients_duplicate_store_key`).
-/

namespace IamAuthenticator

section Keeps

variable (lib : Lib) (cx : Codec)

/-- `data'` keeps what `data` has: every exact record of both principals, the
accounts, and pairwise distinct exact ARNs. -/
structure Keeps (data data' : Data) : Prop where
  exact : ∀ q, ∀ x ∈ (parseMap lib cx data).exactOf q, x ∈ (parseMap lib cx data').exactOf q
  accounts : (parseMap lib cx data').awsAccounts = (parseMap lib cx data).awsAccounts
  distinct : ∀ q, (((parseMap lib cx data).exactOf q).map (·.arn)).Nodup →
    (((parseMap lib cx data').exactOf q).map (·.arn)).Nodup

variable {lib cx}

theorem Keeps.refl (data : Data) : Keeps lib cx data data :=
  ⟨fun _ _ hx => hx, rfl, fun _ h => h⟩

theorem Keeps.trans {d₁ d₂ d₃ : Data} (h₁ : Keeps lib cx d₁ d₂) (h₂ : Keeps lib cx d₂ d₃) :
    Keeps lib cx d₁ d₃ :=
  ⟨fun q x hx => h₂.exact q x (h₁.exact q x hx), h₂.accounts.trans h₁.accounts,
    fun q h => h₂.distinct q (h₁.distinct q h)⟩

/-- One write keeps what the document had: it appends at most one record per
principal, after checking that no exact record has its ARN. -/
theorem keeps_of_addToData {role : Option RoleMapping} {user : Option UserMapping}
    {data data' : Data} (h : addToData lib cx role user data = .ok data') :
    Keeps lib cx data data' := by
  obtain ⟨-, hdup, -⟩ := addToData_eq_ok.1 h
  obtain ⟨hx, ha, -⟩ := parseMap_of_addToData h
  refine ⟨fun q x hmem => by rw [hx]; exact List.mem_append_left _ hmem, ha, fun q hnd => ?_⟩
  rw [hx, List.map_append, List.nodup_append]
  refine ⟨hnd, ?_, ?_⟩
  · cases addArg q role user with
    | none => simp
    | some a => by_cases hxa : a.IsExact <;> simp [List.filter_singleton, hxa]
  · intro b hb hb'
    obtain ⟨x, hx, rfl⟩ := List.mem_map.1 hb
    obtain ⟨a, ha', hab⟩ := List.mem_map.1 hb'
    have ha'' : a ∈ addArg q role user := by simpa using (List.mem_filter.1 ha').1
    exact hdup q a ha'' x hx hab.symm

end Keeps

namespace Cluster

variable (lib : Lib) (cx : Codec) (d₀ : Data)

/-- The cluster invariant, for a cluster started on the document `d₀`. -/
structure Inv (s : Cluster) : Prop where
  /-- A call that read the current version read the current data. -/
  fresh : ∀ c ∈ s.calls, ∀ d v, c.pc = .read d v →
    v ≤ s.server.resourceVersion ∧ (v = s.server.resourceVersion → d = s.server.data)
  keeps : Keeps lib cx d₀ s.server.data
  /-- What a call added with success is in the server's copy. -/
  added : ∀ c ∈ s.calls, c.Succeeded → ∀ q, ∀ a ∈ addArg q c.role c.user, a.IsExact →
    a ∈ (parseMap lib cx s.server.data).exactOf q

variable {lib cx d₀}

/-- What every step keeps, every run keeps. -/
theorem run_preserves {P : Cluster → Prop}
    (hstep : ∀ s s' i, P s → step lib cx s i = some s' → P s') {s s' : Cluster}
    {is : List ClusterInput} (hs : P s) (h : run lib cx s is = some s') : P s' := by
  induction is generalizing s with
  | nil => cases h; exact hs
  | cons i is ih =>
    obtain ⟨s₁, h₁, h₂⟩ := Option.bind_eq_some.1 h
    exact ih (hstep s s₁ i hs h₁) h₂

theorem mem_set_cases {c c' : AddCall} {cs : List AddCall} {i : Nat} (h : c ∈ cs.set i c') :
    c = c' ∨ c ∈ cs := by
  rcases List.mem_or_eq_of_mem_set h with h | h
  · exact .inr h
  · exact .inl h

/-- A step that changes one call and not the server, leaving it unreturned or
failed, keeps the invariant. -/
theorem inv_setCall {s : Cluster} (hs : Inv lib cx d₀ s) (i : Nat) (c' : AddCall)
    (hread : ∀ d v, c'.pc = .read d v → v = s.server.resourceVersion ∧ d = s.server.data)
    (hfail : ¬ c'.Succeeded) : Inv lib cx d₀ (s.setCall i c') := by
  refine ⟨fun c hc d v hpc => ?_, hs.keeps, fun c hc hsucc => ?_⟩
  · rcases mem_set_cases hc with rfl | hc
    · obtain ⟨rfl, rfl⟩ := hread d v hpc
      exact ⟨le_refl _, fun _ => rfl⟩
    · exact hs.fresh c hc d v hpc
  · rcases mem_set_cases hc with rfl | hc
    · exact absurd hsucc hfail
    · exact hs.added c hc hsucc

/-- Everything one step can do: a call's `getMap` answered or failed, or its
`updateMap` with the work before it. -/
theorem step_cases {s s' : Cluster} {i : ClusterInput} (h : step lib cx s i = some s') :
    (∃ c, s.calls[i.call]? = some c ∧ c.pc = .start ∧
      (s' = s.setCall i.call { c with pc := .read s.server.data s.server.resourceVersion } ∨
        s' = s.setCall i.call { c with pc := .returned (.error .getFailed) })) ∨
    (∃ c d v, s.calls[i.call]? = some c ∧ c.pc = .read d v ∧
      s' = ⟨(afterUpdate lib cx s.server c d v).2,
        s.calls.set i.call (afterUpdate lib cx s.server c d v).1⟩) := by
  cases i with
  | get j | getFailed j =>
    simp only [step] at h
    split at h
    · rename_i c hc
      split at h
      · rename_i hpc
        cases h
        exact .inl ⟨c, hc, hpc, by simp [ClusterInput.call]⟩
      · cases h
    · cases h
  | update j =>
    simp only [step] at h
    split at h
    · rename_i c hc
      split at h
      · rename_i d v hpc
        cases h
        exact .inr ⟨c, d, v, hc, hpc, rfl⟩
      · cases h
    · cases h

/-- What `updateMap` and the work before it can do: leave the server alone and
the call returned with an error or back at its start, or write the data
computed from what the call read, at the version it read. -/
theorem afterUpdate_cases (srv : Server) (c : AddCall) (d : Data) (v : Nat) :
    ((afterUpdate lib cx srv c d v).2 = srv ∧ ¬ (afterUpdate lib cx srv c d v).1.Succeeded ∧
      ∀ d' v', (afterUpdate lib cx srv c d v).1.pc ≠ .read d' v') ∨
    ∃ d', addToData lib cx c.role c.user d = .ok d' ∧ v = srv.resourceVersion ∧
      afterUpdate lib cx srv c d v = ({ c with pc := .returned (.ok d') }, ⟨d', srv.resourceVersion + 1⟩) := by
  unfold afterUpdate
  cases h : addToData lib cx c.role c.user d with
  | error e => exact .inl ⟨rfl, by simp [AddCall.Succeeded], by simp⟩
  | ok d' =>
    by_cases hv : v = srv.resourceVersion
    · exact .inr ⟨d', rfl, hv, by simp [hv]⟩
    · left
      simp only [hv, if_false]
      split_ifs <;> exact ⟨rfl, by simp [AddCall.Succeeded], by simp⟩

/-- A successful `updateMap` keeps the invariant: the call wrote what it
computed from the current data, and every other call's version is now old. -/
theorem inv_write {s : Cluster} (hs : Inv lib cx d₀ s) {j : Nat} {c : AddCall} {d d' : Data}
    (hc : s.calls[j]? = some c) (hpc : c.pc = .read d s.server.resourceVersion)
    (h : addToData lib cx c.role c.user d = .ok d') :
    Inv lib cx d₀ ⟨⟨d', s.server.resourceVersion + 1⟩,
      s.calls.set j { c with pc := .returned (.ok d') }⟩ := by
  have hmem : c ∈ s.calls := List.getElem?_mem hc
  have hd : d = s.server.data := (hs.fresh c hmem _ _ hpc).2 rfl
  subst hd
  have hk := keeps_of_addToData h
  refine ⟨fun c' hc' d₁ v₁ hpc' => ?_, hs.keeps.trans hk, fun c' hc' hsucc q a ha hax => ?_⟩
  · rcases mem_set_cases hc' with rfl | hc'
    · cases hpc'
    · have := (hs.fresh c' hc' d₁ v₁ hpc').1
      exact ⟨Nat.le_succ_of_le this, fun h' => by simp only at h'; omega⟩
  · rcases mem_set_cases hc' with rfl | hc'
    · rw [(parseMap_of_addToData h).1 q]
      exact List.mem_append_right _ (List.mem_filter.2 ⟨by simpa using ha, by simpa using hax⟩)
    · exact hk.exact q a (hs.added c' hc' hsucc q a ha hax)

theorem inv_step {s s' : Cluster} {i : ClusterInput} (hs : Inv lib cx d₀ s)
    (h : step lib cx s i = some s') : Inv lib cx d₀ s' := by
  rcases step_cases h with ⟨c, -, -, rfl | rfl⟩ | ⟨c, d, v, hc, hpc, rfl⟩
  · exact inv_setCall hs _ _ (fun _ _ h' => by cases h'; exact ⟨rfl, rfl⟩)
      (by simp [AddCall.Succeeded])
  · exact inv_setCall hs _ _ (fun _ _ h' => by cases h') (by simp [AddCall.Succeeded])
  · rcases @afterUpdate_cases lib cx s.server c d v with
      ⟨hsrv, hfail, hread⟩ | ⟨d', hd', rfl, hupd⟩
    · rw [hsrv]
      exact inv_setCall hs _ _ (fun d' v' h' => absurd h' (hread d' v')) hfail
    · rw [hupd]
      exact inv_write hs hc hpc hd'

theorem inv_run {s s' : Cluster} {is : List ClusterInput} (hs : Inv lib cx d₀ s)
    (h : run lib cx s is = some s') : Inv lib cx d₀ s' :=
  run_preserves (fun _ _ _ => inv_step) hs h

theorem inv_init (v₀ : Nat) (reqs : List AddRequest) :
    Inv lib cx d₀ ⟨⟨d₀, v₀⟩, reqs.map AddRequest.call⟩ := by
  have hpc : ∀ c ∈ reqs.map AddRequest.call, c.pc = .start ∨ ∃ e, c.pc = .returned (.error e) := by
    simp only [List.mem_map]
    rintro c ⟨r, -, rfl⟩
    rcases r with (_ | r) | (_ | u)
    all_goals first | exact .inl rfl | exact .inr ⟨_, rfl⟩
  refine ⟨fun c hc d v h => ?_, Keeps.refl d₀, fun c hc hsucc => ?_⟩
  · rcases hpc c hc with h' | ⟨e, h'⟩ <;> rw [h'] at h <;> cases h
  · obtain ⟨d, h⟩ := hsucc
    rcases hpc c hc with h' | ⟨e, h'⟩ <;> rw [h'] at h <;> cases h

end Cluster

/-- **Concurrent adds.** For any number of `AddRole` and `AddUser` calls
against one server and any interleaving of their steps, the server's copy
keeps every exact record of the initial document and every exact record a call
added with success, keeps the initial accounts, and keeps exact ARNs, as
written, pairwise distinct. -/
theorem clients_keep_exact_records (lib : Lib) (cx : Codec) (d₀ : Data) (v₀ : Nat)
    (reqs : List AddRequest) (inputs : List ClusterInput) (s : Cluster)
    (h : Cluster.run lib cx ⟨⟨d₀, v₀⟩, reqs.map AddRequest.call⟩ inputs = some s) :
    (∀ q, ∀ x ∈ (parseMap lib cx d₀).exactOf q, x ∈ (parseMap lib cx s.server.data).exactOf q) ∧
    (∀ c ∈ s.calls, c.Succeeded → ∀ q, ∀ a ∈ addArg q c.role c.user, a.IsExact →
      a ∈ (parseMap lib cx s.server.data).exactOf q) ∧
    (parseMap lib cx s.server.data).awsAccounts = (parseMap lib cx d₀).awsAccounts ∧
    (∀ q, (((parseMap lib cx d₀).exactOf q).map (·.arn)).Nodup →
      (((parseMap lib cx s.server.data).exactOf q).map (·.arn)).Nodup) := by
  have hs := Cluster.inv_run (@Cluster.inv_init lib cx d₀ v₀ reqs) h
  exact ⟨hs.keeps.exact, hs.added, hs.keeps.accounts, hs.keeps.distinct⟩

/-! ### The retry bound -/

/-- `RetryOnConflict` with `DefaultRetry` stops at the conflict that makes
`defaultRetrySteps`: a call that returned the conflict has met exactly that
many, and any other call fewer. -/
structure AddCall.RetryBound (c : AddCall) : Prop where
  gaveUp : c.pc = .returned (.error .conflict) → c.conflicts = defaultRetrySteps
  retrying : c.pc ≠ .returned (.error .conflict) → c.conflicts < defaultRetrySteps

theorem AddCall.RetryBound.of_lt {c : AddCall} (hc : c.conflicts < defaultRetrySteps)
    (hpc : c.pc ≠ .returned (.error .conflict)) : c.RetryBound :=
  ⟨fun h => absurd h hpc, fun _ => hc⟩

theorem AddRequest.call_retryBound (r : AddRequest) : r.call.RetryBound := by
  rcases r with (_ | _) | (_ | _) <;>
    exact .of_lt (by simp [AddRequest.call, AddCall.addRole, AddCall.addUser, AddCall.add,
      defaultRetrySteps]) (by simp [AddRequest.call, AddCall.addRole, AddCall.addUser, AddCall.add])

namespace Cluster

variable {lib : Lib} {cx : Codec}

/-- An attempt made with fewer than `defaultRetrySteps` conflicts behind it
ends within the bound: the retried function's own errors are never the
conflict, and a conflict either leaves the call below the bound or brings it
to the bound and returns. -/
theorem retryBound_afterUpdate (srv : Server) {c : AddCall} (d : Data) (v : Nat)
    (hc : c.conflicts < defaultRetrySteps) : (afterUpdate lib cx srv c d v).1.RetryBound := by
  unfold afterUpdate
  cases h : addToData lib cx c.role c.user d with
  | error e =>
    refine .of_lt hc fun he => addToData_ne_conflict lib cx c.role c.user d ?_
    simp_all
  | ok d' =>
    split_ifs with hv hlt
    · exact .of_lt hc (by simp)
    · exact .of_lt hlt (by simp)
    · exact ⟨fun _ => by simp only; omega, fun h => absurd rfl h⟩

theorem retryBound_step {s s' : Cluster} {i : ClusterInput} (hs : ∀ c ∈ s.calls, c.RetryBound)
    (h : step lib cx s i = some s') : ∀ c ∈ s'.calls, c.RetryBound := by
  have hset : ∀ j c', c'.RetryBound → ∀ c ∈ s.calls.set j c', c.RetryBound := fun j c' hc' c hc =>
    (mem_set_cases hc).elim (· ▸ hc') (hs c)
  rcases step_cases h with ⟨c, hc, hpc, rfl | rfl⟩ | ⟨c, d, v, hc, hpc, rfl⟩
  all_goals have hlt := (hs c (List.getElem?_mem hc)).retrying (by simp [hpc])
  · exact hset _ _ (.of_lt hlt (by simp))
  · exact hset _ _ (.of_lt hlt (by simp))
  · exact hset _ _ (retryBound_afterUpdate _ d v hlt)

theorem retryBound_init (reqs : List AddRequest) : ∀ c ∈ reqs.map AddRequest.call, c.RetryBound := by
  simp only [List.mem_map]
  rintro c ⟨r, -, rfl⟩
  exact AddRequest.call_retryBound r

end Cluster

/-- **The retry bound.** For any number of `AddRole` and `AddUser` calls
against one server and any interleaving of their steps, a call that returned
the conflict error met exactly `DefaultRetry.Steps` conflicts, and every other
call has met fewer. -/
theorem clients_retry_bound (lib : Lib) (cx : Codec) (d₀ : Data) (v₀ : Nat)
    (reqs : List AddRequest) (inputs : List ClusterInput) (s : Cluster)
    (h : Cluster.run lib cx ⟨⟨d₀, v₀⟩, reqs.map AddRequest.call⟩ inputs = some s) :
    ∀ c ∈ s.calls, (c.pc = .returned (.error .conflict) → c.conflicts = defaultRetrySteps) ∧
      (c.pc ≠ .returned (.error .conflict) → c.conflicts < defaultRetrySteps) := by
  have hs : ∀ c ∈ s.calls, c.RetryBound :=
    Cluster.run_preserves (fun _ _ _ => Cluster.retryBound_step) (Cluster.retryBound_init reqs) h
  exact fun c hc => ⟨(hs c hc).gaveUp, (hs c hc).retrying⟩

/-- Two `AddUser` calls, of `arn:aws:iam::1:user/a` and `arn:aws:iam::1:user/b`. -/
def twoUserAdds : List AddRequest :=
  [.addUser (some ⟨"arn:aws:iam::1:user/a", "", "a", []⟩),
    .addUser (some ⟨"arn:aws:iam::1:user/b", "", "b", []⟩)]

/-- Both calls of `twoUserAdds` read the same version and the second writes
first, so the first meets one conflict and starts again. -/
theorem clients_retry_bound_oneConflict :
    ∃ s, Cluster.run referenceLib wireCodec ⟨⟨∅, 0⟩, twoUserAdds.map AddRequest.call⟩
        [.get 0, .get 1, .update 1, .update 0] = some s ∧
      ∀ c ∈ s.calls, (c.pc = .returned (.error .conflict) → c.conflicts = defaultRetrySteps) ∧
        (c.pc ≠ .returned (.error .conflict) → c.conflicts < defaultRetrySteps) :=
  ⟨_, rfl, clients_retry_bound referenceLib wireCodec ∅ 0 twoUserAdds
    [.get 0, .get 1, .update 1, .update 0] _ rfl⟩

/-! ### Every call returns -/

/-- The steps a call can still take under `RetryOnConflict` with
`DefaultRetry`: a `getMap` and an `updateMap` for each attempt left, one fewer
once it has read. -/
def AddCall.stepsLeft (c : AddCall) : Nat :=
  match c.pc with
  | .start => 2 * (defaultRetrySteps - c.conflicts)
  | .read _ _ => 2 * (defaultRetrySteps - c.conflicts) - 1
  | .returned _ => 0

/-- The steps call `k` can still take; none where there is no call `k`. -/
def stepsLeftAt (calls : List AddCall) (k : Nat) : Nat := (calls[k]?.map AddCall.stepsLeft).getD 0

theorem AddRequest.call_stepsLeft (r : AddRequest) : r.call.stepsLeft ≤ 2 * defaultRetrySteps := by
  rcases r with (_ | _) | (_ | _) <;>
    simp [AddRequest.call, AddCall.addRole, AddCall.addUser, AddCall.add, AddCall.stepsLeft]

theorem stepsLeftAt_init (reqs : List AddRequest) (k : Nat) :
    stepsLeftAt (reqs.map AddRequest.call) k ≤ 2 * defaultRetrySteps := by
  simp only [stepsLeftAt, List.getElem?_map]
  cases reqs[k]? with
  | none => simp
  | some r => exact r.call_stepsLeft

/-- Replacing call `j` by one with fewer steps left lowers what call `j` can
still do and leaves every other call's steps as they were. -/
theorem stepsLeftAt_set {calls : List AddCall} {j : Nat} {c c' : AddCall} (hc : calls[j]? = some c)
    (h : c'.stepsLeft < c.stepsLeft) (k : Nat) :
    stepsLeftAt (calls.set j c') k + (if j = k then 1 else 0) ≤ stepsLeftAt calls k := by
  by_cases hk : j = k
  · subst hk
    have hj := (List.getElem?_eq_some_iff.1 hc).1
    simp only [stepsLeftAt, List.getElem?_set_self hj, hc, Option.map_some', Option.getD_some, if_true]
    omega
  · simp [stepsLeftAt, List.getElem?_set_ne hk, hk]

namespace Cluster

variable {lib : Lib} {cx : Codec}

theorem stepsLeft_afterUpdate (srv : Server) {c : AddCall} {d : Data} {v : Nat}
    (hc : c.conflicts < defaultRetrySteps) (hpc : c.pc = .read d v) :
    (afterUpdate lib cx srv c d v).1.stepsLeft < c.stepsLeft := by
  simp only [AddCall.stepsLeft, hpc]
  unfold afterUpdate
  cases addToData lib cx c.role c.user d with
  | error e => simp only; omega
  | ok d' => split_ifs <;> simp only <;> omega

/-- Each step is a step of its own call: it lowers the steps that call can
still take and leaves every other call alone. -/
theorem stepsLeft_step {s s' : Cluster} {i : ClusterInput} (hs : ∀ c ∈ s.calls, c.RetryBound)
    (h : step lib cx s i = some s') (k : Nat) :
    stepsLeftAt s'.calls k + (if i.call = k then 1 else 0) ≤ stepsLeftAt s.calls k := by
  rcases step_cases h with ⟨c, hc, hpc, rfl | rfl⟩ | ⟨c, d, v, hc, hpc, rfl⟩
  all_goals have hlt := (hs c (List.getElem?_mem hc)).retrying (by simp [hpc])
  · exact stepsLeftAt_set hc (by simp only [AddCall.stepsLeft, hpc]; omega) k
  · exact stepsLeftAt_set hc (by simp only [AddCall.stepsLeft, hpc]; omega) k
  · exact stepsLeftAt_set hc (stepsLeft_afterUpdate _ hlt hpc) k

/-- Over a run, the steps call `k` took and the steps it can still take add up
to no more than it could take at the start. -/
theorem stepsLeft_run {s s' : Cluster} {is : List ClusterInput} (hs : ∀ c ∈ s.calls, c.RetryBound)
    (h : run lib cx s is = some s') (k : Nat) :
    is.countP (·.call = k) + stepsLeftAt s'.calls k ≤ stepsLeftAt s.calls k := by
  induction is generalizing s with
  | nil => cases h; simp
  | cons i is ih =>
    obtain ⟨s₁, h₁, h₂⟩ := Option.bind_eq_some.1 h
    have hrun := ih (retryBound_step hs h₁) h₂
    have hstep := stepsLeft_step hs h₁ k
    simp only [List.countP_cons, decide_eq_true_eq]
    split_ifs at hstep ⊢ <;> omega

/-- A call that has not returned always has a step it can take. -/
theorem step_isSome_of_running {s : Cluster} {k : Nat} {c : AddCall} (hc : s.calls[k]? = some c)
    (hrun : ∀ r, c.pc ≠ .returned r) : ∃ i : ClusterInput, i.call = k ∧ (step lib cx s i).isSome := by
  cases hpc : c.pc with
  | start => exact ⟨.get k, rfl, by simp [step, hc, hpc]⟩
  | read d v => exact ⟨.update k, rfl, by simp [step, hc, hpc]⟩
  | returned r => exact absurd hpc (hrun r)

end Cluster

/-- **Every call returns.** `add` is wait-free: for any number of `AddRole`
and `AddUser` calls against one server and any interleaving of their steps,
each call takes at most `2 * DefaultRetry.Steps` steps of its own (a `getMap`
and an `updateMap` per attempt), whatever the other calls do, and a call that
has not returned always has a step it can take. -/
theorem clients_wait_free (lib : Lib) (cx : Codec) (d₀ : Data) (v₀ : Nat)
    (reqs : List AddRequest) (inputs : List ClusterInput) (s : Cluster)
    (h : Cluster.run lib cx ⟨⟨d₀, v₀⟩, reqs.map AddRequest.call⟩ inputs = some s) :
    (∀ k, inputs.countP (·.call = k) ≤ 2 * defaultRetrySteps) ∧
    ∀ k c, s.calls[k]? = some c → (∀ r, c.pc ≠ .returned r) →
      ∃ i : ClusterInput, i.call = k ∧ (Cluster.step lib cx s i).isSome := by
  refine ⟨fun k => ?_, fun k c hc hrun => Cluster.step_isSome_of_running hc hrun⟩
  exact (Nat.le_add_right _ _).trans
    ((Cluster.stepsLeft_run (Cluster.retryBound_init reqs) h k).trans (stepsLeftAt_init reqs k))

/-- After one conflict the first call of `twoUserAdds` is back at its start,
with a step it can take. -/
theorem clients_wait_free_oneConflict :
    ∃ s, Cluster.run referenceLib wireCodec ⟨⟨∅, 0⟩, twoUserAdds.map AddRequest.call⟩
        [.get 0, .get 1, .update 1, .update 0] = some s ∧
      (∀ k, [ClusterInput.get 0, .get 1, .update 1, .update 0].countP (·.call = k) ≤
        2 * defaultRetrySteps) ∧
      ∀ k c, s.calls[k]? = some c → (∀ r, c.pc ≠ .returned r) →
        ∃ i : ClusterInput, i.call = k ∧ (Cluster.step referenceLib wireCodec s i).isSome :=
  ⟨_, rfl, clients_wait_free referenceLib wireCodec ∅ 0 twoUserAdds
    [.get 0, .get 1, .update 1, .update 0] _ rfl⟩

/-! ### No lost or duplicated update -/

/-- Replacing one element of a list moves what it contributes to a `flatMap`. -/
theorem flatMap_set_perm {α β : Type} (f : α → List β) {l : List α} {i : Nat}
    {a b : α} (h : l[i]? = some a) : ((l.set i b).flatMap f ++ f a).Perm (l.flatMap f ++ f b) := by
  induction l generalizing i with
  | nil => simp at h
  | cons x l ih =>
    cases i with
    | zero =>
      obtain rfl : x = a := by simpa using h
      simp only [List.set_cons_zero, List.flatMap_cons, List.append_assoc]
      exact (List.perm_append_comm_assoc _ _ _).trans
        ((List.perm_append_comm.append_left _).trans (List.perm_append_comm_assoc _ _ _).symm)
    | succ i =>
      simpa only [List.set_cons_succ, List.flatMap_cons, List.append_assoc] using (ih (by simpa using h)).append_left (f x)

namespace AddCall

/-- The call has returned without error, as a test. -/
def succeeded (c : AddCall) : Bool :=
  match c.pc with
  | .returned (.ok _) => true
  | _ => false

theorem succeeded_eq_true_iff (c : AddCall) : c.succeeded = true ↔ c.Succeeded := by
  unfold succeeded Succeeded
  split <;> simp_all

/-- The exact records of principal `q` the call has added: its argument of that
principal, when exact, once the call has returned without error. -/
def addedExact (q : Principal) (c : AddCall) : List (Mapping q) :=
  if c.succeeded then (addArg q c.role c.user).toList.filter (·.IsExact) else []

end AddCall

namespace Cluster

variable (lib : Lib) (cx : Codec) (d₀ : Data) (v₀ : Nat)

/-- No update lost, none made twice: the server's resourceVersion has moved
once per call that returned without error, and its exact records are the
initial ones followed by the records those calls added, each once. -/
structure Ledger (s : Cluster) : Prop where
  version : s.server.resourceVersion = v₀ + s.calls.countP AddCall.succeeded
  records : ∀ q, ∃ L, (parseMap lib cx s.server.data).exactOf q = (parseMap lib cx d₀).exactOf q ++ L ∧
    L.Perm (s.calls.flatMap (AddCall.addedExact q))

variable {lib cx d₀ v₀}

theorem AddRequest.call_succeeded (r : AddRequest) : r.call.succeeded = false := by
  rcases r with (_ | r) | (_ | u) <;> rfl

theorem AddCall.addedExact_of_not_succeeded {c : AddCall} (h : c.succeeded = false) (q : Principal) :
    c.addedExact q = [] := by
  simp [AddCall.addedExact, h]

/-- A step that changes one call without making it succeed, and not the server,
keeps the ledger. -/
theorem ledger_set {srv : Server} {calls : List AddCall} (hs : Ledger lib cx d₀ v₀ ⟨srv, calls⟩)
    {j : Nat} {c c' : AddCall} (hc : calls[j]? = some c) (hcs : c.succeeded = false)
    (hcs' : c'.succeeded = false) : Ledger lib cx d₀ v₀ ⟨srv, calls.set j c'⟩ := by
  obtain ⟨hj, hcj⟩ := List.getElem?_eq_some_iff.1 hc
  refine ⟨?_, fun q => ?_⟩
  · rw [hs.version, List.countP_set _ _ _ _ hj, hcj]
    simp [hcs, hcs']
  · obtain ⟨L, hL, hperm⟩ := hs.records q
    have := flatMap_set_perm (AddCall.addedExact q) hc (b := c')
    rw [AddCall.addedExact_of_not_succeeded hcs, AddCall.addedExact_of_not_succeeded hcs',
      List.append_nil, List.append_nil] at this
    exact ⟨L, hL, hperm.trans this.symm⟩

/-- A successful `updateMap` keeps the ledger: the call wrote what it computed
from the current data, which is the current exact records with its own
appended. -/
theorem ledger_write {s : Cluster} (hi : Inv lib cx d₀ s) (hs : Ledger lib cx d₀ v₀ s) {j : Nat}
    {c : AddCall} {d d' : Data} (hc : s.calls[j]? = some c)
    (hpc : c.pc = .read d s.server.resourceVersion) (h : addToData lib cx c.role c.user d = .ok d') :
    Ledger lib cx d₀ v₀ ⟨⟨d', s.server.resourceVersion + 1⟩,
      s.calls.set j { c with pc := .returned (.ok d') }⟩ := by
  have hd : d = s.server.data := (hi.fresh c (List.getElem?_mem hc) _ _ hpc).2 rfl
  subst hd
  obtain ⟨hj, hcj⟩ := List.getElem?_eq_some_iff.1 hc
  have hcs : c.succeeded = false := by simp [AddCall.succeeded, hpc]
  refine ⟨?_, fun q => ?_⟩
  · rw [hs.version, List.countP_set _ _ _ _ hj, hcj, hcs]
    simp [AddCall.succeeded]
    omega
  · obtain ⟨L, hL, hperm⟩ := hs.records q
    have := flatMap_set_perm (AddCall.addedExact q) hc (b := { c with pc := .returned (.ok d') })
    rw [AddCall.addedExact_of_not_succeeded hcs, List.append_nil] at this
    refine ⟨L ++ (addArg q c.role c.user).toList.filter (·.IsExact), ?_,
      (hperm.append_right _).trans this.symm⟩
    rw [(parseMap_of_addToData h).1 q, hL, List.append_assoc]

theorem ledger_step {s s' : Cluster} {i : ClusterInput} (hi : Inv lib cx d₀ s)
    (hs : Ledger lib cx d₀ v₀ s) (h : step lib cx s i = some s') : Ledger lib cx d₀ v₀ s' := by
  have hstart : ∀ {c : AddCall}, c.pc = .start → c.succeeded = false := fun hpc => by
    simp [AddCall.succeeded, hpc]
  rcases step_cases h with ⟨c, hc, hpc, rfl | rfl⟩ | ⟨c, d, v, hc, hpc, rfl⟩
  · exact ledger_set hs hc (hstart hpc) rfl
  · exact ledger_set hs hc (hstart hpc) rfl
  · rcases @afterUpdate_cases lib cx s.server c d v with ⟨hsrv, hfail, -⟩ | ⟨d', hd', rfl, hupd⟩
    · rw [hsrv]
      refine ledger_set hs hc (by simp [AddCall.succeeded, hpc]) ?_
      rw [Bool.eq_false_iff, ne_eq, AddCall.succeeded_eq_true_iff]
      exact hfail
    · rw [hupd]
      exact ledger_write hi hs hc hpc hd'

theorem ledger_init (reqs : List AddRequest) :
    Ledger lib cx d₀ v₀ ⟨⟨d₀, v₀⟩, reqs.map AddRequest.call⟩ := by
  have hns : ∀ c ∈ reqs.map AddRequest.call, c.succeeded = false := by
    simp only [List.mem_map]
    rintro c ⟨r, -, rfl⟩
    exact AddRequest.call_succeeded r
  refine ⟨?_, fun q => ⟨[], by simp, ?_⟩⟩
  · rw [List.countP_eq_zero.2 fun c hc => by simp [hns c hc]]
    rfl
  · rw [List.flatMap_eq_nil_iff.2 fun c hc => AddCall.addedExact_of_not_succeeded (hns c hc) q]

end Cluster

/-- **No lost or duplicated update.** For any number of `AddRole` and `AddUser`
calls against one server and any interleaving of their steps, the server's
resourceVersion has moved once per call that returned without error, and its
exact records of each principal are the initial ones followed by the exact
records those calls added, each exactly once, in some order. -/
theorem clients_no_lost_update (lib : Lib) (cx : Codec) (d₀ : Data) (v₀ : Nat)
    (reqs : List AddRequest) (inputs : List ClusterInput) (s : Cluster)
    (h : Cluster.run lib cx ⟨⟨d₀, v₀⟩, reqs.map AddRequest.call⟩ inputs = some s) :
    s.server.resourceVersion = v₀ + s.calls.countP AddCall.succeeded ∧
    ∀ q, ∃ L, (parseMap lib cx s.server.data).exactOf q = (parseMap lib cx d₀).exactOf q ++ L ∧
      L.Perm (s.calls.flatMap (AddCall.addedExact q)) := by
  have hs := Cluster.run_preserves (P := fun s => Cluster.Inv lib cx d₀ s ∧ Cluster.Ledger lib cx d₀ v₀ s)
    (fun _ _ _ hs hstep => ⟨Cluster.inv_step hs.1 hstep, Cluster.ledger_step hs.1 hs.2 hstep⟩)
    ⟨Cluster.inv_init v₀ reqs, Cluster.ledger_init reqs⟩ h
  exact ⟨hs.2.version, hs.2.records⟩

/-- Both calls of `twoUserAdds` succeed, the first after one conflict: the
server moved twice and holds both records. -/
theorem clients_no_lost_update_twoUserAdds :
    ∃ s, Cluster.run referenceLib wireCodec ⟨⟨∅, 0⟩, twoUserAdds.map AddRequest.call⟩
        [.get 0, .get 1, .update 1, .update 0, .get 0, .update 0] = some s ∧
      s.server.resourceVersion = 0 + s.calls.countP AddCall.succeeded ∧
      ∀ q, ∃ L, (parseMap referenceLib wireCodec s.server.data).exactOf q =
          (parseMap referenceLib wireCodec ∅).exactOf q ++ L ∧
        L.Perm (s.calls.flatMap (AddCall.addedExact q)) :=
  ⟨_, rfl, clients_no_lost_update referenceLib wireCodec ∅ 0 twoUserAdds
    [.get 0, .get 1, .update 1, .update 0, .get 0, .update 0] _ rfl⟩

/-! ### Linearizability -/

/-- The calls made one after another, each attempt on the document the one
before wrote. -/
def addAll (lib : Lib) (cx : Codec) : List AddCall → Data → Except AddError Data
  | [], d => .ok d
  | c :: cs, d => (addToData lib cx c.role c.user d).bind (addAll lib cx cs)

theorem addAll_append_singleton (lib : Lib) (cx : Codec) (cs : List AddCall) (c : AddCall)
    (d : Data) :
    addAll lib cx (cs ++ [c]) d = (addAll lib cx cs d).bind (addToData lib cx c.role c.user) := by
  induction cs generalizing d with
  | nil =>
    show (addToData lib cx c.role c.user d).bind (addAll lib cx []) = addToData lib cx c.role c.user d
    cases addToData lib cx c.role c.user d <;> rfl
  | cons c' cs ih =>
    simp only [List.cons_append, addAll]
    cases addToData lib cx c'.role c'.user d with
    | error e => rfl
    | ok d₁ => exact ih d₁

/-- Replacing a call that has not succeeded changes the succeeded calls by the
new one, if it has succeeded. -/
theorem filter_succeeded_set_perm {calls : List AddCall} {j : Nat} {c : AddCall} (c' : AddCall)
    (hc : calls[j]? = some c) (hcs : c.succeeded = false) :
    ((calls.set j c').filter AddCall.succeeded).Perm
      (calls.filter AddCall.succeeded ++ [c'].filter AddCall.succeeded) := by
  have hf : ∀ l : List AddCall, l.filter AddCall.succeeded = l.flatMap ([·].filter AddCall.succeeded) :=
    fun l => by rw [← List.filter_flatMap, List.flatMap_singleton']
  have h := flatMap_set_perm ([·].filter AddCall.succeeded) hc (b := c')
  rw [← hf, ← hf] at h
  simpa only [List.filter_singleton, hcs, cond_false, List.append_nil] using h

namespace Cluster

variable (lib : Lib) (cx : Codec) (d₀ : Data)

/-- The server's copy is what the calls that returned without error write when
made one after another, in some order, from the initial document. -/
def Linear (s : Cluster) : Prop :=
  ∃ L : List AddCall, L.Perm (s.calls.filter AddCall.succeeded) ∧
    addAll lib cx L d₀ = .ok s.server.data

variable {lib cx d₀}

theorem linear_step {s s' : Cluster} {i : ClusterInput} (hi : Inv lib cx d₀ s)
    (hs : Linear lib cx d₀ s) (h : step lib cx s i = some s') : Linear lib cx d₀ s' := by
  obtain ⟨L, hL, hadd⟩ := hs
  have hset : ∀ {c c' : AddCall}, s.calls[i.call]? = some c → c.succeeded = false →
      c'.succeeded = false → Linear lib cx d₀ ⟨s.server, s.calls.set i.call c'⟩ :=
    fun {_ c'} hc hcs hcs' =>
      ⟨L, hL.trans (by simpa [hcs'] using (filter_succeeded_set_perm c' hc hcs).symm), hadd⟩
  rcases step_cases h with ⟨c, hc, hpc, rfl | rfl⟩ | ⟨c, d, v, hc, hpc, rfl⟩
  · exact hset hc (by simp [AddCall.succeeded, hpc]) rfl
  · exact hset hc (by simp [AddCall.succeeded, hpc]) rfl
  · have hcs : c.succeeded = false := by simp [AddCall.succeeded, hpc]
    rcases @afterUpdate_cases lib cx s.server c d v with ⟨hsrv, hfail, -⟩ | ⟨d', hd', rfl, hupd⟩
    · rw [hsrv]
      refine hset hc hcs ?_
      rw [Bool.eq_false_iff, ne_eq, AddCall.succeeded_eq_true_iff]
      exact hfail
    · rw [hupd]
      obtain rfl : d = s.server.data := (hi.fresh c (List.getElem?_mem hc) _ _ hpc).2 rfl
      refine ⟨L ++ [{ c with pc := .returned (.ok d') }], (hL.append_right _).trans ?_, ?_⟩
      · simpa [AddCall.succeeded] using
          (filter_succeeded_set_perm { c with pc := .returned (.ok d') } hc hcs).symm
      · rw [addAll_append_singleton, hadd]
        exact hd'

theorem linear_init (v₀ : Nat) (reqs : List AddRequest) :
    Linear lib cx d₀ ⟨⟨d₀, v₀⟩, reqs.map AddRequest.call⟩ :=
  ⟨[], by simp [List.filter_map, Function.comp_def, AddRequest.call_succeeded], rfl⟩

end Cluster

/-- **Linearizability.** For any number of `AddRole` and `AddUser` calls
against one server and any interleaving of their steps, the server's copy is
what the calls that returned without error write when they are made one after
another, in some order, each on the document the one before wrote, from the
initial document. -/
theorem clients_linearizable (lib : Lib) (cx : Codec) (d₀ : Data) (v₀ : Nat)
    (reqs : List AddRequest) (inputs : List ClusterInput) (s : Cluster)
    (h : Cluster.run lib cx ⟨⟨d₀, v₀⟩, reqs.map AddRequest.call⟩ inputs = some s) :
    ∃ L : List AddCall, L.Perm (s.calls.filter AddCall.succeeded) ∧
      addAll lib cx L d₀ = .ok s.server.data :=
  (Cluster.run_preserves (P := fun s => Cluster.Inv lib cx d₀ s ∧ Cluster.Linear lib cx d₀ s)
    (fun _ _ _ hs hstep => ⟨Cluster.inv_step hs.1 hstep, Cluster.linear_step hs.1 hs.2 hstep⟩)
    ⟨Cluster.inv_init v₀ reqs, Cluster.linear_init v₀ reqs⟩ h).2

/-- The run of `clients_no_lost_update_twoUserAdds`: the second call wrote
first, so the two calls made in that order write the server's copy. -/
theorem clients_linearizable_twoUserAdds :
    ∃ s, Cluster.run referenceLib wireCodec ⟨⟨∅, 0⟩, twoUserAdds.map AddRequest.call⟩
        [.get 0, .get 1, .update 1, .update 0, .get 0, .update 0] = some s ∧
      ∃ L : List AddCall, L.Perm (s.calls.filter AddCall.succeeded) ∧
        addAll referenceLib wireCodec L ∅ = .ok s.server.data :=
  ⟨_, rfl, clients_linearizable referenceLib wireCodec ∅ 0 twoUserAdds
    [.get 0, .get 1, .update 1, .update 0, .get 0, .update 0] _ rfl⟩

/-! ### ARN-like records do not survive a write -/

namespace Cluster

variable (lib : Lib) (cx : Codec) (d₀ : Data)

/-- The server's copy is the initial document or what a call that returned
without error wrote, and every such call wrote what one attempt computes. -/
structure Written (s : Cluster) : Prop where
  attempt : ∀ c ∈ s.calls, ∀ d', c.pc = .returned (.ok d') →
    ∃ d, addToData lib cx c.role c.user d = .ok d'
  current : s.server.data = d₀ ∨ ∃ c ∈ s.calls, c.pc = .returned (.ok s.server.data)

variable {lib cx d₀}

theorem mem_set_of_ne {c c₀ c' : AddCall} {cs : List AddCall} {j : Nat} (hc : c ∈ cs)
    (hj : cs[j]? = some c₀) (hne : c ≠ c₀) : c ∈ cs.set j c' := by
  obtain ⟨k, hk⟩ := List.mem_iff_getElem?.1 hc
  have hkj : j ≠ k := by
    rintro rfl
    exact hne (Option.some.inj (hk.symm.trans hj))
  exact List.getElem?_mem (by rw [List.getElem?_set_ne hkj, hk])

/-- A step that changes one call, neither a success before nor after, and not
the server keeps `Written`. -/
theorem written_set {srv : Server} {calls : List AddCall} (hs : Written lib cx d₀ ⟨srv, calls⟩)
    {j : Nat} {c c' : AddCall} (hc : calls[j]? = some c) (hcs : ¬ c.Succeeded)
    (hcs' : ¬ c'.Succeeded) : Written lib cx d₀ ⟨srv, calls.set j c'⟩ := by
  refine ⟨fun c₁ hc₁ d' hpc => ?_, ?_⟩
  · rcases mem_set_cases hc₁ with rfl | hc₁
    · exact absurd ⟨d', hpc⟩ hcs'
    · exact hs.attempt c₁ hc₁ d' hpc
  · rcases hs.current with hd | ⟨c₁, hc₁, hpc⟩
    · exact .inl hd
    · refine .inr ⟨c₁, mem_set_of_ne hc₁ hc ?_, hpc⟩
      rintro rfl
      exact hcs ⟨_, hpc⟩

theorem written_step {s s' : Cluster} {i : ClusterInput} (hs : Written lib cx d₀ s)
    (h : step lib cx s i = some s') : Written lib cx d₀ s' := by
  have hrunning : ∀ {c : AddCall}, (c.pc = .start ∨ ∃ d v, c.pc = .read d v) → ¬ c.Succeeded := by
    rintro c (hpc | ⟨d, v, hpc⟩) ⟨_, h⟩ <;> rw [hpc] at h <;> cases h
  rcases step_cases h with ⟨c, hc, hpc, rfl | rfl⟩ | ⟨c, d, v, hc, hpc, rfl⟩
  · exact written_set hs hc (hrunning (.inl hpc)) (by simp [AddCall.Succeeded])
  · exact written_set hs hc (hrunning (.inl hpc)) (by simp [AddCall.Succeeded])
  · rcases @afterUpdate_cases lib cx s.server c d v with ⟨hsrv, hfail, -⟩ | ⟨d', hd', rfl, hupd⟩
    · rw [hsrv]
      exact written_set hs hc (hrunning (.inr ⟨d, v, hpc⟩)) hfail
    · rw [hupd]
      have hj := (List.getElem?_eq_some_iff.1 hc).1
      refine ⟨fun c₁ hc₁ d₁ hpc₁ => ?_, .inr ⟨_, List.getElem?_mem (List.getElem?_set_self hj), rfl⟩⟩
      rcases mem_set_cases hc₁ with rfl | hc₁
      · cases hpc₁
        exact ⟨d, hd'⟩
      · exact hs.attempt c₁ hc₁ d₁ hpc₁

theorem written_init (v₀ : Nat) (reqs : List AddRequest) :
    Written lib cx d₀ ⟨⟨d₀, v₀⟩, reqs.map AddRequest.call⟩ := by
  refine ⟨fun c hc d' hpc => ?_, .inl rfl⟩
  obtain ⟨r, -, rfl⟩ := List.mem_map.1 hc
  rcases r with (_ | r) | (_ | u) <;> cases hpc

end Cluster

/-- **ARN-like records do not survive a write.** For any number of `AddRole`
and `AddUser` calls against one server and any interleaving of their steps,
the server's copy is still the initial document, or its ARN-like records of
each principal are exactly the pattern one call that returned without error
added, if that call added a pattern: `add` writes back only the exact lists
`ParseMap` returned, so every ARN-like record the document had is gone. -/
theorem clients_erase_patterns (lib : Lib) (cx : Codec) (d₀ : Data) (v₀ : Nat)
    (reqs : List AddRequest) (inputs : List ClusterInput) (s : Cluster)
    (h : Cluster.run lib cx ⟨⟨d₀, v₀⟩, reqs.map AddRequest.call⟩ inputs = some s) :
    s.server.data = d₀ ∨ ∃ c ∈ s.calls, c.Succeeded ∧ ∀ q,
      (parseMap lib cx s.server.data).patternOf q = (addArg q c.role c.user).toList.filter (·.IsPattern) := by
  have hs := Cluster.run_preserves (fun _ _ _ => Cluster.written_step) (Cluster.written_init v₀ reqs) h
  rcases hs.current with hd | ⟨c, hc, hpc⟩
  · exact .inl hd
  · obtain ⟨d, hd⟩ := hs.attempt c hc _ hpc
    exact .inr ⟨c, hc, ⟨_, hpc⟩, patternOf_of_addToData hd⟩

/-- A document with the one ARN-like user record `arn:aws:iam::1:user/*`. -/
def patternUserDoc : Data := encodeMap wireCodec [⟨"", "arn:aws:iam::1:user/*", "p", []⟩] [] []

/-- The first call of `twoUserAdds` writes over `patternUserDoc`, whose user
pattern is then gone. -/
theorem clients_erase_patterns_patternUserDoc :
    (parseMap referenceLib wireCodec patternUserDoc).userArnLikeMappings ≠ [] ∧
    ∃ s, Cluster.run referenceLib wireCodec ⟨⟨patternUserDoc, 0⟩, twoUserAdds.map AddRequest.call⟩
        [.get 0, .update 0] = some s ∧
      (s.server.data = patternUserDoc ∨ ∃ c ∈ s.calls, c.Succeeded ∧ ∀ q,
        (parseMap referenceLib wireCodec s.server.data).patternOf q =
          (addArg q c.role c.user).toList.filter (·.IsPattern)) :=
  ⟨by decide, _, rfl,
    clients_erase_patterns referenceLib wireCodec patternUserDoc 0 twoUserAdds [.get 0, .update 0] _ rfl⟩

/-- A document with the one exact user record `arn:aws:iam::1:user/A`. -/
def upperUserDoc : Data := encodeMap wireCodec [⟨"arn:aws:iam::1:user/A", "", "a", []⟩] [] []

/-- `AddUser` of `arn:aws:iam::1:user/a` against `upperUserDoc`. -/
def lowerUserAdd : List AddRequest := [.addUser (some ⟨"arn:aws:iam::1:user/a", "", "b", []⟩)]

/-- `clients_keep_exact_records` for `twoUserAdds` against `upperUserDoc`: the
first call meets a conflict, reads again and writes over the second one's
document. -/
theorem clients_keep_exact_records_twoUserAdds :
    ∃ s, Cluster.run referenceLib wireCodec ⟨⟨upperUserDoc, 0⟩, twoUserAdds.map AddRequest.call⟩
        [.get 0, .get 1, .update 1, .update 0, .get 0, .update 0] = some s ∧
      (∀ q, ∀ x ∈ (parseMap referenceLib wireCodec upperUserDoc).exactOf q,
        x ∈ (parseMap referenceLib wireCodec s.server.data).exactOf q) ∧
      (∀ c ∈ s.calls, c.Succeeded → ∀ q, ∀ a ∈ addArg q c.role c.user, a.IsExact →
        a ∈ (parseMap referenceLib wireCodec s.server.data).exactOf q) ∧
      (parseMap referenceLib wireCodec s.server.data).awsAccounts =
        (parseMap referenceLib wireCodec upperUserDoc).awsAccounts ∧
      (∀ q, (((parseMap referenceLib wireCodec upperUserDoc).exactOf q).map (·.arn)).Nodup →
        (((parseMap referenceLib wireCodec s.server.data).exactOf q).map (·.arn)).Nodup) :=
  ⟨_, rfl, clients_keep_exact_records referenceLib wireCodec upperUserDoc 0 twoUserAdds
    [.get 0, .get 1, .update 1, .update 0, .get 0, .update 0] _ rfl⟩

/-- No two user records, and no two role records, share a store key: the
lower-cased ARN of an exact record, the pattern of an ARN-like one. -/
def StoreKeysDistinct (lib : Lib) (parsed : Parsed) : Prop :=
  (parsed.userMappings.map (lib.toLower ·.arn)).Nodup ∧
  (parsed.userArnLikeMappings.map (·.arnLike)).Nodup ∧
  (parsed.roleMappings.map (lib.toLower ·.arn)).Nodup ∧
  (parsed.roleArnLikeMappings.map (·.arnLike)).Nodup

instance (lib : Lib) (parsed : Parsed) : Decidable (StoreKeysDistinct lib parsed) :=
  inferInstanceAs (Decidable (_ ∧ _ ∧ _ ∧ _))

/-- `lowerUserAdd` against `upperUserDoc` succeeds, and leaves two user records
with the store key `arn:aws:iam::1:user/a`. -/
theorem clients_duplicate_store_key :
    ¬ ∀ (d₀ : Data) (reqs : List AddRequest) (inputs : List ClusterInput) (s : Cluster),
      Cluster.run referenceLib wireCodec ⟨⟨d₀, 0⟩, reqs.map AddRequest.call⟩ inputs = some s →
      StoreKeysDistinct referenceLib (parseMap referenceLib wireCodec d₀) →
      StoreKeysDistinct referenceLib (parseMap referenceLib wireCodec s.server.data) := fun h =>
  absurd (h upperUserDoc lowerUserAdd [.get 0, .update 0] _ rfl (by decide)) (by decide)

end IamAuthenticator
