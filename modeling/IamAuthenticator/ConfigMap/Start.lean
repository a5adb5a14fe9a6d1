import IamAuthenticator.ConfigMap.Watcher

/-!
# Several `Start` calls on one mapper

`ConfigMapMapper.Start` calls `startLoadConfigMap` on the mapper's one
`MapStore` each time it is called, and nothing stops a second call: every call
launches one more watch goroutine, all of them writing the same store. Each
goroutine receives the same `aws-auth` event stream on its own watch channel
and handles it at its own pace; each `saveMap` is atomic under the store's
lock, but nothing orders the `saveMap` calls of two goroutines.

`Watchers` is that system reduced to what the event handling touches: the
shared store and, for each goroutine, how many events of the stream it has
handled. A step lets one goroutine handle its next event.

The invariant (`watchers_store_inv`) is that the store always holds what a
single goroutine would hold after the events one of them has handled. It does
not give a single goroutine's sequence of states: a goroutine that lags behind
installs the tables of an earlier event after a faster one has installed those
of a later event (`watchers_reinstall_earlier`).

The goroutines still converge (`watchers_converge`): once every one of them has
handled the whole stream, the store is the one a single goroutine ends with.
The invariant behind it (`Watchers.Settled`) follows the goroutine that made the
last `saveMap`: the store is what it installed, and every event it has handled
since calls no `saveMap`. When every goroutine is at the end of the stream, so
is the followed one, and nothing after the event it installed saves.

The model is tied to the loop of `startLoadConfigMap` by the store both hold
(`watchers_refine_watcher`): a run of the loop is a run of one goroutine of the
model over the events the loop was delivered, and every store the model reaches,
with any number of goroutines, is one the loop reaches on a prefix of the stream.
-/

namespace IamAuthenticator

/-- The goroutines of several `Start` calls: the store they share, and how far
each has got in the event stream. -/
structure Watchers where
  store : MapStore
  pos : List Nat

namespace Watchers

/-- `n` goroutines just started on the store of `New`. -/
def init (n : Nat) : Watchers := ⟨MapStore.empty, List.replicate n 0⟩

variable (lib : Lib) (cx : Codec) (evs : List WatchEvent)

/-- Goroutine `i` handles its next event of `evs`; `none` when there is no
such goroutine or it has handled them all. -/
def step (s : Watchers) (i : Nat) : Option Watchers :=
  match s.pos[i]? with
  | some k =>
    match evs[k]? with
    | some r => some ⟨s.store.handleEvent lib cx r, s.pos.set i (k + 1)⟩
    | none => none
  | none => none

/-- A run: the goroutines that take a step, in order. -/
def run (s : Watchers) : List Nat → Option Watchers
  | [] => some s
  | i :: is => (step lib cx evs s i).bind (run · is)

/-- The store holds what one goroutine alone would hold after the events it
has handled. -/
def Inv (s : Watchers) : Prop :=
  ∃ j k : Nat, s.pos[j]? = some k ∧ s.store = replay lib cx MapStore.empty (evs.take k)

end Watchers

theorem MapStore.handleEvent_of_install {lib : Lib} {cx : Codec} {r : WatchEvent} {p : Parsed}
    (h : r.install lib cx = some p) (ms : MapStore) :
    ms.handleEvent lib cx r = MapStore.ofParsed lib p := by
  simp [MapStore.handleEvent, h]

theorem MapStore.handleEvent_of_install_none {lib : Lib} {cx : Codec} {r : WatchEvent}
    (h : r.install lib cx = none) (ms : MapStore) : ms.handleEvent lib cx r = ms := by
  simp [MapStore.handleEvent, h]

theorem replay_take_succ {lib : Lib} {cx : Codec} {evs : List WatchEvent} {k : Nat}
    {r : WatchEvent} (h : evs[k]? = some r) (ms : MapStore) :
    replay lib cx ms (evs.take (k + 1)) = (replay lib cx ms (evs.take k)).handleEvent lib cx r := by
  simp [replay, List.take_succ, h, List.foldl_append]

namespace Watchers

variable {lib : Lib} {cx : Codec} {evs : List WatchEvent}

theorem step_eq_some {s s' : Watchers} {i : Nat} (h : step lib cx evs s i = some s') :
    ∃ k r, s.pos[i]? = some k ∧ evs[k]? = some r ∧
      s' = ⟨s.store.handleEvent lib cx r, s.pos.set i (k + 1)⟩ := by
  unfold step at h
  split at h
  · rename_i k hk
    split at h
    · rename_i r hr
      exact ⟨k, r, hk, hr, (Option.some_inj.1 h).symm⟩
    · cases h
  · cases h

/-- One step keeps the invariant: the goroutine that moves either installs the
tables of the event it handles, which is where it now stands, or leaves the
store as it was. -/
theorem step_inv {s s' : Watchers} {i : Nat} (hs : Inv lib cx evs s)
    (h : step lib cx evs s i = some s') : Inv lib cx evs s' := by
  obtain ⟨k, r, hk, hr, rfl⟩ := step_eq_some h
  obtain ⟨j, kj, hj, hstore⟩ := hs
  have hi : i < s.pos.length := (List.getElem?_eq_some_iff.1 hk).1
  have moved : (s.pos.set i (k + 1))[i]? = some (k + 1) := List.getElem?_set_self hi
  by_cases hji : j = i
  · subst hji
    obtain rfl := Option.some_inj.1 (hj.symm.trans hk)
    exact ⟨j, kj + 1, moved, by rw [hstore, replay_take_succ hr]⟩
  · cases hin : r.install lib cx with
    | some p =>
      refine ⟨i, k + 1, moved, ?_⟩
      simp only [replay_take_succ hr, MapStore.handleEvent_of_install hin]
    | none =>
      refine ⟨j, kj, by rw [List.getElem?_set_ne (Ne.symm hji), hj], ?_⟩
      simp only [MapStore.handleEvent_of_install_none hin, hstore]

/-- What every step keeps, every run keeps. -/
theorem run_preserves {P : Watchers → Prop}
    (hstep : ∀ s s' i, P s → step lib cx evs s i = some s' → P s') {s s' : Watchers}
    {is : List Nat} (hs : P s) (h : run lib cx evs s is = some s') : P s' := by
  induction is generalizing s with
  | nil => cases h; exact hs
  | cons i is ih =>
    obtain ⟨s₁, h₁, h₂⟩ := Option.bind_eq_some.1 h
    exact ih (hstep s s₁ i hs h₁) h₂

theorem run_inv {s s' : Watchers} {is : List Nat} (hs : Inv lib cx evs s)
    (h : run lib cx evs s is = some s') : Inv lib cx evs s' :=
  run_preserves (fun _ _ _ => step_inv) hs h

theorem init_inv {n : Nat} (hn : 0 < n) : Inv lib cx evs (init n) :=
  ⟨0, 0, by simp [init, hn], rfl⟩

end Watchers

/-- An `aws-auth` document that allows account `1`, then its deletion. -/
def accountStream : List WatchEvent :=
  [⟨.added, .configMap "aws-auth" (encodeMap wireCodec [] [] ["1"])⟩, ⟨.deleted, .other⟩]

/-- **Several watchers.** For any number of `Start` calls and any
interleaving of their goroutines, the store holds what one goroutine alone
would hold after the events some goroutine has handled. -/
theorem watchers_store_inv (lib : Lib) (cx : Codec) (evs : List WatchEvent) (n : Nat) (hn : 0 < n)
    (sched : List Nat) (s : Watchers) (h : Watchers.run lib cx evs (Watchers.init n) sched = some s) :
    ∃ j k : Nat, s.pos[j]? = some k ∧ s.store = replay lib cx MapStore.empty (evs.take k) :=
  Watchers.run_inv (Watchers.init_inv hn) h

/-- Two goroutines on `accountStream`: the first handles both events, then the
second handles the first one again. -/
theorem watchers_store_inv_accountStream :
    0 < 2 ∧ ∃ s, Watchers.run referenceLib wireCodec accountStream (Watchers.init 2) [0, 0, 1] =
        some s ∧
      ∃ j k : Nat, s.pos[j]? = some k ∧
        s.store = replay referenceLib wireCodec MapStore.empty (accountStream.take k) :=
  ⟨by decide, _, rfl,
    watchers_store_inv referenceLib wireCodec accountStream 2 (by decide) [0, 0, 1] _ rfl⟩

theorem replay_accountStream (k : Nat) :
    (replay referenceLib wireCodec MapStore.empty (accountStream.take k)).awsAccount "1" =
      decide (k = 1) := by
  match k with
  | 0 => rfl
  | 1 => decide
  | k + 2 =>
    rw [List.take_of_length_le (by simp [accountStream]), decide_eq_false (by omega)]
    decide

/-- Two goroutines on `accountStream`: the first handles both events, then the
second handles the first one and installs the deleted document again, so the
stores of the run are not those of one goroutine in order. -/
theorem watchers_reinstall_earlier :
    ¬ ∀ (evs : List WatchEvent) (n : Nat), 0 < n → ∀ (sched : List Nat) (s : Watchers),
      Watchers.run referenceLib wireCodec evs (Watchers.init n) sched = some s →
      ∃ f : Nat → Nat, Monotone f ∧ ∀ t ≤ sched.length,
        (Watchers.run referenceLib wireCodec evs (Watchers.init n) (sched.take t)).map
            Watchers.store =
          some (replay referenceLib wireCodec MapStore.empty (evs.take (f t))) := by
  intro h
  obtain ⟨f, hf, ht⟩ := h accountStream 2 (by decide) [0, 0, 1] _ rfl
  have probe : ∀ t ≤ 3, (Watchers.run referenceLib wireCodec accountStream (Watchers.init 2)
      ([0, 0, 1].take t)).map (fun s => s.store.awsAccount "1") = some (decide (f t = 1)) := by
    intro t ht'
    have := congrArg (Option.map (MapStore.awsAccount · "1")) (ht t ht')
    simpa only [Option.map_map, Function.comp_def, Option.map_some', replay_accountStream]
      using this
  have h1 := (probe 1 (by decide)).symm.trans (by decide : _ = some true)
  have h2 := (probe 2 (by decide)).symm.trans (by decide : _ = some false)
  have h3 := (probe 3 (by decide)).symm.trans (by decide : _ = some true)
  simp only [Option.some.injEq, decide_eq_true_eq, decide_eq_false_iff_not] at h1 h2 h3
  have := hf (by decide : 1 ≤ 2)
  have := hf (by decide : 2 ≤ 3)
  omega

/-! ### Convergence -/

/-- Events that do not call `saveMap` leave a replay where it was. -/
theorem replay_take_of_quiet {lib : Lib} {cx : Codec} {evs : List WatchEvent} {a b : Nat}
    (hab : a ≤ b) (hq : ∀ t r, a ≤ t → t < b → evs[t]? = some r → r.install lib cx = none)
    (ms : MapStore) : replay lib cx ms (evs.take b) = replay lib cx ms (evs.take a) := by
  induction b with
  | zero => obtain rfl := Nat.le_zero.1 hab; rfl
  | succ b ih =>
    rcases Nat.lt_or_ge b a with hb | hb
    · obtain rfl : a = b + 1 := by omega
      rfl
    · rw [← ih hb fun t r h₁ h₂ => hq t r h₁ (by omega)]
      cases hr : evs[b]? with
      | none => simp [List.take_succ, hr]
      | some r =>
        rw [replay_take_succ hr, MapStore.handleEvent_of_install_none (hq b r hb (by omega) hr)]

namespace Watchers

/-- The store holds what one goroutine alone would hold after the first `a`
events, and some goroutine has gone on from event `a` to where it stands
through events that do not call `saveMap`. -/
def Settled (lib : Lib) (cx : Codec) (evs : List WatchEvent) (s : Watchers) : Prop :=
  ∃ j a b : Nat, s.pos[j]? = some b ∧ a ≤ b ∧ s.store = replay lib cx MapStore.empty (evs.take a) ∧
    ∀ t r, a ≤ t → t < b → evs[t]? = some r → r.install lib cx = none

variable {lib : Lib} {cx : Codec} {evs : List WatchEvent}

/-- One step keeps the store settled: a goroutine that saves becomes the one
the store follows; one that does not either extends the quiet stretch of the
followed goroutine or leaves it alone. -/
theorem step_settled {s s' : Watchers} {i : Nat} (hs : Settled lib cx evs s)
    (h : step lib cx evs s i = some s') : Settled lib cx evs s' := by
  obtain ⟨k, r, hk, hr, rfl⟩ := step_eq_some h
  obtain ⟨j, a, b, hj, hab, hstore, hq⟩ := hs
  have moved : (s.pos.set i (k + 1))[i]? = some (k + 1) :=
    List.getElem?_set_self (List.getElem?_eq_some_iff.1 hk).1
  cases hin : r.install lib cx with
  | some p =>
    refine ⟨i, k + 1, k + 1, moved, le_refl _, ?_, fun t _ h₁ h₂ => absurd h₂ (by omega)⟩
    rw [replay_take_succ hr, MapStore.handleEvent_of_install hin, MapStore.handleEvent_of_install hin]
  | none =>
    rw [MapStore.handleEvent_of_install_none hin]
    by_cases hji : j = i
    · subst hji
      obtain rfl := Option.some_inj.1 (hj.symm.trans hk)
      refine ⟨j, a, b + 1, moved, by omega, hstore, fun t r' h₁ h₂ ht => ?_⟩
      rcases Nat.lt_succ_iff_lt_or_eq.1 h₂ with h₂ | rfl
      · exact hq t r' h₁ h₂ ht
      · obtain rfl := Option.some_inj.1 (ht.symm.trans hr)
        exact hin
    · exact ⟨j, a, b, by rw [List.getElem?_set_ne (Ne.symm hji), hj], hab, hstore, hq⟩

theorem run_settled {s s' : Watchers} {is : List Nat} (hs : Settled lib cx evs s)
    (h : run lib cx evs s is = some s') : Settled lib cx evs s' :=
  run_preserves (fun _ _ _ => step_settled) hs h

theorem init_settled {n : Nat} (hn : 0 < n) : Settled lib cx evs (init n) :=
  ⟨0, 0, 0, by simp [init, hn], le_refl 0, rfl, fun t _ h₁ h₂ => absurd h₂ (by omega)⟩

end Watchers

/-- **Several watchers converge.** For any number of `Start` calls and any
interleaving of their goroutines, once every goroutine has handled the whole
event stream the store holds what one goroutine alone holds after it, although
on the way it can go back to an earlier document (`watchers_reinstall_earlier`). -/
theorem watchers_converge (lib : Lib) (cx : Codec) (evs : List WatchEvent) (n : Nat) (hn : 0 < n)
    (sched : List Nat) (s : Watchers) (h : Watchers.run lib cx evs (Watchers.init n) sched = some s)
    (hdone : ∀ k ∈ s.pos, k = evs.length) : s.store = replay lib cx MapStore.empty evs := by
  obtain ⟨j, a, b, hj, hab, hstore, hq⟩ := Watchers.run_settled (Watchers.init_settled hn) h
  obtain rfl := hdone b (List.getElem?_mem hj)
  rw [hstore, ← replay_take_of_quiet hab hq, List.take_length]

/-- The run of `watchers_reinstall_earlier`, finished: the second goroutine
also handles the deletion, and the store is empty again. -/
theorem watchers_converge_accountStream :
    0 < 2 ∧ Watchers.run referenceLib wireCodec accountStream (Watchers.init 2) [0, 0, 1, 1] =
      some ⟨MapStore.ofParsed referenceLib Parsed.empty, [2, 2]⟩ ∧
    (∀ k ∈ [2, 2], k = accountStream.length) ∧
    (⟨MapStore.ofParsed referenceLib Parsed.empty, [2, 2]⟩ : Watchers).store =
      replay referenceLib wireCodec MapStore.empty accountStream :=
  ⟨by decide, rfl, by decide, watchers_converge referenceLib wireCodec accountStream 2 (by decide)
    [0, 0, 1, 1] _ rfl (by decide)⟩


/-! ### The model and the watch loop -/

namespace Watchers

variable {lib : Lib} {cx : Codec} {evs : List WatchEvent}

/-- One goroutine alone handles the next `m` events of the stream. -/
theorem run_one (k m : Nat) (h : k + m ≤ evs.length) :
    run lib cx evs ⟨replay lib cx MapStore.empty (evs.take k), [k]⟩ (List.replicate m 0) =
      some ⟨replay lib cx MapStore.empty (evs.take (k + m)), [k + m]⟩ := by
  induction m generalizing k with
  | zero => rfl
  | succ m ih =>
    obtain ⟨r, hr⟩ : ∃ r, evs[k]? = some r := ⟨_, List.getElem?_eq_getElem (by omega)⟩
    have hstep : step lib cx evs ⟨replay lib cx MapStore.empty (evs.take k), [k]⟩ 0 =
        some ⟨replay lib cx MapStore.empty (evs.take (k + 1)), [k + 1]⟩ := by
      simp [step, hr, replay_take_succ hr]
    simp only [List.replicate_succ, run, hstep, Option.some_bind]
    rw [ih (k + 1) (by omega), Nat.add_right_comm, Nat.add_assoc]

end Watchers

/-- **The model refines the watch loop.** `Watchers` and the loop of
`startLoadConfigMap` hold the same stores: every run of the loop is a run of
one goroutine of the model over the events the loop was delivered, ending with
the loop's store; and for any number of goroutines, every store the model
reaches is the store of a run of the loop that was delivered a prefix of the
stream. -/
theorem watchers_refine_watcher (lib : Lib) (cx : Codec) :
    (∀ inputs w, Watcher.run lib cx Watcher.init inputs = some w →
      Watchers.run lib cx (delivered inputs) (Watchers.init 1)
          (List.replicate (delivered inputs).length 0) =
        some ⟨w.store, [(delivered inputs).length]⟩) ∧
    ∀ evs n, 0 < n → ∀ sched s, Watchers.run lib cx evs (Watchers.init n) sched = some s →
      ∃ inputs w, Watcher.run lib cx Watcher.init inputs = some w ∧ delivered inputs <+: evs ∧
        w.store = s.store := by
  refine ⟨fun inputs w h => ?_, fun evs n hn sched s h => ?_⟩
  · have hone := @Watchers.run_one lib cx (delivered inputs) 0 _ (Nat.zero_add _).le
    rw [Nat.zero_add, List.take_length] at hone
    rw [Watcher.run_store h]
    exact hone
  · obtain ⟨-, k, -, hstore⟩ := Watchers.run_inv (Watchers.init_inv hn) h
    obtain ⟨w, hw⟩ := Watcher.run_deliver lib cx (evs.take k) (w := ⟨.streaming, false, MapStore.empty, 0, 0⟩) rfl
    refine ⟨.loopHead :: .watchOpened :: (evs.take k).map .deliver, w, hw, ?_, ?_⟩
    · exact (delivered_map_deliver _).symm ▸ List.take_prefix k evs
    · rw [Watcher.run_store hw, delivered_map_deliver, hstore]

/-- A watch that opens and delivers both events of `accountStream`. -/
def accountWatch : List WatchInput := .loopHead :: .watchOpened :: accountStream.map .deliver

/-- The loop delivered both events of `accountStream`, and two goroutines
that handled the first one twice and the deletion once. -/
theorem watchers_refine_watcher_accountStream :
    (∃ w, Watcher.run referenceLib wireCodec Watcher.init accountWatch = some w ∧
      Watchers.run referenceLib wireCodec (delivered accountWatch) (Watchers.init 1)
          (List.replicate (delivered accountWatch).length 0) =
        some ⟨w.store, [(delivered accountWatch).length]⟩) ∧
    0 < 2 ∧ ∃ s, Watchers.run referenceLib wireCodec accountStream (Watchers.init 2) [0, 0, 1] =
        some s ∧
      ∃ inputs w, Watcher.run referenceLib wireCodec Watcher.init inputs = some w ∧
        delivered inputs <+: accountStream ∧ w.store = s.store :=
  ⟨⟨_, rfl, (watchers_refine_watcher referenceLib wireCodec).1 _ _ rfl⟩, by decide, _, rfl,
    (watchers_refine_watcher referenceLib wireCodec).2 accountStream 2 (by decide) [0, 0, 1] _ rfl⟩

end IamAuthenticator
