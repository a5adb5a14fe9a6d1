import IamAuthenticator.ConfigMap.Store

/-!
# The watch loop

`MapStore.startLoadConfigMap` starts a goroutine that loops forever: at the
loop head it returns if `stopCh` is closed, and otherwise calls `Watch`; on a
failed call it counts the failure, sleeps and goes back to the head; on a
successful one it handles every event the result channel delivers until the
channel closes, and then goes back to the head. The loop is a state machine,
`Watcher`, whose inputs are what happens next: the owner closes `stopCh`, the
goroutine runs the select at its loop head, the `Watch` call in flight fails or
returns a watcher, the result channel delivers an event or closes.

An event either leaves the store alone or replaces it: a `Deleted` event
installs empty tables, an `Added` or `Modified` event carrying the ConfigMap
named `aws-auth` installs the tables of its parsed data (`WatchEvent.install`).
So the store after a run is fixed by the last event that replaces it
(`replay_eq`), which gives the **store invariant** (`watcher_store_run`): after
any run from the start, the store holds the tables of the last `aws-auth`
document if no `Deleted` event came after it, and empty tables otherwise.

`stopCh` is read only by the select at the loop head, and the `Watch` call of
its default branch is a step of its own: the signal can come while the call is
in flight, and the call then completes as if nothing had happened, its failure
counted or its channel ranged over. The inner loop over the result channel never
reads `stopCh` either, so after the stop signal the goroutine goes on handling,
and saving, whatever a channel delivers (`watcher_saves_twice_after_stop`). It
starts no new `Watch` call: at most the one in flight at the signal completes
(`Watcher.watchBudget`), and once back at the head it returns
(`watcher_after_stop`).

Two consequences of the run lemmas tie the loop to the rest of the mapper:
`ConfigMapMapper.Map` on the store of any run resolves as the lists of the last
installed document allow (`watcher_map_resolution`, through
`configMapMapper_map_saveMap`), `IsAccountAllowed` holds of that document's
accounts (`watcher_account_allowed`), and `ConfigMapWatchFailures` counts every
failed `Watch` call, at most one of them after the stop signal
(`watcher_failures_count`).
-/

namespace IamAuthenticator

/-- `watch.EventType`. -/
inductive EventType
  | added
  | modified
  | deleted
  | bookmark
  | error
  deriving DecidableEq, Repr

/-- The object of a watch event: a ConfigMap with its name and data, or
anything else. -/
inductive WatchObject
  | configMap (name : String) (data : Data)
  | other

/-- `watch.Event`. -/
structure WatchEvent where
  type : EventType
  object : WatchObject

/-- The `Parsed` value with every list empty: what a `Deleted` event saves. -/
def Parsed.empty : Parsed := ⟨[], [], [], [], [], none⟩

namespace WatchEvent

/-- What the loop body does with an event: `some p` when it calls `saveMap`
with the lists of `p`, `none` when it leaves the store alone. -/
def install (lib : Lib) (cx : Codec) (r : WatchEvent) : Option Parsed :=
  match r.type with
  | .error => none
  | .deleted => some Parsed.empty
  | .added | .modified =>
    match r.object with
    | .configMap name data => if name = "aws-auth" then some (parseMap lib cx data) else none
    | .other => none
  | .bookmark => none

/-- An `Added` or `Modified` event carrying the `aws-auth` ConfigMap with data
`d`. -/
def IsAuthUpdate (r : WatchEvent) (d : Data) : Prop :=
  (r.type = .added ∨ r.type = .modified) ∧ r.object = .configMap "aws-auth" d

/-- An event the loop calls `saveMap` for. -/
def Saves (r : WatchEvent) : Prop := r.type = .deleted ∨ ∃ d, r.IsAuthUpdate d

theorem install_isSome_iff (lib : Lib) (cx : Codec) (r : WatchEvent) :
    (r.install lib cx).isSome ↔ r.Saves := by
  obtain ⟨type, obj⟩ := r
  cases type <;> cases obj <;>
    simp [install, Saves, IsAuthUpdate, apply_ite, eq_comm]

theorem install_of_isAuthUpdate {lib : Lib} {cx : Codec} {r : WatchEvent} {d : Data}
    (h : r.IsAuthUpdate d) : r.install lib cx = some (parseMap lib cx d) := by
  obtain ⟨type, obj⟩ := r
  obtain ⟨ht | ht, rfl⟩ := h <;> subst ht <;> rfl

theorem install_of_deleted {lib : Lib} {cx : Codec} {r : WatchEvent} (h : r.type = .deleted) :
    r.install lib cx = some Parsed.empty := by
  simp [install, h]

end WatchEvent

/-- The loop body on one event. -/
def MapStore.handleEvent (lib : Lib) (cx : Codec) (ms : MapStore) (r : WatchEvent) : MapStore :=
  match r.install lib cx with
  | some p => MapStore.ofParsed lib p
  | none => ms

/-- Where the goroutine is: at the loop head (the select on `stopCh`), inside
the `Watch` call of the select's default branch, inside the range over the
result channel, or returned. -/
inductive LoopPc
  | head
  | watching
  | streaming
  | returned
  deriving DecidableEq, Repr

/-- The goroutine of `startLoadConfigMap` and the store it writes. -/
structure Watcher where
  pc : LoopPc
  stopClosed : Bool
  store : MapStore
  /-- `ConfigMapWatchFailures`. -/
  failures : Nat
  /-- The `saveMap` calls completed. -/
  saves : Nat

/-- What the environment does next. -/
inductive WatchInput
  /-- The owner closes `stopCh` (once). -/
  | closeStop
  /-- The goroutine runs the select at its loop head. -/
  | loopHead
  /-- The `Watch` call in flight fails. -/
  | watchFailed
  /-- The `Watch` call in flight returns a watcher. -/
  | watchOpened
  /-- The result channel delivers an event. -/
  | deliver (r : WatchEvent)
  /-- The result channel is closed. -/
  | channelClosed

namespace Watcher

/-- The state `startLoadConfigMap` starts from: the goroutine at its loop head
and the empty store of `New`. -/
def init : Watcher := ⟨.head, false, MapStore.empty, 0, 0⟩

variable (lib : Lib) (cx : Codec)

/-- One transition; `none` when the input cannot happen in this state. -/
def step (w : Watcher) : WatchInput → Option Watcher
  | .closeStop => if w.stopClosed then none else some { w with stopClosed := true }
  | .loopHead =>
    match w.pc with
    | .head => some (if w.stopClosed then { w with pc := .returned } else { w with pc := .watching })
    | _ => none
  | .watchFailed =>
    match w.pc with
    | .watching => some { w with pc := .head, failures := w.failures + 1 }
    | _ => none
  | .watchOpened =>
    match w.pc with
    | .watching => some { w with pc := .streaming }
    | _ => none
  | .deliver r =>
    match w.pc with
    | .streaming => some
      { w with
        store := w.store.handleEvent lib cx r
        saves := if (r.install lib cx).isSome then w.saves + 1 else w.saves }
    | _ => none
  | .channelClosed =>
    match w.pc with
    | .streaming => some { w with pc := .head }
    | _ => none

/-- A run: the inputs in order, `none` if one of them cannot happen. -/
def run (w : Watcher) : List WatchInput → Option Watcher
  | [] => some w
  | i :: is => (step lib cx w i).bind (run · is)

end Watcher

/-- The events a list of inputs delivers. -/
def delivered : List WatchInput → List WatchEvent
  | [] => []
  | .deliver r :: is => r :: delivered is
  | _ :: is => delivered is

theorem delivered_cons (i : WatchInput) (is : List WatchInput) :
    delivered (i :: is) = delivered [i] ++ delivered is := by
  cases i <;> rfl

theorem delivered_append (is js : List WatchInput) :
    delivered (is ++ js) = delivered is ++ delivered js := by
  induction is with
  | nil => rfl
  | cons i is ih => rw [List.cons_append, delivered_cons, ih, delivered_cons i is, List.append_assoc]

/-! ### The store over a run -/

/-- The store after the loop body handled `evs` in order, starting from `ms`. -/
def replay (lib : Lib) (cx : Codec) (ms : MapStore) (evs : List WatchEvent) : MapStore :=
  evs.foldl (MapStore.handleEvent lib cx) ms

/-- What the last event of `evs` that calls `saveMap` saves. -/
def lastInstall (lib : Lib) (cx : Codec) (evs : List WatchEvent) : Option Parsed :=
  evs.reverse.findSome? (·.install lib cx)

/-- The last event that calls `saveMap` fixes the store; with no such event
the store is the one the events started from. -/
theorem replay_eq (lib : Lib) (cx : Codec) (ms : MapStore) (evs : List WatchEvent) :
    replay lib cx ms evs = (lastInstall lib cx evs).elim ms (MapStore.ofParsed lib) := by
  induction evs using List.reverseRecOn with
  | nil => rfl
  | append_singleton evs r ih =>
    have hsnoc : replay lib cx ms (evs ++ [r]) = (replay lib cx ms evs).handleEvent lib cx r := by
      simp [replay, List.foldl_append]
    rw [hsnoc, ih]
    simp only [lastInstall, List.reverse_append, List.reverse_singleton, List.singleton_append,
      List.findSome?_cons, MapStore.handleEvent]
    cases r.install lib cx <;> rfl

theorem lastInstall_of_last {lib : Lib} {cx : Codec} {pre post : List WatchEvent} {r : WatchEvent}
    {p : Parsed} (hr : r.install lib cx = some p) (hpost : ∀ e ∈ post, e.install lib cx = none) :
    lastInstall lib cx (pre ++ r :: post) = some p := by
  have : post.reverse.findSome? (·.install lib cx) = none :=
    List.findSome?_eq_none_iff.2 fun e he => hpost e (List.mem_reverse.1 he)
  simp [lastInstall, List.findSome?_append, this, hr]

theorem lastInstall_eq_some {lib : Lib} {cx : Codec} {evs : List WatchEvent} {p : Parsed}
    (h : lastInstall lib cx evs = some p) :
    ∃ pre r post, evs = pre ++ r :: post ∧ r.install lib cx = some p ∧
      ∀ e ∈ post, e.install lib cx = none := by
  obtain ⟨l₁, r, l₂, hl, hr, hl₁⟩ := List.findSome?_eq_some_iff.1 h
  refine ⟨l₂.reverse, r, l₁.reverse, ?_, hr, fun e he => hl₁ e (List.mem_reverse.1 he)⟩
  rw [← List.reverse_reverse evs, hl]
  simp

namespace Watcher

variable {lib : Lib} {cx : Codec} {w w' : Watcher} {i : WatchInput}

/-- Everything one transition can do. -/
theorem step_cases (h : step lib cx w i = some w') :
    (i = .closeStop ∧ w.stopClosed = false ∧ w' = { w with stopClosed := true }) ∨
    (i = .loopHead ∧ w.pc = .head ∧ w.stopClosed = true ∧ w' = { w with pc := .returned }) ∨
    (i = .loopHead ∧ w.pc = .head ∧ w.stopClosed = false ∧ w' = { w with pc := .watching }) ∨
    (i = .watchFailed ∧ w.pc = .watching ∧
      w' = { w with pc := .head, failures := w.failures + 1 }) ∨
    (i = .watchOpened ∧ w.pc = .watching ∧ w' = { w with pc := .streaming }) ∨
    (∃ r, i = .deliver r ∧ w.pc = .streaming ∧
      w' = { w with
        store := w.store.handleEvent lib cx r
        saves := if (r.install lib cx).isSome then w.saves + 1 else w.saves }) ∨
    (i = .channelClosed ∧ w.pc = .streaming ∧ w' = { w with pc := .head }) := by
  obtain ⟨pc, stop, store, failures, saves⟩ := w
  cases i <;> cases pc <;> cases stop <;> simp [step] at h <;> subst h <;> simp

/-- One transition handles at most the event it delivers. -/
theorem step_store (h : step lib cx w i = some w') :
    w'.store = replay lib cx w.store (delivered [i]) := by
  rcases step_cases h with ⟨rfl, -, rfl⟩ | ⟨rfl, -, -, rfl⟩ | ⟨rfl, -, -, rfl⟩ | ⟨rfl, -, rfl⟩ |
    ⟨rfl, -, rfl⟩ | ⟨r, rfl, -, rfl⟩ | ⟨rfl, -, rfl⟩ <;> rfl

theorem run_append (w : Watcher) (is js : List WatchInput) :
    run lib cx w (is ++ js) = (run lib cx w is).bind (run lib cx · js) := by
  induction is generalizing w with
  | nil => rfl
  | cons i is ih =>
    show (step lib cx w i).bind (run lib cx · (is ++ js)) = _
    simp only [ih, run, Option.bind_assoc]

theorem run_cons_eq_some (h : run lib cx w (i :: is) = some w') :
    ∃ w₁, step lib cx w i = some w₁ ∧ run lib cx w₁ is = some w' := by
  simpa [run, Option.bind_eq_some] using h

/-- A run handles exactly the events it delivers, in order. -/
theorem run_store {is : List WatchInput} (h : run lib cx w is = some w') :
    w'.store = replay lib cx w.store (delivered is) := by
  induction is generalizing w with
  | nil => cases h; rfl
  | cons i is ih =>
    obtain ⟨w₁, h₁, h₂⟩ := run_cons_eq_some h
    rw [ih h₂, step_store h₁, delivered_cons i is]
    simp only [replay, List.foldl_append]

end Watcher

/-- In the range over a result channel the loop handles any sequence of
events. -/
theorem Watcher.run_deliver (lib : Lib) (cx : Codec) (es : List WatchEvent) {w : Watcher}
    (hw : w.pc = .streaming) : ∃ w', Watcher.run lib cx w (es.map .deliver) = some w' := by
  induction es generalizing w with
  | nil => exact ⟨w, rfl⟩
  | cons r es ih =>
    simp only [List.map_cons, Watcher.run, Watcher.step, hw, Option.some_bind]
    exact ih rfl

theorem delivered_map_deliver (es : List WatchEvent) : delivered (es.map .deliver) = es := by
  induction es with
  | nil => rfl
  | cons r es ih => exact congrArg (r :: ·) ih

/-- The store `ms` holds what the events `evs` leave: the tables of the last
`aws-auth` document an `Added` or `Modified` event carried, if no `Deleted`
event came after it, and empty tables otherwise. -/
def HoldsLastDocument (lib : Lib) (cx : Codec) (evs : List WatchEvent) (ms : MapStore) : Prop :=
  (∀ pre r post d, evs = pre ++ r :: post → r.IsAuthUpdate d → (∀ e ∈ post, ¬ e.Saves) →
    ms = MapStore.ofParsed lib (parseMap lib cx d)) ∧
  ((∀ pre r post d, evs = pre ++ r :: post → r.IsAuthUpdate d → ∃ e ∈ post, e.type = .deleted) →
    ms = MapStore.empty)

theorem WatchEvent.install_eq_none {lib : Lib} {cx : Codec} {e : WatchEvent} (he : ¬ e.Saves) :
    e.install lib cx = none :=
  Option.not_isSome_iff_eq_none.1 fun hs => he ((WatchEvent.install_isSome_iff lib cx e).1 hs)

theorem holdsLastDocument_replay (lib : Lib) (cx : Codec) (evs : List WatchEvent) :
    HoldsLastDocument lib cx evs (replay lib cx MapStore.empty evs) := by
  rw [replay_eq]
  refine ⟨fun pre r post d hevs hr hpost => ?_, fun hdel => ?_⟩
  · rw [hevs, lastInstall_of_last (WatchEvent.install_of_isAuthUpdate hr)
      fun e he => WatchEvent.install_eq_none (hpost e he)]
    rfl
  · cases hl : lastInstall lib cx evs with
    | none => rfl
    | some p =>
      obtain ⟨pre, r, post, hevs, hr, hpost⟩ := lastInstall_eq_some hl
      rcases (WatchEvent.install_isSome_iff lib cx r).1 (by simp [hr]) with hdel' | ⟨d, hd⟩
      · rw [WatchEvent.install_of_deleted hdel', Option.some_inj] at hr
        subst hr
        rfl
      · obtain ⟨e, he, hed⟩ := hdel pre r post d hevs hd
        cases (hpost e he).symm.trans (WatchEvent.install_of_deleted hed)

/-- **The store invariant.** After any run of the watch loop from its start,
the store holds the tables of the last `aws-auth` document an `Added` or
`Modified` event delivered, if no `Deleted` event came after it, and empty
tables otherwise; an input that delivers no event calling `saveMap` leaves the
store as it was. -/
theorem watcher_store_run (lib : Lib) (cx : Codec) (inputs : List WatchInput) (w : Watcher)
    (h : Watcher.run lib cx Watcher.init inputs = some w) :
    HoldsLastDocument lib cx (delivered inputs) w.store ∧
    ∀ (w₁ w₂ : Watcher) (i : WatchInput), Watcher.step lib cx w₁ i = some w₂ →
      (∀ r, i = .deliver r → ¬ r.Saves) → w₂.store = w₁.store := by
  refine ⟨Watcher.run_store h ▸ holdsLastDocument_replay lib cx _, fun w₁ w₂ i hstep hi => ?_⟩
  rw [Watcher.step_store hstep]
  cases i with
  | deliver r =>
    simp [replay, delivered, MapStore.handleEvent, WatchEvent.install_eq_none (hi r rfl)]
  | _ => rfl

/-- A watch on which the `aws-auth` document allowing account `1` is added;
the channel closes, and the next watch delivers an `Error` event. -/
def accountThenError : List WatchInput :=
  [.loopHead, .watchOpened,
    .deliver ⟨.added, .configMap "aws-auth" (encodeMap wireCodec [] [] ["1"])⟩,
    .channelClosed, .loopHead, .watchOpened, .deliver ⟨.error, .other⟩]

/-- The store after `accountThenError` holds the added document's tables: the
reconnect and the `Error` event leave it. -/
theorem watcher_store_run_account :
    Watcher.run referenceLib wireCodec Watcher.init accountThenError =
      some ⟨.streaming, false, MapStore.ofParsed referenceLib
        (parseMap referenceLib wireCodec (encodeMap wireCodec [] [] ["1"])), 0, 1⟩ ∧
    HoldsLastDocument referenceLib wireCodec (delivered accountThenError)
      (MapStore.ofParsed referenceLib
        (parseMap referenceLib wireCodec (encodeMap wireCodec [] [] ["1"]))) ∧
    ∀ (w₁ w₂ : Watcher) (i : WatchInput), Watcher.step referenceLib wireCodec w₁ i = some w₂ →
      (∀ r, i = .deliver r → ¬ r.Saves) → w₂.store = w₁.store :=
  ⟨rfl, watcher_store_run referenceLib wireCodec accountThenError _ rfl⟩

/-- The store after any run from the start is the one `saveMap` builds from
what `ParseMap` returned for the last document an event installed, or from
empty lists. -/
theorem Watcher.run_store_ofParsed {lib : Lib} {cx : Codec} {inputs : List WatchInput} {w : Watcher}
    (h : Watcher.run lib cx Watcher.init inputs = some w) :
    w.store = MapStore.ofParsed lib ((lastInstall lib cx (delivered inputs)).getD Parsed.empty) := by
  rw [Watcher.run_store h, replay_eq]
  cases lastInstall lib cx (delivered inputs) <;> rfl

/-- **Resolution after a run.** After any run of the watch loop from its
start, `ConfigMapMapper.Map` resolves, in every iteration order, as
`LiveMapAllowed` reads off the lists `ParseMap` returned for the last document
an event installed (all empty when that event was a `Deleted`, or when there
was none). -/
theorem watcher_map_resolution (lib : Lib) (cx : Codec) (inputs : List WatchInput) (w : Watcher)
    (h : Watcher.run lib cx Watcher.init inputs = some w) (ro : w.store.roleArnLikes.Order)
    (uo : w.store.userArnLikes.Order) (a : String) :
    let p := (lastInstall lib cx (delivered inputs)).getD Parsed.empty
    LiveMapAllowed lib p.userMappings p.userArnLikeMappings p.roleMappings p.roleArnLikeMappings
      (lib.toLower a) (ConfigMapMapper.map lib w.store ro uo a) := by
  revert ro uo
  rw [Watcher.run_store_ofParsed h]
  exact fun ro uo => configMapMapper_map_saveMap lib _ _ _ _ _ ro uo a

/-- An `aws-auth` document with a user pattern, an exact role and a role
pattern, added on a new watch. -/
def mixedAdded : List WatchInput :=
  [.loopHead, .watchOpened, .deliver ⟨.added, .configMap "aws-auth"
    (encodeMap wireCodec [⟨"", "arn:aws:iam::1:user/dev-*", "dev", []⟩]
      [⟨"arn:aws:iam::1:role/x", "", "x", ["admins"]⟩, ⟨"", "arn:aws:iam::1:role/ops-*", "ops", []⟩]
      [])⟩]

/-- After `mixedAdded`, an ARN only the role pattern matches resolves to it. -/
theorem watcher_map_resolution_mixed :
    ∃ w, Watcher.run referenceLib wireCodec Watcher.init mixedAdded = some w ∧
      (let p := (lastInstall referenceLib wireCodec (delivered mixedAdded)).getD Parsed.empty
       LiveMapAllowed referenceLib p.userMappings p.userArnLikeMappings p.roleMappings
         p.roleArnLikeMappings (referenceLib.toLower "arn:aws:iam::1:role/ops-1")
         (ConfigMapMapper.map referenceLib w.store (GoMap.Order.entries _) (GoMap.Order.entries _)
           "arn:aws:iam::1:role/ops-1")) ∧
      ConfigMapMapper.map referenceLib w.store (GoMap.Order.entries _) (GoMap.Order.entries _)
        "arn:aws:iam::1:role/ops-1" = .ok ⟨"arn:aws:iam::1:role/ops-1", "ops", []⟩ :=
  ⟨_, rfl, watcher_map_resolution referenceLib wireCodec mixedAdded _ rfl _ _ _, rfl⟩

/-- **Accounts after a run.** After any run of the watch loop from its start,
`IsAccountAllowed` holds exactly of the accounts `ParseMap` returned for the
last document an event installed. -/
theorem watcher_account_allowed (lib : Lib) (cx : Codec) (inputs : List WatchInput) (w : Watcher)
    (h : Watcher.run lib cx Watcher.init inputs = some w) (accountID : String) :
    ConfigMapMapper.isAccountAllowed w.store accountID =
      decide (accountID ∈ ((lastInstall lib cx (delivered inputs)).getD Parsed.empty).awsAccounts) := by
  rw [Watcher.run_store_ofParsed h]
  exact isAccountAllowed_saveMap lib _ _ _ _ _ accountID

/-- The document allowing account `1`, then its deletion: the account is no
longer allowed. -/
theorem watcher_account_allowed_deleted :
    Watcher.run referenceLib wireCodec Watcher.init
        [.loopHead, .watchOpened,
          .deliver ⟨.added, .configMap "aws-auth" (encodeMap wireCodec [] [] ["1"])⟩,
          .deliver ⟨.deleted, .other⟩] =
      some ⟨.streaming, false, MapStore.ofParsed referenceLib Parsed.empty, 0, 2⟩ ∧
    ConfigMapMapper.isAccountAllowed (MapStore.ofParsed referenceLib Parsed.empty) "1" =
      decide ("1" ∈ ((lastInstall referenceLib wireCodec
        [⟨.added, .configMap "aws-auth" (encodeMap wireCodec [] [] ["1"])⟩, ⟨.deleted, .other⟩]).getD
          Parsed.empty).awsAccounts) :=
  ⟨rfl, watcher_account_allowed referenceLib wireCodec
    [.loopHead, .watchOpened, .deliver ⟨.added, .configMap "aws-auth" (encodeMap wireCodec [] [] ["1"])⟩,
      .deliver ⟨.deleted, .other⟩] _ rfl "1"⟩

/-! ### After the stop signal -/

/-- The input is a failed `Watch` call. -/
def WatchInput.isWatchFailed : WatchInput → Bool
  | .watchFailed => true
  | _ => false

/-- The input ends the `Watch` call in flight, failed or opened. -/
def WatchInput.endsWatch : WatchInput → Bool
  | .watchFailed | .watchOpened => true
  | _ => false

namespace Watcher

variable {lib : Lib} {cx : Codec} {w w' : Watcher} {i : WatchInput}

/-- The `Watch` calls the goroutine can complete without running the select
again: the one in flight, if any. -/
def watchBudget (w : Watcher) : Nat := if w.pc = .watching then 1 else 0

/-- One transition counts a failure exactly for a failed `Watch` call, and a
`saveMap` exactly for an event that calls it. -/
theorem step_counters (h : step lib cx w i = some w') :
    w'.failures = w.failures + (if i.isWatchFailed then 1 else 0) ∧
    w'.saves = w.saves + (delivered [i]).countP fun r => (r.install lib cx).isSome := by
  rcases step_cases h with ⟨rfl, -, rfl⟩ | ⟨rfl, -, -, rfl⟩ | ⟨rfl, -, -, rfl⟩ | ⟨rfl, -, rfl⟩ |
    ⟨rfl, -, rfl⟩ | ⟨r, rfl, -, rfl⟩ | ⟨rfl, -, rfl⟩ <;>
    simp [WatchInput.isWatchFailed, delivered]
  split <;> rename_i hs <;> simp [hs]

theorem run_counters {is : List WatchInput} (h : run lib cx w is = some w') :
    w'.failures = w.failures + is.countP WatchInput.isWatchFailed ∧
    w'.saves = w.saves + (delivered is).countP fun r => (r.install lib cx).isSome := by
  induction is generalizing w with
  | nil => cases h; simp [delivered]
  | cons i is ih =>
    obtain ⟨w₁, h₁, h₂⟩ := run_cons_eq_some h
    obtain ⟨hf₁, hs₁⟩ := step_counters h₁
    obtain ⟨hf, hs⟩ := ih h₂
    rw [List.countP_cons, delivered_cons i is, List.countP_append]
    omega

/-- A stopped goroutine stays stopped and starts no `Watch` call: a transition
that ends one spends the call in flight. -/
theorem step_stopped (hw : w.stopClosed = true) (h : step lib cx w i = some w') :
    w'.stopClosed = true ∧ (if i.endsWatch then 1 else 0) + w'.watchBudget ≤ w.watchBudget := by
  rcases step_cases h with ⟨-, hc, -⟩ | ⟨rfl, hpc, -, rfl⟩ | ⟨-, -, hc, -⟩ | ⟨rfl, hpc, rfl⟩ |
    ⟨rfl, hpc, rfl⟩ | ⟨r, rfl, hpc, rfl⟩ | ⟨rfl, hpc, rfl⟩ <;>
    simp_all [watchBudget, WatchInput.endsWatch]

theorem run_stopped {is : List WatchInput} (hw : w.stopClosed = true)
    (h : run lib cx w is = some w') :
    w'.stopClosed = true ∧ is.countP WatchInput.endsWatch + w'.watchBudget ≤ w.watchBudget := by
  induction is generalizing w with
  | nil => cases h; simp [hw]
  | cons i is ih =>
    obtain ⟨w₁, h₁, h₂⟩ := run_cons_eq_some h
    obtain ⟨hw₁, hb₁⟩ := step_stopped hw h₁
    obtain ⟨hw', hb'⟩ := ih hw₁ h₂
    rw [List.countP_cons]
    exact ⟨hw', by omega⟩

/-- A goroutine that has returned takes no further step. -/
theorem step_returned (w : Watcher) (hw : w.stopClosed = true) (hpc : w.pc = .returned) :
    step lib cx w i = none := by
  obtain ⟨pc, stop, store, failures, saves⟩ := w
  simp only at hw hpc
  subst hw hpc
  cases i <;> rfl

/-- A stopped goroutine at its loop head, or returned, handles no event and
takes at most one more step, its return. -/
theorem run_stopped_of_idle {is : List WatchInput} (hw : w.stopClosed = true)
    (hpc : w.pc = .head ∨ w.pc = .returned) (h : run lib cx w is = some w') :
    delivered is = [] ∧ is.length ≤ 1 := by
  match is, h with
  | [], _ => exact ⟨rfl, Nat.zero_le _⟩
  | i :: is, h =>
    obtain ⟨w₁, h₁, h₂⟩ := run_cons_eq_some h
    rcases step_cases h₁ with ⟨-, hc, -⟩ | ⟨rfl, -, -, rfl⟩ | ⟨-, -, hc, -⟩ | ⟨-, hc, -⟩ |
      ⟨-, hc, -⟩ | ⟨_, -, hc, -⟩ | ⟨-, hc, -⟩
    · simp [hw] at hc
    · -- the select returns, and a returned goroutine takes no step
      cases is with
      | nil => exact ⟨rfl, le_refl _⟩
      | cons j js =>
        obtain ⟨_, hj, -⟩ := run_cons_eq_some h₂
        rw [step_returned { w with pc := .returned } hw rfl] at hj
        cases hj
    all_goals rcases hpc with hpc | hpc <;> simp_all

end Watcher

/-- **After the stop signal.** Once `stopCh` is closed the goroutine starts no
new `Watch` call: at most the one in flight at the signal completes, and its
failure is counted. It completes exactly one `saveMap` for each `Deleted` or
`aws-auth` `Added`/`Modified` event it still handles, on the channel open at
the signal or on the one the call in flight opens. At its loop head, or
returned, it handles no event and takes at most one more step, and after a
channel closes it handles nothing more. -/
theorem watcher_after_stop (lib : Lib) (cx : Codec) (w w' : Watcher) (inputs : List WatchInput)
    (hw : w.stopClosed = true) (h : Watcher.run lib cx w inputs = some w') :
    w'.saves = w.saves + (delivered inputs).countP (fun r => (r.install lib cx).isSome) ∧
    w'.failures = w.failures + inputs.countP WatchInput.isWatchFailed ∧
    inputs.countP WatchInput.endsWatch ≤ (if w.pc = .watching then 1 else 0) ∧
    (w.pc = .head ∨ w.pc = .returned → delivered inputs = [] ∧ inputs.length ≤ 1) ∧
    ∀ pre post, inputs = pre ++ .channelClosed :: post → delivered post = [] ∧ post.length ≤ 1 := by
  obtain ⟨hf, hs⟩ := Watcher.run_counters h
  refine ⟨hs, hf, (Nat.le_add_right _ _).trans (Watcher.run_stopped hw h).2,
    fun hpc => Watcher.run_stopped_of_idle hw hpc h, ?_⟩
  rintro pre post rfl
  rw [Watcher.run_append, Option.bind_eq_some] at h
  obtain ⟨w₁, h₁, h₂⟩ := h
  obtain ⟨w₂, h₂, h₃⟩ := Watcher.run_cons_eq_some h₂
  have hw₂ := (Watcher.step_stopped (Watcher.run_stopped hw h₁).1 h₂).1
  rcases Watcher.step_cases h₂ with ⟨hc, -⟩ | ⟨hc, -⟩ | ⟨hc, -⟩ | ⟨hc, -⟩ | ⟨hc, -⟩ | ⟨_, hc, -⟩ |
    ⟨-, -, rfl⟩
  all_goals first | cases hc | exact Watcher.run_stopped_of_idle hw₂ (.inl rfl) h₃

/-- The stop signal while the goroutine streams, then two `Deleted` events on
the open channel: two `saveMap` calls complete after the signal. -/
theorem watcher_saves_twice_after_stop :
    ¬ ∀ (pre post : List WatchInput) (w₁ w₂ : Watcher),
      Watcher.run referenceLib wireCodec Watcher.init (pre ++ [.closeStop]) = some w₁ →
      Watcher.run referenceLib wireCodec w₁ post = some w₂ → w₂.saves ≤ w₁.saves + 1 := by
  intro h
  have := h [.loopHead, .watchOpened] [.deliver ⟨.deleted, .other⟩, .deliver ⟨.deleted, .other⟩]
    _ _ rfl rfl
  exact absurd this (by decide)

/-- The `Watch` call in flight at the stop signal opens a channel that delivers
two `Deleted` events and closes; the goroutine then runs the select. -/
def inFlightAfterStop : List WatchInput :=
  [.watchOpened, .deliver ⟨.deleted, .other⟩, .deliver ⟨.deleted, .other⟩, .channelClosed, .loopHead]

/-- A goroutine inside `Watch` when `stopCh` closes: the call completes, both
events are saved, and the goroutine returns at the next select. -/
theorem watcher_after_stop_inFlight :
    ∃ w', Watcher.run referenceLib wireCodec ⟨.watching, true, MapStore.empty, 0, 0⟩
        inFlightAfterStop = some w' ∧
      w'.saves = 0 + (delivered inFlightAfterStop).countP
        (fun r => (r.install referenceLib wireCodec).isSome) ∧
      w'.failures = 0 + inFlightAfterStop.countP WatchInput.isWatchFailed ∧
      inFlightAfterStop.countP WatchInput.endsWatch ≤
        (if LoopPc.watching = .watching then 1 else 0) ∧
      (LoopPc.watching = .head ∨ LoopPc.watching = .returned →
        delivered inFlightAfterStop = [] ∧ inFlightAfterStop.length ≤ 1) ∧
      ∀ pre post, inFlightAfterStop = pre ++ .channelClosed :: post →
        delivered post = [] ∧ post.length ≤ 1 :=
  ⟨_, rfl, watcher_after_stop referenceLib wireCodec ⟨.watching, true, MapStore.empty, 0, 0⟩ _
    inFlightAfterStop rfl rfl⟩

/-! ### The failure counter -/

/-- **The failure counter.** After any run of the watch loop,
`ConfigMapWatchFailures` is the number of failed `Watch` calls, and at most one
of them comes after the stop signal: the call in flight at the signal. -/
theorem watcher_failures_count (lib : Lib) (cx : Codec) (inputs : List WatchInput) (w : Watcher)
    (h : Watcher.run lib cx Watcher.init inputs = some w) :
    w.failures = inputs.countP WatchInput.isWatchFailed ∧
    ∀ pre post, inputs = pre ++ .closeStop :: post → post.countP WatchInput.isWatchFailed ≤ 1 := by
  refine ⟨by simpa [Watcher.init] using (Watcher.run_counters h).1, ?_⟩
  rintro pre post rfl
  rw [Watcher.run_append, Option.bind_eq_some] at h
  obtain ⟨w₁, -, h₂⟩ := h
  obtain ⟨w₂, h₂, h₃⟩ := Watcher.run_cons_eq_some h₂
  have hw₂ : w₂.stopClosed = true := by
    rcases Watcher.step_cases h₂ with ⟨-, -, rfl⟩ | ⟨hc, -⟩ | ⟨hc, -⟩ | ⟨hc, -⟩ | ⟨hc, -⟩ |
      ⟨_, hc, -⟩ | ⟨hc, -⟩
    all_goals first | rfl | cases hc
  have hb := (Watcher.run_stopped hw₂ h₃).2
  have hle : post.countP WatchInput.isWatchFailed ≤ post.countP WatchInput.endsWatch :=
    List.countP_mono_left fun i _ hi => by cases i <;> first | rfl | cases hi
  have hone : w₂.watchBudget ≤ 1 := by unfold Watcher.watchBudget; split <;> omega
  omega

/-- A failed `Watch` call, then a second call in flight when `stopCh` closes,
which fails too, and the return. -/
def failAcrossStop : List WatchInput :=
  [.loopHead, .watchFailed, .loopHead, .closeStop, .watchFailed, .loopHead]

/-- Both failures of `failAcrossStop` are counted, one of them after the stop
signal. -/
theorem watcher_failures_count_acrossStop :
    ∃ w, Watcher.run referenceLib wireCodec Watcher.init failAcrossStop = some w ∧
      w.failures = failAcrossStop.countP WatchInput.isWatchFailed ∧
      ∀ pre post, failAcrossStop = pre ++ .closeStop :: post →
        post.countP WatchInput.isWatchFailed ≤ 1 :=
  ⟨_, rfl, watcher_failures_count referenceLib wireCodec failAcrossStop _ rfl⟩

end IamAuthenticator
