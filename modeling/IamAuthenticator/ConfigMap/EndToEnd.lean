import IamAuthenticator.ConfigMap.Client
import IamAuthenticator.ConfigMap.Watcher
import IamAuthenticator.Mapper.File

/-!
# From `AddRole` to `Map`

The two halves of the ConfigMap design meet at the `aws-auth` document: the
client writes it through the API server, and the watch goroutine of the
mapper reads it back from its event stream and installs its tables. This
module composes the two models.

`add_then_map`: when `AddRole(m)` or `AddUser(m)` of an exact record runs alone
and succeeds, any watcher whose last installed document is the one the call
wrote maps every ARN that lower-cases to `m`'s to `m`'s identity, in every
iteration order. The record `m` wins because the client appends it after the
records already there, and `saveMap` keeps the last record of each key. A user
record takes effect only when no exact role record has its key, since `Map`
looks up roles first.

`fileMapper_configMap_agree`: the two mapper backends agree. A configuration
`NewFileMapper` accepts, written with `EncodeMap` and installed by the watcher,
gives a `ConfigMapMapper` whose `Map` returns what the `FileMapper` returns,
when the exact ARNs are already canonical and both pattern scans visit the
patterns in the same order. The one difference left is an `ArnLike` error: the
file mapper returns it, the ConfigMap mapper drops it and goes on to the next
lookup, so the agreement is stated for the file mapper's other results.
-/

namespace IamAuthenticator

/-- **An added record takes effect.** `AddRole(m)` or `AddUser(m)` of an exact
record, alone against the server on a document that parses and has no exact
record of the principal with `m`'s ARN as written, writes a document; any run
of the watch loop whose last installed document is that one answers `Map(a)`,
for every `a` that lower-cases as `m`'s ARN does, with `m`'s identity (for a
user record, when no exact role record has that key). -/
theorem add_then_map (lib : Lib) (cx : Codec) (p : Principal) (m : Mapping p) (hm : m.IsExact)
    (d : Data) (v : Nat) (hd : (parseMap lib cx d).err = none)
    (hdup : ∀ x ∈ (parseMap lib cx d).exactOf p, x.arn ≠ m.arn)
    (hrole : p = .user → ∀ x ∈ (parseMap lib cx d).roleMappings,
      lib.toLower x.arn ≠ lib.toLower m.arn) :
    ∃ s, Cluster.run lib cx ⟨⟨d, v⟩, [(AddRequest.ofMapping p m).call]⟩ [.get 0, .update 0] =
        some s ∧
      ∀ (inputs : List WatchInput) (w : Watcher), Watcher.run lib cx Watcher.init inputs = some w →
        lastInstall lib cx (delivered inputs) = some (parseMap lib cx s.server.data) →
        ∀ (ro : w.store.roleArnLikes.Order) (uo : w.store.userArnLikes.Order) (a : String),
          lib.toLower a = lib.toLower m.arn →
          ConfigMapMapper.map lib w.store ro uo a = .ok (m.identity (lib.toLower a)) := by
  set c := (AddRequest.ofMapping p m).call
  obtain ⟨d', hd'⟩ : ∃ d', addToData lib cx c.role c.user d = .ok d' :=
    ⟨_, addToData_eq_ok.2 ⟨hd, (forall_addArg_ofMapping m (R := fun q a =>
      ∀ x ∈ (parseMap lib cx d).exactOf q, x.arn ≠ a.arn)).2 hdup, rfl⟩⟩
  refine ⟨⟨⟨d', v + 1⟩, [{ c with pc := .returned (.ok d') }]⟩,
    by rw [Cluster.run_alone lib cx c (ofMapping_call_pc m), hd'], ?_⟩
  intro inputs w hw hlast ro uo a ha
  have hx := (parseMap_of_addToData hd').1
  -- the written document ends the principal's exact records with `m`
  have hadded : GoMap.lastWith (fun x => lib.toLower x.arn) ((parseMap lib cx d').exactOf p)
      (lib.toLower a) = some m := by
    rw [hx p, addArg_ofMapping_self, Option.toList_some, List.filter_singleton, decide_eq_true hm,
      cond_true]
    exact GoMap.lastWith_append_singleton _ _ ha.symm
  revert ro uo
  rw [Watcher.run_store_ofParsed hw, hlast, Option.getD_some]
  intro ro uo
  have hL := configMapMapper_map_saveMap lib _ _ _ _ _ ro uo a
  cases p with
  | role =>
    have hr : GoMap.lastWith (fun x => lib.toLower x.arn) (parseMap lib cx d').roleMappings
        (lib.toLower a) = some m := hadded
    simpa only [LiveMapAllowed, hr] using hL
  | user =>
    have hr : GoMap.lastWith (fun x => lib.toLower x.arn) (parseMap lib cx d').roleMappings
        (lib.toLower a) = none := by
      rw [show (parseMap lib cx d').roleMappings = _ from hx .role, addArg_ofMapping_ne m (by decide)]
      simpa [GoMap.lastWith_eq_none_iff, ha] using hrole rfl
    have hu : GoMap.lastWith (fun x => lib.toLower x.arn) (parseMap lib cx d').userMappings
        (lib.toLower a) = some m := hadded
    simpa only [LiveMapAllowed, hr, hu] using hL

/-- The exact role record `arn:aws:iam::1:role/x`. -/
def exactRole : RoleMapping := ⟨"arn:aws:iam::1:role/x", "", "x", []⟩

/-- `AddRole(exactRole)` on `recordsDoc`, then a watch that delivers the
document the call wrote. -/
theorem add_then_map_exactRole :
    exactRole.IsExact ∧ (parseMap referenceLib wireCodec recordsDoc).err = none ∧
    (∀ x ∈ (parseMap referenceLib wireCodec recordsDoc).exactOf .role, x.arn ≠ exactRole.arn) ∧
    (Principal.role = .user → ∀ x ∈ (parseMap referenceLib wireCodec recordsDoc).roleMappings,
      referenceLib.toLower x.arn ≠ referenceLib.toLower exactRole.arn) ∧
    ∃ s, Cluster.run referenceLib wireCodec
        ⟨⟨recordsDoc, 0⟩, [(AddRequest.ofMapping .role exactRole).call]⟩ [.get 0, .update 0] =
        some s ∧
      ∃ w, Watcher.run referenceLib wireCodec Watcher.init
          [.loopHead, .watchOpened, .deliver ⟨.added, .configMap "aws-auth" s.server.data⟩] =
          some w ∧
        ConfigMapMapper.map referenceLib w.store (GoMap.Order.entries _) (GoMap.Order.entries _)
          "arn:aws:iam::1:role/X" =
          .ok (exactRole.identity (referenceLib.toLower "arn:aws:iam::1:role/X")) := by
  obtain ⟨s, hs, hmap⟩ := add_then_map referenceLib wireCodec .role exactRole (by decide) recordsDoc
    0 (by decide) (by decide) (by decide)
  -- the select and the opened watch lead to the range over the events
  obtain ⟨w, hw⟩ : ∃ w, Watcher.run referenceLib wireCodec Watcher.init
      [.loopHead, .watchOpened, .deliver ⟨.added, .configMap "aws-auth" s.server.data⟩] = some w :=
    Watcher.run_deliver referenceLib wireCodec [⟨.added, .configMap "aws-auth" s.server.data⟩]
      (w := ⟨.streaming, false, MapStore.empty, 0, 0⟩) rfl
  refine ⟨by decide, by decide, by decide, by decide, s, hs, w, hw, hmap _ w hw ?_ _ _ _ (by decide)⟩
  exact @lastInstall_of_last _ _ [] [] _ _ (WatchEvent.install_of_isAuthUpdate ⟨.inl rfl, rfl⟩)
    (by simp)

/-- **The two backends agree.** For a configuration `NewFileMapper` accepts,
whose exact ARNs are canonical once lower-cased, and a run of the watch loop
whose last installed document is the configuration written by `EncodeMap`:
when both pattern scans visit the patterns in the same order, the
ConfigMap mapper's `Map(a)` is the file mapper's, unless the latter is an
`ArnLike` error. -/
theorem fileMapper_configMap_agree (lib : Lib) (cx : Codec) (cfg : Config) (fm : FileMapper)
    (hfm : newFileMapper lib cfg = .ok fm)
    (hcR : ∀ m ∈ cfg.roleMappings, m.IsExact →
      lib.canonicalize (lib.toLower m.arn) = .ok (lib.toLower m.arn))
    (hcU : ∀ m ∈ cfg.userMappings, m.IsExact →
      lib.canonicalize (lib.toLower m.arn) = .ok (lib.toLower m.arn))
    (inputs : List WatchInput) (w : Watcher) (hw : Watcher.run lib cx Watcher.init inputs = some w)
    (hlast : lastInstall lib cx (delivered inputs) = some (parseMap lib cx
      (encodeMap cx cfg.userMappings cfg.roleMappings cfg.autoMappedAWSAccounts)))
    (ro : fm.roleArnLikeMap.Order) (uo : fm.userArnLikeMap.Order)
    (ro' : w.store.roleArnLikes.Order) (uo' : w.store.userArnLikes.Order)
    (hro : ro'.1 = ro.1) (huo : uo'.1 = uo.1) (a : String)
    (hne : ∀ e, fm.map lib ro uo a ≠ .error (.arnLike e)) :
    ConfigMapMapper.map lib w.store ro' uo' a = fm.map lib ro uo a := by
  have hall := accepted_of_newFileMapper_eq_ok hfm
  rw [newFileMapper_eq_ok hall.1 hall.2] at hfm
  cases hfm
  obtain ⟨hu, -, hr, -⟩ := @parseMap_encodeMap lib cx cfg.userMappings cfg.roleMappings
    cfg.autoMappedAWSAccounts
  revert ro' uo'
  rw [Watcher.run_store_ofParsed hw, hlast, Option.getD_some]
  intro ro' uo' hro huo
  simp only [ConfigMapMapper.map, mapAcross, MapStore.roleMapping, MapStore.userMapping,
    MapStore.roleArnLikeMapping, MapStore.userArnLikeMapping, MapStore.exactLookup,
    MapStore.patternLookup, MapStore.ofParsed, MapStore.saveMap_roles, MapStore.saveMap_users, hr, hu,
    ← exactTable_get?_of_canonical hcR, ← exactTable_get?_of_canonical hcU, hro, huo,
    FileMapper.map] at hne ⊢
  revert hne
  -- the four lookups of both mappers, in the order both make them
  cases (exactTable lib cfg.roleMappings).get? (lib.toLower a) with
  | some m => exact fun _ => rfl
  | none =>
    cases (exactTable lib cfg.userMappings).get? (lib.toLower a) with
    | some m => exact fun _ => rfl
    | none =>
      cases firstArnLike lib (lib.toLower a) ro.1 with
      | error e => exact fun hne => absurd rfl (hne e)
      | ok r =>
        cases r with
        | some m => exact fun _ => rfl
        | none =>
          cases firstArnLike lib (lib.toLower a) uo.1 with
          | error e => exact fun hne => absurd rfl (hne e)
          | ok r => cases r <;> exact fun _ => rfl

/-- The configuration with the one record `exactRole`. -/
def exactRoleConfig : Config := ⟨[exactRole], [], []⟩

/-- The watch stream that delivers `exactRoleConfig` written by `EncodeMap`. -/
def exactRoleEvent : List WatchInput :=
  [.loopHead, .watchOpened,
    .deliver ⟨.added, .configMap "aws-auth" (encodeMap wireCodec [] [exactRole] [])⟩]

/-- Both backends on `exactRoleConfig`, at `exactRole`'s ARN. -/
theorem fileMapper_configMap_agree_exactRole :
    ∃ (fm : FileMapper) (w : Watcher), newFileMapper referenceLib exactRoleConfig = .ok fm ∧
      (∀ m ∈ exactRoleConfig.roleMappings, m.IsExact →
        referenceLib.canonicalize (referenceLib.toLower m.arn) = .ok (referenceLib.toLower m.arn)) ∧
      (∀ m ∈ exactRoleConfig.userMappings, m.IsExact →
        referenceLib.canonicalize (referenceLib.toLower m.arn) = .ok (referenceLib.toLower m.arn)) ∧
      Watcher.run referenceLib wireCodec Watcher.init exactRoleEvent = some w ∧
      lastInstall referenceLib wireCodec (delivered exactRoleEvent) = some (parseMap referenceLib
        wireCodec (encodeMap wireCodec exactRoleConfig.userMappings exactRoleConfig.roleMappings
          exactRoleConfig.autoMappedAWSAccounts)) ∧
      (GoMap.Order.entries w.store.roleArnLikes).1 = (GoMap.Order.entries fm.roleArnLikeMap).1 ∧
      (GoMap.Order.entries w.store.userArnLikes).1 = (GoMap.Order.entries fm.userArnLikeMap).1 ∧
      (∀ e, fm.map referenceLib (GoMap.Order.entries _) (GoMap.Order.entries _) exactRole.arn ≠
        .error (.arnLike e)) ∧
      ConfigMapMapper.map referenceLib w.store (GoMap.Order.entries _) (GoMap.Order.entries _)
          exactRole.arn =
        fm.map referenceLib (GoMap.Order.entries _) (GoMap.Order.entries _) exactRole.arn := by
  have hne : ∀ e, FileMapper.map referenceLib
      ⟨exactTable referenceLib [exactRole], ∅, ∅, ∅, GoMap.build id (fun _ => true) []⟩
      (GoMap.Order.entries _) (GoMap.Order.entries _) exactRole.arn ≠ .error (.arnLike e) :=
    fun e h => by
      have hv : FileMapper.map referenceLib
          ⟨exactTable referenceLib [exactRole], ∅, ∅, ∅, GoMap.build id (fun _ => true) []⟩
          (GoMap.Order.entries _) (GoMap.Order.entries _) exactRole.arn =
            .ok ⟨exactRole.arn, "x", []⟩ := rfl
      rw [hv] at h
      cases h
  exact ⟨_, _, rfl, by decide, by decide, rfl, rfl, rfl, rfl, hne,
    fileMapper_configMap_agree referenceLib wireCodec exactRoleConfig _ rfl (by decide) (by decide)
      exactRoleEvent _ rfl rfl _ _ _ _ rfl rfl exactRole.arn hne⟩

end IamAuthenticator
