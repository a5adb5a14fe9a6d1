import IamAuthenticator.ConfigMap.ParseMap

/-!
# The live mapping store

`MapStore` of `pkg/mapper/configmap/configmap.go` and the `ConfigMapMapper`
of `pkg/mapper/configmap/mapper.go` that resolves through it.

`saveMap` replaces all five tables at once under the write lock: the store it
leaves does not depend on the tables it found, so the model's `saveMap` builds
a fresh `MapStore`. Exact records are keyed by their lower-cased ARN, pattern
records by their pattern, accounts by themselves.

Each of the four lookups takes and releases the read lock on its own, so a
`saveMap` can land between two lookups of one `Map` call. `mapAcross` is
`Map` with the store each lookup reads made explicit; `ConfigMapMapper.map` is
the call on a store that no `saveMap` interrupts. A lookup's error is never
returned: `Map` moves to the next table on any error, the four typed misses and
`ArnLike` errors alike (the source's `TODO: Check for non Role/UserNotFound
errors`).

`mapLookup` is one of the four lookups with what `Map` does with its outcome:
return an identity, or go on to the next table. `mapAcross_eq_lookups` says
that a call is its four lookups in turn, each on the store it read.
-/

namespace IamAuthenticator

/-- The typed failures of the store's lookups. -/
inductive StoreError
  | userNotFound
  | userARNLikeNotMatched
  | roleNotFound
  | roleARNLikeNotMatched
  | arnLike (err : String)
  deriving DecidableEq, Repr

/-- `MapStore`, with the tables `saveMap` replaces. -/
structure MapStore where
  users : GoMap UserMapping
  userArnLikes : GoMap UserMapping
  roles : GoMap RoleMapping
  roleArnLikes : GoMap RoleMapping
  awsAccounts : GoMap Unit

namespace MapStore

/-- The store `New` returns: nil maps, which read as empty. -/
def empty : MapStore := ⟨∅, ∅, ∅, ∅, ∅⟩

/-- `saveMap`: five fresh tables built from the lists, replacing the old ones. -/
def saveMap (lib : Lib) (userMappings userArnLikeMappings : List UserMapping)
    (roleMappings roleArnLikeMappings : List RoleMapping) (awsAccounts : List String) :
    MapStore where
  users := GoMap.build (fun u => lib.toLower u.arn) id userMappings
  userArnLikes := patternTable userArnLikeMappings
  roles := GoMap.build (fun r => lib.toLower r.arn) id roleMappings
  roleArnLikes := patternTable roleArnLikeMappings
  awsAccounts := GoMap.build id (fun _ => ()) awsAccounts

@[simp] theorem saveMap_users (lib : Lib) (u ul : List UserMapping) (r rl : List RoleMapping)
    (as : List String) :
    (saveMap lib u ul r rl as).users = GoMap.build (fun m => lib.toLower m.arn) id u := rfl

@[simp] theorem saveMap_roles (lib : Lib) (u ul : List UserMapping) (r rl : List RoleMapping)
    (as : List String) :
    (saveMap lib u ul r rl as).roles = GoMap.build (fun m => lib.toLower m.arn) id r := rfl

/-- The store after `saveMap` of what `ParseMap` returned. -/
def ofParsed (lib : Lib) (p : Parsed) : MapStore :=
  saveMap lib p.userMappings p.userArnLikeMappings p.roleMappings p.roleArnLikeMappings
    p.awsAccounts

variable {p : Principal}

/-- The body of `UserMapping` and `RoleMapping`: a direct lookup. -/
def exactLookup (t : GoMap (Mapping p)) (notFound : StoreError) (arn : String) :
    Except StoreError (Mapping p) :=
  match t.get? arn with
  | none => .error notFound
  | some m => .ok m

/-- The body of `UserArnLikeMapping` and `RoleArnLikeMapping`: a scan of the
pattern table in the order `o`. -/
def patternLookup (lib : Lib) {t : GoMap (Mapping p)} (o : t.Order) (notMatched : StoreError)
    (arn : String) : Except StoreError (Mapping p) :=
  match firstArnLike lib arn o.1 with
  | .error e => .error (.arnLike e)
  | .ok (some m) => .ok m
  | .ok none => .error notMatched

/-- `MapStore.UserMapping`. -/
def userMapping (ms : MapStore) (arn : String) : Except StoreError UserMapping :=
  exactLookup ms.users .userNotFound arn

/-- `MapStore.UserArnLikeMapping`. -/
def userArnLikeMapping (lib : Lib) (ms : MapStore) (o : ms.userArnLikes.Order) (arn : String) :
    Except StoreError UserMapping :=
  patternLookup lib o .userARNLikeNotMatched arn

/-- `MapStore.RoleMapping`. -/
def roleMapping (ms : MapStore) (arn : String) : Except StoreError RoleMapping :=
  exactLookup ms.roles .roleNotFound arn

/-- `MapStore.RoleArnLikeMapping`. -/
def roleArnLikeMapping (lib : Lib) (ms : MapStore) (o : ms.roleArnLikes.Order) (arn : String) :
    Except StoreError RoleMapping :=
  patternLookup lib o .roleARNLikeNotMatched arn

/-- `MapStore.AWSAccount`. -/
def awsAccount (ms : MapStore) (id : String) : Bool := (ms.awsAccounts.get? id).isSome

end MapStore

/-- `ConfigMapMapper.Map` when its four lookups read the stores `s₁`, `s₂`,
`s₃` and `s₄`, the pattern tables in the orders `ro` and `uo`. -/
def mapAcross (lib : Lib) (s₁ s₂ s₃ s₄ : MapStore) (ro : s₃.roleArnLikes.Order)
    (uo : s₄.userArnLikes.Order) (canonicalARN : String) : Except MapError IdentityMapping :=
  let arn := lib.toLower canonicalARN
  match s₁.roleMapping arn with
  | .ok rm => .ok (rm.identity arn)
  | .error _ =>
    match s₂.userMapping arn with
    | .ok um => .ok (um.identity arn)
    | .error _ =>
      match s₃.roleArnLikeMapping lib ro arn with
      | .ok ralm => .ok (ralm.identity arn)
      | .error _ =>
        match s₄.userArnLikeMapping lib uo arn with
        | .ok ualm => .ok (ualm.identity arn)
        | .error _ => .error .notMapped

/-- Lookup `k` of `Map` (exact role, exact user, role pattern, user pattern) on
the store `g`, for the lower-cased ARN `arn`: `some r` when `Map` returns `r`
there, `none` when it goes on to the next lookup. The pattern tables are read
in the orders `ordR` and `ordU` give them. -/
def mapLookup (lib : Lib) (ordR : ∀ t : GoMap RoleMapping, t.Order)
    (ordU : ∀ t : GoMap UserMapping, t.Order) (arn : String) (g : MapStore) :
    Nat → Option (Except MapError IdentityMapping)
  | 0 => (g.roleMapping arn).toOption.map fun m => .ok (m.identity arn)
  | 1 => (g.userMapping arn).toOption.map fun m => .ok (m.identity arn)
  | 2 => (g.roleArnLikeMapping lib (ordR _) arn).toOption.map fun m => .ok (m.identity arn)
  | _ => some ((g.userArnLikeMapping lib (ordU _) arn).toOption.elim (.error .notMapped)
      fun m => .ok (m.identity arn))

theorem mapLookup_isSome_of_three_le (lib : Lib) (ordR : ∀ t : GoMap RoleMapping, t.Order)
    (ordU : ∀ t : GoMap UserMapping, t.Order) (arn : String) (g : MapStore) {k : Nat}
    (hk : 3 ≤ k) : (mapLookup lib ordR ordU arn g k).isSome := by
  match k, hk with
  | k + 3, _ => rfl

/-- A `Map` call is its four lookups in turn, each on the store it read. -/
theorem mapAcross_eq_lookups (lib : Lib) (ordR : ∀ t : GoMap RoleMapping, t.Order)
    (ordU : ∀ t : GoMap UserMapping, t.Order) (s₁ s₂ s₃ s₄ : MapStore) (a : String) :
    mapAcross lib s₁ s₂ s₃ s₄ (ordR _) (ordU _) a =
      let L := mapLookup lib ordR ordU (lib.toLower a)
      (L s₁ 0).getD ((L s₂ 1).getD ((L s₃ 2).getD ((L s₄ 3).getD (.error .notMapped)))) := by
  simp only [mapAcross, mapLookup]
  cases s₁.roleMapping (lib.toLower a) <;> cases s₂.userMapping (lib.toLower a) <;>
    cases s₃.roleArnLikeMapping lib (ordR _) (lib.toLower a) <;>
    cases s₄.userArnLikeMapping lib (ordU _) (lib.toLower a) <;> rfl

/-- `ConfigMapMapper.Map` on a store no `saveMap` interrupts. -/
def ConfigMapMapper.map (lib : Lib) (ms : MapStore) (ro : ms.roleArnLikes.Order)
    (uo : ms.userArnLikes.Order) (canonicalARN : String) : Except MapError IdentityMapping :=
  mapAcross lib ms ms ms ms ro uo canonicalARN

/-- `ConfigMapMapper.IsAccountAllowed`. -/
def ConfigMapMapper.isAccountAllowed (ms : MapStore) (accountID : String) : Bool :=
  ms.awsAccount accountID

/-- `IsAccountAllowed` on the store `saveMap` built: the account is one of the
list. -/
theorem isAccountAllowed_saveMap (lib : Lib) (u ul : List UserMapping) (r rl : List RoleMapping)
    (as : List String) (accountID : String) :
    ConfigMapMapper.isAccountAllowed (MapStore.saveMap lib u ul r rl as) accountID =
      decide (accountID ∈ as) :=
  GoMap.isSome_get?_build_id _ as accountID

/-! ### Resolution on a saved store -/

/-- A scan of a pattern table returns no record: no pattern of `ms` matches
`c`, or comparing with one of them fails (`Map` reads both as a miss). -/
def ScanMisses (lib : Lib) {p : Principal} (ms : List (Mapping p)) (c : String) : Prop :=
  (∀ m ∈ ms, lib.arnLike c m.arnLike = .ok false) ∨ ∃ m ∈ ms, ∃ e, lib.arnLike c m.arnLike = .error e

/-- The outcomes of `ConfigMapMapper.Map` on the lower-cased ARN `c`, for the
store `saveMap` built from the lists, read off the lists: the last exact role
record with that lower-cased ARN, else the last such user record, else a
matching role pattern (the last record of its pattern), else a matching user
pattern, else `ErrNotMapped`. -/
def LiveMapAllowed (lib : Lib) (users userArnLikes : List UserMapping)
    (roles roleArnLikes : List RoleMapping) (c : String) (r : Except MapError IdentityMapping) :
    Prop :=
  match GoMap.lastWith (fun m => lib.toLower m.arn) roles c,
    GoMap.lastWith (fun m => lib.toLower m.arn) users c with
  | some m, _ => r = .ok (m.identity c)
  | none, some m => r = .ok (m.identity c)
  | none, none =>
    (∃ m, GoMap.lastWith Mapping.arnLike roleArnLikes m.arnLike = some m ∧
      lib.arnLike c m.arnLike = .ok true ∧ r = .ok (m.identity c)) ∨
    (ScanMisses lib roleArnLikes c ∧ ∃ m, GoMap.lastWith Mapping.arnLike userArnLikes m.arnLike = some m ∧
      lib.arnLike c m.arnLike = .ok true ∧ r = .ok (m.identity c)) ∨
    (ScanMisses lib roleArnLikes c ∧ ScanMisses lib userArnLikes c ∧ r = .error .notMapped)

/-- A pattern lookup on a table built from `ms`: a record that is last for its
pattern and matches, or a miss. -/
theorem patternLookup_patternTable (lib : Lib) {p : Principal} {ms : List (Mapping p)}
    (o : (patternTable ms).Order) (notMatched : StoreError) (c : String) :
    (∃ m, MapStore.patternLookup lib o notMatched c = .ok m ∧
      GoMap.lastWith Mapping.arnLike ms m.arnLike = some m ∧ lib.arnLike c m.arnLike = .ok true) ∨
    ((∃ e, MapStore.patternLookup lib o notMatched c = .error e) ∧ ScanMisses lib ms c) := by
  unfold MapStore.patternLookup
  cases h : firstArnLike lib c o.1 with
  | error e =>
    obtain ⟨m, hm, he⟩ := firstArnLike_patternTable_error o h
    exact .inr ⟨⟨_, rfl⟩, .inr ⟨m, hm, e, he⟩⟩
  | ok r =>
    cases r with
    | some m => exact .inl ⟨m, rfl, firstArnLike_patternTable_some o h⟩
    | none => exact .inr ⟨⟨_, rfl⟩, .inl (firstArnLike_patternTable_none o h)⟩

/-- **Resolution on a saved store.** On the store `saveMap` builds from any
lists, `ConfigMapMapper.Map`, in every iteration order of the pattern tables,
has an outcome `LiveMapAllowed` permits. -/
theorem configMapMapper_map_saveMap (lib : Lib) (users userArnLikes : List UserMapping)
    (roles roleArnLikes : List RoleMapping) (awsAccounts : List String)
    (ro : (MapStore.saveMap lib users userArnLikes roles roleArnLikes awsAccounts).roleArnLikes.Order)
    (uo : (MapStore.saveMap lib users userArnLikes roles roleArnLikes awsAccounts).userArnLikes.Order)
    (a : String) :
    LiveMapAllowed lib users userArnLikes roles roleArnLikes (lib.toLower a)
      (ConfigMapMapper.map lib (MapStore.saveMap lib users userArnLikes roles roleArnLikes awsAccounts)
        ro uo a) := by
  simp only [ConfigMapMapper.map, mapAcross, MapStore.roleMapping, MapStore.userMapping,
    MapStore.roleArnLikeMapping, MapStore.userArnLikeMapping, MapStore.exactLookup,
    MapStore.saveMap_roles, MapStore.saveMap_users, GoMap.get?_build, LiveMapAllowed]
  cases GoMap.lastWith (fun m => lib.toLower m.arn) roles (lib.toLower a) with
  | some m => rfl
  | none =>
    cases GoMap.lastWith (fun m => lib.toLower m.arn) users (lib.toLower a) with
    | some m => rfl
    | none =>
      rcases patternLookup_patternTable lib ro .roleARNLikeNotMatched (lib.toLower a) with
        ⟨m, hm, hlast, hmatch⟩ | ⟨⟨e, he⟩, hR⟩
      · simp only [Option.map_none', hm]
        exact .inl ⟨m, hlast, hmatch, rfl⟩
      · rcases patternLookup_patternTable lib uo .userARNLikeNotMatched (lib.toLower a) with
          ⟨m, hm, hlast, hmatch⟩ | ⟨⟨e', he'⟩, hU⟩
        · simp only [Option.map_none', he, hm]
          exact .inr (.inl ⟨hR, m, hlast, hmatch, rfl⟩)
        · simp only [Option.map_none', he, he']
          exact .inr (.inr ⟨hR, hU, trivial⟩)

/-- `ConfigMapMapper.Map` on the store the watcher installs for the document
of `parseMap_keeps_invalid_pattern` resolves a role ARN through the user
record that fails `UserMapping.Validate`. -/
theorem configMapMapper_resolves_invalid_pattern :
    UserMapping.validate referenceLib roleShapedUser ≠ .ok () ∧
    ConfigMapMapper.map referenceLib
      (MapStore.ofParsed referenceLib
        (parseMap referenceLib wireCodec (encodeMap wireCodec [roleShapedUser] [] [])))
      (GoMap.Order.entries _) (GoMap.Order.entries _) "arn:aws:iam::1:role/x" =
      .ok ⟨"arn:aws:iam::1:role/x", "bob", []⟩ := by
  decide

end IamAuthenticator
