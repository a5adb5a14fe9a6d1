import IamAuthenticator.Config.Mapping

/-!
# The static file mapper

`pkg/mapper/file/mapper.go`: the load-once backend. `NewFileMapper` runs one
`switch` per record and fails on the first record it rejects; otherwise it
fills four tables, exact ARNs keyed by their canonical lower-cased form and
patterns keyed by the pattern string. `Map` lower-cases the ARN, looks it up in
the exact role table and then the exact user table, and only then scans the
role patterns and the user patterns, in the runtime's iteration order.

The construction is one fold per record list, `addMapping` being its step. What
the fold does is said once (`foldlM_addMapping_ok`, `foldlM_addMapping_error`):
it fails iff some record is not `Accepted` (fails `Validate`, or is exact and
its lower-cased ARN does not canonicalize), and otherwise the exact table is the
`GoMap.build` of the exact records and the pattern table that of the pattern
records.

**Resolution** (`newFileMapper_map_spec`): construction fails exactly on a
configuration with a rejected record, and a built mapper's `Map(a)`, in every
iteration order, has an outcome `FileMapAllowed` describes from the
configuration alone: the last exact role record for `ToLower(a)`, else the last
exact user record, else a matching role pattern (the last record for its
pattern), else a matching user pattern, else `ErrNotMapped`; and an `ArnLike`
error only when no exact record matches and some pattern's comparison with
`ToLower(a)` fails.
-/

namespace IamAuthenticator

/-- `file.FileMapper`. -/
structure FileMapper where
  lowercaseRoleMap : GoMap RoleMapping
  roleArnLikeMap : GoMap RoleMapping
  lowercaseUserMap : GoMap UserMapping
  userArnLikeMap : GoMap UserMapping
  accountMap : GoMap Bool

namespace FileMapper

variable (lib : Lib) {p : Principal}

/-- One iteration of a `NewFileMapper` loop on the exact and pattern tables of
one principal kind. -/
def addMapping (t : SwitchText) (tables : GoMap (Mapping p) × GoMap (Mapping p))
    (m : Mapping p) : Except String (GoMap (Mapping p) × GoMap (Mapping p)) :=
  match m.supplied with
  | .neither => .error t.neither
  | .both => .error t.both
  | .exact =>
    match lib.canonicalize (lib.toLower m.arn) with
    | .error e => .error ("error canonicalizing ARN: " ++ e)
    | .ok c => .ok (tables.1.set c m, tables.2)
  | .pattern =>
    match lib.arnLike m.arnLike p.shape with
    | .error e => .error e
    | .ok true => .ok (tables.1, tables.2.set m.arnLike m)
    | .ok false => .error (t.notMatched m.arnLike)

/-- The loop over `cfg.RoleMappings`. -/
def addRoleMapping : GoMap RoleMapping × GoMap RoleMapping → RoleMapping →
    Except String (GoMap RoleMapping × GoMap RoleMapping) :=
  addMapping lib
    ⟨"One of rolearn or rolearnLike must be supplied",
     "Only of rolearn or rolearnLike can be supplied",
     fun s => "RoleARNLike \x27" ++ s ++ "\x27 did not match an ARN for an IAM Role"⟩

/-- The loop over `cfg.UserMappings`. -/
def addUserMapping : GoMap UserMapping × GoMap UserMapping → UserMapping →
    Except String (GoMap UserMapping × GoMap UserMapping) :=
  addMapping lib
    ⟨"One of userarn or userarnLike must be supplied",
     "Only one of userarn or userarnLike can be supplied",
     fun s => "UserARNLike \x27" ++ s ++ "\x27 did not match an ARN for an IAM User"⟩

end FileMapper

/-- `NewFileMapper`. -/
def newFileMapper (lib : Lib) (cfg : Config) : Except String FileMapper := do
  let (roles, roleLikes) ← cfg.roleMappings.foldlM (FileMapper.addRoleMapping lib) (∅, ∅)
  let (users, userLikes) ← cfg.userMappings.foldlM (FileMapper.addUserMapping lib) (∅, ∅)
  pure { lowercaseRoleMap := roles, roleArnLikeMap := roleLikes,
         lowercaseUserMap := users, userArnLikeMap := userLikes,
         accountMap := GoMap.build id (fun _ => true) cfg.autoMappedAWSAccounts }

namespace FileMapper

/-- `FileMapper.Map`, with `ro` and `uo` the orders in which the two pattern
loops visit `roleArnLikeMap` and `userArnLikeMap`. -/
def map (lib : Lib) (fm : FileMapper) (ro : fm.roleArnLikeMap.Order)
    (uo : fm.userArnLikeMap.Order) (canonicalARN : String) : Except MapError IdentityMapping :=
  let arn := lib.toLower canonicalARN
  match fm.lowercaseRoleMap.get? arn with
  | some m => .ok (m.identity arn)
  | none =>
    match fm.lowercaseUserMap.get? arn with
    | some m => .ok (m.identity arn)
    | none =>
      match firstArnLike lib arn ro.1 with
      | .error e => .error (.arnLike e)
      | .ok (some m) => .ok (m.identity arn)
      | .ok none =>
        match firstArnLike lib arn uo.1 with
        | .error e => .error (.arnLike e)
        | .ok (some m) => .ok (m.identity arn)
        | .ok none => .error .notMapped

/-- `FileMapper.IsAccountAllowed`. -/
def isAccountAllowed (fm : FileMapper) (accountID : String) : Bool :=
  (fm.accountMap.get? accountID).getD false

end FileMapper

/-! ### What the construction loops do -/

namespace Mapping

variable (lib : Lib) {p : Principal}

/-- The canonical lower-cased ARN of an exact record, when it has one. -/
def canonical (m : Mapping p) : Option String :=
  (lib.canonicalize (lib.toLower m.arn)).toOption

/-- The key `NewFileMapper` files an accepted exact record under. -/
def canonKey (m : Mapping p) : String := (m.canonical lib).getD ""

/-- A record `NewFileMapper` accepts: well-formed, and canonicalizable when
exact. -/
def Accepted (m : Mapping p) : Prop :=
  m.WellFormed lib ∧ (m.IsExact → (m.canonical lib).isSome)

end Mapping

namespace FileMapper

variable {lib : Lib} {p : Principal} {t : SwitchText}

/-- One loop step on an accepted record files it in the table of its kind. -/
theorem addMapping_of_accepted {m : Mapping p} (hm : m.Accepted lib)
    (tables : GoMap (Mapping p) × GoMap (Mapping p)) :
    addMapping lib t tables m =
      .ok (if m.IsExact then tables.1.set (m.canonKey lib) m else tables.1,
           if m.IsPattern then tables.2.set m.arnLike m else tables.2) := by
  obtain ⟨hw | ⟨hpat, hshape⟩, hc⟩ := hm
  · have hs : m.supplied = .exact := Mapping.supplied_eq_exact.mpr hw
    obtain ⟨c, hc⟩ := Option.isSome_iff_exists.mp (hc hw)
    rw [Mapping.canonical, Except.toOption_eq_some] at hc
    simp [addMapping, hs, hc, hw, hw.not_isPattern, Mapping.canonKey, Mapping.canonical,
      Except.toOption]
  · have hs : m.supplied = .pattern := Mapping.supplied_eq_pattern.mpr hpat
    have hne : ¬ m.IsExact := fun h => h.not_isPattern hpat
    simp [addMapping, hs, hshape, hpat, hne]

/-- A loop step on a record that is not accepted fails. -/
theorem addMapping_of_not_accepted {m : Mapping p} (hm : ¬ m.Accepted lib)
    (tables : GoMap (Mapping p) × GoMap (Mapping p)) :
    ∃ e, addMapping lib t tables m = .error e := by
  unfold addMapping
  cases hs : m.supplied with
  | neither => exact ⟨_, rfl⟩
  | both => exact ⟨_, rfl⟩
  | exact =>
    have hw : m.IsExact := Mapping.supplied_eq_exact.mp hs
    cases hc : lib.canonicalize (lib.toLower m.arn) with
    | error e => exact ⟨_, rfl⟩
    | ok c =>
      exact absurd ⟨.inl hw, fun _ => by simp [Mapping.canonical, hc, Except.toOption]⟩ hm
  | pattern =>
    have hpat : m.IsPattern := Mapping.supplied_eq_pattern.mp hs
    have hne : ¬ m.IsExact := fun h => h.not_isPattern hpat
    cases hr : lib.arnLike m.arnLike p.shape with
    | error e => exact ⟨_, rfl⟩
    | ok b =>
      cases b
      · exact ⟨_, rfl⟩
      · exact absurd ⟨.inr ⟨hpat, hr⟩, fun h => absurd h hne⟩ hm

/-- The loop over a list of accepted records files each one in turn. -/
theorem foldlM_addMapping_ok {ms : List (Mapping p)} (hms : ∀ m ∈ ms, m.Accepted lib)
    (e l : GoMap (Mapping p)) :
    ms.foldlM (addMapping lib t) (e, l) =
      .ok ((ms.filter (·.IsExact)).foldl (fun t m => t.set (m.canonKey lib) m) e,
           (ms.filter (·.IsPattern)).foldl (fun t m => t.set m.arnLike m) l) := by
  induction ms generalizing e l with
  | nil => rfl
  | cons m ms ih =>
    have hm := hms m (List.mem_cons_self m ms)
    rw [List.foldlM_cons, addMapping_of_accepted hm]
    have hne : m.IsExact → ¬ m.IsPattern := Mapping.IsExact.not_isPattern
    by_cases hx : m.IsExact <;> by_cases hp : m.IsPattern <;>
      simp_all [List.filter_cons, ih (fun x hx => hms x (List.mem_cons_of_mem m hx))]

/-- The loop fails as soon as one record is not accepted. -/
theorem foldlM_addMapping_error {ms : List (Mapping p)} (hms : ∃ m ∈ ms, ¬ m.Accepted lib)
    (tables : GoMap (Mapping p) × GoMap (Mapping p)) :
    ∃ e, ms.foldlM (addMapping lib t) tables = .error e := by
  induction ms generalizing tables with
  | nil => simp at hms
  | cons m ms ih =>
    rw [List.foldlM_cons]
    by_cases hm : m.Accepted lib
    · rw [addMapping_of_accepted hm]
      exact ih (by simpa [hm] using hms) _
    · obtain ⟨e, he⟩ := addMapping_of_not_accepted (t := t) hm tables
      exact ⟨e, by rw [he]; rfl⟩

end FileMapper

/-! ### Construction -/

section Construction

variable {lib : Lib} {cfg : Config} {p : Principal}

/-- The exact table of a principal kind: accepted exact records under their
canonical ARN. -/
def exactTable (lib : Lib) (ms : List (Mapping p)) : GoMap (Mapping p) :=
  GoMap.build (·.canonKey lib) id (ms.filter (·.IsExact))

/-- The mapper a configuration of accepted records builds. -/
theorem newFileMapper_eq_ok (hr : ∀ m ∈ cfg.roleMappings, m.Accepted lib)
    (hu : ∀ m ∈ cfg.userMappings, m.Accepted lib) :
    newFileMapper lib cfg = .ok
      { lowercaseRoleMap := exactTable lib cfg.roleMappings,
        roleArnLikeMap := patternTable (cfg.roleMappings.filter (·.IsPattern)),
        lowercaseUserMap := exactTable lib cfg.userMappings,
        userArnLikeMap := patternTable (cfg.userMappings.filter (·.IsPattern)),
        accountMap := GoMap.build id (fun _ => true) cfg.autoMappedAWSAccounts } := by
  unfold newFileMapper FileMapper.addRoleMapping FileMapper.addUserMapping
  rw [FileMapper.foldlM_addMapping_ok hr, Except.ok_bind, FileMapper.foldlM_addMapping_ok hu]
  rfl

/-- A configuration with a record `NewFileMapper` rejects builds no mapper. -/
theorem newFileMapper_eq_error
    (h : (∃ m ∈ cfg.roleMappings, ¬ m.Accepted lib) ∨ (∃ m ∈ cfg.userMappings, ¬ m.Accepted lib)) :
    ∃ e, newFileMapper lib cfg = .error e := by
  unfold newFileMapper FileMapper.addRoleMapping FileMapper.addUserMapping
  by_cases hr : ∀ m ∈ cfg.roleMappings, m.Accepted lib
  · rw [FileMapper.foldlM_addMapping_ok hr, Except.ok_bind]
    obtain ⟨e, he⟩ := FileMapper.foldlM_addMapping_error
      (t := ⟨_, _, _⟩) (h.resolve_left (by simpa using hr)) (∅, ∅)
    exact ⟨e, by rw [he]; rfl⟩
  · push_neg at hr
    obtain ⟨e, he⟩ := FileMapper.foldlM_addMapping_error (t := ⟨_, _, _⟩) hr (∅, ∅)
    exact ⟨e, by rw [he]; rfl⟩

/-- A configuration `NewFileMapper` builds from has only accepted records. -/
theorem accepted_of_newFileMapper_eq_ok {fm : FileMapper} (h : newFileMapper lib cfg = .ok fm) :
    (∀ m ∈ cfg.roleMappings, m.Accepted lib) ∧ ∀ m ∈ cfg.userMappings, m.Accepted lib := by
  by_contra hall
  obtain ⟨e, he⟩ : ∃ e, newFileMapper lib cfg = .error e := newFileMapper_eq_error (by
    simpa only [not_and_or, not_forall, exists_prop] using hall)
  rw [he] at h; cases h

theorem Mapping.not_accepted_iff {m : Mapping p} (t : SwitchText) :
    ¬ m.Accepted lib ↔ validateWith lib t m ≠ .ok () ∨
      (m.arn ≠ "" ∧ ∃ e, lib.canonicalize (lib.toLower m.arn) = .error e) := by
  rw [ne_eq, validateWith_eq_ok_iff, Mapping.Accepted]
  cases hc : lib.canonicalize (lib.toLower m.arn) <;>
    simp [Mapping.canonical, hc, Except.toOption, Mapping.WellFormed, Mapping.IsExact,
      Mapping.IsPattern]
  tauto

end Construction

/-! ### Resolution -/

namespace Mapping

variable (lib : Lib) {p : Principal}

/-- The last exact record of `ms` whose lower-cased ARN canonicalizes to `c`. -/
def lastExact (ms : List (Mapping p)) (c : String) : Option (Mapping p) :=
  ms.reverse.find? (fun m => m.IsExact ∧ m.canonical lib = some c)

/-- `m` is the last pattern record of `ms` with its pattern string. -/
def LastPattern (ms : List (Mapping p)) (m : Mapping p) : Prop :=
  GoMap.lastWith Mapping.arnLike (ms.filter (·.IsPattern)) m.arnLike = some m

end Mapping

/-- No pattern record of `ms` matches `c`, and none fails to compare. -/
def NoPatternMatch (lib : Lib) {p : Principal} (ms : List (Mapping p)) (c : String) : Prop :=
  ∀ m ∈ ms, m.IsPattern → lib.arnLike c m.arnLike = .ok false

/-- The outcomes of `Map` on the lower-cased ARN `c`, for a mapper built from
`cfg`, read off the configuration: the resolution order exact role, exact user,
role pattern, user pattern, `ErrNotMapped`, with an `ArnLike` error possible
once the exact tables have missed. -/
def FileMapAllowed (lib : Lib) (cfg : Config) (c : String)
    (r : Except MapError IdentityMapping) : Prop :=
  match Mapping.lastExact lib cfg.roleMappings c, Mapping.lastExact lib cfg.userMappings c with
  | some m, _ => r = .ok (m.identity c)
  | none, some m => r = .ok (m.identity c)
  | none, none =>
    (∃ m, Mapping.LastPattern cfg.roleMappings m ∧ lib.arnLike c m.arnLike = .ok true ∧
      r = .ok (m.identity c)) ∨
    (NoPatternMatch lib cfg.roleMappings c ∧
      ∃ m, Mapping.LastPattern cfg.userMappings m ∧ lib.arnLike c m.arnLike = .ok true ∧
        r = .ok (m.identity c)) ∨
    (NoPatternMatch lib cfg.roleMappings c ∧ NoPatternMatch lib cfg.userMappings c ∧
      r = .error .notMapped) ∨
    (∃ e, ((∃ m ∈ cfg.roleMappings, m.IsPattern ∧ lib.arnLike c m.arnLike = .error e) ∨
      (∃ m ∈ cfg.userMappings, m.IsPattern ∧ lib.arnLike c m.arnLike = .error e)) ∧
      r = .error (.arnLike e))

section Resolution

variable {lib : Lib} {p : Principal}

/-- A lookup in an exact table finds the last exact record with that canonical
ARN. -/
theorem get?_exactTable {ms : List (Mapping p)} (hms : ∀ m ∈ ms, m.Accepted lib) (c : String) :
    (exactTable lib ms).get? c = Mapping.lastExact lib ms c := by
  rw [exactTable, GoMap.get?_build, Option.map_id, id_eq, GoMap.lastWith, ← List.filter_reverse,
    List.find?_filter, Mapping.lastExact]
  refine GoMap.find?_congr fun m hm => ?_
  by_cases hx : m.IsExact
  · obtain ⟨k, hk⟩ := Option.isSome_iff_exists.mp ((hms m (List.mem_reverse.mp hm)).2 hx)
    simp [hx, hk, Mapping.canonKey]
  · simp [hx]

/-- When every exact record's lower-cased ARN is already canonical, the exact
table is keyed by the lower-cased ARNs alone. -/
theorem exactTable_get?_of_canonical {ms : List (Mapping p)}
    (hc : ∀ m ∈ ms, m.IsExact → lib.canonicalize (lib.toLower m.arn) = .ok (lib.toLower m.arn))
    (c : String) :
    (exactTable lib ms).get? c =
      (GoMap.build (fun m => lib.toLower m.arn) id (ms.filter (·.IsExact))).get? c := by
  simp only [exactTable, GoMap.get?_build]
  rw [GoMap.lastWith_congr fun m hm => ?_]
  have hm' := List.mem_filter.1 hm
  simp [Mapping.canonKey, Mapping.canonical, hc m hm'.1 (by simpa using hm'.2), Except.toOption]

/-- A scan of a pattern table of `ms.filter IsPattern` in any order. -/
theorem firstArnLike_patterns (lib : Lib) {ms : List (Mapping p)} {c : String}
    (o : (patternTable (ms.filter (·.IsPattern))).Order) :
    (∀ m, firstArnLike lib c o.1 = .ok (some m) →
      m.LastPattern ms ∧ lib.arnLike c m.arnLike = .ok true) ∧
    (firstArnLike lib c o.1 = .ok none → NoPatternMatch lib ms c) ∧
    (∀ e, firstArnLike lib c o.1 = .error e →
      ∃ m ∈ ms, m.IsPattern ∧ lib.arnLike c m.arnLike = .error e) := by
  refine ⟨fun m h => firstArnLike_patternTable_some o h, fun h m hm hp => ?_, fun e h => ?_⟩
  · exact firstArnLike_patternTable_none o h m (List.mem_filter.mpr ⟨hm, by simpa using hp⟩)
  · obtain ⟨m, hm, he⟩ := firstArnLike_patternTable_error o h
    obtain ⟨hm, hp⟩ := List.mem_filter.mp hm
    exact ⟨m, hm, by simpa using hp, he⟩

end Resolution

/-- **Static resolution.** `NewFileMapper` fails exactly on a configuration
with a record that fails `Validate` or whose exact ARN, lower-cased, does not
canonicalize; and every `Map(a)` of the mapper it builds, in every iteration
order of the pattern tables, has an outcome `FileMapAllowed` permits. -/
theorem newFileMapper_map_spec (lib : Lib) (cfg : Config) :
    ((∃ e, newFileMapper lib cfg = .error e) ↔
      (∃ m ∈ cfg.roleMappings, RoleMapping.validate lib m ≠ .ok () ∨
          (m.arn ≠ "" ∧ ∃ e, lib.canonicalize (lib.toLower m.arn) = .error e)) ∨
      (∃ m ∈ cfg.userMappings, UserMapping.validate lib m ≠ .ok () ∨
          (m.arn ≠ "" ∧ ∃ e, lib.canonicalize (lib.toLower m.arn) = .error e))) ∧
    ∀ fm, newFileMapper lib cfg = .ok fm →
      ∀ (ro : fm.roleArnLikeMap.Order) (uo : fm.userArnLikeMap.Order) (a : String),
        FileMapAllowed lib cfg (lib.toLower a) (fm.map lib ro uo a) := by
  have hr : (∃ m ∈ cfg.roleMappings, ¬ m.Accepted lib) ↔ ∃ m ∈ cfg.roleMappings,
      RoleMapping.validate lib m ≠ .ok () ∨
        (m.arn ≠ "" ∧ ∃ e, lib.canonicalize (lib.toLower m.arn) = .error e) :=
    exists_congr fun m => and_congr_right fun _ => Mapping.not_accepted_iff _
  have hu : (∃ m ∈ cfg.userMappings, ¬ m.Accepted lib) ↔ ∃ m ∈ cfg.userMappings,
      UserMapping.validate lib m ≠ .ok () ∨
        (m.arn ≠ "" ∧ ∃ e, lib.canonicalize (lib.toLower m.arn) = .error e) :=
    exists_congr fun m => and_congr_right fun _ => Mapping.not_accepted_iff _
  refine ⟨⟨fun ⟨e, he⟩ => ?_, fun h => newFileMapper_eq_error (by rwa [hr, hu])⟩, ?_⟩
  · rw [← hr, ← hu]
    by_contra hne
    push_neg at hne
    rw [newFileMapper_eq_ok hne.1 hne.2] at he
    cases he
  intro fm hfm ro uo a
  have hall := accepted_of_newFileMapper_eq_ok hfm
  rw [newFileMapper_eq_ok hall.1 hall.2] at hfm
  cases hfm
  have hR := firstArnLike_patterns lib (c := lib.toLower a) ro
  have hU := firstArnLike_patterns lib (c := lib.toLower a) uo
  simp only [FileMapper.map, get?_exactTable hall.1, get?_exactTable hall.2, FileMapAllowed]
  cases Mapping.lastExact lib cfg.roleMappings (lib.toLower a) with
  | some m => rfl
  | none =>
    cases Mapping.lastExact lib cfg.userMappings (lib.toLower a) with
    | some m => rfl
    | none =>
      cases h₁ : firstArnLike lib (lib.toLower a) ro.1 with
      | error e => exact .inr (.inr (.inr ⟨e, .inl (hR.2.2 e h₁), rfl⟩))
      | ok r =>
        cases r with
        | some m => exact .inl ⟨m, hR.1 m h₁ |>.1, hR.1 m h₁ |>.2, rfl⟩
        | none =>
          have hnR := hR.2.1 h₁
          cases h₂ : firstArnLike lib (lib.toLower a) uo.1 with
          | error e => exact .inr (.inr (.inr ⟨e, .inr (hU.2.2 e h₂), rfl⟩))
          | ok r =>
            cases r with
            | some m => exact .inr (.inl ⟨hnR, m, hU.1 m h₂ |>.1, hU.1 m h₂ |>.2, rfl⟩)
            | none => exact .inr (.inr (.inl ⟨hnR, hU.2.1 h₂, rfl⟩))

/-- **Accounts.** On a mapper `NewFileMapper` built, `IsAccountAllowed` holds
exactly of the configuration's `AutoMappedAWSAccounts`. -/
theorem fileMapper_account_allowed (lib : Lib) (cfg : Config) (fm : FileMapper)
    (h : newFileMapper lib cfg = .ok fm) (accountID : String) :
    fm.isAccountAllowed accountID = decide (accountID ∈ cfg.autoMappedAWSAccounts) := by
  have hall := accepted_of_newFileMapper_eq_ok h
  rw [newFileMapper_eq_ok hall.1 hall.2] at h
  cases h
  rw [FileMapper.isAccountAllowed, ← GoMap.isSome_get?_build_id (fun _ => true), GoMap.get?_build]
  cases GoMap.lastWith id cfg.autoMappedAWSAccounts accountID <;> rfl

/-- A configuration that only maps account `1`: account `1` is allowed, account
`2` is not. -/
theorem fileMapper_account_allowed_listed :
    newFileMapper referenceLib ⟨[], [], ["1"]⟩ =
      .ok ⟨∅, ∅, ∅, ∅, GoMap.build id (fun _ => true) ["1"]⟩ ∧
    FileMapper.isAccountAllowed ⟨∅, ∅, ∅, ∅, GoMap.build id (fun _ => true) ["1"]⟩ "1" =
      decide ("1" ∈ ["1"]) ∧
    FileMapper.isAccountAllowed ⟨∅, ∅, ∅, ∅, GoMap.build id (fun _ => true) ["1"]⟩ "2" =
      decide ("2" ∈ ["1"]) :=
  ⟨rfl, fileMapper_account_allowed referenceLib ⟨[], [], ["1"]⟩ _ rfl "1",
    fileMapper_account_allowed referenceLib ⟨[], [], ["1"]⟩ _ rfl "2"⟩

end IamAuthenticator
