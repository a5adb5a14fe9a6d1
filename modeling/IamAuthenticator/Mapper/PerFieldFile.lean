import IamAuthenticator.Mapper.File

/-!
# The file mapper that checks each field on its own

A third `FileMapper` of the repository, the second one of the unnamed
`part_001`. It has the four tables of the file mapper of `pkg/mapper/file`, and
the same `Map` and `IsAccountAllowed`, so the model reuses `FileMapper`,
`FileMapper.map` and `FileMapper.isAccountAllowed` for it. Its `NewFileMapper`
differs: instead of one `switch` over the four cases of a record, it tests the
two identifying fields one after the other. It rejects a record with neither
field, files an exact ARN under its canonical lower-cased form, and files a
pattern after its shape check. A record with both fields is not rejected; it goes
into both tables. Its error text for a record with neither field also differs
(`roleARN` for `rolearn`). It lives in the namespace `PerField`.

What it builds is said once (`perField_newFileMapper_spec`), and the current
constructor refines it (`perField_newFileMapper_refines`): they build the same
mapper from every configuration the current one accepts, and `part_001`'s
accepts nothing more unless some record supplies both fields.
-/

namespace IamAuthenticator

namespace PerField

variable (lib : Lib) {p : Principal}

/-- One iteration of a `NewFileMapper` loop of `part_001`: reject a record with
neither field (`neither` is the loop's text), then file the exact ARN under
its canonical lower-cased form, then file the pattern after its shape check
(`notMatched` gives the loop's text). -/
def addMapping (neither : String) (notMatched : String → String)
    (tables : GoMap (Mapping p) × GoMap (Mapping p)) (m : Mapping p) :
    Except String (GoMap (Mapping p) × GoMap (Mapping p)) :=
  if m.arn = "" ∧ m.arnLike = "" then .error neither else do
    let exact ← if m.arn ≠ "" then
        match lib.canonicalize (lib.toLower m.arn) with
        | .error e => .error ("error canonicalizing ARN: " ++ e)
        | .ok c => .ok (tables.1.set c m)
      else .ok tables.1
    let patterns ← if m.arnLike ≠ "" then
        match lib.arnLike m.arnLike p.shape with
        | .error e => .error e
        | .ok true => .ok (tables.2.set m.arnLike m)
        | .ok false => .error (notMatched m.arnLike)
      else .ok tables.2
    pure (exact, patterns)

/-- The loop over `cfg.RoleMappings`. -/
def addRoleMapping : GoMap RoleMapping × GoMap RoleMapping → RoleMapping →
    Except String (GoMap RoleMapping × GoMap RoleMapping) :=
  addMapping lib "One of roleARN or roleARNLike must be supplied"
    fun s => "RoleARNLike \x27" ++ s ++ "\x27 did not match an ARN for an IAM Role"

/-- The loop over `cfg.UserMappings`. -/
def addUserMapping : GoMap UserMapping × GoMap UserMapping → UserMapping →
    Except String (GoMap UserMapping × GoMap UserMapping) :=
  addMapping lib "One of userARN or userARNLike must be supplied"
    fun s => "UserARNLike \x27" ++ s ++ "\x27 did not match an ARN for an IAM User"

/-- `NewFileMapper` of `part_001`. -/
def newFileMapper (cfg : Config) : Except String FileMapper := do
  let (roles, roleLikes) ← cfg.roleMappings.foldlM (addRoleMapping lib) (∅, ∅)
  let (users, userLikes) ← cfg.userMappings.foldlM (addUserMapping lib) (∅, ∅)
  pure { lowercaseRoleMap := roles, roleArnLikeMap := roleLikes,
         lowercaseUserMap := users, userArnLikeMap := userLikes,
         accountMap := GoMap.build id (fun _ => true) cfg.autoMappedAWSAccounts }

/-- A record the loops of `part_001` accept: it supplies a field, its ARN, if
any, canonicalizes once lower-cased, and its pattern, if any, passes the shape
check. -/
def Accepted (m : Mapping p) : Prop :=
  (m.arn ≠ "" ∨ m.arnLike ≠ "") ∧ (m.arn ≠ "" → (m.canonical lib).isSome) ∧
    (m.arnLike ≠ "" → lib.arnLike m.arnLike p.shape = .ok true)

variable {lib} {neither : String} {notMatched : String → String}

/-- One loop step on an accepted record files it in the table of each field it
supplies. -/
theorem addMapping_of_accepted {m : Mapping p} (hm : Accepted lib m)
    (tables : GoMap (Mapping p) × GoMap (Mapping p)) :
    addMapping lib neither notMatched tables m =
      .ok (if m.arn ≠ "" then tables.1.set (m.canonKey lib) m else tables.1,
           if m.arnLike ≠ "" then tables.2.set m.arnLike m else tables.2) := by
  obtain ⟨hsome, hc, hshape⟩ := hm
  by_cases ha : m.arn = ""
  · have hl : m.arnLike ≠ "" := hsome.resolve_left (not_not.2 ha)
    simp [addMapping, ha, hl, hshape hl]
  · obtain ⟨c, hc⟩ := Option.isSome_iff_exists.mp (hc ha)
    rw [Mapping.canonical, Except.toOption_eq_some] at hc
    by_cases hl : m.arnLike = "" <;>
      simp [addMapping, ha, hl, hc, hshape, Mapping.canonKey, Mapping.canonical, Except.toOption]

/-- A loop step succeeds only on an accepted record. -/
theorem accepted_of_addMapping_eq_ok {m : Mapping p} {tables r : GoMap (Mapping p) × GoMap (Mapping p)}
    (h : addMapping lib neither notMatched tables m = .ok r) : Accepted lib m := by
  unfold addMapping at h
  by_cases ha : m.arn = "" <;> by_cases hl : m.arnLike = "" <;>
    rcases hc : lib.canonicalize (lib.toLower m.arn) with e | c <;>
    rcases hs : lib.arnLike m.arnLike p.shape with e' | _ | _ <;>
    simp [ha, hl, hc, hs] at h <;>
    simp [Accepted, ha, hl, hc, hs, Mapping.canonical, Except.toOption]

/-- The loop over a list of accepted records files each one in turn. -/
theorem foldlM_addMapping_ok {ms : List (Mapping p)} (hms : ∀ m ∈ ms, Accepted lib m)
    (e l : GoMap (Mapping p)) :
    ms.foldlM (addMapping lib neither notMatched) (e, l) =
      .ok ((ms.filter (·.arn ≠ "")).foldl (fun t m => t.set (m.canonKey lib) m) e,
           (ms.filter (·.arnLike ≠ "")).foldl (fun t m => t.set m.arnLike m) l) := by
  induction ms generalizing e l with
  | nil => rfl
  | cons m ms ih =>
    rw [List.foldlM_cons, addMapping_of_accepted (hms m (List.mem_cons_self m ms))]
    by_cases ha : m.arn = "" <;> by_cases hl : m.arnLike = "" <;>
      simp [List.filter_cons, ha, hl, ih (fun x hx => hms x (List.mem_cons_of_mem m hx))]

theorem accepted_of_foldlM_eq_ok {ms : List (Mapping p)}
    {tables r : GoMap (Mapping p) × GoMap (Mapping p)}
    (h : ms.foldlM (addMapping lib neither notMatched) tables = .ok r) : ∀ m ∈ ms, Accepted lib m := by
  induction ms generalizing tables with
  | nil => simp
  | cons m ms ih =>
    obtain ⟨t, ht, hrest⟩ := Except.bind_eq_ok.1 (by simpa only [List.foldlM_cons] using h)
    exact List.forall_mem_cons.2 ⟨accepted_of_addMapping_eq_ok ht, ih hrest⟩

/-- The exact table of `part_001`: every record with an ARN, under its
canonical lower-cased ARN. -/
def exactTable (lib : Lib) (ms : List (Mapping p)) : GoMap (Mapping p) :=
  GoMap.build (·.canonKey lib) id (ms.filter (·.arn ≠ ""))

variable {cfg : Config}

/-- The mapper a configuration of accepted records builds. -/
theorem newFileMapper_eq_ok (hr : ∀ m ∈ cfg.roleMappings, Accepted lib m)
    (hu : ∀ m ∈ cfg.userMappings, Accepted lib m) :
    newFileMapper lib cfg = .ok
      { lowercaseRoleMap := exactTable lib cfg.roleMappings,
        roleArnLikeMap := patternTable (cfg.roleMappings.filter (·.arnLike ≠ "")),
        lowercaseUserMap := exactTable lib cfg.userMappings,
        userArnLikeMap := patternTable (cfg.userMappings.filter (·.arnLike ≠ "")),
        accountMap := GoMap.build id (fun _ => true) cfg.autoMappedAWSAccounts } := by
  unfold newFileMapper addRoleMapping addUserMapping
  rw [foldlM_addMapping_ok hr, Except.ok_bind, foldlM_addMapping_ok hu]
  rfl

theorem accepted_of_newFileMapper_eq_ok {fm : FileMapper} (h : newFileMapper lib cfg = .ok fm) :
    (∀ m ∈ cfg.roleMappings, Accepted lib m) ∧ ∀ m ∈ cfg.userMappings, Accepted lib m := by
  unfold newFileMapper at h
  obtain ⟨⟨r, rl⟩, hr, h⟩ := Except.bind_eq_ok.1 h
  obtain ⟨⟨u, ul⟩, hu, -⟩ := Except.bind_eq_ok.1 h
  exact ⟨accepted_of_foldlM_eq_ok hr, accepted_of_foldlM_eq_ok hu⟩

end PerField

theorem Mapping.Accepted.isExact_iff {lib : Lib} {p : Principal} {m : Mapping p}
    (hm : m.Accepted lib) : m.IsExact ↔ m.arn ≠ "" := by
  obtain ⟨hw | ⟨hpat, -⟩, -⟩ := hm
  · exact iff_of_true hw hw.1
  · exact iff_of_false (fun h => h.not_isPattern hpat) (not_not.2 hpat.1)

theorem Mapping.Accepted.isPattern_iff {lib : Lib} {p : Principal} {m : Mapping p}
    (hm : m.Accepted lib) : m.IsPattern ↔ m.arnLike ≠ "" := by
  obtain ⟨hw | ⟨hpat, -⟩, -⟩ := hm
  · exact iff_of_false hw.not_isPattern (not_not.2 hw.2)
  · exact iff_of_true hpat hpat.2

theorem Mapping.Accepted.perField {lib : Lib} {p : Principal} {m : Mapping p} (hm : m.Accepted lib) :
    PerField.Accepted lib m := by
  obtain ⟨hw | ⟨hpat, hshape⟩, hc⟩ := hm
  · exact ⟨.inl hw.1, fun _ => hc hw, fun h => absurd hw.2 h⟩
  · exact ⟨.inr hpat.2, fun h => absurd hpat.1 h, fun _ => hshape⟩

theorem PerField.Accepted.accepted {lib : Lib} {p : Principal} {m : Mapping p}
    (hm : PerField.Accepted lib m) (hb : m.arn = "" ∨ m.arnLike = "") : m.Accepted lib := by
  obtain ⟨hsome, hc, hshape⟩ := hm
  rcases hb with ha | hl
  · have hl : m.arnLike ≠ "" := hsome.resolve_left (not_not.2 ha)
    exact ⟨.inr ⟨⟨ha, hl⟩, hshape hl⟩, fun h => absurd ha h.1⟩
  · have ha : m.arn ≠ "" := hsome.resolve_right (not_not.2 hl)
    exact ⟨.inl ⟨ha, hl⟩, fun _ => hc ha⟩

/-- On a configuration the current `NewFileMapper` accepts, the two
constructors build the same mapper: there every record supplies one field, so
both file it in the same table under the same key. -/
theorem perField_newFileMapper_eq {lib : Lib} {cfg : Config}
    (hr : ∀ m ∈ cfg.roleMappings, m.Accepted lib) (hu : ∀ m ∈ cfg.userMappings, m.Accepted lib) :
    PerField.newFileMapper lib cfg = newFileMapper lib cfg := by
  rw [PerField.newFileMapper_eq_ok (fun m h => (hr m h).perField) (fun m h => (hu m h).perField),
    newFileMapper_eq_ok hr hu]
  have hx : ∀ {p} {ms : List (Mapping p)}, (∀ m ∈ ms, m.Accepted lib) →
      ms.filter (·.IsExact) = ms.filter (·.arn ≠ "") := fun hms =>
    List.filter_congr fun m hm => by simp only [(hms m hm).isExact_iff]
  have hp : ∀ {p} {ms : List (Mapping p)}, (∀ m ∈ ms, m.Accepted lib) →
      ms.filter (·.IsPattern) = ms.filter (·.arnLike ≠ "") := fun hms =>
    List.filter_congr fun m hm => by simp only [(hms m hm).isPattern_iff]
  simp only [exactTable, PerField.exactTable, hx hr, hx hu, hp hr, hp hu]

/-- **The current constructor refines `part_001`'s.** Whatever mapper the
`NewFileMapper` of `pkg/mapper/file` builds, the `NewFileMapper` of `part_001`
builds the same; and on configurations where no record supplies both fields,
whatever mapper `part_001`'s builds, the current one builds the same. The two
differ only on records with both fields, which the current one rejects and
`part_001`'s files in both tables. -/
theorem perField_newFileMapper_refines (lib : Lib) (cfg : Config) :
    (∀ fm, newFileMapper lib cfg = .ok fm → PerField.newFileMapper lib cfg = .ok fm) ∧
    ((∀ m ∈ cfg.roleMappings, m.arn = "" ∨ m.arnLike = "") →
      (∀ m ∈ cfg.userMappings, m.arn = "" ∨ m.arnLike = "") →
      ∀ fm, PerField.newFileMapper lib cfg = .ok fm → newFileMapper lib cfg = .ok fm) := by
  refine ⟨fun fm h => ?_, fun hbr hbu fm h => ?_⟩
  · obtain ⟨hr, hu⟩ := accepted_of_newFileMapper_eq_ok h
    rw [perField_newFileMapper_eq hr hu, h]
  · obtain ⟨hr, hu⟩ := PerField.accepted_of_newFileMapper_eq_ok h
    rw [← perField_newFileMapper_eq (fun m hm => (hr m hm).accepted (hbr m hm))
      (fun m hm => (hu m hm).accepted (hbu m hm)), h]

/-- **What `part_001`'s `NewFileMapper` builds.** It succeeds exactly when every
record is `PerField.Accepted`, and then files every record with an ARN in the
exact table of its kind, under its canonical lower-cased ARN, and every record
with a pattern in the pattern table: a record with both fields lands in both. -/
theorem perField_newFileMapper_spec (lib : Lib) (cfg : Config) :
    ((∃ fm, PerField.newFileMapper lib cfg = .ok fm) ↔
      (∀ m ∈ cfg.roleMappings, PerField.Accepted lib m) ∧
        ∀ m ∈ cfg.userMappings, PerField.Accepted lib m) ∧
    ∀ fm, PerField.newFileMapper lib cfg = .ok fm →
      fm = { lowercaseRoleMap := PerField.exactTable lib cfg.roleMappings,
             roleArnLikeMap := patternTable (cfg.roleMappings.filter (·.arnLike ≠ "")),
             lowercaseUserMap := PerField.exactTable lib cfg.userMappings,
             userArnLikeMap := patternTable (cfg.userMappings.filter (·.arnLike ≠ "")),
             accountMap := GoMap.build id (fun _ => true) cfg.autoMappedAWSAccounts } := by
  refine ⟨⟨fun ⟨_, h⟩ => PerField.accepted_of_newFileMapper_eq_ok h,
    fun ⟨hr, hu⟩ => ⟨_, PerField.newFileMapper_eq_ok hr hu⟩⟩, fun fm h => ?_⟩
  obtain ⟨hr, hu⟩ := PerField.accepted_of_newFileMapper_eq_ok h
  rw [PerField.newFileMapper_eq_ok hr hu] at h
  exact (Except.ok.inj h).symm

/-- A role record with both fields. -/
def bothFieldsRole : RoleMapping := ⟨"arn:aws:iam::1:role/x", "arn:aws:iam::1:role/*", "x", []⟩

/-- `part_001`'s constructor accepts `bothFieldsRole`, the current one does not. -/
example : (∃ e, newFileMapper referenceLib ⟨[bothFieldsRole], [], []⟩ = .error e) ∧
    ∃ fm, PerField.newFileMapper referenceLib ⟨[bothFieldsRole], [], []⟩ = .ok fm :=
  ⟨⟨_, rfl⟩, _, rfl⟩

/-- A configuration with an exact and a pattern role record, and an account. -/
def exactAndPatternConfig : Config :=
  ⟨[⟨"arn:aws:iam::1:role/x", "", "x", []⟩, ⟨"", "arn:aws:iam::1:role/*", "y", []⟩], [], ["1"]⟩

/-- Both constructors build the same mapper from `exactAndPatternConfig`, which
has no record with both fields: each direction of the refinement. -/
theorem perField_newFileMapper_refines_exactAndPattern :
    ∃ fm, newFileMapper referenceLib exactAndPatternConfig = .ok fm ∧
      PerField.newFileMapper referenceLib exactAndPatternConfig = .ok fm ∧
      (∀ m ∈ exactAndPatternConfig.roleMappings, m.arn = "" ∨ m.arnLike = "") ∧
      (∀ m ∈ exactAndPatternConfig.userMappings, m.arn = "" ∨ m.arnLike = "") ∧
      newFileMapper referenceLib exactAndPatternConfig = .ok fm :=
  ⟨_, rfl, (perField_newFileMapper_refines referenceLib exactAndPatternConfig).1 _ rfl,
    by decide, by decide,
    (perField_newFileMapper_refines referenceLib exactAndPatternConfig).2 (by decide) (by decide) _
      rfl⟩

end IamAuthenticator
