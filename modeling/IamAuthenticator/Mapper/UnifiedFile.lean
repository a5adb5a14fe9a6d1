import IamAuthenticator.Mapper.File

/-!
# The file mapper with one table per principal

A second `FileMapper` of the repository (the unnamed `part_000`): it keeps one
table per principal kind, files each record under its canonical ARN or its
pattern after `Validate`, and resolves by scanning each table for the first
record that `Matches` the lower-cased ARN. It lives in the namespace `Unified`,
keeping the source's names.

The two file mappers accept the same configurations
(`unified_newFileMapper_isOk_iff`), but they do not resolve alike. Here the
exact and pattern records of a principal share one table, scanned in map
order, and the role table is scanned before the user table. An ARN that both an
exact role record and a role pattern match can therefore resolve to the
pattern's identity, while the four-table mapper looks exact records up first
and always returns the exact record's (`unified_fileMapper_not_equivalent`);
for the same reason a role pattern wins over an exact user record. An `ArnLike`
error is read as no match, and `Matches` compares an exact ARN as it is written
with the lower-cased subject. What does hold (`unified_fileMapper_agrees`) is
agreement on configurations of exact records already written in canonical
form: there every table value is the only one that can match its key.
-/

namespace IamAuthenticator

namespace Unified

/-- `file.FileMapper` of `part_000`. -/
structure FileMapper where
  lowercaseRoleMap : GoMap RoleMapping
  lowercaseUserMap : GoMap UserMapping
  accountMap : GoMap Bool

variable (lib : Lib) {p : Principal}

/-- One iteration of a `NewFileMapper` loop: `Validate`, then file the record
under the canonical form of `canonArg m` when it is exact, else under `Key()`. -/
def addMapping (validate : Mapping p → Except String Unit) (canonArg : Mapping p → String)
    (table : GoMap (Mapping p)) (m : Mapping p) : Except String (GoMap (Mapping p)) := do
  validate m
  let key ← if m.arn ≠ "" then
      match lib.canonicalize (lib.toLower (canonArg m)) with
      | .error e => .error ("error canonicalizing ARN: " ++ e)
      | .ok c => .ok c
    else .ok m.key
  pure (table.set key m)

/-- The loop over `cfg.RoleMappings`: canonicalizes `m.RoleARN`. -/
def addRoleMapping : GoMap RoleMapping → RoleMapping → Except String (GoMap RoleMapping) :=
  addMapping lib (RoleMapping.validate lib) (·.arn)

/-- The loop over `cfg.UserMappings`: canonicalizes `m.Key()`. -/
def addUserMapping : GoMap UserMapping → UserMapping → Except String (GoMap UserMapping) :=
  addMapping lib (UserMapping.validate lib) Mapping.key

/-- `NewFileMapper` of `part_000`. -/
def newFileMapper (cfg : Config) : Except String FileMapper := do
  let roles ← cfg.roleMappings.foldlM (addRoleMapping lib) ∅
  let users ← cfg.userMappings.foldlM (addUserMapping lib) ∅
  pure { lowercaseRoleMap := roles, lowercaseUserMap := users,
         accountMap := GoMap.build id (fun _ => true) cfg.autoMappedAWSAccounts }

/-- `FileMapper.Map` of `part_000`, with `ro` and `uo` the iteration orders of
the two tables. -/
def FileMapper.map (fm : FileMapper) (ro : fm.lowercaseRoleMap.Order)
    (uo : fm.lowercaseUserMap.Order) (canonicalARN : String) : Except MapError IdentityMapping :=
  let arn := lib.toLower canonicalARN
  match ro.1.find? (RoleMapping.matches lib · arn) with
  | some m => .ok (m.identity arn)
  | none =>
    match uo.1.find? (UserMapping.matches lib · arn) with
    | some m => .ok (m.identity arn)
    | none => .error .notMapped

/-- `FileMapper.IsAccountAllowed` of `part_000`. -/
def FileMapper.isAccountAllowed (fm : FileMapper) (accountID : String) : Bool :=
  (fm.accountMap.get? accountID).getD false

/-- The identities `Map(a)` can return, over all iteration orders. -/
def FileMapper.Resolves (fm : FileMapper) (a : String) (id : IdentityMapping) : Prop :=
  ∃ ro uo, fm.map lib ro uo a = .ok id

/-- `Map(a)` can return no identity. -/
def FileMapper.Misses (fm : FileMapper) (a : String) : Prop :=
  ∃ ro uo e, fm.map lib ro uo a = .error e

/-! ### Construction -/

/-- The key `part_000` files an accepted record under. -/
def unifiedKey (m : Mapping p) : String := if m.IsExact then m.canonKey lib else m.arnLike

section Construction

variable {lib : Lib} {p : Principal} {validate : Mapping p → Except String Unit}
  {canonArg : Mapping p → String}

/-- The two facts about a loop's `Validate` and canonicalized field that the
construction lemmas need: `Validate` accepts the well-formed records, and the
canonicalized field is the exact ARN whenever that is set. -/
structure LoopSpec (lib : Lib) (validate : Mapping p → Except String Unit)
    (canonArg : Mapping p → String) : Prop where
  validate_ok : ∀ m, validate m = .ok () ↔ m.WellFormed lib
  canonArg_eq : ∀ m, m.arn ≠ "" → canonArg m = m.arn

theorem roleLoopSpec : LoopSpec lib (RoleMapping.validate lib) (·.arn) :=
  ⟨fun m => validateWith_eq_ok_iff lib _ m, fun _ _ => rfl⟩

theorem userLoopSpec : LoopSpec lib (UserMapping.validate lib) Mapping.key :=
  ⟨fun m => validateWith_eq_ok_iff lib _ m, fun m h => by simp [Mapping.key, h]⟩

theorem addMapping_of_accepted (hs : LoopSpec lib validate canonArg) {m : Mapping p}
    (hm : m.Accepted lib) (table : GoMap (Mapping p)) :
    addMapping lib validate canonArg table m = .ok (table.set (unifiedKey lib m) m) := by
  have hv : validate m = .ok () := (hs.validate_ok m).mpr hm.1
  obtain ⟨hw | ⟨hpat, -⟩, hc⟩ := hm
  · obtain ⟨c, hc⟩ := Option.isSome_iff_exists.mp (hc hw)
    rw [Mapping.canonical, Except.toOption_eq_some] at hc
    simp [addMapping, hv, hw.1, hs.canonArg_eq m hw.1, hc, unifiedKey, hw, Mapping.canonKey,
      Mapping.canonical, Except.toOption]
  · have hx : ¬ m.IsExact := fun h => h.not_isPattern hpat
    simp [addMapping, hv, hpat.1, unifiedKey, Mapping.key, hx]

theorem addMapping_of_not_accepted (hs : LoopSpec lib validate canonArg) {m : Mapping p}
    (hm : ¬ m.Accepted lib) (table : GoMap (Mapping p)) :
    ∃ e, addMapping lib validate canonArg table m = .error e := by
  cases hv : validate m with
  | error e => exact ⟨e, by simp [addMapping, hv]⟩
  | ok u =>
    have hw : m.WellFormed lib := (hs.validate_ok m).mp hv
    have hx : m.IsExact := by
      by_contra hx
      exact hm ⟨hw, fun h => absurd h hx⟩
    cases hc : lib.canonicalize (lib.toLower m.arn) with
    | error e =>
      exact ⟨_, by simp [addMapping, hv, hx.1, hs.canonArg_eq m hx.1, hc]; rfl⟩
    | ok c => exact absurd ⟨hw, fun _ => by simp [Mapping.canonical, hc, Except.toOption]⟩ hm

theorem foldlM_addMapping_ok (hs : LoopSpec lib validate canonArg) {ms : List (Mapping p)}
    (hms : ∀ m ∈ ms, m.Accepted lib) (table : GoMap (Mapping p)) :
    ms.foldlM (addMapping lib validate canonArg) table =
      .ok (ms.foldl (fun t m => t.set (unifiedKey lib m) m) table) := by
  induction ms generalizing table with
  | nil => rfl
  | cons m ms ih =>
    rw [List.foldlM_cons, addMapping_of_accepted hs (hms m (List.mem_cons_self m ms)),
      Except.ok_bind, ih (fun x hx => hms x (List.mem_cons_of_mem m hx))]
    rfl

theorem foldlM_addMapping_error (hs : LoopSpec lib validate canonArg) {ms : List (Mapping p)}
    (hms : ∃ m ∈ ms, ¬ m.Accepted lib) (table : GoMap (Mapping p)) :
    ∃ e, ms.foldlM (addMapping lib validate canonArg) table = .error e := by
  induction ms generalizing table with
  | nil => simp at hms
  | cons m ms ih =>
    rw [List.foldlM_cons]
    by_cases hm : m.Accepted lib
    · rw [addMapping_of_accepted hs hm, Except.ok_bind]
      exact ih (by simpa [hm] using hms) _
    · obtain ⟨e, he⟩ := addMapping_of_not_accepted hs hm table
      exact ⟨e, by rw [he]; rfl⟩

end Construction

theorem newFileMapper_eq_ok {lib : Lib} {cfg : Config}
    (hr : ∀ m ∈ cfg.roleMappings, m.Accepted lib) (hu : ∀ m ∈ cfg.userMappings, m.Accepted lib) :
    newFileMapper lib cfg = .ok
      { lowercaseRoleMap := GoMap.build (unifiedKey lib) id cfg.roleMappings,
        lowercaseUserMap := GoMap.build (unifiedKey lib) id cfg.userMappings,
        accountMap := GoMap.build id (fun _ => true) cfg.autoMappedAWSAccounts } := by
  unfold newFileMapper addRoleMapping addUserMapping
  rw [foldlM_addMapping_ok roleLoopSpec hr, Except.ok_bind, foldlM_addMapping_ok userLoopSpec hu]
  rfl

theorem newFileMapper_eq_error {lib : Lib} {cfg : Config}
    (h : (∃ m ∈ cfg.roleMappings, ¬ m.Accepted lib) ∨ (∃ m ∈ cfg.userMappings, ¬ m.Accepted lib)) :
    ∃ e, newFileMapper lib cfg = .error e := by
  unfold newFileMapper addRoleMapping addUserMapping
  by_cases hr : ∀ m ∈ cfg.roleMappings, m.Accepted lib
  · rw [foldlM_addMapping_ok roleLoopSpec hr, Except.ok_bind]
    obtain ⟨e, he⟩ := foldlM_addMapping_error userLoopSpec (h.resolve_left (by simpa using hr)) ∅
    exact ⟨e, by rw [he]; rfl⟩
  · push_neg at hr
    obtain ⟨e, he⟩ := foldlM_addMapping_error roleLoopSpec hr ∅
    exact ⟨e, by rw [he]; rfl⟩

end Unified

/-- The identities the four-table `Map(a)` can return, over all iteration orders. -/
def FileMapper.Resolves (lib : Lib) (fm : FileMapper) (a : String) (id : IdentityMapping) : Prop :=
  ∃ ro uo, fm.map lib ro uo a = .ok id

/-- The four-table `Map(a)` can return no identity. -/
def FileMapper.Misses (lib : Lib) (fm : FileMapper) (a : String) : Prop :=
  ∃ ro uo e, fm.map lib ro uo a = .error e

/-- The two file mappers are interchangeable on `cfg`: one builds iff the other
does, and built from `cfg` they can return the same identities for every ARN
and fail on the same ARNs. -/
def FileMappersEquivalent (lib : Lib) (cfg : Config) : Prop :=
  ((∃ fm, newFileMapper lib cfg = .ok fm) ↔ (∃ fm, Unified.newFileMapper lib cfg = .ok fm)) ∧
  ∀ fm fm', newFileMapper lib cfg = .ok fm → Unified.newFileMapper lib cfg = .ok fm' →
    ∀ a, (∀ id, fm.Resolves lib a id ↔ fm'.Resolves lib a id) ∧
      (fm.Misses lib a ↔ fm'.Misses lib a)

/-! ### How the two file mappers compare -/

/-- Both file mappers build exactly when every record is accepted. -/
theorem unified_newFileMapper_isOk_iff (lib : Lib) (cfg : Config) :
    (∃ fm, newFileMapper lib cfg = .ok fm) ↔ (∃ fm, Unified.newFileMapper lib cfg = .ok fm) := by
  by_cases h : (∀ m ∈ cfg.roleMappings, m.Accepted lib) ∧ ∀ m ∈ cfg.userMappings, m.Accepted lib
  · exact iff_of_true ⟨_, newFileMapper_eq_ok h.1 h.2⟩ ⟨_, Unified.newFileMapper_eq_ok h.1 h.2⟩
  · have h' : (∃ m ∈ cfg.roleMappings, ¬ m.Accepted lib) ∨ ∃ m ∈ cfg.userMappings, ¬ m.Accepted lib :=
      by simpa only [not_and_or, not_forall, exists_prop] using h
    obtain ⟨e, he⟩ := newFileMapper_eq_error h'
    obtain ⟨e', he'⟩ := Unified.newFileMapper_eq_error h'
    simp [he, he']

/-- An exact role record and a role pattern that matches its ARN. -/
def exactAndPatternRoles : Config :=
  ⟨[⟨"arn:aws:iam::1:role/x", "", "x", []⟩, ⟨"", "arn:aws:iam::1:role/*", "any", []⟩], [], []⟩

/-- On `exactAndPatternRoles` the four-table mapper resolves
`arn:aws:iam::1:role/x` to the exact record, which it looks up first; the
one-table mapper, scanning its role table in map order, can resolve it to the
pattern's identity. -/
theorem unified_fileMapper_not_equivalent :
    ¬ FileMappersEquivalent referenceLib exactAndPatternRoles := by
  rintro ⟨-, h⟩
  have hr : ∀ m ∈ exactAndPatternRoles.roleMappings, m.Accepted referenceLib := by
    intro m hm
    simp only [exactAndPatternRoles, List.mem_cons, List.mem_singleton, List.not_mem_nil,
      or_false] at hm
    rcases hm with rfl | rfl
    · exact ⟨.inl ⟨by decide, rfl⟩, fun _ => by decide⟩
    · exact ⟨.inr ⟨⟨rfl, by decide⟩, rfl⟩, fun hx => absurd hx.1 (by decide)⟩
  have hu : ∀ m ∈ exactAndPatternRoles.userMappings, m.Accepted referenceLib := by
    simp [exactAndPatternRoles]
  -- the one-table mapper, in the order of its entries, returns the pattern's identity
  obtain ⟨ro, uo, hmap⟩ := ((h _ _ (newFileMapper_eq_ok hr hu) (Unified.newFileMapper_eq_ok hr hu)
    "arn:aws:iam::1:role/x").1 ⟨"arn:aws:iam::1:role/x", "any", []⟩).mpr
    ⟨GoMap.Order.entries _, GoMap.Order.entries _, by decide⟩
  have hx : (exactTable referenceLib exactAndPatternRoles.roleMappings).get?
      (referenceLib.toLower "arn:aws:iam::1:role/x") =
        some ⟨"arn:aws:iam::1:role/x", "", "x", []⟩ := by decide
  simp only [FileMapper.map, hx] at hmap
  exact absurd hmap (by decide)

section Agreement

variable {lib : Lib} {p : Principal}

/-- On exact records written in canonical form, both mappers' exact lookups
find the last record with the canonical ARN. -/
theorem exact_canonical_lookups {ms : List (Mapping p)}
    (hms : ∀ m ∈ ms, m.arnLike = "" ∧ m.canonical lib = some m.arn)
    (hacc : ∀ m ∈ ms, m.Accepted lib) (c : String) :
    (exactTable lib ms).get? c = GoMap.lastWith (·.canonKey lib) ms c ∧
    ∀ o : (GoMap.build (Unified.unifiedKey lib) id ms).Order,
      o.1.find? (Mapping.matches lib · c) = GoMap.lastWith (·.canonKey lib) ms c := by
  have hx : ∀ m ∈ ms, m.IsExact := fun m hm =>
    (hacc m hm).1.resolve_right fun h => h.1.2 (hms m hm).1
  have hkey : ∀ m ∈ ms, m.canonKey lib = m.arn := fun m hm => by
    simp [Mapping.canonKey, (hms m hm).2]
  have hfilter : ms.filter (·.IsExact) = ms := List.filter_eq_self.mpr (by simpa using hx)
  have hsame : GoMap.lastWith (Unified.unifiedKey lib) ms c = GoMap.lastWith (·.canonKey lib) ms c :=
    GoMap.find?_congr fun m hm => by simp [Unified.unifiedKey, hx m (List.mem_reverse.mp hm)]
  refine ⟨by rw [exactTable, GoMap.get?_build, hfilter, Option.map_id, id_eq], fun o => ?_⟩
  rw [← hsame]
  refine GoMap.find?_build o fun m hm => ?_
  obtain ⟨b, hb, rfl⟩ := GoMap.mem_values_build.mp (o.2.subset hm)
  have hb := (GoMap.lastWith_key hb).2
  simp [Mapping.matches, Unified.unifiedKey, hx b hb, (hx b hb).1, hkey b hb]

/-- A pattern table of a list without pattern records is scanned as the empty
list. -/
theorem order_patternTable_eq_nil {ms : List (Mapping p)} (hms : ∀ m ∈ ms, m.arnLike = "")
    (o : (patternTable (ms.filter (·.IsPattern))).Order) : o.1 = [] := by
  have : ms.filter (·.IsPattern) = [] :=
    List.filter_eq_nil_iff.mpr fun m hm => by simp [Mapping.IsPattern, hms m hm]
  have hv : (patternTable (ms.filter (·.IsPattern))).values = [] := by rw [this]; rfl
  exact List.perm_nil.mp (hv ▸ o.2)

end Agreement

/-- **What the two file mappers share.** They build from the same
configurations, and on configurations whose records are exact and already in
canonical form they resolve every ARN alike, whatever the iteration orders. -/
theorem unified_fileMapper_agrees (lib : Lib) (cfg : Config) :
    ((∃ fm, newFileMapper lib cfg = .ok fm) ↔ (∃ fm, Unified.newFileMapper lib cfg = .ok fm)) ∧
    ((∀ m ∈ cfg.roleMappings, m.arnLike = "" ∧ m.canonical lib = some m.arn) →
      (∀ m ∈ cfg.userMappings, m.arnLike = "" ∧ m.canonical lib = some m.arn) →
      ∀ fm fm', newFileMapper lib cfg = .ok fm → Unified.newFileMapper lib cfg = .ok fm' →
        ∀ ro uo ro' uo' a, fm.map lib ro uo a = fm'.map lib ro' uo' a) := by
  refine ⟨unified_newFileMapper_isOk_iff lib cfg, fun hr hu fm fm' hfm hfm' ro uo ro' uo' a => ?_⟩
  have hall := accepted_of_newFileMapper_eq_ok hfm
  rw [newFileMapper_eq_ok hall.1 hall.2] at hfm
  rw [Unified.newFileMapper_eq_ok hall.1 hall.2] at hfm'
  cases hfm; cases hfm'
  have hR := exact_canonical_lookups hr hall.1 (lib.toLower a)
  have hU := exact_canonical_lookups hu hall.2 (lib.toLower a)
  rcases h₁ : GoMap.lastWith (·.canonKey lib) cfg.roleMappings (lib.toLower a) <;>
  rcases h₂ : GoMap.lastWith (·.canonKey lib) cfg.userMappings (lib.toLower a) <;>
  simp [FileMapper.map, Unified.FileMapper.map, RoleMapping.matches, UserMapping.matches,
    hR.1, hU.1, hR.2, hU.2, h₁, h₂, order_patternTable_eq_nil (fun m hm => (hr m hm).1) ro,
    order_patternTable_eq_nil (fun m hm => (hu m hm).1) uo]

end IamAuthenticator
