import IamAuthenticator.ConfigMap.Codec

/-!
# `ParseMap` and `EncodeMap`

`pkg/mapper/configmap/configmap.go` reads the `aws-auth` document with
`ParseMap` and writes it with `EncodeMap`. The document is the ConfigMap's
`Data`, a `map[string]string` with three optional fields: `mapUsers`,
`mapRoles` and `mapAccounts`.

`ParseMap` reads each record list with one loop over the decoded records; the
two loops differ only in their error texts, so both are `parseMappings` with
the texts as a parameter. A record with neither or both identifying fields
adds an error and is dropped; an exact record is kept; a pattern record is
checked against the principal's shape and kept **whether or not the check
passes** (the error of a failed check is collected all the same).

What `ParseMap` returns is said once, for documents whose fields decode without
error (`parseMap_spec`): the exact records and the pattern records of each
list, in document order, the accounts, and an error exactly when some record
fails `Validate`. On such documents the pattern lists can therefore hold
records that fail `Validate` (`parseMap_keeps_invalid_pattern`).

`EncodeMap` writes each non-empty list with the codec, and reading its output
back gives every record to the loops again (`parseMap_encodeMap`). Writing back
everything `ParseMap` returned therefore reads as the same lists again
(`parseMap_encode_parseMap`): what `ParseMap` keeps, `EncodeMap` can carry.
-/

namespace IamAuthenticator

/-- The `Data` of a ConfigMap. -/
abbrev Data := GoMap String

/-- `ErrParsingMap`: the causes `ParseMap` collected, in the order it met them. -/
structure ErrParsingMap where
  errors : List String
  deriving DecidableEq, Repr

/-- What `ParseMap` returns. -/
structure Parsed where
  userMappings : List UserMapping
  userArnLikeMappings : List UserMapping
  roleMappings : List RoleMapping
  roleArnLikeMappings : List RoleMapping
  awsAccounts : List String
  err : Option ErrParsingMap
  deriving DecidableEq, Repr

section ParseMap

variable (lib : Lib) (cx : Codec) {p : Principal}

/-- The errors one record adds in `ParseMap`'s loop. -/
def recordErrors (t : SwitchText) (m : Mapping p) : List String :=
  match m.supplied with
  | .neither => [t.neither]
  | .both => [t.both]
  | .exact => []
  | .pattern =>
    match lib.arnLike m.arnLike p.shape with
    | .error e => [e]
    | .ok true => []
    | .ok false => [t.notMatched m.arnLike]

/-- One iteration of `ParseMap`'s loop over the decoded records, on the exact
list, the ARN-like list and the errors. A pattern record goes into the ARN-like
list after its shape check, whatever the check returned. -/
def parseRecord (t : SwitchText)
    (acc : List (Mapping p) × List (Mapping p) × List String) (m : Mapping p) :
    List (Mapping p) × List (Mapping p) × List String :=
  match m.supplied with
  | .neither => (acc.1, acc.2.1, acc.2.2 ++ [t.neither])
  | .both => (acc.1, acc.2.1, acc.2.2 ++ [t.both])
  | .exact => (acc.1 ++ [m], acc.2.1, acc.2.2)
  | .pattern => (acc.1, acc.2.1 ++ [m], acc.2.2 ++ recordErrors lib t m)

/-- The block of `ParseMap` that reads the record list under `key`. -/
def parseMappings (t : SwitchText) (p : Principal) (m : Data) (key : String) :
    List (Mapping p) × List (Mapping p) × List String :=
  match m.get? key with
  | none => ([], [], [])
  | some text =>
    match cx.toJSON text with
    | .error e => ([], [], [e])
    | .ok json =>
      let (raw, err) := cx.unmarshalMappings p json
      raw.foldl (parseRecord lib t) ([], [], err.toList)

/-- The block of `ParseMap` that reads `mapAccounts`. -/
def parseAccounts (m : Data) : List String × List String :=
  match m.get? "mapAccounts" with
  | none => ([], [])
  | some text =>
    let (accounts, err) := cx.unmarshalAccounts text
    (accounts, err.toList)

/-- `ParseMap`. -/
def parseMap (m : Data) : Parsed :=
  let (users, userLikes, userErrs) := parseMappings lib cx
    ⟨"One of userarn or userarnLike must be supplied",
     "Only one of userarn or userarnLike can be supplied",
     fun s => "UserARNLike \x27" ++ s ++ "\x27 did not match an ARN for an IAM User"⟩
    .user m "mapUsers"
  let (roles, roleLikes, roleErrs) := parseMappings lib cx
    ⟨"One of rolearn or rolearnLike must be supplied",
     "Only one of rolearn or rolearnLike can be supplied",
     fun s => "RoleARNLike \x27" ++ s ++ "\x27 did not match an ARN for an IAM Role"⟩
    .role m "mapRoles"
  let (accounts, accountErrs) := parseAccounts cx m
  let errs := userErrs ++ roleErrs ++ accountErrs
  { userMappings := users, userArnLikeMappings := userLikes,
    roleMappings := roles, roleArnLikeMappings := roleLikes,
    awsAccounts := accounts, err := if errs.isEmpty then none else some ⟨errs⟩ }

end ParseMap

/-- `EncodeMap`. The `yaml.Marshal` calls cannot fail on record and string
lists, so neither can the model. -/
def encodeMap (cx : Codec) (userMappings : List UserMapping) (roleMappings : List RoleMapping)
    (awsAccounts : List String) : Data :=
  let m : Data := ∅
  let m := if userMappings.length > 0 then m.set "mapUsers" (cx.marshalMappings .user userMappings)
    else m
  let m := if roleMappings.length > 0 then m.set "mapRoles" (cx.marshalMappings .role roleMappings)
    else m
  if awsAccounts.length > 0 then m.set "mapAccounts" (cx.marshalAccounts awsAccounts) else m

/-- The document that writes back everything `ParseMap` returned: each
principal's exact records, then its pattern records, and the accounts. -/
def Parsed.encode (cx : Codec) (parsed : Parsed) : Data :=
  encodeMap cx (parsed.userMappings ++ parsed.userArnLikeMappings)
    (parsed.roleMappings ++ parsed.roleArnLikeMappings) parsed.awsAccounts

/-! ### What `ParseMap` does -/

section Spec

variable {lib : Lib} {cx : Codec} {p : Principal}

/-- A record adds no error exactly when it passes `Validate`. -/
theorem recordErrors_eq_nil (t : SwitchText) (m : Mapping p) :
    recordErrors lib t m = [] ↔ m.WellFormed lib := by
  rw [recordErrors, Mapping.WellFormed, ← Mapping.supplied_eq_exact, ← Mapping.supplied_eq_pattern]
  cases m.supplied <;> simp
  rcases lib.arnLike m.arnLike p.shape with e | (_ | _) <;> simp

/-- The loop sorts the records into exact and pattern records, in order, and
collects their errors. -/
theorem foldl_parseRecord (t : SwitchText) (raw : List (Mapping p))
    (acc : List (Mapping p) × List (Mapping p) × List String) :
    raw.foldl (parseRecord lib t) acc =
      (acc.1 ++ raw.filter (·.IsExact), acc.2.1 ++ raw.filter (·.IsPattern),
        acc.2.2 ++ raw.flatMap (recordErrors lib t)) := by
  induction raw generalizing acc with
  | nil => simp
  | cons m raw ih =>
    rw [List.foldl_cons, ih, parseRecord]
    have hx := Mapping.supplied_eq_exact (m := m)
    have hp := Mapping.supplied_eq_pattern (m := m)
    cases hs : m.supplied <;> simp only [hs, reduceCtorEq, false_iff, true_iff] at hx hp <;>
      simp [List.filter_cons, recordErrors, hs, hx, hp]

/-- A block's exact list holds exact records and its pattern list pattern
records. -/
theorem parseMappings_sorted (t : SwitchText) (m : Data) (key : String) :
    (∀ x ∈ (parseMappings lib cx t p m key).1, x.IsExact) ∧
    ∀ x ∈ (parseMappings lib cx t p m key).2.1, x.IsPattern := by
  unfold parseMappings
  split
  · simp
  · split
    · simp
    · simp only [foldl_parseRecord, List.nil_append, List.mem_filter, decide_eq_true_eq]
      exact ⟨fun _ hx => hx.2, fun _ hx => hx.2⟩

/-- Every record in the exact list of a block is exact. -/
theorem isExact_of_mem_parseMappings {t : SwitchText} {m : Data} {key : String} {x : Mapping p}
    (hx : x ∈ (parseMappings lib cx t p m key).1) : x.IsExact :=
  (parseMappings_sorted t m key).1 x hx

theorem isExact_of_mem_userMappings {m : Data} {x : UserMapping}
    (hx : x ∈ (parseMap lib cx m).userMappings) : x.IsExact :=
  isExact_of_mem_parseMappings hx

theorem isExact_of_mem_roleMappings {m : Data} {x : RoleMapping}
    (hx : x ∈ (parseMap lib cx m).roleMappings) : x.IsExact :=
  isExact_of_mem_parseMappings hx

theorem isPattern_of_mem_userArnLikeMappings {m : Data} {x : UserMapping}
    (hx : x ∈ (parseMap lib cx m).userArnLikeMappings) : x.IsPattern :=
  (parseMappings_sorted _ m _).2 x hx

theorem isPattern_of_mem_roleArnLikeMappings {m : Data} {x : RoleMapping}
    (hx : x ∈ (parseMap lib cx m).roleArnLikeMappings) : x.IsPattern :=
  (parseMappings_sorted _ m _).2 x hx

/-- `key` holds a text that decodes, without error, to the records `raw`. -/
def DecodesTo (cx : Codec) (m : Data) (key : String) (p : Principal) (raw : List (Mapping p)) :
    Prop :=
  ∃ text json, m.get? key = some text ∧ cx.toJSON text = .ok json ∧
    cx.unmarshalMappings p json = (raw, none)

theorem parseMappings_of_decodesTo {t : SwitchText} {m : Data} {key : String}
    {raw : List (Mapping p)} (h : DecodesTo cx m key p raw) :
    parseMappings lib cx t p m key =
      (raw.filter (·.IsExact), raw.filter (·.IsPattern), raw.flatMap (recordErrors lib t)) := by
  obtain ⟨text, json, h₁, h₂, h₃⟩ := h
  simp [parseMappings, h₁, h₂, h₃, foldl_parseRecord]

/-- The list under `key` reads as `raw`: the field is absent and `raw` empty, or
it decodes to `raw` without error. -/
def ReadsAs (cx : Codec) (m : Data) (key : String) (p : Principal) (raw : List (Mapping p)) :
    Prop :=
  (m.get? key = none ∧ raw = []) ∨ DecodesTo cx m key p raw

/-- `mapAccounts` reads as `accounts`, absent meaning empty. -/
def AccountsReadAs (cx : Codec) (m : Data) (accounts : List String) : Prop :=
  (m.get? "mapAccounts" = none ∧ accounts = []) ∨
    ∃ text, m.get? "mapAccounts" = some text ∧ cx.unmarshalAccounts text = (accounts, none)

theorem parseMappings_of_readsAs {t : SwitchText} {m : Data} {key : String}
    {raw : List (Mapping p)} (h : ReadsAs cx m key p raw) :
    parseMappings lib cx t p m key =
      (raw.filter (·.IsExact), raw.filter (·.IsPattern), raw.flatMap (recordErrors lib t)) := by
  rcases h with ⟨h, rfl⟩ | h
  · simp [parseMappings, h]
  · exact parseMappings_of_decodesTo h

theorem parseAccounts_of_readsAs {m : Data} {accounts : List String}
    (h : AccountsReadAs cx m accounts) : parseAccounts cx m = (accounts, []) := by
  rcases h with ⟨h, rfl⟩ | ⟨text, h, ha⟩ <;> simp [parseAccounts, h, *]

theorem flatMap_recordErrors_eq_nil {t : SwitchText} {raw : List (Mapping p)} :
    raw.flatMap (recordErrors lib t) = [] ↔ ∀ m ∈ raw, m.WellFormed lib := by
  simp [List.flatMap_eq_nil_iff, recordErrors_eq_nil]

/-- **What `ParseMap` returns** on a document whose three fields read as `U`,
`R` and `A`: the exact and the pattern records of each list, in document order,
the accounts, and an error exactly when some record fails `Validate`. -/
theorem parseMap_spec {m : Data} {U : List UserMapping} {R : List RoleMapping} {A : List String}
    (hU : ReadsAs cx m "mapUsers" .user U) (hR : ReadsAs cx m "mapRoles" .role R)
    (hA : AccountsReadAs cx m A) :
    (parseMap lib cx m).userMappings = U.filter (·.IsExact) ∧
    (parseMap lib cx m).userArnLikeMappings = U.filter (·.IsPattern) ∧
    (parseMap lib cx m).roleMappings = R.filter (·.IsExact) ∧
    (parseMap lib cx m).roleArnLikeMappings = R.filter (·.IsPattern) ∧
    (parseMap lib cx m).awsAccounts = A ∧
    ((parseMap lib cx m).err = none ↔
      (∀ u ∈ U, u.WellFormed lib) ∧ ∀ r ∈ R, r.WellFormed lib) := by
  simp only [parseMap, parseMappings_of_readsAs hU, parseMappings_of_readsAs hR,
    parseAccounts_of_readsAs hA, List.append_nil, ite_eq_left_iff, List.isEmpty_iff,
    List.append_eq_nil, flatMap_recordErrors_eq_nil, reduceCtorEq, imp_false, not_not,
    true_and]

/-! ### Reading back what `EncodeMap` wrote -/

theorem encodeMap_get?_mapUsers (cx : Codec) (us : List UserMapping) (rs : List RoleMapping)
    (as : List String) : (encodeMap cx us rs as).get? "mapUsers" =
      if us.length > 0 then some (cx.marshalMappings .user us) else none := by
  unfold encodeMap; split_ifs <;> simp_all

theorem encodeMap_get?_mapRoles (cx : Codec) (us : List UserMapping) (rs : List RoleMapping)
    (as : List String) : (encodeMap cx us rs as).get? "mapRoles" =
      if rs.length > 0 then some (cx.marshalMappings .role rs) else none := by
  unfold encodeMap; split_ifs <;> simp_all

theorem encodeMap_get?_mapAccounts (cx : Codec) (us : List UserMapping) (rs : List RoleMapping)
    (as : List String) : (encodeMap cx us rs as).get? "mapAccounts" =
      if as.length > 0 then some (cx.marshalAccounts as) else none := by
  unfold encodeMap; split_ifs <;> simp_all

theorem readsAs_of_get? {m : Data} {key : String} {ms : List (Mapping p)}
    (h : m.get? key = if ms.length > 0 then some (cx.marshalMappings p ms) else none) :
    ReadsAs cx m key p ms := by
  split_ifs at h with hlen
  · right
    have hrt := cx.mappings_roundTrip p ms
    cases hj : cx.toJSON (cx.marshalMappings p ms) with
    | error e => rw [hj] at hrt; cases hrt
    | ok json =>
      rw [hj] at hrt
      exact ⟨_, json, h, hj, by simpa [Except.map] using hrt⟩
  · exact .inl ⟨h, List.eq_nil_of_length_eq_zero (by omega)⟩

/-- **Round trip.** `ParseMap` of what `EncodeMap` wrote sorts the written
records again and returns the written accounts. -/
theorem parseMap_encodeMap (us : List UserMapping) (rs : List RoleMapping) (as : List String) :
    (parseMap lib cx (encodeMap cx us rs as)).userMappings = us.filter (·.IsExact) ∧
    (parseMap lib cx (encodeMap cx us rs as)).userArnLikeMappings = us.filter (·.IsPattern) ∧
    (parseMap lib cx (encodeMap cx us rs as)).roleMappings = rs.filter (·.IsExact) ∧
    (parseMap lib cx (encodeMap cx us rs as)).roleArnLikeMappings = rs.filter (·.IsPattern) ∧
    (parseMap lib cx (encodeMap cx us rs as)).awsAccounts = as ∧
    ((parseMap lib cx (encodeMap cx us rs as)).err = none ↔
      (∀ u ∈ us, u.WellFormed lib) ∧ ∀ r ∈ rs, r.WellFormed lib) := by
  refine parseMap_spec (readsAs_of_get? (encodeMap_get?_mapUsers cx us rs as))
    (readsAs_of_get? (encodeMap_get?_mapRoles cx us rs as)) ?_
  have h := encodeMap_get?_mapAccounts cx us rs as
  split_ifs at h with hlen
  · exact .inr ⟨_, h, cx.accounts_roundTrip as⟩
  · exact .inl ⟨h, List.eq_nil_of_length_eq_zero (by omega)⟩

/-- Exact records followed by pattern records split back into the two lists. -/
theorem filter_exact_append_pattern {ex pat : List (Mapping p)} (hex : ∀ x ∈ ex, x.IsExact)
    (hpat : ∀ x ∈ pat, x.IsPattern) :
    (ex ++ pat).filter (·.IsExact) = ex ∧ (ex ++ pat).filter (·.IsPattern) = pat := by
  have hex' : ex.filter (·.IsExact) = ex := List.filter_eq_self.2 fun x hx => decide_eq_true (hex x hx)
  have hpat' : pat.filter (·.IsPattern) = pat :=
    List.filter_eq_self.2 fun x hx => decide_eq_true (hpat x hx)
  have hex'' : ex.filter (·.IsPattern) = [] :=
    List.filter_eq_nil_iff.2 fun x hx => by simpa using (hex x hx).not_isPattern
  have hpat'' : pat.filter (·.IsExact) = [] :=
    List.filter_eq_nil_iff.2 fun x hx => by simpa using fun h => h.not_isPattern (hpat x hx)
  simp only [List.filter_append, hex', hpat', hex'', hpat'', List.append_nil, List.nil_append,
    and_self]

/-- **Round trip.** Writing back everything `ParseMap` returned and reading it
again gives the same lists and accounts: `EncodeMap` can carry all that
`ParseMap` keeps. The second read reports an error exactly when a kept pattern
fails its shape check; the records with neither or both fields are gone. -/
theorem parseMap_encode_parseMap (m : Data) :
    let parsed := parseMap lib cx m
    let reread := parseMap lib cx (parsed.encode cx)
    reread.userMappings = parsed.userMappings ∧
    reread.userArnLikeMappings = parsed.userArnLikeMappings ∧
    reread.roleMappings = parsed.roleMappings ∧
    reread.roleArnLikeMappings = parsed.roleArnLikeMappings ∧
    reread.awsAccounts = parsed.awsAccounts ∧
    (reread.err = none ↔ (∀ u ∈ parsed.userArnLikeMappings, u.WellFormed lib) ∧
      ∀ r ∈ parsed.roleArnLikeMappings, r.WellFormed lib) := by
  intro parsed reread
  obtain ⟨hue, hup⟩ := filter_exact_append_pattern (fun _ => isExact_of_mem_userMappings (m := m))
    (fun _ => isPattern_of_mem_userArnLikeMappings (m := m))
  obtain ⟨hre, hrp⟩ := filter_exact_append_pattern (fun _ => isExact_of_mem_roleMappings (m := m))
    (fun _ => isPattern_of_mem_roleArnLikeMappings (m := m))
  obtain ⟨hu, hul, hr, hrl, ha, herr⟩ := @parseMap_encodeMap lib cx
    (parsed.userMappings ++ parsed.userArnLikeMappings)
    (parsed.roleMappings ++ parsed.roleArnLikeMappings) parsed.awsAccounts
  refine ⟨hu.trans hue, hul.trans hup, hr.trans hre, hrl.trans hrp, ha, herr.trans ?_⟩
  simp only [List.mem_append, or_imp, forall_and]
  exact and_congr (and_iff_right fun u hu => .inl (isExact_of_mem_userMappings hu))
    (and_iff_right fun r hr => .inl (isExact_of_mem_roleMappings hr))

end Spec

/-- A user record whose pattern names a role. -/
def roleShapedUser : UserMapping := ⟨"", "arn:aws:iam::1:role/*", "bob", []⟩

/-- `ParseMap` keeps a user pattern record that fails `UserMapping.Validate`
in `userArnLikeMappings`, and reports the failure in its error. -/
theorem parseMap_keeps_invalid_pattern :
    UserMapping.validate referenceLib roleShapedUser ≠ .ok () ∧
    (parseMap referenceLib wireCodec (encodeMap wireCodec [roleShapedUser] [] [])).userArnLikeMappings
      = [roleShapedUser] ∧
    (parseMap referenceLib wireCodec (encodeMap wireCodec [roleShapedUser] [] [])).err ≠ none := by
  decide

end IamAuthenticator
