import IamAuthenticator.Framework.GoMap
import IamAuthenticator.Framework.Lib

/-!
# Mapping records

The record types of `pkg/config` and the methods of `pkg/config/mapper.go`:
`Validate`, `Matches` and `Key` of `RoleMapping` and `UserMapping`.

The two record types have the same four fields (`RoleARN`/`UserARN`,
`RoleARNLike`/`UserARNLike`, `Username`, `Groups`), so they are one structure
`Mapping p` indexed by the principal kind `p`; `RoleMapping` and `UserMapping`
stay distinct types, as in Go. Their methods differ only in the shape pattern
and the error texts, so each family is one definition with those as parameters
(`validateWith`, `Mapping.matches`), and each method keeps its own definition,
applied to its own texts. The texts are the source's, typos included: the user
`Validate` reports a failed shape check as `RoleARNLike '…' did not match an
ARN for an IAM User`.

What `Validate` accepts is `Mapping.WellFormed` (`validateWith_eq_ok_iff`): an
exact ARN and no pattern, or a pattern and no exact ARN that `ArnLike` matches
against the principal's shape.

Every `switch` over the two identifying fields in the source tests the same
four cases in the same order; `Mapping.supplied` names the case a record falls
in. The `default` branches of those switches are unreachable.

The pattern loops of both mappers, `for _, m := range table`, are
`firstArnLike` over one iteration order; its three outcomes are characterised
by `firstArnLike_eq_ok_some`, `firstArnLike_eq_ok_none` and
`firstArnLike_eq_error`.
-/

namespace IamAuthenticator

/-- The principal a mapping record is about. -/
inductive Principal
  | role
  | user
  deriving DecidableEq, Repr

/-- A `config.RoleMapping` (`p = .role`) or `config.UserMapping` (`p = .user`):
`arn` is the `RoleARN`/`UserARN` field and `arnLike` the
`RoleARNLike`/`UserARNLike` field. -/
structure Mapping (p : Principal) where
  arn : String
  arnLike : String
  username : String
  groups : List String
  deriving DecidableEq, Repr

/-- `config.RoleMapping`. -/
abbrev RoleMapping := Mapping .role

/-- `config.UserMapping`. -/
abbrev UserMapping := Mapping .user

/-- `config.IdentityMapping`, the result of a resolution. -/
structure IdentityMapping where
  identityARN : String
  username : String
  groups : List String
  deriving DecidableEq, Repr

/-- `config.Config`, with the fields the file mapper reads. -/
structure Config where
  roleMappings : List RoleMapping
  userMappings : List UserMapping
  autoMappedAWSAccounts : List String
  deriving DecidableEq, Repr

/-- The errors `Map` returns: `mapper.ErrNotMapped`, or the error of an
`ArnLike` call passed through. -/
inductive MapError
  | notMapped
  | arnLike (err : String)
  deriving DecidableEq, Repr

/-- The pattern an ARN-like string must match to name a principal of kind `p`. -/
def Principal.shape : Principal → String
  | .role => "arn:*:iam:*:*:role/*"
  | .user => "arn:*:iam:*:*:user/*"

namespace Mapping

variable {p : Principal}

/-- The identity a matching record resolves `arn` to. -/
def identity (m : Mapping p) (arn : String) : IdentityMapping := ⟨arn, m.username, m.groups⟩

/-! ### The four cases of a record -/

/-- The cases of the source's `switch` over the two identifying fields. -/
inductive Supplied
  | neither
  | both
  | exact
  | pattern
  deriving DecidableEq, Repr

/-- The case of the `switch` a record falls in, tested in the source's order. -/
def supplied (m : Mapping p) : Supplied :=
  if m.arn = "" ∧ m.arnLike = "" then .neither
  else if m.arn ≠ "" ∧ m.arnLike ≠ "" then .both
  else if m.arn ≠ "" then .exact
  else .pattern

/-- An exact record: `arn` supplied, `arnLike` not. -/
def IsExact (m : Mapping p) : Prop := m.arn ≠ "" ∧ m.arnLike = ""

/-- A pattern record: `arnLike` supplied, `arn` not. -/
def IsPattern (m : Mapping p) : Prop := m.arn = "" ∧ m.arnLike ≠ ""

instance (m : Mapping p) : Decidable m.IsExact := inferInstanceAs (Decidable (_ ∧ _))
instance (m : Mapping p) : Decidable m.IsPattern := inferInstanceAs (Decidable (_ ∧ _))

@[simp] theorem supplied_eq_exact {m : Mapping p} : m.supplied = .exact ↔ m.IsExact := by
  unfold supplied IsExact; split_ifs <;> simp_all

@[simp] theorem supplied_eq_pattern {m : Mapping p} : m.supplied = .pattern ↔ m.IsPattern := by
  unfold supplied IsPattern; split_ifs <;> simp_all

theorem IsExact.not_isPattern {m : Mapping p} (h : m.IsExact) : ¬ m.IsPattern :=
  fun h' => h.1 h'.1

/-! ### `Validate` -/

/-- What `Validate` accepts: an exact ARN alone, or an ARN-like string alone
that matches the principal's shape. -/
def WellFormed (lib : Lib) (m : Mapping p) : Prop :=
  m.IsExact ∨ (m.IsPattern ∧ lib.arnLike m.arnLike p.shape = .ok true)

end Mapping

/-- The error texts of one `switch` over a record's identifying fields (in
`Validate`, `NewFileMapper` and `ParseMap`): none supplied, both supplied, and
a pattern that fails the shape check. -/
structure SwitchText where
  neither : String
  both : String
  notMatched : String → String

/-- The body shared by `RoleMapping.Validate` and `UserMapping.Validate`. -/
def validateWith (lib : Lib) (t : SwitchText) {p : Principal} (m : Mapping p) :
    Except String Unit :=
  if m.arn = "" ∧ m.arnLike = "" then .error t.neither
  else if m.arn ≠ "" ∧ m.arnLike ≠ "" then .error t.both
  else if m.arnLike ≠ "" then
    match lib.arnLike m.arnLike p.shape with
    | .error e => .error e
    | .ok true => .ok ()
    | .ok false => .error (t.notMatched m.arnLike)
  else .ok ()

/-- `RoleMapping.Validate`. -/
def RoleMapping.validate (lib : Lib) (m : RoleMapping) : Except String Unit :=
  validateWith lib
    ⟨"One of rolearn or rolearnLike must be supplied",
     "Only one of rolearn or rolearnLike can be supplied",
     fun s => "RoleARNLike \x27" ++ s ++ "\x27 did not match an ARN for an IAM Role"⟩ m

/-- `UserMapping.Validate`. -/
def UserMapping.validate (lib : Lib) (m : UserMapping) : Except String Unit :=
  validateWith lib
    ⟨"One of userarn or userarnLike must be supplied",
     "Only one of userarn or userarnLike can be supplied",
     fun s => "RoleARNLike \x27" ++ s ++ "\x27 did not match an ARN for an IAM User"⟩ m

/-- Whatever its texts, `Validate` accepts exactly the well-formed records. -/
theorem validateWith_eq_ok_iff (lib : Lib) (t : SwitchText) {p : Principal}
    (m : Mapping p) : validateWith lib t m = .ok () ↔ m.WellFormed lib := by
  unfold validateWith Mapping.WellFormed Mapping.IsExact Mapping.IsPattern
  split_ifs with h₁ h₂ h₃
  · simp_all
  · simp_all
  · split <;> simp_all
  · simp_all

/-! ### `Matches` and `Key` -/

/-- The body shared by `RoleMapping.Matches` and `UserMapping.Matches`: the
exact ARN compared as it is written, else `ArnLike` with its error read as no
match. -/
def Mapping.matches (lib : Lib) {p : Principal} (m : Mapping p) (subject : String) : Bool :=
  if m.arn ≠ "" then m.arn == subject
  else match lib.arnLike subject m.arnLike with
    | .ok b => b
    | .error _ => false

/-- `RoleMapping.Matches`. -/
def RoleMapping.matches (lib : Lib) (m : RoleMapping) (subject : String) : Bool :=
  Mapping.matches lib m subject

/-- `UserMapping.Matches`. -/
def UserMapping.matches (lib : Lib) (m : UserMapping) (subject : String) : Bool :=
  Mapping.matches lib m subject

/-- `RoleMapping.Key` and `UserMapping.Key`: whichever identifying field is set. -/
def Mapping.key {p : Principal} (m : Mapping p) : String :=
  if m.arn ≠ "" then m.arn else m.arnLike

/-! ### The pattern loop -/

/-- One iteration order of the loop
`for _, m := range table { ok, err := arnlike.ArnLike(arn, m.ARNLike); … }`:
the first error is returned, else the first record whose pattern matches, else
`none` when the loop falls through. -/
def firstArnLike (lib : Lib) (arn : String) {p : Principal} :
    List (Mapping p) → Except String (Option (Mapping p))
  | [] => .ok none
  | m :: ms =>
    match lib.arnLike arn m.arnLike with
    | .error e => .error e
    | .ok true => .ok (some m)
    | .ok false => firstArnLike lib arn ms

section Loop

variable {lib : Lib} {arn : String} {p : Principal}

@[simp] theorem firstArnLike_nil : firstArnLike lib arn ([] : List (Mapping p)) = .ok none := rfl

theorem firstArnLike_cons (m : Mapping p) (ms : List (Mapping p)) :
    firstArnLike lib arn (m :: ms) =
      match lib.arnLike arn m.arnLike with
      | .error e => .error e
      | .ok true => .ok (some m)
      | .ok false => firstArnLike lib arn ms := rfl

/-- The loop returns a record only if that record's pattern matches, and it is
a record of the table. -/
theorem firstArnLike_eq_ok_some {o : List (Mapping p)} {m : Mapping p}
    (h : firstArnLike lib arn o = .ok (some m)) :
    m ∈ o ∧ lib.arnLike arn m.arnLike = .ok true := by
  induction o with
  | nil => simp at h
  | cons x xs ih =>
    rw [firstArnLike_cons] at h
    split at h
    · cases h
    · cases h; simp [*]
    · exact (ih h).imp (List.mem_cons_of_mem x) id

/-- The loop falls through exactly when every pattern was compared without
error and none matched. -/
theorem firstArnLike_eq_ok_none {o : List (Mapping p)} :
    firstArnLike lib arn o = .ok none ↔ ∀ x ∈ o, lib.arnLike arn x.arnLike = .ok false := by
  induction o with
  | nil => simp
  | cons x xs ih =>
    rw [firstArnLike_cons]
    split <;> simp_all

/-- An error of the loop is the error of one of its `ArnLike` calls. -/
theorem firstArnLike_eq_error {o : List (Mapping p)} {e : String}
    (h : firstArnLike lib arn o = .error e) :
    ∃ x ∈ o, lib.arnLike arn x.arnLike = .error e := by
  induction o with
  | nil => simp at h
  | cons x xs ih =>
    rw [firstArnLike_cons] at h
    split at h
    · cases h; exact ⟨x, by simp, by assumption⟩
    · cases h
    · obtain ⟨y, hy, hye⟩ := ih h
      exact ⟨y, List.mem_cons_of_mem x hy, hye⟩

/-- A matching record visited first is returned. -/
theorem firstArnLike_of_head {m : Mapping p} (ms : List (Mapping p))
    (h : lib.arnLike arn m.arnLike = .ok true) : firstArnLike lib arn (m :: ms) = .ok (some m) := by
  rw [firstArnLike_cons, h]

end Loop

/-! ### Pattern tables -/

/-- The table `for _, m := range ms { t[m.ARNLike] = m }` builds: both mappers
fill their pattern tables this way. -/
def patternTable {p : Principal} (ms : List (Mapping p)) : GoMap (Mapping p) :=
  GoMap.build Mapping.arnLike id ms

section PatternTable

variable {lib : Lib} {arn : String} {p : Principal} {ms : List (Mapping p)}

/-- A pattern table holds, for each pattern, the last record of `ms` with it. -/
theorem mem_patternTable_values {m : Mapping p} :
    m ∈ (patternTable ms).values ↔ GoMap.lastWith Mapping.arnLike ms m.arnLike = some m := by
  rw [patternTable, GoMap.mem_values_build]
  constructor
  · rintro ⟨a, ha, rfl⟩; exact ha
  · exact fun h => ⟨m, h, rfl⟩

/-- Every pattern of `ms` has a record in the table. -/
theorem exists_patternTable_values {m : Mapping p} (hm : m ∈ ms) :
    ∃ m' ∈ (patternTable ms).values, m'.arnLike = m.arnLike := by
  have hsome : GoMap.lastWith Mapping.arnLike ms m.arnLike ≠ none := by
    simp only [GoMap.lastWith, ne_eq, List.find?_eq_none, not_forall, not_not]
    exact ⟨m, List.mem_reverse.mpr hm, by simp⟩
  obtain ⟨m', hm'⟩ := Option.ne_none_iff_exists'.mp hsome
  have hk := (GoMap.lastWith_key hm').1
  exact ⟨m', mem_patternTable_values.mpr (hk ▸ hm'), hk⟩

/-- A scan of a pattern table in any order returns only the last record of its
pattern, and only when it matches. -/
theorem firstArnLike_patternTable_some (o : (patternTable ms).Order) {m : Mapping p}
    (h : firstArnLike lib arn o.1 = .ok (some m)) :
    GoMap.lastWith Mapping.arnLike ms m.arnLike = some m ∧ lib.arnLike arn m.arnLike = .ok true :=
  let ⟨hm, hmatch⟩ := firstArnLike_eq_ok_some h
  ⟨mem_patternTable_values.mp (o.2.subset hm), hmatch⟩

/-- A scan of a pattern table falls through only when no pattern of `ms` matches
and none fails. -/
theorem firstArnLike_patternTable_none (o : (patternTable ms).Order)
    (h : firstArnLike lib arn o.1 = .ok none) : ∀ m ∈ ms, lib.arnLike arn m.arnLike = .ok false := by
  intro m hm
  obtain ⟨m', hm', hkey⟩ := exists_patternTable_values hm
  exact hkey ▸ firstArnLike_eq_ok_none.mp h m' (o.2.symm.subset hm')

/-- An error of a scan of a pattern table is the error of comparing with one of
the patterns of `ms`. -/
theorem firstArnLike_patternTable_error (o : (patternTable ms).Order) {e : String}
    (h : firstArnLike lib arn o.1 = .error e) : ∃ m ∈ ms, lib.arnLike arn m.arnLike = .error e := by
  obtain ⟨m, hm, he⟩ := firstArnLike_eq_error h
  exact ⟨m, (GoMap.lastWith_key (mem_patternTable_values.mp (o.2.subset hm))).2, he⟩

end PatternTable

end IamAuthenticator
