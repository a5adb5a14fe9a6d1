import IamAuthenticator.ConfigMap.ParseMap

/-!
# The `aws-auth` client

`AddRole` and `AddUser` of `pkg/mapper/configmap/client` add one record to the
`aws-auth` ConfigMap by a read-modify-write that `retry.RetryOnConflict`
re-runs while `Update` answers with a conflict: `getMap`, `ParseMap` of the
data, a duplicate check, `EncodeMap` of the lists with the record appended,
`updateMap`.

The source destructures five values from `ParseMap`, which returns six; the
model binds them by name, so the client reads the exact records
(`userMappings`, `roleMappings`) and the accounts, and the ARN-like lists are
neither checked nor written back. The duplicate check compares the ARN as
written with the exact records' ARNs. The record itself is not validated.

`addToData` is the retried function on the data `getMap` returned, and
`addToData_eq_ok` says when it writes and what. The server accepts an `Update`
only at the resourceVersion the client read, and then bumps it. `Cluster` is
a server and any number of `add` calls, each a small state machine; a step is
one call's `getMap`, or its `updateMap` with everything before it.
-/

namespace IamAuthenticator

/-- The errors of `AddRole`, `AddUser` and `add`. -/
inductive AddError
  | emptyRole
  | emptyUser
  | emptyRoleUser
  /-- `getMap` failed; `add` returns its error. -/
  | getFailed
  | parse (err : ErrParsingMap)
  | duplicateRole (arn : String)
  | duplicateUser (arn : String)
  /-- `updateMap` answered with a conflict on the last attempt `RetryOnConflict`
  makes. -/
  | conflict
  deriving DecidableEq, Repr

/-- `ErrParsingMap.Error`. -/
def ErrParsingMap.text (e : ErrParsingMap) : String :=
  "error parsing config map: [" ++ " ".intercalate e.errors ++ "]"

/-- The text of the errors the client writes itself (`%q` written as plain
double quotes); the errors of `getMap` and `updateMap` come from the API
server. -/
def AddError.message : AddError → Option String
  | .emptyRole => some "empty role"
  | .emptyUser => some "empty user"
  | .emptyRoleUser => some "empty role/user"
  | .getFailed => none
  | .parse e => some ("failed to parse configmap " ++ e.text)
  | .duplicateRole arn => some ("cannot add duplicate role ARN \"" ++ arn ++ "\"")
  | .duplicateUser arn => some ("cannot add duplicate user ARN \"" ++ arn ++ "\"")
  | .conflict => none

/-- The duplicate check of `add` and the append after it: the exact records
with `m` appended, or the error if one has `m`'s ARN as written. -/
def appendChecked {p : Principal} (dup : String → AddError) (ms : List (Mapping p))
    (m : Option (Mapping p)) : Except AddError (List (Mapping p)) :=
  match m with
  | none => .ok ms
  | some m => if ms.any (·.arn == m.arn) then .error (dup m.arn) else .ok (ms ++ [m])

/-- The function `add` hands to `RetryOnConflict`, from the data `getMap`
returned to the data it passes to `updateMap`. -/
def addToData (lib : Lib) (cx : Codec) (role : Option RoleMapping) (user : Option UserMapping)
    (data : Data) : Except AddError Data := do
  let parsed := parseMap lib cx data
  match parsed.err with
  | some e => .error (.parse e)
  | none =>
    let roleMappings ← appendChecked .duplicateRole parsed.roleMappings role
    let userMappings ← appendChecked .duplicateUser parsed.userMappings user
    pure (encodeMap cx userMappings roleMappings parsed.awsAccounts)

/-- Where one `add` call is. -/
inductive AddPc
  /-- The retried function is about to call `getMap`. -/
  | start
  /-- `getMap` returned the ConfigMap with this data and resourceVersion. -/
  | read (data : Data) (resourceVersion : Nat)
  /-- The call returned the data it wrote, or its error. -/
  | returned (result : Except AddError Data)

/-- One `AddRole` or `AddUser` call. -/
structure AddCall where
  role : Option RoleMapping
  user : Option UserMapping
  pc : AddPc
  /-- The attempts that ended in a conflict. -/
  conflicts : Nat

namespace AddCall

/-- `add(role, user, nil)`, before its first attempt. -/
def add (role : Option RoleMapping) (user : Option UserMapping) : AddCall :=
  match role, user with
  | none, none => ⟨none, none, .returned (.error .emptyRoleUser), 0⟩
  | role, user => ⟨role, user, .start, 0⟩

/-- `AddRole`. -/
def addRole : Option RoleMapping → AddCall
  | none => ⟨none, none, .returned (.error .emptyRole), 0⟩
  | some r => add (some r) none

/-- `AddUser`. -/
def addUser : Option UserMapping → AddCall
  | none => ⟨none, none, .returned (.error .emptyUser), 0⟩
  | some u => add none (some u)

/-- The call has returned without error. -/
def Succeeded (c : AddCall) : Prop := ∃ data, c.pc = .returned (.ok data)

end AddCall

/-- A call of `AddRole` or `AddUser`, with its argument (`none` for nil). -/
inductive AddRequest
  | addRole (role : Option RoleMapping)
  | addUser (user : Option UserMapping)

/-- The call a request starts. -/
def AddRequest.call : AddRequest → AddCall
  | .addRole role => AddCall.addRole role
  | .addUser user => AddCall.addUser user

/-- `AddRole(&m)` or `AddUser(&m)`, by the principal of `m`. -/
def AddRequest.ofMapping : (p : Principal) → Mapping p → AddRequest
  | .role, m => .addRole (some m)
  | .user, m => .addUser (some m)

/-- `retry.DefaultRetry.Steps`: how many attempts `RetryOnConflict` makes. -/
def defaultRetrySteps : Nat := 5

/-- The API server's copy of the `aws-auth` ConfigMap. -/
structure Server where
  data : Data
  resourceVersion : Nat

/-- The server and the `add` calls running against it. -/
structure Cluster where
  server : Server
  calls : List AddCall

/-- The next step: one call's `getMap`, answered or failed, or its
`updateMap` together with the parse, check and encode before it. -/
inductive ClusterInput
  | get (i : Nat)
  | getFailed (i : Nat)
  | update (i : Nat)

/-- The call a step belongs to. -/
def ClusterInput.call : ClusterInput → Nat
  | .get i | .getFailed i | .update i => i

namespace Cluster

variable (lib : Lib) (cx : Codec)

/-- Call `c` after its `updateMap` (or the error before it), and the server. -/
def afterUpdate (srv : Server) (c : AddCall) (data : Data) (version : Nat) : AddCall × Server :=
  match addToData lib cx c.role c.user data with
  | .error e => ({ c with pc := .returned (.error e) }, srv)
  | .ok data' =>
    if version = srv.resourceVersion then
      ({ c with pc := .returned (.ok data') }, ⟨data', srv.resourceVersion + 1⟩)
    else if c.conflicts + 1 < defaultRetrySteps then
      ({ c with pc := .start, conflicts := c.conflicts + 1 }, srv)
    else ({ c with pc := .returned (.error .conflict), conflicts := c.conflicts + 1 }, srv)

/-- Call `i` replaced by `c`. -/
def setCall (s : Cluster) (i : Nat) (c : AddCall) : Cluster := { s with calls := s.calls.set i c }

/-- One step of call `i`; `none` when there is no such call or it cannot take
that step. -/
def step (s : Cluster) : ClusterInput → Option Cluster
  | .get i =>
    match s.calls[i]? with
    | some c =>
      match c.pc with
      | .start => some (s.setCall i { c with pc := .read s.server.data s.server.resourceVersion })
      | _ => none
    | none => none
  | .getFailed i =>
    match s.calls[i]? with
    | some c =>
      match c.pc with
      | .start => some (s.setCall i { c with pc := .returned (.error .getFailed) })
      | _ => none
    | none => none
  | .update i =>
    match s.calls[i]? with
    | some c =>
      match c.pc with
      | .read data version =>
        let (c', srv) := afterUpdate lib cx s.server c data version
        some ⟨srv, s.calls.set i c'⟩
      | _ => none
    | none => none

def run (s : Cluster) : List ClusterInput → Option Cluster
  | [] => some s
  | i :: is => (step lib cx s i).bind (run · is)

end Cluster

/-! ### What one attempt writes -/

/-- The exact records of the principal `q` in what `ParseMap` returned. -/
def Parsed.exactOf (parsed : Parsed) : (q : Principal) → List (Mapping q)
  | .role => parsed.roleMappings
  | .user => parsed.userMappings

/-- The ARN-like records of the principal `q` in what `ParseMap` returned. -/
def Parsed.patternOf (parsed : Parsed) : (q : Principal) → List (Mapping q)
  | .role => parsed.roleArnLikeMappings
  | .user => parsed.userArnLikeMappings

/-- The record `add(role, user, nil)` adds for the principal `q`. -/
def addArg : (q : Principal) → Option RoleMapping → Option UserMapping → Option (Mapping q)
  | .role, role, _ => role
  | .user, _, user => user

theorem Principal.forall {P : Principal → Prop} : (∀ q, P q) ↔ P .role ∧ P .user :=
  ⟨fun h => ⟨h _, h _⟩, fun ⟨hr, hu⟩ q => by cases q <;> assumption⟩

theorem appendChecked_eq_ok {p : Principal} {dup : String → AddError} {ms ms' : List (Mapping p)}
    {m : Option (Mapping p)} :
    appendChecked dup ms m = .ok ms' ↔ (∀ a ∈ m, ∀ x ∈ ms, x.arn ≠ a.arn) ∧ ms' = ms ++ m.toList := by
  cases m with
  | none => simp [appendChecked, eq_comm]
  | some a =>
    by_cases h : ∃ x ∈ ms, x.arn = a.arn
    · obtain ⟨x, hx, hxa⟩ := h
      have : ms.any (·.arn == a.arn) = true := List.any_eq_true.2 ⟨x, hx, by simp [hxa]⟩
      simp only [appendChecked, this, if_true, reduceCtorEq, false_iff, not_and]
      exact fun h => absurd hxa (h a rfl x hx)
    · push_neg at h
      have : ms.any (·.arn == a.arn) = false := List.any_eq_false.2 fun x hx => by simp [h x hx]
      simp only [appendChecked, this, Bool.false_eq_true, if_false, Except.ok.injEq,
        Option.mem_def, Option.some.injEq, forall_eq', Option.toList_some]
      exact ⟨fun h' => ⟨h, h'.symm⟩, fun h' => h'.2.symm⟩

theorem appendChecked_eq_error {p : Principal} {dup : String → AddError} {ms : List (Mapping p)}
    {m : Option (Mapping p)} {e : AddError} (h : appendChecked dup ms m = .error e) :
    ∃ arn, e = dup arn := by
  unfold appendChecked at h
  split at h
  · cases h
  · split_ifs at h
    cases h
    exact ⟨_, rfl⟩

/-- **One attempt.** The retried function writes exactly when `ParseMap`
reports no error and no exact record of the principal has the ARN of the
record added, as written; it writes the exact records with the record
appended, and the accounts. -/
theorem addToData_eq_ok {lib : Lib} {cx : Codec} {role : Option RoleMapping}
    {user : Option UserMapping} {data data' : Data} :
    addToData lib cx role user data = .ok data' ↔
      (parseMap lib cx data).err = none ∧
      (∀ q, ∀ a ∈ addArg q role user, ∀ x ∈ (parseMap lib cx data).exactOf q, x.arn ≠ a.arn) ∧
      data' = encodeMap cx ((parseMap lib cx data).userMappings ++ user.toList)
        ((parseMap lib cx data).roleMappings ++ role.toList) (parseMap lib cx data).awsAccounts := by
  simp only [addToData, Principal.forall, addArg, Parsed.exactOf]
  cases (parseMap lib cx data).err with
  | some e => simp
  | none =>
    simp only [Except.bind_eq_ok, appendChecked_eq_ok, pure, Except.pure, Except.ok.injEq]
    constructor
    · rintro ⟨rs, ⟨hr, rfl⟩, us, ⟨hu, rfl⟩, rfl⟩
      exact ⟨trivial, ⟨hr, hu⟩, rfl⟩
    · rintro ⟨-, ⟨hr, hu⟩, rfl⟩
      exact ⟨_, ⟨hr, rfl⟩, _, ⟨hu, rfl⟩, rfl⟩

/-- The retried function never fails with a conflict: its own errors are the
parse error and the duplicate errors. -/
theorem addToData_ne_conflict (lib : Lib) (cx : Codec) (role : Option RoleMapping)
    (user : Option UserMapping) (data : Data) :
    addToData lib cx role user data ≠ .error .conflict := by
  intro h
  simp only [addToData] at h
  split at h
  · cases h
  · cases hr : appendChecked .duplicateRole (parseMap lib cx data).roleMappings role <;>
      cases hu : appendChecked .duplicateUser (parseMap lib cx data).userMappings user <;>
      rw [hr, hu] at h <;> cases h
    all_goals first
      | obtain ⟨_, ⟨⟩⟩ := appendChecked_eq_error hr
      | obtain ⟨_, ⟨⟩⟩ := appendChecked_eq_error hu

theorem filter_isExact_of_parseMap {lib : Lib} {cx : Codec} (data : Data) (q : Principal)
    (extra : List (Mapping q)) :
    ((parseMap lib cx data).exactOf q ++ extra).filter (·.IsExact) =
      (parseMap lib cx data).exactOf q ++ extra.filter (·.IsExact) := by
  rw [List.filter_append, List.filter_eq_self.2]
  intro x hx
  cases q
  · exact decide_eq_true (isExact_of_mem_roleMappings hx)
  · exact decide_eq_true (isExact_of_mem_userMappings hx)

theorem wellFormed_of_parseMap {lib : Lib} {cx : Codec} (data : Data) (q : Principal)
    (extra : List (Mapping q)) :
    (∀ x ∈ (parseMap lib cx data).exactOf q ++ extra, x.WellFormed lib) ↔
      ∀ x ∈ extra, x.WellFormed lib := by
  refine ⟨fun h x hx => h x (List.mem_append_right _ hx), fun h x hx => ?_⟩
  rcases List.mem_append.1 hx with hx | hx
  · cases q
    · exact .inl (isExact_of_mem_roleMappings hx)
    · exact .inl (isExact_of_mem_userMappings hx)
  · exact h x hx

/-- What `ParseMap` reads back from what one attempt wrote: each principal's
exact records with the added record after them if it is exact, the same
accounts, and an error exactly when the added record fails `Validate`. -/
theorem parseMap_of_addToData {lib : Lib} {cx : Codec} {role : Option RoleMapping}
    {user : Option UserMapping} {data data' : Data} (h : addToData lib cx role user data = .ok data') :
    (∀ q, (parseMap lib cx data').exactOf q =
      (parseMap lib cx data).exactOf q ++ (addArg q role user).toList.filter (·.IsExact)) ∧
    (parseMap lib cx data').awsAccounts = (parseMap lib cx data).awsAccounts ∧
    ((parseMap lib cx data').err = none ↔ ∀ q, ∀ a ∈ addArg q role user, a.WellFormed lib) := by
  obtain ⟨-, -, rfl⟩ := addToData_eq_ok.1 h
  obtain ⟨hu, -, hr, -, ha, herr⟩ := @parseMap_encodeMap lib cx
    ((parseMap lib cx data).userMappings ++ user.toList)
    ((parseMap lib cx data).roleMappings ++ role.toList) (parseMap lib cx data).awsAccounts
  refine ⟨Principal.forall.2 ⟨?_, ?_⟩, ha, ?_⟩
  · exact hr.trans (filter_isExact_of_parseMap data .role _)
  · exact hu.trans (filter_isExact_of_parseMap data .user _)
  · rw [herr, Principal.forall]
    exact and_comm.trans (and_congr ((wellFormed_of_parseMap data .role _).trans (by simp [addArg]))
      ((wellFormed_of_parseMap data .user _).trans (by simp [addArg])))

theorem isExact_of_mem_exactOf {lib : Lib} {cx : Codec} {data : Data} {q : Principal}
    {x : Mapping q} (hx : x ∈ (parseMap lib cx data).exactOf q) : x.IsExact := by
  cases q
  · exact isExact_of_mem_roleMappings hx
  · exact isExact_of_mem_userMappings hx

/-- What one attempt wrote has no ARN-like record but the record it added, when
that is a pattern: `EncodeMap` is given the exact lists only, so every ARN-like
record of the document read is gone. -/
theorem patternOf_of_addToData {lib : Lib} {cx : Codec} {role : Option RoleMapping}
    {user : Option UserMapping} {data data' : Data} (h : addToData lib cx role user data = .ok data')
    (q : Principal) :
    (parseMap lib cx data').patternOf q = (addArg q role user).toList.filter (·.IsPattern) := by
  obtain ⟨-, -, rfl⟩ := addToData_eq_ok.1 h
  obtain ⟨-, hu, -, hr, -⟩ := @parseMap_encodeMap lib cx
    ((parseMap lib cx data).userMappings ++ user.toList)
    ((parseMap lib cx data).roleMappings ++ role.toList) (parseMap lib cx data).awsAccounts
  have hnil : ((parseMap lib cx data).exactOf q).filter (·.IsPattern) = [] :=
    List.filter_eq_nil_iff.2 fun x hx => by simpa using (isExact_of_mem_exactOf hx).not_isPattern
  cases q <;> simp only [Parsed.patternOf, Parsed.exactOf, addArg, hr, hu, List.filter_append] at hnil ⊢ <;>
    rw [hnil, List.nil_append]

/-! ### One call alone -/

section Alone

variable {p : Principal} (m : Mapping p)

theorem ofMapping_call_pc : (AddRequest.ofMapping p m).call.pc = .start := by
  cases p <;> rfl

theorem addArg_ofMapping_self :
    addArg p (AddRequest.ofMapping p m).call.role (AddRequest.ofMapping p m).call.user = some m := by
  cases p <;> rfl

theorem addArg_ofMapping_ne {q : Principal} (hq : q ≠ p) :
    addArg q (AddRequest.ofMapping p m).call.role (AddRequest.ofMapping p m).call.user = none := by
  cases p <;> cases q <;> first | rfl | exact absurd rfl hq

theorem forall_addArg_ofMapping {R : (q : Principal) → Mapping q → Prop} :
    (∀ q, ∀ a ∈ addArg q (AddRequest.ofMapping p m).call.role (AddRequest.ofMapping p m).call.user,
      R q a) ↔ R p m := by
  cases p <;> simp [AddRequest.ofMapping, AddRequest.call, AddCall.addRole, AddCall.addUser,
    AddCall.add, addArg, Principal.forall]

end Alone

/-- A call that is about to `getMap`, alone against the server: its `getMap`
and `updateMap` run `addToData` on the server's data, and the server takes the
result at the version read. -/
theorem Cluster.run_alone (lib : Lib) (cx : Codec) (c : AddCall) (hc : c.pc = .start) (d : Data)
    (v : Nat) :
    Cluster.run lib cx ⟨⟨d, v⟩, [c]⟩ [.get 0, .update 0] =
      some (match addToData lib cx c.role c.user d with
        | .ok d' => ⟨⟨d', v + 1⟩, [{ c with pc := .returned (.ok d') }]⟩
        | .error e => ⟨⟨d, v⟩, [{ c with pc := .returned (.error e) }]⟩) := by
  simp only [Cluster.run, Cluster.step, List.getElem?_cons_zero, hc, Option.some_bind,
    Cluster.setCall, List.set_cons_zero, Cluster.afterUpdate, if_true]
  cases addToData lib cx c.role c.user d <;> rfl

/-- **Adding alone.** When `Get` and `Update` meet no other writer, `AddRole(m)`
or `AddUser(m)` for a record with an exact ARN succeeds exactly when `ParseMap`
reports no error on the document and no exact record of the principal has
`m`'s ARN as written; the record is not validated. On success the document
written parses to the principal's exact records with `m` appended if it is
exact, the other principal's records and the accounts as they were, and an
error exactly when `m` fails `Validate`; on failure the server's copy is
untouched. -/
theorem add_alone (lib : Lib) (cx : Codec) (p : Principal) (m : Mapping p) (_hm : m.arn ≠ "")
    (d : Data) (v : Nat) :
    ∃ s c, Cluster.run lib cx ⟨⟨d, v⟩, [(AddRequest.ofMapping p m).call]⟩ [.get 0, .update 0] =
        some s ∧ s.calls = [c] ∧
      (c.Succeeded ↔ (parseMap lib cx d).err = none ∧
        ∀ x ∈ (parseMap lib cx d).exactOf p, x.arn ≠ m.arn) ∧
      ((parseMap lib cx d).err = none ∧ (∀ x ∈ (parseMap lib cx d).exactOf p, x.arn ≠ m.arn) →
        s.server.resourceVersion = v + 1 ∧
        (parseMap lib cx s.server.data).exactOf p =
          (parseMap lib cx d).exactOf p ++ [m].filter (·.IsExact) ∧
        (∀ q, q ≠ p → (parseMap lib cx s.server.data).exactOf q = (parseMap lib cx d).exactOf q) ∧
        (parseMap lib cx s.server.data).awsAccounts = (parseMap lib cx d).awsAccounts ∧
        ((parseMap lib cx s.server.data).err = none ↔ m.WellFormed lib)) ∧
      (¬ ((parseMap lib cx d).err = none ∧ ∀ x ∈ (parseMap lib cx d).exactOf p, x.arn ≠ m.arn) →
        s.server = ⟨d, v⟩) := by
  set c := (AddRequest.ofMapping p m).call
  have hok : ∀ d', addToData lib cx c.role c.user d = .ok d' ↔
      ((parseMap lib cx d).err = none ∧ ∀ x ∈ (parseMap lib cx d).exactOf p, x.arn ≠ m.arn) ∧
      d' = encodeMap cx ((parseMap lib cx d).userMappings ++ c.user.toList)
        ((parseMap lib cx d).roleMappings ++ c.role.toList) (parseMap lib cx d).awsAccounts := by
    intro d'
    rw [addToData_eq_ok, forall_addArg_ofMapping m (R := fun q a =>
      ∀ x ∈ (parseMap lib cx d).exactOf q, x.arn ≠ a.arn), and_assoc]
  rw [Cluster.run_alone lib cx c (ofMapping_call_pc m)]
  cases h : addToData lib cx c.role c.user d with
  | ok d' =>
    obtain ⟨hcond, -⟩ := (hok d').1 h
    obtain ⟨hx, ha, herr⟩ := parseMap_of_addToData h
    refine ⟨_, _, rfl, rfl, iff_of_true ⟨d', rfl⟩ hcond, fun _ => ⟨rfl, ?_, fun q hq => ?_, ha, ?_⟩,
      fun hn => absurd hcond hn⟩
    · rw [hx, addArg_ofMapping_self]; rfl
    · rw [hx, addArg_ofMapping_ne m hq]; simp
    · rw [herr, forall_addArg_ofMapping m (R := fun _ a => a.WellFormed lib)]
  | error e =>
    have hcond : ¬ ((parseMap lib cx d).err = none ∧
        ∀ x ∈ (parseMap lib cx d).exactOf p, x.arn ≠ m.arn) := fun hc' => by
      rw [(hok _).2 ⟨hc', rfl⟩] at h; cases h
    exact ⟨_, _, rfl, rfl, iff_of_false (fun ⟨_, h'⟩ => by cases h') hcond,
      fun h' => absurd h' hcond, fun _ => rfl⟩

/-- A user record with both `userarn` and `userarnLike` set. -/
def bothFieldsUser : UserMapping := ⟨"arn:aws:iam::1:user/x", "arn:aws:iam::1:user/*", "x", []⟩

/-- `AddUser` of `bothFieldsUser` on the empty document: the document parses,
the record fails `UserMapping.Validate`, and the call succeeds. -/
theorem add_accepts_invalid :
    (parseMap referenceLib wireCodec ∅).err = none ∧
    UserMapping.validate referenceLib bothFieldsUser ≠ .ok () ∧
    ∃ s c, Cluster.run referenceLib wireCodec
        ⟨⟨∅, 0⟩, [(AddRequest.ofMapping .user bothFieldsUser).call]⟩ [.get 0, .update 0] = some s ∧
      s.calls = [c] ∧ c.Succeeded :=
  ⟨by decide, by decide, _, _, rfl, rfl, _, rfl⟩

/-- A document with an exact user record, an exact role record and an
account. -/
def recordsDoc : Data :=
  encodeMap wireCodec [⟨"arn:aws:iam::1:user/y", "", "y", []⟩]
    [⟨"arn:aws:iam::1:role/r", "", "r", ["admins"]⟩] ["1"]

/-- `add_alone` for `bothFieldsUser` on `recordsDoc`. -/
theorem add_alone_bothFields :
    bothFieldsUser.arn ≠ "" ∧
    ∃ s c, Cluster.run referenceLib wireCodec
        ⟨⟨recordsDoc, 0⟩, [(AddRequest.ofMapping .user bothFieldsUser).call]⟩ [.get 0, .update 0] =
        some s ∧ s.calls = [c] ∧
      (c.Succeeded ↔ (parseMap referenceLib wireCodec recordsDoc).err = none ∧
        ∀ x ∈ (parseMap referenceLib wireCodec recordsDoc).exactOf .user,
          x.arn ≠ bothFieldsUser.arn) ∧
      ((parseMap referenceLib wireCodec recordsDoc).err = none ∧
          (∀ x ∈ (parseMap referenceLib wireCodec recordsDoc).exactOf .user,
            x.arn ≠ bothFieldsUser.arn) →
        s.server.resourceVersion = 0 + 1 ∧
        (parseMap referenceLib wireCodec s.server.data).exactOf .user =
          (parseMap referenceLib wireCodec recordsDoc).exactOf .user ++
            [bothFieldsUser].filter (·.IsExact) ∧
        (∀ q, q ≠ .user → (parseMap referenceLib wireCodec s.server.data).exactOf q =
          (parseMap referenceLib wireCodec recordsDoc).exactOf q) ∧
        (parseMap referenceLib wireCodec s.server.data).awsAccounts =
          (parseMap referenceLib wireCodec recordsDoc).awsAccounts ∧
        ((parseMap referenceLib wireCodec s.server.data).err = none ↔
          bothFieldsUser.WellFormed referenceLib)) ∧
      (¬ ((parseMap referenceLib wireCodec recordsDoc).err = none ∧
          ∀ x ∈ (parseMap referenceLib wireCodec recordsDoc).exactOf .user,
            x.arn ≠ bothFieldsUser.arn) →
        s.server = ⟨recordsDoc, 0⟩) :=
  ⟨by decide, add_alone referenceLib wireCodec .user bothFieldsUser (by decide) recordsDoc 0⟩

end IamAuthenticator
