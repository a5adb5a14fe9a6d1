import IamAuthenticator.Config.Mapping

/-!
# The document codec

`ParseMap` and `EncodeMap` read and write the three text fields of the
`aws-auth` ConfigMap through serialization libraries: `utilyaml.ToJSON` and
`json.Unmarshal` for the record lists, `yaml.Unmarshal` for the account list,
and `yaml.Marshal` for writing all three. The model takes them as one
parameter, `Codec`, that carries the one law the code relies on: what
`yaml.Marshal` writes, the readers read back unchanged and without error
(`mappings_roundTrip`, `accounts_roundTrip`).

`json.Unmarshal` into a slice can fail after decoding part of it, so an
unmarshal returns the records it decoded together with an optional error.

`wireCodec` is one concrete lawful codec, used only to evaluate the model at
fixed inputs. It writes each string with a unary length prefix, so that reading
back needs no escaping (`decStr_encStr`, `decList_encList`).
-/

namespace IamAuthenticator

/-- The serialization functions `ParseMap` and `EncodeMap` call, with the
round-trip law they satisfy on what `EncodeMap` writes. -/
structure Codec where
  /-- `utilyaml.ToJSON`. -/
  toJSON : String → Except String String
  /-- `json.Unmarshal` into `[]config.RoleMapping` or `[]config.UserMapping`:
  the records decoded and the error, if any. -/
  unmarshalMappings : (p : Principal) → String → List (Mapping p) × Option String
  /-- `yaml.Unmarshal` into `[]string`. -/
  unmarshalAccounts : String → List String × Option String
  /-- `yaml.Marshal` of a record list. -/
  marshalMappings : (p : Principal) → List (Mapping p) → String
  /-- `yaml.Marshal` of an account list. -/
  marshalAccounts : List String → String
  mappings_roundTrip : ∀ p ms, (toJSON (marshalMappings p ms)).map (unmarshalMappings p) =
    .ok (ms, none)
  accounts_roundTrip : ∀ as, unmarshalAccounts (marshalAccounts as) = (as, none)

/-! ### A concrete codec -/

namespace Wire

variable {α : Type}

/-- A count in unary, closed by a dot. -/
def encNat (n : Nat) : List Char := List.replicate n '#' ++ ['.']

/-- Reads a unary count, `n` counted so far. -/
def decNat : List Char → Nat → Option (Nat × List Char)
  | '#' :: cs, n => decNat cs (n + 1)
  | '.' :: cs, n => some (n, cs)
  | _, _ => none

theorem decNat_encNat (n k : Nat) (r : List Char) :
    decNat (encNat n ++ r) k = some (k + n, r) := by
  induction n generalizing k with
  | zero => rfl
  | succ n ih =>
    show decNat (encNat n ++ r) (k + 1) = some (k + (n + 1), r)
    rw [ih, Nat.add_right_comm, Nat.add_assoc]

/-- A string as its length followed by its characters. -/
def encStr (s : String) : List Char := encNat s.length ++ s.data

def decStr (cs : List Char) : Option (String × List Char) :=
  match decNat cs 0 with
  | some (n, rest) => if n ≤ rest.length then some (⟨rest.take n⟩, rest.drop n) else none
  | none => none

theorem decStr_encStr (s : String) (r : List Char) : decStr (encStr s ++ r) = some (s, r) := by
  obtain ⟨cs⟩ := s
  simp [decStr, encStr, String.length, decNat_encNat]

/-- A list as its length followed by its items. -/
def encList (enc : α → List Char) (xs : List α) : List Char :=
  encNat xs.length ++ xs.foldr (fun x acc => enc x ++ acc) []

/-- Reads `n` items. -/
def decItems (dec : List Char → Option (α × List Char)) : Nat → List Char → Option (List α × List Char)
  | 0, cs => some ([], cs)
  | n + 1, cs =>
    match dec cs with
    | some (x, cs) => (decItems dec n cs).map fun (xs, cs) => (x :: xs, cs)
    | none => none

def decList (dec : List Char → Option (α × List Char)) (cs : List Char) :
    Option (List α × List Char) :=
  match decNat cs 0 with
  | some (n, cs) => decItems dec n cs
  | none => none

theorem decList_encList {enc : α → List Char} {dec : List Char → Option (α × List Char)}
    (h : ∀ x r, dec (enc x ++ r) = some (x, r)) (xs : List α) (r : List Char) :
    decList dec (encList enc xs ++ r) = some (xs, r) := by
  have items : ∀ xs : List α, decItems dec xs.length (xs.foldr (fun x acc => enc x ++ acc) [] ++ r)
      = some (xs, r) := by
    intro xs
    induction xs with
    | nil => rfl
    | cons x xs ih => simp [decItems, List.append_assoc, h, ih]
  simp [decList, encList, List.append_assoc, decNat_encNat, items]

/-- A record as its four fields. -/
def encMapping {p : Principal} (m : Mapping p) : List Char :=
  encStr m.arn ++ encStr m.arnLike ++ encStr m.username ++ encList encStr m.groups

def decMapping {p : Principal} (cs : List Char) : Option (Mapping p × List Char) := do
  let (arn, cs) ← decStr cs
  let (arnLike, cs) ← decStr cs
  let (username, cs) ← decStr cs
  let (groups, cs) ← decList decStr cs
  pure (⟨arn, arnLike, username, groups⟩, cs)

theorem decMapping_encMapping {p : Principal} (m : Mapping p) (r : List Char) :
    decMapping (encMapping m ++ r) = some (m, r) := by
  simp [decMapping, encMapping, List.append_assoc, decStr_encStr, decList_encList decStr_encStr]

/-- Reads a whole text as one list. -/
def readAll (dec : List Char → Option (α × List Char)) (s : String) : List α × Option String :=
  match decList dec s.data with
  | some (xs, []) => (xs, none)
  | _ => ([], some "cannot unmarshal")

theorem readAll_encList {enc : α → List Char} {dec : List Char → Option (α × List Char)}
    (h : ∀ x r, dec (enc x ++ r) = some (x, r)) (xs : List α) :
    readAll dec ⟨encList enc xs⟩ = (xs, none) := by
  have := decList_encList h xs []
  rw [List.append_nil] at this
  simp [readAll, this]

end Wire

/-- A concrete lawful codec. -/
def wireCodec : Codec where
  toJSON := .ok
  unmarshalMappings _ := Wire.readAll Wire.decMapping
  unmarshalAccounts := Wire.readAll Wire.decStr
  marshalMappings _ ms := ⟨Wire.encList Wire.encMapping ms⟩
  marshalAccounts as := ⟨Wire.encList Wire.encStr as⟩
  mappings_roundTrip _ ms := by
    simp [Except.map, Wire.readAll_encList Wire.decMapping_encMapping]
  accounts_roundTrip as := Wire.readAll_encList Wire.decStr_encStr as

end IamAuthenticator
