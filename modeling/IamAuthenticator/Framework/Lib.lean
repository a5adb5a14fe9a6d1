import Mathlib.Data.List.Basic

/-!
# The library functions the mapper calls

The mapper code calls three functions that the modelled files do not define:
Go's `strings.ToLower`, `ArnLike` of the imported `arnlike` module, and
`Canonicalize` of the repository's `pkg/arn`. The model takes them as one
parameter, `Lib`, and every theorem about the mapper holds for every `Lib`.

`ArnLike(arn, pattern)` returns `(bool, error)`, and the callers read the
boolean only when the error is nil, so the model's `arnLike` returns
`Except String Bool`. Its first argument is the candidate and its second the
pattern: `Validate` calls it with the mapping's ARN-like string as the
*candidate* and the principal's shape pattern as the pattern, the lookups with
the incoming ARN as the candidate and the mapping's ARN-like string as the
pattern.

`referenceLib` is one concrete `Lib`, used only to evaluate the model at fixed
inputs (witnesses and counterexamples). Its `arnLike` and `canonicalize` follow
the spec's description of the ARN matcher, since neither source is in the
repository: a glob comparison over the whole string (`*` any run of characters,
`?` any single one) with an error for a malformed candidate, and a shape check
that returns the lower-cased ARN.
-/

namespace IamAuthenticator

/-! ### Error returns

A Go function returning `(T, error)` is a function into `Except String T`, and a
sequence of calls each followed by `if err != nil { return … }` is a `do` block
in `Except`. These two lemmas run such a block. -/

@[simp] theorem Except.ok_bind {ε α β : Type} (a : α) (f : α → Except ε β) :
    (Except.ok a >>= f) = f a := rfl

@[simp] theorem Except.error_bind {ε α β : Type} (e : ε) (f : α → Except ε β) :
    (Except.error e >>= f) = Except.error e := rfl

/-- A block returns `b` exactly when its first call returns some `a` and the
rest returns `b` from it. -/
theorem Except.bind_eq_ok {ε α β : Type} {x : Except ε α} {f : α → Except ε β} {b : β} :
    x >>= f = .ok b ↔ ∃ a, x = .ok a ∧ f a = .ok b := by
  cases x <;> simp

instance Except.instDecidableEq {ε α : Type} [DecidableEq ε] [DecidableEq α] :
    DecidableEq (Except ε α)
  | .ok a, .ok b => if h : a = b then isTrue (h ▸ rfl) else isFalse (fun e => h (by cases e; rfl))
  | .error a, .error b =>
    if h : a = b then isTrue (h ▸ rfl) else isFalse (fun e => h (by cases e; rfl))
  | .ok _, .error _ => isFalse (fun e => by cases e)
  | .error _, .ok _ => isFalse (fun e => by cases e)

theorem Except.toOption_eq_some {ε α : Type} {x : Except ε α} {a : α} :
    x.toOption = some a ↔ x = .ok a := by
  cases x <;> simp [Except.toOption]

/-- The functions the mapper code calls but the modelled files do not define. -/
structure Lib where
  /-- `strings.ToLower`. -/
  toLower : String → String
  /-- `arnlike.ArnLike(arn, pattern)`. -/
  arnLike : String → String → Except String Bool
  /-- `arn.Canonicalize`. -/
  canonicalize : String → Except String String

/-- Glob comparison of a pattern against a whole string: `*` matches any run of
characters and `?` any single one. Structural in the pattern. -/
def globMatch : List Char → List Char → Bool
  | [], s => s.isEmpty
  | '*' :: ps, s => (List.range (s.length + 1)).any fun i => globMatch ps (s.drop i)
  | '?' :: ps, s => match s with
    | [] => false
    | _ :: s => globMatch ps s
  | p :: ps, s => match s with
    | [] => false
    | c :: s => p == c && globMatch ps s

/-- Modelled from the spec: `arnlike.ArnLike`, imported from outside the
repository. "Glob comparison using `*`/`?` semantics over the full string",
with an error return for a candidate that is not an ARN. -/
def specArnLike (arn pattern : String) : Except String Bool :=
  if "arn:".data.isPrefixOf arn.data then .ok (globMatch pattern.data arn.data)
  else .error "could not parse input arn"

/-- ASCII lower-casing, structural in the string. -/
def asciiToLower (s : String) : String := ⟨s.data.map Char.toLower⟩

/-- Modelled from the spec: `arn.Canonicalize`, absent from the repository
snapshot. It "validates ARN shape and returns the lower-cased canonical form",
the shape being `arn:<partition>:iam::<account>:<role|user>/<name>`. -/
def specCanonicalize (arn : String) : Except String String :=
  if globMatch "arn:*:iam::*:role/*".data arn.data || globMatch "arn:*:iam::*:user/*".data arn.data
  then .ok (asciiToLower arn) else .error "arn is not an IAM role or user ARN"

/-- The concrete `Lib` the fixed-input theorems are evaluated with. -/
def referenceLib : Lib where
  toLower := asciiToLower
  arnLike := specArnLike
  canonicalize := specCanonicalize

end IamAuthenticator
