import Mathlib.Data.List.GetD
import IamAuthenticator.ConfigMap.Store

/-!
# One `Map` call against concurrent `saveMap` calls

`ConfigMapMapper.Map` makes up to four lookups, and each takes and releases
the store's read lock on its own. The watcher's `saveMap` takes the write lock
and replaces all five tables at once, so it can land between two lookups of
one call. `MapRun` is that system: the store, one `Map` call that takes its
lookups one step at a time, and `saveMap` steps in between.

Two ghost fields record what happened: `gens`, every store generation since
the call began, in order, and `reads`, for each lookup taken, which generation
it read. The run invariant `MapRun.Inv` ties them to the call's state: the
lookups taken so far all missed, except the last one if the call has returned.
With `mapAcross_eq_lookups` this gives **the interleaving theorem**
(`map_interleaved`): the result of the call is `mapAcross` of four generations,
current at the four lookups, in order.

The four can differ, so the result need not be one `Map` can have on any
single generation (`map_mixes_generations`): a role pattern of a later
generation can resolve an ARN that every generation current during the call
resolves through an exact record.
-/

namespace IamAuthenticator

/-- One `Map(a)` call running alongside `saveMap` calls. -/
structure MapRun where
  store : MapStore
  /-- The store generations since the call began, the last being `store`. -/
  gens : List MapStore
  /-- For each lookup taken, the index in `gens` of the generation it read. -/
  reads : List Nat
  /-- What the call returned, once it has. -/
  result : Option (Except MapError IdentityMapping)

/-- What happens next: a `saveMap` of the watcher, or the call's next lookup. -/
inductive MapRunInput
  | save (userMappings userArnLikeMappings : List UserMapping)
      (roleMappings roleArnLikeMappings : List RoleMapping) (awsAccounts : List String)
  | lookup

namespace MapRun

/-- The call about to take its first lookup on the store `ms`. -/
def start (ms : MapStore) : MapRun := ⟨ms, [ms], [], none⟩

variable (lib : Lib) (ordR : ∀ t : GoMap RoleMapping, t.Order)
  (ordU : ∀ t : GoMap UserMapping, t.Order) (arn : String)

/-- `saveMap` installs the generation `g`. -/
def install (c : MapRun) (g : MapStore) : MapRun :=
  { c with store := g, gens := c.gens ++ [g] }

/-- The call takes its next lookup, on the current generation. -/
def lookup (c : MapRun) : MapRun :=
  { c with
    reads := c.reads ++ [c.gens.length - 1]
    result := mapLookup lib ordR ordU arn c.store c.reads.length }

/-- One step; a lookup cannot happen once the call has returned. -/
def step (c : MapRun) : MapRunInput → Option MapRun
  | .save u ul r rl as => some (c.install (MapStore.saveMap lib u ul r rl as))
  | .lookup =>
    match c.result with
    | some _ => none
    | none => some (c.lookup lib ordR ordU arn)

def run (c : MapRun) : List MapRunInput → Option MapRun
  | [] => some c
  | i :: is => (step lib ordR ordU arn c i).bind (run · is)

/-- The generation lookup `j` read. -/
def read (c : MapRun) (j : Nat) : MapStore := c.gens.getD (c.reads.getD j 0) MapStore.empty

/-- The run invariant: `store` is the last generation, each lookup read a
generation current at or after the one before it, the lookups taken all
missed except the last one of a call that has returned, and that one gave the
result. -/
structure Inv (c : MapRun) : Prop where
  current : c.gens.getLast? = some c.store
  bound : ∀ j, c.reads.getD j 0 < c.gens.length
  mono : ∀ a b, a ≤ b → b < c.reads.length → c.reads.getD a 0 ≤ c.reads.getD b 0
  missed : ∀ j < c.reads.length, (c.result = none ∨ j + 1 < c.reads.length) →
    mapLookup lib ordR ordU arn (c.read j) j = none
  hit : ∀ r, c.result = some r →
    ∃ k < 4, c.reads.length = k + 1 ∧ mapLookup lib ordR ordU arn (c.read k) k = some r
  pending : c.result = none → c.reads.length < 4

end MapRun

theorem List.getD_concat_nat (l : List Nat) (x j : Nat) :
    (l ++ [x]).getD j 0 = if j < l.length then l.getD j 0 else if j = l.length then x else 0 := by
  split_ifs with h₁ h₂
  · exact List.getD_append _ _ _ _ h₁
  · subst h₂; simp
  · rw [List.getD_eq_default]; simp; omega

namespace MapRun

variable {lib : Lib} {ordR : ∀ t : GoMap RoleMapping, t.Order}
  {ordU : ∀ t : GoMap UserMapping, t.Order} {arn : String}

theorem inv_start (ms : MapStore) : Inv lib ordR ordU arn (start ms) where
  current := rfl
  bound _ := by simp [start]
  mono _ _ _ h := absurd h (Nat.not_lt_zero _)
  missed _ h := absurd h (Nat.not_lt_zero _)
  hit _ h := nomatch h
  pending _ := by simp [start]

/-- A `saveMap` appends a generation and changes no lookup's generation. -/
theorem inv_install {c : MapRun} (hc : Inv lib ordR ordU arn c) (g : MapStore) :
    Inv lib ordR ordU arn (c.install g) := by
  have hread : ∀ j, (c.install g).read j = c.read j :=
    fun j => List.getD_append _ _ _ _ (hc.bound j)
  exact {
    current := List.getLast?_concat _
    bound := fun j => show c.reads.getD j 0 < (c.gens ++ [g]).length by
      rw [List.length_append]; exact Nat.lt_succ_of_lt (hc.bound j)
    mono := hc.mono
    missed := fun j hj h => by rw [hread]; exact hc.missed j hj h
    hit := fun r' h => by simp only [hread]; exact hc.hit r' h
    pending := hc.pending }

/-- A lookup reads the current generation; the call returns if it hits. -/
theorem inv_lookup {c : MapRun} (hc : Inv lib ordR ordU arn c) (hr : c.result = none) :
    Inv lib ordR ordU arn (c.lookup lib ordR ordU arn) := by
  set c' := c.lookup lib ordR ordU arn
  have hne : 0 < c.gens.length := (hc.bound 0).trans_le' (Nat.zero_le _)
  have hold : ∀ j < c.reads.length, c'.read j = c.read j := fun j hj => by
    show c.gens.getD ((c.reads ++ [c.gens.length - 1]).getD j 0) _ = _
    rw [List.getD_concat_nat, if_pos hj]; rfl
  have hnew : c'.read c.reads.length = c.store := by
    show c.gens.getD ((c.reads ++ [c.gens.length - 1]).getD c.reads.length 0) _ = _
    rw [List.getD_concat_nat, if_neg (lt_irrefl _), if_pos rfl, List.getD_eq_getElem?_getD,
      ← List.getLast?_eq_getElem?, hc.current]
    rfl
  have hlen : c'.reads.length = c.reads.length + 1 := by simp [c', lookup]
  have hpend := hc.pending hr
  refine ⟨hc.current, fun j => ?_, fun a b hab hb => ?_, fun j hj h => ?_, fun r' h => ?_,
    fun h => ?_⟩
  · show (c.reads ++ [c.gens.length - 1]).getD j 0 < c.gens.length
    rw [List.getD_concat_nat]
    split_ifs <;> first | exact hc.bound j | omega
  · have := hc.bound a
    show (c.reads ++ [c.gens.length - 1]).getD a 0 ≤ (c.reads ++ [c.gens.length - 1]).getD b 0
    rw [List.getD_concat_nat, List.getD_concat_nat]
    split_ifs <;> first | exact hc.mono a b hab ‹_› | omega
  · rcases Nat.lt_succ_iff_lt_or_eq.1 (hlen ▸ hj) with hj' | rfl
    · rw [hold j hj']; exact hc.missed j hj' (.inl hr)
    · rw [hnew]
      rcases h with h | h
      · exact h
      · omega
  · refine ⟨c.reads.length, hpend, hlen, ?_⟩
    rw [hnew]; exact h
  · rw [hlen]
    have : c.reads.length ≠ 3 := fun h3 => by
      have := mapLookup_isSome_of_three_le lib ordR ordU arn c.store (k := c.reads.length) h3.ge
      simp_all [c', lookup]
    omega

theorem inv_step {c c' : MapRun} {i : MapRunInput} (hc : Inv lib ordR ordU arn c)
    (h : step lib ordR ordU arn c i = some c') : Inv lib ordR ordU arn c' := by
  cases i with
  | save u ul r rl as => cases h; exact inv_install hc _
  | lookup =>
    simp only [step] at h
    split at h
    · cases h
    · cases h; exact inv_lookup hc ‹_›

theorem inv_run {c c' : MapRun} {is : List MapRunInput} (hc : Inv lib ordR ordU arn c)
    (h : run lib ordR ordU arn c is = some c') : Inv lib ordR ordU arn c' := by
  induction is generalizing c with
  | nil => cases h; exact hc
  | cons i is ih =>
    obtain ⟨c₁, h₁, h₂⟩ := Option.bind_eq_some.1 h
    exact ih (inv_step hc h₁) h₂

end MapRun

/-- **The interleaving theorem.** Whatever `saveMap` calls land between the
lookups of a `Map(a)` call, the call, once it has returned, has returned
`mapAcross` of four generations, current at its four lookups, in order. -/
theorem map_interleaved (lib : Lib) (ordR : ∀ t : GoMap RoleMapping, t.Order)
    (ordU : ∀ t : GoMap UserMapping, t.Order) (a : String) (ms : MapStore)
    (inputs : List MapRunInput) (c : MapRun) (r : Except MapError IdentityMapping)
    (h : MapRun.run lib ordR ordU (lib.toLower a) (MapRun.start ms) inputs = some c)
    (hr : c.result = some r) :
    ∃ i₁ i₂ i₃ i₄ : Nat, i₁ ≤ i₂ ∧ i₂ ≤ i₃ ∧ i₃ ≤ i₄ ∧ i₄ < c.gens.length ∧
      r = mapAcross lib (c.gens.getD i₁ .empty) (c.gens.getD i₂ .empty)
        (c.gens.getD i₃ .empty) (c.gens.getD i₄ .empty) (ordR _) (ordU _) a := by
  have hc := MapRun.inv_run (MapRun.inv_start ms) h
  obtain ⟨k, hk, hlen, hhit⟩ := hc.hit r hr
  have hmiss : ∀ j < k, mapLookup lib ordR ordU (lib.toLower a) (c.read j) j = none :=
    fun j hj => hc.missed j (by omega) (.inr (by omega))
  refine ⟨c.reads.getD (min 0 k) 0, c.reads.getD (min 1 k) 0, c.reads.getD (min 2 k) 0,
    c.reads.getD (min 3 k) 0, hc.mono _ _ (by omega) (by omega),
    hc.mono _ _ (by omega) (by omega), hc.mono _ _ (by omega) (by omega), hc.bound _, ?_⟩
  rw [mapAcross_eq_lookups]
  simp only [MapRun.read, List.getD_eq_getElem?_getD] at hhit hmiss
  obtain rfl | rfl | rfl | rfl : k = 0 ∨ k = 1 ∨ k = 2 ∨ k = 3 := by omega
  all_goals simp [hhit, hmiss]

/-- **No save, no mix.** A `Map` call that no `saveMap` interrupts returns
after at most four lookups, with what `ConfigMapMapper.Map` returns on the
store. -/
theorem map_uninterrupted (lib : Lib) (ordR : ∀ t : GoMap RoleMapping, t.Order)
    (ordU : ∀ t : GoMap UserMapping, t.Order) (a : String) (ms : MapStore) :
    ∃ n ≤ 4, ∃ c, MapRun.run lib ordR ordU (lib.toLower a) (MapRun.start ms)
        (List.replicate n .lookup) = some c ∧
      c.result = some (ConfigMapMapper.map lib ms (ordR _) (ordU _) a) := by
  rw [ConfigMapMapper.map, mapAcross_eq_lookups]
  have next : ∀ c : MapRun, c.result = none → ∀ is,
      MapRun.run lib ordR ordU (lib.toLower a) c (.lookup :: is) =
        MapRun.run lib ordR ordU (lib.toLower a) (c.lookup lib ordR ordU (lib.toLower a)) is :=
    fun c hc is => by simp [MapRun.run, MapRun.step, hc]
  obtain ⟨r₃, h₃⟩ := Option.isSome_iff_exists.1
    (mapLookup_isSome_of_three_le lib ordR ordU (lib.toLower a) ms (le_refl 3))
  cases h₀ : mapLookup lib ordR ordU (lib.toLower a) ms 0 with
  | some r => exact ⟨1, by omega, _, rfl, by simp [MapRun.lookup, MapRun.start, h₀]⟩
  | none =>
    cases h₁ : mapLookup lib ordR ordU (lib.toLower a) ms 1 with
    | some r =>
      exact ⟨2, by omega, _, (next _ rfl _).trans (next _ h₀ _),
        by simp [MapRun.lookup, MapRun.start, h₀, h₁]⟩
    | none =>
      cases h₂ : mapLookup lib ordR ordU (lib.toLower a) ms 2 with
      | some r =>
        exact ⟨3, by omega, _, (next _ rfl _).trans ((next _ h₀ _).trans (next _ h₁ _)),
          by simp [MapRun.lookup, MapRun.start, h₀, h₁, h₂]⟩
      | none =>
        exact ⟨4, le_refl 4, _,
          (next _ rfl _).trans ((next _ h₀ _).trans ((next _ h₁ _).trans (next _ h₂ _))),
          by simp [MapRun.lookup, MapRun.start, h₀, h₁, h₂, h₃]⟩

/-- The store before the swap: an exact user record for `arn:aws:iam::1:role/x`. -/
def beforeSwap : MapStore :=
  MapStore.saveMap referenceLib [⟨"arn:aws:iam::1:role/x", "", "u0", []⟩] [] [] [] []

/-- The first lookup of `Map(arn:aws:iam::1:role/x)` on `beforeSwap`, then a
`saveMap` of an exact role record for the ARN and a role pattern covering it,
then the next two lookups. -/
def swapRun : List MapRunInput :=
  [.lookup, .save [] [] [⟨"arn:aws:iam::1:role/x", "", "r1", []⟩]
    [⟨"", "arn:aws:iam::1:role/*", "p1", []⟩] [], .lookup, .lookup]

/-- `swapRun` returns, and its result is `mapAcross` of the generations its
lookups read. -/
theorem map_interleaved_swapRun :
    ∃ c r, MapRun.run referenceLib GoMap.Order.entries GoMap.Order.entries
        (referenceLib.toLower "arn:aws:iam::1:role/x") (MapRun.start beforeSwap) swapRun = some c ∧
      c.result = some r ∧
      ∃ i₁ i₂ i₃ i₄ : Nat, i₁ ≤ i₂ ∧ i₂ ≤ i₃ ∧ i₃ ≤ i₄ ∧ i₄ < c.gens.length ∧
        r = mapAcross referenceLib (c.gens.getD i₁ .empty) (c.gens.getD i₂ .empty)
          (c.gens.getD i₃ .empty) (c.gens.getD i₄ .empty) (GoMap.Order.entries _)
          (GoMap.Order.entries _) "arn:aws:iam::1:role/x" :=
  ⟨_, _, rfl, rfl, map_interleaved referenceLib GoMap.Order.entries GoMap.Order.entries
    "arn:aws:iam::1:role/x" beforeSwap swapRun _ _ rfl rfl⟩

/-- In `swapRun` the call returns the role pattern's identity `p1`, while `Map`
on the generation before the swap returns the exact user `u0` and on the one
after it the exact role `r1`, in every iteration order. -/
theorem map_mixes_generations :
    ¬ ∀ (ms : MapStore) (inputs : List MapRunInput) (c : MapRun)
        (r : Except MapError IdentityMapping),
      MapRun.run referenceLib GoMap.Order.entries GoMap.Order.entries
          (referenceLib.toLower "arn:aws:iam::1:role/x") (MapRun.start ms) inputs = some c →
      c.result = some r →
      ∃ g ∈ c.gens, ∃ ro uo, r = ConfigMapMapper.map referenceLib g ro uo "arn:aws:iam::1:role/x" := by
  intro h
  obtain ⟨g, hg, ro, uo, hr⟩ := h beforeSwap swapRun _ _ rfl rfl
  have hg : g ∈ [beforeSwap, MapStore.saveMap referenceLib [] []
      [⟨"arn:aws:iam::1:role/x", "", "r1", []⟩] [⟨"", "arn:aws:iam::1:role/*", "p1", []⟩] []] := hg
  simp only [List.mem_cons, List.mem_singleton, List.not_mem_nil, or_false] at hg
  rcases hg with rfl | rfl
  · have : (.ok ⟨"arn:aws:iam::1:role/x", "u0", []⟩ : Except MapError IdentityMapping) =
        ConfigMapMapper.map referenceLib beforeSwap ro uo "arn:aws:iam::1:role/x" := rfl
    exact absurd (hr.trans this.symm) (by decide)
  · exact absurd (hr.trans (rfl : _ = (.ok ⟨"arn:aws:iam::1:role/x", "r1", []⟩ :
      Except MapError IdentityMapping))) (by decide)

end IamAuthenticator
