import RestFlow.Dictionary.Basic
import RestFlow.Proofs.Json.Equality
import RestFlow.Proofs.Order.SortedMap

/-!
# Dictionaries of endpoints

When dictionaries are equal, and what the declared dictionaries of endpoints are put together to.
-/

namespace RestFlow.Dictionary

/-!
## Equality of dictionaries

Dictionaries are equal when they have the same values and payloads and carry along equal shadow
values.  Equality of dictionaries is therefore decided by a canonical form
(`Dictionary.beq_iff_canonical_eq`), and it is an equivalence.
-/

/-- The dictionary with its shadow values in canonical form. -/
def canonical (d : Dictionary) : Dictionary :=
  { d with shadowValues := d.shadowValues.mapValues Json.canonical }

/-- Dictionaries are equal exactly when their canonical forms are the same. -/
theorem beq_iff_canonical_eq {d d' : Dictionary} : (d == d') = true ↔ d.canonical = d'.canonical := by
  obtain ⟨_, _, _, _, _, _, _, _, _, _, _, _, _, _, _⟩ := d
  obtain ⟨_, _, _, _, _, _, _, _, _, _, _, _, _, _, _⟩ := d'
  show (_ && (_ && (_ && (_ && (_ && (_ && (_ && (_ && (_ && (_ && (_ && (_ && (_ && (_ &&
    _)))))))))))))) = true ↔ _
  simp only [Bool.and_eq_true, beq_iff_eq, SortedMap.beq_iff_mapValues_eq fun _ _ => Json.beq_iff,
    canonical, mk.injEq]

instance : EquivBEq Dictionary :=
  equivBEq_of_key fun _ _ => beq_iff_canonical_eq

end RestFlow.Dictionary

/-!
## Declared dictionaries of single endpoints

A declaration claims the places of its endpoints for a dictionary (`EndpointDictionaries.Claims`).
Declarations can be built into one map exactly if no place is claimed for two unequal dictionaries,
and otherwise the failure names such a place (`EndpointDictionaries.build_exact`). Claims are taken
one by one, and of all claims on a place the first one is stored. Later ones are compared with this
one only. So what holds after some claims (`EndpointDictionaries.Merges`) is that every place has
the dictionary that was claimed first, and that all others claimed there are equal to it. That any
two of them are equal to each other follows since equality is an equivalence.
-/

namespace RestFlow.EndpointDictionaries

variable {claims before after : List (String × Dictionary)}
  {declarations declarations' : List (List String × Dictionary)} {m m' : EndpointDictionaries}
  {endpoint place : String} {d d' : Dictionary} {f : Failure}

/-! ### One claim -/

/-- A claim is stored if its place is free, passed over if the place has an equal dictionary, and
refused if it has an unequal one. -/
lemma declare_cases (m : EndpointDictionaries) (endpoint : String) (d : Dictionary) :
    (SortedMap.get? m (Endpoint.normalize endpoint) = none ∧
        declare m endpoint d = .ok (SortedMap.insert m (Endpoint.normalize endpoint) d)) ∨
      (∃ d', SortedMap.get? m (Endpoint.normalize endpoint) = some d' ∧ (d' == d) = true ∧
        declare m endpoint d = .ok m) ∨
      ∃ d', SortedMap.get? m (Endpoint.normalize endpoint) = some d' ∧ (d' == d) = false ∧
        declare m endpoint d = .error (.conflictingDictionaries (Endpoint.normalize endpoint)) := by
  unfold declare
  cases hget : SortedMap.get? m (Endpoint.normalize endpoint) with
  | none => exact .inl ⟨rfl, by simp only [hget]⟩
  | some existing =>
    by_cases hequal : (existing == d) = true
    · exact .inr (.inl ⟨existing, rfl, hequal, by simp only [hget, if_pos hequal]⟩)
    · exact .inr (.inr ⟨existing, rfl, Bool.eq_false_iff.mpr hequal, by
        simp only [hget, if_neg hequal]⟩)

/-! ### All claims -/

/-- A claim is on the place. -/
def isAt (place : String) (claim : String × Dictionary) : Bool :=
  Endpoint.normalize claim.1 == place

/-- The map is what the claims come to: every place has the dictionary that was claimed first, and
all that are claimed are equal to those which the places have. -/
structure Merges (claims : List (String × Dictionary)) (m : EndpointDictionaries) : Prop where
  first : ∀ place, SortedMap.get? m place = (claims.find? (isAt place)).map Prod.snd
  agree : ∀ claim ∈ claims, ∃ d,
    SortedMap.get? m (Endpoint.normalize claim.1) = some d ∧ (d == claim.2) = true

lemma merges_nil : Merges [] SortedMap.empty where
  first _ := rfl
  agree _ h := absurd h List.not_mem_nil

/-- What is at a place was claimed for it. -/
lemma Merges.exists_claim (h : Merges claims m) (hget : SortedMap.get? m place = some d) :
    ∃ claim ∈ claims, Endpoint.normalize claim.1 = place ∧ claim.2 = d := by
  rw [h.first place] at hget
  obtain ⟨claim, hfound, hd⟩ := Option.map_eq_some_iff.mp hget
  have hplace : isAt place claim = true := List.find?_some hfound
  exact ⟨claim, List.mem_of_find?_eq_some hfound, eq_of_beq hplace, hd⟩

/-- The map after one more claim, for which it has an equal dictionary and otherwise what it had. -/
lemma Merges.concat (h : Merges before m) {claim : String × Dictionary}
    (hstored : ∀ place, SortedMap.get? m' place =
      (SortedMap.get? m place).or (([claim].find? (isAt place)).map Prod.snd))
    (hagrees : ∃ d, SortedMap.get? m' (Endpoint.normalize claim.1) = some d ∧
      (d == claim.2) = true) :
    Merges (before ++ [claim]) m' := by
  refine ⟨fun place => ?_, fun earlier hearlier => ?_⟩
  · rw [hstored, h.first, List.find?_append, Option.map_or]
  · rcases List.mem_append.mp hearlier with hearlier | hearlier
    · obtain ⟨d, hget, hequal⟩ := h.agree earlier hearlier
      exact ⟨d, by rw [hstored, hget, Option.some_or], hequal⟩
    · rwa [List.mem_singleton.mp hearlier]

/-- One more claim, on a place that is free. -/
lemma Merges.concat_free (h : Merges before m)
    (hfree : SortedMap.get? m (Endpoint.normalize endpoint) = none) :
    Merges (before ++ [(endpoint, d)]) (SortedMap.insert m (Endpoint.normalize endpoint) d) := by
  refine h.concat (fun place => ?_) ⟨d, by rw [SortedMap.get?_insert, if_pos rfl], BEq.rfl⟩
  rw [SortedMap.get?_insert, List.find?_singleton, isAt]
  by_cases hplace : place = Endpoint.normalize endpoint
  · rw [hplace, if_pos rfl, hfree, if_pos (beq_self_eq_true _)]
    rfl
  · simp [hplace, Ne.symm hplace]

/-- One more claim, on a place that has an equal dictionary. -/
lemma Merges.concat_equal (h : Merges before m)
    (hget : SortedMap.get? m (Endpoint.normalize endpoint) = some d') (hequal : (d' == d) = true) :
    Merges (before ++ [(endpoint, d)]) m := by
  refine h.concat (fun place => ?_) ⟨d', hget, hequal⟩
  rw [List.find?_singleton, isAt]
  by_cases hplace : place = Endpoint.normalize endpoint
  · rw [hplace, hget, Option.some_or]
  · simp [Ne.symm hplace]

/-- Claims on one place for unequal dictionaries, and the failure that they amount to. -/
def Conflicts (claims : List (String × Dictionary)) (f : Failure) : Prop :=
  ∃ x ∈ claims, ∃ y ∈ claims, Endpoint.normalize x.1 = Endpoint.normalize y.1 ∧
    (x.2 == y.2) = false ∧ f = .conflictingDictionaries (Endpoint.normalize y.1)

/-- A claim that is refused conflicts with one before it. -/
lemma Merges.conflicts (h : Merges before m)
    (hget : SortedMap.get? m (Endpoint.normalize endpoint) = some d')
    (hunequal : (d' == d) = false) :
    Conflicts (before ++ [(endpoint, d)])
      (.conflictingDictionaries (Endpoint.normalize endpoint)) := by
  obtain ⟨claim, hclaim, hplace, rfl⟩ := h.exists_claim hget
  exact ⟨claim, List.mem_append_left _ hclaim, (endpoint, d),
    List.mem_append_right _ (List.mem_singleton_self _), hplace, hunequal, rfl⟩

lemma Conflicts.mono (h : Conflicts before f) (hsubset : before ⊆ after) : Conflicts after f := by
  obtain ⟨x, hx, y, hy, hconflict⟩ := h
  exact ⟨x, hsubset hx, y, hsubset hy, hconflict⟩

/-- What taking claims ends with: the map that they come to, or a conflict among them. -/
def EndsRight (claims : List (String × Dictionary)) : Except Failure EndpointDictionaries → Prop
  | .ok m => Merges claims m
  | .error f => Conflicts claims f

/-- Taking further claims one by one ends as it should. -/
theorem Merges.endsRight (h : Merges before m) (after : List (String × Dictionary)) :
    EndsRight (before ++ after)
      (after.foldlM (fun m claim => declare m claim.1 claim.2) m) := by
  induction after generalizing before m with
  | nil =>
    rw [List.append_nil]
    exact h
  | cons claim rest ih =>
    rw [List.foldlM_cons, List.append_cons]
    rcases declare_cases m claim.1 claim.2 with
      ⟨hfree, hstep⟩ | ⟨d', hget, hequal, hstep⟩ | ⟨d', hget, hunequal, hstep⟩
    · rw [hstep]
      exact ih (h.concat_free hfree)
    · rw [hstep]
      exact ih (h.concat_equal hget hequal)
    · rw [hstep]
      exact (h.conflicts hget hunequal).mono (List.subset_append_left _ rest)

/-! ### Declarations -/

/-- Some declaration of the dictionary names an endpoint at the place. -/
def Claims (declarations : List (List String × Dictionary)) (place : String) (d : Dictionary) :
    Prop :=
  ∃ declaration ∈ declarations, declaration.2 = d ∧
    ∃ endpoint ∈ declaration.1, Endpoint.normalize endpoint = place

/-- The claims of declarations, endpoint by endpoint. -/
def claimsOf (declarations : List (List String × Dictionary)) : List (String × Dictionary) :=
  declarations.flatMap fun (endpoints, d) => endpoints.map (·, d)

/-- What is claimed in declarations is claimed for one of their endpoints. -/
lemma claims_iff_exists_mem : Claims declarations place d ↔
    ∃ claim ∈ claimsOf declarations, Endpoint.normalize claim.1 = place ∧ claim.2 = d := by
  constructor
  · rintro ⟨declaration, hdeclaration, rfl, endpoint, hendpoint, hplace⟩
    exact ⟨(endpoint, declaration.2),
      List.mem_flatMap.mpr ⟨declaration, hdeclaration, List.mem_map_of_mem hendpoint⟩, hplace, rfl⟩
  · rintro ⟨claim, hclaim, hplace, rfl⟩
    obtain ⟨declaration, hdeclaration, hmem⟩ := List.mem_flatMap.mp hclaim
    obtain ⟨endpoint, hendpoint, rfl⟩ := List.mem_map.mp hmem
    exact ⟨declaration, hdeclaration, rfl, endpoint, hendpoint, hplace⟩

/-- Building declarations ends as taking their claims should. -/
lemma endsRight_build (declarations : List (List String × Dictionary)) :
    EndsRight (claimsOf declarations) (build declarations) :=
  merges_nil.endsRight (claimsOf declarations)

/-- Declarations are built into what their claims come to. -/
lemma merges_of_build (h : build declarations = .ok m) : Merges (claimsOf declarations) m := by
  have hright := endsRight_build declarations
  rwa [h] at hright

/-- If declarations cannot be built, two of their claims conflict. -/
lemma conflicts_of_build (h : build declarations = .error f) :
    Conflicts (claimsOf declarations) f := by
  have hright := endsRight_build declarations
  rwa [h] at hright

/-- The dictionary of an endpoint is equal to all that are claimed for it. -/
lemma exists_at?_of_claims (h : build declarations = .ok m)
    (hclaims : Claims declarations (Endpoint.normalize endpoint) d) :
    ∃ d', at? m endpoint = some d' ∧ (d' == d) = true := by
  obtain ⟨claim, hclaim, hplace, rfl⟩ := claims_iff_exists_mem.mp hclaims
  have hagrees := (merges_of_build h).agree claim hclaim
  rwa [hplace] at hagrees

/-- The dictionary of an endpoint is claimed for it. -/
lemma claims_of_at? (h : build declarations = .ok m) (hat : at? m endpoint = some d) :
    Claims declarations (Endpoint.normalize endpoint) d :=
  claims_iff_exists_mem.mpr ((merges_of_build h).exists_claim hat)

/-- Declarations can be built exactly if no place is claimed for unequal dictionaries. -/
theorem exists_build_iff : (∃ m, build declarations = .ok m) ↔
    ∀ place d d', Claims declarations place d → Claims declarations place d' →
      (d == d') = true := by
  constructor
  · rintro ⟨m, h⟩ place d d' hd hd'
    obtain ⟨claim, hclaim, rfl, rfl⟩ := claims_iff_exists_mem.mp hd
    -- what was built has one dictionary for the place, which equals both
    obtain ⟨found, hfound, hequal⟩ := exists_at?_of_claims h hd
    obtain ⟨found', hfound', hequal'⟩ := exists_at?_of_claims h hd'
    rw [hfound] at hfound'
    obtain rfl := Option.some.inj hfound'
    exact BEq.trans (BEq.symm hequal) hequal'
  · intro h
    cases hbuild : build declarations with
    | ok m => exact ⟨m, rfl⟩
    | error f =>
      obtain ⟨x, hx, y, hy, hplace, hunequal, -⟩ := conflicts_of_build hbuild
      have hequal := h (Endpoint.normalize y.1) x.2 y.2
        (claims_iff_exists_mem.mpr ⟨x, hx, hplace, rfl⟩)
        (claims_iff_exists_mem.mpr ⟨y, hy, rfl, rfl⟩)
      rw [hunequal] at hequal
      cases hequal

/-- The same claims come to equal dictionaries. -/
lemma at?_beq_at? (h : build declarations = .ok m) (h' : build declarations' = .ok m')
    (hclaims : ∀ place d, Claims declarations place d ↔ Claims declarations' place d)
    (endpoint : String) : (at? m endpoint == at? m' endpoint) = true := by
  cases hat : at? m endpoint with
  | some d =>
    obtain ⟨d', hat', hequal⟩ :=
      exists_at?_of_claims h' ((hclaims _ _).mp (claims_of_at? h hat))
    rw [hat']
    show (d == d') = true
    exact BEq.symm hequal
  | none =>
    cases hat' : at? m' endpoint with
    | none => rfl
    | some d' =>
      obtain ⟨d, hd, -⟩ := exists_at?_of_claims h ((hclaims _ _).mpr (claims_of_at? h' hat'))
      rw [hat] at hd
      cases hd

/-- The same declarations in another order, each with its endpoints in another order. -/
def Reorders (declarations declarations' : List (List String × Dictionary)) : Prop :=
  ∃ reordered, declarations.Perm reordered ∧
    List.Forall₂ (fun x y => x.1.Perm y.1 ∧ x.2 = y.2) reordered declarations'

/-- The order of declarations and of their endpoints does not matter for what is claimed. -/
lemma Reorders.claims_iff (h : Reorders declarations declarations') :
    Claims declarations place d ↔ Claims declarations' place d := by
  obtain ⟨reordered, hperm, hforall⟩ := h
  have hreordered : Claims declarations place d ↔ Claims reordered place d :=
    exists_congr fun _ => and_congr_left fun _ => hperm.mem_iff
  rw [hreordered]
  clear hreordered hperm
  induction hforall with
  | nil => rfl
  | @cons x y l l' hxy _ ih =>
    have hendpoints : (∃ endpoint ∈ x.1, Endpoint.normalize endpoint = place) ↔
        ∃ endpoint ∈ y.1, Endpoint.normalize endpoint = place :=
      exists_congr fun _ => and_congr_left fun _ => hxy.1.mem_iff
    simp only [Claims] at ih
    simp only [Claims, List.exists_mem_cons_iff, hendpoints, hxy.2, ih]

/-- Declarations can be built exactly if no two of them claim one place for unequal dictionaries.
Then every endpoint has a dictionary equal to all that are claimed for its place, or none if none is
claimed.  Otherwise the failure names a place that is claimed for two unequal dictionaries.  Neither
what can be built nor what endpoints have depends on the order of declarations or of endpoints
within them. -/
theorem build_exact (declarations : List (List String × Dictionary)) :
    ((∃ m, build declarations = .ok m) ↔
        ∀ place d d', Claims declarations place d → Claims declarations place d' →
          (d == d') = true) ∧
      (∀ m, build declarations = .ok m → ∀ endpoint,
        (∀ d, Claims declarations (Endpoint.normalize endpoint) d →
          ∃ d', at? m endpoint = some d' ∧ (d' == d) = true) ∧
        ((¬∃ d, Claims declarations (Endpoint.normalize endpoint) d) → at? m endpoint = none)) ∧
      (∀ f, build declarations = .error f →
        ∃ place d d', Claims declarations place d ∧ Claims declarations place d' ∧
          (d == d') = false ∧ f = .conflictingDictionaries place) ∧
      ∀ declarations', Reorders declarations declarations' →
        ((∃ m, build declarations = .ok m) ↔ ∃ m', build declarations' = .ok m') ∧
        ∀ m m', build declarations = .ok m → build declarations' = .ok m' →
          ∀ endpoint, (at? m endpoint == at? m' endpoint) = true := by
  refine ⟨exists_build_iff, fun m h endpoint => ⟨fun d => exists_at?_of_claims h, fun hnone => ?_⟩,
    fun f hf => ?_, fun declarations' hreorders => ⟨?_, fun m m' h h' => ?_⟩⟩
  · rw [Option.eq_none_iff_forall_ne_some]
    exact fun d hat => hnone ⟨d, claims_of_at? h hat⟩
  · obtain ⟨x, hx, y, hy, hplace, hunequal, rfl⟩ := conflicts_of_build hf
    exact ⟨Endpoint.normalize y.1, x.2, y.2, claims_iff_exists_mem.mpr ⟨x, hx, hplace, rfl⟩,
      claims_iff_exists_mem.mpr ⟨y, hy, rfl, rfl⟩, hunequal, rfl⟩
  · -- claims are the same in any order
    rw [exists_build_iff, exists_build_iff]
    simp only [hreorders.claims_iff]
  · exact at?_beq_at? h h' fun _ _ => hreorders.claims_iff

end RestFlow.EndpointDictionaries
