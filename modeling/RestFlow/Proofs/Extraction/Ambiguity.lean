import RestFlow.Proofs.Extraction.Bonds
import RestFlow.Proofs.Extraction.Mirroring

/-!
# Consumers with producers at several endpoints

When a strategy finds producers at several endpoints it takes none of them.  The consumer is counted
as ambiguous, and the pass over all consumers leaves it without a producer.

The pass over mirrored properties does not care why a consumer has no producer.  An ambiguous one
gets a producer after all if it has a property to mirror, or if somebody mirrors it, and in no
other way (`Setup.forall_producer_eq_none_iff`).  So ambiguous consumers are left unresolved exactly
if neither of this happens to any of them (`Setup.ambiguous_unresolved_iff`), and otherwise more
consumers may be counted as ambiguous than as unresolved.
-/

namespace RestFlow

namespace Setup

variable {s : Setup} {i : Interface} {c : Collection} {d : Dictionary} {x : Consumer}

/-! ## Consumers that are left without a producer -/

/-- Whoever is left without a producer has nothing to mirror. -/
lemma mirror?_eq_none_of_producer_eq_none {dep : Dependency}
    (hdep : dep ∈ (s.mirrored i c d).dependencies) (hnone : dep.producer = none) :
    dep.consumer.mirror? (s.settings i c d).index s.config.aliases = none := by
  have hlength : (s.mirrored i c d).dependencies.length = (s.main i c d).dependencies.length := by
    rw [dependencies_main, List.length_map, ← map_consumer_mirrored s i c d, List.length_map]
  obtain ⟨n, hn⟩ := List.mem_iff_getElem?.mp hdep
  have hlt : n < (s.main i c d).dependencies.length := by
    rw [← hlength]
    exact (List.getElem?_eq_some_iff.mp hn).1
  refine (isMirrored_mirrored s i c d).turns n hlt dep.consumer ?_
  rw [hn, ← hnone]

/-- A consumer that somebody mirrors has a producer. -/
lemma exists_isResolved_of_mirrors (hc : (s.collect i).2 = .ok c) {y dep : Dependency}
    {r : Resource} (hy : y ∈ (s.mirrored i c d).dependencies) (hyr : y.Mirrors r)
    (hdep : dep ∈ (s.mirrored i c d).dependencies) (hbeq : (dep.consumer.resource == r) = true) :
    ∃ z ∈ (s.mirrored i c d).dependencies, z.consumer = dep.consumer ∧ z.isResolved = true := by
  obtain ⟨z, hz, hzr, hresolved⟩ := (isMirrored_mirrored s i c d).backed y hy r hyr dep hdep hbeq
  have hsame : z.consumer = dep.consumer :=
    eq_of_beq_resource hc (mem_consumers_of_mem_mirrored hz) (mem_consumers_of_mem_mirrored hdep)
      (BEq.trans hzr (BEq.symm hbeq))
  exact ⟨z, hz, hsame, hresolved⟩

/-- A consumer without a producer before the pass over mirrored properties is left without one
exactly if it has nothing to mirror and nobody mirrors it. -/
theorem forall_producer_eq_none_iff (hc : (s.collect i).2 = .ok c) (hx : x ∈ c.consumers)
    (hnone : (x.resolve (s.settings i c d) (s.writers i c d).dictionary).1.producer = none) :
    (∀ dep ∈ (s.mirrored i c d).dependencies, dep.consumer = x → dep.producer = none) ↔
      x.mirror? (s.settings i c d).index s.config.aliases = none ∧
        ∀ dep ∈ (s.mirrored i c d).dependencies, ∀ r, dep.Mirrors r →
          (x.resource == r) = false := by
  constructor
  · intro h
    obtain ⟨dep, hdep, rfl⟩ := exists_mem_mirrored s i d hx
    refine ⟨mirror?_eq_none_of_producer_eq_none hdep (h dep hdep rfl), fun y hy r hyr => ?_⟩
    refine Bool.eq_false_iff.mpr fun hbeq => ?_
    obtain ⟨z, hz, hsame, hresolved⟩ := exists_isResolved_of_mirrors hc hy hyr hdep hbeq
    rw [Dependency.isResolved, h z hz hsame] at hresolved
    cases hresolved
  · rintro ⟨hnothing, hnobody⟩ dep hdep rfl
    -- a producer comes from the main pass, from mirroring, or from being mirrored
    rcases (isMirrored_mirrored s i c d).origin dep hdep with
      hmain | ⟨r, hr, -⟩ | ⟨y, hy, r, hyr, hbeq⟩
    · exact (mem_dependencies_main_iff.mp hmain).2.trans hnone
    · rw [hnothing] at hr
      cases hr
    · rw [hnobody y hy r hyr] at hbeq
      cases hbeq

/-! ## Ambiguous consumers -/

/-- The pass over all consumers found producers at several endpoints for the consumer. -/
def IsAmbiguous (s : Setup) (i : Interface) (c : Collection) (d : Dictionary) (x : Consumer) :
    Prop :=
  ∃ r, (x, r) ∈ (s.main i c d).resolutions ∧ r.ambiguous = true

/-- A consumer is ambiguous if it is resolved ambiguously. -/
lemma isAmbiguous_iff : s.IsAmbiguous i c d x ↔ x ∈ c.consumers ∧
    (x.resolve (s.settings i c d) (s.writers i c d).dictionary).1.ambiguous = true := by
  unfold IsAmbiguous
  constructor
  · rintro ⟨r, hmem, hambiguous⟩
    obtain ⟨hx, rfl⟩ := mem_resolutions_main_iff.mp hmem
    exact ⟨hx, hambiguous⟩
  · rintro ⟨hx, hambiguous⟩
    exact ⟨_, mem_resolutions_main_iff.mpr ⟨hx, rfl⟩, hambiguous⟩

variable {groups : DependencyGroups}

/-- If ambiguous consumers have no producer, no more are counted as ambiguous than as
unresolved. -/
lemma ambiguous_le_unresolved (hcomplete : (s.assembled i c d groups).IsComplete)
    (h : ∀ dep ∈ (s.assembled i c d groups).all, s.IsAmbiguous i c d dep.consumer →
      dep.producer = none) :
    (s.assembled i c d groups).statistics.ambiguous ≤
      (s.assembled i c d groups).statistics.unresolved := by
  have hconsumers : (s.assembled i c d groups).all.map Dependency.consumer = c.consumers :=
    hcomplete.map_consumer
  rw [hcomplete.unresolved_count, hcomplete.unresolved, ← List.countP_eq_length_filter]
  show (s.main i c d).resolutions.countP (fun y => y.2.ambiguous) ≤ _
  rw [main_eq, ← hconsumers, List.map_map, List.countP_map]
  refine List.countP_mono_left fun dep hdep hambiguous => ?_
  have hmem : dep.consumer ∈ c.consumers := by
    rw [← hconsumers]
    exact List.mem_map_of_mem hdep
  rw [h dep hdep (isAmbiguous_iff.mpr ⟨hmem, hambiguous⟩)]
  rfl

/-- Ambiguous consumers are left without a producer, and are counted among the unresolved ones,
exactly if none of them has a property to mirror and nobody mirrors any of them. -/
theorem ambiguous_unresolved_iff {result : Extraction} (hc : (s.collect i).2 = .ok c)
    (hresult : (s.extract i d).2 = .ok result) :
    (result.statistics.ambiguous ≤ result.statistics.unresolved ∧
        ∀ dep ∈ result.all, s.IsAmbiguous i c d dep.consumer → dep.producer = none) ↔
      ∀ x, s.IsAmbiguous i c d x →
        x.mirror? (s.settings i c d).index s.config.aliases = none ∧
          ∀ dep ∈ result.all, ∀ r, dep.Mirrors r → (x.resource == r) = false := by
  obtain ⟨c', groups, hc', hgroups, rfl⟩ := extract_eq_ok_iff.mp hresult
  obtain rfl : c' = c := Except.ok.inj (hc'.symm.trans hc)
  have hcomplete := isComplete_assembled hc hgroups
  have hall := all_assembled hc hgroups
  rw [and_iff_right_of_imp (ambiguous_le_unresolved hcomplete), hall, Dependency.aliasInputs_eq]
  simp only [List.forall_mem_map, Dependency.consumer_aliased,
    Dependency.producer_aliased_eq_none_iff, Dependency.mirrors_aliased_iff]
  -- only the pass over mirrored properties can bind an ambiguous consumer
  have hleft : ∀ x, s.IsAmbiguous i c' d x →
      ((∀ dep ∈ (s.mirrored i c' d).dependencies, dep.consumer = x → dep.producer = none) ↔
        x.mirror? (s.settings i c' d).index s.config.aliases = none ∧
          ∀ dep ∈ (s.mirrored i c' d).dependencies, ∀ r, dep.Mirrors r →
            (x.resource == r) = false) := by
    intro x hx
    obtain ⟨hmem, hambiguous⟩ := isAmbiguous_iff.mp hx
    exact forall_producer_eq_none_iff hc hmem (Consumer.producer_eq_none_of_ambiguous hambiguous)
  constructor
  · intro h x hx
    refine (hleft x hx).mp fun dep hdep hdepx => h dep hdep ?_
    rw [hdepx]
    exact hx
  · intro h dep hdep hambiguous
    exact (hleft _ hambiguous).mpr (h _ hambiguous) dep hdep rfl

end Setup

namespace Interface

/-- Orders hold an item with an `id` and a `name`, and items are created at two endpoints, which
both return an `id`. -/
def ordersAndItems : Interface where
  requests := [
    { id := { endpoint := "/orders", method := .post }
      data := {
        body := some (.internal "" .object true false [.internal "item" .object true false
          [(stringParameter "id").payload, (stringParameter "name").payload]]) } },
    { id := { endpoint := "/items", method := .post }
      data := {
        responseBody := some (.internal "" .object true false [(stringParameter "id").payload]) } },
    { id := { endpoint := "/shop/items", method := .post }
      data := {
        responseBody := some (.internal "" .object true false [(stringParameter "id").payload]) } }]

end Interface

namespace Setup

open Interface

/-- A run without aliases. -/
def withoutAliases : Setup where
  config := { aliases := .empty }

/-- Without aliases the ambiguous `id` of the item has nothing to mirror, and nobody mirrors it, so
it stays unresolved. -/
theorem ambiguous_unresolved_withoutAliases :
    ∃ c result, (withoutAliases.collect ordersAndItems).2 = .ok c ∧
      (withoutAliases.extract ordersAndItems .standard).2 = .ok result ∧
      result.statistics.ambiguous = 1 ∧
      result.statistics.ambiguous ≤ result.statistics.unresolved ∧
      ∀ dep ∈ result.all, withoutAliases.IsAmbiguous ordersAndItems c .standard dep.consumer →
        dep.producer = none := by
  have hrun : (withoutAliases.extract ordersAndItems .standard).2.toOption.map
      (fun r => (r.statistics.ambiguous, r.all.all fun dep => dep.producer.isNone)) =
        some (1, true) := by
    decide +kernel
  obtain ⟨result, hresult, hfound⟩ := exists_of_toOption_map hrun
  obtain ⟨hcount, hall⟩ := Prod.mk.inj hfound
  obtain ⟨c, -, hc, -⟩ := extract_eq_ok_iff.mp hresult
  have hright : ∀ x, withoutAliases.IsAmbiguous ordersAndItems c .standard x →
      x.mirror? (withoutAliases.settings ordersAndItems c .standard).index
          withoutAliases.config.aliases = none ∧
        ∀ dep ∈ result.all, ∀ r, dep.Mirrors r → (x.resource == r) = false := by
    refine fun x _ => ⟨?_, fun dep hdep r hr => ?_⟩
    · exact Option.bind_eq_none_iff.mpr fun _ _ => rfl
    · have hnone := List.all_eq_true.mp hall dep hdep
      rw [hr] at hnone
      cases hnone
  obtain ⟨hle, hleft⟩ := (ambiguous_unresolved_iff hc hresult).mpr hright
  exact ⟨c, result, hc, hresult, hcount, hle, hleft⟩

/-- With the aliases that are used when none are given the ambiguous `id` mirrors the `name`, and
nothing is unresolved. -/
theorem not_forall_ambiguous_unresolved :
    ¬∀ (s : Setup) (i : Interface) (c : Collection) (d : Dictionary) (result : Extraction),
      (s.collect i).2 = .ok c → (s.extract i d).2 = .ok result →
        result.statistics.ambiguous ≤ result.statistics.unresolved ∧
          ∀ dep ∈ result.all, s.IsAmbiguous i c d dep.consumer → dep.producer = none := by
  intro h
  have hrun : (({} : Setup).extract ordersAndItems .standard).2.toOption.map
      (fun r => (r.statistics.ambiguous, r.statistics.unresolved)) = some (1, 0) := by
    decide +kernel
  obtain ⟨result, hresult, hfound⟩ := exists_of_toOption_map hrun
  obtain ⟨hambiguous, hunresolved⟩ := Prod.mk.inj hfound
  obtain ⟨c, -, hc, -⟩ := extract_eq_ok_iff.mp hresult
  obtain ⟨hle, -⟩ := h {} ordersAndItems c .standard result hc hresult
  omega

end Setup

end RestFlow
