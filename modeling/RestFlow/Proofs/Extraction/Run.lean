import RestFlow.Extraction.Run
import RestFlow.Proofs.Extraction.Grouping
import RestFlow.Proofs.Failure.Traversal

/-!
# The passes of a run

After the collection a run consists of a pass over writers, a pass over all consumers and a pass
over mirrored properties.  `Setup.writers`, `Setup.main` and `Setup.mirrored` are the states after
them, and `resolve_snd` puts the result of a run together from these: only grouping can fail after
the collection, and it fails for conflicts alone (`isConflict_of_resolve`).
-/

namespace RestFlow.Setup

variable (s : Setup) (i : Interface) (c : Collection) (d : Dictionary)

/-- The state after the pass over writers. -/
def writers : WriterState :=
  s.writerPass (s.initialPool i c) c.consumers d

/-- What the strategies look at after the pass over writers. -/
def settings : Surroundings :=
  s.surroundings (s.writers i c d).pool.index

/-- The state after the pass over all consumers. -/
def main : MainState :=
  s.mainPass (s.writers i c d).pool.index c.consumers (s.writers i c d).dictionary

/-- The state after the pass over mirrored properties. -/
def mirrored : SameBodyState :=
  s.sameBodyPass (s.writers i c d).pool.index (s.main i c d).dependencies (s.main i c d).dictionary

/-- The result of a run whose dependencies are grouped. -/
def assembled (groups : DependencyGroups) : Extraction where
  dependencies := groups
  orderingConstraints := s.constraints i (s.mirrored i c d).dependencies
  dictionary := (s.mirrored i c d).dictionary
  endpointDictionaries := s.endpointDictionaries
  consumers := c.consumers
  producers := (s.writers i c d).pool.index.producers ++
    OrderingConstraint.producers (s.constraints i (s.mirrored i c d).dependencies)
  statistics := {
    consumers := c.consumers.length
    resolved := groups.resolvedCount
    unresolved := c.consumers.length - groups.resolvedCount
    ambiguous := (s.main i c d).ambiguousCount
    byStrategy := (s.main i c d).strategyCounts
    sameBody := (s.mirrored i c d).count
    equalityAliases := Dependency.aliasCount (s.mirrored i c d).dependencies
    writerProducers := (s.writers i c d).count
    uuidSuffixes := (s.mirrored i c d).dictionary.uuidSuffixes.size }

/-- After the collection only grouping can fail. -/
lemma resolve_snd :
    (s.resolve i c d).2 = s.assembled i c d <$>
      DependencyGroups.ofList (Dependency.aliasInputs (s.mirrored i c d).dependencies) :=
  rfl

/-- A run collects and then resolves. -/
lemma extract_snd : (s.extract i d).2 = (s.collect i).2 >>= fun c => (s.resolve i c d).2 := by
  unfold extract
  cases s.collect i with
  | mk warnings collected =>
    cases collected with
    | error f => rfl
    | ok c => rfl

variable {s i c d}

/-- A successful run collects something and groups the dependencies found for it. -/
lemma extract_eq_ok_iff {x : Extraction} :
    (s.extract i d).2 = .ok x ↔
      ∃ c groups, (s.collect i).2 = .ok c ∧
        DependencyGroups.ofList (Dependency.aliasInputs (s.mirrored i c d).dependencies) =
          .ok groups ∧ x = s.assembled i c d groups := by
  rw [extract_snd, bind_eq_ok_iff]
  constructor
  · rintro ⟨c, hc, hx⟩
    rw [resolve_snd] at hx
    cases hg : DependencyGroups.ofList (Dependency.aliasInputs (s.mirrored i c d).dependencies) with
    | error f =>
      rw [hg] at hx
      cases hx
    | ok groups =>
      rw [hg] at hx
      exact ⟨c, groups, hc, hg, (Except.ok.inj hx).symm⟩
  · rintro ⟨c, groups, hc, hg, rfl⟩
    refine ⟨c, hc, ?_⟩
    rw [resolve_snd, hg]
    rfl

/-- After the collection a run succeeds if the dependencies found can be grouped. -/
lemma extract_eq_ok_iff_of_collect {x : Extraction} (hc : (s.collect i).2 = .ok c) :
    (s.extract i d).2 = .ok x ↔
      ∃ groups, DependencyGroups.ofList (Dependency.aliasInputs (s.mirrored i c d).dependencies) =
        .ok groups ∧ x = s.assembled i c d groups := by
  rw [extract_eq_ok_iff]
  constructor
  · rintro ⟨c', groups, hc', hx⟩
    obtain rfl : c' = c := Except.ok.inj (hc'.symm.trans hc)
    exact ⟨groups, hx⟩
  · rintro ⟨groups, hx⟩
    exact ⟨c, groups, hc, hx⟩

/-- After the collection a run fails for conflicts only. -/
lemma isConflict_of_resolve {f : Failure} (h : (s.resolve i c d).2 = .error f) :
    f.isConflict = true := by
  rw [resolve_snd] at h
  cases hg : DependencyGroups.ofList (Dependency.aliasInputs (s.mirrored i c d).dependencies) with
  | error g =>
    rw [hg] at h
    rw [← Except.error.inj h]
    exact DependencyGroups.isConflict_of_group hg
  | ok groups =>
    rw [hg] at h
    cases h

end RestFlow.Setup
