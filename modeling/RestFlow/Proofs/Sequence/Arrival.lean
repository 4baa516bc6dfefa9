import RestFlow.Proofs.Sequence.Cycles
import RestFlow.Proofs.Sequence.Settled

/-!
# The first cycle does not depend on the order of arrival

The nodes of a graph come in the order in which the pairs arrived, and each of them in its first
spelling.  The search does not see the order, since it goes through sorted nodes only
(`RequestGraph.forall₂_sortedNodes`), and takes the same way through another graph that has the same
nodes and edges up to spelling (`RequestGraph.alike_search`).  So pairs that say the same, in
whatever order, spelling and number, have graphs of one size, and the first cycle of the one is that
of the other.
-/

namespace RestFlow

namespace RequestId

/-- The order of keys. -/
def compareKey : String × Method → String × Method → Ordering :=
  compareLex (compareOn Prod.fst) (compareOn Prod.snd)

instance : Std.TransCmp compareKey :=
  inferInstanceAs (Std.TransCmp
    (compareLex (compareOn (Prod.fst : String × Method → String)) (compareOn Prod.snd)))

instance : Std.LawfulEqCmp compareKey where
  eq_of_compare {a b} h := by
    obtain ⟨a₁, a₂⟩ := a
    obtain ⟨b₁, b₂⟩ := b
    change (compare a₁ b₁).then (compare a₂ b₂) = .eq at h
    rw [Ordering.then_eq_eq, Std.LawfulEqOrd.compare_eq_iff_eq,
      Std.LawfulEqOrd.compare_eq_iff_eq] at h
    rw [h.1, h.2]

lemma forall₂_iff_map_key_eq {l l' : List RequestId} :
    List.Forall₂ (fun a b => (a == b) = true) l l' ↔ l.map key = l'.map key :=
  forall₂_beq_iff_map_eq fun _ _ => beq_iff

/-- A list has a request up to its spelling if it has its key. -/
lemma contains_iff_mem_map_key {l : List RequestId} {r : RequestId} :
    l.contains r = true ↔ r.key ∈ l.map key := by
  rw [List.contains_iff_exists_mem_beq, List.mem_map]
  refine exists_congr fun x => and_congr_right fun _ => ?_
  rw [beq_iff, eq_comm]

end RequestId

namespace RequestGraph

variable {g g' : RequestGraph} {path path' finished finished' goals goals' : List RequestId}
  {r r' : RequestId}

/-! ## Sound graphs with the same nodes -/

/-- The keys of the nodes are distinct. -/
lemma IsSound.nodup_map_key (hg : g.IsSound) : (g.nodes.map RequestId.key).Nodup := by
  refine List.pairwise_map.mpr (hg.distinct.imp fun {a b} hab heq => ?_)
  rw [RequestId.beq_iff.mpr heq] at hab
  cases hab

/-- Sound graphs with the same nodes, up to spelling, have them with the same keys. -/
lemma IsSound.perm_map_key (hg : g.IsSound) (hg' : g'.IsSound)
    (h : ∀ x, g.nodes.contains x = g'.nodes.contains x) :
    (g.nodes.map RequestId.key).Perm (g'.nodes.map RequestId.key) := by
  refine (List.perm_ext_iff_of_nodup hg.nodup_map_key hg'.nodup_map_key).mpr fun k => ⟨?_, ?_⟩
  · intro hk
    obtain ⟨x, -, rfl⟩ := List.mem_map.mp hk
    rwa [← RequestId.contains_iff_mem_map_key, ← h, RequestId.contains_iff_mem_map_key]
  · intro hk
    obtain ⟨x, -, rfl⟩ := List.mem_map.mp hk
    rwa [← RequestId.contains_iff_mem_map_key, h, RequestId.contains_iff_mem_map_key]

/-- The nodes have the same keys when they are sorted. -/
lemma forall₂_sortedNodes (hp : (g.nodes.map RequestId.key).Perm (g'.nodes.map RequestId.key)) :
    List.Forall₂ (fun a b => (a == b) = true) g.sortedNodes g'.sortedNodes := by
  have hsort : ∀ l : List RequestId,
      (sortBy compare l).map RequestId.key = sortBy RequestId.compareKey (l.map RequestId.key) :=
    map_sortBy fun _ _ => rfl
  rw [RequestId.forall₂_iff_map_key_eq, sortedNodes, sortedNodes, hsort, hsort]
  exact sortBy_eq_of_perm hp

/-! ## The same way through both graphs -/

/-- A list has a request if an equal list has an equal one. -/
lemma contains_congr (hl : List.Forall₂ (fun a b => (a == b) = true) path path')
    (hr : (r == r') = true) : path.contains r = path'.contains r' := by
  rw [Bool.eq_iff_iff, RequestId.contains_iff_mem_map_key, RequestId.contains_iff_mem_map_key,
    RequestId.forall₂_iff_map_key_eq.mp hl, RequestId.beq_iff.mp hr]

/-- Equal paths are equal from equal requests on. -/
lemma forall₂_pathFrom (hl : List.Forall₂ (fun a b => (a == b) = true) path path')
    (hr : (r == r') = true) :
    List.Forall₂ (fun a b => (a == b) = true) (pathFrom r path) (pathFrom r' path') := by
  induction hl with
  | nil => exact .nil
  | @cons a b rest rest' hab hrest ih =>
    have htest : (a != r) = (b != r') := by
      rw [bne, bne, BEq.congr_left hab, BEq.congr_right hr]
    rw [pathFrom, List.dropWhile_cons, pathFrom, List.dropWhile_cons, htest]
    split
    · exact ih
    · exact .cons hab hrest

/-- A path is equal to another one when both are gone on with equal requests. -/
lemma forall₂_concat (hl : List.Forall₂ (fun a b => (a == b) = true) path path')
    (hr : (r == r') = true) :
    List.Forall₂ (fun a b => (a == b) = true) (path ++ [r]) (path' ++ [r']) :=
  List.rel_append hl (.cons hr .nil)

/-- Equal requests await equal requests in graphs with the same nodes and edges. -/
lemma forall₂_awaited (hedge : ∀ x y, g.hasEdge x y = g'.hasEdge x y)
    (hnodes : List.Forall₂ (fun a b => (a == b) = true) g.sortedNodes g'.sortedNodes)
    (hr : (r == r') = true) :
    List.Forall₂ (fun a b => (a == b) = true) (g.awaited r) (g'.awaited r') := by
  refine List.rel_filter (fun {a b} hab => ?_) hnodes
  show g.hasEdge r a = true ↔ g'.hasEdge r' b = true
  rw [hedge, hasEdge_congr hr hab]

/-- Two searches end alike: with the same cycle, or with the same requests finished, up to
spelling. -/
inductive Search.Alike : Search → Search → Prop where
  | cycle {chain chain' : List RequestId}
    (hchain : List.Forall₂ (fun a b => (a == b) = true) chain chain') :
    Alike (.cycle chain) (.cycle chain')
  | finished {more more' : List RequestId}
    (hmore : List.Forall₂ (fun a b => (a == b) = true) more more') :
    Alike (.finished more) (.finished more')

/-- Searches from equal goals end alike if the visits to each of them do. -/
lemma alike_searchEach {visit visit' : List RequestId → RequestId → Search}
    (hvisit : ∀ {finished finished' r r'},
      List.Forall₂ (fun a b => (a == b) = true) finished finished' → (r == r') = true →
        (visit finished r).Alike (visit' finished' r'))
    (hfinished : List.Forall₂ (fun a b => (a == b) = true) finished finished')
    (hgoals : List.Forall₂ (fun a b => (a == b) = true) goals goals') :
    (searchEach visit finished goals).Alike (searchEach visit' finished' goals') := by
  induction hgoals generalizing finished finished' with
  | nil => exact .finished hfinished
  | @cons a b rest rest' hr _ ih =>
    have hfirst := hvisit hfinished hr
    rw [searchEach, searchEach]
    generalize visit finished a = found at hfirst
    generalize visit' finished' b = found' at hfirst
    cases hfirst with
    | cycle hchain => exact .cycle hchain
    | finished hmore => exact ih hmore

/-- Along equal paths, with equal requests finished, searches from equal requests end alike. -/
theorem alike_search (hedge : ∀ x y, g.hasEdge x y = g'.hasEdge x y)
    (hnodes : List.Forall₂ (fun a b => (a == b) = true) g.sortedNodes g'.sortedNodes) (fuel : Nat)
    (hpath : List.Forall₂ (fun a b => (a == b) = true) path path')
    (hfinished : List.Forall₂ (fun a b => (a == b) = true) finished finished')
    (hr : (r == r') = true) :
    (g.search path fuel finished r).Alike (g'.search path' fuel finished' r') := by
  induction fuel generalizing path path' finished finished' r r' with
  | zero => exact .finished hfinished
  | succ fuel ih =>
    rw [search, search, contains_congr hpath hr, contains_congr hfinished hr]
    split
    · exact .cycle (forall₂_concat (forall₂_pathFrom hpath hr) hr)
    · split
      · exact .finished hfinished
      · have hbelow := alike_searchEach (ih (forall₂_concat hpath hr)) hfinished
          (forall₂_awaited hedge hnodes hr)
        -- from here on, only how the two searches below end matters
        generalize searchEach (g.search (path ++ [r]) fuel) finished (g.awaited r) = below at hbelow
        generalize searchEach (g'.search (path' ++ [r']) fuel) finished' (g'.awaited r') = below'
          at hbelow
        cases hbelow with
        | cycle hchain => exact .cycle hchain
        | finished hmore => exact .finished (.cons hr hmore)

/-! ## Pairs that say the same -/

/-- The first cycle is the same, up to spelling, in sound graphs with the same nodes and edges. -/
lemma IsSound.rel_findCycle (hg : g.IsSound) (hg' : g'.IsSound)
    (hnodes : ∀ x, g.nodes.contains x = g'.nodes.contains x)
    (hedge : ∀ x y, g.hasEdge x y = g'.hasEdge x y) :
    g.size = g'.size ∧
      Option.Rel (List.Forall₂ fun a b => (a == b) = true) g.findCycle g'.findCycle := by
  have hperm := hg.perm_map_key hg' hnodes
  have hsorted := forall₂_sortedNodes hperm
  have hsize : g.size = g'.size := by
    have hlength := hperm.length_eq
    rwa [List.length_map, List.length_map] at hlength
  have hsearch := alike_searchEach (alike_search hedge hsorted (g.size + 1) .nil) .nil hsorted
  refine ⟨hsize, ?_⟩
  rw [findCycle, findCycle, ← hsize]
  generalize searchEach (g.search [] (g.size + 1)) [] g.sortedNodes = found at hsearch
  generalize searchEach (g'.search [] (g.size + 1)) [] g'.sortedNodes = found' at hsearch
  cases hsearch with
  | cycle hchain => exact .some hchain
  | finished _ => exact .none

/-- If each pair is said by other pairs too, these say of all requests what the pairs say. -/
lemma Awaits.of_forall {pairs pairs' : List (RequestId × RequestId)}
    (h : ∀ p ∈ pairs, Awaits pairs' p.1 p.2) (hawaits : Awaits pairs r r') :
    Awaits pairs' r r' := by
  obtain ⟨p, hp, hr, hr'⟩ := hawaits
  obtain ⟨q, hq, hqr, hqr'⟩ := h p hp
  exact ⟨q, hq, BEq.trans hqr hr, BEq.trans hqr' hr'⟩

/-- Lists with the same pairs, up to spelling, have graphs of one size, and either none of the
graphs has a cycle, or the failures show equal cycles. -/
theorem cycleFailure?_congr {pairs pairs' : List (RequestId × RequestId)}
    (h : ∀ p ∈ pairs, Awaits pairs' p.1 p.2) (h' : ∀ p ∈ pairs', Awaits pairs p.1 p.2) :
    (ofPairs pairs).size = (ofPairs pairs').size ∧
      ((ofPairs pairs).cycleFailure? = none ∧ (ofPairs pairs').cycleFailure? = none ∨
        ∃ chain chain', (chain == chain') = true ∧
          (ofPairs pairs).findCycle = some chain ∧ (ofPairs pairs').findCycle = some chain' ∧
          (ofPairs pairs).cycleFailure? = some (.circularDependency (chainText chain)) ∧
          (ofPairs pairs').cycleFailure? = some (.circularDependency (chainText chain'))) := by
  have hawaits : ∀ x y, Awaits pairs x y ↔ Awaits pairs' x y := fun x y =>
    ⟨Awaits.of_forall h, Awaits.of_forall h'⟩
  -- nodes and edges do not depend on the order of the pairs
  have hnodes : ∀ x, (ofPairs pairs).nodes.contains x = (ofPairs pairs').nodes.contains x := by
    intro x
    rw [Bool.eq_iff_iff, contains_nodes_ofPairs_iff, contains_nodes_ofPairs_iff]
    exact exists_congr fun y => or_congr (hawaits x y) (hawaits y x)
  have hedge : ∀ x y, (ofPairs pairs).hasEdge x y = (ofPairs pairs').hasEdge x y := by
    intro x y
    rw [Bool.eq_iff_iff, hasEdge_ofPairs_iff, hasEdge_ofPairs_iff]
    exact hawaits x y
  have hg := isSound_ofPairs pairs
  obtain ⟨hsize, hcycle⟩ := hg.rel_findCycle (isSound_ofPairs pairs') hnodes hedge
  refine ⟨hsize, ?_⟩
  rw [cycleFailure?, cycleFailure?]
  generalize (ofPairs pairs).findCycle = found at hcycle ⊢
  generalize (ofPairs pairs').findCycle = found' at hcycle ⊢
  cases hcycle with
  | none => exact .inl ⟨rfl, rfl⟩
  | some hchain => exact .inr ⟨_, _, beq_of_forall₂ hchain, rfl, rfl, rfl, rfl⟩

/-- Two requests that await each other, with a third one that awaits one of them. -/
def twoAndOne : List (RequestId × RequestId) :=
  [({ endpoint := "/b", method := .put }, { endpoint := "/c", method := .put }),
    ({ endpoint := "/a", method := .get }, { endpoint := "/b", method := .put }),
    ({ endpoint := "/c", method := .put }, { endpoint := "/b", method := .put })]

/-- The same in another order, with a repetition and in other spellings. -/
def twoAndOneAgain : List (RequestId × RequestId) :=
  [({ endpoint := "c/", method := .put }, { endpoint := "/b", method := .put }),
    ({ endpoint := "/b", method := .put }, { endpoint := "//c", method := .put }),
    ({ endpoint := "a", method := .get }, { endpoint := "b", method := .put }),
    ({ endpoint := "/c", method := .put }, { endpoint := "/b", method := .put })]

/-- The cycles of both are equal, as they are shown they differ in spelling. -/
theorem cycleFailure?_twoAndOneAgain : (ofPairs twoAndOneAgain).size = 3 ∧
    ∃ chain chain', (chain == chain') = true ∧
      (ofPairs twoAndOne).findCycle = some chain ∧ chainText chain = "PUT /b → PUT /c → PUT /b" ∧
      (ofPairs twoAndOneAgain).findCycle = some chain' ∧
        chainText chain' = "PUT /b → PUT c/ → PUT /b" := by
  obtain ⟨hsize, hcycles⟩ := @cycleFailure?_congr twoAndOne twoAndOneAgain
    (by decide +kernel) (by decide +kernel)
  have hfound : (ofPairs twoAndOne).findCycle.map chainText = some "PUT /b → PUT /c → PUT /b" := by
    decide +kernel
  have hfound' : (ofPairs twoAndOneAgain).findCycle.map chainText =
      some "PUT /b → PUT c/ → PUT /b" := by
    decide +kernel
  have htwo : (ofPairs twoAndOne).size = 3 := by decide +kernel
  refine ⟨hsize.symm.trans htwo, ?_⟩
  rcases hcycles with ⟨hnone, -⟩ | ⟨chain, chain', hbeq, hchain, hchain', -⟩
  · rw [cycleFailure?, Option.map_eq_none_iff] at hnone
    rw [hnone] at hfound
    cases hfound
  · rw [hchain, Option.map_some, Option.some.injEq] at hfound
    rw [hchain', Option.map_some, Option.some.injEq] at hfound'
    exact ⟨chain, chain', hbeq, hchain, hfound, hchain', hfound'⟩

end RequestGraph

end RestFlow
