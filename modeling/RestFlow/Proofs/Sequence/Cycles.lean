import Mathlib.Data.List.Chain
import Mathlib.Data.List.Pairwise
import Mathlib.Data.List.Perm.Subperm
import Mathlib.Logic.Relation
import Mathlib.Order.RelClasses
import RestFlow.Proofs.Order.Sorting
import RestFlow.Sequence.Constraints

/-!
# Graphs and their cycles

The edges of a graph of requests, and the search that finds a cycle exactly if there is one.
-/

/-!
## The graph of some pairs

A list of pairs says of some requests that they await others (`RequestGraph.Awaits`), however the
requests are spelled.  The graph of the pairs has just these edges
(`RequestGraph.hasEdge_ofPairs_iff`), and its nodes are the requests of the pairs, each of them once
(`RequestGraph.contains_nodes_ofPairs_iff`, `RequestGraph.isSound_ofPairs`).

In every graph that is sound in this sense, nodes are equal only if they are the same, and a request
awaits another one exactly if this is, up to its spelling, among those that `RequestGraph.awaited`
lists.
-/

namespace RestFlow.RequestGraph

/-- One of the pairs says that the first request runs after the second. -/
def Awaits (pairs : List (RequestId × RequestId)) (later earlier : RequestId) : Prop :=
  ∃ p ∈ pairs, (p.1 == later) = true ∧ (p.2 == earlier) = true

instance (pairs : List (RequestId × RequestId)) (later earlier : RequestId) :
    Decidable (Awaits pairs later earlier) :=
  inferInstanceAs (Decidable (∃ p ∈ pairs, (p.1 == later) = true ∧ (p.2 == earlier) = true))

/-- Every node of the graph is there once, and edges lead from nodes to nodes. -/
structure IsSound (g : RequestGraph) : Prop where
  distinct : g.nodes.Pairwise fun a b => (a == b) = false
  later : ∀ e ∈ g.edges, g.nodes.contains e.1 = true
  earlier : ∀ e ∈ g.edges, g.nodes.contains e.2 = true

variable {g : RequestGraph} {pairs : List (RequestId × RequestId)} {r r' x y : RequestId}

/-! ### Edges -/

@[simp] lemma edges_addNode (g : RequestGraph) (r : RequestId) : (g.addNode r).edges = g.edges := by
  unfold addNode
  split <;> rfl

/-- An edge is added after the others. -/
@[simp] lemma edges_addEdge (g : RequestGraph) (r r' : RequestId) :
    (g.addEdge r r').edges = g.edges ++ [(r, r')] := by
  show ((g.addNode r).addNode r').edges ++ [(r, r')] = _
  rw [edges_addNode, edges_addNode]

/-- The edges of the graph of some pairs are the pairs. -/
lemma edges_ofPairs (pairs : List (RequestId × RequestId)) : (ofPairs pairs).edges = pairs := by
  have hfold : ∀ g : RequestGraph,
      (pairs.foldl (fun g p => g.addEdge p.1 p.2) g).edges = g.edges ++ pairs := by
    induction pairs with
    | nil =>
      intro g
      exact (List.append_nil g.edges).symm
    | cons p rest ih =>
      intro g
      rw [List.foldl_cons, ih, edges_addEdge, List.append_assoc, List.singleton_append]
  exact hfold {}

/-- There is an edge wherever a pair says so. -/
lemma hasEdge_ofPairs_iff : (ofPairs pairs).hasEdge x y = true ↔ Awaits pairs x y := by
  rw [hasEdge, edges_ofPairs, List.any_eq_true]
  simp only [Bool.and_eq_true, Awaits]

/-- Edges do not depend on the spelling of requests. -/
lemma hasEdge_congr (hx : (x == r) = true) (hy : (y == r') = true) :
    g.hasEdge x y = g.hasEdge r r' := by
  have htest : ∀ e : RequestId × RequestId,
      (e.1 == x && e.2 == y) = (e.1 == r && e.2 == r') := by
    intro e
    rw [BEq.congr_right hx, BEq.congr_right hy]
  simp only [hasEdge, htest]

/-! ### Nodes -/

/-- A request is a node, up to its spelling, once it was added, and the others still are. -/
lemma contains_addNode (g : RequestGraph) (r x : RequestId) :
    (g.addNode r).nodes.contains x = (g.nodes.contains x || x == r) := by
  unfold addNode
  split
  · rename_i hr
    by_cases hx : (x == r) = true
    · obtain ⟨n, hn, hrn⟩ := List.contains_iff_exists_mem_beq.mp hr
      have hmem : g.nodes.contains x = true :=
        List.contains_iff_exists_mem_beq.mpr ⟨n, hn, BEq.trans hx hrn⟩
      rw [hmem, Bool.true_or]
    · rw [Bool.eq_false_iff.mpr hx, Bool.or_false]
  · rw [List.contains_append, List.contains_cons, List.contains_nil, Bool.or_false]

/-- The nodes after a pair was added. -/
lemma contains_addEdge (g : RequestGraph) (r r' x : RequestId) :
    (g.addEdge r r').nodes.contains x = (g.nodes.contains x || x == r || x == r') := by
  show ((g.addNode r).addNode r').nodes.contains x = _
  rw [contains_addNode, contains_addNode]

/-- A request is a node, up to its spelling, if it is in one of the pairs. -/
lemma contains_nodes_ofPairs_iff :
    (ofPairs pairs).nodes.contains x = true ↔ ∃ y, Awaits pairs x y ∨ Awaits pairs y x := by
  -- the induction is over the pairs, from any graph
  have hfold : ∀ g : RequestGraph,
      (pairs.foldl (fun g p => g.addEdge p.1 p.2) g).nodes.contains x = true ↔
        g.nodes.contains x = true ∨ ∃ p ∈ pairs, (p.1 == x) = true ∨ (p.2 == x) = true := by
    induction pairs with
    | nil =>
      intro g
      simp
    | cons p rest ih =>
      intro g
      rw [List.foldl_cons, ih, contains_addEdge, Bool.or_eq_true, Bool.or_eq_true,
        List.exists_mem_cons_iff, BEq.comm (a := x), BEq.comm (a := x), or_assoc, or_assoc,
        or_assoc]
  have hempty : ({} : RequestGraph).nodes.contains x = false := rfl
  rw [ofPairs, hfold, hempty]
  simp only [Bool.false_eq_true, false_or]
  constructor
  · rintro ⟨p, hp, hx | hx⟩
    · exact ⟨p.2, .inl ⟨p, hp, hx, BEq.rfl⟩⟩
    · exact ⟨p.1, .inr ⟨p, hp, BEq.rfl, hx⟩⟩
  · rintro ⟨y, ⟨p, hp, hx, -⟩ | ⟨p, hp, -, hx⟩⟩
    · exact ⟨p, hp, .inl hx⟩
    · exact ⟨p, hp, .inr hx⟩

/-- Adding a request keeps the nodes distinct. -/
lemma pairwise_addNode (h : g.nodes.Pairwise fun a b => (a == b) = false) (r : RequestId) :
    (g.addNode r).nodes.Pairwise fun a b => (a == b) = false := by
  unfold addNode
  split
  · exact h
  · rename_i hr
    refine List.pairwise_append.mpr ⟨h, List.pairwise_singleton _ r, fun a ha b hb => ?_⟩
    rw [List.mem_singleton.mp hb, BEq.comm]
    rw [List.contains_iff_exists_mem_beq] at hr
    exact Bool.eq_false_iff.mpr fun hbeq => hr ⟨a, ha, hbeq⟩

/-- The graph of some pairs is sound. -/
theorem isSound_ofPairs (pairs : List (RequestId × RequestId)) : (ofPairs pairs).IsSound := by
  have hdistinct : ∀ g : RequestGraph, (g.nodes.Pairwise fun a b => (a == b) = false) →
      (pairs.foldl (fun g p => g.addEdge p.1 p.2) g).nodes.Pairwise
        fun a b => (a == b) = false := by
    induction pairs with
    | nil =>
      intro g h
      exact h
    | cons p rest ih =>
      intro g h
      exact ih _ (pairwise_addNode (pairwise_addNode h p.1) p.2)
  refine ⟨hdistinct {} List.Pairwise.nil, fun e he => ?_, fun e he => ?_⟩
  · rw [edges_ofPairs] at he
    exact contains_nodes_ofPairs_iff.mpr ⟨e.2, .inl ⟨e, he, BEq.rfl, BEq.rfl⟩⟩
  · rw [edges_ofPairs] at he
    exact contains_nodes_ofPairs_iff.mpr ⟨e.1, .inr ⟨e, he, BEq.rfl, BEq.rfl⟩⟩

/-! ### Sound graphs -/

namespace IsSound

/-- Nodes are equal only if they are the same. -/
lemma eq_of_beq (hg : g.IsSound) (hx : x ∈ g.nodes) (hy : y ∈ g.nodes) (h : (x == y) = true) :
    x = y := by
  by_contra hne
  have hsymm : Std.Symm fun a b : RequestId => (a == b) = false := ⟨fun a b hab => by rwa [BEq.comm]⟩
  have hfalse := hg.distinct.forall hx hy hne
  rw [h] at hfalse
  cases hfalse

/-- Whoever waits is a node, up to its spelling, and so is whoever is waited for. -/
lemma contains_of_hasEdge (hg : g.IsSound) (h : g.hasEdge x y = true) :
    g.nodes.contains x = true ∧ g.nodes.contains y = true := by
  obtain ⟨e, he, htest⟩ := List.any_eq_true.mp h
  rw [Bool.and_eq_true] at htest
  have hcongr : ∀ {a b : RequestId}, (a == b) = true → g.nodes.contains a = true →
      g.nodes.contains b = true := by
    intro a b hab ha
    obtain ⟨n, hn, han⟩ := List.contains_iff_exists_mem_beq.mp ha
    exact List.contains_iff_exists_mem_beq.mpr ⟨n, hn, BEq.trans (BEq.symm hab) han⟩
  exact ⟨hcongr htest.1 (hg.later e he), hcongr htest.2 (hg.earlier e he)⟩

end IsSound

@[simp] lemma mem_sortedNodes : x ∈ g.sortedNodes ↔ x ∈ g.nodes :=
  mem_sortBy

lemma mem_awaited_iff : x ∈ g.awaited r ↔ x ∈ g.nodes ∧ g.hasEdge r x = true := by
  rw [awaited, List.mem_filter, mem_sortedNodes]

/-- Whatever a request waits for is, up to its spelling, among the nodes that it awaits. -/
lemma IsSound.exists_mem_awaited (hg : g.IsSound) (h : g.hasEdge r x = true) :
    ∃ y ∈ g.awaited r, (x == y) = true := by
  obtain ⟨y, hy, hxy⟩ := List.contains_iff_exists_mem_beq.mp (hg.contains_of_hasEdge h).2
  have hedge : g.hasEdge r y = true := by
    rw [← hasEdge_congr BEq.rfl hxy]
    exact h
  exact ⟨y, mem_awaited_iff.mpr ⟨hy, hedge⟩, hxy⟩

end RestFlow.RequestGraph

/-!
## The search for a cycle is exact

The depth of the search is limited by the number of requests.  `RequestGraph.SearchesTo` is the same
search without a limit, as a relation between what is given and what the search ends with, of which
there is one thing at most (`RequestGraph.SearchesTo.unique`).  Along a path no request comes twice,
so no path is longer than the number of requests, the limit is never met, and the search ends as it
would without it (`RequestGraph.searchesTo_searchEach`).

The search goes on along paths (`RequestGraph.IsPath`), so a request that is met on its own path
closes a cycle (`RequestGraph.IsPath.isCycle`).  A request is finished when all that it awaits is
finished, so from finished requests no one can go on forever (`RequestGraph.IsDone`).  Both together
are `RequestGraph.SearchesTo.isRight`, from which it follows that there is a cycle exactly if the
search meets one.
-/

namespace RestFlow.RequestGraph

/-! ### Cycles -/

/-- A chain of requests, each waiting for the next one, that ends where it starts and otherwise has
every request once. -/
structure IsCycle (waits : RequestId → RequestId → Prop) (chain : List RequestId) : Prop where
  two_le : 2 ≤ chain.length
  closed : chain.head? = chain.getLast?
  distinct : chain.dropLast.Pairwise fun a b => (a == b) = false
  linked : chain.IsChain waits

/-- Whoever is at the start of a cycle waits, in the end, for itself. -/
lemma IsCycle.exists_transGen {waits : RequestId → RequestId → Prop} {chain : List RequestId}
    (h : IsCycle waits chain) : ∃ r, Relation.TransGen waits r r := by
  obtain ⟨two_le, closed, -, linked⟩ := h
  cases chain with
  | nil => cases two_le
  | cons r tail =>
    cases tail with
    | nil =>
      rw [List.length_singleton] at two_le
      omega
    | cons next rest =>
      obtain ⟨hfirst, hrest⟩ := List.isChain_cons_cons.mp linked
      have hlast : (next :: rest).getLast (List.cons_ne_nil next rest) = r := by
        rw [List.head?_cons, List.getLast?_cons_cons,
          List.getLast?_eq_some_getLast (List.cons_ne_nil next rest)] at closed
        exact (Option.some.inj closed).symm
      exact ⟨r, .head' hfirst (List.relationReflTransGen_of_exists_isChain_cons rest hrest hlast)⟩

variable {g : RequestGraph} {path finished goals : List RequestId} {r x y : RequestId}
  {result : Search}

/-- Nobody can go on forever from the request to others that it waits for. -/
def IsDone (g : RequestGraph) (r : RequestId) : Prop :=
  Acc (fun y x => g.hasEdge x y = true) r

/-- Whether a request is done does not depend on its spelling. -/
lemma IsDone.of_beq (h : g.IsDone x) (hxy : (x == y) = true) : g.IsDone y := by
  refine Acc.intro y fun z hz => h.inv ?_
  rw [hasEdge_congr hxy BEq.rfl]
  exact hz

/-- If all requests are done, none waits for itself. -/
lemma not_transGen_of_isDone (h : ∀ r, g.IsDone r) (r : RequestId) :
    ¬Relation.TransGen (fun x y => g.hasEdge x y = true) r r := by
  intro hcycle
  have hwf : WellFounded fun y x => g.hasEdge x y = true := ⟨h⟩
  have hback := Relation.transGen_swap.mpr hcycle
  exact hwf.transGen.asymmetric r r hback hback

/-! ### Paths -/

/-- Every request of the path is a node, none of them comes twice, and each waits for the next
one. -/
structure IsPath (g : RequestGraph) (path : List RequestId) : Prop where
  mem : ∀ r ∈ path, r ∈ g.nodes
  distinct : path.Pairwise fun a b => (a == b) = false
  linked : path.IsChain fun a b => g.hasEdge a b = true

/-- The path leads to the request: its last one waits for it. -/
def Leads (g : RequestGraph) (path : List RequestId) (r : RequestId) : Prop :=
  r ∈ g.nodes ∧ ∀ last ∈ path.getLast?, g.hasEdge last r = true

/-- A path leads from its last request to all that this one awaits. -/
lemma leads_of_mem_awaited (path : List RequestId) (h : x ∈ g.awaited r) :
    g.Leads (path ++ [r]) x := by
  obtain ⟨hx, hedge⟩ := mem_awaited_iff.mp h
  refine ⟨hx, fun last hlast => ?_⟩
  rw [List.getLast?_concat, Option.mem_some] at hlast
  rwa [← hlast]

namespace IsPath

/-- At the start nobody is on the path. -/
lemma nil (g : RequestGraph) : g.IsPath [] where
  mem _ h := absurd h List.not_mem_nil
  distinct := List.Pairwise.nil
  linked := List.IsChain.nil

/-- A path goes on to a request that it leads to and that is not on it. -/
lemma concat (h : g.IsPath path) (hr : g.Leads path r) (hnew : path.contains r = false) :
    g.IsPath (path ++ [r]) where
  mem x hx := by
    rcases List.mem_append.mp hx with hx | hx
    · exact h.mem x hx
    · rw [List.mem_singleton.mp hx]
      exact hr.1
  distinct := by
    refine List.pairwise_append.mpr ⟨h.distinct, List.pairwise_singleton _ r, fun a ha b hb => ?_⟩
    rw [List.mem_singleton.mp hb, BEq.comm]
    -- a request equal to the added one would be on the path
    refine Bool.eq_false_iff.mpr fun hbeq => ?_
    rw [List.contains_iff_exists_mem_beq.mpr ⟨a, ha, hbeq⟩] at hnew
    cases hnew
  linked := by
    refine h.linked.append (List.isChain_singleton r) fun last hlast y hy => ?_
    rw [List.head?_cons, Option.mem_some] at hy
    rw [← hy]
    exact hr.2 last hlast

/-- No path is longer than the number of nodes. -/
lemma length_le (h : g.IsPath path) : path.length ≤ g.size := by
  have hnodup : path.Nodup := by
    refine h.distinct.imp fun {a b} hab heq => ?_
    rw [heq, BEq.rfl] at hab
    cases hab
  exact (List.subperm_of_subset hnodup h.mem).length_le

/-- The part of a path from one of its requests on. -/
lemma exists_pathFrom (hg : g.IsSound) (h : g.IsPath path) (hr : r ∈ g.nodes)
    (hmem : path.contains r = true) :
    ∃ before rest, path = before ++ r :: rest ∧ pathFrom r path = r :: rest := by
  obtain ⟨x, hx, hrx⟩ := List.contains_iff_exists_mem_beq.mp hmem
  obtain rfl : r = x := hg.eq_of_beq hr (h.mem x hx) hrx
  obtain ⟨before, rest, rfl, hbefore⟩ := List.eq_append_cons_of_mem hx
  refine ⟨before, rest, rfl, ?_⟩
  have hskip : ∀ a ∈ before, (a != r) = true := by
    intro a ha
    rw [bne, Bool.not_eq_true']
    refine Bool.eq_false_iff.mpr fun har => hbefore ?_
    rwa [← hg.eq_of_beq (h.mem a (List.mem_append_left _ ha)) hr har]
  have hstop : (r != r) = false := by
    rw [bne, BEq.rfl, Bool.not_true]
  rw [pathFrom, List.dropWhile_append_of_pos hskip, List.dropWhile_cons, hstop]
  rfl

/-- A request that is met on a path which leads to it closes a cycle. -/
lemma isCycle (hg : g.IsSound) (h : g.IsPath path) (hr : g.Leads path r)
    (hmem : path.contains r = true) :
    IsCycle (fun a b => g.hasEdge a b = true) (pathFrom r path ++ [r]) := by
  obtain ⟨before, rest, rfl, hfrom⟩ := exists_pathFrom hg h hr.1 hmem
  rw [hfrom]
  refine ⟨?_, ?_, ?_, ?_⟩
  · rw [List.length_append, List.length_cons, List.length_singleton]
    omega
  · rw [List.getLast?_concat]
    rfl
  · rw [List.dropLast_concat]
    exact (List.pairwise_append.mp h.distinct).2.1
  · refine h.linked.right_of_append.append (List.isChain_singleton r) fun last hlast y hy => ?_
    rw [List.head?_cons, Option.mem_some] at hy
    rw [← hy]
    -- the last request of the path leads back to the one that was met
    refine hr.2 last ?_
    rw [List.getLast?_append_of_ne_nil _ (List.cons_ne_nil r rest)]
    exact hlast

end IsPath

/-! ### The search without a limit -/

/-- What a search from some goals, reached along a path, ends with, if some requests are finished
already and there is no limit to its depth. -/
inductive SearchesTo (g : RequestGraph) :
    List RequestId → List RequestId → List RequestId → Search → Prop where
  /-- No goals are left. -/
  | done {path finished : List RequestId} : SearchesTo g path finished [] (.finished finished)
  /-- The first goal is on the path. -/
  | meets {path finished rest : List RequestId} {r : RequestId} (honpath : path.contains r = true) :
    SearchesTo g path finished (r :: rest) (.cycle (pathFrom r path ++ [r]))
  /-- The first goal is finished. -/
  | passes {path finished rest : List RequestId} {r : RequestId} {result : Search}
    (honpath : path.contains r = false) (hknown : finished.contains r = true)
    (hrest : SearchesTo g path finished rest result) :
    SearchesTo g path finished (r :: rest) result
  /-- There is a cycle below the first goal. -/
  | fails {path finished rest chain : List RequestId} {r : RequestId}
    (honpath : path.contains r = false) (hknown : finished.contains r = false)
    (hbelow : SearchesTo g (path ++ [r]) finished (g.awaited r) (.cycle chain)) :
    SearchesTo g path finished (r :: rest) (.cycle chain)
  /-- All that the first goal awaits is finished, and then the goal is. -/
  | finishes {path finished rest more : List RequestId} {r : RequestId} {result : Search}
    (honpath : path.contains r = false) (hknown : finished.contains r = false)
    (hbelow : SearchesTo g (path ++ [r]) finished (g.awaited r) (.finished more))
    (hrest : SearchesTo g path (r :: more) rest result) :
    SearchesTo g path finished (r :: rest) result

/-- The search ends in one way only. -/
theorem SearchesTo.unique {result' : Search} (h : g.SearchesTo path finished goals result)
    (h' : g.SearchesTo path finished goals result') : result = result' := by
  -- the two tests of a request tell the cases apart
  induction h generalizing result' with
  | done =>
    cases h'
    rfl
  | meets honpath =>
    cases h' with
    | meets => rfl
    | passes hoff | fails hoff | finishes hoff => exact absurd honpath (Bool.eq_false_iff.mp hoff)
  | passes honpath hknown hrest ih =>
    cases h' with
    | meets hon => exact absurd hon (Bool.eq_false_iff.mp honpath)
    | passes _ _ hrest' => exact ih hrest'
    | fails _ hnew | finishes _ hnew => exact absurd hknown (Bool.eq_false_iff.mp hnew)
  | fails honpath hknown hbelow ih =>
    cases h' with
    | meets hon => exact absurd hon (Bool.eq_false_iff.mp honpath)
    | passes _ hold => exact absurd hold (Bool.eq_false_iff.mp hknown)
    | fails _ _ hbelow' => exact ih hbelow'
    | finishes _ _ hbelow' => cases ih hbelow'
  | finishes honpath hknown hbelow hrest ih ihrest =>
    cases h' with
    | meets hon => exact absurd hon (Bool.eq_false_iff.mp honpath)
    | passes _ hold => exact absurd hold (Bool.eq_false_iff.mp hknown)
    | fails _ _ hbelow' => cases ih hbelow'
    | finishes _ _ hbelow' hrest' =>
      cases ih hbelow'
      exact ihrest hrest'

/-- A limit that the longest paths do not meet makes no difference. -/
theorem searchesTo_searchEach {fuel : Nat} (hfuel : g.size < path.length + fuel)
    (hpath : g.IsPath path) (hgoals : ∀ r ∈ goals, g.Leads path r) :
    g.SearchesTo path finished goals (searchEach (g.search path fuel) finished goals) := by
  induction fuel generalizing path finished goals with
  | zero =>
    have hle := hpath.length_le
    omega
  | succ fuel ih =>
    -- the goals are gone through one after the other, with the same limit
    induction goals generalizing finished with
    | nil => exact .done
    | cons r rest ihrest =>
      have hr := hgoals r List.mem_cons_self
      have hothers : ∀ x ∈ rest, g.Leads path x := fun x hx => hgoals x (List.mem_cons_of_mem r hx)
      rw [searchEach, search]
      by_cases honpath : path.contains r = true
      · rw [if_pos honpath]
        exact .meets honpath
      · have hoff : path.contains r = false := Bool.eq_false_iff.mpr honpath
        rw [if_neg honpath]
        by_cases hknown : finished.contains r = true
        · rw [if_pos hknown]
          exact .passes hoff hknown (ihrest hothers)
        · have hnew : finished.contains r = false := Bool.eq_false_iff.mpr hknown
          -- the path gets longer by one request and the limit less by one
          have hlimit : g.size < (path ++ [r]).length + fuel := by
            rw [List.length_append, List.length_singleton]
            omega
          have hbelow := @ih (path ++ [r]) finished (g.awaited r) hlimit (hpath.concat hr hoff)
            fun x hx => leads_of_mem_awaited path hx
          rw [if_neg hknown]
          cases hsearch : searchEach (g.search (path ++ [r]) fuel) finished (g.awaited r) with
          | cycle chain =>
            rw [hsearch] at hbelow
            exact .fails hoff hnew hbelow
          | finished more =>
            rw [hsearch] at hbelow
            exact .finishes hoff hnew hbelow (ihrest hothers)

/-! ### What the search ends with -/

/-- The search ends with a cycle, or all finished requests and all goals are done. -/
def IsRight (g : RequestGraph) (goals : List RequestId) : Search → Prop
  | .cycle chain => IsCycle (fun a b => g.hasEdge a b = true) chain
  | .finished more => (∀ r ∈ more, g.IsDone r) ∧ ∀ r ∈ goals, g.IsDone r

/-- One more goal that is done. -/
lemma IsRight.cons (hr : g.IsDone r) (h : g.IsRight goals result) :
    g.IsRight (r :: goals) result := by
  cases result with
  | cycle chain => exact h
  | finished more => exact ⟨h.1, List.forall_mem_cons.mpr ⟨hr, h.2⟩⟩

/-- A search along a path, with requests finished that are done, ends with what is right. -/
theorem SearchesTo.isRight (hg : g.IsSound) (h : g.SearchesTo path finished goals result)
    (hpath : g.IsPath path) (hgoals : ∀ r ∈ goals, g.Leads path r)
    (hfinished : ∀ r ∈ finished, g.IsDone r) : g.IsRight goals result := by
  induction h with
  | done => exact ⟨hfinished, fun r hr => absurd hr List.not_mem_nil⟩
  | meets honpath => exact hpath.isCycle hg (hgoals _ List.mem_cons_self) honpath
  | passes honpath hknown hrest ih =>
    obtain ⟨x, hx, hrx⟩ := List.contains_iff_exists_mem_beq.mp hknown
    have hdone := (hfinished x hx).of_beq (BEq.symm hrx)
    exact (ih hpath (fun x hx => hgoals x (List.mem_cons_of_mem _ hx)) hfinished).cons hdone
  | fails honpath hknown hbelow ih =>
    have hlonger := hpath.concat (hgoals _ List.mem_cons_self) honpath
    exact ih hlonger (fun _ hx => leads_of_mem_awaited _ hx) hfinished
  | @finishes path finished rest more r result honpath hknown hbelow hrest ih ihrest =>
    have hlonger := hpath.concat (hgoals r List.mem_cons_self) honpath
    obtain ⟨hmore, hawaited⟩ := ih hlonger (fun _ hx => leads_of_mem_awaited path hx) hfinished
    -- all that the request waits for is done, so it is done itself
    have hdone : g.IsDone r := by
      refine Acc.intro r fun y hy => ?_
      obtain ⟨z, hz, hyz⟩ := hg.exists_mem_awaited hy
      exact (hawaited z hz).of_beq (BEq.symm hyz)
    exact (ihrest hpath (fun x hx => hgoals x (List.mem_cons_of_mem r hx))
      (List.forall_mem_cons.mpr ⟨hdone, hmore⟩)).cons hdone

/-! ### The first cycle -/

/-- The cycle that a search met, if it did. -/
def Search.cycle? : Search → Option (List RequestId)
  | .cycle chain => some chain
  | .finished _ => none

/-- The search that finds the first cycle. -/
def wholeSearch (g : RequestGraph) : Search :=
  searchEach (g.search [] (g.size + 1)) [] g.sortedNodes

/-- The first cycle is the one that the whole search meets. -/
lemma findCycle_eq (g : RequestGraph) : g.findCycle = g.wholeSearch.cycle? := by
  rw [findCycle, wholeSearch]
  cases searchEach (g.search [] (g.size + 1)) [] g.sortedNodes <;> rfl

lemma leads_nil (h : r ∈ g.sortedNodes) : g.Leads [] r :=
  ⟨mem_sortedNodes.mp h, fun _ hlast => nomatch hlast⟩

/-- The whole search ends as it would without a limit. -/
lemma searchesTo_wholeSearch (g : RequestGraph) :
    g.SearchesTo [] [] g.sortedNodes g.wholeSearch := by
  refine searchesTo_searchEach ?_ (.nil g) fun _ => leads_nil
  rw [List.length_nil]
  omega

/-- Without a limit, the search from all nodes ends, and only as the whole search does. -/
theorem searchesTo_sortedNodes_iff :
    g.SearchesTo [] [] g.sortedNodes result ↔ result = g.wholeSearch := by
  constructor
  · intro h
    exact h.unique (searchesTo_wholeSearch g)
  · rintro rfl
    exact searchesTo_wholeSearch g

/-- The whole search ends with what is right. -/
lemma IsSound.isRight_wholeSearch (hg : g.IsSound) : g.IsRight g.sortedNodes g.wholeSearch :=
  (searchesTo_wholeSearch g).isRight hg (.nil g) (fun _ => leads_nil)
    fun _ hr => absurd hr List.not_mem_nil

/-- What is found is a cycle. -/
theorem IsSound.isCycle_of_findCycle (hg : g.IsSound) {chain : List RequestId}
    (h : g.findCycle = some chain) : IsCycle (fun a b => g.hasEdge a b = true) chain := by
  have hright := hg.isRight_wholeSearch
  rw [findCycle_eq] at h
  cases hsearch : g.wholeSearch with
  | cycle found =>
    rw [hsearch] at h hright
    rwa [← Option.some.inj h]
  | finished more =>
    rw [hsearch] at h
    cases h

/-- No cycle is found exactly if nobody waits for itself. -/
theorem IsSound.findCycle_eq_none_iff (hg : g.IsSound) : g.findCycle = none ↔
    ∀ r, ¬Relation.TransGen (fun x y => g.hasEdge x y = true) r r := by
  constructor
  · intro h
    have hright := hg.isRight_wholeSearch
    rw [findCycle_eq] at h
    cases hsearch : g.wholeSearch with
    | cycle found =>
      rw [hsearch] at h
      cases h
    | finished more =>
      rw [hsearch] at hright
      refine not_transGen_of_isDone fun r => Acc.intro r fun y hy => ?_
      -- whoever is waited for is a node, and all nodes are done
      obtain ⟨n, hn, hyn⟩ := hg.exists_mem_awaited hy
      have hnode : n ∈ g.sortedNodes := mem_sortedNodes.mpr (mem_awaited_iff.mp hn).1
      exact (hright.2 n hnode).of_beq (BEq.symm hyn)
  · intro h
    rw [Option.eq_none_iff_forall_ne_some]
    intro chain hchain
    obtain ⟨r, hr⟩ := (hg.isCycle_of_findCycle hchain).exists_transGen
    exact h r hr

/-- Edges of the graph of some pairs are what the pairs say. -/
lemma hasEdge_ofPairs_eq (pairs : List (RequestId × RequestId)) :
    (fun x y => (ofPairs pairs).hasEdge x y = true) = Awaits pairs := by
  funext x y
  exact propext hasEdge_ofPairs_iff

/-- The search through the graph of some pairs ends by itself, and in one way.  No failure is found
exactly if no request waits for itself, and otherwise the failure shows a cycle of the pairs. -/
theorem cycleFailure?_ofPairs (pairs : List (RequestId × RequestId)) :
    (∃ result, (∀ other, (ofPairs pairs).SearchesTo [] [] (ofPairs pairs).sortedNodes other ↔
        other = result) ∧ (ofPairs pairs).findCycle = result.cycle?) ∧
      ((ofPairs pairs).cycleFailure? = none ↔ ∀ r, ¬Relation.TransGen (Awaits pairs) r r) ∧
      ∀ f, (ofPairs pairs).cycleFailure? = some f →
        ∃ chain, (ofPairs pairs).findCycle = some chain ∧
          f = .circularDependency (chainText chain) ∧ IsCycle (Awaits pairs) chain := by
  have hg := isSound_ofPairs pairs
  refine ⟨⟨_, fun _ => searchesTo_sortedNodes_iff, findCycle_eq _⟩, ?_, fun f hf => ?_⟩
  · rw [cycleFailure?, Option.map_eq_none_iff, hg.findCycle_eq_none_iff, hasEdge_ofPairs_eq]
  · obtain ⟨chain, hchain, rfl⟩ := Option.map_eq_some_iff.mp hf
    have hcycle := hg.isCycle_of_findCycle hchain
    rw [hasEdge_ofPairs_eq] at hcycle
    exact ⟨chain, hchain, rfl, hcycle⟩

/-- Two requests that await each other, one of them in two spellings. -/
def mutualPairs : List (RequestId × RequestId) :=
  [({ endpoint := "/a", method := .put }, { endpoint := "/b/", method := .put }),
    ({ endpoint := "/b", method := .put }, { endpoint := "/a", method := .put })]

/-- Their cycle is found, and what is shown of it has the spellings that came first. -/
theorem isCycle_mutualPairs : ∃ chain, (ofPairs mutualPairs).findCycle = some chain ∧
    chainText chain = "PUT /a → PUT /b/ → PUT /a" ∧ IsCycle (Awaits mutualPairs) chain := by
  have hfound : (ofPairs mutualPairs).findCycle.map chainText =
      some "PUT /a → PUT /b/ → PUT /a" := by
    decide +kernel
  obtain ⟨chain, hchain, htext⟩ := Option.map_eq_some_iff.mp hfound
  have hfailure : (ofPairs mutualPairs).cycleFailure? =
      some (.circularDependency (chainText chain)) := by
    rw [cycleFailure?, hchain]
    rfl
  obtain ⟨found, hfind, -, hcycle⟩ := (cycleFailure?_ofPairs mutualPairs).2.2 _ hfailure
  obtain rfl : chain = found := Option.some.inj (hchain.symm.trans hfind)
  exact ⟨chain, hchain, htext, hcycle⟩

end RestFlow.RequestGraph
