import Mathlib.Logic.Relation
import RestFlow.Proofs.Body.AccessPath
import RestFlow.Proofs.Extraction.Bonds
import RestFlow.Proofs.Extraction.Mirroring

/-!
# Mirrors are safe

A consumer that mirrors a property could be sent in circles: the property may be a consumer that
mirrors another one, and so on. In a successful run this does not happen. When somebody gets to
mirror a property, either a consumer of it is backed by a suffix at once, or all of them had their
producers before (`SameBodyState.InTurn`). In the first case no other consumer of the property can
mirror anything, since all of them are one consumer and a second producer would be a conflict. In
the second case, whoever of them mirrors something had the turn earlier. So along a chain of mirrors
the turns go back (`Dependency.lt_of_takesFrom`). What is mirrored is a node in the body of the
consumer's own request, not around the consumer (`Consumer.HasBeside`), and somebody among its
consumers has a producer, if there are any.
-/

namespace RestFlow

/-! ## Where mirrored properties are -/

namespace Consumer

variable {c : Consumer} {index : ProducerIndex} {aliases : SortedMap String} {r : Resource}

/-- Whoever mirrors a property is not inside of it, nor the property itself. -/
lemma exists_not_isPrefix_of_mirror? (h : c.mirror? index aliases = some r) :
    ∃ own place, c.resource.place? = some own ∧ r.place? = some place ∧
      ¬place.segments <+: own.segments := by
  obtain ⟨-, name, own, -, hown, hmem⟩ := exists_of_mirror? h
  have htest := (List.mem_filter.mp hmem).2
  rw [Bool.and_eq_true, Option.any_eq_true] at htest
  obtain ⟨-, place, hplace, hbeside⟩ := htest
  exact ⟨own, place, hown, hplace, AccessPath.bne_and_not_isAncestorOf_iff.mp hbeside⟩

/-- Nobody mirrors a property that is the consumer itself. -/
lemma resource_beq_eq_false_of_mirror? (h : c.mirror? index aliases = some r) :
    (c.resource == r) = false := by
  obtain ⟨own, place, hown, hplace, hprefix⟩ := exists_not_isPrefix_of_mirror? h
  refine Bool.eq_false_iff.mpr fun hbeq => hprefix ?_
  have hsame := Resource.place?_eq_of_beq hbeq
  rw [hown, hplace] at hsame
  obtain rfl : own = place := Option.some.inj hsame
  exact List.prefix_rfl

/-- The resource is a node in the body of the consumer's request, and its place is not an initial
part of the consumer's own. -/
def HasBeside (i : Interface) (c : Consumer) (r : Resource) : Prop :=
  ∃ e ∈ i.distinct, ∃ tree v own, e.data.body = some tree ∧ v ∈ tree.visits .root ∧
    c.request = e.id ∧ r.request = e.id ∧ r.place? = some v.1 ∧
    c.resource.place? = some own ∧ ¬v.1.segments <+: own.segments

end Consumer

namespace Setup

variable {s : Setup} {i : Interface} {c : Collection}

/-- A body property that was collected is a node of the body of a request. -/
lemma exists_visit_of_mem_sameBody (hc : (s.collect i).2 = .ok c) {r : Resource}
    (hr : r ∈ c.sameBody) :
    ∃ e ∈ i.distinct, ∃ tree v, e.data.body = some tree ∧ v ∈ tree.visits .root ∧
      r.request = e.id ∧ r.place? = some v.1 := by
  obtain ⟨parts, hparts, rfl⟩ := collect_eq_ok_iff.mp hc
  rw [Collection.listed, Collection.sameBody_join, List.mem_flatMap] at hr
  obtain ⟨part, hpart, hr⟩ := hr
  obtain ⟨e, he, hep⟩ := exists_of_mem_mapM hparts hpart
  obtain ⟨-, _, _, bs, -, -, hbs, rfl⟩ := collectEntry_eq_ok_iff.mp hep
  unfold sameBody at hbs
  cases hbody : e.data.body with
  | none =>
    rw [hbody] at hbs
    rw [← Except.ok.inj hbs] at hr
    cases hr
  | some tree =>
    rw [hbody] at hbs
    obtain ⟨v, hv, hsituate⟩ := exists_of_mem_mapM hbs hr
    obtain rfl := eq_situated_of_situate hsituate
    exact ⟨e, he, tree, v, hbody, (List.mem_filter.mp hv).1, rfl, rfl⟩

/-- What a consumer of the collection mirrors is beside it. -/
lemma hasBeside_of_mirror? {d : Dictionary} {x : Consumer} {r : Resource}
    (hc : (s.collect i).2 = .ok c) (hx : x ∈ c.consumers)
    (h : x.mirror? (s.settings i c d).index s.config.aliases = some r) : x.HasBeside i r := by
  obtain ⟨e, he, part, hpart, hxp⟩ := exists_of_mem_collect hc hx
  have hxe := (isInputOf_of_mem_collectEntry hpart x hxp).request_eq
  have hr := mem_sameBody_settings.mp (Consumer.mem_sameBody_of_mirror? h)
  obtain ⟨e', he', tree, v, htree, hv, hre, hplace⟩ := exists_visit_of_mem_sameBody hc hr
  obtain ⟨-, _, _, -, -, hmem⟩ := Consumer.exists_of_mirror? h
  have hrequest := (Consumer.of_mem_mirrors hmem).2.1
  rw [hre, hxe] at hrequest
  obtain rfl := Interface.eq_of_mem_distinct he' he hrequest
  obtain ⟨own, place, hown, hplace', hprefix⟩ := Consumer.exists_not_isPrefix_of_mirror? h
  obtain rfl : v.1 = place := Option.some.inj (hplace.symm.trans hplace')
  exact ⟨e', he', tree, v, own, htree, hv, hxe, hre, hplace, hown, hprefix⟩

end Setup

/-! ## The order of turns -/

namespace SameBodyState

section Turns

variable {l : List Dependency} {position n turns : Nat} {x : Consumer} {r q : Resource}

/-- A consumer of the property is bound to its suffix. -/
def IsBacked (l : List Dependency) (r : Resource) : Prop :=
  ∃ z ∈ l, (z.consumer.resource == r) = true ∧ z.producer = some (backing r)

/-- All consumers of the property have producers, and those that mirror something stand before a
position. -/
def AllBefore (l : List Dependency) (r : Resource) (n : Nat) : Prop :=
  ∀ m z, l[m]? = some z → (z.consumer.resource == r) = true →
    z.isResolved = true ∧ ∀ q, z.Mirrors q → m < n

/-- Only those before a position mirror anything.  If a property is mirrored it is backed, or all of
its consumers that mirror something stand before whoever mirrors it. -/
structure InTurn (turns : Nat) (l : List Dependency) : Prop where
  lt : ∀ n y r, l[n]? = some y → y.Mirrors r → n < turns
  before : ∀ n y r, l[n]? = some y → y.Mirrors r → IsBacked l r ∨ AllBefore l r n

/-- Where all consumers of a property have producers, one without is no consumer of it. -/
lemma AllBefore.beq_eq_false (h : AllBefore l r n) (hx : ⟨x, none⟩ ∈ l) :
    (x.resource == r) = false := by
  obtain ⟨m, hm⟩ := List.mem_iff_getElem?.mp hx
  refine Bool.eq_false_iff.mpr fun hbeq => ?_
  have hresolved := (h m _ hm hbeq).1
  cases hresolved

/-- A property stays backed. -/
lemma IsBacked.mirroring (h : IsBacked l q) (hposition : l[position]? = some ⟨x, none⟩) :
    IsBacked (mirroring l position r) q := by
  obtain ⟨z, hz, hzq, hproducer⟩ := h
  have hresolved : z.isResolved = true := by
    rw [Dependency.isResolved, hproducer]
    rfl
  exact ⟨z, mem_mirroring hposition hz hresolved, hzq, hproducer⟩

/-- Where all consumers of a property have producers, nothing changes for them. -/
lemma AllBefore.mirroring (h : AllBefore l q n) (hposition : l[position]? = some ⟨x, none⟩) :
    AllBefore (mirroring l position r) q n := by
  intro m z hm hzq
  by_cases hne : m = position
  · rw [hne, getElem?_mirroring_self hposition] at hm
    rw [← Option.some.inj hm, h.beq_eq_false (List.mem_of_getElem? hposition)] at hzq
    cases hzq
  · rcases getElem?_mirroring_cases hne hm with hold | ⟨hold, -, -⟩
    · exact h m z hold hzq
    · rw [h.beq_eq_false (List.mem_of_getElem? hold)] at hzq
      cases hzq

/-- When somebody comes to mirror a property, this is backed by then, or all of its consumers that
mirror something had their turns. -/
lemma isBacked_or_allBefore_mirroring (h : InTurn turns l)
    (hposition : l[turns]? = some ⟨x, none⟩) (hother : (x.resource == r) = false) :
    IsBacked (mirroring l turns r) r ∨ AllBefore (mirroring l turns r) r turns := by
  rcases bindFirst_cases l r (backing r) with ⟨-, hall⟩ | ⟨m, z, hm, hzr, hbind⟩
  · right
    -- nobody is left to back the property, so all of its consumers have a producer
    have hbefore : AllBefore l r turns := by
      intro m z hm hzr
      have hresolved : z.isResolved = true := by
        by_contra hnot
        have hnone : z.producer = none := by
          rwa [Dependency.isResolved, Bool.not_eq_true, Option.isSome_eq_false_iff,
            Option.isNone_iff_eq_none] at hnot
        have hunbound : ⟨z.consumer, none⟩ ∈ l := by
          rw [← hnone]
          exact List.mem_of_getElem? hm
        rw [hall _ hunbound] at hzr
        cases hzr
      exact ⟨hresolved, fun q hzq => h.lt m z q hm hzq⟩
    exact hbefore.mirroring hposition
  · left
    -- whoever backs the property is not the one that mirrors it
    have hne : m ≠ turns := by
      rintro rfl
      rw [hposition] at hm
      obtain rfl := congrArg Dependency.consumer (Option.some.inj hm)
      rw [hother] at hzr
      cases hzr
    have hbacked : (mirroring l turns r)[m]? = some ⟨z, some (backing r)⟩ := by
      rw [SameBodyState.mirroring, getElem?_bind_of_ne hne, hbind, getElem?_bind_self hm]
    exact ⟨_, List.mem_of_getElem? hbacked, hzr, rfl⟩

/-- One more turn in which a property comes to be mirrored. -/
lemma InTurn.mirroring (h : InTurn turns l) (hposition : l[turns]? = some ⟨x, none⟩)
    (hother : (x.resource == r) = false) : InTurn (turns + 1) (mirroring l turns r) := by
  -- whoever mirrors a property had the turn now, or did so before
  have hcases : ∀ n y q, (SameBodyState.mirroring l turns r)[n]? = some y → y.Mirrors q →
      n = turns ∧ q = r ∨ l[n]? = some y := by
    intro n y q hn hyq
    by_cases hne : n = turns
    · rw [hne, getElem?_mirroring_self hposition] at hn
      rw [← Option.some.inj hn] at hyq
      exact .inl ⟨hne, (Producer.sameBody.inj (Option.some.inj hyq)).symm⟩
    · rcases getElem?_mirroring_cases hne hn with hold | ⟨-, -, hbacked⟩
      · exact .inr hold
      · rw [Dependency.Mirrors, hbacked] at hyq
        cases hyq
  refine ⟨fun n y q hn hyq => ?_, fun n y q hn hyq => ?_⟩
  · rcases hcases n y q hn hyq with ⟨rfl, -⟩ | hold
    · exact Nat.lt_succ_self n
    · exact Nat.lt_succ_of_lt (h.lt n y q hold hyq)
  · rcases hcases n y q hn hyq with ⟨rfl, rfl⟩ | hold
    · exact isBacked_or_allBefore_mirroring h hposition hother
    · exact (h.before n y q hold hyq).imp (fun hbacked => hbacked.mirroring hposition)
        fun hbefore => hbefore.mirroring hposition

/-- One more turn. -/
theorem InTurn.step {index : ProducerIndex} {aliases : SortedMap String} {st : SameBodyState}
    (h : InTurn turns st.dependencies) :
    InTurn (turns + 1) (st.step index aliases turns).dependencies := by
  rcases step_cases index aliases st turns with ⟨hstep, -⟩ | ⟨x, r, hposition, hmirror, hstep⟩
  · rw [hstep]
    exact ⟨fun n y r hn hyr => Nat.lt_succ_of_lt (h.lt n y r hn hyr), h.before⟩
  · rw [hstep]
    exact h.mirroring hposition (Consumer.resource_beq_eq_false_of_mirror? hmirror)

/-- Inputs give way to their sources without a change of turns. -/
lemma InTurn.aliasInputs (h : InTurn turns l) : InTurn turns (Dependency.aliasInputs l) := by
  have hcases : ∀ {m : Nat} {z : Dependency}, (Dependency.aliasInputs l)[m]? = some z →
      ∃ y, l[m]? = some y ∧ Dependency.aliased l y = z := by
    intro m z hm
    rw [Dependency.aliasInputs_eq, List.getElem?_map] at hm
    exact Option.map_eq_some_iff.mp hm
  refine ⟨fun n y r hn hyr => ?_, fun n y r hn hyr => ?_⟩
  · obtain ⟨y₀, hn₀, rfl⟩ := hcases hn
    exact h.lt n y₀ r hn₀ (Dependency.mirrors_aliased_iff.mp hyr)
  · obtain ⟨y₀, hn₀, rfl⟩ := hcases hn
    rcases h.before n y₀ r hn₀ (Dependency.mirrors_aliased_iff.mp hyr) with hbacked | hbefore
    · obtain ⟨z, hz, hzr, hproducer⟩ := hbacked
      -- what backs a property is no input and does not give way
      have hkept : Dependency.aliased l z = z := by
        refine Dependency.aliased_eq_self fun input hinput => ?_
        rw [hproducer] at hinput
        cases hinput
      have hmem := Dependency.aliased_mem_aliasInputs hz
      rw [hkept] at hmem
      exact .inl ⟨z, hmem, hzr, hproducer⟩
    · refine .inr fun m z hm hzr => ?_
      obtain ⟨z₀, hm₀, rfl⟩ := hcases hm
      rw [Dependency.consumer_aliased] at hzr
      obtain ⟨hresolved, hmirrors⟩ := hbefore m z₀ hm₀ hzr
      rw [Dependency.isResolved_aliased]
      exact ⟨hresolved, fun q hzq => hmirrors q (Dependency.mirrors_aliased_iff.mp hzq)⟩

end Turns

end SameBodyState

/-! ## No circles -/

namespace Dependency

variable {l : List Dependency}

/-- One dependency takes its value from the other one: its consumer mirrors the other consumer. -/
def TakesFrom (l : List Dependency) (a b : Dependency) : Prop :=
  a ∈ l ∧ b ∈ l ∧ ∃ r, a.Mirrors r ∧ (b.consumer.resource == r) = true

variable {groups : DependencyGroups} {turns : Nat}
  (hgroups : DependencyGroups.ofList l = .ok groups) (hturns : SameBodyState.InTurn turns l)
  (hsame : ∀ x ∈ l, ∀ y ∈ l, (x.consumer.resource == y.consumer.resource) = true →
    x.consumer = y.consumer)

include hgroups hturns hsame

/-- If the other one mirrors something too, it stands before the one that takes from it. -/
lemma lt_of_takesFrom {a b : Dependency} (h : TakesFrom l a b) {q : Resource} (hb : b.Mirrors q)
    {n m : Nat} (hn : l[n]? = some a) (hm : l[m]? = some b) : m < n := by
  obtain ⟨-, hbl, r, har, hbr⟩ := h
  rcases hturns.before n a r hn har with ⟨z, hz, hzr, hproducer⟩ | hbefore
  · -- a suffix and a property would be two producers for one consumer
    have hconsumer : z.consumer = b.consumer := hsame z hz b hbl (BEq.trans hzr (BEq.symm hbr))
    have hkey : (z.consumer.key == b.consumer.key) = true := by
      rw [hconsumer]
      exact BEq.rfl
    have hagree := DependencyGroups.beq_of_key_beq hgroups hz hbl hproducer hb hkey
    cases hagree
  · exact (hbefore m b hm hbr).2 q hb

/-- Turns go back along chains of mirrors. -/
lemma lt_of_transGen {a b : Dependency} (h : Relation.TransGen (TakesFrom l) a b) {q : Resource}
    (hb : b.Mirrors q) {n m : Nat} (hn : l[n]? = some a) (hm : l[m]? = some b) : m < n := by
  induction h generalizing q m with
  | single hab => exact lt_of_takesFrom hgroups hturns hsame hab hb hn hm
  | tail _ hcb ih =>
    have hmirrors := hcb
    obtain ⟨hc, -, r, hcr, -⟩ := hmirrors
    obtain ⟨k, hk⟩ := List.mem_iff_getElem?.mp hc
    have hkn : k < n := ih hcr hk
    have hmk : m < k := lt_of_takesFrom hgroups hturns hsame hcb hb hk hm
    omega

/-- No chain of mirrors leads back to its start. -/
theorem not_transGen_takesFrom (a : Dependency) : ¬Relation.TransGen (TakesFrom l) a a := by
  intro h
  obtain ⟨b, ⟨ha, -, r, har, -⟩, -⟩ := Relation.TransGen.head'_iff.mp h
  obtain ⟨n, hn⟩ := List.mem_iff_getElem?.mp ha
  exact Nat.lt_irrefl n (lt_of_transGen hgroups hturns hsame h har hn hn)

end Dependency

namespace Setup

variable {s : Setup} {i : Interface} {c : Collection} {d : Dictionary}

variable (s i c d) in
/-- After the pass over mirrored properties, whoever mirrors one had a turn. -/
lemma inTurn_mirrored : SameBodyState.InTurn (s.main i c d).dependencies.length
    (s.mirrored i c d).dependencies := by
  refine sameBodyPass_turns (fun n st => SameBodyState.InTurn n st.dependencies) ?_
    fun _ _ hst => hst.step
  exact ⟨fun n y r hn hyr => absurd hyr (not_mirrors_of_mem_main (List.mem_of_getElem? hn) r),
    fun n y r hn hyr => absurd hyr (not_mirrors_of_mem_main (List.mem_of_getElem? hn) r)⟩

/-- Whoever mirrors a property in a result is beside it in one body.  If the property is a consumer,
one of its dependencies has a producer, and no chain of mirrors leads back to its start. -/
theorem mirrors_safe {result : Extraction} (hresult : (s.extract i d).2 = .ok result) :
    (∀ x ∈ result.all, ∀ r, x.Mirrors r →
      x.consumer.kind = .body ∧ x.consumer.HasBeside i r ∧
        ((∃ y ∈ result.consumers, (y.resource == r) = true) →
          ∃ z ∈ result.all, (z.consumer.resource == r) = true ∧ z.isResolved = true)) ∧
      ∀ x, ¬Relation.TransGen (Dependency.TakesFrom result.all) x x := by
  obtain ⟨c, groups, hc, hgroups, rfl⟩ := extract_eq_ok_iff.mp hresult
  rw [all_assembled hc hgroups]
  constructor
  · intro _ hall r hxr
    rw [Dependency.aliasInputs_eq] at hall
    obtain ⟨x, hx, rfl⟩ := List.mem_map.mp hall
    rw [Dependency.mirrors_aliased_iff] at hxr
    rw [Dependency.consumer_aliased]
    have hmirror := (of_mirrors hx hxr).2.1
    refine ⟨(Consumer.exists_of_mirror? hmirror).1,
      hasBeside_of_mirror? hc (mem_consumers_of_mem_mirrored hx) hmirror, ?_⟩
    rintro ⟨y, hy, hyr⟩
    obtain ⟨dep, hdep, rfl⟩ := exists_mem_mirrored s i d hy
    obtain ⟨z, hz, hzr, hresolved⟩ := (isMirrored_mirrored s i c d).backed x hx r hxr dep hdep hyr
    refine ⟨_, Dependency.aliased_mem_aliasInputs hz, ?_, ?_⟩
    · rwa [Dependency.consumer_aliased]
    · rwa [Dependency.isResolved_aliased]
  · have hconsumer : ∀ x ∈ Dependency.aliasInputs (s.mirrored i c d).dependencies,
        x.consumer ∈ c.consumers := by
      intro x hx
      rw [← map_consumer_aliasInputs s i c d]
      exact List.mem_map_of_mem hx
    -- a property that mirrors another one had its turn before those that mirror it
    refine Dependency.not_transGen_takesFrom hgroups (inTurn_mirrored s i c d).aliasInputs ?_
    intro x hx y hy hbeq
    exact eq_of_beq_resource hc (hconsumer x hx) (hconsumer y hy) hbeq

end Setup

/-! ## Aliases in a circle -/

namespace Interface

/-- Folders are created with an `id`, a `name` and a `title`. -/
def folders : Interface where
  requests := [
    { id := { endpoint := "/folders", method := .post }
      data := {
        body := some (.internal "" .object true false [
          (stringParameter "id").payload, (stringParameter "name").payload,
          (stringParameter "title").payload]) } }]

/-- A property of folders. -/
def folderProperty (name : String) : Resource :=
  .situated .input { endpoint := "/folders", method := .post } (.ofPlace ⟨[name]⟩)
    (Convention.infer name) .string

/-- A property of folders with its producer. -/
def folderDependency (name : String) (p : Producer) : Dependency :=
  ⟨{ resource := folderProperty name, kind := .body }, some p⟩

end Interface

namespace Setup

open Interface

/-- An `id` is to mirror a `title`, this a `name`, and this an `id` again. -/
def roundabout : Setup where
  config := { aliases := .ofList [("id", "title"), ("name", "id"), ("title", "name")] }

/-- The `name` of folders mirrors the `id`, this the `title`, and this is backed by a suffix. -/
lemma extract_folders :
    ∃ result, (roundabout.extract folders .standard).2 = .ok result ∧
      result.all = [folderDependency "id" (.sameBody (folderProperty "title")),
        folderDependency "name" (.sameBody (folderProperty "id")),
        folderDependency "title" (SameBodyState.backing (folderProperty "title"))] :=
  ⟨_, rfl, rfl⟩

/-- The mirrors of folders are in one body and in no circle, though the aliases are. -/
theorem mirrors_safe_folders :
    ∃ result, (roundabout.extract folders .standard).2 = .ok result ∧
      Relation.TransGen (Dependency.TakesFrom result.all)
        (folderDependency "name" (.sameBody (folderProperty "id")))
        (folderDependency "title" (SameBodyState.backing (folderProperty "title"))) ∧
      (folderDependency "id" (.sameBody (folderProperty "title"))).consumer.HasBeside folders
        (folderProperty "title") ∧
      ∀ x, ¬Relation.TransGen (Dependency.TakesFrom result.all) x x := by
  obtain ⟨result, hresult, hall⟩ := extract_folders
  obtain ⟨hbeside, hcircle⟩ := mirrors_safe hresult
  have hid : folderDependency "id" (.sameBody (folderProperty "title")) ∈ result.all := by
    rw [hall]
    exact List.mem_cons_self
  have hname : folderDependency "name" (.sameBody (folderProperty "id")) ∈ result.all := by
    rw [hall]
    exact List.mem_cons_of_mem _ List.mem_cons_self
  have htitle : folderDependency "title" (SameBodyState.backing (folderProperty "title")) ∈
      result.all := by
    rw [hall]
    exact List.mem_cons_of_mem _ (List.mem_cons_of_mem _ List.mem_cons_self)
  refine ⟨result, hresult, ?_, (hbeside _ hid _ rfl).2.1, hcircle⟩
  exact .head ⟨hname, hid, folderProperty "id", rfl, BEq.rfl⟩
    (.single ⟨hid, htitle, folderProperty "title", rfl, BEq.rfl⟩)

end Setup

end RestFlow
