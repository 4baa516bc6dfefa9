import RestFlow.Proofs.Extraction.LaterPasses
import RestFlow.Proofs.Extraction.WriterPass
import RestFlow.Proofs.Resolution.Availability

/-!
# Who mirrors whom

In the pass over mirrored properties everybody without a producer has one turn.  Whoever finds a
property to mirror then is bound to it, and the property itself, if it is a consumer without a
producer, to the suffix that both share.  Bonds are never taken back.

`SameBodyState.IsMirrored` says what holds after some turns, and `Setup.isMirrored_sameBodyPass`
that it holds at the end: whoever is left without a producer has nothing to mirror, whoever has got
one mirrors a property or is mirrored, a property that is mirrored has got one, and the dictionary
has gained suffixes for mirrored properties only.  `Setup.allBound_sameBodyPass` says of every new
bond what it consists of.
-/

namespace RestFlow

namespace Dependency

/-- The consumer takes its value from a property of its body. -/
def Mirrors (d : Dependency) (r : Resource) : Prop :=
  d.producer = some (.sameBody r)

/-- Whoever mirrors a property has a producer. -/
lemma Mirrors.isResolved {d : Dependency} {r : Resource} (h : d.Mirrors r) :
    d.isResolved = true := by
  rw [Dependency.isResolved, h]
  rfl

/-- A property of a body is neither an input that a directive named nor the source of one. -/
@[simp] lemma mirrors_aliased_iff {l : List Dependency} {d : Dependency} {r : Resource} :
    (aliased l d).Mirrors r ↔ d.Mirrors r := by
  rcases aliased_cases l d with hsame | ⟨input, p, hinput, hshareable, haliased⟩
  · rw [hsame]
  · rw [haliased, Mirrors, Mirrors, hinput]
    constructor
    · intro h
      rw [Option.some.inj h] at hshareable
      cases hshareable
    · intro h
      cases h

/-- The name is that of a property which somebody mirrors. -/
def IsMirroredName (l : List Dependency) (name : String) : Prop :=
  ∃ d ∈ l, ∃ r, d.Mirrors r ∧ r.name = name

end Dependency

namespace SameBodyState

/-! ## One property -/

section Mirroring

variable {l : List Dependency} {position n : Nat} {p : Producer} {x : Consumer} {y : Dependency}
  {r : Resource}

/-- The dependency to which a producer is given has it. -/
lemma getElem?_bind_self (h : l[position]? = some y) :
    (bind l position p)[position]? = some { y with producer := some p } := by
  rw [bind, List.getElem?_modify, h]
  exact congrArg some (if_pos rfl)

lemma getElem?_bind_of_ne (h : n ≠ position) : (bind l position p)[n]? = l[n]? := by
  rw [bind, List.getElem?_modify]
  simp [h.symm]

/-- The dependencies after the consumer at a position was bound to a property, and the property to
their suffix. -/
def mirroring (l : List Dependency) (position : Nat) (r : Resource) : List Dependency :=
  bind (bindFirst l r (backing r)) position (.sameBody r)

/-- The consumer whose turn it is mirrors the property. -/
lemma getElem?_mirroring_self (h : l[position]? = some ⟨x, none⟩) :
    (mirroring l position r)[position]? = some ⟨x, some (.sameBody r)⟩ := by
  have hconsumers := congrArg (·[position]?) (map_consumer_bindFirst l r (backing r))
  rw [List.getElem?_map, List.getElem?_map, h, Option.map_some] at hconsumers
  obtain ⟨d, hd, hdx⟩ := Option.map_eq_some_iff.mp hconsumers
  rw [mirroring, getElem?_bind_self hd, hdx]

/-- Of the others one may be bound to the suffix, and then it is the property. -/
lemma getElem?_mirroring_cases (hn : n ≠ position) (h : (mirroring l position r)[n]? = some y) :
    l[n]? = some y ∨ l[n]? = some ⟨y.consumer, none⟩ ∧ (y.consumer.resource == r) = true ∧
      y.producer = some (backing r) := by
  rw [mirroring, getElem?_bind_of_ne hn] at h
  rcases bindFirst_cases l r (backing r) with ⟨hsame, -⟩ | ⟨m, z, hm, hz, hbind⟩
  · rw [hsame] at h
    exact .inl h
  · rw [hbind] at h
    by_cases hnm : n = m
    · rw [hnm, getElem?_bind_self hm] at h
      rw [← Option.some.inj h, hnm]
      exact .inr ⟨hm, hz, rfl⟩
    · rw [getElem?_bind_of_ne hnm] at h
      exact .inl h

/-- Everybody stays the same consumer. -/
lemma exists_mem_of_mem_mirroring (hy : y ∈ mirroring l position r) :
    ∃ z ∈ l, z.consumer = y.consumer := by
  have hconsumer := List.mem_map_of_mem (f := Dependency.consumer) hy
  rw [mirroring, map_consumer_bind, map_consumer_bindFirst] at hconsumer
  exact List.mem_map.mp hconsumer

/-- A dependency with a producer stays as it is. -/
lemma mem_mirroring (h : l[position]? = some ⟨x, none⟩) (hy : y ∈ l)
    (hresolved : y.isResolved = true) : y ∈ mirroring l position r := by
  obtain ⟨n, hn⟩ := List.mem_iff_getElem?.mp hy
  have hne : n ≠ position := by
    rintro rfl
    rw [h] at hn
    rw [← Option.some.inj hn] at hresolved
    cases hresolved
  refine List.mem_iff_getElem?.mpr ⟨n, ?_⟩
  rw [mirroring, getElem?_bind_of_ne hne]
  rcases bindFirst_cases l r (backing r) with ⟨hsame, -⟩ | ⟨m, z, hm, -, hbind⟩
  · rw [hsame, hn]
  · have hnm : n ≠ m := by
      rintro rfl
      rw [hm] at hn
      rw [← Option.some.inj hn] at hresolved
      cases hresolved
    rw [hbind, getElem?_bind_of_ne hnm, hn]

/-- If the property is a consumer, it has a producer afterwards. -/
lemma exists_isResolved_mirroring (h : l[position]? = some ⟨x, none⟩)
    (hy : y ∈ mirroring l position r) (hyr : (y.consumer.resource == r) = true) :
    ∃ z ∈ mirroring l position r, (z.consumer.resource == r) = true ∧ z.isResolved = true := by
  by_cases hresolved : y.isResolved = true
  · exact ⟨y, hy, hyr, hresolved⟩
  obtain ⟨n, hn⟩ := List.mem_iff_getElem?.mp hy
  have hne : n ≠ position := by
    rintro rfl
    rw [getElem?_mirroring_self h] at hn
    rw [← Option.some.inj hn] at hresolved
    exact hresolved rfl
  have hnone : y.producer = none := by
    simpa [Dependency.isResolved] using hresolved
  -- the consumer has no producer, so somebody with its resource was given one
  rcases getElem?_mirroring_cases hne hn with hold | ⟨-, -, hbacked⟩
  · rcases bindFirst_cases l r (backing r) with ⟨-, hall⟩ | ⟨m, z, hm, hz, hbind⟩
    · have hmem : ⟨y.consumer, none⟩ ∈ l := by
        rw [← hnone]
        exact List.mem_of_getElem? hold
      rw [hall _ hmem] at hyr
      cases hyr
    · by_cases hposition : m = position
      · subst hposition
        rw [h] at hm
        obtain rfl := congrArg Dependency.consumer (Option.some.inj hm)
        exact ⟨_, List.mem_of_getElem? (getElem?_mirroring_self h), hz, rfl⟩
      · have hbound : (mirroring l position r)[m]? = some ⟨z, some (backing r)⟩ := by
          rw [mirroring, getElem?_bind_of_ne hposition, hbind, getElem?_bind_self hm]
        exact ⟨_, List.mem_of_getElem? hbound, hz, rfl⟩
  · rw [hnone] at hbacked
    cases hbacked

end Mirroring

/-! ## All turns -/

/-- What holds of dependencies and the dictionary after some turns of the pass. -/
structure IsMirrored (index : ProducerIndex) (aliases : SortedMap String) (l : List Dependency)
    (d : Dictionary) (turns : Nat) (st : SameBodyState) : Prop where
  /-- Whoever had a turn and has no producer has nothing to mirror. -/
  turns : ∀ n < turns, ∀ x, st.dependencies[n]? = some ⟨x, none⟩ →
    x.mirror? index aliases = none
  /-- A new dependency mirrors a property, or is itself the property that somebody mirrors. -/
  origin : ∀ x ∈ st.dependencies, x ∈ l ∨
    (∃ r, x.consumer.mirror? index aliases = some r ∧ x.Mirrors r) ∨
      ∃ y ∈ st.dependencies, ∃ r, y.Mirrors r ∧ (x.consumer.resource == r) = true
  /-- If a property that somebody mirrors is a consumer, it has a producer. -/
  backed : ∀ y ∈ st.dependencies, ∀ r, y.Mirrors r → ∀ x ∈ st.dependencies,
    (x.consumer.resource == r) = true →
      ∃ z ∈ st.dependencies, (z.consumer.resource == r) = true ∧ z.isResolved = true
  /-- The dictionary gains suffixes for properties that somebody mirrors. -/
  dictionary : d.GrowsFor (Dependency.IsMirroredName st.dependencies) st.dictionary

namespace IsMirrored

variable {index : ProducerIndex} {aliases : SortedMap String} {l : List Dependency}
  {d : Dictionary} {turns : Nat} {st : SameBodyState}

/-- At the start nobody had a turn and nobody mirrors anything. -/
lemma start (hl : ∀ y ∈ l, ∀ r, ¬y.Mirrors r) : IsMirrored index aliases l d 0 ⟨l, d, 0⟩ where
  turns n hn := absurd hn (Nat.not_lt_zero n)
  origin _ hx := .inl hx
  backed y hy r hyr := absurd hyr (hl y hy r)
  dictionary := .refl _ d

/-! ### A turn in which somebody mirrors a property -/

section Step

variable {x : Consumer} {r : Resource}

/-- Whoever has no producer afterwards had none before. -/
lemma turns_mirroring (h : IsMirrored index aliases l d turns st)
    (hposition : st.dependencies[turns]? = some ⟨x, none⟩) :
    ∀ n < turns + 1, ∀ z, (mirroring st.dependencies turns r)[n]? = some ⟨z, none⟩ →
      z.mirror? index aliases = none := by
  intro n hn z hz
  have hne : n ≠ turns := by
    rintro rfl
    rw [getElem?_mirroring_self hposition] at hz
    cases hz
  rcases getElem?_mirroring_cases hne hz with hold | ⟨-, -, hbacked⟩
  · exact h.turns n (by omega) z hold
  · cases hbacked

/-- The consumer whose turn it is mirrors the property, and whoever else is bound is the
property. -/
lemma origin_mirroring (h : IsMirrored index aliases l d turns st)
    (hposition : st.dependencies[turns]? = some ⟨x, none⟩)
    (hmirror : x.mirror? index aliases = some r) :
    ∀ y ∈ mirroring st.dependencies turns r, y ∈ l ∨
      (∃ q, y.consumer.mirror? index aliases = some q ∧ y.Mirrors q) ∨
        ∃ z ∈ mirroring st.dependencies turns r, ∃ q, z.Mirrors q ∧
          (y.consumer.resource == q) = true := by
  intro y hy
  have hself := getElem?_mirroring_self (r := r) hposition
  obtain ⟨n, hn⟩ := List.mem_iff_getElem?.mp hy
  -- the consumer whose turn it is, and the others
  by_cases hne : n = turns
  · rw [hne, hself] at hn
    rw [← Option.some.inj hn]
    exact .inr (.inl ⟨r, hmirror, rfl⟩)
  · rcases getElem?_mirroring_cases hne hn with hold | ⟨-, hyr, -⟩
    · rcases h.origin y (List.mem_of_getElem? hold) with hl | hmirrors | ⟨z, hz, q, hzq, hyq⟩
      · exact .inl hl
      · exact .inr (.inl hmirrors)
      · exact .inr (.inr ⟨z, mem_mirroring hposition hz hzq.isResolved, q, hzq, hyq⟩)
    · exact .inr (.inr ⟨_, List.mem_of_getElem? hself, r, rfl, hyr⟩)

/-- The property has a producer from then on, and so have those that were mirrored before. -/
lemma backed_mirroring (h : IsMirrored index aliases l d turns st)
    (hposition : st.dependencies[turns]? = some ⟨x, none⟩) :
    ∀ y ∈ mirroring st.dependencies turns r, ∀ q, y.Mirrors q →
      ∀ z ∈ mirroring st.dependencies turns r, (z.consumer.resource == q) = true →
        ∃ w ∈ mirroring st.dependencies turns r,
          (w.consumer.resource == q) = true ∧ w.isResolved = true := by
  intro y hy q hyq z hz hzq
  obtain ⟨n, hn⟩ := List.mem_iff_getElem?.mp hy
  -- the property mirrored in this turn, and those mirrored before
  by_cases hne : n = turns
  · rw [hne, getElem?_mirroring_self hposition] at hn
    rw [← Option.some.inj hn] at hyq
    obtain rfl : r = q := Producer.sameBody.inj (Option.some.inj hyq)
    exact exists_isResolved_mirroring hposition hz hzq
  · rcases getElem?_mirroring_cases hne hn with hold | ⟨-, -, hbacked⟩
    · obtain ⟨z', hz', hconsumer⟩ := exists_mem_of_mem_mirroring hz
      rw [← hconsumer] at hzq
      obtain ⟨w, hw, hwq, hresolved⟩ := h.backed y (List.mem_of_getElem? hold) q hyq z' hz' hzq
      exact ⟨w, mem_mirroring hposition hw hresolved, hwq, hresolved⟩
    · rw [Dependency.Mirrors, hbacked] at hyq
      cases hyq

/-- The suffix that is added belongs to the property, and nobody who mirrored one before is
rebound. -/
lemma dictionary_mirroring (h : IsMirrored index aliases l d turns st)
    (hposition : st.dependencies[turns]? = some ⟨x, none⟩) :
    d.GrowsFor (Dependency.IsMirroredName (mirroring st.dependencies turns r))
      (st.dictionary.withSuffix r.name) := by
  have hold : d.GrowsFor (Dependency.IsMirroredName (mirroring st.dependencies turns r))
      st.dictionary :=
    h.dictionary.mono fun _ ⟨y, hy, q, hyq, hname⟩ =>
      ⟨y, mem_mirroring hposition hy hyq.isResolved, q, hyq, hname⟩
  exact hold.trans
    (.withSuffix _ ⟨_, List.mem_of_getElem? (getElem?_mirroring_self hposition), r, rfl, rfl⟩)

end Step

/-- One more turn. -/
theorem step (h : IsMirrored index aliases l d turns st) :
    IsMirrored index aliases l d (turns + 1) (st.step index aliases turns) := by
  rcases step_cases index aliases st turns with
    ⟨hstep, hnothing⟩ | ⟨_, r, hposition, hmirror, hstep⟩
  · rw [hstep]
    refine ⟨fun n hn _ hx => ?_, h.origin, h.backed, h.dictionary⟩
    rcases Nat.lt_succ_iff_lt_or_eq.mp hn with hn | rfl
    · exact h.turns n hn _ hx
    · exact hnothing _ hx
  · rw [hstep, ← mirroring]
    exact ⟨h.turns_mirroring hposition, h.origin_mirroring hposition hmirror,
      h.backed_mirroring hposition, h.dictionary_mirroring hposition⟩

end IsMirrored

/-! ## New bonds -/

/-- The consumer mirrors a property whose name has a suffix, or it is such a property and is bound
to the suffix. -/
def IsBound (index : ProducerIndex) (aliases : SortedMap String) (d : Dictionary)
    (y : Dependency) : Prop :=
  ∃ r : Resource, d.uuidSuffixes.contains r.name = true ∧
    (y.Mirrors r ∧ y.consumer.mirror? index aliases = some r ∨
      y.producer = some (backing r) ∧ (y.consumer.resource == r) = true)

/-- Whoever is bound stays so when the dictionary grows. -/
lemma IsBound.of_grows {index : ProducerIndex} {aliases : SortedMap String} {d d' : Dictionary}
    {y : Dependency} (hgrows : d.Grows d') (h : IsBound index aliases d y) :
    IsBound index aliases d' y := by
  obtain ⟨r, hname, hbond⟩ := h
  exact ⟨r, hgrows.contains hname, hbond⟩

/-- Whatever is new among the dependencies had no producer at the start, and is bound. -/
def AllBound (index : ProducerIndex) (aliases : SortedMap String) (l : List Dependency)
    (st : SameBodyState) : Prop :=
  ∀ y ∈ st.dependencies, y ∈ l ∨
    ⟨y.consumer, none⟩ ∈ l ∧ IsBound index aliases st.dictionary y

/-- A step of the pass makes new bonds only for consumers that had no producer at the start. -/
lemma AllBound.step {index : ProducerIndex} {aliases : SortedMap String} {l : List Dependency}
    {st : SameBodyState} (h : AllBound index aliases l st) (position : Nat) :
    AllBound index aliases l (step index aliases st position) := by
  rcases step_cases index aliases st position with ⟨hstep, -⟩ | ⟨x, r, hposition, hmirror, hstep⟩
  · rw [hstep]
    exact h
  · rw [hstep, ← mirroring]
    have hgrows := st.dictionary.grows_withSuffix r.name
    have hname : (st.dictionary.withSuffix r.name).uuidSuffixes.contains r.name = true := by
      rw [Dictionary.contains_withSuffix, decide_eq_true rfl, Bool.true_or]
    -- who is unbound now was unbound at the start
    have hunbound : ∀ z, ⟨z, none⟩ ∈ st.dependencies → ⟨z, none⟩ ∈ l :=
      fun z hz => (h _ hz).elim id And.left
    intro y hy
    obtain ⟨n, hn⟩ := List.mem_iff_getElem?.mp hy
    by_cases hne : n = position
    · rw [hne, getElem?_mirroring_self hposition] at hn
      rw [← Option.some.inj hn]
      exact .inr ⟨hunbound x (List.mem_of_getElem? hposition), r, hname, .inl ⟨rfl, hmirror⟩⟩
    · rcases getElem?_mirroring_cases hne hn with hold | ⟨hold, hyr, hbacked⟩
      · exact (h y (List.mem_of_getElem? hold)).imp_right (And.imp_right (.of_grows hgrows))
      · exact .inr ⟨hunbound _ (List.mem_of_getElem? hold), r, hname, .inr ⟨hbacked, hyr⟩⟩

end SameBodyState

namespace Setup

/-- The pass over mirrored properties makes new bonds only for consumers without a producer. -/
theorem allBound_sameBodyPass (s : Setup) (index : ProducerIndex) (l : List Dependency)
    (d : Dictionary) :
    SameBodyState.AllBound index s.config.aliases l (s.sameBodyPass index l d) :=
  sameBodyPass_induction (SameBodyState.AllBound index s.config.aliases l)
    (fun _ hy => .inl hy) fun _ position hst => hst.step position

/-- After the pass over mirrored properties everybody has had a turn. -/
theorem isMirrored_sameBodyPass {s : Setup} {index : ProducerIndex} {l : List Dependency}
    {d : Dictionary} (hl : ∀ y ∈ l, ∀ r, ¬y.Mirrors r) :
    SameBodyState.IsMirrored index s.config.aliases l d l.length (s.sameBodyPass index l d) :=
  sameBodyPass_turns (SameBodyState.IsMirrored index s.config.aliases l d) (.start hl)
    fun _ _ hst => hst.step

variable {s : Setup} {i : Interface} {c : Collection} {d : Dictionary} {dep : Dependency}
  {r : Resource}

/-- Resolving a consumer does not bind it to a property of its body. -/
lemma not_mirrors_of_mem_main (h : dep ∈ (s.main i c d).dependencies) (r : Resource) :
    ¬dep.Mirrors r := by
  rw [Dependency.Mirrors, (mem_dependencies_main_iff.mp h).2]
  exact fun hr => Consumer.ne_sameBody_of_resolve hr r rfl

variable (s i c d) in
/-- The dependencies before and after the pass over mirrored properties of a run. -/
theorem isMirrored_mirrored :
    SameBodyState.IsMirrored (s.settings i c d).index s.config.aliases
      (s.main i c d).dependencies (s.main i c d).dictionary
      (s.main i c d).dependencies.length (s.mirrored i c d) :=
  isMirrored_sameBodyPass fun _ => not_mirrors_of_mem_main

/-- After the pass over mirrored properties a dependency is what its consumer was resolved to, or
its consumer was not resolved and is bound in this pass. -/
lemma main_or_isBound_of_mem_mirrored (h : dep ∈ (s.mirrored i c d).dependencies) :
    dep ∈ (s.main i c d).dependencies ∨
      ⟨dep.consumer, none⟩ ∈ (s.main i c d).dependencies ∧
        SameBodyState.IsBound (s.settings i c d).index s.config.aliases
          (s.mirrored i c d).dictionary dep :=
  allBound_sameBodyPass s _ _ _ dep h

/-- Whoever mirrors a property after a run was not bound by the strategies, has found the property,
and shares the suffix of its name. -/
lemma of_mirrors (h : dep ∈ (s.mirrored i c d).dependencies) (hr : dep.Mirrors r) :
    ⟨dep.consumer, none⟩ ∈ (s.main i c d).dependencies ∧
      dep.consumer.mirror? (s.settings i c d).index s.config.aliases = some r ∧
        (s.mirrored i c d).dictionary.uuidSuffixes.contains r.name = true := by
  rcases main_or_isBound_of_mem_mirrored h with
    hmain | ⟨hunbound, q, hname, ⟨hq, hmirror⟩ | ⟨hback, -⟩⟩
  · exact absurd hr (not_mirrors_of_mem_main hmain r)
  · obtain rfl : r = q := Producer.sameBody.inj (Option.some.inj (hr.symm.trans hq))
    exact ⟨hunbound, hmirror, hname⟩
  · rw [Dependency.Mirrors, hback] at hr
    cases hr

end Setup

end RestFlow
