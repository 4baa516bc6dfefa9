import Mathlib.Data.List.Basic
import RestFlow.Extraction.Run
import RestFlow.Proofs.Resource.Equality

/-!
# What later passes leave alone

A step of the pass over mirrored properties changes nothing, or gives producers to two body
properties (`SameBodyState.step_cases`), and what every turn adds to or keeps holds at the end of
the pass (`Setup.sameBodyPass_turns`, `Setup.sameBodyPass_induction`).  So consumers stay as they
are, and the dependencies of parameters stay as the strategies left them
(`Setup.filter_sameBodyPass`).  Putting the sources of inputs in place of inputs neither makes nor
breaks a bond to a uuid suffix, because a suffix is no input and cannot be shared
(`Dependency.isSuffixBound_aliased`).
-/

namespace RestFlow

/-- Changing an element that is filtered out, and stays so, does not change what is left. -/
lemma filter_modify {α : Type} {test : α → Bool} {f : α → α} {l : List α} {position : Nat}
    (h : ∀ a, l[position]? = some a → test a = false ∧ test (f a) = false) :
    (l.modify position f).filter test = l.filter test := by
  induction l generalizing position with
  | nil => simp
  | cons a rest ih =>
    cases position with
    | zero =>
      obtain ⟨ha, hfa⟩ := h a rfl
      rw [List.modify_zero_cons, List.filter_cons_of_neg (by simp [hfa]),
        List.filter_cons_of_neg (by simp [ha])]
    | succ position =>
      rw [List.modify_succ_cons, List.filter_cons, List.filter_cons,
        ih fun b hb => h b (by simpa using hb)]

namespace Dependency

/-- The consumer is not a property of a body. -/
def isOutsideBodies (d : Dependency) : Bool :=
  d.consumer.resource.place?.isNone

/-- The producer is a uuid suffix. -/
def isSuffixBound (d : Dependency) : Bool :=
  match d.producer with
  | some (.dictionary payload) => payload.kind = .uuidSuffix
  | _ => false

end Dependency

/-! ## Mirrored properties -/

namespace Consumer

variable {c : Consumer} {index : ProducerIndex} {aliases : SortedMap String} {r : Resource}

/-- Whoever mirrors a property is one, and has found it under the alias of its name. -/
lemma exists_of_mirror? (h : c.mirror? index aliases = some r) : c.kind = .body ∧
    ∃ name place, aliases.get? c.name = some name ∧ c.resource.place? = some place ∧
      r ∈ c.mirrors index name place := by
  unfold mirror? at h
  obtain ⟨_, hbody, h⟩ := Option.bind_eq_some_iff.mp h
  obtain ⟨name, hname, h⟩ := Option.bind_eq_some_iff.mp h
  obtain ⟨place, hplace, h⟩ := Option.bind_eq_some_iff.mp h
  have hkind : c.kind = .body := by
    by_contra hother
    rw [guard, if_neg hother] at hbody
    cases hbody
  exact ⟨hkind, name, place, hname, hplace, mem_sortOn.mp (List.mem_of_mem_head? h)⟩

/-- A property to mirror belongs to the same request, and has a place. -/
lemma of_mem_mirrors {name : String} {place : AccessPath} (h : r ∈ c.mirrors index name place) :
    r ∈ index.sameBodyNamed name ∧ (r.request == c.request) = true ∧ r.place?.isSome = true := by
  obtain ⟨hmem, htest⟩ := List.mem_filter.mp h
  rw [Bool.and_eq_true] at htest
  refine ⟨hmem, htest.1, ?_⟩
  cases hplace : r.place? with
  | some p => rfl
  | none => simp [hplace] at htest

/-- Whoever mirrors a property is in a body, and so is the property. -/
lemma exists_place_of_mirror? (h : c.mirror? index aliases = some r) :
    c.resource.place?.isSome = true ∧ r.place?.isSome = true := by
  obtain ⟨-, _, _, -, hplace, hr⟩ := exists_of_mirror? h
  exact ⟨by simp [hplace], (of_mem_mirrors hr).2.2⟩

/-- What a consumer mirrors depends on the body properties of the index only. -/
lemma mirror?_congr {index' : ProducerIndex} (h : index.sameBody = index'.sameBody) :
    c.mirror? index aliases = c.mirror? index' aliases := by
  have hmirrors : c.mirrors index = c.mirrors index' := by
    funext name place
    rw [mirrors, mirrors, ProducerIndex.sameBodyNamed, ProducerIndex.sameBodyNamed, h]
  rw [mirror?, mirror?, hmirrors]

end Consumer

namespace SameBodyState

/-- Giving a producer to a body property leaves the others alone. -/
lemma filter_bind {l : List Dependency} {position : Nat} {p : Producer}
    (h : ∀ d, l[position]? = some d → d.isOutsideBodies = false) :
    (bind l position p).filter Dependency.isOutsideBodies =
      l.filter Dependency.isOutsideBodies :=
  filter_modify fun d hd => ⟨h d hd, h d hd⟩

/-- Giving out a producer by resource does nothing if everybody with the resource has one, and
otherwise binds somebody without one. -/
lemma bindFirst_cases (l : List Dependency) (r : Resource) (p : Producer) :
    (bindFirst l r p = l ∧ ∀ x, ⟨x, none⟩ ∈ l → (x.resource == r) = false) ∨
      ∃ n x, l[n]? = some ⟨x, none⟩ ∧ (x.resource == r) = true ∧
        bindFirst l r p = bind l n p := by
  unfold bindFirst
  split
  · rename_i n hn
    right
    obtain ⟨hlt, htest, -⟩ := List.findIdx?_eq_some_iff_getElem.mp hn
    rw [Bool.and_eq_true, Option.isNone_iff_eq_none] at htest
    refine ⟨n, l[n].consumer, ?_, htest.2, rfl⟩
    rw [List.getElem?_eq_getElem hlt, ← htest.1]
  · rename_i hnone
    left
    refine ⟨rfl, fun x hx => ?_⟩
    simpa using List.findIdx?_eq_none_iff.mp hnone _ hx

/-- Giving a producer to a body property by its resource leaves the others alone. -/
lemma filter_bindFirst {l : List Dependency} {r : Resource} {p : Producer}
    (hr : r.place?.isSome = true) :
    (bindFirst l r p).filter Dependency.isOutsideBodies =
      l.filter Dependency.isOutsideBodies := by
  rcases bindFirst_cases l r p with ⟨hsame, -⟩ | ⟨n, x, hn, hresource, hbind⟩
  · rw [hsame]
  · rw [hbind]
    refine filter_bind fun d hd => ?_
    rw [hn] at hd
    rw [← Option.some.inj hd, Dependency.isOutsideBodies, Resource.place?_eq_of_beq hresource]
    simpa using hr

/-- Giving out a producer leaves the consumers as they are. -/
@[simp] lemma map_consumer_bind (l : List Dependency) (position : Nat) (p : Producer) :
    (bind l position p).map Dependency.consumer = l.map Dependency.consumer := by
  refine List.ext_getElem? fun n => ?_
  rw [bind, List.getElem?_map, List.getElem?_map, List.getElem?_modify, Option.map_eq_map]
  cases l[n]? with
  | none => rfl
  | some d =>
    rw [Option.map_some, Option.map_some, Option.map_some]
    split <;> rfl

/-- Giving out a producer by resource leaves the consumers as they are. -/
@[simp] lemma map_consumer_bindFirst (l : List Dependency) (r : Resource) (p : Producer) :
    (bindFirst l r p).map Dependency.consumer = l.map Dependency.consumer := by
  rcases bindFirst_cases l r p with ⟨hsame, -⟩ | ⟨n, x, -, -, hbind⟩
  · rw [hsame]
  · rw [hbind, map_consumer_bind]

/-- The producer that a mirrored property is bound to. -/
def backing (r : Resource) : Producer :=
  .dictionary (Dictionary.suffixPayload r.name r.type)

/-- A step of the pass changes nothing, because there is nothing to mirror or no need to, or lets a
consumer without a producer mirror a property, which is bound to a new suffix. -/
lemma step_cases (index : ProducerIndex) (aliases : SortedMap String) (st : SameBodyState)
    (position : Nat) :
    (step index aliases st position = st ∧ ∀ consumer,
        st.dependencies[position]? = some ⟨consumer, none⟩ →
          consumer.mirror? index aliases = none) ∨
      ∃ consumer r, st.dependencies[position]? = some ⟨consumer, none⟩ ∧
        consumer.mirror? index aliases = some r ∧
        step index aliases st position =
          ⟨bind (bindFirst st.dependencies r (backing r)) position (.sameBody r),
            st.dictionary.withSuffix r.name, st.count + 1⟩ := by
  unfold step
  split
  · rename_i consumer hposition
    cases hmirror : consumer.mirror? index aliases with
    | none =>
      left
      refine ⟨by simp only [Consumer.resolveSameBody, hmirror], fun other hother => ?_⟩
      rw [hposition] at hother
      cases hother
      exact hmirror
    | some r =>
      right
      refine ⟨consumer, r, hposition, hmirror, ?_⟩
      simp only [Consumer.resolveSameBody, hmirror, backing]
  · rename_i hbound
    exact .inl ⟨rfl, fun consumer hconsumer => absurd hconsumer (hbound consumer)⟩

/-- A step of the pass leaves all but body properties alone. -/
lemma filter_step (index : ProducerIndex) (aliases : SortedMap String) (st : SameBodyState)
    (position : Nat) :
    (step index aliases st position).dependencies.filter Dependency.isOutsideBodies =
      st.dependencies.filter Dependency.isOutsideBodies := by
  rcases step_cases index aliases st position with ⟨hstep, -⟩ | ⟨x, r, hposition, hmirror, hstep⟩
  · rw [hstep]
  · obtain ⟨hplace, hr⟩ := Consumer.exists_place_of_mirror? hmirror
    rw [hstep, filter_bind, filter_bindFirst hr]
    intro d hd
    have hconsumers := map_consumer_bindFirst st.dependencies r (backing r)
    have hconsumer := congrArg (·[position]?) hconsumers
    rw [List.getElem?_map, List.getElem?_map, hd, hposition, Option.map_some,
      Option.map_some] at hconsumer
    rw [Dependency.isOutsideBodies, Option.some.inj hconsumer]
    simpa using hplace

/-- A step of the pass leaves the consumers as they are. -/
lemma map_consumer_step (index : ProducerIndex) (aliases : SortedMap String) (st : SameBodyState)
    (position : Nat) :
    (step index aliases st position).dependencies.map Dependency.consumer =
      st.dependencies.map Dependency.consumer := by
  rcases step_cases index aliases st position with ⟨hstep, -⟩ | ⟨x, r, -, -, hstep⟩
  · rw [hstep]
  · rw [hstep, map_consumer_bind, map_consumer_bindFirst]

end SameBodyState

namespace Setup

/-- What holds at the start of the pass over mirrored properties, and after a number of turns goes
on to hold after one more, holds when everybody has had a turn. -/
lemma sameBodyPass_turns {s : Setup} {index : ProducerIndex} {l : List Dependency} {d : Dictionary}
    (P : Nat → SameBodyState → Prop) (hstart : P 0 ⟨l, d, 0⟩)
    (hstep : ∀ n st, P n st → P (n + 1) (SameBodyState.step index s.config.aliases st n)) :
    P l.length (s.sameBodyPass index l d) := by
  have hturns : ∀ n, P n ((List.range n).foldl
      (SameBodyState.step index s.config.aliases) ⟨l, d, 0⟩) := by
    intro n
    induction n with
    | zero => exact hstart
    | succ n ih =>
      rw [List.range_succ, List.foldl_append]
      exact hstep n _ ih
  exact hturns l.length

/-- What holds at the start of the pass over mirrored properties, and is kept by its steps, holds
at its end. -/
lemma sameBodyPass_induction {s : Setup} {index : ProducerIndex} {l : List Dependency}
    {d : Dictionary} (P : SameBodyState → Prop) (hstart : P ⟨l, d, 0⟩)
    (hstep : ∀ st position, P st → P (SameBodyState.step index s.config.aliases st position)) :
    P (s.sameBodyPass index l d) :=
  sameBodyPass_turns (fun _ => P) hstart fun n st => hstep st n

variable (s : Setup) (index : ProducerIndex) (l : List Dependency) (d : Dictionary)

/-- The pass over mirrored properties leaves all but body properties alone. -/
theorem filter_sameBodyPass :
    (s.sameBodyPass index l d).dependencies.filter Dependency.isOutsideBodies =
      l.filter Dependency.isOutsideBodies := by
  refine sameBodyPass_induction (fun st => st.dependencies.filter Dependency.isOutsideBodies =
    l.filter Dependency.isOutsideBodies) rfl fun st position hst => ?_
  rw [SameBodyState.filter_step, hst]

/-- The pass over mirrored properties leaves the consumers as they are. -/
theorem map_consumer_sameBodyPass :
    (s.sameBodyPass index l d).dependencies.map Dependency.consumer =
      l.map Dependency.consumer := by
  refine sameBodyPass_induction (fun st => st.dependencies.map Dependency.consumer =
    l.map Dependency.consumer) rfl fun st position hst => ?_
  rw [SameBodyState.map_consumer_step, hst]

end Setup

/-! ## Sources of inputs -/

namespace Dependency

/-- The dependency with the source of its input in place of the input. -/
def aliased (l : List Dependency) (d : Dependency) : Dependency :=
  match alias? l d with
  | some p => { d with producer := some p }
  | none => d

lemma aliasInputs_eq (l : List Dependency) : aliasInputs l = l.map (aliased l) :=
  rfl

/-- The consumer keeps its place. -/
@[simp] lemma consumer_aliased (l : List Dependency) (d : Dependency) :
    (aliased l d).consumer = d.consumer := by
  unfold aliased
  split <;> rfl

/-- All consumers keep their places. -/
lemma consumers_aliasInputs (l : List Dependency) :
    (aliasInputs l).map consumer = l.map consumer := by
  rw [aliasInputs_eq, List.map_map]
  exact List.map_congr_left fun d _ => consumer_aliased l d

/-- The dependency stays as it is, or is bound to something that can be shared in place of an
input. -/
lemma aliased_cases (l : List Dependency) (d : Dependency) :
    aliased l d = d ∨ ∃ input p, d.producer = some (.inputOnly input .directive) ∧
      p.isShareable = true ∧ aliased l d = { d with producer := some p } := by
  unfold aliased
  split
  · rename_i p halias
    unfold alias? at halias
    split at halias
    · rename_i input hinput
      obtain ⟨-, hshareable⟩ := Option.filter_eq_some_iff.mp halias
      exact .inr ⟨input, p, hinput, hshareable, rfl⟩
    · cases halias
  · exact .inl rfl

/-- Whoever is not bound to an input that a directive named stays as it is. -/
lemma aliased_eq_self {l : List Dependency} {d : Dependency}
    (h : ∀ input, d.producer ≠ some (.inputOnly input .directive)) : aliased l d = d := by
  rcases aliased_cases l d with hsame | ⟨input, _, hinput, -, -⟩
  · exact hsame
  · exact absurd hinput (h input)

/-- Neither an input nor its source is a uuid suffix. -/
@[simp] lemma isSuffixBound_aliased (l : List Dependency) (d : Dependency) :
    (aliased l d).isSuffixBound = d.isSuffixBound := by
  rcases aliased_cases l d with hsame | ⟨input, p, hinput, hshareable, haliased⟩
  · rw [hsame]
  · rw [haliased]
    cases p with
    | dictionary payload => simpa [isSuffixBound, hinput, Producer.isShareable] using hshareable
    | _ => simp [isSuffixBound, hinput]

/-- Both an input and its source are producers. -/
@[simp] lemma producer_aliased_eq_none_iff (l : List Dependency) (d : Dependency) :
    (aliased l d).producer = none ↔ d.producer = none := by
  rcases aliased_cases l d with hsame | ⟨input, p, hinput, -, haliased⟩
  · rw [hsame]
  · rw [haliased, hinput]
    simp

/-- Whoever has a producer keeps one. -/
@[simp] lemma isResolved_aliased (l : List Dependency) (d : Dependency) :
    (aliased l d).isResolved = d.isResolved := by
  rw [Bool.eq_iff_iff, isResolved, isResolved, Option.isSome_iff_ne_none,
    Option.isSome_iff_ne_none, ne_eq, producer_aliased_eq_none_iff]

/-- Every dependency is there with the source of its input in place of the input. -/
lemma aliased_mem_aliasInputs {l : List Dependency} {d : Dependency} (h : d ∈ l) :
    aliased l d ∈ aliasInputs l := by
  rw [aliasInputs_eq]
  exact List.mem_map_of_mem h

/-- Somebody who consumes nothing from bodies is bound to a uuid suffix after the later passes
exactly if this was so before. -/
lemma exists_isSuffixBound_aliasInputs_iff {l l' : List Dependency}
    (h : l'.filter isOutsideBodies = l.filter isOutsideBodies) {c : Consumer}
    (hc : c.resource.place? = none) :
    (∃ d ∈ aliasInputs l', d.consumer = c ∧ d.isSuffixBound = true) ↔
      ∃ d ∈ l, d.consumer = c ∧ d.isSuffixBound = true := by
  have houtside : ∀ d : Dependency, d.consumer = c → d.isOutsideBodies = true := by
    rintro d rfl
    simp [isOutsideBodies, hc]
  -- the later passes leave what is outside bodies as it is
  have hmem : ∀ d : Dependency, d.consumer = c → (d ∈ l' ↔ d ∈ l) := by
    intro d hd
    have hfilter : d ∈ l'.filter isOutsideBodies ↔ d ∈ l.filter isOutsideBodies := by rw [h]
    simpa [houtside d hd] using hfilter
  rw [aliasInputs_eq]
  constructor
  · rintro ⟨_, haliased, hdc, hsuffix⟩
    obtain ⟨d, hd, rfl⟩ := List.mem_map.mp haliased
    rw [consumer_aliased] at hdc
    rw [isSuffixBound_aliased] at hsuffix
    exact ⟨d, (hmem d hdc).mp hd, hdc, hsuffix⟩
  · rintro ⟨d, hd, hdc, hsuffix⟩
    refine ⟨_, List.mem_map.mpr ⟨d, (hmem d hdc).mpr hd, rfl⟩, ?_, ?_⟩
    · rw [consumer_aliased]
      exact hdc
    · rw [isSuffixBound_aliased]
      exact hsuffix

end Dependency

end RestFlow
