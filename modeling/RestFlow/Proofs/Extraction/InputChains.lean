import Mathlib.Logic.Function.Iterate
import RestFlow.Proofs.Extraction.Aliases

/-!
# Sources in place of inputs

What readers of inputs are bound to when sources take the place of these.
-/

namespace RestFlow

/-!
## Chains of inputs

When sources are put in place of inputs, all of them are read off the dependencies as they are
before that.  If the source of an input is another input, the reader keeps it, although the input
may have a producer of its own afterwards: an application shortens every chain by its last input
(`Dependency.LeadsTo.aliasInputs`), so the reader of a chain has what it leads to if and only if
there were more applications than inputs on the way (`Dependency.LeadsTo.producerAt_iterate_iff`).

A single application is therefore final exactly if no consumer is bound to an input that leads to a
producer through another one (`Dependency.aliasInputs_idempotent_iff`).
-/

namespace Dependency

variable {l : List Dependency} {d : Dependency} {input : Resource} {p : Producer} {n position : Nat}

/-! ### One application -/

/-- What takes the place of a producer: for an input that a directive named its source, if this can
be shared, and otherwise the producer itself. -/
def inPlaceOf (l : List Dependency) : Producer → Producer
  | .inputOnly input .directive =>
    ((source? l input).filter Producer.isShareable).getD (.inputOnly input .directive)
  | p => p

/-- Whatever is not an input that a directive named keeps its place. -/
lemma inPlaceOf_of_ne (h : ∀ input, p ≠ .inputOnly input .directive) : inPlaceOf l p = p := by
  unfold inPlaceOf
  split
  · exact absurd rfl (h _)
  · rfl

/-- Every dependency is given what takes the place of its producer. -/
lemma producer_aliased (l : List Dependency) (d : Dependency) :
    (aliased l d).producer = d.producer.map (inPlaceOf l) := by
  by_cases hd : ∃ input, d.producer = some (.inputOnly input .directive)
  · obtain ⟨input, hinput⟩ := hd
    rw [hinput, Option.map_some, inPlaceOf, aliased, alias?, hinput]
    dsimp only
    cases (source? l input).filter Producer.isShareable with
    | none => exact hinput
    | some q => rfl
  · rw [aliased_eq_self fun input hinput => hd ⟨input, hinput⟩]
    cases hp : d.producer with
    | none => rfl
    | some p =>
      have hne : ∀ input, p ≠ .inputOnly input .directive := by
        rintro input rfl
        exact hd ⟨input, hp⟩
      rw [Option.map_some, inPlaceOf_of_ne hne]

lemma inPlaceOf_of_isShareable (hsource : source? l input = some p)
    (hshareable : p.isShareable = true) : inPlaceOf l (.inputOnly input .directive) = p := by
  rw [inPlaceOf, hsource, Option.filter_some, if_pos hshareable, Option.getD_some]

/-- An input whose source is another input keeps its place. -/
lemma inPlaceOf_of_input {next : Resource} {origin : InputOrigin}
    (hsource : source? l input = some (.inputOnly next origin)) :
    inPlaceOf l (.inputOnly input .directive) = .inputOnly input .directive := by
  rw [inPlaceOf, hsource]
  rfl

/-- What can be shared keeps its place. -/
lemma inPlaceOf_eq_self (hshareable : p.isShareable = true) : inPlaceOf l p = p := by
  apply inPlaceOf_of_ne
  rintro input rfl
  cases hshareable

/-- What can be shared has its place from before, or takes that of an input whose source it is. -/
lemma eq_or_source?_of_inPlaceOf {q : Producer} (h : inPlaceOf l q = p)
    (hshareable : p.isShareable = true) :
    q = p ∨ ∃ input, q = .inputOnly input .directive ∧ source? l input = some p := by
  by_cases hq : ∃ input, q = .inputOnly input .directive
  · obtain ⟨input, rfl⟩ := hq
    right
    rw [inPlaceOf] at h
    cases hfilter : (source? l input).filter Producer.isShareable with
    | none =>
      rw [hfilter] at h
      rw [← h] at hshareable
      cases hshareable
    | some q =>
      rw [hfilter] at h
      obtain rfl : q = p := h
      exact ⟨input, rfl, (Option.filter_eq_some_iff.mp hfilter).1⟩
  · left
    rw [← h, inPlaceOf_of_ne fun input hinput => hq ⟨input, hinput⟩]

/-- The producer of a parameter is given what takes its place. -/
lemma producerOf?_aliasInputs (l : List Dependency) (request : RequestId) (kind : ParameterKind)
    (name : String) :
    producerOf? (aliasInputs l) request kind name =
      (producerOf? l request kind name).map (inPlaceOf l) := by
  rw [producerOf?, producerOf?, aliasInputs_eq, ← List.map_reverse, List.findSome?_map,
    List.map_findSome?]
  congr 1
  funext d
  rw [Function.comp_apply, Function.comp_apply, consumer_aliased, producer_aliased]
  split
  · rfl
  · rfl

/-- The source of an input is given what takes its place. -/
lemma source?_aliasInputs (l : List Dependency) (input : Resource) :
    source? (aliasInputs l) input = (source? l input).map (inPlaceOf l) := by
  rw [source?, source?, List.map_findSome?]
  congr 1
  funext kind
  exact producerOf?_aliasInputs l input.request kind input.name

/-- A dependency changes exactly if it is given a producer. -/
lemma aliased_eq_self_iff : aliased l d = d ↔ alias? l d = none := by
  constructor
  · intro h
    apply Option.eq_none_iff_forall_ne_some.mpr
    intro p hp
    obtain ⟨input, hinput, hshareable, -⟩ := alias?_eq_some_iff.mp hp
    have hproducer : (aliased l d).producer = some p := by
      rw [aliased, hp]
    rw [h, hinput] at hproducer
    cases hproducer
    cases hshareable
  · intro h
    rw [aliased, h]

/-- The list changes exactly if some dependency is given a producer. -/
lemma aliasInputs_eq_self_iff : aliasInputs l = l ↔ ∀ d ∈ l, alias? l d = none := by
  have hmap : l.map (aliased l) = l ↔ ∀ d ∈ l, aliased l d = d := by
    simpa using List.map_inj_left (f := aliased l) (g := id) (l := l)
  rw [aliasInputs_eq, hmap]
  exact forall₂_congr fun d _ => aliased_eq_self_iff

/-! ### Chains of inputs -/

/-- The source of the input can be shared, or it is another input, from which the source is to be
had by way of the given number of further ones. -/
inductive LeadsTo (l : List Dependency) : Nat → Resource → Producer → Prop where
  | source {input : Resource} {p : Producer} (hsource : source? l input = some p)
      (hshareable : p.isShareable = true) : LeadsTo l 0 input p
  | input {n : Nat} {input next : Resource} {p : Producer}
      (hsource : source? l input = some (.inputOnly next .directive))
      (hnext : LeadsTo l n next p) : LeadsTo l (n + 1) input p

/-- What a chain leads to can be shared. -/
lemma LeadsTo.isShareable (h : LeadsTo l n input p) : p.isShareable = true := by
  induction h with
  | source hsource hshareable => exact hshareable
  | input hsource hnext ih => exact ih

/-- An application shortens every chain by its last input. -/
lemma LeadsTo.aliasInputs (h : LeadsTo l (n + 1) input p) : LeadsTo (aliasInputs l) n input p := by
  induction n generalizing input with
  | zero =>
    cases h with
    | input hsource hnext =>
      cases hnext with
      | source hlast hshareable =>
        refine .source ?_ hshareable
        rw [source?_aliasInputs, hsource, Option.map_some,
          inPlaceOf_of_isShareable hlast hshareable]
  | succ n ih =>
    cases h with
    | input hsource hnext =>
      refine .input ?_ (ih hnext)
      cases hnext with
      | input hother =>
        rw [source?_aliasInputs, hsource, Option.map_some, inPlaceOf_of_input hother]

/-- The producer of the dependency at a position. -/
def producerAt (l : List Dependency) (position : Nat) : Option Producer :=
  l[position]?.bind producer

/-- At every position there is what takes the place of the producer. -/
lemma producerAt_aliasInputs (l : List Dependency) (position : Nat) :
    producerAt (aliasInputs l) position = (producerAt l position).map (inPlaceOf l) := by
  rw [producerAt, producerAt, aliasInputs_eq, List.getElem?_map]
  cases l[position]? with
  | none => rfl
  | some d => exact producer_aliased l d

/-- What can be shared stays at its position. -/
lemma producerAt_iterate (hp : producerAt l position = some p) (hshareable : p.isShareable = true)
    (k : Nat) : producerAt (aliasInputs^[k] l) position = some p := by
  induction k generalizing l with
  | zero => exact hp
  | succ k ih =>
    apply ih
    rw [producerAt_aliasInputs, hp, Option.map_some, inPlaceOf_eq_self hshareable]

/-- An input that leads to a producer through others stays at its position. -/
lemma LeadsTo.inPlaceOf_succ (h : LeadsTo l (n + 1) input p) :
    inPlaceOf l (.inputOnly input .directive) = .inputOnly input .directive := by
  cases h with
  | input hsource hnext => exact inPlaceOf_of_input hsource

/-- An input that leads to a producer directly gives way to it. -/
lemma LeadsTo.inPlaceOf_zero (h : LeadsTo l 0 input p) :
    inPlaceOf l (.inputOnly input .directive) = p := by
  cases h with
  | source hsource hshareable => exact inPlaceOf_of_isShareable hsource hshareable

/-- The reader of an input has what the input leads to as soon as there were more applications than
inputs on the way, and not before. -/
lemma LeadsTo.producerAt_iterate_iff (h : LeadsTo l n input p)
    (hreads : producerAt l position = some (.inputOnly input .directive)) (k : Nat) :
    producerAt (Dependency.aliasInputs^[k] l) position = some p ↔ n < k := by
  induction k generalizing n l with
  | zero =>
    -- nothing was replaced yet, and the input is not what it leads to
    have hne : producerAt l position ≠ some p := by
      intro hp
      have hshareable := h.isShareable
      rw [hreads] at hp
      cases hp
      cases hshareable
    simp [hne]
  | succ k ih =>
    rw [Function.iterate_succ_apply]
    cases n with
    | zero =>
      -- the source is taken now and stays from then on
      have hgiven : producerAt (Dependency.aliasInputs l) position = some p := by
        rw [producerAt_aliasInputs, hreads, Option.map_some, h.inPlaceOf_zero]
      simp [producerAt_iterate hgiven h.isShareable]
    | succ n =>
      -- the input stays, and is one application closer to its source
      have hkept : producerAt (Dependency.aliasInputs l) position =
          some (.inputOnly input .directive) := by
        rw [producerAt_aliasInputs, hreads, Option.map_some, h.inPlaceOf_succ]
      rw [ih h.aliasInputs hkept]
      omega

/-- A dependency is given a producer exactly if it reads an input that leads to it directly. -/
lemma alias?_eq_some_iff_leadsTo :
    alias? l d = some p ↔
      ∃ input, d.producer = some (.inputOnly input .directive) ∧ LeadsTo l 0 input p := by
  rw [alias?_eq_some_iff]
  constructor
  · rintro ⟨input, hreads, hshareable, hdecisive⟩
    exact ⟨input, hreads, .source (source?_eq_some_iff.mpr hdecisive) hshareable⟩
  · rintro ⟨input, hreads, hleads⟩
    cases hleads with
    | source hsource hshareable =>
      exact ⟨input, hreads, hshareable, source?_eq_some_iff.mp hsource⟩

/-- Whoever reads an input after an application read it before, and the input did not lead to a
producer directly. -/
lemma reads_of_aliased (h : (aliased l d).producer = some (.inputOnly input .directive)) :
    d.producer = some (.inputOnly input .directive) ∧ ¬LeadsTo l 0 input p := by
  have hreads : d.producer = some (.inputOnly input .directive) := by
    rcases aliased_cases l d with hsame | ⟨_, q, -, hq, haliased⟩
    · rw [← hsame, h]
    · rw [haliased] at h
      cases h
      cases hq
  refine ⟨hreads, fun hleads => ?_⟩
  rw [producer_aliased, hreads, Option.map_some, hleads.inPlaceOf_zero] at h
  have hshareable := hleads.isShareable
  cases h
  cases hshareable

/-- An input that leads to a producer after an application did so before, directly or through one
more input. -/
lemma LeadsTo.of_aliasInputs (h : LeadsTo (Dependency.aliasInputs l) 0 input p) :
    LeadsTo l 0 input p ∨ LeadsTo l 1 input p := by
  cases h with
  | source hsource hshareable =>
    rw [source?_aliasInputs] at hsource
    obtain ⟨q, hq, hplace⟩ := Option.map_eq_some_iff.mp hsource
    rcases eq_or_source?_of_inPlaceOf hplace hshareable with rfl | ⟨next, rfl, hnext⟩
    · exact .inl (.source hq hshareable)
    · exact .inr (.input hq (.source hnext hshareable))

/-- A second application gives a producer to a dependency exactly if it reads an input that leads to
the producer through another one. -/
lemma alias?_aliased_eq_some_iff :
    alias? (aliasInputs l) (aliased l d) = some p ↔
      ∃ input, d.producer = some (.inputOnly input .directive) ∧ LeadsTo l 1 input p := by
  rw [alias?_eq_some_iff_leadsTo]
  constructor
  · rintro ⟨input, hkept, hleads⟩
    obtain ⟨hreads, hnot⟩ := reads_of_aliased hkept
    exact ⟨input, hreads, hleads.of_aliasInputs.resolve_left hnot⟩
  · rintro ⟨input, hreads, hleads⟩
    refine ⟨input, ?_, hleads.aliasInputs⟩
    rw [producer_aliased, hreads, Option.map_some, hleads.inPlaceOf_succ]

/-- A second application gives nothing out exactly if no reader's input leads to a producer through
another one. -/
lemma forall_alias?_eq_none_iff :
    (∀ d ∈ aliasInputs l, alias? (aliasInputs l) d = none) ↔
      ¬∃ d ∈ l, ∃ input p, d.producer = some (.inputOnly input .directive) ∧
        LeadsTo l 1 input p := by
  constructor
  · rintro h ⟨d, hd, input, p, hreads, hleads⟩
    have hgiven := alias?_aliased_eq_some_iff.mpr ⟨input, hreads, hleads⟩
    rw [h _ (aliased_mem_aliasInputs hd)] at hgiven
    cases hgiven
  · intro h x hx
    rw [aliasInputs_eq] at hx
    obtain ⟨d, hd, rfl⟩ := List.mem_map.mp hx
    apply Option.eq_none_iff_forall_ne_some.mpr
    intro p hp
    obtain ⟨input, hreads, hleads⟩ := alias?_aliased_eq_some_iff.mp hp
    exact h ⟨d, hd, input, p, hreads, hleads⟩

/-- A second application changes nothing if and only if no consumer is bound to an input that leads
to a producer through another one.  The reader of an input has what the input leads to if and only
if there were more applications than inputs on the way. -/
theorem aliasInputs_idempotent_iff (l : List Dependency) :
    (aliasCount (aliasInputs l) = 0 ∧ aliasInputs (aliasInputs l) = aliasInputs l ↔
        ¬∃ d ∈ l, ∃ input p, d.producer = some (.inputOnly input .directive) ∧
          LeadsTo l 1 input p) ∧
      ∀ position input n p, producerAt l position = some (.inputOnly input .directive) →
        LeadsTo l n input p →
          ∀ k, producerAt (aliasInputs^[k] l) position = some p ↔ n < k := by
  constructor
  · have hcount : aliasCount (aliasInputs l) = 0 ↔
        ∀ d ∈ aliasInputs l, alias? (aliasInputs l) d = none := by
      simp [aliasCount, List.countP_eq_zero]
    rw [hcount, aliasInputs_eq_self_iff, and_self, forall_alias?_eq_none_iff]
  · intro position input n p hreads hleads
    exact hleads.producerAt_iterate_iff hreads

/-! #### An export that takes the key of reports -/

open Interface

/-- The `code` of exports is the `key` with which a report is read. -/
def codeDirective : Directive where
  producer := { endpoint := "/reports", method := .get }
  consumer := none
  producerParameter := some (.name "key")
  consumerParameter := some (.name "code")
  exceptions := []

/-- Sessions are opened with a `token`, reports are read with a `key` that a directive takes from
sessions, and exports with a `code` that one takes from reports. -/
def sessionsReportsAndExports : Interface where
  requests := [
    { id := { endpoint := "/sessions", method := .post }
      data := { queryParameters := [stringParameter "token"] } },
    { id := { endpoint := "/reports", method := .get }
      data := { queryParameters := [stringParameter "key"], localDirectives := [keyDirective] } },
    { id := { endpoint := "/exports", method := .get }
      data := { queryParameters := [stringParameter "code"], localDirectives := [codeDirective] } }]

/-- The dictionary has a `token` for queries. -/
def oneToken : Dictionary where
  queryPayloads := .ofList [("token", ["t"])]

/-- The `code` of exports. -/
def exportCode : Consumer where
  resource := .situated .input { endpoint := "/exports", method := .get } (.query "code")
    (Convention.infer "code") .string
  kind := .query
  directive := some ⟨.request, codeDirective⟩

/-- The `token` has its payload, the `code` is bound to the `key` and the `key` to the `token`. -/
def boundToInputs : List Dependency :=
  [⟨⟨sessionToken, .query, none⟩, some (.dictionary Setup.queryToken)⟩,
    ⟨exportCode, some (.inputOnly reportKey.resource .directive)⟩,
    ⟨reportKey, some (.inputOnly sessionToken .directive)⟩]

/-- So they are when sources are put in place of inputs. -/
lemma mirrored_sessionsReportsAndExports :
    ∃ c, (({} : Setup).collect sessionsReportsAndExports).2 = .ok c ∧
      (({} : Setup).mirrored sessionsReportsAndExports c oneToken).dependencies = boundToInputs :=
  ⟨_, rfl, rfl⟩

/-- The `key` leads to the payload through the `token`. -/
lemma leadsTo_boundToInputs :
    LeadsTo boundToInputs 1 reportKey.resource (.dictionary Setup.queryToken) := by
  have hkey : source? boundToInputs reportKey.resource =
      some (.inputOnly sessionToken .directive) := rfl
  have htoken : source? boundToInputs sessionToken = some (.dictionary Setup.queryToken) := rfl
  exact .input hkey (.source htoken rfl)

/-- A second application changes the list, since it is the one that gives the `code` the payload of
the `token`. -/
theorem producerAt_boundToInputs :
    ¬(aliasCount (aliasInputs boundToInputs) = 0 ∧
        aliasInputs (aliasInputs boundToInputs) = aliasInputs boundToInputs) ∧
      producerAt (aliasInputs boundToInputs) 1 ≠ some (.dictionary Setup.queryToken) ∧
      producerAt (aliasInputs (aliasInputs boundToInputs)) 1 =
        some (.dictionary Setup.queryToken) := by
  obtain ⟨hidempotent, hiterate⟩ := aliasInputs_idempotent_iff boundToInputs
  have hcode := hiterate 1 _ 1 _ rfl leadsTo_boundToInputs
  refine ⟨?_, ?_, ?_⟩
  · intro h
    have hmem : ⟨exportCode, some (.inputOnly reportKey.resource .directive)⟩ ∈ boundToInputs :=
      List.mem_cons_of_mem _ List.mem_cons_self
    exact hidempotent.mp h ⟨_, hmem, _, _, rfl, leadsTo_boundToInputs⟩
  · intro h
    exact Nat.lt_irrefl 1 ((hcode 1).mp h)
  · exact (hcode 2).mpr Nat.one_lt_two

/-- When sources are put in place of inputs twice, the second time may change something. -/
theorem not_forall_aliasInputs_idempotent :
    ¬∀ (s : Setup) (i : Interface) (d : Dictionary) (c : Collection),
      (s.collect i).2 = .ok c →
        aliasCount (aliasInputs (s.mirrored i c d).dependencies) = 0 ∧
          aliasInputs (aliasInputs (s.mirrored i c d).dependencies) =
            aliasInputs (s.mirrored i c d).dependencies := by
  intro h
  obtain ⟨c, hc, hlist⟩ := mirrored_sessionsReportsAndExports
  have hnone := (h {} sessionsReportsAndExports oneToken c hc).1
  rw [hlist] at hnone
  have hone : aliasCount (aliasInputs boundToInputs) = 1 := rfl
  rw [hone] at hnone
  cases hnone

end Dependency

/-!
## Where sources take the place of inputs

When sources are put in place of inputs, consumers stay where they are and keep what they have, but
for those whose producer is replaced (`Dependency.replaced`).  These are the readers of inputs that
a directive made producers, as far as the source can be shared: it is a response or a payload, and
not a fresh value that belongs to one writer (`Producer.isShareable_iff`).  The source was bound
before to a consumer with the input's request and name (`Dependency.Replaces`).

The replaced producers are as many as were counted (`Dependency.aliasInputs_frame`).
-/

/-- Responses can be shared, and payloads that are not uuid suffixes. -/
lemma Producer.isShareable_iff {p : Producer} :
    p.isShareable = true ↔
      (∃ r, p = .response r) ∨ ∃ payload, p = .dictionary payload ∧ payload.kind ≠ .uuidSuffix := by
  cases p with
  | response r => simp [isShareable]
  | dictionary payload => simp [isShareable]
  | sameBody r => simp [isShareable]
  | inputOnly r origin => simp [isShareable]
  | ordering constraint => simp [isShareable]

namespace Dependency

variable {l : List Dependency} {d : Dependency} {input : Resource} {p : Producer} {position : Nat}

/-- The positions at which the second list has another producer than the first one. -/
def replaced (l l' : List Dependency) : List Nat :=
  (List.range l.length).filter fun position => producerAt l' position != producerAt l position

/-- At the position an input is read that a directive made a producer, and its source is read from
`e`: a consumer with the input's request and name, which has a producer that can be shared. -/
structure Replaces (l : List Dependency) (position : Nat) (input : Resource) (e : Dependency)
    (p : Producer) : Prop where
  reads : producerAt l position = some (.inputOnly input .directive)
  mem : e ∈ l
  request : (e.consumer.request == input.request) = true
  name : e.consumer.name = input.name
  bound : e.producer = some p
  sort : (∃ r, p = .response r) ∨ ∃ payload, p = .dictionary payload ∧ payload.kind ≠ .uuidSuffix
  decisive : IsDecisive l input e

/-- A dependency is given the source of the input that is read at its position. -/
lemma alias?_eq_some_iff_replaces (hd : l[position]? = some d) :
    alias? l d = some p ↔ ∃ input e, Replaces l position input e p := by
  have hproducer : producerAt l position = d.producer := by
    rw [producerAt, hd, Option.bind_some]
  rw [alias?_eq_some_iff]
  constructor
  · rintro ⟨input, hreads, hshareable, e, hdecisive, hp⟩
    obtain ⟨-, hrequest, hname⟩ := isNamesake_iff.mp hdecisive.isNamesake
    exact ⟨input, e, {
      reads := hproducer.trans hreads
      mem := hdecisive.mem
      request := hrequest
      name := hname
      bound := hp
      sort := Producer.isShareable_iff.mp hshareable
      decisive := hdecisive }⟩
  · rintro ⟨input, e, h⟩
    exact ⟨input, hproducer.symm.trans h.reads, Producer.isShareable_iff.mpr h.sort, e,
      h.decisive, h.bound⟩

/-- What can be shared is no input. -/
lemma bne_of_isShareable (hshareable : p.isShareable = true) :
    (some p != some (.inputOnly input .directive)) = true := by
  cases p with
  | response r => rfl
  | dictionary payload => rfl
  | sameBody r => cases hshareable
  | inputOnly r origin => cases hshareable
  | ordering constraint => cases hshareable

/-- A dependency has another producer exactly if it is given one. -/
lemma producer_aliased_bne (l : List Dependency) (d : Dependency) :
    ((aliased l d).producer != d.producer) = (alias? l d).isSome := by
  cases halias : alias? l d with
  | none =>
    rw [aliased_eq_self_iff.mpr halias, bne, BEq.rfl, Bool.not_true, Option.isSome_none]
  | some p =>
    obtain ⟨input, hreads, hshareable, -⟩ := alias?_eq_some_iff.mp halias
    have hgiven : (aliased l d).producer = some p := by
      rw [aliased, halias]
    rw [hgiven, hreads, bne_of_isShareable hshareable, Option.isSome_some]

/-- The producers that are replaced are those of the dependencies that are given one. -/
lemma replaced_eq (l : List Dependency) :
    replaced l (aliasInputs l) =
      (List.range l.length).filter fun position =>
        l[position]?.any fun d => (alias? l d).isSome := by
  rw [replaced]
  congr 1
  funext position
  rw [producerAt, producerAt, aliasInputs_eq, List.getElem?_map]
  cases l[position]? with
  | none => rfl
  | some d => exact producer_aliased_bne l d

/-- A position is one of those with another producer exactly if its dependency is given one. -/
lemma mem_replaced_iff :
    position ∈ replaced l (aliasInputs l) ↔
      ∃ d, l[position]? = some d ∧ (alias? l d).isSome = true := by
  rw [replaced_eq, List.mem_filter, List.mem_range, Option.any_eq_true]
  constructor
  · rintro ⟨-, hgiven⟩
    exact hgiven
  · rintro ⟨d, hd, hsome⟩
    exact ⟨(List.getElem?_eq_some_iff.mp hd).1, d, hd, hsome⟩

/-- The dependencies of a list that pass a test are as many as their positions. -/
lemma length_filter_range (l : List Dependency) (test : Dependency → Bool) :
    ((List.range l.length).filter fun position => l[position]?.any test).length =
      l.countP test := by
  induction l with
  | nil => rfl
  | cons d l ih =>
    -- the positions after the first one are those of the rest, moved by one
    rw [List.length_cons, List.range_succ_eq_map, ← List.countP_eq_length_filter,
      List.countP_cons, List.countP_map, List.countP_cons, ← ih, List.countP_eq_length_filter]
    rfl

/-- There are as many other producers as are counted. -/
lemma length_replaced (l : List Dependency) :
    (replaced l (aliasInputs l)).length = aliasCount l := by
  rw [replaced_eq, length_filter_range, aliasCount]

/-- Putting sources in place of inputs leaves every consumer at its position.  The producer is
another one exactly at the positions of readers whose input has a source that can be shared, and
there it is this source, bound before to a consumer with the input's request and name; at all other
positions nothing changes.  The other producers are as many as are counted. -/
theorem aliasInputs_frame (l : List Dependency) :
    (aliasInputs l).map consumer = l.map consumer ∧
      (∀ position ∈ replaced l (aliasInputs l), ∃ input e p,
        Replaces l position input e p ∧ producerAt (aliasInputs l) position = some p) ∧
      (∀ position input e p, Replaces l position input e p →
        position ∈ replaced l (aliasInputs l) ∧ producerAt (aliasInputs l) position = some p) ∧
      (∀ position, position ∉ replaced l (aliasInputs l) →
        (aliasInputs l)[position]? = l[position]?) ∧
      aliasCount l = (replaced l (aliasInputs l)).length := by
  have hgiven {position : Nat} {d : Dependency} {p : Producer} (hd : l[position]? = some d)
      (halias : alias? l d = some p) : producerAt (aliasInputs l) position = some p := by
    rw [producerAt, aliasInputs_eq, List.getElem?_map, hd, Option.map_some, Option.bind_some,
      aliased, halias]
  refine ⟨consumers_aliasInputs l, ?_, ?_, ?_, (length_replaced l).symm⟩
  · intro position hposition
    obtain ⟨d, hd, hsome⟩ := mem_replaced_iff.mp hposition
    obtain ⟨p, halias⟩ := Option.isSome_iff_exists.mp hsome
    obtain ⟨input, e, hreplaces⟩ := (alias?_eq_some_iff_replaces hd).mp halias
    exact ⟨input, e, p, hreplaces, hgiven hd halias⟩
  · intro position input e p hreplaces
    obtain ⟨d, hd, -⟩ := Option.bind_eq_some_iff.mp hreplaces.reads
    have halias := (alias?_eq_some_iff_replaces hd).mpr ⟨input, e, hreplaces⟩
    exact ⟨mem_replaced_iff.mpr ⟨d, hd, Option.isSome_iff_exists.mpr ⟨p, halias⟩⟩,
      hgiven hd halias⟩
  · intro position hposition
    rw [aliasInputs_eq, List.getElem?_map]
    cases hd : l[position]? with
    | none => rfl
    | some d =>
      -- a position where nothing is replaced has no source to take
      have hnone : alias? l d = none := by
        rw [← Option.not_isSome_iff_eq_none]
        intro hsome
        exact hposition (mem_replaced_iff.mpr ⟨d, hd, hsome⟩)
      rw [Option.map_some, aliased_eq_self_iff.mpr hnone]

end Dependency

end RestFlow
