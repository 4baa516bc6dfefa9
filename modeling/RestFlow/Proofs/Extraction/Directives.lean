import RestFlow.Proofs.Extraction.Bonds
import RestFlow.Proofs.Extraction.Mirroring

/-!
# Directives come before inference

The directive of a consumer is the first one that applies to it among those of its request, of the
interface and of response links (`Setup.directive_eq_find?`). If its parameter refers to a value of
the response of its producer, the consumer is bound to the first such value. The look-up in the
index answers with this value (`Setup.namedResponse?_settings`). It selects from the responses of
all requests, sorted and without repetitions, and sorts by name once more, but all values that one
parameter refers to have one name, and none of them is lost as a repetition. A directive that leads
to a producer comes before the other strategies, and what the strategies decided is left alone by
later passes unless it is an input (`Setup.binds_of_resolve`).
-/

namespace RestFlow

/-! ## The first directive that applies -/

namespace Setup

variable {s : Setup} {i : Interface} {c : Collection} {d : Dictionary} {e : RequestEntry}
  {x : Consumer}

/-- The directives that are searched for the inputs of a request, each with its scope, in the order
of the search. -/
def scopedDirectives (s : Setup) (e : RequestEntry) : List MatchedDirective :=
  e.data.localDirectives.map (⟨.request, ·⟩) ++ s.directives.map (⟨.interface, ·⟩) ++
    e.data.linkDirectives.map (⟨.link, ·⟩)

/-- The search scope by scope finds the first directive of all scopes. -/
lemma find?_directiveSets (request : RequestId) (parameter : String) (place : Option AccessPath) :
    DirectiveSets.find? ⟨e.data.localDirectives, s.directives, e.data.linkDirectives⟩ request
        parameter place =
      (s.scopedDirectives e).find? fun m => m.directive.appliesTo request parameter place := by
  have hscope : ∀ (scope : DirectiveScope) (l : List Directive),
      (l.map (MatchedDirective.mk scope)).find?
          (fun m => m.directive.appliesTo request parameter place) =
        (l.find? fun a => a.appliesTo request parameter place).map (MatchedDirective.mk scope) :=
    fun _ _ => List.find?_map
  rw [scopedDirectives, List.find?_append, List.find?_append, hscope, hscope, hscope]
  simp only [DirectiveSets.find?, DirectiveScope.all, List.findSome?_cons, List.findSome?_nil,
    DirectiveSets.inScope]
  cases e.data.localDirectives.find? fun a => a.appliesTo request parameter place with
  | some a => rfl
  | none =>
    cases s.directives.find? fun a => a.appliesTo request parameter place with
    | some a => rfl
    | none =>
      cases e.data.linkDirectives.find? fun a => a.appliesTo request parameter place <;> rfl

/-- The directive of a consumer is the first one that applies to it. -/
theorem directive_eq_find? (hc : (s.collect i).2 = .ok c) (hx : x ∈ c.consumers) :
    ∃ e ∈ i.distinct, x.request = e.id ∧
      x.directive = (s.scopedDirectives e).find? fun m =>
        m.directive.appliesTo x.request x.name x.resource.place? := by
  obtain ⟨e, he, part, hpart, hxp⟩ := exists_of_mem_collect hc hx
  have hrequest := (isInputOf_of_mem_collectEntry hpart x hxp).request_eq
  obtain ⟨-, cs, rs, bs, -, -, -, rfl⟩ := collectEntry_eq_ok_iff.mp hpart
  obtain ⟨x₀, -, rfl⟩ := List.mem_map.mp hxp
  exact ⟨e, he, hrequest, find?_directiveSets _ _ _⟩

/-! ## The values of responses -/

/-- The values of the response of a request: the leaves of its body, then those of its headers. -/
def responseValues (s : Setup) (e : RequestEntry) : List Resource :=
  (placedLeaves e.data.responseBody).map (fun l =>
      s.situated .output e.id (.ofPlace l.1) l.2.payload.type) ++
    (leavesOf e.data.responseHeaders).map fun l =>
      s.situated .output e.id (.header (l.2.nameIn l.1)) l.2.payload.type

/-- What is collected from the response of a request are its values. -/
lemma eq_responseValues {rs : List Resource} (h : s.responses e = .ok rs) :
    rs = s.responseValues e := by
  obtain ⟨properties, hproperties, h⟩ := bind_eq_ok_iff.mp h
  obtain ⟨headers, hheaders, h⟩ := bind_eq_ok_iff.mp h
  have hbody := map_eq_of_mapM (g := id) hproperties fun _ _ hl => eq_situated_of_situate hl
  have hheader := map_eq_of_mapM (g := id) hheaders fun _ _ hl => eq_situated_of_situate hl
  rw [List.map_id] at hbody hheader
  rw [← Except.ok.inj h, hbody, hheader]
  rfl

/-- The values of a response belong to its request. -/
lemma request_of_mem_responseValues {r : Resource} (h : r ∈ s.responseValues e) :
    r.request = e.id := by
  rcases List.mem_append.mp h with h | h
  · obtain ⟨l, -, rfl⟩ := List.mem_map.mp h
    rfl
  · obtain ⟨l, -, rfl⟩ := List.mem_map.mp h
    rfl

/-- The name of a value in a body is the last one on the way to it. -/
lemma name_of_mem_responseValues {r : Resource} (h : r ∈ s.responseValues e) {place : AccessPath}
    (hplace : r.place? = some place) : r.name = place.lastName?.getD "" := by
  rcases List.mem_append.mp h with h | h
  · obtain ⟨l, -, rfl⟩ := List.mem_map.mp h
    obtain rfl : l.1 = place := Option.some.inj hplace
    rfl
  · obtain ⟨l, -, rfl⟩ := List.mem_map.mp h
    cases hplace

/-- All values that one parameter refers to have one name. -/
lemma name_eq_of_refersTo {parameter : ParameterRef} {r r' : Resource}
    (hr : r ∈ s.responseValues e) (hr' : r' ∈ s.responseValues e)
    (h : parameter.refersTo r.name r.place? = true)
    (h' : parameter.refersTo r'.name r'.place? = true) : r.name = r'.name := by
  cases parameter with
  | name n =>
    rw [← beq_iff_eq.mp h]
    exact beq_iff_eq.mp h'
  | path place =>
    rw [name_of_mem_responseValues hr (beq_iff_eq.mp h),
      name_of_mem_responseValues hr' (beq_iff_eq.mp h')]

/-- The collected responses are the values of the responses of all requests that count. -/
lemma responses_eq_flatMap (hc : (s.collect i).2 = .ok c) :
    c.responses = i.distinct.flatMap s.responseValues := by
  obtain ⟨parts, hparts, rfl⟩ := collect_eq_ok_iff.mp hc
  have hvalues : parts.map Collection.responses = i.distinct.map s.responseValues := by
    refine map_eq_of_mapM hparts fun e part hpart => ?_
    obtain ⟨-, cs, rs, bs, -, hrs, -, rfl⟩ := collectEntry_eq_ok_iff.mp hpart
    exact eq_responseValues hrs
  rw [Collection.listed, Collection.responses_join, List.flatMap_def, List.flatMap_def, hvalues]

/-- Of the collected responses, those of one request are its values. -/
lemma filter_responses (hc : (s.collect i).2 = .ok c) (he : e ∈ i.distinct) {request : RequestId}
    (hid : (e.id == request) = true) :
    c.responses.filter (fun r => r.request == request) = s.responseValues e := by
  have hown : (s.responseValues e).filter (fun r => r.request == request) =
      s.responseValues e := by
    refine List.filter_eq_self.mpr fun r hr => ?_
    rw [request_of_mem_responseValues hr]
    exact hid
  have hother : ∀ l : List RequestEntry, (∀ a ∈ l, RequestEntry.Differ e a) →
      l.flatMap (fun a => (s.responseValues a).filter fun r => r.request == request) = [] := by
    intro l hl
    refine List.flatMap_eq_nil_iff.mpr fun a ha => List.filter_eq_nil_iff.mpr fun r hr => ?_
    have hdiffer := hl a ha
    rw [RequestEntry.Differ, BEq.congr_left hid, BEq.comm] at hdiffer
    rw [request_of_mem_responseValues hr, hdiffer]
    exact Bool.false_ne_true
  -- no other request that counts has this identity
  obtain ⟨before, after, hsplit⟩ := List.append_of_mem he
  have hdistinct : i.distinct.Pairwise RequestEntry.Differ :=
    RequestEntry.pairwise_distinctFrom [] i.requests
  rw [hsplit, List.pairwise_append, List.pairwise_cons] at hdistinct
  obtain ⟨-, ⟨hafter, -⟩, hbefore⟩ := hdistinct
  have hbefore' : ∀ a ∈ before, RequestEntry.Differ e a := fun a ha =>
    Std.Symm.symm a e (hbefore a ha e List.mem_cons_self)
  rw [responses_eq_flatMap hc, List.filter_flatMap, hsplit, List.flatMap_append,
    List.flatMap_cons, hother before hbefore', hother after hafter, hown, List.nil_append,
    List.append_nil]

/-! ## The look-up of a directive -/

/-- The values of the response of a request that a parameter refers to, the resource of the consumer
aside, in the order of their places, names and kinds. -/
def answers (s : Setup) (e : RequestEntry) (parameter : ParameterRef) (x : Consumer) :
    List Resource :=
  sortOn Resource.sortKey
    ((s.responseValues e).filter fun r => parameter.refersTo r.name r.place? && r != x.resource)

end Setup

namespace ProducerIndex

/-- The look-up by name or place finds the first response of the request, by name, that the
parameter refers to. -/
lemma find?_responsesOf (index : ProducerIndex) (request : RequestId) (parameter : ParameterRef)
    (own : Resource) :
    (index.responsesOf request parameter.name? parameter.place?).find? (· != own) =
      (sortOn Resource.name (index.responses.filter fun r => r.request == request)).find?
        fun r => parameter.refersTo r.name r.place? && r != own := by
  have htest : ∀ r : Resource, (parameter.name?.all (r.name == ·) &&
      parameter.place?.all fun p => r.place? == some p) = parameter.refersTo r.name r.place? := by
    intro r
    cases parameter with
    | name n =>
      show ((r.name == n) && true) = (n == r.name)
      rw [Bool.and_true, BEq.comm]
    | path p => rfl
  have hrespects : ∀ a b : Resource, (a == b) = true →
      (parameter.refersTo a.name a.place? && a != own) =
        (parameter.refersTo b.name b.place? && b != own) := by
    intro a b hab
    rw [Resource.name, Resource.name, Resource.reference_eq_of_beq hab,
      Resource.place?_eq_of_beq hab, bne, bne, BEq.congr_left hab]
  rw [responsesOf, List.find?_filter, ← find?_dropRepeats hrespects]
  simp only [htest, Bool.decide_and, Bool.decide_eq_true]

end ProducerIndex

namespace Setup

variable {s : Setup} {i : Interface} {c : Collection} {d : Dictionary} {e : RequestEntry}
  {x : Consumer}

/-- A directive is answered by the first value of the response of its producer that its parameter
refers to. -/
theorem namedResponse?_settings (hc : (s.collect i).2 = .ok c) (he : e ∈ i.distinct)
    {a : Directive} (hid : (e.id == a.producer) = true) (parameter : ParameterRef) :
    x.namedResponse? (s.settings i c d) a parameter = (s.answers e parameter x).head? := by
  have hvalues : (s.settings i c d).index.responses.filter (fun r => r.request == a.producer) =
      sortOn Resource.sortKey (s.responseValues e) := by
    rw [responses_settings, ← sortOn_filter, filter_responses hc he hid]
  have hanswers : (sortOn Resource.sortKey (s.responseValues e)).filter
      (fun r => parameter.refersTo r.name r.place? && r != x.resource) =
        s.answers e parameter x := by
    rw [answers, sortOn_filter]
  -- all that is left has one name, so that sorting by names changes nothing
  have hnames : (s.answers e parameter x).Pairwise fun r r' =>
      (compareOn Resource.name r r').isLE := by
    refine List.pairwise_of_forall_mem_list fun r hr r' hr' => ?_
    obtain ⟨hmem, htest⟩ := List.mem_filter.mp (mem_sortOn.mp hr)
    obtain ⟨hmem', htest'⟩ := List.mem_filter.mp (mem_sortOn.mp hr')
    rw [Bool.and_eq_true] at htest htest'
    rw [compareOn, name_eq_of_refersTo hmem hmem' htest.1 htest'.1, Std.ReflOrd.compare_self]
    rfl
  rw [Consumer.namedResponse?, ProducerIndex.find?_responsesOf, hvalues, ← List.head?_filter,
    ← sortOn_filter, hanswers, sortOn_eq_sortBy, sortBy_eq_self hnames]

end Setup

/-! ## What is bound in the end -/

/-- The consumer has a dependency in the result, and is bound to the producer in all that it has. -/
def Extraction.Binds (result : Extraction) (x : Consumer) (p : Producer) : Prop :=
  (∃ dep ∈ result.all, dep.consumer = x) ∧
    ∀ dep ∈ result.all, dep.consumer = x → dep.producer = some p

namespace Setup

variable {s : Setup} {i : Interface} {c : Collection} {d : Dictionary} {x : Consumer}

/-- A producer that the strategies found stays in the result, unless it is an input that a directive
named. -/
theorem binds_of_resolve (hc : (s.collect i).2 = .ok c) {groups : DependencyGroups}
    (hgroups : DependencyGroups.ofList (Dependency.aliasInputs (s.mirrored i c d).dependencies) =
      .ok groups) (hx : x ∈ c.consumers) {p : Producer}
    (hp : (x.resolve (s.settings i c d) (s.writers i c d).dictionary).1.producer = some p)
    (hkept : ∀ input, p ≠ .inputOnly input .directive) :
    (s.assembled i c d groups).Binds x p := by
  rw [Extraction.Binds, all_assembled hc hgroups]
  -- the pass over mirrored properties only binds consumers for which nothing was found
  have hfound : ∀ dep ∈ (s.mirrored i c d).dependencies, dep.consumer = x →
      dep.producer = some p := by
    rintro dep hdep rfl
    rcases main_or_isBound_of_mem_mirrored hdep with hmain | ⟨hunbound, -⟩
    · rw [(mem_dependencies_main_iff.mp hmain).2, hp]
    · have hnone := (mem_dependencies_main_iff.mp hunbound).2
      rw [hp] at hnone
      cases hnone
  constructor
  · obtain ⟨dep, hdep, rfl⟩ := exists_mem_mirrored s i d hx
    exact ⟨_, Dependency.aliased_mem_aliasInputs hdep, Dependency.consumer_aliased _ dep⟩
  · intro _ hall hconsumer
    rw [Dependency.aliasInputs_eq] at hall
    obtain ⟨dep, hdep, rfl⟩ := List.mem_map.mp hall
    rw [Dependency.consumer_aliased] at hconsumer
    have hproducer := hfound dep hdep hconsumer
    have hself : Dependency.aliased (s.mirrored i c d).dependencies dep = dep := by
      refine Dependency.aliased_eq_self fun input hinput => ?_
      rw [hproducer] at hinput
      exact hkept input (Option.some.inj hinput)
    rw [hself, hproducer]

/-- The directive of a consumer is the first one that applies to it, and if its parameter refers to
a value of the response of its producer, other than the consumer's own resource, the consumer is
bound to the first such value.  Of entries with one request only the first is looked at, as in
`Interface.distinct`. -/
theorem directive_binds {result : Extraction} (hresult : (s.extract i d).2 = .ok result)
    (hx : x ∈ result.consumers) :
    (∃ e ∈ i.distinct, x.request = e.id ∧
        x.directive = (s.scopedDirectives e).find? fun m =>
          m.directive.appliesTo x.request x.name x.resource.place?) ∧
      ∀ m parameter, x.directive = some m → m.directive.takenParameter = some parameter →
        ∀ e ∈ i.distinct, (e.id == m.directive.producer) = true →
          (∃ v ∈ s.responseValues e, parameter.refersTo v.name v.place? = true ∧
            (v == x.resource) = false) →
          ∃ r, (s.answers e parameter x).head? = some r ∧ result.Binds x (.response r) := by
  obtain ⟨c, groups, hc, hgroups, rfl⟩ := extract_eq_ok_iff.mp hresult
  refine ⟨directive_eq_find? hc hx, ?_⟩
  rintro m parameter hdirective htaken e he hid ⟨v, hv, hrefers, hother⟩
  have hmem : v ∈ s.answers e parameter x := by
    refine mem_sortOn.mpr (List.mem_filter.mpr ⟨hv, ?_⟩)
    rw [hrefers, bne, hother]
    rfl
  -- the value is among the answers, so there is a first one
  cases hhead : (s.answers e parameter x).head? with
  | none =>
    rw [List.head?_eq_none_iff.mp hhead] at hmem
    exact absurd hmem List.not_mem_nil
  | some r =>
    refine ⟨r, rfl, binds_of_resolve hc hgroups hx ?_ fun _ => Producer.noConfusion⟩
    have hanswer : x.namedResponse? (s.settings i c d) m.directive parameter = some r := by
      rw [namedResponse?_settings hc he hid, hhead]
    refine Consumer.resolve_producer_of_named? ?_
    rw [Consumer.named?, hdirective, Option.bind_some, htaken, Option.bind_some, hanswer]
    rfl

end Setup

/-! ## A key with a payload of its own -/

namespace Interface

/-- Opening a session returns a `token`, and another one inside the `session`. -/
def openSession : RequestEntry where
  id := { endpoint := "/sessions", method := .post }
  data := {
    responseBody := some (.internal "" .object true false [
      (stringParameter "token").payload,
      .internal "session" .object true false [(stringParameter "token").payload]]) }

/-- Reports are read with a `key`, which a directive takes from sessions. -/
def answeredReports : Interface where
  requests := [
    openSession,
    { id := { endpoint := "/reports", method := .get }
      data := {
        queryParameters := [stringParameter "key"]
        localDirectives := [keyDirective] } }]

/-- The `token` inside the `session`. -/
def innerToken : Resource :=
  .situated .output { endpoint := "/sessions", method := .post } (.ofPlace ⟨["session", "token"]⟩)
    (Convention.infer "token") .string

end Interface

namespace Setup

open Interface

/-- A dictionary with a payload for the `key`. -/
def withKey : Dictionary where
  queryPayloads := .ofList [("key", ["k"])]

/-- The `key` of reports is the only consumer. -/
lemma extract_answeredReports :
    ∃ result, (({} : Setup).extract answeredReports withKey).2 = .ok result ∧
      result.consumers = [reportKey] :=
  ⟨_, rfl, rfl⟩

/-- The `key` is bound to the `token` that comes first, although the dictionary has a payload for
it. -/
theorem binds_reportKey :
    ∃ result, (({} : Setup).extract answeredReports withKey).2 = .ok result ∧
      result.Binds reportKey (.response innerToken) := by
  obtain ⟨result, hresult, hconsumers⟩ := extract_answeredReports
  have hkey : reportKey ∈ result.consumers := by
    rw [hconsumers]
    exact List.mem_cons_self
  have hentry : openSession ∈ answeredReports.distinct := List.mem_cons_self
  have hvalue : innerToken ∈ ({} : Setup).responseValues openSession :=
    List.mem_cons_of_mem _ List.mem_cons_self
  obtain ⟨r, hfirst, hbinds⟩ := (directive_binds hresult hkey).2 ⟨.request, keyDirective⟩
    (.name "token") rfl rfl openSession hentry BEq.rfl ⟨innerToken, hvalue, rfl, rfl⟩
  have hinner : (({} : Setup).answers openSession (.name "token") reportKey).head? =
      some innerToken := rfl
  rw [hinner] at hfirst
  rw [← Option.some.inj hfirst] at hbinds
  exact ⟨result, hresult, hbinds⟩

end Setup

end RestFlow
