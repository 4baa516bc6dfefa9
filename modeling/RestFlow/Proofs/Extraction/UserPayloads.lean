import RestFlow.Proofs.Extraction.Directives

/-!
# Payloads of dictionaries come before inference

A dictionary has a payload for a consumer under the pointer of its place, or else under its name
(`Consumer.HasPayload`).  Under either key a payload for headers or for queries comes before those
for all parameters (`Dictionary.HasPayload`).

A consumer without a directive is bound to the payload that the dictionary of its endpoint has for
it, or else, unless this dictionary has a uuid suffix for a writer, to the one in the dictionary of
the run (`Setup.binds_payload`).  The suffixes that the latter gains in the meantime do not matter.
-/

namespace RestFlow

namespace Dictionary

variable {d : Dictionary} {kind : ParameterKind} {key : String} {type : PrimitiveType}
  {p : DictionaryPayload}

/-- The dictionary has a payload under the key for parameters of the kind alone. -/
def HasSpecific (d : Dictionary) (kind : ParameterKind) (key : String) : Prop :=
  kind = .header ∧ d.headerPayloads.contains key = true ∨
    kind = .query ∧ d.queryPayloads.contains key = true

/-- The payload that the dictionary has under the key for parameters of the kind.  Payloads for
headers or queries come first, and unquoted ones before quoted ones. -/
inductive HasPayload (d : Dictionary) (kind : ParameterKind) (key : String) (type : PrimitiveType) :
    DictionaryPayload → Prop
  | header (hkind : kind = .header) (hkey : d.headerPayloads.contains key = true) :
    HasPayload d kind key type ⟨.header, type, key, false⟩
  | query (hkind : kind = .query) (hkey : d.queryPayloads.contains key = true) :
    HasPayload d kind key type ⟨.query, type, key, false⟩
  | unquoted (hgeneral : ¬d.HasSpecific kind key)
    (hkey : d.unquotedPayloads.contains key = true) :
    HasPayload d kind key type ⟨.string, type, key, true⟩
  | quoted (hgeneral : ¬d.HasSpecific kind key) (hunquoted : d.unquotedPayloads.contains key = false)
    (hkey : d.payloads.contains key = true) :
    HasPayload d kind key type ⟨.string, type, key, false⟩

end Dictionary

namespace Consumer

variable {x : Consumer} {d : Dictionary} {p : DictionaryPayload}

/-- The payload that the dictionary has for the consumer: under the pointer of its place, if the
consumer is in a body and there is such a payload, and otherwise under its name. -/
inductive HasPayload (x : Consumer) (d : Dictionary) : DictionaryPayload → Prop
  | byPlace {place : AccessPath} {p : DictionaryPayload} (hplace : x.resource.place? = some place)
    (hpayload : d.HasPayload x.kind place.pointer x.resource.type p) : HasPayload x d p
  | byName {p : DictionaryPayload}
    (hplace : ∀ place, x.resource.place? = some place →
      ∀ q, ¬d.HasPayload x.kind place.pointer x.resource.type q)
    (hpayload : d.HasPayload x.kind x.name x.resource.type p) : HasPayload x d p

/-- The look-up in the payloads for some parameters and in those for all finds the payload that the
dictionary has. -/
lemma findPayload_eq_some_iff {key : String} {type : PrimitiveType} :
    d.findPayload x.customKind key type = some p ↔ d.HasPayload x.kind key type p := by
  have hspecific : (d.specificPayloads x.customKind).contains key = true ↔
      d.HasSpecific x.kind key := by
    rw [Dictionary.HasSpecific, customKind]
    cases x.kind <;> simp [Dictionary.specificPayloads, SortedMap.contains]
  -- the tables are looked through in the order of the constructors of `HasPayload`
  rw [Dictionary.findPayload]
  constructor
  · intro h
    split at h
    · rename_i hkey
      rw [← Option.some.inj h, customKind]
      rcases hspecific.mp hkey with ⟨hkind, hheader⟩ | ⟨hkind, hquery⟩
      · rw [hkind]
        exact .header rfl hheader
      · rw [hkind]
        exact .query rfl hquery
    · rename_i hother
      have hgeneral := mt hspecific.mpr hother
      split at h
      · rename_i hunquoted
        rw [← Option.some.inj h]
        exact .unquoted hgeneral hunquoted
      · rename_i hunquoted
        split at h
        · rename_i hquoted
          rw [← Option.some.inj h]
          exact .quoted hgeneral (Bool.eq_false_iff.mpr hunquoted) hquoted
        · cases h
  · intro h
    cases h with
    | header hkind hkey =>
      rw [if_pos (hspecific.mpr (.inl ⟨hkind, hkey⟩)), customKind, hkind]
      rfl
    | query hkind hkey =>
      rw [if_pos (hspecific.mpr (.inr ⟨hkind, hkey⟩)), customKind, hkind]
      rfl
    | unquoted hgeneral hkey =>
      rw [if_neg (mt hspecific.mp hgeneral), if_pos hkey]
    | quoted hgeneral hunquoted hkey =>
      rw [if_neg (mt hspecific.mp hgeneral), if_neg (Bool.eq_false_iff.mp hunquoted), if_pos hkey]

/-- The look-up by place and then by name finds the payload that the dictionary has for the
consumer. -/
lemma payload?_eq_some_iff : x.payload? d = some p ↔ x.HasPayload d p := by
  have hplace : ∀ q, (x.resource.place?.bind fun place =>
        d.findPayload x.customKind place.pointer x.resource.type) = some q ↔
      ∃ place, x.resource.place? = some place ∧
        d.HasPayload x.kind place.pointer x.resource.type q := by
    intro q
    simp only [Option.bind_eq_some_iff, findPayload_eq_some_iff]
  rw [payload?, Option.or_eq_some_iff, hplace, Option.eq_none_iff_forall_ne_some]
  -- the name is looked up only where the place leads to nothing
  constructor
  · rintro (⟨place, hsome, hpayload⟩ | ⟨hnone, hname⟩)
    · exact .byPlace hsome hpayload
    · refine .byName (fun place hsome q hq => ?_) (findPayload_eq_some_iff.mp hname)
      exact hnone q ((hplace q).mpr ⟨place, hsome, hq⟩)
  · intro h
    cases h with
    | byPlace hsome hpayload => exact .inl ⟨_, hsome, hpayload⟩
    | byName hnone hpayload =>
      refine .inr ⟨fun q hq => ?_, findPayload_eq_some_iff.mpr hpayload⟩
      obtain ⟨place, hsome, hq⟩ := (hplace q).mp hq
      exact hnone place hsome q hq

/-- The dictionary of the endpoint, if there is one, leaves the consumer to the dictionary of the
run: it has no payload for it, and no uuid suffix if the consumer is a writer. -/
def IsPassedOn (x : Consumer) (dictionaries : EndpointDictionaries) : Prop :=
  ∀ own, dictionaries.at? x.request.endpoint = some own →
    (∀ p, ¬x.HasPayload own p) ∧
      (x.isWriter = true → own.uuidSuffixes.contains x.name = false)

/-- A payload in the dictionary of the endpoint is the entry for the consumer. -/
lemma entryAmong_of_own {around : Surroundings} {own : Dictionary}
    (hown : around.endpointDictionaries.at? x.request.endpoint = some own)
    (hpayload : x.HasPayload own p) : x.entryAmong around d = some p := by
  rw [entryAmong_eq, ownEntry, hown, Option.bind_some, entryIn_eq,
    payload?_eq_some_iff.mpr hpayload, Option.some_or, Option.some_or]

/-- A payload in the dictionary of the run is the entry for a consumer that is passed on, also in a
dictionary that has grown. -/
lemma entryAmong_of_isPassedOn {around : Surroundings} {d' : Dictionary}
    (hpassed : x.IsPassedOn around.endpointDictionaries) (hpayload : x.HasPayload d p)
    (hgrows : d.Grows d') : x.entryAmong around d' = some p := by
  have hown : x.ownEntry around = none := by
    rw [ownEntry, Option.bind_eq_none_iff]
    intro own hat
    obtain ⟨hnone, hsuffix⟩ := hpassed own hat
    have hpayload? : x.payload? own = none :=
      Option.eq_none_iff_forall_ne_some.mpr fun q hq => hnone q (payload?_eq_some_iff.mp hq)
    rw [entryIn_eq, hpayload?, Option.none_or]
    split
    · rename_i hwriter
      rw [Dictionary.findSuffix, hsuffix hwriter]
      rfl
    · rfl
  rw [entryAmong_eq, hown, Option.none_or, entryIn_eq, payload?_eq_of_grows hgrows,
    payload?_eq_some_iff.mpr hpayload, Option.some_or]

end Consumer

namespace Setup

variable {s : Setup} {i : Interface} {d : Dictionary} {result : Extraction} {x : Consumer}

/-- A consumer without a directive is bound to the payload that the dictionary of its endpoint has
for it.  If this dictionary has none, nor a uuid suffix in case the consumer is a writer, the
consumer is bound to the payload that the dictionary given to the run has for it. -/
theorem binds_payload (hresult : (s.extract i d).2 = .ok result) (hx : x ∈ result.consumers)
    (hdirective : x.directive = none) :
    (∀ own p, s.endpointDictionaries.at? x.request.endpoint = some own → x.HasPayload own p →
        result.Binds x (.dictionary p)) ∧
      ∀ p, x.IsPassedOn s.endpointDictionaries → x.HasPayload d p →
        result.Binds x (.dictionary p) := by
  obtain ⟨c, groups, hc, hgroups, rfl⟩ := extract_eq_ok_iff.mp hresult
  have hnamed : x.named? (s.settings i c d) = none := by
    rw [Consumer.named?, hdirective, Option.bind_none]
  -- the strategies are asked with the suffixes of the pass over writers, which hide no payload
  have hgrows : d.Grows (s.writers i c d).dictionary := by
    rw [writers_dictionary]
    exact Consumer.grows_dictionaryAfter _ _ _
  have hbinds : ∀ p, x.entryAmong (s.settings i c d) (s.writers i c d).dictionary = some p →
      (s.assembled i c d groups).Binds x (.dictionary p) := by
    intro p hentry
    refine binds_of_resolve hc hgroups hx ?_ fun _ => Producer.noConfusion
    rw [Consumer.resolve_producer_of_named?_eq_none hnamed, hentry]
    rfl
  constructor
  · intro own p hown hpayload
    exact hbinds p (Consumer.entryAmong_of_own hown hpayload)
  · intro p hpassed hpayload
    exact hbinds p (Consumer.entryAmong_of_isPassedOn hpassed hpayload hgrows)

end Setup

/-! ### The invoice of a payment -/

namespace Interface

/-- Invoices are created and read, and a payment is made for one.  Both the invoice that is read and
the one that is paid could be taken from the response of the creation. -/
def invoicesAndPayments : Interface where
  requests := [
    { id := { endpoint := "/invoices", method := .post }
      data := {
        responseBody := some (.internal "" .object true false [(stringParameter "id").payload]) } },
    { id := { endpoint := "/invoices/\x7binvoiceId\x7d", method := .get }
      data := { pathParameters := [stringParameter "invoiceId"] } },
    { id := { endpoint := "/payments", method := .post }
      data := {
        body := some (.internal "" .object true false [(stringParameter "invoiceId").payload]) } }]

/-- The invoice that is read. -/
def readInvoice : Consumer where
  resource := .situated .input { endpoint := "/invoices/\x7binvoiceId\x7d", method := .get }
    (.ofPathParameter "invoiceId" "/invoices/\x7binvoiceId\x7d") (Convention.infer "invoiceId")
    .string
  kind := .path

/-- The invoice that is paid. -/
def paidInvoice : Consumer where
  resource := .situated .input { endpoint := "/payments", method := .post }
    (.ofPlace ⟨["invoiceId"]⟩) (Convention.infer "invoiceId") .string
  kind := .body

end Interface

namespace Setup

open Interface

/-- The endpoint at which invoices are read has an unquoted payload for them. -/
def oneInvoice : Setup where
  endpointDictionaries := .ofList [("/invoices/\x7binvoiceId\x7d",
    { unquotedPayloads := .ofList [("invoiceId", ["7"])] })]

/-- The dictionary has a payload for all invoices and another one for those of payments. -/
def anyInvoice : Dictionary where
  payloads := .ofList [("/invoiceId", ["1"]), ("invoiceId", ["2"])]

/-- There is one invoice that is paid and one that is read. -/
lemma extract_invoicesAndPayments :
    ∃ result, (oneInvoice.extract invoicesAndPayments anyInvoice).2 = .ok result ∧
      result.consumers = [paidInvoice, readInvoice] :=
  ⟨_, rfl, rfl⟩

/-- The invoice that is read has the payload of its endpoint, and the one that is paid has the
payload for its place, which comes before the one for its name. -/
theorem binds_payload_invoiceId :
    ∃ result, (oneInvoice.extract invoicesAndPayments anyInvoice).2 = .ok result ∧
      result.Binds readInvoice (.dictionary ⟨.string, .string, "invoiceId", true⟩) ∧
      result.Binds paidInvoice (.dictionary ⟨.string, .string, "/invoiceId", false⟩) := by
  obtain ⟨result, hresult, hconsumers⟩ := extract_invoicesAndPayments
  have hread : readInvoice ∈ result.consumers := by
    rw [hconsumers]
    exact List.mem_cons_of_mem _ List.mem_cons_self
  have hpaid : paidInvoice ∈ result.consumers := by
    rw [hconsumers]
    exact List.mem_cons_self
  refine ⟨result, hresult, ?_, ?_⟩
  · refine (binds_payload hresult hread rfl).1 _ _ rfl (.byName ?_ (.unquoted ?_ rfl))
    · intro place hplace
      cases hplace
    · rintro (⟨hkind, -⟩ | ⟨hkind, -⟩) <;> cases hkind
  · refine (binds_payload hresult hpaid rfl).2 _ ?_ (.byPlace rfl (.quoted ?_ rfl rfl))
    · intro own hown
      cases hown
    · rintro (⟨hkind, -⟩ | ⟨hkind, -⟩) <;> cases hkind

end Setup

end RestFlow
